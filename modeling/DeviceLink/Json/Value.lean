import DeviceLink.Json.Document

namespace DeviceLink
namespace Json

/-!
JSON values.  An object lists its members in the order of their names with each name
once; `insert` keeps that order and lets the last value of a name win.  Reading a value
from a document converts every literal and allows a limited number of nested arrays and
objects.  The order of the names is that of their characters, so two texts that list the
same members in different orders have the same value.  The limit on nesting is one of
the reader, and a value itself may be of any depth.
-/

inductive Value
  | null
  | bool (value : Bool)
  | number (value : Number)
  | string (value : String)
  | array (items : List Value)
  | object (members : List (String × Value))
  deriving BEq

/--
The members of an object.  Only lists in the order of the names are ever built, though the
type allows others.
-/
abbrev Members := List (String × Value)

namespace Members

/--
Set the value of a name, keeping the members in the order of their names.  An earlier value
of the name is replaced.
-/
def insert (name : String) (value : Value) : Members → Members
  | [] => [(name, value)]
  | (other, current) :: rest =>
      if name < other then (name, value) :: (other, current) :: rest
      else if name = other then (name, value) :: rest
      else (other, current) :: insert name value rest

def get? (members : Members) (name : String) : Option Value :=
  (members.find? fun member => member.1 = name).map Prod.snd

/--
Members in any order and with repeated names; of a repeated name the last one counts.  The
result depends on the last values only, and not on where they stood.
-/
def ofList (entries : List (String × Value)) : Members :=
  entries.foldl (fun members entry => insert entry.1 entry.2 members) []

/-- Set every entry of `others`.  They win over the members of the same name. -/
def insertAll (members others : Members) : Members :=
  others.foldl (fun result entry => insert entry.1 entry.2 result) members

end Members

namespace Value

def string? : Value → Option String
  | .string s => some s
  | _ => none

/-- The member of an object; other values have none.  An object has at most one of any name. -/
def get? (value : Value) (name : String) : Option Value :=
  match value with
  | .object members => Members.get? members name
  | _ => none

/--
How deeply arrays and objects nest in each other.  A value that is neither has depth zero,
and an empty array has depth one.
-/
def depth : Value → Nat
  | .array items => 1 + depthItems items
  | .object members => 1 + depthMembers members
  | _ => 0
where
  depthItems : List Value → Nat
    | [] => 0
    | item :: rest => max item.depth (depthItems rest)
  depthMembers : List (String × Value) → Nat
    | [] => 0
    | (_, value) :: rest => max value.depth (depthMembers rest)

mutual

/--
The value of a document with at most `levels` nested arrays and objects.  Every literal and
every string inside must stand for something, or the whole has no value.
-/
def ofDocument? (levels : Nat) : Document → Option Value
  | .null => some .null
  | .bool value => some (.bool value)
  | .numeral literal => (Number.ofNumeral? literal).map .number
  | .quoted pieces => (Quoted.string? pieces).map .string
  | .array items =>
      match levels with
      | 0 => none
      | inner + 1 => (ofItems? inner items).map .array
  | .object members =>
      match levels with
      | 0 => none
      | inner + 1 => (ofMembers? inner members).map fun entries => .object (Members.ofList entries)

def ofItems? (levels : Nat) : List Document → Option (List Value)
  | [] => some []
  | item :: rest =>
      match ofDocument? levels item, ofItems? levels rest with
      | some value, some values => some (value :: values)
      | _, _ => none

/--
The members in the order of the text.  Repeated names are still in it, and are settled where
the object is made.
-/
def ofMembers? (levels : Nat) :
    List (List Quoted.Piece × Document) → Option (List (String × Value))
  | [] => some []
  | (name, item) :: rest =>
      match Quoted.string? name, ofDocument? levels item, ofMembers? levels rest with
      | some key, some value, some entries => some ((key, value) :: entries)
      | _, _, _ => none

end

/--
How many arrays and objects may be open at once in a text that is read.  The limit guards
the stack of the reader and says nothing about what may be written.
-/
def nestingLimit : Nat := 127

def ofText? (text : String) : Option Value :=
  (Document.ofText? text).bind (ofDocument? nestingLimit)

end Value
end Json
end DeviceLink
