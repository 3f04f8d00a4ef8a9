import DeviceLink.Source

namespace DeviceLink
namespace Toml

/-!
TOML documents as they grow line by line.  A table remembers how it came about, because
that decides whether a later line may still add to it: a header names a table once,
dotted keys add to tables that no header has named, and arrays and tables written in one
piece are closed.  Reading a line means adding to the document what the line says, and a
line that adds to something closed is at fault.  When the document is complete, how its
tables came about is forgotten, and what remains is read like a record in any other
notation.
-/

/-- How a table came about.  It is forgotten when the document is complete. -/
inductive Form
  /-- Named by a header of its own. -/
  | named
  /-- On the way to a table that a header names.  A later header may still name it. -/
  | passed
  /--
  On the way to a value under a dotted key.  Further dotted keys may add to it, and a header
  may not name it.
  -/
  | dotted
  deriving DecidableEq, Repr

inductive Item
  | string (value : String)
  | integer (value : Int64)
  | float (value : Binary64)
  | bool (value : Bool)
  /-- A date, a time of day, or both, as it is spelled. -/
  | moment (spelling : String)
  | array (items : List Item)
  /-- A table that was written in one piece.  Nothing adds to it afterwards. -/
  | closed (members : List (String × Item))
  | table (form : Form) (members : List (String × Item))
  /-- The tables of an array, the newest one last. -/
  | tables (elements : List (List (String × Item)))

abbrev Members := List (String × Item)

namespace Members

def get? (members : Members) (key : String) : Option Item :=
  (members.find? fun member => member.1 = key).map Prod.snd

/--
Replace the value of a key that is there, or add it at the end.  The order of the keys stays
as it is.
-/
def put (members : Members) (key : String) (item : Item) : Members :=
  if members.any fun member => member.1 = key then
    members.map fun member => if member.1 = key then (key, item) else member
  else members ++ [(key, item)]

/--
Add a value under a new key; no value is ever replaced.  A key that is there already is an
error of the document.
-/
def insert? (key : String) (item : Item) (members : Members) : Option Members :=
  if (get? members key).isSome then none else some (members ++ [(key, item)])

/--
Change the last table of a nonempty list.  It is the one that lines after the header of an
array go into.
-/
def onLast? (change : Members → Option Members) : List Members → Option (List Members)
  | [] => none
  | [last] => (change last).map fun changed => [changed]
  | first :: rest => (onLast? change rest).map fun changed => first :: changed

/--
Add a value under a dotted key.  The parts before the last one lead through
tables that no header has named and into the newest table of an array; missing
tables are made.  The value goes into a table only if it is `extensible`.
-/
def extend? (extensible : Bool) : List String → Item → Members → Option Members
  | [], _, _ => none
  | [key], item, members => if extensible then insert? key item members else none
  | key :: rest, item, members =>
      match get? members key with
      | none => (extend? true rest item []).map fun inner => members.put key (.table .dotted inner)
      | some (.table form inner) =>
          if form = .named then none
          else (extend? (form = .dotted) rest item inner).map fun changed =>
            members.put key (.table form changed)
      | some (.tables elements) =>
          (onLast? (extend? false rest item) elements).map fun changed =>
            members.put key (.tables changed)
      | some _ => none

/--
Add a value to a table that is being written; only dotted keys have made what they extend.
Anything else under the same name ends the reading.
-/
def add? (key : List String) (item : Item) (members : Members) : Option Members :=
  extend? true key item members

/--
Change the table at a path, making the tables on the way as far as they are missing.  In an
array of tables, the path leads on into the newest one.
-/
def at? (change : Members → Option Members) : List String → Members → Option Members
  | [], members => change members
  | key :: rest, members =>
      match get? members key with
      | none => (at? change rest []).map fun inner => members.put key (.table .passed inner)
      | some (.table form inner) =>
          (at? change rest inner).map fun changed => members.put key (.table form changed)
      | some (.tables elements) =>
          (onLast? (at? change rest) elements).map fun changed => members.put key (.tables changed)
      | some _ => none

/--
The table that a header names.  It may be there already if it only was on the way to another
one.
-/
def open? (key : String) (members : Members) : Option Members :=
  match get? members key with
  | none => some (members.put key (.table .named []))
  | some (.table .passed inner) => some (members.put key (.table .named inner))
  | some _ => none

/-- One more table in the array that a header names.  The first such header makes the array. -/
def append? (key : String) (members : Members) : Option Members :=
  match get? members key with
  | none => some (members.put key (.tables [[]]))
  | some (.tables elements) => some (members.put key (.tables (elements ++ [[]])))
  | some _ => none

end Members

namespace Item

/--
The key under which a moment shows itself as a record.  Whoever reads a record finds its
spelling there.
-/
def momentKey : String := "$__toml_private_datetime"

/-- The members of anything that is a table.  A moment counts as a table with a single member. -/
def members? : Item → Option Members
  | .closed members => some members
  | .table _ members => some members
  | .moment spelling => some [(momentKey, .string spelling)]
  | _ => none

/--
The items of anything that is an array.  The tables of an array count as items like any
others.
-/
def items? : Item → Option (List Item)
  | .array items => some items
  | .tables elements => some (elements.map (.table .named))
  | _ => none

/--
The known members of a table, or the items of an array in the order of the fields.  Unknown
members are passed over.
-/
def fields? (names : List String) (item : Item) : Option (Fields Item) :=
  match item.members?, item.items? with
  | some members, _ => some (members.filter fun member => names.contains member.1)
  | none, some items => some (Fields.ofItems names items)
  | none, none => none

def string? : Item → Option String
  | .string value => some value
  | _ => none

def natural? (limit : Nat) : Item → Option Nat
  | .integer value =>
      if 0 ≤ value.toInt ∧ value.toInt < limit then some value.toInt.toNat else none
  | _ => none

def number? : Item → Option Binary64
  | .integer value => some (Binary64.ofRatio (value.toInt < 0) value.toInt.natAbs 1)
  | .float value => some value
  | _ => none

end Item

/--
Settings written in TOML, which has no spelling for "nothing".  A field is left out there by
not writing it.
-/
def source : Source Item where
  string? := Item.string?
  natural? := Item.natural?
  number? := Item.number?
  isNothing := fun _ => false
  fields? := Item.fields?
  items? := Item.items?

end Toml
end DeviceLink
