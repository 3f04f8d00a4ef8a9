import DeviceLink.Fields
import DeviceLink.Json.Value

namespace DeviceLink
namespace Json

/-!
Reading a document as a record with known fields.  A record is written as an object,
where unknown members are passed over unread and a known member may stand only once, or
as an array of the fields in their declared order, where fields at the end may be left
out.  Both forms come with the notation; which of them a sender uses makes no difference
to the record.  The readers of single fields are here too: strings, whole numbers in a
range, numbers of any kind, and fields that may be null.
-/

/--
The known fields that a document gives, unread.  A value in it has been checked for its form
alone.
-/
abbrev Record := Fields Document

namespace Record

/--
The known members of an object; names must be readable even where members are unknown.  A
known name that comes twice makes the whole unreadable.
-/
def ofMembers? (fields : List String) : List (List Quoted.Piece × Document) → Option Record
  | [] => some []
  | (pieces, value) :: rest =>
      match Quoted.string? pieces, ofMembers? fields rest with
      | some name, some found =>
          if fields.contains name then
            if found.any fun member => member.1 = name then none else some ((name, value) :: found)
          else some found
      | _, _ => none

def ofDocument? (fields : List String) : Document → Option Record
  | .object members => ofMembers? fields members
  | .array items =>
      if items.length ≤ fields.length then some (Fields.ofItems fields items) else none
  | _ => none

end Record

namespace Document

/--
A field that may be left out by writing `null`.  Such a field may be missing as well, and
both mean the same.
-/
def nullable? (read : Document → Option α) : Document → Option (Option α)
  | .null => some none
  | document => (read document).map some

def string? : Document → Option String
  | .quoted pieces => Quoted.string? pieces
  | _ => none

/--
A whole literal between two bounds, both included.  A literal with a fraction or an exponent
is not whole, whatever its value.
-/
def integer? (low high : Int) : Document → Option Int
  | .numeral literal =>
      match Number.ofNumeral? literal with
      | some (.integer value _ _) => if low ≤ value ∧ value ≤ high then some value else none
      | _ => none
  | _ => none

def uint32? (document : Document) : Option UInt32 :=
  (document.integer? 0 0xFFFFFFFF).map fun value => UInt32.ofNat value.toNat

def int32? (document : Document) : Option Int32 :=
  (document.integer? (-0x80000000) 0x7FFFFFFF).map Int32.ofInt

/-- A whole number below a limit.  Minus zero is not one, since it is a binary64 number. -/
def natural? (limit : Nat) (document : Document) : Option Nat :=
  (document.integer? 0 (limit - 1)).map Int.toNat

/--
Any number; an integer is rounded to binary64.  Literals that stand for no number are not
readable.
-/
def number? : Document → Option Binary64
  | .numeral literal => (Number.ofNumeral? literal).map Number.toBinary64
  | _ => none

end Document
end Json
end DeviceLink
