namespace DeviceLink

/-!
Records with known fields, whatever notation they are written in.  A notation offers a
small set of readers; a record is read with the fields that are given and the defaults
of those that are not.  A field that is there and cannot be read makes the whole record
unreadable, and is never replaced by its default.  A record that lists its values
without names has them in the order of its fields.
-/

/--
The fields that a record gives, unread.  Their names are known ones, and how a value is read
is up to the field.
-/
abbrev Fields (δ : Type) := List (String × δ)

namespace Fields

variable {δ α : Type}

def get? (fields : Fields δ) (name : String) : Option δ :=
  (fields.find? fun field => field.1 = name).map Prod.snd

/--
A field that must be there.  The record is unreadable without it, and so it is with an
unreadable value.
-/
def required? (fields : Fields δ) (name : String) (read : δ → Option α) : Option α :=
  (fields.get? name).bind read

/--
A field that has a default.  The default stands for a missing field only, and never for one
that cannot be read.
-/
def withDefault? (fields : Fields δ) (name : String) (read : δ → Option α) (default : α) :
    Option α :=
  match fields.get? name with
  | some value => read value
  | none => some default

/--
Items as the fields in their declared order; surplus items have no field.  Missing items at
the end leave the last fields without a value.
-/
def ofItems (names : List String) (items : List δ) : Fields δ := names.zip items

end Fields
end DeviceLink
