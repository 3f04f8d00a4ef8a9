import DeviceLink.Decimal.Layout

namespace DeviceLink

/-!
Device data: a key, a declared type, and the value as text.  The limits on keys and
values count bytes of the UTF-8 form and hold for everything that goes onto the link in
either direction.  `ofName?` reads the nine names of types, and `limitFault?` names the
first limit that a datum exceeds.  A datum whose type is not declared can be made all
the same, as a key on its own is one, but it never comes in over the link.
-/

/--
The declared type of a datum; `invalid` stands for "no type".  An item that is a bare key
has that one, and an item that names its type never does.
-/
inductive DataType
  | int
  | bool
  | float
  | text
  | date
  | enum
  | struct
  | array
  | double
  | invalid
  deriving DecidableEq, Repr

namespace DataType

/-- The nine types that a device model may declare.  Their names are what stands in the frames. -/
def declared : List DataType :=
  [int, bool, float, text, date, enum, struct, array, double]

def name : DataType → String
  | int => "int"
  | bool => "bool"
  | float => "float"
  | text => "text"
  | date => "date"
  | enum => "enum"
  | struct => "struct"
  | array => "array"
  | double => "double"
  | invalid => "invalid"

/-- Read the name of a declared type.  The name has to be exact, down to the case of its letters. -/
def ofName? (name : String) : Option DataType := declared.find? fun type => type.name = name

/--
Read the name of any type, `invalid` included.  It serves programs that build data on their
own, where a datum may be one that no frame could carry.
-/
def ofAnyName? (name : String) : Option DataType :=
  (declared ++ [invalid]).find? fun type => type.name = name

/--
Values of these types are embedded JSON texts.  They are the ones that writing can refuse,
since their text need not be JSON.
-/
def isStructured : DataType → Bool
  | struct => true
  | array => true
  | _ => false

theorem mem_declared_iff (type : DataType) : type ∈ declared ↔ type ≠ invalid := by
  cases type <;> decide

theorem ofName?_name {type : DataType} (h : type ≠ invalid) : ofName? type.name = some type := by
  cases type with
  | invalid => exact absurd rfl h
  | int | bool | float | text | date | enum | struct | array | double => decide

end DataType

structure Datum where
  key : String
  type : DataType
  value : String
  deriving DecidableEq, Repr

namespace Datum

/-- The longest key, in bytes.  A key of exactly this length is still accepted. -/
def keyLimit : Nat := 64

/--
The longest value, in bytes.  What is measured is the text, before any of its characters is
escaped for a frame.
-/
def valueLimit : Nat := 2048

/--
An unused slot.  The output of a service consists of these until the service fills some of
them.
-/
def empty : Datum := ⟨"", .invalid, ""⟩

/--
A key without type and value, as in a request for properties.  It is what a bare string
stands for among the items of a call.
-/
def keyOnly (key : String) : Datum := ⟨key, .invalid, ""⟩

def ofInt (key : String) (value : Int64) : Datum :=
  ⟨key, .int, Decimal.integerString value.toInt⟩

def ofBool (key : String) (value : Bool) : Datum := ⟨key, .bool, if value then "1" else "0"⟩

def ofDouble (key : String) (value : Binary64) : Datum :=
  ⟨key, .double, String.ofList (Decimal.plainText value)⟩

def ofText (key : String) (value : String) : Datum := ⟨key, .text, value⟩

/-- A slot with an empty key is unused.  The other two parts of the slot do not matter for that. -/
def isEmpty (datum : Datum) : Bool := datum.key.isEmpty

/--
What a datum may exceed.  The faults about a length name the key, so the sender can tell
which datum is meant.
-/
inductive LimitFault
  | emptyKey
  | longKey (key : String)
  | longValue (key : String) (bytes : Nat)
  deriving DecidableEq, Repr

def LimitFault.message : LimitFault → String
  | .emptyKey => "datum key is empty"
  | .longKey key =>
      "datum key '" ++ key ++ "' exceeds " ++ Decimal.naturalString keyLimit ++ " bytes"
  | .longValue key bytes =>
      "value of '" ++ key ++ "' is " ++ Decimal.naturalString bytes ++ " bytes (max " ++
        Decimal.naturalString valueLimit ++ ")"

/-- The first limit that a datum breaks.  The key is looked at before the value. -/
def limitFault? (datum : Datum) : Option LimitFault :=
  if datum.key.isEmpty then some .emptyKey
  else if keyLimit < datum.key.utf8ByteSize then some (.longKey datum.key)
  else if valueLimit < datum.value.utf8ByteSize then
    some (.longValue datum.key datum.value.utf8ByteSize)
  else none

def WithinLimits (datum : Datum) : Prop :=
  datum.key ≠ "" ∧ datum.key.utf8ByteSize ≤ keyLimit ∧ datum.value.utf8ByteSize ≤ valueLimit

instance (datum : Datum) : Decidable datum.WithinLimits :=
  inferInstanceAs (Decidable (_ ∧ _ ∧ _))

theorem limitFault?_eq_none_iff (datum : Datum) :
    datum.limitFault? = none ↔ datum.WithinLimits := by
  simp only [limitFault?, WithinLimits]
  by_cases empty : datum.key.isEmpty = true
  · simp [String.isEmpty_iff.mp empty]
  · have nonempty : datum.key ≠ "" := fun h => empty (String.isEmpty_iff.mpr h)
    simp only [empty, if_false, Bool.false_eq_true]
    split
    · simp
      omega
    · split
      · simp
        omega
      · simp [nonempty]
        omega

/--
The first limit broken in a batch.  One datum over a limit refuses the whole batch, and the
earliest of them is named.
-/
def firstLimitFault? (data : List Datum) : Option LimitFault := data.findSome? limitFault?

end Datum
end DeviceLink
