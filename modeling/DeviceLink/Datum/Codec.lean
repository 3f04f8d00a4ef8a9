import DeviceLink.Datum
import DeviceLink.Decimal.Reading
import DeviceLink.Json.Printer

namespace DeviceLink

/-!
Data as a JSON array.  Writing is lenient: only a structured value that is no JSON text
fails, and it fails the whole batch.  Reading is strict: every element must name a
declared type and carry a value of the matching kind within the limits, and the first
element that does not is reported with its position.  What the one direction writes the
other need not accept, since each has rules of its own.  The faults carry the position
of the element and its key as far as it is known, and their messages are those that the
sender is told.
-/

/--
Why one element of an array is no datum.  The constructors stand in the order in which
reading looks for them.
-/
inductive ElementFault
  | emptyIdentifier
  | longIdentifier
  | missingIdentifier
  | missingType
  | unknownType (name : String)
  | missingValue
  | mismatchedValue (type : DataType)
  | neitherStringNorObject
  deriving DecidableEq, Repr

namespace ElementFault

def message : ElementFault → String
  | emptyIdentifier => "empty identifier"
  | longIdentifier =>
      "identifier exceeds " ++ Decimal.naturalString Datum.keyLimit ++ " bytes"
  | missingIdentifier => "missing string 'identifier'"
  | missingType => "missing string 'type'"
  | unknownType name => "unknown type '" ++ name ++ "'"
  | missingValue => "missing 'value'"
  | mismatchedValue type => "value is not a valid " ++ type.name
  | neitherStringNorObject => "element is neither a string nor an object"

end ElementFault

/--
Why a JSON value is no list of data.  A fault of an element comes with its position, counted
from zero.
-/
inductive DecodeFault
  | notArray
  | element (index : Nat) (fault : ElementFault)
  | limits (index : Nat) (fault : Datum.LimitFault)
  deriving DecidableEq, Repr

namespace DecodeFault

/--
A broken limit is reported by the key alone.  Every other fault of an element names the
position as well.
-/
def message : DecodeFault → String
  | notArray => "expected a JSON array"
  | element index fault =>
      "element " ++ Decimal.naturalString index ++ ": " ++ fault.message
  | limits _ fault => fault.message

end DecodeFault

inductive CodecError
  | malformedValue (key : String) (type : DataType)
  | invalidParameter (reason : String)
  deriving DecidableEq, Repr

namespace CodecError

def message : CodecError → String
  | malformedValue key type =>
      "value of '" ++ key ++ "' is not valid JSON for a " ++ type.name ++ " field"
  | invalidParameter reason => "invalid parameter: " ++ reason

end CodecError

namespace Datum

def typeField : String := "type"

def valueField : String := "value"

def identifierField : String := "identifier"

/-! Writing. -/

/--
The integer that a text stands for; texts that are no number stand for zero.  A number with
a fraction is cut to a whole one, and one that is too large becomes the nearest integer of
the range.
-/
def integerOfText (text : String) : Int64 :=
  let trimmed := Text.trim text.toList
  match Decimal.readInt64? trimmed with
  | some value => value
  | none =>
      if trimmed = "true".toList then 1
      else if trimmed = "false".toList then 0
      else
        match (Decimal.readBinary64? trimmed).bind Binary64.finite? with
        | some x => x.toInt64
        | none => 0

/--
Whole numbers stay whole, so that their text survives; texts that are no number are zero.
Every other text stands for the nearest binary64 number, unless that is infinite.
-/
def numberOfText (text : String) : Json.Number :=
  let trimmed := Text.trim text.toList
  match Decimal.readInt64? trimmed with
  | some value => .ofInt64 value
  | none =>
      .float (((Decimal.readBinary64? trimmed).bind Binary64.finite?).getD
        (Binary64.Finite.zero false))

def encodeValue (datum : Datum) : Except CodecError Json.Value :=
  match datum.type with
  | .int | .bool | .enum => .ok (.number (.ofInt64 (integerOfText datum.value)))
  | .float | .double => .ok (.number (numberOfText datum.value))
  | .text | .date | .invalid => .ok (.string datum.value)
  | .struct | .array =>
      match Json.Value.ofText? datum.value with
      | some value => .ok value
      | none => .error (.malformedValue datum.key datum.type)

/--
The members stand in the order of their names.  The type decides whether the value is a
text, a number or an embedded document; truth values are numbers.
-/
def encodeItem (datum : Datum) : Except CodecError Json.Value :=
  match datum.encodeValue with
  | .ok value =>
      .ok (.object [(identifierField, .string datum.key), (typeField, .string datum.type.name),
        (valueField, value)])
  | .error error => .error error

def encodeItems : List Datum → Except CodecError (List Json.Value)
  | [] => .ok []
  | datum :: rest =>
      match datum.encodeItem with
      | .error error => .error error
      | .ok item =>
          match encodeItems rest with
          | .error error => .error error
          | .ok items => .ok (item :: items)

def encode (data : List Datum) : Except CodecError Json.Value :=
  match encodeItems data with
  | .ok items => .ok (.array items)
  | .error error => .error error

/-! Reading. -/

/--
A number cut to a whole one; integers keep every digit.  Beyond the range of integers, the
nearest end of the range stands for the number.
-/
def integerText? : Json.Value → Option String
  | .number (.integer value _ _) => some (Decimal.integerString value)
  | .number (.float x) => some (Decimal.integerString x.toInt64.toInt)
  | _ => none

def numberText? : Json.Value → Option String
  | .number (.integer value _ _) => some (Decimal.integerString value)
  | .number (.float x) => some (String.ofList (Decimal.plain.finiteText x))
  | _ => none

/--
The text of a value of the declared type.  There is none if the value is of another kind
than the type asks for.
-/
def textOfValue? (type : DataType) (value : Json.Value) : Option String :=
  match type with
  | .int | .enum => integerText? value
  | .bool =>
      match value with
      | .bool true => some "1"
      | .bool false => some "0"
      | other => integerText? other
  | .float | .double => numberText? value
  | .text | .date => value.string?
  | .struct | .array => some value.text
  | .invalid => none

def keyFault? (key : String) : Option ElementFault :=
  if key.isEmpty then some .emptyIdentifier
  else if keyLimit < key.utf8ByteSize then some .longIdentifier
  else none

/--
A value with its declared type, once the key has been accepted.  The limits come last and
are measured on the text that has just been made, not on the one that came in.
-/
def decodeTyped (index : Nat) (key : String) (item : Json.Value) : Except DecodeFault Datum :=
  match (item.get? typeField).bind Json.Value.string? with
  | none => .error (.element index .missingType)
  | some name =>
      match DataType.ofName? name with
      | none => .error (.element index (.unknownType name))
      | some type =>
          match item.get? valueField with
          | none => .error (.element index .missingValue)
          | some value =>
              match textOfValue? type value with
              | none => .error (.element index (.mismatchedValue type))
              | some text =>
                  match limitFault? ⟨key, type, text⟩ with
                  | some fault => .error (.limits index fault)
                  | none => .ok ⟨key, type, text⟩

/--
A string names a key; an object gives a key, a type and a value.  Anything else is no item.
The key is judged before type and value are looked at.
-/
def decodeItem (index : Nat) (item : Json.Value) : Except DecodeFault Datum :=
  match item with
  | .string key =>
      match keyFault? key with
      | some fault => .error (.element index fault)
      | none => .ok (keyOnly key)
  | .object _ =>
      match (item.get? identifierField).bind Json.Value.string? with
      | none => .error (.element index .missingIdentifier)
      | some key =>
          match keyFault? key with
          | some fault => .error (.element index fault)
          | none => decodeTyped index key item
  | _ => .error (.element index .neitherStringNorObject)

/--
Decode the items from a position on.  Nothing after the first item at fault is looked at,
and nothing of the batch is kept.
-/
def decodeFrom (index : Nat) : List Json.Value → Except DecodeFault (List Datum)
  | [] => .ok []
  | item :: rest =>
      match decodeItem index item with
      | .error fault => .error fault
      | .ok datum =>
          match decodeFrom (index + 1) rest with
          | .error fault => .error fault
          | .ok data => .ok (datum :: data)

def decode : Json.Value → Except DecodeFault (List Datum)
  | .array items => decodeFrom 0 items
  | _ => .error .notArray

end Datum

namespace DecodeFault

/--
Every fault found while reading is an invalid parameter.  The text of the fault goes along
and is what the sender may be shown.
-/
def toCodecError (fault : DecodeFault) : CodecError := .invalidParameter fault.message

end DecodeFault
end DeviceLink
