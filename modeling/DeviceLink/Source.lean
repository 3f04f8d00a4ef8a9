import DeviceLink.Binary64
import DeviceLink.Fields
import DeviceLink.Json.Record

namespace DeviceLink

/-!
The notations in which settings are written.  A record is read in the same way from any
of them, so settings mean the same in each.  It lists what a notation has to offer:
texts, whole numbers below a limit, numbers, records and lists, and a way to say that
there is nothing.  JSON is the notation of the link's own settings, and TOML is that of
the demonstration.
-/

/--
How a notation spells the values that settings are made of.  Each reader fails on values of
another kind.
-/
structure Source (δ : Type) where
  string? : δ → Option String
  /-- A whole number below a limit.  The limit itself is too large. -/
  natural? : Nat → δ → Option Nat
  number? : δ → Option Binary64
  /-- Whether the notation spells "nothing" here. -/
  isNothing : δ → Bool
  /-- The known fields of a record.  What a notation does about unknown fields is up to it. -/
  fields? : List String → δ → Option (Fields δ)
  items? : δ → Option (List δ)

namespace Source

variable {δ α : Type}

/--
A text that may be left out.  Leaving it out by a word of the notation is the same as not
writing the field.
-/
def optionalString? (source : Source δ) (value : δ) : Option (Option String) :=
  if source.isNothing value then some none else (source.string? value).map some

def word64? (source : Source δ) (value : δ) : Option UInt64 :=
  (source.natural? 0x10000000000000000 value).map UInt64.ofNat

def word32? (source : Source δ) (value : δ) : Option UInt32 :=
  (source.natural? 0x100000000 value).map UInt32.ofNat

end Source

namespace Json

/-- Settings written in JSON.  Its word for nothing is null. -/
def source : Source Document where
  string? := Document.string?
  natural? := Document.natural?
  number? := Document.number?
  isNothing := fun document =>
    match document with
    | .null => true
    | _ => false
  fields? := Record.ofDocument?
  items? := fun document =>
    match document with
    | .array items => some items
    | _ => none

end Json
end DeviceLink
