import DeviceLink.Decimal
import DeviceLink.Text.Blank

namespace DeviceLink
namespace Decimal

/-!
Reading numbers written by people.  An integer is an optional sign and decimal digits; a
number may also have a point, an exponent, or be one of the words for infinity and for
"not a number".  Both readers take the whole text.  They are used for the values of
device data, and they are more lenient than the numerals of JSON: a plus sign, leading
zeros and a point at either end are all taken.
-/

/--
Split off an optional sign; the flag says whether it was a minus.  At most one sign is
taken, so a second one is left to the reader of the digits.
-/
def splitSign : List Char → Bool × List Char
  | '-' :: rest => (true, rest)
  | '+' :: rest => (false, rest)
  | text => (false, text)

/--
Decimal digits, at least one, and nothing else.  Zeros in front are allowed and change
nothing.
-/
def readNatural? (text : List Char) : Option Nat :=
  if text.isEmpty || !text.all Char.isDigit then none else some (Nat.ofDigitChars 10 text 0)

def readInteger? (text : List Char) : Option Int :=
  let (negative, rest) := splitSign text
  (readNatural? rest).map fun (n : Nat) => if negative then -(n : Int) else n

/--
An integer as a signed word of 64 bits, if it fits.  There is no clamping here: what does
not fit is not read at all.
-/
def int64OfInt? (value : Int) : Option Int64 :=
  if -0x8000000000000000 ≤ value ∧ value < 0x8000000000000000 then some (Int64.ofInt value)
  else none

def readInt64? (text : List Char) : Option Int64 := (readInteger? text).bind int64OfInt?

/--
The exponent part of a number: nothing at all, or `e` and an integer.  The letter may be of
either case, and the integer may have a sign.
-/
def readExponent? : List Char → Option Int
  | [] => some 0
  | c :: rest => if c = 'e' || c = 'E' then readInteger? rest else none

/--
An unsigned number with digits on at least one side of its point.  The digits after the
point make the significand longer and the exponent smaller.
-/
def readMagnitude? (text : List Char) : Option Decimal :=
  let whole := text.takeWhile Char.isDigit
  let afterWhole := text.dropWhile Char.isDigit
  let (fraction, rest) : List Char × List Char :=
    match afterWhole with
    | '.' :: tail => (tail.takeWhile Char.isDigit, tail.dropWhile Char.isDigit)
    | tail => ([], tail)
  if whole.isEmpty && fraction.isEmpty then none
  else (readExponent? rest).map fun (power : Int) =>
    ⟨Nat.ofDigitChars 10 (whole ++ fraction) 0, power - (fraction.length : Int)⟩

/--
The words for infinity and for "not a number", in any case.  Only the sign of infinity is
kept.
-/
def readWord? (negative : Bool) (text : List Char) : Option Binary64 :=
  let word := text.map Char.toLower
  if word = "inf".toList || word = "infinity".toList then some (.infinite negative)
  else if word = "nan".toList then some .nan
  else none

def readBinary64? (text : List Char) : Option Binary64 :=
  let (negative, rest) := splitSign text
  match readMagnitude? rest with
  | some d => some (d.toBinary64 negative)
  | none => readWord? negative rest

theorem readNatural?_naturalDigits (n : Nat) : readNatural? (Nat.toDigits 10 n) = some n := by
  have all : (Nat.toDigits 10 n).all Char.isDigit = true := by
    rw [List.all_eq_true]
    intro c hc
    exact Nat.isDigit_of_mem_toDigits (by decide) (by decide) hc
  have nonempty : (Nat.toDigits 10 n).isEmpty = false := by
    rw [Nat.toDigits_eq_if (by decide)]
    split <;> simp
  simp [readNatural?, all, nonempty, Nat.ofDigitChars_toDigits]

end Decimal
end DeviceLink
