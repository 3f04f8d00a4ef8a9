import DeviceLink.Decimal.Layout

namespace DeviceLink
namespace Json

/-!
Numbers of a JSON text.  A numeral is the literal as it is spelled; a number is what the
literal stands for.  Whole literals in the range of the two word types stay exact, every
other literal becomes a binary64 number by a reading rule that keeps one word of digits
and scales it by single roundings.  The rule is that of the reader that the link uses,
not the nearest number, and the two differ in the last digit for some literals.  What is
printed for a number is its shortest decimal, so the text need not be that of the
literal it was read from.
-/

/--
A literal: its sign, its digits, and the exponent with its own sign.  A fraction or an
exponent that is there has at least one digit.
-/
structure Numeral where
  negative : Bool
  whole : List Char
  fraction : Option (List Char)
  power : Option (Bool × List Char)
  deriving DecidableEq, Repr

inductive Number
  | integer (value : Int) (low : -0x8000000000000000 ≤ value) (high : value < 0x10000000000000000)
  | float (value : Binary64.Finite)
  deriving DecidableEq, Repr

namespace Numeral

/--
Whole digits: a zero alone, or a run that does not start with zero.  What follows a zero may
be anything but another digit.
-/
def scanWhole? : List Char → Option (List Char × List Char)
  | [] => none
  | c :: rest =>
      if c = '0' then
        if (rest.head?.map Char.isDigit).getD false then none else some (['0'], rest)
      else if c.isDigit then
        some (c :: rest.takeWhile Char.isDigit, rest.dropWhile Char.isDigit)
      else none

/--
At least one digit, taking all there are.  Leading zeros are fine here, as in a fraction or
an exponent.
-/
def scanDigits? (text : List Char) : Option (List Char × List Char) :=
  let digits := text.takeWhile Char.isDigit
  if digits.isEmpty then none else some (digits, text.dropWhile Char.isDigit)

def scanFraction? : List Char → Option (Option (List Char) × List Char)
  | '.' :: rest => (scanDigits? rest).map fun found => (some found.1, found.2)
  | text => some (none, text)

/-- The sign of an exponent may be left out.  The flag says whether it was a minus. -/
def scanPowerSign : List Char → Bool × List Char
  | '-' :: rest => (true, rest)
  | '+' :: rest => (false, rest)
  | text => (false, text)

def scanPower? : List Char → Option (Option (Bool × List Char) × List Char)
  | [] => some (none, [])
  | c :: rest =>
      if c = 'e' || c = 'E' then
        let (negative, afterSign) := scanPowerSign rest
        (scanDigits? afterSign).map fun found => (some (negative, found.1), found.2)
      else some (none, c :: rest)

/--
The literal after its sign.  The whole part must be there, the fraction and the exponent may
be missing.
-/
def scanUnsigned? (negative : Bool) (text : List Char) : Option (Numeral × List Char) :=
  match scanWhole? text with
  | none => none
  | some (whole, afterWhole) =>
      match scanFraction? afterWhole with
      | none => none
      | some (fraction, afterFraction) =>
          match scanPower? afterFraction with
          | none => none
          | some (power, rest) => some (⟨negative, whole, fraction, power⟩, rest)

def scan? : List Char → Option (Numeral × List Char)
  | '-' :: rest => scanUnsigned? true rest
  | text => scanUnsigned? false text

end Numeral

namespace Number

/--
Significands stay below this limit: they fill one word of 64 bits.  Digits beyond it are not
read, and only their number is remembered.
-/
def significandLimit : Nat := 0x10000000000000000

/--
The exponents a literal may spell stay below this limit.  An exponent that is not is either
meaningless, because the number is zero in any case, or too large.
-/
def powerLimit : Nat := 0x80000000

/--
Append digits to a significand as long as it fits its word, and count the digits that are
left over from the first one that does not fit.  The digits left over count as zeros, so the
significand is cut and not rounded.
-/
def gather (significand : Nat) : List Char → Nat × Nat
  | [] => (significand, 0)
  | c :: rest =>
      let next := Nat.ofDigitChars 10 [c] significand
      if next < significandLimit then gather next rest else (significand, rest.length + 1)

/--
The largest power of ten with a binary64 value.  Larger ones are infinite, so scaling never
multiplies by them.
-/
def greatestPower : Int := 308

def powerOfTen (power : Nat) : Binary64 := Binary64.ofNat (Nat.pow 10 power)

/--
Scale by a power of ten with one rounding, going down in steps of `10 ^ 308` first where the
exponent is too small for a single factor.  A value whose power is too large is no number,
unless it is zero.
-/
def scale (value : Binary64) (power : Int) : Option Binary64 :=
  if greatestPower < power then
    if value.isZero then some value else none
  else if 0 ≤ power then
    some (value.mul (powerOfTen power.toNat))
  else if -greatestPower ≤ power then
    some (value.div (powerOfTen (-power).toNat))
  else if value.isZero then some value
  else scale (value.div (powerOfTen greatestPower.toNat)) (power + greatestPower)
termination_by (-power).toNat
decreasing_by
  simp only [greatestPower] at *
  omega

def ofFinite? : Binary64 → Option Number
  | .finite x => some (.float x)
  | _ => none

/--
A significand and an exponent of ten as a signed number; too large is no number.  The
significand is rounded before it is scaled, so the result need not be the nearest number.
-/
def ofScaled? (negative : Bool) (significand : Nat) (power : Int) : Option Number :=
  match scale (Binary64.ofNat significand) power with
  | some value => ofFinite? (if negative then value.neg else value)
  | none => none

/--
A whole literal that fits a word stays exact; minus zero is a binary64 number.  Negative
ones have to fit a signed word, and the others an unsigned one.
-/
def ofWhole? (negative : Bool) (significand : Nat) : Option Number :=
  if fits : significand < 0x10000000000000000 then
    if negative then
      if inWord : 0 < significand ∧ significand ≤ 0x8000000000000000 then
        some (.integer (-(significand : Int)) (by omega) (by omega))
      else ofScaled? true significand 0
    else some (.integer significand (by omega) (by omega))
  else ofScaled? negative significand 0

/--
The exponent of a literal, saturating to "beyond every limit".  The inner option is empty
where the number is zero whatever the exponent, and the outer one where it is too large.
-/
def powerOf? (significand : Nat) : Option (Bool × List Char) → Option (Option Int)
  | none => some (some 0)
  | some (negative, digits) =>
      let magnitude := Nat.ofDigitChars 10 digits 0
      if magnitude < powerLimit then some (some (if negative then -magnitude else magnitude))
      else if negative || significand = 0 then some none
      else none

/--
The number a literal stands for; a literal too large for binary64 stands for none.  Digits
of the fraction that were read lower the exponent, and whole digits that were left over
raise it.
-/
def ofNumeral? (numeral : Numeral) : Option Number :=
  let (head, droppedWhole) := gather 0 numeral.whole
  let fraction := numeral.fraction.getD []
  let (significand, droppedFraction) := gather head fraction
  let shift : Int := droppedWhole - ((fraction.length - droppedFraction : Nat) : Int)
  if numeral.fraction.isNone && numeral.power.isNone && droppedWhole = 0 then
    ofWhole? numeral.negative significand
  else
    match powerOf? significand numeral.power with
    | none => none
    | some none => some (.float (Binary64.Finite.zero numeral.negative))
    | some (some power) => ofScaled? numeral.negative significand (shift + power)

theorem int64_bounds (value : Int64) :
    -0x8000000000000000 ≤ value.toInt ∧ value.toInt < 0x10000000000000000 := by
  have low := value.le_toInt
  have high := value.toInt_lt
  omega

def ofInt64 (value : Int64) : Number :=
  .integer value.toInt (int64_bounds value).1 (int64_bounds value).2

/--
A number as binary64: an integer is rounded once.  Numbers that are binary64 already stay as
they are.
-/
def toBinary64 : Number → Binary64
  | .integer value _ _ => Binary64.ofRatio (value < 0) value.natAbs 1
  | .float value => .finite value

/--
A number in a JSON text: positional from `10 ^ -5` up to `10 ^ 16` with at least one
fraction digit, otherwise with an exponent; ties go to even.  The text of a binary64 number
therefore always shows that it is no integer.
-/
def layout : Decimal.Layout := ⟨.toEven, fun power => -5 ≤ power && power < 16, true⟩

def text : Number → List Char
  | .integer value _ _ => Decimal.integerText value
  | .float value => layout.finiteText value

end Number
end Json
end DeviceLink
