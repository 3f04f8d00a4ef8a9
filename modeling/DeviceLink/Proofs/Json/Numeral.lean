import DeviceLink.Decimal.Reading
import DeviceLink.Json.Numeral

namespace DeviceLink
namespace Json

/-!
Literals that are written by the rules.  A literal is scanned as itself in front of any
text that could not carry it on, and read as a text it stands for the binary64 number
nearest to its exact value.  A numeral has a sign, digits, perhaps a fraction, and
perhaps a power; `Proper` says that its digits are digits and that no zero leads them.
The scanners of the parts are described one by one, each in front of a rest that does
not begin with another digit.
-/

/-- A run of digits that is not empty.  Zeros may stand in front. -/
def IsDigits (text : List Char) : Prop := text ≠ [] ∧ ∀ c ∈ text, c.isDigit = true

/-- A text that does not begin with a digit.  A run of digits ends there. -/
def StopsDigits (rest : List Char) : Prop := ∀ c ∈ rest.head?, c.isDigit = false

theorem takeWhile_digits {digits rest : List Char} (all : ∀ c ∈ digits, c.isDigit = true)
    (stops : StopsDigits rest) : (digits ++ rest).takeWhile Char.isDigit = digits := by
  rw [List.takeWhile_append_of_pos all]
  cases rest with
  | nil => simp
  | cons c rest => simp [stops c rfl]

theorem dropWhile_digits {digits rest : List Char} (all : ∀ c ∈ digits, c.isDigit = true)
    (stops : StopsDigits rest) : (digits ++ rest).dropWhile Char.isDigit = rest := by
  rw [List.dropWhile_append_of_pos all]
  cases rest with
  | nil => rfl
  | cons c rest => simp [stops c rfl]

namespace Numeral

/--
Whether a character could carry a numeral on.  Signs could only do so behind an exponent
mark.
-/
def continues (c : Char) : Bool := c.isDigit || c = '.' || c = 'e' || c = 'E'

/-- A text in front of which a numeral ends.  The empty text is one. -/
def Ends (rest : List Char) : Prop := ∀ c ∈ rest.head?, continues c = false

theorem ends_nil : Ends [] := by
  intro c found
  cases found

theorem ends_cons {c : Char} (apart : continues c = false) (rest : List Char) :
    Ends (c :: rest) := by
  intro other found
  cases found
  exact apart

theorem Ends.stops {rest : List Char} (ends : Ends rest) : StopsDigits rest := by
  intro c found
  have apart := ends c found
  simp only [continues, Bool.or_eq_false_iff] at apart
  exact apart.1.1.1

def fractionText : Option (List Char) → List Char
  | none => []
  | some digits => '.' :: digits

/-- An exponent is written with its sign.  It may be missing altogether. -/
def powerText : Option (Bool × List Char) → List Char
  | none => []
  | some (negative, digits) => 'e' :: (if negative then '-' else '+') :: digits

/-- A literal as it is written.  Each part stands where the scanner looks for it. -/
def text (numeral : Numeral) : List Char :=
  Decimal.signText numeral.negative ++
    (numeral.whole ++ (fractionText numeral.fraction ++ powerText numeral.power))

/--
The rules for the digits of a literal.  Literals that were scanned keep them, and so do
those that are made for numbers.
-/
structure Proper (numeral : Numeral) : Prop where
  whole : IsDigits numeral.whole
  /--
  Whole digits begin with a zero only if they are a zero alone.  A literal like that would
  be scanned as two.
  -/
  leading : numeral.whole.head? = some '0' → numeral.whole = ['0']
  fraction : ∀ digits ∈ numeral.fraction, IsDigits digits
  power : ∀ part ∈ numeral.power, IsDigits part.2

section

variable {numeral : Numeral} {rest : List Char}

theorem stops_powerText (power : Option (Bool × List Char)) (stops : StopsDigits rest) :
    StopsDigits (powerText power ++ rest) := by
  cases power with
  | none => exact stops
  | some part =>
      intro c found
      cases found
      rfl

theorem stops_fractionText (fraction : Option (List Char)) (stops : StopsDigits rest) :
    StopsDigits (fractionText fraction ++ rest) := by
  cases fraction with
  | none => exact stops
  | some digits =>
      intro c found
      cases found
      rfl

theorem scanWhole?_digits {whole : List Char} (digits : IsDigits whole)
    (leading : whole.head? = some '0' → whole = ['0']) (stops : StopsDigits rest) :
    scanWhole? (whole ++ rest) = some (whole, rest) := by
  rcases digits with ⟨nonempty, digits⟩
  cases whole with
  | nil => exact absurd rfl nonempty
  | cons c others =>
      by_cases zero : c = '0'
      · subst zero
        cases leading rfl
        cases rest with
        | nil => rfl
        | cons next rest =>
            have apart : next.isDigit = false := stops next rfl
            simp [scanWhole?, apart]
      · have first : c.isDigit = true := digits c List.mem_cons_self
        have later : ∀ c ∈ others, c.isDigit = true := fun c inside =>
          digits c (List.mem_cons_of_mem _ inside)
        simp only [List.cons_append, scanWhole?, zero, first, if_false, if_true,
          takeWhile_digits later stops, dropWhile_digits later stops]

theorem scanDigits?_digits {digits : List Char} (proper : IsDigits digits)
    (stops : StopsDigits rest) : scanDigits? (digits ++ rest) = some (digits, rest) := by
  have nonempty : digits.isEmpty = false := by
    cases digits with
    | nil => exact absurd rfl proper.1
    | cons c digits => rfl
  simp only [scanDigits?, takeWhile_digits proper.2 stops, dropWhile_digits proper.2 stops,
    nonempty, Bool.false_eq_true, if_false]

theorem scanFraction?_text {fraction : Option (List Char)}
    (proper : ∀ digits ∈ fraction, IsDigits digits) (stops : StopsDigits rest)
    (pointless : rest.head? ≠ some '.') :
    scanFraction? (fractionText fraction ++ rest) = some (fraction, rest) := by
  cases fraction with
  | none =>
      rw [fractionText, List.nil_append, scanFraction?]
      rintro tail rfl
      exact pointless rfl
  | some digits =>
      rw [fractionText, List.cons_append, scanFraction?, scanDigits?_digits (proper _ rfl) stops,
        Option.map_some]

theorem scanPower?_text {power : Option (Bool × List Char)}
    (proper : ∀ part ∈ power, IsDigits part.2) (ends : Ends rest) :
    scanPower? (powerText power ++ rest) = some (power, rest) := by
  cases power with
  | none =>
      cases rest with
      | nil => rfl
      | cons c rest =>
          have apart := ends c rfl
          simp only [continues, Bool.or_eq_false_iff, decide_eq_false_iff_not] at apart
          simp [powerText, scanPower?, apart.1.2, apart.2]
  | some part =>
      rcases part with ⟨negative, digits⟩
      have scanned : scanDigits? (digits ++ rest) = some (digits, rest) :=
        scanDigits?_digits (proper _ rfl) ends.stops
      cases negative <;> simp [powerText, scanPower?, scanPowerSign, scanned]

/--
A written literal is scanned as itself, wherever a text goes on without it.  The text behind
it is left as it is.
-/
theorem scan?_text (proper : numeral.Proper) (ends : Ends rest) :
    scan? (numeral.text ++ rest) = some (numeral, rest) := by
  rcases numeral with ⟨negative, whole, fraction, power⟩
  have stops : StopsDigits (powerText power ++ rest) := stops_powerText power ends.stops
  have pointless : (powerText power ++ rest).head? ≠ some '.' := by
    cases power with
    | none =>
        intro found
        have apart := ends '.' found
        exact absurd apart (by decide)
    | some part => exact fun found => absurd (Option.some.inj found) (by decide)
  have unsigned : scanUnsigned? negative
      (whole ++ (fractionText fraction ++ (powerText power ++ rest))) =
        some (⟨negative, whole, fraction, power⟩, rest) := by
    rw [scanUnsigned?,
      scanWhole?_digits proper.whole proper.leading (stops_fractionText fraction stops)]
    simp only [scanFraction?_text proper.fraction stops pointless,
      scanPower?_text proper.power ends]
  cases negative with
  | true => simpa [text, Decimal.signText, scan?] using unsigned
  | false =>
      have unminused : ∀ tail, whole ++ (fractionText fraction ++ (powerText power ++ rest)) ≠
          '-' :: tail := by
        intro tail same
        cases whole with
        | nil => exact absurd rfl proper.whole.1
        | cons c whole =>
            cases same
            exact absurd (proper.whole.2 '-' List.mem_cons_self) (by decide)
      simp only [text, Decimal.signText, Bool.false_eq_true, if_false, List.nil_append,
        List.append_assoc]
      rw [scan?]
      · exact unsigned
      · exact unminused

end

/-! The value of a literal. -/

/-- The exponent that a literal spells.  It may be of any size. -/
def exponent : Option (Bool × List Char) → Int
  | none => 0
  | some (negative, digits) =>
      let magnitude := Nat.ofDigitChars 10 digits 0
      if negative then -(magnitude : Int) else magnitude

/-- The magnitude of a literal, exactly.  Digits behind the point lower its exponent. -/
def decimal (numeral : Numeral) : Decimal :=
  let fraction := numeral.fraction.getD []
  ⟨Nat.ofDigitChars 10 (numeral.whole ++ fraction) 0,
    exponent numeral.power - (fraction.length : Int)⟩

/--
A literal of whole digits is an integer, unless it is minus zero.  There is one integer that
it could be.
-/
def IsInteger (numeral : Numeral) (value : Int) : Prop :=
  numeral.fraction = none ∧ numeral.power = none ∧ (numeral.negative = true → value ≠ 0) ∧
    value = if numeral.negative then -(Nat.ofDigitChars 10 numeral.whole 0 : Int)
      else Nat.ofDigitChars 10 numeral.whole 0

section

open Decimal

variable {numeral : Numeral}

theorem readNatural?_digits {digits : List Char} (proper : IsDigits digits) :
    readNatural? digits = some (Nat.ofDigitChars 10 digits 0) := by
  have nonempty : digits.isEmpty = false := by
    cases digits with
    | nil => exact absurd rfl proper.1
    | cons c digits => rfl
  have all : digits.all Char.isDigit = true := List.all_eq_true.mpr proper.2
  simp only [readNatural?, nonempty, all, Bool.not_true, Bool.or_self, Bool.false_eq_true,
    if_false]

theorem splitSign_digit {c : Char} (digit : c.isDigit = true) (rest : List Char) :
    splitSign (c :: rest) = (false, c :: rest) := by
  rw [splitSign]
  · rintro tail same
    cases same
    exact absurd digit (by decide)
  · rintro tail same
    cases same
    exact absurd digit (by decide)

/-- The sign of a literal is split off.  What is left begins with a digit. -/
theorem splitSign_text {whole : List Char} (proper : IsDigits whole) (negative : Bool)
    (rest : List Char) :
    splitSign (signText negative ++ (whole ++ rest)) = (negative, whole ++ rest) := by
  cases negative with
  | true => rfl
  | false =>
      cases whole with
      | nil => exact absurd rfl proper.1
      | cons c whole => exact splitSign_digit (proper.2 c List.mem_cons_self) _

theorem readExponent?_text {power : Option (Bool × List Char)}
    (proper : ∀ part ∈ power, IsDigits part.2) :
    readExponent? (powerText power) = some (exponent power) := by
  cases power with
  | none => rfl
  | some part =>
      rcases part with ⟨negative, digits⟩
      have read := readNatural?_digits (proper _ rfl)
      cases negative <;> simp [powerText, readExponent?, readInteger?, splitSign, read, exponent]

theorem readMagnitude?_text (proper : numeral.Proper) :
    readMagnitude? (numeral.whole ++ (fractionText numeral.fraction ++ powerText numeral.power)) =
      some numeral.decimal := by
  rcases numeral with ⟨negative, whole, fraction, power⟩
  have stops : StopsDigits (powerText power) := by
    have ends : StopsDigits (powerText power ++ []) := stops_powerText power ends_nil.stops
    rwa [List.append_nil] at ends
  have nonempty : whole.isEmpty = false := by
    cases whole with
    | nil => exact absurd rfl proper.whole.1
    | cons c whole => rfl
  have read := readExponent?_text proper.power
  have afterWhole := dropWhile_digits proper.whole.2 (stops_fractionText fraction stops)
  have beforePoint := takeWhile_digits proper.whole.2 (stops_fractionText fraction stops)
  cases fraction with
  | none =>
      have pointless : ∀ tail, powerText power ≠ '.' :: tail := by
        intro tail same
        cases power <;> cases same
      simp only [fractionText, List.nil_append] at afterWhole beforePoint ⊢
      rw [readMagnitude?, afterWhole, beforePoint]
      split
      next rest same =>
        split at same
        · next tail point => exact absurd point (pointless tail)
        · cases same
          simp only [nonempty, Bool.false_and, Bool.false_eq_true, if_false, read, decimal,
            Option.map_some, Option.getD_none]
  | some digits =>
      have fractionDigits := proper.fraction digits rfl
      simp only [fractionText, List.cons_append] at afterWhole beforePoint ⊢
      rw [readMagnitude?, afterWhole, beforePoint]
      simp only [takeWhile_digits fractionDigits.2 stops, dropWhile_digits fractionDigits.2 stops,
        nonempty, Bool.false_and, Bool.false_eq_true, if_false, read, decimal, Option.map_some,
        Option.getD_some]

/--
Read as a text, a literal is the binary64 number nearest to its value.  The sign of zero is
kept too.
-/
theorem readBinary64?_text (proper : numeral.Proper) :
    readBinary64? numeral.text = some (numeral.decimal.toBinary64 numeral.negative) := by
  rw [readBinary64?, text, splitSign_text proper.whole]
  simp only [readMagnitude?_text proper]

theorem readInteger?_whole (proper : numeral.Proper) (whole : numeral.fraction = none)
    (powerless : numeral.power = none) :
    readInteger? numeral.text =
      some (if numeral.negative then -(Nat.ofDigitChars 10 numeral.whole 0 : Int)
        else Nat.ofDigitChars 10 numeral.whole 0) := by
  rw [readInteger?, text, whole, powerless, splitSign_text proper.whole, fractionText, powerText,
    List.append_nil, List.append_nil]
  simp only [readNatural?_digits proper.whole, Option.map_some]

/--
A literal with a fraction or an exponent is no integer text.  That is so even if its value
is whole.
-/
theorem readInteger?_eq_none (proper : numeral.Proper)
    (broken : numeral.fraction ≠ none ∨ numeral.power ≠ none) :
    readInteger? numeral.text = none := by
  have other : ∃ c ∈ fractionText numeral.fraction ++ powerText numeral.power,
      c.isDigit = false := by
    cases fraction : numeral.fraction with
    | some digits => exact ⟨'.', by simp [fractionText], rfl⟩
    | none =>
        cases power : numeral.power with
        | some part => exact ⟨'e', by simp [powerText], rfl⟩
        | none =>
            rcases broken with broken | broken
            · exact absurd fraction broken
            · exact absurd power broken
  rcases other with ⟨c, inside, apart⟩
  have unread : readNatural? (numeral.whole ++
      (fractionText numeral.fraction ++ powerText numeral.power)) = none := by
    have notAll : (numeral.whole ++
        (fractionText numeral.fraction ++ powerText numeral.power)).all Char.isDigit = false := by
      rw [List.all_eq_false]
      exact ⟨c, List.mem_append_right _ inside, by rw [apart]; decide⟩
    rw [readNatural?, notAll]
    simp
  rw [readInteger?, text, splitSign_text proper.whole]
  simp only [unread, Option.map_none]

end

end Numeral
end Json
end DeviceLink
