import DeviceLink.Decimal.Layout
import DeviceLink.Proofs.Decimal.Exact
import DeviceLink.Proofs.Json.Numeral

namespace DeviceLink
namespace Decimal

/-!
Written numbers as literals.  Both notations spell the magnitude that they are given, so
in every layout the text of a number is read back as that number.  Each text is shown to
be that of a numeral, taken apart into sign, whole digits, fraction and power.  What is
known of numerals then applies to it.  Zero is the one number whose layout is settled
apart, since it has no first digit.
-/

open Json (Numeral IsDigits)

theorem isDigits_toDigits (n : Nat) : IsDigits (Nat.toDigits 10 n) :=
  ⟨Nat.toDigits_ne_nil, fun _ inside => Nat.isDigit_of_mem_toDigits (by decide) (by decide) inside⟩

theorem head?_append {first : List Char} (nonempty : first ≠ []) (second : List Char) :
    (first ++ second).head? = first.head? := by
  cases first with
  | nil => exact absurd rfl nonempty
  | cons c first => rfl

/--
Only zero is written with a leading zero.  Every other significand starts with its first
digit.
-/
theorem head_toDigits {n : Nat} (pos : 0 < n) : (Nat.toDigits 10 n).head? ≠ some '0' := by
  induction n using Nat.strong_induction_on with
  | _ n ih =>
      by_cases small : n < 10
      · rw [Nat.toDigits_of_lt_base small]
        exact (by decide : ∀ n < 10, 0 < n → [n.digitChar].head? ≠ some '0') n small pos
      · have rest : 0 < n / 10 := Nat.div_pos (Nat.le_of_not_lt small) (by decide)
        have shorter : n / 10 < n := Nat.div_lt_self pos (by decide)
        rw [Nat.toDigits_of_base_le (by decide) (Nat.le_of_not_lt small),
          head?_append Nat.toDigits_ne_nil]
        exact ih (n / 10) shorter rest

/--
Positional notation as a literal.  It has no exponent, and a fraction only where the layout
puts one.
-/
def positionalNumeral (negative wholeFraction : Bool) (d : Decimal) : Numeral :=
  let digits := d.digits
  if d.point ≤ 0 then
    ⟨negative, ['0'], some (List.replicate (-d.point).toNat '0' ++ digits), none⟩
  else if (digits.length : Int) ≤ d.point then
    ⟨negative, digits ++ List.replicate (d.point.toNat - digits.length) '0',
      if wholeFraction then some ['0'] else none, none⟩
  else ⟨negative, digits.take d.point.toNat, some (digits.drop d.point.toNat), none⟩

/-- Scientific notation as a literal.  Its exponent is always there. -/
def scientificNumeral (negative : Bool) (d : Decimal) : Numeral :=
  let power := d.point - 1
  let tail := d.digits.drop 1
  ⟨negative, d.digits.take 1, if tail.isEmpty then none else some tail,
    some (power < 0, naturalText power.natAbs)⟩

/-- Zero has one spelling.  Decimals that are made from numbers are of this kind. -/
def Plain (d : Decimal) : Prop := d.significand = 0 → d.exponent = 0

section

variable {d : Decimal} (negative wholeFraction : Bool)

theorem text_positionalNumeral :
    (positionalNumeral negative wholeFraction d).text =
      signText negative ++ positionalText wholeFraction d := by
  unfold positionalNumeral positionalText
  dsimp only
  split
  · simp [Numeral.text, Numeral.fractionText, Numeral.powerText]
  split
  · cases wholeFraction <;> simp [Numeral.text, Numeral.fractionText, Numeral.powerText]
  · simp [Numeral.text, Numeral.fractionText, Numeral.powerText]

theorem text_scientificNumeral :
    (scientificNumeral negative d).text = signText negative ++ scientificText d := by
  unfold scientificNumeral scientificText
  dsimp only
  split <;> by_cases low : d.point - 1 < 0 <;>
    simp [Numeral.text, Numeral.fractionText, Numeral.powerText, low]

/--
How a decimal whose digits are not all behind the point is told apart.  Either it is zero,
or its first digit is not.
-/
theorem digits_of_plain (plain : d.Plain) : d.digits = ['0'] ∧ d.point = 1 ∨
    0 < d.significand ∧ d.digits.head? ≠ some '0' := by
  by_cases zero : d.significand = 0
  · have digits : d.digits = ['0'] := by
      rw [Decimal.digits, zero]
      rfl
    refine Or.inl ⟨digits, ?_⟩
    rw [point, digits, plain zero]
    rfl
  · have pos := Nat.pos_of_ne_zero zero
    exact Or.inr ⟨pos, head_toDigits pos⟩

theorem isDigits_zeros_append {digits : List Char} (proper : IsDigits digits) (zeros : Nat) :
    IsDigits (List.replicate zeros '0' ++ digits) := by
  refine ⟨by simp [proper.1], fun c inside => ?_⟩
  rcases List.mem_append.mp inside with inside | inside
  · rw [List.eq_of_mem_replicate inside]
    rfl
  · exact proper.2 c inside

theorem isDigits_append_zeros {digits : List Char} (proper : IsDigits digits) (zeros : Nat) :
    IsDigits (digits ++ List.replicate zeros '0') := by
  refine ⟨by simp [proper.1], fun c inside => ?_⟩
  rcases List.mem_append.mp inside with inside | inside
  · exact proper.2 c inside
  · rw [List.eq_of_mem_replicate inside]
    rfl

theorem proper_positionalNumeral (plain : d.Plain) :
    (positionalNumeral negative wholeFraction d).Proper := by
  have digits : IsDigits d.digits := isDigits_toDigits d.significand
  unfold positionalNumeral
  dsimp only
  split
  · exact
      { whole := isDigits_toDigits 0
        leading := fun _ => rfl
        fraction := by
          rintro _ ⟨⟩
          exact isDigits_zeros_append digits _
        power := by rintro _ ⟨⟩ }
  split
  · next outside inside =>
    refine
      { whole := isDigits_append_zeros digits _
        leading := ?_
        fraction := ?_
        power := by rintro _ ⟨⟩ }
    · rcases digits_of_plain plain with ⟨zero, one⟩ | ⟨-, nonzero⟩
      · intro _
        simp [zero, one]
      · intro found
        rw [head?_append digits.1] at found
        exact absurd found nonzero
    · cases wholeFraction with
      | true =>
          rintro _ ⟨⟩
          exact isDigits_toDigits 0
      | false => rintro _ ⟨⟩
  · next before behind =>
    have places : 0 < d.point.toNat ∧ d.point.toNat < d.digits.length := by omega
    have wholeNonempty : d.digits.take d.point.toNat ≠ [] := by
      rw [← List.length_pos_iff, List.length_take]
      omega
    have restNonempty : d.digits.drop d.point.toNat ≠ [] := by
      rw [← List.length_pos_iff, List.length_drop]
      omega
    refine
      { whole := ⟨wholeNonempty, fun c inside => digits.2 c (List.mem_of_mem_take inside)⟩
        leading := ?_
        fraction := ?_
        power := by rintro _ ⟨⟩ }
    · rcases digits_of_plain plain with ⟨zero, one⟩ | ⟨-, nonzero⟩
      · rw [zero, one] at places
        exact absurd places.2 (by decide)
      · intro found
        rw [List.head?_take, if_neg (by omega)] at found
        exact absurd found nonzero
    · rintro _ ⟨⟩
      exact ⟨restNonempty, fun c inside => digits.2 c (List.mem_of_mem_drop inside)⟩

theorem proper_scientificNumeral (plain : d.Plain) : (scientificNumeral negative d).Proper := by
  have digits : IsDigits d.digits := isDigits_toDigits d.significand
  unfold scientificNumeral
  refine
    { whole := ⟨by simp [digits.1], fun c inside => digits.2 c (List.mem_of_mem_take inside)⟩
      leading := ?_
      fraction := ?_
      power := ?_ }
  · rcases digits_of_plain plain with ⟨zero, -⟩ | ⟨-, nonzero⟩
    · intro _
      simp [zero]
    · intro found
      rw [List.head?_take, if_neg (by decide)] at found
      exact absurd found nonzero
  · intro fraction found
    dsimp only at found
    split at found
    · cases found
    · next nonempty =>
      cases found
      exact ⟨by simpa using nonempty, fun c inside => digits.2 c (List.mem_of_mem_drop inside)⟩
  · rintro _ ⟨⟩
    exact isDigits_toDigits _

theorem ofDigitChars_append_zeros (digits : List Char) (zeros : Nat) :
    Nat.ofDigitChars 10 (digits ++ List.replicate zeros '0') 0 =
      Nat.ofDigitChars 10 digits 0 * Nat.pow 10 zeros := by
  rw [Nat.ofDigitChars_append, Nat.ofDigitChars_replicate_zero, Nat.mul_comm]
  rfl

theorem ofDigitChars_zeros_append (zeros : Nat) (digits : List Char) :
    Nat.ofDigitChars 10 (List.replicate zeros '0' ++ digits) 0 = Nat.ofDigitChars 10 digits 0 := by
  rw [Nat.ofDigitChars_append, Nat.ofDigitChars_replicate_zero, Nat.mul_zero]

/--
A literal spells the magnitude it is made from, perhaps with more zeros.  Those zeros fill
the places up to the point.
-/
theorem decimal_positionalNumeral :
    ∃ zeros, (positionalNumeral negative wholeFraction d).decimal = d.padded zeros := by
  have value : Nat.ofDigitChars 10 d.digits 0 = d.significand := Nat.ofDigitChars_ten_toDigits
  have point : d.point = d.digits.length + d.exponent := rfl
  unfold positionalNumeral
  dsimp only
  split
  · refine ⟨0, ?_⟩
    have exponent : (0 : Int) - ((-d.point).toNat + d.digits.length : Nat) = d.exponent := by omega
    have zeros := ofDigitChars_zeros_append ((-d.point).toNat + 1) d.digits
    rw [List.replicate_succ, List.cons_append] at zeros
    simp only [Numeral.decimal, Numeral.exponent, Option.getD_some, List.singleton_append, zeros,
      value, padded_zero, List.length_append, List.length_replicate, exponent]
  split
  · have exponent : d.exponent = (d.point.toNat - d.digits.length : Nat) := by omega
    cases wholeFraction with
    | true =>
        refine ⟨d.point.toNat - d.digits.length + 1, ?_⟩
        simp only [Numeral.decimal, Numeral.exponent, if_true, Option.getD_some,
          List.append_assoc, List.length_singleton, padded]
        rw [← List.replicate_succ' , ofDigitChars_append_zeros, value]
        congr 1
        omega
    | false =>
        refine ⟨d.point.toNat - d.digits.length, ?_⟩
        simp only [Numeral.decimal, Numeral.exponent, Bool.false_eq_true, if_false,
          Option.getD_none, List.append_nil, List.length_nil, ofDigitChars_append_zeros, value,
          padded]
        congr 1
        omega
  · refine ⟨0, ?_⟩
    have exponent : (0 : Int) - (d.digits.length - d.point.toNat : Nat) = d.exponent := by omega
    simp only [Numeral.decimal, Numeral.exponent, Option.getD_some, List.take_append_drop, value,
      padded_zero, List.length_drop, exponent]

theorem decimal_scientificNumeral : (scientificNumeral negative d).decimal = d := by
  have value : Nat.ofDigitChars 10 d.digits 0 = d.significand := Nat.ofDigitChars_ten_toDigits
  have point : d.point = d.digits.length + d.exponent := rfl
  have length : 0 < d.digits.length := Nat.length_toDigits_pos
  have tail : (if (d.digits.drop 1).isEmpty then none else some (d.digits.drop 1)).getD [] =
      d.digits.drop 1 := by
    split
    · next single => rw [List.isEmpty_iff.mp single, Option.getD_none]
    · rfl
  have power : Numeral.exponent
      (some (decide (d.point - 1 < 0), naturalText (d.point - 1).natAbs)) = d.point - 1 := by
    simp only [Numeral.exponent, naturalText, Nat.ofDigitChars_ten_toDigits, decide_eq_true_eq]
    split <;> omega
  have exponent : d.point - 1 - (d.digits.length - 1 : Nat) = d.exponent := by omega
  simp only [Numeral.decimal, scientificNumeral, tail, List.take_append_drop, value, power,
    List.length_drop, exponent]

end

/-! How a layout spells a number. -/

theorem plain_shortest (tie : Tie) (x : Binary64.Finite) : (shortest tie x).Plain := by
  intro vanishes
  have isZero : x.isZero = true := decide_eq_true ((significand_shortest tie x).mp vanishes)
  rw [shortest, if_pos isZero]

namespace Layout

variable (layout : Layout) (x : Binary64.Finite)

/--
The literal that a layout writes for a number.  The text of the number is the text of this
literal.
-/
def numeral : Numeral :=
  let d := shortest layout.tie x
  if layout.positional (d.point - 1) then positionalNumeral x.negative layout.wholeFraction d
  else scientificNumeral x.negative d

theorem text_numeral : (layout.numeral x).text = layout.finiteText x := by
  unfold numeral finiteText place
  dsimp only
  split
  · exact text_positionalNumeral _ _
  · exact text_scientificNumeral _

theorem proper_numeral : (layout.numeral x).Proper := by
  unfold numeral
  dsimp only
  split
  · exact proper_positionalNumeral _ _ (plain_shortest _ _)
  · exact proper_scientificNumeral _ (plain_shortest _ _)

theorem negative_numeral : (layout.numeral x).negative = x.negative := by
  unfold numeral positionalNumeral scientificNumeral
  dsimp only
  split
  · split
    · rfl
    split <;> rfl
  · rfl

/--
The literal that is written for a number has that number as its nearest one.  Nothing is
lost by writing it.
-/
theorem toBinary64_numeral :
    (layout.numeral x).decimal.toBinary64 (layout.numeral x).negative = .finite x := by
  rw [negative_numeral]
  unfold numeral
  dsimp only
  split
  · rcases decimal_positionalNumeral x.negative layout.wholeFraction
      (d := shortest layout.tie x) with ⟨zeros, same⟩
    rw [same, toBinary64_padded, toBinary64_shortest]
  · rw [decimal_scientificNumeral, toBinary64_shortest]

/--
Every number is read back from its text, in every layout.  That holds of the reader that
rounds once, and not of the one that takes frames apart.
-/
theorem readBinary64?_finiteText :
    readBinary64? (layout.finiteText x) = some (.finite x) := by
  rw [← text_numeral, Numeral.readBinary64?_text (proper_numeral layout x), toBinary64_numeral]

end Layout

end Decimal
end DeviceLink
