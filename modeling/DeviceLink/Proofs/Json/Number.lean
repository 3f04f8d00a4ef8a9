import DeviceLink.Proofs.Decimal.Layout

namespace DeviceLink
namespace Json
namespace Number

/-!
Numbers as literals of a JSON text.  An integer is read exactly, and different numbers
are written differently; whether a float is read back from its own literal is left open,
since reading scales a float by more than one rounding.  Minus zero apart, a literal
without fraction and power is an integer if it lies in the range of the two word types,
and a float otherwise.  The digits are gathered into one word, and the lemmas about it
say that nothing is lost on the way while the word has room.
-/

open Decimal (readInteger? readBinary64? signText naturalText)

/-- The literal that is written for a number.  Its text is that of the number. -/
def numeral : Number → Numeral
  | .integer value _ _ => ⟨value < 0, naturalText value.natAbs, none, none⟩
  | .float x => layout.numeral x

theorem text_numeral (number : Number) : number.numeral.text = number.text := by
  cases number with
  | integer value low high =>
      simp [numeral, text, Numeral.text, Numeral.fractionText, Numeral.powerText,
        Decimal.integerText]
  | float x => exact layout.text_numeral x

/-- The digits of a number are written by the rules.  There is no zero in front of them. -/
theorem proper_naturalText (negative : Bool) (n : Nat) :
    Numeral.Proper ⟨negative, naturalText n, none, none⟩ where
  whole := Decimal.isDigits_toDigits n
  leading := by
    intro found
    by_cases zero : n = 0
    · subst zero
      rfl
    · exact absurd found (Decimal.head_toDigits (Nat.pos_of_ne_zero zero))
  fraction := by rintro _ ⟨⟩
  power := by rintro _ ⟨⟩

theorem proper_numeral (number : Number) : number.numeral.Proper := by
  cases number with
  | integer value low high => exact proper_naturalText _ _
  | float x => exact layout.proper_numeral x

/--
Unlike an integer, a float is written with a fraction or an exponent.  So the two are told
apart when they are read.
-/
theorem broken_numeral (x : Binary64.Finite) :
    (layout.numeral x).fraction ≠ none ∨ (layout.numeral x).power ≠ none := by
  unfold Decimal.Layout.numeral Decimal.positionalNumeral Decimal.scientificNumeral
  dsimp only
  split
  · refine Or.inl ?_
    split
    · exact Option.some_ne_none _
    split
    · exact Option.some_ne_none _
    · exact Option.some_ne_none _
  · exact Or.inr (Option.some_ne_none _)

theorem readInteger?_integer {value : Int} (low : -0x8000000000000000 ≤ value)
    (high : value < 0x10000000000000000) :
    readInteger? (integer value low high).numeral.text = some value := by
  rw [Numeral.readInteger?_whole (proper_numeral _) rfl rfl]
  simp only [numeral, naturalText, Nat.ofDigitChars_ten_toDigits, decide_eq_true_eq,
    Option.some.injEq]
  split <;> omega

theorem readInteger?_float (x : Binary64.Finite) :
    readInteger? (float x).numeral.text = none :=
  Numeral.readInteger?_eq_none (proper_numeral (.float x)) (broken_numeral x)

/--
Different numbers are written as different literals.  A float and an integer of the same
value are different numbers.
-/
theorem numeral_injective {first second : Number} (same : first.numeral = second.numeral) :
    first = second := by
  have texts := congrArg (fun literal => readInteger? literal.text) same
  cases first with
  | integer value low high =>
      rw [readInteger?_integer] at texts
      cases second with
      | integer other low' high' =>
          rw [readInteger?_integer] at texts
          cases texts
          rfl
      | float y =>
          rw [readInteger?_float] at texts
          cases texts
  | float x =>
      rw [readInteger?_float] at texts
      cases second with
      | integer other low' high' =>
          rw [readInteger?_integer] at texts
          cases texts
      | float y =>
          have read := congrArg (fun literal => readBinary64? literal.text) same
          simp only [text_numeral, text, Decimal.Layout.readBinary64?_finiteText] at read
          cases read
          rfl

/-! Integers are read exactly. -/

theorem le_ofDigitChars (digits : List Char) (significand : Nat) :
    significand ≤ Nat.ofDigitChars 10 digits significand := by
  rw [Nat.ofDigitChars_eq_ofDigitChars_zero]
  exact Nat.le_add_right_of_le (Nat.le_mul_of_pos_left _ (Nat.pow_pos (by decide)))

/-- Digits that fit the word together are all taken.  Nothing is left over to be scaled. -/
theorem gather_eq {digits : List Char} {significand : Nat}
    (fits : Nat.ofDigitChars 10 digits significand < significandLimit) :
    gather significand digits = (Nat.ofDigitChars 10 digits significand, 0) := by
  induction digits generalizing significand with
  | nil => rfl
  | cons c digits ih =>
      have split : Nat.ofDigitChars 10 (c :: digits) significand =
          Nat.ofDigitChars 10 digits (Nat.ofDigitChars 10 [c] significand) :=
        Nat.ofDigitChars_append (l := [c]) significand
      have next : Nat.ofDigitChars 10 [c] significand < significandLimit :=
        Nat.lt_of_le_of_lt (le_ofDigitChars digits _) (split ▸ fits)
      rw [split] at fits ⊢
      simp only [gather, next, if_true]
      exact ih fits

theorem ofNumeral?_integer {value : Int} (low : -0x8000000000000000 ≤ value)
    (high : value < 0x10000000000000000) :
    ofNumeral? (integer value low high).numeral = some (integer value low high) := by
  have digits : Nat.ofDigitChars 10 (naturalText value.natAbs) 0 = value.natAbs :=
    Nat.ofDigitChars_ten_toDigits
  have fits : value.natAbs < 0x10000000000000000 := by omega
  have gathered : gather 0 (naturalText value.natAbs) = (value.natAbs, 0) := by
    rw [gather_eq (digits.symm ▸ fits), digits]
  have whole : ofNumeral? (integer value low high).numeral =
      ofWhole? (decide (value < 0)) value.natAbs := by
    simp [ofNumeral?, numeral, gathered, gather]
  rw [whole, ofWhole?, dif_pos fits]
  by_cases negative : value < 0
  · have inWord : 0 < value.natAbs ∧ value.natAbs ≤ 0x8000000000000000 := by omega
    rw [if_pos (decide_eq_true negative), dif_pos inWord]
    simp only [Option.some.injEq, integer.injEq]
    omega
  · rw [if_neg (mt of_decide_eq_true negative)]
    simp only [Option.some.injEq, integer.injEq]
    omega

/-! Which literals are integers. -/

theorem gather_all {digits : List Char} {significand head : Nat}
    (all : gather significand digits = (head, 0)) :
    head = Nat.ofDigitChars 10 digits significand := by
  induction digits generalizing significand with
  | nil => exact (Prod.mk.inj all).1.symm
  | cons c digits ih =>
      have split : Nat.ofDigitChars 10 (c :: digits) significand =
          Nat.ofDigitChars 10 digits (Nat.ofDigitChars 10 [c] significand) :=
        Nat.ofDigitChars_append (l := [c]) significand
      simp only [gather] at all
      split at all
      · exact (ih all).trans split.symm
      · cases (Prod.mk.inj all).2

section

variable {value : Int} {low : -0x8000000000000000 ≤ value} {high : value < 0x10000000000000000}

/-- Scaling gives floats only.  So an integer has not been scaled. -/
theorem ofScaled?_ne_integer (negative : Bool) (significand : Nat) (power : Int) :
    ofScaled? negative significand power ≠ some (integer value low high) := by
  intro scaled
  unfold ofScaled? at scaled
  split at scaled
  · next found _ =>
    cases signed : (if negative then found.neg else found) with
    | finite x => simp [signed, ofFinite?] at scaled
    | _ => simp [signed, ofFinite?] at scaled
  · cases scaled

theorem ofWhole?_eq_integer_iff {negative : Bool} {significand : Nat} :
    ofWhole? negative significand = some (integer value low high) ↔
      (negative = true → value ≠ 0) ∧
        value = if negative then -(significand : Int) else significand := by
  rw [ofWhole?]
  split
  · next fits =>
    cases negative with
    | false => simp [eq_comm]
    | true =>
        simp only [if_true, true_imp_iff]
        split
        · simp only [Option.some.injEq, integer.injEq]
          omega
        · refine iff_of_false (ofScaled?_ne_integer _ _ _) ?_
          omega
  · refine iff_of_false (ofScaled?_ne_integer _ _ _) ?_
    cases negative
    · simp only [Bool.false_eq_true, if_false]
      omega
    · simp only [if_true]
      omega

/--
A literal stands for an integer exactly if it is one that a word of 64 bits holds.  The
other ones stand for floats, or for nothing.
-/
theorem ofNumeral?_eq_integer_iff {numeral : Numeral} :
    ofNumeral? numeral = some (integer value low high) ↔ numeral.IsInteger value := by
  rcases numeral with ⟨negative, whole, fraction, power⟩
  constructor
  · intro read
    simp only [ofNumeral?] at read
    split at read
    · next plain =>
      simp only [Bool.and_eq_true, Option.isNone_iff_eq_none, decide_eq_true_eq] at plain
      rcases plain with ⟨⟨rfl, rfl⟩, all⟩
      have gathered : gather 0 whole = ((gather 0 whole).1, 0) := Prod.ext rfl all
      have read := ofWhole?_eq_integer_iff.mp read
      rw [Option.getD_none, gather, gather_all gathered] at read
      exact ⟨rfl, rfl, read⟩
    split at read
    · cases read
    · cases read
    · exact absurd read (ofScaled?_ne_integer _ _ _)
  · rintro ⟨rfl, rfl, integer⟩
    dsimp only at integer
    have fits : Nat.ofDigitChars 10 whole 0 < significandLimit := by
      have limit : significandLimit = 0x10000000000000000 := rfl
      rw [limit]
      split at integer <;> omega
    simp only [ofNumeral?, gather_eq fits, Option.getD_none, gather, Option.isNone_none,
      Bool.true_and, decide_true, if_true]
    exact ofWhole?_eq_integer_iff.mpr integer

end

end Number
end Json
end DeviceLink
