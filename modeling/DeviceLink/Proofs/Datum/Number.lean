import DeviceLink.Datum.Codec
import DeviceLink.Proofs.Json.Number

namespace DeviceLink

/-!
Number texts of data read again.  The text of a signed word is read as that word; the
plain text of a binary64 number is read as the number, or as the word whose text it is.
Only minus zero has a plain text that is read as a word with another text.  Both kinds
of text go through the same readers, and their first characters decide which one takes
them.  A text that a person has written need not be one of these; reading it turns it
into one of them.
-/

namespace Text

/-- Nothing is trimmed where nothing is blank.  Texts that are printed have no blanks. -/
theorem trim_eq_self {text : List Char} (visible : ∀ c ∈ text, isBlank c = false) :
    trim text = text := by
  have kept : ∀ cs : List Char, (∀ c ∈ cs, isBlank c = false) → cs.dropWhile isBlank = cs := by
    intro cs seen
    cases cs with
    | nil => rfl
    | cons c cs =>
        have first : ¬ isBlank c = true := Bool.eq_false_iff.mp (seen c List.mem_cons_self)
        exact List.dropWhile_cons_of_neg first
  have backwards : ∀ c ∈ text.reverse, isBlank c = false := fun c inside =>
    visible c (List.mem_reverse.mp inside)
  rw [trim, kept text visible, kept _ backwards, List.reverse_reverse]

theorem isBlank_of_isDigit {c : Char} (digit : c.isDigit = true) : isBlank c = false := by
  have range : 0x30 ≤ c.toNat ∧ c.toNat ≤ 0x39 := by
    simp only [Char.isDigit, Bool.and_eq_true, decide_eq_true_eq] at digit
    exact ⟨UInt32.le_iff_toNat_le.mp digit.1, UInt32.le_iff_toNat_le.mp digit.2⟩
  simp only [isBlank, blankRanges, List.any_cons, List.any_nil, Bool.or_false,
    Bool.or_eq_false_iff, Bool.and_eq_false_imp, decide_eq_true_eq, decide_eq_false_iff_not]
  omega

end Text

namespace Json
namespace Numeral

open Text (isBlank isBlank_of_isDigit)

/-- A literal holds no blank.  So it is trimmed to itself. -/
theorem isBlank_text {numeral : Numeral} (proper : numeral.Proper) :
    ∀ c ∈ numeral.text, isBlank c = false := by
  have digits : ∀ {cs : List Char}, IsDigits cs → ∀ c ∈ cs, isBlank c = false :=
    fun proper c inside => isBlank_of_isDigit (proper.2 c inside)
  rcases numeral with ⟨negative, whole, fraction, power⟩
  have sign : ∀ c ∈ Decimal.signText negative, isBlank c = false := by
    cases negative with
    | false => exact List.forall_mem_nil _
    | true => exact List.forall_mem_singleton.mpr (by decide)
  have afterPoint : ∀ c ∈ fractionText fraction, isBlank c = false := by
    cases fraction with
    | none => exact List.forall_mem_nil _
    | some part => exact List.forall_mem_cons.mpr ⟨by decide, digits (proper.fraction _ rfl)⟩
  have exponent : ∀ c ∈ powerText power, isBlank c = false := by
    cases power with
    | none => exact List.forall_mem_nil _
    | some part =>
        rcases part with ⟨below, part⟩
        have mark : isBlank (if below then '-' else '+') = false := by
          cases below <;> decide
        exact List.forall_mem_cons.mpr
          ⟨by decide, List.forall_mem_cons.mpr ⟨mark, digits (proper.power _ rfl)⟩⟩
  intro c inside
  simp only [text, List.mem_append] at inside
  rcases inside with first | second | third | fourth
  · exact sign c first
  · exact digits proper.whole c second
  · exact afterPoint c third
  · exact exponent c fourth

end Numeral
end Json

namespace Decimal

open Json (Number)

/-! Texts of integers. -/

section

variable {value : Int}

theorem trim_integerText (low : -0x8000000000000000 ≤ value) (high : value < 0x10000000000000000) :
    Text.trim (integerText value) = integerText value := by
  have visible := Json.Numeral.isBlank_text (Number.proper_numeral (.integer value low high))
  rw [Number.text_numeral] at visible
  exact Text.trim_eq_self visible

theorem readInteger?_integerText (low : -0x8000000000000000 ≤ value)
    (high : value < 0x10000000000000000) : readInteger? (integerText value) = some value := by
  rw [← Number.readInteger?_integer low high, Number.text_numeral]
  rfl

/--
An unsigned word beyond the signed ones is read as no signed word.  Its text is that of a
number all the same.
-/
theorem readInt64?_integerText_eq_none (large : 0x8000000000000000 ≤ value)
    (high : value < 0x10000000000000000) : readInt64? (integerText value) = none := by
  have outside : ¬ (-0x8000000000000000 ≤ value ∧ value < 0x8000000000000000) := by omega
  rw [readInt64?, readInteger?_integerText (by omega) high, Option.bind_some, int64OfInt?,
    if_neg outside]

end

theorem integerText_natCast (n : Nat) : integerText n = naturalText n := by
  rw [integerText, decide_eq_false (Int.not_lt.mpr (Int.natCast_nonneg n)), Int.natAbs_natCast]
  rfl

theorem integerText_neg {n : Nat} (pos : 0 < n) : integerText (-n) = '-' :: naturalText n := by
  have below : -(n : Int) < 0 := by omega
  rw [integerText, decide_eq_true below, Int.natAbs_neg, Int.natAbs_natCast]
  rfl

theorem int64OfInt?_toInt (value : Int64) : int64OfInt? value.toInt = some value := by
  have inside : -0x8000000000000000 ≤ value.toInt ∧ value.toInt < 0x8000000000000000 :=
    ⟨value.le_toInt, value.toInt_lt⟩
  rw [int64OfInt?, if_pos inside, Int64.ofInt_toInt]

theorem toInt_of_int64OfInt? {value : Int} {word : Int64} (fits : int64OfInt? value = some word) :
    word.toInt = value := by
  rw [int64OfInt?] at fits
  split at fits
  · next inside =>
    cases fits
    exact Int64.toInt_ofInt_of_le inside.1 inside.2
  · cases fits

theorem readInt64?_integerText (value : Int64) :
    readInt64? (integerText value.toInt) = some value := by
  have bounds := Number.int64_bounds value
  rw [readInt64?, readInteger?_integerText bounds.1 bounds.2, Option.bind_some, int64OfInt?_toInt]

/-! Plain texts of binary64 numbers. -/

section

variable {x : Binary64.Finite}

theorem trim_plainText (x : Binary64.Finite) :
    Text.trim (plain.finiteText x) = plain.finiteText x := by
  have visible := Json.Numeral.isBlank_text (plain.proper_numeral x)
  rw [plain.text_numeral] at visible
  exact Text.trim_eq_self visible

/--
A plain text without a fraction is that of a natural number with a sign.  The digits may be
many, since there is no exponent.
-/
theorem plain_numeral (x : Binary64.Finite) :
    (∃ n, plain.numeral x = ⟨x.negative, naturalText n, none, none⟩) ∨
      (plain.numeral x).fraction ≠ none := by
  have always : ∀ power, plain.positional power = true := fun _ => rfl
  have pointless : plain.wholeFraction = false := rfl
  rw [Layout.numeral]
  simp only [always, if_true, pointless, positionalNumeral, Bool.false_eq_true, if_false]
  split
  · exact Or.inr (Option.some_ne_none _)
  split
  · next fits =>
    refine Or.inl ?_
    rcases digits_of_plain (plain_shortest plain.tie x) with ⟨digits, point⟩ | pos
    · refine ⟨0, ?_⟩
      rw [digits, point]
      rfl
    · exact ⟨_, by rw [digits, ← toDigits_pad pos.1]; rfl⟩
  · exact Or.inr (Option.some_ne_none _)

/--
What is read as a word is the text of that word, unless it is the text of minus zero.  Whole
numbers and words are spelled alike otherwise.
-/
theorem integerText_of_readInt64? {word : Int64}
    (read : readInt64? (plain.finiteText x) = some word) :
    x = Binary64.Finite.zero true ∨ plain.finiteText x = integerText word.toInt := by
  rcases Option.bind_eq_some_iff.mp read with ⟨value, integer, fits⟩
  have same := toInt_of_int64OfInt? fits
  rw [← plain.text_numeral] at integer ⊢
  rcases plain_numeral x with ⟨n, written⟩ | broken
  · have digits : Nat.ofDigitChars 10 (naturalText n) 0 = n := Nat.ofDigitChars_ten_toDigits
    have found := Json.Numeral.readInteger?_whole (plain.proper_numeral x)
      (by rw [written]) (by rw [written])
    rw [integer, written, Option.some.injEq] at found
    rw [same, found, written]
    cases negative : x.negative with
    | false =>
        refine Or.inr ?_
        simp only [digits, Bool.false_eq_true, if_false, integerText_natCast]
        exact List.append_nil _
    | true =>
        by_cases zero : n = 0
        · have back := plain.toBinary64_numeral x
          rw [written, negative, zero] at back
          cases back
          exact Or.inl rfl
        · refine Or.inr ?_
          simp only [digits, if_true, integerText_neg (Nat.pos_of_ne_zero zero)]
          exact congrArg _ (List.append_nil _)
  · rw [Json.Numeral.readInteger?_eq_none (plain.proper_numeral x) (Or.inl broken)] at integer
    cases integer

end

end Decimal

namespace Datum

open Json (Number Value)
open Decimal (integerString integerText plain)

/-! Number texts of data. -/

theorem trim_integerString (word : Int64) :
    Text.trim (integerString word.toInt).toList = integerText word.toInt := by
  have bounds := Number.int64_bounds word
  rw [integerString, String.toList_ofList, Decimal.trim_integerText bounds.1 bounds.2]

@[simp] theorem integerOfText_integerString (word : Int64) :
    integerOfText (integerString word.toInt) = word := by
  simp only [integerOfText, trim_integerString, Decimal.readInt64?_integerText]

@[simp] theorem numberOfText_integerString (word : Int64) :
    numberOfText (integerString word.toInt) = .ofInt64 word := by
  simp only [numberOfText, trim_integerString, Decimal.readInt64?_integerText]

/--
An unsigned word beyond the signed ones is written as a float.  The float is the one nearest
to it.
-/
theorem numberOfText_unsigned {value : Int} (large : 0x8000000000000000 ≤ value)
    (high : value < 0x10000000000000000) : ∃ x, numberOfText (integerString value) = .float x := by
  have trimmed : Text.trim (integerString value).toList = integerText value := by
    rw [integerString, String.toList_ofList, Decimal.trim_integerText (by omega) high]
  simp only [numberOfText, trimmed, Decimal.readInt64?_integerText_eq_none large high]
  exact ⟨_, rfl⟩

theorem integerText?_ofInt64 (word : Int64) :
    integerText? (.number (.ofInt64 word)) = some (integerString word.toInt) := rfl

theorem numberText?_ofInt64 (word : Int64) :
    numberText? (.number (.ofInt64 word)) = some (integerString word.toInt) := rfl

/--
The plain text of a number comes back once it is written as a number again.  Minus zero is
the exception, and is treated apart.
-/
theorem numberText?_numberOfText {x : Binary64.Finite} (signed : x ≠ Binary64.Finite.zero true) :
    numberText? (.number (numberOfText (String.ofList (plain.finiteText x)))) =
      some (String.ofList (plain.finiteText x)) := by
  have trimmed : Text.trim (String.ofList (plain.finiteText x)).toList = plain.finiteText x := by
    rw [String.toList_ofList, Decimal.trim_plainText]
  cases read : Decimal.readInt64? (plain.finiteText x) with
  | some word =>
      rcases Decimal.integerText_of_readInt64? read with minus | same
      · exact absurd minus signed
      · simp only [numberOfText, trimmed, read]
        rw [numberText?_ofInt64, integerString, same]
  | none =>
      simp only [numberOfText, trimmed, read, Decimal.Layout.readBinary64?_finiteText,
        Option.bind_some, Binary64.finite?, Option.getD_some, numberText?]

/--
Minus zero is written with its sign once, and then without.  The second time, its text is
read as a word.
-/
theorem numberText?_minusZero :
    numberText? (.number (.float (Binary64.Finite.zero true))) = some "-0" ∧
      numberText? (.number (numberOfText "-0")) = some "0" := by
  decide

end Datum
end DeviceLink
