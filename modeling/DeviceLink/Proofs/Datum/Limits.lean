import DeviceLink.Proofs.Datum.Settling
import DeviceLink.Proofs.Json.Size

namespace DeviceLink

/-!
Limits on both sides of the link.  The text of a value is measured before it is written,
and measured again when it has been read and printed anew.  Numbers are short in every
notation and structures without floats only shrink; so what goes out within the limits
comes in again, unless a structure with floats has outgrown the limit.  `Swells` says of
a datum that it is such a structure.  The bounds on the lengths of numbers come from
their decimals, whose digits are counted, and the bound on structures comes from the
weight of their documents.
-/

open Text (size size_nil size_cons size_append size_digits)

namespace Decimal

/-! Plain texts are short. -/

section

variable {tie : Tie} {x : Binary64.Finite} {d : Decimal}

theorem eq_or_of_pick {accepts : Decimal → Bool} {pair : Neighbours}
    (picked : pair.pick accepts tie = some d) : d = pair.below ∨ d = pair.above := by
  unfold Neighbours.pick at picked
  split at picked
  · split at picked
    · cases picked
      exact Neighbours.nearer_eq_or tie pair
    · cases picked
      exact Or.inl rfl
  · split at picked
    · cases picked
      exact Or.inr rfl
    · cases picked

theorem significand_withoutTrailingZeros_le (d : Decimal) :
    (withoutTrailingZeros d).significand ≤ d.significand :=
  Nat.div_le_self _ _

/--
The shortest decimal has no more digits than the exact one, or one more.  It is cut from the
exact one, and may be rounded up at its last digit.
-/
theorem significand_shortest_le (tie : Tie) (x : Binary64.Finite) :
    (shortest tie x).significand ≤ (exact x).significand + 1 := by
  rw [shortest]
  split
  · exact Nat.zero_le _
  cases found : counts.findSome? (cut tie x) with
  | none => exact Nat.le_succ _
  | some d =>
      rcases List.exists_of_findSome?_eq_some found with ⟨count, -, accepted⟩
      have low := Nat.div_le_self (exact x).significand
        (Nat.pow 10 ((exact x).digits.length - count))
      rw [Option.getD_some]
      rcases eq_or_of_pick accepted with rfl | rfl
      · exact Nat.le_trans (significand_withoutTrailingZeros_le _) (Nat.le_succ_of_le low)
      · exact Nat.le_trans (significand_withoutTrailingZeros_le _) (Nat.succ_le_succ low)

/--
A limit for the digits of all shortest decimals, given as places of a power of ten.  It is
used for numbers of any size, with places to match.
-/
theorem length_digits_shortest_le (tie : Tie) (x : Binary64.Finite) {twos fives places : Nat}
    (units : x.units < twos) (whole : (exact x).significand = x.units * fives)
    (room : twos * fives + 1 < Nat.pow 10 places) (positive : 0 < places) :
    (shortest tie x).digits.length ≤ places := by
  have most := Nat.mul_le_mul_right fives (Nat.le_of_lt units)
  rw [digits, Nat.length_toDigits_le_iff (by decide) positive]
  refine Nat.lt_of_le_of_lt (significand_shortest_le tie x) (Nat.lt_of_le_of_lt ?_ room)
  rw [whole]
  exact Nat.succ_le_succ most

/--
The point of a finite number stands near its digits.  There are no numbers with a point
further out.
-/
theorem point_shortest (tie : Tie) (x : Binary64.Finite) :
    -323 ≤ (shortest tie x).point ∧ (shortest tie x).point ≤ 309 := by
  by_cases zero : x.rank = 0
  · have isZero : x.isZero = true := decide_eq_true zero
    rw [shortest, if_pos isZero]
    decide
  · have nonzero := mt (significand_shortest tie x).mp zero
    have back := toBinary64_shortest tie x
    rw [toBinary64_eq _ nonzero] at back
    split at back
    · cases back
    split at back
    · exact absurd (congrArg Binary64.Finite.rank (Binary64.finite.inj back)).symm zero
    · next above below => exact ⟨Int.not_lt.mp below, Int.not_lt.mp above⟩

end

theorem size_zeros (count : Nat) : size (List.replicate count '0') = count := by
  rw [size_digits, List.length_replicate]
  intro c inside
  rw [List.eq_of_mem_replicate inside]
  rfl

theorem size_signText_le (negative : Bool) : size (signText negative) ≤ 1 := by
  cases negative <;> decide

/--
A digit for each place, three hundred places and a sign are far below the limit.  So a
single number never breaks the limit.
-/
theorem size_plainText_le (x : Binary64.Finite) :
    size (plain.finiteText x) ≤ Datum.valueLimit := by
  have sign := size_signText_le x.negative
  have few : (shortest plain.tie x).digits.length ≤ 1384 :=
    length_digits_shortest_le plain.tie x (Binary64.unitsOfRank_lt x.rank_lt) rfl
      (by decide +kernel) (by decide)
  have near := point_shortest plain.tie x
  have limit : Datum.valueLimit = 2048 := rfl
  have placed : plain.place (shortest plain.tie x) = positionalText false (shortest plain.tie x) :=
    rfl
  have marks : ('0' : Char).utf8Size = 1 ∧ ('.' : Char).utf8Size = 1 := by decide
  rw [Layout.finiteText, size_append, placed]
  generalize shortest plain.tie x = d at few near
  have all : size d.digits = d.digits.length := size_digits (isDigits_toDigits d.significand).2
  unfold positionalText
  dsimp only
  split
  · simp only [List.cons_append, size_cons, size_append, size_zeros, marks, all]
    omega
  split
  · simp only [Bool.false_eq_true, if_false, size_append, size_zeros, size_nil, all]
    omega
  · have halves : size (d.digits.take d.point.toNat) + size (d.digits.drop d.point.toNat) =
        d.digits.length := by
      rw [← size_append, List.take_append_drop, all]
    rw [size_append, size_cons, marks.2]
    omega

theorem size_integerText_le {value : Int} (low : -0x8000000000000000 ≤ value)
    (high : value < 0x10000000000000000) : size (integerText value) ≤ Datum.valueLimit := by
  have sign := size_signText_le (decide (value < 0))
  have few : (Nat.toDigits 10 value.natAbs).length ≤ 20 := by
    rw [Nat.length_toDigits_le_iff (by decide) (by decide)]
    have room : 0x10000000000000000 < Nat.pow 10 20 := by decide
    exact Nat.lt_of_le_of_lt (by omega) room
  have limit : Datum.valueLimit = 2048 := rfl
  rw [integerText, size_append, naturalText, size_digits (isDigits_toDigits _).2]
  omega

end Decimal

namespace Datum

open Json (Value Number)
open Decimal (integerString plain)

/--
A structure with floats whose printed text is beyond the limit.  The text that the sender
measured was shorter.
-/
def Swells (datum : Datum) : Prop :=
  datum.type.isStructured = true ∧ ∃ value, Value.ofText? datum.value = some value ∧
    ¬ value.FloatFree ∧ valueLimit < value.text.utf8ByteSize

section

variable {datum : Datum} {value : Value}

theorem integerText?_short (number : Number) :
    ∃ text, integerText? (.number number) = some text ∧ text.utf8ByteSize ≤ valueLimit := by
  cases number with
  | integer value low high => exact ⟨_, rfl, Decimal.size_integerText_le low high⟩
  | float x =>
      have bounds := Number.int64_bounds x.toInt64
      exact ⟨_, rfl, Decimal.size_integerText_le bounds.1 bounds.2⟩

theorem numberText?_short (number : Number) :
    ∃ text, numberText? (.number number) = some text ∧ text.utf8ByteSize ≤ valueLimit := by
  cases number with
  | integer value low high => exact ⟨_, rfl, Decimal.size_integerText_le low high⟩
  | float x => exact ⟨_, rfl, Decimal.size_plainText_le x⟩

/--
What is written within the limits has a text again, and only a swollen one is too long.  All
other kinds of values have short texts.
-/
theorem exists_text (declared : datum.type ≠ .invalid) (within : datum.WithinLimits)
    (encoded : datum.encodeValue = .ok value) :
    ∃ text, textOfValue? datum.type value = some text ∧
      (text.utf8ByteSize ≤ valueLimit ↔ ¬ datum.Swells) := by
  rcases datum with ⟨key, type, text⟩
  by_cases structured : type.isStructured = true
  · have read := (encodeValue_structured structured).mp encoded
    refine ⟨value.text, textOfValue?_structured structured value, ?_⟩
    constructor
    · rintro short ⟨-, other, again, -, long⟩
      rw [read] at again
      cases again
      exact Nat.not_lt_of_le short long
    · intro kept
      by_contra long
      refine kept ⟨structured, value, read, fun floatFree => long ?_, Nat.not_le.mp long⟩
      exact Nat.le_trans (Value.size_text_le read floatFree) within.2.2
  · have kept : ¬ Swells ⟨key, type, text⟩ := fun swells => structured swells.1
    have short : ∃ shown, textOfValue? type value = some shown ∧
        shown.utf8ByteSize ≤ valueLimit := by
      cases type with
      | struct | array => exact absurd rfl structured
      | invalid => exact absurd rfl declared
      | text | date =>
          cases encoded
          exact ⟨text, rfl, within.2.2⟩
      | int | bool | enum =>
          cases encoded
          rw [textOfValue?_word (by decide)]
          exact integerText?_short _
      | float | double =>
          cases encoded
          rw [textOfValue?_float (by decide)]
          exact numberText?_short _
    rcases short with ⟨shown, found, fits⟩
    exact ⟨shown, found, iff_of_true fits kept⟩

end

/--
What a datum is called and declared to be.  It is what always survives, unlike the text of
the value.
-/
def label (datum : Datum) : String × DataType := (datum.key, datum.type)

/--
What is read from the element of a datum has the key and the type of that datum.  Only the
text may have changed.
-/
theorem label_of_carries {datum back : Datum} {item : Value}
    (written : datum.encodeItem = .ok item) (carries : Carries item back) :
    back.label = datum.label := by
  rcases encodeItem_eq_ok_iff.mp written with ⟨value, -, rfl⟩
  rcases carries_itemOf_iff.mp carries with ⟨key, type, -⟩
  rw [label, label, key, type]

/--
The element of a datum within the limits is read unless the datum has swollen.  There is no
other reason for it to be refused.
-/
theorem exists_carries_iff {datum : Datum} {item : Value} (declared : datum.type ≠ .invalid)
    (within : datum.WithinLimits) (written : datum.encodeItem = .ok item) :
    (∃ back, Carries item back) ↔ ¬ datum.Swells := by
  rcases encodeItem_eq_ok_iff.mp written with ⟨value, encoded, rfl⟩
  rcases exists_text declared within encoded with ⟨text, shown, fits⟩
  rw [← fits]
  constructor
  · rintro ⟨back, carries⟩
    rcases carries_itemOf_iff.mp carries with ⟨-, -, -, again, room⟩
    rw [shown] at again
    cases again
    exact room.2.2
  · intro short
    refine ⟨⟨datum.key, datum.type, text⟩, carries_itemOf_iff.mpr ?_⟩
    exact ⟨rfl, rfl, declared, shown, within.1, within.2.1, short⟩

section

variable {data : List Datum} {items : List Value}

theorem labels_of_carries {back : List Datum}
    (written : List.Forall₂ (fun datum item => datum.encodeItem = .ok item) data items)
    (carried : List.Forall₂ Carries items back) : back.map label = data.map label := by
  induction written generalizing back with
  | nil =>
      cases carried
      rfl
  | cons first _ ih =>
      cases carried with
      | cons carries carried =>
          rw [List.map_cons, List.map_cons, label_of_carries first carries, ih carried]

theorem exists_all_carried_iff (declared : ∀ datum ∈ data, datum.type ≠ .invalid)
    (within : ∀ datum ∈ data, datum.WithinLimits)
    (written : List.Forall₂ (fun datum item => datum.encodeItem = .ok item) data items) :
    (∃ back, List.Forall₂ Carries items back) ↔ ∀ datum ∈ data, ¬ datum.Swells := by
  induction written with
  | nil => exact iff_of_true ⟨[], .nil⟩ (List.forall_mem_nil _)
  | cons first _ ih =>
      rw [List.forall_mem_cons] at declared within ⊢
      rw [← exists_carries_iff declared.1 within.1 first, ← ih declared.2 within.2]
      constructor
      · rintro ⟨back, carried⟩
        cases carried with
        | cons carries carried => exact ⟨⟨_, carries⟩, _, carried⟩
      · rintro ⟨⟨back, carries⟩, rest, carried⟩
        exact ⟨back :: rest, .cons carries carried⟩

end

/--
Data within the limits that can be written are read again, as many as there were and each
with its key and type, exactly if none of them is a structure with floats whose printed text
is beyond the limit.  The condition is exact, and speaks of the data that are sent.
-/
theorem decoded_within_limits_iff {data : List Datum} {wire : Value}
    (declared : ∀ datum ∈ data, datum.type ≠ .invalid)
    (within : ∀ datum ∈ data, datum.WithinLimits) (written : encode data = .ok wire) :
    (∃ back, decode wire = .ok back ∧ back.map label = data.map label) ↔
      ∀ datum ∈ data, ¬ datum.Swells := by
  rcases encode_eq_ok_iff.mp written with ⟨items, rfl, each⟩
  rw [← exists_all_carried_iff declared within each]
  constructor
  · rintro ⟨back, read, -⟩
    rcases decode_eq_ok_iff.mp read with ⟨_, ⟨⟩, carried⟩
    exact ⟨back, carried⟩
  · rintro ⟨back, carried⟩
    exact ⟨back, decode_eq_ok_iff.mpr ⟨items, rfl, carried⟩, labels_of_carries each carried⟩

/-- A word, and a float that is printed with other digits.  Both stay far below the limit. -/
theorem decoded_within_limits_iff_short :
    let data : List Datum := [⟨"n", .int, " 042"⟩, ⟨"f", .array, "[9161.217898194366]"⟩]
    ∃ wire, (∀ datum ∈ data, datum.type ≠ .invalid) ∧ (∀ datum ∈ data, datum.WithinLimits) ∧
      encode data = .ok wire ∧
      ∃ back, decode wire = .ok back ∧ back.map label = [("n", .int), ("f", .array)] := by
  intro data
  have declared : ∀ datum ∈ data, datum.type ≠ .invalid := by decide
  have within : ∀ datum ∈ data, datum.WithinLimits := by decide
  have written : encode data = .ok (.array
      [itemOf "n" .int (.number (.ofInt64 (integerOfText " 042"))),
        itemOf "f" .array (.array [.number (.float drifting)])]) := by
    refine encode_eq_ok_iff.mpr ⟨_, rfl, .cons rfl (.cons (encodeItem_eq_ok_iff.mpr ?_) .nil)⟩
    exact ⟨_, (encodeValue_structured rfl).mpr ofText?_drifting, rfl⟩
  refine ⟨_, declared, within, written, (decoded_within_limits_iff declared within written).mpr ?_⟩
  refine List.forall_mem_cons.mpr ⟨fun swells => absurd swells.1 (by decide), ?_⟩
  refine List.forall_mem_singleton.mpr ?_
  rintro ⟨-, value, read, -, long⟩
  rw [ofText?_drifting] at read
  cases read
  exact absurd long (by decide +kernel)

/--
Ten to the fifteenth, which is written with three times as many characters as it is read.
It is the largest power of ten that is printed without an exponent.
-/
def quadrillion : Binary64.Finite := ⟨false, 0x430C6BF526340000, by decide⟩

/--
The text of an array with a number of quadrillions.  The quadrillions are spelled with
exponents there.
-/
def quadrillions (count : Nat) : String :=
  String.ofList (Json.arrayText (List.replicate count "1e+15".toList))

theorem forall₂_replicate {α β : Type} {relation : α → β → Prop} {first : α} {second : β}
    (related : relation first second) (count : Nat) :
    List.Forall₂ relation (List.replicate count first) (List.replicate count second) := by
  induction count with
  | zero => exact .nil
  | succ count ih => exact .cons related ih

theorem ofText?_quadrillions (count : Nat) :
    Value.ofText? (quadrillions count) =
      some (.array (List.replicate count (.number (.float quadrillion)))) := by
  let literal : Json.Numeral := ⟨false, "1".toList, none, some (false, "15".toList)⟩
  have proper : literal.Proper := by
    refine ⟨⟨by decide, List.all_eq_true.mp (by decide)⟩, by decide, by rintro _ ⟨⟩, ?_⟩
    rintro _ ⟨⟩
    exact ⟨by decide, List.all_eq_true.mp (by decide)⟩
  have number : Number.ofNumeral? literal = some (.float quadrillion) := by
    decide +kernel
  have spelled : "1e+15".toList = literal.text := by decide
  have spells := Json.Spells.array (forall₂_replicate (Json.spells_numeral proper) count)
  have read : Value.ofItems? 126 (List.replicate count (.numeral literal)) =
      some (List.replicate count (.number (.float quadrillion))) := by
    refine Value.ofItems?_eq_some_iff.mpr (forall₂_replicate ?_ count)
    rw [Value.ofDocument?, number, Option.map_some]
  rw [quadrillions, spelled, Value.ofText?_of_spells spells, Value.nestingLimit, Value.ofDocument?,
    read, Option.map_some]

/--
A list of equal parts takes as much as each of them, with commas and brackets.  Its size can
be known without printing it.
-/
theorem size_array_replicate (count : Nat) (part : List Char) :
    size (Json.arrayText (List.replicate count part)) = 2 + (count * (size part + 1) - 1) := by
  rw [Json.size_arrayText, List.map_replicate, Json.total_replicate]

/--
An array of floats goes out within the limits and is too long when it comes in.  Its text
trebles when it is printed again.
-/
theorem swollen_not_decoded :
    let datum : Datum := ⟨"k", .array, quadrillions 108⟩
    ∃ wire, datum.WithinLimits ∧ encode [datum] = .ok wire ∧ ∀ back, decode wire ≠ .ok back := by
  intro datum
  have spelled : size "1e+15".toList = 5 := by decide
  have printed : size (Number.float quadrillion).text = 18 := by decide +kernel
  have outgoing : (quadrillions 108).utf8ByteSize = 649 := by
    have whole := size_array_replicate 108 "1e+15".toList
    rwa [spelled] at whole
  have within : datum.WithinLimits := ⟨by decide, by decide, by rw [outgoing]; decide⟩
  have encoded : datum.encodeValue =
      .ok (.array (List.replicate 108 (.number (.float quadrillion)))) :=
    (encodeValue_structured rfl).mpr (ofText?_quadrillions 108)
  have long : valueLimit <
      (Value.array (List.replicate 108 (.number (.float quadrillion)))).text.utf8ByteSize := by
    have whole := size_array_replicate 108 (Number.float quadrillion).text
    rw [printed] at whole
    rw [Value.text, Value.render, Value.renderItems_eq, List.map_replicate, Value.render]
    show valueLimit < size _
    rw [whole]
    decide
  refine ⟨_, within, encode_eq_ok_iff.mpr ⟨_, rfl,
    .cons (encodeItem_eq_ok_iff.mpr ⟨_, encoded, rfl⟩) .nil⟩, fun back read => ?_⟩
  rcases decode_eq_ok_iff.mp read with ⟨_, ⟨⟩, carried⟩
  cases carried with
  | cons carries _ =>
      rcases carries_itemOf_iff.mp carries with ⟨-, -, -, shown, room⟩
      rw [textOfValue?_structured rfl, Option.some.injEq] at shown
      exact Nat.not_lt_of_le (shown ▸ room.2.2) long

end Datum
end DeviceLink
