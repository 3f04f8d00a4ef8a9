import DeviceLink.Proofs.Datum.Codec
import DeviceLink.Proofs.Datum.Number
import DeviceLink.Proofs.Json.Written

namespace DeviceLink
namespace Datum

/-!
Data that are read and written back.  An array without floats, whose elements have the
three members of a datum, is written as it was read, except for one kind of element: an
integer beyond the signed words is read with all its digits and written as another
number.  `Regular` is about the form of an element and `Overflows` about such an
integer.  The result is an equivalence for whole arrays, so it says both that everything
else is echoed and that nothing of that kind is.
-/

open Json (Number Value Members)

/--
An integer that no signed word holds, in a field of a type whose values are numbers.
Unsigned words reach further, and are read all the same.
-/
def OutOfReach (type : DataType) (value : Value) : Prop :=
  (type ∈ DataType.words ∨ type ∈ DataType.floats) ∧
    ∃ n low high, value = .number (.integer n low high) ∧ 0x8000000000000000 ≤ n

/-! Values of the declared types. -/

section

variable {key text : String} {type : DataType}

theorem exists_word {n : Int} (low : -0x8000000000000000 ≤ n) (fits : n < 0x8000000000000000) :
    ∃ word : Int64, word.toInt = n :=
  ⟨Int64.ofInt n, Int64.toInt_ofInt_of_le low fits⟩

/--
The text of an integer is written as the same integer exactly if a signed word holds it.
Beyond that, the text is read as a float or cut to the greatest word.
-/
theorem encodeValue_integerString_iff (number : type ∈ DataType.words ∨ type ∈ DataType.floats)
    {n : Int} (low : -0x8000000000000000 ≤ n) (high : n < 0x10000000000000000) :
    encodeValue ⟨key, type, Decimal.integerString n⟩ = .ok (.number (.integer n low high)) ↔
      n < 0x8000000000000000 := by
  rcases number with word | float
  · rw [encodeValue_word word, Except.ok.injEq, Value.number.injEq, Number.ofInt64,
      Number.integer.injEq]
    constructor
    · intro same
      rw [← same]
      exact Int64.toInt_lt _
    · intro fits
      rcases exists_word low fits with ⟨signed, rfl⟩
      rw [integerOfText_integerString]
  · rw [encodeValue_float float, Except.ok.injEq, Value.number.injEq]
    constructor
    · intro same
      refine Int.not_le.mp fun large => ?_
      rcases numberOfText_unsigned large high with ⟨x, found⟩
      rw [found] at same
      cases same
    · intro fits
      rcases exists_word low fits with ⟨signed, rfl⟩
      rw [numberOfText_integerString]
      rfl

theorem number_of_integerText? {value : Value} (shown : integerText? value = some text) :
    ∃ number, value = .number number := by
  cases value with
  | number number => exact ⟨number, rfl⟩
  | _ => cases shown

theorem number_of_numberText? {value : Value} (shown : numberText? value = some text) :
    ∃ number, value = .number number := by
  cases value with
  | number number => exact ⟨number, rfl⟩
  | _ => cases shown

/--
A number field without a float in it holds an integer and shows its digits.  A flag may also
be a truth value, and shows a digit then.
-/
theorem integer_of_shown (number : type ∈ DataType.words ∨ type ∈ DataType.floats) {value : Value}
    (floatFree : value.FloatFree) (flag : type = .bool → ∃ number, value = .number number)
    (shown : textOfValue? type value = some text) :
    ∃ n low high, value = .number (.integer n low high) ∧ text = Decimal.integerString n := by
  have numeric : ∃ number, value = .number number := by
    rcases number with word | float
    · simp only [DataType.words, List.mem_cons, List.not_mem_nil, or_false] at word
      rcases word with rfl | rfl | rfl
      · exact number_of_integerText? shown
      · exact flag rfl
      · exact number_of_integerText? shown
    · rw [textOfValue?_float float] at shown
      exact number_of_numberText? shown
  rcases numeric with ⟨integer | x, rfl⟩
  · next low high =>
    refine ⟨integer, low, high, rfl, ?_⟩
    rcases number with word | float
    · rw [textOfValue?_word word] at shown
      exact (Option.some.inj shown).symm
    · rw [textOfValue?_float float] at shown
      exact (Option.some.inj shown).symm
  · cases (Value.everywhere_single rfl).mp floatFree

/--
A value without floats that was read is written as it was exactly if a field can hold it.
Structures and strings always can be held.
-/
theorem encodeValue_iff {value : Value} (ordered : value.Ordered)
    (floatFree : value.FloatFree) (within : value.depth ≤ Value.nestingLimit)
    (flag : type = .bool → ∃ number, value = .number number)
    (shown : textOfValue? type value = some text) :
    encodeValue ⟨key, type, text⟩ = .ok value ↔ ¬ OutOfReach type value := by
  by_cases number : type ∈ DataType.words ∨ type ∈ DataType.floats
  · rcases integer_of_shown number floatFree flag shown with ⟨n, low, high, rfl, rfl⟩
    rw [encodeValue_integerString_iff number low high, OutOfReach, and_iff_right number,
      ← Int.not_le, not_iff_not]
    constructor
    · exact fun large => ⟨n, low, high, rfl, large⟩
    · rintro ⟨_, _, _, ⟨⟩, large⟩
      exact large
  · refine iff_of_true ?_ fun outside => number outside.1
    cases type with
    | invalid => cases shown
    | int | bool | enum => exact absurd (Or.inl (by decide)) number
    | float | double => exact absurd (Or.inr (by decide)) number
    | text | date =>
        cases string?_eq_some_iff.mp shown
        rfl
    | struct | array =>
        rw [textOfValue?_structured rfl, Option.some.injEq] at shown
        rw [encodeValue_structured rfl, ← shown]
        exact (Value.ofText?_text_iff ordered).mpr ⟨within, floatFree.rereads⟩

end

/-! Elements of an array. -/

/--
An object with exactly the three members of a datum, in which a flag is a number.  Other
members would be lost, and a flag would come back as a number.
-/
def Regular (item : Value) : Prop :=
  (∃ members, item = .object members ∧
    (members.map Prod.fst).Perm [identifierField, typeField, valueField]) ∧
  (item.get? typeField = some (.string DataType.bool.name) →
    ∃ number, item.get? valueField = some (.number number))

/--
What is lost on the way: an integer field with an integer that no signed word holds.  The
sender is told nothing about it.
-/
def Overflows (item : Value) : Prop :=
  ∃ type value, item.get? typeField = some (.string type.name) ∧
    item.get? valueField = some value ∧ OutOfReach type value

theorem regular_itemOf {key : String} {type : DataType} {value : Value}
    (flag : type = .bool → ∃ number, value = .number number) : Regular (itemOf key type value) := by
  refine ⟨⟨_, rfl, List.Perm.refl _⟩, fun named => ?_⟩
  have bool : type = .bool :=
    DataType.name_injective (Value.string.inj (Option.some.inj named))
  rcases flag bool with ⟨number, rfl⟩
  exact ⟨number, rfl⟩

theorem itemOf_of_carries {item : Value} {datum : Datum} (regular : Regular item)
    (ordered : item.Ordered) (carries : Carries item datum) :
    ∃ value, item = itemOf datum.key datum.type value := by
  rcases regular.1 with ⟨members, rfl, names⟩
  have sorted : members.map Prod.fst = [identifierField, typeField, valueField] := by
    refine names.eq_of_pairwise (fun first second _ _ before after => ?_)
      (Value.ordered_object.mp ordered).1 (by decide)
    exact absurd after (String.lt_asymm before)
  rcases List.map_eq_cons_iff.mp sorted with ⟨⟨_, identifier⟩, _, rfl, rfl, two⟩
  rcases List.map_eq_cons_iff.mp two with ⟨⟨_, type⟩, _, rfl, rfl, one⟩
  rcases List.map_eq_cons_iff.mp one with ⟨⟨_, value⟩, _, rfl, rfl, no_more⟩
  cases List.map_eq_nil_iff.mp no_more
  cases carries with
  | typed found label =>
      cases Option.some.inj found
      cases Option.some.inj label
      exact ⟨value, rfl⟩

theorem overflows_itemOf_iff {key : String} {type : DataType} {value : Value} :
    Overflows (itemOf key type value) ↔ OutOfReach type value := by
  constructor
  · rintro ⟨other, found, named, given, outside⟩
    cases given
    have same : type.name = other.name := Value.string.inj (Option.some.inj named)
    rw [DataType.name_injective same]
    exact outside
  · exact fun outside => ⟨type, value, rfl, rfl, outside⟩

/--
A datum is written as the element that it was read from unless that overflows.  Its text
says all that there is to know about the value.
-/
theorem encodeItem_iff {item : Value} {datum : Datum} (regular : Regular item)
    (ordered : item.Ordered) (floatFree : item.FloatFree) (within : item.depth ≤ Value.nestingLimit)
    (carries : Carries item datum) : datum.encodeItem = .ok item ↔ ¬ Overflows item := by
  rcases itemOf_of_carries regular ordered carries with ⟨value, rfl⟩
  have member : (valueField, value) ∈ [(identifierField, Value.string datum.key),
      (typeField, .string datum.type.name), (valueField, value)] := by
    simp
  have shallow : value.depth ≤ Value.nestingLimit :=
    Nat.le_succ_of_le (Value.depth_object_le_iff.mp within _ member)
  have flag : datum.type = .bool → ∃ number, value = .number number := by
    intro bool
    rcases regular.2 (by rw [← bool]; rfl) with ⟨number, given⟩
    exact ⟨number, Option.some.inj given⟩
  have shown := (carries_itemOf_iff.mp carries).2.2.2.1
  have written : datum.encodeItem = .ok (itemOf datum.key datum.type value) ↔
      datum.encodeValue = .ok value := by
    rw [encodeItem_eq_ok_iff]
    constructor
    · rintro ⟨other, encoded, ⟨⟩⟩
      exact encoded
    · exact fun encoded => ⟨value, encoded, rfl⟩
  rw [written, overflows_itemOf_iff]
  exact encodeValue_iff ((Value.ordered_object.mp ordered).2 _ member)
    (Value.floatFree_object.mp floatFree _ member) shallow flag shown

/--
An array without floats that was parsed and read as data is written back as it was exactly
if none of its integer fields holds an integer beyond the signed words; such an integer is
read, and comes back as another number.  The condition is exact, so there are no other
exceptions.
-/
theorem echoed_iff {text : String} {items : List Value} {data : List Datum}
    (parsed : Value.ofText? text = some (.array items)) (floatFree : (Value.array items).FloatFree)
    (regular : ∀ item ∈ items, Regular item) (read : decode (.array items) = .ok data) :
    encode data = .ok (.array items) ↔ ∀ item ∈ items, ¬ Overflows item := by
  rcases Value.sound_ofText? parsed with ⟨ordered, within⟩
  rw [Value.ordered_array] at ordered
  rw [Value.floatFree_array] at floatFree
  have shallow : ∀ item ∈ items, item.depth ≤ Value.nestingLimit := fun item inside =>
    Nat.le_succ_of_le (Value.depth_array_le_iff.mp within item inside)
  rcases decode_eq_ok_iff.mp read with ⟨_, same, carried⟩
  cases same
  have written : encode data = .ok (.array items) ↔
      List.Forall₂ (fun datum item => datum.encodeItem = .ok item) data items := by
    rw [encode_eq_ok_iff]
    constructor
    · rintro ⟨_, ⟨⟩, each⟩
      exact each
    · exact fun each => ⟨items, rfl, each⟩
  rw [written]
  clear parsed read within written
  induction carried with
  | nil => exact iff_of_true .nil (List.forall_mem_nil _)
  | cons carries _ ih =>
      rw [List.forall_mem_cons] at ordered floatFree regular shallow
      rw [List.forall₂_cons, List.forall_mem_cons]
      exact and_congr (encodeItem_iff regular.1 ordered.1 floatFree.1 shallow.1 carries)
        (ih floatFree.2 regular.2 ordered.2 shallow.2)

/--
The least signed word as a flag, and the greatest unsigned one inside a structure.  Both are
extremes that still come back.
-/
theorem echoed_iff_extremes :
    let items : List Value :=
      [itemOf "b" .bool (.number (.integer (-0x8000000000000000) (by decide) (by decide))),
        itemOf "s" .struct
          (.array [.number (.integer 0xFFFFFFFFFFFFFFFF (by decide) (by decide))])]
    let data : List Datum :=
      [⟨"b", .bool, "-9223372036854775808"⟩, ⟨"s", .struct, "[18446744073709551615]"⟩]
    Value.ofText? (Value.array items).text = some (.array items) ∧
      (Value.array items).FloatFree ∧ (∀ item ∈ items, Regular item) ∧
      decode (.array items) = .ok data ∧ encode data = .ok (.array items) := by
  intro items data
  have floatFree : (Value.array items).FloatFree := by decide
  have parsed : Value.ofText? (Value.array items).text = some (.array items) :=
    (Value.ofText?_text_iff (by decide)).mpr ⟨by decide, floatFree.rereads⟩
  have regular : ∀ item ∈ items, Regular item := by
    refine List.forall_mem_cons.mpr ⟨regular_itemOf fun _ => ⟨_, rfl⟩, ?_⟩
    refine List.forall_mem_cons.mpr ⟨regular_itemOf ?_, List.forall_mem_nil _⟩
    rintro ⟨⟩
  have read : decode (.array items) = .ok data := by
    refine decode_eq_ok_iff.mpr ⟨items, rfl, .cons (carries_itemOf_iff.mpr ?_)
      (.cons (carries_itemOf_iff.mpr ?_) .nil)⟩
    · decide
    · decide
  have reached : ∀ item ∈ items, ¬ Overflows item := by
    refine List.forall_mem_cons.mpr ⟨?_, List.forall_mem_cons.mpr ⟨?_, List.forall_mem_nil _⟩⟩
    · rw [overflows_itemOf_iff]
      rintro ⟨-, n, low, high, ⟨⟩, large⟩
      exact absurd large (by decide)
    · rw [overflows_itemOf_iff]
      rintro ⟨number, -⟩
      exact absurd number (by decide)
  exact ⟨parsed, floatFree, regular, read, (echoed_iff parsed floatFree regular read).mpr reached⟩

/--
The least integer beyond the signed words is read, and not written back as it was.  What is
written is the greatest signed word.
-/
theorem unsigned_not_echoed :
    ∃ items data, Value.ofText?
        "[\x7b\"identifier\":\"x\",\"type\":\"int\",\"value\":9223372036854775808\x7d]" =
          some (.array items) ∧
      (Value.array items).FloatFree ∧ (∀ item ∈ items, Regular item) ∧
      decode (.array items) = .ok data ∧ encode data ≠ .ok (.array items) := by
  let item : Value :=
    itemOf "x" .int (.number (.integer 0x8000000000000000 (by decide) (by decide)))
  have ordered : (Value.array [item]).Ordered := by decide
  have floatFree : (Value.array [item]).FloatFree := by decide
  have text : (Value.array [item]).text =
      "[\x7b\"identifier\":\"x\",\"type\":\"int\",\"value\":9223372036854775808\x7d]" := by
    decide +kernel
  have carries : Carries item ⟨"x", .int, "9223372036854775808"⟩ :=
    carries_itemOf_iff.mpr (by decide)
  have regular : Regular item := regular_itemOf (by rintro ⟨⟩)
  refine ⟨[item], [⟨"x", .int, "9223372036854775808"⟩], ?_, floatFree,
    List.forall_mem_singleton.mpr regular, decode_eq_ok_iff.mpr ⟨_, rfl, .cons carries .nil⟩, ?_⟩
  · rw [← text]
    exact (Value.ofText?_text_iff ordered).mpr ⟨by decide, floatFree.rereads⟩
  · intro written
    rcases encode_eq_ok_iff.mp written with ⟨_, ⟨⟩, each⟩
    rcases List.forall₂_cons.mp each with ⟨first, -⟩
    have reached := (encodeItem_iff regular (Value.ordered_array.mp ordered _ List.mem_cons_self)
      (Value.floatFree_array.mp floatFree _ List.mem_cons_self) (by decide) carries).mp first
    exact reached (overflows_itemOf_iff.mpr
      ⟨Or.inl (by decide), _, by decide, by decide, rfl, Int.le_refl _⟩)

end Datum
end DeviceLink
