import DeviceLink.Proofs.Datum.Codec
import DeviceLink.Proofs.Datum.Number
import DeviceLink.Proofs.Json.Written

namespace DeviceLink
namespace Datum

/-!
Data that are written and read twice.  After the first time the value texts stay as they
are, but for two kinds of them: a float that is minus zero loses its sign the second
time, and a structure changes for as long as a float inside it is not read back from its
own text.  `Settles` names what must not be there, type by type, and `cycle_settled_iff`
says that a batch is stable after one cycle if and only if each datum of it settles.
What comes before it is about the value texts of single types.
-/

open Json (Number Value)

/--
The value of a datum stays as it is once it has been written and read.  The condition
depends on its type, and most types have none.
-/
def Settles (datum : Datum) : Prop :=
  match datum.type with
  | .float | .double => numberOfText datum.value ≠ .float (Binary64.Finite.zero true)
  | .struct | .array => ∀ value, Value.ofText? datum.value = some value → value.Rereads
  | _ => True

/-! Values of the nine types. -/

/--
A value that stays when its text is written again, whatever key it has.  The key makes no
difference to that.
-/
def Returns (key : String) (type : DataType) (text : String) : Prop :=
  ∃ value, encodeValue ⟨key, type, text⟩ = .ok value ∧ textOfValue? type value = some text

theorem numberOfText_cases (text : String) :
    (∃ word, numberOfText text = .ofInt64 word) ∨ ∃ x, numberOfText text = .float x := by
  rw [numberOfText]
  split
  · exact Or.inl ⟨_, rfl⟩
  · exact Or.inr ⟨_, rfl⟩

theorem returns_word {key : String} {type : DataType} (whole : type ∈ DataType.words)
    (word : Int64) : Returns key type (Decimal.integerString word.toInt) := by
  refine ⟨_, encodeValue_word whole, ?_⟩
  rw [textOfValue?_word whole, integerOfText_integerString, integerText?_ofInt64]

/--
The text of a number that was read stays unless the number is minus zero.  Its sign is what
would be lost.
-/
theorem returns_numberText_iff {key : String} {type : DataType}
    (numeric : type ∈ DataType.floats) {first text : String}
    (shown : numberText? (.number (numberOfText first)) = some text) :
    Returns key type text ↔ numberOfText first ≠ .float (Binary64.Finite.zero true) := by
  have again : Returns key type text ↔ numberText? (.number (numberOfText text)) = some text := by
    simp only [Returns, encodeValue_float numeric, textOfValue?_float numeric,
      Except.ok.injEq, exists_eq_left']
  rw [again]
  rcases numberOfText_cases first with ⟨word, found⟩ | ⟨x, found⟩
  · rw [found] at shown ⊢
    cases shown
    rw [numberOfText_integerString]
    exact iff_of_true rfl (by rintro ⟨⟩)
  · rw [found] at shown ⊢
    by_cases minus : x = Binary64.Finite.zero true
    · rw [minus, numberText?_minusZero.1] at shown
      cases shown
      rw [minus, numberText?_minusZero.2]
      exact iff_of_false (by decide) (fun signed => signed rfl)
    · cases shown
      exact iff_of_true (numberText?_numberOfText minus) (by rintro ⟨rfl⟩; exact minus rfl)

/--
The text of a structure that was read stays if the numbers inside are read back.  A number
that is read as its neighbour changes the text every time.
-/
theorem returns_text_iff {key : String} {type : DataType} (structured : type.isStructured = true)
    {first : String} {value : Value} (found : Value.ofText? first = some value) :
    Returns key type value.text ↔ value.Rereads := by
  rcases Value.sound_ofText? found with ⟨ordered, within⟩
  have again : Returns key type value.text ↔ Value.ofText? value.text = some value := by
    constructor
    · rintro ⟨other, read, shown⟩
      rw [textOfValue?_structured structured, Option.some.injEq] at shown
      rw [encodeValue_structured structured, Value.text_injective shown] at read
      exact read
    · intro read
      exact ⟨value, (encodeValue_structured structured).mpr read,
        textOfValue?_structured structured value⟩
  rw [again, Value.ofText?_text_iff ordered, and_iff_right within]

/--
What has been written and read once stays exactly if the datum settles.  It is looked at one
value at a time here.
-/
theorem returns_iff_settles {datum : Datum} (declared : datum.type ≠ .invalid) {value : Value}
    {text : String} (encoded : datum.encodeValue = .ok value)
    (shown : textOfValue? datum.type value = some text) :
    Returns datum.key datum.type text ↔ datum.Settles := by
  rcases datum with ⟨key, type, first⟩
  cases type with
  | invalid => exact absurd rfl declared
  | int | bool | enum =>
      rw [encodeValue_word (by decide)] at encoded
      cases encoded
      dsimp only at shown ⊢
      rw [textOfValue?_word (by decide), integerText?_ofInt64, Option.some.injEq] at shown
      subst shown
      exact iff_of_true (returns_word (by decide) _) trivial
  | text | date =>
      cases encoded
      cases shown
      exact iff_of_true ⟨.string first, rfl, rfl⟩ trivial
  | float | double =>
      rw [encodeValue_float (by decide)] at encoded
      cases encoded
      dsimp only at shown ⊢
      rw [textOfValue?_float (by decide)] at shown
      exact returns_numberText_iff (by decide) shown
  | struct | array =>
      rw [encodeValue_structured rfl] at encoded
      dsimp only at shown ⊢
      rw [textOfValue?_structured rfl] at shown
      cases shown
      rw [returns_text_iff rfl encoded, Settles]
      simp only [encoded, Option.some.injEq, forall_eq']

/--
A datum that has been written and read once comes back unchanged exactly if it settles.  The
first time may have changed its text.
-/
theorem stable_iff_settles {datum once : Datum} {item : Value} (declared : datum.type ≠ .invalid)
    (written : datum.encodeItem = .ok item) (read : Carries item once) :
    once.Stable ↔ datum.Settles := by
  rcases encodeItem_eq_ok_iff.mp written with ⟨value, encoded, rfl⟩
  rcases once with ⟨key, type, text⟩
  rcases carries_itemOf_iff.mp read with ⟨rfl, rfl, -, shown, within⟩
  rw [stable_iff, and_iff_right declared, and_iff_right within]
  exact returns_iff_settles declared encoded shown

/--
Once a list of typed data has been written and read, writing and reading it again gives the
same list exactly if every datum settles: no float or double is minus zero, and the numbers
in every structure and array are read back from their own texts.  The condition is exact for
every list.
-/
theorem cycle_settled_iff {data once : List Datum} {wire : Value}
    (declared : ∀ datum ∈ data, datum.type ≠ .invalid) (written : encode data = .ok wire)
    (read : decode wire = .ok once) :
    (∃ again, encode once = .ok again ∧ decode again = .ok once) ↔
      ∀ datum ∈ data, datum.Settles := by
  rw [decode_encode_iff]
  rcases encode_eq_ok_iff.mp written with ⟨items, rfl, each⟩
  rcases decode_eq_ok_iff.mp read with ⟨_, same, carried⟩
  cases same
  clear written read
  induction each generalizing once with
  | nil =>
      cases carried
      exact iff_of_true (List.forall_mem_nil _) (List.forall_mem_nil _)
  | cons first _ ih =>
      cases carried with
      | cons carries carried =>
          rw [List.forall_mem_cons] at declared
          rw [List.forall_mem_cons, List.forall_mem_cons, ih declared.2 carried,
            stable_iff_settles declared.1 first carries]

/--
An integer and a float that stay after the first time.  Their spelling changes once and then
no more.
-/
theorem cycle_settled_iff_spelled :
    let data : List Datum := [⟨"n", .int, " 042"⟩, ⟨"x", .float, "1e3"⟩]
    let once : List Datum := [⟨"n", .int, "42"⟩, ⟨"x", .float, "1000"⟩]
    ∃ wire, (∀ datum ∈ data, datum.type ≠ .invalid) ∧ encode data = .ok wire ∧
      decode wire = .ok once ∧ ∃ again, encode once = .ok again ∧ decode again = .ok once := by
  intro data once
  have declared : ∀ datum ∈ data, datum.type ≠ .invalid := by decide
  have whole : textOfValue? .int (.number (.ofInt64 (integerOfText " 042"))) = some "42" := by
    decide
  have numeric : textOfValue? .float (.number (numberOfText "1e3")) = some "1000" := by
    decide +kernel
  have written : encode data = .ok (.array
      [itemOf "n" .int (.number (.ofInt64 (integerOfText " 042"))),
        itemOf "x" .float (.number (numberOfText "1e3"))]) := rfl
  have read : decode (.array [itemOf "n" .int (.number (.ofInt64 (integerOfText " 042"))),
      itemOf "x" .float (.number (numberOfText "1e3"))]) = .ok once :=
    decode_eq_ok_iff.mpr ⟨_, rfl,
      .cons (carries_itemOf_iff.mpr ⟨rfl, rfl, by decide, whole, by decide⟩)
      (.cons (carries_itemOf_iff.mpr ⟨rfl, rfl, by decide, numeric, by decide⟩) .nil)⟩
  have settles : ∀ datum ∈ data, datum.Settles := by
    refine List.forall_mem_cons.mpr ⟨trivial, List.forall_mem_cons.mpr ⟨?_, List.forall_mem_nil _⟩⟩
    show numberOfText "1e3" ≠ .float (Binary64.Finite.zero true)
    decide +kernel
  exact ⟨_, declared, written, read, (cycle_settled_iff declared written read).mpr settles⟩

/-! Data that do not settle. -/

/-- A datum alone in its list, written and read once.  What holds of it shows up in the list. -/
theorem unsettled_of_carries {datum once : Datum} {item : Value} (declared : datum.type ≠ .invalid)
    (written : datum.encodeItem = .ok item) (read : Carries item once)
    (unsettled : ¬ datum.Settles) :
    ∃ wire once, encode [datum] = .ok wire ∧ decode wire = .ok once ∧
      ¬ ∃ again, encode once = .ok again ∧ decode again = .ok once := by
  refine ⟨.array [item], [once], encode_eq_ok_iff.mpr ⟨_, rfl, .cons written .nil⟩,
    decode_eq_ok_iff.mpr ⟨_, rfl, .cons read .nil⟩, fun again => unsettled ?_⟩
  rw [← stable_iff_settles declared written read]
  exact decode_encode_iff.mp again once List.mem_cons_self

/--
A float that is read from its own text as the next smaller one.  It is not alone, since the
reader rounds more often than it would have to.
-/
def drifting : Binary64.Finite := ⟨false, 0x40C1E49BE4168954, by decide⟩

theorem ofText?_drifting :
    Value.ofText? "[9161.217898194366]" = some (.array [.number (.float drifting)]) := by
  have proper : Json.Numeral.Proper
      ⟨false, "9161".toList, some "217898194366".toList, none⟩ := by
    refine ⟨⟨by decide, List.all_eq_true.mp (by decide)⟩, by decide, ?_, ?_⟩
    · rintro _ ⟨⟩
      exact ⟨by decide, List.all_eq_true.mp (by decide)⟩
    · rintro _ ⟨⟩
  have number : Number.ofNumeral? ⟨false, "9161".toList, some "217898194366".toList, none⟩ =
      some (.float drifting) := by
    decide +kernel
  have read := Value.ofText?_of_spells (Json.Spells.array (.cons (Json.spells_numeral proper) .nil))
  simp only [Value.nestingLimit, Value.ofDocument?, Value.ofItems?, number, Option.map_some] at read
  exact read

theorem not_rereads_drifting : ¬ (Value.array [.number (.float drifting)]).Rereads := by
  have changed : Number.ofNumeral? (Number.float drifting).numeral ≠ some (.float drifting) := by
    decide +kernel
  intro rereads
  have member := Value.rereads_array.mp rereads _ List.mem_cons_self
  exact changed (Value.isReread_number_iff.mp ((Value.everywhere_single rfl).mp member))

/-- Minus zero has another text the second time, and so has an array with a float that drifts. -/
theorem cycle_unsettled :
    (∃ wire once, encode [⟨"f", .double, "-0.0"⟩] = .ok wire ∧ decode wire = .ok once ∧
      ¬ ∃ again, encode once = .ok again ∧ decode again = .ok once) ∧
    ∃ wire once, encode [⟨"f", .array, "[9161.217898194366]"⟩] = .ok wire ∧
      decode wire = .ok once ∧ ¬ ∃ again, encode once = .ok again ∧ decode again = .ok once := by
  constructor
  · have number : numberOfText "-0.0" = .float (Binary64.Finite.zero true) := by
      decide
    have encoded : encodeValue ⟨"f", .double, "-0.0"⟩ =
        .ok (.number (.float (Binary64.Finite.zero true))) := by
      rw [encodeValue_float (by decide), number]
    have read : Carries (itemOf "f" .double (.number (.float (Binary64.Finite.zero true))))
        ⟨"f", .double, "-0"⟩ :=
      carries_itemOf_iff.mpr ⟨rfl, rfl, by decide, numberText?_minusZero.1, by decide⟩
    refine unsettled_of_carries (by decide) (encodeItem_eq_ok_iff.mpr ⟨_, encoded, rfl⟩) read ?_
    exact fun settles => settles number
  · have encoded : encodeValue ⟨"f", .array, "[9161.217898194366]"⟩ =
        .ok (.array [.number (.float drifting)]) :=
      (encodeValue_structured rfl).mpr ofText?_drifting
    have shown : textOfValue? .array (.array [.number (.float drifting)]) =
        some "[9161.217898194365]" := by
      decide +kernel
    have read : Carries (itemOf "f" .array (.array [.number (.float drifting)]))
        ⟨"f", .array, "[9161.217898194365]"⟩ :=
      carries_itemOf_iff.mpr ⟨rfl, rfl, by decide, shown, by decide⟩
    refine unsettled_of_carries (by decide) (encodeItem_eq_ok_iff.mpr ⟨_, encoded, rfl⟩) read ?_
    exact fun settles => not_rereads_drifting (settles _ ofText?_drifting)

end Datum
end DeviceLink
