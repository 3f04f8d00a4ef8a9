import DeviceLink.Datum.Codec
import Mathlib.Data.List.Forall2

namespace DeviceLink

/-!
Lists of data element by element.  A list is written if each of its data is, and read if
each of its elements carries a datum; which datum that is depends on the element alone,
and its position is told only where reading fails.  `Carries` relates an element to the
datum that it carries, and the encoder and the decoder are both described by it.  From
there on a property of lists is one of their members, and `decode_encode_iff` says of a
list when it comes back as it was.
-/

namespace DataType

/-- The types whose values are signed words.  Truth values are written as words too. -/
def words : List DataType := [.int, .bool, .enum]

/-- The types whose values are numbers of any kind.  They keep a fraction if there is one. -/
def floats : List DataType := [.float, .double]

theorem name_injective {first second : DataType} (same : first.name = second.name) :
    first = second := by
  revert same
  cases first <;> cases second <;> decide

end DataType

namespace Datum

open Json (Value)

/-! Values of the declared types. -/

section

variable {key text : String} {type : DataType}

theorem encodeValue_word (word : type ∈ DataType.words) :
    encodeValue ⟨key, type, text⟩ = .ok (.number (.ofInt64 (integerOfText text))) := by
  simp only [DataType.words, List.mem_cons, List.not_mem_nil, or_false] at word
  rcases word with rfl | rfl | rfl <;> rfl

theorem textOfValue?_word (word : type ∈ DataType.words) (number : Json.Number) :
    textOfValue? type (.number number) = integerText? (.number number) := by
  simp only [DataType.words, List.mem_cons, List.not_mem_nil, or_false] at word
  rcases word with rfl | rfl | rfl <;> rfl

theorem encodeValue_float (float : type ∈ DataType.floats) :
    encodeValue ⟨key, type, text⟩ = .ok (.number (numberOfText text)) := by
  simp only [DataType.floats, List.mem_cons, List.not_mem_nil, or_false] at float
  rcases float with rfl | rfl <;> rfl

theorem textOfValue?_float (float : type ∈ DataType.floats) (value : Value) :
    textOfValue? type value = numberText? value := by
  simp only [DataType.floats, List.mem_cons, List.not_mem_nil, or_false] at float
  rcases float with rfl | rfl <;> rfl

theorem encodeValue_structured (structured : type.isStructured = true) {value : Value} :
    encodeValue ⟨key, type, text⟩ = .ok value ↔ Value.ofText? text = some value := by
  cases type <;> cases structured
  all_goals cases found : Value.ofText? text <;> simp [encodeValue, found]

theorem textOfValue?_structured (structured : type.isStructured = true) (value : Value) :
    textOfValue? type value = some value.text := by
  cases type <;> cases structured <;> rfl

end

/-! Writing. -/

/--
The object that carries a value with its key and type.  It is the form in which every datum
is written.
-/
def itemOf (key : String) (type : DataType) (value : Value) : Value :=
  .object [(identifierField, .string key), (typeField, .string type.name), (valueField, value)]

theorem encodeItem_eq_ok_iff {datum : Datum} {item : Value} :
    datum.encodeItem = .ok item ↔
      ∃ value, datum.encodeValue = .ok value ∧ item = itemOf datum.key datum.type value := by
  rw [encodeItem]
  constructor
  · intro written
    split at written
    · next value encoded =>
      cases written
      exact ⟨value, encoded, rfl⟩
    · cases written
  · rintro ⟨value, encoded, rfl⟩
    simp only [encoded]
    rfl

theorem encodeItems_eq_ok_iff {data : List Datum} {items : List Value} :
    encodeItems data = .ok items ↔
      List.Forall₂ (fun datum item => datum.encodeItem = .ok item) data items := by
  induction data generalizing items with
  | nil => rw [encodeItems, List.forall₂_nil_left_iff, Except.ok.injEq, eq_comm]
  | cons datum data ih =>
      rw [encodeItems, List.forall₂_cons_left_iff]
      constructor
      · intro written
        split at written
        · cases written
        · next item first =>
          split at written
          · cases written
          · next items rest =>
            cases written
            exact ⟨item, items, first, ih.mp rest, rfl⟩
      · rintro ⟨item, items, first, rest, rfl⟩
        simp only [first, ih.mpr rest]

theorem encode_eq_ok_iff {data : List Datum} {wire : Value} :
    encode data = .ok wire ↔ ∃ items, wire = .array items ∧
      List.Forall₂ (fun datum item => datum.encodeItem = .ok item) data items := by
  rw [encode]
  constructor
  · intro written
    split at written
    · next items each =>
      cases written
      exact ⟨items, rfl, encodeItems_eq_ok_iff.mp each⟩
    · cases written
  · rintro ⟨items, rfl, each⟩
    simp only [encodeItems_eq_ok_iff.mpr each]

/-! Reading. -/

/--
What an element of an array has to be for a datum to be read from it.  It says which datum
is read, so an element carries one at most.
-/
inductive Carries : Value → Datum → Prop
  | key {key : String} (sound : keyFault? key = none) : Carries (.string key) (keyOnly key)
  | typed {item value : Value} {datum : Datum}
      (key : item.get? identifierField = some (.string datum.key))
      (type : item.get? typeField = some (.string datum.type.name))
      (declared : datum.type ≠ .invalid)
      (given : item.get? valueField = some value)
      (text : textOfValue? datum.type value = some datum.value)
      (within : datum.WithinLimits) : Carries item datum

theorem keyFault?_eq_none_iff {key : String} :
    keyFault? key = none ↔ key ≠ "" ∧ key.utf8ByteSize ≤ keyLimit := by
  rw [keyFault?]
  split
  · next empty => simp [String.isEmpty_iff.mp empty]
  · next nonempty =>
    have filled : key ≠ "" := fun empty => nonempty (String.isEmpty_iff.mpr empty)
    split
    · simp
      omega
    · simp [filled]
      omega

theorem string?_eq_some_iff {value : Value} {s : String} :
    value.string? = some s ↔ value = .string s := by
  cases value <;> simp [Value.string?]

/-- A member that is a string.  It has to be there for that. -/
theorem bind_string?_eq_some_iff {member : Option Value} {s : String} :
    member.bind Value.string? = some s ↔ member = some (.string s) := by
  simp only [Option.bind_eq_some_iff, string?_eq_some_iff, exists_eq_right]

theorem ofName?_eq_some_iff {name : String} {type : DataType} :
    DataType.ofName? name = some type ↔ name = type.name ∧ type ≠ .invalid := by
  constructor
  · intro found
    have listed := List.mem_of_find?_eq_some found
    have same := List.find?_some found
    exact ⟨(of_decide_eq_true same).symm, (DataType.mem_declared_iff type).mp listed⟩
  · rintro ⟨rfl, declared⟩
    exact DataType.ofName?_name declared

theorem decodeTyped_eq_ok_iff {index : Nat} {key : String} {item : Value} {datum : Datum} :
    decodeTyped index key item = .ok datum ↔
      datum.key = key ∧ item.get? typeField = some (.string datum.type.name) ∧
        datum.type ≠ .invalid ∧ (∃ value, item.get? valueField = some value ∧
          textOfValue? datum.type value = some datum.value) ∧ datum.WithinLimits := by
  rw [decodeTyped]
  constructor
  · intro read
    split at read
    · cases read
    next name named =>
    split at read
    · cases read
    next type known =>
    split at read
    · cases read
    next value given =>
    split at read
    · cases read
    next text shown =>
    split at read
    · cases read
    next within =>
    cases read
    rcases ofName?_eq_some_iff.mp known with ⟨rfl, declared⟩
    exact ⟨rfl, bind_string?_eq_some_iff.mp named, declared, ⟨value, given, shown⟩,
      (limitFault?_eq_none_iff _).mp within⟩
  · rcases datum with ⟨key, type, text⟩
    rintro ⟨rfl, named, declared, ⟨value, given, shown⟩, within⟩
    simp only [bind_string?_eq_some_iff.mpr named, DataType.ofName?_name declared, given, shown,
      (limitFault?_eq_none_iff _).mpr within]

theorem decodeItem_eq_ok_iff {index : Nat} {item : Value} {datum : Datum} :
    decodeItem index item = .ok datum ↔ Carries item datum := by
  rw [decodeItem.eq_def]
  constructor
  · intro read
    split at read
    · next key =>
      split at read
      · cases read
      · next sound =>
        cases read
        exact .key sound
    · next members =>
      split at read
      · cases read
      next key named =>
      split at read
      · cases read
      next sound =>
      rcases decodeTyped_eq_ok_iff.mp read with ⟨rfl, type, declared, ⟨value, given, shown⟩, within⟩
      exact .typed (bind_string?_eq_some_iff.mp named) type declared given shown within
    · cases read
  · intro carries
    cases carries with
    | key sound => simp only [sound]
    | typed key type declared given shown within =>
        have sound : keyFault? datum.key = none :=
          keyFault?_eq_none_iff.mpr ⟨within.1, within.2.1⟩
        cases item with
        | object members =>
            simp only [bind_string?_eq_some_iff.mpr key, sound]
            exact decodeTyped_eq_ok_iff.mpr ⟨rfl, type, declared, ⟨_, given, shown⟩, within⟩
        | _ => cases key

theorem decodeFrom_eq_ok_iff {index : Nat} {items : List Value} {data : List Datum} :
    decodeFrom index items = .ok data ↔ List.Forall₂ Carries items data := by
  induction items generalizing index data with
  | nil => rw [decodeFrom, List.forall₂_nil_left_iff, Except.ok.injEq, eq_comm]
  | cons item items ih =>
      rw [decodeFrom, List.forall₂_cons_left_iff]
      constructor
      · intro read
        split at read
        · cases read
        · next datum first =>
          split at read
          · cases read
          · next data rest =>
            cases read
            exact ⟨datum, data, decodeItem_eq_ok_iff.mp first, ih.mp rest, rfl⟩
      · rintro ⟨datum, data, first, rest, rfl⟩
        simp only [decodeItem_eq_ok_iff.mpr first, ih.mpr rest]

theorem decode_eq_ok_iff {wire : Value} {data : List Datum} :
    decode wire = .ok data ↔ ∃ items, wire = .array items ∧ List.Forall₂ Carries items data := by
  constructor
  · intro read
    cases wire with
    | array items => exact ⟨items, rfl, decodeFrom_eq_ok_iff.mp read⟩
    | _ => cases read
  · rintro ⟨items, rfl, each⟩
    exact decodeFrom_eq_ok_iff.mpr each

/--
What is read from an object that carries a value with its key and type.  Its key and type
have to be sound, and the value has to suit the type.
-/
theorem carries_itemOf_iff {key : String} {type : DataType} {value : Value} {datum : Datum} :
    Carries (itemOf key type value) datum ↔
      datum.key = key ∧ datum.type = type ∧ type ≠ .invalid ∧
        textOfValue? type value = some datum.value ∧ datum.WithinLimits := by
  have identifier : (itemOf key type value).get? identifierField = some (.string key) := rfl
  have named : (itemOf key type value).get? typeField = some (.string type.name) := rfl
  have valued : (itemOf key type value).get? valueField = some value := rfl
  constructor
  · intro carries
    cases carries with
    | typed found label declared given shown within =>
        rw [identifier, Option.some.injEq, Value.string.injEq] at found
        rw [named, Option.some.injEq, Value.string.injEq] at label
        rw [valued] at given
        cases given
        cases DataType.name_injective label
        exact ⟨found.symm, rfl, declared, shown, within⟩
  · rcases datum with ⟨key, type, text⟩
    rintro ⟨rfl, rfl, declared, shown, within⟩
    exact .typed identifier named declared valued shown within

/-! Writing and reading. -/

/--
A datum that comes back from the object that it is written as.  Reading and writing are
looked at together here.
-/
def Stable (datum : Datum) : Prop := ∃ item, datum.encodeItem = .ok item ∧ Carries item datum

theorem stable_iff {datum : Datum} :
    datum.Stable ↔ datum.type ≠ .invalid ∧ datum.WithinLimits ∧
      ∃ value, datum.encodeValue = .ok value ∧
        textOfValue? datum.type value = some datum.value := by
  constructor
  · rintro ⟨item, written, carries⟩
    rcases encodeItem_eq_ok_iff.mp written with ⟨value, encoded, rfl⟩
    rcases carries_itemOf_iff.mp carries with ⟨-, -, declared, shown, within⟩
    exact ⟨declared, within, value, encoded, shown⟩
  · rintro ⟨declared, within, value, encoded, shown⟩
    exact ⟨_, encodeItem_eq_ok_iff.mpr ⟨value, encoded, rfl⟩,
      carries_itemOf_iff.mpr ⟨rfl, rfl, declared, shown, within⟩⟩

/--
A list that leads to another and back does so element by element.  Each element may be
looked at by itself then.
-/
theorem exists_forall₂_iff {α β : Type} {there : α → β → Prop} {back : β → α → Prop}
    {sources : List α} :
    (∃ results, List.Forall₂ there sources results ∧ List.Forall₂ back results sources) ↔
      ∀ source ∈ sources, ∃ result, there source result ∧ back result source := by
  constructor
  · rintro ⟨results, gone, returned⟩
    induction gone with
    | nil => exact List.forall_mem_nil _
    | cons first _ ih =>
        cases returned with
        | cons last returned =>
            exact List.forall_mem_cons.mpr ⟨⟨_, first, last⟩, ih returned⟩
  · intro each
    induction sources with
    | nil => exact ⟨[], .nil, .nil⟩
    | cons source sources ih =>
        rw [List.forall_mem_cons] at each
        rcases each.1 with ⟨result, first, last⟩
        rcases ih each.2 with ⟨results, gone, returned⟩
        exact ⟨result :: results, .cons first gone, .cons last returned⟩

/--
A list comes back from the array that it is written as exactly if each of its data does.  No
element has any effect on another.
-/
theorem decode_encode_iff {data : List Datum} :
    (∃ wire, encode data = .ok wire ∧ decode wire = .ok data) ↔ ∀ datum ∈ data, datum.Stable := by
  refine Iff.trans ?_ exists_forall₂_iff
  constructor
  · rintro ⟨wire, written, read⟩
    rcases encode_eq_ok_iff.mp written with ⟨items, rfl, each⟩
    rcases decode_eq_ok_iff.mp read with ⟨_, same, carried⟩
    cases same
    exact ⟨items, each, carried⟩
  · rintro ⟨items, each, carried⟩
    exact ⟨.array items, encode_eq_ok_iff.mpr ⟨items, rfl, each⟩,
      decode_eq_ok_iff.mpr ⟨items, rfl, carried⟩⟩

end Datum
end DeviceLink
