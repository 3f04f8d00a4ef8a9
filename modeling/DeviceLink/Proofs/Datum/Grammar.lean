import DeviceLink.Proofs.Datum.Limits

namespace DeviceLink
namespace Datum

/-!
The grammar of data on the wire, told without reading any: which elements an array may
hold, and how large they may be.  Reading accepts exactly the arrays of such elements.
Where it fails, the first element that is none of them is to blame, and nothing behind
that element makes a difference.  `Element` is the grammar of a single element and
`Offends` says where a list first departs from it.  Neither mentions the decoder, and
`decode_by_grammar` is the statement that joins the two.
-/

open Json (Value)

/--
A value of the kind that a declared type asks for, and not too large.  The size is that of
the text that reading makes of it.
-/
inductive Suits : DataType → Value → Prop
  | number {type : DataType} (counts : type ∈ [.int, .enum, .float, .double, .bool])
      (number : Json.Number) : Suits type (.number number)
  | flag (value : Bool) : Suits .bool (.bool value)
  | string {type : DataType} (plain : type ∈ [.text, .date]) {text : String}
      (short : text.utf8ByteSize ≤ 2048) : Suits type (.string text)
  | document {type : DataType} (nested : type ∈ [.struct, .array]) {value : Value}
      (short : value.text.utf8ByteSize ≤ 2048) : Suits type value

/--
A key of the length that keys may have.  Bytes are counted, so a key may have fewer
characters.
-/
def IsKey (key : String) : Prop := 1 ≤ key.utf8ByteSize ∧ key.utf8ByteSize ≤ 64

/--
An element that an array of data may hold.  It is a key alone, or an object with a key, a
declared type and a suitable value.
-/
inductive Element : Value → Prop
  | key {key : String} (sound : IsKey key) : Element (.string key)
  | typed {members : Json.Members} {key : String} {type : DataType} {value : Value}
      (identified : members.get? "identifier" = some (.string key)) (sound : IsKey key)
      (named : members.get? "type" = some (.string type.name))
      (declared : type ∈ DataType.declared)
      (given : members.get? "value" = some value) (suits : Suits type value) :
      Element (.object members)

/-! ## Elements and the data they carry -/

section

variable {type : DataType} {value : Value}

theorem isKey_iff {key : String} : IsKey key ↔ key ≠ "" ∧ key.utf8ByteSize ≤ keyLimit := by
  refine and_congr_left fun _ => ?_
  rw [Nat.one_le_iff_ne_zero, ne_eq, String.utf8ByteSize_eq_zero_iff]

/--
A value suits a type exactly if it has a text of that type that is short enough.  This is
where the grammar meets the reader.
-/
theorem suits_iff :
    Suits type value ↔
      ∃ text, textOfValue? type value = some text ∧ text.utf8ByteSize ≤ valueLimit := by
  constructor
  · intro suits
    cases suits with
    | number counts number =>
        simp only [List.mem_cons, List.not_mem_nil, or_false] at counts
        rcases counts with rfl | rfl | rfl | rfl | rfl
        · exact integerText?_short number
        · exact integerText?_short number
        · exact numberText?_short number
        · exact numberText?_short number
        · exact integerText?_short number
    | flag flag => cases flag <;> exact ⟨_, rfl, by decide⟩
    | string plain short =>
        simp only [List.mem_cons, List.not_mem_nil, or_false] at plain
        rcases plain with rfl | rfl <;> exact ⟨_, rfl, short⟩
    | document nested short =>
        simp only [List.mem_cons, List.not_mem_nil, or_false] at nested
        rcases nested with rfl | rfl <;> exact ⟨_, rfl, short⟩
  · rintro ⟨text, shown, short⟩
    cases type with
    | invalid => cases shown
    | struct | array =>
        cases shown
        exact .document (by decide) short
    | text | date =>
        rcases string?_eq_some_iff.mp shown with rfl
        exact .string (by decide) short
    | int | enum | float | double =>
        cases value with
        | number number => exact .number (by decide) number
        | _ => cases shown
    | bool =>
        cases value with
        | number number => exact .number (by decide) number
        | bool flag => exact .flag flag
        | _ => cases shown

/--
The elements of the grammar are those from which a datum can be read.  So membership in the
grammar can be decided by reading.
-/
theorem element_iff {element : Value} : Element element ↔ ∃ datum, Carries element datum := by
  constructor
  · intro sound
    cases sound with
    | key sound => exact ⟨_, .key (keyFault?_eq_none_iff.mpr (isKey_iff.mp sound))⟩
    | @typed members key type value identified sound named declared given suits =>
        rcases suits_iff.mp suits with ⟨text, shown, short⟩
        rcases isKey_iff.mp sound with ⟨filled, fits⟩
        exact ⟨⟨key, type, text⟩, .typed identified named
          ((DataType.mem_declared_iff type).mp declared) given shown ⟨filled, fits, short⟩⟩
  · rintro ⟨datum, carries⟩
    cases carries with
    | key sound => exact .key (isKey_iff.mpr (keyFault?_eq_none_iff.mp sound))
    | typed identified named declared given shown within =>
        cases element with
        | object members =>
            exact .typed identified (isKey_iff.mpr ⟨within.1, within.2.1⟩) named
              ((DataType.mem_declared_iff datum.type).mpr declared) given
              (suits_iff.mpr ⟨_, shown, within.2.2⟩)
        | _ => cases identified

end

/--
What is read from an element: the key alone, or the key, a declared type and a value.
Members of other names are passed over.
-/
structure ReadFrom (element : Value) (datum : Datum) : Prop where
  within : datum.limitFault? = none
  key_eq : element = .string datum.key ∨ element.get? "identifier" = some (.string datum.key)
  /-- Only a string says nothing but the key.  Such a datum has no type and no value. -/
  bare_iff : (∃ key, element = .string key) ↔ datum.type = .invalid ∧ datum.value = ""
  typed_iff : (∃ members, element = .object members) ↔
    element.get? "type" = some (.string datum.type.name) ∧ datum.type ≠ .invalid

theorem readFrom_of_carries {element : Value} {datum : Datum} (carries : Carries element datum) :
    ReadFrom element datum := by
  cases carries with
  | @key key sound =>
      have bounds := keyFault?_eq_none_iff.mp sound
      refine ⟨?_, .inl rfl, iff_of_true ⟨key, rfl⟩ ⟨rfl, rfl⟩, iff_of_false nofun nofun⟩
      exact (limitFault?_eq_none_iff _).mpr ⟨bounds.1, bounds.2, Nat.zero_le _⟩
  | typed identified named declared given shown within =>
      refine ⟨(limitFault?_eq_none_iff _).mpr within, .inr identified, iff_of_false ?_ ?_, ?_⟩
      · rintro ⟨key, rfl⟩
        cases identified
      · exact fun bare => declared bare.1
      · cases element with
        | object members => exact iff_of_true ⟨members, rfl⟩ ⟨named, declared⟩
        | _ => cases identified

/-! ## The first element that is none -/

/-- Reading goes through a list from the front.  What stands behind a fault is not reached. -/
theorem decodeFrom_append (index : Nat) (before rest : List Value) :
    decodeFrom index (before ++ rest) =
      match decodeFrom index before with
      | .ok data => (decodeFrom (index + before.length) rest).map (data ++ ·)
      | .error fault => .error fault := by
  induction before generalizing index with
  | nil =>
      rw [List.nil_append, List.length_nil, Nat.add_zero, decodeFrom.eq_1]
      cases decodeFrom index rest <;> rfl
  | cons element before ih =>
      rw [List.cons_append, decodeFrom.eq_2, decodeFrom.eq_2, ih, List.length_cons,
        Nat.add_comm before.length 1, ← Nat.add_assoc]
      cases decodeItem index element with
      | error fault => rfl
      | ok datum =>
          cases decodeFrom (index + 1) before with
          | error fault => rfl
          | ok data => cases decodeFrom (index + 1 + before.length) rest <;> rfl

/--
A list that cannot be read has a first element that cannot.  Everything in front of it can
be read.
-/
theorem exists_offender {index : Nat} {elements : List Value} {fault : DecodeFault}
    (failed : decodeFrom index elements = .error fault) :
    ∃ before offender rest, elements = before ++ offender :: rest ∧
      (∃ data, decodeFrom index before = .ok data) ∧
      decodeItem (index + before.length) offender = .error fault := by
  induction elements generalizing index with
  | nil => cases failed
  | cons element elements ih =>
      rw [decodeFrom] at failed
      split at failed
      · next refused =>
        cases failed
        exact ⟨[], element, elements, rfl, ⟨[], rfl⟩, refused⟩
      · next datum first =>
        split at failed
        · next later =>
          cases failed
          rcases ih later with ⟨before, offender, rest, rfl, ⟨data, read⟩, refused⟩
          refine ⟨element :: before, offender, rest, rfl, ⟨datum :: data, ?_⟩, ?_⟩
          · simp only [decodeFrom, first, read]
          · rw [List.length_cons, Nat.add_comm before.length 1, ← Nat.add_assoc]
            exact refused
        · cases failed

/--
The first element that is none of the grammar, and what reading says about it.  The fault
names its position and what is wrong with it.
-/
structure Offends (elements : List Value) (fault : DecodeFault) (index : Nat) : Prop where
  offender : ∃ element, elements[index]? = some element ∧ ¬ Element element
  sound_before : ∀ element ∈ elements.take index, Element element
  read_before : ∃ data, decode (.array (elements.take index)) = .ok data
  refused : decode (.array (elements.take (index + 1))) = .error fault

theorem forall_element_iff {elements : List Value} :
    (∀ element ∈ elements, Element element) ↔ ∃ data, decodeFrom 0 elements = .ok data := by
  simp only [decodeFrom_eq_ok_iff, element_iff]
  induction elements with
  | nil => exact iff_of_true (List.forall_mem_nil _) ⟨[], .nil⟩
  | cons element elements ih =>
      rw [List.forall_mem_cons, ih]
      simp only [List.forall₂_cons_left_iff]
      constructor
      · rintro ⟨⟨datum, first⟩, data, rest⟩
        exact ⟨datum :: data, datum, data, first, rest, rfl⟩
      · rintro ⟨_, datum, data, first, rest, -⟩
        exact ⟨⟨datum, first⟩, data, rest⟩

theorem offends {elements : List Value} {fault : DecodeFault}
    (failed : decode (.array elements) = .error fault) : ∃ index, Offends elements fault index := by
  rcases exists_offender failed with ⟨before, offender, rest, rfl, ⟨data, read⟩, refused⟩
  have front : (before ++ offender :: rest).take before.length = before := List.take_left
  have through : (before ++ offender :: rest).take (before.length + 1) = before ++ [offender] := by
    rw [List.take_length_add_append, List.take_one, List.head?_cons, Option.toList_some]
  refine ⟨before.length, ⟨offender, ?_, ?_⟩, ?_, ?_, ?_⟩
  · rw [List.getElem?_append_right (Nat.le_refl _), Nat.sub_self]
    rfl
  · intro sound
    rcases element_iff.mp sound with ⟨datum, carries⟩
    rw [decodeItem_eq_ok_iff.mpr carries] at refused
    cases refused
  · rw [front]
    exact forall_element_iff.mpr ⟨data, read⟩
  · rw [front]
    exact ⟨data, read⟩
  · rw [through]
    show decodeFrom 0 (before ++ [offender]) = .error fault
    rw [decodeFrom_append, read]
    simp only [decodeFrom, refused]
    rfl

/-! ## The whole -/

/-- What reading makes of a value.  It is read, or it is refused for a reason that can be told. -/
structure ByGrammar (wire : Value) : Prop where
  accepted_iff : (∃ data, decode wire = .ok data) ↔
    ∃ elements, wire = .array elements ∧ ∀ element ∈ elements, Element element
  /-- One datum is read from each element, in their order.  None is left out and none is added. -/
  read : ∀ elements data, wire = .array elements → decode wire = .ok data →
    List.Forall₂ ReadFrom elements data
  refused : ∀ fault, decode wire = .error fault →
    (∃ reason, fault.toCodecError = .invalidParameter reason) ∧
      ∀ elements, wire = .array elements → ∃ index, Offends elements fault index

/--
Reading accepts what the grammar allows, and points at the first element that it does not.
That is so for every value, whatever it holds.
-/
theorem decode_by_grammar (wire : Value) : ByGrammar wire where
  accepted_iff := by
    constructor
    · rintro ⟨data, read⟩
      rcases decode_eq_ok_iff.mp read with ⟨elements, rfl, -⟩
      exact ⟨elements, rfl, forall_element_iff.mpr ⟨data, read⟩⟩
    · rintro ⟨elements, rfl, sound⟩
      exact forall_element_iff.mp sound
  read := by
    rintro elements data rfl read
    exact (decodeFrom_eq_ok_iff.mp read).imp fun _ _ carries => readFrom_of_carries carries
  refused := by
    intro fault failed
    refine ⟨⟨fault.message, rfl⟩, ?_⟩
    rintro elements rfl
    exact offends failed

end Datum
end DeviceLink
