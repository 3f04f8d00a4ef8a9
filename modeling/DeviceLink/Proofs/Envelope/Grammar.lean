import DeviceLink.Proofs.Envelope.Reread
import DeviceLink.Proofs.Json.Record

namespace DeviceLink

/-!
The grammar of envelopes.  A document describes an envelope if it is an object, or an
array with the fields in their declared order, that gives each field at most once and in
its form.  Reading a text finds the envelope that its document describes, and nothing
else, so each kind of frame and each error comes from exactly the texts that the grammar
names.  `Describes` is the grammar, and `ReadBy` says for a text and a grammar what each
kind of frame comes from.
-/

namespace Envelope

open Json (Document Record Value)

/--
What a record gives for the fields of an envelope.  Each field is given once, or left out if
it may be.
-/
structure Gives (record : Record) (envelope : Envelope) : Prop where
  version : Json.Optional Document.IsString (record.values "version") envelope.version
  messageId : ∃ document, record.values "messageId" = [document] ∧
    document.IsInteger envelope.messageId.toNat
  method : Json.Optional Document.IsString (record.values "method") envelope.method
  code : Json.Optional (fun document code => document.IsInteger code.toInt)
    (record.values "code") envelope.code
  /--
  Any value that nests within the limit; null is a value like others here.  Without a
  payload there is an empty object.
  -/
  payload : record.values "payload" = [] ∧ envelope.payload = .object [] ∨
    ∃ document, record.values "payload" = [document] ∧
      Value.ofDocument? payloadLimit document = some envelope.payload

/--
The documents that describe an envelope.  Both forms lead to a record, and the record to the
envelope.
-/
inductive Describes : Document → Envelope → Prop
  /--
  An object, with members of other names anywhere in it.  Those are passed over whatever
  they are, as long as their names can be read.
  -/
  | object {members : List (List Json.Quoted.Piece × Document)} {record : Record}
      {envelope : Envelope} (named : List.Forall₂ Record.Names members record)
      (gives : Gives record envelope) : Describes (.object members) envelope
  /--
  An array, with the fields in their declared order from the first one on.  Fields at the
  end may be missing.
  -/
  | array {items : List Document} {envelope : Envelope} (few : items.length ≤ fields.length)
      (gives : Gives (Fields.ofItems fields items) envelope) : Describes (.array items) envelope

section

variable {record other : Record} {envelope : Envelope}

theorem Gives.single (gives : Gives record envelope) :
    ∀ name ∈ fields, (record.values name).length ≤ 1 := by
  simp only [fields, List.forall_mem_cons, List.not_mem_nil, false_imp_iff, implies_true, and_true]
  refine ⟨gives.version.length_le_one, ?_, gives.method.length_le_one, gives.code.length_le_one, ?_⟩
  · rcases gives.messageId with ⟨document, given, -⟩
    rw [given]
    exact Nat.le_refl _
  · rcases gives.payload with ⟨missing, -⟩ | ⟨document, given, -⟩
    · rw [missing]
      exact Nat.zero_le _
    · rw [given]
      exact Nat.le_refl _

/--
Only the documents given for the fields matter, and not their order.  Whatever else is in
the records may differ.
-/
theorem Gives.of_perm (gives : Gives record envelope)
    (same : ∀ name ∈ fields, (record.values name).Perm (other.values name)) :
    Gives other envelope := by
  have equal : ∀ name ∈ fields, other.values name = record.values name := by
    intro name inside
    have perm := (same name inside).symm
    rcases Json.eq_nil_or_singleton (gives.single name inside) with missing | ⟨document, given⟩
    · rw [missing] at perm ⊢
      exact perm.eq_nil
    · rw [given] at perm ⊢
      exact perm.eq_singleton
  simp only [fields, List.forall_mem_cons, List.not_mem_nil, false_imp_iff, implies_true,
    and_true] at equal
  rcases equal with ⟨version, messageId, method, code, payload⟩
  exact
    { version := version ▸ gives.version
      messageId := messageId ▸ gives.messageId
      method := method ▸ gives.method
      code := code ▸ gives.code
      payload := payload ▸ gives.payload }

/--
A record that gives each name once is read as the envelope that its fields describe.  The
reader and the grammar meet here.
-/
theorem ofRecord?_eq_some_iff (distinct : (record.map Prod.fst).Nodup) :
    ofRecord? record = some envelope ↔ Gives record envelope := by
  have single := Fields.length_values_le_one distinct
  have version : record.withDefault? "version" (Document.nullable? Document.string?) none =
      some envelope.version ↔
        Json.Optional Document.IsString (record.values "version") envelope.version :=
    Json.withDefault?_nullable_iff (single _) rfl Document.string?_eq_some_iff
  have method : record.withDefault? "method" (Document.nullable? Document.string?) none =
      some envelope.method ↔
        Json.Optional Document.IsString (record.values "method") envelope.method :=
    Json.withDefault?_nullable_iff (single _) rfl Document.string?_eq_some_iff
  have code : record.withDefault? "code" (Document.nullable? Document.int32?) none =
      some envelope.code ↔
        Json.Optional (fun document code => document.IsInteger code.toInt)
          (record.values "code") envelope.code :=
    Json.withDefault?_nullable_iff (single _) rfl Document.int32?_eq_some_iff
  have messageId : record.required? "messageId" Document.uint32? = some envelope.messageId ↔
      ∃ document, record.values "messageId" = [document] ∧
        document.IsInteger envelope.messageId.toNat := by
    rw [Fields.required?, Fields.get?_eq_head?]
    rcases Json.eq_nil_or_singleton (single "messageId") with missing | ⟨document, given⟩
    · simp [missing]
    · simp [given, Document.uint32?_eq_some_iff]
  have payload : record.withDefault? "payload" (Value.ofDocument? (Value.nestingLimit - 1))
      (.object []) = some envelope.payload ↔
        record.values "payload" = [] ∧ envelope.payload = .object [] ∨
          ∃ document, record.values "payload" = [document] ∧
            Value.ofDocument? payloadLimit document = some envelope.payload := by
    have limit : Value.nestingLimit - 1 = payloadLimit := rfl
    rw [Fields.withDefault?, Fields.get?_eq_head?, limit]
    rcases Json.eq_nil_or_singleton (single "payload") with missing | ⟨document, given⟩
    · simp [missing, eq_comm]
    · simp [given]
  constructor
  · intro read
    unfold ofRecord? at read
    split at read
    · next versionRead idRead methodRead codeRead payloadRead =>
      cases read
      exact ⟨version.mp versionRead, messageId.mp idRead, method.mp methodRead,
        code.mp codeRead, payload.mp payloadRead⟩
    · cases read
  · intro gives
    simp only [ofRecord?, version.mpr gives.version, messageId.mpr gives.messageId,
      method.mpr gives.method, code.mpr gives.code, payload.mpr gives.payload]

theorem gives_known_iff : Gives (Fields.known fields record) envelope ↔ Gives record envelope := by
  have same : ∀ name ∈ fields,
      ((Fields.known fields record).values name).Perm (record.values name) := by
    intro name listed
    rw [Fields.values_known listed]
  constructor
  · exact fun gives => gives.of_perm same
  · exact fun gives => gives.of_perm fun name listed => (same name listed).symm

/--
Known fields that are given as an envelope needs them are distinct.  A field that is given
twice describes no envelope.
-/
theorem Gives.distinct (gives : Gives record envelope) :
    ((Fields.known fields record).map Prod.fst).Nodup := by
  have known : ∀ field ∈ Fields.known fields record, field.1 ∈ fields := fun field inside =>
    List.contains_iff_mem.mp (List.mem_filter.mp inside).2
  exact Fields.nodup_of_values known (gives_known_iff.mpr gives).single

theorem ofDocument?_eq_some_iff {document : Document} :
    (Record.ofDocument? fields document).bind ofRecord? = some envelope ↔
      Describes document envelope := by
  rw [Option.bind_eq_some_iff]
  constructor
  · rintro ⟨record, found, read⟩
    cases document with
    | object members =>
        rcases Record.ofMembers?_eq_some_iff.mp found with ⟨all, named, rfl, distinct⟩
        exact .object named (gives_known_iff.mp ((ofRecord?_eq_some_iff distinct).mp read))
    | array items =>
        rw [Record.ofDocument?] at found
        split at found
        · next few =>
          cases found
          have distinct := (Fields.names_ofItems fields items).nodup (by decide)
          exact .array few ((ofRecord?_eq_some_iff distinct).mp read)
        · cases found
    | _ => cases found
  · intro describes
    cases describes with
    | object named gives =>
        refine ⟨_, Record.ofMembers?_eq_some_iff.mpr ⟨_, named, rfl, gives.distinct⟩, ?_⟩
        exact (ofRecord?_eq_some_iff gives.distinct).mpr (gives_known_iff.mpr gives)
    | @array items _ few gives =>
        have distinct := (Fields.names_ofItems fields items).nodup (by decide)
        exact ⟨_, if_pos few, (ofRecord?_eq_some_iff distinct).mpr gives⟩

/-- A text that describes an envelope.  It is the text of a document that does. -/
def Written (text : String) (envelope : Envelope) : Prop :=
  ∃ document, Document.ofText? text = some document ∧ Describes document envelope

/--
What is read from a text is the envelope that the text describes.  A text describes one
envelope at most.
-/
theorem ofText?_eq_some_iff {text : String} :
    ofText? text = some envelope ↔ Written text envelope := by
  rw [ofText?, Written]
  constructor
  · intro read
    split at read
    · next document found => exact ⟨document, found, ofDocument?_eq_some_iff.mp read⟩
    · cases read
  · rintro ⟨document, found, describes⟩
    simp only [found]
    exact ofDocument?_eq_some_iff.mpr describes

theorem written_iff {text : String} {document : Document}
    (read : Document.ofText? text = some document) :
    Written text envelope ↔ Describes document envelope := by
  simp only [Written, read, Option.some.injEq, exists_eq_left']

theorem describes_object_iff {members : List (List Json.Quoted.Piece × Document)}
    (named : List.Forall₂ Record.Names members record) :
    Describes (.object members) envelope ↔ Gives record envelope := by
  constructor
  · rintro (⟨others, gives⟩ | _)
    exact Record.names_unique others named ▸ gives
  · exact .object named

/--
Objects with the same known members, in any order, are read alike.  So senders are free in
how they order them.
-/
theorem ofText?_eq_of_perm {first second : String}
    {members others : List (List Json.Quoted.Piece × Document)}
    (here : Document.ofText? first = some (.object members))
    (there : Document.ofText? second = some (.object others))
    (named : List.Forall₂ Record.Names members record)
    (renamed : List.Forall₂ Record.Names others other)
    (same : (Fields.known fields record).Perm (Fields.known fields other)) :
    ofText? first = ofText? second := by
  have values : ∀ name ∈ fields, (record.values name).Perm (other.values name) := by
    intro name listed
    rw [← Fields.values_known listed record, ← Fields.values_known listed other]
    exact (same.filter _).map _
  refine Option.ext fun envelope => ?_
  rw [ofText?_eq_some_iff, ofText?_eq_some_iff, written_iff here, written_iff there,
    describes_object_iff named, describes_object_iff renamed]
  constructor
  · exact fun gives => gives.of_perm values
  · exact fun gives => gives.of_perm fun name listed => (values name listed).symm

end

/-- A text that is an object with the members of an envelope.  Arrays are left out here. -/
def WrittenAsObject (text : String) (envelope : Envelope) : Prop :=
  ∃ members record, Document.ofText? text = some (.object members) ∧
    List.Forall₂ Record.Names members record ∧ Gives record envelope

theorem written_of_object {text : String} {envelope : Envelope}
    (written : WrittenAsObject text envelope) : Written text envelope := by
  rcases written with ⟨members, record, read, named, gives⟩
  exact ⟨_, read, .object named gives⟩

theorem writtenAsObject_of_written {text : String} {envelope : Envelope}
    (written : Written text envelope)
    (no_array : ∀ items, Document.ofText? text = some (.array items) →
      ¬ Describes (.array items) envelope) : WrittenAsObject text envelope := by
  rcases written with ⟨document, read, describes⟩
  cases describes with
  | object named gives => exact ⟨_, _, read, named, gives⟩
  | array few gives => exact absurd (.array few gives) (no_array _ read)

/--
A text is read by a grammar, which says what envelope a text stands for.  The fields are the
five ways in which a text can be read.
-/
structure ReadBy (grammar : String → Envelope → Prop) (text : String) : Prop where
  response : ∀ messageId code payload,
    Inbound.ofText text = .ok (.response messageId code payload) ↔
      ∃ version, grammar text ⟨version, messageId, none, some code, payload⟩
  call : ∀ messageId method payload,
    Inbound.ofText text = .ok (.call messageId method payload) ↔
      ∃ version, grammar text ⟨version, messageId, some method, none, payload⟩
  ambiguous : ∀ messageId, Inbound.ofText text = .error (.ambiguous messageId) ↔
    ∃ version method code payload,
      grammar text ⟨version, messageId, some method, some code, payload⟩
  noDiscriminant : ∀ messageId, Inbound.ofText text = .error (.noDiscriminant messageId) ↔
    ∃ version payload, grammar text ⟨version, messageId, none, none, payload⟩
  malformed : Inbound.ofText text = .error .malformed ↔ ∀ envelope, ¬ grammar text envelope

theorem readBy_written (text : String) : ReadBy Written text := by
  have kinds : ∀ envelope, Written text envelope ↔ ofText? text = some envelope :=
    fun _ => ofText?_eq_some_iff.symm
  constructor
  all_goals
    simp only [kinds, Inbound.ofText]
    cases ofText? text with
    | none => simp
    | some envelope =>
        rcases envelope with ⟨version, messageId, method, code, payload⟩
        cases method <;> cases code <;> simp [classify]

/-- Two grammars that agree on a text read it alike.  Only the envelopes of that text matter. -/
theorem ReadBy.congr {first second : String → Envelope → Prop} {text : String}
    (same : ∀ envelope, first text envelope ↔ second text envelope) (read : ReadBy first text) :
    ReadBy second text where
  response := by simpa only [same] using read.response
  call := by simpa only [same] using read.call
  ambiguous := by simpa only [same] using read.ambiguous
  noDiscriminant := by simpa only [same] using read.noDiscriminant
  malformed := by simpa only [same] using read.malformed

/--
Only a list of fields comes between a text and the grammar of objects.  The reader is more
generous than that grammar there.
-/
theorem readBy_object_iff (text : String) :
    ReadBy WrittenAsObject text ↔
      ∀ items envelope, Document.ofText? text = some (.array items) →
        ¬ Describes (.array items) envelope := by
  constructor
  · intro read items envelope found describes
    have refused : Inbound.ofText text = .error .malformed := by
      refine read.malformed.mpr ?_
      rintro other ⟨members, record, object, -, -⟩
      rw [found] at object
      cases object
    exact (readBy_written text).malformed.mp refused envelope ⟨_, found, describes⟩
  · intro no_array
    refine (readBy_written text).congr fun envelope => ⟨fun written => ?_, written_of_object⟩
    exact writtenAsObject_of_written written fun items found => no_array items envelope found

/--
Every text is read by the grammar of envelopes: as a reply if it describes an envelope with a
code alone, as a call if it describes one with a method alone, with the error of its kind if
it describes one with both or neither, and as a malformed frame if it describes none.  The
grammar of objects would be enough exactly if the text is no list of fields, and in an object
members of other names and the order of members do not matter.
-/
theorem frames_by_grammar (text : String) :
    ReadBy Written text ∧
      (ReadBy WrittenAsObject text ↔
        ∀ items envelope, Document.ofText? text = some (.array items) →
          ¬ Describes (.array items) envelope) ∧
      ∀ (reordered : String) (members others : List (List Json.Quoted.Piece × Document))
        (record other : Record),
        Document.ofText? text = some (.object members) →
        Document.ofText? reordered = some (.object others) →
        List.Forall₂ Record.Names members record → List.Forall₂ Record.Names others other →
        (Fields.known fields record).Perm (Fields.known fields other) →
        Inbound.ofText text = Inbound.ofText reordered := by
  refine ⟨readBy_written text, readBy_object_iff text, ?_⟩
  intro reordered members others record other here there named renamed same
  rw [Inbound.ofText, Inbound.ofText, ofText?_eq_of_perm here there named renamed same]

/--
A reply with its members in another order and one more of them.  It is the same reply for
whoever reads it.
-/
theorem frames_by_grammar_reordered :
    let first := "\x7b\"messageId\":7,\"code\":0\x7d"
    let second := "\x7b\"code\":0,\"note\":null,\"messageId\":7\x7d"
    Inbound.ofText first = Inbound.ofText second ∧
      Inbound.ofText first = .ok (.response 7 0 (.object [])) := by
  intro first second
  let plain : Value := .object
    [("messageId", .number (idNumber 7)), ("code", .number (codeNumber 0))]
  let noted : Value := .object
    [("code", .number (codeNumber 0)), ("note", .null), ("messageId", .number (idNumber 7))]
  have here : Document.ofText? first = some plain.document := (Value.spells_render plain).ofText?
  have there : Document.ofText? second = some noted.document := (Value.spells_render noted).ofText?
  let id : String × Document := ("messageId", (Value.number (idNumber 7)).document)
  let code : String × Document := ("code", (Value.number (codeNumber 0)).document)
  have named (field : String × Document) :
      Record.Names (Json.Quoted.pieces field.1, field.2) field :=
    ⟨Json.Quoted.string?_pieces _, rfl⟩
  have known : (Fields.known fields [id, code]).Perm
      (Fields.known fields [code, ("note", .null), id]) := List.Perm.swap code id []
  refine ⟨(frames_by_grammar first).2.2 second _ _ [id, code] [code, ("note", .null), id] here there
    (.cons (named id) (.cons (named code) .nil))
    (.cons (named code) (.cons (named ("note", .null)) (.cons (named id) .nil))) known, ?_⟩
  refine ((frames_by_grammar first).1.response 7 0 (.object [])).mpr ⟨none, _, here, ?_⟩
  refine .object (.cons (named id) (.cons (named code) .nil)) ?_
  exact
    { version := .absent
      messageId := ⟨_, rfl, Document.uint32?_eq_some_iff.mp (document_uint32? 7)⟩
      method := .absent
      code := .given (Document.int32?_eq_some_iff.mp (document_int32? 0))
      payload := .inl ⟨rfl, rfl⟩ }

/--
An array of fields is no object, and is taken for a reply all the same.  Its fields are in
the declared order.
-/
theorem array_accepted :
    let text := "[\"1.0\",7,null,0,\x7b\x7d]"
    Inbound.ofText text = .ok (.response 7 0 (.object [])) ∧
      ∀ members, Document.ofText? text ≠ some (.object members) := by
  intro text
  let value : Value := .array
    [.string "1.0", .number (idNumber 7), .null, .number (codeNumber 0), .object []]
  have read : Document.ofText? text = some value.document := (Value.spells_render value).ofText?
  constructor
  · rw [Inbound.ofText, ofText?, read]
    rfl
  · intro members same
    rw [read] at same
    cases same

end Envelope
end DeviceLink
