import DeviceLink.Envelope
import DeviceLink.Proofs.Json.Written

namespace DeviceLink

/-!
Envelopes read back from their texts.  An envelope is written as an object whose last
member is the payload, so the payload may nest one level less deeply than a text: at the
limit every envelope comes back as it was, and beyond the limit none is read.  Each
member is shown to be written as a document from which its field is read, and the record
of the members is then read as the envelope.  Payloads are taken without floats, so that
every number in them is read back.
-/

namespace Json
namespace Record

/--
A record whose fields are known and written once each is read field by field.  Each of them
is found where it was written.
-/
theorem ofMembers?_documentMember {fields : List String} {members : Members}
    (known : ∀ member ∈ members, member.1 ∈ fields) (distinct : (members.map Prod.fst).Nodup) :
    ofMembers? fields (members.map Value.documentMember) =
      some (members.map fun member => (member.1, member.2.document)) := by
  induction members with
  | nil => rfl
  | cons member members ih =>
      rw [List.forall_mem_cons] at known
      rw [List.map_cons, List.nodup_cons] at distinct
      have fresh : ((members.map fun member => (member.1, member.2.document)).any fun other =>
          decide (other.1 = member.1)) = false := by
        rw [List.any_map, List.any_eq_false]
        intro other inside same
        have repeated : other.1 = member.1 := of_decide_eq_true same
        exact distinct.1 (repeated ▸ List.mem_map_of_mem inside)
      have listed : fields.contains member.1 = true := List.contains_iff_mem.mpr known.1
      simp only [List.map_cons, ofMembers?, Value.documentMember, Quoted.string?_pieces,
        ih known.2 distinct.2, listed, fresh, if_true, Bool.false_eq_true, if_false]

end Record

/--
An integer within the bounds is read from its own literal.  Bounds beyond the words are
never needed.
-/
theorem Document.integer?_numeral {value low high : Int} (least : -0x8000000000000000 ≤ value)
    (most : value < 0x10000000000000000) (within : low ≤ value ∧ value ≤ high) :
    (Document.numeral (Number.integer value least most).numeral).integer? low high =
      some value := by
  simp only [Document.integer?, Number.ofNumeral?_integer, within, and_self, if_true]

end Json

namespace Envelope

open Json (Value Members)

/-- The message id as a number.  It is an integer, whatever its size. -/
def idNumber (messageId : UInt32) : Json.Number :=
  .integer messageId.toNat (by omega) (by have := messageId.toNat_lt; omega)

/-- The code as a number.  It may be negative. -/
def codeNumber (code : Int32) : Json.Number :=
  .integer code.toInt (by have := code.le_toInt; omega) (by have := code.toInt_lt; omega)

/-- A member that is there only if its value is.  Absent fields are not written. -/
def memberOf (name : String) (value : Option Value) : Members :=
  (value.map fun value => (name, value)).toList

/--
The members of the object that an envelope is written as.  They stand in the order of the
fields, which is not that of their names.
-/
def members (envelope : Envelope) : Members :=
  memberOf "version" (envelope.version.map .string) ++
    [("messageId", .number (idNumber envelope.messageId))] ++
    memberOf "method" (envelope.method.map .string) ++
    memberOf "code" (envelope.code.map fun code => .number (codeNumber code)) ++
    [("payload", envelope.payload)]

theorem text_idNumber (messageId : UInt32) :
    (idNumber messageId).text = Decimal.naturalText messageId.toNat := by
  have unsigned : ¬ (messageId.toNat : Int) < 0 := by omega
  rw [idNumber, Json.Number.text, Decimal.integerText, decide_eq_false unsigned]
  rfl

theorem optionalMember_render {α : Type} (name : String) (value : Option α) (build : α → Value) :
    optionalMember name (value.map fun a => (build a).render) =
      (memberOf name (value.map build)).map fun member =>
        Json.memberText member.1 member.2.render := by
  cases value <;> rfl

/--
An envelope is written as the object of its members.  So what is known of values can be used
for envelopes.
-/
theorem render_eq (envelope : Envelope) :
    envelope.render = (Value.object envelope.members).render := by
  rw [Value.render, Value.renderMembers_eq]
  simp only [members, List.map_append, List.map_cons, List.map_nil, ← optionalMember_render,
    Value.render, text_idNumber]
  rfl

theorem document_uint32? (messageId : UInt32) :
    (Value.number (idNumber messageId)).document.uint32? = some messageId := by
  have within : (0 : Int) ≤ messageId.toNat ∧ (messageId.toNat : Int) ≤ 0xFFFFFFFF := by
    have := messageId.toNat_lt
    omega
  rw [Value.document, idNumber, Json.Document.uint32?, Json.Document.integer?_numeral _ _ within]
  simp

theorem document_int32? (code : Int32) :
    (Value.number (codeNumber code)).document.int32? = some code := by
  have within : (-0x80000000 : Int) ≤ code.toInt ∧ code.toInt ≤ 0x7FFFFFFF := by
    have := code.le_toInt
    have := code.toInt_lt
    omega
  rw [Value.document, codeNumber, Json.Document.int32?, Json.Document.integer?_numeral _ _ within]
  simp

/--
The fields that an envelope gives are known ones, each at most once.  Those that it does not
give are missing in the middle.
-/
theorem names_members (envelope : Envelope) :
    (envelope.members.map Prod.fst).Sublist fields := by
  rcases envelope with ⟨version, messageId, method, code, payload⟩
  cases version <;> cases method <;> cases code <;> simp [members, memberOf, fields]

/-- What each field of an envelope is looked up as.  The payload is there always. -/
theorem get?_members (envelope : Envelope) :
    envelope.members.get? "version" = envelope.version.map .string ∧
      envelope.members.get? "messageId" = some (.number (idNumber envelope.messageId)) ∧
      envelope.members.get? "method" = envelope.method.map .string ∧
      envelope.members.get? "code" = envelope.code.map (fun code => .number (codeNumber code)) ∧
      envelope.members.get? "payload" = some envelope.payload := by
  rcases envelope with ⟨version, messageId, method, code, payload⟩
  cases version <;> cases method <;> cases code <;> simp [members, memberOf, Members.get?]

/--
The fields that the text of an envelope gives.  Their values are documents that have not
been read yet.
-/
def record (envelope : Envelope) : Json.Record :=
  envelope.members.map fun member => (member.1, member.2.document)

theorem get?_record (envelope : Envelope) (name : String) :
    envelope.record.get? name = (envelope.members.get? name).map Value.document := by
  simp only [record, Fields.get?, Members.get?, List.find?_map, Function.comp_def, Option.map_map]

theorem ofDocument?_members (envelope : Envelope) :
    Json.Record.ofDocument? fields (Value.object envelope.members).document =
      some envelope.record := by
  have names := envelope.names_members
  have known : ∀ member ∈ envelope.members, member.1 ∈ fields := fun member inside =>
    names.subset (List.mem_map_of_mem inside)
  have distinct : (envelope.members.map Prod.fst).Nodup := names.nodup (by decide)
  rw [Value.document, Value.documentMembers_eq]
  exact Json.Record.ofMembers?_documentMember known distinct

/--
A field that may be left out is read whether it is given or not.  Both ways lead back to the
value.
-/
theorem withDefault?_nullable {α : Type} {envelope : Envelope} {name : String} {value : Option α}
    {build : α → Value} {read : Json.Document → Option α}
    (given : envelope.members.get? name = value.map build)
    (reads : ∀ a, Json.Document.nullable? read (build a).document = some (some a)) :
    envelope.record.withDefault? name (Json.Document.nullable? read) none = some value := by
  rw [Fields.withDefault?, get?_record, given]
  cases value with
  | none => rfl
  | some a => exact reads a

theorem nullable?_string? (s : String) :
    Json.Document.nullable? Json.Document.string? (Value.string s).document = some (some s) := by
  rw [Value.document, Json.Document.nullable?, Json.Document.string?, Json.Quoted.string?_pieces,
    Option.map_some]
  intro same
  cases same

theorem nullable?_int32? (code : Int32) :
    Json.Document.nullable? Json.Document.int32? (Value.number (codeNumber code)).document =
      some (some code) := by
  rw [Json.Document.nullable?, document_int32?, Option.map_some]
  intro same
  cases same

/--
What is read from the text of an envelope is the envelope, up to its payload.  Whether the
payload comes back is decided by its depth and its numbers.
-/
theorem ofText?_text_eq (envelope : Envelope) :
    ofText? envelope.text =
      (Value.ofDocument? (Value.nestingLimit - 1) envelope.payload.document).map fun payload =>
        { envelope with payload := payload } := by
  have document : Json.Document.ofText? envelope.text =
      some (Value.object envelope.members).document := by
    rw [text, render_eq]
    exact (Value.spells_render _).ofText?
  rcases envelope.get?_members with ⟨version, messageId, method, code, payload⟩
  have versionRead := withDefault?_nullable version nullable?_string?
  have methodRead := withDefault?_nullable method nullable?_string?
  have codeRead := withDefault?_nullable code nullable?_int32?
  have idRead : envelope.record.required? "messageId" Json.Document.uint32? =
      some envelope.messageId := by
    rw [Fields.required?, get?_record, messageId, Option.map_some, Option.bind_some,
      document_uint32?]
  have payloadRead : envelope.record.withDefault? "payload"
      (Value.ofDocument? (Value.nestingLimit - 1)) (.object []) =
        Value.ofDocument? (Value.nestingLimit - 1) envelope.payload.document := by
    rw [Fields.withDefault?, get?_record, payload, Option.map_some]
  rw [ofText?, document]
  simp only [ofDocument?_members, Option.bind_some]
  rw [ofRecord?, versionRead, idRead, methodRead, codeRead, payloadRead]
  cases Value.ofDocument? (Value.nestingLimit - 1) envelope.payload.document <;> rfl

/-- The deepest payload that is read back.  One more level is taken by the envelope. -/
def payloadLimit : Nat := 126

theorem ofText?_text {envelope : Envelope} (payload : envelope.payload.Embeddable payloadLimit) :
    ofText? envelope.text = some envelope := by
  have read := (Value.ofDocument?_document_iff payload.ordered).mpr
    ⟨payload.depth_le, payload.floatFree.rereads⟩
  have limit : Value.nestingLimit - 1 = payloadLimit := rfl
  rw [ofText?_text_eq, limit, read, Option.map_some]

theorem ofText?_text_eq_none {envelope : Envelope}
    (beyond : payloadLimit < envelope.payload.depth) : ofText? envelope.text = none := by
  rw [ofText?_text_eq, Option.map_eq_none_iff, Option.eq_none_iff_forall_ne_some]
  intro found read
  exact Nat.not_lt_of_le (Value.depth_le_of_ofDocument? read) beyond

theorem inbound_of_classify {envelope : Envelope} {inbound : Inbound}
    (payload : envelope.payload.Embeddable payloadLimit)
    (kind : envelope.classify = .ok inbound) : Inbound.ofText envelope.text = .ok inbound := by
  rw [Inbound.ofText, ofText?_text payload]
  exact kind

/--
An envelope whose payload holds integers only comes back from its text as it was if the
payload nests at most 126 levels deep, and as a malformed frame if it nests deeper; so a
request comes back as its call and a response as its reply.  The second limit is exact, so
there is nothing between the two cases.
-/
theorem frames_reread :
    (∀ envelope : Envelope, envelope.payload.Ordered → envelope.payload.FloatFree →
      (envelope.payload.depth ≤ 126 → ofText? envelope.text = some envelope) ∧
      (127 ≤ envelope.payload.depth →
        ofText? envelope.text = none ∧ Inbound.ofText envelope.text = .error .malformed)) ∧
    ∀ (messageId : UInt32) (payload : Members),
      (Value.object payload).Ordered → (Value.object payload).FloatFree →
      (Value.object payload).depth ≤ 126 →
      (∀ method : Method, Inbound.ofText (request messageId method payload).text =
        .ok (.call messageId method.name (.object payload))) ∧
      ∀ code : Int32, Inbound.ofText (response messageId code payload).text =
        .ok (.response messageId code (.object payload)) := by
  constructor
  · intro envelope ordered floatFree
    refine ⟨fun within => ofText?_text ⟨ordered, floatFree, within⟩, fun beyond => ?_⟩
    have unread := ofText?_text_eq_none beyond
    exact ⟨unread, by rw [Inbound.ofText, unread]⟩
  · intro messageId payload ordered floatFree within
    have embeddable : (Value.object payload).Embeddable payloadLimit := ⟨ordered, floatFree, within⟩
    constructor
    · intro method
      exact inbound_of_classify embeddable (classify_request messageId method payload)
    · intro code
      exact inbound_of_classify embeddable (classify_response messageId code payload)

/--
An object with the extreme integers inside a number of arrays.  They must come back digit by
digit.
-/
def nested (levels : Nat) : Value :=
  Nat.repeat (fun value => .array [value]) levels
    (.object [("", .number (.integer 0xFFFFFFFFFFFFFFFF (by decide) (by decide))),
      ("é\x01", .number (.integer (-0x8000000000000000) (by decide) (by decide)))])

/-- The deepest payload that comes back, and the first that does not.  They differ in one level. -/
theorem frames_reread_at_limit :
    let kept : Envelope := ⟨some "\n", 0xFFFFFFFF, none, some (-0x80000000), nested 125⟩
    let lost : Envelope := ⟨none, 0, some "", none, nested 126⟩
    let asked : Members := [("properties", nested 124)]
    (kept.payload.Ordered ∧ kept.payload.FloatFree ∧ kept.payload.depth = 126 ∧
      ofText? kept.text = some kept) ∧
    (lost.payload.Ordered ∧ lost.payload.FloatFree ∧ lost.payload.depth = 127 ∧
      Inbound.ofText lost.text = .error .malformed) ∧
    Inbound.ofText (request 1 .getProperty asked).text =
      .ok (.call 1 "getProperty" (.object asked)) := by
  intro kept lost asked
  have within : kept.payload.Ordered ∧ kept.payload.FloatFree ∧ kept.payload.depth = 126 := by
    decide +kernel
  have beyond : lost.payload.Ordered ∧ lost.payload.FloatFree ∧ lost.payload.depth = 127 := by
    decide +kernel
  have call : (Value.object asked).Ordered ∧ (Value.object asked).FloatFree ∧
      (Value.object asked).depth = 126 := by
    decide +kernel
  refine ⟨⟨within.1, within.2.1, within.2.2, ?_⟩, ⟨beyond.1, beyond.2.1, beyond.2.2, ?_⟩, ?_⟩
  · exact (frames_reread.1 kept within.1 within.2.1).1 (Nat.le_of_eq within.2.2)
  · exact ((frames_reread.1 lost beyond.1 beyond.2.1).2 (Nat.le_of_eq beyond.2.2.symm)).2
  · exact (frames_reread.2 1 asked call.1 call.2.1 (Nat.le_of_eq call.2.2)).1 .getProperty

end Envelope
end DeviceLink
