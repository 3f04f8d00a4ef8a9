import DeviceLink.Core
import DeviceLink.Proofs.Datum.Canonical
import DeviceLink.Proofs.Envelope.Reread

namespace DeviceLink

/-!
Calls that go through a frame as they are.  A call with canonical data is written as the
payload of a request; the text of that request, received while the pool takes jobs,
submits the same call on the same device, with every item as it was.  The datum items,
the payload and the envelope are each written and read back, and the lemmas of the
layers below say that each of them gives back what was put in.  What remains is to see
that the members of a payload do not get in each other's way.
-/

open Json (Value Members)

namespace Address

theorem sorted_payload (address : Address) : address.payload.Sorted := Members.sorted_ofList _

/--
A payload that says the address holds nothing but strings.  It can stand in any frame,
whatever else the frame may hold.
-/
theorem embeddable_payload (address : Address) (levels : Nat) :
    ∀ member ∈ address.payload, member.2.Embeddable levels := by
  intro member inside
  have listed := Members.mem_ofList inside
  simp only [List.mem_cons, List.not_mem_nil, or_false] at listed
  rcases listed with rfl | rfl <;> exact Value.embeddable_string _ _

/--
Members of other names leave the address as it is.  The order in which they are added does
not matter.
-/
theorem ofPayload?_insert {members : Members} {name : String} (value : Value)
    (other : name ≠ productKeyField ∧ name ≠ deviceNameField) :
    ofPayload? (.object (members.insert name value)) = ofPayload? (.object members) := by
  simp only [ofPayload?, Value.get?, Members.get?_insert_of_ne other.1,
    Members.get?_insert_of_ne other.2]

end Address

namespace DeviceCall

variable {payload : Members} {wire : Value} {items : List Datum}

theorem readData_of_decode (read : Datum.decode wire = .ok items) : readData wire = .ok items := by
  simp only [readData, read]

theorem ofPayload_setProperty (given : payload.get? Method.propertiesField = some wire)
    (read : Datum.decode wire = .ok items) (declared : ∀ item ∈ items, item.type ≠ .invalid) :
    ofPayload Method.setProperty.name (.object payload) = .ok (.setProperties items) := by
  have data : data? .setProperty (.object payload) = some wire := by
    simp only [data?, Method.dataFields, Value.get?, given]
  have typed : items.find? (fun item => item.type = .invalid) = none := by
    rw [List.find?_eq_none]
    exact fun item inside invalid => declared item inside (of_decide_eq_true invalid)
  simp only [ofPayload, Method.ofName?_name, readSet, requiredData, data,
    readData_of_decode read, typed]

theorem ofPayload_callService {service : String} (named : service ≠ "")
    (identified : payload.get? Method.identifierField = some (.string service))
    (given : payload.get? Method.inputDataField = some wire)
    (read : Datum.decode wire = .ok items) :
    ofPayload Method.callService.name (.object payload) = .ok (.callService service items) := by
  have data : data? .callService (.object payload) = some wire := by
    simp only [data?, Method.dataFields, Value.get?, given]
  have name : serviceName? (.object payload) = some service := by
    have filled : service.isEmpty = false := by
      rw [Bool.eq_false_iff]
      exact fun empty => named (String.isEmpty_iff.mp empty)
    simp only [serviceName?, Value.get?, identified, Option.bind_some, Value.string?, filled,
      Bool.false_eq_true, if_false]
  simp only [ofPayload, Method.ofName?_name, readService, name, data, readData_of_decode read]

end DeviceCall

namespace Core

variable {σ : Type} {core : Core σ}

theorem submit_of_room (opened : core.pool.closed = false)
    (room : core.pool.queued < core.pool.queueLimit) (job : Job) :
    ∃ next, core.submit job = (.ok (), next) := by
  have free : ¬ core.pool.queueLimit ≤ core.pool.queued := Nat.not_le.mpr room
  simp only [submit, Pool.submit, opened, Bool.false_eq_true, if_false, free]
  exact ⟨_, rfl⟩

/--
A request whose payload can be read as a call submits that call.  The text of the request is
received like any other frame.
-/
theorem receive_request (setup : Setup σ) {method : Method} {payload : Members} {device : Address}
    {call : DeviceCall} {next : Core σ} (messageId : UInt32)
    (embeddable : (Value.object payload).Embeddable Envelope.payloadLimit)
    (addressed : Address.ofPayload? (.object payload) = some device)
    (read : DeviceCall.ofPayload method.name (.object payload) = .ok call)
    (submitted : core.submit (.invoke messageId device call) = (.ok (), next)) :
    core.receive setup (Envelope.request messageId method payload).text = (.submitted, next) := by
  have inbound := Envelope.inbound_of_classify embeddable
    (Envelope.classify_request messageId method payload)
  simp only [receive, inbound, receiveCall, addressed, read, submitted]

/--
Canonical data within the limits, written into a frame that sets them or hands them to a
service, are submitted as they are: the same keys, types, values and order, for the same
device and message id, by any core whose pool is open and has room for a job.
-/
theorem calls_submitted (setup : Setup σ) (opened : core.pool.closed = false)
    (room : core.pool.queued < core.pool.queueLimit) (messageId : UInt32) (device : Address)
    {items : List Datum} (within : ∀ item ∈ items, item.WithinLimits)
    (canonical : ∀ item ∈ items, item.Canonical) :
    ∃ wire, Datum.encode items = .ok wire ∧
      (∃ next, core.submit (.invoke messageId device (.setProperties items)) = (.ok (), next) ∧
        core.receive setup (Envelope.request messageId .setProperty
          (device.payload.insert Method.propertiesField wire)).text = (.submitted, next)) ∧
      ∀ service : String, service ≠ "" →
        ∃ next, core.submit (.invoke messageId device (.callService service items)) =
            (.ok (), next) ∧
          core.receive setup (Envelope.request messageId .callService
            ((device.payload.insert Method.identifierField (.string service)).insert
              Method.inputDataField wire)).text = (.submitted, next) := by
  rcases Datum.exists_wire canonical within with ⟨wire, written, read, embeddable⟩
  have sorted := device.sorted_payload
  have strings := device.embeddable_payload (Datum.structureLimit + 2)
  refine ⟨wire, written, ?_, fun service named => ?_⟩
  · rcases submit_of_room opened room (.invoke messageId device (.setProperties items)) with
      ⟨next, submitted⟩
    rcases Value.Embeddable.insert Method.propertiesField sorted strings embeddable with
      ⟨ordered, each⟩
    refine ⟨next, submitted, receive_request setup messageId (.object ordered each) ?_ ?_ submitted⟩
    · rw [Address.ofPayload?_insert _ (by decide), Address.ofPayload?_payload]
    · exact DeviceCall.ofPayload_setProperty (Members.get?_insert_self _) read
        fun item inside => (canonical item inside).declared
  · rcases submit_of_room opened room (.invoke messageId device (.callService service items)) with
      ⟨next, submitted⟩
    rcases Value.Embeddable.insert Method.identifierField sorted strings
      (Value.embeddable_string _ service) with ⟨ordered, each⟩
    rcases Value.Embeddable.insert Method.inputDataField ordered each embeddable with
      ⟨ordered, each⟩
    refine ⟨next, submitted, receive_request setup messageId (.object ordered each) ?_ ?_ submitted⟩
    · rw [Address.ofPayload?_insert _ (by decide), Address.ofPayload?_insert _ (by decide),
        Address.ofPayload?_payload]
    · refine DeviceCall.ofPayload_callService named ?_ (Members.get?_insert_self _) read
      rw [Members.get?_insert_of_ne (by decide), Members.get?_insert_self]

/--
A word, a string with a quote in it and a structure, sent to a link that has just been made.
They are the three kinds of values that have a canonical text.
-/
theorem calls_submitted_threeItems :
    let setup : Setup Unit := ⟨Options.standard, Handler.unimplemented, false, none, .standard⟩
    let core := Core.new setup ()
    let lamp : Address := ⟨"house", "lamp"⟩
    let items : List Datum :=
      [⟨"level", .enum, "-5"⟩, ⟨"title", .text, "a \"b\""⟩,
        ⟨"rooms", .struct, "[[18446744073709551615]]"⟩]
    core.pool.closed = false ∧ core.pool.queued < core.pool.queueLimit ∧
      (∀ item ∈ items, item.WithinLimits) ∧ (∀ item ∈ items, item.Canonical) ∧ "dim" ≠ "" ∧
      ∃ wire, Datum.encode items = .ok wire ∧
        (∃ next, core.submit (.invoke 7 lamp (.setProperties items)) = (.ok (), next) ∧
          core.receive setup (Envelope.request 7 .setProperty
            (lamp.payload.insert Method.propertiesField wire)).text = (.submitted, next)) ∧
        ∃ next, core.submit (.invoke 7 lamp (.callService "dim" items)) = (.ok (), next) ∧
          core.receive setup (Envelope.request 7 .callService
            ((lamp.payload.insert Method.identifierField (.string "dim")).insert
              Method.inputDataField wire)).text = (.submitted, next) := by
  intro setup core lamp items
  have within : ∀ item ∈ items, item.WithinLimits := by decide
  have canonical : ∀ item ∈ items, item.Canonical := by
    refine List.forall_mem_cons.mpr ⟨⟨-5, by decide⟩, List.forall_mem_cons.mpr ⟨trivial, ?_⟩⟩
    refine List.forall_mem_singleton.mpr ⟨.array [.array [.number (.integer 0xFFFFFFFFFFFFFFFF
      (by decide) (by decide))]], by decide, by decide, by decide, by decide⟩
  have opened : core.pool.closed = false := by decide
  have room : core.pool.queued < core.pool.queueLimit := by decide
  have named : "dim" ≠ "" := by decide
  rcases calls_submitted setup opened room 7 lamp within canonical with ⟨wire, written, set, call⟩
  exact ⟨opened, room, within, canonical, named, wire, written, set, call "dim" named⟩

end Core
end DeviceLink
