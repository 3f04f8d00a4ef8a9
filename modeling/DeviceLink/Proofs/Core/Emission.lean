import DeviceLink.Proofs.Core.Answers
import DeviceLink.Proofs.Datum.Canonical
import DeviceLink.Proofs.Core.Submission

namespace DeviceLink

/-!
Requests that a receiver can read.  A structure is admitted if it is read alone, and
then stands four levels further inside: in the datum, the list of data, the payload and
the envelope.  So the frame of a request is read back as its call exactly if none of its
structures needs one of the last four levels that a text may have.  Floats are left
aside, because their text may be read as a different number.  `Deep` says of a datum
that its structure goes too deep for that.
-/

open Json (Value Members)

namespace Datum

/--
A structure that is read alone, but too deep for a frame.  It passes every check of the
sender.
-/
def Deep (datum : Datum) : Prop :=
  datum.type.isStructured = true ∧
    ∃ value, Value.ofText? datum.value = some value ∧ structureLimit < value.depth

section

variable {datum : Datum} {data : List Datum} {value item wire : Value}

theorem deep_iff_of_read (structured : datum.type.isStructured = true)
    (read : Value.ofText? datum.value = some value) :
    datum.Deep ↔ structureLimit < value.depth := by
  constructor
  · rintro ⟨-, other, same, beyond⟩
    rw [read] at same
    cases same
    exact beyond
  · exact fun beyond => ⟨structured, value, read, beyond⟩

/--
Only structures nest; they are written as they are read.  Everything else is written as a
single literal.
-/
theorem encodeValue_depth (encoded : datum.encodeValue = .ok value) :
    value.Ordered ∧ (value.depth ≤ structureLimit ↔ ¬ datum.Deep) := by
  by_cases structured : datum.type.isStructured = true
  · have read := (encodeValue_structured structured).mp encoded
    refine ⟨(Value.sound_ofText? read).1, ?_⟩
    rw [deep_iff_of_read structured read, Nat.not_lt]
  · have single : value.Ordered ∧ value.depth = 0 := by
      rcases datum with ⟨key, type, text⟩
      cases type with
      | struct | array => exact absurd rfl structured
      | int | bool | enum | float | double | text | date | invalid =>
          cases encoded
          exact ⟨(Value.everywhere_single rfl).mpr rfl, rfl⟩
    refine ⟨single.1, iff_of_true ?_ fun deep => structured deep.1⟩
    rw [single.2]
    exact Nat.zero_le _

theorem depth_itemOf_le_iff {key : String} {type : DataType} {levels : Nat} :
    (itemOf key type value).depth ≤ levels + 1 ↔ value.depth ≤ levels := by
  rw [itemOf, Value.depth_object_le_iff]
  constructor
  · exact fun each => each (valueField, value) (by simp)
  · intro within
    refine List.forall_mem_cons.mpr ⟨Nat.zero_le _, ?_⟩
    exact List.forall_mem_cons.mpr ⟨Nat.zero_le _, List.forall_mem_singleton.mpr within⟩

theorem ordered_itemOf {key : String} {type : DataType} (inner : value.Ordered) :
    (itemOf key type value).Ordered := by
  have sorted : [identifierField, typeField, valueField].Pairwise (· < ·) := by decide
  rw [itemOf, Value.ordered_object]
  refine ⟨sorted, List.forall_mem_cons.mpr ⟨(Value.everywhere_single rfl).mpr rfl, ?_⟩⟩
  refine List.forall_mem_cons.mpr ⟨(Value.everywhere_single rfl).mpr rfl, ?_⟩
  exact List.forall_mem_singleton.mpr inner

theorem encodeItem_depth (written : datum.encodeItem = .ok item) :
    item.Ordered ∧ (item.depth ≤ structureLimit + 1 ↔ ¬ datum.Deep) := by
  rcases encodeItem_eq_ok_iff.mp written with ⟨value, encoded, rfl⟩
  rcases encodeValue_depth encoded with ⟨ordered, depth⟩
  exact ⟨ordered_itemOf ordered, depth_itemOf_le_iff.trans depth⟩

/--
The array of a list of data nests two levels deeper than its structures.  One level is the
array, and the other is the object of a datum.
-/
theorem encode_depth (written : encode data = .ok wire) :
    wire.Ordered ∧ (wire.depth ≤ structureLimit + 2 ↔ ∀ datum ∈ data, ¬ datum.Deep) := by
  rcases encode_eq_ok_iff.mp written with ⟨items, rfl, each⟩
  rw [Value.ordered_array, Value.depth_array_le_iff]
  clear written
  induction each with
  | nil => simp
  | cons first _ ih =>
      rcases encodeItem_depth first with ⟨ordered, depth⟩
      rw [List.forall_mem_cons, List.forall_mem_cons, List.forall_mem_cons]
      exact ⟨⟨ordered, ih.1⟩, and_congr depth ih.2⟩

end

/--
Arrays inside each other, around an empty one.  They are the simplest structures of a given
depth.
-/
def brackets (levels : Nat) : Value := Nat.repeat (fun value => .array [value]) levels (.array [])

theorem embeddable_brackets (levels : Nat) : (brackets levels).Embeddable (levels + 1) := by
  induction levels with
  | zero => exact Value.Embeddable.array (List.forall_mem_nil _)
  | succ levels ih => exact Value.Embeddable.array (List.forall_mem_singleton.mpr ih)

theorem depth_brackets (levels : Nat) : (brackets levels).depth = levels + 1 := by
  induction levels with
  | zero => rfl
  | succ levels ih =>
      have more : brackets (levels + 1) = .array [brackets levels] := rfl
      rw [more, Value.depth, Value.depth.depthItems, Value.depth.depthItems, ih, Nat.max_zero,
        Nat.add_comm]

/--
A datum with brackets of some depth.  Its key stands for anything that has parts within
parts.
-/
def bracketed (levels : Nat) : Datum := ⟨"rooms", .array, (brackets levels).text⟩

theorem read_brackets {levels : Nat} (few : levels < Value.nestingLimit) :
    Value.ofText? (brackets levels).text = some (brackets levels) := by
  have embeddable := embeddable_brackets levels
  refine (Value.ofText?_text_iff embeddable.ordered).mpr ⟨?_, embeddable.floatFree.rereads⟩
  exact Nat.le_trans embeddable.depth_le few

theorem encode_bracketed {levels : Nat} (few : levels < Value.nestingLimit) :
    encode [bracketed levels] = .ok (.array [itemOf "rooms" .array (brackets levels)]) := by
  refine encode_eq_ok_iff.mpr ⟨_, rfl, .cons (encodeItem_eq_ok_iff.mpr ?_) .nil⟩
  exact ⟨_, (encodeValue_structured rfl).mpr (read_brackets few), rfl⟩

theorem deep_bracketed_iff {levels : Nat} (few : levels < Value.nestingLimit) :
    (bracketed levels).Deep ↔ structureLimit ≤ levels := by
  have deep : (bracketed levels).Deep ↔ structureLimit < (brackets levels).depth :=
    deep_iff_of_read rfl (read_brackets few)
  rw [deep, depth_brackets, Nat.lt_succ_iff]

end Datum

namespace Request

/-- The data that a request carries.  Requests that announce or withdraw a device carry none. -/
def data : Request → List Datum
  | online => []
  | offline => []
  | properties data => data
  | event _ data => data

variable {request : Request} {device : Address} {payload : Members}

theorem encodeData_eq_ok {data : List Datum} {wire : Value} (written : encodeData data = .ok wire) :
    Datum.encode data = .ok wire := by
  unfold encodeData at written
  split at written
  · cases written
  split at written
  · next encoded =>
    cases written
    exact encoded
  · cases written

theorem payload_properties {data : List Datum} {wire : Value} (complete : device.isComplete = true)
    (within : ∀ datum ∈ data, datum.WithinLimits) (written : Datum.encode data = .ok wire) :
    (properties data).payload device = .ok (device.payload.insert Method.propertiesField wire) := by
  have sound : Datum.firstLimitFault? data = none := by
    rw [Datum.firstLimitFault?, List.findSome?_eq_none_iff]
    exact fun datum inside => (Datum.limitFault?_eq_none_iff datum).mpr (within datum inside)
  simp only [Request.payload, complete, encodeData, sound, written, Bool.not_true,
    Bool.false_eq_true, if_false]

/-- The members that carry the address are strings.  So they never decide how deep a payload is. -/
theorem address_flat (device : Address) (levels : Nat) :
    (Value.object device.payload).Ordered ∧ ∀ member ∈ device.payload, member.2.depth ≤ levels := by
  have strings := device.embeddable_payload levels
  refine ⟨Value.ordered_object.mpr ⟨device.sorted_payload, ?_⟩, ?_⟩
  · exact fun member inside => (strings member inside).ordered
  · exact fun member inside => (strings member inside).depth_le

/--
The payload that a request is sent with nests three levels deeper than its structures.  Two
levels are those of the array, and the third is the payload itself.
-/
theorem payload_depth (assembled : request.payload device = .ok payload) :
    (Value.object payload).Ordered ∧
      ((Value.object payload).depth ≤ Envelope.payloadLimit ↔
        ∀ datum ∈ request.data, ¬ datum.Deep) := by
  rcases address_flat device (Datum.structureLimit + 2) with ⟨ordered, flat⟩
  have limit : Envelope.payloadLimit = Datum.structureLimit + 2 + 1 := rfl
  have addressOnly : device.payload = payload → (Value.object payload).Ordered ∧
      ((Value.object payload).depth ≤ Envelope.payloadLimit ↔
        ∀ datum ∈ ([] : List Datum), ¬ datum.Deep) := by
    rintro rfl
    rw [limit, Value.depth_object_le_iff]
    exact ⟨ordered, iff_of_true flat (List.forall_mem_nil _)⟩
  unfold Request.payload at assembled
  split at assembled
  · cases assembled
  cases request with
  | online => exact addressOnly (Except.ok.inj assembled)
  | offline => exact addressOnly (Except.ok.inj assembled)
  | properties data =>
      dsimp only at assembled
      split at assembled
      · next wire written =>
        cases assembled
        rcases Datum.encode_depth (encodeData_eq_ok written) with ⟨inner, depth⟩
        rw [limit, Value.depth_insert_le_iff flat]
        exact ⟨ordered.insert inner _, depth⟩
      · cases assembled
  | event name data =>
      dsimp only at assembled
      split at assembled
      · cases assembled
      split at assembled
      · next wire written =>
        cases assembled
        rcases Datum.encode_depth (encodeData_eq_ok written) with ⟨inner, depth⟩
        have named : ∀ member ∈ device.payload.insert Method.identifierField (.string name),
            member.2.depth ≤ Datum.structureLimit + 2 := by
          intro member inside
          rcases Members.mem_insert inside with rfl | old
          · exact Nat.zero_le _
          · exact flat member old
        rw [limit, Value.depth_insert_le_iff named]
        refine ⟨(Value.Ordered.insert ordered ?_ _).insert inner _, depth⟩
        exact (Value.everywhere_single rfl).mpr rfl
      · cases assembled

/--
The frame of a request without floats is read as its call, or is malformed if it is too
deep.  The envelope adds the fourth level.
-/
theorem inbound_frame (messageId : UInt32) (assembled : request.payload device = .ok payload)
    (floatFree : (Value.object payload).FloatFree) :
    ((∀ datum ∈ request.data, ¬ datum.Deep) →
      Inbound.ofText (request.frame messageId payload) =
        .ok (.call messageId request.method.name (.object payload))) ∧
    ((∃ datum ∈ request.data, datum.Deep) →
      Inbound.ofText (request.frame messageId payload) = .error .malformed) := by
  rcases payload_depth assembled with ⟨ordered, depth⟩
  constructor
  · intro shallow
    have embeddable : (Value.object payload).Embeddable Envelope.payloadLimit :=
      ⟨ordered, floatFree, depth.mpr shallow⟩
    exact Envelope.inbound_of_classify embeddable
      (Envelope.classify_request messageId request.method payload)
  · rintro ⟨datum, inside, deep⟩
    have beyond : Envelope.payloadLimit < (Value.object payload).depth :=
      Nat.not_le.mp fun within => depth.mp within datum inside deep
    have unread : Envelope.ofText? (request.frame messageId payload) = none :=
      Envelope.ofText?_text_eq_none beyond
    rw [Inbound.ofText, unread]

end Request

namespace Core

variable {σ : Type} {core after : Core σ} {device : Address} {request : Request}
  {payload : Members} {messageId : UInt32}

/-- What an outlet puts on record when it takes a text.  Only one that records does so at once. -/
def outletEvents (outlet : Outlet) (text : String) : List Event :=
  match outlet with
  | .record name => [.frame name text]
  | _ => []

/--
The outlet that the link leads to has taken a text.  The log tells of it if the outlet is
one that records.
-/
def Took (core : Core σ) (text : String) (after : Core σ) : Prop :=
  ∃ sink outlet left, core.link.route = .ok sink ∧ core.outlets[sink]? = some outlet ∧
    outlet.accept text = .ok left ∧ after.outlets = core.outlets.set sink left ∧
    after.log = core.log ++ outletEvents outlet text

theorem took_of_send {text : String} (sent : core.send text = (.ok (), after)) :
    core.Took text after := by
  unfold send at sent
  split at sent
  · next sink routed =>
    unfold hand at sent
    split at sent
    · cases sent
    next outlet found =>
    split at sent
    · cases sent
    next left taken =>
    refine ⟨sink, outlet, left, routed, found, taken, ?_⟩
    cases outlet <;> cases sent
    · exact ⟨rfl, rfl⟩
    · exact ⟨rfl, (List.append_nil _).symm⟩
    · exact ⟨rfl, (List.append_nil _).symm⟩
  · cases sent

/--
A request that was sent without waiting left as the frame of its payload.  The message id is
the one that it was given.
-/
theorem sent_of_sendAsync (sent : core.sendAsync device request = (.ok messageId, after)) :
    ∃ payload, request.payload device = .ok payload ∧
      core.Took (request.frame messageId payload) after := by
  unfold sendAsync prepare at sent
  split at sent
  · cases sent
  next payload prepared =>
  split at prepared
  · cases prepared
  next assembled =>
  split at prepared
  · cases prepared
  cases prepared
  dsimp only at sent
  split at sent
  · next kept handed =>
    cases sent
    have took : core.takeId.2.Took (request.frame core.takeId.1 payload) after :=
      took_of_send handed
    exact ⟨payload, assembled, took⟩
  · cases sent

/--
A request that leaves without waiting is handed over as one frame.  If its payload holds no
float, the frame is read as the call with its message id, method and payload exactly if none
of its structures is too deep for a frame, and it is a malformed frame otherwise.  The
sender learns nothing of the difference.
-/
theorem requests_readable (sent : core.sendAsync device request = (.ok messageId, after))
    (assembled : request.payload device = .ok payload)
    (floatFree : (Value.object payload).FloatFree) :
    ∃ text, core.Took text after ∧
      (Inbound.ofText text = .ok (.call messageId request.method.name (.object payload)) ↔
        ∀ datum ∈ request.data, ¬ datum.Deep) ∧
      (Inbound.ofText text = .error .malformed ↔ ∃ datum ∈ request.data, datum.Deep) := by
  rcases sent_of_sendAsync sent with ⟨_, same, took⟩
  rw [assembled] at same
  cases same
  rcases Request.inbound_frame messageId assembled floatFree with ⟨read, refused⟩
  refine ⟨_, took, ⟨fun called datum inside deep => ?_, read⟩, fun malformed => ?_, refused⟩
  · rw [refused ⟨datum, inside, deep⟩] at called
    cases called
  · by_contra shallow
    rw [read fun datum inside deep => shallow ⟨datum, inside, deep⟩] at malformed
    cases malformed

theorem Serving.exists_sendAsync (serving : core.Serving)
    (assembled : request.payload device = .ok payload) :
    ∃ after, core.sendAsync device request = (.ok core.takeId.1, after) := by
  have counted : core.takeId.2.Serving := serving.of_same rfl rfl
  rcases counted.send_eq (request.frame core.takeId.1 payload) with ⟨name, sent⟩
  have prepared : core.prepare device request = .ok payload := by
    simp only [prepare, assembled, Link.ensureConnected, serving.phase_eq]
  exact ⟨_, by simp only [Core.sendAsync, prepared, sent]; rfl⟩

/-- A payload that reports a datum with brackets.  It holds no float, however deep it is. -/
def bracketPayload (device : Address) (levels : Nat) : Members :=
  device.payload.insert Method.propertiesField
    (.array [Datum.itemOf "rooms" .array (Datum.brackets levels)])

/--
A link that has just come up reports brackets of a depth that is read alone.  The report is
accepted, however it fares with the receiver.
-/
theorem exists_bracketed (device : Address) (complete : device.isComplete = true) {levels : Nat}
    (few : levels < Value.nestingLimit)
    (within : (Datum.bracketed levels).WithinLimits) :
    let core := ((new plainSetup ()).establish plainSetup (.record "gateway")).2
    let request := Request.properties [Datum.bracketed levels]
    (∃ after, core.sendAsync device request = (.ok 1, after)) ∧
      request.payload device = .ok (bracketPayload device levels) := by
  intro core request
  have serving : core.Serving := (answered_opened plainSetup () "gateway").serving
  have assembled : request.payload device = .ok (bracketPayload device levels) :=
    Request.payload_properties complete (List.forall_mem_singleton.mpr within)
      (Datum.encode_bracketed few)
  exact ⟨serving.exists_sendAsync assembled, assembled⟩

/--
The deepest structure that a receiver can read.  With the four levels around it, it reaches
the limit of a text.
-/
theorem requests_readable_atLimit :
    let lamp : Address := ⟨"house", "lamp"⟩
    let core := ((new plainSetup ()).establish plainSetup (.record "gateway")).2
    let request := Request.properties [Datum.bracketed 122]
    ∃ after, core.sendAsync lamp request = (.ok 1, after) ∧
      request.payload lamp = .ok (bracketPayload lamp 122) ∧
      (Value.object (bracketPayload lamp 122)).FloatFree ∧
      ∃ text, core.Took text after ∧
        Inbound.ofText text =
          .ok (.call 1 "reportProperty" (.object (bracketPayload lamp 122))) := by
  intro lamp core request
  have few : 122 < Value.nestingLimit := by decide
  rcases exists_bracketed lamp rfl few (by decide +kernel) with ⟨⟨after, sent⟩, assembled⟩
  have floatFree : (Value.object (bracketPayload lamp 122)).FloatFree := by decide +kernel
  rcases requests_readable sent assembled floatFree with ⟨text, took, readable, -⟩
  refine ⟨after, sent, assembled, floatFree, text, took, readable.mpr ?_⟩
  refine List.forall_mem_singleton.mpr fun deep => ?_
  exact absurd ((Datum.deep_bracketed_iff (by decide)).mp deep) (by decide)

/--
One level more is admitted and sent, and the receiver takes the frame for malformed.  Nobody
gets an answer to such a frame.
-/
theorem request_unreadable :
    let lamp : Address := ⟨"house", "lamp"⟩
    let core := ((new plainSetup ()).establish plainSetup (.record "gateway")).2
    let request := Request.properties [Datum.bracketed 123]
    ∃ after, core.sendAsync lamp request = (.ok 1, after) ∧
      request.payload lamp = .ok (bracketPayload lamp 123) ∧
      (Value.object (bracketPayload lamp 123)).FloatFree ∧
      ∃ text, core.Took text after ∧ Inbound.ofText text = .error .malformed := by
  intro lamp core request
  have few : 123 < Value.nestingLimit := by decide
  rcases exists_bracketed lamp rfl few (by decide +kernel) with ⟨⟨after, sent⟩, assembled⟩
  have floatFree : (Value.object (bracketPayload lamp 123)).FloatFree := by decide +kernel
  rcases sent_of_sendAsync sent with ⟨_, same, took⟩
  rw [assembled] at same
  cases same
  have deep : (Datum.bracketed 123).Deep := (Datum.deep_bracketed_iff (by decide)).mpr (by decide)
  refine ⟨after, sent, assembled, floatFree, _, took, ?_⟩
  exact (Request.inbound_frame 1 assembled floatFree).2 ⟨_, List.mem_singleton_self _, deep⟩

end Core
end DeviceLink
