import DeviceLink.Proofs.Core.Standing
import DeviceLink.Proofs.Registry.Change
import DeviceLink.Proofs.Request.Faults

namespace DeviceLink

/-!
Requests all or nothing.  A request that cannot be sent as it is, or not over this link,
leaves no trace; one that fails later has cost a message id and nothing else.  Message
ids are given out in rising order, so nobody ever awaits a reply to the one that comes
next, as long as the counter has not come round.  `Posted` is about requests that nobody
waits for, and `Requested` about those that somebody waits for.  Each says what the
result is in terms of the checks that the request passes, and what has become of the
registry, the counter and the outlets.
-/

namespace Registry

/--
The message ids that handles were registered for.  A handle keeps its id as long as it is
there.
-/
def ids (registry : Registry) : List UInt32 := registry.handles.map Handle.messageId

/-- The same entries and handles stand under the same bound.  Tokens may have been used up. -/
structure Same (before after : Registry) : Prop where
  capacity_eq : after.capacity = before.capacity
  entries_eq : after.entries = before.entries
  handles_eq : after.handles = before.handles
  nextToken_le : before.nextToken ≤ after.nextToken

theorem Same.coherent {before after : Registry} (same : Same before after)
    (coherent : before.Coherent) : after.Coherent where
  entries_eq := by rw [same.entries_eq, same.handles_eq, coherent.entries_eq]
  ids_nodup := same.entries_eq.symm ▸ coherent.ids_nodup
  tokens_nodup := same.handles_eq.symm ▸ coherent.tokens_nodup
  tokens_lt := by
    intro handle inside
    rw [same.handles_eq] at inside
    exact Nat.lt_of_lt_of_le (coherent.tokens_lt handle inside) same.nextToken_le

theorem ids_settle (registry : Registry) (entry : Entry) (slot : Slot) :
    (registry.settle entry slot).ids = registry.ids := by
  rw [ids, settle, List.map_map]
  refine List.map_congr_left fun handle _ => ?_
  simp only [Function.comp_apply]
  split <;> rfl

theorem ids_deliver (registry : Registry) (reply : Reply) :
    (registry.deliver reply).2.ids = registry.ids := by
  unfold deliver
  split
  · rfl
  · exact ids_settle registry _ _

theorem ids_clear (registry : Registry) : registry.clear.2.ids = registry.ids := by
  rw [ids, clear, List.map_map]
  refine List.map_congr_left fun handle _ => ?_
  simp only [Function.comp_apply]
  split <;> rfl

theorem ids_drop (registry : Registry) (token : Nat) :
    (registry.drop token).ids.Sublist registry.ids := by
  unfold drop
  split
  · exact .refl _
  · next handle _ =>
    have forgotten : (registry.forget token).ids.Sublist registry.ids := List.filter_sublist.map _
    have removed : ((registry.forget token).remove handle.messageId).2.ids =
        (registry.forget token).ids := by
      unfold remove
      split
      · rfl
      · exact ids_settle _ _ _
    exact removed ▸ forgotten

/--
A registration under a new message id can be undone.  What is left differs from before in
its next token only.
-/
theorem Coherent.same_of_drop {registry next : Registry} (coherent : registry.Coherent)
    (distinct : registry.ids.Nodup) {messageId : UInt32} (fresh : messageId ∉ registry.ids)
    {token : Nat} (registered : registry.register messageId = .ok (token, next)) :
    Same registry (next.drop token) where
  capacity_eq := by
    rw [(within_drop next token).capacity_eq, (register_eq_ok registered).2.2.2.1]
  entries_eq := by
    rw [((coherent.register registered).drop token).entries_eq, coherent.entries_eq,
      coherent.drop_of_register distinct fresh registered]
  handles_eq := coherent.drop_of_register distinct fresh registered
  nextToken_le := by
    rw [(within_drop next token).nextToken_eq, (register_eq_ok registered).2.2.2.2.1]
    exact Nat.le_succ _

/--
Only a full registry refuses a message id that nobody awaits.  Otherwise there is a new
entry and a new handle, and both know the id.
-/
theorem register_cases (registry : Registry) {messageId : UInt32}
    (free : registry.contains messageId = false) :
    (registry.isFull = true ∧ registry.register messageId =
        .error (.allocationFailure
          (Decimal.naturalString registry.size ++ " requests already awaiting replies"))) ∨
      registry.isFull = false ∧ ∃ token next, registry.register messageId = .ok (token, next) := by
  cases full : registry.isFull with
  | true => exact .inl ⟨rfl, by simp only [register, full, if_true]⟩
  | false =>
      let next : Registry :=
        ⟨registry.capacity, registry.entries ++ [⟨messageId, registry.nextToken⟩],
          registry.handles ++ [⟨registry.nextToken, messageId, .waiting⟩], registry.nextToken + 1⟩
      have registered : registry.register messageId = .ok (registry.nextToken, next) := by
        simp only [register, full, free, Bool.false_eq_true, if_false]
        rfl
      exact .inr ⟨rfl, _, next, registered⟩

/--
Nobody awaits a reply to a message id that no handle was registered for.  Entries belong to
handles, so there cannot be one without the other.
-/
theorem Coherent.contains_of_fresh {registry : Registry} (coherent : registry.Coherent)
    {messageId : UInt32} (fresh : messageId ∉ registry.ids) :
    registry.contains messageId = false := by
  refine Bool.eq_false_iff.mpr fun there => ?_
  rcases contains_eq_true.mp there with ⟨token, inside⟩
  rcases coherent.mem_entries.mp inside with ⟨handle, known, pending⟩
  rcases (Handle.pending?_eq_some handle).mp pending with ⟨-, same⟩
  exact fresh (List.mem_map.mpr ⟨handle, known, (congrArg Entry.messageId same).symm⟩)

end Registry

namespace Core

variable {σ : Type}

/-! ## Single requests -/

/-- The outlet that the link leads to refuses a text.  The core is as it was then. -/
def Refuses (core : Core σ) (text : String) (failure : Failure) : Prop :=
  ∃ sink outlet, core.link.route = .ok sink ∧ core.outlets[sink]? = some outlet ∧
    outlet.accept text = .error failure

/--
What becomes of a request that nobody waits for, and the message ids that reach the outlet.
It is refused before it has an id, or it is put to the outlet under its own.
-/
inductive Posted (core : Core σ) (device : Address) (request : Request) :
    Except Failure UInt32 → List UInt32 → Core σ → Prop
  | rejected {failure : Failure} (faulty : request.Faulty device failure) :
      Posted core device request (.error failure) [] core
  | offline (sound : request.Sound device) (offline : core.link.phase ≠ .connected) :
      Posted core device request (.error (Link.refusal core.link.phase)) [] core
  | refused (sound : request.Sound device) (online : core.link.phase = .connected)
      {payload : Json.Members} (assembled : request.payload device = .ok payload)
      {failure : Failure}
      (refuses : core.Refuses (request.frame core.takeId.1 payload) failure) :
      Posted core device request (.error failure) [core.takeId.1] core.takeId.2
  | sent (sound : request.Sound device) (online : core.link.phase = .connected)
      {payload : Json.Members} (assembled : request.payload device = .ok payload)
      {after : Core σ} (took : core.Took (request.frame core.takeId.1 payload) after)
      (registry_eq : after.registry = core.registry)
      (nextId_eq : after.nextId = core.takeId.2.nextId) :
      Posted core device request (.ok core.takeId.1) [core.takeId.1] after

/--
What becomes of a request that awaits its reply.  Besides that, its handle may find no room,
and its deadline may have no name.
-/
inductive Requested (core : Core σ) (device : Address) (request : Request) (now : Nat)
    (budget : Duration) : Opening → List UInt32 → Core σ → Prop
  /-- No clock can name the deadline.  Nothing has been looked at by then but the time. -/
  | crashed (late : core.clock.after? now budget = none) :
      Requested core device request now budget .crashes [] core
  | rejected {failure : Failure} (faulty : request.Faulty device failure) :
      Requested core device request now budget (.fails failure) [] core
  | offline (sound : request.Sound device) (offline : core.link.phase ≠ .connected) :
      Requested core device request now budget (.fails (Link.refusal core.link.phase)) [] core
  | full (sound : request.Sound device) (online : core.link.phase = .connected)
      (full : core.registry.isFull = true) :
      Requested core device request now budget
        (.fails (.allocationFailure
          (Decimal.naturalString core.registry.size ++ " requests already awaiting replies")))
        [] core.takeId.2
  | refused (sound : request.Sound device) (online : core.link.phase = .connected)
      (room : core.registry.isFull = false) {payload : Json.Members}
      (assembled : request.payload device = .ok payload) {failure : Failure}
      (refuses : core.Refuses (request.frame core.takeId.1 payload) failure)
      {registry : Registry} (same : core.registry.Same registry) :
      Requested core device request now budget (.fails failure) [core.takeId.1]
        { core.takeId.2 with registry := registry }
  | sent (sound : request.Sound device) (online : core.link.phase = .connected)
      {payload : Json.Members} (assembled : request.payload device = .ok payload)
      {after : Core σ} (took : core.Took (request.frame core.takeId.1 payload) after)
      {due token : Nat} (named : core.clock.after? now budget = some due)
      (registered : core.registry.register core.takeId.1 = .ok (token, after.registry))
      (nextId_eq : after.nextId = core.takeId.2.nextId) :
      Requested core device request now budget (.waits ⟨token, due, budget⟩) [core.takeId.1] after

/--
The message id under which a request puts its frame to the outlet, taken or not.  There is
none if the request fails before.
-/
def reportIds (core : Core σ) (device : Address) (request : Request) : List UInt32 :=
  match core.prepare device request with
  | .ok _ => [core.takeId.1]
  | .error _ => []

def requestIds (core : Core σ) (device : Address) (request : Request) (now : Nat)
    (budget : Duration) : List UInt32 :=
  match core.clock.after? now budget, core.registry.register core.takeId.1 with
  | some _, .ok _ => core.reportIds device request
  | _, _ => []

section

variable {core : Core σ} {device : Address} {request : Request} {payload : Json.Members}

theorem prepare_of_fault {failure : Failure} (failed : request.payload device = .error failure) :
    core.prepare device request = .error failure := by
  simp only [prepare, failed]

theorem prepare_of_offline (assembled : request.payload device = .ok payload)
    (offline : core.link.phase ≠ .connected) :
    core.prepare device request = .error (Link.refusal core.link.phase) := by
  simp only [prepare, assembled, Link.ensureConnected_of_unconnected offline]

theorem prepare_of_online (assembled : request.payload device = .ok payload)
    (online : core.link.phase = .connected) : core.prepare device request = .ok payload := by
  simp only [prepare, assembled, Link.ensureConnected, online]

theorem registry_sendAsync (core : Core σ) (device : Address) (request : Request) :
    (core.sendAsync device request).2.registry = core.registry := by
  cases prepared : core.prepare device request with
  | error failure => rw [sendAsync_of_error core prepared]
  | ok payload => exact (apart_sendAsync core prepared).registry_eq

theorem coherent_sendSync (coherent : core.registry.Coherent) (device : Address)
    (request : Request) (now : Nat) (budget : Duration) :
    (core.sendSync device request now budget).2.registry.Coherent := by
  unfold sendSync
  split
  · exact coherent
  · rename_i due _
    split
    · exact coherent
    · rename_i payload _
      have opened := opened_openWait core.takeId.2 request core.takeId.1 payload due budget
      dsimp only
      generalize (core.takeId.2.openWait request core.takeId.1 payload due budget).1 = opening
        at opened
      generalize (core.takeId.2.openWait request core.takeId.1 payload due budget).2 = next
        at opened ⊢
      cases opened with
      | refused => exact coherent
      | failed _ token _ registered _ apart =>
          exact apart.registry_eq.symm ▸ (Registry.Coherent.register coherent registered).drop token
      | sent _ _ registered _ apart =>
          exact apart.registry_eq.symm ▸ Registry.Coherent.register coherent registered

/--
Whoever waits has been registered under the message id that came next.  The handle tells
which one it is.
-/
theorem registered_of_waits {now : Nat} {budget : Duration} {wait : Wait} {after : Core σ}
    (waits : core.sendSync device request now budget = (.waits wait, after)) :
    core.registry.register core.takeId.1 = .ok (wait.token, after.registry) := by
  unfold sendSync at waits
  split at waits
  · cases waits
  · rename_i due _
    split at waits
    · cases waits
    · rename_i payload _
      have opened := opened_openWait core.takeId.2 request core.takeId.1 payload due budget
      dsimp only at waits
      rw [waits] at opened
      cases opened with
      | sent _ registry registered _ apart =>
          have registry_eq : after.registry = registry := apart.registry_eq
          exact registry_eq ▸ registered

/--
A text that is sent over a connected link is put to an outlet.  There is an outlet wherever
a connected link leads.
-/
theorem send_cases (standing : core.Standing) (online : core.link.phase = .connected)
    (text : String) :
    (∃ failure, core.Refuses text failure ∧ core.send text = (.error failure, core)) ∨
      ∃ after, core.Took text after ∧ Apart core after ∧ core.send text = (.ok (), after) := by
  rcases standing online with ⟨sink, outlet, sink_eq, there⟩
  have routed : core.link.route = .ok sink := by simp only [Link.route, online, sink_eq]
  cases accepted : outlet.accept text with
  | error failure =>
      refine .inl ⟨failure, ⟨sink, outlet, routed, there, accepted⟩, ?_⟩
      simp only [send, routed, hand, there, accepted]
  | ok left =>
      have handed := hand_of_found core there text
      have sent : core.send text = (.ok (), (core.send text).2) := by
        refine Prod.ext ?_ rfl
        simp only [send, routed]
        rw [handed.answer_eq, accepted]
        rfl
      exact .inr ⟨_, took_of_send sent, apart_send core text, sent⟩

/--
A request has a payload that can be sent now, or something speaks against it.  What speaks
against it is a fault of its own or the state of the link.
-/
theorem prepare_cases (core : Core σ) (device : Address) (request : Request) :
    (∃ failure, core.prepare device request = .error failure ∧
        (request.Faulty device failure ∨ request.Sound device ∧
          core.link.phase ≠ .connected ∧ failure = Link.refusal core.link.phase)) ∨
      ∃ payload, core.prepare device request = .ok payload ∧ request.Sound device ∧
        core.link.phase = .connected ∧ request.payload device = .ok payload := by
  rcases request.payload_cases device with ⟨failure, faulty, failed⟩ | ⟨sound, payload, assembled⟩
  · exact .inl ⟨failure, prepare_of_fault failed, .inl faulty⟩
  · by_cases online : core.link.phase = .connected
    · exact .inr ⟨payload, prepare_of_online assembled online, sound, online, assembled⟩
    · exact .inl ⟨_, prepare_of_offline assembled online, .inr ⟨sound, online, rfl⟩⟩

theorem posted (standing : core.Standing) (device : Address) (request : Request) :
    Posted core device request (core.sendAsync device request).1
      (core.reportIds device request) (core.sendAsync device request).2 := by
  rcases core.prepare_cases device request with
    ⟨failure, prepared, why⟩ | ⟨payload, prepared, sound, online, assembled⟩
  · simp only [reportIds, sendAsync, prepared]
    rcases why with faulty | ⟨sound, offline, rfl⟩
    · exact .rejected faulty
    · exact .offline sound offline
  · have counted : core.takeId.2.Standing := standing
    rcases send_cases counted online (request.frame core.takeId.1 payload) with
      ⟨failure, refuses, sent⟩ | ⟨after, took, apart, sent⟩
    · simp only [reportIds, sendAsync, prepared, sent]
      exact .refused sound online assembled refuses
    · simp only [reportIds, sendAsync, prepared, sent]
      exact .sent sound online assembled took apart.registry_eq apart.nextId_eq

theorem requested (standing : core.Standing) (coherent : core.registry.Coherent)
    (distinct : core.registry.ids.Nodup) (fresh : core.takeId.1 ∉ core.registry.ids)
    (device : Address) (request : Request) (now : Nat) (budget : Duration) :
    Requested core device request now budget (core.sendSync device request now budget).1
      (core.requestIds device request now budget)
      (core.sendSync device request now budget).2 := by
  have free := coherent.contains_of_fresh fresh
  cases named : core.clock.after? now budget with
  | none =>
      simp only [requestIds, sendSync, named]
      exact .crashed named
  | some due =>
      rcases core.prepare_cases device request with
        ⟨failure, prepared, why⟩ | ⟨payload, prepared, sound, online, assembled⟩
      · have nothing : core.requestIds device request now budget = [] := by
          simp only [requestIds, reportIds, named, prepared]
          split <;> rfl
        simp only [nothing, sendSync, named, prepared]
        rcases why with faulty | ⟨sound, offline, rfl⟩
        · exact .rejected faulty
        · exact .offline sound offline
      · rcases core.registry.register_cases free with
          ⟨full, refused⟩ | ⟨room, token, registry, registered⟩
        · have refused_then : core.takeId.2.registry.register core.takeId.1 = .error _ := refused
          simp only [requestIds, sendSync, openWait, named, prepared, refused, refused_then]
          exact .full sound online full
        · have registered_then :
              core.takeId.2.registry.register core.takeId.1 = .ok (token, registry) := registered
          have stands : Standing { core.takeId.2 with registry := registry } := standing
          rcases send_cases stands online (request.frame core.takeId.1 payload) with
            ⟨failure, refuses, sent⟩ | ⟨after, took, apart, sent⟩
          · simp only [requestIds, reportIds, sendSync, openWait, named, prepared, registered,
              registered_then, sent]
            exact .refused sound online room assembled refuses
              (coherent.same_of_drop distinct fresh registered)
          · simp only [requestIds, reportIds, sendSync, openWait, named, prepared, registered,
              registered_then, sent]
            have registry_eq : after.registry = registry := apart.registry_eq
            exact .sent sound online assembled took named (registry_eq ▸ registered)
              apart.nextId_eq

end

end Core
end DeviceLink
