import DeviceLink.Proofs.Core.Run

namespace DeviceLink
namespace Core

variable {σ : Type}

/-!
What can become of an inbound frame, and where a happening comes from.  A frame has one
case for each verdict, with the core afterwards and with what the pool has been offered,
so that no later proof has to follow the reading of a frame again.  `Routing` is the
type of these cases.  `Origin` does the same for happenings: an accepted job comes from
a frame or is submitted, a job begins or ends in a step of its task, and a request is
sent by the operation that makes it.
-/

inductive Routing (setup : Setup σ) (core : Core σ) (text : String) :
    Verdict → Core σ → Option Job → Prop
  | dropped : Routing setup core text .dropped core none
  | delivered (reply : Reply)
      (inbound : Inbound.ofText text = .ok (.response reply.messageId reply.code reply.payload))
      (taken : (core.deliver reply).1 = true) :
      Routing setup core text .delivered (core.deliver reply).2 none
  | unmatched (reply : Reply)
      (inbound : Inbound.ofText text = .ok (.response reply.messageId reply.code reply.payload))
      (missed : (core.deliver reply).1 = false) (unobserved : setup.replyObserver = none) :
      Routing setup core text .unmatched (core.deliver reply).2 none
  | observed (reply : Reply)
      (inbound : Inbound.ofText text = .ok (.response reply.messageId reply.code reply.payload))
      (missed : (core.deliver reply).1 = false) (observed : setup.replyObserver ≠ none) :
      Routing setup core text .unmatched
        ((core.deliver reply).2.submit (.reportReply reply.messageId reply.code)).2
        (some (.reportReply reply.messageId reply.code))
  | submitted (messageId : UInt32) (method : String) (payload : Json.Value) (device : Address)
      (call : DeviceCall) (inbound : Inbound.ofText text = .ok (.call messageId method payload))
      (address : Address.ofPayload? payload = some device)
      (read : DeviceCall.ofPayload method payload = .ok call)
      (accepted : (core.submit (.invoke messageId device call)).1 = .ok ()) :
      Routing setup core text .submitted (core.submit (.invoke messageId device call)).2
        (some (.invoke messageId device call))
  | unreadable (messageId : UInt32) (method : String) (payload : Json.Value) (device : Address)
      (fault : DeviceCall.Fault)
      (inbound : Inbound.ofText text = .ok (.call messageId method payload))
      (address : Address.ofPayload? payload = some device)
      (read : DeviceCall.ofPayload method payload = .error fault) :
      Routing setup core text (.rejected .invalidParameter)
        (core.respond messageId ResultCode.invalidParameter.number []).2 none
  | refused (messageId : UInt32) (method : String) (payload : Json.Value) (device : Address)
      (call : DeviceCall) (failure : Failure)
      (inbound : Inbound.ofText text = .ok (.call messageId method payload))
      (address : Address.ofPayload? payload = some device)
      (read : DeviceCall.ofPayload method payload = .ok call)
      (refused : core.submit (.invoke messageId device call) = (.error failure, core)) :
      Routing setup core text (.rejected failure.code)
        (core.respond messageId failure.code.number []).2 (some (.invoke messageId device call))

/-- A refused job leaves no trace.  Closing and queue are looked at before anything is changed. -/
theorem submit_of_error {core after : Core σ} {job : Job} {failure : Failure}
    (refused : core.submit job = (.error failure, after)) : after = core := by
  unfold submit at refused
  split at refused
  · cases refused
  · cases refused
    rfl

theorem admitted_of_ok {core : Core σ} {job : Job} (accepted : (core.submit job).1 = .ok ()) :
    core.admitted (some job) = [.accepted job] := by
  unfold submit at accepted
  unfold admitted
  split at accepted
  · rename_i submitted
    simp only [submitted]
  · cases accepted

theorem admitted_of_error {core : Core σ} {job : Job} {failure : Failure}
    (refused : (core.submit job).1 = .error failure) : core.admitted (some job) = [] := by
  unfold submit at refused
  unfold admitted
  split at refused
  · cases refused
  · rename_i submitted
    simp only [submitted]

section

variable (setup : Setup σ) (core : Core σ) {text : String}

theorem routing_reply (reply : Reply)
    (inbound : Inbound.ofText text = .ok (.response reply.messageId reply.code reply.payload)) :
    Routing setup core text (receiveReply setup core reply).1 (receiveReply setup core reply).2
      (offeredReply? setup core reply) := by
  cases delivery : core.deliver reply with
  | mk delivered after =>
      have after_eq : (core.deliver reply).2 = after := congrArg Prod.snd delivery
      have delivered_eq : (core.deliver reply).1 = delivered := congrArg Prod.fst delivery
      cases delivered with
      | true =>
          have received : receiveReply setup core reply = (.delivered, after) := by
            simp only [receiveReply, delivery]
          have offer : offeredReply? setup core reply = none := if_pos delivered_eq
          rw [received, offer, ← after_eq]
          exact .delivered reply inbound delivered_eq
      | false =>
          cases observer : setup.replyObserver with
          | none =>
              have received : receiveReply setup core reply = (.unmatched, after) := by
                simp only [receiveReply, delivery, observer, Option.isSome_none,
                  Bool.false_eq_true, if_false]
              have offer : offeredReply? setup core reply = none := by
                simp only [offeredReply?, delivered_eq, observer, Option.isSome_none,
                  Bool.false_eq_true, if_false]
              rw [received, offer, ← after_eq]
              exact .unmatched reply inbound delivered_eq observer
          | some kind =>
              have received : receiveReply setup core reply =
                  (.unmatched, (after.submit (.reportReply reply.messageId reply.code)).2) := by
                simp only [receiveReply, delivery, observer, Option.isSome_some, if_true]
              have offer : offeredReply? setup core reply =
                  some (.reportReply reply.messageId reply.code) := by
                simp only [offeredReply?, delivered_eq, observer, Option.isSome_some,
                  Bool.false_eq_true, if_false, if_true]
              rw [received, offer, ← after_eq]
              exact .observed reply inbound delivered_eq (by rw [observer]; exact nofun)

theorem routing_call {messageId : UInt32} {method : String} {payload : Json.Value}
    (inbound : Inbound.ofText text = .ok (.call messageId method payload)) :
    Routing setup core text (core.receiveCall messageId method payload).1
      (core.receiveCall messageId method payload).2 (offeredCall? messageId method payload) := by
  cases address : Address.ofPayload? payload with
  | none =>
      simp only [receiveCall, offeredCall?, address]
      exact .dropped
  | some device =>
      cases read : DeviceCall.ofPayload method payload with
      | error fault =>
          simp only [receiveCall, offeredCall?, address, read]
          exact .unreadable messageId method payload device fault inbound address read
      | ok call =>
          have offer : offeredCall? messageId method payload =
              some (.invoke messageId device call) := by
            simp only [offeredCall?, address, read]
          cases submitted : core.submit (.invoke messageId device call) with
          | mk result after =>
              have after_eq : (core.submit (.invoke messageId device call)).2 = after :=
                congrArg Prod.snd submitted
              cases result with
              | ok =>
                  have received : core.receiveCall messageId method payload =
                      (.submitted, after) := by
                    simp only [receiveCall, address, read, submitted]
                  rw [received, offer, ← after_eq]
                  exact .submitted messageId method payload device call inbound address read
                    (congrArg Prod.fst submitted)
              | error failure =>
                  have same := submit_of_error submitted
                  have received : core.receiveCall messageId method payload =
                      core.reject messageId failure.code := by
                    simp only [receiveCall, address, read, submitted, same]
                  rw [received, offer]
                  rw [same] at submitted
                  exact .refused messageId method payload device call failure inbound address read
                    submitted

end

/--
Every inbound frame takes one of these ways.  The case says what the frame was, what was
done about it, and which job was offered to the pool.
-/
theorem routing (setup : Setup σ) (core : Core σ) (text : String) :
    Routing setup core text (receive setup core text).1 (receive setup core text).2
      (offered? setup core text) := by
  unfold receive offered?
  cases inbound : Inbound.ofText text with
  | error fault => exact .dropped
  | ok message =>
      cases message with
      | response messageId code payload =>
          exact routing_reply setup core ⟨messageId, code, payload⟩ inbound
      | call messageId method payload => exact routing_call setup core inbound

/-! ## Where a happening comes from -/

inductive Origin (setup : Setup σ) (core : Core σ) : Move σ → Happening → Prop
  | report (device : Address) (request : Request) (payload : Json.Members) :
      Origin setup core (.report device request) (.sent (request.frame core.takeId.1 payload))
  | request (device : Address) (request : Request) (now : Nat) (budget : Duration)
      (payload : Json.Members) :
      Origin setup core (.request device request now budget)
        (.sent (request.frame core.takeId.1 payload))
  | received (text : String) :
      Origin setup core (.receive text) (.received text (receive setup core text).1)
  | offered (text : String) (job : Job) (offer : offered? setup core text = some job) :
      Origin setup core (.receive text) (.accepted job)
  | submitted (job : Job) : Origin setup core (.submit job) (.accepted job)
  | stepped (id : Nat) (happening : Happening) (shown : happening ∈ stepped setup core id) :
      Origin setup core (.step id) happening

theorem mem_outgoing {core : Core σ} {device : Address} {request : Request} {happening : Happening}
    (shown : happening ∈ core.outgoing device request) :
    ∃ payload, happening = .sent (request.frame core.takeId.1 payload) := by
  unfold outgoing at shown
  split at shown
  · rename_i payload _
    exact ⟨payload, List.mem_singleton.mp shown⟩
  · cases shown

theorem mem_admitted {core : Core σ} {offer : Option Job} {happening : Happening}
    (shown : happening ∈ core.admitted offer) :
    ∃ job, offer = some job ∧ happening = .accepted job := by
  unfold admitted at shown
  split at shown
  · cases shown
  · rename_i job
    split at shown
    · exact ⟨job, rfl, List.mem_singleton.mp shown⟩
    · cases shown

theorem origin_of_observe {setup : Setup σ} {core : Core σ} {move : Move σ} {happening : Happening}
    (shown : happening ∈ observe setup core move) : Origin setup core move happening := by
  cases move with
  | report device request =>
      simp only [observe] at shown
      split at shown
      · rcases mem_outgoing shown with ⟨payload, rfl⟩
        exact .report device request payload
      · cases shown
  | request device request now budget =>
      simp only [observe] at shown
      split at shown
      · rcases mem_outgoing shown with ⟨payload, rfl⟩
        exact .request device request now budget payload
      · cases shown
  | receive text =>
      rcases List.mem_cons.mp shown with first | later
      · rw [first]
        exact .received text
      · rcases mem_admitted later with ⟨job, offer, rfl⟩
        exact .offered text job offer
  | submit job =>
      have admitted : happening ∈ core.admitted (some job) := shown
      rcases mem_admitted admitted with ⟨same, offer, rfl⟩
      cases offer
      exact .submitted job
  | step id => exact .stepped id happening shown
  | establish | closeLink | shutdownLink | forget | forgetAll | openGate | closePool | abort | drain
    | hangUp | disturb => cases shown

end Core
end DeviceLink
