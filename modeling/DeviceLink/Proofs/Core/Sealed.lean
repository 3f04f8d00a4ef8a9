import DeviceLink.Proofs.Core.Closed

namespace DeviceLink
namespace Core

variable {σ : Type}

/-!
A core that has been shut down: its link is closed, nobody awaits a reply and the pool
accepts nothing.  Each operation has one answer then, and leaves the core as it was.
What still runs in the pool is not affected; it is only that nothing new can come in or
go out.  The equations about single operations are what is needed to show that nothing
has an effect any more.  `closed_run_iff` goes the other way: among the moves of a run
only a shutdown closes a link.
-/

structure Sealed (core : Core σ) : Prop where
  phase_eq : core.link.phase = .closed
  entries_eq : core.registry.entries = []
  refuses : core.pool.closed = true

/--
The verdict on a call that has an address and is not carried out.  A call that cannot be
read is at fault itself, and any other one meets the closed pool.
-/
def refusalOf (method : String) (payload : Json.Value) : ResultCode :=
  match DeviceCall.ofPayload method payload with
  | .error _ => .invalidParameter
  | .ok _ => .connectionDown

namespace Sealed

variable {core next : Core σ} (shut : core.Sealed)

include shut

theorem still (still : Still core next) : next.Sealed where
  phase_eq := still.closed shut.phase_eq
  entries_eq := still.empty shut.entries_eq
  refuses := (still.winds shut.refuses).closed_eq.trans shut.refuses

/-! ## Requests -/

section

variable {device : Address} {request : Request} {payload : Json.Members}
  (passes : request.payload device = .ok payload)

include passes

theorem sendAsync_eq : core.sendAsync device request = (.error .closed, core) := by
  simp only [sendAsync, prepare_of_closed shut.phase_eq passes]

theorem sendSync_eq {now due : Nat} {budget : Duration}
    (clock : core.clock.after? now budget = some due) :
    core.sendSync device request now budget = (.fails .closed, core) := by
  simp only [sendSync, clock, prepare_of_closed shut.phase_eq passes]

end

/-! ## Inbound frames -/

theorem submit_eq (job : Job) : core.submit job = (.error .closed, core) := by
  simp only [submit, Pool.submit, shut.refuses, if_true]

theorem deliver_eq (reply : Reply) : core.deliver reply = (false, core) := by
  simp only [deliver, Registry.deliver_of_empty shut.entries_eq]

theorem receiveReply_eq (setup : Setup σ) (reply : Reply) :
    receiveReply setup core reply = (.unmatched, core) := by
  simp only [receiveReply, shut.deliver_eq, shut.submit_eq]
  split <;> rfl

theorem reject_eq (messageId : UInt32) (code : ResultCode) :
    core.reject messageId code = (.rejected code, core) := by
  simp only [reject, respond_of_closed shut.phase_eq]

theorem receiveCall_eq (messageId : UInt32) (method : String) (payload : Json.Value) :
    core.receiveCall messageId method payload =
      match Address.ofPayload? payload with
      | none => (.dropped, core)
      | some _ => (.rejected (refusalOf method payload), core) := by
  unfold receiveCall refusalOf
  cases Address.ofPayload? payload with
  | none => rfl
  | some device =>
      cases DeviceCall.ofPayload method payload with
      | error fault => exact shut.reject_eq messageId _
      | ok call =>
          simp only [shut.submit_eq]
          exact shut.reject_eq messageId _

/-- No frame that comes in leaves a trace.  Even a rejection has nowhere to go. -/
theorem receive_eq (setup : Setup σ) (text : String) : (receive setup core text).2 = core := by
  unfold receive
  split
  · rfl
  · rw [shut.receiveReply_eq]
  · rw [shut.receiveCall_eq]
    split <;> rfl

end Sealed

/-! ## How a link comes to be closed -/

section

variable (setup : Setup σ) (core : Core σ)

theorem closed_sendAsync_iff (device : Address) (request : Request) :
    (core.sendAsync device request).2.link.phase = .closed ↔ core.link.phase = .closed := by
  cases prepared : core.prepare device request with
  | error failure => rw [core.sendAsync_of_error prepared]
  | ok payload => exact (core.apart_sendAsync prepared).closed_iff

theorem closed_openWait_iff (request : Request) (messageId : UInt32) (payload : Json.Members)
    (due : Nat) (budget : Duration) :
    (core.openWait request messageId payload due budget).2.link.phase = .closed ↔
      core.link.phase = .closed := by
  have way := opened_openWait core request messageId payload due budget
  generalize core.openWait request messageId payload due budget = result at way ⊢
  rcases result with ⟨opening, after⟩
  cases way with
  | refused failure => exact Iff.rfl
  | failed failure token registry registered _ apart => exact apart.closed_iff
  | sent token registry registered _ apart => exact apart.closed_iff

theorem closed_sendSync_iff (device : Address) (request : Request) (now : Nat)
    (budget : Duration) :
    (core.sendSync device request now budget).2.link.phase = .closed ↔
      core.link.phase = .closed := by
  unfold sendSync
  split
  · exact Iff.rfl
  · split
    · exact Iff.rfl
    · exact closed_openWait_iff core.takeId.2 request core.takeId.1 _ _ budget

theorem closed_receive_iff (text : String) :
    (receive setup core text).2.link.phase = .closed ↔ core.link.phase = .closed := by
  unfold receive
  split
  · exact Iff.rfl
  · exact (apart_receiveReply setup core _).closed_iff
  · exact (apart_receiveCall core _ _ _).closed_iff

/--
Only a shutdown closes a link, and nothing opens it again.  So the phase of a link that has
been closed is known at any later time.
-/
theorem closed_perform_iff {move : Move σ} (other : move ≠ .shutdownLink) :
    (perform setup core move).link.phase = .closed ↔ core.link.phase = .closed := by
  cases move with
  | shutdownLink => exact absurd rfl other
  | establish outlet => exact (apart_establish setup core outlet).closed_iff
  | closeLink => exact (apart_closeLink setup core).closed_iff
  | report device request => exact core.closed_sendAsync_iff device request
  | request device request now budget => exact core.closed_sendSync_iff device request now budget
  | receive text => exact closed_receive_iff setup core text
  | submit job => exact (core.apart_submit job).closed_iff
  | step task => exact (apart_step setup core task).closed_iff
  | drain most => exact (Apart.of_outward (core.outward_onNewestQueue _)).closed_iff
  | hangUp => exact (Apart.of_outward (core.outward_onNewestQueue _)).closed_iff
  | forget | forgetAll | openGate | closePool | abort | disturb => exact Iff.rfl

theorem closed_run_iff {moves : List (Move σ)} (others : ∀ move ∈ moves, move ≠ .shutdownLink) :
    (run setup core moves).link.phase = .closed ↔ core.link.phase = .closed := by
  induction moves generalizing core with
  | nil => exact Iff.rfl
  | cons move rest ih =>
      refine (ih (perform setup core move) fun other inside => ?_).trans ?_
      · exact others other (List.mem_cons_of_mem _ inside)
      · exact closed_perform_iff setup core (others move List.mem_cons_self)

/--
A shutdown closes the link first, and the pool last.  Between the two, all who wait for
replies are told that there will be none.
-/
theorem sealed_shutdown : (run setup core [.shutdownLink, .forgetAll, .closePool]).Sealed where
  phase_eq := (shutdownLink_eq setup core).2.2
  entries_eq := rfl
  refuses := rfl

end

end Core
end DeviceLink
