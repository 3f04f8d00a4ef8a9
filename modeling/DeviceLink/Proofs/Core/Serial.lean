import DeviceLink.Proofs.Core.Accounting

namespace DeviceLink

/-!
The calls on one device follow one another in the order in which they were accepted.
That holds however many workers there are and however the tasks are scheduled, as long
as none is abandoned.  `Serial` says in terms of the history that the calls on a device
begin in order, that beginnings and ends alternate, and that nobody begins before those
ahead of it have ended.  The proof reads it off the ledger, which has the calls of a
device in one list.
-/

namespace Boundary

def begun? : Boundary → Option Pool.WaitingCall
  | start call => some call
  | finish _ => none

end Boundary

theorem begunCalls_eq_boundaries (device : Address) (past : List Happening) :
    begunCalls device past = (boundaries device past).filterMap Boundary.begun? := by
  rw [begunCalls, boundaries, List.filterMap_filterMap]
  congr 1
  funext happening
  cases happening with
  | received | sent | accepted => rfl
  | began job | ended job =>
      cases call : job.callOn? device <;>
        simp [Happening.begunCall?, Happening.boundary?, call, Boundary.begun?]

theorem begun_oneByOne (calls : List Pool.WaitingCall) :
    (oneByOne calls).filterMap Boundary.begun? = calls := by
  induction calls with
  | nil => rfl
  | cons call rest ih =>
      rw [oneByOne, List.flatMap_cons, List.filterMap_append, ← oneByOne, ih]
      rfl

theorem begun_map_start (calls : List Pool.WaitingCall) :
    (calls.map Boundary.start).filterMap Boundary.begun? = calls := by
  rw [List.filterMap_map]
  exact List.filterMap_some

namespace Core

variable {σ : Type}

/--
The calls on a device in a run.  The fields say how they begin and end, what their ends hand
on, and that none of them is forgotten.
-/
structure Serial (setup : Setup σ) (start : Core σ) (moves : List (Move σ)) (device : Address) :
    Prop where
  /--
  Calls begin in the order in which they were accepted, each at most once.  What has begun
  is the beginning of what has been accepted.
  -/
  begun_prefix : begunCalls device (history setup start moves) <+:
    acceptedCalls device (history setup start moves)
  /--
  Beginnings and ends alternate, and a call that begins is the next to end.  At most one
  call on a device has begun and not ended.
  -/
  alternating : ∃ current : Option Pool.WaitingCall, boundaries device (history setup start moves) =
    oneByOne (endedCalls device (history setup start moves)) ++ current.toList.map .start
  /--
  When a call begins, all calls that were accepted before it have ended.  So it finds the
  device in the state in which they have left it.
  -/
  begins : ∀ earlier move later messageId call, moves = earlier ++ move :: later →
    .began (.invoke messageId device call) ∈ observe setup (run setup start earlier) move →
    ∃ waiting, acceptedCalls device (history setup start earlier) =
      endedCalls device (history setup start earlier) ++ ⟨messageId, call⟩ :: waiting
  /--
  The move that ends a call hands its response on first.  The next call cannot begin before
  that.
  -/
  answers : ∀ earlier move later messageId call answer, moves = earlier ++ move :: later →
    .ended (.invoke messageId device call) answer ∈ observe setup (run setup start earlier) move →
    ∃ (code : Int32) (payload : Json.Members) (handing : Core σ) (task : Pool.Task σ),
      answer = some (code, payload) ∧
      handing.link = (run setup start earlier).link ∧
      handing.outlets = (run setup start earlier).outlets ∧
      perform setup (run setup start earlier) move =
        (handing.respond messageId code payload).2.endTask task
  /--
  The calls that have not ended have a task, and it can go on or waits for a permit.
  Nothing can keep them from running but a lack of workers or a gate.
  -/
  driven : endedCalls device (history setup start moves) ≠
      acceptedCalls device (history setup start moves) →
    ∃ task ∈ (run setup start moves).pool.tasks, ∃ call waiting,
      task.job = .invoke call.messageId device call.call ∧
      (run setup start moves).pool.lane? device = some waiting ∧
      acceptedCalls device (history setup start moves) =
        endedCalls device (history setup start moves) ++ call :: waiting ∧
      (task.id ∈ (run setup start moves).pool.ready ∨
        task.id ∈ (run setup start moves).pool.permits.waiters ∨
        task.id ∈ (run setup start moves).gates.waiting)
  /--
  Once nobody can go on and nobody is at a gate, every accepted call has run.  The calls
  that have ended are all that were accepted then.
  -/
  settled : (run setup start moves).pool.ready = [] → (run setup start moves).gates.waiting = [] →
    begunCalls device (history setup start moves) =
        acceptedCalls device (history setup start moves) ∧
      endedCalls device (history setup start moves) =
        acceptedCalls device (history setup start moves)

namespace Accounted

variable {setup : Setup σ} {past : List Happening} {core : Core σ}

theorem begunCalls_eq (accounted : Accounted setup past core) (device : Address) :
    begunCalls device past =
      endedCalls device past ++ core.pool.ledger.runningCalls device := by
  rw [begunCalls_eq_boundaries, accounted.recorded.boundaries_eq, List.filterMap_append,
    begun_oneByOne, begun_map_start]

theorem begun_prefix (accounted : Accounted setup past core) (device : Address) :
    begunCalls device past <+: acceptedCalls device past := by
  rw [accounted.begunCalls_eq, accounted.recorded.accepted_eq]
  exact List.prefix_append_right_inj _ |>.mpr (accounted.coherent.runningCalls_prefix device)

theorem alternating (accounted : Accounted setup past core) (device : Address) :
    ∃ current : Option Pool.WaitingCall, boundaries device past =
      oneByOne (endedCalls device past) ++ current.toList.map .start := by
  rcases accounted.coherent.exists_runningCalls device with ⟨current, running⟩
  exact ⟨current, running ▸ accounted.recorded.boundaries_eq device⟩

/-- The call of a task is the first that has not ended.  The calls behind it stand in the lane. -/
theorem accepted_of_task (accounted : Accounted setup past core) {task : Pool.Task σ}
    (member : task ∈ core.pool.tasks) {device : Address} (call : Pool.WaitingCall)
    (job : task.job = .invoke call.messageId device call.call) :
    ∃ waiting, core.pool.lane? device = some waiting ∧
      acceptedCalls device past = endedCalls device past ++ call :: waiting := by
  rcases accounted.coherent.calls_of_task member (Job.callOn?_eq_some.mpr job) with
    ⟨waiting, lane, calls, -⟩
  exact ⟨waiting, lane, calls ▸ accounted.recorded.accepted_eq device⟩

/-- A task is in one of the queues.  It is ready, or it waits for a permit or at a gate. -/
theorem queued_task (accounted : Accounted setup past core) {task : Pool.Task σ}
    (member : task ∈ core.pool.tasks) :
    task.id ∈ core.pool.ready ∨ task.id ∈ core.pool.permits.waiters ∨
      task.id ∈ core.gates.waiting := by
  rw [accounted.coherent.ready_perm.mem_iff, accounted.coherent.waiters_perm.mem_iff,
    accounted.coherent.blocked_perm.mem_iff, Pool.mem_idsWhere, Pool.mem_idsWhere,
    Pool.mem_idsWhere]
  cases ready : task.stage.isReady with
  | true => exact Or.inl ⟨task, member, ready, rfl⟩
  | false =>
      cases suspended : task.stage.isSuspended with
      | true => exact Or.inr (Or.inr ⟨task, member, suspended, rfl⟩)
      | false =>
          have queueing := Pool.Stage.eq_queueing ready suspended
          exact Or.inr (Or.inl ⟨task, member, by rw [queueing]; rfl, rfl⟩)

theorem driven (accounted : Accounted setup past core) {device : Address}
    (unended : endedCalls device past ≠ acceptedCalls device past) :
    ∃ task ∈ core.pool.tasks, ∃ call waiting,
      task.job = .invoke call.messageId device call.call ∧
      core.pool.lane? device = some waiting ∧
      acceptedCalls device past = endedCalls device past ++ call :: waiting ∧
      (task.id ∈ core.pool.ready ∨ task.id ∈ core.pool.permits.waiters ∨
        task.id ∈ core.gates.waiting) := by
  cases lane : core.pool.lane? device with
  | none =>
      have nothing := (accounted.coherent.calls_of_free lane).1
      have same := accounted.recorded.accepted_eq device
      rw [nothing, List.append_nil] at same
      exact absurd same.symm unended
  | some others =>
      rcases accounted.coherent.exists_driver lane with ⟨task, member, call, isOn⟩
      have job := Job.callOn?_eq_some.mp isOn
      rcases accounted.accepted_of_task member call job with ⟨waiting, found, accepted⟩
      rw [lane] at found
      exact ⟨task, member, call, waiting, job, found, accepted, accounted.queued_task member⟩

/--
When nobody can go on and nobody waits at a gate, all tasks have come to their end.  With no
task left there is nobody to hold a permit, so nobody waits for one either.
-/
theorem tasks_eq_nil (accounted : Accounted setup past core) (idle : core.pool.ready = [])
    (nobody : core.gates.waiting = []) : core.pool.tasks = [] := by
  have coherent := accounted.coherent
  rw [nobody] at coherent
  have some_worker : 0 < setup.options.workerCount :=
    Nat.lt_of_lt_of_le Nat.zero_lt_one (Nat.le_max_right _ _)
  exact coherent.tasks_eq_nil some_worker idle

theorem settled (accounted : Accounted setup past core) (idle : core.pool.ready = [])
    (nobody : core.gates.waiting = []) (device : Address) :
    begunCalls device past = acceptedCalls device past ∧
      endedCalls device past = acceptedCalls device past := by
  have tasks := accounted.tasks_eq_nil idle nobody
  have free : core.pool.lane? device = none := by
    cases lane : core.pool.lane? device with
    | none => rfl
    | some waiting =>
        rcases accounted.coherent.exists_driver lane with ⟨task, member, -⟩
        rw [tasks] at member
        cases member
  rcases accounted.coherent.calls_of_free free with ⟨calls, running⟩
  rw [accounted.begunCalls_eq, accounted.recorded.accepted_eq, calls, running]
  exact ⟨rfl, (List.append_nil _).symm⟩

end Accounted

section

variable {setup : Setup σ} {core : Core σ} {move : Move σ} {happening : Happening}

/-- Code that ends a call leads to its response.  What the call has ended with is what goes out. -/
theorem endCall_of_concluded {job : Job} {activity : Activity σ Json.Members} {taken : Core σ}
    (shown : happening ∈ concluded job activity taken.world) :
    ∃ outcome, happening = .ended job (some (DeviceCall.answer outcome)) ∧
      ∀ (task : Pool.Task σ) (messageId : UInt32), taken.runActivity task messageId activity =
        (taken.ranTo activity).endCall task messageId outcome := by
  unfold concluded at shown
  cases progress : (activity.run taken.world).progress with
  | ended outcome =>
      rw [progress] at shown
      exact ⟨outcome, List.mem_singleton.mp shown, fun task messageId =>
        runActivity_of_ended taken task messageId progress⟩
  | atGate gate rest =>
      rw [progress] at shown
      cases shown

/--
What the step of a task shows, with what it does to the core.  A single step may both begin
and end a job.
-/
inductive Shows (setup : Setup σ) (core : Core σ) (task : Pool.Task σ) : Happening → Prop
  | begins (stage : task.stage = .granted) : Shows setup core task (.began task.job)
  | reports (messageId : UInt32) (code : Int32) (job : task.job = .reportReply messageId code) :
      Shows setup core task (.ended task.job none)
  | answers (messageId : UInt32) (device : Address) (call : DeviceCall)
      (outcome : Outcome Json.Members) (handing : Core σ)
      (job : task.job = .invoke messageId device call) (link_eq : handing.link = core.link)
      (outlets_eq : handing.outlets = core.outlets)
      (step_eq : step setup core task.id = handing.endCall task messageId outcome) :
      Shows setup core task (.ended task.job (some (DeviceCall.answer outcome)))

theorem shows_of_stepped {id : Nat} (shown : happening ∈ stepped setup core id) :
    ∃ task, core.pool.task? id = some task ∧ Shows setup core task happening := by
  unfold stepped at shown
  cases found : core.pool.task? id with
  | none =>
      rw [found] at shown
      cases shown
  | some task =>
      refine ⟨task, rfl, ?_⟩
      have number := (Pool.mem_of_task? found).2
      subst number
      let taken := { core with pool := core.pool.leaveReady task.id }
      simp only [found] at shown
      cases stage : task.stage with
      | fresh | queueing | atGate | suspended =>
          rw [stage] at shown
          cases shown
      | granted =>
          cases job : task.job with
          | reportReply messageId code =>
              simp only [stage, job, List.mem_cons, List.not_mem_nil, or_false] at shown
              rw [← job] at shown
              rcases shown with rfl | rfl
              · exact .begins stage
              · exact .reports messageId code job
          | invoke messageId device call =>
              simp only [stage, job, List.mem_cons] at shown
              rw [← job] at shown
              rcases shown with rfl | ended
              · exact .begins stage
              · let begun := { taken with pool := taken.pool.startJob }
                have world_eq : core.world = begun.world := rfl
                rw [world_eq] at ended
                rcases endCall_of_concluded ended with ⟨outcome, rfl, ran⟩
                let code := call.perform setup.handler setup.options.outputSlots device
                refine .answers messageId device call outcome (begun.ranTo code) job rfl rfl ?_
                rw [← ran]
                simp only [step, found, stepTask, stage, beginJob, job]
                rfl
      | resumable rest =>
          cases job : task.job with
          | reportReply messageId code =>
              simp only [stage, job] at shown
              cases shown
          | invoke messageId device call =>
              simp only [stage, job] at shown
              rw [← job] at shown
              have world_eq : core.world = taken.world := rfl
              rw [world_eq] at shown
              rcases endCall_of_concluded shown with ⟨outcome, rfl, ran⟩
              refine .answers messageId device call outcome (taken.ranTo rest) job rfl rfl ?_
              rw [← ran]
              simp only [step, found, stepTask, stage, job]
              rfl

/-- What a task begins is its job.  The task was in the pool before the move. -/
theorem begins_of_observe {job : Job} (shown : .began job ∈ observe setup core move) :
    ∃ task ∈ core.pool.tasks, task.job = job := by
  cases origin_of_observe shown with
  | stepped id _ shown =>
      rcases shows_of_stepped shown with ⟨task, found, shows⟩
      cases shows with
      | begins stage => exact ⟨task, (Pool.mem_of_task? found).1, rfl⟩

/--
Only the step of a task ends a call, and it hands on the response first.  Nothing else that
a core does is an answer to a call.
-/
theorem answers_of_observe {messageId : UInt32} {device : Address} {call : DeviceCall}
    {answer : Option (Int32 × Json.Members)}
    (shown : .ended (.invoke messageId device call) answer ∈ observe setup core move) :
    ∃ (code : Int32) (payload : Json.Members) (handing : Core σ) (task : Pool.Task σ),
      answer = some (code, payload) ∧ handing.link = core.link ∧
      handing.outlets = core.outlets ∧
      perform setup core move = (handing.respond messageId code payload).2.endTask task := by
  cases origin_of_observe shown with
  | stepped id _ shown =>
      rcases shows_of_stepped shown with ⟨task, found, shows⟩
      generalize same : Job.invoke messageId device call = ended at shows
      cases shows with
      | reports _ _ job =>
          rw [job] at same
          cases same
      | answers _ _ _ outcome handing job link_eq outlets_eq step_eq =>
          rw [job] at same
          cases same
          refine ⟨_, _, handing, task, rfl, link_eq, outlets_eq, ?_⟩
          rw [← (Pool.mem_of_task? found).2]
          exact step_eq

end

/--
On every device calls run one at a time in the order of acceptance, and none is lost.  There
is no other condition than that no task is abandoned.
-/
theorem calls_serial (setup : Setup σ) (world : σ) (moves : List (Move σ))
    (orderly : ∀ move ∈ moves, move.isAbort = false) (device : Address) :
    Serial setup (new setup world) moves device := by
  have accounted := accounted_run setup world moves orderly
  exact
    { begun_prefix := accounted.begun_prefix device
      alternating := accounted.alternating device
      begins := by
        intro earlier move later messageId call split shown
        have before := accounted_run setup world earlier fun move inside =>
          orderly move (split ▸ List.mem_append_left _ inside)
        rcases begins_of_observe shown with ⟨task, member, job⟩
        rcases before.accepted_of_task member ⟨messageId, call⟩ job with
          ⟨waiting, -, accepted⟩
        exact ⟨waiting, accepted⟩
      answers := fun _ _ _ _ _ _ _ shown => answers_of_observe shown
      driven := accounted.driven
      settled := fun idle nobody => accounted.settled idle nobody device }

/--
The second call on a lamp arrives before the first has begun.  It still begins after the
first one has ended.
-/
def callsInTurn : List (Move Unit) :=
  let lamp : Address := ⟨"house", "lamp"⟩
  [.submit (.invoke 1 lamp (.getProperties [])), .submit (.invoke 2 lamp (.getProperties [])),
    .step 0, .step 0, .step 0, .step 0]

theorem calls_serial_callsInTurn :
    Serial plainSetup (new plainSetup ()) callsInTurn ⟨"house", "lamp"⟩ ∧
      begunCalls ⟨"house", "lamp"⟩ (history plainSetup (new plainSetup ()) callsInTurn) =
        [⟨1, .getProperties []⟩, ⟨2, .getProperties []⟩] :=
  ⟨calls_serial plainSetup () callsInTurn (by decide) ⟨"house", "lamp"⟩, by decide⟩

end Core
end DeviceLink
