import DeviceLink.Proofs.Core.Run
import DeviceLink.Proofs.Pool.Coherence

namespace DeviceLink
namespace Pool

variable {σ : Type}

/-!
What can happen to a pool, one case for each kind of change, with the happenings that
belong to it.  Device code does not occur here: whether a call comes to a gate or ends
is decided elsewhere, and every choice is allowed.  The main statement is that a
coherent pool stays coherent.  `Transition` lists the kinds of change.  A pool is
coherent with respect to a number of permits and the tasks at gates, and each case is
one of the three changes of a task that were treated before, or two of them in a row.
-/

/--
A task that takes its turn is not in the ready queue.  Its place in the queue is given up
before anything else.
-/
def leaveReady (pool : Pool σ) (id : Nat) : Pool σ := { pool with ready := pool.ready.erase id }

/--
A task goes on with its job, which begins if it has not begun.  It leaves the ready queue
for that.
-/
def takeUp (pool : Pool σ) (task : Task σ) : Pool σ :=
  if task.stage.isRunning then pool.leaveReady task.id else (pool.leaveReady task.id).startJob

/--
What a task shows when it goes on.  It shows that its job begins, if it has just got its
permit.
-/
def beginning (task : Task σ) : List Happening :=
  if task.stage.isRunning then [] else [.began task.job]

/--
A task is done with its job: the next call of its lane takes its place, if there is one.
Its permit is not given back here.
-/
def retire (pool : Pool σ) (task : Task σ) : Pool σ :=
  match task.job with
  | .invoke _ device _ => pool.advanceLane task device
  | .reportReply _ _ => pool.removeTask task.id

inductive Transition (pool : Pool σ) (blocked : List Nat) :
    List Happening → Pool σ → List Nat → Prop
  | accept (job : Job) (next : Pool σ) (submitted : pool.submit job = .ok next) :
      Transition pool blocked [.accepted job] next blocked
  | ask (task : Task σ) (found : pool.task? task.id = some task) (stage : task.stage = .fresh) :
      Transition pool blocked [] ((pool.leaveReady task.id).acquire task) blocked
  | arrive (task : Task σ) (gate : String) (rest : Activity σ Json.Members)
      (found : pool.task? task.id = some task) (receives : task.stage.receives = true)
      (isCall : task.job.device? ≠ none) :
      Transition pool blocked (beginning task)
        ((pool.takeUp task).proceed { task with stage := .atGate gate rest }) blocked
  | pass (task : Task σ) (gate : String) (rest : Activity σ Json.Members)
      (found : pool.task? task.id = some task) (stage : task.stage = .atGate gate rest) :
      Transition pool blocked []
        ((pool.leaveReady task.id).proceed { task with stage := .resumable rest }) blocked
  | block (task : Task σ) (gate : String) (rest : Activity σ Json.Members) (held : List Nat)
      (found : pool.task? task.id = some task) (stage : task.stage = .atGate gate rest)
      (waits : held.Perm (blocked ++ [task.id])) :
      Transition pool blocked []
        ((pool.leaveReady task.id).setTask { task with stage := .suspended rest }) held
  | finish (task : Task σ) (answer : Option (Int32 × Json.Members))
      (found : pool.task? task.id = some task) (receives : task.stage.receives = true) :
      Transition pool blocked (beginning task ++ [.ended task.job answer])
        ((pool.takeUp task).retire task).releasePermit blocked
  | openGate (served held : List Nat) (passed : blocked.Perm (served ++ held)) :
      Transition pool blocked [] (pool.awaken served Stage.resume) held
  | close : Transition pool blocked [] pool.close.1 blocked

/-! ## Waking tasks -/

theorem awaken_nil (pool : Pool σ) (change : Stage σ → Stage σ) : pool.awaken [] change = pool := by
  simp [awaken]

theorem awaken_cons (pool : Pool σ) (id : Nat) (rest : List Nat) {change : Stage σ → Stage σ}
    (idempotent : ∀ stage, change (change stage) = change stage) :
    pool.awaken (id :: rest) change = (pool.awaken [id] change).awaken rest change := by
  unfold awaken
  rw [List.map_map, List.append_assoc]
  congr 1
  apply List.map_congr_left
  intro task _
  by_cases first : task.id = id <;> by_cases later : task.id ∈ rest <;>
    simp [first, later, idempotent]

theorem Between.tasks_awaken {pool : Pool σ} {task : Task σ} {before after : List (Task σ)}
    (place : pool.Between task before after) (change : Stage σ → Stage σ) :
    (pool.awaken [task.id] change).tasks =
      before ++ { task with stage := change task.stage } :: after := by
  have untouched : ∀ other ∈ before ++ after,
      (if [task.id].contains other.id then { other with stage := change other.stage } else other) =
        other := by
    intro other inside
    rw [if_neg (by simpa using place.others other inside)]
  unfold awaken
  rw [place.tasks_eq, List.map_append, List.map_cons, if_pos (by simp)]
  rw [List.map_congr_left fun other inside => untouched other (List.mem_append_left _ inside),
    List.map_congr_left fun other inside => untouched other (List.mem_append_right _ inside),
    List.map_id', List.map_id']

section

variable (pool : Pool σ) (task : Task σ) {rest : Nat}

theorem releasePermit_of_nobody (nobody : pool.permits.waiters = []) :
    pool.releasePermit = { pool with permits := ⟨pool.permits.free + 1, []⟩ } := by
  have released : pool.permits.release 1 = (⟨pool.permits.free + 1, []⟩, []) := by
    rw [← Semaphore.release_one_of_none, ← nobody]
  rw [releasePermit, released]
  exact awaken_nil _ _

theorem releasePermit_of_first {first : Nat} {others : List Nat}
    (waiters : pool.permits.waiters = first :: others) :
    pool.releasePermit =
      { pool with permits := ⟨pool.permits.free, others⟩ }.awaken [first] fun _ => .granted := by
  have released : pool.permits.release 1 = (⟨pool.permits.free, others⟩, [first]) := by
    rw [← Semaphore.release_one_of_waiters, ← waiters]
  rw [releasePermit, released]

theorem acquire_of_none (free : pool.permits.free = 0) :
    pool.acquire task =
      { pool.setTask { task with stage := .queueing } with
        permits := pool.permits.enqueue task.id } := by
  simp only [acquire, Semaphore.take?, free]

theorem acquire_of_free (free : pool.permits.free = rest + 1) :
    pool.acquire task =
      { pool with permits := { pool.permits with free := rest } }.proceed
        { task with stage := .granted } := by
  simp only [acquire, Semaphore.take?, free]

theorem submit_ok {pool next : Pool σ} {job : Job} (submitted : pool.submit job = .ok next) :
    pool.closed = false ∧ pool.queued < pool.queueLimit ∧
      next = { pool with queued := pool.queued + 1 }.enqueue job := by
  unfold submit at submitted
  split at submitted
  · cases submitted
  · rename_i accepting
    split at submitted
    · cases submitted
    · rename_i room
      cases submitted
      exact ⟨Bool.eq_false_iff.mpr accepting, Nat.lt_of_not_le room, rfl⟩

theorem retire_of_report (report : task.job.device? = none) :
    pool.retire task = pool.removeTask task.id := by
  unfold retire
  cases job : task.job with
  | reportReply messageId code => rfl
  | invoke messageId device call =>
      rw [job] at report
      cases report

/-- A lane goes on with its next call.  The task stays and has to ask for a permit again. -/
theorem retire_of_next {device : Address} {next : WaitingCall} {waiting : List WaitingCall}
    (isFor : task.job.device? = some device) (lane : pool.lane? device = some (next :: waiting)) :
    pool.retire task =
      (pool.setLane device waiting).proceed
        ⟨task.id, .invoke next.messageId device next.call, .fresh⟩ := by
  unfold retire
  cases job : task.job with
  | reportReply messageId code =>
      rw [job] at isFor
      cases isFor
  | invoke messageId other call =>
      rw [job] at isFor
      cases isFor
      simp only [advanceLane, lane]

/-- A lane that has no further call is removed.  The task goes with it. -/
theorem retire_of_last {device : Address} (isFor : task.job.device? = some device)
    (lane : pool.lane? device = some []) :
    pool.retire task =
      { pool with lanes := pool.lanes.filter fun lane => lane.1 ≠ device }.removeTask task.id := by
  unfold retire
  cases job : task.job with
  | reportReply messageId code =>
      rw [job] at isFor
      cases isFor
  | invoke messageId other call =>
      rw [job] at isFor
      cases isFor
      simp only [advanceLane, lane]

@[simp] theorem tasks_takeUp : (pool.takeUp task).tasks = pool.tasks := by
  unfold takeUp
  split <;> rfl

@[simp] theorem lanes_takeUp : (pool.takeUp task).lanes = pool.lanes := by
  unfold takeUp
  split <;> rfl

@[simp] theorem permits_takeUp : (pool.takeUp task).permits = pool.permits := by
  unfold takeUp
  split <;> rfl

@[simp] theorem ready_takeUp : (pool.takeUp task).ready = pool.ready.erase task.id := by
  unfold takeUp
  split <;> rfl

@[simp] theorem nextTask_takeUp : (pool.takeUp task).nextTask = pool.nextTask := by
  unfold takeUp
  split <;> rfl

@[simp] theorem queueLimit_takeUp : (pool.takeUp task).queueLimit = pool.queueLimit := by
  unfold takeUp
  split <;> rfl

end

namespace Coherent

variable {permits : Nat} {blocked : List Nat} {pool : Pool σ} {task : Task σ}
  {before after : List (Task σ)}

theorem exists_between (coherent : pool.Coherent permits blocked)
    (found : pool.task? task.id = some task) : ∃ before after, pool.Between task before after :=
  Pool.exists_between coherent.ids_nodup (mem_of_task? found).1

/-- Only tasks that can go on are ready.  So a number in the ready queue leads to a task. -/
theorem exists_ready (coherent : pool.Coherent permits blocked) {id : Nat}
    (ready : id ∈ pool.ready) : ∃ task, pool.task? id = some task ∧ task.stage.isReady = true := by
  rcases (mem_idsWhere _).mp (coherent.ready_perm.mem_iff.mp ready) with
    ⟨task, member, stage, rfl⟩
  rcases Pool.exists_between coherent.ids_nodup member with ⟨before, after, place⟩
  exact ⟨task, place.task?_eq, stage⟩

theorem cons_erase_ready (coherent : pool.Coherent permits blocked) (member : task ∈ pool.tasks)
    (ready : task.stage.isReady = true) :
    (task.id :: pool.ready.erase task.id).Perm pool.ready := by
  have queued : task.id ∈ pool.ready :=
    coherent.ready_perm.mem_iff.mpr ((mem_idsWhere _).mpr ⟨task, member, ready, rfl⟩)
  exact (List.perm_cons_erase queued).symm

/-- Who waits for a permit is a task that has asked for one.  Its stage says so. -/
theorem exists_queueing (coherent : pool.Coherent permits blocked) {first : Nat}
    {others : List Nat} (waiters : pool.permits.waiters = first :: others) :
    ∃ task before after, pool.Between task before after ∧ task.id = first ∧
      task.stage = .queueing := by
  have waits : first ∈ idsWhere Stage.isQueueing pool.tasks :=
    coherent.waiters_perm.mem_iff.mp (waiters ▸ List.mem_cons_self)
  rcases (mem_idsWhere _).mp waits with ⟨task, member, stage, number⟩
  rcases Pool.exists_between coherent.ids_nodup member with ⟨before, after, place⟩
  refine ⟨task, before, after, place, number, ?_⟩
  cases held : task.stage <;> simp [held, Stage.isQueueing] at stage ⊢

/--
The task that waits longest gets the permit that is given back.  Nothing else about the pool
changes.
-/
theorem releasePermit (coherent : pool.Coherent permits blocked) :
    pool.releasePermit.Coherent (permits + 1) blocked := by
  cases waiters : pool.permits.waiters with
  | nil =>
      rw [releasePermit_of_nobody pool waiters]
      exact
        { coherent with
          permits_eq := by
            have old := coherent.permits_eq
            change pool.permits.free + 1 + countWhere Stage.holdsPermit pool.tasks = permits + 1
            omega
          waiters_perm := by
            have old := coherent.waiters_perm
            rwa [waiters] at old
          no_idle := Or.inl rfl }
  | cons first others =>
      rcases coherent.exists_queueing waiters with ⟨task, before, after, place, number, queueing⟩
      subst number
      have none_free : pool.permits.free = 0 := by
        rcases coherent.no_idle with none_waits | none_free
        · rw [waiters] at none_waits
          cases none_waits
        · exact none_free
      rw [releasePermit_of_first pool waiters]
      have moved : ({ pool with permits := ⟨pool.permits.free, others⟩ } : Pool σ).Between
          task before after := ⟨place.tasks_eq, place.others⟩
      refine coherent.change place { task with stage := .granted } (moved.tasks_awaken _)
        rfl rfl rfl rfl rfl (Nat.le_refl _) ?_ ?_ ?_ ?_ ?_ ?_ ?_
      · simp [queueing, isUnstarted, Stage.isRunning, awaken, waitingCalls]
      · simp [queueing, Stage.holdsPermit, awaken]
        omega
      · rw [waiters]
        simp [queueing, mark, Stage.isQueueing, awaken]
      · exact Or.inr none_free
      · simp [queueing, mark, Stage.isReady, awaken]
      · simp [queueing, mark, Stage.isSuspended]
      · intro _
        rfl

/-- A task asks for its permit.  It gets one or joins the queue, and the pool stays coherent. -/
theorem acquire (coherent : pool.Coherent permits blocked)
    (found : pool.task? task.id = some task) (stage : task.stage = .fresh) :
    ((pool.leaveReady task.id).acquire task).Coherent permits blocked := by
  rcases coherent.exists_between found with ⟨before, after, place⟩
  have taken := coherent.cons_erase_ready (mem_of_task? found).1 (by rw [stage]; rfl)
  cases free : pool.permits.free with
  | zero =>
      rw [acquire_of_none (pool.leaveReady task.id) task free]
      have moved : (pool.leaveReady task.id).Between task before after :=
        ⟨place.tasks_eq, place.others⟩
      refine coherent.change place { task with stage := .queueing } (moved.tasks_setTask rfl)
        rfl rfl rfl rfl rfl (Nat.le_refl _) ?_ ?_ ?_ ?_ ?_ ?_ ?_
      · simp [stage, isUnstarted, Stage.isRunning, setTask, waitingCalls, leaveReady]
      · simp [stage, Stage.holdsPermit, Semaphore.enqueue, leaveReady]
      · simp [stage, mark, Stage.isQueueing, Semaphore.enqueue, leaveReady]
      · exact Or.inr free
      · simpa [stage, mark, Stage.isReady, setTask, leaveReady] using
          (List.perm_append_singleton _ _).trans taken
      · simp [stage, mark, Stage.isSuspended]
      · intro _
        rfl
  | succ rest =>
      have nobody_waits : pool.permits.waiters = [] := by
        rcases coherent.no_idle with nobody | none_free
        · exact nobody
        · omega
      rw [acquire_of_free (pool.leaveReady task.id) task free]
      have moved : ({ pool.leaveReady task.id with
          permits := { pool.permits with free := rest } } : Pool σ).Between task before after :=
        ⟨place.tasks_eq, place.others⟩
      refine coherent.change place { task with stage := .granted } (moved.tasks_setTask rfl)
        rfl rfl rfl rfl rfl (Nat.le_refl _) ?_ ?_ ?_ ?_ ?_ ?_ ?_
      · simp [stage, isUnstarted, Stage.isRunning, proceed, setTask, waitingCalls, leaveReady]
      · simp [stage, free, Stage.holdsPermit, proceed, setTask]
      · simp [stage, mark, Stage.isQueueing, proceed, setTask, leaveReady]
      · exact Or.inl nobody_waits
      · simpa [stage, mark, Stage.isReady, proceed, leaveReady] using taken.append_right [task.id]
      · simp [stage, mark, Stage.isSuspended]
      · intro _
        rfl

theorem stages_of_receives (receives : task.stage.receives = true) :
    task.stage.isReady = true ∧ task.stage.holdsPermit = true ∧
      task.stage.isQueueing = false ∧ task.stage.isSuspended = false := by
  cases stage : task.stage with
  | granted => exact ⟨rfl, rfl, rfl, rfl⟩
  | resumable rest => exact ⟨rfl, rfl, rfl, rfl⟩
  | fresh | queueing | atGate | suspended =>
      rw [stage] at receives
      cases receives

/--
The counter goes down with the job that begins, and never below zero.  A job that has not
begun is counted, so there is something to take away.
-/
theorem queued_takeUp (coherent : pool.Coherent permits blocked)
    (place : pool.Between task before after) :
    (pool.takeUp task).queued + (isUnstarted task.stage).toNat = pool.queued := by
  have old := coherent.queued_eq
  rw [place.tasks_eq, countWhere_place] at old
  unfold takeUp
  cases running : task.stage.isRunning with
  | true => simp [isUnstarted, running, leaveReady]
  | false =>
      simp only [isUnstarted, running, Bool.not_false, Bool.toNat_true] at old ⊢
      simp only [Bool.false_eq_true, if_false, startJob, leaveReady]
      omega

/-- A call comes to a gate.  It has not asked the gate yet, so it can still go on. -/
theorem arrive (coherent : pool.Coherent permits blocked) (gate : String)
    (rest : Activity σ Json.Members) (found : pool.task? task.id = some task)
    (receives : task.stage.receives = true) (isCall : task.job.device? ≠ none) :
    ((pool.takeUp task).proceed { task with stage := .atGate gate rest }).Coherent
      permits blocked := by
  rcases coherent.exists_between found with ⟨before, after, place⟩
  have moved : (pool.takeUp task).Between task before after :=
    ⟨(tasks_takeUp pool task).trans place.tasks_eq, place.others⟩
  have queued := coherent.queued_takeUp place
  have taken := coherent.cons_erase_ready (mem_of_task? found).1
  rcases stages_of_receives receives with ⟨ready, holds, not_queueing, not_suspended⟩
  refine coherent.change place { task with stage := .atGate gate rest } (moved.tasks_setTask rfl)
    rfl rfl (nextTask_takeUp pool task) (queueLimit_takeUp pool task) ?_ ?_ ?_ ?_ ?_ ?_ ?_ ?_ ?_
  · simp [laneDevices, proceed, setTask]
  · simp only [proceed, setTask]
    omega
  · simp only [proceed, setTask, waitingCalls, lanes_takeUp, isUnstarted, Stage.isRunning,
      Bool.not_true, Bool.toNat_false] at queued ⊢
    omega
  · rw [holds]
    simp [Stage.holdsPermit, proceed, setTask]
  · rw [mark_of_not not_queueing, mark_of_not rfl]
    simp [proceed, setTask]
  · simpa [proceed, setTask] using coherent.no_idle
  · rw [mark_of ready, mark_of rfl]
    simpa [proceed] using (taken ready).append_right [task.id]
  · rw [mark_of_not not_suspended, mark_of_not rfl]
  · intro report
    exact absurd report isCall

/-- A gate lets a call pass at once.  Nobody waits for that. -/
theorem pass (coherent : pool.Coherent permits blocked) (gate : String)
    (rest : Activity σ Json.Members) (found : pool.task? task.id = some task)
    (stage : task.stage = .atGate gate rest) :
    ((pool.leaveReady task.id).proceed { task with stage := .resumable rest }).Coherent
      permits blocked := by
  rcases coherent.exists_between found with ⟨before, after, place⟩
  have member := (mem_of_task? found).1
  have moved : (pool.leaveReady task.id).Between task before after :=
    ⟨place.tasks_eq, place.others⟩
  have taken := coherent.cons_erase_ready member (by rw [stage]; rfl)
  refine coherent.change place { task with stage := .resumable rest } (moved.tasks_setTask rfl)
    rfl rfl rfl rfl rfl (Nat.le_refl _) ?_ ?_ ?_ ?_ ?_ ?_ ?_
  · simp [stage, isUnstarted, Stage.isRunning, proceed, setTask, waitingCalls, leaveReady]
  · simp [stage, Stage.holdsPermit, proceed, setTask, leaveReady]
  · simp [stage, mark, Stage.isQueueing, proceed, setTask, leaveReady]
  · exact coherent.no_idle
  · simpa [stage, mark, Stage.isReady, proceed, leaveReady] using taken.append_right [task.id]
  · simp [stage, mark, Stage.isSuspended]
  · intro report
    have direct := coherent.reports_direct task member report
    rw [stage] at direct
    cases direct

/-- A call waits at a gate.  It is one of those that cannot go on from here. -/
theorem block (coherent : pool.Coherent permits blocked) (gate : String)
    (rest : Activity σ Json.Members) {held : List Nat} (found : pool.task? task.id = some task)
    (stage : task.stage = .atGate gate rest) (waits : held.Perm (blocked ++ [task.id])) :
    ((pool.leaveReady task.id).setTask { task with stage := .suspended rest }).Coherent
      permits held := by
  rcases coherent.exists_between found with ⟨before, after, place⟩
  have member := (mem_of_task? found).1
  have moved : (pool.leaveReady task.id).Between task before after :=
    ⟨place.tasks_eq, place.others⟩
  have taken := coherent.cons_erase_ready member (by rw [stage]; rfl)
  refine coherent.change place { task with stage := .suspended rest } (moved.tasks_setTask rfl)
    rfl rfl rfl rfl rfl (Nat.le_refl _) ?_ ?_ ?_ ?_ ?_ ?_ ?_
  · simp [stage, isUnstarted, Stage.isRunning, setTask, waitingCalls, leaveReady]
  · simp [stage, Stage.holdsPermit, setTask, leaveReady]
  · simp [stage, mark, Stage.isQueueing, setTask, leaveReady]
  · exact coherent.no_idle
  · simpa [stage, mark, Stage.isReady, setTask, leaveReady] using
      (List.perm_append_singleton _ _).trans taken
  · simpa [stage, mark, Stage.isSuspended] using waits
  · intro report
    have direct := coherent.reports_direct task member report
    rw [stage] at direct
    cases direct

/-- One blocked call may go on.  It is ready, and blocked no longer. -/
theorem wake (coherent : pool.Coherent permits blocked) (id : Nat) {held : List Nat}
    (passed : blocked.Perm (id :: held)) :
    (pool.awaken [id] Stage.resume).Coherent permits held := by
  have suspended : id ∈ idsWhere Stage.isSuspended pool.tasks :=
    coherent.blocked_perm.mem_iff.mp (passed.mem_iff.mpr List.mem_cons_self)
  rcases (mem_idsWhere _).mp suspended with ⟨task, member, waits, number⟩
  subst number
  rcases Pool.exists_between coherent.ids_nodup member with ⟨before, after, place⟩
  rcases Stage.exists_suspended waits with ⟨rest, stage⟩
  have woken := place.tasks_awaken Stage.resume
  rw [stage] at woken
  refine coherent.change place { task with stage := .resumable rest } woken
    rfl rfl rfl rfl rfl (Nat.le_refl _) ?_ ?_ ?_ ?_ ?_ ?_ ?_
  · simp [stage, isUnstarted, Stage.isRunning, awaken, waitingCalls]
  · simp [stage, Stage.holdsPermit, awaken]
  · simp [stage, mark, Stage.isQueueing, awaken]
  · exact coherent.no_idle
  · simp [stage, mark, Stage.isReady, awaken]
  · simpa [stage, mark, Stage.isSuspended] using
      (List.perm_append_singleton _ _).trans passed.symm
  · intro report
    have direct := coherent.reports_direct task member report
    rw [stage] at direct
    cases direct

theorem openGate (coherent : pool.Coherent permits blocked) {served held : List Nat}
    (passed : blocked.Perm (served ++ held)) :
    (pool.awaken served Stage.resume).Coherent permits held := by
  have idempotent : ∀ stage : Stage σ, stage.resume.resume = stage.resume := by
    intro stage
    cases stage <;> rfl
  induction served generalizing pool blocked with
  | nil =>
      rw [awaken_nil]
      exact { coherent with blocked_perm := passed.symm.trans coherent.blocked_perm }
  | cons id rest ih =>
      rw [awaken_cons pool id rest idempotent]
      exact ih (coherent.wake id passed) (List.Perm.refl _)

/-- The device of a task has a lane.  The task is the one that works it off. -/
theorem exists_lane (coherent : pool.Coherent permits blocked) (member : task ∈ pool.tasks)
    {device : Address} (isFor : task.job.device? = some device) :
    ∃ waiting, pool.lane? device = some waiting := by
  have driven : device ∈ taskDevices pool.tasks :=
    List.mem_filterMap.mpr ⟨task, member, isFor⟩
  have present : device ∈ pool.laneDevices := coherent.lanes_driven.mem_iff.mpr driven
  cases found : pool.lane? device with
  | some waiting => exact ⟨waiting, rfl⟩
  | none => exact absurd present (lane?_eq_none_iff.mp found)

/--
A task is done with its job; its permit is not counted any more.  So the pool is coherent
with one permit less.
-/
theorem retire {left : Nat} (coherent : pool.Coherent (left + 1) blocked)
    (found : pool.task? task.id = some task) (receives : task.stage.receives = true) :
    ((pool.takeUp task).retire task).Coherent left blocked := by
  rcases coherent.exists_between found with ⟨before, after, place⟩
  have member := (mem_of_task? found).1
  rcases stages_of_receives receives with ⟨ready, holds, not_queueing, not_suspended⟩
  have moved : (pool.takeUp task).Between task before after :=
    ⟨(tasks_takeUp pool task).trans place.tasks_eq, place.others⟩
  have queued := coherent.queued_takeUp place
  have taken := coherent.cons_erase_ready member ready
  have gone := (List.perm_append_singleton task.id (pool.ready.erase task.id)).trans taken
  cases isFor : task.job.device? with
  | none =>
      rw [retire_of_report _ _ isFor]
      refine coherent.leave place moved.tasks_removeTask (nextTask_takeUp pool task)
        (queueLimit_takeUp pool task) ?_ ?_ ?_ ?_ ?_ ?_ ?_ ?_ ?_
      · simpa [removeTask, laneDevices] using coherent.lanes_nodup
      · simp [isFor, removeTask, laneDevices]
      · simp only [removeTask]
        omega
      · simp only [removeTask, waitingCalls, lanes_takeUp]
        omega
      · rw [holds]
        simp only [removeTask, permits_takeUp, Bool.toNat_true]
        omega
      · rw [mark_of_not not_queueing]
        simp [removeTask]
      · simpa [removeTask] using coherent.no_idle
      · rw [mark_of ready]
        simpa [removeTask] using gone
      · rw [mark_of_not not_suspended, List.append_nil]
  | some device =>
      rcases coherent.exists_lane member isFor with ⟨waiting, lane⟩
      rcases exists_laneBetween coherent.lanes_nodup lane with ⟨lanesBefore, lanesAfter, lanePlace⟩
      have laneMoved : (pool.takeUp task).LaneBetween device waiting lanesBefore lanesAfter :=
        ⟨(lanes_takeUp pool task).trans lanePlace.lanes_eq, lanePlace.others⟩
      have lane_eq : (pool.takeUp task).lane? device = some waiting := by
        rw [← lane, lane?, lane?, lanes_takeUp]
      have waiting_eq : (pool.takeUp task).waitingCalls = pool.waitingCalls := by
        rw [waitingCalls, waitingCalls, lanes_takeUp]
      cases waiting with
      | nil =>
          rw [retire_of_last _ _ isFor lane_eq]
          have outside : ({ pool.takeUp task with
              lanes := (pool.takeUp task).lanes.filter fun lane => lane.1 ≠ device } :
                Pool σ).Between task before after := ⟨moved.tasks_eq, moved.others⟩
          refine coherent.leave place outside.tasks_removeTask (nextTask_takeUp pool task)
            (queueLimit_takeUp pool task) ?_ ?_ ?_ ?_ ?_ ?_ ?_ ?_ ?_
          · exact coherent.lanes_nodup.sublist (by
              simpa [removeTask, laneDevices] using List.filter_sublist.map Prod.fst)
          · have left_devices := lanePlace.laneDevices_perm
            rw [← lanePlace.filter_lanes] at left_devices
            simpa [isFor, removeTask, laneDevices] using left_devices
          · simp only [removeTask]
            omega
          · have calls := lanePlace.length_waitingCalls
            simp only [removeTask, waitingCalls, laneMoved.filter_lanes, List.flatMap_append,
              List.length_append, List.length_nil] at calls ⊢
            omega
          · rw [holds]
            simp only [removeTask, permits_takeUp, Bool.toNat_true]
            omega
          · rw [mark_of_not not_queueing]
            simp [removeTask]
          · simpa [removeTask] using coherent.no_idle
          · rw [mark_of ready]
            simpa [removeTask] using gone
          · rw [mark_of_not not_suspended, List.append_nil]
      | cons next rest =>
          rw [retire_of_next _ _ isFor lane_eq]
          have outside : ((pool.takeUp task).setLane device rest).Between task before after :=
            ⟨moved.tasks_eq, moved.others⟩
          have calls := laneMoved.length_waitingCalls_setLane rest
          refine coherent.change place ⟨task.id, .invoke next.messageId device next.call, .fresh⟩
            (outside.tasks_setTask rfl) rfl isFor.symm (nextTask_takeUp pool task)
            (queueLimit_takeUp pool task) ?_ ?_ ?_ ?_ ?_ ?_ ?_ ?_ ?_
          · have devices := laneDevices_setLane (pool.takeUp task) device rest
            simpa [laneDevices, proceed, setTask] using devices
          · simp only [proceed, setTask, setLane]
            omega
          · rw [waiting_eq, List.length_cons] at calls
            have fresh : (isUnstarted (.fresh : Stage σ)).toNat = 1 := rfl
            simp only [proceed, setTask, waitingCalls, setLane] at calls ⊢
            omega
          · rw [holds]
            simp only [proceed, setTask, setLane, permits_takeUp, Bool.toNat_true,
              Stage.holdsPermit, Bool.toNat_false]
            omega
          · rw [mark_of_not not_queueing, mark_of_not rfl]
            simp [proceed, setTask, setLane]
          · simpa [proceed, setTask, setLane] using coherent.no_idle
          · rw [mark_of ready, mark_of rfl]
            simpa [proceed, setTask, setLane] using taken.append_right [task.id]
          · rw [mark_of_not not_suspended, mark_of_not rfl]
          · intro _
            rfl

/-- Who holds a permit counts as one of them.  There is at least one permit then. -/
theorem exists_left (coherent : pool.Coherent permits blocked) (member : task ∈ pool.tasks)
    (holds : task.stage.holdsPermit = true) : ∃ left, permits = left + 1 := by
  rcases Pool.exists_between coherent.ids_nodup member with ⟨before, after, place⟩
  have total := coherent.permits_eq
  rw [place.tasks_eq, countWhere_place, holds, Bool.toNat_true] at total
  exact ⟨permits - 1, by omega⟩

theorem finish (coherent : pool.Coherent permits blocked)
    (found : pool.task? task.id = some task) (receives : task.stage.receives = true) :
    ((pool.takeUp task).retire task).releasePermit.Coherent permits blocked := by
  rcases coherent.exists_left (mem_of_task? found).1 (stages_of_receives receives).2.1 with
      ⟨left, one_more⟩
  subst one_more
  exact (coherent.retire found receives).releasePermit

theorem accept (coherent : pool.Coherent permits blocked) {job : Job} {next : Pool σ}
    (submitted : pool.submit job = .ok next) : next.Coherent permits blocked := by
  rcases submit_ok submitted with ⟨-, room, accepted⟩
  subst accepted
  cases job with
  | reportReply messageId code =>
      refine coherent.enter (.reportReply messageId code) rfl rfl coherent.lanes_nodup
        (List.Perm.refl _) room ?_ rfl rfl
      simp [enqueue, spawn, waitingCalls]
  | invoke messageId device call =>
      unfold enqueue
      have lane_eq : ({ pool with queued := pool.queued + 1 } : Pool σ).lane? device =
          pool.lane? device := rfl
      cases lane : pool.lane? device with
      | none =>
          simp only [lane_eq, lane]
          have free := lane?_eq_none_iff.mp lane
          refine coherent.enter (.invoke messageId device call) rfl rfl ?_ ?_ room ?_ rfl rfl
          · simp only [laneDevices, spawn, List.map_append, List.map_cons, List.map_nil]
            exact List.nodup_append.mpr ⟨coherent.lanes_nodup, List.nodup_singleton _, by
              intro first old second new same
              rw [same, List.mem_singleton.mp new] at old
              exact free old⟩
          · simp [laneDevices, spawn, Job.device?]
          · simp [spawn, waitingCalls]
      | some waiting =>
          simp only [lane_eq, lane]
          rcases exists_laneBetween coherent.lanes_nodup lane with ⟨before, after, place⟩
          have calls := place.length_waitingCalls_setLane (waiting ++ [⟨messageId, call⟩])
          have devices := laneDevices_setLane pool device (waiting ++ [⟨messageId, call⟩])
          exact
            { coherent with
              lanes_nodup := devices ▸ coherent.lanes_nodup
              lanes_driven := devices ▸ coherent.lanes_driven
              queued_eq := by
                have old := coherent.queued_eq
                rw [List.length_append, List.length_singleton] at calls
                simp only [setLane, waitingCalls] at calls old ⊢
                omega
              queued_le := room }

end Coherent

/--
Whatever happens to a coherent pool leaves it coherent.  There is one case for each
transition.
-/
theorem Transition.coherent {permits : Nat} {blocked held : List Nat} {pool next : Pool σ}
    {shown : List Happening} (transition : Transition pool blocked shown next held)
    (coherent : pool.Coherent permits blocked) : next.Coherent permits held := by
  cases transition with
  | accept job _ submitted => exact coherent.accept submitted
  | ask task found stage => exact coherent.acquire found stage
  | arrive task gate rest found receives isCall =>
      exact coherent.arrive gate rest found receives isCall
  | pass task gate rest found stage => exact coherent.pass gate rest found stage
  | block task gate rest _ found stage waits => exact coherent.block gate rest found stage waits
  | finish task answer found receives => exact coherent.finish found receives
  | openGate served _ passed => exact coherent.openGate passed
  | close => exact { coherent with }

theorem queueLimit_releasePermit (pool : Pool σ) :
    pool.releasePermit.queueLimit = pool.queueLimit := rfl

theorem queueLimit_retire (pool : Pool σ) (task : Task σ) :
    (pool.retire task).queueLimit = pool.queueLimit := by
  unfold retire advanceLane
  split
  · split <;> rfl
  · rfl

/-- How many jobs may wait never changes.  It is settled when the pool is made. -/
theorem Transition.queueLimit_eq {blocked held : List Nat} {pool next : Pool σ}
    {shown : List Happening} (transition : Transition pool blocked shown next held) :
    next.queueLimit = pool.queueLimit := by
  cases transition with
  | accept job _ submitted =>
      rw [(submit_ok submitted).2.2]
      unfold enqueue
      split
      · rfl
      · split <;> rfl
  | ask task found stage =>
      unfold acquire
      split <;> rfl
  | arrive task gate rest found receives isCall => exact queueLimit_takeUp pool task
  | pass => rfl
  | block => rfl
  | finish task answer found receives =>
      rw [queueLimit_releasePermit, queueLimit_retire, queueLimit_takeUp]
  | openGate => rfl
  | close => rfl

end Pool
end DeviceLink
