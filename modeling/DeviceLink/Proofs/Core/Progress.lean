import DeviceLink.Proofs.Core.Accounting
import Mathlib.Algebra.Ring.Nat

namespace DeviceLink
namespace Core

variable {σ : Type}

/-!
Tasks cannot go on for ever by themselves.  Each step of a task that can go on uses up
one of the pending steps, so any sequence of such steps comes to an end, and where it
ends nobody can go on.  The number of pending steps is a sum over tasks, lanes and
gates, and each kind of step is shown to lower it.  `stalled_iff` says where that comes
to an end: no step of anybody changes anything if and only if the ready queue is empty.
-/

/-! ## Pending steps as sums -/

/-- The steps that lie before tasks.  They depend on the stages alone. -/
def stepsOfTasks (tasks : List (Pool.Task σ)) : Nat :=
  (tasks.map fun task => stepsOf task.stage).sum

/-- The steps that the free permits of gates allow.  Each of them lets some task pass and go on. -/
def stepsOfGates (gates : Gates) : Nat := (gates.map fun gate => 2 * gate.2.free).sum

/--
The pending steps without those that gates allow.  They are those of the tasks, of the calls
in the lanes, and of the ready queue.
-/
def stepsOfPool (pool : Pool σ) : Nat :=
  stepsOfTasks pool.tasks + 3 * pool.waitingCalls.length + pool.ready.length

theorem foldr_add_eq_sum {α : Type} (entries : List α) (weight : α → Nat) :
    entries.foldr (fun entry steps => weight entry + steps) 0 = (entries.map weight).sum := by
  induction entries with
  | nil => rfl
  | cons entry rest ih => rw [List.foldr_cons, ih, List.map_cons, List.sum_cons]

theorem pendingSteps_eq (core : Core σ) :
    core.pendingSteps = stepsOfPool core.pool + stepsOfGates core.gates := by
  have calls (lanes : List (Address × List Pool.WaitingCall)) :
      (lanes.map fun lane => 3 * lane.2.length).sum = 3 * (lanes.flatMap Prod.snd).length := by
    induction lanes with
    | nil => rfl
    | cons lane rest ih =>
        rw [List.map_cons, List.sum_cons, ih, List.flatMap_cons, List.length_append, Nat.mul_add]
  unfold pendingSteps stepsOfPool stepsOfTasks stepsOfGates Pool.waitingCalls
  rw [foldr_add_eq_sum, foldr_add_eq_sum, foldr_add_eq_sum, calls]
  omega

theorem stepsOfTasks_place (before after : List (Pool.Task σ)) (task : Pool.Task σ) :
    stepsOfTasks (before ++ task :: after) =
      stepsOfTasks (before ++ after) + stepsOf task.stage := by
  unfold stepsOfTasks
  simp only [List.map_append, List.map_cons, List.sum_append, List.sum_cons]
  omega

theorem stepsOfGates_set {gates : Gates} (distinct : gates.Distinct) (name : String)
    (semaphore : Semaphore) :
    stepsOfGates (gates.set name semaphore) + 2 * (gates.get name).free =
      stepsOfGates gates + 2 * semaphore.free := by
  have changed : stepsOfGates (gates.set name semaphore) =
      2 * semaphore.free + stepsOfGates (gates.others name) := by
    rw [Gates.set, stepsOfGates, List.map_cons, List.sum_cons]
    rfl
  have whole : stepsOfGates gates =
      2 * (gates.get name).free + stepsOfGates (gates.others name) := by
    rcases Gates.perm_others distinct name with parts | ⟨same, nothing⟩
    · rw [stepsOfGates, (parts.map _).sum_nat, List.map_cons, List.sum_cons]
      rfl
    · rw [same, nothing]
      exact (Nat.zero_add _).symm
  omega

theorem stepsOfGates_pass? {gates next : Gates} {name : String} (distinct : gates.Distinct)
    (passed : gates.pass? name = some next) : stepsOfGates next + 2 = stepsOfGates gates := by
  rcases Option.map_eq_some_iff.mp passed with ⟨left, taken, rfl⟩
  have counted := stepsOfGates_set distinct name left
  have one_less : left.free + 1 = (gates.get name).free := by
    unfold Semaphore.take? at taken
    split at taken
    · cases taken
    · rename_i more free
      cases taken
      exact free.symm
  omega

theorem stepsOfGates_enqueue {gates : Gates} (distinct : gates.Distinct) (name : String)
    (task : Nat) : stepsOfGates (gates.enqueue name task) = stepsOfGates gates :=
  Nat.add_right_cancel (stepsOfGates_set distinct name ((gates.get name).enqueue task))

/-! ## Each step counts -/

section

variable {permits : Nat} {blocked : List Nat} {pool : Pool σ} {task : Pool.Task σ}
  {before after : List (Pool.Task σ)}

/--
A task that is changed in its place leaves the steps of the others as they are.  The sum
changes by what the task itself has more or less.
-/
theorem stepsOfTasks_setTask (place : pool.Between task before after) (changed : Pool.Task σ)
    (same : changed.id = task.id) :
    stepsOfTasks (pool.setTask changed).tasks + stepsOf task.stage =
      stepsOfTasks pool.tasks + stepsOf changed.stage := by
  rw [place.tasks_setTask same, place.tasks_eq, stepsOfTasks_place, stepsOfTasks_place]
  omega

theorem stepsOfPool_proceed (place : pool.Between task before after) (changed : Pool.Task σ)
    (same : changed.id = task.id) :
    stepsOfPool (pool.proceed changed) + stepsOf task.stage =
      stepsOfPool pool + stepsOf changed.stage + 1 := by
  have tasks := stepsOfTasks_setTask place changed same
  simp only [stepsOfPool, Pool.proceed, Pool.setTask, Pool.waitingCalls, List.length_cons]
    at tasks ⊢
  omega

theorem stepsOfPool_leaveReady (ready : task.id ∈ pool.ready) :
    stepsOfPool (pool.leaveReady task.id) + 1 = stepsOfPool pool := by
  have taken := List.length_erase_add_one ready
  simp only [stepsOfPool, Pool.leaveReady, Pool.waitingCalls]
  omega

theorem stepsOfPool_takeUp (ready : task.id ∈ pool.ready) :
    stepsOfPool (pool.takeUp task) + 1 = stepsOfPool pool := by
  have taken := List.length_erase_add_one ready
  simp only [stepsOfPool, Pool.waitingCalls, Pool.tasks_takeUp, Pool.lanes_takeUp,
    Pool.ready_takeUp]
  omega

theorem stepsOfPool_acquire (place : pool.Between task before after)
    (stage : task.stage = .fresh) : stepsOfPool (pool.acquire task) ≤ stepsOfPool pool := by
  cases free : pool.permits.free with
  | zero =>
      have tasks := stepsOfTasks_setTask place { task with stage := .queueing } rfl
      rw [Pool.acquire_of_none pool task free]
      simp only [stepsOfPool, Pool.waitingCalls, Pool.setTask, stage, stepsOf] at tasks ⊢
      omega
  | succ rest =>
      have moved : ({ pool with permits := { pool.permits with free := rest } } : Pool σ).Between
          task before after := ⟨place.tasks_eq, place.others⟩
      have counted := stepsOfPool_proceed moved { task with stage := .granted } rfl
      rw [Pool.acquire_of_free pool task free]
      simp only [stage, stepsOf] at counted
      exact Nat.le_of_eq (Nat.add_right_cancel counted)

/--
Whoever gets the permit that is given back has one more turn.  It becomes ready, and that
counts as well.
-/
theorem stepsOfPool_releasePermit (coherent : pool.Coherent permits blocked) :
    stepsOfPool pool.releasePermit ≤ stepsOfPool pool + 1 := by
  cases waiters : pool.permits.waiters with
  | nil =>
      rw [Pool.releasePermit_of_nobody pool waiters]
      exact Nat.le_succ _
  | cons first others =>
      rcases coherent.exists_queueing waiters with ⟨task, before, after, place, number, queueing⟩
      subst number
      rw [Pool.releasePermit_of_first pool waiters]
      have moved : ({ pool with permits := ⟨pool.permits.free, others⟩ } : Pool σ).Between
          task before after := ⟨place.tasks_eq, place.others⟩
      have tasks : stepsOfTasks (before ++ { task with stage := .granted } :: after) =
          stepsOfTasks pool.tasks := by
        rw [place.tasks_eq, stepsOfTasks_place, stepsOfTasks_place, queueing]
        rfl
      unfold stepsOfPool
      rw [moved.tasks_awaken, tasks]
      simp only [Pool.awaken, Pool.waitingCalls, List.length_append, List.length_singleton]
      omega

/--
A task that has run its job leaves, or goes on with the next call of its lane.  Either way
fewer steps are left, since a call in a lane has all its steps counted.
-/
theorem stepsOfPool_retire (place : pool.Between task before after)
    (receives : task.stage.receives = true) (lanes_nodup : pool.laneDevices.Nodup)
    (has_lane : ∀ device, task.job.device? = some device →
      ∃ waiting, pool.lane? device = some waiting) :
    stepsOfPool (pool.retire task) + 1 ≤ stepsOfPool pool := by
  have two : stepsOf task.stage = 2 := by
    cases stage : task.stage <;> rw [stage] at receives <;> first | rfl | cases receives
  have steps : stepsOfTasks pool.tasks = stepsOfTasks (before ++ after) + 2 := by
    rw [place.tasks_eq, stepsOfTasks_place, two]
  cases isFor : task.job.device? with
  | none =>
      rw [Pool.retire_of_report _ _ isFor]
      unfold stepsOfPool
      rw [place.tasks_removeTask, steps]
      simp only [Pool.removeTask, Pool.waitingCalls]
      omega
  | some device =>
      rcases has_lane device isFor with ⟨waiting, lane⟩
      rcases Pool.exists_laneBetween lanes_nodup lane with ⟨lanesBefore, lanesAfter, lanePlace⟩
      cases waiting with
      | nil =>
          rw [Pool.retire_of_last _ _ isFor lane]
          have outside : ({ pool with
              lanes := pool.lanes.filter fun lane => lane.1 ≠ device } : Pool σ).Between
                task before after := ⟨place.tasks_eq, place.others⟩
          have calls := lanePlace.length_waitingCalls
          unfold stepsOfPool
          rw [outside.tasks_removeTask, steps]
          simp only [Pool.removeTask, Pool.waitingCalls, lanePlace.filter_lanes,
            List.flatMap_append, List.length_append, List.length_nil] at calls ⊢
          omega
      | cons next rest =>
          rw [Pool.retire_of_next _ _ isFor lane]
          have outside : (pool.setLane device rest).Between task before after :=
            ⟨place.tasks_eq, place.others⟩
          have counted := stepsOfPool_proceed outside
            ⟨task.id, .invoke next.messageId device next.call, .fresh⟩ rfl
          have calls := lanePlace.length_waitingCalls_setLane rest
          have fewer : stepsOfPool (pool.setLane device rest) + 3 = stepsOfPool pool := by
            rw [List.length_cons] at calls
            simp only [stepsOfPool, Pool.setLane, Pool.waitingCalls] at calls ⊢
            omega
          rw [two] at counted
          simp only [stepsOf] at counted
          omega

end

section

variable (setup : Setup σ) {core : Core σ} {permits : Nat}

/--
A step of a task that can go on uses up a pending step.  It may make others ready, but their
steps have been counted before.
-/
theorem pendingSteps_step (coherent : core.pool.Coherent permits core.gates.waiting)
    (distinct : core.gates.Distinct) {id : Nat} (ready : id ∈ core.pool.ready) :
    (step setup core id).pendingSteps < core.pendingSteps := by
  rcases stepping_of_ready coherent setup ready with ⟨task, found, rfl, -, way⟩
  rcases coherent.exists_between found with ⟨before, after, place⟩
  have left := stepsOfPool_leaveReady ready
  have taken := stepsOfPool_takeUp ready
  have leaving : (core.pool.leaveReady task.id).Between task before after :=
    ⟨place.tasks_eq, place.others⟩
  have taking : (core.pool.takeUp task).Between task before after :=
    ⟨(Pool.tasks_takeUp core.pool task).trans place.tasks_eq, place.others⟩
  rw [pendingSteps_eq, pendingSteps_eq]
  generalize (step setup core task.id).pool = pool at way ⊢
  generalize (step setup core task.id).gates = gates at way ⊢
  generalize stepped setup core task.id = shown at way
  cases way with
  | ask stage =>
      have asked := stepsOfPool_acquire leaving stage
      omega
  | arrive gate rest receives isCall =>
      have arrived := stepsOfPool_proceed taking
        { task with stage := .atGate gate rest } rfl
      cases stage : task.stage <;> rw [stage] at receives arrived <;>
        simp only [stepsOf] at arrived <;> first | omega | cases receives
  | finish answer receives =>
      rcases coherent.exists_left (Pool.mem_of_task? found).1
        (Pool.Coherent.stages_of_receives receives).2.1 with ⟨fewer, rfl⟩
      have released := stepsOfPool_releasePermit (coherent.retire found receives)
      have retired := stepsOfPool_retire taking receives
        (by rw [Pool.laneDevices, Pool.lanes_takeUp]; exact coherent.lanes_nodup)
        (by
          intro device isFor
          rw [Pool.lane?, Pool.lanes_takeUp]
          exact coherent.exists_lane (Pool.mem_of_task? found).1 isFor)
      omega
  | pass gate rest gates stage passed =>
      have one_less := stepsOfGates_pass? distinct passed
      have resumed := stepsOfPool_proceed leaving
        { task with stage := .resumable rest } rfl
      rw [stage] at resumed
      simp only [stepsOf] at resumed
      omega
  | block gate rest stage shut =>
      have same_gates := stepsOfGates_enqueue distinct gate task.id
      have blocked := stepsOfTasks_setTask leaving
        { task with stage := .suspended rest } rfl
      rw [stage] at blocked
      simp only [stepsOfPool, Pool.setTask, Pool.waitingCalls, stepsOf] at blocked left ⊢
      omega

/--
No task can go on just when no step of a task has an effect.  A step of a task that is not
ready leaves everything as it is.
-/
theorem stalled_iff (coherent : core.pool.Coherent permits core.gates.waiting)
    (distinct : core.gates.Distinct) :
    (∀ id, step setup core id = core) ↔ core.pool.ready = [] := by
  constructor
  · intro stalled
    apply List.eq_nil_iff_forall_not_mem.mpr
    intro id ready
    have fewer := pendingSteps_step setup coherent distinct ready
    rw [stalled id] at fewer
    exact Nat.lt_irrefl _ fewer
  · intro nobody id
    refine (step_of_not_ready coherent setup ?_).1
    rw [nobody]
    exact List.not_mem_nil

end

/--
Steps of tasks, each of which can go on when it takes its step.  Such a list is one way in
which the tasks may be scheduled.
-/
def GoOn (setup : Setup σ) : Core σ → List Nat → Prop
  | _, [] => True
  | core, id :: rest => id ∈ core.pool.ready ∧ GoOn setup (step setup core id) rest

/--
However the tasks are scheduled, they take no more steps than there are pending.  So they
come to rest under every scheduler, if nothing happens outside.
-/
theorem length_le_pendingSteps {setup : Setup σ} {past : List Happening} {core : Core σ}
    (accounted : Accounted setup past core) {tasks : List Nat} (goOn : GoOn setup core tasks) :
    tasks.length ≤ core.pendingSteps := by
  induction tasks generalizing core past with
  | nil => exact Nat.zero_le _
  | cons id rest ih =>
      rcases goOn with ⟨ready, others⟩
      have fewer := pendingSteps_step setup accounted.coherent accounted.gates_distinct ready
      exact Nat.lt_of_le_of_lt (ih (accounted.step id) others) fewer

end Core
end DeviceLink
