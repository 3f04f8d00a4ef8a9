import DeviceLink.Proofs.Core.Accounting

namespace DeviceLink
namespace Core

variable {σ : Type}

/-!
The counters of a pool over whole runs, and what submitting a job does with them.  The
counters are those of the pool; what they count is said by the history, which knows of
every job when it was accepted, began and ended.  `Counted` says what the three counters
are, and `Refusing` when a job is refused and that a refusal changes nothing.  Both are
put together from the ledger of the pool, which knows of each job at which of its stages
it is.
-/

/--
A call on a device has been accepted and has not ended.  Whether it waits or runs is left
open.
-/
def Unended (past : List Happening) (device : Address) : Prop :=
  (endedCalls device past).length < (acceptedCalls device past).length

/--
What the pool of a core says about the history that led to it.  Every counter of it is some
number of jobs, and a lane is a device with a call that has not ended.
-/
structure Counted (options : Options) (past : List Happening) (pool : Pool σ) : Prop where
  /--
  The counter is the number of jobs that have been accepted and have not begun.  Jobs of
  either kind are counted.
  -/
  accepted_eq : past.countP Happening.isAccepted = past.countP Happening.isBegan + pool.queued
  /--
  Such a job has a task that has not begun it, or waits in a lane.  Every such job is
  counted once in one of the two places.
  -/
  queued_eq : pool.queued =
    pool.tasks.countP (fun task => !task.stage.isRunning) + pool.waitingCalls.length
  /--
  Beginning a job is counted down, never below zero.  So the counter of a pool never wraps
  around.
  -/
  startJob_eq : ∀ task ∈ pool.tasks, task.stage = .granted →
    pool.startJob.queued + 1 = pool.queued
  queued_le : pool.queued ≤ max options.queueDepth 1
  begun_eq : past.countP Happening.isBegan =
    past.countP Happening.isEnded + pool.tasks.countP fun task => task.stage.isRunning
  running_le : pool.tasks.countP (fun task => task.stage.isRunning) ≤ max options.workers 1
  lane_iff : ∀ device, (pool.lane? device).isSome ↔ Unended past device
  busy_eq : ∀ devices : List Address, devices.Nodup →
    (∀ device, device ∈ devices ↔ Unended past device) → pool.busyDevices = devices.length

namespace Accounted

variable {setup : Setup σ} {past : List Happening} {core : Core σ}

theorem isSome_lane_iff (accounted : Accounted setup past core) (device : Address) :
    (core.pool.lane? device).isSome ↔ Unended past device := by
  rw [Unended, accounted.recorded.accepted_eq, List.length_append]
  cases lane : core.pool.lane? device with
  | none =>
      rw [(accounted.coherent.calls_of_free lane).1]
      simp
  | some waiting =>
      rcases accounted.coherent.exists_driver lane with ⟨task, member, call, isOn⟩
      rcases accounted.coherent.calls_of_task member isOn with ⟨others, -, calls, -⟩
      rw [calls]
      simp

theorem busyDevices_eq (accounted : Accounted setup past core) {devices : List Address}
    (distinct : devices.Nodup) (unended : ∀ device, device ∈ devices ↔ Unended past device) :
    core.pool.busyDevices = devices.length := by
  have same : core.pool.laneDevices.Perm devices := by
    rw [List.perm_ext_iff_of_nodup accounted.coherent.lanes_nodup distinct]
    intro device
    rw [unended, ← accounted.isSome_lane_iff, Option.isSome_iff_ne_none, ne_eq,
      Pool.lane?_eq_none_iff, not_not]
  rw [← same.length_eq, Pool.laneDevices, List.length_map, Pool.busyDevices]

/--
Nobody runs without a permit.  There are never more of them than workers, and at least one
is taken to be there.
-/
theorem running_le (accounted : Accounted setup past core) :
    Pool.countWhere Pool.Stage.isRunning core.pool.tasks ≤ max setup.options.workers 1 := by
  have total := accounted.coherent.permits_eq
  have holds : Pool.countWhere Pool.Stage.isRunning core.pool.tasks ≤
      Pool.countWhere Pool.Stage.holdsPermit core.pool.tasks := by
    apply List.countP_mono_left
    intro task _ running
    cases stage : task.stage <;> rw [stage] at running <;> first | rfl | cases running
  unfold Options.workerCount at total
  omega

theorem queued_pos (accounted : Accounted setup past core) {task : Pool.Task σ}
    (member : task ∈ core.pool.tasks) (unstarted : task.stage.isRunning = false) :
    0 < core.pool.queued := by
  have total := accounted.coherent.queued_eq
  have counted : 0 < Pool.countWhere Pool.isUnstarted core.pool.tasks :=
    List.countP_pos_iff.mpr ⟨task, member, by rw [Pool.isUnstarted, unstarted]; rfl⟩
  omega

theorem counted (accounted : Accounted setup past core) :
    Counted setup.options past core.pool where
  accepted_eq := accounted.recorded.accepted_count
  queued_eq := accounted.coherent.queued_eq
  startJob_eq := by
    intro task member stage
    have counts := accounted.queued_pos member (by rw [stage]; rfl)
    exact Nat.sub_add_cancel counts
  queued_le := Nat.le_trans accounted.coherent.queued_le (Nat.le_of_eq accounted.limit_eq)
  begun_eq := by
    rw [accounted.recorded.begun_count, Pool.running_ledger]
    rfl
  running_le := accounted.running_le
  lane_iff := accounted.isSome_lane_iff
  busy_eq := fun _ distinct unended => accounted.busyDevices_eq distinct unended

end Accounted

/--
A job is refused if the pool is closed or full, and then nothing happens.  The message of
each refusal is part of it, and a job that is not refused is accepted.
-/
structure Refusing (limit : Nat) (core : Core σ) (job : Job) : Prop where
  closed_iff : (core.submit job).1 = .error .closed ↔ core.pool.closed = true
  full_iff : (core.submit job).1 = .error (.allocationFailure "worker queue is full") ↔
    core.pool.closed = false ∧ core.pool.queued = limit
  ok_iff : (core.submit job).1 = .ok () ↔ core.pool.closed = false ∧ core.pool.queued ≠ limit
  unchanged : (core.submit job).1 ≠ .ok () → (core.submit job).2 = core

theorem refusing {limit : Nat} {core : Core σ} (limit_eq : core.pool.queueLimit = limit)
    (queued_le : core.pool.queued ≤ limit) (job : Job) : Refusing limit core job := by
  cases closed : core.pool.closed with
  | true =>
      have refused : core.submit job = (.error .closed, core) := by
        simp only [submit, Pool.submit, closed, if_true]
      constructor <;> rw [refused] <;> simp [closed]
  | false =>
      by_cases full : core.pool.queued = limit
      · have refused : core.submit job =
            (.error (.allocationFailure "worker queue is full"), core) := by
          simp only [submit, Pool.submit, closed, limit_eq, full, Bool.false_eq_true, if_false,
            Nat.le_refl, if_true]
          rfl
        constructor <;> rw [refused] <;> simp [closed, full]
      · have room : ¬ limit ≤ core.pool.queued := by omega
        have accepted : (core.submit job).1 = .ok () := by
          simp only [submit, Pool.submit, closed, limit_eq, Bool.false_eq_true, if_false, room]
        constructor <;> rw [accepted] <;> simp [closed, full]

/--
The accounts of a pool after any run in which no task has been abandoned, with a
step of a task, a submit, or any other operation of the core as a move.
-/
theorem pool_counted (setup : Setup σ) (world : σ) (moves : List (Move σ))
    (orderly : ∀ move ∈ moves, move.isAbort = false) :
    Counted setup.options (history setup (new setup world) moves)
        (run setup (new setup world) moves).pool ∧
      ∀ job, Refusing (max setup.options.queueDepth 1) (run setup (new setup world) moves) job := by
  have accounted := accounted_run setup world moves orderly
  refine ⟨accounted.counted, fun job => refusing ?_ ?_ job⟩
  · exact accounted.limit_eq
  · exact accounted.counted.queued_le

/--
One worker, and a device that takes its time over every call.  A second call on the device
has to wait for the first.
-/
def patientSetup : Setup Unit where
  options := { Options.standard with workers := 1 }
  handler :=
    { Handler.unimplemented with getProperties := fun _ _ => .wait "reading" (.done []) }
  observesPhases := false
  replyObserver := none

/--
Two calls on one device and one on another, of which the first has come to its gate.  The
second waits in the lane, and the third for the only permit.
-/
def threeCalls : List (Move Unit) :=
  let lamp : Address := ⟨"house", "lamp"⟩
  let fan : Address := ⟨"house", "fan"⟩
  [.submit (.invoke 1 lamp (.getProperties [])), .step 0, .step 0,
    .submit (.invoke 2 lamp (.getProperties [])), .submit (.invoke 3 fan (.getProperties [])),
    .step 1]

theorem pool_counted_threeCalls :
    Counted patientSetup.options (history patientSetup (new patientSetup ()) threeCalls)
        (run patientSetup (new patientSetup ()) threeCalls).pool ∧
      (run patientSetup (new patientSetup ()) threeCalls).pool.queued = 2 ∧
      (run patientSetup (new patientSetup ()) threeCalls).pool.busyDevices = 2 :=
  ⟨(pool_counted patientSetup () threeCalls (by decide)).1, by decide, by decide⟩

end Core
end DeviceLink
