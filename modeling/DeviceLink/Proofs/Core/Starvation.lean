import DeviceLink.Proofs.Core.Admission
import DeviceLink.Proofs.Core.Order
import DeviceLink.Proofs.Core.Progress
import DeviceLink.Proofs.Core.Reports
import DeviceLink.Proofs.Core.Serial
import Mathlib.Data.List.Perm.Subperm

namespace DeviceLink
namespace Core

variable {σ : Type}

/-!
No worker is idle while a job waits for one, and no device keeps others from being
served.  Tasks go on until none can; then a job that was accepted has not begun only
because all workers are at blocked callbacks, or because it is behind another call of
its device.

A lane that ends one call and has another goes behind the jobs that wait for a worker.
This is a matter of permits: each of those jobs gets its permit before the lane does.
It is not one of beginnings, since a job with a permit begins when its task has its next
turn, and with two workers the lane's turn may come first.
-/

/--
All permits are held by jobs whose callbacks are blocked.  No worker is idle then, and none
can go on.
-/
structure AllBlocked (workers : Nat) (core : Core σ) : Prop where
  none_free : core.pool.permits.free = 0
  holders : Pool.countWhere Pool.Stage.holdsPermit core.pool.tasks = workers
  blocked : ∀ task ∈ core.pool.tasks, task.stage.holdsPermit = true →
    task.stage.isSuspended = true ∧ task.id ∈ core.gates.waiting

/--
Every accepted job has begun, but for calls behind an unfinished call on their device.  Such
a call has begun itself, so each device that has calls left is at work.
-/
structure Begun (past : List Happening) : Prop where
  reports : (acceptedReports past).Perm (begunReports past)
  calls : ∀ device, ∃ waiting, acceptedCalls device past = begunCalls device past ++ waiting ∧
    (waiting ≠ [] → ∃ current, begunCalls device past = endedCalls device past ++ [current])

/--
Every accepted report has been made, and every accepted call on the other devices has run.
The devices that are left out are those whose callbacks are blocked.
-/
structure Served (past : List Happening) (devices : List Address) : Prop where
  begun_reports : (acceptedReports past).Perm (begunReports past)
  ended_reports : (acceptedReports past).Perm (endedReports past)
  begun_calls : ∀ device, device ∉ devices → begunCalls device past = acceptedCalls device past
  ended_calls : ∀ device, device ∉ devices → endedCalls device past = acceptedCalls device past

/--
How the next call of a lane that ends one stands to the jobs that wait for a worker at
that moment.  The moves are those between the end of the one call and the beginning of
the other.
-/
structure Yields (setup : Setup σ) (core : Core σ) (lane : Nat) (between : List (Move σ)) :
    Prop where
  /-- Each of the jobs gets a permit while the lane has none. -/
  granted : ∀ waiting, core.pool.Waits waiting → ∃ before after, between = before ++ after ∧
    (run setup (step setup core lane) before).pool.Preferred waiting lane
  /-- Each has begun when the next call does, or has its permit in hand. -/
  started : ∀ waiting, core.pool.Waits waiting →
    Begins setup (step setup core lane) between waiting ∨
      (run setup (step setup core lane) between).pool.task? waiting.id =
        some { waiting with stage := .granted }
  /-- Those that have not begun are fewer than the workers; with one worker all have begun. -/
  overtaken : ∀ late : List (Pool.Task σ), late.Nodup →
    (∀ waiting ∈ late, core.pool.Waits waiting ∧
      ¬ Begins setup (step setup core lane) between waiting) →
    late.length < max setup.options.workers 1

structure Lively (setup : Setup σ) (start : Core σ) (moves : List (Move σ)) : Prop where
  /--
  Tasks cannot go on by themselves without end, whoever has the next turn.  The bound
  depends on the core and not on the schedule.
  -/
  bounded : ∀ tasks, GoOn setup (run setup start moves) tasks →
    tasks.length ≤ (run setup start moves).pendingSteps
  /-- While a job waits for a worker, none is idle. -/
  no_idle : (run setup start moves).pool.permits.waiters ≠ [] →
    (run setup start moves).pool.permits.free = 0
  /-- When no task can make progress, the workers are blocked or every job has had one. -/
  stalled : (∀ id, step setup (run setup start moves) id = run setup start moves) →
    AllBlocked (max setup.options.workers 1) (run setup start moves) ∨
      Begun (history setup start moves)
  /-- Fewer blocked devices than workers keep nobody else waiting. -/
  served : (∀ id, step setup (run setup start moves) id = run setup start moves) →
    ∀ devices : List Address, devices.length < max setup.options.workers 1 →
      (∀ task ∈ (run setup start moves).pool.tasks, task.stage.isSuspended = true →
        ∃ device ∈ devices, task.job.device? = some device) →
      Served (history setup start moves) devices
  /-- The move that ends a call hands its response on first. -/
  answers : ∀ earlier move later messageId device call answer,
    moves = earlier ++ move :: later →
    .ended (.invoke messageId device call) answer ∈ observe setup (run setup start earlier) move →
    ∃ (code : Int32) (payload : Json.Members) (handing : Core σ) (task : Pool.Task σ),
      answer = some (code, payload) ∧
      handing.link = (run setup start earlier).link ∧
      handing.outlets = (run setup start earlier).outlets ∧
      perform setup (run setup start earlier) move =
        (handing.respond messageId code payload).2.endTask task
  /-- A lane goes behind the jobs that wait for a worker when it ends a call. -/
  yields : ∀ earlier lane between later next,
    moves = earlier ++ .step lane :: between ++ .step lane :: later →
    GoesOn setup (run setup start earlier) lane →
    .began next ∈ stepped setup (run setup start (earlier ++ .step lane :: between)) lane →
    Yields setup (run setup start earlier) lane between

/-! ## When nobody can go on -/

section

variable {setup : Setup σ} {past : List Happening} {core : Core σ}
  (accounted : Accounted setup past core) (nobody : core.pool.ready = [])

include accounted nobody

/--
Whoever cannot go on waits for a permit of the pool or of a gate.  Every task is ready or
one of these two.
-/
theorem queueing_or_suspended : ∀ task ∈ core.pool.tasks,
    task.stage = .queueing ∨ task.stage.isSuspended = true := by
  have unready := Pool.Coherent.fails_of_nil
    (List.perm_nil.mp (nobody ▸ accounted.coherent.ready_perm).symm)
  intro task member
  cases suspended : task.stage.isSuspended with
  | true => exact Or.inr rfl
  | false => exact Or.inl (Pool.Stage.eq_queueing (unready task member) suspended)

theorem allBlocked (none_free : core.pool.permits.free = 0) :
    AllBlocked (max setup.options.workers 1) core where
  none_free := none_free
  holders := by
    have total := accounted.coherent.permits_eq
    rw [none_free, Nat.zero_add] at total
    exact total
  blocked := by
    intro task member holds
    rcases queueing_or_suspended accounted nobody task member with queueing | suspended
    · rw [queueing] at holds
      cases holds
    · refine ⟨suspended, accounted.coherent.blocked_perm.mem_iff.mpr ?_⟩
      exact (Pool.mem_idsWhere _).mpr ⟨task, member, suspended, rfl⟩

/--
With a free permit nobody waits for one, so every task is at a blocked callback.  A free
permit and a queue never come together.
-/
theorem suspended_of_free (some_free : core.pool.permits.free ≠ 0) :
    ∀ task ∈ core.pool.tasks, task.stage.isSuspended = true := by
  intro task member
  rcases queueing_or_suspended accounted nobody task member with queueing | suspended
  · rcases Pool.exists_between accounted.coherent.ids_nodup member with ⟨_, _, place⟩
    have waits := (accounted.coherent.mem_waiters_iff place.task?_eq).mpr queueing
    exact absurd (accounted.coherent.free_eq_zero waits) some_free
  · exact suspended

end

section

variable {setup : Setup σ} {past : List Happening} {core : Core σ}
  (accounted : Accounted setup past core) (relaying : core.pool.Relaying past)
  (suspended : ∀ task ∈ core.pool.tasks, task.stage.isSuspended = true)

include accounted relaying suspended

/--
When all tasks are at blocked callbacks, no report is left to make.  Reports have no
callbacks, so no task is one.
-/
theorem reports_made : (acceptedReports past).Perm (endedReports past) := by
  have nothing : Pool.reportsOf core.pool.tasks = [] := by
    apply List.filterMap_eq_nil_iff.mpr
    intro task member
    apply Job.report?_of_call
    intro isReport
    rcases Pool.Stage.exists_suspended (suspended task member) with ⟨rest, stage⟩
    have direct := accounted.coherent.reports_direct task member isReport
    rw [stage] at direct
    cases direct
  have made := relaying.accepted_perm
  rwa [nothing, List.append_nil] at made

omit relaying

theorem calls_begun (device : Address) :
    ∃ waiting, acceptedCalls device past = begunCalls device past ++ waiting ∧
      (waiting ≠ [] → ∃ current, begunCalls device past = endedCalls device past ++ [current]) := by
  rw [accounted.begunCalls_eq, accounted.recorded.accepted_eq]
  cases lane : core.pool.lane? device with
  | none =>
      rcases accounted.coherent.calls_of_free lane with ⟨calls, running⟩
      rw [calls, running]
      exact ⟨[], (List.append_nil _).symm, fun waits => absurd rfl waits⟩
  | some others =>
      rcases accounted.coherent.exists_driver lane with ⟨task, member, call, isOn⟩
      rcases accounted.coherent.calls_of_task member isOn with ⟨waiting, -, calls, running⟩
      rcases Pool.Stage.exists_suspended (suspended task member) with ⟨rest, stage⟩
      have runs : task.stage.isRunning = true := by
        rw [stage]
        rfl
      rw [calls, running, if_pos runs]
      exact ⟨waiting, List.append_cons _ _ _, fun _ => ⟨call, rfl⟩⟩

/--
A device that is not among those of the blocked tasks has nothing left to do.  Its lane is
gone.
-/
theorem calls_ended {devices : List Address}
    (covered : ∀ task ∈ core.pool.tasks, task.stage.isSuspended = true →
      ∃ device ∈ devices, task.job.device? = some device)
    {device : Address} (apart : device ∉ devices) :
    begunCalls device past = acceptedCalls device past ∧
      endedCalls device past = acceptedCalls device past := by
  have free : core.pool.lane? device = none := by
    cases lane : core.pool.lane? device with
    | none => rfl
    | some others =>
        rcases accounted.coherent.exists_driver lane with ⟨task, member, call, isOn⟩
        rcases covered task member (suspended task member) with ⟨other, inside, isFor⟩
        rw [Job.callOn?_eq_some.mp isOn] at isFor
        cases isFor
        exact absurd inside apart
  rcases accounted.coherent.calls_of_free free with ⟨calls, running⟩
  rw [accounted.begunCalls_eq, accounted.recorded.accepted_eq, calls, running]
  exact ⟨rfl, (List.append_nil _).symm⟩

end

/-- Tasks whose devices are among few devices are few.  A device has one task at most. -/
theorem suspended_le {permits : Nat} {blocked : List Nat} {pool : Pool σ}
    (coherent : pool.Coherent permits blocked) {devices : List Address}
    (covered : ∀ task ∈ pool.tasks, task.stage.isSuspended = true →
      ∃ device ∈ devices, task.job.device? = some device) :
    Pool.countWhere Pool.Stage.isSuspended pool.tasks ≤ devices.length := by
  let blockedTasks := pool.tasks.filter fun task => task.stage.isSuspended
  have all_calls : (Pool.taskDevices blockedTasks).length = blockedTasks.length := by
    apply List.filterMap_length_eq_length.mpr
    intro task blocked
    rcases List.mem_filter.mp blocked with ⟨present, suspended⟩
    rcases covered task present suspended with ⟨device, -, isFor⟩
    rw [isFor]
    rfl
  have distinct : (Pool.taskDevices blockedTasks).Nodup := by
    have all := coherent.lanes_driven.nodup_iff.mp coherent.lanes_nodup
    exact all.sublist (List.filter_sublist.filterMap _)
  have inside : Pool.taskDevices blockedTasks ⊆ devices := by
    intro device member
    rcases List.mem_filterMap.mp member with ⟨task, blocked, isFor⟩
    rcases List.mem_filter.mp blocked with ⟨present, suspended⟩
    rcases covered task present suspended with ⟨other, listed, same⟩
    rw [isFor] at same
    cases same
    exact listed
  rw [Pool.countWhere, List.countP_eq_length_filter, ← all_calls]
  exact (distinct.subperm inside).length_le

/--
What a stalled core has left to do.  Either its permits have run out, or everybody who has
one is blocked and nobody else is left.
-/
theorem stalled_cases {setup : Setup σ} {past : List Happening} {core : Core σ}
    (accounted : Accounted setup past core) (relaying : core.pool.Relaying past)
    (nobody : core.pool.ready = []) :
    AllBlocked (max setup.options.workers 1) core ∨ Begun past := by
  by_cases none_free : core.pool.permits.free = 0
  · exact Or.inl (allBlocked accounted nobody none_free)
  · have suspended := suspended_of_free accounted nobody none_free
    refine Or.inr ⟨?_, calls_begun accounted suspended⟩
    rw [relaying.begun_eq]
    exact reports_made accounted relaying suspended

theorem served_of_stalled {setup : Setup σ} {past : List Happening} {core : Core σ}
    (accounted : Accounted setup past core) (relaying : core.pool.Relaying past)
    (nobody : core.pool.ready = []) {devices : List Address}
    (fewer : devices.length < max setup.options.workers 1)
    (covered : ∀ task ∈ core.pool.tasks, task.stage.isSuspended = true →
      ∃ device ∈ devices, task.job.device? = some device) : Served past devices := by
  have some_free : core.pool.permits.free ≠ 0 := by
    intro none_free
    have blocked := allBlocked accounted nobody none_free
    have holders : Pool.countWhere Pool.Stage.holdsPermit core.pool.tasks ≤
        Pool.countWhere Pool.Stage.isSuspended core.pool.tasks := by
      apply List.countP_mono_left
      intro task member holds
      exact (blocked.blocked task member holds).1
    have few := suspended_le accounted.coherent covered
    have all := blocked.holders
    omega
  have suspended := suspended_of_free accounted nobody some_free
  have made := reports_made accounted relaying suspended
  exact
    { begun_reports := relaying.begun_eq ▸ made
      ended_reports := made
      begun_calls := fun _ apart => (calls_ended accounted suspended covered apart).1
      ended_calls := fun _ apart => (calls_ended accounted suspended covered apart).2 }

/-! ## Runs -/

section

variable {setup : Setup σ} {past : List Happening} {core : Core σ} {lane : Nat}
  (accounted : Accounted setup past core) (goesOn : GoesOn setup core lane)
  {between : List (Move σ)} (orderly : ∀ move ∈ between, move.isAbort = false)

include accounted goesOn orderly

/--
A lane that has its permit has been preferred to nobody who waited before it asked.  It has
asked behind them all.
-/
theorem preferred_of_waits {task : Pool.Task σ}
    (present : (run setup (step setup core lane) between).pool.task? lane = some task)
    (stage : task.stage = .granted) {waiting : Pool.Task σ} (waits : core.pool.Waits waiting) :
    ∃ before after, between = before ++ after ∧
      (run setup (step setup core lane) before).pool.Preferred waiting lane := by
  rcases (before_next_call accounted goesOn waits).2 with behind | preferred
  · rcases preferred_of_behind (accounted.step lane) orderly behind with preferred | still
    · exact preferred
    · rcases still.behind with ⟨same, looked, place⟩
      rw [present] at looked
      cases looked
      rw [stage] at place
      rcases place with fresh | ⟨queueing, -⟩
      · cases fresh
      · cases queueing
  · exact ⟨[], between, rfl, preferred⟩

/--
From its permit on, a task that waited cannot lose its place again.  Whatever is done to the
pool, it has its permit or has begun.
-/
theorem begins_of_waits {task : Pool.Task σ}
    (present : (run setup (step setup core lane) between).pool.task? lane = some task)
    (stage : task.stage = .granted) {waiting : Pool.Task σ} (waits : core.pool.Waits waiting) :
    Begins setup (step setup core lane) between waiting ∨
      (run setup (step setup core lane) between).pool.task? waiting.id =
        some { waiting with stage := .granted } := by
  rcases preferred_of_waits accounted goesOn orderly present stage waits with
    ⟨before, after, rfl, preferred⟩
  have quiet := fun move inside => orderly move (List.mem_append_left after inside)
  have quiet_after := fun move inside => orderly move (List.mem_append_right before inside)
  have then_on := begins_or_granted ((accounted.step lane).run before quiet) quiet_after
    preferred.granted
  have split : run setup (step setup core lane) (before ++ after) =
      run setup (run setup (step setup core lane) before) after := List.foldl_append
  rw [split]
  exact then_on.imp_left (Begins.prepend before)

/--
The jobs that have not begun hold permits beside the lane, so they are fewer than the
workers.  Each holds one of its own, and the lane holds one as well.
-/
theorem overtaken_lt {task : Pool.Task σ}
    (present : (run setup (step setup core lane) between).pool.task? lane = some task)
    (stage : task.stage = .granted) {late : List (Pool.Task σ)} (distinct : late.Nodup)
    (unbegun : ∀ waiting ∈ late, core.pool.Waits waiting ∧
      ¬ Begins setup (step setup core lane) between waiting) :
    late.length < max setup.options.workers 1 := by
  have coherent := ((accounted.step lane).run between orderly).coherent
  have apart : lane ∉ late.map Pool.Task.id := by
    intro inside
    rcases List.mem_map.mp inside with ⟨waiting, member, same⟩
    exact (before_next_call accounted goesOn (unbegun waiting member).1).1 same.symm
  have ids_distinct : (late.map Pool.Task.id).Nodup := by
    refine List.Nodup.map_on ?_ distinct
    intro first is_late second also_late same
    have first_found := (unbegun first is_late).1.found
    rw [same, (unbegun second also_late).1.found] at first_found
    exact (Option.some.inj first_found).symm
  have few : (lane :: late.map Pool.Task.id).length ≤ setup.options.workerCount := by
    refine coherent.length_le_of_holders (List.nodup_cons.mpr ⟨apart, ids_distinct⟩) ?_
    refine List.cons_subset.mpr ⟨(coherent.mem_idsWhere_iff present _).mpr (by rw [stage]; rfl), ?_⟩
    intro id inside
    rcases List.mem_map.mp inside with ⟨waiting, member, rfl⟩
    rcases unbegun waiting member with ⟨waits, not_begun⟩
    have granted :=
      (begins_of_waits accounted goesOn orderly present stage waits).resolve_left not_begun
    exact (coherent.mem_idsWhere_iff granted _).mpr rfl
  rw [List.length_cons, List.length_map] at few
  exact few

end

/--
The beginning of a lane's next call, seen from the end of the last one.  Whatever happens
between the two moments is left open.
-/
theorem yields {setup : Setup σ} {past : List Happening} {core : Core σ} {lane : Nat}
    (accounted : Accounted setup past core) (goesOn : GoesOn setup core lane)
    {between : List (Move σ)} (orderly : ∀ move ∈ between, move.isAbort = false) {next : Job}
    (begins : .began next ∈ stepped setup (run setup (step setup core lane) between) lane) :
    Yields setup core lane between := by
  have coherent := ((accounted.step lane).run between orderly).coherent
  have ready : lane ∈ (run setup (step setup core lane) between).pool.ready := by
    by_contra absent
    rw [(step_of_not_ready coherent setup absent).2] at begins
    cases begins
  rcases stepping_of_ready coherent setup ready with ⟨task, present, -, -, way⟩
  have stage := (granted_of_began way begins).1
  exact
    { granted := fun _ waits => preferred_of_waits accounted goesOn orderly present stage waits
      started := fun _ waits => begins_of_waits accounted goesOn orderly present stage waits
      overtaken := fun _ distinct unbegun =>
        overtaken_lt accounted goesOn orderly present stage distinct unbegun }

/--
In every run in which no tasks are abandoned, no worker is idle while a job waits for it,
and no device keeps others from being served.  Nothing is assumed about the schedule, or
about how long callbacks take.
-/
theorem pool_lively (setup : Setup σ) (world : σ) (moves : List (Move σ))
    (orderly : ∀ move ∈ moves, move.isAbort = false) :
    Lively setup (new setup world) moves := by
  have accounted := accounted_run setup world moves orderly
  have relaying := ((reported_new setup world).run orderly).relaying
  have nobody := fun still =>
    (stalled_iff setup accounted.coherent accounted.gates_distinct).mp still
  exact
    { bounded := fun _ goOn => length_le_pendingSteps accounted goOn
      no_idle := fun waits => accounted.coherent.no_idle.resolve_left waits
      stalled := fun still => stalled_cases accounted relaying (nobody still)
      served := fun still _ fewer covered =>
        served_of_stalled accounted relaying (nobody still) fewer covered
      answers := fun _ _ _ _ _ _ _ _ shown => answers_of_observe shown
      yields := by
        intro earlier lane between later next split goesOn begins
        have before := accounted_run setup world earlier fun move inside =>
          orderly move (split ▸ by simp [inside])
        have quiet : ∀ move ∈ between, move.isAbort = false := fun move inside =>
          orderly move (split ▸ by simp [inside])
        have between_eq : run setup (new setup world) (earlier ++ .step lane :: between) =
            run setup (step setup (run setup (new setup world) earlier) lane) between :=
          List.foldl_append
        rw [between_eq] at begins
        exact yields before goesOn quiet begins }

/--
The lamp has another call when its first one ends, but the fan has been waiting for the
worker.  There is a single worker, so the fan comes first.
-/
def fanFirst : List (Move Unit) :=
  threeCalls ++
    [.step 0, .openGate "reading" 2, .step 0, .step 0, .step 1, .step 1, .step 1, .step 0]

theorem pool_lively_fanFirst :
    Lively patientSetup (new patientSetup ()) fanFirst ∧
      ((history patientSetup (new patientSetup ()) fanFirst).filterMap fun happening =>
        match happening with
        | .began (.invoke messageId _ _) => some messageId
        | _ => none) = [1, 3, 2] :=
  ⟨pool_lively patientSetup () fanFirst (by decide), by decide⟩

/-- Two workers, and devices that answer at once.  No callback is ever blocked here. -/
def swiftSetup : Setup Unit :=
  { plainSetup with options := { Options.standard with workers := 2 } }

/--
The lamp and the fan have a worker each, the heater waits for one, and the lamp has another
call.  The lamp is about to end its first call.
-/
def heaterWaits : List (Move Unit) :=
  let lamp : Address := ⟨"house", "lamp"⟩
  [.submit (.invoke 1 lamp (.getProperties [])), .submit (.invoke 2 lamp (.getProperties [])),
    .submit (.invoke 3 ⟨"house", "fan"⟩ (.getProperties [])),
    .submit (.invoke 4 ⟨"house", "heater"⟩ (.getProperties [])), .step 0, .step 1, .step 2]

/--
When the lamp's first call ends, the heater gets its permit, but it is not the heater's
turn.  The lamp asks for its next permit, the fan's call runs and leaves one, and the
lamp begins its second call before the heater has begun at all.
-/
theorem heater_overtaken :
    let waiting := run swiftSetup (new swiftSetup ()) heaterWaits
    let heater : Pool.Task Unit :=
      ⟨2, .invoke 4 ⟨"house", "heater"⟩ (.getProperties []), .queueing⟩
    GoesOn swiftSetup waiting 0 ∧ waiting.pool.Waits heater ∧
      .began (.invoke 2 ⟨"house", "lamp"⟩ (.getProperties [])) ∈
        stepped swiftSetup (run swiftSetup (step swiftSetup waiting 0) [.step 0, .step 1]) 0 ∧
      ¬ Begins swiftSetup (step swiftSetup waiting 0) [.step 0, .step 1] heater ∧
      ((history swiftSetup waiting [.step 0, .step 0, .step 1, .step 0, .step 2]).filterMap
        fun happening =>
          match happening with
          | .began (.invoke messageId _ _) => some messageId
          | _ => none) = [1, 3, 2, 4] := by
  refine ⟨⟨⟨_, _, List.mem_cons_of_mem _ (List.mem_singleton_self _)⟩, by decide⟩,
    ⟨rfl, by decide⟩, List.mem_cons_self, ?_, by decide⟩
  rintro ⟨before, after, split, -⟩
  have inside : .step 2 ∈ ([.step 0, .step 1] : List (Move Unit)) := split ▸ by simp
  simp at inside

end Core
end DeviceLink
