import DeviceLink.Proofs.Pool.Transition

namespace DeviceLink

/-!
The history of a pool and its state.  For each device the history tells which calls were
accepted, and when calls began and ended; the pool tells which calls it still has and
which of them run.  The two agree after every transition: what was accepted is what has
ended, followed by what the pool has, in the same order.  `Ledger` is what a pool has to
do, in terms of jobs and without the stages of tasks, and `Recorded` compares it with a
history.  Four lemmas say what becomes of that when a job is accepted, begins or ends,
and when nothing of the kind happens.
-/

/-- The call of a job, if it is for a device.  Jobs for other devices have none here. -/
def Job.callOn? (device : Address) : Job → Option Pool.WaitingCall
  | .invoke messageId target call => if target = device then some ⟨messageId, call⟩ else none
  | .reportReply _ _ => none

theorem Job.callOn?_eq_some {device : Address} {job : Job} {call : Pool.WaitingCall} :
    job.callOn? device = some call ↔ job = .invoke call.messageId device call.call := by
  cases call
  cases job with
  | reportReply messageId code => simp [callOn?]
  | invoke messageId target body => simp [callOn?, and_left_comm]

theorem Job.callOn?_eq_none {device : Address} {job : Job} :
    job.callOn? device = none ↔ job.device? ≠ some device := by
  cases job with
  | reportReply messageId code => simp [callOn?, device?]
  | invoke messageId target body => simp [callOn?, device?]

theorem Job.exists_callOn? {device : Address} {job : Job} (isFor : job.device? = some device) :
    ∃ call, job.callOn? device = some call := by
  cases found : job.callOn? device with
  | some call => exact ⟨call, rfl⟩
  | none => exact absurd isFor (Job.callOn?_eq_none.mp found)

/-- The beginning or the end of a call.  On one device the two should alternate. -/
inductive Boundary
  | start (call : Pool.WaitingCall)
  | finish (call : Pool.WaitingCall)
  deriving DecidableEq, Repr

namespace Happening

def acceptedCall? (device : Address) : Happening → Option Pool.WaitingCall
  | accepted job => job.callOn? device
  | _ => none

def begunCall? (device : Address) : Happening → Option Pool.WaitingCall
  | began job => job.callOn? device
  | _ => none

def endedCall? (device : Address) : Happening → Option Pool.WaitingCall
  | ended job _ => job.callOn? device
  | _ => none

def boundary? (device : Address) : Happening → Option Boundary
  | began job => (job.callOn? device).map .start
  | ended job _ => (job.callOn? device).map .finish
  | _ => none

def job? : Happening → Option Job
  | accepted job => some job
  | began job => some job
  | ended job _ => some job
  | _ => none

def isAccepted : Happening → Bool
  | accepted _ => true
  | _ => false

def isBegan : Happening → Bool
  | began _ => true
  | _ => false

def isEnded : Happening → Bool
  | ended _ _ => true
  | _ => false

end Happening

/--
The calls on a device in the order in which they were accepted.  The history knows them all,
whether or not they have ended.
-/
def acceptedCalls (device : Address) (past : List Happening) : List Pool.WaitingCall :=
  past.filterMap (Happening.acceptedCall? device)

/--
The calls on a device in the order in which they began.  That should be the order of
acceptance.
-/
def begunCalls (device : Address) (past : List Happening) : List Pool.WaitingCall :=
  past.filterMap (Happening.begunCall? device)

/-- The calls on a device in the order in which they ended.  Abandoned calls do not end. -/
def endedCalls (device : Address) (past : List Happening) : List Pool.WaitingCall :=
  past.filterMap (Happening.endedCall? device)

/--
The beginnings and ends of the calls on a device, as they alternated.  Nothing else of the
history is in it.
-/
def boundaries (device : Address) (past : List Happening) : List Boundary :=
  past.filterMap (Happening.boundary? device)

/-- Calls that follow one another without overlapping.  Each ends before the next one begins. -/
def oneByOne (calls : List Pool.WaitingCall) : List Boundary :=
  calls.flatMap fun call => [.start call, .finish call]

section

variable (device : Address) (past : List Happening) (happening : Happening)

theorem acceptedCalls_concat :
    acceptedCalls device (past ++ [happening]) =
      acceptedCalls device past ++ (happening.acceptedCall? device).toList :=
  Run.filterMap_concat _ past happening

theorem endedCalls_concat :
    endedCalls device (past ++ [happening]) =
      endedCalls device past ++ (happening.endedCall? device).toList :=
  Run.filterMap_concat _ past happening

theorem boundaries_concat :
    boundaries device (past ++ [happening]) =
      boundaries device past ++ (happening.boundary? device).toList :=
  Run.filterMap_concat _ past happening

theorem oneByOne_concat (calls : List Pool.WaitingCall) (call : Pool.WaitingCall) :
    oneByOne (calls ++ [call]) = oneByOne calls ++ [.start call, .finish call] := by
  rw [oneByOne, List.flatMap_append, List.flatMap_singleton]
  rfl

end

/--
What a pool has left to do: the jobs of its tasks, each with whether it has begun, and the
calls that wait in its lanes.  It is the side of the books that the history is compared
with.
-/
structure Ledger where
  jobs : List (Job × Bool)
  lanes : List (Address × List Pool.WaitingCall)
  queued : Nat

namespace Ledger

/-- The calls on a device among jobs.  Jobs of other devices are passed over. -/
def callsAmong (device : Address) (jobs : List (Job × Bool)) : List Pool.WaitingCall :=
  jobs.filterMap fun entry => entry.1.callOn? device

/-- The calls on a device among jobs that have begun.  One of them at most is to be expected. -/
def begunAmong (device : Address) (jobs : List (Job × Bool)) : List Pool.WaitingCall :=
  jobs.filterMap fun entry => if entry.2 then entry.1.callOn? device else none

/-- The calls that wait in the lane of a device.  Without a lane there are none. -/
def waitingCalls (ledger : Ledger) (device : Address) : List Pool.WaitingCall :=
  ((ledger.lanes.find? fun lane => lane.1 = device).map Prod.snd).getD []

/--
The calls on a device that have not ended: the one its lane is at, then those that wait.
They are what has been accepted there and is still to be answered.
-/
def calls (ledger : Ledger) (device : Address) : List Pool.WaitingCall :=
  callsAmong device ledger.jobs ++ ledger.waitingCalls device

/-- The calls on a device that have begun and not ended.  There can be one, and not more. -/
def runningCalls (ledger : Ledger) (device : Address) : List Pool.WaitingCall :=
  begunAmong device ledger.jobs

/-- The number of jobs that have begun and not ended.  It is bounded by the permits. -/
def running (ledger : Ledger) : Nat := ledger.jobs.countP Prod.snd

/--
The history of a pool and what it has left to do account for the same jobs.  What was
accepted is what has ended and what is left, on each device and in all.
-/
structure Recorded (past : List Happening) (ledger : Ledger) : Prop where
  accepted_eq : ∀ device, acceptedCalls device past =
    endedCalls device past ++ ledger.calls device
  boundaries_eq : ∀ device, boundaries device past =
    oneByOne (endedCalls device past) ++ (ledger.runningCalls device).map .start
  accepted_count : past.countP Happening.isAccepted =
    past.countP Happening.isBegan + ledger.queued
  begun_count : past.countP Happening.isBegan =
    past.countP Happening.isEnded + ledger.running

namespace Recorded

variable {past : List Happening} {ledger next : Ledger} {job : Job}

/-- What is no matter of a job changes nothing.  It adds nothing to either side. -/
theorem skip (recorded : ledger.Recorded past) {happening : Happening}
    (aside : happening.job? = none) : ledger.Recorded (past ++ [happening]) := by
  cases happening with
  | accepted | began | ended => cases aside
  | received | sent =>
      exact
        { accepted_eq := fun device => by
            rw [acceptedCalls_concat, endedCalls_concat]
            simpa [Happening.acceptedCall?, Happening.endedCall?] using
              recorded.accepted_eq device
          boundaries_eq := fun device => by
            rw [boundaries_concat, endedCalls_concat]
            simpa [Happening.boundary?, Happening.endedCall?] using recorded.boundaries_eq device
          accepted_count := by
            simpa [Happening.isAccepted, Happening.isBegan] using recorded.accepted_count
          begun_count := by
            simpa [Happening.isEnded, Happening.isBegan] using recorded.begun_count }

theorem accept (recorded : ledger.Recorded past)
    (calls : ∀ device, next.calls device = ledger.calls device ++ (job.callOn? device).toList)
    (same : ∀ device, next.runningCalls device = ledger.runningCalls device)
    (queued : next.queued = ledger.queued + 1) (running : next.running = ledger.running) :
    next.Recorded (past ++ [.accepted job]) where
  accepted_eq := by
    intro device
    have old := recorded.accepted_eq device
    rw [acceptedCalls_concat, endedCalls_concat, old, calls]
    simp only [Happening.acceptedCall?, Happening.endedCall?, Option.toList_none,
      List.append_nil, List.append_assoc]
  boundaries_eq := by
    intro device
    have old := recorded.boundaries_eq device
    rw [boundaries_concat, endedCalls_concat, old, same]
    simp only [Happening.boundary?, Happening.endedCall?, Option.toList_none, List.append_nil]
  accepted_count := by
    have old := recorded.accepted_count
    simp only [List.countP_append, List.countP_singleton, Happening.isAccepted,
      Happening.isBegan, if_true, Bool.false_eq_true, if_false]
    omega
  begun_count := by
    have old := recorded.begun_count
    simp only [List.countP_append, List.countP_singleton, Happening.isEnded,
      Happening.isBegan, Bool.false_eq_true, if_false]
    omega

/--
A job begins; on its device nothing else runs.  It was the first of its device that had not
ended.
-/
theorem begin (recorded : ledger.Recorded past)
    (calls : ∀ device, next.calls device = ledger.calls device)
    (alone : ∀ device call, job.callOn? device = some call →
      ledger.runningCalls device = [] ∧ next.runningCalls device = [call])
    (elsewhere : ∀ device, job.callOn? device = none →
      next.runningCalls device = ledger.runningCalls device)
    (queued : next.queued + 1 = ledger.queued) (running : next.running = ledger.running + 1) :
    next.Recorded (past ++ [.began job]) where
  accepted_eq := by
    intro device
    have old := recorded.accepted_eq device
    rw [acceptedCalls_concat, endedCalls_concat, old, calls]
    simp only [Happening.acceptedCall?, Happening.endedCall?, Option.toList_none, List.append_nil]
  boundaries_eq := by
    intro device
    have old := recorded.boundaries_eq device
    rw [boundaries_concat, endedCalls_concat, old]
    cases call : job.callOn? device with
    | none =>
        rw [elsewhere device call]
        simp [Happening.boundary?, Happening.endedCall?, call]
    | some first =>
        rw [(alone device first call).1, (alone device first call).2]
        simp [Happening.boundary?, Happening.endedCall?, call]
  accepted_count := by
    have old := recorded.accepted_count
    simp only [List.countP_append, List.countP_singleton, Happening.isAccepted,
      Happening.isBegan, if_true, Bool.false_eq_true, if_false]
    omega
  begun_count := by
    have old := recorded.begun_count
    simp only [List.countP_append, List.countP_singleton, Happening.isEnded,
      Happening.isBegan, if_true, Bool.false_eq_true, if_false]
    omega

/--
A job that runs ends; on its device nothing else runs.  What is left is the rest of its
device.
-/
theorem finish (recorded : ledger.Recorded past) (answer : Option (Int32 × Json.Members))
    (calls : ∀ device, ledger.calls device = (job.callOn? device).toList ++ next.calls device)
    (alone : ∀ device call, job.callOn? device = some call →
      ledger.runningCalls device = [call] ∧ next.runningCalls device = [])
    (elsewhere : ∀ device, job.callOn? device = none →
      next.runningCalls device = ledger.runningCalls device)
    (queued : next.queued = ledger.queued) (running : next.running + 1 = ledger.running) :
    next.Recorded (past ++ [.ended job answer]) where
  accepted_eq := by
    intro device
    have old := recorded.accepted_eq device
    rw [acceptedCalls_concat, endedCalls_concat, old, calls]
    simp only [Happening.acceptedCall?, Happening.endedCall?, Option.toList_none,
      List.append_nil, List.append_assoc]
  boundaries_eq := by
    intro device
    have old := recorded.boundaries_eq device
    rw [boundaries_concat, endedCalls_concat, old]
    cases call : job.callOn? device with
    | none =>
        rw [elsewhere device call]
        simp [Happening.boundary?, Happening.endedCall?, call]
    | some first =>
        rw [(alone device first call).1, (alone device first call).2]
        simp [Happening.boundary?, Happening.endedCall?, call, oneByOne_concat]
  accepted_count := by
    have old := recorded.accepted_count
    simp only [List.countP_append, List.countP_singleton, Happening.isAccepted,
      Happening.isBegan, Bool.false_eq_true, if_false]
    omega
  begun_count := by
    have old := recorded.begun_count
    simp only [List.countP_append, List.countP_singleton, Happening.isEnded,
      Happening.isBegan, if_true, Bool.false_eq_true, if_false]
    omega

end Recorded

/-! ## One job among others -/

section

variable {jobs before after : List (Job × Bool)} {job : Job} {begun : Bool} {device : Address}

theorem callsAmong_of_none (none_there : ∀ entry ∈ jobs, entry.1.callOn? device = none) :
    callsAmong device jobs = [] := List.filterMap_eq_nil_iff.mpr none_there

theorem begunAmong_of_none (none_there : ∀ entry ∈ jobs, entry.1.callOn? device = none) :
    begunAmong device jobs = [] := by
  apply List.filterMap_eq_nil_iff.mpr
  intro entry inside
  rw [none_there entry inside, ite_self]

theorem callsAmong_elsewhere (absent : job.callOn? device = none) :
    callsAmong device (before ++ (job, begun) :: after) = callsAmong device (before ++ after) := by
  rw [callsAmong, callsAmong, List.filterMap_append, List.filterMap_append, List.filterMap_cons,
    absent]

theorem begunAmong_elsewhere (absent : job.callOn? device = none) :
    begunAmong device (before ++ (job, begun) :: after) = begunAmong device (before ++ after) := by
  rw [begunAmong, begunAmong, List.filterMap_append, List.filterMap_append, List.filterMap_cons,
    absent, ite_self]

theorem begunAmong_waiting :
    begunAmong device (before ++ (job, false) :: after) = begunAmong device (before ++ after) := by
  rw [begunAmong, begunAmong, List.filterMap_append, List.filterMap_append, List.filterMap_cons]
  rfl

theorem countP_begun :
    (before ++ (job, begun) :: after).countP Prod.snd =
      (before ++ after).countP Prod.snd + begun.toNat := by
  rw [List.countP_append, List.countP_append, List.countP_cons, Nat.add_assoc]
  cases begun <;> rfl

variable (alone : ∀ other ∈ before ++ after, other.1.callOn? device = none)

include alone

theorem callsAmong_alone :
    callsAmong device (before ++ (job, begun) :: after) = (job.callOn? device).toList := by
  have none_before := callsAmong_of_none fun other inside =>
    alone other (List.mem_append_left after inside)
  have none_after := callsAmong_of_none fun other inside =>
    alone other (List.mem_append_right before inside)
  unfold callsAmong at none_before none_after ⊢
  rw [List.filterMap_append, List.filterMap_cons, none_before, none_after]
  cases job.callOn? device <;> rfl

theorem begunAmong_alone :
    begunAmong device (before ++ (job, begun) :: after) =
      if begun then (job.callOn? device).toList else [] := by
  have none_before := begunAmong_of_none fun other inside =>
    alone other (List.mem_append_left after inside)
  have none_after := begunAmong_of_none fun other inside =>
    alone other (List.mem_append_right before inside)
  unfold begunAmong at none_before none_after ⊢
  rw [List.filterMap_append, List.filterMap_cons, none_before, none_after]
  cases begun <;> cases job.callOn? device <;> rfl

omit alone

/--
A call ends.  What is left is told by the ledger without the call, except on its device,
where the calls that waited remain and none has begun.  The books of the other devices are
not touched.
-/
theorem Recorded.finish_call {past : List Happening} {next : Ledger}
    {lanes : List (Address × List Pool.WaitingCall)} {queued : Nat} {call : Pool.WaitingCall}
    (recorded : Recorded past ⟨before ++ (job, true) :: after, lanes, queued⟩)
    (answer : Option (Int32 × Json.Members)) (isFor : job.callOn? device = some call)
    (alone : ∀ other ∈ before ++ after, other.1.callOn? device = none)
    (calls : ∀ other, next.calls other =
      if other = device then (⟨[], lanes, queued⟩ : Ledger).waitingCalls device
      else (⟨before ++ after, lanes, queued⟩ : Ledger).calls other)
    (runs : ∀ other, next.runningCalls other = begunAmong other (before ++ after))
    (same_queued : next.queued = queued)
    (running : next.running = (before ++ after).countP Prod.snd) :
    next.Recorded (past ++ [.ended job answer]) := by
  have only {other : Address} {found : Pool.WaitingCall}
      (some_call : job.callOn? other = some found) : other = device ∧ found = call := by
    have same := (Job.callOn?_eq_some.mp some_call).symm.trans (Job.callOn?_eq_some.mp isFor)
    cases call
    cases found
    cases same
    exact ⟨rfl, rfl⟩
  refine recorded.finish answer ?_ ?_ ?_ same_queued ?_
  · intro other
    rw [calls]
    split
    · rename_i same
      subst same
      rw [isFor, Ledger.calls, callsAmong_alone alone, isFor]
      rfl
    · rename_i apart
      have absent : job.callOn? other = none := by
        cases found : job.callOn? other with
        | none => rfl
        | some there => exact absurd (only found).1 apart
      rw [absent, Ledger.calls, callsAmong_elsewhere absent]
      rfl
  · intro other found some_call
    rcases only some_call with ⟨rfl, rfl⟩
    rw [runs, Ledger.runningCalls, begunAmong_alone alone, begunAmong_of_none alone, isFor]
    exact ⟨rfl, rfl⟩
  · intro other none_call
    rw [runs, Ledger.runningCalls, begunAmong_elsewhere none_call]
  · rw [running, Ledger.running, countP_begun]
    rfl

end

end Ledger

namespace Pool

variable {σ : Type}

/-- The jobs of tasks, and whether they have begun.  Their order is that of the tasks. -/
def jobsOf (tasks : List (Task σ)) : List (Job × Bool) :=
  tasks.map fun task => (task.job, task.stage.isRunning)

def ledger (pool : Pool σ) : Ledger := ⟨jobsOf pool.tasks, pool.lanes, pool.queued⟩

theorem jobsOf_place (before after : List (Task σ)) (task : Task σ) :
    jobsOf (before ++ task :: after) =
      jobsOf before ++ (task.job, task.stage.isRunning) :: jobsOf after := by
  rw [jobsOf, List.map_append, List.map_cons]
  rfl

theorem jobsOf_spawn (pool : Pool σ) (job : Job) :
    jobsOf (pool.spawn job).tasks = jobsOf pool.tasks ++ [(job, false)] := jobsOf_place _ _ _

theorem ledger_spawn (pool : Pool σ) (job : Job) :
    (pool.spawn job).ledger = ⟨jobsOf pool.tasks ++ [(job, false)], pool.lanes, pool.queued⟩ := by
  rw [ledger, jobsOf_spawn]
  rfl

theorem lane?_spawn (pool : Pool σ) (job : Job) (device : Address) :
    (pool.spawn job).lane? device = pool.lane? device := rfl

theorem calls_ledger (pool : Pool σ) (device : Address) :
    pool.ledger.calls device =
      Ledger.callsAmong device (jobsOf pool.tasks) ++ (pool.lane? device).getD [] := rfl

section

variable {permits : Nat} {blocked : List Nat} {pool : Pool σ} {task changed : Task σ}
  {before after : List (Task σ)}

/-! ## Changes that the ledger does not see -/

theorem Between.jobsOf_setTask (place : pool.Between task before after)
    (same_id : changed.id = task.id) (same_job : changed.job = task.job)
    (same_running : changed.stage.isRunning = task.stage.isRunning) :
    jobsOf (pool.setTask changed).tasks = jobsOf pool.tasks := by
  rw [place.tasks_setTask same_id, place.tasks_eq, jobsOf_place, jobsOf_place, same_job,
    same_running]

theorem ledger_eq {pool next : Pool σ} (jobs : jobsOf next.tasks = jobsOf pool.tasks)
    (lanes : next.lanes = pool.lanes) (queued : next.queued = pool.queued) :
    next.ledger = pool.ledger := by
  rw [ledger, ledger, jobs, lanes, queued]

theorem Coherent.ledger_releasePermit (coherent : pool.Coherent permits blocked) :
    pool.releasePermit.ledger = pool.ledger := by
  cases waiters : pool.permits.waiters with
  | nil =>
      rw [releasePermit_of_nobody pool waiters]
      rfl
  | cons first others =>
      rcases coherent.exists_queueing waiters with ⟨task, before, after, place, number, queueing⟩
      subst number
      rw [releasePermit_of_first pool waiters]
      have moved : ({ pool with permits := ⟨pool.permits.free, others⟩ } : Pool σ).Between
          task before after := ⟨place.tasks_eq, place.others⟩
      refine ledger_eq ?_ rfl rfl
      rw [moved.tasks_awaken, place.tasks_eq, jobsOf_place, jobsOf_place, queueing]
      rfl

theorem Coherent.ledger_acquire (coherent : pool.Coherent permits blocked)
    (found : pool.task? task.id = some task) (stage : task.stage = .fresh) :
    ((pool.leaveReady task.id).acquire task).ledger = pool.ledger := by
  rcases coherent.exists_between found with ⟨before, after, place⟩
  cases free : pool.permits.free with
  | zero =>
      rw [acquire_of_none (pool.leaveReady task.id) task free]
      have moved : (pool.leaveReady task.id).Between task before after :=
        ⟨place.tasks_eq, place.others⟩
      exact ledger_eq (moved.jobsOf_setTask rfl rfl (by rw [stage]; rfl)) rfl rfl
  | succ rest =>
      rw [acquire_of_free (pool.leaveReady task.id) task free]
      have moved : ({ pool.leaveReady task.id with
          permits := { pool.permits with free := rest } } : Pool σ).Between task before after :=
        ⟨place.tasks_eq, place.others⟩
      exact ledger_eq (moved.jobsOf_setTask rfl rfl (by rw [stage]; rfl)) rfl rfl

theorem ledger_awaken_resume (ids : List Nat) :
    (pool.awaken ids Stage.resume).ledger = pool.ledger := by
  refine ledger_eq ?_ rfl rfl
  unfold jobsOf awaken
  rw [List.map_map]
  apply List.map_congr_left
  intro task _
  rw [Function.comp_apply]
  split
  · cases task.stage <;> rfl
  · rfl

/-! ## Changes of the ledger -/

/--
No other task has a call on the device of a task.  That is why calls on one device cannot
overlap.
-/
theorem Coherent.alone (coherent : pool.Coherent permits blocked)
    (place : pool.Between task before after) {device : Address}
    (isFor : task.job.device? = some device) :
    ∀ other ∈ jobsOf before ++ jobsOf after, other.1.callOn? device = none := by
  have devices := coherent.lanes_driven.nodup_iff.mp coherent.lanes_nodup
  rw [place.tasks_eq, (taskDevices_place before after task).nodup_iff, isFor] at devices
  intro entry inside
  rw [jobsOf, jobsOf, ← List.map_append] at inside
  rcases List.mem_map.mp inside with ⟨other, member, rfl⟩
  apply Job.callOn?_eq_none.mpr
  intro same
  exact (List.nodup_cons.mp devices).1 (List.mem_filterMap.mpr ⟨other, member, same⟩)

/--
A device without a lane has no task.  There is nobody who could run a call of it before the
next one is submitted.
-/
theorem Coherent.taskCalls_of_free (coherent : pool.Coherent permits blocked) {device : Address}
    (free : pool.lane? device = none) :
    ∀ entry ∈ jobsOf pool.tasks, entry.1.callOn? device = none := by
  intro entry inside
  rcases List.mem_map.mp inside with ⟨task, member, rfl⟩
  apply Job.callOn?_eq_none.mpr
  intro isFor
  rcases coherent.exists_lane member isFor with ⟨waiting, lane⟩
  rw [free] at lane
  cases lane

/-- The ledger once a task has been taken up.  Its job counts as begun. -/
def takenUp (pool : Pool σ) (task : Task σ) (before after : List (Task σ)) : Ledger :=
  ⟨jobsOf before ++ (task.job, true) :: jobsOf after, pool.lanes, (pool.takeUp task).queued⟩

theorem Coherent.recorded_takenUp (coherent : pool.Coherent permits blocked)
    (place : pool.Between task before after) {past : List Happening}
    (recorded : pool.ledger.Recorded past) :
    (pool.takenUp task before after).Recorded (past ++ beginning task) := by
  have old_eq : pool.ledger =
      ⟨jobsOf before ++ (task.job, task.stage.isRunning) :: jobsOf after, pool.lanes,
        pool.queued⟩ := by
    rw [ledger, place.tasks_eq, jobsOf_place]
  cases running : task.stage.isRunning with
  | true =>
      have same : pool.takenUp task before after = pool.ledger := by
        rw [old_eq, takenUp, takeUp, if_pos running, running]
        rfl
      rw [same, beginning, if_pos running, List.append_nil]
      exact recorded
  | false =>
      have shown : beginning task = [.began task.job] := by
        rw [beginning, if_neg (by simp [running])]
      have queued := coherent.queued_takeUp place
      rw [shown]
      rw [old_eq, running] at recorded
      refine recorded.begin ?_ ?_ ?_ ?_ ?_
      · intro device
        simp only [Ledger.calls, Ledger.callsAmong, Ledger.waitingCalls, takenUp,
          List.filterMap_append, List.filterMap_cons]
      · intro device call isFor
        have alone := coherent.alone place (by rw [Job.callOn?_eq_some.mp isFor]; rfl)
        constructor
        · exact Ledger.begunAmong_alone alone
        · rw [Ledger.runningCalls, takenUp, Ledger.begunAmong_alone alone, isFor]
          rfl
      · intro device absent
        rw [Ledger.runningCalls, Ledger.runningCalls, takenUp,
          Ledger.begunAmong_elsewhere absent, Ledger.begunAmong_elsewhere absent]
      · simpa [takenUp, isUnstarted, running] using queued
      · rw [Ledger.running, Ledger.running, takenUp, Ledger.countP_begun, Ledger.countP_begun]
        rfl

theorem Coherent.recorded_retire (coherent : pool.Coherent permits blocked)
    (place : pool.Between task before after) {past : List Happening}
    (recorded : (pool.takenUp task before after).Recorded past)
    (answer : Option (Int32 × Json.Members)) :
    ((pool.takeUp task).retire task).ledger.Recorded (past ++ [.ended task.job answer]) := by
  have member := (mem_of_task? place.task?_eq).1
  have moved : (pool.takeUp task).Between task before after :=
    ⟨(tasks_takeUp pool task).trans place.tasks_eq, place.others⟩
  have jobs_removed : jobsOf (before ++ after) = jobsOf before ++ jobsOf after := List.map_append
  cases isFor : task.job.device? with
  | none =>
      have absent (device : Address) : task.job.callOn? device = none := by
        rw [Job.callOn?_eq_none, isFor]
        exact (Option.some_ne_none device).symm
      have next_eq : ((pool.takeUp task).retire task).ledger =
          ⟨jobsOf before ++ jobsOf after, pool.lanes, (pool.takeUp task).queued⟩ := by
        rw [retire_of_report _ _ isFor, ledger, moved.tasks_removeTask, jobs_removed,
          ← lanes_takeUp pool task]
        rfl
      rw [next_eq]
      refine recorded.finish answer ?_ ?_ ?_ rfl ?_
      · intro device
        rw [absent device, Ledger.calls, takenUp, Ledger.callsAmong_elsewhere (absent device)]
        rfl
      · intro device call some_call
        rw [absent device] at some_call
        cases some_call
      · intro device none_call
        rw [Ledger.runningCalls, Ledger.runningCalls, takenUp,
          Ledger.begunAmong_elsewhere none_call]
      · rw [Ledger.running, Ledger.running, takenUp, Ledger.countP_begun]
        rfl
  | some device =>
      rcases coherent.exists_lane member isFor with ⟨waiting, lane⟩
      have alone := coherent.alone place isFor
      have lane_eq : (pool.takeUp task).lane? device = some waiting := by
        rw [← lane, lane?, lane?, lanes_takeUp]
      rcases Job.exists_callOn? isFor with ⟨call, some_call⟩
      have waits (other : Address) (jobs : List (Job × Bool)) :
          Ledger.waitingCalls ⟨jobs, pool.lanes, (pool.takeUp task).queued⟩ other =
            ((pool.takeUp task).lane? other).getD [] := by
        rw [lane?, lanes_takeUp]
        rfl
      cases waiting with
      | nil =>
          have next_eq := retire_of_last _ _ isFor lane_eq
          generalize (pool.takeUp task).retire task = next at next_eq ⊢
          have outside : ({ pool.takeUp task with
              lanes := (pool.takeUp task).lanes.filter fun lane => lane.1 ≠ device } :
                Pool σ).Between task before after := ⟨moved.tasks_eq, moved.others⟩
          have jobs_eq : jobsOf next.tasks = jobsOf before ++ jobsOf after := by
            rw [next_eq, outside.tasks_removeTask, jobs_removed]
          have queued_eq : next.queued = (pool.takeUp task).queued := by
            rw [next_eq]
            rfl
          have lane_next := lane?_of_closed (congrArg Pool.lanes next_eq)
          refine recorded.finish_call answer some_call alone ?_ ?_ queued_eq ?_
          · intro other
            rw [calls_ledger, jobs_eq, lane_next, Ledger.calls, waits, waits]
            split
            · rename_i same
              rw [same, Ledger.callsAmong_of_none alone, lane_eq]
              rfl
            · rfl
          · intro other
            exact congrArg (Ledger.begunAmong other) jobs_eq
          · exact congrArg (List.countP Prod.snd) jobs_eq
      | cons following rest =>
          have next_eq := retire_of_next _ _ isFor lane_eq
          generalize (pool.takeUp task).retire task = next at next_eq ⊢
          have outside : ((pool.takeUp task).setLane device rest).Between task before after :=
            ⟨moved.tasks_eq, moved.others⟩
          have jobs_eq : jobsOf next.tasks =
              jobsOf before ++ (.invoke following.messageId device following.call, false) ::
                jobsOf after := by
            have tasks_eq : next.tasks = before ++
                ⟨task.id, .invoke following.messageId device following.call, .fresh⟩ :: after := by
              rw [next_eq]
              exact outside.tasks_setTask rfl
            rw [tasks_eq, jobsOf_place]
            rfl
          have lane_next (other : Address) : next.lane? other =
              if other = device then some rest else (pool.takeUp task).lane? other := by
            rw [next_eq]
            refine (lane?_setLane (pool.takeUp task) device other rest).trans ?_
            rw [lane_eq]
            rfl
          have queued_eq : next.queued = (pool.takeUp task).queued := by
            rw [next_eq]
            rfl
          have is_next : Job.callOn? device (.invoke following.messageId device following.call) =
              some following := Job.callOn?_eq_some.mpr rfl
          have is_not {other : Address} (apart : other ≠ device) :
              Job.callOn? other (.invoke following.messageId device following.call) = none :=
            Job.callOn?_eq_none.mpr fun same => apart (Option.some.inj same).symm
          refine recorded.finish_call answer some_call alone ?_ ?_ queued_eq ?_
          · intro other
            rw [calls_ledger, jobs_eq, lane_next, Ledger.calls, waits, waits]
            split
            · rename_i same
              rw [same, Ledger.callsAmong_alone alone, lane_eq, is_next]
              rfl
            · rename_i apart
              rw [Ledger.callsAmong_elsewhere (is_not apart)]
          · intro other
            exact (congrArg (Ledger.begunAmong other) jobs_eq).trans Ledger.begunAmong_waiting
          · refine (congrArg (List.countP Prod.snd) jobs_eq).trans ?_
            rw [Ledger.countP_begun]
            rfl

theorem Coherent.recorded_accept (coherent : pool.Coherent permits blocked) {job : Job}
    {next : Pool σ} (submitted : pool.submit job = .ok next) {past : List Happening}
    (recorded : pool.ledger.Recorded past) : next.ledger.Recorded (past ++ [.accepted job]) := by
  rcases submit_ok submitted with ⟨-, -, accepted⟩
  subst accepted
  cases job with
  | reportReply messageId code =>
      refine recorded.accept ?_ ?_ rfl ?_
      · intro device
        rw [enqueue, ledger_spawn, Ledger.calls, Ledger.callsAmong_elsewhere rfl, List.append_nil]
        exact (List.append_nil _).symm
      · intro device
        rw [enqueue, ledger_spawn, Ledger.runningCalls, Ledger.begunAmong_waiting, List.append_nil]
        rfl
      · rw [enqueue, ledger_spawn, Ledger.running, Ledger.countP_begun, List.append_nil]
        rfl
  | invoke messageId device call =>
      have lane_eq : ({ pool with queued := pool.queued + 1 } : Pool σ).lane? device =
          pool.lane? device := rfl
      have on_device : (Job.invoke messageId device call).callOn? device =
          some ⟨messageId, call⟩ := Job.callOn?_eq_some.mpr rfl
      have on_other {other : Address} (apart : other ≠ device) :
          (Job.invoke messageId device call).callOn? other = none :=
        Job.callOn?_eq_none.mpr fun same => apart (Option.some.inj same).symm
      unfold enqueue
      cases lane : pool.lane? device with
      | none =>
          simp only [lane_eq, lane]
          refine recorded.accept ?_ ?_ rfl ?_
          · intro other
            let opened : Pool σ :=
              { pool with queued := pool.queued + 1, lanes := pool.lanes ++ [(device, [])] }
            have lane_next : opened.lane? other = if other = device then some [] else
              pool.lane? other := lane?_of_opened rfl lane other
            change (opened.spawn (.invoke messageId device call)).ledger.calls other = _
            rw [calls_ledger, jobsOf_spawn, lane?_spawn, lane_next, calls_ledger]
            by_cases same : other = device
            · have free := coherent.taskCalls_of_free lane
              rw [if_pos same, same, lane, on_device, Ledger.callsAmong_of_none free,
                Ledger.callsAmong_alone (by simpa using free), on_device]
              rfl
            · rw [if_neg same, Ledger.callsAmong_elsewhere (on_other same), on_other same,
                List.append_nil, Option.toList_none, List.append_nil]
          · intro other
            rw [ledger_spawn, Ledger.runningCalls, Ledger.begunAmong_waiting, List.append_nil]
            rfl
          · rw [ledger_spawn, Ledger.running, Ledger.countP_begun, List.append_nil]
            rfl
      | some waiting =>
          simp only [lane_eq, lane]
          refine recorded.accept ?_ (fun _ => rfl) rfl rfl
          intro other
          rw [calls_ledger, calls_ledger, lane?_setLane, lane_eq, lane]
          by_cases same : other = device
          · rw [if_pos same, same, lane, on_device]
            exact (List.append_assoc _ _ _).symm
          · rw [if_neg same, on_other same, Option.toList_none, List.append_nil]
            rfl

/--
The history and the ledger go on accounting for the same jobs.  There is one case for each
transition of a pool.
-/
theorem Transition.recorded {held : List Nat} {next : Pool σ} {shown : List Happening}
    (transition : Transition pool blocked shown next held)
    (coherent : pool.Coherent permits blocked) {past : List Happening}
    (recorded : pool.ledger.Recorded past) : next.ledger.Recorded (past ++ shown) := by
  cases transition with
  | accept job _ submitted => exact coherent.recorded_accept submitted recorded
  | ask task found stage =>
      rw [List.append_nil, coherent.ledger_acquire found stage]
      exact recorded
  | arrive task gate rest found receives isCall =>
      rcases coherent.exists_between found with ⟨before, after, place⟩
      have moved : (pool.takeUp task).Between task before after :=
        ⟨(tasks_takeUp pool task).trans place.tasks_eq, place.others⟩
      have taken : ((pool.takeUp task).proceed { task with stage := .atGate gate rest }).ledger =
          pool.takenUp task before after := by
        have tasks_eq :
            ((pool.takeUp task).proceed { task with stage := .atGate gate rest }).tasks =
              before ++ { task with stage := .atGate gate rest } :: after :=
          moved.tasks_setTask rfl
        rw [ledger, tasks_eq, jobsOf_place, takenUp, ← lanes_takeUp pool task]
        rfl
      rw [taken]
      exact coherent.recorded_takenUp place recorded
  | pass task gate rest found stage =>
      rcases coherent.exists_between found with ⟨before, after, place⟩
      have moved : (pool.leaveReady task.id).Between task before after :=
        ⟨place.tasks_eq, place.others⟩
      have same : ((pool.leaveReady task.id).proceed
          { task with stage := .resumable rest }).ledger = pool.ledger :=
        ledger_eq (moved.jobsOf_setTask rfl rfl (by rw [stage]; rfl)) rfl rfl
      rw [List.append_nil, same]
      exact recorded
  | block task gate rest _ found stage waits =>
      rcases coherent.exists_between found with ⟨before, after, place⟩
      have moved : (pool.leaveReady task.id).Between task before after :=
        ⟨place.tasks_eq, place.others⟩
      have same : ((pool.leaveReady task.id).setTask
          { task with stage := .suspended rest }).ledger = pool.ledger :=
        ledger_eq (moved.jobsOf_setTask rfl rfl (by rw [stage]; rfl)) rfl rfl
      rw [List.append_nil, same]
      exact recorded
  | finish task answer found receives =>
      rcases coherent.exists_between found with ⟨before, after, place⟩
      rcases coherent.exists_left (mem_of_task? found).1 (Coherent.stages_of_receives receives).2.1
        with ⟨left, rfl⟩
      rw [(coherent.retire found receives).ledger_releasePermit, ← List.append_assoc]
      exact coherent.recorded_retire place (coherent.recorded_takenUp place recorded) answer
  | openGate served _ passed =>
      rw [List.append_nil, ledger_awaken_resume]
      exact recorded
  | close =>
      rw [List.append_nil]
      exact recorded

/-! ## The calls on one device -/

/--
The task of a call is at the first call of its device that has not ended.  What waits behind
it is the lane.
-/
theorem Coherent.calls_of_task (coherent : pool.Coherent permits blocked)
    (member : task ∈ pool.tasks) {device : Address} {call : WaitingCall}
    (isOn : task.job.callOn? device = some call) :
    ∃ waiting, pool.lane? device = some waiting ∧ pool.ledger.calls device = call :: waiting ∧
      pool.ledger.runningCalls device = if task.stage.isRunning then [call] else [] := by
  have isFor : task.job.device? = some device := by
    rw [Job.callOn?_eq_some.mp isOn]
    rfl
  rcases coherent.exists_lane member isFor with ⟨waiting, lane⟩
  rcases Pool.exists_between coherent.ids_nodup member with ⟨before, after, place⟩
  have alone := coherent.alone place isFor
  refine ⟨waiting, lane, ?_, ?_⟩
  · rw [calls_ledger, place.tasks_eq, jobsOf_place, Ledger.callsAmong_alone alone, isOn, lane]
    rfl
  · rw [Ledger.runningCalls, ledger, place.tasks_eq, jobsOf_place, Ledger.begunAmong_alone alone,
      isOn]
    rfl

/-- A lane has a task.  Its job is for the device of the lane. -/
theorem Coherent.exists_driver (coherent : pool.Coherent permits blocked) {device : Address}
    {waiting : List WaitingCall} (lane : pool.lane? device = some waiting) :
    ∃ task ∈ pool.tasks, ∃ call, task.job.callOn? device = some call := by
  have present : device ∈ pool.laneDevices := by
    by_contra absent
    rw [lane?_eq_none_iff.mpr absent] at lane
    cases lane
  rcases List.mem_filterMap.mp (coherent.lanes_driven.mem_iff.mp present) with
    ⟨task, member, isFor⟩
  exact ⟨task, member, Job.exists_callOn? isFor⟩

/-- A device without a lane has nothing left to do.  All that it was given has ended. -/
theorem Coherent.calls_of_free (coherent : pool.Coherent permits blocked) {device : Address}
    (free : pool.lane? device = none) :
    pool.ledger.calls device = [] ∧ pool.ledger.runningCalls device = [] := by
  have absent := coherent.taskCalls_of_free free
  constructor
  · rw [calls_ledger, Ledger.callsAmong_of_none absent, free]
    rfl
  · exact Ledger.begunAmong_of_none absent

theorem Coherent.runningCalls_prefix (coherent : pool.Coherent permits blocked)
    (device : Address) :
    pool.ledger.runningCalls device <+: pool.ledger.calls device := by
  cases lane : pool.lane? device with
  | none =>
      rw [(coherent.calls_of_free lane).2]
      exact List.nil_prefix
  | some waiting =>
      rcases coherent.exists_driver lane with ⟨task, member, call, isOn⟩
      rcases coherent.calls_of_task member isOn with ⟨others, -, calls, running⟩
      rw [calls, running]
      split
      · exact ⟨others, rfl⟩
      · exact List.nil_prefix

/-- At most one call of a device runs.  It is the one that its lane is at. -/
theorem Coherent.exists_runningCalls (coherent : pool.Coherent permits blocked)
    (device : Address) :
    ∃ current : Option WaitingCall, pool.ledger.runningCalls device = current.toList := by
  cases lane : pool.lane? device with
  | none => exact ⟨none, (coherent.calls_of_free lane).2⟩
  | some waiting =>
      rcases coherent.exists_driver lane with ⟨task, member, call, isOn⟩
      rcases coherent.calls_of_task member isOn with ⟨others, -, -, running⟩
      refine ⟨if task.stage.isRunning then some call else none, ?_⟩
      rw [running]
      split <;> rfl

theorem running_ledger (pool : Pool σ) :
    pool.ledger.running = countWhere Stage.isRunning pool.tasks := by
  rw [Ledger.running, ledger, jobsOf, List.countP_map]
  rfl

end

end Pool
end DeviceLink
