import DeviceLink.Proofs.Pool.Ledger

namespace DeviceLink

/-!
Replies that nobody awaits are told to the observer by tasks of their own.  Such a task
begins and ends in one step, so a report that was accepted has either been made or still
has its task, and it is never made twice.  `Relaying` compares the reports of a history
with those of the tasks in a pool.  It is shown for each kind of transition in the same
way as the ledger of calls, and the two do not touch each other, since a report has no
device.
-/

/--
The message id and the code of the reply that a job tells the observer about.  Calls on
devices have no report.
-/
def Job.report? : Job → Option (UInt32 × Int32)
  | .invoke _ _ _ => none
  | .reportReply messageId code => some (messageId, code)

theorem Job.report?_of_call {job : Job} (isCall : job.device? ≠ none) : job.report? = none := by
  cases job with
  | invoke messageId device call => rfl
  | reportReply messageId code => exact absurd rfl isCall

namespace Happening

def acceptedReport? : Happening → Option (UInt32 × Int32)
  | accepted job => job.report?
  | _ => none

def begunReport? : Happening → Option (UInt32 × Int32)
  | began job => job.report?
  | _ => none

def endedReport? : Happening → Option (UInt32 × Int32)
  | ended job _ => job.report?
  | _ => none

/-- The report that something is a matter of.  Only jobs that report are looked at. -/
def report? (happening : Happening) : Option (UInt32 × Int32) := happening.job?.bind Job.report?

end Happening

/-- The reports that were accepted.  They stand in the order of acceptance. -/
def acceptedReports (past : List Happening) : List (UInt32 × Int32) :=
  past.filterMap Happening.acceptedReport?

/-- The reports that were begun.  Each ends in the same step. -/
def begunReports (past : List Happening) : List (UInt32 × Int32) :=
  past.filterMap Happening.begunReport?

/-- The reports that were made to the end.  The observer has been told these, if there is one. -/
def endedReports (past : List Happening) : List (UInt32 × Int32) :=
  past.filterMap Happening.endedReport?

/-- What is no matter of a report counts for none of the three.  Most of a history is like that. -/
theorem reports_aside {shown : List Happening} (past : List Happening)
    (aside : ∀ happening ∈ shown, happening.report? = none) :
    acceptedReports (past ++ shown) = acceptedReports past ∧
      begunReports (past ++ shown) = begunReports past ∧
      endedReports (past ++ shown) = endedReports past := by
  unfold acceptedReports begunReports endedReports
  rw [List.filterMap_append, List.filterMap_append, List.filterMap_append]
  refine ⟨?_, ?_, ?_⟩ <;>
  · refine (congrArg _ (List.filterMap_eq_nil_iff.mpr ?_)).trans (List.append_nil _)
    intro happening inside
    have quiet := aside happening inside
    cases happening <;> first | rfl | exact quiet

namespace Pool

variable {σ : Type}

/-- The reports that tasks still have to make.  Each such task has one. -/
def reportsOf (tasks : List (Task σ)) : List (UInt32 × Int32) :=
  tasks.filterMap fun task => task.job.report?

theorem reportsOf_place (before after : List (Task σ)) (task : Task σ) :
    (reportsOf (before ++ task :: after)).Perm
      (task.job.report?.toList ++ reportsOf (before ++ after)) := by
  unfold reportsOf
  rw [List.filterMap_append, List.filterMap_append, List.filterMap_cons]
  cases task.job.report? with
  | none => exact List.Perm.refl _
  | some report => exact List.perm_middle

theorem reportsOf_awaken (pool : Pool σ) (ids : List Nat) (change : Stage σ → Stage σ) :
    reportsOf (pool.awaken ids change).tasks = reportsOf pool.tasks := by
  unfold reportsOf awaken
  rw [List.filterMap_map]
  apply List.filterMap_congr
  intro task _
  rw [Function.comp_apply]
  split <;> rfl

theorem reportsOf_releasePermit (pool : Pool σ) :
    reportsOf pool.releasePermit.tasks = reportsOf pool.tasks :=
  reportsOf_awaken { pool with permits := (pool.permits.release 1).1 } _ _

section

variable {pool next : Pool σ} {task : Task σ} {before after : List (Task σ)}

theorem Between.reportsOf_setTask (place : pool.Between task before after) (changed : Task σ)
    (same_id : changed.id = task.id) (same_report : changed.job.report? = task.job.report?) :
    (reportsOf (pool.setTask changed).tasks).Perm (reportsOf pool.tasks) := by
  rw [place.tasks_setTask same_id, place.tasks_eq]
  refine (reportsOf_place _ _ _).trans ?_
  rw [same_report]
  exact (reportsOf_place _ _ _).symm

theorem Between.reportsOf_removeTask (place : pool.Between task before after) :
    (reportsOf pool.tasks).Perm
      (task.job.report?.toList ++ reportsOf (pool.removeTask task.id).tasks) := by
  rw [place.tasks_removeTask, place.tasks_eq]
  exact reportsOf_place _ _ _

theorem Between.reportsOf_acquire (place : pool.Between task before after) :
    (reportsOf (pool.acquire task).tasks).Perm (reportsOf pool.tasks) := by
  unfold acquire
  split
  · rename_i left _
    have moved : ({ pool with permits := left } : Pool σ).Between task before after :=
      ⟨place.tasks_eq, place.others⟩
    exact moved.reportsOf_setTask _ rfl rfl
  · exact place.reportsOf_setTask _ rfl rfl

/--
A task that is done takes its report with it, if it had one.  What is left is with the other
tasks.
-/
theorem Between.reportsOf_retire (place : pool.Between task before after) :
    (reportsOf pool.tasks).Perm
      (task.job.report?.toList ++ reportsOf (pool.retire task).tasks) := by
  cases job : task.job with
  | reportReply messageId code =>
      have retired : pool.retire task = pool.removeTask task.id := by simp only [retire, job]
      rw [retired, ← job]
      exact place.reportsOf_removeTask
  | invoke messageId device call =>
      have retired : pool.retire task = pool.advanceLane task device := by
        simp only [retire, job]
      rw [retired]
      unfold advanceLane
      split
      · rename_i next rest _
        have moved : (pool.setLane device rest).Between task before after :=
          ⟨place.tasks_eq, place.others⟩
        refine (moved.reportsOf_setTask
          ⟨task.id, .invoke next.messageId device next.call, .fresh⟩ rfl ?_).symm
        rw [job]
        rfl
      · have moved : ({ pool with
            lanes := pool.lanes.filter fun lane => lane.1 ≠ device } : Pool σ).Between
              task before after := ⟨place.tasks_eq, place.others⟩
        have removed := moved.reportsOf_removeTask
        rw [job] at removed
        exact removed

theorem reportsOf_enqueue (pool : Pool σ) (job : Job) :
    reportsOf (pool.enqueue job).tasks = reportsOf pool.tasks ++ job.report?.toList := by
  have spawned (pool : Pool σ) :
      reportsOf (pool.spawn job).tasks = reportsOf pool.tasks ++ job.report?.toList := by
    unfold reportsOf spawn
    rw [List.filterMap_append, List.filterMap_cons]
    cases job.report? <;> rfl
  unfold enqueue
  cases job with
  | reportReply messageId code => exact spawned pool
  | invoke messageId device call =>
      dsimp only
      split
      · exact (List.append_nil _).symm
      · exact spawned { pool with lanes := pool.lanes ++ [(device, [])] }

end

/--
Every report that was accepted has been made, or a task still has it to make.  The order may
differ, so it is said up to permutation.
-/
structure Relaying (past : List Happening) (pool : Pool σ) : Prop where
  accepted_perm : (acceptedReports past).Perm (endedReports past ++ reportsOf pool.tasks)
  begun_eq : begunReports past = endedReports past

namespace Relaying

variable {past shown : List Happening} {pool next : Pool σ}

theorem aside (relaying : pool.Relaying past)
    (aside : ∀ happening ∈ shown, happening.report? = none)
    (same : (reportsOf next.tasks).Perm (reportsOf pool.tasks)) :
    next.Relaying (past ++ shown) := by
  rcases reports_aside past aside with ⟨accepted, begun, ended⟩
  constructor
  · rw [accepted, ended]
    exact relaying.accepted_perm.trans (same.symm.append_left _)
  · rw [begun, ended]
    exact relaying.begun_eq

theorem accept (relaying : pool.Relaying past) {job : Job}
    (reports : reportsOf next.tasks = reportsOf pool.tasks ++ job.report?.toList) :
    next.Relaying (past ++ [.accepted job]) where
  accepted_perm := by
    have old := relaying.accepted_perm.append_right job.report?.toList
    unfold acceptedReports endedReports at old ⊢
    rw [Run.filterMap_concat, Run.filterMap_concat, reports]
    simpa [Happening.acceptedReport?, Happening.endedReport?] using old
  begun_eq := by
    have old := relaying.begun_eq
    unfold begunReports endedReports at old ⊢
    rw [Run.filterMap_concat, Run.filterMap_concat, old]
    rfl

/--
A task makes its report, from the beginning to the end.  It moves from those that are left
to those that are made.
-/
theorem tell (relaying : pool.Relaying past) {job : Job}
    (answer : Option (Int32 × Json.Members))
    (reports : (reportsOf pool.tasks).Perm (job.report?.toList ++ reportsOf next.tasks)) :
    next.Relaying (past ++ [.began job, .ended job answer]) where
  accepted_perm := by
    have old := relaying.accepted_perm.trans (reports.append_left _)
    rw [List.append_cons]
    unfold acceptedReports endedReports at old ⊢
    rw [Run.filterMap_concat, Run.filterMap_concat, Run.filterMap_concat, Run.filterMap_concat]
    simpa [Happening.acceptedReport?, Happening.endedReport?] using old
  begun_eq := by
    have old := relaying.begun_eq
    rw [List.append_cons]
    unfold begunReports endedReports at old ⊢
    rw [Run.filterMap_concat, Run.filterMap_concat, Run.filterMap_concat, Run.filterMap_concat, old]
    simp only [Happening.begunReport?, Happening.endedReport?, Option.toList_none, List.append_nil]

end Relaying

/--
No report is lost or made twice, whatever happens to the pool.  Only abandoning a task could
lose one.
-/
theorem Transition.relaying {permits : Nat} {blocked held : List Nat} {pool next : Pool σ}
    {shown past : List Happening} (transition : Transition pool blocked shown next held)
    (coherent : pool.Coherent permits blocked) (relaying : pool.Relaying past) :
    next.Relaying (past ++ shown) := by
  have silent : ∀ happening ∈ ([] : List Happening), happening.report? = none := by
    intro happening inside
    cases inside
  have of_call {task : Task σ} (isCall : task.job.device? ≠ none) :
      ∀ happening ∈ beginning task, happening.report? = none := by
    unfold beginning
    split
    · exact silent
    · simpa [Happening.report?, Happening.job?] using Job.report?_of_call isCall
  cases transition with
  | accept job _ submitted =>
      rw [(submit_ok submitted).2.2]
      exact relaying.accept (reportsOf_enqueue { pool with queued := pool.queued + 1 } job)
  | ask task found stage =>
      rcases coherent.exists_between found with ⟨before, after, place⟩
      have moved : (pool.leaveReady task.id).Between task before after :=
        ⟨place.tasks_eq, place.others⟩
      exact relaying.aside silent moved.reportsOf_acquire
  | arrive task gate rest found receives isCall =>
      rcases coherent.exists_between found with ⟨before, after, place⟩
      have moved : (pool.takeUp task).Between task before after :=
        ⟨(tasks_takeUp pool task).trans place.tasks_eq, place.others⟩
      have same := moved.reportsOf_setTask { task with stage := .atGate gate rest } rfl rfl
      rw [tasks_takeUp] at same
      exact relaying.aside (of_call isCall) same
  | pass task gate rest found stage =>
      rcases coherent.exists_between found with ⟨before, after, place⟩
      have moved : (pool.leaveReady task.id).Between task before after :=
        ⟨place.tasks_eq, place.others⟩
      exact relaying.aside silent (moved.reportsOf_setTask _ rfl rfl)
  | block task gate rest _ found stage waits =>
      rcases coherent.exists_between found with ⟨before, after, place⟩
      have moved : (pool.leaveReady task.id).Between task before after :=
        ⟨place.tasks_eq, place.others⟩
      exact relaying.aside silent (moved.reportsOf_setTask _ rfl rfl)
  | finish task answer found receives =>
      rcases coherent.exists_between found with ⟨before, after, place⟩
      have moved : (pool.takeUp task).Between task before after :=
        ⟨(tasks_takeUp pool task).trans place.tasks_eq, place.others⟩
      have left := moved.reportsOf_retire
      rw [tasks_takeUp, ← reportsOf_releasePermit ((pool.takeUp task).retire task)] at left
      cases isFor : task.job.device? with
      | none =>
          have unstarted := coherent.reports_direct task (mem_of_task? found).1 isFor
          rw [beginning, unstarted]
          exact relaying.tell answer left
      | some device =>
          have isCall : task.job.device? ≠ none := by simp [isFor]
          rw [Job.report?_of_call isCall] at left
          refine relaying.aside ?_ left.symm
          intro happening inside
          rcases List.mem_append.mp inside with begins | ends
          · exact of_call isCall happening begins
          · rw [List.mem_singleton.mp ends]
            exact Job.report?_of_call isCall
  | openGate served _ passed =>
      refine relaying.aside silent ?_
      rw [reportsOf_awaken]
  | close => exact relaying.aside silent (List.Perm.refl _)

end Pool
end DeviceLink
