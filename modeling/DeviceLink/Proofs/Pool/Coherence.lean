import DeviceLink.Proofs.Pool.Census

namespace DeviceLink

/-!
What the parts of a pool have to do with each other.  The counter of waiting jobs,
the lanes, the tasks, the permits and the ready queue are changed by different
operations; a pool is coherent if each of them says the same about the jobs in it.

The number of permits is a parameter, because a task that has ended is removed
before its permit is given back: in between there is one permit less.  The tasks
that are blocked at gates are another, since their queues are not in the pool.
All changes of one task are instances of three lemmas, one each for a task that
comes, one that changes, and one that goes.
-/

/-- The device that a job is for.  A report is for none. -/
def Job.device? : Job → Option Address
  | .invoke _ device _ => some device
  | .reportReply _ _ => none

namespace Pool

variable {σ : Type}

/-- The devices that have a task.  A device that has two would be in it twice. -/
def taskDevices (tasks : List (Task σ)) : List Address :=
  tasks.filterMap fun task => task.job.device?

structure Coherent (permits : Nat) (blocked : List Nat) (pool : Pool σ) : Prop where
  ids_nodup : (pool.tasks.map Task.id).Nodup
  ids_lt : ∀ task ∈ pool.tasks, task.id < pool.nextTask
  lanes_nodup : pool.laneDevices.Nodup
  /-- Each lane is worked off by one task.  So no device has more than one task. -/
  lanes_driven : pool.laneDevices.Perm (taskDevices pool.tasks)
  queued_eq : pool.queued = countWhere isUnstarted pool.tasks + pool.waitingCalls.length
  queued_le : pool.queued ≤ pool.queueLimit
  permits_eq : pool.permits.free + countWhere Stage.holdsPermit pool.tasks = permits
  waiters_perm : pool.permits.waiters.Perm (idsWhere Stage.isQueueing pool.tasks)
  /-- Nobody waits while a permit is free.  It would have been handed on. -/
  no_idle : pool.permits.waiters = [] ∨ pool.permits.free = 0
  ready_perm : pool.ready.Perm (idsWhere Stage.isReady pool.tasks)
  blocked_perm : blocked.Perm (idsWhere Stage.isSuspended pool.tasks)
  /--
  Telling the observer about a reply does not stop at gates.  So it never holds a permit for
  longer than its step.
  -/
  reports_direct : ∀ task ∈ pool.tasks, task.job.device? = none → task.stage.isRunning = false

theorem taskDevices_place (before after : List (Task σ)) (task : Task σ) :
    (taskDevices (before ++ task :: after)).Perm
      (task.job.device?.toList ++ taskDevices (before ++ after)) := by
  unfold taskDevices
  rw [List.filterMap_append, List.filterMap_append, List.filterMap_cons]
  cases task.job.device? with
  | none => exact List.Perm.refl _
  | some device => exact List.perm_middle

theorem coherent_new (options : Options) :
    (new options : Pool σ).Coherent options.workerCount [] where
  ids_nodup := List.nodup_nil
  ids_lt := by intro task member; cases member
  lanes_nodup := List.nodup_nil
  lanes_driven := List.Perm.nil
  queued_eq := rfl
  queued_le := Nat.zero_le _
  permits_eq := rfl
  waiters_perm := List.Perm.nil
  no_idle := Or.inl rfl
  ready_perm := List.Perm.nil
  blocked_perm := List.Perm.nil
  reports_direct := by intro task member; cases member

namespace Coherent

variable {permits left : Nat} {blocked held : List Nat} {pool next : Pool σ} {task : Task σ}
  {before after : List (Task σ)}

/--
One task changes its stage, and perhaps its job, but stays with its device.  What is counted
changes by what that task counts for.
-/
theorem change (coherent : pool.Coherent permits blocked) (place : pool.Between task before after)
    (changed : Task σ) (tasks_eq : next.tasks = before ++ changed :: after)
    (same_id : changed.id = task.id) (same_device : changed.job.device? = task.job.device?)
    (same_next : next.nextTask = pool.nextTask) (same_limit : next.queueLimit = pool.queueLimit)
    (same_lanes : next.laneDevices = pool.laneDevices)
    (queued_le : next.queued ≤ pool.queued)
    (queued : next.queued + (isUnstarted task.stage).toNat + pool.waitingCalls.length =
      pool.queued + (isUnstarted changed.stage).toNat + next.waitingCalls.length)
    (free : next.permits.free + changed.stage.holdsPermit.toNat + permits =
      pool.permits.free + task.stage.holdsPermit.toNat + left)
    (waiters : (next.permits.waiters ++ mark Stage.isQueueing task).Perm
      (pool.permits.waiters ++ mark Stage.isQueueing changed))
    (no_idle : next.permits.waiters = [] ∨ next.permits.free = 0)
    (ready : (next.ready ++ mark Stage.isReady task).Perm
      (pool.ready ++ mark Stage.isReady changed))
    (suspended : (held ++ mark Stage.isSuspended task).Perm
      (blocked ++ mark Stage.isSuspended changed))
    (direct : changed.job.device? = none → changed.stage.isRunning = false) :
    next.Coherent left held := by
  have moved (condition : Stage σ → Bool) {now was : List Nat}
      (marks : (now ++ mark condition task).Perm (was ++ mark condition changed))
      (old : was.Perm (idsWhere condition pool.tasks)) :
      now.Perm (idsWhere condition next.tasks) := by
    rw [place.tasks_eq] at old
    rw [tasks_eq]
    have placed := old.trans (idsWhere_place condition before after task)
    have all : (now ++ mark condition task).Perm
        (idsWhere condition (before ++ after) ++ mark condition changed ++
          mark condition task) := by
      refine marks.trans ((placed.append_right _).trans ?_)
      rw [List.append_assoc, List.append_assoc]
      exact List.Perm.append_left _ List.perm_append_comm
    exact ((List.perm_append_right_iff _).mp all).trans
      (idsWhere_place condition before after changed).symm
  have members : ∀ other ∈ next.tasks, other = changed ∨ other ∈ pool.tasks := by
    intro other member
    rw [tasks_eq] at member
    rw [place.tasks_eq]
    simp only [List.mem_append, List.mem_cons] at member ⊢
    rcases member with inside | same | inside
    · exact Or.inr (Or.inl inside)
    · exact Or.inl same
    · exact Or.inr (Or.inr (Or.inr inside))
  have present : task ∈ pool.tasks := by
    rw [place.tasks_eq]
    exact List.mem_append_right _ List.mem_cons_self
  have counted (condition : Stage σ → Bool) :
      countWhere condition next.tasks + (condition task.stage).toNat =
        countWhere condition pool.tasks + (condition changed.stage).toNat := by
    rw [tasks_eq, place.tasks_eq, countWhere_place, countWhere_place]
    omega
  refine
    { ids_nodup := ?_
      ids_lt := ?_
      lanes_nodup := same_lanes ▸ coherent.lanes_nodup
      lanes_driven := ?_
      queued_eq := ?_
      queued_le := same_limit ▸ Nat.le_trans queued_le coherent.queued_le
      permits_eq := ?_
      waiters_perm := moved _ waiters coherent.waiters_perm
      no_idle := no_idle
      ready_perm := moved _ ready coherent.ready_perm
      blocked_perm := moved _ suspended coherent.blocked_perm
      reports_direct := ?_ }
  · have ids := coherent.ids_nodup
    rw [place.tasks_eq, List.map_append, List.map_cons, ← same_id] at ids
    rwa [tasks_eq, List.map_append, List.map_cons]
  · intro other member
    rw [same_next]
    rcases members other member with same | old
    · rw [same, same_id]
      exact coherent.ids_lt task present
    · exact coherent.ids_lt other old
  · have driven := coherent.lanes_driven
    rw [place.tasks_eq] at driven
    rw [same_lanes, tasks_eq]
    refine (driven.trans (taskDevices_place before after task)).trans ?_
    rw [← same_device]
    exact (taskDevices_place before after changed).symm
  · have old := coherent.queued_eq
    have unstarted := counted isUnstarted
    omega
  · have old := coherent.permits_eq
    have holders := counted Stage.holdsPermit
    omega
  · intro other member report
    rcases members other member with same | old
    · rw [same] at report ⊢
      exact direct report
    · exact coherent.reports_direct other old report

/-- One task ends, and its lane with it, if it has one.  It has to hold no permit by then. -/
theorem leave (coherent : pool.Coherent permits blocked) (place : pool.Between task before after)
    (tasks_eq : next.tasks = before ++ after)
    (same_next : next.nextTask = pool.nextTask) (same_limit : next.queueLimit = pool.queueLimit)
    (lanes_nodup : next.laneDevices.Nodup)
    (lanes : pool.laneDevices.Perm (task.job.device?.toList ++ next.laneDevices))
    (queued_le : next.queued ≤ pool.queued)
    (queued : next.queued + (isUnstarted task.stage).toNat + pool.waitingCalls.length =
      pool.queued + next.waitingCalls.length)
    (free : next.permits.free + permits =
      pool.permits.free + task.stage.holdsPermit.toNat + left)
    (waiters : (next.permits.waiters ++ mark Stage.isQueueing task).Perm pool.permits.waiters)
    (no_idle : next.permits.waiters = [] ∨ next.permits.free = 0)
    (ready : (next.ready ++ mark Stage.isReady task).Perm pool.ready)
    (suspended : (held ++ mark Stage.isSuspended task).Perm blocked) :
    next.Coherent left held := by
  have moved (condition : Stage σ → Bool) {now was : List Nat}
      (marks : (now ++ mark condition task).Perm was)
      (old : was.Perm (idsWhere condition pool.tasks)) :
      now.Perm (idsWhere condition next.tasks) := by
    rw [place.tasks_eq] at old
    rw [tasks_eq]
    exact (List.perm_append_right_iff _).mp
      (marks.trans (old.trans (idsWhere_place condition before after task)))
  have members : ∀ other ∈ next.tasks, other ∈ pool.tasks := by
    intro other member
    rw [tasks_eq] at member
    rw [place.tasks_eq]
    simp only [List.mem_append, List.mem_cons] at member ⊢
    rcases member with inside | inside
    · exact Or.inl inside
    · exact Or.inr (Or.inr inside)
  have counted (condition : Stage σ → Bool) :
      countWhere condition next.tasks + (condition task.stage).toNat =
        countWhere condition pool.tasks := by
    rw [tasks_eq, place.tasks_eq, countWhere_place]
  refine
    { ids_nodup := ?_
      ids_lt := ?_
      lanes_nodup := lanes_nodup
      lanes_driven := ?_
      queued_eq := ?_
      queued_le := same_limit ▸ Nat.le_trans queued_le coherent.queued_le
      permits_eq := ?_
      waiters_perm := moved _ waiters coherent.waiters_perm
      no_idle := no_idle
      ready_perm := moved _ ready coherent.ready_perm
      blocked_perm := moved _ suspended coherent.blocked_perm
      reports_direct := ?_ }
  · have ids := coherent.ids_nodup
    rw [place.tasks_eq, List.map_append, List.map_cons, List.nodup_middle,
      ← List.map_append] at ids
    rw [tasks_eq]
    exact (List.nodup_cons.mp ids).2
  · intro other member
    rw [same_next]
    exact coherent.ids_lt other (members other member)
  · have driven := coherent.lanes_driven
    rw [place.tasks_eq] at driven
    rw [tasks_eq]
    exact (List.perm_append_left_iff _).mp
      (lanes.symm.trans (driven.trans (taskDevices_place before after task)))
  · have old := coherent.queued_eq
    have unstarted := counted isUnstarted
    omega
  · have old := coherent.permits_eq
    have holders := counted Stage.holdsPermit
    omega
  · intro other member
    exact coherent.reports_direct other (members other member)

/-- A task comes for a job that has just been accepted.  It has a number that no other task had. -/
theorem enter (coherent : pool.Coherent permits blocked) (job : Job)
    (tasks_eq : next.tasks = pool.tasks ++ [⟨pool.nextTask, job, .fresh⟩])
    (next_eq : next.nextTask = pool.nextTask + 1) (lanes_nodup : next.laneDevices.Nodup)
    (lanes : next.laneDevices.Perm (job.device?.toList ++ pool.laneDevices))
    (queued_le : next.queued ≤ next.queueLimit)
    (queued : next.queued + pool.waitingCalls.length = pool.queued + 1 + next.waitingCalls.length)
    (same_permits : next.permits = pool.permits)
    (ready_eq : next.ready = pool.ready ++ [pool.nextTask]) :
    next.Coherent permits blocked := by
  have kept (condition : Stage σ → Bool) (fresh : condition .fresh = false) :
      idsWhere condition next.tasks = idsWhere condition pool.tasks := by
    rw [tasks_eq, idsWhere, idsWhere, List.filter_append, List.filter_cons, fresh]
    simp
  have counted (condition : Stage σ → Bool) :
      countWhere condition next.tasks =
        countWhere condition pool.tasks + (condition .fresh).toNat := by
    rw [tasks_eq, countWhere_place, List.append_nil]
  refine
    { ids_nodup := ?_
      ids_lt := ?_
      lanes_nodup := lanes_nodup
      lanes_driven := ?_
      queued_eq := ?_
      queued_le := queued_le
      permits_eq := ?_
      waiters_perm := ?_
      no_idle := same_permits ▸ coherent.no_idle
      ready_perm := ?_
      blocked_perm := ?_
      reports_direct := ?_ }
  · rw [tasks_eq, List.map_append, List.map_cons, List.map_nil, List.nodup_append]
    refine ⟨coherent.ids_nodup, List.nodup_singleton _, ?_⟩
    intro id old id' new
    rcases List.mem_map.mp old with ⟨task, member, id_eq⟩
    have below := coherent.ids_lt task member
    have fresh : id' = pool.nextTask := List.mem_singleton.mp new
    omega
  · intro task member
    rw [tasks_eq, List.mem_append, List.mem_singleton] at member
    rw [next_eq]
    rcases member with old | new
    · exact Nat.lt_succ_of_lt (coherent.ids_lt task old)
    · rw [new]
      exact Nat.lt_succ_self _
  · rw [tasks_eq]
    refine lanes.trans ?_
    refine List.Perm.trans ?_ (taskDevices_place pool.tasks [] _).symm
    rw [List.append_nil]
    exact coherent.lanes_driven.append_left _
  · have old := coherent.queued_eq
    have unstarted : countWhere isUnstarted next.tasks = countWhere isUnstarted pool.tasks + 1 :=
      counted isUnstarted
    omega
  · rw [same_permits, counted]
    exact coherent.permits_eq
  · rw [same_permits, kept _ rfl]
    exact coherent.waiters_perm
  · rw [ready_eq, tasks_eq]
    refine List.Perm.trans ?_ (idsWhere_place _ pool.tasks [] _).symm
    rw [List.append_nil]
    exact coherent.ready_perm.append_right _
  · rw [kept _ rfl]
    exact coherent.blocked_perm
  · intro task member report
    rw [tasks_eq, List.mem_append, List.mem_singleton] at member
    rcases member with old | new
    · exact coherent.reports_direct task old report
    · rw [new]
      rfl

/--
A task whose stage satisfies a condition is found by it.  With none found, no stage
satisfies it.
-/
theorem fails_of_nil {condition : Stage σ → Bool} (nobody : idsWhere condition pool.tasks = []) :
    ∀ task ∈ pool.tasks, condition task.stage = false := by
  intro task member
  cases holds : condition task.stage with
  | false => rfl
  | true =>
      have found : task.id ∈ idsWhere condition pool.tasks :=
        (mem_idsWhere condition).mpr ⟨task, member, holds, rfl⟩
      rw [nobody] at found
      cases found

/--
When nobody can go on and nobody waits at a gate, nothing is left to do.  Whoever waits for
a permit waits for one that somebody holds.
-/
theorem tasks_eq_nil (coherent : pool.Coherent permits []) (working : 0 < permits)
    (idle : pool.ready = []) : pool.tasks = [] := by
  have not_ready := fails_of_nil (List.perm_nil.mp (idle ▸ coherent.ready_perm).symm)
  have not_suspended := fails_of_nil (List.perm_nil.mp coherent.blocked_perm.symm)
  have all_queueing : ∀ task ∈ pool.tasks, task.stage = .queueing := by
    intro task member
    exact Stage.eq_queueing (not_ready task member) (not_suspended task member)
  have holders : countWhere Stage.holdsPermit pool.tasks = 0 := by
    apply List.countP_eq_zero.mpr
    intro task member
    rw [all_queueing task member]
    exact Bool.false_ne_true
  have total := coherent.permits_eq
  have nobody_waits : pool.permits.waiters = [] := by
    rcases coherent.no_idle with nobody | none_free
    · exact nobody
    · omega
  have not_queueing := fails_of_nil (List.perm_nil.mp (nobody_waits ▸ coherent.waiters_perm).symm)
  apply List.eq_nil_iff_forall_not_mem.mpr
  intro task member
  have queueing := not_queueing task member
  rw [all_queueing task member] at queueing
  cases queueing

end Coherent
end Pool
end DeviceLink
