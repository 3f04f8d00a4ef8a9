import DeviceLink.Proofs.Pool.Transition
import Mathlib.Data.List.Perm.Subperm

namespace DeviceLink
namespace Pool

variable {σ : Type}

/-!
Who gets a permit first.  A task that asks for a permit and finds none joins a queue,
and a permit that comes back goes to whoever is at its head.  So a task that joins the
queue later, or has not asked at all, cannot get a permit before those who are in it.
What is followed here is one waiting task and one that comes behind it, through every
kind of change of the pool.  Nothing is said about the order in which tasks that have
permits take their steps.  `Behind` is the relation between the two.
-/

/-! ## Looking up a task -/

section

variable (pool : Pool σ)

theorem task?_setTask (changed : Task σ) (id : Nat) :
    (pool.setTask changed).task? id =
      if id = changed.id then (pool.task? id).map fun _ => changed else pool.task? id := by
  have same_key : ((fun task : Task σ => decide (task.id = id)) ∘
      fun task => if task.id = changed.id then changed else task) =
        fun task => decide (task.id = id) := by
    funext task
    by_cases same : task.id = changed.id <;> simp [same]
  unfold task? setTask
  rw [List.find?_map, same_key]
  cases found : pool.tasks.find? fun task => decide (task.id = id) with
  | none => split <;> rfl
  | some task =>
      have key : task.id = id := by simpa using List.find?_some found
      rw [Option.map_some, key]
      split <;> rfl

theorem task?_awaken (ids : List Nat) (change : Stage σ → Stage σ) (id : Nat) :
    (pool.awaken ids change).task? id =
      if ids.contains id then
        (pool.task? id).map fun task => { task with stage := change task.stage }
      else pool.task? id := by
  have same_key : ((fun task : Task σ => decide (task.id = id)) ∘ fun task =>
      if ids.contains task.id then { task with stage := change task.stage } else task) =
        fun task => decide (task.id = id) := by
    funext task
    rw [Function.comp_apply]
    split <;> rfl
  unfold task? awaken
  rw [List.find?_map, same_key]
  cases found : pool.tasks.find? fun task => decide (task.id = id) with
  | none => split <;> rfl
  | some task =>
      have key : task.id = id := by simpa using List.find?_some found
      subst key
      rw [Option.map_some]
      split <;> rfl

theorem task?_removeTask {gone id : Nat} (apart : id ≠ gone) :
    (pool.removeTask gone).task? id = pool.task? id := by
  unfold task? removeTask
  rw [List.find?_filter]
  congr 1
  funext task
  by_cases same : task.id = id
  · simp [same, apart]
  · simp [same]

theorem task?_spawn (job : Job) {id : Nat} (old : id ≠ pool.nextTask) :
    (pool.spawn job).task? id = pool.task? id := by
  unfold task? spawn
  rw [List.find?_append, List.find?_cons_of_neg (by simpa using old.symm), List.find?_nil,
    Option.or_none]

theorem task?_enqueue (job : Job) {id : Nat} (old : id ≠ pool.nextTask) :
    (pool.enqueue job).task? id = pool.task? id := by
  unfold enqueue
  cases job with
  | reportReply messageId code => exact task?_spawn pool _ old
  | invoke messageId device call =>
      dsimp only
      split
      · rfl
      · exact task?_spawn { pool with lanes := pool.lanes ++ [(device, [])] } _ old

theorem task?_proceed (changed : Task σ) {id : Nat} (apart : id ≠ changed.id) :
    (pool.proceed changed).task? id = pool.task? id :=
  (task?_setTask pool changed id).trans (if_neg apart)

theorem task?_acquire (task : Task σ) {id : Nat} (apart : id ≠ task.id) :
    (pool.acquire task).task? id = pool.task? id := by
  unfold acquire
  split
  · rename_i left _
    exact task?_proceed { pool with permits := left } { task with stage := .granted } apart
  · exact (task?_setTask pool { task with stage := .queueing } id).trans (if_neg apart)

theorem task?_takeUp (task : Task σ) (id : Nat) : (pool.takeUp task).task? id = pool.task? id := by
  rw [task?, task?, tasks_takeUp]

theorem task?_retire (task : Task σ) {id : Nat} (apart : id ≠ task.id) :
    (pool.retire task).task? id = pool.task? id := by
  unfold retire advanceLane
  split
  · split
    · exact task?_proceed (pool.setLane _ _) _ apart
    · exact task?_removeTask { pool with lanes := pool.lanes.filter fun lane => lane.1 ≠ _ } apart
  · exact task?_removeTask pool apart

theorem permits_retire (task : Task σ) : (pool.retire task).permits = pool.permits := by
  unfold retire advanceLane
  split
  · split <;> rfl
  · rfl

theorem permits_enqueue (job : Job) : (pool.enqueue job).permits = pool.permits := by
  unfold enqueue
  split
  · rfl
  · split <;> rfl

end

/-! ## Tasks without a permit -/

/--
What becomes of a task that has no permit.  It can stay as it is, join the queue or take
a free permit, or a permit is handed to it.
-/
inductive Fate (pool next : Pool σ) (task : Task σ) : Prop
  | stays (found : next.task? task.id = some task)
  | joins (stage : task.stage = .fresh)
      (found : next.task? task.id = some { task with stage := .queueing })
      (waiters : next.permits.waiters = pool.permits.waiters ++ [task.id])
  | takes (stage : task.stage = .fresh) (nobody : pool.permits.waiters = [])
  | served (found : next.task? task.id = some { task with stage := .granted })
      (waiters : pool.permits.waiters = task.id :: next.permits.waiters)

section

variable {permits : Nat} {blocked held : List Nat} {pool next : Pool σ} {shown : List Happening}
  {task : Task σ}

theorem Fate.releasePermit (found : pool.task? task.id = some task) :
    Fate pool pool.releasePermit task := by
  cases waiters : pool.permits.waiters with
  | nil =>
      rw [releasePermit_of_nobody pool waiters]
      exact .stays found
  | cons first others =>
      rw [releasePermit_of_first pool waiters]
      have looked := task?_awaken { pool with permits := ⟨pool.permits.free, others⟩ } [first]
        (fun _ => .granted) task.id
      by_cases is_first : task.id = first
      · refine .served (looked.trans ?_) (by rw [waiters, is_first]; rfl)
        rw [if_pos (by simp [is_first])]
        exact congrArg _ found
      · refine .stays (looked.trans ?_)
        rw [if_neg (by simpa using is_first)]
        exact found

/--
A task gets a permit only when it is free or when it is the first that waits.  Nothing else
that happens to a pool hands one out.
-/
theorem Transition.fate (transition : Transition pool blocked shown next held)
    (coherent : pool.Coherent permits blocked) (found : pool.task? task.id = some task)
    (without : task.stage.holdsPermit = false) : Fate pool next task := by
  have apart {other : Task σ} (present : pool.task? other.id = some other)
      (holds : other.stage.holdsPermit = true) : task.id ≠ other.id := by
    intro same
    rw [same, present] at found
    cases found
    rw [without] at holds
    cases holds
  cases transition with
  | accept job _ submitted =>
      have old := Nat.ne_of_lt (coherent.ids_lt task (mem_of_task? found).1)
      rw [(submit_ok submitted).2.2]
      exact .stays ((task?_enqueue { pool with queued := pool.queued + 1 } job old).trans found)
  | ask asking present stage =>
      by_cases same : task.id = asking.id
      · rw [same, present] at found
        cases found
        cases free : pool.permits.free with
        | zero =>
            rw [acquire_of_none (pool.leaveReady task.id) task free]
            refine .joins stage ?_ rfl
            refine (task?_setTask (pool.leaveReady task.id) { task with stage := .queueing }
              task.id).trans ?_
            rw [if_pos rfl]
            exact congrArg _ present
        | succ rest =>
            refine .takes stage ?_
            rcases coherent.no_idle with nobody | none_free
            · exact nobody
            · omega
      · exact .stays ((task?_acquire (pool.leaveReady asking.id) asking same).trans found)
  | arrive other gate rest present receives isCall =>
      have elsewhere := apart present (Coherent.stages_of_receives receives).2.1
      refine .stays ?_
      rw [task?_proceed, task?_takeUp]
      · exact found
      · exact elsewhere
  | pass other gate rest present stage =>
      have elsewhere := apart present (by rw [stage]; rfl)
      refine .stays ?_
      rw [task?_proceed]
      · exact found
      · exact elsewhere
  | block other gate rest _ present stage waits =>
      have elsewhere := apart present (by rw [stage]; rfl)
      refine .stays ?_
      rw [task?_setTask, if_neg]
      · exact found
      · exact elsewhere
  | finish other answer present receives =>
      have elsewhere := apart present (Coherent.stages_of_receives receives).2.1
      have left : ((pool.takeUp other).retire other).task? task.id = some task := by
        rw [task?_retire _ _ elsewhere, task?_takeUp]
        exact found
      have same_waiters : ((pool.takeUp other).retire other).permits = pool.permits := by
        rw [permits_retire, permits_takeUp]
      cases Fate.releasePermit left with
      | stays found => exact .stays found
      | joins stage found waiters => exact .joins stage found (same_waiters ▸ waiters)
      | takes stage nobody => exact .takes stage (same_waiters ▸ nobody)
      | served found waiters => exact .served found (same_waiters ▸ waiters)
  | openGate served _ passed =>
      refine .stays ((task?_awaken pool served Stage.resume task.id).trans ?_)
      have unmoved : task.stage.resume = task.stage := by
        cases stage : task.stage <;> first | rfl | (rw [stage] at without; cases without)
      rw [found, Option.map_some, unmoved, ite_self]
  | close => exact .stays found

/--
The queue for permits is a queue.  Whoever joins it joins at the end, and whoever leaves it
leaves from the front.
-/
theorem Transition.waiters (transition : Transition pool blocked shown next held) :
    next.permits.waiters = pool.permits.waiters ∨
      (∃ last, next.permits.waiters = pool.permits.waiters ++ [last]) ∨
      ∃ first, pool.permits.waiters = first :: next.permits.waiters := by
  cases transition with
  | accept job _ submitted =>
      rw [(submit_ok submitted).2.2, permits_enqueue]
      exact Or.inl rfl
  | ask asking present stage =>
      cases free : pool.permits.free with
      | zero =>
          rw [acquire_of_none (pool.leaveReady asking.id) asking free]
          exact Or.inr (Or.inl ⟨asking.id, rfl⟩)
      | succ rest =>
          rw [acquire_of_free (pool.leaveReady asking.id) asking free]
          exact Or.inl rfl
  | arrive other gate rest present receives isCall =>
      exact Or.inl (congrArg Semaphore.waiters (permits_takeUp pool other))
  | finish other answer present receives =>
      have same : ((pool.takeUp other).retire other).permits = pool.permits := by
        rw [permits_retire, permits_takeUp]
      generalize (pool.takeUp other).retire other = left at same ⊢
      cases waiters : left.permits.waiters with
      | nil =>
          rw [releasePermit_of_nobody left waiters, ← same, waiters]
          exact Or.inl rfl
      | cons first others =>
          rw [releasePermit_of_first left waiters, ← same, waiters]
          exact Or.inr (Or.inr ⟨first, rfl⟩)
  | pass | block | openGate | close => exact Or.inl rfl

theorem idsWhere_nodup (distinct : (pool.tasks.map Task.id).Nodup) (condition : Stage σ → Bool) :
    (idsWhere condition pool.tasks).Nodup :=
  distinct.sublist (List.filter_sublist.map Task.id)

namespace Coherent

/-- The stage of a task decides in which of the queues it is.  Queue and stage cannot disagree. -/
theorem mem_idsWhere_iff (coherent : pool.Coherent permits blocked) {id : Nat}
    (found : pool.task? id = some task) (condition : Stage σ → Bool) :
    id ∈ idsWhere condition pool.tasks ↔ condition task.stage = true := by
  rcases mem_of_task? found with ⟨member, rfl⟩
  rw [mem_idsWhere]
  constructor
  · rintro ⟨other, inside, holds, same⟩
    rcases Pool.exists_between coherent.ids_nodup inside with ⟨before, after, place⟩
    have looked := place.task?_eq
    rw [same, found] at looked
    cases looked
    exact holds
  · intro holds
    exact ⟨task, member, holds, rfl⟩

theorem mem_ready_iff (coherent : pool.Coherent permits blocked) {id : Nat}
    (found : pool.task? id = some task) : id ∈ pool.ready ↔ task.stage.isReady = true :=
  coherent.ready_perm.mem_iff.trans (coherent.mem_idsWhere_iff found _)

theorem mem_waiters_iff (coherent : pool.Coherent permits blocked) {id : Nat}
    (found : pool.task? id = some task) : id ∈ pool.permits.waiters ↔ task.stage = .queueing := by
  rw [coherent.waiters_perm.mem_iff, coherent.mem_idsWhere_iff found]
  cases task.stage <;> simp [Stage.isQueueing]

theorem waiters_nodup (coherent : pool.Coherent permits blocked) : pool.permits.waiters.Nodup :=
  coherent.waiters_perm.nodup_iff.mpr (idsWhere_nodup coherent.ids_nodup _)

/--
There are never more tasks with permits than there are permits.  That bounds how many can
come before somebody else.
-/
theorem length_le_of_holders (coherent : pool.Coherent permits blocked) {ids : List Nat}
    (distinct : ids.Nodup) (hold : ids ⊆ idsWhere Stage.holdsPermit pool.tasks) :
    ids.length ≤ permits := by
  have few := (distinct.subperm hold).length_le
  have total := coherent.permits_eq
  rw [length_idsWhere] at few
  omega

/-- While somebody waits, no permit is free.  So whoever asks then has to wait as well. -/
theorem free_eq_zero (coherent : pool.Coherent permits blocked) {id : Nat}
    (waits : id ∈ pool.permits.waiters) : pool.permits.free = 0 := by
  rcases coherent.no_idle with nobody | none_free
  · rw [nobody] at waits
    cases waits
  · exact none_free

end Coherent

/-! ## Waiting behind somebody -/

/--
The task has asked for a permit in vain and is in the queue for the next one.  It is a task
of the pool, and its number is in that queue.
-/
structure Waits (pool : Pool σ) (task : Task σ) : Prop where
  found : pool.task? task.id = some task
  queued : task.id ∈ pool.permits.waiters

/--
The first waits for a permit, and the second can only get one after it.  It stands in front
of the other, or the other has not asked yet.
-/
structure Behind (pool : Pool σ) (first : Task σ) (second : Nat) : Prop where
  apart : second ≠ first.id
  queueing : first.stage = .queueing
  waits : pool.task? first.id = some first
  behind : ∃ task, pool.task? second = some task ∧
    (task.stage = .fresh ∨
      task.stage = .queueing ∧ [first.id, second].Sublist pool.permits.waiters)

/--
The first has got its permit, and the second has none.  That is what having been behind
comes to in the end.
-/
structure Preferred (pool : Pool σ) (first : Task σ) (second : Nat) : Prop where
  granted : pool.task? first.id = some { first with stage := .granted }
  without : ∃ task, pool.task? second = some task ∧ task.stage.holdsPermit = false

/--
Two that are in a list without repetitions in one order are not in it in the other one.  It
tells the order of a queue from one of its heads.
-/
theorem not_sublist_of_head {first second : Nat} {rest : List Nat} (apart : second ≠ first)
    (distinct : (second :: rest).Nodup) : ¬ [first, second].Sublist (second :: rest) := by
  intro order
  rcases List.sublist_cons_iff.mp order with inside | ⟨tail, same, -⟩
  · exact (List.nodup_cons.mp distinct).1 (inside.subset (by simp))
  · cases same
    exact apart rfl

/--
Whoever waits behind somebody goes on waiting at least until that one has its permit.  No
transition of a pool lets it pass.
-/
theorem Transition.behind (transition : Transition pool blocked shown next held)
    (coherent : pool.Coherent permits blocked) {first : Task σ} {second : Nat}
    (behind : pool.Behind first second) :
    next.Behind first second ∨ next.Preferred first second := by
  have first_waits := (coherent.mem_waiters_iff behind.waits).mpr behind.queueing
  rcases behind.behind with ⟨task, found, place⟩
  have number := (mem_of_task? found).2
  subst number
  have without : task.stage.holdsPermit = false := by
    rcases place with stage | ⟨stage, -⟩ <;> rw [stage] <;> rfl
  cases transition.fate coherent behind.waits (by rw [behind.queueing]; rfl) with
  | joins stage => rw [behind.queueing] at stage; cases stage
  | takes stage => rw [behind.queueing] at stage; cases stage
  | served granted waiters =>
      refine Or.inr ⟨granted, ?_⟩
      cases transition.fate coherent found without with
      | stays found => exact ⟨task, found, without⟩
      | joins _ found _ => exact ⟨_, found, rfl⟩
      | takes _ nobody =>
          rw [nobody] at first_waits
          cases first_waits
      | served _ others =>
          rw [others] at waiters
          exact absurd (List.cons.inj waiters).1 behind.apart
  | stays waits =>
      refine Or.inl ⟨behind.apart, behind.queueing, waits, ?_⟩
      cases transition.fate coherent found without with
      | joins _ found waiters =>
          refine ⟨_, found, Or.inr ⟨rfl, ?_⟩⟩
          rw [waiters]
          exact (List.singleton_sublist.mpr first_waits).append (List.Sublist.refl [task.id])
      | takes _ nobody =>
          rw [nobody] at first_waits
          cases first_waits
      | served _ waiters =>
          have distinct := coherent.waiters_nodup
          have second_waits := (coherent.mem_waiters_iff found).mp (waiters ▸ List.mem_cons_self)
          rcases place with stage | ⟨-, order⟩
          · rw [second_waits] at stage
            cases stage
          · rw [waiters] at order distinct
            exact absurd order (not_sublist_of_head behind.apart distinct)
      | stays found =>
          refine ⟨task, found, ?_⟩
          rcases place with stage | ⟨stage, order⟩
          · exact Or.inl stage
          · refine Or.inr ⟨stage, ?_⟩
            rcases transition.waiters with same | ⟨last, longer⟩ | ⟨head, shorter⟩
            · rw [same]
              exact order
            · rw [longer]
              exact order.trans (List.sublist_append_left _ _)
            · have distinct := coherent.waiters_nodup
              have still := ((transition.coherent coherent).mem_waiters_iff waits).mpr
                behind.queueing
              rw [shorter] at order distinct
              rcases List.sublist_cons_iff.mp order with inside | ⟨rest, same, -⟩
              · exact inside
              · cases same
                exact absurd still (List.nodup_cons.mp distinct).1

end

/-! ## A lane that goes on -/

section

variable {permits : Nat} {blocked : List Nat} {pool : Pool σ} {task : Task σ}

/--
A task that is done with a call and goes on with another one has not asked for a permit for
it.  It has to ask for it in a step of its own.
-/
theorem fresh_of_retire (coherent : pool.Coherent permits blocked)
    (found : pool.task? task.id = some task)
    (more : (((pool.takeUp task).retire task).task? task.id).isSome = true) :
    ∃ next, ((pool.takeUp task).retire task).task? task.id = some next ∧ next.stage = .fresh := by
  have gone {left : Pool σ} (removed : (pool.takeUp task).retire task = left.removeTask task.id) :
      False := by
    rw [removed] at more
    rcases Option.isSome_iff_exists.mp more with ⟨still, looked⟩
    rcases mem_of_task? looked with ⟨member, number⟩
    exact of_decide_eq_true (List.mem_filter.mp member).2 number
  cases isFor : task.job.device? with
  | none => exact absurd (retire_of_report _ _ isFor) gone
  | some device =>
      rcases coherent.exists_lane (mem_of_task? found).1 isFor with ⟨waiting, lane⟩
      have lane_eq : (pool.takeUp task).lane? device = some waiting := by
        rw [← lane, lane?, lane?, lanes_takeUp]
      cases waiting with
      | nil => exact absurd (retire_of_last _ _ isFor lane_eq) gone
      | cons next rest =>
          rw [retire_of_next _ _ isFor lane_eq]
          have looked := task?_setTask ((pool.takeUp task).setLane device rest)
            ⟨task.id, .invoke next.messageId device next.call, .fresh⟩ task.id
          have present : ((pool.takeUp task).setLane device rest).task? task.id = some task :=
            (task?_takeUp pool task task.id).trans found
          rw [if_pos rfl, present] at looked
          exact ⟨_, looked, rfl⟩

/--
The same once it has given back the permit of the call that ended.  That permit goes to
somebody in the queue, and the task itself is not in the queue.  Whoever was in the queue at
that moment is before it from then on.
-/
theorem fresh_of_finish (coherent : pool.Coherent permits blocked)
    (found : pool.task? task.id = some task) (receives : task.stage.receives = true)
    (more : ((((pool.takeUp task).retire task).releasePermit).task? task.id).isSome = true) :
    ∃ next, (((pool.takeUp task).retire task).releasePermit).task? task.id = some next ∧
      next.stage = .fresh := by
  have same : ((pool.takeUp task).retire task).permits = pool.permits := by
    rw [permits_retire, permits_takeUp]
  have fresh := fresh_of_retire coherent found
  generalize (pool.takeUp task).retire task = left at same fresh more ⊢
  cases waiters : pool.permits.waiters with
  | nil =>
      rw [releasePermit_of_nobody left (by rw [same, waiters])] at more ⊢
      exact fresh more
  | cons first others =>
      have apart : ¬ [first].contains task.id = true := by
        have stage := coherent.mem_waiters_iff found
        rw [waiters] at stage
        intro inside
        have is_first : task.id = first := by simpa using inside
        rw [stage.mp (is_first ▸ List.mem_cons_self)] at receives
        cases receives
      rw [releasePermit_of_first left (by rw [same, waiters])] at more ⊢
      rw [task?_awaken, if_neg apart] at more
      rw [task?_awaken, if_neg apart]
      exact fresh more

end

end Pool
end DeviceLink
