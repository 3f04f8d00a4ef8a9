import DeviceLink.Proofs.Pool.Transition

namespace DeviceLink
namespace Pool

variable {σ : Type}

/-!
A pool that winds down.  Its tasks change and go, and no task comes to it; whatever does
not submit a job leaves a pool like this.  Tasks that are abandoned go at once.  `Winds`
relates a pool to one that it may become in this way.  The numbers of its tasks are
among those that were there before, and so a drain that waits for all tasks of a pool
waits for all that there will ever be.
-/

def taskIds (pool : Pool σ) : List Nat := pool.tasks.map Task.id

theorem anyAlive_eq_false_iff (pool : Pool σ) (ids : List Nat) :
    pool.anyAlive ids = false ↔ ∀ id ∈ pool.taskIds, id ∉ ids := by
  simp [anyAlive, taskIds]

/--
The pool is as open as it was, and has no task that it did not have.  Tasks may have gone,
and those that are left may have changed.
-/
structure Winds (pool next : Pool σ) : Prop where
  closed_eq : next.closed = pool.closed
  ids : next.taskIds ⊆ pool.taskIds

namespace Winds

variable {pool next last : Pool σ}

theorem of_tasks_eq (closed_eq : next.closed = pool.closed) (tasks_eq : next.tasks = pool.tasks) :
    Winds pool next where
  closed_eq := closed_eq
  ids := by
    rw [taskIds, tasks_eq]
    exact List.Subset.refl _

theorem refl (pool : Pool σ) : Winds pool pool := of_tasks_eq rfl rfl

theorem trans (first : Winds pool next) (second : Winds next last) : Winds pool last where
  closed_eq := second.closed_eq.trans first.closed_eq
  ids := List.Subset.trans second.ids first.ids

/-- Tasks that change keep their numbers.  So none has come. -/
theorem of_map {change : Task σ → Task σ} (closed_eq : next.closed = pool.closed)
    (tasks_eq : next.tasks = pool.tasks.map change)
    (keeps : ∀ task : Task σ, (change task).id = task.id) : Winds pool next where
  closed_eq := closed_eq
  ids := by
    have same : pool.tasks.map (Task.id ∘ change) = pool.taskIds :=
      List.map_congr_left fun task _ => keeps task
    rw [taskIds, tasks_eq, List.map_map, same]
    exact List.Subset.refl _

theorem setTask (pool : Pool σ) (task : Task σ) : Winds pool (pool.setTask task) := by
  refine of_map rfl rfl fun other => ?_
  split
  · rename_i same
    exact same.symm
  · rfl

theorem proceed (pool : Pool σ) (task : Task σ) : Winds pool (pool.proceed task) :=
  (setTask pool task).trans (of_tasks_eq rfl rfl)

theorem awaken (pool : Pool σ) (ids : List Nat) (change : Stage σ → Stage σ) :
    Winds pool (pool.awaken ids change) := by
  refine of_map rfl rfl fun task => ?_
  split <;> rfl

theorem removeTask (pool : Pool σ) (id : Nat) : Winds pool (pool.removeTask id) where
  closed_eq := rfl
  ids := (List.filter_sublist.map Task.id).subset

theorem releasePermit (pool : Pool σ) : Winds pool pool.releasePermit := by
  have given : Winds pool { pool with permits := (pool.permits.release 1).1 } :=
    of_tasks_eq rfl rfl
  exact given.trans (awaken _ (pool.permits.release 1).2 fun _ => .granted)

theorem acquire (pool : Pool σ) (task : Task σ) : Winds pool (pool.acquire task) := by
  unfold Pool.acquire
  split
  · rename_i left _
    have taken : Winds pool { pool with permits := left } := of_tasks_eq rfl rfl
    exact taken.trans (proceed _ _)
  · exact (setTask pool _).trans (of_tasks_eq rfl rfl)

theorem retire (pool : Pool σ) (task : Task σ) : Winds pool (pool.retire task) := by
  unfold Pool.retire advanceLane
  split
  · rename_i device _ _
    split
    · rename_i rest _
      have taken : Winds pool (pool.setLane device rest) := of_tasks_eq rfl rfl
      exact taken.trans (proceed _ _)
    · have without : Winds pool
          { pool with lanes := pool.lanes.filter fun lane => lane.1 ≠ device } :=
        of_tasks_eq rfl rfl
      exact without.trans (removeTask _ _)
  · exact removeTask pool _

/--
A task that is abandoned goes, and so does its permit.  Another task may get that permit,
and goes on with it.
-/
theorem abandon (pool : Pool σ) (id : Nat) : Winds (pool.removeTask id) (pool.abortOne id) := by
  unfold Pool.abortOne
  split
  · rename_i absent
    refine of_tasks_eq rfl (List.filter_eq_self.mpr fun task inside => ?_).symm
    simpa using List.find?_eq_none.mp absent task inside
  · have gone : Winds (pool.removeTask id) { pool.removeTask id with
        permits := pool.permits.forget id
        ready := pool.ready.filter fun other => other ≠ id } := of_tasks_eq rfl rfl
    dsimp only
    split
    · exact gone.trans (releasePermit _)
    · exact gone

theorem abort (pool : Pool σ) (ids : List Nat) : Winds pool (pool.abort ids) := by
  induction ids generalizing pool with
  | nil => exact refl pool
  | cons id rest ih => exact ((removeTask pool id).trans (abandon pool id)).trans (ih _)

theorem tasks_eq_nil (winds : Winds pool next) (idle : pool.tasks = []) : next.tasks = [] := by
  have ids := winds.ids
  rw [taskIds, taskIds, idle, List.map_nil, List.subset_nil, List.map_eq_nil_iff] at ids
  exact ids

end Winds

/-! ## Abandoned tasks -/

theorem notMem_taskIds_abortOne (pool : Pool σ) (id : Nat) : id ∉ (pool.abortOne id).taskIds := by
  have removed : id ∉ (pool.removeTask id).taskIds := by simp [taskIds, removeTask]
  exact fun inside => removed ((Winds.abandon pool id).ids inside)

theorem notMem_taskIds_abort (pool : Pool σ) {ids : List Nat} {id : Nat} (abandoned : id ∈ ids) :
    id ∉ (pool.abort ids).taskIds := by
  induction ids generalizing pool with
  | nil => cases abandoned
  | cons first rest ih =>
      rcases List.mem_cons.mp abandoned with rfl | later
      · exact fun inside => notMem_taskIds_abortOne pool id ((Winds.abort _ rest).ids inside)
      · exact ih (pool.abortOne first) later

/-- When all tasks are abandoned none is left.  It does not matter in which order that is done. -/
theorem tasks_abort_eq_nil (pool : Pool σ) {ids : List Nat} (all : pool.taskIds ⊆ ids) :
    (pool.abort ids).tasks = [] := by
  rw [List.eq_nil_iff_forall_not_mem]
  intro task inside
  have listed : task.id ∈ (pool.abort ids).taskIds := List.mem_map_of_mem inside
  exact notMem_taskIds_abort pool (all ((Winds.abort pool ids).ids listed)) listed

/-- Abandoning tasks that have ended does nothing.  There is nothing left to take away. -/
theorem abort_of_ended {pool : Pool σ} (ended : pool.tasks = []) (ids : List Nat) :
    pool.abort ids = pool := by
  have each (id : Nat) : pool.abortOne id = pool := by
    simp only [abortOne, task?, ended, List.find?_nil]
  induction ids with
  | nil => rfl
  | cons id rest ih =>
      rw [abort] at ih ⊢
      rw [List.foldl_cons, each, ih]

end Pool
end DeviceLink
