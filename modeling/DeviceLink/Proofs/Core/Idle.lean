import DeviceLink.Proofs.Core.Sealed

namespace DeviceLink
namespace Core

variable {σ : Type}

/-!
A core that has been shut down and whose tasks are all gone.  No device code runs in it
and none can be started, so nothing is ever put into its log again.  That is the state
which a shutdown leads to, at the latest when its time has run out.  `Idle` describes it
and `Rests` says what stays the same from then on.  Lanes may be left behind by tasks
that were abandoned, so devices may still be listed as busy; nothing of the core will
ever look at them again.
-/

structure Idle (core : Core σ) : Prop extends core.Sealed where
  tasks_eq : core.pool.tasks = []

/-- When all tasks are abandoned no task is left.  A core that has been sealed starts no new one. -/
theorem Sealed.idle_abortTasks {core : Core σ} (shut : core.Sealed) {tasks : List Nat}
    (all : core.pool.taskIds ⊆ tasks) : (core.abortTasks tasks).Idle where
  toSealed := shut.still (still_abortTasks core tasks)
  tasks_eq := Pool.tasks_abort_eq_nil core.pool all

/--
Without tasks no device has a lane.  Lanes are worked off by tasks, unless these have been
abandoned.
-/
theorem Accounted.lanes_eq_nil {setup : Setup σ} {past : List Happening} {core : Core σ}
    (accounted : Accounted setup past core) (ended : core.pool.tasks = []) :
    core.pool.lanes = [] := by
  have driven := accounted.coherent.lanes_driven
  rw [ended] at driven
  exact List.map_eq_nil_iff.mp (List.perm_nil.mp driven)

/-- Nothing has happened, as far as the log and the lanes tell. -/
structure Rests (core next : Core σ) : Prop where
  log_eq : next.log = core.log
  lanes_eq : next.pool.lanes = core.pool.lanes

namespace Rests

variable {core next last : Core σ}

theorem refl (core : Core σ) : Rests core core := ⟨rfl, rfl⟩

theorem trans (first : Rests core next) (second : Rests next last) : Rests core last where
  log_eq := second.log_eq.trans first.log_eq
  lanes_eq := second.lanes_eq.trans first.lanes_eq

theorem onNewestQueue (core : Core σ) (change : Outlet → List String × Outlet) :
    Rests core (core.onNewestQueue change).2 := by
  unfold Core.onNewestQueue
  split
  · exact refl core
  · dsimp only
    split <;> exact ⟨rfl, rfl⟩

end Rests

namespace Idle

variable {core next : Core σ} (idle : core.Idle)

include idle

theorem still (still : Still core next) : next.Idle where
  toSealed := idle.toSealed.still still
  tasks_eq := (still.winds idle.refuses).tasks_eq_nil idle.tasks_eq

section

variable (setup : Setup σ)

theorem step (id : Nat) : Rests core (step setup core id) := by
  have nobody : core.pool.task? id = none := by rw [Pool.task?, idle.tasks_eq, List.find?_nil]
  simp only [Core.step, nobody]
  exact ⟨rfl, rfl⟩

theorem settleFor (count : Nat) (turns : Turns) :
    Rests core (settleFor setup count turns core) := by
  let motive (next : Core σ) : Prop := Still core next ∧ Rests core next
  have queued (next : Core σ) (ready : List Nat) (kept : motive next) :
      motive (next.withReady ready) :=
    ⟨kept.1.trans (.inside (.of_tasks_eq rfl rfl)), kept.2.trans ⟨rfl, rfl⟩⟩
  have steps (next : Core σ) (id : Nat) (kept : motive next) : motive (Core.step setup next id) :=
    ⟨kept.1.trans (still_step setup (kept.1.closed idle.phase_eq) id),
      kept.2.trans ((idle.still kept.1).step setup id)⟩
  have start : motive core := ⟨Still.refl core, Rests.refl core⟩
  exact (settleFor_induction setup queued steps count turns start).2

theorem perform (move : Move σ) : Rests core (perform setup core move) := by
  cases move with
  | establish outlet =>
      rw [Core.perform, establish_of_closed setup idle.phase_eq]
      exact ⟨rfl, rfl⟩
  | closeLink =>
      rw [Core.perform, closeLink_of_closed setup idle.phase_eq]
      exact Rests.refl core
  | shutdownLink =>
      rw [Core.perform, shutdownLink_of_closed setup core idle.phase_eq]
      exact Rests.refl core
  | report device request =>
      rcases exists_prepare_error idle.phase_eq device request with ⟨failure, refused⟩
      rw [Core.perform, core.sendAsync_of_error refused]
      exact Rests.refl core
  | request device request now budget =>
      rcases exists_prepare_error idle.phase_eq device request with ⟨failure, refused⟩
      simp only [Core.perform, sendSync, refused]
      split <;> exact Rests.refl core
  | receive text =>
      rw [Core.perform, idle.receive_eq]
      exact Rests.refl core
  | submit job =>
      rw [Core.perform, idle.submit_eq]
      exact Rests.refl core
  | step task => exact idle.step setup task
  | drain most => exact .onNewestQueue core _
  | hangUp => exact .onNewestQueue core _
  | abort tasks => exact ⟨rfl, congrArg Pool.lanes (Pool.abort_of_ended idle.tasks_eq tasks)⟩
  | forget | forgetAll | openGate | closePool | disturb => exact ⟨rfl, rfl⟩

theorem run (moves : List (Move σ)) : Rests core (run setup core moves) := by
  induction moves generalizing core with
  | nil => exact Rests.refl core
  | cons move rest ih =>
      have next := idle.still (still_perform setup idle.phase_eq move)
      exact (idle.perform setup move).trans (ih next)

end

end Idle

end Core
end DeviceLink
