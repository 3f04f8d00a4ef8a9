import DeviceLink.Proofs.Core.Reports
import DeviceLink.Proofs.Core.Settling
import DeviceLink.Proofs.Session.Waiting

namespace DeviceLink
namespace Session

variable {σ : Type}

/-!
What the core of a session does while the session makes its moves.  Every move of the
session is a list of moves of the core, so the core of a session is at the end of a run
of the core, and what is known about such runs holds of it.  `coreMoves` names the
moves.  The choice of the next task, when tasks settle, is the only one that depends on
the core and not on the move; elsewhere the list can be read off the move and the
session alone.
-/

/--
The moves that the core makes when the session makes a move.  Most moves of the session are
one move of the core or none, and a shutdown is several.
-/
def coreMoves (setup : Setup σ) (session : Session σ) (move : Move σ) : List (Core.Move σ) :=
  match move with
  | .establish outlet => [.establish outlet]
  | .closeLink => [.closeLink]
  | .report device request => [.report device request]
  | .receive text => [.receive text]
  | .request _ device request budget => [.request device request session.now budget]
  | .shutdown _ =>
      if session.core.link.phase = .closed then [] else [.shutdownLink, .forgetAll, .closePool]
  | .shutdownPool _ _ => [.closePool]
  | .abort label =>
      match session.started.find? fun tag => tag.label = label with
      | none => []
      | some tag =>
          ((session.callers.filter fun entry => entry.1 = tag).map fun entry =>
            .forget entry.2.token) ++
          (session.drains.filter fun entry => entry.1 = some tag).map fun entry =>
            .abort entry.2.tasks
  | .openGate gate permits => [.openGate gate permits]
  | .drain most => [.drain most]
  | .hangUp => [.hangUp]
  | .disturb world => [.disturb world]
  | .step task => [.step task]
  | .settleTasks => (session.core.settlers setup).map .step
  | .poll tag =>
      match session.seen? tag with
      | some (wait, _) => [.forget wait.token]
      | none => []
  | .endDrains =>
      (session.drains.filter fun entry => session.drainIsOver entry.2).map fun entry =>
        .abort entry.2.tasks
  | _ => []

/--
The run of the core when the session makes a run.  It is the moves of the core put together,
one move of the session after the other.
-/
def coreRun (setup : Setup σ) : Session σ → List (Move σ) → List (Core.Move σ) :=
  Run.history (perform setup) (coreMoves setup)

/--
What becomes of inbound frames and of jobs while the session makes a run.  It is the account
that the core keeps of its own run.
-/
def happenings (setup : Setup σ) (session : Session σ) (moves : List (Move σ)) : List Happening :=
  Core.history setup session.core (coreRun setup session moves)

/-! ## Moves -/

theorem core_carryOn (session : Session σ) (label : String) (result : Core.Opening × Core σ) :
    (session.carryOn label result).core = result.2 := by
  rcases result with ⟨- | - | -, core⟩ <;> rfl

theorem core_drainPool (session : Session σ) (tag : Option Tag) (grace : Duration)
    (ofCore : Bool) :
    (session.drainPool tag grace ofCore).2.core =
      { session.core with pool := session.core.pool.close.1 } := by
  unfold drainPool
  dsimp only
  split <;> rfl

/--
A shutdown of the core closes the link first, and the pool last.  In between the registry is
cleared, so that nobody who waits is left without an answer.
-/
theorem core_shutdown (setup : Setup σ) (session : Session σ) (label : String) :
    (session.shutdown setup label).session.core =
      Core.run setup session.core (session.coreMoves setup (.shutdown label)) := by
  by_cases closed : session.core.link.phase = .closed
  · have refused : (session.start label).2.core.shutdownLink setup =
        (false, (session.start label).2.core) := Core.shutdownLink_of_closed setup _ closed
    simp only [shutdown, reportShut, shutdownCore, refused, coreMoves, closed, if_true]
    rfl
  · rcases Core.shutdownLink_of_open setup (session.start label).2.core closed with
      ⟨core, accepted, -, -⟩
    have after : (session.core.shutdownLink setup).2 = core := congrArg Prod.snd accepted
    simp only [shutdown, reportShut, shutdownCore, accepted, core_drainPool, coreMoves, closed,
      if_false]
    rw [← after]
    rfl

/--
Dropping handles one after the other.  To the core each of them is a handle that is
forgotten.
-/
theorem run_forget (setup : Setup σ) (core : Core σ) (entries : List (Tag × Wait)) :
    Core.run setup core (entries.map fun entry => .forget entry.2.token) =
      { core with
        registry := entries.foldl (fun registry entry => registry.drop entry.2.token)
          core.registry } := by
  induction entries generalizing core with
  | nil => rfl
  | cons entry rest ih => exact ih { core with registry := core.registry.drop entry.2.token }

theorem run_abort (setup : Setup σ) (core : Core σ) (entries : List (Option Tag × Drain)) :
    Core.run setup core (entries.map fun entry => .abort entry.2.tasks) =
      entries.foldl (fun core entry => core.abortTasks entry.2.tasks) core :=
  List.foldl_map

section

variable {setup : Setup σ} {session : Session σ} {move : Move σ}

theorem core_abort (label : String) :
    (session.abort label).2.core =
      Core.run setup session.core (session.coreMoves setup (.abort label)) := by
  unfold abort coreMoves
  dsimp only
  cases session.started.find? fun tag => tag.label = label with
  | none => rfl
  | some tag =>
      dsimp only
      rw [Core.run, List.foldl_append]
      have forgotten := run_forget setup session.core
        (session.callers.filter fun entry => entry.1 = tag)
      rw [Core.run] at forgotten
      rw [forgotten, List.foldl_map, List.foldl_filter, List.foldl_filter]
      simp only [giveUp, decide_eq_true_eq, Core.perform]

/--
The core makes the moves of the session, in which its tasks settle by taking steps.  How the
tasks settle is left open here, since the order of their steps is that of the scheduler.
-/
theorem run_coreMoves
    (settles : move = .settleTasks →
      session.core.settle setup = Core.run setup session.core
        ((session.core.settlers setup).map .step)) :
    Core.run setup session.core (session.coreMoves setup move) =
      (session.perform setup move).core := by
  cases move with
  | establish | closeLink | report | receive | openGate | drain | hangUp | disturb | step => rfl
  | waitConnected | awaitEnd | advance | endWatchers => rfl
  | request label device request budget =>
      rw [perform, request_eq, core_carryOn]
      rfl
  | shutdown label => exact (core_shutdown setup session label).symm
  | shutdownPool label grace =>
      simp only [perform, shutdownPool, reportShut, core_drainPool]
      rfl
  | abort label => exact (core_abort label).symm
  | settleTasks => exact (settles rfl).symm
  | poll tag =>
      simp only [coreMoves, perform, poll]
      cases session.seen? tag <;> rfl
  | endDrains =>
      simp only [coreMoves, perform, endDrains, List.partition_eq_filter_filter]
      exact run_abort setup session.core _
  | endAwaiting =>
      simp only [perform, endAwaiting]
      split <;> rfl

theorem run_coreMoves_of_accounted {past : List Happening}
    (accounted : Core.Accounted setup past session.core) :
    Core.run setup session.core (session.coreMoves setup move) =
      (session.perform setup move).core :=
  run_coreMoves fun _ => Core.settle_eq_run_settlers setup accounted

/--
What the core can be doing when the session makes a move.  It is one case for each kind of
move that the core knows and that a session ever makes.
-/
inductive Inward (session : Session σ) : Move σ → Core.Move σ → Prop
  | establish (outlet : Outlet) : Inward session (.establish outlet) (.establish outlet)
  | closeLink : Inward session .closeLink .closeLink
  | report (device : Address) (request : Request) :
      Inward session (.report device request) (.report device request)
  | receive (text : String) : Inward session (.receive text) (.receive text)
  | request (label : String) (device : Address) (request : Request) (budget : Duration) :
      Inward session (.request label device request budget)
        (.request device request session.now budget)
  | shutdownLink (label : String) : Inward session (.shutdown label) .shutdownLink
  | forgetAll (label : String) : Inward session (.shutdown label) .forgetAll
  | closePool {move : Move σ} (shuts : move.shuts = true) : Inward session move .closePool
  | forget (move : Move σ) (token : Nat) : Inward session move (.forget token)
  /--
  Only a shutdown that somebody waits for leaves tasks behind that are abandoned.  They are
  those that the drain of this shutdown has been waiting for.
  -/
  | abandon (move : Move σ) {entry : Option Tag × Drain} (drains : entry ∈ session.drains) :
      Inward session move (.abort entry.2.tasks)
  | openGate (gate : String) (permits : Nat) :
      Inward session (.openGate gate permits) (.openGate gate permits)
  | drain (most : Option Nat) : Inward session (.drain most) (.drain most)
  | hangUp : Inward session .hangUp .hangUp
  | disturb (world : σ) : Inward session (.disturb world) (.disturb world)
  | step (move : Move σ) (task : Nat) : Inward session move (.step task)

theorem inward_of_mem {inward : Core.Move σ} (inside : inward ∈ session.coreMoves setup move) :
    Inward session move inward := by
  cases move with
  | establish | closeLink | report | receive | request | openGate | drain | hangUp | disturb
  | step =>
      rw [List.mem_singleton.mp inside]
      constructor
  | waitConnected | awaitEnd | advance | endWatchers | endAwaiting => cases inside
  | shutdown label =>
      simp only [coreMoves] at inside
      split at inside
      · cases inside
      · simp only [List.mem_cons, List.not_mem_nil, or_false] at inside
        rcases inside with rfl | rfl | rfl
        · exact .shutdownLink label
        · exact .forgetAll label
        · exact .closePool rfl
  | shutdownPool label grace =>
      rw [List.mem_singleton.mp inside]
      exact .closePool rfl
  | abort label =>
      simp only [coreMoves] at inside
      split at inside
      · cases inside
      · rcases List.mem_append.mp inside with inside | inside
        · rcases List.mem_map.mp inside with ⟨entry, -, rfl⟩
          exact .forget _ _
        · rcases List.mem_map.mp inside with ⟨entry, drains, rfl⟩
          exact .abandon _ (List.mem_filter.mp drains).1
  | settleTasks =>
      rcases List.mem_map.mp inside with ⟨task, -, rfl⟩
      exact .step _ task
  | poll tag =>
      simp only [coreMoves] at inside
      split at inside
      · rw [List.mem_singleton.mp inside]
        exact .forget _ _
      · cases inside
  | endDrains =>
      rcases List.mem_map.mp inside with ⟨entry, drains, rfl⟩
      exact .abandon _ (List.mem_filter.mp drains).1

namespace Inward

variable {inward : Core.Move σ}

/--
Nobody who uses a session puts jobs into the pool.  Jobs come from inbound frames, and it is
the dispatcher that submits them.
-/
theorem ne_submit (does : Inward session move inward) (job : Job) : inward ≠ .submit job := by
  rintro rfl
  cases does

theorem orderly (does : Inward session move inward) (undrained : session.drains = []) :
    inward.isAbort = false := by
  cases does with
  | abandon _ drains =>
      rw [undrained] at drains
      cases drains
  | _ => rfl

theorem unclosing (does : Inward session move inward) (goesOn : move.shuts = false) :
    inward.isClosePool = false := by
  cases does with
  | closePool shuts =>
      rw [goesOn] at shuts
      cases shuts
  | _ => rfl

theorem isQuiet (does : Inward session move inward) (undrained : session.drains = [])
    (goesOn : move.shuts = false) (not_receive : ∀ text, move ≠ .receive text) :
    inward.isQuiet = true := by
  have unheard : inward.isInbound = false := by
    cases does with
    | receive text => exact absurd rfl (not_receive text)
    | _ => rfl
  simp only [Core.Move.isQuiet, unheard, does.unclosing goesOn, does.orderly undrained,
    Bool.or_false, Bool.not_false]

end Inward

/--
Only a shutdown has tasks to wait for.  A session that has no drains gets none by any other
move.
-/
theorem drains_perform (setup : Setup σ) (undrained : session.drains = [])
    (goesOn : move.shuts = false) : (session.perform setup move).drains = [] := by
  cases move with
  | shutdown | shutdownPool => cases goesOn
  | request label device request budget =>
      rw [perform, request_eq]
      unfold carryOn
      split <;> exact undrained
  | abort label =>
      simp only [perform, Session.abort]
      split
      · simp only [giveUp, undrained, List.filter_nil]
      · exact undrained
  | poll tag =>
      simp only [perform, poll]
      split <;> exact undrained
  | endDrains =>
      simp only [perform, endDrains, undrained, List.partition_eq_filter_filter, List.filter_nil]
  | endAwaiting =>
      simp only [perform, endAwaiting]
      split <;> exact undrained
  | _ => exact undrained

end

/-! ## Runs -/

section

variable {setup : Setup σ} {session : Session σ} {moves : List (Move σ)}

theorem undrained_run (setup : Setup σ) (undrained : session.drains = [])
    (goesOn : ∀ move ∈ moves, move.shuts = false) : (run setup session moves).drains = [] := by
  induction moves generalizing session with
  | nil => exact undrained
  | cons move rest ih =>
      have next := drains_perform setup undrained (goesOn move List.mem_cons_self)
      exact ih next fun other inside => goesOn other (List.mem_cons_of_mem _ inside)

theorem exists_inward {inward : Core.Move σ} (inside : inward ∈ coreRun setup session moves) :
    ∃ earlier move later, moves = earlier ++ move :: later ∧
      Inward (run setup session earlier) move inward := by
  rcases List.append_of_mem inside with ⟨past, rest, split⟩
  rcases Run.split_history split with ⟨earlier, move, later, before, after, same, shown, -⟩
  have here : inward ∈ before ++ inward :: after := List.mem_append_right _ List.mem_cons_self
  rw [← shown] at here
  exact ⟨earlier, move, later, same, inward_of_mem here⟩

/--
No tasks are abandoned before there has been a shutdown.  So the results about orderly runs
of the core hold of a session that goes on.
-/
theorem orderly_coreRun (undrained : session.drains = [])
    (goesOn : ∀ move ∈ moves, move.shuts = false) :
    ∀ inward ∈ coreRun setup session moves, inward.isAbort = false := by
  intro inward inside
  rcases exists_inward inside with ⟨earlier, move, later, rfl, does⟩
  refine does.orderly (undrained_run setup undrained fun other there => ?_)
  exact goesOn other (List.mem_append_left _ there)

theorem ne_submit_of_coreRun :
    ∀ inward ∈ coreRun setup session moves, ∀ job, inward ≠ .submit job := by
  intro inward inside
  rcases exists_inward inside with ⟨earlier, move, later, -, does⟩
  exact does.ne_submit

variable {past : List Happening} (accounted : Core.Accounted setup past session.core)
  (orderly : ∀ inward ∈ coreRun setup session moves, inward.isAbort = false)

include accounted orderly

/--
The core of a session is where its own run leads.  Whatever has been proved of every run of
the core is therefore true of the core of a session.
-/
theorem run_coreRun :
    Core.run setup session.core (coreRun setup session moves) = (run setup session moves).core := by
  induction moves generalizing past session with
  | nil => rfl
  | cons move rest ih =>
      have split : coreRun setup session (move :: rest) =
          session.coreMoves setup move ++ coreRun setup (session.perform setup move) rest := rfl
      rw [split] at orderly ⊢
      have same : Core.run setup session.core (session.coreMoves setup move) =
          (session.perform setup move).core := run_coreMoves_of_accounted accounted
      have next := accounted.run (session.coreMoves setup move)
        fun inward inside => orderly inward (List.mem_append_left _ inside)
      rw [same] at next
      have later := ih next fun inward inside => orderly inward (List.mem_append_right _ inside)
      rw [Core.run] at same
      rw [Core.run, List.foldl_append, same]
      exact later

theorem accounted_run :
    Core.Accounted setup (past ++ happenings setup session moves)
      (run setup session moves).core := by
  rw [← run_coreRun accounted orderly]
  exact accounted.run _ orderly

theorem happenings_append (more : List (Move σ)) :
    happenings setup session (moves ++ more) =
      happenings setup session moves ++ happenings setup (run setup session moves) more := by
  have split : coreRun setup session (moves ++ more) =
      coreRun setup session moves ++ coreRun setup (run setup session moves) more :=
    Run.history_append _ _ _ _ _
  have led := run_coreRun accounted orderly
  rw [Core.run] at led
  rw [happenings, split, Core.history, Run.history_append, led]
  rfl

end
end Session
end DeviceLink
