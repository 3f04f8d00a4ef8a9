import DeviceLink.Proofs.Core.Idle
import DeviceLink.Proofs.Session.Terminal

namespace DeviceLink
namespace Session

variable {σ : Type}

/-!
The course that a session takes to its end.  The shutdown that closes the link closes
the pool as well and waits for the tasks that the pool has left; these end, or are
abandoned when the time has run out or the shutdown is given up.  No other drain ever
begins.  `Course` has a constructor for each stage of this way.  Sessions in which
somebody shuts down the pool alone are left out by `isWhole`, as no client does that;
for all others the course is kept by every move.
-/

/--
The pool of a session is shut down only together with the link.  Nobody but the client holds
the pool, and it closes the link before it drains.
-/
def Move.isWhole : Move σ → Bool
  | shutdownPool _ _ => false
  | _ => true

/-! ## Shutdowns -/

section

variable {setup : Setup σ} {session : Session σ}

theorem shutdown_of_closed (closed : session.core.link.phase = .closed) (label : String) :
    session.shutdown setup label = ⟨(session.start label).2, [(label, .shut)]⟩ := by
  have refused : (session.start label).2.core.shutdownLink setup =
      (false, (session.start label).2.core) := Core.shutdownLink_of_closed setup _ closed
  simp only [shutdown, reportShut, shutdownCore, refused]
  rfl

/--
The session whose link has just been closed, before its pool drains.  The registry has been
cleared already, and the pool still takes jobs.
-/
def closing (setup : Setup σ) (session : Session σ) (label : String) : Session σ :=
  { (session.start label).2 with
    core :=
      { (session.core.shutdownLink setup).2 with
        registry := (session.core.shutdownLink setup).2.registry.clear.2 } }

theorem shutdown_of_open (isOpen : session.core.link.phase ≠ .closed) (label : String) :
    session.shutdown setup label =
      reportShut (session.start label).1
        ((session.closing setup label).drainPool (some (session.start label).1)
          setup.options.drainTimeout true) := by
  rcases Core.shutdownLink_of_open setup (session.start label).2.core isOpen with
    ⟨core, accepted, -, -⟩
  have after : (session.core.shutdownLink setup).2 = core := congrArg Prod.snd accepted
  simp only [shutdown, shutdownCore, accepted, closing, after]

theorem pool_closing (setup : Setup σ) (session : Session σ) (label : String) :
    (session.closing setup label).core.pool = session.core.pool :=
  (Core.beside_apply setup session.core session.core.link.shutdown).pool_eq

/--
A pool that was open drains the tasks that it has, if there are any.  The drain has the
given time from now on, and it ends with the last of these tasks.
-/
theorem drainPool_of_open (unclosed : session.core.pool.closed = false) (tag : Option Tag)
    (grace : Duration) (ofCore : Bool) :
    session.drainPool tag grace ofCore =
      let core := { session.core with pool := session.core.pool.close.1 }
      if session.core.pool.tasks = [] then
        (true, { session with core := core, ended := session.ended || ofCore })
      else
        (false, { session with
          core := core
          drains := session.drains ++
            [(tag, ⟨session.core.pool.taskIds, session.now + grace.nanoseconds, ofCore⟩)] }) := by
  simp only [drainPool, Pool.close, unclosed, Bool.false_eq_true, if_false, List.isEmpty_iff,
    List.map_eq_nil_iff]
  rfl

section

variable (setup) (isOpen : session.core.link.phase ≠ .closed) (label : String)

include isOpen

theorem core_shutdown_of_open :
    (session.perform setup (.shutdown label)).core =
      Core.run setup session.core [.shutdownLink, .forgetAll, .closePool] := by
  rw [perform, core_shutdown, coreMoves, if_neg isOpen]

theorem pool_shutdown_of_open :
    (session.perform setup (.shutdown label)).core.pool = session.core.pool.close.1 := by
  rw [core_shutdown_of_open setup isOpen]
  exact congrArg (·.close.1)
    (Core.beside_apply setup session.core session.core.link.shutdown).pool_eq

theorem sealed_shutdown : (session.perform setup (.shutdown label)).core.Sealed :=
  core_shutdown_of_open setup isOpen label ▸ Core.sealed_shutdown setup session.core

/--
A shutdown that finds no tasks leaves none to wait for.  The core is idle at once, since a
closed pool gets no new tasks.
-/
theorem idle_shutdown (ended : session.core.pool.tasks = []) :
    (session.perform setup (.shutdown label)).core.Idle where
  toSealed := sealed_shutdown setup isOpen label
  tasks_eq := pool_shutdown_of_open setup isOpen label ▸ ended

variable (unclosed : session.core.pool.closed = false)

include unclosed

/--
There is nothing to wait for if the pool has no tasks.  The shutdown has then concluded in
the move that began it.
-/
theorem shutdown_of_ended (ended : session.core.pool.tasks = []) :
    (session.perform setup (.shutdown label)).drains = session.drains ∧
      (session.shutdown setup label).finished = [(label, .shut)] := by
  rw [← pool_closing setup session label] at unclosed ended
  rw [perform, shutdown_of_open isOpen, drainPool_of_open unclosed, if_pos ended]
  exact ⟨rfl, rfl⟩

theorem shutdown_of_working (working : session.core.pool.tasks ≠ []) :
    (session.perform setup (.shutdown label)).drains =
        session.drains ++ [(some (session.start label).1, ⟨session.core.pool.taskIds,
          session.now + setup.options.drainTimeout.nanoseconds, true⟩)] ∧
      (session.perform setup (.shutdown label)).ended = session.ended ∧
      (session.shutdown setup label).finished = [] := by
  rw [← pool_closing setup session label] at unclosed working
  rw [perform, shutdown_of_open isOpen, drainPool_of_open unclosed, if_neg working,
    ← pool_closing setup session label]
  exact ⟨rfl, rfl, rfl⟩

end

/-! ## Drains -/

/--
The moves that neither begin nor end a drain.  During them the tasks go on, frames come in,
and time passes.
-/
def Move.leavesDrains : Move σ → Bool
  | shutdown _ => false
  | shutdownPool _ _ => false
  | abort _ => false
  | endDrains => false
  | _ => true

theorem drains_perform_of_leaves {move : Move σ} (leaves : move.leavesDrains = true) :
    (session.perform setup move).drains = session.drains ∧
      (session.perform setup move).ended = session.ended := by
  cases move with
  | shutdown | shutdownPool | abort | endDrains => cases leaves
  | request label device request budget =>
      rw [perform, request_eq]
      unfold carryOn
      split <;> exact ⟨rfl, rfl⟩
  | poll tag =>
      simp only [perform, poll]
      split <;> exact ⟨rfl, rfl⟩
  | endAwaiting =>
      simp only [perform, endAwaiting]
      split <;> exact ⟨rfl, rfl⟩
  | _ => exact ⟨rfl, rfl⟩

/--
Such moves abandon no tasks.  The tasks that a drain waits for can only get fewer by ending
on their own.
-/
theorem orderly_coreMoves_of_leaves {move : Move σ} (leaves : move.leavesDrains = true) :
    ∀ inward ∈ session.coreMoves setup move, inward.isAbort = false := by
  intro inward inside
  cases move with
  | shutdown | shutdownPool | abort | endDrains => cases leaves
  | settleTasks =>
      rcases List.mem_map.mp inside with ⟨task, -, rfl⟩
      rfl
  | poll tag =>
      simp only [coreMoves] at inside
      split at inside
      · rw [List.mem_singleton.mp inside]
        rfl
      · cases inside
  | waitConnected | awaitEnd | advance | endWatchers | endAwaiting => cases inside
  | establish | closeLink | report | receive | request | openGate | drain | hangUp | disturb
  | step =>
      rw [List.mem_singleton.mp inside]
      rfl

theorem endDrains_of_none (undrained : session.drains = []) :
    session.endDrains = ({ session with drains := [], ended := session.ended || false }, []) := by
  simp only [endDrains, undrained, List.partition_eq_filter_filter, List.filter_nil,
    List.foldl_nil, List.any_nil, List.flatMap_nil]

theorem endDrains_of_over {tag : Option Tag} {drain : Drain}
    (drains_eq : session.drains = [(tag, drain)]) (spent : session.drainIsOver drain = true) :
    session.endDrains =
      ({ session with
          core := session.core.abortTasks drain.tasks
          drains := []
          ended := session.ended || drain.ofCore }, shutEntry tag) := by
  simp [endDrains, drains_eq, spent, List.partition_eq_filter_filter]

theorem endDrains_of_waiting {tag : Option Tag} {drain : Drain}
    (drains_eq : session.drains = [(tag, drain)]) (waits : session.drainIsOver drain = false) :
    session.endDrains = (session, []) := by
  rcases session with ⟨core, now, callers, watchers, drains, awaitingEnd, ended, started, ticket⟩
  dsimp only at drains_eq
  subst drains_eq
  simp [endDrains, waits, List.partition_eq_filter_filter]

theorem endAwaiting_of_goesOn (goesOn : session.ended = false) :
    session.endAwaiting = (session, []) := by
  simp only [endAwaiting, goesOn, Bool.false_eq_true, if_false]

/--
Giving up the shutdown that drains the pool abandons the tasks it waits for.  It is the same
as if its time had run out, only earlier.
-/
theorem giveUp_of_drained {tag : Tag} {drain : Drain}
    (drains_eq : session.drains = [(some tag, drain)]) :
    (session.giveUp tag).drains = [] ∧
      (session.giveUp tag).core.pool = session.core.pool.abort drain.tasks := by
  simp [giveUp, drains_eq, Core.abortTasks]

theorem giveUp_of_other {tag given : Tag} {drain : Drain}
    (drains_eq : session.drains = [(some tag, drain)]) (other : tag ≠ given) :
    (session.giveUp given).drains = session.drains ∧
      (session.giveUp given).core.pool = session.core.pool ∧
      (session.giveUp given).core.gates = session.core.gates := by
  simp [giveUp, drains_eq, other]

theorem ended_perform (undrained : session.drains = []) {move : Move σ}
    (goesOn : move.shuts = false) : (session.perform setup move).ended = session.ended := by
  by_cases leaves : move.leavesDrains = true
  · exact (drains_perform_of_leaves leaves).2
  · cases move with
    | shutdown | shutdownPool => cases goesOn
    | abort label =>
        simp only [perform, abort]
        split <;> rfl
    | endDrains =>
        rw [perform, endDrains_of_none undrained]
        exact Bool.or_false session.ended
    | _ => exact absurd rfl leaves

end

/-! ## The course of a session -/

/--
How far a session has come to its end.  It runs, then it drains what is left, and then it
has concluded, and it never goes back.
-/
inductive Course (setup : Setup σ) (session : Session σ) : Prop
  | running (past : List Happening) (accounted : Core.Accounted setup past session.core)
      (isOpen : session.core.link.phase ≠ .closed) (unclosed : session.core.pool.closed = false)
      (undrained : session.drains = []) (goesOn : session.ended = false)
  /-- The shutdown with this tag waits for the tasks that the pool has left. -/
  | draining (past : List Happening) (accounted : Core.Accounted setup past session.core)
      (shut : session.core.Sealed) (tag : Tag) (tasks : List Nat) (deadline : Nat)
      (drains_eq : session.drains = [(some tag, ⟨tasks, deadline, true⟩)])
      (covers : session.core.pool.taskIds ⊆ tasks) (goesOn : session.ended = false)
  /--
  That shutdown is over, or has been given up.  There are no tasks any more, and nothing can
  bring new ones.
  -/
  | concluded (idle : session.core.Idle) (undrained : session.drains = [])

namespace Course

variable {setup : Setup σ} {session : Session σ}

theorem new (setup : Setup σ) (world : σ) : Course setup (new setup world) :=
  .running [] (Core.accounted_new setup world) (nofun : Phase.connecting ≠ .closed) rfl rfl rfl

/--
A pool is not closed before its link.  As long as frames can come in there is a pool that
takes their calls.
-/
theorem unclosed (course : Course setup session) (isOpen : session.core.link.phase ≠ .closed) :
    session.core.pool.closed = false := by
  cases course with
  | running past accounted isOpen unclosed undrained goesOn => exact unclosed
  | draining past accounted shut => exact absurd shut.phase_eq isOpen
  | concluded idle => exact absurd idle.phase_eq isOpen

/--
The shutdown that closes the link drains the pool, unless there is nothing to wait for.  It
is the step from a session that runs to one that drains or has concluded.
-/
theorem shutdown {past : List Happening} (accounted : Core.Accounted setup past session.core)
    (isOpen : session.core.link.phase ≠ .closed) (unclosed : session.core.pool.closed = false)
    (undrained : session.drains = []) (goesOn : session.ended = false) (label : String) :
    Course setup (session.perform setup (.shutdown label)) := by
  have core_eq := core_shutdown_of_open setup isOpen label
  have pool_eq := pool_shutdown_of_open setup isOpen label
  by_cases ended : session.core.pool.tasks = []
  · refine .concluded (idle_shutdown setup isOpen label ended) ?_
    rw [(shutdown_of_ended setup isOpen label unclosed ended).1, undrained]
  · have drains := shutdown_of_working setup isOpen label unclosed ended
    have accounts := accounted.run [.shutdownLink, .forgetAll, .closePool]
      (by simp [Core.Move.isAbort])
    rw [← core_eq] at accounts
    rw [undrained, List.nil_append] at drains
    refine .draining _ accounts (sealed_shutdown setup isOpen label) _ _ _ drains.1 ?_
      (drains.2.1.trans goesOn)
    rw [pool_eq]
    exact List.Subset.refl _

/--
While nobody shuts it down a session goes on.  The account of its calls is continued by what
the move makes happen.
-/
theorem goOn {past : List Happening} (accounted : Core.Accounted setup past session.core)
    (isOpen : session.core.link.phase ≠ .closed) (unclosed : session.core.pool.closed = false)
    (undrained : session.drains = []) (goesOn : session.ended = false) {move : Move σ}
    (harmless : move.shuts = false) : Course setup (session.perform setup move) := by
  have orderly : ∀ inward ∈ session.coreMoves setup move, inward.isAbort = false :=
    fun inward inside => (inward_of_mem inside).orderly undrained
  have core_eq : Core.run setup session.core (session.coreMoves setup move) =
      (session.perform setup move).core := run_coreMoves_of_accounted accounted
  have accounts := accounted.run _ orderly
  rw [core_eq] at accounts
  refine .running _ accounts ?_ ?_ (drains_perform setup undrained harmless)
    ((ended_perform undrained harmless).trans goesOn)
  · refine fun closed => isOpen ((closed_perform_iff fun label same => ?_).mp closed)
    rw [same] at harmless
    cases harmless
  · rw [← core_eq]
    refine (Core.closed_run accounted orderly fun inward inside => ?_).trans unclosed
    exact (inward_of_mem inside).unclosing harmless

section

variable {past : List Happening} (accounted : Core.Accounted setup past session.core)
  (shut : session.core.Sealed) {tag : Tag} {tasks : List Nat} {deadline : Nat}
  (drains_eq : session.drains = [(some tag, ⟨tasks, deadline, true⟩)])
  (covers : session.core.pool.taskIds ⊆ tasks)

include accounted shut drains_eq covers

theorem drain (goesOn : session.ended = false) {move : Move σ} (leaves : move.leavesDrains = true) :
    Course setup (session.perform setup move) := by
  have core_eq : Core.run setup session.core (session.coreMoves setup move) =
      (session.perform setup move).core := run_coreMoves_of_accounted accounted
  have accounts := accounted.run (session.coreMoves setup move)
    (orderly_coreMoves_of_leaves leaves)
  rw [core_eq] at accounts
  have still : Core.Still session.core (session.perform setup move).core :=
    still_perform shut.phase_eq move
  have kept : (session.perform setup move).drains = session.drains ∧
      (session.perform setup move).ended = session.ended := drains_perform_of_leaves leaves
  refine .draining _ accounts (shut.still still) tag tasks deadline (kept.1.trans drains_eq) ?_
    (kept.2.trans goesOn)
  exact List.Subset.trans (still.winds shut.refuses).ids covers

theorem endDrains (goesOn : session.ended = false) :
    Course setup (session.perform setup .endDrains) := by
  cases spent : session.drainIsOver ⟨tasks, deadline, true⟩ with
  | true =>
      rw [Session.perform, endDrains_of_over drains_eq spent]
      exact .concluded (shut.idle_abortTasks covers) rfl
  | false =>
      rw [Session.perform, endDrains_of_waiting drains_eq spent]
      exact .draining past accounted shut tag tasks deadline drains_eq covers goesOn

theorem abort (goesOn : session.ended = false) (label : String) :
    Course setup (session.perform setup (.abort label)) := by
  have still : Core.Still session.core (session.perform setup (.abort label)).core :=
    still_perform shut.phase_eq (.abort label)
  simp only [Session.perform, Session.abort] at still ⊢
  cases known : session.started.find? fun tag => tag.label = label with
  | none => exact .draining past accounted shut tag tasks deadline drains_eq covers goesOn
  | some given =>
      rw [known] at still
      by_cases same : tag = given
      · subst same
        have gone := giveUp_of_drained drains_eq
        refine .concluded ⟨shut.still still, ?_⟩ gone.1
        rw [gone.2]
        exact Pool.tasks_abort_eq_nil session.core.pool covers
      · have kept := giveUp_of_other drains_eq same
        refine .draining past (accounted.of_same kept.2.1 kept.2.2) (shut.still still) tag tasks
          deadline (kept.1.trans drains_eq) ?_ goesOn
        exact List.Subset.trans (still.winds shut.refuses).ids covers

end

/--
Once the shutdown is over no other drain begins.  A second shutdown finds the pool closed
and returns at once.
-/
theorem rest (idle : session.core.Idle) (undrained : session.drains = []) (move : Move σ) :
    Course setup (session.perform setup move) := by
  refine .concluded (idle.still (still_perform idle.phase_eq move)) ?_
  by_cases leaves : move.leavesDrains = true
  · exact (drains_perform_of_leaves leaves).1.trans undrained
  · cases move with
    | shutdown label =>
        rw [Session.perform, shutdown_of_closed idle.phase_eq]
        exact undrained
    | shutdownPool label grace =>
        have nothing_left : (session.start label).2.core.pool.close.2 = [] := if_pos idle.refuses
        simp only [Session.perform, shutdownPool, reportShut, drainPool, nothing_left,
          List.isEmpty_nil, if_true]
        exact undrained
    | abort label =>
        simp only [Session.perform, Session.abort]
        split
        · simp only [giveUp, undrained, List.filter_nil]
        · exact undrained
    | endDrains => rw [Session.perform, endDrains_of_none undrained]
    | _ => exact absurd rfl leaves

theorem perform (course : Course setup session) {move : Move σ} (whole : move.isWhole = true) :
    Course setup (session.perform setup move) := by
  cases course with
  | concluded idle undrained => exact rest idle undrained move
  | running past accounted isOpen unclosed undrained goesOn =>
      cases move with
      | shutdown label => exact shutdown accounted isOpen unclosed undrained goesOn label
      | shutdownPool => cases whole
      | _ => exact goOn accounted isOpen unclosed undrained goesOn rfl
  | draining past accounted shut tag tasks deadline drains_eq covers goesOn =>
      cases move with
      | shutdown label =>
          rw [Session.perform, shutdown_of_closed shut.phase_eq]
          exact .draining past accounted shut tag tasks deadline drains_eq covers goesOn
      | shutdownPool => cases whole
      | abort label => exact abort accounted shut drains_eq covers goesOn label
      | endDrains => exact endDrains accounted shut drains_eq covers goesOn
      | _ => exact drain accounted shut drains_eq covers goesOn rfl

theorem run (course : Course setup session) {moves : List (Move σ)}
    (whole : ∀ move ∈ moves, move.isWhole = true) : Course setup (run setup session moves) := by
  induction moves generalizing session with
  | nil => exact course
  | cons move rest ih =>
      refine ih (course.perform (whole move List.mem_cons_self)) fun other inside => ?_
      exact whole other (List.mem_cons_of_mem _ inside)

end Course

end Session
end DeviceLink
