import DeviceLink.Proofs.Core.Admission
import DeviceLink.Proofs.Session.Course

namespace DeviceLink
namespace Session

variable {σ : Type}

/-!
What it means that a shutdown is over.  When the one that closed the link is over no
task is left, and none comes any more, so no device code runs and none ever will.  A
later shutdown finds the link closed and is over at once, while the tasks may still be
at work.  `Emptied` is what a session is like then, and `Concluding` says when its end
is reported to those who wait for it.
-/

/--
No device code runs, and none ever will.  Whatever is done to the session from now on, its
pool stays as it is.
-/
structure Emptied (setup : Setup σ) (session : Session σ) : Prop where
  tasks_eq : ∀ later, (run setup session later).core.pool.tasks = []
  /--
  Nothing is heard of the session any more.  The log has the last entry that it will ever
  have.
  -/
  log_eq : ∀ later, (run setup session later).core.log = session.core.log
  /--
  No device becomes busy.  A device that is still listed as busy may stay so, though nothing
  runs for it.
  -/
  busyDevices_eq : ∀ later,
    (run setup session later).core.pool.busyDevices = session.core.pool.busyDevices

theorem rests_perform {setup : Setup σ} {session : Session σ} (idle : session.core.Idle)
    (move : Move σ) : Core.Rests session.core (session.perform setup move).core := by
  by_cases settling : move = .settleTasks
  · rw [settling]
    exact idle.settleFor setup _ _
  · rw [← run_coreMoves fun same => absurd same settling]
    exact idle.run setup _

theorem emptied_of_idle (setup : Setup σ) {session : Session σ} (idle : session.core.Idle) :
    Emptied setup session := by
  have rests (later : List (Move σ)) : (run setup session later).core.Idle ∧
      Core.Rests session.core (run setup session later).core := by
    induction later generalizing session with
    | nil => exact ⟨idle, Core.Rests.refl session.core⟩
    | cons move rest ih =>
        have still : Core.Still session.core (session.perform setup move).core :=
          still_perform idle.phase_eq move
        have next := ih (idle.still still)
        exact ⟨next.1, (rests_perform idle move).trans next.2⟩
  exact
    { tasks_eq := fun later => (rests later).1.tasks_eq
      log_eq := fun later => (rests later).2.log_eq
      busyDevices_eq := fun later => congrArg List.length (rests later).2.lanes_eq }

/--
What a move reports to those who wait for an end.  There are three moves by which somebody
who waits can be told that it is over.
-/
def finished (setup : Setup σ) (session : Session σ) : Move σ → Finished
  | .shutdown label => (session.shutdown setup label).finished
  | .endDrains => session.endDrains.2
  | .endAwaiting => session.endAwaiting.2
  | _ => []

/--
What a move that reports an end has found, unless it is a shutdown that came too late.  It
is one case for each of these moves, and a pool without tasks follows in each of them.
-/
inductive Finish (setup : Setup σ) (session : Session σ) : Move σ → Prop
  | atOnce (past : List Happening) (accounted : Core.Accounted setup past session.core)
      (isOpen : session.core.link.phase ≠ .closed) (ended : session.core.pool.tasks = [])
      (label : String) : Finish setup session (.shutdown label)
  | drained (past : List Happening) (accounted : Core.Accounted setup past session.core)
      (shut : session.core.Sealed) (tag : Option Tag) (drain : Drain)
      (drains : (tag, drain) ∈ session.drains)
      (covers : session.core.pool.taskIds ⊆ drain.tasks)
      (core_eq : (session.perform setup .endDrains).core = session.core.abortTasks drain.tasks) :
      Finish setup session .endDrains
  | afterwards (idle : session.core.Idle) : Finish setup session .endAwaiting

theorem Course.finish {setup : Setup σ} {session : Session σ} (course : Course setup session)
    {move : Move σ} (reported : session.finished setup move ≠ [])
    (first : ∀ label, move = .shutdown label → session.phase ≠ .closed) :
    Finish setup session move := by
  cases course with
  | running past accounted isOpen unclosed undrained goesOn =>
      cases move with
      | shutdown label =>
          refine .atOnce past accounted isOpen ?_ label
          by_contra working
          exact reported (shutdown_of_working setup isOpen label unclosed working).2.2
      | endDrains => exact absurd (congrArg Prod.snd (endDrains_of_none undrained)) reported
      | endAwaiting => exact absurd (congrArg Prod.snd (endAwaiting_of_goesOn goesOn)) reported
      | _ => exact absurd rfl reported
  | draining past accounted shut tag tasks deadline drains_eq covers goesOn =>
      cases move with
      | shutdown label => exact absurd shut.phase_eq (first label rfl)
      | endDrains =>
          cases spent : session.drainIsOver ⟨tasks, deadline, true⟩ with
          | true =>
              refine .drained past accounted shut _ _ (drains_eq ▸ List.mem_singleton_self _)
                covers ?_
              rw [Session.perform, endDrains_of_over drains_eq spent]
          | false =>
              exact absurd (congrArg Prod.snd (endDrains_of_waiting drains_eq spent)) reported
      | endAwaiting => exact absurd (congrArg Prod.snd (endAwaiting_of_goesOn goesOn)) reported
      | _ => exact absurd rfl reported
  | concluded idle undrained =>
      cases move with
      | shutdown label => exact absurd idle.phase_eq (first label rfl)
      | endDrains => exact absurd (congrArg Prod.snd (endDrains_of_none undrained)) reported
      | endAwaiting => exact .afterwards idle
      | _ => exact absurd rfl reported

namespace Finish

variable {setup : Setup σ} {session : Session σ} {move : Move σ}

theorem idle (finish : Finish setup session move) : (session.perform setup move).core.Idle := by
  cases finish with
  | atOnce past accounted isOpen ended label => exact idle_shutdown setup isOpen label ended
  | drained past accounted shut tag drain drains covers core_eq =>
      rw [core_eq]
      exact shut.idle_abortTasks covers
  | afterwards idle => exact idle.still (still_perform idle.phase_eq .endAwaiting)

/--
Tasks that have ended by themselves leave no lanes behind.  Only those that are abandoned
do, as they have no chance to clean up.
-/
theorem lanes_eq_nil (finish : Finish setup session move) (shuts : move ≠ .endAwaiting)
    (ended : ∀ entry ∈ session.drains, session.core.pool.anyAlive entry.2.tasks = false) :
    (session.perform setup move).core.pool.lanes = [] := by
  cases finish with
  | atOnce past accounted isOpen idle label =>
      rw [pool_shutdown_of_open setup isOpen label]
      exact accounted.lanes_eq_nil idle
  | drained past accounted shut tag drain drains covers core_eq =>
      have gone := (Pool.anyAlive_eq_false_iff _ _).mp (ended _ drains)
      have idle : session.core.pool.tasks = [] := by
        rw [List.eq_nil_iff_forall_not_mem]
        intro task inside
        have listed : task.id ∈ session.core.pool.taskIds := List.mem_map_of_mem inside
        exact gone _ listed (covers listed)
      rw [core_eq, Core.abortTasks, Pool.abort_of_ended idle]
      exact accounted.lanes_eq_nil idle
  | afterwards => exact absurd rfl shuts

end Finish

/--
Whoever waits for a drain hears when it is over.  The report carries the label under which
the shutdown was begun.
-/
theorem mem_endDrains {session : Session σ} {tag : Tag} {drain : Drain}
    (drains : (some tag, drain) ∈ session.drains) (spent : session.drainIsOver drain = true) :
    (tag.label, .shut) ∈ session.endDrains.2 := by
  simp only [endDrains, List.partition_eq_filter_filter, List.mem_flatMap]
  exact ⟨_, List.mem_filter.mpr ⟨drains, spent⟩, List.mem_singleton_self _⟩

/--
What it means that a shutdown is over, and when that is.  The first two parts say what its
end means, and the others say when it comes.
-/
structure Concluding (setup : Setup σ) (session : Session σ) : Prop where
  /--
  When the shutdown that closes the link is over, at once or after its drain, and whenever
  an awaited end is reported, no device code runs, and none ever will.
  -/
  empties : ∀ move, session.finished setup move ≠ [] →
    (∀ label, move = .shutdown label → session.phase ≠ .closed) →
    Emptied setup (session.perform setup move)
  /--
  No device is busy when the tasks that it waited for have ended in time.  Nothing is said
  here of tasks that had to be abandoned.
  -/
  vacates : ∀ move, session.finished setup move ≠ [] →
    (∀ label, move = .shutdown label → session.phase ≠ .closed) → move ≠ .endAwaiting →
    (∀ entry ∈ session.drains, session.core.pool.anyAlive entry.2.tasks = false) →
    (session.perform setup move).core.pool.busyDevices = 0
  /--
  It waits for all the tasks of the pool, if there are any, until the drain timeout.  The
  tasks that have come to wait in the queue are among them.
  -/
  waits : session.phase ≠ .closed → session.core.pool.tasks ≠ [] → ∀ label,
    session.finished setup (.shutdown label) = [] ∧
      (some (session.start label).1, ⟨session.core.pool.taskIds,
        session.now + setup.options.drainTimeout.nanoseconds, true⟩) ∈
          (session.perform setup (.shutdown label)).drains
  /--
  It is over as soon as the tasks have ended or the time has run out.  Which of the two it
  was makes no difference to whoever waits.
  -/
  returns : ∀ tag drain, (some tag, drain) ∈ session.drains → session.drainIsOver drain = true →
    (tag.label, .shut) ∈ session.finished setup .endDrains
  /--
  A shutdown that finds the link closed is over at once, and the core goes on as it was.  It
  says nothing about the tasks, which an earlier shutdown may still be waiting for.
  -/
  again : session.phase = .closed → ∀ label,
    session.finished setup (.shutdown label) = [(label, .shut)] ∧
      (session.perform setup (.shutdown label)).core = session.core

/--
Any run of a session, with any number of shutdowns.  The pool is only ever shut down
together with the link, as the client does it.
-/
theorem shutdown_concluding (setup : Setup σ) (world : σ) (moves : List (Move σ))
    (whole : ∀ move ∈ moves, move.isWhole = true) :
    Concluding setup (run setup (new setup world) moves) := by
  have course := (Course.new setup world).run whole
  generalize run setup (new setup world) moves = session at course ⊢
  exact
    { empties := fun move reported first =>
        emptied_of_idle setup (course.finish reported first).idle
      vacates := fun move reported first shuts ended => by
        rw [Pool.busyDevices, (course.finish reported first).lanes_eq_nil shuts ended,
          List.length_nil]
      waits := fun isOpen working label => by
        have drains := shutdown_of_working setup isOpen label (course.unclosed isOpen) working
        rw [drains.1]
        exact ⟨drains.2.2, List.mem_append_right _ (List.mem_singleton_self _)⟩
      returns := fun tag drain drains spent => mem_endDrains drains spent
      again := fun closed label => by
        rw [finished, perform, shutdown_of_closed closed]
        exact ⟨rfl, rfl⟩ }

/--
A call has come to its gate when the session is shut down.  It goes on only if the gate
opens.
-/
def callAtGate : List (Move Unit) :=
  [.establish (.record "gateway"), .receive (lampCall "7"), .step 0, .step 0, .step 0,
    .shutdown "first"]

/--
The gate opens, the call ends, and with it the drain.  There is nobody left who could be
abandoned.
-/
theorem shutdown_concluding_atGate :
    let drained := run Core.patientSetup (new Core.patientSetup ())
      (callAtGate ++ [.openGate "reading" 1, .step 0])
    (∀ move ∈ callAtGate ++ [.openGate "reading" 1, .step 0], move.isWhole = true) ∧
      Concluding Core.patientSetup drained ∧
      (drained.finished Core.patientSetup .endDrains).map Prod.fst = ["first"] ∧
      drained.core.pool.tasks.length = 0 :=
  ⟨by decide, shutdown_concluding Core.patientSetup () _ (by decide), by decide +kernel⟩

/--
While the first shutdown waits for a call at its gate, a second one is over at once: the
call is still at work, and its device is busy.
-/
theorem second_shutdown_over :
    let waiting := run Core.patientSetup (new Core.patientSetup ()) callAtGate
    let again := waiting.perform Core.patientSetup (.shutdown "second")
    (waiting.finished Core.patientSetup (.shutdown "second")).map Prod.fst = ["second"] ∧
      (again.core.pool.tasks.map fun task => task.stage.isRunning) = [true] ∧
      again.core.pool.busyDevices = 1 := by
  decide +kernel

end Session
end DeviceLink
