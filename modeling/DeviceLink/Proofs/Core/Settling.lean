import DeviceLink.Core.Turn
import DeviceLink.Proofs.Core.Progress

namespace DeviceLink

/-!
The tasks of a core settle by taking single steps.  The rules about turns only choose
who is next: they keep some ready tasks back for a while, and a step neither looks at
the order of the ready queue nor at who is missing from it.  So what settling does is
what some run of single steps does, and afterwards nobody is ready.  Everything that is
proved about all interleavings therefore holds of settling as well.  A step that is
blind to the order of the ready queue is one of the two halves of the proof.
-/

namespace Turns

variable (turns : Turns) (ready : List Nat)

/--
Whoever is ready or put off before a turn begins is so afterwards.  Only the order and the
place may have changed.
-/
theorem perm_begin :
    ((turns.begin ready).2 ++ (turns.begin ready).1.postponed).Perm (ready ++ turns.postponed) := by
  unfold begin
  split
  · exact List.Perm.refl _
  · split
    · rw [List.append_nil]
    · exact List.Perm.refl _

/--
A turn begins unless nobody is ready and nobody has been put off.  Those who have been put
off come back first.
-/
theorem eq_nil_of_begin (going : turns.allowance ≠ none → ready ≠ [])
    (nobody : (turns.begin ready).2 = []) : ready ++ turns.postponed = [] := by
  unfold begin at nobody
  split at nobody
  · rename_i permits allowance
    exact absurd nobody (going (by simp [allowance]))
  · split at nobody
    · exact nobody
    · rename_i going_on
      have none_ready : ready = [] := nobody
      simp [isRoundOver, none_ready] at going_on

theorem perm_afterStep (task : Nat) (asks : Bool) :
    ((turns.afterStep task asks ready).2 ++ (turns.afterStep task asks ready).1.postponed).Perm
      (ready ++ turns.postponed) := by
  unfold afterStep
  split
  · exact List.Perm.refl _
  · rename_i front
    split
    · cases ready with
      | nil => simp at front
      | cons first rest =>
          have same : first = task := by simpa using front
          rw [same]
          exact List.perm_middle
    · exact List.Perm.refl _

/-- A turn goes on only while somebody is ready.  The task that has it stands at the front. -/
theorem ne_nil_of_afterStep (task : Nat) (asks : Bool)
    (going : (turns.afterStep task asks ready).1.allowance ≠ none) :
    (turns.afterStep task asks ready).2 ≠ [] := by
  unfold afterStep at going ⊢
  split
  · rename_i front
    rw [if_pos front] at going
    exact absurd rfl going
  · rename_i front
    rw [if_neg front] at going
    split
    · rename_i spent
      rw [if_pos spent] at going
      exact absurd rfl going
    · intro none_ready
      have none_ready : ready = [] := none_ready
      simp [none_ready] at front

end Turns

namespace Core

variable {σ : Type}

/-! ## The ready queue does not matter -/

/--
A change adds tasks to the ready queue, and does the same whoever else is in it.  It may
depend on anything but the queue.
-/
def Blind (change : Core σ → Core σ) (core : Core σ) : Prop :=
  ∃ before after, ∀ ready,
    change (core.withReady ready) = (change core).withReady (before ++ ready ++ after)

namespace Blind

variable {change first second : Core σ → Core σ} {core : Core σ}

theorem of_same (same : ∀ ready, change (core.withReady ready) = (change core).withReady ready) :
    Blind change core := by
  refine ⟨[], [], fun ready => ?_⟩
  rw [same, List.nil_append, List.append_nil]

theorem of_cons (id : Nat)
    (added : ∀ ready, change (core.withReady ready) = (change core).withReady (id :: ready)) :
    Blind change core := by
  refine ⟨[id], [], fun ready => ?_⟩
  rw [added, List.append_nil, List.singleton_append]

theorem comp (blind : Blind second (first core)) (before : Blind first core) :
    Blind (fun core => second (first core)) core := by
  rcases before with ⟨left, right, first_eq⟩
  rcases blind with ⟨outerLeft, outerRight, second_eq⟩
  refine ⟨outerLeft ++ left, right ++ outerRight, fun ready => ?_⟩
  dsimp only
  rw [first_eq, second_eq]
  simp only [List.append_assoc]

end Blind

section

variable (setup : Setup σ) (core : Core σ) (task : Pool.Task σ)

theorem blind_send (text : String) : Blind (fun core => (core.send text).2) core := by
  refine .of_same fun ready => ?_
  have link_eq : (core.withReady ready).link = core.link := rfl
  have outlets_eq : (core.withReady ready).outlets = core.outlets := rfl
  simp only [send, hand, link_eq, outlets_eq]
  cases core.link.route with
  | error failure => rfl
  | ok sink =>
      dsimp only
      cases core.outlets[sink]? with
      | none => rfl
      | some outlet =>
          dsimp only
          cases outlet.accept text with
          | error failure => rfl
          | ok after => cases outlet <;> rfl

theorem blind_acquire :
    Blind (fun core => { core with pool := core.pool.acquire task }) core := by
  cases taken : core.pool.permits.take? with
  | some left =>
      refine .of_cons task.id fun ready => ?_
      simp only [withReady, Pool.acquire, taken]
      rfl
  | none =>
      refine .of_same fun ready => ?_
      simp only [withReady, Pool.acquire, taken]
      rfl

theorem blind_retire : Blind (fun core => { core with pool := core.pool.retire task }) core := by
  cases job : task.job with
  | reportReply messageId code =>
      refine .of_same fun ready => ?_
      simp only [withReady, Pool.retire, job]
      rfl
  | invoke messageId device call =>
      have lane_eq (ready : List Nat) :
          (core.withReady ready).pool.lane? device = core.pool.lane? device := rfl
      rcases lane : core.pool.lane? device with - | (- | ⟨next, rest⟩)
      · refine .of_same fun ready => ?_
        simp only [Pool.retire, job, Pool.advanceLane, lane_eq, lane]
        rfl
      · refine .of_same fun ready => ?_
        simp only [Pool.retire, job, Pool.advanceLane, lane_eq, lane]
        rfl
      · refine .of_cons task.id fun ready => ?_
        simp only [Pool.retire, job, Pool.advanceLane, lane_eq, lane]
        rfl

theorem blind_endTask : Blind (fun core => core.endTask task) core := by
  let retired : Core σ := { core with pool := core.pool.retire task }
  have released :
      Blind (fun core => { core with pool := core.pool.releasePermit }) retired :=
    ⟨[], (retired.pool.permits.release 1).2, fun _ => rfl⟩
  exact released.comp (blind_retire core task)

theorem blind_runActivity (messageId : UInt32) (activity : Activity σ Json.Members) :
    Blind (fun core => core.runActivity task messageId activity) core := by
  have world_eq (ready : List Nat) : (core.withReady ready).world = core.world := rfl
  cases progress : (activity.run core.world).progress with
  | ended outcome =>
      have answered := (blind_endTask _ task).comp
        (blind_send (core.ranTo activity) (Envelope.response messageId
          (DeviceCall.answer outcome).1 (DeviceCall.answer outcome).2).text)
      rcases answered with ⟨before, after, ended_eq⟩
      refine ⟨before, after, fun ready => ?_⟩
      dsimp only
      rw [runActivity_of_ended core task messageId progress,
        runActivity_of_ended (core.withReady ready) task messageId progress]
      exact ended_eq ready
  | atGate gate rest =>
      refine .of_cons task.id fun ready => ?_
      rw [runActivity_of_atGate core task messageId progress,
        runActivity_of_atGate (core.withReady ready) task messageId progress]
      rfl

theorem blind_askGate (gate : String) (rest : Activity σ Json.Members) :
    Blind (fun core => core.askGate task gate rest) core := by
  have gates_eq (ready : List Nat) : (core.withReady ready).gates = core.gates := rfl
  cases passed : core.gates.pass? gate with
  | some gates =>
      refine .of_cons task.id fun ready => ?_
      simp only [askGate, gates_eq, passed]
      rfl
  | none =>
      refine .of_same fun ready => ?_
      simp only [askGate, gates_eq, passed]
      rfl

theorem blind_reportReply (messageId : UInt32) (code : Int32) :
    Blind (fun core => reportReply setup core messageId code) core := by
  unfold reportReply
  cases setup.replyObserver with
  | none => exact .of_same fun _ => rfl
  | some observer => cases observer <;> exact .of_same fun _ => rfl

theorem blind_beginJob : Blind (fun core => beginJob setup core task) core := by
  let begun : Core σ := { core with pool := core.pool.startJob }
  have begins : Blind (fun core => { core with pool := core.pool.startJob }) core :=
    .of_same fun _ => rfl
  unfold beginJob
  cases task.job with
  | invoke messageId device call => exact (blind_runActivity begun task messageId _).comp begins
  | reportReply messageId code =>
      have told := (blind_endTask _ task).comp (blind_reportReply setup begun messageId code)
      exact told.comp begins

theorem blind_stepTask : Blind (fun core => stepTask setup core task) core := by
  have unchanged : Blind (fun core => core) core := .of_same fun _ => rfl
  unfold stepTask
  cases task.stage with
  | fresh => exact blind_acquire core task
  | granted => exact blind_beginJob setup core task
  | atGate gate rest => exact blind_askGate core task gate rest
  | queueing | suspended => exact unchanged
  | resumable rest =>
      cases task.job with
      | invoke messageId device call => exact blind_runActivity core task messageId rest
      | reportReply messageId code => exact unchanged

/--
A step takes its task out of the ready queue, and may add tasks to it.  What it does to the
rest of the core is the same, whoever else is ready.
-/
theorem step_withReady (id : Nat) :
    ∃ before after, ∀ ready, step setup (core.withReady ready) id =
      (step setup core id).withReady (before ++ ready.erase id ++ after) := by
  have task_eq (ready : List Nat) : (core.withReady ready).pool.task? id = core.pool.task? id := rfl
  unfold step
  simp only [task_eq]
  cases core.pool.task? id with
  | none =>
      refine ⟨[], [], fun ready => ?_⟩
      rw [List.nil_append, List.append_nil]
      rfl
  | some task =>
      rcases blind_stepTask setup core task with ⟨before, after, changed⟩
      have step_eq (ready : List Nat) : stepTask setup (core.withReady ready) task =
          (stepTask setup core task).withReady (before ++ ready ++ after) := changed ready
      refine ⟨before, after, fun ready => ?_⟩
      calc stepTask setup (core.withReady (ready.erase id)) task
        _ = (stepTask setup core task).withReady (before ++ ready.erase id ++ after) :=
            step_eq (ready.erase id)
        _ = (stepTask setup (core.withReady (core.pool.ready.erase id)) task).withReady
              (before ++ ready.erase id ++ after) := by
            rw [step_eq (core.pool.ready.erase id)]
            rfl

end

/-! ## Settling -/

/--
In the middle of the turns some tasks are put off and the others are ready.  Nobody is in
both places, and all of them have a step to take.
-/
structure Underway (core : Core σ) (turns : Turns) (ready : List Nat) : Prop where
  present : (ready ++ turns.postponed).Perm core.pool.ready
  going : turns.allowance ≠ none → ready ≠ []

theorem underway_new (core : Core σ) : Underway core Turns.new core.pool.ready where
  present := by
    rw [Turns.new, List.append_nil]
  going := fun begun => absurd rfl begun

/--
The tasks that take a step, one after the other, when ready tasks take their turns.  Each is
chosen by the rules about turns.
-/
def settlersFor (setup : Setup σ) : Nat → Turns → Core σ → List Nat
  | 0, _, _ => []
  | count + 1, turns, core =>
      let (begun, ready) := turns.begin core.pool.ready
      match ready with
      | [] => []
      | id :: _ =>
          let charged := if core.isAt id Pool.Stage.receives then begun.charge else begun
          let stepped := step setup (core.withReady ready) id
          let (next, remaining) :=
            charged.afterStep id (stepped.isAt id Pool.Stage.asks) stepped.pool.ready
          id :: settlersFor setup count next (stepped.withReady remaining)

/--
The tasks that take a step when a core settles.  They are the schedule that settling amounts
to.
-/
def settlers (setup : Setup σ) (core : Core σ) : List Nat :=
  settlersFor setup core.pendingSteps Turns.new core

section

variable (setup : Setup σ)

theorem ready_le_pendingSteps (core : Core σ) : core.pool.ready.length ≤ core.pendingSteps := by
  rw [pendingSteps_eq, stepsOfPool]
  omega

theorem withReady_of_eq {core : Core σ} {ready : List Nat} (same : core.pool.ready = ready) :
    core.withReady ready = core := by
  subst same
  rfl

variable {core : Core σ} {turns : Turns} {ready : List Nat}

/--
The turns are spent when the queue is empty at the beginning of one.  There is nobody left
to be put off either.
-/
theorem settleFor_of_nil (underway : Underway core turns ready) (count : Nat)
    (nobody : (turns.begin ready).2 = []) :
    core.pool.ready = [] ∧ settleFor setup (count + 1) turns (core.withReady ready) = core ∧
      settlersFor setup (count + 1) turns (core.withReady ready) = [] := by
  have empty := turns.eq_nil_of_begin ready underway.going nobody
  have none_ready : core.pool.ready = [] := by
    have present := underway.present
    rw [empty] at present
    exact present.symm.eq_nil
  have ready_eq : (core.withReady ready).pool.ready = ready := rfl
  rw [settleFor, settlersFor, ready_eq]
  simp only [nobody]
  rw [(List.append_eq_nil_iff.mp empty).1]
  exact ⟨none_ready, withReady_of_eq none_ready, trivial⟩

/--
A turn lets a task take a single step.  What follows the step is settled in the core that it
leaves.
-/
theorem settleFor_of_cons (underway : Underway core turns ready) (count : Nat) {id : Nat}
    {rest : List Nat} (front : (turns.begin ready).2 = id :: rest) :
    id ∈ core.pool.ready ∧ ∃ next remaining,
      settleFor setup (count + 1) turns (core.withReady ready) =
        settleFor setup count next ((step setup core id).withReady remaining) ∧
      settlersFor setup (count + 1) turns (core.withReady ready) =
        id :: settlersFor setup count next ((step setup core id).withReady remaining) ∧
      Underway (step setup core id) next remaining := by
  have begun := (turns.perm_begin ready).trans underway.present
  rw [front] at begun
  rcases step_withReady setup core id with ⟨before, after, step_eq⟩
  have stepped := step_eq (id :: rest)
  rw [List.erase_cons_head] at stepped
  have whole : (step setup core id).pool.ready = before ++ core.pool.ready.erase id ++ after :=
    congrArg (fun core => core.pool.ready) (step_eq core.pool.ready)
  have others : (rest ++ (turns.begin ready).1.postponed).Perm (core.pool.ready.erase id) := by
    have rest_perm := begun.erase id
    rwa [List.cons_append, List.erase_cons_head] at rest_perm
  have ready_eq : (core.withReady ready).pool.ready = ready := rfl
  have again : (core.withReady ready).withReady (id :: rest) = core.withReady (id :: rest) := rfl
  refine ⟨begun.subset List.mem_cons_self, ?_⟩
  rw [settleFor, settlersFor, ready_eq]
  simp only [front, again]
  rw [stepped]
  generalize charged_eq : (if (core.withReady ready).isAt id Pool.Stage.receives = true then
    (turns.begin ready).1.charge else (turns.begin ready).1) = charged
  have postponed_eq : charged.postponed = (turns.begin ready).1.postponed := by
    rw [← charged_eq]
    split <;> rfl
  refine ⟨_, _, rfl, rfl, ?_, charged.ne_nil_of_afterStep _ id _⟩
  refine (charged.perm_afterStep _ id _).trans ?_
  rw [whole, postponed_eq]
  have middle := (others.append_left before).append_right after
  refine List.Perm.trans ?_ middle
  simp only [withReady, List.append_assoc]
  exact (List.perm_append_comm.append_left rest).append_left before

/--
Turns that have enough steps left do what some single steps do.  The core that they work on
lacks the tasks that have been put off.  It gets them back as they become ready again.
-/
theorem settleFor_eq_run {past : List Happening} (accounted : Accounted setup past core)
    (underway : Underway core turns ready) {count : Nat} (enough : core.pendingSteps ≤ count) :
    let tasks := settlersFor setup count turns (core.withReady ready)
    GoOn setup core tasks ∧
      settleFor setup count turns (core.withReady ready) = run setup core (tasks.map .step) ∧
      (run setup core (tasks.map .step)).pool.ready = [] := by
  induction count generalizing past core turns ready with
  | zero =>
      have nobody : core.pool.ready = [] := List.eq_nil_of_length_eq_zero
        (Nat.le_zero.mp (Nat.le_trans (ready_le_pendingSteps core) enough))
      have nothing := underway.present
      rw [nobody] at nothing
      have settled : settleFor setup 0 turns (core.withReady ready) =
          core.withReady (ready ++ turns.postponed) := rfl
      rw [settled, nothing.eq_nil]
      exact ⟨trivial, withReady_of_eq nobody, nobody⟩
  | succ count ih =>
      cases front : (turns.begin ready).2 with
      | nil =>
          rcases settleFor_of_nil setup underway count front with ⟨nobody, settled, settlers_eq⟩
          rw [settled, settlers_eq]
          exact ⟨trivial, rfl, nobody⟩
      | cons id rest =>
          rcases settleFor_of_cons setup underway count front with
            ⟨isReady, next, remaining, settled, settlers_eq, goes_on⟩
          have fewer := pendingSteps_step setup accounted.coherent accounted.gates_distinct isReady
          rcases ih (accounted.step id) goes_on (by omega) with ⟨goOn, run_eq, nobody⟩
          rw [settled, settlers_eq]
          exact ⟨⟨isReady, goOn⟩, run_eq, nobody⟩

/-- Settling lets its settlers take single steps.  It does nothing else. -/
theorem settle_eq_run_settlers {past : List Happening} (accounted : Accounted setup past core) :
    core.settle setup = run setup core ((core.settlers setup).map .step) :=
  (settleFor_eq_run setup accounted (underway_new core) (Nat.le_refl _)).2.1

/--
Settling lets tasks take single steps until nobody is ready.  That makes the settled core
one that is reached by a run.
-/
theorem settle_eq_run {past : List Happening} (accounted : Accounted setup past core) :
    ∃ tasks, GoOn setup core tasks ∧
      core.settle setup = run setup core (tasks.map .step) ∧
      (core.settle setup).pool.ready = [] := by
  rcases settleFor_eq_run setup accounted (underway_new core) (Nat.le_refl _) with
    ⟨goOn, run_eq, nobody⟩
  have settled := settle_eq_run_settlers setup accounted
  exact ⟨core.settlers setup, goOn, settled, settled ▸ nobody⟩

end

end Core
end DeviceLink
