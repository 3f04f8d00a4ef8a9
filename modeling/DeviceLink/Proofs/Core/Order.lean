import DeviceLink.Proofs.Core.Accounting
import DeviceLink.Proofs.Pool.Queue

namespace DeviceLink
namespace Core

/-!
The order of permits.  A lane that ends a call gives back its permit before it asks for
the next one, so whoever has been waiting gets a permit first, in whatever order tasks
take their steps.  From then on a waiting task and the lane are on equal terms: both
hold permits, and a scheduler may let the lane begin first.  What stays true is that the
task keeps its permit until it begins.  `before_next_call` is about all tasks that wait
when a call ends: by the time the lane's next call begins, each of them has got its
permit or has begun.
-/

variable {σ : Type} {setup : Setup σ} {core next : Core σ} {shown : List Happening}

/-! ## Waiting behind somebody -/

theorem behind_of_effect {permits : Nat} {first : Pool.Task σ} {second : Nat}
    (effect : Effect core next shown)
    (coherent : core.pool.Coherent permits core.gates.waiting)
    (behind : core.pool.Behind first second) :
    next.pool.Behind first second ∨ next.pool.Preferred first second := by
  induction effect with
  | beside pool_eq _ =>
      rw [pool_eq]
      exact Or.inl behind
  | transition transition _ _ => exact transition.behind coherent behind
  | aside _ _ _ ih => exact ih

/-! ## From the permit to the beginning -/

/--
Whatever happens outside, a task that has its permit keeps it.  Opening a gate changes the
stages of tasks, but only of those that wait there.
-/
theorem granted_of_outside {permits : Nat} {task : Pool.Task σ}
    (outside : Outside core next shown)
    (coherent : core.pool.Coherent permits core.gates.waiting)
    (granted : core.pool.task? task.id = some { task with stage := .granted }) :
    next.pool.task? task.id = some { task with stage := .granted } := by
  induction outside with
  | beside pool_eq _ => rwa [pool_eq]
  | accept job submitted _ =>
      rcases Pool.mem_of_task? granted with ⟨member, -⟩
      have old := Nat.ne_of_lt (coherent.ids_lt _ member)
      have kept := Pool.task?_enqueue { core.pool with queued := core.pool.queued + 1 } job old
      rw [(Pool.submit_ok submitted).2.2]
      exact kept.trans granted
  | openGate gate permits pool_eq _ =>
      rw [pool_eq, Pool.task?_awaken, granted]
      split <;> rfl
  | close pool_eq _ => rwa [pool_eq]
  | aside _ _ _ ih => exact ih

section

variable {task : Pool.Task σ} {pool : Pool σ} {gates : Gates}
  (way : Stepping core task shown pool gates)

include way

/--
A step of another task may hand on a permit, but takes none away.  So nothing but its own
step can end the time between permit and beginning.
-/
theorem granted_of_stepping {other : Pool.Task σ} (apart : other.id ≠ task.id)
    (granted : core.pool.task? other.id = some { other with stage := .granted }) :
    pool.task? other.id = some { other with stage := .granted } := by
  cases way with
  | ask _ => exact (Pool.task?_acquire (core.pool.leaveReady task.id) task apart).trans granted
  | arrive gate rest _ _ =>
      rw [Pool.task?_proceed, Pool.task?_takeUp]
      · exact granted
      · exact apart
  | finish answer _ =>
      have left : ((core.pool.takeUp task).retire task).task? other.id =
          some { other with stage := .granted } := by
        rw [Pool.task?_retire _ _ apart, Pool.task?_takeUp]
        exact granted
      rw [Pool.releasePermit, Pool.task?_awaken]
      split
      · exact congrArg (Option.map _) left
      · exact left
  | pass gate rest gates _ _ =>
      rw [Pool.task?_proceed]
      · exact granted
      · exact apart
  | block gate rest _ _ =>
      rw [Pool.task?_setTask, if_neg]
      · exact granted
      · exact apart

/-- Only a task that has just got its permit begins a job.  The job that begins is its own. -/
theorem granted_of_began {job : Job} (began : .began job ∈ shown) :
    task.stage = .granted ∧ task.job = job := by
  have of_beginning (receives : task.stage.receives = true)
      (inside : .began job ∈ Pool.beginning task) : task.stage = .granted ∧ task.job = job := by
    unfold Pool.beginning at inside
    cases stage : task.stage with
    | granted =>
        rw [stage] at inside
        cases List.mem_singleton.mp inside
        exact ⟨rfl, rfl⟩
    | resumable rest =>
        rw [stage] at inside
        cases inside
    | fresh | queueing | atGate | suspended =>
        rw [stage] at receives
        cases receives
  cases way with
  | ask | pass | block => cases began
  | arrive gate rest receives _ => exact of_beginning receives began
  | finish answer receives =>
      rcases List.mem_append.mp began with inside | ended
      · exact of_beginning receives inside
      · cases List.mem_singleton.mp ended

/--
A task that has got its permit begins its job when it takes its step.  Beginning is the
first thing that the step shows.
-/
theorem began_of_granted (granted : task.stage = .granted) : .began task.job ∈ shown := by
  have begins : Pool.beginning task = [.began task.job] := by
    rw [Pool.beginning, granted]
    rfl
  cases way with
  | ask other | pass _ _ _ other | block _ _ other =>
      rw [granted] at other
      cases other
  | arrive => exact begins ▸ List.mem_singleton_self _
  | finish => exact List.mem_append_left _ (begins ▸ List.mem_singleton_self _)

/--
A call ends with the task giving back its permit, after it has turned to the next call.  The
order of the two decides who is served first.
-/
theorem finish_of_ended {job : Job} {answer : Option (Int32 × Json.Members)}
    (ended : .ended job answer ∈ shown) :
    task.stage.receives = true ∧
      pool = ((core.pool.takeUp task).retire task).releasePermit := by
  cases way with
  | ask | pass | block => cases ended
  | finish _ receives => exact ⟨receives, rfl⟩
  | arrive =>
      unfold Pool.beginning at ended
      split at ended
      · cases ended
      · cases List.mem_singleton.mp ended

end

/-! ## A lane goes on with its next call -/

/--
The step of a task ends a call, and its lane has another one.  The lane does not get a new
task; the same one turns to the next call.
-/
structure GoesOn (setup : Setup σ) (core : Core σ) (lane : Nat) : Prop where
  ends : ∃ job answer, .ended job answer ∈ stepped setup core lane
  more : ((step setup core lane).pool.task? lane).isSome = true

/--
Whoever waits for a permit when a call ends comes before the next call of the lane: it gets
the permit of that call, or goes on waiting for one of which the lane has not asked yet.
-/
theorem before_next_call {past : List Happening} {lane : Nat} {waiting : Pool.Task σ}
    (accounted : Accounted setup past core) (goesOn : GoesOn setup core lane)
    (waits : core.pool.Waits waiting) :
    lane ≠ waiting.id ∧
      ((step setup core lane).pool.Behind waiting lane ∨
        (step setup core lane).pool.Preferred waiting lane) := by
  have coherent := accounted.coherent
  rcases goesOn with ⟨⟨job, answer, ended⟩, more⟩
  have ready : lane ∈ core.pool.ready := by
    by_contra absent
    rw [(step_of_not_ready coherent setup absent).2] at ended
    cases ended
  rcases stepping_of_ready coherent setup ready with ⟨task, found, rfl, -, way⟩
  rcases finish_of_ended way ended with ⟨receives, pool_eq⟩
  have queueing := (coherent.mem_waiters_iff waits.found).mp waits.queued
  have apart : task.id ≠ waiting.id := by
    intro same
    have present := waits.found
    rw [← same, found] at present
    cases present
    rw [queueing] at receives
    cases receives
  have transition : core.pool.Transition core.gates.waiting _ _ _ :=
    .finish task answer found receives
  rw [pool_eq] at more ⊢
  rcases Pool.fresh_of_finish coherent found receives more with ⟨next, looked, fresh⟩
  refine ⟨apart, ?_⟩
  cases transition.fate coherent waits.found (by rw [queueing]; rfl) with
  | stays still => exact Or.inl ⟨apart, queueing, still, next, looked, Or.inl fresh⟩
  | served granted => exact Or.inr ⟨granted, next, looked, by rw [fresh]; rfl⟩
  | joins stage | takes stage =>
      rw [queueing] at stage
      cases stage

/-! ## Runs -/

/--
The task begins its job by a step of its own in the course of the run.  No step of another
task can begin it.
-/
def Begins (setup : Setup σ) (core : Core σ) (moves : List (Move σ)) (task : Pool.Task σ) : Prop :=
  ∃ before after, moves = before ++ .step task.id :: after ∧
    .began task.job ∈ stepped setup (run setup core before) task.id

theorem Begins.prepend {task : Pool.Task σ} (before : List (Move σ)) {moves : List (Move σ)}
    (begins : Begins setup (run setup core before) moves task) :
    Begins setup core (before ++ moves) task := by
  rcases begins with ⟨first, after, rfl, began⟩
  refine ⟨before ++ first, after, (List.append_assoc _ _ _).symm, ?_⟩
  have split : run setup core (before ++ first) = run setup (run setup core before) first :=
    List.foldl_append
  rwa [split]

section

variable {past : List Happening} {moves : List (Move σ)}

/--
Whoever waits behind somebody goes on waiting until some moment when that one has its
permit.  The queue is first come, first served, and nobody ever joins it in front.
-/
theorem preferred_of_behind (accounted : Accounted setup past core)
    (orderly : ∀ move ∈ moves, move.isAbort = false) {first : Pool.Task σ} {second : Nat}
    (behind : core.pool.Behind first second) :
    (∃ before after, moves = before ++ after ∧
        (run setup core before).pool.Preferred first second) ∨
      (run setup core moves).pool.Behind first second := by
  induction moves generalizing core past with
  | nil => exact Or.inr behind
  | cons move rest ih =>
      have kind := orderly move List.mem_cons_self
      have others := fun other inside => orderly other (List.mem_cons_of_mem move inside)
      have effect := effect_perform accounted.coherent setup accounted.gates_distinct kind
      rcases behind_of_effect effect accounted.coherent behind with still | preferred
      · rcases ih (accounted.perform kind) others still with ⟨before, after, rfl, preferred⟩ | still
        · exact Or.inl ⟨move :: before, after, rfl, preferred⟩
        · exact Or.inr still
      · exact Or.inl ⟨[move], rest, rfl, preferred⟩

/--
A task that has got its permit has begun after any run, or it has its permit still.  Which
of the two depends on the schedule, and nothing here says when it takes its step.
-/
theorem begins_or_granted (accounted : Accounted setup past core)
    (orderly : ∀ move ∈ moves, move.isAbort = false) {task : Pool.Task σ}
    (granted : core.pool.task? task.id = some { task with stage := .granted }) :
    Begins setup core moves task ∨
      (run setup core moves).pool.task? task.id = some { task with stage := .granted } := by
  induction moves generalizing core past with
  | nil => exact Or.inr granted
  | cons move rest ih =>
      have kind := orderly move List.mem_cons_self
      have others := fun other inside => orderly other (List.mem_cons_of_mem move inside)
      have onwards
          (still : (perform setup core move).pool.task? task.id =
            some { task with stage := .granted }) :
          Begins setup core (move :: rest) task ∨
            (run setup core (move :: rest)).pool.task? task.id =
              some { task with stage := .granted } :=
        (ih (accounted.perform kind) others still).imp_left (Begins.prepend [move])
      cases foreign : move.step? with
      | none =>
          exact onwards (granted_of_outside (outside_perform setup core kind foreign)
            accounted.coherent granted)
      | some id =>
          cases move <;> cases foreign
          by_cases own : task.id = id
          · subst own
            have ready := (accounted.coherent.mem_ready_iff granted).mpr rfl
            rcases stepping_of_ready accounted.coherent setup ready with ⟨same, found, -, -, way⟩
            rw [granted] at found
            cases found
            have began := began_of_granted way rfl
            exact Or.inl ⟨[], rest, rfl, began⟩
          · apply onwards
            change (step setup core id).pool.task? task.id = some { task with stage := .granted }
            by_cases ready : id ∈ core.pool.ready
            · rcases stepping_of_ready accounted.coherent setup ready with ⟨stepper, -, rfl, -, way⟩
              exact granted_of_stepping way own granted
            · rw [(step_of_not_ready accounted.coherent setup ready).1]
              exact granted

end

end Core
end DeviceLink
