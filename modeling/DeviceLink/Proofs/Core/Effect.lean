import DeviceLink.Proofs.Core.Apart
import DeviceLink.Proofs.Core.Gates
import DeviceLink.Proofs.Core.Routing
import DeviceLink.Proofs.Pool.Ledger

namespace DeviceLink
namespace Core

variable {σ : Type}

/-!
What a move of a core does to the pool and the gates.  A step of a task is of one of
five kinds, and every move that abandons no tasks leaves the pool alone or is one of its
transitions.  Whatever the transitions of a pool keep is therefore kept by moves, and no
later proof has to follow an operation of the core again.  `Effect` is the list of what
there can be, and `effect_perform` says that there is nothing else.  What goes on beside
the pool, in the log, the registry and the link, is left open here, and has modules of
its own.
-/

/-! ## Operations beside the pool -/

/--
Neither the pool nor the gates nor the world of device code is touched.  Such operations
matter to nothing that is proved about tasks.
-/
structure Beside (core next : Core σ) : Prop where
  pool_eq : next.pool = core.pool
  gates_eq : next.gates = core.gates
  world_eq : next.world = core.world

namespace Beside

theorem refl (core : Core σ) : Beside core core := ⟨rfl, rfl, rfl⟩

theorem trans {core next last : Core σ} (first : Beside core next) (second : Beside next last) :
    Beside core last where
  pool_eq := second.pool_eq.trans first.pool_eq
  gates_eq := second.gates_eq.trans first.gates_eq
  world_eq := second.world_eq.trans first.world_eq

theorem of_outward {core next : Core σ} (outward : Outward core next) : Beside core next := by
  rcases outward with ⟨outlets, log, rfl⟩
  exact ⟨rfl, rfl, rfl⟩

end Beside

section

variable (setup : Setup σ) (core : Core σ)

theorem beside_apply (update : Link.Update) : Beside core (apply setup core update) := by
  unfold apply publish
  split
  · split <;> exact ⟨rfl, rfl, rfl⟩
  · exact ⟨rfl, rfl, rfl⟩

theorem beside_establish (outlet : Outlet) : Beside core (core.establish setup outlet).2 := by
  have added : Beside core { core with outlets := core.outlets ++ [outlet] } := ⟨rfl, rfl, rfl⟩
  exact added.trans (beside_apply setup _ _)

theorem beside_send (text : String) : Beside core (core.send text).2 :=
  .of_outward (outward_send core text)

theorem beside_sendAsync (device : Address) (request : Request) :
    Beside core (core.sendAsync device request).2 := by
  unfold sendAsync
  split
  · exact Beside.refl core
  · rename_i payload _
    have sent := beside_send core.takeId.2 (request.frame core.takeId.1 payload)
    have counted : Beside core core.takeId.2 := ⟨rfl, rfl, rfl⟩
    dsimp only
    split <;> rename_i result <;> rw [result] at sent <;> exact counted.trans sent

theorem beside_openWait (request : Request) (messageId : UInt32) (payload : Json.Members)
    (due : Nat) (budget : Duration) :
    Beside core (core.openWait request messageId payload due budget).2 := by
  unfold openWait
  split
  · exact Beside.refl core
  · rename_i token registry _
    have registered : Beside core { core with registry := registry } := ⟨rfl, rfl, rfl⟩
    have sent := beside_send { core with registry := registry } (request.frame messageId payload)
    split <;> rename_i result <;> rw [result] at sent
    · exact registered.trans sent
    · exact (registered.trans sent).trans ⟨rfl, rfl, rfl⟩

theorem beside_sendSync (device : Address) (request : Request) (now : Nat) (budget : Duration) :
    Beside core (core.sendSync device request now budget).2 := by
  unfold sendSync
  split
  · exact Beside.refl core
  · split
    · exact Beside.refl core
    · have counted : Beside core core.takeId.2 := ⟨rfl, rfl, rfl⟩
      exact counted.trans (beside_openWait core.takeId.2 _ _ _ _ _)

theorem beside_onNewestQueue (change : Outlet → List String × Outlet) :
    Beside core (core.onNewestQueue change).2 := .of_outward (outward_onNewestQueue core change)

theorem beside_reportReply (messageId : UInt32) (code : Int32) :
    Beside core (reportReply setup core messageId code) :=
  .of_outward (outward_reportReply setup core messageId code)

end

/-! ## Steps of tasks -/

/--
The core after a stretch of device code.  The world is the one that the code has left, and
its notes are in the log.
-/
def ranTo (core : Core σ) (activity : Activity σ Json.Members) : Core σ :=
  { core with
    world := (activity.run core.world).world
    log := core.log ++ (activity.run core.world).notes.map Event.note }

section

variable (core : Core σ) (task : Pool.Task σ) (messageId : UInt32)

theorem runActivity_of_ended {activity : Activity σ Json.Members} {outcome : Outcome Json.Members}
    (ended : (activity.run core.world).progress = .ended outcome) :
    core.runActivity task messageId activity =
      (core.ranTo activity).endCall task messageId outcome := by
  simp only [runActivity, ended]
  rfl

theorem runActivity_of_atGate {activity : Activity σ Json.Members} {gate : String}
    {rest : Activity σ Json.Members}
    (arrived : (activity.run core.world).progress = .atGate gate rest) :
    core.runActivity task messageId activity =
      { core.ranTo activity with
        pool := core.pool.proceed { task with stage := .atGate gate rest } } := by
  simp only [runActivity, arrived]
  rfl

theorem pool_endTask : (core.endTask task).pool = (core.pool.retire task).releasePermit := rfl

theorem pool_endCall (outcome : Outcome Json.Members) :
    (core.endCall task messageId outcome).pool = (core.pool.retire task).releasePermit := by
  have answered := beside_send core (Envelope.response messageId (DeviceCall.answer outcome).1
    (DeviceCall.answer outcome).2).text
  rw [← answered.pool_eq]
  exact pool_endTask _ task

theorem gates_endCall (outcome : Outcome Json.Members) :
    (core.endCall task messageId outcome).gates = core.gates :=
  (beside_send core (Envelope.response messageId (DeviceCall.answer outcome).1
    (DeviceCall.answer outcome).2).text).gates_eq

end

/--
What the step of a ready task does, one case for each kind of step.  It asks for a permit,
runs code up to a gate or to the end of its job, passes a gate, or is held up at one.
-/
inductive Stepping (core : Core σ) (task : Pool.Task σ) : List Happening → Pool σ → Gates → Prop
  | ask (stage : task.stage = .fresh) :
      Stepping core task [] ((core.pool.leaveReady task.id).acquire task) core.gates
  | arrive (gate : String) (rest : Activity σ Json.Members)
      (receives : task.stage.receives = true) (isCall : task.job.device? ≠ none) :
      Stepping core task (Pool.beginning task)
        ((core.pool.takeUp task).proceed { task with stage := .atGate gate rest }) core.gates
  | finish (answer : Option (Int32 × Json.Members)) (receives : task.stage.receives = true) :
      Stepping core task (Pool.beginning task ++ [.ended task.job answer])
        ((core.pool.takeUp task).retire task).releasePermit core.gates
  | pass (gate : String) (rest : Activity σ Json.Members) (gates : Gates)
      (stage : task.stage = .atGate gate rest) (passed : core.gates.pass? gate = some gates) :
      Stepping core task []
        ((core.pool.leaveReady task.id).proceed { task with stage := .resumable rest }) gates
  | block (gate : String) (rest : Activity σ Json.Members) (stage : task.stage = .atGate gate rest)
      (shut : core.gates.pass? gate = none) :
      Stepping core task []
        ((core.pool.leaveReady task.id).setTask { task with stage := .suspended rest })
        (core.gates.enqueue gate task.id)

section

variable {core taken : Core σ} {task : Pool.Task σ}

/--
Code of a call runs up to a gate or to the end of the call.  It may be the code that begins
the call, or what is left of it.
-/
theorem stepping_runActivity (receives : task.stage.receives = true)
    (isCall : task.job.device? ≠ none) (pool_eq : taken.pool = core.pool.takeUp task)
    (gates_eq : taken.gates = core.gates) (world_eq : taken.world = core.world)
    (messageId : UInt32) (activity : Activity σ Json.Members) :
    Stepping core task (Pool.beginning task ++ concluded task.job activity core.world)
      (taken.runActivity task messageId activity).pool
      (taken.runActivity task messageId activity).gates := by
  rw [concluded, ← world_eq]
  cases progress : (activity.run taken.world).progress with
  | ended outcome =>
      rw [runActivity_of_ended taken task messageId progress, pool_endCall, gates_endCall]
      have pool_ran : (taken.ranTo activity).pool = core.pool.takeUp task := pool_eq
      have gates_ran : (taken.ranTo activity).gates = core.gates := gates_eq
      rw [pool_ran, gates_ran]
      exact .finish (some (DeviceCall.answer outcome)) receives
  | atGate gate rest =>
      rw [runActivity_of_atGate taken task messageId progress, List.append_nil, pool_eq]
      have gates_ran : (taken.ranTo activity).gates = core.gates := gates_eq
      rw [gates_ran]
      exact .arrive gate rest receives isCall

/-- A call asks a gate.  It gets a free permit at once, or joins those who wait there. -/
theorem stepping_askGate {gate : String} {rest : Activity σ Json.Members}
    (stage : task.stage = .atGate gate rest) (pool_eq : taken.pool = core.pool.leaveReady task.id)
    (gates_eq : taken.gates = core.gates) :
    Stepping core task [] (taken.askGate task gate rest).pool
      (taken.askGate task gate rest).gates := by
  unfold askGate
  rw [gates_eq]
  cases passed : core.gates.pass? gate with
  | some gates =>
      dsimp only
      rw [pool_eq]
      exact .pass gate rest gates stage passed
  | none =>
      dsimp only
      rw [pool_eq]
      exact .block gate rest stage passed

/-- A task that has its permit begins its job.  A report ends in the same step, and a call may. -/
theorem stepping_beginJob (setup : Setup σ) (found : core.pool.task? task.id = some task)
    (stage : task.stage = .granted) (pool_eq : taken.pool = core.pool.leaveReady task.id)
    (gates_eq : taken.gates = core.gates) (world_eq : taken.world = core.world) :
    Stepping core task (stepped setup core task.id) (beginJob setup taken task).pool
      (beginJob setup taken task).gates := by
  have receives : task.stage.receives = true := by
    rw [stage]
    rfl
  have begins : Pool.beginning task = [.began task.job] := by
    rw [Pool.beginning, stage]
    rfl
  have taken_up : taken.pool.startJob = core.pool.takeUp task := by
    rw [pool_eq, Pool.takeUp, stage]
    rfl
  unfold beginJob
  cases job : task.job with
  | invoke messageId device call =>
      simp only [stepped, found, stage, job]
      have isCall : task.job.device? ≠ none := by
        rw [job]
        exact Option.some_ne_none _
      let begun : Core σ := { taken with pool := taken.pool.startJob }
      have begun_eq : begun.pool = core.pool.takeUp task := taken_up
      have ran := stepping_runActivity receives isCall begun_eq gates_eq world_eq messageId
        (call.perform setup.handler setup.options.outputSlots device)
      rw [begins, job] at ran
      exact ran
  | reportReply messageId code =>
      simp only [stepped, found, stage, job]
      have told :=
        beside_reportReply setup { taken with pool := taken.pool.startJob } messageId code
      have ended : Stepping core task _ _ _ := .finish none receives
      rw [begins, job, ← taken_up] at ended
      rw [pool_endTask, told.pool_eq]
      have gates_told : ((reportReply setup
          { taken with pool := taken.pool.startJob } messageId code).endTask task).gates =
            core.gates := told.gates_eq.trans gates_eq
      rw [gates_told]
      exact ended

/-- The step of a task that can go on.  The stage of the task decides which of the kinds it is. -/
theorem stepping (setup : Setup σ) (found : core.pool.task? task.id = some task)
    (ready : task.stage.isReady = true)
    (direct : task.job.device? = none → task.stage.isRunning = false) :
    Stepping core task (stepped setup core task.id) (step setup core task.id).pool
      (step setup core task.id).gates := by
  let taken : Core σ := { core with pool := core.pool.leaveReady task.id }
  have step_eq : step setup core task.id = stepTask setup taken task := by
    simp only [step, found]
    rfl
  rw [step_eq]
  unfold stepTask
  cases stage : task.stage with
  | fresh =>
      simp only [stepped, found, stage]
      exact .ask stage
  | granted => exact stepping_beginJob setup found stage rfl rfl rfl
  | atGate gate rest =>
      simp only [stepped, found, stage]
      exact stepping_askGate stage rfl rfl
  | queueing | suspended =>
      rw [stage] at ready
      cases ready
  | resumable rest =>
      cases job : task.job with
      | reportReply messageId code =>
          rw [job, stage] at direct
          cases direct rfl
      | invoke messageId device call =>
          have receives : task.stage.receives = true := by
            rw [stage]
            rfl
          have isCall : task.job.device? ≠ none := by
            rw [job]
            exact Option.some_ne_none _
          have goes_on : Pool.beginning task = [] := by
            rw [Pool.beginning, stage]
            rfl
          have taken_up : taken.pool = core.pool.takeUp task := by
            rw [Pool.takeUp, stage]
            rfl
          have ran := stepping_runActivity receives isCall taken_up rfl rfl messageId rest
          rw [goes_on, List.nil_append, job] at ran
          simp only [stepped, found, stage, job]
          exact ran

end

/-! ## Moves -/

/--
What happens to the pool and the gates from outside.  A job is accepted, a gate is opened,
or the pool is closed.
-/
inductive Outside (core next : Core σ) : List Happening → Prop
  | beside (pool_eq : next.pool = core.pool) (gates_eq : next.gates = core.gates) :
      Outside core next []
  | accept (job : Job) (submitted : core.pool.submit job = .ok next.pool)
      (gates_eq : next.gates = core.gates) : Outside core next [.accepted job]
  | openGate (gate : String) (permits : Nat)
      (pool_eq : next.pool =
        core.pool.awaken (core.gates.release gate permits).2 Pool.Stage.resume)
      (gates_eq : next.gates = (core.gates.release gate permits).1) : Outside core next []
  | close (pool_eq : next.pool = core.pool.close.1) (gates_eq : next.gates = core.gates) :
      Outside core next []
  /-- Something happens beside that is no matter of a job. -/
  | aside (happening : Happening) (aside : happening.job? = none) {shown : List Happening}
      (outside : Outside core next shown) : Outside core next (happening :: shown)

namespace Outside

variable {core next last : Core σ} {shown : List Happening}

theorem of_beside (beside : Beside core next) : Outside core next [] :=
  .beside beside.pool_eq beside.gates_eq

/-- Afterwards something else changes.  The pool and the gates do not notice. -/
theorem before_beside (outside : Outside core next shown) (beside : Beside next last) :
    Outside core last shown := by
  induction outside with
  | beside pool_eq gates_eq =>
      exact .beside (beside.pool_eq.trans pool_eq) (beside.gates_eq.trans gates_eq)
  | accept job submitted gates_eq =>
      exact .accept job (beside.pool_eq ▸ submitted) (beside.gates_eq.trans gates_eq)
  | openGate gate permits pool_eq gates_eq =>
      exact .openGate gate permits (beside.pool_eq.trans pool_eq)
        (beside.gates_eq.trans gates_eq)
  | close pool_eq gates_eq =>
      exact .close (beside.pool_eq.trans pool_eq) (beside.gates_eq.trans gates_eq)
  | aside happening aside _ ih => exact .aside happening aside ih

/-- Before that something else has changed.  The order of the two makes no difference. -/
theorem after_beside (outside : Outside next last shown) (pool_eq : next.pool = core.pool)
    (gates_eq : next.gates = core.gates) : Outside core last shown := by
  induction outside with
  | beside same_pool same_gates =>
      exact .beside (same_pool.trans pool_eq) (same_gates.trans gates_eq)
  | accept job submitted same_gates =>
      exact .accept job (pool_eq ▸ submitted) (same_gates.trans gates_eq)
  | openGate gate permits same_pool same_gates =>
      rw [pool_eq, gates_eq] at same_pool
      rw [gates_eq] at same_gates
      exact .openGate gate permits same_pool same_gates
  | close same_pool same_gates =>
      exact .close (pool_eq ▸ same_pool) (same_gates.trans gates_eq)
  | aside happening aside _ ih => exact .aside happening aside ih

end Outside

section

variable (setup : Setup σ) (core : Core σ)

theorem outside_submit (job : Job) :
    Outside core (core.submit job).2 (core.admitted (some job)) := by
  simp only [submit, admitted]
  cases submitted : core.pool.submit job with
  | ok pool => exact .accept job submitted rfl
  | error failure => exact .beside rfl rfl

theorem outside_receive (text : String) :
    Outside core (receive setup core text).2 (observe setup core (.receive text)) := by
  have way := routing setup core text
  rw [observe]
  refine .aside _ rfl ?_
  generalize (receive setup core text).1 = verdict at way
  generalize (receive setup core text).2 = after at way ⊢
  generalize offered? setup core text = offer at way ⊢
  cases way with
  | dropped | delivered | unmatched => exact .beside rfl rfl
  | observed reply => exact (outside_submit (core.deliver reply).2 _).after_beside rfl rfl
  | submitted => exact outside_submit core _
  | unreadable => exact .of_beside (beside_send core _)
  | refused messageId _ _ device call failure _ _ _ refused =>
      have offered := outside_submit core (.invoke messageId device call)
      rw [refused] at offered
      exact offered.before_beside (beside_send core _)

theorem outside_outgoing (device : Address) (request : Request) {next : Core σ}
    (beside : Beside core next) : Outside core next (core.outgoing device request) := by
  unfold outgoing
  split
  · exact .aside _ rfl (.of_beside beside)
  · exact .of_beside beside

end

namespace Move

/-- The task that a move is a step of.  No other move has one. -/
def step? : Move σ → Option Nat
  | step task => some task
  | _ => none

end Move

/--
A move that is neither the step of a task nor abandons tasks comes from outside.  The cases
are those of the operations that can come from there.
-/
theorem outside_perform (setup : Setup σ) (core : Core σ) {move : Move σ}
    (orderly : move.isAbort = false) (foreign : move.step? = none) :
    Outside core (perform setup core move) (observe setup core move) := by
  cases move with
  | establish outlet => exact .of_beside (beside_establish setup core outlet)
  | closeLink => exact .of_beside (beside_apply setup core _)
  | shutdownLink => exact .of_beside (beside_apply setup core _)
  | report device request =>
      have sent := beside_sendAsync core device request
      simp only [observe]
      split
      · exact outside_outgoing core device request sent
      · exact .of_beside sent
  | request device request now budget =>
      have sent := beside_sendSync core device request now budget
      simp only [observe]
      split
      · exact outside_outgoing core device request sent
      · exact .of_beside sent
  | forget token => exact .beside rfl rfl
  | forgetAll => exact .beside rfl rfl
  | receive text => exact outside_receive setup core text
  | submit job => exact outside_submit core job
  | step task => cases foreign
  | openGate gate permits => exact .openGate gate permits rfl rfl
  | closePool => exact .close rfl rfl
  | abort tasks => cases orderly
  | drain most => exact .of_beside (beside_onNewestQueue core _)
  | hangUp => exact .of_beside (beside_onNewestQueue core _)
  | disturb world => exact .beside rfl rfl

/-! ## Transitions -/

/--
What a move does: nothing to the pool, or one transition of it.  The gates change along with
the pool where the transition says so.
-/
inductive Effect (core next : Core σ) : List Happening → Prop
  | beside (pool_eq : next.pool = core.pool) (gates_eq : next.gates = core.gates) :
      Effect core next []
  | transition {shown : List Happening} {held : List Nat}
      (transition : core.pool.Transition core.gates.waiting shown next.pool held)
      (waits : held.Perm next.gates.waiting) (distinct : next.gates.Distinct) :
      Effect core next shown
  /-- Something happens beside that is no matter of a job. -/
  | aside (happening : Happening) (aside : happening.job? = none) {shown : List Happening}
      (effect : Effect core next shown) : Effect core next (happening :: shown)

section

variable {setup : Setup σ} {core next : Core σ} {shown : List Happening}
  (distinct : core.gates.Distinct)

include distinct

/-- A transition while the gates stay as they are.  Most transitions are of this kind. -/
theorem effect_of_transition {pool : Pool σ}
    (transition : core.pool.Transition core.gates.waiting shown pool core.gates.waiting)
    (pool_eq : next.pool = pool) (gates_eq : next.gates = core.gates) :
    Effect core next shown := by
  subst pool_eq
  refine .transition transition ?_ ?_ <;> rw [gates_eq]
  exact distinct

theorem effect_of_outside (outside : Outside core next shown) : Effect core next shown := by
  induction outside with
  | beside pool_eq gates_eq => exact .beside pool_eq gates_eq
  | accept job submitted gates_eq =>
      exact effect_of_transition distinct (.accept job _ submitted) rfl gates_eq
  | openGate gate permits pool_eq gates_eq =>
      have passed := Gates.waiting_release distinct gate permits
      have still := Gates.distinct_release distinct gate permits
      rw [← gates_eq] at passed still
      refine .transition ?_ (List.Perm.refl _) still
      rw [pool_eq]
      exact .openGate _ _ passed
  | close pool_eq gates_eq => exact effect_of_transition distinct .close pool_eq gates_eq
  | aside happening aside _ ih => exact .aside happening aside ih

theorem effect_of_stepping {task : Pool.Task σ}
    (found : core.pool.task? task.id = some task)
    (way : Stepping core task shown next.pool next.gates) : Effect core next shown := by
  rcases next with ⟨_, _, _, _, pool, _, gates, _⟩
  cases way with
  | ask stage => exact effect_of_transition distinct (.ask task found stage) rfl rfl
  | arrive gate rest receives isCall =>
      exact effect_of_transition distinct (.arrive task gate rest found receives isCall) rfl rfl
  | finish answer receives =>
      exact effect_of_transition distinct (.finish task answer found receives) rfl rfl
  | pass gate rest _ stage passed =>
      rcases Gates.waiting_of_pass? distinct passed with ⟨still, waits⟩
      exact .transition (.pass task gate rest found stage) waits still
  | block gate rest stage _ =>
      exact .transition
        (.block task gate rest _ found stage (List.Perm.refl _))
        (Gates.waiting_enqueue distinct gate task.id)
        (Gates.distinct_set distinct gate ((core.gates.get gate).enqueue task.id))

end

section

variable {core : Core σ} {permits : Nat}
  (coherent : core.pool.Coherent permits core.gates.waiting)

include coherent

/--
Who is not ready takes no step.  Such a move is part of a run all the same, and shows
nothing.
-/
theorem step_of_not_ready (setup : Setup σ) {id : Nat} (absent : id ∉ core.pool.ready) :
    step setup core id = core ∧ stepped setup core id = [] := by
  have same : ({ core with pool := { core.pool with ready := core.pool.ready.erase id } } :
      Core σ) = core := by
    rw [List.erase_of_not_mem absent]
  unfold step stepped
  rw [same]
  cases found : core.pool.task? id with
  | none => exact ⟨rfl, rfl⟩
  | some task =>
      have resting : task.stage.isReady = false := by
        rcases Pool.mem_of_task? found with ⟨member, rfl⟩
        cases ready : task.stage.isReady with
        | false => rfl
        | true =>
            refine absurd (coherent.ready_perm.mem_iff.mpr ?_) absent
            exact (Pool.mem_idsWhere _).mpr ⟨task, member, ready, rfl⟩
      unfold stepTask
      cases stage : task.stage with
      | queueing | suspended =>
          simp only [stage]
          exact ⟨trivial, trivial⟩
      | fresh | granted | atGate | resumable =>
          rw [stage] at resting
          cases resting

/--
The step of a ready task is of one of the five kinds.  The task is known to the pool, since
everybody who is ready is.
-/
theorem stepping_of_ready (setup : Setup σ) {id : Nat} (ready : id ∈ core.pool.ready) :
    ∃ task, core.pool.task? id = some task ∧ task.id = id ∧ task.stage.isReady = true ∧
      Stepping core task (stepped setup core id) (step setup core id).pool
        (step setup core id).gates := by
  rcases coherent.exists_ready ready with ⟨task, found, stage⟩
  rcases Pool.mem_of_task? found with ⟨member, rfl⟩
  exact ⟨task, found, rfl, stage,
    stepping setup found stage (coherent.reports_direct task member)⟩

/--
Every move that abandons no tasks leaves the pool alone or is one of its transitions.  This
is where the operations of a core are followed one by one, and the only place where they
are.
-/
theorem effect_perform (setup : Setup σ) (distinct : core.gates.Distinct) {move : Move σ}
    (orderly : move.isAbort = false) :
    Effect core (perform setup core move) (observe setup core move) := by
  cases foreign : move.step? with
  | none => exact effect_of_outside distinct (outside_perform setup core orderly foreign)
  | some id =>
      cases move <;> cases foreign
      by_cases ready : id ∈ core.pool.ready
      · rcases stepping_of_ready coherent setup ready with ⟨task, found, rfl, -, way⟩
        exact effect_of_stepping distinct found way
      · have idle := step_of_not_ready coherent setup ready
        rw [perform, observe, idle.1, idle.2]
        exact .beside rfl rfl

end

end Core
end DeviceLink
