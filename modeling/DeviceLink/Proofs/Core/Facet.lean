import DeviceLink.Proofs.Core.Effect
import DeviceLink.Proofs.DeviceCall.Callbacks
import DeviceLink.Proofs.Pool.Facet

namespace DeviceLink

/-!
The moves of a core as one device sees them.  Each move runs the code of one device or
no device code at all.  To a device whose code does not run, a move at most adds a call
to its lane or abandons its task; otherwise the call of its lane goes on, up to a gate
or to its end.  This holds of all moves, those that abandon tasks among them.  What a
device sees of a pool is its lane, the call that it is at, and what is left of the code
of that call.
-/

open Pool (Facet)

/-- The device that something is a matter of.  Frames and reports are a matter of no device. -/
def Happening.device? (happening : Happening) : Option Address :=
  happening.job?.bind Job.device?

/-- What has happened on a device.  The order is kept, and everything else is left out. -/
def happeningsOn (device : Address) (past : List Happening) : List Happening :=
  past.filter fun happening => happening.device? = some device

theorem happeningsOn_eq_nil {device : Address} {past : List Happening}
    (elsewhere : ∀ happening ∈ past, happening.device? ≠ some device) :
    happeningsOn device past = [] :=
  List.filter_eq_nil_iff.mpr fun happening inside => by simpa using elsewhere happening inside

theorem happeningsOn_eq_self {device : Address} {past : List Happening}
    (here : ∀ happening ∈ past, happening.device? = some device) :
    happeningsOn device past = past :=
  List.filter_eq_self.mpr fun happening inside => by simpa using here happening inside

/--
What is picked out of the past of a device does not depend on the rest of the past.  So it
can be computed on the happenings of that device alone.
-/
theorem filterMap_happeningsOn {α : Type} {device : Address} {pick : Happening → Option α}
    (only : ∀ happening, happening.device? ≠ some device → pick happening = none)
    (past : List Happening) : (happeningsOn device past).filterMap pick = past.filterMap pick := by
  induction past with
  | nil => rfl
  | cons happening past ih =>
      by_cases here : happening.device? = some device
      · have kept : happeningsOn device (happening :: past) =
            happening :: happeningsOn device past :=
          List.filter_cons_of_pos (decide_eq_true here)
        rw [kept, List.filterMap_cons, List.filterMap_cons, ih]
      · have left : happeningsOn device (happening :: past) = happeningsOn device past :=
          List.filter_cons_of_neg (by simpa using here)
        rw [left, ih, List.filterMap_cons, only happening here]

def Event.note? : Event → Option Note
  | note entry => some entry
  | _ => none

namespace Core

variable {σ : Type}

/-! ## The code that a move runs -/

/-- What device code has noted.  It is in the log, among everything else that has gone there. -/
def notes (core : Core σ) : List Note := core.log.filterMap Event.note?

/--
The code that a task runs in its next step, and its device.  Many steps run none, such as
those that ask for a permit.
-/
def taskCode? (setup : Setup σ) (task : Pool.Task σ) : Option (Address × Activity σ Json.Members) :=
  match task.stage, task.job with
  | .granted, .invoke _ device call =>
      some (device, call.perform setup.handler setup.options.outputSlots device)
  | .resumable rest, .invoke _ device _ => some (device, rest)
  | _, _ => none

/-- The code that a move runs, and its device.  A move that is no step of a task runs none. -/
def code? (setup : Setup σ) (core : Core σ) (move : Move σ) :
    Option (Address × Activity σ Json.Members) :=
  match move with
  | .step id => (core.pool.task? id).bind (taskCode? setup)
  | _ => none

theorem code?_of_not_step (setup : Setup σ) (core : Core σ) {move : Move σ}
    (other : move.step? = none) : code? setup core move = none := by
  cases move <;> first | rfl | cases other

/-- No device code has run.  Neither the world nor the notes have changed then. -/
structure Quiet (core next : Core σ) : Prop where
  world_eq : next.world = core.world
  notes_eq : next.notes = core.notes

namespace Quiet

variable {core next last : Core σ}

theorem refl (core : Core σ) : Quiet core core := ⟨rfl, rfl⟩

theorem trans (first : Quiet core next) (second : Quiet next last) : Quiet core last where
  world_eq := second.world_eq.trans first.world_eq
  notes_eq := second.notes_eq.trans first.notes_eq

theorem of_log_eq (world_eq : next.world = core.world) (log_eq : next.log = core.log) :
    Quiet core next := ⟨world_eq, by rw [notes, log_eq, notes]⟩

/-- Something goes into the log that is no note.  It may be a frame, a phase or a reply. -/
theorem record (core : Core σ) {event : Event} (other : event.note? = none) :
    Quiet core (core.record event) where
  world_eq := rfl
  notes_eq := by
    rw [notes, Core.record, List.filterMap_append, List.filterMap_cons, other]
    exact List.append_nil _

end Quiet

section

variable (setup : Setup σ) (core : Core σ)

theorem quiet_publish (phase : Phase) : Quiet core (publish setup core phase) := by
  have published : Quiet core { core with link := core.link.publish phase } := .of_log_eq rfl rfl
  unfold publish
  dsimp only
  split
  · exact published.trans (.record _ rfl)
  · exact published

theorem quiet_apply (update : Link.Update) : Quiet core (apply setup core update) := by
  have updated : Quiet core { core with link := update.link } := .of_log_eq rfl rfl
  unfold apply
  split
  · exact updated.trans (quiet_publish setup _ _)
  · exact updated

theorem quiet_hand (sink : Nat) (text : String) : Quiet core (core.hand sink text).2 := by
  unfold hand
  split
  · exact .refl core
  · split
    · exact .refl core
    · rename_i after _
      have handed : Quiet core { core with outlets := core.outlets.set sink after } :=
        .of_log_eq rfl rfl
      dsimp only
      split
      · exact handed.trans (.record _ rfl)
      · exact handed

theorem quiet_send (text : String) : Quiet core (core.send text).2 := by
  unfold send
  split
  · exact quiet_hand core _ text
  · exact .refl core

theorem quiet_sendAsync (device : Address) (request : Request) :
    Quiet core (core.sendAsync device request).2 := by
  unfold sendAsync
  split
  · exact .refl core
  · have sent := quiet_send core.takeId.2
    have counted : Quiet core core.takeId.2 := .of_log_eq rfl rfl
    dsimp only
    split <;> rename_i result <;> exact counted.trans (congrArg Prod.snd result ▸ sent _)

theorem quiet_openWait (request : Request) (messageId : UInt32) (payload : Json.Members)
    (due : Nat) (budget : Duration) :
    Quiet core (core.openWait request messageId payload due budget).2 := by
  unfold openWait
  split
  · exact .refl core
  · rename_i token registry _
    have registered : Quiet core { core with registry := registry } := .of_log_eq rfl rfl
    have sent := quiet_send { core with registry := registry }
    split <;> rename_i result
    · exact registered.trans (congrArg Prod.snd result ▸ sent _)
    · have kept := registered.trans (congrArg Prod.snd result ▸ sent _)
      exact kept.trans (.of_log_eq rfl rfl)

theorem quiet_sendSync (device : Address) (request : Request) (now : Nat) (budget : Duration) :
    Quiet core (core.sendSync device request now budget).2 := by
  unfold sendSync
  split
  · exact .refl core
  · split
    · exact .refl core
    · have counted : Quiet core core.takeId.2 := .of_log_eq rfl rfl
      exact counted.trans (quiet_openWait core.takeId.2 _ _ _ _ _)

theorem quiet_onNewestQueue (change : Outlet → List String × Outlet) :
    Quiet core (core.onNewestQueue change).2 := by
  unfold onNewestQueue
  split
  · exact .refl core
  · dsimp only
    split <;> exact .of_log_eq rfl rfl

theorem quiet_submit (job : Job) : Quiet core (core.submit job).2 := by
  unfold submit
  split <;> exact .of_log_eq rfl rfl

theorem quiet_receive (text : String) : Quiet core (receive setup core text).2 := by
  have way := routing setup core text
  generalize (receive setup core text).1 = verdict at way
  generalize (receive setup core text).2 = after at way ⊢
  generalize offered? setup core text = offer at way
  cases way with
  | dropped | delivered | unmatched => exact .of_log_eq rfl rfl
  | observed reply =>
      have delivered : Quiet core (core.deliver reply).2 := .of_log_eq rfl rfl
      exact delivered.trans (quiet_submit _ _)
  | submitted => exact quiet_submit core _
  | unreadable | refused => exact quiet_send core _

theorem quiet_reportReply (messageId : UInt32) (code : Int32) :
    Quiet core (reportReply setup core messageId code) := by
  unfold reportReply
  split
  · exact .record core rfl
  · exact .record core rfl
  · exact .refl core

end

/--
Only steps of tasks run device code, and only disturbances from outside touch its world.  A
disturbance runs no code either, but leaves another world.
-/
theorem quiet_of_not_step (setup : Setup σ) (core : Core σ) {move : Move σ}
    (other : move.step? = none) (calm : ∀ world, move ≠ .disturb world) :
    Quiet core (perform setup core move) := by
  cases move with
  | establish outlet =>
      have added : Quiet core { core with outlets := core.outlets ++ [outlet] } :=
        .of_log_eq rfl rfl
      exact added.trans (quiet_apply setup _ _)
  | closeLink | shutdownLink => exact quiet_apply setup core _
  | report device request => exact quiet_sendAsync core device request
  | request device request now budget => exact quiet_sendSync core device request now budget
  | receive text => exact quiet_receive setup core text
  | submit job => exact quiet_submit core job
  | step task => cases other
  | drain most => exact quiet_onNewestQueue core _
  | hangUp => exact quiet_onNewestQueue core _
  | disturb world => exact absurd rfl (calm world)
  | forget | forgetAll | openGate | closePool | abort => exact .of_log_eq rfl rfl

/-! ## Steps that run code -/

section

variable {setup : Setup σ} {core : Core σ} {task : Pool.Task σ} {device : Address}
  {code : Activity σ Json.Members}

/--
A step that runs code has the permit that the code needs, and takes up the task.  It says
which call the code belongs to, and what the step does to the pool.
-/
structure Running (setup : Setup σ) (core : Core σ) (task : Pool.Task σ) (device : Address)
    (code : Activity σ Json.Members) (messageId : UInt32) (call : DeviceCall) : Prop where
  job_eq : task.job = .invoke messageId device call
  code_eq : code = task.stage.rest?.getD
    (call.perform setup.handler setup.options.outputSlots device)
  receives : task.stage.receives = true
  shown_eq : stepped setup core task.id =
    Pool.beginning task ++ concluded task.job code core.world
  step_eq : step setup core task.id =
    ({ core with pool := core.pool.takeUp task } : Core σ).runActivity task messageId code

theorem running_of_code (found : core.pool.task? task.id = some task)
    (runs : taskCode? setup task = some (device, code)) :
    ∃ messageId call, Running setup core task device code messageId call := by
  unfold taskCode? at runs
  split at runs
  · next messageId target call stage job =>
    cases runs
    refine ⟨messageId, call, job, ?_, ?_, ?_, ?_⟩
    · rw [stage]
      rfl
    · rw [stage]
      rfl
    · simp only [stepped, found, stage, job, Pool.beginning]
      rfl
    · simp only [step, found, stepTask, stage, job, beginJob, Pool.takeUp]
      rfl
  · next rest messageId target call stage job =>
    cases runs
    refine ⟨messageId, call, job, ?_, ?_, ?_, ?_⟩
    · rw [stage]
      rfl
    · rw [stage]
      rfl
    · simp only [stepped, found, stage, job, Pool.beginning]
      rfl
    · simp only [step, found, stepTask, stage, job, Pool.takeUp]
      rfl
  · cases runs

/--
What code notes, and what it leaves of the world, is all that a stretch of it does to
either.  The code is run on the world of the core as the step finds it.
-/
structure Ran (core next : Core σ) (code : Activity σ Json.Members) : Prop where
  world_eq : next.world = (code.run core.world).world
  notes_eq : next.notes = core.notes ++ (code.run core.world).notes

theorem Ran.before_quiet {next last : Core σ} (ran : Ran core next code)
    (quiet : Quiet next last) : Ran core last code :=
  ⟨quiet.world_eq.trans ran.world_eq, quiet.notes_eq.trans ran.notes_eq⟩

theorem ran_ranTo (core : Core σ) (code : Activity σ Json.Members) :
    Ran core (core.ranTo code) code where
  world_eq := rfl
  notes_eq := by
    have noted : ((code.run core.world).notes.map Event.note).filterMap Event.note? =
        (code.run core.world).notes := by
      rw [List.filterMap_map]
      exact List.filterMap_some
    rw [notes, ranTo, List.filterMap_append, noted, notes]

theorem ran_runActivity (core : Core σ) (task : Pool.Task σ) (messageId : UInt32)
    (code : Activity σ Json.Members) : Ran core (core.runActivity task messageId code) code := by
  have ran := ran_ranTo core code
  cases progress : (code.run core.world).progress with
  | ended outcome =>
      rw [runActivity_of_ended core task messageId progress]
      have answered := quiet_send (core.ranTo code) (Envelope.response messageId
        (DeviceCall.answer outcome).1 (DeviceCall.answer outcome).2).text
      exact (ran.before_quiet answered).before_quiet (.of_log_eq rfl rfl)
  | atGate gate rest =>
      rw [runActivity_of_atGate core task messageId progress]
      exact ran.before_quiet (.of_log_eq rfl rfl)

/--
The pool after a stretch of code.  It depends on how the stretch has ended, and not on what
it did to the world.
-/
theorem pool_runActivity (core : Core σ) (task : Pool.Task σ) (messageId : UInt32)
    (code : Activity σ Json.Members) :
    (core.runActivity task messageId code).pool =
      match (code.run core.world).progress with
      | .ended _ => (core.pool.retire task).releasePermit
      | .atGate gate rest => core.pool.proceed { task with stage := .atGate gate rest } := by
  cases progress : (code.run core.world).progress with
  | ended outcome =>
      rw [runActivity_of_ended core task messageId progress, pool_endCall]
      rfl
  | atGate gate rest => rw [runActivity_of_atGate core task messageId progress]

end

/-! ## Steps that run none -/

/--
A task that runs no code changes its stage at most, or its job was for no device.  It may
ask for a permit, ask a gate, or report a reply.
-/
inductive Idling (core : Core σ) (task : Pool.Task σ) : List Happening → Pool σ → Prop
  | rests : Idling core task [] (core.pool.leaveReady task.id)
  | asks (stage : task.stage = .fresh) :
      Idling core task [] ((core.pool.leaveReady task.id).acquire task)
  | reports (report : task.job.device? = none) (stage : task.stage = .granted) :
      Idling core task [.began task.job, .ended task.job none]
        ((core.pool.takeUp task).retire task).releasePermit
  | passes (gate : String) (rest : Activity σ Json.Members)
      (stage : task.stage = .atGate gate rest) :
      Idling core task []
        ((core.pool.leaveReady task.id).proceed { task with stage := .resumable rest })
  | blocks (gate : String) (rest : Activity σ Json.Members)
      (stage : task.stage = .atGate gate rest) :
      Idling core task []
        ((core.pool.leaveReady task.id).setTask { task with stage := .suspended rest })

/--
The report of a reply tells the observer and runs no device code.  The task is gone
afterwards, and its permit goes to somebody else.
-/
theorem idling_of_report {setup : Setup σ} {core : Core σ} {task : Pool.Task σ}
    {messageId : UInt32} {code : Int32} (found : core.pool.task? task.id = some task)
    (stage : task.stage = .granted) (job : task.job = .reportReply messageId code) :
    Idling core task (stepped setup core task.id) (step setup core task.id).pool ∧
      Quiet core (step setup core task.id) := by
  let begun : Core σ := { core with pool := (core.pool.leaveReady task.id).startJob }
  have step_eq : step setup core task.id =
      (reportReply setup begun messageId code).endTask task := by
    simp only [step, found, stepTask, stage, job, beginJob]
    rfl
  have shown : stepped setup core task.id = [.began task.job, .ended task.job none] := by
    simp only [stepped, found, stage, job]
  have taken_up : begun.pool = core.pool.takeUp task := by
    rw [Pool.takeUp, stage]
    rfl
  rw [step_eq, shown]
  constructor
  · rw [pool_endTask, (beside_reportReply setup begun messageId code).pool_eq, taken_up]
    exact .reports (by rw [job]; rfl) stage
  · have begins : Quiet core begun := .of_log_eq rfl rfl
    exact (begins.trans (quiet_reportReply setup begun messageId code)).trans (.of_log_eq rfl rfl)

theorem idling_of_none {setup : Setup σ} {core : Core σ} {task : Pool.Task σ}
    (found : core.pool.task? task.id = some task) (runs : taskCode? setup task = none) :
    Idling core task (stepped setup core task.id) (step setup core task.id).pool ∧
      Quiet core (step setup core task.id) := by
  let taken : Core σ := { core with pool := core.pool.leaveReady task.id }
  have step_eq : step setup core task.id = stepTask setup taken task := by
    simp only [step, found]
    rfl
  have quiet : Quiet core taken := .of_log_eq rfl rfl
  cases stage : task.stage with
  | granted =>
      cases job : task.job with
      | reportReply messageId code => exact idling_of_report found stage job
      | invoke messageId device call =>
          rw [taskCode?, stage, job] at runs
          cases runs
  | resumable rest =>
      cases job : task.job with
      | reportReply messageId code =>
          simp only [step_eq, stepTask, stepped, found, stage, job]
          exact ⟨.rests, quiet⟩
      | invoke messageId device call =>
          rw [taskCode?, stage, job] at runs
          cases runs
  | fresh =>
      simp only [step_eq, stepTask, stepped, found, stage]
      exact ⟨.asks stage, .of_log_eq rfl rfl⟩
  | queueing | suspended =>
      simp only [step_eq, stepTask, stepped, found, stage]
      exact ⟨.rests, quiet⟩
  | atGate gate rest =>
      simp only [step_eq, stepTask, stepped, found, stage, askGate]
      split
      · exact ⟨.passes gate rest stage, .of_log_eq rfl rfl⟩
      · exact ⟨.blocks gate rest stage, .of_log_eq rfl rfl⟩

/-! ## What a device sees -/

/--
How things stand with a device after a stretch of the code of a call.  At a gate the call
stays, and at its end the next one of the lane takes its place.
-/
def facetAfter (call : Pool.WaitingCall) (waiting : List Pool.WaitingCall)
    (progress : Progress σ Json.Members) : Facet σ :=
  match progress with
  | .ended _ => .ofWaiting waiting
  | .atGate _ rest => .driven call (some rest) waiting

/--
The code of a call, or what is left of it.  A call that has not begun has all its code
before it.
-/
def codeOf (setup : Setup σ) (device : Address) (call : Pool.WaitingCall)
    (rest : Option (Activity σ Json.Members)) : Activity σ Json.Members :=
  rest.getD (call.call.perform setup.handler setup.options.outputSlots device)

/--
What a call shows when it goes on.  It shows that it begins, if it has not, and that it
ends, if it does.
-/
def goingOn (setup : Setup σ) (device : Address) (world : σ) (call : Pool.WaitingCall)
    (rest : Option (Activity σ Json.Members)) : List Happening :=
  let job := .invoke call.messageId device call.call
  (if rest.isNone then [.began job] else []) ++ concluded job (codeOf setup device call rest) world

/--
What a move is to a device, with what happens on it.  Most moves are aside from it; the
others bring it a call, or take its call further.
-/
inductive Advance (setup : Setup σ) (core : Core σ) (move : Move σ) (device : Address) :
    Facet σ → List Happening → Facet σ → Prop
  | aside (facet : Facet σ) (elsewhere : ∀ code, code? setup core move ≠ some (device, code)) :
      Advance setup core move device facet [] facet
  | join (facet : Facet σ) (call : Pool.WaitingCall)
      (elsewhere : ∀ code, code? setup core move ≠ some (device, code)) :
      Advance setup core move device facet [.accepted (.invoke call.messageId device call.call)]
        (facet.join call)
  | lose (facet : Facet σ) (aborts : move.isAbort = true) :
      Advance setup core move device facet [] facet.lose
  | goOn (call : Pool.WaitingCall) (rest : Option (Activity σ Json.Members))
      (waiting : List Pool.WaitingCall)
      (runs : code? setup core move = some (device, codeOf setup device call rest)) :
      Advance setup core move device (.driven call rest waiting)
        (goingOn setup device core.world call rest)
        (facetAfter call waiting ((codeOf setup device call rest).run core.world).progress)

section

variable {setup : Setup σ} {core next : Core σ} {device : Address} {facet : Facet σ}
  {shown : List Happening}

/--
Whatever comes from outside adds a call to the device, or changes nothing for it.  Calls are
added at the end of the lane.
-/
theorem shows_of_outside (tidy : core.pool.Tidy) (shows : core.pool.Shows device facet)
    (outside : Outside core next shown) :
    next.pool.Tidy ∧ ((happeningsOn device shown = [] ∧ next.pool.Shows device facet) ∨
      ∃ call, happeningsOn device shown = [.accepted (.invoke call.messageId device call.call)] ∧
        next.pool.Shows device (facet.join call)) := by
  induction outside with
  | beside pool_eq gates_eq =>
      rw [pool_eq]
      exact ⟨tidy, .inl ⟨rfl, shows⟩⟩
  | accept job submitted gates_eq =>
      refine ⟨tidy.submit submitted, ?_⟩
      cases isOn : job.callOn? device with
      | none =>
          have other : job.device? ≠ some device := Job.callOn?_eq_none.mp isOn
          refine .inl ⟨happeningsOn_eq_nil ?_, shows.submit_elsewhere other submitted⟩
          exact List.forall_mem_singleton.mpr other
      | some call =>
          have job_eq := Job.callOn?_eq_some.mp isOn
          subst job_eq
          refine .inr ⟨call, happeningsOn_eq_self ?_, shows.submit_here submitted⟩
          exact List.forall_mem_singleton.mpr rfl
  | openGate gate permits pool_eq gates_eq =>
      rw [pool_eq]
      exact ⟨tidy.awaken _, .inl ⟨rfl, (Pool.Resembles.awaken core.pool _).shows shows⟩⟩
  | close pool_eq gates_eq =>
      have closes : core.pool.Resembles core.pool.close.1 := .of_tasks_eq rfl rfl
      rw [pool_eq]
      exact ⟨tidy.of_tasks_eq rfl rfl rfl, .inl ⟨rfl, closes.shows shows⟩⟩
  | aside happening aside _ ih =>
      have other : happening.device? ≠ some device := by
        rw [Happening.device?, aside]
        exact nofun
      have left (shown : List Happening) :
          happeningsOn device (happening :: shown) = happeningsOn device shown :=
        List.filter_cons_of_neg (by simpa using other)
      rw [left]
      exact ih

/--
A step that runs no code shows nothing to a device.  The call of a device is where it was,
also while its task waits for a permit.
-/
theorem shows_of_idling {task : Pool.Task σ} {pool : Pool σ} (tidy : core.pool.Tidy)
    (shows : core.pool.Shows device facet) (member : task ∈ core.pool.tasks)
    (idling : Idling core task shown pool) :
    pool.Tidy ∧ happeningsOn device shown = [] ∧ pool.Shows device facet := by
  have left := tidy.leaveReady task.id
  have leaves : core.pool.Resembles (core.pool.leaveReady task.id) := .of_tasks_eq rfl rfl
  have shown_left := leaves.shows shows
  cases idling with
  | rests => exact ⟨left, rfl, shown_left⟩
  | asks stage =>
      have asks := Pool.Resembles.acquire left member stage
      exact ⟨left.acquire member stage, rfl, asks.shows shown_left⟩
  | reports report stage =>
      have other : task.job.device? ≠ some device := by
        rw [report]
        exact nofun
      have taken := tidy.takeUp task
      have takes : core.pool.Resembles (core.pool.takeUp task) := .of_tasks_eq (by simp) (by simp)
      have shown_taken := takes.shows shows
      have here : task ∈ (core.pool.takeUp task).tasks := by simpa using member
      rcases taken.exists_between here with ⟨before, after, place⟩
      have retired := taken.retire (taken.notMem_waiters here (by rw [stage]; exact nofun))
      refine ⟨retired.releasePermit, happeningsOn_eq_nil ?_, ?_⟩
      · exact List.forall_mem_cons.mpr ⟨other, List.forall_mem_singleton.mpr other⟩
      · exact (Pool.Resembles.releasePermit retired).shows
          (shown_taken.retire_elsewhere place other)
  | passes gate rest stage =>
      have apart := left.notMem_waiters member (by rw [stage]; exact nofun)
      have same : (Pool.Stage.resumable rest).rest? = task.stage.rest? := by
        rw [stage]
        rfl
      exact ⟨left.proceed apart, rfl,
        (Pool.Resembles.proceed left member (.resumable rest) same).shows shown_left⟩
  | blocks gate rest stage =>
      have apart := left.notMem_waiters member (by rw [stage]; exact nofun)
      have same : (Pool.Stage.suspended rest).rest? = task.stage.rest? := by
        rw [stage]
        rfl
      exact ⟨left.setTask _ apart, rfl,
        (Pool.Resembles.setTask left member (.suspended rest) same).shows shown_left⟩

/--
All that the step of a task shows is a matter of its job.  A job has one device at most, so
no other device is concerned.
-/
theorem device_of_running {task : Pool.Task σ} {code : Activity σ Json.Members} {world : σ} :
    ∀ happening ∈ Pool.beginning task ++ concluded task.job code world,
      happening.device? = task.job.device? := by
  intro happening inside
  rcases List.mem_append.mp inside with begins | ends
  · unfold Pool.beginning at begins
    split at begins
    · cases begins
    · rw [List.mem_singleton.mp begins]
      rfl
  · unfold concluded at ends
    split at ends
    · rw [List.mem_singleton.mp ends]
      rfl
    · cases ends

section

variable {task : Pool.Task σ} {target : Address} {code : Activity σ Json.Members}
  {messageId : UInt32} {call : DeviceCall}

/--
Who runs code does not wait for a permit.  It has the permit that it needs, and waits
nowhere.
-/
theorem notMem_waiters_of_running (tidy : core.pool.Tidy) (member : task ∈ core.pool.tasks)
    (running : Running setup core task target code messageId call) :
    task.id ∉ (core.pool.takeUp task).permits.waiters := by
  have here : task ∈ (core.pool.takeUp task).tasks := by simpa using member
  refine (tidy.takeUp task).notMem_waiters here fun stage => ?_
  have receives := running.receives
  rw [stage] at receives
  cases receives

theorem tidy_of_running (tidy : core.pool.Tidy) (member : task ∈ core.pool.tasks)
    (running : Running setup core task target code messageId call) :
    (step setup core task.id).pool.Tidy := by
  have apart := notMem_waiters_of_running tidy member running
  rw [running.step_eq, pool_runActivity]
  dsimp only
  split
  · exact ((tidy.takeUp task).retire apart).releasePermit
  · exact (tidy.takeUp task).proceed apart

/--
A step that runs the code of a task takes the call of its device further.  The device sees
one call go on and nothing else.
-/
theorem shows_of_running_here (tidy : core.pool.Tidy) (shows : core.pool.Shows target facet)
    (member : task ∈ core.pool.tasks)
    (running : Running setup core task target code messageId call) :
    ∃ waiting, facet = .driven ⟨messageId, call⟩ task.stage.rest? waiting ∧
      happeningsOn target (stepped setup core task.id) =
        goingOn setup target core.world ⟨messageId, call⟩ task.stage.rest? ∧
      (step setup core task.id).pool.Shows target
        (facetAfter ⟨messageId, call⟩ waiting (code.run core.world).progress) := by
  have isOn : task.job.callOn? target = some ⟨messageId, call⟩ :=
    Job.callOn?_eq_some.mpr running.job_eq
  have takes : core.pool.Resembles (core.pool.takeUp task) := .of_tasks_eq (by simp) (by simp)
  have shown_taken := takes.shows shows
  have here : task ∈ (core.pool.takeUp task).tasks := by simpa using member
  rcases (tidy.takeUp task).exists_between here with ⟨before, after, place⟩
  rcases shown_taken.alone place isOn with ⟨-, -, waiting, -, rfl⟩
  refine ⟨waiting, rfl, ?_, ?_⟩
  · rw [running.shown_eq, happeningsOn_eq_self]
    · have begins : Pool.beginning task =
          if task.stage.rest?.isNone then [.began task.job] else [] := by
        unfold Pool.beginning
        cases task.stage <;> rfl
      rw [begins, running.code_eq, running.job_eq]
      rfl
    · intro happening inside
      rw [device_of_running happening inside, running.job_eq]
      rfl
  · have retired := (tidy.takeUp task).retire (notMem_waiters_of_running tidy member running)
    rw [running.step_eq, pool_runActivity]
    unfold facetAfter
    dsimp only
    split
    · exact (Pool.Resembles.releasePermit retired).shows (shown_taken.retire_here place isOn)
    · exact shown_taken.proceed_here place isOn _

/-- It shows to no other device.  Permits may be handed on by it, but that is not seen. -/
theorem shows_of_running_elsewhere (tidy : core.pool.Tidy) (shows : core.pool.Shows device facet)
    (member : task ∈ core.pool.tasks)
    (running : Running setup core task target code messageId call) (apart : target ≠ device) :
    happeningsOn device (stepped setup core task.id) = [] ∧
      (step setup core task.id).pool.Shows device facet := by
  have other : task.job.device? ≠ some device := by
    rw [running.job_eq]
    exact fun same => apart (Option.some.inj same)
  have takes : core.pool.Resembles (core.pool.takeUp task) := .of_tasks_eq (by simp) (by simp)
  have shown_taken := takes.shows shows
  have here : task ∈ (core.pool.takeUp task).tasks := by simpa using member
  rcases (tidy.takeUp task).exists_between here with ⟨before, after, place⟩
  constructor
  · rw [running.shown_eq]
    refine happeningsOn_eq_nil fun happening inside => ?_
    rw [device_of_running happening inside]
    exact other
  · have retired := (tidy.takeUp task).retire (notMem_waiters_of_running tidy member running)
    rw [running.step_eq, pool_runActivity]
    dsimp only
    split
    · exact (Pool.Resembles.releasePermit retired).shows (shown_taken.retire_elsewhere place other)
    · exact shown_taken.proceed_elsewhere place other _

end

/-! ## Every move -/

/--
A move keeps the pool tidy and is one of these to a device.  Aborts are included, after
which a device may be left without a task.
-/
def Advances (setup : Setup σ) (core : Core σ) (device : Address) (facet : Facet σ)
    (move : Move σ) : Prop :=
  (perform setup core move).pool.Tidy ∧
    ∃ after, (perform setup core move).pool.Shows device after ∧
      Advance setup core move device facet (happeningsOn device (observe setup core move)) after

section

variable (setup : Setup σ) (tidy : core.pool.Tidy) (shows : core.pool.Shows device facet)

include tidy shows

theorem advances_abort (ids : List Nat) : Advances setup core device facet (.abort ids) := by
  have nowhere : ∀ code, code? setup core (.abort ids) ≠ some (device, code) := by
    rw [code?_of_not_step setup core rfl]
    exact nofun
  refine ⟨tidy.abort ids, ?_⟩
  rcases shows.abort tidy ids with same | lost
  · exact ⟨facet, same, .aside facet nowhere⟩
  · exact ⟨facet.lose, lost, .lose facet rfl⟩

theorem advances_foreign {move : Move σ} (orderly : move.isAbort = false)
    (foreign : move.step? = none) : Advances setup core device facet move := by
  have nowhere : ∀ code, code? setup core move ≠ some (device, code) := by
    rw [code?_of_not_step setup core foreign]
    exact nofun
  have outside := outside_perform setup core orderly foreign
  unfold Advances
  rcases shows_of_outside tidy shows outside with
    ⟨tidied, ⟨shown, same⟩ | ⟨call, shown, joined⟩⟩
  · rw [shown]
    exact ⟨tidied, facet, same, .aside facet nowhere⟩
  · rw [shown]
    exact ⟨tidied, facet.join call, joined, .join facet call nowhere⟩

/--
The step of a task that is gone leaves all others as they are.  Its number is taken from the
ready queue at most.
-/
theorem advances_missing {id : Nat} (missing : core.pool.task? id = none) :
    Advances setup core device facet (.step id) := by
  have step_eq : perform setup core (.step id) =
      { core with pool := core.pool.leaveReady id } := by
    simp only [perform, step, missing]
    rfl
  have shown : observe setup core (.step id) = [] := by
    simp only [observe, stepped, missing]
  have leaves : core.pool.Resembles (core.pool.leaveReady id) := .of_tasks_eq rfl rfl
  unfold Advances
  rw [step_eq, shown]
  refine ⟨tidy.leaveReady id, facet, leaves.shows shows, .aside facet ?_⟩
  simp only [code?, missing, Option.bind_none]
  exact fun code => (Option.some_ne_none _).symm

theorem advances_step {task : Pool.Task σ} (found : core.pool.task? task.id = some task) :
    Advances setup core device facet (.step task.id) := by
  have member := (Pool.mem_of_task? found).1
  have code_eq : code? setup core (.step task.id) = taskCode? setup task := by
    rw [code?, found, Option.bind_some]
  unfold Advances
  cases runs : taskCode? setup task with
  | none =>
      rw [runs] at code_eq
      rcases shows_of_idling tidy shows member (idling_of_none found runs).1 with
        ⟨tidied, shown, same⟩
      rw [observe, shown]
      refine ⟨tidied, facet, same, .aside facet ?_⟩
      rw [code_eq]
      exact fun code => (Option.some_ne_none _).symm
  | some running =>
      rcases running with ⟨target, code⟩
      rw [runs] at code_eq
      rcases running_of_code found runs with ⟨messageId, call, running⟩
      refine ⟨tidy_of_running tidy member running, ?_⟩
      by_cases same : target = device
      · subst same
        rcases shows_of_running_here tidy shows member running with ⟨waiting, rfl, shown, after⟩
        have same_code : code = codeOf setup target ⟨messageId, call⟩ task.stage.rest? :=
          running.code_eq
        rw [same_code] at code_eq after
        rw [observe, shown]
        exact ⟨_, after, .goOn ⟨messageId, call⟩ task.stage.rest? waiting code_eq⟩
      · rcases shows_of_running_elsewhere tidy shows member running same with ⟨shown, kept⟩
        rw [observe, shown]
        refine ⟨facet, kept, .aside facet ?_⟩
        rw [code_eq]
        exact fun _ equal => same (congrArg Prod.fst (Option.some.inj equal))

theorem advance (move : Move σ) : Advances setup core device facet move := by
  cases aborts : move.isAbort with
  | true =>
      cases move <;> cases aborts
      exact advances_abort setup tidy shows _
  | false =>
      cases foreign : move.step? with
      | none => exact advances_foreign setup tidy shows aborts foreign
      | some id =>
          cases move <;> cases foreign
          cases found : core.pool.task? id with
          | none => exact advances_missing setup tidy shows found
          | some task =>
              rcases Pool.mem_of_task? found with ⟨-, rfl⟩
              exact advances_step setup tidy shows found

end

end

/--
What the code of a move does to its world and notes is all that the move does to them.  The
rest of the move touches neither.
-/
theorem ran_perform {setup : Setup σ} {core : Core σ} {move : Move σ} {device : Address}
    {code : Activity σ Json.Members} (runs : code? setup core move = some (device, code)) :
    Ran core (perform setup core move) code := by
  cases foreign : move.step? with
  | none =>
      rw [code?_of_not_step setup core foreign] at runs
      cases runs
  | some id =>
      cases move <;> cases foreign
      rcases Option.bind_eq_some_iff.mp runs with ⟨task, found, its⟩
      rcases Pool.mem_of_task? found with ⟨-, rfl⟩
      rcases running_of_code found its with ⟨messageId, call, running⟩
      have ran := ran_runActivity ({ core with pool := core.pool.takeUp task } : Core σ) task
        messageId code
      rw [perform, running.step_eq]
      exact ⟨ran.world_eq, ran.notes_eq⟩

theorem quiet_perform {setup : Setup σ} {core : Core σ} {move : Move σ}
    (runs : code? setup core move = none) (calm : ∀ world, move ≠ .disturb world) :
    Quiet core (perform setup core move) := by
  cases foreign : move.step? with
  | none => exact quiet_of_not_step setup core foreign calm
  | some id =>
      cases move <;> cases foreign
      cases found : core.pool.task? id with
      | none =>
          simp only [perform, step, found]
          exact .of_log_eq rfl rfl
      | some task =>
          rcases Pool.mem_of_task? found with ⟨-, rfl⟩
          rw [code?, found, Option.bind_some] at runs
          exact (idling_of_none found runs).2

end Core
end DeviceLink
