import DeviceLink.Proofs.Core.Answers
import DeviceLink.Proofs.Core.Reports
import DeviceLink.Proofs.Link.Update
import DeviceLink.Proofs.Registry.Coherence

namespace DeviceLink

/-!
A core whose link is closed.  Whatever would be sent is refused, and no move opens the
link again, so from then on no frame reaches an outlet, be it a request or an answer.
The calls that the pool still holds are carried out all the same.  Their answers are
lost, which is what a device that does not serve any more comes to.  `Still` relates
such a core to what it may become.  It says nothing of the world or of the pool, which
go on as long as there are tasks, and it is what a shutdown comes to as far as the
gateway is concerned.
-/

/--
What may be left of an outlet that is handed nothing any more.  Frames may be taken out of
it, and its receiver may go away.
-/
inductive Outlet.Leaves : Outlet → Outlet → Prop
  | same (outlet : Outlet) : Leaves outlet outlet
  | taken (capacity : Nat) {frames rest : List String} (suffix : rest <:+ frames)
      (isOpen stillOpen : Bool) :
      Leaves (.queue capacity frames isOpen) (.queue capacity rest stillOpen)

theorem Outlet.Leaves.trans {outlet next last : Outlet} (first : outlet.Leaves next)
    (second : next.Leaves last) : outlet.Leaves last := by
  cases first with
  | same => exact second
  | taken capacity suffix isOpen stillOpen =>
      cases second with
      | same => exact .taken capacity suffix isOpen stillOpen
      | taken _ further _ finallyOpen =>
          exact .taken capacity (further.trans suffix) isOpen finallyOpen

namespace Core

variable {σ : Type}

/--
Nothing has been sent or told, and what has been shut down is still shut down.  It relates a
core to a later one, and can be put together from moves.
-/
structure Still (core next : Core σ) : Prop where
  link_eq : next.link = core.link
  frames_eq : next.frames = core.frames
  notified_eq : next.notified = core.notified
  nextId_eq : next.nextId = core.nextId
  outlets : ∀ (index : Nat) (outlet : Outlet), core.outlets[index]? = some outlet →
    ∃ left, next.outlets[index]? = some left ∧ outlet.Leaves left
  empty : core.registry.entries = [] → next.registry.entries = []
  winds : core.pool.closed = true → core.pool.Winds next.pool

namespace Still

variable {core next last : Core σ}

/--
A change inside the pool, and of the world that device code works on.  Such changes are not
visible outside.
-/
theorem inside {pool : Pool σ} {world : σ} {gates : Gates} (winds : core.pool.Winds pool) :
    Still core { core with pool := pool, world := world, gates := gates } where
  link_eq := rfl
  frames_eq := rfl
  notified_eq := rfl
  nextId_eq := rfl
  outlets := fun _ outlet found => ⟨outlet, found, .same outlet⟩
  empty := id
  winds := fun _ => winds

theorem refl (core : Core σ) : Still core core := inside (.refl core.pool)

/-- Something is noted that is neither a frame nor a phase.  Notes of device code are an example. -/
theorem noted (core : Core σ) {events : List Event} (unsent : events.filterMap Event.frame? = [])
    (untold : events.filterMap Event.phase? = []) :
    Still core { core with log := core.log ++ events } :=
  { refl core with
    frames_eq := by rw [frames, List.filterMap_append, unsent, List.append_nil, frames]
    notified_eq := by rw [notified, List.filterMap_append, untold, List.append_nil, notified] }

theorem trans (first : Still core next) (second : Still next last) : Still core last where
  link_eq := second.link_eq.trans first.link_eq
  frames_eq := second.frames_eq.trans first.frames_eq
  notified_eq := second.notified_eq.trans first.notified_eq
  nextId_eq := second.nextId_eq.trans first.nextId_eq
  outlets := by
    intro index outlet found
    rcases first.outlets index outlet found with ⟨between, there, leaves⟩
    rcases second.outlets index between there with ⟨left, here, further⟩
    exact ⟨left, here, leaves.trans further⟩
  empty := second.empty ∘ first.empty
  winds := by
    intro closed
    have earlier := first.winds closed
    exact earlier.trans (second.winds (earlier.closed_eq.trans closed))

theorem closed (still : Still core next) (closed : core.link.phase = .closed) :
    next.link.phase = .closed := by
  rw [still.link_eq, closed]

/--
A list of changes, each of which is still as long as the link is closed.  The changes may
depend on what they find.
-/
theorem foldl {α : Type} {change : Core σ → α → Core σ}
    (each : ∀ core item, core.link.phase = .closed → Still core (change core item))
    (items : List α) {core : Core σ} (closed : core.link.phase = .closed) :
    Still core (items.foldl change core) := by
  induction items generalizing core with
  | nil => exact refl core
  | cons item rest ih =>
      have first := each core item closed
      exact first.trans (ih (first.closed closed))

end Still

theorem still_submit (core : Core σ) (job : Job) : Still core (core.submit job).2 := by
  unfold submit
  split
  · rename_i submitted
    refine { Still.refl core with winds := fun closed => ?_ }
    rw [(Pool.submit_ok submitted).1] at closed
    cases closed
  · exact Still.refl core

theorem still_onNewestQueue (core : Core σ) {change : Outlet → List String × Outlet}
    (leaves : ∀ outlet : Outlet, outlet.Leaves (change outlet).2) :
    Still core (core.onNewestQueue change).2 := by
  unfold onNewestQueue
  split
  · exact Still.refl core
  · dsimp only
    split
    · exact Still.refl core
    · rename_i newest found
      refine { Still.refl core with outlets := fun index outlet here => ?_ }
      dsimp only
      rw [List.getElem?_set]
      split
      · rename_i same
        rw [same, here] at found
        have inside := (List.getElem?_eq_some_iff.mp here).1
        rw [if_pos (same ▸ inside)]
        exact ⟨_, rfl, Option.some.inj found ▸ leaves outlet⟩
      · exact ⟨outlet, here, .same outlet⟩

theorem still_drainQueue (core : Core σ) (most : Option Nat) :
    Still core (core.drainQueue most).2 := by
  refine core.still_onNewestQueue fun outlet => ?_
  cases outlet with
  | record | refusing => exact .same _
  | queue capacity frames isOpen => exact .taken capacity (List.drop_suffix _ frames) isOpen isOpen

theorem still_hangUp (core : Core σ) : Still core core.hangUp := by
  refine core.still_onNewestQueue fun outlet => ?_
  cases outlet with
  | record | refusing => exact .same _
  | queue capacity frames isOpen => exact .taken capacity List.nil_suffix isOpen false

/-- Taking entries out of the registry.  One that is empty stays so. -/
theorem still_registry (core : Core σ) {registry : Registry}
    (empty : core.registry.entries = [] → registry.entries = []) :
    Still core { core with registry := registry } :=
  { Still.refl core with empty := empty }

theorem still_deliver (core : Core σ) (reply : Reply) : Still core (core.deliver reply).2 := by
  refine core.still_registry fun empty => ?_
  have undelivered := congrArg (·.2.entries) (Registry.deliver_of_empty empty reply)
  exact undelivered.trans empty

theorem still_endTask (core : Core σ) (task : Pool.Task σ) : Still core (core.endTask task) :=
  .inside ((Pool.Winds.retire core.pool task).trans (.releasePermit _))

theorem still_abortTasks (core : Core σ) (tasks : List Nat) : Still core (core.abortTasks tasks) :=
  .inside (.abort core.pool tasks)

section

variable (setup : Setup σ) {core : Core σ} (closed : core.link.phase = .closed)

include closed

theorem send_of_closed (text : String) : core.send text = (.error .closed, core) := by
  simp only [send, Link.route, closed]

theorem prepare_of_closed {device : Address} {request : Request} {payload : Json.Members}
    (passes : request.payload device = .ok payload) :
    core.prepare device request = .error .closed := by
  simp only [prepare, passes, Link.ensureConnected, closed]

theorem exists_prepare_error (device : Address) (request : Request) :
    ∃ failure, core.prepare device request = .error failure := by
  cases passes : request.payload device with
  | error failure => exact ⟨failure, by simp only [prepare, passes]⟩
  | ok payload => exact ⟨.closed, prepare_of_closed closed passes⟩

theorem respond_of_closed (messageId : UInt32) (code : Int32) (payload : Json.Members) :
    core.respond messageId code payload = (.error .closed, core) := send_of_closed closed _

theorem still_receive (text : String) : Still core (receive setup core text).2 := by
  have way := routing setup core text
  generalize (receive setup core text).1 = verdict at way
  generalize (receive setup core text).2 = after at way ⊢
  generalize offered? setup core text = offer at way
  cases way with
  | dropped => exact Still.refl core
  | delivered | unmatched => exact core.still_deliver _
  | observed reply => exact (core.still_deliver reply).trans (still_submit _ _)
  | submitted => exact still_submit core _
  | unreadable | refused =>
      rw [respond_of_closed closed]
      exact Still.refl core

/-! ## Steps of tasks -/

theorem still_endCall (task : Pool.Task σ) (messageId : UInt32) (outcome : Outcome Json.Members) :
    Still core (core.endCall task messageId outcome) := by
  have refused : (core.respond messageId (DeviceCall.answer outcome).1
      (DeviceCall.answer outcome).2).2 = core := by
    rw [respond_of_closed closed]
  have ended : core.endCall task messageId outcome = core.endTask task :=
    congrArg (fun core => endTask core task) refused
  rw [ended]
  exact still_endTask core task

theorem still_runActivity (task : Pool.Task σ) (messageId : UInt32)
    (activity : Activity σ Json.Members) :
    Still core (core.runActivity task messageId activity) := by
  have ran : Still core (core.ranTo activity) := by
    have moved : Still core { core with world := (activity.run core.world).world } :=
      .inside (.refl core.pool)
    refine moved.trans (.noted _ ?_ ?_)
    · rw [List.filterMap_map]
      exact List.filterMap_eq_nil_iff.mpr fun _ _ => rfl
    · rw [List.filterMap_map]
      exact List.filterMap_eq_nil_iff.mpr fun _ _ => rfl
  cases progress : (activity.run core.world).progress with
  | ended outcome =>
      rw [runActivity_of_ended core task messageId progress]
      exact ran.trans (still_endCall (ran.closed closed) task messageId outcome)
  | atGate gate rest =>
      rw [runActivity_of_atGate core task messageId progress]
      exact ran.trans (.inside (.proceed _ _))

theorem still_beginJob (task : Pool.Task σ) : Still core (beginJob setup core task) := by
  let begun := { core with pool := core.pool.startJob }
  have started : Still core begun := .inside (.of_tasks_eq rfl rfl)
  unfold beginJob
  cases task.job with
  | invoke messageId device call =>
      exact started.trans (still_runActivity (started.closed closed) task messageId _)
  | reportReply messageId code =>
      have reported : Still begun (reportReply setup begun messageId code) := by
        unfold reportReply
        split
        · exact .noted begun rfl rfl
        · exact .noted begun rfl rfl
        · exact Still.refl begun
      exact (started.trans reported).trans (still_endTask _ task)

theorem still_stepTask (task : Pool.Task σ) : Still core (stepTask setup core task) := by
  unfold stepTask
  split
  · exact .inside (.acquire core.pool task)
  · exact still_beginJob setup closed task
  · unfold askGate
    split
    · exact .inside (.proceed core.pool _)
    · exact .inside (.setTask core.pool _)
  · exact still_runActivity closed task _ _
  · exact Still.refl core

theorem still_step (id : Nat) : Still core (step setup core id) := by
  let taken := { core with pool := core.pool.leaveReady id }
  have left : Still core taken := .inside (.of_tasks_eq rfl rfl)
  unfold step
  dsimp only
  split
  · exact left.trans (still_stepTask setup (left.closed closed) _)
  · exact left

theorem still_settleFor (count : Nat) (turns : Turns) :
    Still core (settleFor setup count turns core) := by
  refine settleFor_induction setup (fun next ready still => ?_) (fun next id still => ?_) count
    turns (Still.refl core)
  · exact still.trans (.inside (.of_tasks_eq rfl rfl))
  · exact still.trans (still_step setup (still.closed closed) id)

/-! ## Moves -/

theorem establish_of_closed (outlet : Outlet) :
    core.establish setup outlet = (false, { core with outlets := core.outlets ++ [outlet] }) := by
  simp only [establish, Link.establish, closed, apply]

theorem closeLink_of_closed : core.closeLink setup = core := by
  simp only [closeLink, Link.close, closed, apply]

theorem still_perform (move : Move σ) : Still core (perform setup core move) := by
  cases move with
  | establish outlet =>
      rw [perform, establish_of_closed setup closed]
      refine { Still.refl core with outlets := fun index known found => ⟨known, ?_, .same known⟩ }
      exact (List.getElem?_append_left (List.getElem?_eq_some_iff.mp found).1).trans found
  | closeLink =>
      rw [perform, closeLink_of_closed setup closed]
      exact Still.refl core
  | shutdownLink =>
      rw [perform, shutdownLink_of_closed setup core closed]
      exact Still.refl core
  | report device request =>
      rcases exists_prepare_error closed device request with ⟨failure, refused⟩
      rw [perform, core.sendAsync_of_error refused]
      exact Still.refl core
  | request device request now budget =>
      rcases exists_prepare_error closed device request with ⟨failure, refused⟩
      simp only [perform, sendSync, refused]
      split <;> exact Still.refl core
  | receive text => exact still_receive setup closed text
  | submit job => exact still_submit core job
  | step task => exact still_step setup closed task
  | drain most => exact core.still_drainQueue most
  | hangUp => exact core.still_hangUp
  | forget token => exact core.still_registry fun empty => Registry.drop_of_empty empty token
  | forgetAll => exact core.still_registry fun _ => rfl
  | openGate gate permits => exact .inside (.awaken core.pool _ _)
  | closePool =>
      exact { Still.refl core with winds := fun closed => .of_tasks_eq closed.symm rfl }
  | abort tasks => exact core.still_abortTasks tasks
  | disturb world => exact .inside (.refl core.pool)

theorem still_run (moves : List (Move σ)) : Still core (run setup core moves) :=
  Still.foldl (fun _ move closed => still_perform setup closed move) moves closed

end

/-! ## The pool -/

theorem closed_perform_of_closed {setup : Setup σ} {past : List Happening} {core : Core σ}
    (accounted : Accounted setup past core) (closed : core.pool.closed = true) {move : Move σ}
    (orderly : move.isAbort = false) : (perform setup core move).pool.closed = true := by
  cases closing : move.isClosePool with
  | false => exact (closed_perform accounted orderly closing).trans closed
  | true =>
      cases move with
      | closePool => rfl
      | _ => cases closing

/--
Once a pool has been closed no call is accepted any more.  So the calls of such a pool are
known, and each of them may be waited for.
-/
theorem acceptances_history_of_closed {setup : Setup σ} {past : List Happening} {core : Core σ}
    (accounted : Accounted setup past core) (closed : core.pool.closed = true)
    {moves : List (Move σ)} (orderly : ∀ move ∈ moves, move.isAbort = false) :
    (history setup core moves).filterMap Happening.acceptance? = [] := by
  induction moves generalizing past core with
  | nil => rfl
  | cons move rest ih =>
      have first := orderly move List.mem_cons_self
      have later := ih (accounted.perform first) (closed_perform_of_closed accounted closed first)
        fun other inside => orderly other (List.mem_cons_of_mem _ inside)
      rw [history] at later ⊢
      rw [Run.history, List.filterMap_append, acceptances_of_closed setup closed, later]
      rfl

end Core
end DeviceLink
