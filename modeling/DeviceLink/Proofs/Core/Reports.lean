import DeviceLink.Proofs.Core.Accounting
import DeviceLink.Proofs.Pool.Reports
import DeviceLink.Proofs.Pool.Winding

namespace DeviceLink

/-- The reply that an event tells the observer about.  Other events are none of its business. -/
def Event.reply? : Event → Option (UInt32 × Int32)
  | reply messageId code => some (messageId, code)
  | _ => none

namespace Core

variable {σ : Type}

/-!
What the observer of unmatched replies has been told.  Each report that a task has made
has told it once, and nothing else has.  Whether the observer crashes makes no
difference to anything that happens afterwards.  The reports that are still to be made
are those of the tasks in the pool, so what has been told and what is waiting together
are what was ever accepted.  `Reported` keeps this through a run, next to the account of
the calls.
-/

/-- What the observer has been told, in order.  It is read off the log. -/
def told (core : Core σ) : List (UInt32 × Int32) := core.log.filterMap Event.reply?

/-! ## Operations that tell nothing -/

section

variable (setup : Setup σ) (core : Core σ)

theorem told_record (event : Event) :
    (core.record event).told = core.told ++ event.reply?.toList := Run.filterMap_concat _ _ _

theorem told_apply (update : Link.Update) : (apply setup core update).told = core.told := by
  unfold apply publish
  split
  · split
    · exact (told_record _ _).trans (List.append_nil _)
    · rfl
  · rfl

theorem told_send (text : String) : (core.send text).2.told = core.told := by
  unfold send hand
  split
  · split
    · rfl
    · split
      · rfl
      · split
        · exact (told_record _ _).trans (List.append_nil _)
        · rfl
  · rfl

theorem told_sendAsync (device : Address) (request : Request) :
    (core.sendAsync device request).2.told = core.told := by
  unfold sendAsync
  split
  · rfl
  · rename_i payload _
    have sent := told_send core.takeId.2 (request.frame core.takeId.1 payload)
    dsimp only
    split <;> rename_i result <;> rw [result] at sent <;> exact sent

theorem told_openWait (request : Request) (messageId : UInt32) (payload : Json.Members)
    (due : Nat) (budget : Duration) :
    (core.openWait request messageId payload due budget).2.told = core.told := by
  unfold openWait
  split
  · rfl
  · rename_i token registry _
    have sent := told_send { core with registry := registry } (request.frame messageId payload)
    split <;> rename_i result <;> rw [result] at sent <;> exact sent

theorem told_sendSync (device : Address) (request : Request) (now : Nat) (budget : Duration) :
    (core.sendSync device request now budget).2.told = core.told := by
  unfold sendSync
  split
  · rfl
  · split
    · rfl
    · exact told_openWait core.takeId.2 _ _ _ _ _

theorem told_onNewestQueue (change : Outlet → List String × Outlet) :
    (core.onNewestQueue change).2.told = core.told := by
  unfold onNewestQueue
  split
  · rfl
  · dsimp only
    split <;> rfl

theorem told_submit (job : Job) : (core.submit job).2.told = core.told := by
  unfold submit
  split <;> rfl

theorem told_receive (text : String) : (receive setup core text).2.told = core.told := by
  have way := routing setup core text
  generalize (receive setup core text).1 = verdict at way
  generalize (receive setup core text).2 = after at way ⊢
  generalize offered? setup core text = offer at way
  cases way with
  | dropped | delivered | unmatched => rfl
  | observed reply => exact told_submit _ _
  | submitted => exact told_submit core _
  | unreadable | refused => exact told_send core _

theorem told_runActivity (task : Pool.Task σ) (messageId : UInt32)
    (activity : Activity σ Json.Members) :
    (core.runActivity task messageId activity).told = core.told := by
  have ran : (core.ranTo activity).told = core.told := by
    have silent : ((activity.run core.world).notes.map Event.note).filterMap Event.reply? = [] := by
      rw [List.filterMap_map, List.filterMap_eq_nil_iff]
      exact fun _ _ => rfl
    rw [told, ranTo, List.filterMap_append, silent, List.append_nil, told]
  cases progress : (activity.run core.world).progress with
  | ended outcome =>
      rw [runActivity_of_ended core task messageId progress]
      exact (told_send _ _).trans ran
  | atGate gate rest =>
      rw [runActivity_of_atGate core task messageId progress]
      exact ran

/-- The end of a call is no report.  Calls and reports share the pool and nothing else. -/
theorem endedReports_concluded (messageId : UInt32) (device : Address) (call : DeviceCall)
    (activity : Activity σ Json.Members) (world : σ) :
    endedReports (concluded (.invoke messageId device call) activity world) = [] := by
  unfold concluded
  split <;> rfl

end

/-! ## Reports -/

/--
What the observer is told when reports are made, if there is an observer.  Without one
nobody is told anything.
-/
def heard (setup : Setup σ) (reports : List (UInt32 × Int32)) : List (UInt32 × Int32) :=
  if setup.replyObserver.isSome then reports else []

section

variable (setup : Setup σ) (core : Core σ)

theorem heard_append (first second : List (UInt32 × Int32)) :
    heard setup (first ++ second) = heard setup first ++ heard setup second := by
  unfold heard
  split <;> rfl

theorem heard_nil : heard setup [] = [] := ite_self []

theorem told_reportReply (messageId : UInt32) (code : Int32) :
    (reportReply setup core messageId code).told =
      core.told ++ heard setup [(messageId, code)] := by
  unfold reportReply heard
  cases setup.replyObserver with
  | none => exact (List.append_nil _).symm
  | some observer => cases observer <;> exact told_record _ _

/--
A step of a task tells the observer about the report that it makes, if it makes one.  It
makes no difference what kind of observer it is.
-/
theorem told_step (id : Nat) :
    (step setup core id).told =
      core.told ++ heard setup (endedReports (stepped setup core id)) := by
  have silent : core.told ++ heard setup (endedReports []) = core.told := by
    rw [endedReports, List.filterMap_nil, heard_nil, List.append_nil]
  unfold step stepped
  cases core.pool.task? id with
  | none => exact silent.symm
  | some task =>
      dsimp only
      unfold stepTask
      cases stage : task.stage with
      | fresh => exact silent.symm
      | queueing | suspended => exact silent.symm
      | atGate gate rest =>
          simp only [askGate]
          split <;> exact silent.symm
      | granted =>
          dsimp only
          unfold beginJob
          cases job : task.job with
          | invoke messageId device call =>
              have quiet : endedReports (.began (.invoke messageId device call) ::
                  concluded (.invoke messageId device call)
                    (call.perform setup.handler setup.options.outputSlots device)
                    core.world) = [] :=
                endedReports_concluded messageId device call _ _
              dsimp only
              rw [quiet, heard_nil, List.append_nil]
              exact told_runActivity _ _ _ _
          | reportReply messageId code => exact told_reportReply setup _ messageId code
      | resumable rest =>
          cases job : task.job with
          | reportReply messageId code => exact silent.symm
          | invoke messageId device call =>
              have quiet : endedReports
                  (concluded (.invoke messageId device call) rest core.world) = [] :=
                endedReports_concluded messageId device call _ _
              dsimp only
              rw [quiet, heard_nil, List.append_nil]
              exact told_runActivity _ _ _ _

/-- Nobody but a task makes a report.  A reply that nobody awaits is only handed to the pool. -/
theorem endedReports_of_foreign {move : Move σ} (foreign : move.step? = none) :
    endedReports (observe setup core move) = [] := by
  refine List.filterMap_eq_nil_iff.mpr fun happening shown => ?_
  cases origin_of_observe shown with
  | stepped id happening inside => cases foreign
  | report | request | received | offered | submitted => rfl

theorem told_perform (move : Move σ) :
    (perform setup core move).told =
      core.told ++ heard setup (endedReports (observe setup core move)) := by
  cases foreign : move.step? with
  | some id =>
      cases move <;> cases foreign
      exact told_step setup core id
  | none =>
      rw [endedReports_of_foreign setup core foreign, heard_nil, List.append_nil]
      cases move with
      | step task => cases foreign
      | establish outlet => exact told_apply setup _ _
      | closeLink => exact told_apply setup core _
      | shutdownLink => exact told_apply setup core _
      | report device request => exact told_sendAsync core device request
      | request device request now budget => exact told_sendSync core device request now budget
      | receive text => exact told_receive setup core text
      | submit job => exact told_submit core job
      | drain most => exact told_onNewestQueue core _
      | hangUp => exact told_onNewestQueue core _
      | forget | forgetAll | openGate | closePool | abort | disturb => rfl

end

/-! ## Runs -/

theorem relaying_of_effect {permits : Nat} {core next : Core σ} {past shown : List Happening}
    (effect : Effect core next shown)
    (coherent : core.pool.Coherent permits core.gates.waiting)
    (relaying : core.pool.Relaying past) : next.pool.Relaying (past ++ shown) := by
  induction effect generalizing past with
  | beside pool_eq _ =>
      rw [pool_eq, List.append_nil]
      exact relaying
  | transition transition _ _ => exact transition.relaying coherent relaying
  | aside happening aside _ ih =>
      have quiet : ∀ other ∈ [happening], other.report? = none := by
        intro other inside
        rw [List.mem_singleton.mp inside, Happening.report?, aside]
        rfl
      rw [← List.singleton_append, ← List.append_assoc]
      exact ih (relaying.aside quiet (List.Perm.refl _))

/--
What was accepted, what tasks have still to do and what the observer was told agree.  Each
report that was accepted is with a task, or has been told.
-/
structure Reported (setup : Setup σ) (past : List Happening) (core : Core σ) : Prop where
  accounted : Accounted setup past core
  relaying : core.pool.Relaying past
  told_eq : core.told = heard setup (endedReports past)

theorem reported_new (setup : Setup σ) (world : σ) : Reported setup [] (new setup world) where
  accounted := accounted_new setup world
  relaying := ⟨List.Perm.nil, rfl⟩
  told_eq := (heard_nil setup).symm

namespace Reported

variable {setup : Setup σ} {past : List Happening} {core : Core σ}

theorem perform (reported : Reported setup past core) {move : Move σ}
    (orderly : move.isAbort = false) :
    Reported setup (past ++ observe setup core move) (Core.perform setup core move) where
  accounted := reported.accounted.perform orderly
  relaying := relaying_of_effect
    (effect_perform reported.accounted.coherent setup reported.accounted.gates_distinct orderly)
    reported.accounted.coherent reported.relaying
  told_eq := by
    rw [told_perform, reported.told_eq, ← heard_append]
    exact congrArg (heard setup) List.filterMap_append.symm

theorem run (reported : Reported setup past core) {moves : List (Move σ)}
    (orderly : ∀ move ∈ moves, move.isAbort = false) :
    Reported setup (past ++ history setup core moves) (Core.run setup core moves) :=
  run_induction setup (fun _ _ _ kind reported => reported.perform kind) reported orderly

end Reported

/-! ## Room for a report -/

namespace Move

/-- A move by which the pool may accept a job.  No other move adds anything to the pool. -/
def isInbound : Move σ → Bool
  | receive _ => true
  | submit _ => true
  | _ => false

def isClosePool : Move σ → Bool
  | closePool => true
  | _ => false

/--
A move that brings nothing in and does not stop the pool.  Steps of tasks and the opening of
gates are such moves.
-/
def isQuiet (move : Move σ) : Bool := !(move.isInbound || move.isClosePool || move.isAbort)

theorem of_isQuiet {move : Move σ} (quiet : move.isQuiet = true) :
    move.isInbound = false ∧ move.isClosePool = false ∧ move.isAbort = false := by
  simpa [isQuiet, and_assoc] using quiet

end Move

/--
The report that an inbound frame leaves for the observer, if the pool takes it.  It is the
id and the code of a reply that nobody awaits.
-/
def relayed? (setup : Setup σ) (core : Core σ) (text : String) : Option (UInt32 × Int32) :=
  match Inbound.ofText text with
  | .ok (.response messageId code _) =>
      if (receive setup core text).1 = .unmatched ∧ setup.replyObserver.isSome ∧
          core.pool.queued < setup.options.queueLimit then some (messageId, code)
      else none
  | _ => none

section

variable (setup : Setup σ) (core : Core σ)

theorem acceptedReports_of_foreign {move : Move σ} (foreign : move.isInbound = false) :
    acceptedReports (observe setup core move) = [] := by
  refine List.filterMap_eq_nil_iff.mpr fun happening shown => ?_
  cases origin_of_observe shown with
  | offered | submitted => cases foreign
  | report | request | received => rfl
  | stepped id happening inside =>
      -- What a task shows is the beginning or the end of its job.
      unfold stepped at inside
      split at inside
      · cases inside
      · split at inside
        · rcases List.mem_cons.mp inside with rfl | ended
          · rfl
          · unfold concluded at ended
            split at ended
            · rw [List.mem_singleton.mp ended]
              rfl
            · cases ended
        · rcases List.mem_cons.mp inside with rfl | ended
          · rfl
          · rw [List.mem_singleton.mp ended]
            rfl
        · unfold concluded at inside
          split at inside
          · rw [List.mem_singleton.mp inside]
            rfl
          · cases inside
        · cases inside

theorem acceptedReports_of_quiet {moves : List (Move σ)}
    (quiet : ∀ move ∈ moves, move.isQuiet = true) :
    acceptedReports (history setup core moves) = [] := by
  induction moves generalizing core with
  | nil => rfl
  | cons move rest ih =>
      have first := acceptedReports_of_foreign setup core
        (Move.of_isQuiet (quiet move List.mem_cons_self)).1
      have later := ih (perform setup core move)
        fun other inside => quiet other (List.mem_cons_of_mem _ inside)
      unfold acceptedReports at first later ⊢
      rw [history, Run.history, List.filterMap_append, first]
      exact later

/--
A report is accepted where the pool is open and has room, and nowhere else.  There is room
as long as fewer jobs wait than the limit says.
-/
theorem acceptedReports_receive (isOpen : core.pool.closed = false)
    (limit_eq : core.pool.queueLimit = setup.options.queueLimit) (text : String) :
    acceptedReports (observe setup core (.receive text)) =
      (relayed? setup core text).toList := by
  have way := routing setup core text
  have shown : acceptedReports (observe setup core (.receive text)) =
      acceptedReports (core.admitted (offered? setup core text)) := rfl
  rw [shown, relayed?]
  generalize (receive setup core text).1 = verdict at way ⊢
  generalize (receive setup core text).2 = after at way
  generalize offered? setup core text = offer at way ⊢
  cases way with
  | dropped =>
      split
      · simp [admitted, acceptedReports]
      · rfl
  | delivered reply inbound => simp [inbound, admitted, acceptedReports]
  | unmatched reply inbound missed unobserved =>
      simp [inbound, admitted, acceptedReports, unobserved]
  | unreadable messageId method payload device fault inbound =>
      simp [inbound, admitted, acceptedReports]
  | observed reply inbound missed observed =>
      have observes : setup.replyObserver.isSome = true := Option.isSome_iff_ne_none.mpr observed
      simp only [inbound, observes, true_and]
      by_cases room : core.pool.queued < setup.options.queueLimit
      · have accepted : core.pool.submit (.reportReply reply.messageId reply.code) =
            .ok ({ core.pool with queued := core.pool.queued + 1 }.enqueue
              (.reportReply reply.messageId reply.code)) := by
          simp [Pool.submit, isOpen, limit_eq, room]
        rw [if_pos room]
        simp only [admitted, accepted]
        rfl
      · have refused : core.pool.submit (.reportReply reply.messageId reply.code) =
            .error Pool.queueFull := by
          simp [Pool.submit, isOpen, limit_eq, Nat.le_of_not_lt room]
        rw [if_neg room]
        simp only [admitted, refused]
        rfl
  | submitted messageId method payload device call inbound =>
      simp only [inbound, admitted]
      split <;> rfl
  | refused messageId method payload device call failure inbound =>
      simp only [inbound, admitted]
      split <;> rfl

end

section

variable {setup : Setup σ} {past : List Happening} {core : Core σ}

theorem closed_takeUp (pool : Pool σ) (task : Pool.Task σ) :
    (pool.takeUp task).closed = pool.closed := by
  unfold Pool.takeUp
  split <;> rfl

theorem closed_submit (core : Core σ) (job : Job) :
    (core.submit job).2.pool.closed = core.pool.closed := by
  unfold submit
  split
  · rename_i submitted
    rw [(Pool.submit_ok submitted).2.2]
    unfold Pool.enqueue
    split
    · rfl
    · split <;> rfl
  · rfl

theorem closed_receive (setup : Setup σ) (core : Core σ) (text : String) :
    (receive setup core text).2.pool.closed = core.pool.closed := by
  have way := routing setup core text
  generalize (receive setup core text).1 = verdict at way
  generalize (receive setup core text).2 = after at way ⊢
  generalize offered? setup core text = offer at way
  cases way with
  | dropped | delivered | unmatched => rfl
  | observed reply => exact closed_submit _ _
  | submitted => exact closed_submit core _
  | unreadable | refused => exact congrArg Pool.closed (beside_send core _).pool_eq

/-- The step of a task does not close the pool.  Only an operation of the application does. -/
theorem closed_step (accounted : Accounted setup past core) (id : Nat) :
    (step setup core id).pool.closed = core.pool.closed := by
  by_cases ready : id ∈ core.pool.ready
  · rcases stepping_of_ready accounted.coherent setup ready with ⟨task, -, -, -, way⟩
    generalize (step setup core id).pool = pool at way ⊢
    generalize (step setup core id).gates = gates at way
    generalize stepped setup core id = shown at way
    cases way with
    | ask => exact (Pool.Winds.acquire _ task).closed_eq
    | arrive => exact closed_takeUp core.pool task
    | finish => exact (Pool.Winds.retire _ task).closed_eq.trans (closed_takeUp core.pool task)
    | pass | block => rfl
  · rw [(step_of_not_ready accounted.coherent setup ready).1]

/-- A pool stays open until somebody closes it.  No frame and no task can do that. -/
theorem closed_perform (accounted : Accounted setup past core) {move : Move σ}
    (orderly : move.isAbort = false) (unclosing : move.isClosePool = false) :
    (perform setup core move).pool.closed = core.pool.closed := by
  cases move with
  | abort tasks => cases orderly
  | closePool => cases unclosing
  | establish outlet => exact congrArg Pool.closed (beside_establish setup core outlet).pool_eq
  | closeLink => exact congrArg Pool.closed (beside_apply setup core _).pool_eq
  | shutdownLink => exact congrArg Pool.closed (beside_apply setup core _).pool_eq
  | report device request =>
      exact congrArg Pool.closed (beside_sendAsync core device request).pool_eq
  | request device request now budget =>
      exact congrArg Pool.closed (beside_sendSync core device request now budget).pool_eq
  | receive text => exact closed_receive setup core text
  | submit job => exact closed_submit core job
  | step id => exact closed_step accounted id
  | drain most => exact congrArg Pool.closed (beside_onNewestQueue core _).pool_eq
  | hangUp => exact congrArg Pool.closed (beside_onNewestQueue core _).pool_eq
  | forget | forgetAll | openGate | disturb => rfl

theorem closed_run (accounted : Accounted setup past core) {moves : List (Move σ)}
    (orderly : ∀ move ∈ moves, move.isAbort = false)
    (unclosing : ∀ move ∈ moves, move.isClosePool = false) :
    (run setup core moves).pool.closed = core.pool.closed := by
  induction moves generalizing past core with
  | nil => rfl
  | cons move rest ih =>
      have first := orderly move List.mem_cons_self
      refine (ih (accounted.perform first) ?_ ?_).trans
        (closed_perform accounted first (unclosing move List.mem_cons_self))
      · exact fun other inside => orderly other (List.mem_cons_of_mem _ inside)
      · exact fun other inside => unclosing other (List.mem_cons_of_mem _ inside)

/--
The reports of a pool that nobody closes.  Each reply that was relayed has a report of its
own.
-/
theorem Reported.run_open (reported : Reported setup past core)
    (isOpen : core.pool.closed = false) {moves : List (Move σ)}
    (orderly : ∀ move ∈ moves, move.isAbort = false)
    (unclosing : ∀ move ∈ moves, move.isClosePool = false) :
    Reported setup (past ++ history setup core moves) (Core.run setup core moves) ∧
      (Core.run setup core moves).pool.closed = false := by
  have kept : ∀ past core move, Move.isAbort move = false ∧ move.isClosePool = false →
      Reported setup past core ∧ core.pool.closed = false →
      Reported setup (past ++ observe setup core move) (Core.perform setup core move) ∧
        (Core.perform setup core move).pool.closed = false := by
    rintro past core move ⟨kind, unclosing⟩ ⟨reported, isOpen⟩
    exact ⟨reported.perform kind,
      (closed_perform reported.accounted kind unclosing).trans isOpen⟩
  exact run_induction setup kept ⟨reported, isOpen⟩
    fun move inside => ⟨orderly move inside, unclosing move inside⟩

end

end Core
end DeviceLink
