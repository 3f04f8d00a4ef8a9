import DeviceLink.Proofs.Core.Starvation
import DeviceLink.Proofs.Session.CoreRun

namespace DeviceLink
namespace Session

variable {σ : Type}

/-!
Every response has one consumer.  If a request awaits it, the request gets it and nobody
else hears of it; otherwise it is told to the observer, by a task of the pool and once,
as far as there is an observer and room for the task.  `Tended` is the invariant of runs
without a shutdown: those who wait are in order, and each report that was left for the
observer has been told or has its task.  `Exclusive` is what follows from it for whole
runs.
-/

/--
The reports that a move leaves for the observer.  Only an inbound frame can leave one, and
it leaves one at most.
-/
def relayedBy (setup : Setup σ) (session : Session σ) (move : Move σ) : List (UInt32 × Int32) :=
  match move with
  | .receive text => (Core.relayed? setup session.core text).toList
  | _ => []

/--
The reports that a run leaves for the observer: one for each unmatched response with room.
They are in the order in which the responses came in.
-/
def relayed (setup : Setup σ) : Session σ → List (Move σ) → List (UInt32 × Int32) :=
  Run.history (perform setup) (relayedBy setup)

/-! ## The work of the core -/

/--
A move of the session lets its core make these moves.  None of them closes the pool and none
abandons a task.
-/
structure Work (setup : Setup σ) (session : Session σ) (move : Move σ)
    (inner : List (Core.Move σ)) : Prop where
  orderly : ∀ inward ∈ inner, inward.isAbort = false
  unclosing : ∀ inward ∈ inner, inward.isClosePool = false
  run_eq : Core.run setup session.core inner = (session.perform setup move).core
  reports_eq : acceptedReports (Core.history setup session.core inner) =
    relayedBy setup session move

section

variable {setup : Setup σ} {session : Session σ} {move : Move σ}

/--
Every move that begins no shutdown is the work of the core, as far as it concerns the core.
The rest of what it does concerns those who wait outside of the core.
-/
theorem exists_work {past : List Happening} (accounted : Core.Accounted setup past session.core)
    (isOpen : session.core.pool.closed = false) (undrained : session.drains = [])
    (goesOn : move.shuts = false) : ∃ inner, Work setup session move inner := by
  refine ⟨session.coreMoves setup move, ?_⟩
  exact
    { orderly := fun _ inside => (inward_of_mem inside).orderly undrained
      unclosing := fun _ inside => (inward_of_mem inside).unclosing goesOn
      run_eq := run_coreMoves_of_accounted accounted
      reports_eq := by
        by_cases inbound : ∃ text, move = .receive text
        · rcases inbound with ⟨text, rfl⟩
          have alone : Core.history setup session.core [.receive text] =
              Core.observe setup session.core (.receive text) := List.append_nil _
          rw [coreMoves, alone]
          exact Core.acceptedReports_receive setup session.core isOpen accounted.limit_eq text
        · have silent : relayedBy setup session move = [] := by
            cases move with
            | receive text => exact absurd ⟨text, rfl⟩ inbound
            | _ => rfl
          rw [silent]
          refine Core.acceptedReports_of_quiet setup session.core fun inward inside => ?_
          refine (inward_of_mem inside).isQuiet undrained goesOn fun text same => ?_
          exact inbound ⟨text, same⟩ }

end

/-! ## Runs without a shutdown -/

/--
Everything is in order, and these reports have been left for the observer.  The pool is open
and nobody drains it, so each report has a task or has been told.
-/
structure Tended (setup : Setup σ) (reports : List (UInt32 × Int32)) (session : Session σ) :
    Prop where
  attended : Attended session
  undrained : session.drains = []
  isOpen : session.core.pool.closed = false
  reported : ∃ past, Core.Reported setup past session.core ∧ acceptedReports past = reports
  /--
  Without an observer there are none.  Nobody makes a job of a response that nobody would
  listen to.
  -/
  heard_eq : Core.heard setup reports = reports

theorem tended_new (setup : Setup σ) (world : σ) : Tended setup [] (new setup world) where
  attended := attended_new setup world
  undrained := rfl
  isOpen := rfl
  reported := ⟨[], Core.reported_new setup world, rfl⟩
  heard_eq := Core.heard_nil setup

theorem heard_relayedBy (setup : Setup σ) (session : Session σ) (move : Move σ) :
    Core.heard setup (relayedBy setup session move) = relayedBy setup session move := by
  unfold Core.heard
  split
  · rfl
  · rename_i unobserved
    cases move with
    | receive text =>
        simp only [relayedBy, Core.relayed?]
        split
        · rw [if_neg fun heard => unobserved heard.2.1]
          rfl
        · rfl
    | _ => rfl

namespace Tended

variable {setup : Setup σ} {reports : List (UInt32 × Int32)} {session : Session σ}

theorem perform (tended : Tended setup reports session) {move : Move σ}
    (goesOn : move.shuts = false) :
    Tended setup (reports ++ relayedBy setup session move) (session.perform setup move) := by
  rcases tended.reported with ⟨past, reported, accepted⟩
  rcases exists_work reported.accounted tended.isOpen tended.undrained goesOn with ⟨inner, work⟩
  have worked := reported.run_open tended.isOpen work.orderly work.unclosing
  rw [work.run_eq] at worked
  exact
    { attended := (change_perform tended.attended setup goesOn).attended tended.attended
      undrained := drains_perform setup tended.undrained goesOn
      isOpen := worked.2
      reported := by
        refine ⟨_, worked.1, ?_⟩
        rw [← accepted, ← work.reports_eq]
        exact List.filterMap_append
      heard_eq := by
        rw [Core.heard_append, tended.heard_eq, heard_relayedBy] }

theorem run (setup : Setup σ) (world : σ) {moves : List (Move σ)}
    (goesOn : ∀ move ∈ moves, move.shuts = false) :
    Tended setup (relayed setup (new setup world) moves) (run setup (new setup world) moves) :=
  Run.keeps (fun _ _ _ kind tended => tended.perform kind) (tended_new setup world) goesOn

/--
What has been told and what tasks have still to tell is what was left for the observer.  No
report is lost on the way, and none is told twice.
-/
theorem relayed_perm (tended : Tended setup reports session) :
    reports.Perm (session.core.told ++ Pool.reportsOf session.core.pool.tasks) := by
  rcases tended.reported with ⟨past, reported, accepted⟩
  have relaying := reported.relaying.accepted_perm
  rw [accepted] at relaying
  rw [reported.told_eq]
  by_cases observes : setup.replyObserver.isSome = true
  · rw [Core.heard, if_pos observes]
    exact relaying
  · have nothing := tended.heard_eq
    rw [Core.heard, if_neg observes] at nothing
    rw [← nothing] at relaying ⊢
    rw [Core.heard, if_neg observes, (List.append_eq_nil_iff.mp relaying.symm.eq_nil).2]
    exact List.Perm.nil

/--
When nobody can go on and a worker is free, the observer has been told everything.  A report
that had still to be told would have a task that can go on.
-/
theorem told_perm (tended : Tended setup reports session)
    (nobody : session.core.pool.ready = []) (some_free : session.core.pool.permits.free ≠ 0) :
    session.core.told.Perm reports := by
  rcases tended.reported with ⟨past, reported, accepted⟩
  have suspended := Core.suspended_of_free reported.accounted nobody some_free
  have made := Core.reports_made reported.accounted reported.relaying suspended
  rw [reported.told_eq, ← tended.heard_eq, ← accepted]
  unfold Core.heard
  split
  · exact made.symm
  · exact List.Perm.nil

end Tended

/--
When the tasks have settled, nobody can go on, and the observer has been told or nobody can.
Nobody can while every worker is held by a call at its gate.
-/
structure Told (setup : Setup σ) (reports : List (UInt32 × Int32)) (settled : Core σ) : Prop where
  stalled : ∀ id, settled.step setup id = settled
  told : Core.AllBlocked (max setup.options.workers 1) settled ∨ settled.told.Perm reports

/--
The tasks settle without anything from outside.  They take the steps that they can take
until there are none.
-/
theorem Tended.settles {setup : Setup σ} {reports : List (UInt32 × Int32)} {session : Session σ}
    (tended : Tended setup reports session) :
    Told setup reports (session.perform setup .settleTasks).core := by
  rcases tended.reported with ⟨past, reported, -⟩
  rcases Core.settle_eq_run setup reported.accounted with ⟨tasks, -, -, nobody⟩
  have after : Tended setup reports (session.perform setup .settleTasks) := by
    have goesOn : (Move.settleTasks : Move σ).shuts = false := rfl
    have moved := tended.perform goesOn
    have silent : relayedBy setup session .settleTasks = [] := rfl
    rwa [silent, List.append_nil] at moved
  rcases after.reported with ⟨later, settled, -⟩
  constructor
  · exact (Core.stalled_iff setup settled.accounted.coherent
      settled.accounted.gates_distinct).mpr nobody
  · by_cases none_free : (session.core.settle setup).pool.permits.free = 0
    · exact Or.inl (Core.allBlocked settled.accounted nobody none_free)
    · exact Or.inr (after.told_perm nobody none_free)

/-! ## One response -/

/--
A response that a request awaits goes to this request alone.  What the other requests find
is the same before and after.
-/
structure Delivered (setup : Setup σ) (session : Session σ) (text : String) (reply : Reply)
    (tag : Tag) (wait : Wait) : Prop where
  verdict : (session.core.receive setup text).1 = .delivered
  seen : (session.perform setup (.receive text)).seen? tag = some (wait, .ok reply)
  others : ∀ other, other ≠ tag →
    (session.perform setup (.receive text)).seen? other = session.seen? other
  /-- No job is made of it.  The observer has no part in it. -/
  pool_eq : (session.perform setup (.receive text)).core.pool = session.core.pool
  log_eq : (session.perform setup (.receive text)).core.log = session.core.log
  unrelayed : relayedBy setup session (.receive text) = []

/--
A response that no request awaits is left for the observer if there is one, and room.  No
request and no entry of the registry is touched by it.
-/
structure Unmatched (setup : Setup σ) (session : Session σ) (text : String) (reply : Reply) :
    Prop where
  verdict : (session.core.receive setup text).1 = .unmatched
  seen : ∀ tag, (session.perform setup (.receive text)).seen? tag = session.seen? tag
  registry_eq : (session.perform setup (.receive text)).core.registry = session.core.registry
  log_eq : (session.perform setup (.receive text)).core.log = session.core.log
  relayed_eq : relayedBy setup session (.receive text) =
    if setup.replyObserver.isSome ∧ session.core.pool.queued < max setup.options.queueDepth 1 then
      [(reply.messageId, reply.code)]
    else []
  /--
  The pool gets a job for it, or is left alone.  A full queue is the only reason not to take
  it, if there is an observer.
  -/
  pool_eq : (session.perform setup (.receive text)).core.pool =
    if setup.replyObserver.isSome ∧ session.core.pool.queued < max setup.options.queueDepth 1 then
      { session.core.pool with queued := session.core.pool.queued + 1 }.enqueue
        (.reportReply reply.messageId reply.code)
    else session.core.pool

section

variable {session : Session σ} {text : String} {reply : Reply}
  (inbound : Inbound.ofText text = .ok (.response reply.messageId reply.code reply.payload))

include inbound

theorem receive_eq (setup : Setup σ) (core : Core σ) :
    core.receive setup text = core.receiveReply setup reply := by
  simp only [Core.receive, inbound]

theorem seen?_receive (setup : Setup σ) (attended : Attended session) {tag : Tag}
    (unawaited : ∀ wait, ¬ session.Awaits tag wait reply.messageId) :
    (session.perform setup (.receive text)).seen? tag = session.seen? tag := by
  have registry_eq : (session.perform setup (.receive text)).core.registry =
      session.core.registry.answer reply.messageId (.filled reply) := by
    simp only [perform, receive_eq inbound]
    exact (Core.apart_receiveReply setup session.core reply).registry_eq.trans
      (attended.coherent.deliver_eq reply)
  have change : Change session (.receive text) (session.perform setup (.receive text)) :=
    change_perform attended setup rfl
  by_cases caller : ∃ wait, (tag, wait) ∈ session.callers
  · rcases caller with ⟨wait, calls⟩
    have handle_eq : (session.perform setup (.receive text)).core.registry.handle? wait.token =
        session.core.registry.handle? wait.token := by
      rw [registry_eq, Registry.handle?_answer]
      cases found : session.core.registry.handle? wait.token with
      | none => rfl
      | some handle =>
          refine congrArg some (Handle.answer_eq_self fun named waits => ?_)
          have token_eq := (Registry.mem_of_handle? found).2
          refine unawaited wait ⟨calls, ?_⟩
          rw [found, ← named, ← waits, ← token_eq]
    have same : (tag, wait) ∈ (session.perform setup (.receive text)).callers := calls
    rw [attended.seen?_eq calls, (change.attended attended).seen?_eq same]
    simp only [Wait.result?, handle_eq]
    rfl
  · have after : (session.perform setup (.receive text)).seen? tag = none := seen?_eq_none caller
    rw [after, seen?_eq_none caller]

theorem delivered (setup : Setup σ) (attended : Attended session) {tag : Tag} {wait : Wait}
    (awaits : session.Awaits tag wait reply.messageId) :
    Delivered setup session text reply tag wait := by
  have known := (Registry.mem_of_handle? awaits.waits).1
  have taken : (session.core.registry.deliver reply).1 = true :=
    attended.coherent.deliver_of_waiting known rfl rfl
  have received :
      session.core.receive setup text = (.delivered, (session.core.deliver reply).2) := by
    rw [receive_eq inbound, Core.receiveReply]
    have delivery : session.core.deliver reply = (true, (session.core.deliver reply).2) :=
      Prod.ext taken rfl
    rw [delivery]
  have core_eq : (session.perform setup (.receive text)).core = (session.core.deliver reply).2 := by
    simp only [perform, received]
  exact
    { verdict := by rw [received]
      seen := by
        have change : Change session (.receive text) (session.perform setup (.receive text)) :=
    change_perform attended setup rfl
        refine (change.attended attended).seen?_ok_iff.mpr ⟨awaits.calls, reply.messageId, ?_⟩
        rw [core_eq]
        have registry_eq : (session.core.deliver reply).2.registry =
            session.core.registry.answer reply.messageId (.filled reply) :=
          attended.coherent.deliver_eq reply
        rw [registry_eq, Registry.handle?_answer, awaits.waits]
        exact congrArg some (Handle.answer_of_eq rfl)
      others := by
        intro other different
        refine seen?_receive inbound setup attended fun otherWait also => different ?_
        exact congrArg Prod.fst (attended.awaits_unique awaits also)
      pool_eq := by
        rw [core_eq]
        rfl
      log_eq := by
        rw [core_eq]
        rfl
      unrelayed := by
        simp [relayedBy, Core.relayed?, inbound, received] }

theorem unmatched (setup : Setup σ) (attended : Attended session)
    (isOpen : session.core.pool.closed = false)
    (limit_eq : session.core.pool.queueLimit = max setup.options.queueDepth 1)
    (nobody : ∀ tag wait, ¬ session.Awaits tag wait reply.messageId) :
    Unmatched setup session text reply := by
  have missed : session.core.deliver reply = (false, session.core) := by
    have quiet : session.core.registry.deliver reply = (false, session.core.registry) := by
      refine attended.coherent.deliver_of_nobody fun handle inside named waits => ?_
      rcases attended.exists_caller inside with ⟨tag, wait, calls, token_eq, found⟩
      refine nobody tag wait ⟨calls, ?_⟩
      rw [found, ← named, ← waits, token_eq]
    simp only [Core.deliver, quiet]
  have core_eq : (session.core.receive setup text).2 = if setup.replyObserver.isSome then
      (session.core.submit (.reportReply reply.messageId reply.code)).2 else session.core := by
    rw [receive_eq inbound, Core.receiveReply, missed]
    dsimp only
    split <;> rfl
  have verdict : (session.core.receive setup text).1 = .unmatched := by
    rw [receive_eq inbound, Core.receiveReply, missed]
    dsimp only
    split <;> rfl
  exact
    { verdict := verdict
      seen := fun tag => seen?_receive inbound setup attended (nobody tag)
      registry_eq := by
        simp only [perform, core_eq]
        split
        · exact (Core.apart_submit session.core _).registry_eq
        · rfl
      log_eq := by
        simp only [perform, core_eq]
        split
        · unfold Core.submit
          split <;> rfl
        · rfl
      relayed_eq := by
        simp only [relayedBy, Core.relayed?, inbound, verdict, true_and, Options.queueLimit]
        split <;> rfl
      pool_eq := by
        simp only [perform, core_eq]
        by_cases observes : setup.replyObserver.isSome = true
        · simp only [observes, if_true, true_and, Core.submit, Pool.submit, isOpen, limit_eq,
            Bool.false_eq_true, if_false]
          split
          · rename_i accepted
            split at accepted
            · cases accepted
            · rename_i room
              cases accepted
              rw [if_pos (Nat.lt_of_not_le room)]
          · rename_i refused
            split at refused
            · rename_i full
              rw [if_neg (Nat.not_lt_of_le full)]
            · cases refused
        · simp only [observes, if_false, false_and, Bool.false_eq_true] }

end

/-! ## Observers that crash -/

section

variable (setup : Setup σ) (observer other : ReplyObserver)

theorem step_observer (core : Core σ) (id : Nat) :
    core.step { setup with replyObserver := some observer } id =
      core.step { setup with replyObserver := some other } id := by
  cases observer <;> cases other <;> rfl

theorem settleFor_observer (count : Nat) (turns : Turns) (core : Core σ) :
    core.settleFor { setup with replyObserver := some observer } count turns =
      core.settleFor { setup with replyObserver := some other } count turns := by
  induction count generalizing turns core with
  | zero => rfl
  | succ count ih => simp only [Core.settleFor, step_observer setup observer other, ih]

/--
Whether the observer crashes makes no difference to any move.  The crash is caught in the
task, which ends like any other.
-/
theorem perform_observer (session : Session σ) (move : Move σ) :
    session.perform { setup with replyObserver := some observer } move =
      session.perform { setup with replyObserver := some other } move := by
  cases move with
  | settleTasks =>
      simp only [perform, Core.settle]
      rw [settleFor_observer setup observer other]
  | _ => cases observer <;> cases other <;> rfl

end

/-! ## Whole runs -/

/--
What becomes of the responses of a run, and of those that come next.  The parts are about
those who wait, about the observer, and about the next response.
-/
structure Exclusive (setup : Setup σ) (start : Session σ) (moves : List (Move σ)) : Prop where
  /--
  Whoever waits and has not got a result awaits a reply.  There is an entry in the registry
  for it.
  -/
  waits : ∀ tag wait, (tag, wait) ∈ (run setup start moves).callers →
    (run setup start moves).seen? tag = none →
      ∃ messageId, (run setup start moves).Awaits tag wait messageId
  awaited : ∀ text (reply : Reply),
    Inbound.ofText text = .ok (.response reply.messageId reply.code reply.payload) →
    ∀ tag wait, (run setup start moves).Awaits tag wait reply.messageId →
      Delivered setup (run setup start moves) text reply tag wait
  unawaited : ∀ text (reply : Reply),
    Inbound.ofText text = .ok (.response reply.messageId reply.code reply.payload) →
    (∀ tag wait, ¬ (run setup start moves).Awaits tag wait reply.messageId) →
      Unmatched setup (run setup start moves) text reply
  /--
  Whoever has a reply returns it, unless it is cancelled before it looks.  Neither the
  deadline nor a second response takes it away.
  -/
  keeps : ∀ (move : Move σ) tag wait reply, move.shuts = false →
    (run setup start moves).seen? tag = some (wait, .ok reply) →
    (run setup start (moves ++ [move])).seen? tag = some (wait, .ok reply) ∨
      move = .poll tag ∧ observe (run setup start moves) move =
        [.resolved tag (run setup start moves).now (.ok reply)] ∨
      move = .abort tag.label
  /--
  Nobody gets a reply but from a response that it awaits.  In particular, no reply is ever
  shared by two requests.
  -/
  gains : ∀ (move : Move σ) tag wait reply, move.shuts = false →
    (run setup start (moves ++ [move])).seen? tag = some (wait, .ok reply) →
    (run setup start moves).seen? tag = some (wait, .ok reply) ∨
      (run setup start moves).Awaits tag wait reply.messageId ∧
        ∃ text, move = .receive text ∧
          Inbound.ofText text = .ok (.response reply.messageId reply.code reply.payload)
  /--
  What the observer has been told and what is still to be told is what was left for it.
  Here the runs may have any number of responses, matched or not.
  -/
  relayed_perm : (relayed setup start moves).Perm
    ((run setup start moves).core.told ++
      Pool.reportsOf (run setup start moves).core.pool.tasks)
  idle : (run setup start moves).core.pool.tasks = [] →
    (run setup start moves).core.told.Perm (relayed setup start moves)
  /--
  The tasks settle without anything from outside, and then the observer has been told.  This
  is the liveness to the safety of the parts before it.
  -/
  eventually : Told setup (relayed setup start moves)
    (run setup start (moves ++ [.settleTasks])).core
  unfazed : ∀ observer other move,
    (run setup start moves).perform { setup with replyObserver := some observer } move =
      (run setup start moves).perform { setup with replyObserver := some other } move

/--
The responses of any run of a session that is not shut down, with an operation of anybody,
a step of a task or a look of somebody who waits as a move.
-/
theorem replies_exclusive (setup : Setup σ) (world : σ) (moves : List (Move σ))
    (goesOn : ∀ move ∈ moves, move.shuts = false) :
    Exclusive setup (new setup world) moves := by
  have tended := Tended.run setup world goesOn
  have next_eq (move : Move σ) : run setup (new setup world) (moves ++ [move]) =
      (run setup (new setup world) moves).perform setup move := List.foldl_append
  have next (move : Move σ) (kind : move.shuts = false) :
      Attended (run setup (new setup world) (moves ++ [move])) := by
    rw [next_eq]
    exact (tended.perform kind).attended
  have change (move : Move σ) (kind : move.shuts = false) :
      Change (run setup (new setup world) moves) move
        (run setup (new setup world) (moves ++ [move])) := by
    rw [next_eq]
    exact change_perform tended.attended setup kind
  exact
    { waits := fun _ _ calls unseen => tended.attended.awaits_of_unseen calls unseen
      awaited := fun _ _ inbound _ _ awaits => delivered inbound setup tended.attended awaits
      unawaited := by
        intro text reply inbound nobody
        rcases tended.reported with ⟨past, reported, -⟩
        exact unmatched inbound setup tended.attended tended.isOpen reported.accounted.limit_eq
          nobody
      keeps := by
        intro move tag wait reply kind seen
        have has := tended.attended.seen?_ok_iff.mp seen
        rcases (change move kind).keeps tended.attended has with still | rfl | gone
        · exact Or.inl ((next move kind).seen?_ok_iff.mpr still)
        · refine Or.inr (Or.inl ⟨rfl, ?_⟩)
          simp only [observe, polled, seen]
        · exact Or.inr (Or.inr gone)
      gains := by
        intro move tag wait reply kind seen
        have has := (next move kind).seen?_ok_iff.mp seen
        rcases (change move kind).gains tended.attended has with old | new
        · exact Or.inl (tended.attended.seen?_ok_iff.mpr old)
        · exact Or.inr new
      relayed_perm := tended.relayed_perm
      idle := by
        intro nothing
        have whole := tended.relayed_perm
        rw [nothing, Pool.reportsOf, List.filterMap_nil, List.append_nil] at whole
        exact whole.symm
      eventually := by
        rw [next_eq]
        exact tended.settles
      unfazed := fun observer other move => perform_observer setup observer other _ move }

/-- A link whose observer crashes each time.  It has to be told of every response nonetheless. -/
def watchedSetup : Setup Unit := { Core.plainSetup with replyObserver := some .crashing }

/--
A request has its reply, and then the same frame and another one come that nobody awaits.
The first response has one consumer, and the two others have another one each.
-/
def threeReplies : List (Move Unit) :=
  let lamp : Address := ⟨"house", "lamp"⟩
  [.establish (.record "gateway"), .request "first" lamp .online (.ofSeconds 5),
    .receive "\x7b\"messageId\":1,\"code\":0,\"payload\":\x7b\x7d\x7d",
    .receive "\x7b\"messageId\":1,\"code\":0,\"payload\":\x7b\x7d\x7d", .poll ⟨"first", 0⟩,
    .receive "\x7b\"messageId\":7,\"code\":2,\"payload\":\x7b\x7d\x7d", .settleTasks]

theorem replies_exclusive_threeReplies :
    Exclusive watchedSetup (new watchedSetup ()) threeReplies ∧
      relayed watchedSetup (new watchedSetup ()) threeReplies = [(1, 0), (7, 2)] ∧
      (run watchedSetup (new watchedSetup ()) threeReplies).core.told = [(1, 0), (7, 2)] :=
  ⟨replies_exclusive watchedSetup () threeReplies (by decide), by decide +kernel,
    by decide +kernel⟩

end Session
end DeviceLink
