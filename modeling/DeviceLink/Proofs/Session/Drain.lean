import DeviceLink.Proofs.Core.Closed
import DeviceLink.Proofs.Session.CoreRun

namespace DeviceLink
namespace Session

variable {σ : Type}

/-!
The calls that a shutdown finds unfinished.  A shutdown closes the link before it lets
the pool drain, so a call has a response exactly if it has ended by then.  The others
are carried out as far as there is time, but their answers are refused like everything
else that would be sent.  `Drained` states it for a run that is cut in two by a
shutdown.  What can be said of the first part comes from the frames of a serving link,
and what can be said of the second comes from the closed link and from the account of
the calls.
-/

/--
The moves of a link that stays up, with outlets that take every frame.  Whatever else
happens, an answer that is ready can be handed over.
-/
def Move.serves : Move σ → Bool
  | establish (.record _) => true
  | establish _ => false
  | closeLink => false
  | move => !move.shuts

theorem Inward.serves {session : Session σ} {move : Move σ} {inward : Core.Move σ}
    (does : Inward session move inward) (undrained : session.drains = [])
    (serves : move.serves = true) : inward.serves = true := by
  cases does with
  | establish outlet => cases outlet <;> first | rfl | cases serves
  | closeLink | shutdownLink => cases serves
  | abandon _ drains =>
      rw [undrained] at drains
      cases drains
  | _ => rfl

section

variable {setup : Setup σ} {session : Session σ}

/--
While a link serves, each rejection and each call that ends has its response.  The responses
are counted against the account, so none is missing and none is sent twice.
-/
theorem responses_run {past : List Happening}
    (accounted : Core.Accounted setup past session.core) (undrained : session.drains = [])
    (serving : session.core.Serving) {moves : List (Move σ)}
    (goesOn : ∀ move ∈ moves, move.shuts = false) (serves : ∀ move ∈ moves, move.serves = true)
    (messageId : UInt32) :
    (run setup session moves).core.frames.countP (Envelope.isResponseTo messageId) =
      session.core.frames.countP (Envelope.isResponseTo messageId) +
        (((happenings setup session moves).filterMap Happening.rejection?).count messageId +
          ((happenings setup session moves).filterMap Happening.ending?).count messageId) := by
  have working : ∀ inward ∈ coreRun setup session moves, inward.serves = true := by
    intro inward inside
    rcases exists_inward inside with ⟨earlier, move, later, rfl, does⟩
    refine does.serves (undrained_run setup undrained fun other there => ?_) (serves move ?_)
    · exact goesOn other (List.mem_append_left _ there)
    · exact List.mem_append_right _ List.mem_cons_self
  rw [← run_coreRun accounted (orderly_coreRun undrained goesOn)]
  exact serving.responses_run setup working messageId

/-! ## After the shutdown -/

/--
Whatever the session does once its link is closed, the link stays so and nothing leaves.
There is no way back from a closed link, neither by a new outlet nor by a new attempt.
-/
theorem still_perform (closed : session.core.link.phase = .closed) (move : Move σ) :
    Core.Still session.core (session.perform setup move).core := by
  by_cases settling : move = .settleTasks
  · rw [settling]
    exact Core.still_settleFor setup closed _ _
  · rw [← run_coreMoves fun same => absurd same settling]
    exact Core.still_run setup closed _

theorem still_run (closed : session.core.link.phase = .closed) (moves : List (Move σ)) :
    Core.Still session.core (run setup session moves).core := by
  induction moves generalizing session with
  | nil => exact Core.Still.refl session.core
  | cons move rest ih =>
      have first : Core.Still session.core (session.perform setup move).core :=
        still_perform closed move
      exact first.trans (ih (first.closed closed))

theorem coreMoves_shutdown (setup : Setup σ) (connected : session.core.link.phase = .connected)
    (label : String) :
    session.coreMoves setup (.shutdown label) = [.shutdownLink, .forgetAll, .closePool] := by
  refine if_neg ?_
  rw [connected]
  exact nofun

/--
A shutdown closes link and pool, and hands nothing over itself.  All the frames that the
outlets have got they had before it.
-/
structure Shut (core next : Core σ) : Prop where
  closed : next.link.phase = .closed
  frames_eq : next.frames = core.frames
  refuses : next.pool.closed = true

theorem shut_shutdown (setup : Setup σ) (connected : session.core.link.phase = .connected)
    (label : String) : Shut session.core (session.perform setup (.shutdown label)).core := by
  have core_eq : (session.perform setup (.shutdown label)).core =
      Core.run setup session.core (session.coreMoves setup (.shutdown label)) :=
    core_shutdown setup session label
  rw [core_eq, coreMoves_shutdown setup connected]
  refine ⟨(Core.shutdownLink_eq setup session.core).2.2, ?_, rfl⟩
  have published : (session.core.shutdownLink setup).2.frames = session.core.frames := by
    have isOpen : session.core.link.phase ≠ .closed := by
      rw [connected]
      exact nofun
    simp only [Core.shutdownLink, Core.shutdown_of_open isOpen, Core.apply, Core.publish]
    split
    · exact Core.frames_record _ rfl
    · rfl
  exact published

/--
After a shutdown no call is accepted any more.  One that still comes in is rejected, and not
even its rejection can be sent.
-/
theorem acceptances_of_shutdown {past : List Happening}
    (accounted : Core.Accounted setup past session.core)
    (connected : session.core.link.phase = .connected) (label : String) {later : List (Move σ)}
    (orderly : ∀ inward ∈ coreRun setup session (.shutdown label :: later),
      inward.isAbort = false) :
    (happenings setup session (.shutdown label :: later)).filterMap Happening.acceptance? = [] := by
  have moves_eq : coreRun setup session [.shutdown label] =
      [.shutdownLink, .forgetAll, .closePool] := by
    rw [coreRun, Run.history, Run.history, List.append_nil, coreMoves_shutdown setup connected]
  have shutting : ∀ inward ∈ coreRun setup session [.shutdown label], inward.isAbort = false := by
    rw [moves_eq]
    intro inward inside
    simp only [List.mem_cons, List.not_mem_nil, or_false] at inside
    rcases inside with rfl | rfl | rfl <;> rfl
  have silent : happenings setup session [.shutdown label] = [] := by
    rw [happenings, moves_eq]
    rfl
  have split : happenings setup session (.shutdown label :: later) =
      happenings setup (session.perform setup (.shutdown label)) later := by
    have parts := happenings_append accounted shutting later
    rw [silent] at parts
    exact parts
  have shut : Core.Accounted setup _ (session.perform setup (.shutdown label)).core :=
    accounted_run accounted shutting
  rw [split]
  refine Core.acceptances_history_of_closed shut
    (shut_shutdown setup connected label).refuses fun inward inside => orderly inward ?_
  exact List.mem_append_right _ inside

/--
Once nobody goes on after a shutdown, each call that was submitted before has ended once.
The calls that were waiting for a permit at the time are among them.
-/
theorem endings_of_shutdown (start : Core.Accounted setup [] session.core)
    {before later : List (Move σ)} {label : String}
    (connected : (run setup session before).core.link.phase = .connected)
    (kept : ∀ inward ∈ coreRun setup session (before ++ .shutdown label :: later),
      inward.isAbort = false)
    (idle : (run setup session (before ++ .shutdown label :: later)).core.pool.ready = [])
    (nobody : (run setup session (before ++ .shutdown label :: later)).core.gates.waiting = [])
    (messageId : UInt32) :
    ((happenings setup session before).filterMap Happening.ending?).count messageId +
        ((happenings setup (run setup session before) (.shutdown label :: later)).filterMap
          Happening.ending?).count messageId =
      ((happenings setup session before).filterMap Happening.submission?).count messageId := by
  have parts : coreRun setup session (before ++ .shutdown label :: later) =
      coreRun setup session before ++
        coreRun setup (run setup session before) (.shutdown label :: later) :=
    Run.history_append _ _ _ _ _
  have orderly : ∀ inward ∈ coreRun setup session before, inward.isAbort = false :=
    fun inward inside => kept inward (parts ▸ List.mem_append_left _ inside)
  have none_later := acceptances_of_shutdown (accounted_run start orderly) connected label
    fun inward inside => kept inward (parts ▸ List.mem_append_right _ inside)
  have whole : Core.Accounted setup
      (happenings setup session (before ++ .shutdown label :: later)) _ :=
    accounted_run start kept
  -- All that was accepted has ended, and nothing was accepted after the shutdown.
  have ended := endings_perm fun device => (whole.settled idle nobody device).2
  rw [happenings_append start orderly, List.filterMap_append, List.filterMap_append, none_later,
    List.append_nil] at ended
  have submitted : (happenings setup session before).filterMap Happening.acceptance? =
      (happenings setup session before).filterMap Happening.submission? :=
    Core.acceptances_history setup _ ne_submit_of_coreRun
  rw [← List.count_append, ended.count_eq, submitted]

end

/-! ## Runs -/

/--
What becomes of the calls of a run that is shut down at some time.  The three parts are
about the time before the shutdown, the link after it, and the tasks after it.
-/
structure Drained (setup : Setup σ) (start : Session σ) (before : List (Move σ)) (label : String)
    (later : List (Move σ)) : Prop where
  /--
  Up to the shutdown each rejection and each call that ends is answered while the link is
  up.  The count of responses agrees with the account for each message id.
  -/
  answered : ∀ earlier recent, before = earlier ++ recent →
    (run setup start earlier).core.Serving → (∀ move ∈ recent, move.serves = true) →
    ∀ messageId,
      (run setup start before).core.frames.countP (Envelope.isResponseTo messageId) =
        (run setup start earlier).core.frames.countP (Envelope.isResponseTo messageId) +
          (((happenings setup (run setup start earlier) recent).filterMap
              Happening.rejection?).count messageId +
            ((happenings setup (run setup start earlier) recent).filterMap
              Happening.ending?).count messageId)
  /--
  From then on no frame is handed to an outlet.  Whatever is sent is refused, so an answer
  that comes late has nowhere to go.
  -/
  frames_eq : (run setup start (before ++ .shutdown label :: later)).core.frames =
    (run setup start before).core.frames
  refused : ∀ text, (run setup start (before ++ .shutdown label :: later)).core.send text =
    (.error .closed, (run setup start (before ++ .shutdown label :: later)).core)
  /--
  Unless tasks are abandoned, each submitted call ends, before the shutdown or after it.
  The drain does not cut off a call that ends in time.
  -/
  carried : (∀ inward ∈ coreRun setup start (before ++ .shutdown label :: later),
      inward.isAbort = false) →
    (run setup start (before ++ .shutdown label :: later)).core.pool.ready = [] →
    (run setup start (before ++ .shutdown label :: later)).core.gates.waiting = [] →
    ∀ messageId,
      ((happenings setup start before).filterMap Happening.ending?).count messageId +
          ((happenings setup (run setup start before) (.shutdown label :: later)).filterMap
            Happening.ending?).count messageId =
        ((happenings setup start before).filterMap Happening.submission?).count messageId

/--
Any run of a session that is shut down while its link is up and its outlet takes every
frame, with any moves afterwards, be it that the tasks go on, that time passes or that
they are abandoned.
-/
theorem drain_unanswered (setup : Setup σ) (world : σ) (before : List (Move σ))
    (goesOn : ∀ move ∈ before, move.shuts = false)
    (serving : (run setup (new setup world) before).core.Serving) (label : String)
    (later : List (Move σ)) : Drained setup (new setup world) before label later := by
  have start : Core.Accounted setup [] (new setup world).core := Core.accounted_new setup world
  have shut := shut_shutdown setup serving.phase_eq label
  have still : Core.Still
      ((run setup (new setup world) before).perform setup (.shutdown label)).core
      (run setup (new setup world) (before ++ .shutdown label :: later)).core := by
    have led : run setup (new setup world) (before ++ .shutdown label :: later) =
        run setup ((run setup (new setup world) before).perform setup (.shutdown label)) later :=
      List.foldl_append
    rw [led]
    exact still_run shut.closed later
  exact
    { answered := by
        rintro earlier recent rfl up serves messageId
        have first : ∀ move ∈ earlier, move.shuts = false :=
          fun move inside => goesOn move (List.mem_append_left _ inside)
        have led : run setup (new setup world) (earlier ++ recent) =
            run setup (run setup (new setup world) earlier) recent := List.foldl_append
        rw [led]
        exact responses_run (accounted_run start (orderly_coreRun rfl first))
          (undrained_run setup rfl first) up
          (fun move inside => goesOn move (List.mem_append_right _ inside)) serves messageId
      frames_eq := still.frames_eq.trans shut.frames_eq
      refused := fun text => Core.send_of_closed (still.closed shut.closed) text
      carried := fun kept idle nobody messageId =>
        endings_of_shutdown start serving.phase_eq kept idle nobody messageId }

/--
A call to a device that serves nothing, so that it ends in its first turn.  What it would
answer does not matter here, only when.
-/
def lampCall (messageId : String) : String :=
  "\x7b\"messageId\":" ++ messageId ++ ",\"method\":\"getProperty\",\"payload\":\x7b" ++
    "\"productKey\":\"house\",\"deviceName\":\"lamp\",\"properties\":[]\x7d\x7d"

/-- One call has ended, and another one is accepted.  The link is up all the time. -/
def twoCalls : List (Move Unit) :=
  [.establish (.record "gateway"), .receive (lampCall "7"), .step 0, .step 0,
    .receive (lampCall "8")]

theorem drain_unanswered_twoCalls :
    let start := new Core.plainSetup ()
    let drained := run Core.plainSetup start (twoCalls ++ .shutdown "stop" :: [.step 1, .step 1])
    (run Core.plainSetup start twoCalls).core.Serving ∧
      Drained Core.plainSetup start twoCalls "stop" [.step 1, .step 1] ∧
      drained.core.frames.countP (Envelope.isResponseTo 7) = 1 ∧
      drained.core.frames.countP (Envelope.isResponseTo 8) = 0 := by
  intro start drained
  have link : (run Core.plainSetup start twoCalls).core.link.phase = .connected ∧
      (run Core.plainSetup start twoCalls).core.link.sink = some 0 ∧
      (run Core.plainSetup start twoCalls).core.outlets[0]? = some (.record "gateway") := by
    decide +kernel
  have serving : (run Core.plainSetup start twoCalls).core.Serving :=
    ⟨link.1, 0, "gateway", link.2⟩
  have counts : drained.core.frames.countP (Envelope.isResponseTo 7) = 1 ∧
      drained.core.frames.countP (Envelope.isResponseTo 8) = 0 := by
    decide +kernel
  exact ⟨serving,
    drain_unanswered Core.plainSetup () twoCalls (by decide) serving "stop" [.step 1, .step 1],
    counts⟩

/--
A call is accepted, the link is shut down, and the call ends while the pool drains and
in time.  It has no response, though it would have one without the shutdown.
-/
theorem drained_call_unanswered :
    let started := run Core.plainSetup (new Core.plainSetup ()) [.establish (.record "gateway")]
    let reached := run Core.plainSetup started [.receive (lampCall "7")]
    let drained := run Core.plainSetup reached [.shutdown "stop", .step 0, .step 0]
    reached.core.Serving ∧
      (Core.receive Core.plainSetup started.core (lampCall "7")).1 = .submitted ∧
      (happenings Core.plainSetup reached [.shutdown "stop", .step 0, .step 0]).filterMap
        Happening.ending? = [7] ∧
      drained.now < Core.plainSetup.options.drainTimeout.nanoseconds ∧
      drained.core.frames.countP (Envelope.isResponseTo 7) = 0 ∧
      (run Core.plainSetup reached [.step 0, .step 0]).core.frames.countP
        (Envelope.isResponseTo 7) = 1 := by
  intro started reached drained
  have link : reached.core.link.phase = .connected ∧ reached.core.link.sink = some 0 ∧
      reached.core.outlets[0]? = some (.record "gateway") := by
    decide +kernel
  exact ⟨⟨link.1, 0, "gateway", link.2⟩, by decide +kernel⟩

end Session
end DeviceLink
