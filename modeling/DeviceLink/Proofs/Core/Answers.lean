import DeviceLink.Proofs.Core.Frames
import DeviceLink.Proofs.Core.Serial
import DeviceLink.Proofs.Envelope.Head

namespace DeviceLink

/-!
Every call that reaches a link with a working outlet is answered exactly once.  The
frames handed to the outlet are the ones that the history calls for, so counting the
responses among them is counting in the history; and what the history says about
accepted and ended calls is known from the pool.  `Answering` says it for every moment
of a run and again for the end, when no device code runs or waits, and it says which
frames lead to no answer.  Calls are counted by their message ids, since these are all
that the gateway sees.
-/

def Inbound.messageId : Inbound → UInt32
  | response messageId _ _ => messageId
  | call messageId _ _ => messageId

namespace Happening

/-- The message id of a frame that is rejected.  Its answer has left at once. -/
def rejection? : Happening → Option UInt32
  | received text (.rejected _) => (Inbound.ofText text).toOption.map Inbound.messageId
  | _ => none

/-- The message id of a frame that becomes a job.  Its answer leaves when the job ends. -/
def submission? : Happening → Option UInt32
  | received text .submitted => (Inbound.ofText text).toOption.map Inbound.messageId
  | _ => none

/--
The message id of a call that is accepted.  A call may also be submitted without a frame,
and then counts as well.
-/
def acceptance? : Happening → Option UInt32
  | accepted (.invoke messageId _ _) => some messageId
  | _ => none

/-- The message id of a call that ends.  Jobs that report a reply have none. -/
def ending? : Happening → Option UInt32
  | ended (.invoke messageId _ _) _ => some messageId
  | _ => none

def acceptedJob? : Happening → Option Job
  | accepted job => some job
  | _ => none

def endedJob? : Happening → Option Job
  | ended job _ => some job
  | _ => none

/--
Frames that are sent are requests, and calls are rejected or end with an answer.  A history
is made of such happenings alone, so its frames can be told apart.
-/
def Genuine : Happening → Prop
  | sent text => ∃ request messageId payload, text = Request.frame request messageId payload
  | received text (.rejected _) =>
      ∃ messageId method payload, Inbound.ofText text = .ok (.call messageId method payload)
  | ended (.invoke _ _ _) answer => answer ≠ none
  | _ => True

end Happening

/--
Counting the responses that a history calls for.  A request is never a response, whatever
its id.
-/
theorem countP_frames {past : List Happening} (genuine : ∀ happening ∈ past, happening.Genuine)
    (messageId : UInt32) :
    (past.filterMap Happening.frame?).countP (Envelope.isResponseTo messageId) =
      (past.filterMap Happening.rejection?).count messageId +
        (past.filterMap Happening.ending?).count messageId := by
  induction past with
  | nil => rfl
  | cons happening rest ih =>
      have others := ih fun other inside => genuine other (List.mem_cons_of_mem _ inside)
      have here := genuine happening List.mem_cons_self
      cases happening with
      | accepted job => exact others
      | began job => exact others
      | sent text =>
          rcases here with ⟨request, other, payload, rfl⟩
          simp only [List.filterMap_cons, Happening.frame?, Happening.rejection?,
            Happening.ending?, List.countP_cons, Envelope.isResponseTo_request]
          exact others
      | received text verdict =>
          cases verdict with
          | delivered | unmatched | submitted | dropped => exact others
          | rejected code =>
              rcases here with ⟨other, method, payload, inbound⟩
              simp only [List.filterMap_cons, Happening.frame?, Happening.rejection?,
                Happening.ending?, inbound, Except.toOption, Option.map_some, Inbound.messageId,
                List.countP_cons, List.count_cons, Envelope.isResponseTo_response]
              by_cases same : other = messageId <;> simp [same] <;> omega
      | ended job answer =>
          cases job with
          | reportReply other code => exact others
          | invoke other device call =>
              rcases Option.ne_none_iff_exists.mp here with ⟨⟨code, payload⟩, rfl⟩
              simp only [List.filterMap_cons, Happening.frame?, Happening.rejection?,
                Happening.ending?, List.countP_cons, List.count_cons,
                Envelope.isResponseTo_response]
              by_cases same : other = messageId <;> simp [same] <;> omega

/-! ## Accepted and ended calls -/

/-- The message id of a call.  Jobs that report a reply are no calls. -/
def Job.callId? : Job → Option UInt32
  | .invoke messageId _ _ => some messageId
  | .reportReply _ _ => none

theorem count_callOn? (jobs : List Job) (device : Address) (call : Pool.WaitingCall) :
    (jobs.filterMap (Job.callOn? device)).count call =
      jobs.count (.invoke call.messageId device call.call) := by
  rw [List.count_filterMap, List.count]
  apply List.countP_congr
  intro job _
  rw [beq_iff_eq, beq_iff_eq]
  exact Job.callOn?_eq_some

/--
Jobs that make the same calls on every device have the same message ids.  The calls of
different devices may be interleaved in any way.
-/
theorem callIds_perm {first second : List Job}
    (same : ∀ device,
      first.filterMap (Job.callOn? device) = second.filterMap (Job.callOn? device)) :
    (first.filterMap Job.callId?).Perm (second.filterMap Job.callId?) := by
  have calls (jobs : List Job) : jobs.filterMap Job.callId? =
      (jobs.filter fun job => job.callId?.isSome).filterMap Job.callId? := by
    rw [List.filterMap_filter]
    apply List.filterMap_congr
    intro job _
    cases job <;> rfl
  rw [calls first, calls second]
  apply List.Perm.filterMap
  apply List.perm_iff_count.mpr
  intro job
  cases job with
  | reportReply messageId code =>
      rw [List.count_eq_zero.mpr, List.count_eq_zero.mpr] <;> simp [Job.callId?]
  | invoke messageId device call =>
      rw [List.count_filter rfl, List.count_filter rfl,
        ← count_callOn? first device ⟨messageId, call⟩,
        ← count_callOn? second device ⟨messageId, call⟩, same]

/--
If on every device all accepted calls have ended, all accepted calls have ended.  They have
done so in the same order on each device, though not across devices.
-/
theorem endings_perm {past : List Happening}
    (same : ∀ device, endedCalls device past = acceptedCalls device past) :
    (past.filterMap Happening.ending?).Perm (past.filterMap Happening.acceptance?) := by
  have ended : past.filterMap Happening.ending? =
      (past.filterMap Happening.endedJob?).filterMap Job.callId? := by
    rw [List.filterMap_filterMap]
    apply List.filterMap_congr
    intro happening _
    cases happening with
    | ended job => cases job <;> rfl
    | received | sent | accepted | began => rfl
  have accepted : past.filterMap Happening.acceptance? =
      (past.filterMap Happening.acceptedJob?).filterMap Job.callId? := by
    rw [List.filterMap_filterMap]
    apply List.filterMap_congr
    intro happening _
    cases happening with
    | accepted job => cases job <;> rfl
    | received | sent | ended | began => rfl
  rw [ended, accepted]
  apply callIds_perm
  intro device
  have endedOn : (past.filterMap Happening.endedJob?).filterMap (Job.callOn? device) =
      endedCalls device past := by
    rw [List.filterMap_filterMap]
    apply List.filterMap_congr
    intro happening _
    cases happening <;> rfl
  have acceptedOn : (past.filterMap Happening.acceptedJob?).filterMap (Job.callOn? device) =
      acceptedCalls device past := by
    rw [List.filterMap_filterMap]
    apply List.filterMap_congr
    intro happening _
    cases happening <;> rfl
  rw [endedOn, acceptedOn, same]

namespace Core

variable {σ : Type} {setup : Setup σ} {core : Core σ} {move : Move σ} {happening : Happening}

theorem genuine_of_observe (shown : happening ∈ observe setup core move) :
    happening.Genuine := by
  cases origin_of_observe shown with
  | report device request payload => exact ⟨request, core.takeId.1, payload, rfl⟩
  | request device request now budget payload => exact ⟨request, core.takeId.1, payload, rfl⟩
  | received text =>
      have way := routing setup core text
      generalize (receive setup core text).1 = verdict at way ⊢
      generalize (receive setup core text).2 = after at way
      generalize offered? setup core text = offer at way
      cases way with
      | dropped | delivered | unmatched | observed | submitted => trivial
      | unreadable messageId method payload _ _ inbound =>
          exact ⟨messageId, method, payload, inbound⟩
      | refused messageId method payload _ _ _ inbound =>
          exact ⟨messageId, method, payload, inbound⟩
  | offered | submitted => trivial
  | stepped id _ shown =>
      rcases shows_of_stepped shown with ⟨task, _, shows⟩
      cases shows with
      | begins => trivial
      | reports messageId code job =>
          rw [job]
          trivial
      | answers messageId device call outcome handing job =>
          rw [job]
          exact Option.some_ne_none _

theorem genuine_history (setup : Setup σ) (core : Core σ) (moves : List (Move σ)) :
    ∀ happening ∈ history setup core moves, happening.Genuine := by
  intro happening inside
  rcases List.append_of_mem inside with ⟨earlier, later, split⟩
  rcases Run.split_history split with ⟨_, _, _, before, after, -, shown, -⟩
  have here : happening ∈ before ++ happening :: after :=
    List.mem_append_right _ List.mem_cons_self
  rw [← shown] at here
  exact genuine_of_observe here

/--
In a stretch in which the link serves, rejections and endings are the responses.  Nothing
else that happens there hands over a response.
-/
theorem Serving.responses_run (serving : core.Serving) (setup : Setup σ) {moves : List (Move σ)}
    (serves : ∀ move ∈ moves, move.serves = true) (messageId : UInt32) :
    (Core.run setup core moves).frames.countP (Envelope.isResponseTo messageId) =
      core.frames.countP (Envelope.isResponseTo messageId) +
        (((history setup core moves).filterMap Happening.rejection?).count messageId +
          ((history setup core moves).filterMap Happening.ending?).count messageId) := by
  rw [(serving.run setup serves).frames_eq, List.countP_append,
    countP_frames (genuine_history setup core moves)]

theorem neither_of_observe (shown : happening ∈ observe setup core move)
    (not_receive : ∀ text, move ≠ .receive text) (not_submit : ∀ job, move ≠ .submit job) :
    happening.acceptance? = none ∧ happening.submission? = none := by
  cases origin_of_observe shown with
  | report | request => exact ⟨rfl, rfl⟩
  | received text => exact absurd rfl (not_receive text)
  | offered text => exact absurd rfl (not_receive text)
  | submitted job => exact absurd rfl (not_submit job)
  | stepped id _ shown =>
      rcases shows_of_stepped shown with ⟨task, _, shows⟩
      cases shows <;> exact ⟨rfl, rfl⟩

/--
Without submits from elsewhere, the calls that are accepted are those of submitted frames.
So each of them can be traced back to a frame that came in.
-/
theorem acceptances_of_observe (not_submit : ∀ job, move ≠ .submit job) :
    (observe setup core move).filterMap Happening.acceptance? =
      (observe setup core move).filterMap Happening.submission? := by
  by_cases inbound : ∃ text, move = .receive text
  · rcases inbound with ⟨text, rfl⟩
    have way := routing setup core text
    rw [observe]
    generalize (receive setup core text).1 = verdict at way ⊢
    generalize (receive setup core text).2 = after at way
    generalize offered? setup core text = offer at way ⊢
    cases way with
    | dropped | delivered | unmatched | unreadable => rfl
    | observed reply =>
        unfold admitted
        dsimp only
        split <;> rfl
    | submitted messageId _ _ _ _ inbound _ _ accepted =>
        rw [admitted_of_ok accepted]
        simp only [List.filterMap_cons, List.filterMap_nil, Happening.acceptance?,
          Happening.submission?, inbound, Except.toOption, Option.map_some, Inbound.messageId]
    | refused _ _ _ _ _ _ _ _ _ refused =>
        rw [admitted_of_error (congrArg Prod.fst refused)]
        rfl
  · have neither : ∀ happening ∈ observe setup core move,
        happening.acceptance? = none ∧ happening.submission? = none := by
      intro happening shown
      exact neither_of_observe shown (fun text same => inbound ⟨text, same⟩) not_submit
    rw [List.filterMap_eq_nil_iff.mpr fun happening inside => (neither happening inside).1,
      List.filterMap_eq_nil_iff.mpr fun happening inside => (neither happening inside).2]

theorem acceptances_history (setup : Setup σ) (core : Core σ) {moves : List (Move σ)}
    (not_submit : ∀ move ∈ moves, ∀ job, move ≠ .submit job) :
    (history setup core moves).filterMap Happening.acceptance? =
      (history setup core moves).filterMap Happening.submission? := by
  induction moves generalizing core with
  | nil => rfl
  | cons move rest ih =>
      have first : (observe setup core move).filterMap Happening.acceptance? =
          (observe setup core move).filterMap Happening.submission? :=
        acceptances_of_observe (not_submit move List.mem_cons_self)
      have later := ih (perform setup core move)
        fun other inside => not_submit other (List.mem_cons_of_mem _ inside)
      rw [history] at later ⊢
      rw [Run.history, List.filterMap_append, List.filterMap_append, first, later]

/-- A pool that has been closed accepts nothing.  Its tasks go on, but nothing is added to them. -/
theorem acceptances_of_closed (setup : Setup σ) (closed : core.pool.closed = true)
    (move : Move σ) : (observe setup core move).filterMap Happening.acceptance? = [] := by
  have refused (offer : Option Job) : core.admitted offer = [] := by
    unfold admitted
    split
    · rfl
    · simp only [Pool.submit, closed, if_true]
  cases move with
  | receive text => simp only [observe, refused, List.filterMap_cons, Happening.acceptance?,
      List.filterMap_nil]
  | submit job => rw [observe, refused, List.filterMap_nil]
  | _ =>
      refine List.filterMap_eq_nil_iff.mpr fun happening shown => ?_
      refine (neither_of_observe shown ?_ ?_).1
      all_goals
        intro other same
        cases same

/--
What a serving core has answered, next to its history.  The frames of the outlet are those
that the history calls for, and the pool knows which calls are still to come.
-/
structure Answered (past : List Happening) (core : Core σ) : Prop where
  serving : core.Serving
  frames_eq : core.frames = past.filterMap Happening.frame?
  genuine : ∀ happening ∈ past, happening.Genuine
  acceptances_eq : past.filterMap Happening.acceptance? = past.filterMap Happening.submission?

namespace Answered

variable {past : List Happening}

theorem perform (answered : Answered past core) (serves : move.serves = true) :
    Answered (past ++ observe setup core move) (Core.perform setup core move) := by
  have handed : Hands core (Core.perform setup core move) _ := answered.serving.perform serves
  have not_submit : ∀ job, move ≠ .submit job := by
    rintro job rfl
    cases serves
  exact
    { serving := handed.serving
      frames_eq := by rw [handed.frames_eq, answered.frames_eq, List.filterMap_append]
      genuine := by
        intro happening inside
        rcases List.mem_append.mp inside with old | new
        · exact answered.genuine happening old
        · exact genuine_of_observe new
      acceptances_eq := by
        rw [List.filterMap_append, List.filterMap_append, answered.acceptances_eq,
          acceptances_of_observe not_submit] }

theorem run (answered : Answered past core) (setup : Setup σ) {moves : List (Move σ)}
    (serves : ∀ move ∈ moves, move.serves = true) :
    Answered (past ++ history setup core moves) (Core.run setup core moves) :=
  run_induction setup (fun _ _ _ kind answered => answered.perform kind) answered serves

/--
Responses are counted by rejections and by calls that have ended.  Nothing is answered
twice, since each of these happens once.
-/
theorem responses_eq (answered : Answered past core) (messageId : UInt32) :
    core.frames.countP (Envelope.isResponseTo messageId) =
      (past.filterMap Happening.rejection?).count messageId +
        (past.filterMap Happening.ending?).count messageId := by
  rw [answered.frames_eq, countP_frames answered.genuine]

end Answered

/--
A frame that is passed over, or is a reply, hands nothing on and leads to no call.  The
observer may be told about it by a job, but that job is no call.
-/
theorem silent_of_verdict {text : String}
    (verdict : (receive setup core text).1 ∈ [.dropped, .delivered, .unmatched]) :
    (receive setup core text).2.log = core.log ∧
      ∀ job, .accepted job ∈ observe setup core (.receive text) → job.device? = none := by
  have way := routing setup core text
  rw [observe]
  generalize (receive setup core text).1 = seen at way verdict ⊢
  generalize (receive setup core text).2 = after at way ⊢
  generalize offered? setup core text = offer at way ⊢
  have quiet (absent : core.admitted offer = []) (job : Job)
      (shown : .accepted job ∈ .received text seen :: core.admitted offer) :
      job.device? = none := by
    rw [absent, List.mem_singleton] at shown
    cases shown
  cases way with
  | dropped | delivered | unmatched => exact ⟨rfl, quiet rfl⟩
  | observed reply =>
      constructor
      · unfold submit
        split <;> rfl
      · intro job shown
        rcases List.mem_cons.mp shown with first | later
        · cases first
        · rcases mem_admitted later with ⟨same, offer, shown⟩
          cases offer
          cases shown
          rfl
  | submitted | unreadable | refused => simp at verdict

/--
A link that has come up with an outlet that takes every frame has answered nothing yet.  It
serves from here on, until it is lost or closed.
-/
theorem answered_opened (setup : Setup σ) (world : σ) (name : String) :
    Answered [] ((new setup world).establish setup (.record name)).2 := by
  have opened : ((new setup world).establish setup (.record name)).2 =
      publish setup { new setup world with
        link := ⟨.connected, some 0, .connecting, 0⟩
        outlets := [.record name] } .connected := rfl
  rw [opened]
  unfold publish
  dsimp only
  split
  · exact ⟨⟨rfl, 0, name, rfl, rfl⟩, rfl, nofun, rfl⟩
  · exact ⟨⟨rfl, 0, name, rfl, rfl⟩, rfl, nofun, rfl⟩

/--
The answers to the calls that reach a core in a run.  The fields count responses at any
point, count them again when everything is at rest, and say which frames lead to none.
-/
structure Answering (setup : Setup σ) (start : Core σ) (moves : List (Move σ)) : Prop where
  /--
  Frames are handed over as rejections, endings and requests call for them.  Their order is
  that of the history.
  -/
  frames_eq : (run setup start moves).frames =
    (history setup start moves).filterMap Happening.frame?
  counted : ∀ messageId,
    (run setup start moves).frames.countP (Envelope.isResponseTo messageId) =
      ((history setup start moves).filterMap Happening.rejection?).count messageId +
        ((history setup start moves).filterMap Happening.ending?).count messageId
  /--
  Once no device code runs or waits, each submitted frame has been answered as well.  Frames
  count here as often as they came in.
  -/
  settled : (run setup start moves).pool.ready = [] → (run setup start moves).gates.waiting = [] →
    ∀ messageId,
      (run setup start moves).frames.countP (Envelope.isResponseTo messageId) =
        ((history setup start moves).filterMap Happening.rejection?).count messageId +
          ((history setup start moves).filterMap Happening.submission?).count messageId
  /--
  The other frames cause none.  Nothing is handed on by them, and no call is accepted
  because of them.
  -/
  silent : ∀ earlier text later, moves = earlier ++ .receive text :: later →
    (receive setup (run setup start earlier) text).1 ∈ [.dropped, .delivered, .unmatched] →
    (receive setup (run setup start earlier) text).2.log = (run setup start earlier).log ∧
      ∀ job, .accepted job ∈ observe setup (run setup start earlier) (.receive text) →
        job.device? = none

/--
Calls that reach a link with a working outlet are answered exactly once.  The moves are any
in which the link keeps serving; how the tasks are interleaved is up to them.
-/
theorem calls_answered (setup : Setup σ) (world : σ) (name : String) (moves : List (Move σ))
    (serves : ∀ move ∈ moves, move.serves = true) :
    Answering setup ((new setup world).establish setup (.record name)).2 moves := by
  have orderly : ∀ move ∈ moves, move.isAbort = false := by
    intro move inside
    have kind := serves move inside
    cases move with
    | abort => cases kind
    | _ => rfl
  have start := answered_opened setup world name
  have answered := start.run setup serves
  have accounted := ((accounted_new setup world).of_beside
    (beside_establish setup (new setup world) (.record name))).run moves orderly
  rw [List.nil_append] at answered accounted
  exact
    { frames_eq := answered.frames_eq
      counted := answered.responses_eq
      settled := by
        intro idle nobody messageId
        have ended := endings_perm fun device => (accounted.settled idle nobody device).2
        rw [answered.responses_eq, ended.count_eq, answered.acceptances_eq]
      silent := fun _ _ _ _ verdict => silent_of_verdict verdict }

/--
A frame that nobody can read, and a call that a device does not serve.  The first is passed
over, and the second is answered with an error.
-/
def oneCall : List (Move Unit) :=
  let device := "\"productKey\":\"house\",\"deviceName\":\"lamp\",\"properties\":[]"
  [.receive "?",
    .receive ("\x7b\"messageId\":7,\"method\":\"getProperty\",\"payload\":\x7b" ++ device ++
      "\x7d\x7d"),
    .step 0, .step 0]

theorem calls_answered_oneCall :
    let start := ((new plainSetup ()).establish plainSetup (.record "gateway")).2
    Answering plainSetup start oneCall ∧
      (run plainSetup start oneCall).frames.countP (Envelope.isResponseTo 7) = 1 :=
  ⟨calls_answered plainSetup () "gateway" oneCall (by decide), by decide +kernel⟩

end Core
end DeviceLink
