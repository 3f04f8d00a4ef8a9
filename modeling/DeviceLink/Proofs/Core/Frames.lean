import DeviceLink.Proofs.Core.Accounting

namespace DeviceLink

/-!
The frames that a link with a working outlet hands over.  Of every move they are the
ones that its happenings call for, so the frames of a run can be read off its history.
They are rejections, the answers of calls that end, and requests, in the order in which
these happen.  As long as a link serves, nothing is lost and nothing is added, so
counting frames is counting happenings.  `Serving` is what such a link is like, and the
moves that keep it so are those that neither take the link down nor give it an outlet
that refuses frames.
-/

namespace Event

def frame? : Event → Option String
  | frame _ text => some text
  | _ => none

end Event

namespace Happening

/-- The frame that a happening calls for.  Most happenings call for none. -/
def frame? : Happening → Option String
  | received text (.rejected code) =>
      match Inbound.ofText text with
      | .ok (.call messageId _ _) => some (Envelope.response messageId code.number []).text
      | _ => none
  | sent text => some text
  | ended (.invoke messageId _ _) (some (code, payload)) =>
      some (Envelope.response messageId code payload).text
  | _ => none

end Happening

namespace Core

variable {σ : Type}

/--
The frames that have been handed to outlets.  They are read off the log, where an outlet
that records puts them.
-/
def frames (core : Core σ) : List String := core.log.filterMap Event.frame?

/--
The link is up, and its outlet takes every frame.  That is the case in which nothing is
refused for reasons of the link.
-/
structure Serving (core : Core σ) : Prop where
  phase_eq : core.link.phase = .connected
  sink_eq : ∃ sink name, core.link.sink = some sink ∧ core.outlets[sink]? = some (.record name)

/--
The moves of a link that goes on serving.  The link may come up again, but it is neither
lost nor closed, and no task is abandoned.
-/
def Move.serves : Move σ → Bool
  | .establish (.record _) => true
  | .establish _ => false
  | .closeLink => false
  | .shutdownLink => false
  | .submit _ => false
  | .abort _ => false
  | _ => true

/--
An operation hands these frames to the outlet, and the link goes on serving.  They are added
to the log behind what was there.
-/
structure Hands (core next : Core σ) (texts : List String) : Prop where
  frames_eq : next.frames = core.frames ++ texts
  serving : next.Serving

/--
First nothing is handed over, then these frames.  Operations are put together from parts in
this way.
-/
theorem Hands.after {core next last : Core σ} {texts : List String} (first : Hands core next [])
    (second : Hands next last texts) : Hands core last texts where
  frames_eq := by rw [second.frames_eq, first.frames_eq, List.append_nil]
  serving := second.serving

/--
Nothing that becomes of an offered job calls for a frame.  Its answer, if it is a call,
comes later.
-/
theorem frames_admitted (core : Core σ) (offer : Option Job) :
    (core.admitted offer).filterMap Happening.frame? = [] := by
  unfold admitted
  split
  · rfl
  · split <;> rfl

theorem frames_record (core : Core σ) {event : Event} (other : event.frame? = none) :
    (core.record event).frames = core.frames := by
  rw [frames, record, List.filterMap_append, List.filterMap_cons, other]
  exact List.append_nil _

theorem frames_ranTo (core : Core σ) (activity : Activity σ Json.Members) :
    (core.ranTo activity).frames = core.frames := by
  have notes : ((activity.run core.world).notes.map Event.note).filterMap Event.frame? = [] := by
    rw [List.filterMap_map]
    exact List.filterMap_eq_nil_iff.mpr fun _ _ => rfl
  rw [frames, ranTo, List.filterMap_append, notes, List.append_nil]
  rfl

theorem frames_reportReply (core : Core σ) (setup : Setup σ) (messageId : UInt32) (code : Int32) :
    (reportReply setup core messageId code).frames = core.frames := by
  unfold reportReply
  split
  · exact core.frames_record rfl
  · exact core.frames_record rfl
  · rfl

namespace Serving

variable {setup : Setup σ} {core next : Core σ}

theorem of_same (serving : core.Serving) (link_eq : next.link = core.link)
    (outlets_eq : next.outlets = core.outlets) : next.Serving where
  phase_eq := link_eq ▸ serving.phase_eq
  sink_eq := by
    rw [link_eq, outlets_eq]
    exact serving.sink_eq

/-- Nothing that matters to the outlet changes.  The pool and the registry may have changed. -/
theorem quiet (serving : core.Serving) (link_eq : next.link = core.link)
    (outlets_eq : next.outlets = core.outlets) (frames_eq : next.frames = core.frames) :
    Hands core next [] where
  frames_eq := by rw [frames_eq, List.append_nil]
  serving := serving.of_same link_eq outlets_eq

theorem send_eq (serving : core.Serving) (text : String) :
    ∃ name, core.send text = (.ok (), core.record (.frame name text)) := by
  rcases serving.sink_eq with ⟨sink, name, sink_eq, outlet_eq⟩
  refine ⟨name, ?_⟩
  have same : core.outlets.set sink (.record name) = core.outlets := by
    rcases List.getElem?_eq_some_iff.mp outlet_eq with ⟨inside, there⟩
    rw [← there, List.set_getElem_self]
  simp only [send, Link.route, serving.phase_eq, sink_eq, hand, outlet_eq, Outlet.accept, same]

/-- A frame that is recorded has been handed over.  Being in the log is all that it takes. -/
theorem record_frame (serving : core.Serving) (name text : String) :
    Hands core (core.record (.frame name text)) [text] where
  frames_eq := by
    rw [frames, record, List.filterMap_append]
    rfl
  serving := serving.of_same rfl rfl

/-- A frame that is sent reaches the outlet.  There is no refusal on such a link. -/
theorem send (serving : core.Serving) (text : String) : Hands core (core.send text).2 [text] := by
  rcases serving.send_eq text with ⟨name, sent⟩
  rw [sent]
  exact serving.record_frame name text

/--
The link is up again, with another outlet that takes every frame.  Frames go to the new
outlet from here on.
-/
theorem establish (serving : core.Serving) (setup : Setup σ) (name : String) :
    Hands core (core.establish setup (.record name)).2 [] := by
  have up : core.link.establish core.outlets.length =
      ⟨{ core.link with sink := some core.outlets.length }, true, none⟩ := by
    simp only [Link.establish, serving.phase_eq]
  simp only [Core.establish, up, apply]
  exact ⟨(List.append_nil _).symm, serving.phase_eq,
    core.outlets.length, name, rfl, List.getElem?_concat_length⟩

theorem sendAsync (serving : core.Serving) (device : Address) (request : Request) :
    Hands core (core.sendAsync device request).2
      ((observe setup core (.report device request)).filterMap Happening.frame?) := by
  cases prepared : core.prepare device request with
  | error failure =>
      have refused : core.sendAsync device request = (.error failure, core) := by
        simp only [Core.sendAsync, prepared]
      simp only [observe, refused]
      exact serving.quiet rfl rfl rfl
  | ok payload =>
      have counted : Hands core core.takeId.2 [] := serving.quiet rfl rfl rfl
      rcases counted.serving.send_eq (request.frame core.takeId.1 payload) with ⟨name, sent⟩
      have accepted : core.sendAsync device request = (.ok core.takeId.1,
          core.takeId.2.record (.frame name (request.frame core.takeId.1 payload))) := by
        simp only [Core.sendAsync, prepared, sent]
      simp only [observe, accepted, outgoing, prepared]
      exact counted.after (counted.serving.record_frame name _)

theorem openWait (serving : core.Serving) (request : Request) (messageId : UInt32)
    (payload : Json.Members) (due : Nat) (budget : Duration) :
    Hands core (core.openWait request messageId payload due budget).2
      (match (core.openWait request messageId payload due budget).1 with
        | .waits _ => [request.frame messageId payload]
        | _ => []) := by
  cases registered : core.registry.register messageId with
  | error failure =>
      have refused : core.openWait request messageId payload due budget =
          (.fails failure, core) := by
        simp only [Core.openWait, registered]
      rw [refused]
      exact serving.quiet rfl rfl rfl
  | ok entry =>
      rcases entry with ⟨token, registry⟩
      let known := { core with registry := registry }
      have ready : Hands core known [] := serving.quiet rfl rfl rfl
      rcases ready.serving.send_eq (request.frame messageId payload) with ⟨name, sent⟩
      have opened : core.openWait request messageId payload due budget =
          (.waits ⟨token, due, budget⟩,
            known.record (.frame name (request.frame messageId payload))) := by
        simp only [Core.openWait, registered]
        rw [sent]
      rw [opened]
      exact ready.after (ready.serving.record_frame name _)

theorem sendSync (serving : core.Serving) (device : Address) (request : Request) (now : Nat)
    (budget : Duration) :
    Hands core (core.sendSync device request now budget).2
      ((observe setup core (.request device request now budget)).filterMap Happening.frame?) := by
  cases clock : core.clock.after? now budget with
  | none =>
      have crashed : core.sendSync device request now budget = (.crashes, core) := by
        simp only [Core.sendSync, clock]
      simp only [observe, crashed]
      exact serving.quiet rfl rfl rfl
  | some due =>
      cases prepared : core.prepare device request with
      | error failure =>
          have refused : core.sendSync device request now budget = (.fails failure, core) := by
            simp only [Core.sendSync, clock, prepared]
          simp only [observe, refused]
          exact serving.quiet rfl rfl rfl
      | ok payload =>
          have counted : Hands core core.takeId.2 [] := serving.quiet rfl rfl rfl
          have opened : core.sendSync device request now budget =
              core.takeId.2.openWait request core.takeId.1 payload due budget := by
            simp only [Core.sendSync, clock, prepared]
          have handed := counted.after
            (counted.serving.openWait request core.takeId.1 payload due budget)
          simp only [observe, opened, outgoing, prepared]
          refine ⟨handed.frames_eq.trans ?_, handed.serving⟩
          cases (core.takeId.2.openWait request core.takeId.1 payload due budget).1 <;> rfl

/-! ## Inbound frames -/

theorem submit (serving : core.Serving) (job : Job) : Hands core (core.submit job).2 [] := by
  unfold Core.submit
  split <;> exact serving.quiet rfl rfl rfl

/-- A rejection is handed over at once.  No other verdict hands anything over. -/
theorem receive (serving : core.Serving) (text : String) :
    Hands core (Core.receive setup core text).2
      ((observe setup core (.receive text)).filterMap Happening.frame?) := by
  have way := routing setup core text
  rw [observe, List.filterMap_cons, frames_admitted]
  generalize (Core.receive setup core text).1 = verdict at way ⊢
  generalize (Core.receive setup core text).2 = after at way ⊢
  generalize offered? setup core text = offer at way
  cases way with
  | dropped | delivered | unmatched => exact serving.quiet rfl rfl rfl
  | observed reply =>
      have kept : Hands core (core.deliver reply).2 [] := serving.quiet rfl rfl rfl
      exact kept.after (kept.serving.submit _)
  | submitted messageId _ _ device call => exact serving.submit _
  | unreadable messageId _ _ _ _ inbound | refused messageId _ _ _ _ _ inbound =>
      simp only [Happening.frame?, inbound]
      exact serving.send _

/-! ## Steps of tasks -/

theorem ranTo (serving : core.Serving) (activity : Activity σ Json.Members) :
    Hands core (core.ranTo activity) [] := serving.quiet rfl rfl (core.frames_ranTo activity)

/--
The response to a call that has ended is handed over.  It is handed over in the step that
ends the call.
-/
theorem endCall (serving : core.Serving) (task : Pool.Task σ) (messageId : UInt32)
    (outcome : Outcome Json.Members) :
    Hands core (core.endCall task messageId outcome)
      [(Envelope.response messageId (DeviceCall.answer outcome).1
        (DeviceCall.answer outcome).2).text] := by
  have handed := serving.send (Envelope.response messageId (DeviceCall.answer outcome).1
    (DeviceCall.answer outcome).2).text
  exact ⟨handed.frames_eq, handed.serving.of_same rfl rfl⟩

theorem runActivity (serving : core.Serving) {task : Pool.Task σ} {messageId : UInt32}
    {device : Address} {call : DeviceCall} (job : task.job = .invoke messageId device call)
    (activity : Activity σ Json.Members) :
    Hands core (core.runActivity task messageId activity)
      ((concluded task.job activity core.world).filterMap Happening.frame?) := by
  have ran := serving.ranTo activity
  unfold concluded
  cases progress : (activity.run core.world).progress with
  | ended outcome =>
      rw [runActivity_of_ended core task messageId progress, job]
      exact ran.after (ran.serving.endCall task messageId outcome)
  | atGate gate rest =>
      rw [runActivity_of_atGate core task messageId progress]
      exact ⟨ran.frames_eq, ran.serving.of_same rfl rfl⟩

theorem reportReply (serving : core.Serving) (setup : Setup σ) (messageId : UInt32) (code : Int32) :
    Hands core (Core.reportReply setup core messageId code) [] := by
  refine serving.quiet ?_ ?_ (core.frames_reportReply setup messageId code)
  · unfold Core.reportReply
    split <;> rfl
  · unfold Core.reportReply
    split <;> rfl

theorem step (serving : core.Serving) (id : Nat) :
    Hands core (Core.step setup core id) ((stepped setup core id).filterMap Happening.frame?) := by
  let taken := { core with pool := core.pool.leaveReady id }
  have left : Hands core taken [] := serving.quiet rfl rfl rfl
  unfold Core.step stepped
  cases found : core.pool.task? id with
  | none => exact left
  | some task =>
      dsimp only
      unfold stepTask
      cases stage : task.stage with
      | queueing | suspended => exact left
      | fresh => exact serving.quiet rfl rfl rfl
      | atGate gate rest =>
          dsimp only
          unfold askGate
          split <;> exact serving.quiet rfl rfl rfl
      | resumable rest =>
          cases job : task.job with
          | reportReply messageId code => exact left
          | invoke messageId device call =>
              have ran := left.after (left.serving.runActivity job rest)
              rw [job] at ran
              exact ran
      | granted =>
          let begun := { taken with pool := taken.pool.startJob }
          have started : Hands core begun [] := serving.quiet rfl rfl rfl
          unfold beginJob
          cases job : task.job with
          | reportReply messageId code =>
              have told := started.after (started.serving.reportReply setup messageId code)
              exact told.after (told.serving.quiet rfl rfl rfl)
          | invoke messageId device call =>
              have ran := started.after (started.serving.runActivity job
                (call.perform setup.handler setup.options.outputSlots device))
              rw [job] at ran
              exact ran

/-! ## Moves -/

/--
The outlet that frames go to is no queue, so what is done to a queue does not touch it.
Queues may be left from links of another kind.
-/
theorem onNewestQueue (serving : core.Serving) (change : Outlet → List String × Outlet) :
    Hands core (core.onNewestQueue change).2 [] := by
  unfold Core.onNewestQueue
  split
  · exact serving.quiet rfl rfl rfl
  · rename_i back found
    dsimp only
    split
    · exact serving.quiet rfl rfl rfl
    · rename_i outlet there
      refine ⟨(List.append_nil _).symm, serving.phase_eq, ?_⟩
      rcases serving.sink_eq with ⟨sink, name, sink_eq, outlet_eq⟩
      refine ⟨sink, name, sink_eq, ?_⟩
      have isQueue : outlet.isQueue = true := by
        rcases List.findIdx?_eq_some_iff_getElem.mp found with ⟨inside, isQueue, -⟩
        rw [List.getElem_reverse] at isQueue
        rcases List.getElem?_eq_some_iff.mp there with ⟨_, rfl⟩
        exact isQueue
      have elsewhere : core.outlets.length - 1 - back ≠ sink := by
        rintro rfl
        rw [there] at outlet_eq
        cases outlet_eq
        cases isQueue
      rw [List.getElem?_set_ne elsewhere]
      exact outlet_eq

/--
What a move hands to the outlet is what its happenings call for.  There is one case for each
move that a serving link can make.
-/
theorem perform (serving : core.Serving) {move : Move σ} (serves : move.serves = true) :
    Hands core (Core.perform setup core move)
      ((observe setup core move).filterMap Happening.frame?) := by
  cases move with
  | establish outlet =>
      cases outlet with
      | record name => exact serving.establish setup name
      | refusing | queue => cases serves
  | report device request => exact serving.sendAsync device request
  | request device request now budget => exact serving.sendSync device request now budget
  | receive text => exact serving.receive text
  | step task => exact serving.step task
  | drain most => exact serving.onNewestQueue _
  | hangUp => exact serving.onNewestQueue _
  | forget | forgetAll | openGate | closePool | disturb => exact serving.quiet rfl rfl rfl
  | closeLink | shutdownLink | submit | abort => cases serves

/--
What a run hands to the outlet is what its history calls for.  So frames can be counted in
the history.
-/
theorem run (serving : core.Serving) (setup : Setup σ) {moves : List (Move σ)}
    (serves : ∀ move ∈ moves, move.serves = true) :
    Hands core (Core.run setup core moves)
      ((history setup core moves).filterMap Happening.frame?) := by
  have kept : ∀ past next move, Move.serves move = true →
      Hands core next (past.filterMap Happening.frame?) →
      Hands core (Core.perform setup next move)
        ((past ++ observe setup next move).filterMap Happening.frame?) := by
    intro past next move kind handed
    have moved : Hands next (Core.perform setup next move) _ := handed.serving.perform kind
    refine ⟨?_, moved.serving⟩
    rw [moved.frames_eq, handed.frames_eq, List.filterMap_append, List.append_assoc]
  have start : Hands core core (([] : List Happening).filterMap Happening.frame?) :=
    serving.quiet rfl rfl rfl
  exact run_induction setup kept start serves

end Serving
end Core

end DeviceLink
