import DeviceLink.Core
import DeviceLink.Proofs.Link.Calls

namespace DeviceLink

/-!
One call to a link: its update, and the publication that the update may leave to be
made.  The update takes link and outlets to where the calls say, whatever is still to be
published; the publication tells the watchers and the observer, and changes nothing
else.  `Routed` relates a core to the calls that have been made, as far as link and
outlets go, and it is what single updates keep.  Whether a publication follows at once
or later is left to those who put calls together.
-/

namespace Event

def phase? : Event → Option Phase
  | .phase entered => some entered
  | _ => none

/--
The outlet and the text of a frame that was handed over.  Only outlets that record have
frames in the log.
-/
def handed? : Event → Option (String × String)
  | frame outlet text => some (outlet, text)
  | _ => none

end Event

namespace Core

variable {σ : Type}

/-- What the observer of the link has been told.  It is read off the log. -/
def notified (core : Core σ) : List Phase := core.log.filterMap Event.phase?

/--
The frames that recording outlets have taken, each with the name of its outlet.  They stand
in the order in which they were taken.
-/
def recorded (core : Core σ) : List (String × String) := core.log.filterMap Event.handed?

end Core

namespace Core

variable {σ : Type}

/--
What handing a frame to an outlet does, and what the answer is.  At most that outlet and the
log change.
-/
structure Hand (core : Core σ) (sink : Nat) (outlet : Outlet) (text : String)
    (result : Except Failure Unit × Core σ) : Prop where
  answer_eq : result.1 = (outlet.accept text).map fun _ => ()
  link_eq : result.2.link = core.link
  outlets_eq : result.2.outlets = core.outlets.set sink (outlet.offered text)
  recorded_eq : result.2.recorded = core.recorded ++ (outlet.written? text).toList
  notified_eq : result.2.notified = core.notified

theorem hand_of_found (core : Core σ) {sink : Nat} {outlet : Outlet}
    (found : core.outlets[sink]? = some outlet) (text : String) :
    Hand core sink outlet text (core.hand sink text) := by
  simp only [hand, found]
  cases outcome : outlet.accept text with
  | error failure =>
      have same : outlet.offered text = outlet := by rw [Outlet.offered, outcome]
      have unwritten : outlet.written? text = none := by
        cases outlet with
        | record name => cases outcome
        | refusing | queue => rfl
      refine ⟨by rw [outcome]; rfl, rfl, ?_, ?_, rfl⟩
      · rcases List.getElem?_eq_some_iff.mp found with ⟨inside, here⟩
        rw [same, ← here, List.set_getElem_self]
      · rw [unwritten, Option.toList_none, List.append_nil]
  | ok after =>
      have becomes : outlet.offered text = after := by rw [Outlet.offered, outcome]
      cases outlet with
      | record name =>
          refine ⟨by rw [outcome]; rfl, rfl, by rw [becomes]; rfl, ?_, ?_⟩
          · exact Run.filterMap_concat Event.handed? core.log (.frame name text)
          · exact (Run.filterMap_concat Event.phase? core.log (.frame name text)).trans
              (List.append_nil _)
      | refusing | queue =>
          refine ⟨by rw [outcome]; rfl, rfl, by rw [becomes], ?_, rfl⟩
          exact (List.append_nil _).symm

end Core

namespace Link

variable {σ : Type}

/-! ## What a hook does -/

/--
What a hook does to a link: it leads to its phase and its sink, unless the link is closed.
A closed link stays as it is and accepts nothing.
-/
structure Turns (link : Link) (phase : Phase) (sink : Option Nat) (update : Update) : Prop where
  phase_eq : update.link.phase = if link.phase = .closed then .closed else phase
  sink_eq : update.link.sink = if link.phase = .closed then link.sink else sink
  watched_eq : update.link.watched = link.watched
  publications_eq : update.link.publications = link.publications
  publication_eq : update.publication =
    if link.phase = .closed ∨ link.phase = phase then none else some phase

theorem turns_establish (link : Link) (sink : Nat) :
    Turns link .connected (some sink) (link.establish sink) := by
  cases phase : link.phase <;> constructor <;> simp [Link.establish, phase]

theorem turns_close (link : Link) : Turns link .disconnected none link.close := by
  cases phase : link.phase <;> constructor <;> simp [Link.close, phase]

theorem turns_shutdown (link : Link) : Turns link .closed none link.shutdown := by
  cases phase : link.phase <;> constructor <;> simp [Link.shutdown, phase]

/--
Why a link that is not connected refuses a frame.  It tells a link that is closed from one
that may come back.
-/
def refusal (phase : Phase) : Failure :=
  match phase with
  | .closed => .closed
  | _ => .connectionDown

theorem ensureConnected_of_unconnected {link : Link} (unconnected : link.phase ≠ .connected) :
    link.ensureConnected = .error (refusal link.phase) := by
  unfold ensureConnected
  cases phase : link.phase with
  | connected => exact absurd phase unconnected
  | connecting | disconnected | closed => rfl

theorem route_of_sinkless {link : Link} (sinkless : link.sink = none)
    (unconnected : link.phase ≠ .connected) : link.route = .error (refusal link.phase) := by
  unfold route
  rw [sinkless]
  cases phase : link.phase with
  | connected => exact absurd phase unconnected
  | connecting | disconnected | closed => rfl

/-! ## Calls in two halves -/

/--
The first half of a call is what it does to the core; the phase beside it is left to be
published in the second half.  Whoever watches the link has not been told by then.
-/
def update (core : Core σ) (call : Call) : Core σ × Option Phase :=
  match call with
  | .establish outlet =>
      let update := core.link.establish core.outlets.length
      ({ core with outlets := core.outlets ++ [outlet], link := update.link }, update.publication)
  | .close => ({ core with link := core.link.close.link }, core.link.close.publication)
  | .shutdown => ({ core with link := core.link.shutdown.link }, core.link.shutdown.publication)
  | .send text => ((core.send text).2, none)
  | .ensureConnected => (core, none)

/-- A call that is made as a whole.  It stands for any of the operations on a link. -/
def perform (setup : Setup σ) (core : Core σ) (call : Call) : Core σ :=
  match call with
  | .establish outlet => (core.establish setup outlet).2
  | .close => core.closeLink setup
  | .shutdown => (core.shutdownLink setup).2
  | .send text => (core.send text).2
  | .ensureConnected => core

def run (setup : Setup σ) (core : Core σ) (calls : List Call) : Core σ :=
  calls.foldl (perform setup) core

/--
Nothing comes between the two halves of a call that is made as a whole.  So calls made one
after another are a special case of those that overlap.
-/
theorem perform_eq (setup : Setup σ) (core : Core σ) (call : Call) :
    perform setup core call =
      match (update core call).2 with
      | some phase => Core.publish setup (update core call).1 phase
      | none => (update core call).1 := by
  cases call <;> rfl

/-! ## The link and its outlets -/

/--
The link leads where the calls say, and the outlets hold what the calls sent to them.
Publications do not matter for that.
-/
structure Routed (calls : List Call) (core : Core σ) : Prop where
  phase_eq : core.link.phase = phaseAfter calls
  sink_eq : core.link.sink = sinkAfter calls
  outlet?_eq : ∀ index, core.outlets[index]? =
    (established calls)[index]?.map (Outlet.fed · (textsFor index (handovers calls)))
  recorded_eq : core.recorded = (handovers calls).filterMap Handover.written?

namespace Routed

variable {calls : List Call} {core : Core σ}

theorem new (setup : Setup σ) (world : σ) : Routed [] (Core.new setup world) where
  phase_eq := rfl
  sink_eq := rfl
  outlet?_eq := fun _ => rfl
  recorded_eq := rfl

theorem length_outlets (routed : Routed calls core) :
    core.outlets.length = (established calls).length := by
  apply Nat.le_antisymm
  · apply List.getElem?_eq_none_iff.mp
    rw [routed.outlet?_eq, List.getElem?_eq_none_iff.mpr (Nat.le_refl _)]
    rfl
  · apply List.getElem?_eq_none_iff.mp
    have beyond := routed.outlet?_eq core.outlets.length
    rw [List.getElem?_eq_none_iff.mpr (Nat.le_refl _)] at beyond
    exact Option.map_eq_none_iff.mp beyond.symm

/--
A call that neither brings an outlet nor hands over a frame.  Only the phase and the sink
may change.
-/
theorem turn (routed : Routed calls core) {call : Call} (brings : call.outlet? = none)
    (hands : handed calls call = []) {link : Link}
    (phase_eq : link.phase = phaseAfter (calls ++ [call]))
    (sink_eq : link.sink = sinkAfter (calls ++ [call])) :
    Routed (calls ++ [call]) { core with link := link } where
  phase_eq := phase_eq
  sink_eq := sink_eq
  outlet?_eq := by
    rw [established_concat, brings, handovers_concat, hands, Option.toList_none, List.append_nil,
      List.append_nil]
    exact routed.outlet?_eq
  recorded_eq := by
    rw [handovers_concat, hands, List.append_nil]
    exact routed.recorded_eq

theorem publish (routed : Routed calls core) (setup : Setup σ) (phase : Phase) :
    Routed calls (Core.publish setup core phase) := by
  have published : Routed calls { core with link := core.link.publish phase } :=
    ⟨routed.phase_eq, routed.sink_eq, routed.outlet?_eq, routed.recorded_eq⟩
  unfold Core.publish
  dsimp only
  split
  · refine ⟨published.phase_eq, published.sink_eq, published.outlet?_eq, ?_⟩
    rw [Core.recorded, Core.record, Run.filterMap_concat]
    exact (List.append_nil _).trans published.recorded_eq
  · exact published

variable {calls : List Call} {core : Core σ}

theorem turned (routed : Routed calls core) (call : Call) {phase : Phase} {sink : Option Nat}
    {update : Update} (turns : Turns core.link phase sink update)
    (leads : call.phase? = some phase) :
    update.link.phase = phaseAfter (calls ++ [call]) ∧
      update.publication.toList = entered calls call := by
  have phases := phaseAfter_concat_some calls call leads
  rw [← routed.phase_eq] at phases
  rw [entered, turns.phase_eq, turns.publication_eq, phases, ← routed.phase_eq]
  refine ⟨rfl, ?_⟩
  by_cases closed : core.link.phase = .closed
  · rw [if_pos (Or.inl closed), if_pos closed, if_pos closed.symm]
    rfl
  · rw [if_neg closed]
    by_cases same : core.link.phase = phase
    · rw [if_pos (Or.inr same), if_pos same.symm]
      rfl
    · rw [if_neg (not_or.mpr ⟨closed, same⟩), if_neg (Ne.symm same)]
      rfl

theorem sink_of_closed (routed : Routed calls core) (closed : core.link.phase = .closed) :
    core.link.sink = none := by
  rw [routed.sink_eq, sinkAfter, ← routed.phase_eq, closed]
  rfl

/-- A hook that leaves the link without a sink.  Closing and shutting down are such hooks. -/
theorem parted (routed : Routed calls core) {call : Call} {phase : Phase} {update : Update}
    (turns : Turns core.link phase none update) (leads : call.phase? = some phase)
    (other : phase ≠ .connected) : update.link.sink = sinkAfter (calls ++ [call]) := by
  have turned := routed.turned call turns leads
  have sinkless : sinkAfter (calls ++ [call]) = none := by
    rw [sinkAfter, ← turned.1, turns.phase_eq, if_neg]
    split
    · decide
    · exact other
  rw [sinkless, turns.sink_eq]
  split
  · rename_i closed
    exact routed.sink_of_closed closed
  · rfl

theorem establish (routed : Routed calls core) (outlet : Outlet) :
    Routed (calls ++ [.establish outlet]) (update core (.establish outlet)).1 := by
  have brings : established (calls ++ [.establish outlet]) = established calls ++ [outlet] :=
    established_concat calls (.establish outlet)
  have hands : handovers (calls ++ [.establish outlet]) = handovers calls := by
    rw [handovers_concat]
    exact List.append_nil _
  have turns := turns_establish core.link core.outlets.length
  have turned := routed.turned (.establish outlet) turns rfl
  refine ⟨turned.1, ?_, fun index => ?_, ?_⟩
  · change (core.link.establish core.outlets.length).link.sink = _
    rw [sinkAfter, ← turned.1, brings, List.length_append, ← routed.length_outlets,
      turns.phase_eq, turns.sink_eq]
    by_cases closed : core.link.phase = .closed
    · rw [if_pos closed, if_pos closed, routed.sink_of_closed closed]
      rfl
    · rw [if_neg closed, if_neg closed]
      rfl
  · rw [brings, hands]
    change (core.outlets ++ [outlet])[index]? = _
    rcases Nat.lt_trichotomy index core.outlets.length with before | rfl | after
    · rw [List.getElem?_append_left before, routed.outlet?_eq, List.getElem?_append_left]
      rwa [← routed.length_outlets]
    · have unfed : textsFor core.outlets.length (handovers calls) = [] := by
        rw [textsFor, List.map_eq_nil_iff, List.filter_eq_nil_iff]
        intro handover inside
        have earlier := sink_lt_of_handover handover inside
        rw [← routed.length_outlets] at earlier
        simpa using Nat.ne_of_lt earlier
      rw [unfed, List.getElem?_concat_length, routed.length_outlets, List.getElem?_concat_length]
      rfl
    · rw [List.getElem?_eq_none_iff.mpr, List.getElem?_eq_none_iff.mpr]
      · rfl
      · rw [List.length_append, ← routed.length_outlets]
        exact after
      · rw [List.length_append]
        exact after
  · rw [hands]
    exact routed.recorded_eq

/-- The outlet that a connected link leads to.  It has been handed what was sent since. -/
theorem exists_sink (routed : Routed calls core) (connected : core.link.phase = .connected) :
    ∃ outlet, (established calls).getLast? = some outlet ∧
      core.link.route = .ok ((established calls).length - 1) ∧
      core.outlets[(established calls).length - 1]? =
        some (outlet.fed (textsFor ((established calls).length - 1) (handovers calls))) := by
  have phase := routed.phase_eq
  rw [connected] at phase
  rcases exists_established phase.symm with ⟨outlet, latest⟩
  refine ⟨outlet, latest, ?_, ?_⟩
  · rw [route, connected, routed.sink_eq, sinkAfter, if_pos phase.symm]
  · rw [routed.outlet?_eq, ← List.getLast?_eq_getElem?, latest]
    rfl

theorem route_of_unconnected (routed : Routed calls core)
    (unconnected : core.link.phase ≠ .connected) :
    core.link.route = .error (refusal core.link.phase) := by
  refine route_of_sinkless ?_ unconnected
  rw [routed.sink_eq, sinkAfter, ← routed.phase_eq, if_neg unconnected]

theorem send (routed : Routed calls core) (text : String) :
    Routed (calls ++ [.send text]) (core.send text).2 := by
  have phases := phaseAfter_concat_none calls (.send text) rfl
  have brings : established (calls ++ [.send text]) = established calls := by
    rw [established_concat]
    exact List.append_nil _
  have sinks := sinkAfter_concat_none calls (.send text) rfl
  by_cases connected : core.link.phase = .connected
  · rcases routed.exists_sink connected with ⟨outlet, latest, leads, found⟩
    have hand := core.hand_of_found found text
    have sent : core.send text = core.hand ((established calls).length - 1) text := by
      rw [Core.send, leads]
    have hands := handed_of_connected (routed.phase_eq ▸ connected) latest text
    rw [sent]
    refine ⟨?_, ?_, fun index => ?_, ?_⟩
    · rw [hand.link_eq, phases, routed.phase_eq]
    · rw [hand.link_eq, sinks, routed.sink_eq]
    · rw [hand.outlets_eq, brings, handovers_concat, hands, List.getElem?_set]
      have inside := (List.getElem?_eq_some_iff.mp found).1
      by_cases here : (established calls).length - 1 = index
      · subst here
        have fed := textsFor_concat_self (handovers calls)
          ⟨(established calls).length - 1, outlet, text⟩
        rw [if_pos rfl, if_pos inside, fed, ← List.getLast?_eq_getElem?, latest]
        exact congrArg some (outlet.fed_concat _ text).symm
      · rw [if_neg here, textsFor_concat_of_ne _ here, routed.outlet?_eq]
    · rw [hand.recorded_eq, Outlet.written?_fed, handovers_concat, hands, Run.filterMap_concat,
        routed.recorded_eq]
      rfl
  · have kept : (core.send text).2 = core := by
      rw [Core.send, routed.route_of_unconnected connected]
    rw [kept]
    refine routed.turn rfl (handed_of_unconnected (routed.phase_eq ▸ connected) text) ?_ ?_
    · rw [phases, routed.phase_eq]
    · rw [sinks, routed.sink_eq]

theorem update (routed : Routed calls core) (call : Call) :
    Routed (calls ++ [call]) (Link.update core call).1 ∧
      (Link.update core call).2.toList = entered calls call := by
  cases call with
  | establish outlet =>
      have turns := turns_establish core.link core.outlets.length
      have turned := routed.turned (.establish outlet) turns rfl
      exact ⟨routed.establish outlet, turned.2⟩
  | close =>
      have turns := turns_close core.link
      have turned := routed.turned .close turns rfl
      exact ⟨routed.turn rfl rfl turned.1 (routed.parted turns rfl nofun), turned.2⟩
  | shutdown =>
      have turns := turns_shutdown core.link
      have turned := routed.turned .shutdown turns rfl
      exact ⟨routed.turn rfl rfl turned.1 (routed.parted turns rfl nofun), turned.2⟩
  | send text =>
      refine ⟨routed.send text, ?_⟩
      rw [entered, phaseAfter_concat_none calls (.send text) rfl, if_pos rfl]
      rfl
  | ensureConnected =>
      have phases := phaseAfter_concat_none calls .ensureConnected rfl
      have sinks := sinkAfter_concat_none calls .ensureConnected rfl
      refine ⟨routed.turn rfl rfl ?_ ?_, ?_⟩
      · rw [phases, routed.phase_eq]
      · rw [sinks, routed.sink_eq]
      · rw [entered, phases, if_pos rfl]
        rfl

end Routed

/-! ## Publications -/

/-- The first half of a call tells nobody about it.  That is left to the second one. -/
theorem update_unpublished (core : Core σ) (call : Call) :
    (update core call).1.link.watched = core.link.watched ∧
      (update core call).1.link.publications = core.link.publications ∧
      (update core call).1.notified = core.notified := by
  cases call with
  | establish outlet =>
      have turns := turns_establish core.link core.outlets.length
      exact ⟨turns.watched_eq, turns.publications_eq, rfl⟩
  | close =>
      have turns := turns_close core.link
      exact ⟨turns.watched_eq, turns.publications_eq, rfl⟩
  | shutdown =>
      have turns := turns_shutdown core.link
      exact ⟨turns.watched_eq, turns.publications_eq, rfl⟩
  | send text =>
      simp only [update, Core.send]
      cases core.link.route with
      | error failure => exact ⟨rfl, rfl, rfl⟩
      | ok sink =>
          dsimp only
          cases found : core.outlets[sink]? with
          | none =>
              have kept : (core.hand sink text).2 = core := by rw [Core.hand, found]
              rw [kept]
              exact ⟨rfl, rfl, rfl⟩
          | some outlet =>
              have hand := core.hand_of_found found text
              exact ⟨congrArg watched hand.link_eq, congrArg publications hand.link_eq,
                hand.notified_eq⟩
  | ensureConnected => exact ⟨rfl, rfl, rfl⟩

/--
The second half tells those who watch the link, and the observer if there is one.  It does
not touch the phase or the sink.
-/
theorem published (setup : Setup σ) (core : Core σ) (phase : Phase) :
    (Core.publish setup core phase).link = core.link.publish phase ∧
      (Core.publish setup core phase).notified =
        core.notified ++ if setup.observesPhases then [phase] else [] := by
  unfold Core.publish
  dsimp only
  split
  · exact ⟨rfl, Run.filterMap_concat Event.phase? core.log (.phase phase)⟩
  · exact ⟨rfl, (List.append_nil _).symm⟩

end Link
end DeviceLink
