import DeviceLink.Link
import DeviceLink.Proofs.Run
import Mathlib.Data.List.Induction

namespace DeviceLink

/-!
What a list of calls to a link amounts to, read off the calls alone: the phase they lead
to, the phases entered on the way, and which frame goes to which outlet.  Whatever the
code does can then be compared with something that has no state of its own.
`phaseAfter`, `changes` and `handovers` are the three answers.  What a further call adds
to each of them can be read off, and that is all an induction over the list needs.  An
outlet has taken the texts that were handed to it, in their order.
-/

namespace Outlet

/--
What becomes of an outlet to which a frame is handed, whether or not it takes the frame.
One that refuses stays as it was.
-/
def offered (outlet : Outlet) (text : String) : Outlet :=
  match outlet.accept text with
  | .ok after => after
  | .error _ => outlet

def fed (outlet : Outlet) (texts : List String) : Outlet := texts.foldl offered outlet

theorem fed_concat (outlet : Outlet) (texts : List String) (text : String) :
    outlet.fed (texts ++ [text]) = (outlet.fed texts).offered text := List.foldl_append

/--
Frames do not turn one kind of outlet into another.  So an outlet that records goes on
recording.
-/
theorem offered_eq_record_iff (outlet : Outlet) (text name : String) :
    outlet.offered text = .record name ↔ outlet = .record name := by
  cases outlet with
  | record other => exact Iff.rfl
  | refusing failure => exact Iff.rfl
  | queue capacity frames isOpen =>
      refine iff_of_false ?_ nofun
      unfold offered accept
      cases isOpen with
      | false => exact nofun
      | true =>
          by_cases full : capacity ≤ frames.length
          · simp [full]
          · simp [full]

theorem fed_eq_record_iff (outlet : Outlet) (texts : List String) (name : String) :
    outlet.fed texts = .record name ↔ outlet = .record name := by
  induction texts generalizing outlet with
  | nil => exact Iff.rfl
  | cons text rest ih => exact (ih _).trans (outlet.offered_eq_record_iff text name)

/--
What an outlet that records its frames writes down.  The name of the outlet stands beside
the frame.
-/
def written? (outlet : Outlet) (text : String) : Option (String × String) :=
  match outlet with
  | record name => some (name, text)
  | _ => none

theorem written?_eq_some_iff (outlet : Outlet) (text : String) (entry : String × String) :
    outlet.written? text = some entry ↔ outlet = .record entry.1 ∧ text = entry.2 := by
  rcases entry with ⟨name, other⟩
  cases outlet <;> simp [written?]

theorem written?_fed (outlet : Outlet) (texts : List String) (text : String) :
    (outlet.fed texts).written? text = outlet.written? text := by
  ext entry
  rw [written?_eq_some_iff, written?_eq_some_iff, fed_eq_record_iff]

end Outlet

namespace Link

/-- What may be done with a link.  Each of these may be done at any time, in any order. -/
inductive Call
  | establish (outlet : Outlet)
  | close
  | shutdown
  | send (text : String)
  | ensureConnected
  deriving DecidableEq, Repr

namespace Call

def outlet? : Call → Option Outlet
  | establish outlet => some outlet
  | _ => none

/-- The phase that a call leads to unless the link has been shut down.  Some calls lead to none. -/
def phase? : Call → Option Phase
  | establish _ => some .connected
  | close => some .disconnected
  | shutdown => some .closed
  | _ => none

end Call

/-! ## What calls amount to -/

/--
The outlets in the order in which they were established, which numbers them.  Those that
were refused have numbers as well.
-/
def established (calls : List Call) : List Outlet := calls.filterMap Call.outlet?

/--
A shutdown decides for good, and before it the latest hook.  Without any call the link is
still connecting.
-/
def phaseAfter (calls : List Call) : Phase :=
  if .closed ∈ calls.filterMap Call.phase? then .closed
  else (calls.filterMap Call.phase?).getLast?.getD .connecting

/--
While the link is connected it leads to the outlet that was established last.  Otherwise it
leads nowhere.
-/
def sinkAfter (calls : List Call) : Option Nat :=
  if phaseAfter calls = .connected then some ((established calls).length - 1) else none

/--
The phase that one more call enters, if it changes the phase.  A call that leads to the
phase that is there enters none.
-/
def entered (past : List Call) (call : Call) : List Phase :=
  if phaseAfter (past ++ [call]) = phaseAfter past then [] else [phaseAfter (past ++ [call])]

/-- The phases that the calls enter, one for each change.  This is what observers should be told. -/
def changes : List Call → List Phase := Run.history (fun past call => past ++ [call]) entered []

/--
A frame on its way: the number of the outlet, and what was established under it.  The outlet
may have been given other frames in the meantime.
-/
structure Handover where
  sink : Nat
  outlet : Outlet
  text : String

namespace Handover

def written? (handover : Handover) : Option (String × String) :=
  handover.outlet.written? handover.text

end Handover

/--
The frame that one more call hands to the outlet established last.  Only a call that sends
hands anything over.
-/
def handed (past : List Call) : Call → List Handover
  | .send text =>
      match sinkAfter past, (established past).getLast? with
      | some sink, some outlet => [⟨sink, outlet, text⟩]
      | _, _ => []
  | _ => []

/-- The frames that the calls hand to outlets.  They stand in the order of the sending. -/
def handovers : List Call → List Handover :=
  Run.history (fun past call => past ++ [call]) handed []

def textsFor (sink : Nat) (handovers : List Handover) : List String :=
  (handovers.filter fun handover => handover.sink = sink).map Handover.text

theorem textsFor_concat_self (earlier : List Handover) (handover : Handover) :
    textsFor handover.sink (earlier ++ [handover]) =
      textsFor handover.sink earlier ++ [handover.text] := by
  simp [textsFor, List.filter_append]

theorem textsFor_concat_of_ne {sink : Nat} (earlier : List Handover) {handover : Handover}
    (other : handover.sink ≠ sink) :
    textsFor sink (earlier ++ [handover]) = textsFor sink earlier := by
  simp [textsFor, List.filter_append, other]

/-! ## One more call -/

section

variable (past : List Call) (call : Call)

theorem foldl_concat_calls (calls : List Call) :
    calls.foldl (fun past call => past ++ [call]) past = past ++ calls := by
  induction calls generalizing past with
  | nil => exact (List.append_nil past).symm
  | cons call rest ih => rw [List.foldl_cons, ih, List.append_assoc, List.singleton_append]

theorem changes_concat : changes (past ++ [call]) = changes past ++ entered past call := by
  rw [changes, Run.history_concat, foldl_concat_calls, List.nil_append]

theorem length_entered_le : (entered past call).length ≤ 1 := by
  unfold entered
  split
  · exact Nat.zero_le 1
  · exact Nat.le_refl 1

theorem phaseAfter_concat :
    phaseAfter (past ++ [call]) = (entered past call).getLast?.getD (phaseAfter past) := by
  unfold entered
  split
  · rename_i same
    exact same
  · rfl

theorem handovers_concat : handovers (past ++ [call]) = handovers past ++ handed past call := by
  rw [handovers, Run.history_concat, foldl_concat_calls, List.nil_append]

theorem established_concat (past : List Call) (call : Call) :
    established (past ++ [call]) = established past ++ call.outlet?.toList :=
  Run.filterMap_concat Call.outlet? past call

theorem phaseAfter_concat_none (silent : call.phase? = none) :
    phaseAfter (past ++ [call]) = phaseAfter past := by
  simp only [phaseAfter, Run.filterMap_concat, silent, Option.toList_none, List.append_nil]

theorem sinkAfter_concat_none (silent : call.phase? = none) :
    sinkAfter (past ++ [call]) = sinkAfter past := by
  have brings : call.outlet? = none := by
    cases call with
    | establish | close | shutdown => cases silent
    | send | ensureConnected => rfl
  rw [sinkAfter, phaseAfter_concat_none past call silent, established_concat, brings,
    Option.toList_none, List.append_nil, sinkAfter]

theorem phaseAfter_eq_closed_iff :
    phaseAfter past = .closed ↔ .closed ∈ past.filterMap Call.phase? := by
  unfold phaseAfter
  split
  · rename_i shut
    exact iff_of_true rfl shut
  · rename_i unshut
    refine iff_of_false (fun same => ?_) unshut
    cases latest : (past.filterMap Call.phase?).getLast? with
    | none =>
        rw [latest] at same
        cases same
    | some phase =>
        rw [latest, Option.getD_some] at same
        exact unshut (same ▸ List.mem_of_getLast? latest)

/--
A hook leads to its phase, unless there has been a shutdown.  It does so whatever the phase
was.
-/
theorem phaseAfter_concat_some {phase : Phase} (leads : call.phase? = some phase) :
    phaseAfter (past ++ [call]) = if phaseAfter past = .closed then .closed else phase := by
  have phases : (past ++ [call]).filterMap Call.phase? =
      past.filterMap Call.phase? ++ [phase] := by
    rw [Run.filterMap_concat, leads, Option.toList_some]
  by_cases shut : phaseAfter past = .closed
  · rw [if_pos shut, phaseAfter_eq_closed_iff, phases]
    exact List.mem_append_left _ ((phaseAfter_eq_closed_iff past).mp shut)
  · rw [if_neg shut, phaseAfter, phases, List.getLast?_concat, Option.getD_some]
    split
    · rename_i inside
      rcases List.mem_append.mp inside with earlier | here
      · exact absurd ((phaseAfter_eq_closed_iff past).mpr earlier) shut
      · exact List.mem_singleton.mp here
    · rfl

end

/-! ## Frames and their outlets -/

/-- Whoever is connected has been given an outlet.  There is no connection without one. -/
theorem exists_established {calls : List Call} (connected : phaseAfter calls = .connected) :
    ∃ outlet, (established calls).getLast? = some outlet := by
  have turned : Phase.connected ∈ calls.filterMap Call.phase? := by
    unfold phaseAfter at connected
    split at connected
    · cases connected
    · cases latest : (calls.filterMap Call.phase?).getLast? with
      | none =>
          rw [latest] at connected
          cases connected
      | some phase =>
          rw [latest, Option.getD_some] at connected
          exact connected ▸ List.mem_of_getLast? latest
  rcases List.mem_filterMap.mp turned with ⟨call, inside, leads⟩
  cases call with
  | establish outlet =>
      have brought : outlet ∈ established calls :=
        List.mem_filterMap.mpr ⟨.establish outlet, inside, rfl⟩
      exact ⟨_, List.getLast?_eq_some_getLast (List.ne_nil_of_mem brought)⟩
  | close | shutdown | send | ensureConnected => cases leads

theorem length_established_pos {calls : List Call} (connected : phaseAfter calls = .connected) :
    0 < (established calls).length := by
  rcases exists_established connected with ⟨outlet, latest⟩
  exact List.length_pos_of_mem (List.mem_of_getLast? latest)

theorem handed_of_connected {calls : List Call} {outlet : Outlet}
    (connected : phaseAfter calls = .connected)
    (latest : (established calls).getLast? = some outlet) (text : String) :
    handed calls (.send text) = [⟨(established calls).length - 1, outlet, text⟩] := by
  simp only [handed, sinkAfter, connected, if_true, latest]

theorem handed_of_unconnected {calls : List Call} (unconnected : phaseAfter calls ≠ .connected)
    (text : String) : handed calls (.send text) = [] := by
  simp only [handed, sinkAfter, if_neg unconnected]

/-- Frames go to outlets that were established before.  So none of them is lost between. -/
theorem sink_lt_of_handover {calls : List Call} :
    ∀ handover ∈ handovers calls, handover.sink < (established calls).length := by
  induction calls using List.reverseRecOn with
  | nil => exact fun handover inside => absurd inside List.not_mem_nil
  | append_singleton past call ih =>
      intro handover inside
      rw [established_concat, List.length_append]
      rw [handovers_concat, List.mem_append] at inside
      refine Nat.lt_add_right _ ?_
      rcases inside with earlier | here
      · exact ih handover earlier
      · cases call with
        | establish | close | shutdown | ensureConnected => cases here
        | send text =>
            by_cases connected : phaseAfter past = .connected
            · rcases exists_established connected with ⟨outlet, latest⟩
              rw [handed_of_connected connected latest, List.mem_singleton] at here
              rw [here]
              exact Nat.sub_one_lt (Nat.ne_of_gt (length_established_pos connected))
            · rw [handed_of_unconnected connected] at here
              cases here

/-! ## More calls -/

theorem phaseAfter_of_closed {earlier : List Call} (closed : phaseAfter earlier = .closed)
    (later : List Call) : phaseAfter (earlier ++ later) = .closed := by
  rw [phaseAfter_eq_closed_iff, List.filterMap_append] at *
  exact List.mem_append_left _ closed

/-- No phase is entered any more once the link is closed.  Later calls may be of any kind. -/
theorem changes_of_closed {earlier : List Call} (closed : phaseAfter earlier = .closed)
    (later : List Call) : changes (earlier ++ later) = changes earlier := by
  induction later using List.reverseRecOn with
  | nil => rw [List.append_nil]
  | append_singleton later call ih =>
      have before := phaseAfter_of_closed closed later
      have after := phaseAfter_of_closed closed (later ++ [call])
      rw [← List.append_assoc] at after ⊢
      rw [changes_concat, ih, entered, if_pos (after.trans before.symm), List.append_nil]

theorem getLast?_changes (calls : List Call) :
    (changes calls).getLast?.getD .connecting = phaseAfter calls := by
  induction calls using List.reverseRecOn with
  | nil => rfl
  | append_singleton past call ih =>
      rw [changes_concat, List.getLast?_append, phaseAfter_concat, ← ih]
      cases (entered past call).getLast? <;> rfl

/--
Whoever has entered the closed phase stays in it.  So the phase alone tells whether there
was a shutdown.
-/
theorem closed_mem_changes_iff (calls : List Call) :
    .closed ∈ changes calls ↔ phaseAfter calls = .closed := by
  induction calls using List.reverseRecOn with
  | nil => exact iff_of_false List.not_mem_nil nofun
  | append_singleton past call ih =>
      rw [changes_concat, List.mem_append, ih]
      constructor
      · rintro (closed | here)
        · exact phaseAfter_of_closed closed [call]
        · unfold entered at here
          split at here
          · cases here
          · exact (List.mem_singleton.mp here).symm
      · intro closed
        by_cases same : phaseAfter (past ++ [call]) = phaseAfter past
        · exact .inl (same ▸ closed)
        · refine .inr ?_
          rw [entered, if_neg same, closed]
          exact List.mem_singleton_self _

/-- The closed phase is entered once at most.  A second shutdown does not enter it again. -/
theorem count_closed_changes_le (calls : List Call) : (changes calls).count .closed ≤ 1 := by
  induction calls using List.reverseRecOn with
  | nil => exact Nat.zero_le 1
  | append_singleton past call ih =>
      by_cases closed : phaseAfter past = .closed
      · rwa [changes_of_closed closed [call]]
      · have unentered := mt (closed_mem_changes_iff past).mp closed
        rw [changes_concat, List.count_append, List.count_eq_zero.mpr unentered, Nat.zero_add]
        exact Nat.le_trans List.count_le_length (length_entered_le past call)

end Link
end DeviceLink
