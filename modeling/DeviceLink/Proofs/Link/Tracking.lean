import DeviceLink.Proofs.Link.Update

namespace DeviceLink
namespace Link

/-!
A link over whole runs of calls made one after another.  Link, outlets, observer and
watchers agree with what the calls amount to, after every list of calls.  Calls that
follow one another publish what they have changed before the next one begins, so here
watchers and observer see the changes in their order.  `Tracked` says it in terms of the
functions that read the calls, and there is one induction, over the list.
-/

variable {σ : Type}

/--
Everybody has been told what the calls entered, and nothing else.  The order is that of the
calls.
-/
structure Told (setup : Setup σ) (calls : List Call) (core : Core σ) : Prop where
  watched_eq : core.link.watched = phaseAfter calls
  publications_eq : core.link.publications = (changes calls).length
  notified_eq : core.notified = if setup.observesPhases then changes calls else []

theorem Told.perform {setup : Setup σ} {calls : List Call} {core : Core σ}
    (told : Told setup calls core) (routed : Routed calls core) (call : Call) :
    Told setup (calls ++ [call]) (perform setup core call) := by
  have unpublished := update_unpublished core call
  have leaves := (routed.update call).2
  have phase_eq := phaseAfter_concat calls call
  rw [perform_eq]
  cases left : (update core call).2 with
  | none =>
      rw [left, Option.toList_none] at leaves
      rw [← leaves] at phase_eq
      refine ⟨?_, ?_, ?_⟩
      · rw [unpublished.1, told.watched_eq]
        exact phase_eq.symm
      · rw [unpublished.2.1, told.publications_eq, changes_concat, ← leaves, List.append_nil]
      · rw [unpublished.2.2, told.notified_eq, changes_concat, ← leaves, List.append_nil]
  | some phase =>
      rw [left, Option.toList_some] at leaves
      rw [← leaves] at phase_eq
      have publication := published setup (update core call).1 phase
      refine ⟨?_, ?_, ?_⟩
      · rw [publication.1]
        exact phase_eq.symm
      · rw [publication.1, changes_concat, ← leaves, List.length_append, ← told.publications_eq,
          ← unpublished.2.1]
        rfl
      · rw [publication.2, unpublished.2.2, told.notified_eq, changes_concat, ← leaves]
        split <;> rfl

theorem tracked_run (setup : Setup σ) (world : σ) (calls : List Call) :
    Routed calls (run setup (Core.new setup world) calls) ∧
      Told setup calls (run setup (Core.new setup world) calls) := by
  induction calls using List.reverseRecOn with
  | nil =>
      refine ⟨.new setup world, rfl, rfl, ?_⟩
      exact (ite_self []).symm
  | append_singleton past call ih =>
      have led : run setup (Core.new setup world) (past ++ [call]) =
          perform setup (run setup (Core.new setup world) past) call := List.foldl_append
      rw [led]
      refine ⟨?_, ih.2.perform ih.1 call⟩
      rw [perform_eq]
      split
      · exact (ih.1.update call).1.publish setup _
      · exact (ih.1.update call).1

/--
How a link stands after calls made one after another, and what it does with a frame.  Every
field is read off the calls.
-/
structure Tracked (setup : Setup σ) (calls : List Call) (core : Core σ) : Prop where
  phase_eq : core.link.phase = phaseAfter calls
  /-- A sink is held exactly while the link is connected.  So there is somewhere to send to. -/
  holds_iff : core.link.sink.isSome ↔ core.link.phase = .connected
  /-- It is the one that was established last.  Earlier ones get no frames any more. -/
  sink_eq : ∀ sink ∈ core.link.sink, sink + 1 = (established calls).length
  /--
  The observer is told each change of the phase once, in order.  Calls that change nothing
  are not told.
  -/
  notified_eq : core.notified = if setup.observesPhases then changes calls else []
  watched_eq : core.link.watched = core.link.phase
  last_eq : ∀ phase ∈ (changes calls).getLast?, phase = core.link.phase
  /-- Nothing is told any more once the link is closed.  The last thing told is the closing. -/
  final : ∀ earlier later, calls = earlier ++ later → phaseAfter earlier = .closed →
    changes calls = changes earlier
  /--
  Each outlet has been handed the frames that were sent to it, in order.  Whether it has
  taken them is up to the outlet.
  -/
  outlet?_eq : ∀ index, core.outlets[index]? =
    (established calls)[index]?.map (Outlet.fed · (textsFor index (handovers calls)))
  recorded_eq : core.recorded = (handovers calls).filterMap Handover.written?
  /--
  While connected a frame goes to the outlet established last, once, which decides about it.
  The answer of the outlet is the answer to the sender.
  -/
  reaches : core.link.phase = .connected → core.link.ensureConnected = .ok () ∧
    ∃ sink outlet current, core.link.sink = some sink ∧
      (established calls).getLast? = some outlet ∧ core.outlets[sink]? = some current ∧
      ∀ text, handovers (calls ++ [.send text]) = handovers calls ++ [⟨sink, outlet, text⟩] ∧
        (core.send text).1 = (current.accept text).map fun _ => ()
  /-- Otherwise it goes nowhere, and the check says why.  The frame is not kept for later. -/
  refuses : core.link.phase ≠ .connected →
    core.link.ensureConnected = .error (refusal core.link.phase) ∧
      ∀ text, handovers (calls ++ [.send text]) = handovers calls ∧
        core.send text = (.error (refusal core.link.phase), core)

theorem calls_tracked (setup : Setup σ) (world : σ) (calls : List Call) :
    Tracked setup calls (run setup (Core.new setup world) calls) := by
  have routed := (tracked_run setup world calls).1
  have told := (tracked_run setup world calls).2
  generalize run setup (Core.new setup world) calls = core at routed told ⊢
  exact
    { phase_eq := routed.phase_eq
      holds_iff := by
        rw [routed.sink_eq, sinkAfter, routed.phase_eq]
        split <;> simp [*]
      sink_eq := by
        intro sink holds
        rw [routed.sink_eq, sinkAfter] at holds
        split at holds
        · rename_i connected
          rw [← Option.some.inj holds, Nat.sub_add_cancel (length_established_pos connected)]
        · cases holds
      notified_eq := told.notified_eq
      watched_eq := told.watched_eq.trans routed.phase_eq.symm
      last_eq := by
        intro phase last
        rw [routed.phase_eq, ← getLast?_changes, Option.mem_def.mp last, Option.getD_some]
      final := by
        rintro earlier later rfl closed
        exact changes_of_closed closed later
      outlet?_eq := routed.outlet?_eq
      recorded_eq := routed.recorded_eq
      reaches := by
        intro connected
        rcases routed.exists_sink connected with ⟨outlet, latest, leads, found⟩
        have phase := routed.phase_eq ▸ connected
        refine ⟨by rw [ensureConnected, connected], _, outlet, _, ?_, latest, found, ?_⟩
        · rw [routed.sink_eq, sinkAfter, if_pos phase]
        · intro text
          rw [handovers_concat, handed_of_connected phase latest, Core.send, leads]
          exact ⟨rfl, (core.hand_of_found found text).answer_eq⟩
      refuses := by
        intro unconnected
        refine ⟨ensureConnected_of_unconnected unconnected, fun text => ?_⟩
        rw [handovers_concat, handed_of_unconnected (routed.phase_eq ▸ unconnected),
          List.append_nil, Core.send, routed.route_of_unconnected unconnected]
        exact ⟨rfl, rfl⟩ }

end Link
end DeviceLink
