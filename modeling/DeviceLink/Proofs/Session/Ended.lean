import DeviceLink.Proofs.Session.Course

namespace DeviceLink
namespace Session

variable {σ : Type}

/-!
When a core has come to its end.  The end is that of the shutdown that has closed the
link, so it finds the link closed.  A shutdown that nobody can give up does come to its
end, after its grace at the latest.  It is what a client relies on when it notices the
end of its core.  `EndsClosed` and `EndsWithin` are the two invariants, and the clock of
a session is shown to be the same throughout.
-/

section

variable {setup : Setup σ} {session : Session σ}

theorem now_perform_le (move : Move σ) : session.now ≤ (session.perform setup move).now := by
  cases move with
  | advance span => exact Nat.le_add_right _ _
  | request label device request budget =>
      rw [perform, request_eq]
      unfold carryOn
      split <;> exact le_rfl
  | shutdown label =>
      simp only [perform, shutdown, reportShut, shutdownCore, drainPool]
      split
      · exact le_rfl
      · split <;> exact le_rfl
  | shutdownPool label grace =>
      simp only [perform, shutdownPool, reportShut, drainPool]
      split <;> exact le_rfl
  | abort label =>
      simp only [perform, Session.abort]
      split <;> exact le_rfl
  | poll tag =>
      simp only [perform, poll]
      split <;> exact le_rfl
  | endAwaiting =>
      simp only [perform, endAwaiting]
      split <;> exact le_rfl
  | _ => exact le_rfl

theorem clock_shutdownCore (setup : Setup σ) (session : Session σ) (tag : Option Tag) :
    (session.shutdownCore setup tag).2.core.clock = session.core.clock := by
  have same : (session.core.shutdownLink setup).2.clock = session.core.clock :=
    Core.clock_apply setup session.core _
  unfold shutdownCore
  split <;> rename_i result <;> rw [result] at same
  · exact same
  · rw [core_drainPool]
    exact same

/--
Whatever happens, deadlines are worked out by the same clock.  What is known of it at the
start of a run is known throughout.
-/
theorem clock_perform (setup : Setup σ) (session : Session σ) (move : Move σ) :
    (session.perform setup move).core.clock = session.core.clock := by
  cases concerned : move.concernsRequests with
  | false => exact (apart_of_unconcerned setup session concerned).core.clock_eq
  | true =>
      cases move with
      | report device request => exact Core.clock_sendAsync session.core device request
      | receive text => exact Core.clock_receive setup session.core text
      | request label device request budget =>
          rw [perform, request_eq, core_carryOn]
          exact Core.clock_sendSync session.core device request session.now budget
      | shutdown label => exact clock_shutdownCore setup (session.start label).2 _
      | abort label =>
          simp only [perform, Session.abort]
          split
          · exact (Correlated.apart_giveUp session _).clock_eq
          · rfl
      | poll tag =>
          simp only [perform, poll]
          split <;> rfl
      | _ => cases concerned

theorem clock_run (setup : Setup σ) (session : Session σ) (moves : List (Move σ)) :
    (run setup session moves).core.clock = session.core.clock := by
  induction moves generalizing session with
  | nil => rfl
  | cons move rest ih => exact (ih _).trans (clock_perform setup session move)

/-! ## The end finds the link closed -/

/--
The link is closed, or the core has neither ended nor begun to.  A drain that belongs to the
pool alone does not count as a beginning.
-/
def EndsClosed (session : Session σ) : Prop :=
  session.phase = .closed ∨
    (session.ended = false ∧ ∀ entry ∈ session.drains, entry.2.ofCore = false)

theorem endsClosed_new (setup : Setup σ) (world : σ) : (new setup world).EndsClosed :=
  .inr ⟨rfl, nofun⟩

theorem EndsClosed.closed (endsClosed : session.EndsClosed) (ended : session.ended = true) :
    session.phase = .closed := by
  rcases endsClosed with closed | ⟨goesOn, -⟩
  · exact closed
  · cases ended.symm.trans goesOn

theorem phase_shutdownCore (setup : Setup σ) (session : Session σ) (tag : Option Tag) :
    (session.shutdownCore setup tag).2.phase = .closed := by
  have closed := (Core.shutdownLink_eq setup session.core).2.2
  unfold shutdownCore
  generalize session.core.shutdownLink setup = shut at closed
  rcases shut with ⟨_ | _, core⟩
  · exact closed
  · unfold drainPool
    dsimp only
    split <;> exact closed

theorem phase_perform_shutdown (label : String) :
    (session.perform setup (.shutdown label)).phase = .closed :=
  phase_shutdownCore setup (session.start label).2 (some (session.start label).1)

theorem phase_perform_of_closed (closed : session.phase = .closed) (move : Move σ) :
    (session.perform setup move).phase = .closed :=
  (still_perform closed move).closed closed

/--
Whatever a session does, it only ends when its link is closed.  The shutdown that ends it
closes the link in its first step.
-/
theorem EndsClosed.perform (endsClosed : session.EndsClosed) (move : Move σ) :
    (session.perform setup move).EndsClosed := by
  rcases endsClosed with closed | ⟨goesOn, others⟩
  · exact .inl (phase_perform_of_closed closed move)
  · by_cases leaves : move.leavesDrains = true
    · have kept : (session.perform setup move).drains = session.drains ∧
          (session.perform setup move).ended = session.ended := drains_perform_of_leaves leaves
      exact .inr ⟨kept.2.trans goesOn, kept.1 ▸ others⟩
    · cases move with
      | shutdown label => exact .inl (phase_perform_shutdown label)
      | shutdownPool label grace =>
          refine .inr ?_
          simp only [Session.perform, shutdownPool, reportShut, drainPool]
          split
          · exact ⟨(Bool.or_false _).trans goesOn, others⟩
          · refine ⟨goesOn, fun entry inside => ?_⟩
            rcases List.mem_append.mp inside with before | added
            · exact others entry before
            · rw [List.mem_singleton.mp added]
      | abort label =>
          refine .inr ?_
          simp only [Session.perform, Session.abort]
          split
          · exact ⟨goesOn, fun entry inside => others entry (List.mem_of_mem_filter inside)⟩
          · exact ⟨goesOn, others⟩
      | endDrains =>
          simp only [Session.perform, endDrains, List.partition_eq_filter_filter]
          refine .inr ⟨Bool.or_eq_false_iff.mpr ⟨goesOn, ?_⟩, fun entry inside => ?_⟩
          · refine List.any_eq_false.mpr fun entry inside => ?_
            rw [others entry (List.mem_of_mem_filter inside)]
            exact Bool.false_ne_true
          · exact others entry (List.mem_of_mem_filter inside)
      | _ => exact absurd rfl leaves

theorem EndsClosed.run (endsClosed : session.EndsClosed) (moves : List (Move σ)) :
    (run setup session moves).EndsClosed := by
  induction moves generalizing session with
  | nil => exact endsClosed
  | cons move rest ih => exact ih (endsClosed.perform move)

/-! ## A shutdown that nobody gives up -/

/--
The core has ended, or will within the grace.  In the second case a drain that nobody can
give up is on its way, with a deadline that is near enough.
-/
def EndsWithin (session : Session σ) (grace : Duration) : Prop :=
  session.ended = true ∨ ∃ tasks deadline, (none, ⟨tasks, deadline, true⟩) ∈ session.drains ∧
    deadline ≤ session.now + grace.nanoseconds

theorem endsWithin_shutdownCore (waits : (session.shutdownCore setup none).1 = false) :
    (session.shutdownCore setup none).2.EndsWithin setup.options.drainTimeout := by
  unfold shutdownCore at waits ⊢
  generalize session.core.shutdownLink setup = shut at waits
  rcases shut with ⟨_ | _, core⟩
  · cases waits
  · unfold drainPool at waits ⊢
    dsimp only at waits ⊢
    split at waits
    · cases waits
    · rename_i working
      rw [if_neg working]
      exact .inr ⟨_, _, List.mem_append_right _ (List.mem_singleton.mpr rfl), le_rfl⟩

theorem ended_perform_of_ended (ended : session.ended = true) (move : Move σ) :
    (session.perform setup move).ended = true := by
  by_cases leaves : move.leavesDrains = true
  · have kept : (session.perform setup move).ended = session.ended :=
      (drains_perform_of_leaves leaves).2
    exact kept.trans ended
  · cases move with
    | shutdown label =>
        simp only [Session.perform, shutdown, reportShut, shutdownCore, drainPool]
        split
        · exact ended
        · split
          · exact Bool.or_eq_true_iff.mpr (.inl ended)
          · exact ended
    | shutdownPool label grace =>
        simp only [Session.perform, shutdownPool, reportShut, drainPool]
        split
        · exact Bool.or_eq_true_iff.mpr (.inl ended)
        · exact ended
    | abort label =>
        simp only [Session.perform, Session.abort]
        split <;> exact ended
    | endDrains => exact Bool.or_eq_true_iff.mpr (.inl ended)
    | _ => exact absurd rfl leaves

/--
A drain without a tag goes on until it is over.  There is no label by which anybody could
cancel it.
-/
theorem drain_perform {drain : Drain} (drains : (none, drain) ∈ session.drains)
    (ofCore : drain.ofCore = true) (move : Move σ) :
    (session.perform setup move).ended = true ∨
      (none, drain) ∈ (session.perform setup move).drains := by
  by_cases leaves : move.leavesDrains = true
  · have kept : (session.perform setup move).drains = session.drains :=
      (drains_perform_of_leaves leaves).1
    exact .inr (kept ▸ drains)
  · refine Decidable.or_iff_not_imp_left.mpr fun goesOn => ?_
    cases move with
    | shutdown label =>
        simp only [Session.perform, shutdown, reportShut, shutdownCore, drainPool]
        split
        · exact drains
        · split
          · exact drains
          · exact List.mem_append_left _ drains
    | shutdownPool label grace =>
        simp only [Session.perform, shutdownPool, reportShut, drainPool]
        split
        · exact drains
        · exact List.mem_append_left _ drains
    | abort label =>
        simp only [Session.perform, Session.abort]
        split
        · exact List.mem_filter.mpr ⟨drains, decide_eq_true (Option.some_ne_none _).symm⟩
        · exact drains
    | endDrains =>
        simp only [Session.perform, endDrains, List.partition_eq_filter_filter] at goesOn ⊢
        cases spent : session.drainIsOver drain with
        | true =>
            refine absurd (Bool.or_eq_true_iff.mpr (.inr (List.any_eq_true.mpr ?_))) goesOn
            exact ⟨(none, drain), List.mem_filter.mpr ⟨drains, spent⟩, ofCore⟩
        | false => exact List.mem_filter.mpr ⟨drains, congrArg Bool.not spent⟩
    | _ => exact absurd rfl leaves

theorem EndsWithin.perform {grace : Duration} (endsWithin : session.EndsWithin grace)
    (move : Move σ) : (session.perform setup move).EndsWithin grace := by
  rcases endsWithin with ended | ⟨tasks, deadline, drains, soon⟩
  · exact .inl (ended_perform_of_ended ended move)
  · refine (drain_perform drains rfl move).imp_right fun goesOn => ?_
    exact ⟨tasks, deadline, goesOn,
      soon.trans (Nat.add_le_add_right (now_perform_le move) grace.nanoseconds)⟩

/--
When the grace has passed the core has ended.  The drain is over by then, be it that the
tasks have ended or that they are abandoned.
-/
theorem EndsWithin.ended {grace : Duration} (endsWithin : session.EndsWithin grace) :
    (session.advance grace).endDrains.1.ended = true := by
  rcases endsWithin with ended | ⟨tasks, deadline, drains, soon⟩
  · exact Bool.or_eq_true_iff.mpr (.inl ended)
  · have elapsed : (session.advance grace).drainIsOver ⟨tasks, deadline, true⟩ = true :=
      Bool.or_eq_true_iff.mpr (.inr (decide_eq_true soon))
    simp only [endDrains, List.partition_eq_filter_filter]
    refine Bool.or_eq_true_iff.mpr (.inr (List.any_eq_true.mpr ?_))
    exact ⟨(none, ⟨tasks, deadline, true⟩), List.mem_filter.mpr ⟨drains, elapsed⟩, rfl⟩

end

end Session
end DeviceLink
