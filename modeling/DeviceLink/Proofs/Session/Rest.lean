import DeviceLink.Proofs.Session.Moves

namespace DeviceLink
namespace Session

variable {σ : Type}

/-!
A session settles by moves of its own: its tasks take their steps, those who have a
result take it, and everybody else whose waiting is over goes.  No time passes, and a
request that still waits afterwards would find nothing.  `Settling` says of a list of
moves that it is such a way to rest.  There is one for every session, so settling adds
nothing to what the moves of a run can do, and theorems about runs speak of settled
sessions as well.
-/

/--
Nobody who waits for a reply would find a result.  It is what a session is like once
everybody has looked.
-/
def AtRest (session : Session σ) : Prop := session.endCaller? = none

theorem atRest_iff {session : Session σ} :
    session.AtRest ↔ ∀ entry ∈ session.callers,
      entry.2.result? session.core.registry session.now = none := by
  rw [AtRest, endCaller?, List.findSome?_eq_none_iff]
  exact forall₂_congr fun entry _ => Option.map_eq_none_iff

/--
The moves that a session makes by itself.  They need nobody from outside, no frame, and no
time.
-/
def Move.isInner : Move σ → Bool
  | settleTasks => true
  | poll _ => true
  | endWatchers => true
  | endDrains => true
  | endAwaiting => true
  | _ => false

section

variable {session next : Session σ}

theorem AtRest.of_apart (rest : session.AtRest) (apart : Apart session next)
    (now_eq : next.now = session.now) : next.AtRest := by
  rw [atRest_iff] at rest ⊢
  rw [apart.callers_eq, apart.core.registry_eq, now_eq]
  exact rest

/--
The first request that has a result is one that would find it by looking.  This ties the
search through the callers to a look of one of them.
-/
theorem seen_of_endCaller? {ending : Ending} (ends : session.endCaller? = some (next, ending)) :
    ∃ wait result, session.seen? ending.tag = some (wait, result) ∧
      next = session.leave wait.token ∧ ending.result = .reply result := by
  rcases List.findSome?_eq_some_iff.mp ends with ⟨before, ⟨tag, wait⟩, after, split, found, others⟩
  rcases Option.map_eq_some_iff.mp found with ⟨result, result_eq, pair⟩
  cases pair
  refine ⟨wait, result, ?_, rfl, rfl⟩
  refine List.findSome?_eq_some_iff.mpr ⟨before, (tag, wait), after, split, ?_, ?_⟩
  · rw [if_pos rfl, result_eq]
    rfl
  · intro entry inside
    have nothing := Option.map_eq_none_iff.mp (others entry inside)
    split
    · rw [nothing]
      rfl
    · rfl

theorem length_of_endCaller? {ending : Ending}
    (ends : session.endCaller? = some (next, ending)) :
    next.callers.length < session.callers.length := by
  rcases List.exists_of_findSome?_eq_some ends with ⟨⟨tag, wait⟩, inside, found⟩
  rcases Option.map_eq_some_iff.mp found with ⟨result, -, pair⟩
  cases pair
  exact List.length_filter_lt_length_iff_exists.mpr ⟨(tag, wait), inside, by simp⟩

/--
What is reported about the end of a request.  A request that is cancelled reports nothing,
as nobody is there to hear it.
-/
def Occurrence.report? : Occurrence → Option (String × Result)
  | resolved tag _ result => some (tag.label, .reply result)
  | _ => none

/--
The first request that has a result looks first, and its result is reported first.  It is
the induction step for the list of all those who have a result.
-/
theorem reports_poll (setup : Setup σ) {ending : Ending} (tags : List Tag)
    (ends : session.endCaller? = some (next, ending)) :
    run setup session ((ending.tag :: tags).map .poll) = run setup next (tags.map .poll) ∧
      (history setup session ((ending.tag :: tags).map .poll)).filterMap Occurrence.report? =
        ending.entry :: (history setup next (tags.map .poll)).filterMap Occurrence.report? := by
  rcases seen_of_endCaller? ends with ⟨wait, result, seen, left, result_eq⟩
  have polled_eq : session.polled ending.tag = [.resolved ending.tag session.now result] := by
    simp only [polled, seen]
  have poll_eq : session.poll ending.tag = next := by
    simp only [poll, seen, left]
  constructor
  · rw [List.map_cons, run, List.foldl_cons, perform, poll_eq, run]
  · rw [List.map_cons, history, Run.history, observe, polled_eq, perform, poll_eq,
      List.filterMap_append, Ending.entry, result_eq]
    rfl

/--
Requests look for their results one after the other until none of them has any.  Each look
takes one of them away, so there are as many looks as there are results.
-/
theorem endCallersFor_run (setup : Setup σ) {count : Nat} (session : Session σ)
    (enough : session.callers.length ≤ count) :
    ∃ tags : List Tag,
      (endCallersFor count session).1 = run setup session (tags.map .poll) ∧
        (endCallersFor count session).1.now = session.now ∧
          (endCallersFor count session).1.AtRest ∧
            (endCallersFor count session).2.map Ending.entry =
              (history setup session (tags.map .poll)).filterMap Occurrence.report? := by
  induction count generalizing session with
  | zero =>
      have nobody : session.callers = [] := List.eq_nil_of_length_eq_zero (Nat.le_zero.mp enough)
      refine ⟨[], rfl, rfl, atRest_iff.mpr ?_, rfl⟩
      rw [endCallersFor, nobody]
      exact nofun
  | succ count ih =>
      cases ends : session.endCaller? with
      | none =>
          have concluded : endCallersFor (count + 1) session = (session, []) := by
            simp only [endCallersFor, ends]
          rw [concluded]
          exact ⟨[], rfl, rfl, ends, rfl⟩
      | some found =>
          rcases found with ⟨next, ending⟩
          -- Each look ends a request, so as many looks as there are requests are enough.
          have fewer := length_of_endCaller? ends
          have same_now : next.now = session.now := by
            rcases seen_of_endCaller? ends with ⟨wait, result, -, rfl, -⟩
            rfl
          have goes_on : endCallersFor (count + 1) session =
              ((endCallersFor count next).1, ending :: (endCallersFor count next).2) := by
            simp only [endCallersFor, ends]
          rcases ih next (by omega) with ⟨tags, run_eq, now_eq, rest, reports_eq⟩
          rcases reports_poll setup tags ends with ⟨run_on, reports_on⟩
          rw [goes_on]
          refine ⟨ending.tag :: tags, ?_, now_eq.trans same_now, rest, ?_⟩
          · rw [run_on]
            exact run_eq
          · rw [reports_on, ← reports_eq]
            rfl

/--
Of all that a session reports when it settles, the replies come from its requests.  The
other reports are about watchers and shutdowns.
-/
theorem reply_mem_settle_iff (setup : Setup σ) (session : Session σ) (label : String)
    (result : Except Failure Reply) :
    (label, Result.reply result) ∈ (session.settle setup).2 ↔
      (label, Result.reply result) ∈
        (endCallers { session with core := session.core.settle setup }).2.map Ending.entry := by
  have watchers : ∀ session : Session σ,
      (label, Result.reply result) ∉ session.endWatchers.2.map Ending.entry := by
    intro session inside
    rcases List.mem_map.mp inside with ⟨ending, there, same⟩
    rcases List.mem_filterMap.mp there with ⟨entry, -, ends⟩
    rcases Option.map_eq_some_iff.mp ends with ⟨connected, -, rfl⟩
    cases same
  have drains : ∀ session : Session σ, (label, Result.reply result) ∉ session.endDrains.2 := by
    intro session inside
    rcases List.mem_flatMap.mp inside with ⟨⟨tag, drain⟩, -, there⟩
    cases tag with
    | none => cases there
    | some tag => cases List.mem_singleton.mp there
  have awaiting : ∀ session : Session σ, (label, Result.reply result) ∉ session.endAwaiting.2 := by
    intro session inside
    unfold endAwaiting at inside
    split at inside
    · rcases List.mem_map.mp inside with ⟨tag, -, same⟩
      cases same
    · cases inside
  rw [settle]
  simp only [List.mem_append, drains, awaiting, or_false]
  constructor
  · intro inside
    rcases List.mem_map.mp inside with ⟨ending, there, same⟩
    rcases List.mem_merge.mp there with reply | connection
    · exact List.mem_map.mpr ⟨ending, reply, same⟩
    · exact absurd (List.mem_map.mpr ⟨ending, connection, same⟩) (watchers _)
  · intro inside
    rcases List.mem_map.mp inside with ⟨ending, there, same⟩
    exact List.mem_map.mpr ⟨ending, List.mem_merge.mpr (Or.inl there), same⟩

/--
These are moves by which a session settles.  They are the session's own, and taken together
they are the settling.
-/
structure Settling (setup : Setup σ) (session : Session σ) (moves : List (Move σ)) : Prop where
  inner : ∀ move ∈ moves, move.isInner = true
  run_eq : (session.settle setup).1 = run setup session moves
  now_eq : (session.settle setup).1.now = session.now
  atRest : (session.settle setup).1.AtRest
  /--
  The results that are reported are those of the requests that got theirs.  Each of them
  occurs in the history of these moves.
  -/
  reports : ∀ label result, (label, Result.reply result) ∈ (session.settle setup).2 ↔
    (label, Result.reply result) ∈
      (history setup session moves).filterMap Occurrence.report?

/--
A session settles by moves of its own, at once, and is at rest then.  So settling is no new
kind of move, and what holds of all runs holds of it.
-/
theorem exists_settling (setup : Setup σ) (session : Session σ) :
    ∃ moves, Settling setup session moves := by
  let worked : Session σ := { session with core := session.core.settle setup }
  rcases endCallersFor_run setup worked le_rfl with ⟨tags, run_eq, now_eq, rest, reports_eq⟩
  let ended := worked.endCallers.1
  have settle_eq : (session.settle setup).1 =
      ended.endWatchers.1.endDrains.1.endAwaiting.1 := rfl
  have apart : Apart ended (session.settle setup).1 := by
    rw [settle_eq]
    exact ((apart_endWatchers _).trans (apart_endDrains _)).trans (apart_endAwaiting _)
  have same_now : (session.settle setup).1.now = ended.now := by
    rw [settle_eq]
    unfold endAwaiting
    split <;> rfl
  refine ⟨[.settleTasks] ++ tags.map .poll ++ [.endWatchers, .endDrains, .endAwaiting], ?_⟩
  exact
    { inner := by
        intro move inside
        simp only [List.mem_append, List.mem_map, List.mem_cons, List.not_mem_nil,
          or_false] at inside
        rcases inside with (rfl | ⟨tag, -, rfl⟩) | rfl | rfl | rfl <;> rfl
      run_eq := by
        rw [run, List.foldl_append, List.foldl_append]
        exact congrArg (fun session => session.endWatchers.1.endDrains.1.endAwaiting.1) run_eq
      now_eq := same_now.trans now_eq
      atRest := rest.of_apart apart same_now
      reports := by
        intro label result
        have quiet : history setup session
            ([.settleTasks] ++ tags.map .poll ++ [.endWatchers, .endDrains, .endAwaiting]) =
              history setup worked (tags.map .poll) := by
          rw [history, Run.history_append, Run.history_append]
          exact List.append_nil _
        rw [reply_mem_settle_iff, quiet, ← reports_eq]
        rfl }

end

end Session
end DeviceLink
