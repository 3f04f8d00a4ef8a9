import DeviceLink.Proofs.Desk.Owners

namespace DeviceLink
namespace Desk

open Registry (Occurrence)

/-!
The waits on the handles of a registry.  A look at a wait ends it exactly if it has a
result, and to end every wait that can end is to look at one after the other.  So what
settling reports is what single looks would report, in the order of the deadlines.  A
look that finds nothing changes nothing, and a result that is found belongs to a handle
that is still there.
-/

variable {desk : Desk} {past : List Occurrence}

theorem seen?_eq (sound : desk.Sound) {label : String} {wait : Wait}
    (inside : (label, wait) ∈ desk.waits) :
    desk.seen? wait.token =
      (wait.result? desk.registry desk.now).map fun result => (wait, result) := by
  cases seen : desk.seen? wait.token with
  | none =>
      have missed := List.findSome?_eq_none_iff.mp seen _ inside
      rw [if_pos rfl, Option.map_eq_none_iff] at missed
      rw [missed]
      rfl
  | some found =>
      rcases found with ⟨other, result⟩
      rcases token_of_seen? seen with ⟨name, there, same, finished⟩
      have distinct := (List.nodup_append.mp sound.owned_nodup).2.1
      cases List.inj_on_of_nodup_map distinct there inside same
      rw [finished]
      rfl

/--
A look at a wait ends it exactly if it has a result.  The result is shown, and the handle
goes with the wait.
-/
theorem poll_eq (sound : desk.Sound) {label : String} {wait : Wait}
    (inside : (label, wait) ∈ desk.waits) :
    desk.perform (.poll wait.token) =
        (match wait.result? desk.registry desk.now with
        | some _ => desk.leave wait.token
        | none => desk) ∧
      desk.observe (.poll wait.token) =
        match wait.result? desk.registry desk.now with
        | some result => .resolved wait.token desk.now result :: givenUp desk.registry wait.token
        | none => [] := by
  have seen := seen?_eq sound inside
  cases finished : wait.result? desk.registry desk.now with
  | none =>
      rw [finished, Option.map_none] at seen
      simp only [perform, observe, seen, and_self]
  | some result =>
      rw [finished, Option.map_some] at seen
      simp only [perform, observe, seen, and_self]

/-- Whatever waits has been told to wait.  There is no other way to begin a wait. -/
theorem waited_perform (waited : ∀ entry ∈ desk.waits, .waited entry.2 ∈ past) (move : Move) :
    ∀ entry ∈ (desk.perform move).waits, .waited entry.2 ∈ past ++ desk.observe move := by
  have left : ∀ entry ∈ desk.waits, .waited entry.2 ∈ past ++ desk.observe move :=
    fun entry inside => List.mem_append_left _ (waited entry inside)
  cases move with
  | wait label span =>
      simp only [perform, Desk.wait, observe] at left ⊢
      cases held : desk.held? label with
      | none => exact fun entry inside => List.mem_append_left _ (waited entry inside)
      | some token =>
          intro entry inside
          rcases Agenda.mem_insert.mp inside with rfl | old
          · exact List.mem_append_right _ List.mem_cons_self
          · exact List.mem_append_left _ (waited entry old)
  | register messageId label =>
      simp only [perform, Desk.register]
      split <;> exact left
  | deliver | remove | clear | advance => exact left
  | drop label =>
      simp only [perform, Desk.drop]
      split <;> exact left
  | poll token =>
      simp only [perform]
      split
      · exact fun entry inside => left entry (List.mem_filter.mp inside).1
      · exact left
  | cancel token =>
      simp only [perform]
      split
      · exact fun entry inside => left entry (List.mem_filter.mp inside).1
      · exact left

/-! ## The end of a wait -/

theorem not_resolved_givenUp (registry : Registry) (other token now : Nat)
    (result : Except Failure Reply) :
    .resolved token now result ∉ givenUp registry other := by
  unfold givenUp
  split
  · intro inside
    cases List.mem_singleton.mp inside
  · exact List.not_mem_nil

theorem not_resolved_lettingGo (desk : Desk) (registry : Registry) (label : String)
    (token now : Nat) (result : Except Failure Reply) :
    .resolved token now result ∉ desk.lettingGo registry label := by
  unfold lettingGo
  split
  · rintro (_ | ⟨-, inside⟩)
    exact not_resolved_givenUp _ _ _ _ _ inside
  · exact List.not_mem_nil

/--
Only a look at a wait ends it with a result, and that is the first thing it shows.  What
follows in the same move comes of the handle that goes.
-/
theorem observe_resolved {move : Move} {token now : Nat} {result : Except Failure Reply}
    {before after : List Occurrence}
    (shown : desk.observe move = before ++ .resolved token now result :: after) :
    before = [] ∧ now = desk.now ∧ ∃ wait, desk.seen? token = some (wait, result) := by
  have inside : .resolved token now result ∈ desk.observe move :=
    shown ▸ List.mem_append_right _ List.mem_cons_self
  cases move with
  | register messageId label =>
      simp only [observe] at inside
      split at inside
      · rcases List.mem_cons.mp inside with first | rest
        · cases first
        · exact absurd rest (not_resolved_lettingGo _ _ _ _ _ _)
      · cases inside
  | deliver | remove | clear => cases List.mem_singleton.mp inside
  | drop label => exact absurd inside (not_resolved_lettingGo _ _ _ _ _ _)
  | wait label span =>
      simp only [observe] at inside
      split at inside
      · cases List.mem_singleton.mp inside
      · cases inside
  | advance => cases inside
  | poll other =>
      simp only [observe] at shown
      split at shown
      · rename_i seen
        cases before with
        | nil =>
            cases (List.cons_eq_cons.mp shown).1
            exact ⟨rfl, rfl, _, seen⟩
        | cons first rest =>
            have later : .resolved token now result ∈ rest ++ .resolved token now result :: after :=
              List.mem_append_right _ List.mem_cons_self
            rw [List.cons_append, List.cons_eq_cons] at shown
            rw [← shown.2] at later
            exact absurd later (not_resolved_givenUp _ _ _ _ _)
      · exact absurd shown (by simp)
  | cancel other =>
      simp only [observe] at inside
      split at inside
      · rcases List.mem_cons.mp inside with first | rest
        · cases first
        · exact absurd rest (not_resolved_givenUp _ _ _ _ _)
      · cases inside

/--
A result in the history of a run has been seen at a moment of this run.  So it can be
explained by what had occurred up to that moment.
-/
theorem split_of_resolved {moves : List Move} {earlier later : List Occurrence} {token now : Nat}
    {result : Except Failure Reply}
    (split : desk.history moves = earlier ++ .resolved token now result :: later) :
    ∃ first rest wait, moves = first ++ rest ∧ earlier = desk.history first ∧
      now = (desk.run first).now ∧ (desk.run first).seen? token = some (wait, result) := by
  rcases Run.split_history split with ⟨first, move, rest, before, after, rfl, shown, rfl⟩
  rcases observe_resolved shown with ⟨rfl, now_eq, wait, seen⟩
  exact ⟨first, move :: rest, wait, rfl, List.append_nil _, now_eq, seen⟩

/-! ## Ending every wait that can end -/

theorem endOne?_eq_none :
    desk.endOne? = none ↔ ∀ entry ∈ desk.waits, entry.2.result? desk.registry desk.now = none := by
  rw [endOne?, List.findSome?_eq_none_iff]
  exact forall₂_congr fun entry _ => Option.map_eq_none_iff

theorem endOne?_eq_some {next : Desk} {label : String} {result : Except Failure Reply}
    (ends : desk.endOne? = some (next, (label, result))) :
    ∃ wait, (label, wait) ∈ desk.waits ∧ wait.result? desk.registry desk.now = some result ∧
      next = desk.leave wait.token := by
  rcases List.exists_of_findSome?_eq_some ends with ⟨⟨name, wait⟩, inside, found⟩
  rcases Option.map_eq_some_iff.mp found with ⟨_, finished, same⟩
  cases same
  exact ⟨wait, inside, finished, rfl⟩

theorem results_going (registry : Registry) (token now : Nat) (result : Except Failure Reply) :
    (.resolved token now result :: givenUp registry token).filterMap Occurrence.result? =
      [result] := by
  unfold givenUp
  split <;> rfl

theorem settleFor_eq_run (sound : desk.Sound) (count : Nat) :
    ∃ tokens : List Nat, (settleFor count desk).1 = desk.run (tokens.map .poll) ∧
      (settleFor count desk).2.map Prod.snd =
        (desk.history (tokens.map .poll)).filterMap Occurrence.result? := by
  induction count generalizing desk with
  | zero => exact ⟨[], rfl, rfl⟩
  | succ count ih =>
      rw [settleFor]
      cases ends : desk.endOne? with
      | none => exact ⟨[], rfl, rfl⟩
      | some found =>
          rcases found with ⟨next, label, result⟩
          rcases endOne?_eq_some ends with ⟨wait, inside, finished, rfl⟩
          rcases poll_eq sound inside with ⟨performed, shown⟩
          rw [finished] at performed shown
          dsimp only at performed shown
          rcases ih (performed ▸ sound_perform sound (.poll wait.token)) with
            ⟨tokens, reached, results⟩
          have history_eq : desk.history ((wait.token :: tokens).map .poll) =
              (.resolved wait.token desk.now result :: givenUp desk.registry wait.token) ++
                (desk.leave wait.token).history (tokens.map .poll) := by
            rw [← shown, ← performed]
            rfl
          refine ⟨wait.token :: tokens, ?_, ?_⟩
          · rw [List.map_cons, run, List.foldl_cons, performed]
            exact reached
          · rw [history_eq, List.filterMap_append, results_going]
            exact congrArg (result :: ·) results

theorem settleFor_settled (count : Nat) (enough : desk.waits.length ≤ count) :
    ∀ entry ∈ (settleFor count desk).1.waits,
      entry.2.result? (settleFor count desk).1.registry (settleFor count desk).1.now = none := by
  induction count generalizing desk with
  | zero =>
      intro entry inside
      have empty := List.length_eq_zero_iff.mp (Nat.le_zero.mp enough)
      rw [settleFor, empty] at inside
      cases inside
  | succ count ih =>
      rw [settleFor]
      cases ends : desk.endOne? with
      | none => exact endOne?_eq_none.mp ends
      | some found =>
          rcases found with ⟨next, label, result⟩
          rcases endOne?_eq_some ends with ⟨wait, inside, finished, rfl⟩
          refine ih (Nat.le_of_lt_succ (Nat.lt_of_lt_of_le ?_ enough))
          refine List.length_filter_lt_length_iff_exists.mpr ⟨_, inside, ?_⟩
          simp

end Desk
end DeviceLink
