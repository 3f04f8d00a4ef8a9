import DeviceLink.Proofs.Registry.History
import DeviceLink.Proofs.Run

namespace DeviceLink

/-!
How a registry changes under the occurrences of a history.  There are a few changes that
happen at once, and what they keep or bring about is kept or brought about by any number
of them, one after the other.  `Change` relates two registries by the occurrences
between them, and it is built like a list.  Coherence, the growth of tokens and the
verdicts on handles are each proved for a single change, and then hold of every `Change`
by induction.
-/

namespace Registry

/-- Entries have at most been taken away.  Those that are left stand in their old order. -/
structure Within (before after : Registry) : Prop where
  capacity_eq : after.capacity = before.capacity
  nextToken_eq : after.nextToken = before.nextToken
  entries_sublist : after.entries.Sublist before.entries

variable {registry : Registry}

theorem within_refl (registry : Registry) : Within registry registry := ⟨rfl, rfl, .refl _⟩

theorem within_deliver (registry : Registry) (reply : Reply) :
    Within registry (registry.deliver reply).2 := by
  unfold deliver
  split
  · exact within_refl registry
  · exact ⟨rfl, rfl, List.filter_sublist⟩

theorem within_remove (registry : Registry) (messageId : UInt32) :
    Within registry (registry.remove messageId).2 := by
  unfold remove
  split
  · exact within_refl registry
  · exact ⟨rfl, rfl, List.filter_sublist⟩

theorem within_clear (registry : Registry) : Within registry registry.clear.2 :=
  ⟨rfl, rfl, List.nil_sublist _⟩

theorem within_drop (registry : Registry) (token : Nat) :
    Within registry (registry.drop token) := by
  cases found : registry.handle? token with
  | none =>
      have kept : registry.drop token = registry := by simp only [drop, found]
      rw [kept]
      exact within_refl registry
  | some handle =>
      rw [drop_eq found]
      rcases within_remove registry handle.messageId with ⟨capacity_eq, nextToken_eq, fewer⟩
      exact ⟨capacity_eq, nextToken_eq, fewer⟩

theorem register_eq_ok {messageId : UInt32} {token : Nat} {next : Registry}
    (registered : registry.register messageId = .ok (token, next)) :
    registry.isFull = false ∧ registry.contains messageId = false ∧
      token = registry.nextToken ∧ next.capacity = registry.capacity ∧
      next.nextToken = registry.nextToken + 1 ∧
      next.entries = registry.entries ++ [⟨messageId, token⟩] := by
  unfold register at registered
  split at registered
  · cases registered
  · split at registered
    · cases registered
    · rename_i room free
      cases registered
      exact ⟨Bool.eq_false_iff.mpr room, Bool.eq_false_iff.mpr free, rfl, rfl, rfl, rfl⟩

/-- What does not depend on which entries there are.  Tokens only grow, and the capacity stays. -/
structure Grown (before after : Registry) : Prop where
  capacity_eq : after.capacity = before.capacity
  nextToken_le : before.nextToken ≤ after.nextToken
  /-- A bound on the number of entries is never exceeded.  Zero stands for no bound. -/
  size_le : 0 < before.capacity → before.size ≤ before.capacity → after.size ≤ after.capacity

theorem Within.grown {before after : Registry} (within : Within before after) :
    Grown before after where
  capacity_eq := within.capacity_eq
  nextToken_le := Nat.le_of_eq within.nextToken_eq.symm
  size_le := fun _ room =>
    within.capacity_eq ▸ Nat.le_trans within.entries_sublist.length_le room

theorem grown_register {messageId : UInt32} {token : Nat} {next : Registry}
    (registered : registry.register messageId = .ok (token, next)) : Grown registry next := by
  rcases register_eq_ok registered with ⟨room, -, -, capacity_eq, nextToken_eq, entries_eq⟩
  refine ⟨capacity_eq, Nat.le_of_lt (nextToken_eq ▸ Nat.lt_succ_self _), fun limited _ => ?_⟩
  rw [isFull, decide_eq_true limited, Bool.true_and, decide_eq_false_iff_not, Nat.not_le] at room
  rw [capacity_eq, size, entries_eq, List.length_append]
  exact room

theorem Grown.trans {before between after : Registry} (first : Grown before between)
    (second : Grown between after) : Grown before after where
  capacity_eq := second.capacity_eq.trans first.capacity_eq
  nextToken_le := Nat.le_trans first.nextToken_le second.nextToken_le
  size_le := fun limited room =>
    second.size_le (first.capacity_eq ▸ limited) (first.size_le limited room)


inductive Change : Registry → List Occurrence → Registry → Prop
  | nothing (registry : Registry) : Change registry [] registry
  | waited (registry : Registry) (wait : Wait) : Change registry [.waited wait] registry
  | registered {registry next : Registry} {messageId : UInt32} {token : Nat}
      (registered : registry.register messageId = .ok (token, next)) :
      Change registry [.registered token messageId] next
  | replied (registry : Registry) (reply : Reply) :
      Change registry [.replied reply] (registry.deliver reply).2
  | removed (registry : Registry) (messageId : UInt32) :
      Change registry [.removed messageId] (registry.remove messageId).2
  | cleared (registry : Registry) : Change registry [.cleared] registry.clear.2
  /--
  A handle that goes gives up its message id, whoever waits for that now.  The id may be
  that of another registration by now.
  -/
  | gone {registry : Registry} {handle : Handle} {ending : Occurrence}
      (found : registry.handle? handle.token = some handle)
      (ends : ending.ended? = some handle.token) :
      Change registry [ending, .removed handle.messageId] (registry.drop handle.token)
  | andThen {before between after : Registry} {earlier later : List Occurrence}
      (first : Change before earlier between) (second : Change between later after) :
      Change before (earlier ++ later) after

section

variable {ending : Occurrence} {token : Nat} (ends : ending.ended? = some token)
  {messageId : UInt32}

include ends

theorem ended_of_gone : ended [ending, .removed messageId] = [token] :=
  List.filterMap_cons_some ends

theorem standing_of_gone {tokens : List Nat} :
    standing tokens [ending, .removed messageId] = tokens.filter (· ≠ token) :=
  Occurrence.stand_of_ended ends

theorem heeded_of_gone {handle : Handle} :
    heeded handle [ending, .removed messageId] = handle.answer messageId .abandoned := by
  cases ending with
  | dropped | resolved => rfl
  | registered | replied | removed | cleared | waited => cases ends

end

namespace Change

variable {before after : Registry} {notes : List Occurrence}

theorem coherent (change : Change before notes after) (coherent : before.Coherent) :
    after.Coherent := by
  induction change with
  | nothing | waited => exact coherent
  | registered registered => exact coherent.register registered
  | replied registry reply => exact coherent.deliver reply
  | removed registry messageId =>
      rw [coherent.remove_eq]
      exact coherent.answer _ _ nofun
  | cleared registry => exact coherent.clear
  | gone found ends => exact coherent.drop _
  | andThen first second ihFirst ihSecond => exact ihSecond (ihFirst coherent)

theorem grown (change : Change before notes after) : before.Grown after := by
  induction change with
  | nothing registry | waited registry => exact (Registry.within_refl registry).grown
  | registered registered => exact Registry.grown_register registered
  | replied registry reply => exact (Registry.within_deliver registry reply).grown
  | removed registry messageId => exact (Registry.within_remove registry messageId).grown
  | cleared registry => exact (Registry.within_clear registry).grown
  | gone found ends => exact (Registry.within_drop _ _).grown
  | andThen first second ihFirst ihSecond => exact ihFirst.trans ihSecond

/-- The handles of the registry are those that stand.  So they can be told from the history. -/
theorem tokens_eq (change : Change before notes after) (coherent : before.Coherent) :
    after.handles.map Handle.token = standing (before.handles.map Handle.token) notes := by
  induction change with
  | nothing | waited => rfl
  | registered registered =>
      rw [Registry.handles_of_register registered, List.map_append]
      rfl
  | replied registry reply =>
      rw [coherent.deliver_eq]
      exact Registry.tokens_answer _ _ _
  | removed registry messageId =>
      rw [coherent.remove_eq]
      exact Registry.tokens_answer _ _ _
  | cleared registry =>
      rw [coherent.clear_handles, List.map_map]
      exact List.map_congr_left fun handle _ => Handle.token_fill _ handle
  | gone found ends =>
      rw [coherent.tokens_drop]
      exact (standing_of_gone ends).symm
  | andThen first second ihFirst ihSecond =>
      rw [ihSecond (first.coherent coherent), ihFirst coherent]
      exact List.foldl_append.symm

/--
A handle that stays becomes what the history makes of it.  Nothing but the history matters
to it.
-/
theorem handle? (change : Change before notes after) (coherent : before.Coherent)
    {token : Nat} {handle : Handle} (found : before.handle? token = some handle)
    (stays : token ∉ ended notes) : after.handle? token = some (heeded handle notes) := by
  induction change generalizing handle with
  | nothing | waited => exact found
  | registered registered =>
      rw [Registry.handle?, Registry.handles_of_register registered, List.find?_append,
        ← Registry.handle?, found]
      rfl
  | replied registry reply =>
      rw [coherent.deliver_eq, Registry.handle?_answer, found]
      rfl
  | removed registry messageId =>
      rw [coherent.remove_eq, Registry.handle?_answer, found]
      rfl
  | cleared registry =>
      rw [Registry.handle?, coherent.clear_handles, List.find?_map]
      simp only [Function.comp_def, Handle.token_fill]
      rw [← Registry.handle?, found]
      rfl
  | gone other ends =>
      rw [ended_of_gone ends, List.mem_singleton] at stays
      rw [coherent.handle?_drop other stays, found, heeded_of_gone ends]
      rfl
  | andThen first second ihFirst ihSecond =>
      rw [ended_append, List.mem_append, not_or] at stays
      rw [heeded_append]
      exact ihSecond (first.coherent coherent) (ihFirst coherent found stays.1) stays.2

theorem token_of_registered (change : Change before notes after) {token : Nat}
    {messageId : UInt32} (opens : .registered token messageId ∈ notes) :
    before.nextToken ≤ token := by
  induction change with
  | nothing => cases opens
  | waited | replied | removed | cleared => cases List.mem_singleton.mp opens
  | registered registered =>
      cases List.mem_singleton.mp opens
      exact Nat.le_of_eq (Registry.register_eq_ok registered).2.2.1.symm
  | gone found ends =>
      rcases List.mem_pair.mp opens with rfl | same
      · cases ends
      · cases same
  | andThen first second ihFirst ihSecond =>
      rcases List.mem_append.mp opens with early | late
      · exact ihFirst early
      · exact Nat.le_trans first.grown.nextToken_le (ihSecond late)

/--
A new handle becomes what has followed its registration.  What was before does not count for
it.
-/
theorem handle?_registered (change : Change before notes after) (coherent : before.Coherent)
    {earlier later : List Occurrence} {token : Nat} {messageId : UInt32}
    (split : notes = earlier ++ .registered token messageId :: later)
    (stays : token ∉ ended later) :
    after.handle? token = some (heeded ⟨token, messageId, .waiting⟩ later) := by
  induction change generalizing earlier later with
  | nothing => exact absurd split (by simp)
  | waited | replied | removed | cleared =>
      have inside : .registered token messageId ∈ earlier ++ .registered token messageId :: later :=
        List.mem_append_right _ List.mem_cons_self
      rw [← split] at inside
      cases List.mem_singleton.mp inside
  | registered registered =>
      cases earlier with
      | nil =>
          cases split
          refine ((coherent.register registered).handle?_eq_some).mpr ⟨?_, rfl⟩
          exact Registry.handles_of_register registered ▸
            List.mem_append_right _ List.mem_cons_self
      | cons first rest => exact absurd (List.cons_eq_cons.mp split).2 (by simp)
  | gone found ends =>
      have inside : .registered token messageId ∈ earlier ++ .registered token messageId :: later :=
        List.mem_append_right _ List.mem_cons_self
      rw [← split] at inside
      rcases List.mem_pair.mp inside with rfl | same
      · cases ends
      · cases same
  | andThen first second ihFirst ihSecond =>
      rcases Run.split_append split with ⟨between, rfl, rfl⟩ | ⟨between, rfl, rfl⟩
      · rw [ended_append, List.mem_append, not_or] at stays
        rw [heeded_append]
        exact second.handle? (first.coherent coherent) (ihFirst coherent rfl stays.1) stays.2
      · exact ihSecond (first.coherent coherent) rfl stays

/-- A handle that has a reply keeps it until it goes.  No occurrence can take it away. -/
theorem result?_of_filled (change : Change before notes after) (coherent : before.Coherent)
    {token : Nat}
    {handle : Handle} (found : before.handle? token = some handle) {reply : Reply}
    (filled : handle.slot = .filled reply) (stays : token ∉ ended notes) (wait : Wait)
    (own : wait.token = token) (now : Nat) : wait.result? after now = some (.ok reply) := by
  rw [Wait.result?_eq (own ▸ change.handle? coherent found stays), verdict?_heeded, filled]
  rfl

/-- What has ended is gone.  Its token does not come back. -/
theorem absent_of_ended (change : Change before notes after) (coherent : before.Coherent)
    {token : Nat} (ends : token ∈ ended notes) :
    token < after.nextToken ∧ token ∉ after.handles.map Handle.token := by
  induction change with
  | nothing | waited | registered | replied | removed | cleared => cases ends
  | gone found ending =>
      rw [ended_of_gone ending, List.mem_singleton] at ends
      rcases Registry.mem_of_handle? found with ⟨inside, -⟩
      rw [ends, (Registry.within_drop _ _).nextToken_eq, coherent.tokens_drop]
      refine ⟨coherent.tokens_lt _ inside, fun there => ?_⟩
      exact of_decide_eq_true (List.mem_filter.mp there).2 rfl
  | andThen first second ihFirst ihSecond =>
      rw [ended_append] at ends
      rcases List.mem_append.mp ends with early | late
      · rcases ihFirst coherent early with ⟨below, absent⟩
        refine ⟨Nat.lt_of_lt_of_le below second.grown.nextToken_le, fun there => ?_⟩
        -- A handle that is gone does not come back, since new ones have new tokens.
        rw [second.tokens_eq (first.coherent coherent)] at there
        rcases mem_standing there with old | ⟨messageId, opens⟩
        · exact absent old
        · exact Nat.not_le_of_gt below (second.token_of_registered opens)
      · exact ihSecond (first.coherent coherent) late

end Change

end Registry
end DeviceLink
