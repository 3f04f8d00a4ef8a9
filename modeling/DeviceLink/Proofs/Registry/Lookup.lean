import DeviceLink.Proofs.Registry.Coherence

namespace DeviceLink

/-!
What becomes of a single handle.  Operations on others leave it alone, unless it waits
for the message id that they are about; and once it has a reply it keeps that until it
is dropped.  For each operation there is one equation for the handle under a token, and
one for the question whether a message id is awaited.  They are what those need who
follow a single request through a run.
-/

namespace Handle

variable {messageId : UInt32} {slot : Slot} {handle after : Handle}

/-- A handle that has not got this has been left as it was.  It was not the one that waited. -/
theorem eq_of_answer (answered : handle.answer messageId slot = after) (other : after.slot ≠ slot) :
    handle = after := by
  by_cases same : handle.messageId = messageId
  · rw [answer_of_eq same] at answered
    cases waits : handle.pending? with
    | none =>
        rw [fill_of_pending?_eq_none waits] at answered
        exact answered
    | some entry =>
        rw [fill_of_pending?_eq_some waits] at answered
        rw [← answered] at other
        exact absurd rfl other
  · rw [answer_of_ne same] at answered
    exact answered

/-- A handle that got nothing did not wait for the message id.  It may wait for another one. -/
theorem answer_eq_self (quiet : handle.messageId = messageId → handle.slot ≠ .waiting) :
    handle.answer messageId slot = handle := by
  by_cases same : handle.messageId = messageId
  · refine answer_of_pending?_eq_none ?_
    cases waits : handle.pending? with
    | none => rfl
    | some entry => exact absurd ((pending?_eq_some handle).mp waits).1 (quiet same)
  · exact answer_of_ne same

end Handle

namespace Registry

variable (registry : Registry) (messageId : UInt32) (slot : Slot) (token : Nat)

theorem tokens_answer :
    (registry.answer messageId slot).handles.map Handle.token =
      registry.handles.map Handle.token := by
  simp only [answer, List.map_map]
  exact List.map_congr_left fun handle _ => Handle.token_answer messageId slot handle

theorem handle?_answer :
    (registry.answer messageId slot).handle? token =
      (registry.handle? token).map (Handle.answer messageId slot) := by
  simp only [handle?, answer, List.find?_map, Function.comp_def, Handle.token_answer]

theorem handle?_forget {other : Nat} (different : other ≠ token) :
    (registry.forget token).handle? other = registry.handle? other := by
  rw [forget, handle?, List.find?_filter, handle?]
  congr 1
  funext handle
  by_cases own : handle.token = other
  · simp [own, different]
  · simp [own]

variable {registry token}

theorem handle?_register_filled {next : Registry} {messageId : UInt32} {token : Nat}
    (registered : registry.register messageId = .ok (token, next)) {other : Nat} {id : UInt32}
    {reply : Reply} :
    next.handle? other = some ⟨other, id, .filled reply⟩ ↔
      registry.handle? other = some ⟨other, id, .filled reply⟩ := by
  have found : next.handle? other = (registry.handle? other).or
      (List.find? (fun handle => handle.token = other) [⟨token, messageId, .waiting⟩]) := by
    rw [handle?, handles_of_register registered, List.find?_append]
    rfl
  rw [found]
  constructor
  · intro there
    rcases Option.or_eq_some_iff.mp there with old | ⟨-, new⟩
    · exact old
    · have it := List.mem_of_find?_eq_some new
      rw [List.mem_singleton] at it
      cases it
  · intro there
    rw [there]
    rfl

/-- Only an entry that is there can be given a reply.  The token tells whose it is. -/
theorem contains_eq_true {messageId : UInt32} :
    registry.contains messageId = true ↔ ∃ token, ⟨messageId, token⟩ ∈ registry.entries := by
  rw [contains, entry?, List.find?_isSome]
  constructor
  · rintro ⟨⟨_, token⟩, inside, same⟩
    cases of_decide_eq_true same
    exact ⟨token, inside⟩
  · rintro ⟨token, inside⟩
    exact ⟨_, inside, decide_eq_true rfl⟩

theorem contains_answer (messageId : UInt32) (slot : Slot) :
    (registry.answer messageId slot).contains messageId = false := by
  refine Bool.eq_false_iff.mpr fun there => ?_
  rcases contains_eq_true.mp there with ⟨token, inside⟩
  exact of_decide_eq_true (List.mem_filter.mp inside).2 rfl

namespace Coherent

/--
What another handle becomes when a handle is dropped.  It may lose its entry if it has the
same message id.
-/
theorem handle?_drop (coherent : registry.Coherent) {handle : Handle}
    (found : registry.handle? token = some handle) {other : Nat} (different : other ≠ token) :
    (registry.drop token).handle? other =
      (registry.handle? other).map (Handle.answer handle.messageId .abandoned) := by
  rw [drop_eq found, handle?_forget _ token different, coherent.remove_eq, handle?_answer]

theorem tokens_drop (coherent : registry.Coherent) (token : Nat) :
    (registry.drop token).handles.map Handle.token =
      (registry.handles.map Handle.token).filter (· ≠ token) := by
  cases found : registry.handle? token with
  | none =>
      have kept : registry.drop token = registry := by simp only [Registry.drop, found]
      rw [kept]
      refine (List.filter_eq_self.mpr fun other inside => ?_).symm
      rcases List.mem_map.mp inside with ⟨handle, there, rfl⟩
      have missed := List.find?_eq_none.mp found handle there
      simpa using missed
  | some handle =>
      rw [drop_eq found, coherent.remove_eq, Registry.forget,
        ← tokens_answer registry handle.messageId .abandoned, List.filter_map]
      rfl

/-- A new handle has a token that no other has.  So it cannot be mistaken for an older one. -/
theorem fresh_of_register (coherent : registry.Coherent) {messageId : UInt32} {next : Registry}
    (registered : registry.register messageId = .ok (token, next)) :
    token ∉ registry.handles.map Handle.token := by
  have distinct := (coherent.register registered).tokens_nodup
  rw [handles_of_register registered, List.map_append] at distinct
  intro inside
  exact (List.nodup_append.mp distinct).2.2 _ inside _ List.mem_cons_self rfl

/--
Dropping a handle takes nothing away from one that has its reply.  Only handles that wait
can be hit.
-/
theorem handle?_drop_filled (coherent : registry.Coherent) {other : Nat}
    (different : other ≠ token) {messageId : UInt32} {reply : Reply} :
    (registry.drop token).handle? other = some ⟨other, messageId, .filled reply⟩ ↔
      registry.handle? other = some ⟨other, messageId, .filled reply⟩ := by
  cases found : registry.handle? token with
  | none =>
      have kept : registry.drop token = registry := by simp only [Registry.drop, found]
      rw [kept]
  | some handle =>
      rw [coherent.handle?_drop found different, Option.map_eq_some_iff]
      constructor
      · rintro ⟨former, there, answered⟩
        rw [there, Handle.eq_of_answer answered (by intro abandoned; cases abandoned)]
      · intro there
        exact ⟨_, there, Handle.answer_of_pending?_eq_none rfl⟩

/-- A reply finds whoever waits for its message id.  It is in that handle from then on. -/
theorem deliver_of_waiting (coherent : registry.Coherent) {handle : Handle}
    (inside : handle ∈ registry.handles) (waits : handle.slot = .waiting) {reply : Reply}
    (same : handle.messageId = reply.messageId) : (registry.deliver reply).1 = true := by
  have pending : handle.pending? = some ⟨handle.messageId, handle.token⟩ :=
    (Handle.pending?_eq_some handle).mpr ⟨waits, rfl⟩
  have there := coherent.mem_entries.mpr ⟨handle, inside, pending⟩
  unfold Registry.deliver
  cases found : registry.entry? reply.messageId with
  | none =>
      have missed := List.find?_eq_none.mp found _ there
      exact absurd (decide_eq_true same) missed
  | some entry =>
      rcases mem_of_entry? found with ⟨known, named⟩
      have it := coherent.eq_of_messageId_eq there known (same.trans named.symm)
      have owner := coherent.handle?_eq_some.mpr ⟨inside, rfl⟩
      dsimp only
      rw [← it, owner]
      rfl

/--
Where nobody waits for its message id, a reply changes nothing.  The answer is that it was
not delivered.
-/
theorem deliver_of_nobody (coherent : registry.Coherent) {reply : Reply}
    (nobody : ∀ handle ∈ registry.handles, handle.messageId = reply.messageId →
      handle.slot ≠ .waiting) : registry.deliver reply = (false, registry) := by
  unfold Registry.deliver
  cases found : registry.entry? reply.messageId with
  | none => rfl
  | some entry =>
      rcases mem_of_entry? found with ⟨known, named⟩
      rcases coherent.mem_entries.mp known with ⟨handle, inside, pending⟩
      rcases (Handle.pending?_eq_some handle).mp pending with ⟨waits, rfl⟩
      exact absurd waits (nobody handle inside named)

/-- When a handle goes, no entry of its message id is left.  That is so whoever had it. -/
theorem contains_drop (coherent : registry.Coherent) {token : Nat} {handle : Handle}
    (found : registry.handle? token = some handle) :
    (registry.drop token).contains handle.messageId = false := by
  rw [drop_eq found, coherent.remove_eq]
  exact contains_answer handle.messageId .abandoned

theorem handle?_of_entry (coherent : registry.Coherent) {entry : Entry}
    (inside : entry ∈ registry.entries) :
    registry.handle? entry.token = some ⟨entry.token, entry.messageId, .waiting⟩ := by
  rcases coherent.mem_entries.mp inside with ⟨⟨token, messageId, slot⟩, there, pending⟩
  rcases (Handle.pending?_eq_some _).mp pending with ⟨waits, rfl⟩
  cases waits
  exact coherent.handle?_eq_some.mpr ⟨there, rfl⟩

theorem deliver_eq_contains (coherent : registry.Coherent) (reply : Reply) :
    (registry.deliver reply).1 = registry.contains reply.messageId := by
  unfold Registry.deliver contains
  cases found : registry.entry? reply.messageId with
  | none => rfl
  | some entry =>
      rcases mem_of_entry? found with ⟨inside, -⟩
      dsimp only
      rw [coherent.handle?_of_entry inside]
      rfl

/-- Two entries on behalf of one handle would be the same.  A handle has one message id. -/
theorem entry_tokens_nodup (coherent : registry.Coherent) :
    (registry.entries.map Entry.token).Nodup := by
  refine List.Nodup.map_on (fun first inside second there same => ?_)
    (List.Nodup.of_map _ coherent.ids_nodup)
  have both := coherent.handle?_of_entry inside
  rw [same, coherent.handle?_of_entry there] at both
  exact coherent.eq_of_messageId_eq inside there
    (congrArg Handle.messageId (Option.some.inj both)).symm

end Coherent

end Registry
end DeviceLink
