import DeviceLink.Proofs.Registry.Lookup

namespace DeviceLink

/-!
Histories of a registry.  A history tells everything that matters to its handles, and
what a handle holds, and what a wait on it ends with, can be read off what has occurred
since its registration.  `heeded` follows a handle through a list of occurrences, and
`standing` tells which handles are there after them.  The verdict on a handle is the
first decision for its message id; whatever comes after that makes no difference.
-/

namespace Registry

inductive Occurrence
  | registered (token : Nat) (messageId : UInt32)
  /--
  A reply came in, whether or not anybody awaited it.  It decides for whoever waits for its
  message id.
  -/
  | replied (reply : Reply)
  /--
  The entry of a message id was given up, if there was one.  Whoever has it learns that no
  reply will come.
  -/
  | removed (messageId : UInt32)
  | cleared
  | waited (wait : Wait)
  | dropped (token : Nat)
  | resolved (token : Nat) (now : Nat) (result : Except Failure Reply)

namespace Occurrence

/-- The handle that is gone from now on.  Only drops and the ends of waits have one. -/
def ended? : Occurrence → Option Nat
  | dropped token => some token
  | resolved token _ _ => some token
  | _ => none

/-- The result of the wait that ends.  Other occurrences have none. -/
def result? : Occurrence → Option (Except Failure Reply)
  | resolved _ _ result => some result
  | _ => none

/-- The handles that there are after it.  They are those before it, with one more or one less. -/
def stand (tokens : List Nat) : Occurrence → List Nat
  | registered token _ => tokens ++ [token]
  | dropped token => tokens.filter (· ≠ token)
  | resolved token _ _ => tokens.filter (· ≠ token)
  | _ => tokens

/--
What an occurrence decides for a handle that waits for a message id.  It is a reply, or that
there will be none.
-/
def decision? (messageId : UInt32) : Occurrence → Option (Except Failure Reply)
  | replied reply => if reply.messageId = messageId then some (.ok reply) else none
  | removed other => if other = messageId then some (.error .closed) else none
  | cleared => some (.error .closed)
  | _ => none

/-- What a handle becomes by it.  One that has been decided for stays as it is. -/
def heed (handle : Handle) : Occurrence → Handle
  | replied reply => handle.answer reply.messageId (.filled reply)
  | removed messageId => handle.answer messageId .abandoned
  | cleared => handle.fill .abandoned
  | _ => handle

end Occurrence

/-- The handles that have been dropped, or whose waits have ended.  Each is in it once at most. -/
def ended (past : List Occurrence) : List Nat := past.filterMap Occurrence.ended?

/--
The handles that are left of some, with those opened since.  Their order is that of the
registrations.
-/
def standing (tokens : List Nat) (later : List Occurrence) : List Nat :=
  later.foldl Occurrence.stand tokens

end Registry

/-! ## What a handle says -/

/-- The result that a slot has, whatever the time.  One that waits has none. -/
def Slot.verdict? : Slot → Option (Except Failure Reply)
  | waiting => none
  | filled reply => some (.ok reply)
  | abandoned => some (.error .closed)

theorem Slot.verdict?_eq_none {slot : Slot} : slot.verdict? = none ↔ slot = .waiting := by
  cases slot <;> simp [verdict?]

/--
A wait ends with what its handle says, or else when its time is up.  The handle goes before
the time.
-/
theorem Wait.result?_eq {wait : Wait} {registry : Registry} {handle : Handle}
    (found : registry.handle? wait.token = some handle) (now : Nat) :
    wait.result? registry now = handle.slot.verdict?.or
      (if wait.deadline ≤ now then some (.error (.timeout handle.messageId wait.budget))
        else none) := by
  rw [Wait.result?, found]
  cases stage : handle.slot <;> simp only [Slot.verdict?, stage, Option.none_or, Option.some_or]

namespace Handle

variable {messageId : UInt32} {slot : Slot} {handle : Handle}

theorem verdict?_fill :
    (handle.fill slot).slot.verdict? = handle.slot.verdict?.or slot.verdict? := by
  unfold fill
  cases stage : handle.slot <;> simp only [stage, Slot.verdict?, Option.none_or, Option.some_or]

theorem verdict?_answer :
    (handle.answer messageId slot).slot.verdict? =
      handle.slot.verdict?.or (if handle.messageId = messageId then slot.verdict? else none) := by
  unfold answer
  split
  · exact verdict?_fill
  · exact (Option.or_none).symm

theorem messageId_fill : (handle.fill slot).messageId = handle.messageId := by
  unfold fill
  split <;> rfl

theorem messageId_answer : (handle.answer messageId slot).messageId = handle.messageId := by
  unfold answer
  split
  · exact messageId_fill
  · rfl

end Handle

namespace Registry

namespace Occurrence

variable (handle : Handle) (occurrence : Occurrence)

theorem messageId_heed : (occurrence.heed handle).messageId = handle.messageId := by
  cases occurrence with
  | replied | removed => exact Handle.messageId_answer
  | cleared => exact Handle.messageId_fill
  | registered | waited | dropped | resolved => rfl

/--
The first occurrence that decides anything for a handle decides for good.  That makes the
result a matter of the history.
-/
theorem verdict?_heed :
    (occurrence.heed handle).slot.verdict? =
      handle.slot.verdict?.or (occurrence.decision? handle.messageId) := by
  cases occurrence with
  | replied reply =>
      refine Handle.verdict?_answer.trans ?_
      simp only [decision?, Slot.verdict?, eq_comm]
  | removed messageId =>
      refine Handle.verdict?_answer.trans ?_
      simp only [decision?, Slot.verdict?, eq_comm]
  | cleared => exact Handle.verdict?_fill
  | registered | waited | dropped | resolved => exact Option.or_none.symm

end Occurrence

/--
The entry of a handle is there as long as its slot says nothing.  So entries can be told
from slots.
-/
theorem Coherent.mem_entries_iff {registry : Registry} (coherent : registry.Coherent)
    {token : Nat} {handle : Handle}
    (found : registry.handle? token = some handle) :
    ⟨handle.messageId, token⟩ ∈ registry.entries ↔ handle.slot.verdict? = none := by
  rcases mem_of_handle? found with ⟨inside, rfl⟩
  rw [coherent.mem_entries]
  constructor
  · rintro ⟨other, there, pending⟩
    rcases (Handle.pending?_eq_some other).mp pending with ⟨waits, same⟩
    rw [coherent.eq_of_token_eq inside there (congrArg Entry.token same), waits]
    rfl
  · intro silent
    exact ⟨handle, inside,
      (Handle.pending?_eq_some handle).mpr ⟨Slot.verdict?_eq_none.mp silent, rfl⟩⟩

/-- What a handle has become after some occurrences.  They heed one occurrence after the other. -/
def heeded (handle : Handle) (past : List Occurrence) : Handle :=
  past.foldl Occurrence.heed handle

section

variable (handle : Handle) (past : List Occurrence)

theorem heeded_append (later : List Occurrence) :
    heeded handle (past ++ later) = heeded (heeded handle past) later := List.foldl_append

theorem messageId_heeded : (heeded handle past).messageId = handle.messageId := by
  induction past generalizing handle with
  | nil => rfl
  | cons first rest ih => exact (ih _).trans (first.messageId_heed handle)

theorem verdict?_heeded :
    (heeded handle past).slot.verdict? =
      handle.slot.verdict?.or (past.findSome? (Occurrence.decision? handle.messageId)) := by
  induction past generalizing handle with
  | nil => exact Option.or_none.symm
  | cons first rest ih =>
      have rest_eq : heeded handle (first :: rest) = heeded (first.heed handle) rest := rfl
      rw [rest_eq, ih, first.messageId_heed, first.verdict?_heed, Option.or_assoc,
        List.findSome?_cons]
      cases first.decision? handle.messageId <;> rfl

end

/-! Handles that stand. -/

theorem ended_append (earlier later : List Occurrence) :
    ended (earlier ++ later) = ended earlier ++ ended later := List.filterMap_append

theorem unended_of_split {past earlier later : List Occurrence} {note : Occurrence}
    (split : past = earlier ++ note :: later) {token : Nat} (unended : token ∉ ended past) :
    token ∉ ended later := by
  intro ends
  rw [split, ended_append] at unended
  refine unended (List.mem_append_right _ ?_)
  rcases List.mem_filterMap.mp ends with ⟨ending, inside, same⟩
  exact List.mem_filterMap.mpr ⟨ending, List.mem_cons_of_mem _ inside, same⟩

theorem Occurrence.stand_of_ended {ending : Occurrence} {token : Nat}
    (ends : ending.ended? = some token) {tokens : List Nat} :
    ending.stand tokens = tokens.filter (· ≠ token) := by
  cases ending with
  | dropped | resolved =>
      cases ends
      rfl
  | registered | replied | removed | cleared | waited => cases ends

theorem Occurrence.stand_perm {first second : List Nat} (same : first.Perm second)
    (note : Occurrence) : (note.stand first).Perm (note.stand second) := by
  cases note with
  | registered => exact same.append_right _
  | dropped | resolved => exact same.filter _
  | replied | removed | cleared | waited => exact same

theorem standing_perm {first second : List Nat} (same : first.Perm second)
    (later : List Occurrence) : (standing first later).Perm (standing second later) := by
  induction later generalizing first second with
  | nil => exact same
  | cons note rest ih => exact ih (note.stand_perm same)

/--
Whoever has a handle had it before, or it has been registered since.  There is no other way
to come by one.
-/
theorem mem_standing {tokens : List Nat} {later : List Occurrence} {token : Nat}
    (stands : token ∈ standing tokens later) :
    token ∈ tokens ∨ ∃ messageId, .registered token messageId ∈ later := by
  induction later generalizing tokens with
  | nil => exact .inl stands
  | cons note rest ih =>
      rcases ih stands with there | ⟨messageId, opens⟩
      · cases note with
        | registered other messageId =>
            rcases List.mem_append.mp there with old | new
            · exact .inl old
            · rw [List.mem_singleton.mp new]
              exact .inr ⟨messageId, List.mem_cons_self⟩
        | dropped | resolved => exact .inl (List.mem_filter.mp there).1
        | replied | removed | cleared | waited => exact .inl there
      · exact .inr ⟨messageId, List.mem_cons_of_mem _ opens⟩

end Registry
end DeviceLink
