import DeviceLink.Registry
import Mathlib.Data.List.Nodup

namespace DeviceLink

/-!
The entries of a registry and its handles.  The entries are those of the handles that
wait, in the same order, and no two of them wait for the same message id.  So what an
operation does can be said of the handles alone: a handle is answered by its message id,
although the entry behind it leads to a token.  `Coherent` states this, and each
operation is described by what it does to the handles of a coherent registry.  That is
shorter than the operation itself, and the lemmas about single handles start from it.
-/

namespace Handle

/-- The entry of a handle, as long as it waits.  A handle that waits no longer has none. -/
def pending? (handle : Handle) : Option Entry :=
  match handle.slot with
  | .waiting => some ⟨handle.messageId, handle.token⟩
  | _ => none

/-- What a handle gets if it still waits.  Otherwise it keeps what it has. -/
def fill (slot : Slot) (handle : Handle) : Handle :=
  match handle.slot with
  | .waiting => { handle with slot := slot }
  | _ => handle

/--
What a handle gets if it still waits for a message id.  Handles of other message ids are
left alone.
-/
def answer (messageId : UInt32) (slot : Slot) (handle : Handle) : Handle :=
  if handle.messageId = messageId then handle.fill slot else handle

section

variable (messageId : UInt32) (slot : Slot) (handle : Handle)

theorem pending?_eq_some {entry : Entry} :
    handle.pending? = some entry ↔
      handle.slot = .waiting ∧ entry = ⟨handle.messageId, handle.token⟩ := by
  unfold pending?
  cases handle.slot <;> simp [eq_comm]

@[simp] theorem token_fill : (handle.fill slot).token = handle.token := by
  unfold fill
  split <;> rfl

@[simp] theorem token_answer : (handle.answer messageId slot).token = handle.token := by
  unfold answer
  split
  · exact token_fill slot handle
  · rfl

/-- Nothing waits once its slot holds something else.  So its entry is gone. -/
theorem pending?_fill (settles : slot ≠ .waiting) : (handle.fill slot).pending? = none := by
  cases stage : handle.slot with
  | waiting => simp only [fill, pending?, stage]
  | filled reply => simp only [fill, pending?, stage]
  | abandoned => simp only [fill, pending?, stage]

variable {handle slot messageId}

theorem fill_of_pending?_eq_none (spent : handle.pending? = none) : handle.fill slot = handle := by
  cases stage : handle.slot with
  | waiting => simp only [pending?, stage, reduceCtorEq] at spent
  | filled reply => simp only [fill, stage]
  | abandoned => simp only [fill, stage]

theorem answer_of_pending?_eq_none (spent : handle.pending? = none) :
    handle.answer messageId slot = handle := by
  unfold answer
  rw [fill_of_pending?_eq_none spent, ite_self]

theorem answer_of_ne (other : handle.messageId ≠ messageId) :
    handle.answer messageId slot = handle := if_neg other

theorem answer_of_eq (same : handle.messageId = messageId) :
    handle.answer messageId slot = handle.fill slot := if_pos same

theorem fill_of_pending?_eq_some {entry : Entry} (waits : handle.pending? = some entry) :
    handle.fill slot = { handle with slot := slot } := by
  unfold fill
  rw [((pending?_eq_some handle).mp waits).1]

end

end Handle

namespace Registry

structure Coherent (registry : Registry) : Prop where
  entries_eq : registry.entries = registry.handles.filterMap Handle.pending?
  ids_nodup : (registry.entries.map Entry.messageId).Nodup
  tokens_nodup : (registry.handles.map Handle.token).Nodup
  tokens_lt : ∀ handle ∈ registry.handles, handle.token < registry.nextToken

/-- Whoever waits for a message id gets this.  There is one such handle at most. -/
def answer (registry : Registry) (messageId : UInt32) (slot : Slot) : Registry :=
  { registry with
    entries := registry.entries.filter fun entry => entry.messageId ≠ messageId
    handles := registry.handles.map (Handle.answer messageId slot) }

/-- Let go of a handle and leave the entries alone.  It is the first half of a drop. -/
def forget (registry : Registry) (token : Nat) : Registry :=
  { registry with handles := registry.handles.filter fun handle => handle.token ≠ token }

theorem mem_of_handle? {registry : Registry} {token : Nat} {handle : Handle}
    (found : registry.handle? token = some handle) :
    handle ∈ registry.handles ∧ handle.token = token :=
  ⟨List.mem_of_find?_eq_some found, by simpa using List.find?_some found⟩

theorem mem_of_entry? {registry : Registry} {messageId : UInt32} {entry : Entry}
    (found : registry.entry? messageId = some entry) :
    entry ∈ registry.entries ∧ entry.messageId = messageId :=
  ⟨List.mem_of_find?_eq_some found, by simpa using List.find?_some found⟩

theorem coherent_new (capacity : Nat) : (new capacity).Coherent where
  entries_eq := rfl
  ids_nodup := List.nodup_nil
  tokens_nodup := List.nodup_nil
  tokens_lt := nofun

theorem handles_of_register {registry next : Registry} {messageId : UInt32} {token : Nat}
    (registered : registry.register messageId = .ok (token, next)) :
    next.handles = registry.handles ++ [⟨token, messageId, .waiting⟩] := by
  unfold register at registered
  split at registered
  · cases registered
  · split at registered
    · cases registered
    · cases registered
      rfl

/--
Dropping a handle gives up its message id, whoever waits for that now.  It is said in terms
of the two halves.
-/
theorem drop_eq {registry : Registry} {token : Nat} {handle : Handle}
    (found : registry.handle? token = some handle) :
    registry.drop token = (registry.remove handle.messageId).2.forget token := by
  have entry_eq : Registry.entry? (registry.forget token) handle.messageId =
      registry.entry? handle.messageId := rfl
  rw [forget] at entry_eq
  simp only [drop, found, remove, entry_eq]
  cases registry.entry? handle.messageId with
  | none => rfl
  | some entry =>
      simp only [settle, forget, List.filter_map, Function.comp_def]
      congr 3
      funext other
      split <;> rfl

section

variable {registry : Registry} (empty : registry.entries = [])

include empty

theorem deliver_of_empty (reply : Reply) : registry.deliver reply = (false, registry) := by
  simp only [deliver, entry?, empty, List.find?_nil]

theorem drop_of_empty (token : Nat) : (registry.drop token).entries = [] := by
  unfold drop
  split
  · exact empty
  · simp only [remove, entry?, empty, List.find?_nil]

end

namespace Coherent

variable {registry : Registry}

theorem mem_entries (coherent : registry.Coherent) {entry : Entry} :
    entry ∈ registry.entries ↔ ∃ handle ∈ registry.handles, handle.pending? = some entry := by
  rw [coherent.entries_eq, List.mem_filterMap]

theorem entries_eq_nil_iff (coherent : registry.Coherent) :
    registry.entries = [] ↔ ∀ handle ∈ registry.handles, handle.pending? = none := by
  rw [coherent.entries_eq, List.filterMap_eq_nil_iff]

theorem eq_of_token_eq (coherent : registry.Coherent) {first second : Handle}
    (inside : first ∈ registry.handles) (there : second ∈ registry.handles)
    (same : first.token = second.token) : first = second :=
  List.inj_on_of_nodup_map coherent.tokens_nodup inside there same

theorem eq_of_messageId_eq (coherent : registry.Coherent) {first second : Entry}
    (inside : first ∈ registry.entries) (there : second ∈ registry.entries)
    (same : first.messageId = second.messageId) : first = second :=
  List.inj_on_of_nodup_map coherent.ids_nodup inside there same

theorem handle?_eq_some (coherent : registry.Coherent) {token : Nat} {handle : Handle} :
    registry.handle? token = some handle ↔ handle ∈ registry.handles ∧ handle.token = token := by
  constructor
  · exact mem_of_handle?
  · rintro ⟨inside, rfl⟩
    cases found : registry.handle? handle.token with
    | none =>
        have missed := List.find?_eq_none.mp found handle inside
        exact absurd (decide_eq_true rfl) missed
    | some other =>
        rcases mem_of_handle? found with ⟨there, same⟩
        rw [coherent.eq_of_token_eq there inside same]

/-- Where nobody waits for a message id, nobody gets anything.  The registry is as it was. -/
theorem answer_of_entry?_eq_none (coherent : registry.Coherent) {messageId : UInt32}
    (missed : registry.entry? messageId = none) (slot : Slot) :
    registry.answer messageId slot = registry := by
  have others : ∀ entry ∈ registry.entries, entry.messageId ≠ messageId := by
    intro entry inside same
    exact List.find?_eq_none.mp missed entry inside (decide_eq_true same)
  have entries_eq :
      registry.entries.filter (fun entry => entry.messageId ≠ messageId) = registry.entries :=
    List.filter_eq_self.mpr fun entry inside => decide_eq_true (others entry inside)
  have handles_eq : registry.handles.map (Handle.answer messageId slot) = registry.handles := by
    refine (List.map_congr_left fun handle inside => ?_).trans (List.map_id _)
    cases waits : handle.pending? with
    | none => exact Handle.answer_of_pending?_eq_none waits
    | some entry =>
        have other := others entry (coherent.mem_entries.mpr ⟨handle, inside, waits⟩)
        rw [((Handle.pending?_eq_some handle).mp waits).2] at other
        exact Handle.answer_of_ne other
  simp only [answer, entries_eq, handles_eq]

/--
Taking an entry out serves the handle that waits for its message id, and no other.  This
lets one forget about entries.
-/
theorem settle_eq (coherent : registry.Coherent) {messageId : UInt32} {entry : Entry}
    (found : registry.entry? messageId = some entry) (slot : Slot) :
    registry.settle entry slot = registry.answer messageId slot := by
  rcases mem_of_entry? found with ⟨inside, same⟩
  rcases coherent.mem_entries.mp inside with ⟨owner, there, waits⟩
  have owns := ((Handle.pending?_eq_some owner).mp waits).2
  have handles_eq : ∀ handle ∈ registry.handles,
      (if handle.token = entry.token then { handle with slot := slot } else handle) =
        handle.answer messageId slot := by
    intro handle here
    by_cases own : handle.token = entry.token
    · have it : handle = owner := by
        refine coherent.eq_of_token_eq here there ?_
        rw [own, owns]
      have id_eq : handle.messageId = messageId := by rw [it, ← same, owns]
      rw [if_pos own, Handle.answer_of_eq id_eq, Handle.fill_of_pending?_eq_some (it ▸ waits)]
    · rw [if_neg own]
      cases other : handle.pending? with
      | none => exact (Handle.answer_of_pending?_eq_none other).symm
      | some second =>
          -- Whoever else waits has another message id, since no two entries share one.
          have second_eq := ((Handle.pending?_eq_some handle).mp other).2
          refine (Handle.answer_of_ne fun id_eq => own ?_).symm
          have again := coherent.eq_of_messageId_eq
            (coherent.mem_entries.mpr ⟨handle, here, other⟩) inside
            (by rw [second_eq, same]; exact id_eq)
          rw [← again, second_eq]
  simp only [settle, answer, same]
  rw [List.map_congr_left handles_eq]

theorem deliver_eq (coherent : registry.Coherent) (reply : Reply) :
    (registry.deliver reply).2 = registry.answer reply.messageId (.filled reply) := by
  unfold deliver
  split
  · rename_i missed
    exact (coherent.answer_of_entry?_eq_none missed _).symm
  · rename_i entry found
    exact coherent.settle_eq found _

theorem remove_eq (coherent : registry.Coherent) (messageId : UInt32) :
    (registry.remove messageId).2 = registry.answer messageId .abandoned := by
  unfold remove
  split
  · rename_i missed
    exact (coherent.answer_of_entry?_eq_none missed _).symm
  · rename_i entry found
    exact coherent.settle_eq found _

theorem clear_handles (coherent : registry.Coherent) :
    registry.clear.2.handles = registry.handles.map (Handle.fill .abandoned) := by
  refine List.map_congr_left fun handle inside => ?_
  cases waits : handle.pending? with
  | some entry =>
      have there := coherent.mem_entries.mpr ⟨handle, inside, waits⟩
      have same := ((Handle.pending?_eq_some handle).mp waits).2
      rw [Handle.fill_of_pending?_eq_some waits, if_pos]
      refine List.any_eq_true.mpr ⟨entry, there, decide_eq_true ?_⟩
      rw [same]
  | none =>
      rw [Handle.fill_of_pending?_eq_none waits, if_neg]
      intro outstanding
      rcases List.any_eq_true.mp outstanding with ⟨entry, there, same⟩
      rcases coherent.mem_entries.mp there with ⟨owner, here, owns⟩
      have token_eq : owner.token = handle.token := by
        rw [← of_decide_eq_true same, ((Handle.pending?_eq_some owner).mp owns).2]
      rw [coherent.eq_of_token_eq here inside token_eq, waits] at owns
      cases owns

/-! What the operations keep. -/

theorem answer (coherent : registry.Coherent) (messageId : UInt32) (slot : Slot)
    (settles : slot ≠ .waiting) : (registry.answer messageId slot).Coherent where
  entries_eq := by
    simp only [Registry.answer, List.filterMap_map, coherent.entries_eq, List.filter_filterMap]
    refine List.filterMap_congr fun handle inside => ?_
    by_cases same : handle.messageId = messageId
    · rw [Function.comp, Handle.answer_of_eq same, Handle.pending?_fill slot handle settles]
      cases waits : handle.pending? with
      | none => rfl
      | some entry =>
          rw [((Handle.pending?_eq_some handle).mp waits).2]
          simp [same]
    · rw [Function.comp, Handle.answer_of_ne same]
      cases waits : handle.pending? with
      | none => rfl
      | some entry =>
          rw [((Handle.pending?_eq_some handle).mp waits).2]
          simp [same]
  ids_nodup := (List.filter_sublist.map _).nodup coherent.ids_nodup
  tokens_nodup := by
    have tokens_eq : Handle.token ∘ Handle.answer messageId slot = Handle.token :=
      funext fun handle => Handle.token_answer messageId slot handle
    simp only [Registry.answer, List.map_map, tokens_eq]
    exact coherent.tokens_nodup
  tokens_lt := by
    intro handle inside
    rcases List.mem_map.mp inside with ⟨former, there, rfl⟩
    rw [Handle.token_answer]
    exact coherent.tokens_lt former there

theorem deliver (coherent : registry.Coherent) (reply : Reply) :
    (registry.deliver reply).2.Coherent := by
  rw [coherent.deliver_eq]
  exact coherent.answer _ _ nofun

theorem clear (coherent : registry.Coherent) : registry.clear.2.Coherent where
  entries_eq := by
    rw [coherent.clear_handles, List.filterMap_map]
    refine (List.filterMap_eq_nil_iff.mpr fun handle _ => ?_).symm
    exact Handle.pending?_fill .abandoned handle nofun
  ids_nodup := List.nodup_nil
  tokens_nodup := by
    have tokens_eq : Handle.token ∘ Handle.fill .abandoned = Handle.token :=
      funext fun handle => Handle.token_fill .abandoned handle
    rw [coherent.clear_handles, List.map_map, tokens_eq]
    exact coherent.tokens_nodup
  tokens_lt := by
    rw [coherent.clear_handles]
    intro handle inside
    rcases List.mem_map.mp inside with ⟨former, there, rfl⟩
    rw [Handle.token_fill]
    exact coherent.tokens_lt former there

/--
A handle that no longer waits can be let go of.  The entries still are those of the handles
that wait.
-/
theorem forget (coherent : registry.Coherent) {token : Nat}
    (spent : ∀ handle ∈ registry.handles, handle.token = token → handle.pending? = none) :
    (registry.forget token).Coherent where
  entries_eq := by
    simp only [Registry.forget, coherent.entries_eq, List.filterMap_filter]
    refine List.filterMap_congr fun handle inside => ?_
    by_cases same : handle.token = token
    · simp [same, spent handle inside same]
    · simp [same]
  ids_nodup := coherent.ids_nodup
  tokens_nodup := (List.filter_sublist.map _).nodup coherent.tokens_nodup
  tokens_lt := fun handle inside => coherent.tokens_lt handle (List.mem_filter.mp inside).1

theorem drop (coherent : registry.Coherent) (token : Nat) : (registry.drop token).Coherent := by
  cases found : registry.handle? token with
  | none =>
      have kept : registry.drop token = registry := by simp only [Registry.drop, found]
      rw [kept]
      exact coherent
  | some handle =>
      rw [drop_eq found, coherent.remove_eq]
      refine (coherent.answer handle.messageId .abandoned nofun).forget fun other inside same => ?_
      rcases List.mem_map.mp inside with ⟨former, there, rfl⟩
      rw [Handle.token_answer] at same
      rcases coherent.handle?_eq_some.mp found with ⟨here, token_eq⟩
      rw [coherent.eq_of_token_eq there here (same.trans token_eq.symm),
        Handle.answer_of_eq rfl]
      exact Handle.pending?_fill _ _ nofun

/--
If no two handles have the same message id, dropping one of them is all that happens.
Nobody else can be hit by it.
-/
theorem drop_handles (coherent : registry.Coherent)
    (distinct : (registry.handles.map Handle.messageId).Nodup) (token : Nat) :
    (registry.drop token).handles = registry.handles.filter fun handle => handle.token ≠ token := by
  cases found : registry.handle? token with
  | none =>
      have kept : registry.drop token = registry := by simp only [Registry.drop, found]
      rw [kept]
      refine (List.filter_eq_self.mpr fun handle inside => ?_).symm
      have missed := List.find?_eq_none.mp found handle inside
      simpa using missed
  | some handle =>
      rcases coherent.handle?_eq_some.mp found with ⟨here, token_eq⟩
      rw [drop_eq found, coherent.remove_eq]
      simp only [Registry.forget, Registry.answer, List.filter_map, Function.comp_def,
        Handle.token_answer]
      refine (List.map_congr_left fun other inside => ?_).trans (List.map_id _)
      rcases List.mem_filter.mp inside with ⟨there, different⟩
      refine Handle.answer_of_ne fun same => of_decide_eq_true different ?_
      rw [List.inj_on_of_nodup_map distinct there here same, token_eq]

theorem register (coherent : registry.Coherent) {messageId : UInt32} {token : Nat}
    {next : Registry} (registered : registry.register messageId = .ok (token, next)) :
    next.Coherent := by
  unfold Registry.register at registered
  split at registered
  · cases registered
  · split at registered
    · cases registered
    · rename_i free
      cases registered
      exact
        { entries_eq := by
            simp only [List.filterMap_append, ← coherent.entries_eq]
            rfl
          ids_nodup := by
            rw [List.map_append]
            refine coherent.ids_nodup.append (List.nodup_singleton _) ?_
            intro taken inside same
            rcases List.mem_map.mp inside with ⟨entry, there, id_eq⟩
            rw [List.mem_singleton.mp same] at id_eq
            refine free (List.find?_isSome.mpr ⟨entry, there, decide_eq_true id_eq⟩)
          tokens_nodup := by
            rw [List.map_append]
            refine coherent.tokens_nodup.append (List.nodup_singleton _) ?_
            intro taken inside same
            rcases List.mem_map.mp inside with ⟨handle, there, token_eq⟩
            have below := coherent.tokens_lt handle there
            rw [token_eq, List.mem_singleton.mp same] at below
            exact Nat.lt_irrefl _ below
          tokens_lt := by
            intro handle inside
            rcases List.mem_append.mp inside with old | new
            · exact Nat.lt_succ_of_lt (coherent.tokens_lt handle old)
            · rw [List.mem_singleton.mp new]
              exact Nat.lt_succ_self _ }

/--
A registration under a new message id that is dropped at once leaves no handle behind.  So
it can be undone as if it had never been.
-/
theorem drop_of_register (coherent : registry.Coherent)
    (distinct : (registry.handles.map Handle.messageId).Nodup) {messageId : UInt32}
    (fresh : messageId ∉ registry.handles.map Handle.messageId) {token : Nat} {next : Registry}
    (registered : registry.register messageId = .ok (token, next)) :
    (next.drop token).handles = registry.handles := by
  have handles_eq := handles_of_register registered
  have after := coherent.register registered
  have distinct_after : (next.handles.map Handle.messageId).Nodup := by
    rw [handles_eq, List.map_append]
    exact distinct.append (List.nodup_singleton _) (List.disjoint_singleton.mpr fresh)
  have tokens := after.tokens_nodup
  rw [handles_eq, List.map_append] at tokens
  have others : ∀ handle ∈ registry.handles, handle.token ≠ token := by
    intro handle inside same
    exact (List.nodup_append.mp tokens).2.2 _ (List.mem_map_of_mem inside) _
      List.mem_cons_self same
  rw [after.drop_handles distinct_after, handles_eq, List.filter_append,
    List.filter_eq_self.mpr fun handle inside => decide_eq_true (others handle inside),
    List.filter_cons_of_neg (by simp), List.filter_nil, List.append_nil]

end Coherent

end Registry
end DeviceLink
