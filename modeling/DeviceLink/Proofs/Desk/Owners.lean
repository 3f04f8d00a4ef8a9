import DeviceLink.Proofs.Desk.Run

namespace DeviceLink
namespace Desk

open Registry (Occurrence Change standing standing_perm)

/-!
Who has the handles of a registry.  Each one is kept under one label or waited on once,
and a move opens and ends just those handles that its history tells of.  So each handle
comes to one end, and what ends it can be named.  `Sound` says that owners and handles
correspond.  The history names the handles that a move opens and ends, and what is known
of lists of such names shows that each handle is ended at most once and by its owner.
-/

variable {desk : Desk} {registry : Registry}

/--
The handles that are kept under a label, and those that are waited on.  No handle is in both
places.
-/
def owned (desk : Desk) : List Nat :=
  desk.held.map Prod.snd ++ desk.waits.map fun entry => entry.2.token

structure Sound (desk : Desk) : Prop where
  coherent : desk.registry.Coherent
  labels_nodup : (desk.held.map Prod.fst).Nodup
  owned_perm : desk.owned.Perm (desk.registry.handles.map Handle.token)

theorem Sound.owned_nodup (sound : desk.Sound) : desk.owned.Nodup :=
  sound.owned_perm.nodup_iff.mpr sound.coherent.tokens_nodup

theorem Sound.handle?_of_owned (sound : desk.Sound) {token : Nat} (inside : token ∈ desk.owned) :
    ∃ handle, desk.registry.handle? token = some handle := by
  rcases List.mem_map.mp (sound.owned_perm.mem_iff.mp inside) with ⟨handle, there, same⟩
  exact ⟨handle, sound.coherent.handle?_eq_some.mpr ⟨there, same⟩⟩

/-! ## Labels and waits -/

theorem mem_held (labels : (desk.held.map Prod.fst).Nodup) {label : String} {token : Nat} :
    desk.held? label = some token ↔ (label, token) ∈ desk.held := by
  constructor
  · intro held
    rcases Option.map_eq_some_iff.mp held with ⟨⟨other, _⟩, found, rfl⟩
    have same : other = label := by simpa using List.find?_some found
    exact same ▸ List.mem_of_find?_eq_some found
  · intro inside
    cases found : desk.held.find? fun entry => entry.1 = label with
    | none => exact absurd (decide_eq_true rfl) (List.find?_eq_none.mp found _ inside)
    | some entry =>
        have same : entry.1 = label := by simpa using List.find?_some found
        have it := List.inj_on_of_nodup_map labels (List.mem_of_find?_eq_some found) inside same
        rw [held?, found, it]
        rfl

/-- A label gives up its own handle, and no other.  Labels and handles correspond to each other. -/
theorem tokens_release (labels : (desk.held.map Prod.fst).Nodup)
    (distinct : (desk.held.map Prod.snd).Nodup) (label : String) :
    (desk.release label).held.map Prod.snd =
      (desk.held.map Prod.snd).filter (· ∉ (desk.held? label).toList) := by
  rw [release, List.filter_map]
  refine congrArg (List.map Prod.snd) (List.filter_congr fun entry inside => ?_)
  refine decide_eq_decide.mpr (not_congr ?_)
  rw [Option.mem_toList, mem_held labels]
  constructor
  · rintro rfl
    exact inside
  · intro there
    exact congrArg Prod.fst (List.inj_on_of_nodup_map distinct inside there rfl)

theorem owned_release (labels : (desk.held.map Prod.fst).Nodup) (distinct : desk.owned.Nodup)
    (label : String) :
    (desk.release label).owned = desk.owned.filter (· ∉ (desk.held? label).toList) := by
  have apart := (List.nodup_append.mp distinct).2.2
  have others : ∀ token ∈ desk.waits.map (fun entry => entry.2.token),
      token ∉ (desk.held? label).toList := by
    intro token inside there
    have held := List.mem_map_of_mem (f := Prod.snd)
      ((mem_held labels).mp (Option.mem_toList.mp there))
    exact apart token held token inside rfl
  rw [owned, tokens_release labels (List.nodup_append.mp distinct).1, owned, List.filter_append,
    List.filter_eq_self.mpr fun token inside => decide_eq_true (others token inside)]
  rfl

/-- A wait that is finished is one of those that are going on.  Its label is known as well. -/
theorem token_of_seen? {token : Nat} {wait : Wait} {result : Except Failure Reply}
    (seen : desk.seen? token = some (wait, result)) :
    ∃ label, (label, wait) ∈ desk.waits ∧ wait.token = token ∧
      wait.result? desk.registry desk.now = some result := by
  rcases List.exists_of_findSome?_eq_some seen with ⟨⟨label, other⟩, inside, found⟩
  dsimp only at found
  split at found
  · rename_i own
    rcases Option.map_eq_some_iff.mp found with ⟨_, finished, same⟩
    cases same
    exact ⟨label, inside, own, finished⟩
  · cases found

theorem owned_leave (distinct : desk.owned.Nodup) {token : Nat}
    (waits : token ∈ desk.waits.map fun entry => entry.2.token) :
    (desk.leave token).owned = desk.owned.filter (· ≠ token) := by
  have others : ∀ other ∈ desk.held.map Prod.snd, other ≠ token := fun other inside =>
    (List.nodup_append.mp distinct).2.2 other inside token waits
  rw [owned, owned, List.filter_append,
    List.filter_eq_self.mpr fun other inside => decide_eq_true (others other inside),
    List.filter_map]
  rfl

/-! ## Moves on the registry -/

theorem standing_givenUp (tokens : List Nat) (registry : Registry) (token : Nat) :
    standing tokens (givenUp registry token) = tokens := by
  unfold givenUp
  split <;> rfl

theorem standing_going {ending : Occurrence} {token : Nat} (ends : ending.ended? = some token)
    (tokens : List Nat) :
    standing tokens (ending :: givenUp registry token) = tokens.filter (· ≠ token) := by
  have first : standing tokens (ending :: givenUp registry token) =
      standing (ending.stand tokens) (givenUp registry token) := rfl
  rw [first, standing_givenUp, Occurrence.stand_of_ended ends]

theorem standing_lettingGo (tokens : List Nat) (label : String) :
    standing tokens (desk.lettingGo registry label) =
      tokens.filter (· ∉ (desk.held? label).toList) := by
  unfold lettingGo
  cases desk.held? label with
  | none =>
      exact (List.filter_eq_self.mpr fun token _ => decide_eq_true List.not_mem_nil).symm
  | some old =>
      simp only [Option.toList_some, List.mem_singleton]
      exact standing_going rfl tokens

theorem change_going {token : Nat} {handle : Handle} (found : registry.handle? token = some handle)
    {ending : Occurrence} (ends : ending.ended? = some token) :
    Change registry (ending :: givenUp registry token) (registry.drop token) := by
  rcases Registry.mem_of_handle? found with ⟨-, rfl⟩
  rw [givenUp, found]
  exact .gone found ends

theorem change_letGo {label : String}
    (known : ∀ old, desk.held? label = some old → ∃ handle, registry.handle? old = some handle) :
    Change registry (desk.lettingGo registry label) (desk.letGo registry label) := by
  unfold lettingGo letGo
  cases held : desk.held? label with
  | none => exact .nothing registry
  | some old =>
      rcases known old held with ⟨handle, found⟩
      exact change_going found rfl

theorem Sound.handle?_of_waits (sound : desk.Sound) {label : String} {wait : Wait}
    (inside : (label, wait) ∈ desk.waits) :
    ∃ handle, desk.registry.handle? wait.token = some handle :=
  sound.handle?_of_owned (List.mem_append_right _
    (List.mem_map_of_mem (f := fun entry : String × Wait => entry.2.token) inside))

theorem Sound.handle?_of_held (sound : desk.Sound) {label : String} {token : Nat}
    (held : desk.held? label = some token) :
    ∃ handle, desk.registry.handle? token = some handle :=
  sound.handle?_of_owned (List.mem_append_left _
    (List.mem_map_of_mem (f := Prod.snd) ((mem_held sound.labels_nodup).mp held)))

/--
Whatever a move does to the registry is told by its history.  It is the single place where
moves and changes of the registry meet.
-/
theorem change_perform (sound : desk.Sound) (move : Move) :
    Change desk.registry (desk.observe move) (desk.perform move).registry := by
  cases move with
  | register messageId label =>
      simp only [perform, observe]
      cases registered : desk.registry.register messageId with
      | error failure =>
          simp only [Desk.register, registered]
          exact .nothing _
      | ok result =>
          rcases result with ⟨fresh, registry⟩
          rw [registry_register registered]
          refine Change.andThen (.registered registered) (change_letGo fun old held => ?_)
          rcases sound.handle?_of_held held with ⟨handle, found⟩
          exact ⟨handle, Change.handle? (.registered registered) sound.coherent found
            List.not_mem_nil⟩
  | deliver reply => exact .replied _ reply
  | remove messageId => exact .removed _ messageId
  | clear => exact .cleared _
  | drop label =>
      simp only [perform, observe]
      rw [registry_drop]
      exact change_letGo fun old held => sound.handle?_of_held held
  | wait label span =>
      simp only [perform, Desk.wait, observe]
      cases desk.held? label with
      | none => exact .nothing _
      | some token => exact .waited _ _
  | advance span => exact .nothing _
  | poll token =>
      simp only [perform, observe]
      cases seen : desk.seen? token with
      | none => exact .nothing _
      | some result =>
          rcases token_of_seen? seen with ⟨label, inside, rfl, -⟩
          rcases sound.handle?_of_waits inside with ⟨handle, found⟩
          exact change_going found rfl
  | cancel token =>
      simp only [perform, observe]
      split
      · rename_i awaited
        rcases List.any_eq_true.mp awaited with ⟨⟨label, wait⟩, inside, own⟩
        cases of_decide_eq_true own
        rcases sound.handle?_of_waits inside with ⟨handle, found⟩
        exact change_going found rfl
      · exact .nothing _

theorem owned_register (sound : desk.Sound) {messageId : UInt32} {label : String} {fresh : Nat}
    {registry : Registry} (registered : desk.registry.register messageId = .ok (fresh, registry)) :
    (desk.register messageId label).2.owned.Perm
      (standing desk.owned (.registered fresh messageId :: desk.lettingGo registry label)) := by
  have unheld : fresh ∉ (desk.held? label).toList := by
    intro there
    have held := List.mem_map_of_mem (f := Prod.snd)
      ((mem_held sound.labels_nodup).mp (Option.mem_toList.mp there))
    refine sound.coherent.fresh_of_register registered (sound.owned_perm.mem_iff.mp ?_)
    exact List.mem_append_left _ held
  have owned_eq : (desk.register messageId label).2.owned =
      fresh :: (desk.release label).owned := by
    simp only [Desk.register, registered]
    rfl
  have first : standing desk.owned
      (.registered fresh messageId :: desk.lettingGo registry label) =
        standing (desk.owned ++ [fresh]) (desk.lettingGo registry label) := rfl
  have stays : [fresh].filter (· ∉ (desk.held? label).toList) = [fresh] := by
    rw [List.filter_singleton, decide_eq_true unheld]
    rfl
  rw [owned_eq, owned_release sound.labels_nodup sound.owned_nodup, first,
    standing_lettingGo, List.filter_append, stays]
  exact (List.perm_append_singleton _ _).symm

/--
The handle moves from those that are kept to those that are waited on.  Nobody else is
affected by that.
-/
theorem owned_wait (sound : desk.Sound) (label : String) (span : Duration) :
    (desk.wait label span).2.owned.Perm desk.owned := by
  have distinct := sound.owned_nodup
  unfold Desk.wait
  cases held : desk.held? label with
  | none => exact .refl _
  | some token =>
      have left := owned_release sound.labels_nodup distinct label
      have inside : token ∈ desk.owned := List.mem_append_left _
        (List.mem_map_of_mem (f := Prod.snd) ((mem_held sound.labels_nodup).mp held))
      simp only [held, Option.toList_some, List.mem_singleton] at left
      refine List.Perm.trans ?_ (List.perm_cons_erase inside).symm
      rw [distinct.erase_eq_filter]
      have waits := (Agenda.perm_insert (fun entry => entry.2.deadline)
        (label, (⟨token, desk.now + span.nanoseconds, span⟩ : Wait)) desk.waits).map
          fun entry => entry.2.token
      refine (waits.append_left _).trans (List.perm_middle.trans (.cons _ (.of_eq ?_)))
      exact left.trans (List.filter_congr fun other _ => Bool.eq_iff_iff.mpr (by simp))

theorem owned_perform (sound : desk.Sound) (move : Move) :
    (desk.perform move).owned.Perm (standing desk.owned (desk.observe move)) := by
  have distinct := sound.owned_nodup
  cases move with
  | register messageId label =>
      simp only [perform, observe]
      cases registered : desk.registry.register messageId with
      | error failure =>
          simp only [Desk.register, registered]
          exact .refl _
      | ok result => exact owned_register sound registered
  | deliver | remove | clear | advance => exact .refl _
  | drop label =>
      simp only [perform, observe]
      rw [standing_lettingGo]
      refine .of_eq (Eq.trans ?_ (owned_release sound.labels_nodup distinct label))
      unfold Desk.drop
      cases held : desk.held? label with
      | none => rw [owned_release sound.labels_nodup distinct, held]; simp
      | some token => rfl
  | wait label span =>
      have silent : standing desk.owned (desk.observe (.wait label span)) = desk.owned := by
        rw [observe]
        split <;> rfl
      rw [silent]
      exact owned_wait sound label span
  | poll other =>
      simp only [perform, observe]
      cases seen : desk.seen? other with
      | none => exact .refl _
      | some result =>
          rcases token_of_seen? seen with ⟨label, inside, rfl, -⟩
          rw [standing_going rfl]
          exact .of_eq (owned_leave distinct (List.mem_map_of_mem inside))
  | cancel other =>
      simp only [perform, observe]
      split
      · rename_i awaited
        rcases List.any_eq_true.mp awaited with ⟨entry, inside, own⟩
        rw [standing_going rfl]
        refine .of_eq (owned_leave distinct (List.mem_map.mpr ⟨entry, inside, ?_⟩))
        exact of_decide_eq_true own
      · exact .refl _

/-! ## What every move keeps -/

theorem labels_release (labels : (desk.held.map Prod.fst).Nodup) (label : String) :
    (((desk.release label).held).map Prod.fst).Nodup :=
  (List.filter_sublist.map _).nodup labels

theorem labels_perform (labels : (desk.held.map Prod.fst).Nodup) (move : Move) :
    ((desk.perform move).held.map Prod.fst).Nodup := by
  cases move with
  | register messageId label =>
      simp only [perform, Desk.register]
      split
      · exact labels
      · refine List.nodup_cons.mpr ⟨?_, labels_release labels label⟩
        intro inside
        rcases List.mem_map.mp inside with ⟨entry, there, same⟩
        exact of_decide_eq_true (List.mem_filter.mp there).2 same
  | deliver | remove | clear | advance => exact labels
  | drop label =>
      simp only [perform, Desk.drop]
      split
      · exact labels
      · exact labels_release labels label
  | wait label span =>
      simp only [perform, Desk.wait]
      split
      · exact labels
      · exact labels_release labels label
  | poll token =>
      simp only [perform]
      split <;> exact labels
  | cancel token =>
      simp only [perform]
      split <;> exact labels

theorem sound_new (capacity : Nat) : (new capacity).Sound where
  coherent := Registry.coherent_new capacity
  labels_nodup := List.nodup_nil
  owned_perm := .nil

theorem sound_perform (sound : desk.Sound) (move : Move) : (desk.perform move).Sound where
  coherent := (change_perform sound move).coherent sound.coherent
  labels_nodup := labels_perform sound.labels_nodup move
  owned_perm := by
    rw [(change_perform sound move).tokens_eq sound.coherent]
    exact (owned_perform sound move).trans (standing_perm sound.owned_perm _)

theorem sound_run (sound : desk.Sound) (moves : List Move) :
    (desk.run moves).Sound ∧
      Change desk.registry (desk.history moves) (desk.run moves).registry := by
  induction moves generalizing desk with
  | nil => exact ⟨sound, .nothing _⟩
  | cons move rest ih =>
      rcases ih (sound_perform sound move) with ⟨after, change⟩
      exact ⟨after, (change_perform sound move).andThen change⟩

end Desk
end DeviceLink
