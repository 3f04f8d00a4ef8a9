import DeviceLink.Proofs.Desk.Law

namespace DeviceLink

/-!
What the end of a handle takes away.  A handle that goes gives up its message id, and as
long as its own entry is there it is this one that goes with it.  But once its reply has
come in the id is free again.  Whoever registers it while the old handle is still there
can lose its entry to the end of that handle, and in no other way does the end of one
handle touch the registration of another.  `ends_confined` says so for every move of
every run.
-/

namespace Registry

/-- The entry that a registration makes.  Other occurrences make none. -/
def Occurrence.opened? : Occurrence → Option Entry
  | registered token messageId => some ⟨messageId, token⟩
  | _ => none

def opened (past : List Occurrence) : List Entry := past.filterMap Occurrence.opened?

theorem mem_opened {past : List Occurrence} {messageId : UInt32} {token : Nat} :
    ⟨messageId, token⟩ ∈ opened past ↔ .registered token messageId ∈ past := by
  constructor
  · intro inside
    rcases List.mem_filterMap.mp inside with ⟨note, there, opens⟩
    cases note with
    | registered =>
        cases opens
        exact there
    | replied | removed | cleared | waited | dropped | resolved => cases opens
  · intro inside
    exact List.mem_filterMap.mpr ⟨_, inside, rfl⟩

theorem Coherent.entries_drop {registry : Registry} (coherent : registry.Coherent) {token : Nat}
    {handle : Handle} (found : registry.handle? token = some handle) :
    (registry.drop token).entries =
      registry.entries.filter fun entry => entry.messageId ≠ handle.messageId := by
  rw [drop_eq found, coherent.remove_eq]
  rfl

end Registry

namespace Desk

open Registry (Occurrence Change ended heeded messageId_heeded mem_opened mem_of_handle? opened
  unended_of_split)

/-! ## What goes with a handle -/

section

variable {desk : Desk}

/--
How a handle registered for a message id goes with a move.  It is told what is left of the
registry when it has gone.
-/
structure Goes (desk : Desk) (move : Move) (token : Nat) (messageId : UInt32) : Prop where
  found : ∃ handle, desk.registry.handle? token = some handle ∧ handle.messageId = messageId
  /--
  It gives up its message id right after anything that the move registers.  The order
  matters where both use the same id.
  -/
  shown : ∃ registrations ending,
    (∀ note ∈ registrations, ∃ entry, note.opened? = some entry) ∧ ending.ended? = some token ∧
      desk.observe move = registrations ++ [ending, .removed messageId]
  entries_eq : (desk.perform move).registry.entries =
    (desk.registry.entries ++ opened (desk.observe move)).filter fun entry =>
      entry.messageId ≠ messageId

theorem Goes.eq_of_removed {move : Move} {token : Nat} {messageId other : UInt32}
    (goes : desk.Goes move token messageId) (shown : .removed other ∈ desk.observe move) :
    other = messageId := by
  rcases goes.shown with ⟨registrations, ending, opens, ends, observed⟩
  rw [observed] at shown
  rcases List.mem_append.mp shown with early | late
  · rcases opens _ early with ⟨_, opened⟩
    cases opened
  · rcases List.mem_pair.mp late with rfl | same
    · cases ends
    · cases same
      rfl

theorem givenUp_eq {registry : Registry} {token : Nat} {handle : Handle}
    (found : registry.handle? token = some handle) :
    givenUp registry token = [.removed handle.messageId] := by
  rw [givenUp, found]

/-- A handle that goes with a move that registers nothing.  Its end is all that there is to show. -/
theorem goes_of_shown (sound : desk.Sound) {move : Move} {token : Nat} {handle : Handle}
    (found : desk.registry.handle? token = some handle) {ending : Occurrence}
    (ends : ending.ended? = some token)
    (shown : desk.observe move = ending :: givenUp desk.registry token)
    (performed : (desk.perform move).registry = desk.registry.drop token) :
    desk.Goes move token handle.messageId := by
  rw [givenUp_eq found] at shown
  have quiet : opened [ending, .removed handle.messageId] = [] := by
    cases ending with
    | dropped | resolved => rfl
    | registered | replied | removed | cleared | waited => cases ends
  refine ⟨⟨handle, found, rfl⟩, ⟨[], ending, nofun, ends, shown⟩, ?_⟩
  rw [performed, sound.coherent.entries_drop found, shown, quiet, List.append_nil]

theorem eq_of_ended_going {registry : Registry} {ending : Occurrence} {token other : Nat}
    (ends : ending.ended? = some other) (gone : token ∈ ended (ending :: givenUp registry other)) :
    token = other := by
  rw [givenUp] at gone
  split at gone
  · rw [Registry.ended_of_gone ends] at gone
    exact List.mem_singleton.mp gone
  · rw [ended, List.filterMap_cons_some ends] at gone
    exact List.mem_singleton.mp gone

theorem ended_lettingGo {registry : Registry} {label : String} {token : Nat}
    (ends : token ∈ ended (desk.lettingGo registry label)) : desk.held? label = some token := by
  unfold lettingGo at ends
  split at ends
  · rename_i old held
    rw [held, eq_of_ended_going rfl ends]
  · cases ends

theorem ended_dropped (token : Nat) : (Occurrence.dropped token).ended? = some token := rfl

/--
The handle that the label had kept goes right after the registration.  The new one is kept
in its place.
-/
theorem goes_of_register (sound : desk.Sound) {messageId : UInt32} {label : String} {old : Nat}
    (ends : old ∈ ended (desk.observe (.register messageId label))) :
    ∃ former, desk.Goes (.register messageId label) old former := by
  cases registered : desk.registry.register messageId with
  | error failure =>
      simp only [observe, registered] at ends
      cases ends
  | ok result =>
      rcases result with ⟨fresh, registry⟩
      simp only [observe, registered] at ends
      have held : desk.held? label = some old := ended_lettingGo ends
      rcases sound.handle?_of_held held with ⟨handle, found⟩
      have stays : registry.handle? old = some handle :=
        Change.handle? (.registered registered) sound.coherent found List.not_mem_nil
      have shown : desk.observe (.register messageId label) =
          [.registered fresh messageId] ++ [.dropped old, .removed handle.messageId] := by
        simp only [observe, registered, lettingGo, held, givenUp_eq stays, List.singleton_append]
      have performed : (desk.perform (.register messageId label)).registry = registry.drop old := by
        rw [perform, registry_register registered, letGo, held]
      rcases Registry.register_eq_ok registered with ⟨-, -, -, -, -, entries_eq⟩
      refine ⟨handle.messageId, ⟨handle, found, rfl⟩, ⟨_, _, ?_, rfl, shown⟩, ?_⟩
      · intro note inside
        cases List.mem_singleton.mp inside
        exact ⟨_, rfl⟩
      · rw [performed, (sound.coherent.register registered).entries_drop stays, entries_eq, shown]
        rfl

theorem goes_of_ended (sound : desk.Sound) {move : Move} {token : Nat}
    (ends : token ∈ ended (desk.observe move)) : ∃ messageId, desk.Goes move token messageId := by
  cases move with
  | register messageId label => exact goes_of_register sound ends
  | deliver | remove | clear | advance => cases ends
  | drop label =>
      have held : desk.held? label = some token := ended_lettingGo ends
      rcases sound.handle?_of_held held with ⟨handle, found⟩
      refine ⟨_, goes_of_shown sound found (ended_dropped token) ?_ ?_⟩
      · simp only [observe, lettingGo, held]
      · simp only [perform, registry_drop, letGo, held]
  | wait label span =>
      simp only [observe] at ends
      split at ends <;> cases ends
  | poll other =>
      cases seen : desk.seen? other with
      | none =>
          simp only [observe, seen] at ends
          cases ends
      | some found =>
          rcases found with ⟨wait, result⟩
          rcases token_of_seen? seen with ⟨label, inside, rfl, -⟩
          have shown : desk.observe (.poll wait.token) =
              .resolved wait.token desk.now result :: givenUp desk.registry wait.token := by
            simp only [observe, seen]
          rw [shown] at ends
          cases eq_of_ended_going rfl ends
          rcases sound.handle?_of_waits inside with ⟨handle, found⟩
          exact ⟨_, goes_of_shown sound found rfl shown (by simp only [perform, seen, leave])⟩
  | cancel other =>
      by_cases awaited : (desk.waits.any fun entry => entry.2.token = other) = true
      · rcases List.any_eq_true.mp awaited with ⟨⟨label, wait⟩, inside, own⟩
        cases of_decide_eq_true own
        have shown : desk.observe (.cancel wait.token) =
            .dropped wait.token :: givenUp desk.registry wait.token := if_pos awaited
        rw [shown] at ends
        cases eq_of_ended_going rfl ends
        rcases sound.handle?_of_waits inside with ⟨handle, found⟩
        refine ⟨_, goes_of_shown sound found rfl shown ?_⟩
        rw [perform, if_pos awaited, leave]
      · rw [observe, if_neg awaited] at ends
        cases ends

theorem mem_givenUp {registry : Registry} {token : Nat} {note : Occurrence}
    (inside : note ∈ givenUp registry token) : ∃ messageId, note = .removed messageId := by
  unfold givenUp at inside
  split at inside
  · exact ⟨_, List.mem_singleton.mp inside⟩
  · cases inside

theorem mem_lettingGo {registry : Registry} {label : String} {note : Occurrence}
    (inside : note ∈ desk.lettingGo registry label) :
    (∃ token, token ∈ ended (desk.lettingGo registry label)) ∧
      ((∃ token, note = .dropped token) ∨ ∃ messageId, note = .removed messageId) := by
  unfold lettingGo at inside ⊢
  split at inside
  · rename_i old held
    refine ⟨⟨old, List.mem_cons_self⟩, ?_⟩
    rcases List.mem_cons.mp inside with first | later
    · exact .inl ⟨old, first⟩
    · exact .inr (mem_givenUp later)
  · cases inside

/--
What shows that a handle was registered, a reply came in, or an entry was given up.  No
other move can show these.
-/
def Shows (desk : Desk) (move : Move) : Occurrence → Prop
  | .registered token messageId => ∃ label registry, move = .register messageId label ∧
      desk.registry.register messageId = .ok (token, registry)
  | .replied reply => move = .deliver reply
  | .removed messageId => move = .remove messageId ∨ ∃ token, token ∈ ended (desk.observe move)
  | .cleared => move = .clear
  | .waited _ | .dropped _ | .resolved _ _ _ => True

theorem shows_of_observe {move : Move} {note : Occurrence} (shown : note ∈ desk.observe move) :
    desk.Shows move note := by
  cases move with
  | register messageId label =>
      cases registered : desk.registry.register messageId with
      | error failure =>
          simp only [observe, registered] at shown
          cases shown
      | ok result =>
          have observed : desk.observe (.register messageId label) =
              .registered result.1 messageId :: desk.lettingGo result.2 label := by
            simp only [observe, registered]
          rw [observed] at shown
          rcases List.mem_cons.mp shown with rfl | later
          · exact ⟨label, result.2, rfl, registered⟩
          · rcases mem_lettingGo later with ⟨⟨token, ends⟩, ⟨_, rfl⟩ | ⟨_, rfl⟩⟩
            · trivial
            · exact .inr ⟨token, observed ▸ ends⟩
  | deliver | clear =>
      cases List.mem_singleton.mp shown
      rfl
  | remove messageId =>
      cases List.mem_singleton.mp shown
      exact .inl rfl
  | advance => cases shown
  | drop label =>
      rcases mem_lettingGo shown with ⟨ends, ⟨_, rfl⟩ | ⟨_, rfl⟩⟩
      · trivial
      · exact .inr ends
  | wait label span =>
      simp only [observe] at shown
      split at shown
      · cases List.mem_singleton.mp shown
        trivial
      · cases shown
  | poll other =>
      cases seen : desk.seen? other with
      | none =>
          simp only [observe, seen] at shown
          cases shown
      | some found =>
          have observed : desk.observe (.poll other) =
              .resolved other desk.now found.2 :: givenUp desk.registry other := by
            simp only [observe, seen]
          rw [observed] at shown
          rcases List.mem_cons.mp shown with rfl | later
          · trivial
          · rcases mem_givenUp later with ⟨_, rfl⟩
            exact .inr ⟨other, observed ▸ List.mem_cons_self⟩
  | cancel other =>
      by_cases awaited : (desk.waits.any fun entry => entry.2.token = other) = true
      · have observed : desk.observe (.cancel other) =
            .dropped other :: givenUp desk.registry other := if_pos awaited
        rw [observed] at shown
        rcases List.mem_cons.mp shown with rfl | later
        · trivial
        · rcases mem_givenUp later with ⟨_, rfl⟩
          exact .inr ⟨other, observed ▸ List.mem_cons_self⟩
      · rw [observe, if_neg awaited] at shown
        cases shown

/--
A registration is the first thing that its move shows.  Whatever ends with the move ends
afterwards.
-/
theorem registered_first {move : Move} {before after : List Occurrence} {token : Nat}
    {messageId : UInt32}
    (shown : desk.observe move = before ++ .registered token messageId :: after) :
    before = [] := by
  rcases shows_of_observe (shown ▸ List.mem_append_right before List.mem_cons_self) with
    ⟨label, registry, rfl, registered⟩
  cases before with
  | nil => rfl
  | cons first rest =>
      simp only [observe, registered, List.cons_append] at shown
      have inside : .registered token messageId ∈ desk.lettingGo registry label :=
        (List.cons_eq_cons.mp shown).2 ▸ List.mem_append_right rest List.mem_cons_self
      rcases mem_lettingGo inside with ⟨-, ⟨_, same⟩ | ⟨_, same⟩⟩ <;> cases same

/--
No two entries wait for the same message id, that of a new registration included.  The new
one is refused otherwise.
-/
theorem ids_opened (sound : desk.Sound) (move : Move) :
    ((desk.registry.entries ++ opened (desk.observe move)).map Entry.messageId).Nodup := by
  cases fresh : opened (desk.observe move) with
  | nil =>
      rw [List.append_nil]
      exact sound.coherent.ids_nodup
  | cons entry others =>
      have inside : entry ∈ opened (desk.observe move) := fresh ▸ List.mem_cons_self
      rcases shows_of_observe (mem_opened.mp inside) with ⟨label, registry, rfl, registered⟩
      have alone : others = [] := by
        have shown : opened (desk.observe (.register entry.messageId label)) =
            entry :: opened (desk.lettingGo registry label) := by
          simp only [observe, registered]
          rfl
        rw [shown, List.cons_eq_cons] at fresh
        rw [← fresh.2, List.eq_nil_iff_forall_not_mem]
        rintro ⟨_, _⟩ late
        rcases mem_lettingGo (mem_opened.mp late) with ⟨-, ⟨_, same⟩ | ⟨_, same⟩⟩ <;> cases same
      rcases Registry.register_eq_ok registered with ⟨-, -, -, -, -, entries_eq⟩
      rw [alone, ← entries_eq]
      exact (sound.coherent.register registered).ids_nodup

end

/-! ## Registrations of one message id -/

section

variable {capacity : Nat} {moves : List Move} {token owner : Nat} {messageId : UInt32}

theorem split_of_registered {desk : Desk} {earlier later : List Occurrence}
    (split : desk.history moves = earlier ++ .registered token messageId :: later) :
    ∃ first rest label registry, moves = first ++ .register messageId label :: rest ∧
      earlier = desk.history first ∧
      (desk.run first).registry.register messageId = .ok (token, registry) := by
  rcases Run.split_history split with ⟨first, move, rest, before, after, rfl, shown, rfl⟩
  have inside : .registered token messageId ∈ (desk.run first).observe move :=
    shown ▸ List.mem_append_right before List.mem_cons_self
  cases registered_first shown
  rcases shows_of_observe inside with ⟨label, registry, rfl, registered⟩
  exact ⟨first, rest, label, registry, rfl, List.append_nil _, registered⟩

/--
The message id of a handle was registered again while that handle was still there.  This
takes that something had been decided for it before.  Without that, the id would not have
been free.
-/
def Reused (capacity : Nat) (moves : List Move) (messageId : UInt32) (former owner : Nat) : Prop :=
  ∃ first label rest registry, moves = first ++ .register messageId label :: rest ∧
    ((new capacity).run first).registry.register messageId = .ok (owner, registry) ∧
    ∃ slot, slot ≠ .waiting ∧
      ((new capacity).run first).registry.handle? former = some ⟨former, messageId, slot⟩

theorem Reused.append (reused : Reused capacity moves messageId token owner) (later : List Move) :
    Reused capacity (moves ++ later) messageId token owner := by
  rcases reused with ⟨first, label, rest, registry, rfl, registered, there⟩
  refine ⟨first, label, rest ++ later, registry, ?_, registered, there⟩
  rw [List.append_assoc, List.cons_append]

/--
Whoever is there when its message id is registered anew has nothing to wait for.  Its reply
is there, or its entry was given up.
-/
theorem decided_of_register {desk : Desk} (sound : desk.Sound) {handle : Handle}
    (found : desk.registry.handle? token = some handle) {result : Nat × Registry}
    (registered : desk.registry.register handle.messageId = .ok result) :
    handle.slot ≠ .waiting := by
  intro waits
  rcases Registry.register_eq_ok registered with ⟨-, free, -⟩
  have inside := (sound.coherent.mem_entries_iff found).mpr (Slot.verdict?_eq_none.mpr waits)
  exact Bool.eq_false_iff.mp free (Registry.contains_eq_true.mpr ⟨token, inside⟩)

theorem history_append (desk : Desk) (first rest : List Move) :
    desk.history (first ++ rest) = desk.history first ++ (desk.run first).history rest :=
  Run.history_append perform observe desk first rest

/--
An entry that is there has been there since it was made.  It cannot go and come back, since
its token is used once.
-/
theorem entry_since {first rest : List Move}
    (inside : ⟨messageId, token⟩ ∈ ((new capacity).run (first ++ rest)).registry.entries)
    (opens : .registered token messageId ∈ (new capacity).history first) :
    ⟨messageId, token⟩ ∈ ((new capacity).run first).registry.entries := by
  rcases run_new capacity (first ++ rest) with ⟨sound, change, -⟩
  rcases run_new capacity first with ⟨sound_then, change_then, -⟩
  rcases List.append_of_mem opens with ⟨earlier, between, split_then⟩
  have unended := (entries_of_change sound change _ inside).2
  rw [history_append, split_then, List.append_assoc, List.cons_append] at change unended
  have stays := unended_of_split rfl unended
  have undecided := (stands_of_change sound change rfl stays).entry_iff.mp inside
  rw [List.findSome?_append, Option.or_eq_none_iff] at undecided
  rw [Registry.ended_append, List.mem_append, not_or] at stays
  exact (stands_of_change sound_then change_then split_then stays.1).entry_iff.mpr undecided.1

/--
A handle that is there has been there since it was registered.  What is kept under its token
is the same handle all the time.
-/
theorem handle_since {first rest : List Move} {handle : Handle}
    (found : ((new capacity).run (first ++ rest)).registry.handle? token = some handle)
    (opens : .registered token messageId ∈ (new capacity).history first) :
    handle.messageId = messageId ∧ ∃ slot,
      ((new capacity).run first).registry.handle? token = some ⟨token, messageId, slot⟩ := by
  have coherent := Registry.coherent_new capacity
  rcases run_new capacity (first ++ rest) with ⟨sound, change, -⟩
  rcases run_new capacity first with ⟨-, change_then, -⟩
  rcases List.append_of_mem opens with ⟨earlier, between, split_then⟩
  have unended : token ∉ ended ((new capacity).history (first ++ rest)) := by
    rcases mem_of_handle? found with ⟨known, same⟩
    exact (split_of_handle change (List.mem_map.mpr ⟨handle, known, same⟩)).1
  rw [history_append, split_then, List.append_assoc, List.cons_append] at change unended
  have stays := unended_of_split rfl unended
  have found_eq := change.handle?_registered coherent rfl stays
  rw [Registry.ended_append, List.mem_append, not_or] at stays
  have found_then := change_then.handle?_registered coherent split_then stays.1
  have id_eq : handle.messageId = messageId := by
    rw [Option.some.inj (found.symm.trans found_eq), messageId_heeded]
  have there : ∃ former, ((new capacity).run first).registry.handle? token = some former ∧
      former.token = token ∧ former.messageId = messageId :=
    ⟨_, found_then, (mem_of_handle? found_then).2, messageId_heeded _ between⟩
  rcases there with ⟨⟨_, _, slot⟩, there, rfl, rfl⟩
  exact ⟨id_eq, slot, there⟩

theorem registered_of_handle {handle : Handle}
    (found : ((new capacity).run moves).registry.handle? token = some handle) :
    .registered token handle.messageId ∈ (new capacity).history moves ∧
      token ∉ ended ((new capacity).history moves) := by
  rcases run_new capacity moves with ⟨-, change, -⟩
  rcases mem_of_handle? found with ⟨known, same⟩
  rcases split_of_handle change (List.mem_map.mpr ⟨handle, known, same⟩) with
    ⟨unended, _, messageId, _, split⟩
  have opens : .registered token messageId ∈ (new capacity).history moves :=
    split ▸ List.mem_append_right _ List.mem_cons_self
  have whole : ((new capacity).run (moves ++ [])).registry.handle? token = some handle := by
    rw [List.append_nil]
    exact found
  exact ⟨(handle_since whole opens).1 ▸ opens, unended⟩

/--
Who has an entry for the message id of another handle got it after that had been decided.
Otherwise that id would still have been taken.
-/
theorem reused_of_entry {move : Move} {handle : Handle}
    (found : ((new capacity).run moves).registry.handle? token = some handle)
    (inside : ⟨handle.messageId, owner⟩ ∈ ((new capacity).run moves).registry.entries ++
      opened (((new capacity).run moves).observe move))
    (other : owner ≠ token) : Reused capacity (moves ++ [move]) handle.messageId token owner := by
  rcases run_new capacity moves with ⟨sound, change, -⟩
  rcases List.mem_append.mp inside with old | new
  · have opens := (entries_of_change sound change _ old).1
    rcases List.append_of_mem opens with ⟨earlier, later, split⟩
    rcases split_of_registered split with ⟨first, rest, label, registry, moves_eq, rfl, fresh⟩
    rcases List.append_of_mem (registered_of_handle found).1 with ⟨before, after, opening⟩
    refine Reused.append ?_ [move]
    rcases Run.split_append (split.symm.trans opening) with
      ⟨between, past_eq, -⟩ | ⟨between, rfl, later_eq⟩
    · -- The handle was there when the owner registered.
      have opens_then : .registered token handle.messageId ∈ (new capacity).history first :=
        past_eq ▸ List.mem_append_right _ List.mem_cons_self
      rcases handle_since (moves_eq ▸ found) opens_then with ⟨-, slot, there⟩
      exact ⟨first, label, rest, registry, moves_eq, fresh, slot,
        decided_of_register (run_new capacity first).1 there fresh, there⟩
    · -- The owner's entry would have been in the way when the handle was registered.
      exfalso
      rcases split_of_registered opening with ⟨sooner, _, _, _, rfl, past_eq, taken⟩
      have opens_then : .registered owner handle.messageId ∈ (new capacity).history sooner := by
        rw [← past_eq]
        cases between with
        | nil =>
            cases (List.cons_eq_cons.mp later_eq).1
            exact absurd rfl other
        | cons head between =>
            cases (List.cons_eq_cons.mp later_eq).1
            exact List.mem_append_right _ List.mem_cons_self
      have there := entry_since old opens_then
      refine Bool.eq_false_iff.mp (Registry.register_eq_ok taken).2.1 ?_
      exact Registry.contains_eq_true.mpr ⟨owner, there⟩
  · rcases mem_of_handle? found with ⟨-, rfl⟩
    rcases shows_of_observe (mem_opened.mp new) with ⟨label, registry, rfl, fresh⟩
    exact ⟨moves, label, [], registry, rfl, fresh, handle.slot,
      decided_of_register sound found fresh, found⟩

end

/-! ## The end of a handle -/

/--
What a handle takes with it that goes with a move after a run.  It may be its own entry,
that of another, or none.
-/
structure Takes (capacity : Nat) (moves : List Move) (move : Move) (token : Nat)
    (messageId : UInt32) : Prop where
  registered : .registered token messageId ∈ (new capacity).history moves
  unended : token ∉ ended ((new capacity).history moves)
  /-- It takes at most the entry of its message id, whoever has made that entry, -/
  entries_eq : (((new capacity).run moves).perform move).registry.entries =
    (((new capacity).run moves).registry.entries ++
      opened (((new capacity).run moves).observe move)).filter fun entry =>
        entry.messageId ≠ messageId
  /-- just its own one if that is there, -/
  own : ⟨messageId, token⟩ ∈ ((new capacity).run moves).registry.entries →
    (((new capacity).run moves).perform move).registry.entries =
      (((new capacity).run moves).registry.entries ++
        opened (((new capacity).run moves).observe move)).filter fun entry =>
          entry ≠ ⟨messageId, token⟩
  /-- and that of another only if this one took over the message id from it. -/
  other : ∀ owner, owner ≠ token →
    ⟨messageId, owner⟩ ∈ ((new capacity).run moves).registry.entries ++
      opened (((new capacity).run moves).observe move) →
    Reused capacity (moves ++ [move]) messageId token owner

/--
A step of a run gave up an entry that was there, or every entry.  That was asked for, and is
not the work of a handle.
-/
def Removed (capacity : Nat) (moves : List Move) (token : Nat) (messageId : UInt32) : Prop :=
  ∃ first step rest, moves = first ++ step :: rest ∧
    ⟨messageId, token⟩ ∈ ((new capacity).run first).registry.entries ∧
    (step = .remove messageId ∨ step = .clear)

/--
An entry that was there went with the handle of another registration.  Its owner had done
nothing to bring that about.
-/
def TakenAlong (capacity : Nat) (moves : List Move) (token : Nat) (messageId : UInt32) : Prop :=
  ∃ first step rest other, moves = first ++ step :: rest ∧
    ⟨messageId, token⟩ ∈ ((new capacity).run first).registry.entries ++
      opened (((new capacity).run first).observe step) ∧
    other ≠ token ∧ other ∈ ended (((new capacity).run first).observe step) ∧
    Takes capacity first step other messageId

section

variable {capacity : Nat} {moves : List Move} {move : Move} {token : Nat} {messageId : UInt32}

theorem takes_of_goes (goes : ((new capacity).run moves).Goes move token messageId) :
    Takes capacity moves move token messageId := by
  rcases run_new capacity moves with ⟨sound, -, -⟩
  rcases goes with ⟨⟨handle, found, rfl⟩, -, entries_eq⟩
  rcases registered_of_handle found with ⟨opens, unended⟩
  refine ⟨opens, unended, entries_eq, fun inside => ?_,
    fun owner other there => reused_of_entry found there other⟩
  rw [entries_eq]
  refine List.filter_congr fun entry there => decide_eq_decide.mpr (not_congr ?_)
  constructor
  · intro same
    exact List.inj_on_of_nodup_map (ids_opened sound move) there
      (List.mem_append_left _ inside) same
  · exact congrArg Entry.messageId

theorem decision?_eq_closed {note : Occurrence}
    (decides : note.decision? messageId = some (.error .closed)) :
    note = .removed messageId ∨ note = .cleared := by
  cases note with
  | replied reply =>
      simp only [Occurrence.decision?] at decides
      split at decides <;> cases decides
  | removed other =>
      simp only [Occurrence.decision?] at decides
      split at decides
      · rename_i same
        exact .inl (congrArg _ same)
      · cases decides
  | cleared => exact .inr rfl
  | registered | waited | dropped | resolved => cases decides

/--
As long as nothing is decided for a handle, the next step finds its entry there.  The entry
is what a reply would be delivered by.
-/
theorem live_of_split {earlier quiet later : List Occurrence} {note : Occurrence}
    (split : (new capacity).history moves =
      (earlier ++ .registered token messageId :: quiet) ++ note :: later)
    (undecided : ∀ early ∈ quiet, Occurrence.decision? messageId early = none)
    (stays : token ∉ ended quiet) :
    ∃ first step rest, moves = first ++ step :: rest ∧
      ⟨messageId, token⟩ ∈ ((new capacity).run first).registry.entries ++
        opened (((new capacity).run first).observe step) ∧
      note ∈ ((new capacity).run first).observe step := by
  rcases Run.split_history split with ⟨first, step, rest, before, after, rfl, shown, past_eq⟩
  replace shown : ((new capacity).run first).observe step = before ++ note :: after := shown
  refine ⟨first, step, rest, rfl, ?_, shown ▸ List.mem_append_right before List.mem_cons_self⟩
  rcases Run.split_append past_eq.symm with ⟨between, past_then, rfl⟩ | ⟨between, -, rfl⟩
  · rcases run_new capacity first with ⟨sound, change, -⟩
    rw [Registry.ended_append, List.mem_append, not_or] at stays
    refine List.mem_append_left _
      ((stands_of_change sound change past_then stays.1).entry_iff.mpr ?_)
    exact List.findSome?_eq_none_iff.mpr fun early inside =>
      undecided early (List.mem_append_left _ inside)
  · refine List.mem_append_right _ (mem_opened.mpr ?_)
    rw [shown, List.append_assoc]
    exact List.mem_append_right _ List.mem_cons_self

/--
A wait ends as closed only if its own entry was given up or taken along.  There are no other
ways in which it can end so.
-/
theorem removed_or_takenAlong {now : Nat}
    (closed : .resolved token now (.error .closed) ∈ ((new capacity).run moves).observe move) :
    ∃ messageId, Removed capacity moves token messageId ∨
      TakenAlong capacity moves token messageId := by
  rcases run_new capacity moves with ⟨sound, change, -⟩
  rcases List.append_of_mem closed with ⟨before, after, shown⟩
  rcases observe_resolved shown with ⟨rfl, -, wait, seen⟩
  have unended := unended_of_seen? sound (Registry.coherent_new capacity) change seen
  have whole : (new capacity).history (moves ++ [move]) =
      (new capacity).history moves ++ .resolved token now (.error .closed) :: after := by
    rw [history_append, ← List.nil_append (_ :: after), ← shown]
    exact congrArg _ (List.append_nil _)
  rcases (registry_lawful capacity (moves ++ [move])).explained _ _ _ _ _ whole with
    ⟨earlier, messageId, later, _, split, stays, -, -, verdict⟩
  have decided : later.findSome? (Occurrence.decision? messageId) = some (.error .closed) := by
    rcases Option.or_eq_some_iff.mp verdict with decided | ⟨-, late⟩
    · exact decided
    · split at late <;> cases late
  rcases List.findSome?_eq_some_iff.mp decided with ⟨quiet, note, rest, rfl, decides, undecided⟩
  rw [Registry.ended_append, List.mem_append, not_or] at stays
  rw [← List.cons_append, ← List.append_assoc] at split
  rcases live_of_split split undecided stays.1 with ⟨first, step, others, rfl, live, inside⟩
  refine ⟨messageId, ?_⟩
  rcases decision?_eq_closed decides with rfl | rfl
  · rcases shows_of_observe inside with rfl | ⟨other, ends⟩
    · rw [observe, List.mem_append] at live
      exact .inl ⟨first, _, others, rfl, live.resolve_right List.not_mem_nil, .inl rfl⟩
    · rcases goes_of_ended (run_new capacity first).1 ends with ⟨its, goes⟩
      cases goes.eq_of_removed inside
      have different : other ≠ token := by
        rintro rfl
        refine unended ?_
        rw [history_append, Registry.ended_append]
        refine List.mem_append_right _ ?_
        rw [history, Run.history, Registry.ended_append]
        exact List.mem_append_left _ ends
      exact .inr ⟨first, step, others, other, rfl, live, different, ends, takes_of_goes goes⟩
  · cases shows_of_observe inside
    rw [observe, List.mem_append] at live
    exact .inl ⟨first, _, others, rfl, live.resolve_right List.not_mem_nil, .inr rfl⟩

end

/--
What the end of a handle can do to others, at any moment of a run.  It says what is spared,
what is taken, and when nothing of others can be.
-/
structure Confined (capacity : Nat) (moves : List Move) (move : Move) : Prop where
  takes : ∀ token ∈ ended (((new capacity).run moves).observe move),
    ∃ messageId, Takes capacity moves move token messageId
  /-- Whatever entry is left can be delivered to.  Ends of handles leave no damage there. -/
  spared : ∀ entry ∈ (((new capacity).run moves).perform move).registry.entries,
    ∀ reply : Reply, reply.messageId = entry.messageId →
      ((((new capacity).run moves).perform move).deliver reply).1 = true ∧
      ∀ wait : Wait, wait.token = entry.token → ∀ now,
        wait.result? ((((new capacity).run moves).perform move).deliver reply).2.registry now =
          some (.ok reply)
  closed : ∀ token now, .resolved token now (.error .closed) ∈
      ((new capacity).run moves).observe move →
    ∃ messageId, Removed capacity moves token messageId ∨
      TakenAlong capacity moves token messageId
  /--
  If no message id is registered again before the old handle is gone, a handle takes its own
  entry or none, and a wait ends as closed only if its own entry was given up.  The message
  ids of a link are such, as long as they do not come round.
  -/
  unshared : (∀ messageId former owner,
      ¬ Reused capacity (moves ++ [move]) messageId former owner) →
    (∀ token ∈ ended (((new capacity).run moves).observe move), ∃ messageId,
      (((new capacity).run moves).perform move).registry.entries =
        (((new capacity).run moves).registry.entries ++
          opened (((new capacity).run moves).observe move)).filter fun entry =>
            entry ≠ ⟨messageId, token⟩) ∧
    ∀ token now, .resolved token now (.error .closed) ∈
        ((new capacity).run moves).observe move →
      ∃ messageId, Removed capacity moves token messageId

theorem ends_confined (capacity : Nat) (moves : List Move) (move : Move) :
    Confined capacity moves move := by
  rcases run_new capacity moves with ⟨sound, -, -⟩
  have after := sound_perform sound move
  have takes : ∀ token ∈ ended (((new capacity).run moves).observe move),
      ∃ messageId, Takes capacity moves move token messageId := by
    intro token ends
    rcases goes_of_ended sound ends with ⟨messageId, goes⟩
    exact ⟨messageId, takes_of_goes goes⟩
  refine ⟨takes, ?_, fun token now => removed_or_takenAlong, fun unshared => ⟨?_, ?_⟩⟩
  · rintro ⟨messageId, token⟩ inside reply rfl
    have serves := delivered after reply
    refine ⟨?_, ((serves.served token inside).2 []).1 List.not_mem_nil⟩
    exact serves.accepted_eq.trans (Registry.contains_eq_true.mpr ⟨token, inside⟩)
  · intro token ends
    rcases takes token ends with ⟨messageId, takes⟩
    refine ⟨messageId, takes.entries_eq.trans ?_⟩
    refine List.filter_congr fun entry inside => decide_eq_decide.mpr (not_congr ⟨?_, ?_⟩)
    · rintro rfl
      by_contra other
      refine unshared _ _ _ (takes.other entry.token (fun same => other ?_) inside)
      rw [← same]
    · exact congrArg Entry.messageId
  · intro token now closed
    rcases removed_or_takenAlong closed with ⟨messageId, removed | taken⟩
    · exact ⟨messageId, removed⟩
    · rcases taken with ⟨first, step, rest, other, rfl, live, different, -, takes⟩
      have reused := (takes.other token different.symm live).append (rest ++ [move])
      rw [List.append_assoc, List.singleton_append, ← List.cons_append, ← List.append_assoc]
        at reused
      exact absurd reused (unshared _ _ _)

/--
A message id is free as soon as its reply is there, and the first handle lives on.  It is
registered again while that handle is kept.
-/
def shared : List Move :=
  [.register 7 "first", .deliver ⟨7, 0, .null⟩, .register 7 "second", .wait "second" ⟨1000⟩]

theorem other_entry_taken :
    ((new 0).run shared).registry.entries = [⟨7, 1⟩] ∧
      ((new 0).run shared).observe (.drop "first") = [.dropped 0, .removed 7] ∧
      (((new 0).run shared).perform (.drop "first")).registry.entries = [] ∧
      (((new 0).run shared).perform (.drop "first")).observe (.poll 1) =
        [.resolved 1 0 (.error .closed), .removed 7] :=
  ⟨rfl, rfl, rfl, rfl⟩

end Desk
end DeviceLink
