import DeviceLink.Proofs.Desk.Waits

namespace DeviceLink

/-!
The law of the registry: at any moment of any run, what an entry stands for, what a
delivery brings about, and what a wait on a handle ends with.  What decides for a handle
is the first reply to its message id since its registration, or the first thing since
then that gave up the entry of this id, whatever handle that was meant for.  `Lawful` is
the law, with one field for each question that can be asked of a registry, and it holds
for every capacity and every list of moves.
-/

namespace Desk

open Registry (Occurrence Change ended heeded mem_standing messageId_heeded unended_of_split
  verdict?_heeded)

/--
How a handle stands that is registered for a message id, given what has occurred since.  All
of it can be told from the occurrences alone.
-/
structure Stands (desk : Desk) (token : Nat) (messageId : UInt32) (later : List Occurrence) :
    Prop where
  /-- Its entry is there as long as nothing has been decided.  A decision takes the entry away. -/
  entry_iff : ⟨messageId, token⟩ ∈ desk.registry.entries ↔
    later.findSome? (Occurrence.decision? messageId) = none
  /--
  A wait on it ends with what has been decided first, and otherwise at its deadline.  The
  deadline counts only while nothing has been decided.
  -/
  result?_eq : ∀ wait : Wait, wait.token = token → ∀ now,
    wait.result? desk.registry now =
      (later.findSome? (Occurrence.decision? messageId)).or
        (if wait.deadline ≤ now then some (.error (.timeout messageId wait.budget)) else none)
  /--
  When it goes, no entry of its message id is left.  That is so even if the entry was that
  of a later registration.
  -/
  left : (desk.registry.drop token).contains messageId = false

/-- What a delivery brings about.  It serves one handle, or nobody. -/
structure Delivered (desk : Desk) (reply : Reply) : Prop where
  accepted_eq : (desk.deliver reply).1 = desk.registry.contains reply.messageId
  entries_eq : (desk.deliver reply).2.registry.entries =
    desk.registry.entries.filter fun entry => entry.messageId ≠ reply.messageId
  /--
  The handle of the entry has this reply from now on, and no other handle gets anything.
  The entry is gone with it.
  -/
  served : ∀ token, ⟨reply.messageId, token⟩ ∈ desk.registry.entries →
    (∀ other, other ≠ token →
      (desk.deliver reply).2.registry.handle? other = desk.registry.handle? other) ∧
    ∀ moves,
      (token ∉ ended ((desk.deliver reply).2.history moves) → ∀ wait : Wait, wait.token = token →
        ∀ now, wait.result? ((desk.deliver reply).2.run moves).registry now = some (.ok reply)) ∧
      ∀ now result, .resolved token now result ∈ (desk.deliver reply).2.history moves →
        result = .ok reply
  /-- Nothing happens if nobody waits for the message id.  The answer says so. -/
  refused : desk.registry.contains reply.messageId = false → desk.deliver reply = (false, desk)

/--
What becomes of a request for a registration.  It is refused for want of room, or because
the id is taken, or it is granted.
-/
structure Registers (desk : Desk) (messageId : UInt32) (label : String) : Prop where
  full : 0 < desk.registry.capacity → desk.registry.capacity ≤ desk.registry.size →
    (desk.register messageId label).1 = .error (.allocationFailure
      (Decimal.naturalString desk.registry.size ++ " requests already awaiting replies"))
  taken : (0 < desk.registry.capacity → desk.registry.size < desk.registry.capacity) →
    desk.registry.contains messageId = true →
    (desk.register messageId label).1 = .error (.invalidParameter
      ("message " ++ Decimal.naturalString messageId.toNat ++ " is already awaiting a reply"))
  free : (0 < desk.registry.capacity → desk.registry.size < desk.registry.capacity) →
    desk.registry.contains messageId = false →
    (desk.register messageId label).1 = .ok messageId ∧
      .registered desk.registry.nextToken messageId ∈ desk.observe (.register messageId label)
  /-- A request that fails changes nothing and opens no handle.  The label keeps what it had. -/
  failed : ∀ failure, (desk.register messageId label).1 = .error failure →
    (desk.register messageId label).2 = desk ∧ desk.observe (.register messageId label) = []

/-- How a wait that is going on stands.  What it will end with is known as soon as it is decided. -/
structure Waits (past : List Occurrence) (desk : Desk) (wait : Wait) : Prop where
  waited : .waited wait ∈ past
  registered : ∃ earlier messageId later,
    past = earlier ++ .registered wait.token messageId :: later ∧ wait.token ∉ ended later
  /--
  Once there is a result, it is had for the asking, and the handle goes.  The one who waits
  has to look, and nothing else is needed.
  -/
  finished : ∀ result, wait.result? desk.registry desk.now = some result →
    .resolved wait.token desk.now result ∈ desk.observe (.poll wait.token) ∧
      (desk.perform (.poll wait.token)).registry = desk.registry.drop wait.token
  /-- Until then nothing happens.  Looking is without effect. -/
  goesOn : wait.result? desk.registry desk.now = none →
    desk.observe (.poll wait.token) = [] ∧ desk.perform (.poll wait.token) = desk

/--
What explains the result of a wait, going by what had occurred before.  There is a decision
behind it, or its time was over.
-/
def Explained (past : List Occurrence) (token now : Nat) (result : Except Failure Reply) : Prop :=
  ∃ earlier messageId later wait,
    past = earlier ++ .registered token messageId :: later ∧ token ∉ ended later ∧
    .waited wait ∈ past ∧ wait.token = token ∧
    (later.findSome? (Occurrence.decision? messageId)).or
      (if wait.deadline ≤ now then some (.error (.timeout messageId wait.budget)) else none) =
        some result

/--
What holds of a registry at any moment, with the history of it up to then.  Every other
theorem about registries can be taken from its fields.
-/
structure Lawful (capacity : Nat) (past : List Occurrence) (desk : Desk) : Prop where
  /-- No two entries wait for the same message id, so a reply has one addressee. -/
  ids_nodup : (desk.registry.entries.map Entry.messageId).Nodup
  /-- No two entries wait on behalf of the same handle, so a handle waits for one message id. -/
  tokens_nodup : (desk.registry.entries.map Entry.token).Nodup
  size_le : 0 < capacity → desk.registry.size ≤ capacity
  /--
  An entry belongs to a registration, and its handle has neither been dropped nor resolved.
  It goes before its handle does, or with it.
  -/
  entries : ∀ entry ∈ desk.registry.entries,
    .registered entry.token entry.messageId ∈ past ∧ entry.token ∉ ended past
  stands : ∀ earlier token messageId later,
    past = earlier ++ .registered token messageId :: later → token ∉ ended later →
    desk.Stands token messageId later
  waits : ∀ entry ∈ desk.waits, desk.Waits past entry.2
  explained : ∀ earlier token now result later,
    past = earlier ++ .resolved token now result :: later → Explained earlier token now result
  delivers : ∀ reply, desk.Delivered reply
  registers : ∀ messageId label, desk.Registers messageId label
  /--
  To end every wait that can end is to look at one wait after the other.  So settling is a
  run of single moves.
  -/
  settles : ∃ tokens : List Nat, desk.settle.1 = desk.run (tokens.map .poll) ∧
    desk.settle.2.map Prod.snd =
      (desk.history (tokens.map .poll)).filterMap Occurrence.result? ∧
    ∀ entry ∈ desk.settle.1.waits,
      entry.2.result? desk.settle.1.registry desk.settle.1.now = none

/-! ## Handles -/

section

variable {desk : Desk} {past : List Occurrence} {capacity : Nat}

/--
Every handle is what its registration and what has followed make of it.  Nothing that
occurred before makes any difference.
-/
theorem stands_of_change (sound : desk.Sound)
    (change : Change (Registry.new capacity) past desk.registry) {earlier later : List Occurrence}
    {token : Nat} {messageId : UInt32}
    (split : past = earlier ++ .registered token messageId :: later)
    (stays : token ∉ ended later) : desk.Stands token messageId later := by
  have found := change.handle?_registered (Registry.coherent_new capacity) split stays
  have id_eq : (heeded ⟨token, messageId, .waiting⟩ later).messageId = messageId :=
    messageId_heeded _ later
  have verdict_eq : (heeded ⟨token, messageId, .waiting⟩ later).slot.verdict? =
      later.findSome? (Occurrence.decision? messageId) := verdict?_heeded _ later
  constructor
  · have entry_iff := sound.coherent.mem_entries_iff found
    rw [id_eq, verdict_eq] at entry_iff
    exact entry_iff
  · rintro wait rfl now
    rw [Wait.result?_eq found, verdict_eq, id_eq]
  · have left := sound.coherent.contains_drop found
    rw [id_eq] at left
    exact left

/--
A handle that is there has been registered, and nothing has ended it.  The history can be
split at that registration.
-/
theorem split_of_handle (change : Change (Registry.new capacity) past desk.registry) {token : Nat}
    (stands : token ∈ desk.registry.handles.map Handle.token) :
    token ∉ ended past ∧
      ∃ earlier messageId later, past = earlier ++ .registered token messageId :: later := by
  have coherent := Registry.coherent_new capacity
  refine ⟨fun ends => (change.absent_of_ended coherent ends).2 stands, ?_⟩
  rw [change.tokens_eq coherent] at stands
  rcases mem_standing stands with old | ⟨messageId, opens⟩
  · cases old
  · rcases List.append_of_mem opens with ⟨earlier, later, split⟩
    exact ⟨earlier, messageId, later, split⟩

theorem entries_of_change (sound : desk.Sound)
    (change : Change (Registry.new capacity) past desk.registry) :
    ∀ entry ∈ desk.registry.entries,
      .registered entry.token entry.messageId ∈ past ∧ entry.token ∉ ended past := by
  rintro ⟨messageId, token⟩ inside
  have waits := sound.coherent.handle?_of_entry inside
  rcases Registry.mem_of_handle? waits with ⟨there, -⟩
  rcases split_of_handle change (List.mem_map_of_mem (f := Handle.token) there) with
    ⟨unended, earlier, registered, later, split⟩
  have found := change.handle?_registered (Registry.coherent_new capacity) split
    (unended_of_split split unended)
  have id_eq : messageId = registered :=
    (congrArg Handle.messageId (Option.some.inj (waits.symm.trans found))).trans
      (messageId_heeded _ later)
  refine ⟨?_, unended⟩
  rw [split, id_eq]
  exact List.mem_append_right _ List.mem_cons_self

theorem waits_of_change (sound : desk.Sound)
    (change : Change (Registry.new capacity) past desk.registry)
    (waited : ∀ entry ∈ desk.waits, .waited entry.2 ∈ past) :
    ∀ entry ∈ desk.waits, desk.Waits past entry.2 := by
  rintro ⟨label, wait⟩ inside
  rcases sound.handle?_of_waits inside with ⟨handle, found⟩
  rcases Registry.mem_of_handle? found with ⟨there, same⟩
  rcases split_of_handle change (List.mem_map.mpr ⟨handle, there, same⟩) with
    ⟨unended, earlier, messageId, later, split⟩
  rcases poll_eq sound inside with ⟨performed, shown⟩
  refine ⟨waited _ inside, ⟨earlier, messageId, later, split, unended_of_split split unended⟩,
    fun result finished => ?_, fun goesOn => ?_⟩
  · rw [finished] at performed shown
    rw [performed, shown]
    exact ⟨List.mem_cons_self, rfl⟩
  · rw [goesOn] at performed shown
    exact ⟨shown, performed⟩

end

/-! ## Operations -/

section

variable {desk : Desk}

/-- Whoever has come to the end of a wait had not been gone before.  A wait has one end. -/
theorem unended_of_seen? {before : Registry} {past : List Occurrence} (sound : desk.Sound)
    (coherent : before.Coherent) (change : Change before past desk.registry) {token : Nat}
    {wait : Wait} {result : Except Failure Reply} (seen : desk.seen? token = some (wait, result)) :
    token ∉ ended past := by
  rcases token_of_seen? seen with ⟨label, inside, rfl, -⟩
  rcases sound.handle?_of_waits inside with ⟨handle, found⟩
  intro ends
  rcases Registry.mem_of_handle? found with ⟨there, same⟩
  exact (change.absent_of_ended coherent ends).2 (List.mem_map.mpr ⟨handle, there, same⟩)

theorem delivered (sound : desk.Sound) (reply : Reply) : desk.Delivered reply := by
  have answered : (desk.deliver reply).2.registry =
      desk.registry.answer reply.messageId (.filled reply) := sound.coherent.deliver_eq reply
  have after : (desk.deliver reply).2.Sound := sound_perform sound (.deliver reply)
  refine ⟨sound.coherent.deliver_eq_contains reply, congrArg Registry.entries answered, ?_, ?_⟩
  · intro token inside
    have waits := sound.coherent.handle?_of_entry inside
    have served : (desk.deliver reply).2.registry.handle? token =
        some ⟨token, reply.messageId, .filled reply⟩ := by
      rw [answered, Registry.handle?_answer, waits]
      exact congrArg some (Handle.answer_of_eq rfl)
    refine ⟨fun other different => ?_, fun moves => ?_⟩
    · rw [answered, Registry.handle?_answer]
      cases found : desk.registry.handle? other with
      | none => rfl
      | some handle =>
          refine congrArg some (Handle.answer_eq_self fun same pending => different ?_)
          -- Whoever waits for the message id has the entry, and there is but one.
          have there := (sound.coherent.mem_entries_iff found).mpr (by rw [pending]; rfl)
          exact congrArg Entry.token (sound.coherent.eq_of_messageId_eq there inside same)
    · have change := (sound_run after moves).2
      refine ⟨change.result?_of_filled after.coherent served rfl, fun now result inside => ?_⟩
      rcases List.append_of_mem inside with ⟨earlier, later, split⟩
      rcases split_of_resolved split with ⟨first, rest, wait, -, rfl, -, seen⟩
      rcases sound_run after first with ⟨sound_then, change_then⟩
      have stays := unended_of_seen? sound_then after.coherent change_then seen
      rcases token_of_seen? seen with ⟨label, -, own, finished⟩
      have finished_eq := change_then.result?_of_filled after.coherent served rfl stays wait own
        ((desk.deliver reply).2.run first).now
      exact Option.some.inj (finished.symm.trans finished_eq)
  · intro missed
    rw [Registry.contains, Option.isSome_eq_false_iff, Option.isNone_iff_eq_none] at missed
    simp only [Desk.deliver, Registry.deliver, missed]

theorem registers (desk : Desk) (messageId : UInt32) (label : String) :
    desk.Registers messageId label := by
  refine ⟨?_, ?_, ?_, ?_⟩
  · intro limited crowded
    have full : desk.registry.isFull = true := by simp [Registry.isFull, limited, crowded]
    simp only [Desk.register, Registry.register, full, if_true]
  · intro room there
    have open_ : desk.registry.isFull = false := by simpa [Registry.isFull] using room
    simp only [Desk.register, Registry.register, open_, there, if_true, if_false,
      Bool.false_eq_true]
  · intro room missed
    have open_ : desk.registry.isFull = false := by simpa [Registry.isFull] using room
    simp [Desk.register, observe, Registry.register, open_, missed]
  · intro failure failed
    simp only [Desk.register, observe] at failed ⊢
    cases registered : desk.registry.register messageId with
    | error other => exact ⟨rfl, rfl⟩
    | ok result =>
        rw [registered] at failed
        cases failed

end

/--
What holds of the registry and the waits alike, whatever the moves.  It is proved by
induction on the moves, once for both.
-/
theorem run_new (capacity : Nat) (moves : List Move) :
    ((new capacity).run moves).Sound ∧
      Change (Registry.new capacity) ((new capacity).history moves)
        ((new capacity).run moves).registry ∧
      ∀ entry ∈ ((new capacity).run moves).waits,
        .waited entry.2 ∈ (new capacity).history moves := by
  rcases sound_run (sound_new capacity) moves with ⟨sound, change⟩
  refine ⟨sound, change, ?_⟩
  have kept : ∀ past desk move, True → (∀ entry ∈ desk.waits, .waited entry.2 ∈ past) →
      ∀ entry ∈ (perform desk move).waits, .waited entry.2 ∈ past ++ observe desk move :=
    fun past desk move _ waited => waited_perform waited move
  have start : ∀ entry ∈ (new capacity).waits, Occurrence.waited entry.2 ∈ [] :=
    fun entry inside => by cases inside
  exact Run.keeps kept start fun _ _ => trivial

theorem registry_lawful (capacity : Nat) (moves : List Move) :
    Lawful capacity ((new capacity).history moves) ((new capacity).run moves) := by
  rcases run_new capacity moves with ⟨sound, change, waited⟩
  exact
    { ids_nodup := sound.coherent.ids_nodup
      tokens_nodup := sound.coherent.entry_tokens_nodup
      size_le := by
        intro limited
        have bound := change.grown.size_le limited (Nat.zero_le _)
        rw [change.grown.capacity_eq] at bound
        exact bound
      entries := entries_of_change sound change
      stands := fun earlier token messageId later => stands_of_change sound change
      waits := waits_of_change sound change waited
      explained := by
        intro earlier token now result later split
        rcases split_of_resolved split with ⟨first, rest, wait, -, rfl, rfl, seen⟩
        rcases run_new capacity first with ⟨sound_then, change_then, waited_then⟩
        rcases token_of_seen? seen with ⟨label, inside, rfl, finished⟩
        have waits := waits_of_change sound_then change_then waited_then _ inside
        rcases waits.registered with ⟨start, messageId, between, split_then, stays⟩
        have stands := stands_of_change sound_then change_then split_then stays
        exact ⟨start, messageId, between, wait, split_then, stays, waits.waited, rfl,
          (stands.result?_eq wait rfl _).symm.trans finished⟩
      delivers := delivered sound
      registers := registers _
      settles := by
        rcases settleFor_eq_run sound ((new capacity).run moves).waits.length with
          ⟨tokens, reached, results⟩
        exact ⟨tokens, reached, results, settleFor_settled _ (Nat.le_refl _)⟩ }

/--
A handle that has its reply still gives up its message id when it goes.  The second
registration is the one that suffers.
-/
example :
    ((new 0).run [.register 7 "first", .deliver ⟨7, 0, .null⟩, .register 7 "second",
      .drop "first"]).registry.contains 7 = false := by decide

end Desk
end DeviceLink
