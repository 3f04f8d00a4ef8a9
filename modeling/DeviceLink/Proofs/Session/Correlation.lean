import DeviceLink.Proofs.Core.Apart
import DeviceLink.Proofs.Session.Past

namespace DeviceLink
namespace Session

variable {σ : Type}

/-!
The registry of a session and its history.  The handles of the registry are those of the
requests that wait, and each of them holds what has been decided for its request.  Every
move keeps it that way, whatever its place in the run.  `Correlated` is the invariant,
and there is a lemma for each kind of occurrence: nothing that matters, an id that is
taken, a request that is opened, a decision for those who wait, and the end of a
request.  Which move brings which of them is left to the next step.
-/

/--
Neither the registry nor the callers are touched, and tickets are only taken.  Whoever waits
finds the same afterwards as before, and the next ids are not in use.
-/
structure Apart (session next : Session σ) : Prop where
  core : Core.Apart session.core next.core
  callers_eq : next.callers = session.callers
  tickets_le : session.nextTicket ≤ next.nextTicket

/--
Message ids and tickets are given out one after the other.  A request that is made now
differs in both from all that have been made before.
-/
structure Numbered (past : List Occurrence) (session : Session σ) : Prop where
  nextId_eq : session.core.nextId = UInt32.ofNat (issued past + 1)
  ids_le : ∀ call ∈ opened past, call.messageId.toNat ≤ issued past
  tickets_lt : ∀ call ∈ opened past, call.tag.ticket < session.nextTicket

structure Correlated (past : List Occurrence) (session : Session σ) : Prop where
  orderly : Orderly past
  coherent : session.core.registry.Coherent
  handles_eq : session.core.registry.handles = (waiting past).map (handleOf past)
  callers_perm :
    session.callers.Perm ((waiting past).map fun call => (call.tag, call.wait))
  numbered : Numbered past session
  /--
  Once the link is closed nobody awaits a reply.  The registry has been cleared, and no
  request is registered any more.
  -/
  closed : session.core.link.phase = .closed → session.core.registry.entries = []

namespace Numbered

variable {past : List Occurrence} {session next : Session σ} {occurrence : Occurrence}

/--
Nothing is given out, or only tickets are.  The occurrence is neither the opening of a
request nor the taking of an id.
-/
theorem concat_none (numbered : Numbered past session) (unopened : occurrence.opened? = none)
    (uncounted : occurrence.isIssued = false) (nextId_eq : next.core.nextId = session.core.nextId)
    (tickets_le : session.nextTicket ≤ next.nextTicket) :
    Numbered (past ++ [occurrence]) next where
  nextId_eq := by
    rw [issued_concat_none uncounted, nextId_eq]
    exact numbered.nextId_eq
  ids_le := by
    rw [opened_concat_none unopened, issued_concat_none uncounted]
    exact numbered.ids_le
  tickets_lt := by
    rw [opened_concat_none unopened]
    exact fun call inside => Nat.lt_of_lt_of_le (numbered.tickets_lt call inside) tickets_le

theorem issue (numbered : Numbered past session) (few : issued past + 1 < UInt32.size) :
    Numbered (past ++ [.issued session.core.takeId.1])
      { session with core := session.core.takeId.2 } := by
  have count : issued (past ++ [.issued session.core.takeId.1]) = issued past + 1 :=
    issued_concat _ _
  have opened_eq : opened (past ++ [.issued session.core.takeId.1]) = opened past :=
    opened_concat_none rfl
  exact
    { nextId_eq := by
        rw [count, Core.takeId_eq numbered.nextId_eq few]
      ids_le := by
        intro call inside
        rw [opened_eq] at inside
        rw [count]
        exact Nat.le_succ_of_le (numbered.ids_le call inside)
      tickets_lt := by
        rw [opened_eq]
        exact numbered.tickets_lt }

theorem openCall (numbered : Numbered past session) {call : Call}
    (counted : call.messageId.toNat ≤ issued past)
    (ticket_eq : call.tag.ticket = session.nextTicket)
    (nextId_eq : next.core.nextId = session.core.nextId)
    (nextTicket_eq : next.nextTicket = session.nextTicket + 1) :
    Numbered (past ++ [.opened call]) next where
  nextId_eq := by
    rw [issued_concat_none rfl, nextId_eq]
    exact numbered.nextId_eq
  ids_le := by
    intro other inside
    rw [issued_concat_none rfl]
    rw [opened_concat] at inside
    rcases List.mem_append.mp inside with old | new
    · exact numbered.ids_le other old
    · rw [List.mem_singleton.mp new]
      exact counted
  tickets_lt := by
    intro other inside
    rw [nextTicket_eq]
    rw [opened_concat] at inside
    rcases List.mem_append.mp inside with old | new
    · exact Nat.lt_succ_of_lt (numbered.tickets_lt other old)
    · rw [List.mem_singleton.mp new, ticket_eq]
      exact Nat.lt_succ_self _

/--
A tag with the next ticket is a new one.  Nobody has made a request under it, so nothing can
be known about it.
-/
theorem tag_fresh (numbered : Numbered past session) {tag : Tag}
    (ticket_eq : tag.ticket = session.nextTicket) : tag ∉ (opened past).map Call.tag := by
  intro inside
  rcases List.mem_map.mp inside with ⟨other, there, same⟩
  have below := numbered.tickets_lt other there
  rw [same, ticket_eq] at below
  exact Nat.lt_irrefl _ below

end Numbered

theorem correlated_new (setup : Setup σ) (world : σ) : Correlated [] (new setup world) where
  orderly := orderly_nil
  coherent := Registry.coherent_new _
  handles_eq := rfl
  callers_perm := List.Perm.refl _
  numbered := ⟨rfl, nofun, nofun⟩
  closed := fun _ => rfl

namespace Correlated

variable {past : List Occurrence} {session next : Session σ} {call : Call}

theorem ids_nodup (correlated : Correlated past session) :
    (session.core.registry.handles.map Handle.messageId).Nodup := by
  rw [correlated.handles_eq, List.map_map]
  exact (List.filter_sublist.map _).nodup correlated.orderly.ids_nodup

theorem tokens_nodup (correlated : Correlated past session) :
    ((waiting past).map fun call => call.wait.token).Nodup := by
  have distinct := correlated.coherent.tokens_nodup
  rw [correlated.handles_eq, List.map_map] at distinct
  exact distinct

theorem tags_nodup (correlated : Correlated past session) :
    ((waiting past).map Call.tag).Nodup :=
  (List.filter_sublist.map _).nodup correlated.orderly.tags_nodup

/--
Among the requests that wait, the token and the tag name the same one.  It is the same fact
as for the callers, in terms of the history.
-/
theorem token_eq_iff (correlated : Correlated past session) {other : Call}
    (there : other ∈ waiting past) (waits : call ∈ waiting past) :
    other.wait.token = call.wait.token ↔ other.tag = call.tag := by
  constructor
  · intro same
    rw [List.inj_on_of_nodup_map correlated.tokens_nodup there waits same]
  · intro same
    rw [List.inj_on_of_nodup_map correlated.tags_nodup there waits same]

theorem handle?_eq (correlated : Correlated past session) (waits : call ∈ waiting past) :
    session.core.registry.handle? call.wait.token = some (handleOf past call) := by
  refine correlated.coherent.handle?_eq_some.mpr ⟨?_, rfl⟩
  rw [correlated.handles_eq]
  exact List.mem_map_of_mem waits

theorem mem_callers (correlated : Correlated past session) {entry : Tag × Wait} :
    entry ∈ session.callers ↔ ∃ call ∈ waiting past, (call.tag, call.wait) = entry := by
  rw [correlated.callers_perm.mem_iff, List.mem_map]

/--
What a request finds out when it looks for its result.  It is what the history since its
opening says, with the present time.
-/
theorem seen?_eq (correlated : Correlated past session) (waits : call ∈ waiting past) :
    session.seen? call.tag =
      (call.outcome? (since past call.tag) session.now).map fun result => (call.wait, result) := by
  rw [← result?_eq (correlated.handle?_eq waits) session.now]
  refine seen?_of_only (correlated.mem_callers.mpr ⟨call, waits, rfl⟩) fun wait inside => ?_
  rcases correlated.mem_callers.mp inside with ⟨other, there, same⟩
  cases List.inj_on_of_nodup_map correlated.tags_nodup there waits (congrArg Prod.fst same)
  exact (congrArg Prod.snd same).symm

/--
A result that is found is that of a request that waits.  Nobody else has a handle, so there
is nobody else who could find one.
-/
theorem exists_of_seen? (correlated : Correlated past session) {tag : Tag} {wait : Wait}
    {result : Except Failure Reply} (seen : session.seen? tag = some (wait, result)) :
    ∃ call ∈ waiting past, call.tag = tag ∧ call.wait = wait ∧
      call.outcome? (since past tag) session.now = some result := by
  rcases correlated.mem_callers.mp (mem_of_seen? seen).1 with ⟨call, waits, same⟩
  cases same
  rw [correlated.seen?_eq waits] at seen
  rcases Option.map_eq_some_iff.mp seen with ⟨outcome, outcome_eq, pair⟩
  cases pair
  exact ⟨call, waits, rfl, rfl, outcome_eq⟩

/-! ## What an occurrence does -/

theorem of_apart (correlated : Correlated past session) (apart : Apart session next) :
    Correlated past next where
  orderly := correlated.orderly
  coherent := apart.core.registry_eq ▸ correlated.coherent
  handles_eq := apart.core.registry_eq ▸ correlated.handles_eq
  callers_perm := apart.callers_eq ▸ correlated.callers_perm
  numbered :=
    { nextId_eq := apart.core.nextId_eq ▸ correlated.numbered.nextId_eq
      ids_le := correlated.numbered.ids_le
      tickets_lt := fun call inside =>
        Nat.lt_of_lt_of_le (correlated.numbered.tickets_lt call inside) apart.tickets_le }
  closed := fun phase =>
    apart.core.registry_eq ▸ correlated.closed (apart.core.closed_iff.mp phase)

/--
A message id is taken.  The registry does not change by that, and there are still ids that
have not been used.
-/
theorem issue (correlated : Correlated past session) (few : issued past + 1 < UInt32.size) :
    Correlated (past ++ [.issued session.core.takeId.1])
      { session with core := session.core.takeId.2 } := by
  have waiting_eq : waiting (past ++ [.issued session.core.takeId.1]) = waiting past :=
    waiting_concat_quiet rfl rfl
  exact
    { orderly := correlated.orderly.concat nofun nofun nofun
      coherent := correlated.coherent
      handles_eq := by
        rw [waiting_eq]
        refine correlated.handles_eq.trans (List.map_congr_left fun call waits => ?_)
        exact (handleOf_concat_quiet (mem_waiting.mp waits).1 rfl).symm
      callers_perm := by
        rw [waiting_eq]
        exact correlated.callers_perm
      numbered := correlated.numbered.issue few
      closed := correlated.closed }

/--
A request is registered under a message id that nobody has had.  It joins those who wait,
with nothing decided for it, and nobody else is touched.
-/
theorem openCall (correlated : Correlated past session) {registry : Registry}
    (registered :
      session.core.registry.register call.messageId = .ok (call.wait.token, registry))
    (fresh : call.messageId ∉ (opened past).map Call.messageId)
    (counted : call.messageId.toNat ≤ issued past)
    (ticket_eq : call.tag.ticket = session.nextTicket)
    (deadline_eq : call.wait.deadline = call.since + call.wait.budget.nanoseconds)
    (registry_eq : next.core.registry = registry)
    (nextId_eq : next.core.nextId = session.core.nextId)
    (isOpen : next.core.link.phase ≠ .closed)
    (callers_perm : next.callers.Perm ((call.tag, call.wait) :: session.callers))
    (nextTicket_eq : next.nextTicket = session.nextTicket + 1) :
    Correlated (past ++ [.opened call]) next := by
  have new := correlated.numbered.tag_fresh ticket_eq
  have waiting_eq : waiting (past ++ [.opened call]) = waiting past ++ [call] :=
    waiting_concat_opened fun ended => new (correlated.orderly.concluded_subset ended)
  exact
    { orderly := by
        refine correlated.orderly.concat (fun other same => ?_) nofun nofun
        cases same
        exact ⟨fresh, new, deadline_eq⟩
      coherent := registry_eq ▸ correlated.coherent.register registered
      handles_eq := by
        rw [registry_eq, Registry.handles_of_register registered, correlated.handles_eq,
          waiting_eq, List.map_append, List.map_singleton, handleOf_concat_opened new]
        refine congrArg (· ++ _) (List.map_congr_left fun other waits => ?_)
        exact (handleOf_concat_quiet (mem_waiting.mp waits).1 rfl).symm
      callers_perm := by
        rw [waiting_eq, List.map_append]
        exact (callers_perm.trans (correlated.callers_perm.cons _)).trans
          (List.perm_append_singleton _ _).symm
      numbered := correlated.numbered.openCall counted ticket_eq nextId_eq nextTicket_eq
      closed := fun phase => absurd phase isOpen }

/--
Something is decided for requests that wait, and none of them has looked yet.  The handles
change as the history does, and everybody goes on waiting until he looks.
-/
theorem decision (correlated : Correlated past session) {occurrence : Occurrence}
    (unopened : occurrence.opened? = none) (unended : occurrence.concluded? = none)
    (uncounted : occurrence.isIssued = false)
    (coherent : next.core.registry.Coherent)
    (handles_eq : next.core.registry.handles =
      (waiting past).map (handleOf (past ++ [occurrence])))
    (nextId_eq : next.core.nextId = session.core.nextId)
    (callers_eq : next.callers = session.callers)
    (tickets_le : session.nextTicket ≤ next.nextTicket)
    (closed : next.core.link.phase = .closed → next.core.registry.entries = []) :
    Correlated (past ++ [occurrence]) next := by
  have waiting_eq : waiting (past ++ [occurrence]) = waiting past :=
    waiting_concat_quiet unopened unended
  exact
    { orderly := by
        refine correlated.orderly.concat ?_ ?_ ?_
        · rintro call rfl
          cases unopened
        · intro tag ended
          rw [unended] at ended
          cases ended
        · rintro call now result rfl
          cases unended
      coherent := coherent
      handles_eq := by
        rw [waiting_eq]
        exact handles_eq
      callers_perm := by
        rw [waiting_eq, callers_eq]
        exact correlated.callers_perm
      numbered := correlated.numbered.concat_none unopened uncounted nextId_eq tickets_le
      closed := closed }

theorem reply (correlated : Correlated past session) (reply : Reply) :
    Correlated (past ++ [.replied reply])
      { session with core := (session.core.deliver reply).2 } := by
  have delivered : (session.core.deliver reply).2.registry =
      session.core.registry.answer reply.messageId (.filled reply) :=
    correlated.coherent.deliver_eq reply
  refine correlated.decision rfl rfl rfl (correlated.coherent.deliver reply) ?_ rfl rfl le_rfl ?_
  · simp only [delivered, Registry.answer, correlated.handles_eq, List.map_map]
    refine List.map_congr_left fun call waits => ?_
    exact (handleOf_concat_replied (mem_waiting.mp waits).1 reply).symm
  · intro phase
    have nobody := correlated.closed phase
    simp only [delivered, Registry.answer, nobody, List.filter_nil]

/--
The registry is cleared, or there is nothing to clear.  Those without a reply find that the
link is closed, and the others keep what they have.
-/
theorem shut (correlated : Correlated past session)
    (coherent : next.core.registry.Coherent) (cleared : next.core.registry.entries = [])
    (handles_eq : next.core.registry.handles =
      session.core.registry.handles.map (Handle.fill .abandoned))
    (nextId_eq : next.core.nextId = session.core.nextId)
    (callers_eq : next.callers = session.callers)
    (tickets_le : session.nextTicket ≤ next.nextTicket) :
    Correlated (past ++ [.shut]) next := by
  refine correlated.decision rfl rfl rfl coherent ?_ nextId_eq callers_eq tickets_le
    fun _ => cleared
  rw [handles_eq, correlated.handles_eq, List.map_map]
  refine List.map_congr_left fun call waits => ?_
  exact (handleOf_concat_shut (mem_waiting.mp waits).1).symm

/--
A request has got its result or has been cancelled, and its handle is dropped.  It is no
longer among those who wait, and all others keep their handles.
-/
theorem endCall (correlated : Correlated past session) {occurrence : Occurrence}
    (waits : call ∈ waiting past) (ends : occurrence.concluded? = some call.tag)
    (resolves : ∀ now result, occurrence = .resolved call.tag now result →
      call.outcome? (since past call.tag) now = some result)
    (registry_eq : next.core.registry = session.core.registry.drop call.wait.token)
    (nextId_eq : next.core.nextId = session.core.nextId)
    (closed_iff : next.core.link.phase = .closed ↔ session.core.link.phase = .closed)
    (callers_eq : next.callers = session.callers.filter fun entry => entry.1 ≠ call.tag)
    (nextTicket_eq : next.nextTicket = session.nextTicket) :
    Correlated (past ++ [occurrence]) next := by
  rcases only_concluded ends with ⟨unopened, uncounted, undecided⟩
  have waiting_eq := waiting_concat_concluded past unopened ends
  have handles_eq := correlated.coherent.drop_handles correlated.ids_nodup call.wait.token
  exact
    { orderly := by
        refine correlated.orderly.concat ?_ ?_ ?_
        · rintro other rfl
          cases unopened
        · intro tag ended
          rw [ends] at ended
          cases ended
          exact List.mem_map_of_mem waits
        · rintro other now result rfl there
          have same : other.tag = call.tag := Option.some.inj ends
          rw [List.inj_on_of_nodup_map correlated.tags_nodup there waits same]
          exact resolves now result (by rw [same])
      coherent := registry_eq ▸ correlated.coherent.drop _
      handles_eq := by
        rw [registry_eq, handles_eq, correlated.handles_eq, waiting_eq, List.filter_map]
        -- What goes by its token is what the history takes away by its tag.
        have kept : (waiting past).filter ((fun handle => decide (handle.token ≠ call.wait.token)) ∘
            handleOf past) = (waiting past).filter fun other => other.tag ≠ call.tag := by
          refine List.filter_congr fun other there => ?_
          exact decide_eq_decide.mpr (not_congr (correlated.token_eq_iff there waits))
        rw [kept]
        refine List.map_congr_left fun other there => ?_
        have inside := (mem_waiting.mp (List.mem_filter.mp there).1).1
        exact (handleOf_concat_quiet inside (undecided _)).symm
      callers_perm := by
        rw [callers_eq, waiting_eq]
        refine (correlated.callers_perm.filter _).trans ?_
        rw [List.filter_map]
        exact List.Perm.refl _
      numbered :=
        correlated.numbered.concat_none unopened uncounted nextId_eq nextTicket_eq.symm.le
      closed := by
        intro phase
        have spent := correlated.coherent.entries_eq_nil_iff.mp
          (correlated.closed (closed_iff.mp phase))
        rw [registry_eq, (correlated.coherent.drop _).entries_eq_nil_iff, handles_eq]
        exact fun handle inside => spent handle (List.mem_filter.mp inside).1 }

end Correlated

end Session
end DeviceLink
