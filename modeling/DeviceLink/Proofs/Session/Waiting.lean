import DeviceLink.Proofs.Session.Attended

namespace DeviceLink
namespace Session

variable {σ : Type}

/-!
What a move does to those who wait for replies.  There are five ways, and the last three
concern one request each, so that a request gets its reply only from an inbound frame
and loses it only when it leaves.  `Change` has a constructor for each of the five ways,
and every theorem about those who wait is one case analysis over it.  A shutdown is left
out here, since it decides for everybody at once.
-/

/--
The moves that begin a shutdown, of the session or of its pool alone.  All others leave the
pool open and the registry as it is used every day.
-/
def Move.shuts : Move σ → Bool
  | shutdown _ => true
  | shutdownPool _ _ => true
  | _ => false

inductive Change (session : Session σ) : Move σ → Session σ → Prop
  /-- Nobody is concerned.  Whoever waits finds the same as before. -/
  | aside {move : Move σ} {next : Session σ}
      (registry_eq : next.core.registry = session.core.registry)
      (callers_eq : next.callers = session.callers)
      (tickets_le : session.nextTicket ≤ next.nextTicket) : Change session move next
  | reply {text : String} {next : Session σ} (reply : Reply)
      (inbound : Inbound.ofText text = .ok (.response reply.messageId reply.code reply.payload))
      (registry_eq : next.core.registry =
        session.core.registry.answer reply.messageId (.filled reply))
      (callers_eq : next.callers = session.callers)
      (tickets_eq : next.nextTicket = session.nextTicket) : Change session (.receive text) next
  /--
  A request is registered, and withdrawn because its frame cannot leave.  The registry is
  then the same as before but for the number of handles given out.
  -/
  | withdraw {move : Move σ} {next : Session σ} (messageId : UInt32) (token : Nat)
      (registry : Registry)
      (registered : session.core.registry.register messageId = .ok (token, registry))
      (registry_eq : next.core.registry = registry.drop token)
      (callers_eq : next.callers = session.callers)
      (tickets_le : session.nextTicket ≤ next.nextTicket) : Change session move next
  | openCall {move : Move σ} {next : Session σ} (tag : Tag) (wait : Wait) (messageId : UInt32)
      (registry : Registry)
      (registered : session.core.registry.register messageId = .ok (wait.token, registry))
      (registry_eq : next.core.registry = registry)
      (callers_perm : next.callers.Perm ((tag, wait) :: session.callers))
      (ticket_eq : tag.ticket = session.nextTicket)
      (tickets_eq : next.nextTicket = session.nextTicket + 1) : Change session move next
  | leave {move : Move σ} {next : Session σ} (tag : Tag) (wait : Wait)
      (calls : (tag, wait) ∈ session.callers)
      (ends : move = .poll tag ∨ move = .abort tag.label)
      (registry_eq : next.core.registry = session.core.registry.drop wait.token)
      (callers_eq : next.callers = session.callers.filter fun entry => entry.1 ≠ tag)
      (tickets_eq : next.nextTicket = session.nextTicket) : Change session move next

/-! ## Every move is one of these -/

section

variable {session : Session σ}

theorem change_of_apart {move : Move σ} {next : Session σ} (apart : Apart session next) :
    Change session move next :=
  .aside apart.core.registry_eq apart.callers_eq apart.tickets_le

theorem change_report (device : Address) (request : Request) :
    Change session (.report device request)
      { session with core := (session.core.sendAsync device request).2 } := by
  refine .aside ?_ rfl le_rfl
  cases prepared : session.core.prepare device request with
  | error failure => rw [Core.sendAsync_of_error session.core prepared]
  | ok payload => exact (Core.apart_sendAsync session.core prepared).registry_eq

theorem change_receive (setup : Setup σ) (coherent : session.core.registry.Coherent)
    (text : String) :
    Change session (.receive text)
      { session with core := (session.core.receive setup text).2 } := by
  unfold Core.receive
  cases inbound : Inbound.ofText text with
  | error fault => exact .aside rfl rfl le_rfl
  | ok frame =>
      cases frame with
      | call messageId method payload =>
          exact .aside (Core.apart_receiveCall session.core _ _ _).registry_eq rfl le_rfl
      | response messageId code payload =>
          let reply : Reply := ⟨messageId, code, payload⟩
          have apart := Core.apart_receiveReply setup session.core reply
          exact .reply reply inbound (apart.registry_eq.trans (coherent.deliver_eq reply)) rfl rfl

theorem change_request (label : String) (device : Address) (request : Request)
    (budget : Duration) :
    Change session (.request label device request budget)
      (session.request label device request budget).session := by
  rw [request_eq]
  unfold Core.sendSync
  split
  · exact change_of_apart (apart_start session label)
  · split
    · exact change_of_apart (apart_start session label)
    · rename_i due _ _ payload _
      have way := Core.opened_openWait session.core.takeId.2 request session.core.takeId.1
        payload due budget
      dsimp only at way ⊢
      generalize session.core.takeId.2.openWait request session.core.takeId.1 payload due
        budget = result at way ⊢
      rcases result with ⟨opening, core⟩
      cases way with
      | refused failure => exact .aside rfl rfl (Nat.le_succ _)
      | failed failure token registry registered _ apart =>
          exact .withdraw _ token registry registered apart.registry_eq rfl (Nat.le_succ _)
      | sent token registry registered _ apart =>
          exact .openCall ⟨label, session.nextTicket⟩ ⟨token, due, budget⟩
            session.core.takeId.1 registry registered apart.registry_eq
            (Agenda.perm_insert _ _ _) rfl rfl

/--
At most one caller has a tag.  A tag that is given up is therefore given up for one request
at most.
-/
theorem Attended.pending_eq (attended : Attended session) {tag : Tag} {wait : Wait}
    (calls : (tag, wait) ∈ session.callers) :
    Correlated.pending session tag = [(tag, wait)] := by
  have nodup : (Correlated.pending session tag).Nodup := attended.tags_nodup.of_map.filter _
  refine List.perm_singleton.mp ((List.perm_ext_iff_of_nodup nodup (List.nodup_singleton _)).mpr ?_)
  intro entry
  rw [Correlated.pending, List.mem_filter, List.mem_singleton, decide_eq_true_iff]
  constructor
  · rintro ⟨inside, same⟩
    exact attended.eq_of_tag_eq inside calls same
  · rintro rfl
    exact ⟨calls, rfl⟩

theorem change_giveUp (attended : Attended session) (tag : Tag) :
    Change session (.abort tag.label) (session.giveUp tag) := by
  have apart := Correlated.apart_giveUp session tag
  by_cases called : ∃ wait, (tag, wait) ∈ session.callers
  · rcases called with ⟨wait, calls⟩
    rw [attended.pending_eq calls] at apart
    exact .leave tag wait calls (Or.inr rfl) apart.registry_eq rfl rfl
  · have others : ∀ entry ∈ session.callers, entry.1 ≠ tag := by
      rintro ⟨_, wait⟩ inside rfl
      exact called ⟨wait, inside⟩
    have nobody : Correlated.pending session tag = [] :=
      List.filter_eq_nil_iff.mpr fun entry inside => by simpa using others entry inside
    rw [nobody] at apart
    refine .aside apart.registry_eq ?_ le_rfl
    exact List.filter_eq_self.mpr fun entry inside => decide_eq_true (others entry inside)

theorem change_abort (attended : Attended session) (label : String) :
    Change session (.abort label) (session.abort label).2 := by
  unfold Session.abort
  split
  · rename_i tag known
    have named : tag.label = label := by simpa using List.find?_some known
    rw [← named]
    exact change_giveUp attended tag
  · exact .aside rfl rfl le_rfl

theorem change_poll (attended : Attended session) (tag : Tag) :
    Change session (.poll tag) (session.poll tag) := by
  unfold poll
  split
  · rename_i wait result seen
    have calls := (mem_of_seen? seen).1
    refine .leave tag wait calls (Or.inl rfl) rfl ?_ rfl
    refine List.filter_congr fun entry inside => decide_eq_decide.mpr (not_congr ?_)
    exact attended.token_eq_iff inside calls
  · exact .aside rfl rfl le_rfl

/--
What any move does to those who wait, unless it begins a shutdown.  There are as many cases
as `Change` has constructors, and no move has two effects at once.
-/
theorem change_perform (attended : Attended session) (setup : Setup σ) {move : Move σ}
    (goesOn : move.shuts = false) : Change session move (session.perform setup move) := by
  cases concerned : move.concernsRequests with
  | false => exact change_of_apart (apart_of_unconcerned setup session concerned)
  | true =>
      cases move with
      | report device request => exact change_report device request
      | receive text => exact change_receive setup attended.coherent text
      | request label device request budget => exact change_request label device request budget
      | abort label => exact change_abort attended label
      | poll tag => exact change_poll attended tag
      | shutdown label => cases goesOn
      | _ => cases concerned

end

/-! ## What is kept -/

section

variable {session next : Session σ} {move : Move σ}

/--
Those who wait are in order after every move.  It follows from the kind of change alone,
whatever move has made it.
-/
theorem Change.attended (change : Change session move next) (attended : Attended session) :
    Attended next := by
  cases change with
  | aside registry_eq callers_eq tickets_le =>
      exact
        { coherent := registry_eq ▸ attended.coherent
          tokens_perm := by
            rw [registry_eq, callers_eq]
            exact attended.tokens_perm
          tags_nodup := callers_eq ▸ attended.tags_nodup
          tickets_lt := fun entry inside =>
            Nat.lt_of_lt_of_le (attended.tickets_lt entry (callers_eq ▸ inside)) tickets_le }
  | reply reply inbound registry_eq callers_eq tickets_eq =>
      exact
        { coherent := registry_eq ▸ attended.coherent.answer _ _ nofun
          tokens_perm := by
            rw [registry_eq, callers_eq, Registry.tokens_answer]
            exact attended.tokens_perm
          tags_nodup := callers_eq ▸ attended.tags_nodup
          tickets_lt := by
            rw [callers_eq, tickets_eq]
            exact attended.tickets_lt }
  | withdraw messageId token registry registered registry_eq callers_eq tickets_le =>
      have after := attended.coherent.register registered
      have fresh := attended.coherent.fresh_of_register registered
      exact
        { coherent := registry_eq ▸ after.drop token
          tokens_perm := by
            rw [registry_eq, callers_eq, after.tokens_drop, Registry.handles_of_register registered,
              List.map_append, List.filter_append, List.map_singleton,
              List.filter_cons_of_neg (by simp), List.filter_nil, List.append_nil,
              List.filter_eq_self.mpr]
            · exact attended.tokens_perm
            · intro other inside
              exact decide_eq_true fun same => fresh (same ▸ inside)
          tags_nodup := callers_eq ▸ attended.tags_nodup
          tickets_lt := fun entry inside =>
            Nat.lt_of_lt_of_le (attended.tickets_lt entry (callers_eq ▸ inside)) tickets_le }
  | openCall tag wait messageId registry registered registry_eq callers_perm ticket_eq tickets_eq =>
      subst registry_eq
      exact
        { coherent := attended.coherent.register registered
          tokens_perm := by
            refine (callers_perm.map _).trans ?_
            rw [Registry.handles_of_register registered, List.map_append]
            exact (attended.tokens_perm.cons _).trans (List.perm_append_singleton _ _).symm
          tags_nodup := by
            rw [(callers_perm.map _).nodup_iff, List.map_cons, List.nodup_cons]
            refine ⟨fun inside => ?_, attended.tags_nodup⟩
            rcases List.mem_map.mp inside with ⟨entry, there, same⟩
            have below := attended.tickets_lt entry there
            rw [same, ticket_eq] at below
            exact Nat.lt_irrefl _ below
          tickets_lt := by
            intro entry inside
            rw [tickets_eq]
            rcases List.mem_cons.mp (callers_perm.subset inside) with rfl | old
            · exact ticket_eq ▸ Nat.lt_succ_self _
            · exact Nat.lt_succ_of_lt (attended.tickets_lt entry old) }
  | leave tag wait calls ends registry_eq callers_eq tickets_eq =>
      have kept : session.callers.filter (fun entry => entry.1 ≠ tag) =
          session.callers.filter fun entry => entry.2.token ≠ wait.token := by
        refine List.filter_congr fun entry inside => decide_eq_decide.mpr (not_congr ?_)
        exact (attended.token_eq_iff inside calls).symm
      exact
        { coherent := registry_eq ▸ attended.coherent.drop _
          tokens_perm := by
            rw [registry_eq, attended.coherent.tokens_drop, callers_eq, kept]
            refine List.Perm.trans ?_ (attended.tokens_perm.filter _)
            rw [List.filter_map]
            exact List.Perm.refl _
          tags_nodup := by
            rw [callers_eq]
            exact (List.filter_sublist.map _).nodup attended.tags_nodup
          tickets_lt := by
            rw [callers_eq, tickets_eq]
            exact fun entry inside => attended.tickets_lt entry (List.mem_filter.mp inside).1 }

/--
A request that has its reply keeps it, or takes it with it when it leaves.  No frame, no
deadline and no other request can take it away.
-/
theorem Change.keeps (change : Change session move next) (attended : Attended session)
    {tag : Tag} {wait : Wait} {reply : Reply} (has : session.Has tag wait reply) :
    next.Has tag wait reply ∨ move = .poll tag ∨ move = .abort tag.label := by
  rcases has with ⟨calls, messageId, filled⟩
  cases change with
  | aside registry_eq callers_eq tickets_le =>
      exact Or.inl ⟨callers_eq ▸ calls, messageId, registry_eq ▸ filled⟩
  | reply other inbound registry_eq callers_eq tickets_eq =>
      refine Or.inl ⟨callers_eq ▸ calls, messageId, ?_⟩
      rw [registry_eq, Registry.handle?_answer, filled]
      exact congrArg some (Handle.answer_of_pending?_eq_none rfl)
  | withdraw _ token registry registered registry_eq callers_eq tickets_le =>
      have known := List.mem_map_of_mem (f := Handle.token) (Registry.mem_of_handle? filled).1
      have other : wait.token ≠ token := fun same =>
        attended.coherent.fresh_of_register registered (same ▸ known)
      refine Or.inl ⟨callers_eq ▸ calls, messageId, ?_⟩
      rw [registry_eq, (attended.coherent.register registered).handle?_drop_filled other]
      exact (Registry.handle?_register_filled registered).mpr filled
  | openCall _ _ _ registry registered registry_eq callers_perm ticket_eq tickets_eq =>
      subst registry_eq
      refine Or.inl ⟨callers_perm.symm.subset (List.mem_cons_of_mem _ calls), messageId, ?_⟩
      exact (Registry.handle?_register_filled registered).mpr filled
  | leave other otherWait there ends registry_eq callers_eq tickets_eq =>
      by_cases same : tag = other
      · rw [same]
        exact Or.inr ends
      · have different : wait.token ≠ otherWait.token := fun token_eq =>
          same ((attended.token_eq_iff calls there).mp token_eq)
        refine Or.inl ⟨?_, messageId, ?_⟩
        · rw [callers_eq]
          exact List.mem_filter.mpr ⟨calls, decide_eq_true same⟩
        · rw [registry_eq, attended.coherent.handle?_drop_filled different]
          exact filled

/--
A request gets a reply only from the frame that brings it, and only if it awaits it.  It had
been waiting for this message id when the frame came in.
-/
theorem Change.gains (change : Change session move next) (attended : Attended session)
    {tag : Tag} {wait : Wait} {reply : Reply} (has : next.Has tag wait reply) :
    session.Has tag wait reply ∨ session.Awaits tag wait reply.messageId ∧
      ∃ text, move = .receive text ∧
        Inbound.ofText text = .ok (.response reply.messageId reply.code reply.payload) := by
  rcases has with ⟨calls, messageId, filled⟩
  cases change with
  | aside registry_eq callers_eq tickets_le =>
      exact Or.inl ⟨callers_eq ▸ calls, messageId, registry_eq ▸ filled⟩
  | reply other inbound registry_eq callers_eq tickets_eq =>
      rw [callers_eq] at calls
      rw [registry_eq, Registry.handle?_answer, Option.map_eq_some_iff] at filled
      rcases filled with ⟨⟨token, id, slot⟩, found, answered⟩
      by_cases quiet : id = other.messageId → slot ≠ .waiting
      · rw [Handle.answer_eq_self quiet] at answered
        exact Or.inl ⟨calls, messageId, answered ▸ found⟩
      · rw [Classical.not_imp, not_not] at quiet
        rcases quiet with ⟨rfl, rfl⟩
        have taken : Handle.answer other.messageId (.filled other)
            ⟨token, other.messageId, .waiting⟩ = ⟨token, other.messageId, .filled other⟩ :=
          Handle.answer_of_eq rfl
        rw [taken] at answered
        cases answered
        exact Or.inr ⟨⟨calls, found⟩, _, rfl, inbound⟩
  | withdraw _ token registry registered registry_eq callers_eq tickets_le =>
      rw [callers_eq] at calls
      have other : wait.token ≠ token := by
        intro same
        have present := (Registry.mem_of_handle? filled).1
        have tokens := (attended.coherent.register registered).tokens_drop token
        have gone := List.mem_map_of_mem (f := Handle.token) present
        rw [registry_eq, tokens, same] at gone
        simp at gone
      rw [registry_eq, (attended.coherent.register registered).handle?_drop_filled other] at filled
      exact Or.inl ⟨calls, messageId, (Registry.handle?_register_filled registered).mp filled⟩
  | openCall other otherWait id registry registered registry_eq callers_perm ticket_eq tickets_eq =>
      subst registry_eq
      have old := (Registry.handle?_register_filled registered).mp filled
      refine Or.inl ⟨?_, messageId, old⟩
      rcases List.mem_cons.mp (callers_perm.subset calls) with new | there
      · -- The token of a new request belongs to no handle of before.
        cases new
        have known := List.mem_map_of_mem (f := Handle.token) (Registry.mem_of_handle? old).1
        exact absurd known (attended.coherent.fresh_of_register registered)
      · exact there
  | leave other otherWait there ends registry_eq callers_eq tickets_eq =>
      rw [callers_eq, List.mem_filter, decide_eq_true_iff] at calls
      have different : wait.token ≠ otherWait.token := fun token_eq =>
        calls.2 ((attended.token_eq_iff calls.1 there).mp token_eq)
      rw [registry_eq, attended.coherent.handle?_drop_filled different] at filled
      exact Or.inl ⟨calls.1, messageId, filled⟩

end

end Session
end DeviceLink
