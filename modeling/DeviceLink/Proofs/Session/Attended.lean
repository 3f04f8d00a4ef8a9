import DeviceLink.Proofs.Registry.Lookup
import DeviceLink.Proofs.Session.Moves

namespace DeviceLink
namespace Session

variable {σ : Type}

/-!
Those who wait for replies, and the handles of the registry.  Every handle belongs to
one caller, whatever message ids have been used before, and a caller that has its reply
keeps it until it leaves.  `Attended` makes no use of the history, and no assumption
about message ids.  So it holds even of runs in which the counter comes round, where two
requests may be open under the same id one after the other.
-/

/--
Every handle of the registry has a caller, and no two callers have the same tag.  What is
said about handles can therefore be said about those who hold them.
-/
structure Attended (session : Session σ) : Prop where
  coherent : session.core.registry.Coherent
  tokens_perm : (session.callers.map fun entry => entry.2.token).Perm
    (session.core.registry.handles.map Handle.token)
  tags_nodup : (session.callers.map Prod.fst).Nodup
  tickets_lt : ∀ entry ∈ session.callers, entry.1.ticket < session.nextTicket

theorem attended_new (setup : Setup σ) (world : σ) : Attended (new setup world) where
  coherent := Registry.coherent_new _
  tokens_perm := List.Perm.nil
  tags_nodup := List.nodup_nil
  tickets_lt := nofun

/--
A synchronous request waits for the reply to a message id.  Its entry is in the registry and
nothing has been decided for it.
-/
structure Awaits (session : Session σ) (tag : Tag) (wait : Wait) (messageId : UInt32) : Prop where
  calls : (tag, wait) ∈ session.callers
  waits : session.core.registry.handle? wait.token = some ⟨wait.token, messageId, .waiting⟩

/--
A synchronous request has a reply, which it finds as soon as it looks.  Until it looks,
nothing that happens to the session takes the reply away from it.
-/
structure Has (session : Session σ) (tag : Tag) (wait : Wait) (reply : Reply) : Prop where
  calls : (tag, wait) ∈ session.callers
  filled : ∃ messageId,
    session.core.registry.handle? wait.token = some ⟨wait.token, messageId, .filled reply⟩

theorem result?_eq_ok {wait : Wait} {registry : Registry} {now : Nat} {reply : Reply} :
    wait.result? registry now = some (.ok reply) ↔
      ∃ messageId, registry.handle? wait.token = some ⟨wait.token, messageId, .filled reply⟩ := by
  unfold Wait.result?
  cases found : registry.handle? wait.token with
  | none => simp
  | some handle =>
      rcases handle with ⟨token, messageId, slot⟩
      have token_eq : token = wait.token := (Registry.mem_of_handle? found).2
      cases slot with
      | waiting =>
          by_cases due : wait.deadline ≤ now <;> simp [due]
      | filled other => simp [token_eq]
      | abandoned => simp

namespace Attended

variable {session next : Session σ} {tag : Tag} {wait : Wait} {reply : Reply}

theorem tokens_nodup (attended : Attended session) :
    (session.callers.map fun entry => entry.2.token).Nodup :=
  attended.tokens_perm.nodup_iff.mpr attended.coherent.tokens_nodup

theorem eq_of_tag_eq (attended : Attended session) {first second : Tag × Wait}
    (inside : first ∈ session.callers) (there : second ∈ session.callers)
    (same : first.1 = second.1) : first = second :=
  List.inj_on_of_nodup_map attended.tags_nodup inside there same

theorem eq_of_token_eq (attended : Attended session) {first second : Tag × Wait}
    (inside : first ∈ session.callers) (there : second ∈ session.callers)
    (same : first.2.token = second.2.token) : first = second :=
  List.inj_on_of_nodup_map attended.tokens_nodup inside there same

/--
Among the callers, the token and the tag name the same one.  The token is the registry's
name for a request, the tag is that of whoever made it.
-/
theorem token_eq_iff (attended : Attended session) {first second : Tag × Wait}
    (inside : first ∈ session.callers) (there : second ∈ session.callers) :
    first.2.token = second.2.token ↔ first.1 = second.1 := by
  constructor
  · intro same
    rw [attended.eq_of_token_eq inside there same]
  · intro same
    rw [attended.eq_of_tag_eq inside there same]

/--
Every handle is that of a caller.  Nobody else would drop it, and it would stay in the
registry for ever.
-/
theorem exists_caller (attended : Attended session) {handle : Handle}
    (inside : handle ∈ session.core.registry.handles) :
    ∃ tag wait, (tag, wait) ∈ session.callers ∧ wait.token = handle.token ∧
      session.core.registry.handle? wait.token = some handle := by
  have there := attended.tokens_perm.symm.subset (List.mem_map_of_mem inside)
  rcases List.mem_map.mp there with ⟨⟨tag, wait⟩, calls, same⟩
  exact ⟨tag, wait, calls, same, attended.coherent.handle?_eq_some.mpr ⟨inside, same.symm⟩⟩

/--
At most one request waits for a message id.  A second one with the same id would not have
been registered.
-/
theorem awaits_unique (attended : Attended session) {other : Tag} {otherWait : Wait}
    {messageId : UInt32} (awaits : session.Awaits tag wait messageId)
    (also : session.Awaits other otherWait messageId) : (other, otherWait) = (tag, wait) := by
  have first := Registry.mem_of_handle? awaits.waits
  have second := Registry.mem_of_handle? also.waits
  have entries := attended.coherent.eq_of_messageId_eq
    (attended.coherent.mem_entries.mpr ⟨_, second.1, rfl⟩)
    (attended.coherent.mem_entries.mpr ⟨_, first.1, rfl⟩) rfl
  exact attended.eq_of_token_eq also.calls awaits.calls (congrArg Entry.token entries)

/--
What a caller finds when it looks.  It depends on its own handle and deadline only, and on
the time.
-/
theorem seen?_eq (attended : Attended session) (calls : (tag, wait) ∈ session.callers) :
    session.seen? tag =
      (wait.result? session.core.registry session.now).map fun result => (wait, result) :=
  seen?_of_only calls fun _ there =>
    congrArg Prod.snd (attended.eq_of_tag_eq there calls rfl)

end Attended

/--
Nobody finds anything under a tag that no caller has.  So a look under such a tag changes
nothing and shows nothing.
-/
theorem seen?_eq_none {session : Session σ} {tag : Tag}
    (absent : ¬ ∃ wait, (tag, wait) ∈ session.callers) : session.seen? tag = none := by
  cases seen : session.seen? tag with
  | none => rfl
  | some found => exact absurd ⟨found.1, (mem_of_seen? seen).1⟩ absent

theorem Attended.seen?_ok_iff {session : Session σ} (attended : Attended session) {tag : Tag}
    {wait : Wait} {reply : Reply} :
    session.seen? tag = some (wait, .ok reply) ↔ session.Has tag wait reply := by
  constructor
  · intro seen
    rcases mem_of_seen? seen with ⟨calls, result⟩
    exact ⟨calls, result?_eq_ok.mp result⟩
  · intro has
    rw [attended.seen?_eq has.calls, result?_eq_ok.mpr has.filled]
    rfl

/--
A caller that finds nothing yet awaits a reply.  Every other caller has something to find,
were it only that its time is over.
-/
theorem Attended.awaits_of_unseen {session : Session σ} (attended : Attended session) {tag : Tag}
    {wait : Wait} (calls : (tag, wait) ∈ session.callers) (unseen : session.seen? tag = none) :
    ∃ messageId, session.Awaits tag wait messageId := by
  rw [attended.seen?_eq calls, Option.map_eq_none_iff, Wait.result?] at unseen
  cases found : session.core.registry.handle? wait.token with
  | none =>
      rw [found] at unseen
      cases unseen
  | some handle =>
      rcases handle with ⟨token, messageId, slot⟩
      have token_eq : token = wait.token := (Registry.mem_of_handle? found).2
      rw [found] at unseen
      cases slot with
      | waiting => exact ⟨messageId, calls, token_eq ▸ found⟩
      | filled | abandoned => cases unseen

end Session
end DeviceLink
