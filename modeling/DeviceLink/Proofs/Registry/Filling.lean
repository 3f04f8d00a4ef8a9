import DeviceLink.Proofs.Registry.History

namespace DeviceLink

/-!
How a handle comes by its reply.  It waits from its registration on, and what it has is
either the reply that is being delivered or one that it had before.  `Handle.Brings` is
the step from one registry to the next for a handle that is filled.  With it one can
tell where a reply came from, without looking at the entries that led to its handle.
-/

/--
What a handle has got is new in some way, or it has had it before.  Its message id is the
same before and after.
-/
def Handle.Brings (before after : Handle) (new : Reply → Prop) : Prop :=
  after.messageId = before.messageId ∧
    ∀ reply, after.slot = .filled reply → before.slot = .filled reply ∨ new reply

theorem Handle.Brings.mono {before after : Handle} {first second : Reply → Prop}
    (brings : before.Brings after first) (weaker : ∀ reply, first reply → second reply) :
    before.Brings after second :=
  ⟨brings.1, fun reply filled => (brings.2 reply filled).imp_right (weaker reply)⟩

namespace Registry.Coherent

variable {registry : Registry} {token : Nat} {handle : Handle}

theorem handle?_register (coherent : registry.Coherent) {messageId : UInt32} {next : Registry}
    (registered : registry.register messageId = .ok (token, next)) :
    next.handle? token = some ⟨token, messageId, .waiting⟩ := by
  refine (coherent.register registered).handle?_eq_some.mpr ⟨?_, rfl⟩
  rw [handles_of_register registered]
  exact List.mem_concat_self

theorem brings_clear (coherent : registry.Coherent) {new : Reply → Prop}
    (found : registry.clear.2.handle? token = some handle) :
    ∃ before, registry.handle? token = some before ∧ before.Brings handle new := by
  have cleared : registry.clear.2.handle? token =
      (registry.handle? token).map (Handle.fill .abandoned) := by
    rw [Registry.handle?, coherent.clear_handles, List.find?_map]
    simp only [Function.comp_def, Handle.token_fill]
    rfl
  rw [cleared] at found
  rcases Option.map_eq_some_iff.mp found with ⟨before, there, after_eq⟩
  rw [← Handle.answer_of_eq rfl] at after_eq
  have id_eq := Handle.messageId_answer.symm.trans (congrArg Handle.messageId after_eq)
  refine ⟨before, there, id_eq.symm, fun reply filled => .inl ?_⟩
  rw [Handle.eq_of_answer after_eq (by simp [filled]), filled]

theorem brings_deliver (coherent : registry.Coherent) {reply : Reply}
    (found : (registry.deliver reply).2.handle? token = some handle) :
    ∃ before, registry.handle? token = some before ∧ before.Brings handle fun answer =>
      answer = reply ∧ handle.messageId = reply.messageId ∧ (registry.deliver reply).1 = true := by
  rw [coherent.deliver_eq, handle?_answer] at found
  rcases Option.map_eq_some_iff.mp found with ⟨before, there, after_eq⟩
  have id_eq := Handle.messageId_answer.symm.trans (congrArg Handle.messageId after_eq)
  refine ⟨before, there, id_eq.symm, fun answer filled => ?_⟩
  by_cases served : before.messageId = reply.messageId ∧ before.slot = .waiting
  · rcases served with ⟨same, waits⟩
    have known := (mem_of_handle? there).1
    have pending := (Handle.pending?_eq_some before).mpr ⟨waits, rfl⟩
    rw [Handle.answer_of_eq same, Handle.fill_of_pending?_eq_some pending] at after_eq
    have slot_eq := (congrArg Handle.slot after_eq).trans filled
    exact .inr ⟨(Slot.filled.inj slot_eq).symm, id_eq.symm.trans same,
      coherent.deliver_of_waiting known waits same⟩
  · rw [Handle.answer_eq_self fun same waits => served ⟨same, waits⟩] at after_eq
    exact .inl (after_eq ▸ filled)

end Registry.Coherent

end DeviceLink
