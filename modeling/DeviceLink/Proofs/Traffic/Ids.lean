import DeviceLink.Proofs.Traffic.Steps

namespace DeviceLink
namespace Traffic

variable {σ : Type}

/-!
The message ids of requests.  As long as the counter has not come round, no two requests
have the same one.  `Numbered` keeps the list of all ids that have been taken together
with those that the requests have.  The second part of the module lets the counter come
round, by reports that an outlet refuses, and is used where it is shown what happens
then.
-/

/--
The message id of a request that has one.  It is given by the counter, before anything is
registered under it.
-/
def Stage.id? : Stage → Option UInt32
  | .numbered messageId => some messageId
  | stage => stage.slip?.map Slip.messageId

theorem Stage.id?_of_slip? {stage : Stage} {slip : Slip} (has : stage.slip? = some slip) :
    stage.id? = some slip.messageId := by
  cases stage with
  | begun | checked | numbered => cases has
  | registered | routed | waiting | leaving | returned => exact congrArg (Option.map _) has

def ids (callers : List Caller) : List UInt32 := callers.filterMap fun caller => caller.stage.id?

/--
Message ids are given out one after the other, and each to one request only.  What has been
issued is the beginning of a sequence without repetition, until the counter comes round.
-/
structure Numbered (issued : List UInt32) (traffic : Traffic σ) : Prop where
  nextId_eq : traffic.core.nextId = UInt32.ofNat (issued.length + 1)
  ids_nodup : (ids traffic.callers).Nodup
  ids_le : ∀ messageId ∈ ids traffic.callers, messageId.toNat ≤ issued.length

theorem ids_sides (before rest : List Caller) (caller : Caller) :
    ids (before ++ caller :: rest) = ids before ++ (caller.stage.id?.toList ++ ids rest) := by
  rw [ids, List.filterMap_append, List.filterMap_cons]
  cases caller.stage.id? <;> rfl

/--
A step takes the next message id, or none at all.  Only the step of a request that has
passed its check takes one.
-/
theorem Advance.takes {caller : Caller} {core after : Core σ} {now : Nat} {stage next : Stage}
    {notes : List Registry.Occurrence} (advance : Advance caller core now stage after next notes) :
    (Caller.takes core stage = [core.takeId.1] ∧ after.nextId = core.takeId.2.nextId ∧
        stage.id? = none ∧ next.id? = some core.takeId.1) ∨
      (Caller.takes core stage = [] ∧ after.nextId = core.nextId ∧
        (next.id? = stage.id? ∨ next.id? = none)) := by
  cases advance with
  | numbered => exact .inl ⟨rfl, rfl, rfl, rfl⟩
  | sent apart | unsent apart => exact .inr ⟨rfl, apart.nextId_eq, .inl rfl⟩
  | unconnected | checked | registered | routed | unrouted | finished | goesOn | left | returned =>
      exact .inr ⟨rfl, rfl, .inl rfl⟩
  | unregistered => exact .inr ⟨rfl, rfl, .inr rfl⟩

namespace Numbered

variable {issued : List UInt32} {traffic : Traffic σ}

theorem of_same (numbered : Numbered issued traffic) {next : Traffic σ}
    (nextId_eq : next.core.nextId = traffic.core.nextId)
    (fewer : (ids next.callers).Sublist (ids traffic.callers)) : Numbered issued next where
  nextId_eq := nextId_eq.trans numbered.nextId_eq
  ids_nodup := fewer.nodup numbered.ids_nodup
  ids_le := fun messageId inside => numbered.ids_le messageId (fewer.mem inside)

/--
The next message id goes to somebody who has none yet, or to nobody.  Nobody who has one
loses it or gets another one.
-/
theorem take (numbered : Numbered issued traffic) {next : Traffic σ}
    (few : (issued ++ [traffic.core.takeId.1]).length < UInt32.size)
    (nextId_eq : next.core.nextId = traffic.core.takeId.2.nextId)
    (more : (ids next.callers).Perm (ids traffic.callers) ∨
      (ids next.callers).Perm (traffic.core.takeId.1 :: ids traffic.callers)) :
    Numbered (issued ++ [traffic.core.takeId.1]) next := by
  have length_eq : (issued ++ [traffic.core.takeId.1]).length = issued.length + 1 :=
    List.length_append
  rw [length_eq] at few
  have number : traffic.core.takeId.1.toNat = issued.length + 1 := by
    rw [Core.takeId_eq numbered.nextId_eq few]
    exact Core.toNat_nextId numbered.nextId_eq few
  have fresh : traffic.core.takeId.1 ∉ ids traffic.callers := by
    intro inside
    have below := numbered.ids_le _ inside
    rw [number] at below
    exact Nat.not_succ_le_self _ below
  refine ⟨?_, ?_, ?_⟩
  · rw [length_eq, nextId_eq, Core.takeId_eq numbered.nextId_eq few]
  · rcases more with same | more
    · exact same.nodup_iff.mpr numbered.ids_nodup
    · exact more.nodup_iff.mpr (List.nodup_cons.mpr ⟨fresh, numbered.ids_nodup⟩)
  · intro messageId inside
    rw [length_eq]
    rcases more with same | more
    · exact Nat.le_succ_of_le (numbered.ids_le _ (same.mem_iff.mp inside))
    · rcases List.mem_cons.mp (more.mem_iff.mp inside) with rfl | old
      · exact Nat.le_of_eq number
      · exact Nat.le_succ_of_le (numbered.ids_le _ old)

theorem step (numbered : Numbered issued traffic) (index : Nat)
    (few : (issued ++ traffic.issues (.step index)).length < UInt32.size) :
    Numbered (issued ++ traffic.issues (.step index)) (traffic.step index) := by
  cases found : traffic.callers[index]? with
  | none =>
      have quiet : traffic.issues (.step index) = [] := by simp only [issues, found]
      rw [(step_of_missing found).1, quiet, List.append_nil]
      exact numbered
  | some caller =>
      rcases step_of_found found with ⟨before, rest, core, stage, -, callers_eq, step_eq, advance⟩
      have issues_eq : traffic.issues (.step index) = Caller.takes traffic.core caller.stage := by
        simp only [issues, found]
      rw [issues_eq] at few ⊢
      rw [step_eq]
      rcases advance.takes with ⟨takes, nextId_eq, before_eq, after_eq⟩ | ⟨takes, nextId_eq, fewer⟩
      · rw [takes] at few ⊢
        refine numbered.take few nextId_eq (.inr ?_)
        rw [callers_eq, ids_sides, ids_sides, before_eq, after_eq]
        exact List.perm_middle
      · rw [takes, List.append_nil]
        refine numbered.of_same nextId_eq ?_
        rw [callers_eq, ids_sides, ids_sides]
        refine (List.Sublist.refl _).append (List.Sublist.append ?_ (.refl _))
        rcases fewer with same | nothing
        · rw [same]
        · rw [nothing]
          exact List.nil_sublist _

theorem call (numbered : Numbered issued traffic) (device : Address) (request : Request)
    (budget : Duration) : Numbered issued (traffic.call device request budget) := by
  rcases call_eq traffic device request budget with same | ⟨caller, call_eq, stage⟩
  · rw [same]
    exact numbered
  · have none_yet : caller.stage.id? = none := by
      rcases stage with stage | ⟨failure, stage⟩ <;> rw [stage] <;> rfl
    rw [call_eq]
    refine numbered.of_same rfl ?_
    rw [ids_sides, none_yet]
    exact (List.append_nil (ids traffic.callers)).symm ▸ .refl _

theorem report (numbered : Numbered issued traffic) (device : Address) (request : Request)
    (few : (issued ++ traffic.issues (.report device request)).length < UInt32.size) :
    Numbered (issued ++ traffic.issues (.report device request))
      { traffic with core := (traffic.core.sendAsync device request).2 } := by
  simp only [issues] at few ⊢
  cases prepared : traffic.core.prepare device request with
  | error failure =>
      rw [Core.sendAsync_of_error traffic.core prepared, List.append_nil]
      exact numbered
  | ok payload =>
      rw [prepared] at few
      exact numbered.take few
        (Core.apart_sendAsync traffic.core prepared).nextId_eq (.inl (.refl _))

theorem receive (numbered : Numbered issued traffic) (setup : Setup σ) (text : String) :
    Numbered issued { traffic with core := (traffic.core.receive setup text).2 } := by
  refine numbered.of_same ?_ (.refl _)
  simp only [Core.receive]
  cases Inbound.ofText text with
  | error error => rfl
  | ok inbound =>
      cases inbound with
      | call messageId method payload => exact (Core.apart_receiveCall _ _ _ _).nextId_eq
      | response messageId code payload => exact (Core.apart_receiveReply _ _ _).nextId_eq

theorem perform (numbered : Numbered issued traffic) (setup : Setup σ) (move : Move)
    (few : (issued ++ traffic.issues move).length < UInt32.size) :
    Numbered (issued ++ traffic.issues move) (traffic.perform setup move) := by
  have of_apart {core : Core σ} (apart : Core.Apart traffic.core core) :
      Numbered (issued ++ []) { traffic with core := core } := by
    rw [List.append_nil]
    exact numbered.of_same apart.nextId_eq (.refl _)
  cases move with
  | call device request budget =>
      exact (List.append_nil issued).symm ▸ numbered.call device request budget
  | step index => exact numbered.step index few
  | shutdown =>
      refine (List.append_nil issued).symm ▸ ?_
      rw [Traffic.perform]
      split
      · exact numbered.of_same (Core.shutdownLink_eq setup traffic.core).2.1 (.refl _)
      · exact numbered.of_same rfl (.refl _)
      · exact numbered
  | receive text => exact (List.append_nil issued).symm ▸ numbered.receive setup text
  | advance span => exact (List.append_nil issued).symm ▸ numbered.of_same rfl (.refl _)
  | establish outlet => exact of_apart (Core.apart_establish setup _ outlet)
  | closeLink => exact of_apart (Core.apart_closeLink setup _)
  | report device request => exact numbered.report device request few
  | work task => exact of_apart (Core.apart_step setup _ task)

end Numbered

/--
As long as the counter has not come round, message ids tell requests apart.  Those of
requests that nobody waits for are taken from the same counter.
-/
theorem numbered_run (setup : Setup σ) (world : σ) (moves : List Move)
    (few : ((new setup world).issued setup moves).length < UInt32.size) :
    Numbered ((new setup world).issued setup moves) ((new setup world).run setup moves) := by
  have kept : ∀ issued traffic move, True →
      (issued.length < UInt32.size → Numbered issued traffic) →
      ((issued ++ issues traffic move).length < UInt32.size →
        Numbered (issued ++ issues traffic move) (perform setup traffic move)) := by
    intro issued traffic move _ numbered few
    refine (numbered (Nat.lt_of_le_of_lt ?_ few)).perform setup move few
    rw [List.length_append]
    exact Nat.le_add_right _ _
  have start : ([] : List UInt32).length < UInt32.size → Numbered [] (new setup world) :=
    fun _ => ⟨rfl, List.nodup_nil, nofun⟩
  exact Run.keeps kept start (fun _ _ => trivial) few

theorem index_of_id {callers : List Caller} (distinct : (ids callers).Nodup) {first second : Nat}
    {one other : Caller} (found : callers[first]? = some one)
    (found_other : callers[second]? = some other) {messageId : UInt32}
    (has : one.stage.id? = some messageId) (has_other : other.stage.id? = some messageId) :
    first = second := by
  rcases List.getElem?_eq_some_iff.mp found with ⟨inside, rfl⟩
  rcases List.getElem?_eq_some_iff.mp found_other with ⟨there, rfl⟩
  have apart := List.pairwise_iff_getElem.mp (List.pairwise_filterMap.mp distinct)
  rcases Nat.lt_trichotomy first second with before | same | after
  · exact absurd rfl (apart first second inside there before messageId has messageId has_other)
  · exact same
  · exact absurd rfl (apart second first there inside after messageId has_other messageId has)

/-! ## The counter comes round -/

section

variable {traffic : Traffic σ} {device : Address} {request : Request} {payload : Json.Members}
  {sink : Nat} {failure : Failure}

/--
A report that the outlet refuses has taken a message id, and nothing else has changed.  So
the counter can be brought round without anybody being told.
-/
theorem report_refused (setup : Setup σ) (settled : request.payload device = .ok payload)
    (routes : traffic.core.link.route = .ok sink)
    (refuses : traffic.core.outlets[sink]? = some (.refusing failure)) :
    traffic.perform setup (.report device request) =
      { traffic with core := traffic.core.takeId.2 } := by
  have connected : traffic.core.link.ensureConnected = .ok () := by
    unfold Link.route at routes
    split at routes
    · rename_i phase _
      rw [Link.ensureConnected, phase]
    · cases routes
    · cases routes
  have routes_then : traffic.core.takeId.2.link.route = .ok sink := routes
  have refuses_then : traffic.core.takeId.2.outlets[sink]? = some (.refusing failure) := refuses
  simp only [perform, Core.sendAsync, Core.prepare, settled, connected, Core.send, routes_then,
    Core.hand, refuses_then, Outlet.accept]

theorem run_refused (setup : Setup σ) (settled : request.payload device = .ok payload)
    (routes : traffic.core.link.route = .ok sink)
    (refuses : traffic.core.outlets[sink]? = some (.refusing failure)) {taken count : Nat}
    (next : traffic.core.nextId = UInt32.ofNat (taken + 1)) (few : taken + count < UInt32.size) :
    traffic.run setup (List.replicate count (.report device request)) =
      { traffic with
        core := { traffic.core with nextId := UInt32.ofNat (taken + count + 1) } } := by
  induction count generalizing traffic taken with
  | zero =>
      rw [Nat.add_zero, ← next]
      rfl
  | succ count ih =>
      have first := report_refused setup settled routes refuses
      rw [Core.takeId_eq next (by omega)] at first
      have rest := @ih { traffic with
        core := { traffic.core with nextId := UInt32.ofNat (taken + 1 + 1) } } routes refuses
        (taken + 1) rfl (by omega)
      have same : taken + 1 + count = taken + (count + 1) := by omega
      rw [same] at rest
      rw [List.replicate_succ, run, List.foldl_cons, first]
      exact rest

end

end Traffic
end DeviceLink
