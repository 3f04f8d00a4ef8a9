import DeviceLink.Proofs.Traffic.Steps

namespace DeviceLink
namespace Traffic

open Registry (Occurrence Change ended)

variable {σ : Type}

/-!
What is known of every request at any moment: whose handles the registry holds, what has
been decided for whom, and why a request that has a result has this one.  All of it is
kept by every move, whatever the order of the moves.  `Tracked` is the invariant, and
`Placed` and `Explained` are the parts of it that depend on the stage of a request.
What a request finds is compared with the history since its registration, as it is for
the registry on its own.
-/

/-- The handles that requests have.  The registry has just these, in some order. -/
def held (callers : List Caller) : List Nat := callers.filterMap fun caller => caller.stage.held?

/--
Something has been decided for a registration, and this came first.  What has occurred
before the registration does not count.
-/
def Decided (past : List Occurrence) (slip : Slip) (result : Except Failure Reply) : Prop :=
  ∃ earlier later, past = earlier ++ .registered slip.token slip.messageId :: later ∧
    later.findSome? (Occurrence.decision? slip.messageId) = some result

/-- Another registration has had the same message id.  It takes a counter that has come round. -/
def Shared (past : List Occurrence) (slip : Slip) : Prop :=
  ∃ token, token ≠ slip.token ∧ .registered token slip.messageId ∈ past

/--
The result of a request whose frame is out.  Each of the three has its cause in what has
occurred or in the time.
-/
inductive Explained (past : List Occurrence) (now due : Nat) (budget : Duration) (slip : Slip) :
    Except Failure Reply → Prop
  | replied {reply : Reply} (decided : Decided past slip (.ok reply)) :
      Explained past now due budget slip (.ok reply)
  | closed (cause : .cleared ∈ past ∨ Shared past slip) :
      Explained past now due budget slip (.error .closed)
  | timeout (late : due ≤ now) :
      Explained past now due budget slip (.error (.timeout slip.messageId budget))

def Ended (past : List Occurrence) (now due : Nat) (budget : Duration) (slip : Slip) :
    Bool → Except Failure Reply → Prop
  | true, result => Explained past now due budget slip result
  | false, result => ∃ failure, result = .error failure

/--
What goes with the stage of a request.  A request that has its result has it for a reason,
and one that waits has been decided about if the entries are gone.
-/
def Placed (past : List Occurrence) (now : Nat) (shutdown : Shutdown) (caller : Caller) : Prop :=
  match caller.stage with
  | .routed slip _ => shutdown = .cleared → ∃ result, Decided past slip result
  | .waiting slip => shutdown = .cleared → ∃ result, Decided past slip result
  | .leaving slip framed result => Ended past now caller.due caller.budget slip framed result
  | .returned (some slip) framed result =>
      Ended past now caller.due caller.budget slip framed result
  | .returned none framed result => framed = false ∧ ∃ failure, result = .error failure
  | _ => True

structure Tracked (capacity : Nat) (past : List Occurrence) (traffic : Traffic σ) : Prop where
  change : Change (Registry.new capacity) past traffic.core.registry
  held_perm : (held traffic.callers).Perm (traffic.core.registry.handles.map Handle.token)
  known : ∀ caller ∈ traffic.callers, ∀ slip, caller.stage.slip? = some slip →
    .registered slip.token slip.messageId ∈ past
  owners : ∀ token messageId, .registered token messageId ∈ past →
    ∃ caller ∈ traffic.callers, caller.stage.slip? = some ⟨messageId, token⟩
  /--
  An entry is only ever removed because a handle for its message id goes.  It need not be
  the handle for which the entry was made.
  -/
  removed : ∀ messageId, .removed messageId ∈ past →
    ∃ token ∈ ended past, .registered token messageId ∈ past
  closed : traffic.shutdown ≠ .ahead → traffic.core.link.phase = .closed
  cleared : .cleared ∈ past → traffic.shutdown = .cleared
  placed : ∀ caller ∈ traffic.callers, Placed past traffic.now traffic.shutdown caller

/-! ## Growth of the past -/

section

variable {past : List Occurrence} {slip : Slip} {caller : Caller} {now : Nat}

theorem Decided.append {result : Except Failure Reply} (decided : Decided past slip result)
    (notes : List Occurrence) : Decided (past ++ notes) slip result := by
  rcases decided with ⟨earlier, later, rfl, first⟩
  refine ⟨earlier, later ++ notes, by simp, ?_⟩
  rw [List.findSome?_append, first]
  rfl

theorem Shared.append (shared : Shared past slip) (notes : List Occurrence) :
    Shared (past ++ notes) slip := by
  rcases shared with ⟨token, different, registered⟩
  exact ⟨token, different, List.mem_append_left _ registered⟩

theorem Ended.append {due : Nat} {budget : Duration} {framed : Bool}
    {result : Except Failure Reply} (ended : Ended past now due budget slip framed result)
    (notes : List Occurrence) {after : Nat} (later : now ≤ after) :
    Ended (past ++ notes) after due budget slip framed result := by
  cases framed with
  | false => exact ended
  | true =>
      cases ended with
      | replied decided => exact .replied (decided.append notes)
      | closed cause =>
          exact .closed (cause.imp (List.mem_append_left _) fun shared => shared.append notes)
      | timeout late => exact .timeout (Nat.le_trans late later)

theorem Placed.append {shutdown : Shutdown} (placed : Placed past now shutdown caller)
    (notes : List Occurrence) {after : Nat} (later : now ≤ after) :
    Placed (past ++ notes) after shutdown caller := by
  unfold Placed at placed ⊢
  split at placed
  · exact fun cleared => (placed cleared).imp fun _ decided => decided.append notes
  · exact fun cleared => (placed cleared).imp fun _ decided => decided.append notes
  · exact Ended.append placed notes later
  · exact Ended.append placed notes later
  · exact placed
  · trivial

theorem Decided.cases {result : Except Failure Reply} (decided : Decided past slip result) :
    (∃ reply, result = .ok reply) ∨
      result = .error .closed ∧ (.cleared ∈ past ∨ .removed slip.messageId ∈ past) := by
  rcases decided with ⟨earlier, later, rfl, first⟩
  rcases List.exists_of_findSome?_eq_some first with ⟨note, inside, decides⟩
  have there := List.mem_append_right earlier
    (List.mem_cons_of_mem (.registered slip.token slip.messageId) inside)
  cases note with
  | replied reply =>
      rw [Occurrence.decision?] at decides
      split at decides
      · exact .inl ⟨reply, (Option.some.inj decides).symm⟩
      · cases decides
  | removed messageId =>
      rw [Occurrence.decision?] at decides
      split at decides
      · rename_i same
        exact .inr ⟨(Option.some.inj decides).symm, .inr (same ▸ there)⟩
      · cases decides
  | cleared => exact .inr ⟨(Option.some.inj decides).symm, .inl there⟩
  | registered | waited | dropped | resolved => cases decides

/--
When every entry is given up, everybody who has a handle has been decided about.  Those
without a reply are decided about in this moment.
-/
theorem decided_of_cleared (known : .registered slip.token slip.messageId ∈ past) :
    ∃ result, Decided (past ++ [.cleared]) slip result := by
  rcases List.append_of_mem known with ⟨earlier, later, rfl⟩
  cases first : later.findSome? (Occurrence.decision? slip.messageId) with
  | some result => exact ⟨result, Decided.append ⟨earlier, later, rfl, first⟩ _⟩
  | none =>
      refine ⟨.error .closed, earlier, later ++ [.cleared], by simp, ?_⟩
      rw [List.findSome?_append, first]
      rfl

theorem Placed.of_uncleared {shutdown other : Shutdown} (placed : Placed past now shutdown caller)
    (uncleared : other ≠ .cleared) : Placed past now other caller := by
  unfold Placed at placed ⊢
  split at placed
  · exact fun cleared => absurd cleared uncleared
  · exact fun cleared => absurd cleared uncleared
  · exact placed
  · exact placed
  · exact placed
  · trivial

theorem Placed.cleared {shutdown : Shutdown} (placed : Placed past now shutdown caller)
    (known : ∀ slip, caller.stage.slip? = some slip →
      .registered slip.token slip.messageId ∈ past) :
    Placed (past ++ [.cleared]) now .cleared caller := by
  unfold Placed at placed ⊢
  split at placed
  · rename_i stage
    exact fun _ => decided_of_cleared (known _ (stage ▸ rfl))
  · rename_i stage
    exact fun _ => decided_of_cleared (known _ (stage ▸ rfl))
  · exact Ended.append placed _ (Nat.le_refl _)
  · exact Ended.append placed _ (Nat.le_refl _)
  · exact placed
  · trivial

end

/-! ## One step of a request -/

theorem held_sides (before rest : List Caller) (caller : Caller) :
    held (before ++ caller :: rest) =
      held before ++ (caller.stage.held?.toList ++ held rest) := by
  rw [held, List.filterMap_append, List.filterMap_cons]
  cases caller.stage.held? <;> rfl

/--
Only the item that is exchanged may be missing afterwards.  It is how the list of all
callers changes when one of them takes a step.
-/
theorem mem_exchange {α : Type} {before after : List α} {old item : α} (new : α)
    (inside : item ∈ before ++ old :: after) : item = old ∨ item ∈ before ++ new :: after := by
  rcases List.mem_append.mp inside with early | late
  · exact .inr (List.mem_append_left _ early)
  · rcases List.mem_cons.mp late with same | late
    · exact .inl same
    · exact .inr (List.mem_append_right _ (List.mem_cons_of_mem _ late))

namespace Advance

variable {caller : Caller} {core after : Core σ} {now : Nat} {stage next : Stage}
  {notes : List Occurrence}

theorem slip?_of_before (advance : Advance caller core now stage after next notes) {slip : Slip}
    (has : stage.slip? = some slip) : next.slip? = some slip := by
  cases advance with
  | unconnected | checked | numbered | unregistered | registered => cases has
  | routed | unrouted | sent | unsent | finished | goesOn | left | returned => exact has

theorem slip?_of_after (advance : Advance caller core now stage after next notes) {slip : Slip}
    (has : next.slip? = some slip) :
    stage.slip? = some slip ∨ .registered slip.token slip.messageId ∈ notes := by
  cases advance with
  | unconnected | checked | numbered | unregistered => cases has
  | registered =>
      cases has
      exact .inr List.mem_cons_self
  | routed | unrouted | sent | unsent | finished | goesOn | left | returned => exact .inl has

theorem slip?_of_registered (advance : Advance caller core now stage after next notes)
    {token : Nat} {messageId : UInt32} (opens : .registered token messageId ∈ notes) :
    next.slip? = some ⟨messageId, token⟩ := by
  cases advance with
  | registered =>
      cases List.mem_singleton.mp opens
      rfl
  | left => rcases List.mem_pair.mp opens with same | same <;> cases same
  | _ => cases opens

theorem of_removed (advance : Advance caller core now stage after next notes)
    {messageId : UInt32} (removes : .removed messageId ∈ notes) :
    ∃ token ∈ ended notes, stage.slip? = some ⟨messageId, token⟩ := by
  cases advance with
  | registered => cases List.mem_singleton.mp removes
  | left =>
      rcases List.mem_pair.mp removes with same | same <;> cases same
      exact ⟨_, List.mem_cons_self, rfl⟩
  | _ => cases removes

theorem not_cleared (advance : Advance caller core now stage after next notes) :
    .cleared ∉ notes := by
  intro clears
  cases advance with
  | registered => cases List.mem_singleton.mp clears
  | left => rcases List.mem_pair.mp clears with same | same <;> cases same
  | _ => cases clears

theorem closed_iff (advance : Advance caller core now stage after next notes) :
    after.link.phase = .closed ↔ core.link.phase = .closed := by
  cases advance with
  | sent apart | unsent apart => exact apart.closed_iff
  | _ => exact Iff.rfl

theorem change (advance : Advance caller core now stage after next notes)
    (holds : ∀ slip framed result, stage = .leaving slip framed result →
      ∃ handle, core.registry.handle? slip.token = some handle ∧
        handle.messageId = slip.messageId) :
    Change core.registry notes after.registry := by
  cases advance with
  | registered registered => exact .registered registered
  | sent apart | unsent apart =>
      rw [apart.registry_eq]
      exact .nothing _
  | left =>
      rcases holds _ _ _ rfl with ⟨handle, found, same⟩
      rcases Registry.mem_of_handle? found with ⟨-, own⟩
      rw [← own, ← same]
      rw [← own] at found
      exact .gone found rfl
  | _ => exact .nothing _

/--
A step opens and ends just those handles that its history tells of.  So the callers and the
registry keep agreeing about them.
-/
theorem held_perm (advance : Advance caller core now stage after next notes)
    {before rest : List Caller} {former later : Caller} (former_eq : former.stage = stage)
    (later_eq : later.stage = next) (distinct : (held (before ++ former :: rest)).Nodup) :
    (held (before ++ later :: rest)).Perm
      (Registry.standing (held (before ++ former :: rest)) notes) := by
  rw [held_sides] at distinct ⊢
  rw [held_sides, former_eq, later_eq]
  rw [former_eq] at distinct
  cases advance with
  | registered =>
      refine List.perm_middle.trans ?_
      exact (List.perm_append_singleton _ _).symm
  | @left slip framed result =>
      rcases List.nodup_append.mp distinct with ⟨-, distinct_rest, apart⟩
      have absent_rest : slip.token ∉ held rest := (List.nodup_cons.mp distinct_rest).1
      have absent_before : slip.token ∉ held before := fun inside =>
        apart _ inside _ List.mem_cons_self rfl
      have kept {tokens : List Nat} (absent : slip.token ∉ tokens) :
          tokens.filter (· ≠ slip.token) = tokens :=
        List.filter_eq_self.mpr fun token inside =>
          decide_eq_true (ne_of_mem_of_not_mem inside absent)
      have own : [slip.token].filter (· ≠ slip.token) = [] := by simp
      have others : ([slip.token] ++ held rest).filter (· ≠ slip.token) = held rest := by
        rw [List.filter_append, own, kept absent_rest, List.nil_append]
      refine .of_eq ?_
      rw [Registry.standing_of_gone rfl, List.filter_append, kept absent_before]
      exact congrArg (held before ++ ·) others.symm
  | _ => exact .refl _

end Advance

/-! ## What every move keeps -/

/-- Replies open no handle and end none.  They only fill what is there. -/
theorem standing_of_replies {notes : List Occurrence}
    (replies : ∀ note ∈ notes, ∃ reply, note = .replied reply) {tokens : List Nat} :
    Registry.standing tokens notes = tokens := by
  induction notes with
  | nil => rfl
  | cons note rest ih =>
      rcases replies note List.mem_cons_self with ⟨reply, rfl⟩
      exact ih fun other inside => replies other (List.mem_cons_of_mem _ inside)

namespace Tracked

variable {capacity : Nat} {past : List Occurrence} {traffic : Traffic σ} {caller : Caller}
  {slip : Slip}

theorem coherent (tracked : Tracked capacity past traffic) : traffic.core.registry.Coherent :=
  tracked.change.coherent (Registry.coherent_new capacity)

theorem held_nodup (tracked : Tracked capacity past traffic) : (held traffic.callers).Nodup :=
  tracked.held_perm.nodup_iff.mpr tracked.coherent.tokens_nodup

/--
The handle of a request is what its registration and what has followed make of it.  The
registry has it unchanged as long as the request does.
-/
theorem handle_of_held (tracked : Tracked capacity past traffic) (inside : caller ∈ traffic.callers)
    (has : caller.stage.slip? = some slip) (holds : caller.stage.held? = some slip.token) :
    slip.token ∉ ended past ∧
      ∃ earlier later, past = earlier ++ .registered slip.token slip.messageId :: later ∧
        traffic.core.registry.handle? slip.token =
          some (Registry.heeded ⟨slip.token, slip.messageId, .waiting⟩ later) := by
  have stands : slip.token ∈ traffic.core.registry.handles.map Handle.token :=
    tracked.held_perm.mem_iff.mp (List.mem_filterMap.mpr ⟨caller, inside, holds⟩)
  have coherent := Registry.coherent_new capacity
  have unended : slip.token ∉ ended past := fun ends =>
    (tracked.change.absent_of_ended coherent ends).2 stands
  rcases List.append_of_mem (tracked.known caller inside slip has) with ⟨earlier, later, split⟩
  refine ⟨unended, earlier, later, split, tracked.change.handle?_registered coherent split ?_⟩
  exact Registry.unended_of_split split unended

/--
Whatever has been decided for a request that has its handle shows in the handle.  Otherwise
the handle waits, and a look finds nothing but that the deadline has come.
-/
theorem verdict_of_held (tracked : Tracked capacity past traffic)
    (inside : caller ∈ traffic.callers) (has : caller.stage.slip? = some slip)
    (holds : caller.stage.held? = some slip.token) (now : Nat) :
    (∃ result, Decided past slip result ∧
      (caller.wait slip).result? traffic.core.registry now = some result) ∨
    (∃ handle ∈ traffic.core.registry.handles, handle.messageId = slip.messageId ∧
      handle.slot = .waiting) ∧
      (caller.wait slip).result? traffic.core.registry now =
        if caller.due ≤ now then some (.error (.timeout slip.messageId caller.budget))
        else none := by
  rcases tracked.handle_of_held inside has holds with ⟨-, earlier, later, split, found⟩
  have verdict := Registry.verdict?_heeded ⟨slip.token, slip.messageId, .waiting⟩ later
  have result_eq : (caller.wait slip).result? traffic.core.registry now = _ :=
    Wait.result?_eq found now
  rw [verdict, Registry.messageId_heeded] at result_eq
  cases first : later.findSome? (Occurrence.decision? slip.messageId) with
  | some result =>
      rw [first] at result_eq
      exact .inl ⟨result, ⟨earlier, later, split, first⟩, result_eq⟩
  | none =>
      rw [first] at result_eq verdict
      rcases Registry.mem_of_handle? found with ⟨there, -⟩
      exact .inr ⟨⟨_, there, Registry.messageId_heeded _ later, Slot.verdict?_eq_none.mp verdict⟩,
        result_eq⟩

theorem removed_append (tracked : Tracked capacity past traffic) (notes : List Occurrence)
    {messageId : UInt32} (removes : .removed messageId ∈ past) :
    ∃ token ∈ ended (past ++ notes), .registered token messageId ∈ past ++ notes := by
  rcases tracked.removed messageId removes with ⟨token, ends, registered⟩
  refine ⟨token, ?_, List.mem_append_left _ registered⟩
  rw [Registry.ended_append]
  exact List.mem_append_left _ ends

theorem of_outside (tracked : Tracked capacity past traffic) {next : Traffic σ}
    {notes : List Occurrence} (outside : Outside traffic next notes) :
    Tracked capacity (past ++ notes) next where
  change := tracked.change.andThen outside.change
  held_perm := by
    rw [outside.callers_eq, outside.change.tokens_eq tracked.coherent,
      standing_of_replies outside.replies]
    exact tracked.held_perm
  known := by
    rw [outside.callers_eq]
    exact fun caller inside slip has =>
      List.mem_append_left _ (tracked.known caller inside slip has)
  owners := by
    rw [outside.callers_eq]
    intro token messageId opens
    rcases List.mem_append.mp opens with old | new
    · exact tracked.owners token messageId old
    · rcases outside.replies _ new with ⟨reply, same⟩
      cases same
  removed := by
    intro messageId removes
    rcases List.mem_append.mp removes with old | new
    · exact (tracked.removed_append notes old)
    · rcases outside.replies _ new with ⟨reply, same⟩
      cases same
  closed := by
    rw [outside.shutdown_eq]
    exact fun begun => outside.closed_iff.mpr (tracked.closed begun)
  cleared := by
    rw [outside.shutdown_eq]
    intro clears
    rcases List.mem_append.mp clears with old | new
    · exact tracked.cleared old
    · rcases outside.replies _ new with ⟨reply, same⟩
      cases same
  placed := by
    rw [outside.callers_eq, outside.shutdown_eq]
    exact fun caller inside => (tracked.placed caller inside).append notes outside.now_le

theorem new (setup : Setup σ) (world : σ) :
    Tracked setup.options.maxInFlight [] (Traffic.new setup world) where
  change := .nothing _
  held_perm := .nil
  known := fun _ inside => absurd inside List.not_mem_nil
  owners := fun _ _ opens => absurd opens List.not_mem_nil
  removed := fun _ removes => absurd removes List.not_mem_nil
  closed := fun begun => absurd rfl begun
  cleared := fun clears => absurd clears List.not_mem_nil
  placed := fun _ inside => absurd inside List.not_mem_nil

theorem call (tracked : Tracked capacity past traffic) (device : Address) (request : Request)
    (budget : Duration) : Tracked capacity past (traffic.call device request budget) := by
  rcases call_eq traffic device request budget with same | ⟨caller, call_eq, stage⟩
  · rw [same]
    exact tracked
  · have has_none : caller.stage.slip? = none ∧ caller.stage.held? = none := by
      rcases stage with stage | ⟨failure, stage⟩ <;> rw [stage] <;> exact ⟨rfl, rfl⟩
    have held_eq : held (traffic.callers ++ [caller]) = held traffic.callers := by
      rw [held_sides, has_none.2]
      exact List.append_nil _
    rw [call_eq]
    exact
      { tracked with
        held_perm := by
          rw [held_eq]
          exact tracked.held_perm
        known := by
          intro other inside slip has
          rcases List.mem_append.mp inside with old | new
          · exact tracked.known other old slip has
          · rw [List.mem_singleton.mp new, has_none.1] at has
            cases has
        owners := by
          intro token messageId opens
          rcases tracked.owners token messageId opens with ⟨owner, inside, has⟩
          exact ⟨owner, List.mem_append_left _ inside, has⟩
        placed := by
          intro other inside
          rcases List.mem_append.mp inside with old | new
          · exact tracked.placed other old
          · rw [List.mem_singleton.mp new, Placed]
            rcases stage with stage | ⟨failure, stage⟩ <;> rw [stage]
            · trivial
            · exact ⟨rfl, failure, rfl⟩ }

theorem clear (tracked : Tracked capacity past traffic) (closed : traffic.shutdown = .closed) :
    Tracked capacity (past ++ [.cleared])
      { traffic with
        core := { traffic.core with registry := traffic.core.registry.clear.2 }
        shutdown := .cleared } where
  change := tracked.change.andThen (.cleared _)
  held_perm := by
    rw [(Change.cleared traffic.core.registry).tokens_eq tracked.coherent]
    exact tracked.held_perm
  known := fun caller inside slip has =>
    List.mem_append_left _ (tracked.known caller inside slip has)
  owners := by
    intro token messageId opens
    rcases List.mem_append.mp opens with old | new
    · exact tracked.owners token messageId old
    · cases List.mem_singleton.mp new
  removed := by
    intro messageId removes
    rcases List.mem_append.mp removes with old | new
    · exact tracked.removed_append _ old
    · cases List.mem_singleton.mp new
  closed := fun _ => tracked.closed (closed ▸ nofun)
  cleared := fun _ => rfl
  placed := fun caller inside =>
    (tracked.placed caller inside).cleared fun slip has => tracked.known caller inside slip has

theorem shutdown (tracked : Tracked capacity past traffic) (setup : Setup σ) :
    Tracked capacity (past ++ traffic.observe .shutdown) (traffic.perform setup .shutdown) := by
  cases stage : traffic.shutdown with
  | ahead =>
      rcases Core.shutdownLink_eq setup traffic.core with ⟨registry_eq, -, closed⟩
      simp only [observe, Traffic.perform, stage, List.append_nil]
      exact
        { tracked with
          change := by
            rw [registry_eq]
            exact tracked.change
          held_perm := by
            rw [registry_eq]
            exact tracked.held_perm
          closed := fun _ => closed
          cleared := by
            intro clears
            have cleared := tracked.cleared clears
            rw [stage] at cleared
            cases cleared
          placed := fun caller inside =>
            (tracked.placed caller inside).of_uncleared (by intro same; cases same) }
  | closed =>
      simp only [observe, Traffic.perform, stage]
      exact tracked.clear stage
  | cleared =>
      simp only [observe, Traffic.perform, stage, List.append_nil]
      exact tracked

/--
An entry that a request loses while it has its handle is lost to another one.  The other one
has the same message id, and has dropped its own handle.
-/
theorem shared (tracked : Tracked capacity past traffic) (inside : caller ∈ traffic.callers)
    (has : caller.stage.slip? = some slip) (holds : caller.stage.held? = some slip.token)
    (removes : .removed slip.messageId ∈ past) : Shared past slip := by
  rcases tracked.removed slip.messageId removes with ⟨token, ends, registered⟩
  refine ⟨token, ?_, registered⟩
  rintro rfl
  exact (tracked.handle_of_held inside has holds).1 ends

/--
A result that a request finds is one that it should have.  It is a reply that was decided,
the shutdown, or the deadline.
-/
theorem explained (tracked : Tracked capacity past traffic) (inside : caller ∈ traffic.callers)
    (waits : caller.stage = .waiting slip) {result : Except Failure Reply}
    (finished : (caller.wait slip).result? traffic.core.registry traffic.now = some result) :
    Explained past traffic.now caller.due caller.budget slip result := by
  have has : caller.stage.slip? = some slip := waits ▸ rfl
  have holds : caller.stage.held? = some slip.token := waits ▸ rfl
  rcases tracked.verdict_of_held inside has holds traffic.now with
    ⟨verdict, decided, finished_eq⟩ | ⟨-, finished_eq⟩
  · cases Option.some.inj (finished.symm.trans finished_eq)
    rcases decided.cases with ⟨reply, rfl⟩ | ⟨rfl, clears | removes⟩
    · exact .replied decided
    · exact .closed (.inl clears)
    · exact .closed (.inr (tracked.shared inside has holds removes))
  · rw [finished] at finished_eq
    split at finished_eq
    · rename_i late
      cases finished_eq
      exact .timeout late
    · cases finished_eq

theorem change_of_advance (tracked : Tracked capacity past traffic)
    (inside : caller ∈ traffic.callers) {core : Core σ} {next : Stage} {notes : List Occurrence}
    (advance : Advance caller traffic.core traffic.now caller.stage core next notes) :
    Change traffic.core.registry notes core.registry := by
  refine advance.change fun slip framed result leaving => ?_
  have has : caller.stage.slip? = some slip := leaving ▸ rfl
  have holds : caller.stage.held? = some slip.token := leaving ▸ rfl
  rcases tracked.handle_of_held inside has holds with ⟨-, earlier, later, -, found⟩
  exact ⟨_, found, Registry.messageId_heeded _ later⟩

theorem placed_of_advance (tracked : Tracked capacity past traffic)
    (inside : caller ∈ traffic.callers) {core : Core σ} {next : Stage} {notes : List Occurrence}
    (advance : Advance caller traffic.core traffic.now caller.stage core next notes) :
    Placed (past ++ notes) traffic.now traffic.shutdown { caller with stage := next } := by
  have placed := tracked.placed caller inside
  generalize stage_eq : caller.stage = stage at advance
  rw [Placed, stage_eq] at placed
  cases advance with
  | unconnected | unregistered => exact ⟨rfl, _, rfl⟩
  | checked | numbered | registered => trivial
  | @routed slip sink routes =>
      -- Nobody finds an outlet any more once the entries have been given up.
      intro cleared
      have closed := tracked.closed (cleared ▸ nofun)
      rw [Link.route, closed] at routes
      cases routes
  | unrouted | unsent => exact ⟨_, rfl⟩
  | sent | goesOn =>
      rw [List.append_nil]
      exact placed
  | finished finished =>
      rw [List.append_nil]
      exact tracked.explained inside stage_eq finished
  | left => exact Ended.append placed _ (Nat.le_refl _)
  | @returned slip =>
      rw [List.append_nil]
      cases slip <;> exact placed

theorem held_of_advance (tracked : Tracked capacity past traffic) {before rest : List Caller}
    (callers_eq : traffic.callers = before ++ caller :: rest) {core : Core σ} {next : Stage}
    {notes : List Occurrence}
    (advance : Advance caller traffic.core traffic.now caller.stage core next notes) :
    (held (before ++ { caller with stage := next } :: rest)).Perm
      (core.registry.handles.map Handle.token) := by
  have inside : caller ∈ traffic.callers := callers_eq ▸ List.mem_append_right _ List.mem_cons_self
  have held_perm := tracked.held_perm
  have distinct := tracked.held_nodup
  rw [callers_eq] at held_perm distinct
  rw [(tracked.change_of_advance inside advance).tokens_eq tracked.coherent]
  have stepped : (held (before ++ { caller with stage := next } :: rest)).Perm
      (Registry.standing (held (before ++ caller :: rest)) notes) :=
    advance.held_perm rfl rfl distinct
  exact stepped.trans (Registry.standing_perm held_perm _)

theorem step (tracked : Tracked capacity past traffic) (index : Nat) :
    Tracked capacity (past ++ traffic.observe (.step index)) (traffic.step index) := by
  cases found : traffic.callers[index]? with
  | none =>
      rcases step_of_missing found with ⟨same, quiet⟩
      rw [same, quiet, List.append_nil]
      exact tracked
  | some caller =>
      rcases step_of_found found with
        ⟨before, rest, core, stage, -, callers_eq, step_eq, advance⟩
      have inside : caller ∈ traffic.callers := List.mem_of_getElem? found
      have stepped : { caller with stage := stage } ∈
          before ++ { caller with stage := stage } :: rest :=
        List.mem_append_right _ List.mem_cons_self
      have others : ∀ other ∈ before ++ { caller with stage := stage } :: rest,
          other = { caller with stage := stage } ∨ other ∈ traffic.callers := by
        rw [callers_eq]
        exact fun other there => mem_exchange _ there
      rw [step_eq]
      exact
        { change := tracked.change.andThen (tracked.change_of_advance inside advance)
          held_perm := tracked.held_of_advance callers_eq advance
          known := by
            intro other there slip has
            rcases others other there with rfl | old
            · rcases advance.slip?_of_after has with had | opens
              · exact List.mem_append_left _ (tracked.known caller inside slip had)
              · exact List.mem_append_right _ opens
            · exact List.mem_append_left _ (tracked.known other old slip has)
          owners := by
            intro token messageId opens
            rcases List.mem_append.mp opens with old | new
            · rcases tracked.owners token messageId old with ⟨owner, there, has⟩
              rw [callers_eq] at there
              rcases mem_exchange { caller with stage := stage } there with rfl | other
              · exact ⟨_, stepped, advance.slip?_of_before has⟩
              · exact ⟨owner, other, has⟩
            · exact ⟨_, stepped, advance.slip?_of_registered new⟩
          removed := by
            intro messageId removes
            rcases List.mem_append.mp removes with old | new
            · exact tracked.removed_append _ old
            · rcases advance.of_removed new with ⟨token, ends, has⟩
              refine ⟨token, ?_, List.mem_append_left _ (tracked.known caller inside _ has)⟩
              rw [Registry.ended_append]
              exact List.mem_append_right _ ends
          closed := fun begun => advance.closed_iff.mpr (tracked.closed begun)
          cleared := by
            intro clears
            rcases List.mem_append.mp clears with old | new
            · exact tracked.cleared old
            · exact absurd new advance.not_cleared
          placed := by
            intro other there
            rcases others other there with rfl | old
            · exact tracked.placed_of_advance inside advance
            · exact (tracked.placed other old).append _ (Nat.le_refl _) }

theorem perform (tracked : Tracked capacity past traffic) (setup : Setup σ) (move : Move) :
    Tracked capacity (past ++ traffic.observe move) (traffic.perform setup move) := by
  cases outside : move.isOutside with
  | true => exact tracked.of_outside (outside_perform setup traffic outside)
  | false =>
      cases move with
      | call device request budget =>
          have quiet : traffic.observe (.call device request budget) = [] := rfl
          rw [quiet, List.append_nil]
          exact tracked.call device request budget
      | step index => exact tracked.step index
      | shutdown => exact tracked.shutdown setup
      | _ => cases outside

end Tracked

theorem tracked_run (setup : Setup σ) (world : σ) (moves : List Move) :
    Tracked setup.options.maxInFlight ((new setup world).history setup moves)
      ((new setup world).run setup moves) := by
  have kept : ∀ past traffic move, True → Tracked setup.options.maxInFlight past traffic →
      Tracked setup.options.maxInFlight (past ++ observe traffic move)
        (perform setup traffic move) :=
    fun past traffic move _ tracked => tracked.perform setup move
  exact Run.keeps kept (Tracked.new setup world) fun _ _ => trivial

end Traffic
end DeviceLink
