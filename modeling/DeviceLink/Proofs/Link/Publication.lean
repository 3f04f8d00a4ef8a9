import DeviceLink.Proofs.Link.Update
import Mathlib.Data.List.Perm.Basic

namespace DeviceLink

/-!
Calls to a link that overlap.  Each takes two steps, its update and then the publication
that the update has left, and the steps of different callers come in any order.  Every
change of the phase is published exactly once, but not always in the order of the
changes: watchers and observer end up with the phase of the link exactly if the change
that was made last has also been published last.  `Balanced` is kept by every move.
-/

namespace Switching

/-- How far a call has come.  A call that leaves nothing to publish returns with its update. -/
inductive Stage
  | called (call : Link.Call)
  | publishing (phase : Phase)
  | returned
  deriving DecidableEq, Repr

namespace Stage

def pending? : Stage → Option Phase
  | publishing phase => some phase
  | _ => none

/-- Where an update leaves its caller.  It depends on whether the phase has changed. -/
def after : Option Phase → Stage
  | some phase => publishing phase
  | none => returned

theorem pending?_after (left : Option Phase) : (after left).pending? = left := by
  cases left <;> rfl

end Stage

inductive Move
  /-- Another task makes a call.  It has not done anything yet. -/
  | call (call : Link.Call)
  /-- The caller with this number takes its next step.  Nothing happens if it has returned. -/
  | step (caller : Nat)

end Switching

/--
A link, and those who have called it, in the order of their calls.  The callers keep their
numbers when they have returned.
-/
structure Switching (σ : Type) where
  core : Core σ
  stages : List Switching.Stage

namespace Switching

variable {σ : Type}

def new (setup : Setup σ) (world : σ) : Switching σ := ⟨Core.new setup world, []⟩

/--
The phases that have been entered and not been published.  Their order is that of the
callers.
-/
def pending (switching : Switching σ) : List Phase := switching.stages.filterMap Stage.pending?

def perform (setup : Setup σ) (switching : Switching σ) : Move → Switching σ
  | .call call => { switching with stages := switching.stages ++ [.called call] }
  | .step caller =>
      match switching.stages[caller]? with
      | some (.called call) =>
          let update := Link.update switching.core call
          ⟨update.1, switching.stages.set caller (.after update.2)⟩
      | some (.publishing phase) =>
          ⟨switching.core.publish setup phase, switching.stages.set caller .returned⟩
      | _ => switching

def run (setup : Setup σ) (switching : Switching σ) (moves : List Move) : Switching σ :=
  moves.foldl (perform setup) switching

/-- The call whose update is made by a move.  Most moves make none. -/
def updated (switching : Switching σ) : Move → List Link.Call
  | .step caller =>
      match switching.stages[caller]? with
      | some (.called call) => [call]
      | _ => []
  | _ => []

/-- The phase that is published by a move.  It is the one that the caller's update has left. -/
def told (switching : Switching σ) : Move → List Phase
  | .step caller =>
      match switching.stages[caller]? with
      | some (.publishing phase) => [phase]
      | _ => []
  | _ => []

/-- The calls in the order of their updates.  That is the order in which the link has seen them. -/
def updates (setup : Setup σ) : Switching σ → List Move → List Link.Call :=
  Run.history (perform setup) updated

/--
The phases in the order of their publications.  That is the order in which watchers and
observer have seen them.
-/
def published (setup : Setup σ) : Switching σ → List Move → List Phase :=
  Run.history (perform setup) told

/-! ## What one move does -/

theorem pending_set {stages : List Stage} {caller : Nat} {old : Stage}
    (found : stages[caller]? = some old) (next : Stage) :
    (old.pending?.toList ++ (stages.set caller next).filterMap Stage.pending?).Perm
      (next.pending?.toList ++ stages.filterMap Stage.pending?) := by
  rcases List.getElem?_eq_some_iff.mp found with ⟨inside, here⟩
  have picked (stage : Stage) (rest : List Stage) : (stage :: rest).filterMap Stage.pending? =
      stage.pending?.toList ++ rest.filterMap Stage.pending? := by
    rw [List.filterMap_cons]
    cases stage.pending? <;> rfl
  have changed := (List.set_perm_cons_eraseIdx inside next).filterMap Stage.pending?
  have kept := (List.getElem_cons_eraseIdx_perm inside).filterMap Stage.pending?
  rw [picked] at changed kept
  rw [here] at kept
  refine (changed.append_left _).trans ?_
  exact (List.perm_append_comm_assoc _ _ _).trans (kept.append_left _)

theorem updated_eq (switching : Switching σ) (move : Move) :
    updated switching move = [] ∨ ∃ call, updated switching move = [call] := by
  cases move with
  | call call => exact .inl rfl
  | step caller =>
      simp only [updated]
      split
      · rename_i call found
        exact .inr ⟨call, rfl⟩
      · exact .inl rfl

theorem eq_of_perm_of_length_le {first second : List Phase} (perm : first.Perm second)
    (short : second.length ≤ 1) : first = second := by
  match second, short with
  | [], _ => exact List.perm_nil.mp perm
  | [phase], _ => exact List.perm_singleton.mp perm

theorem getLast?_eq_of_perm {first second : List Phase} (perm : first.Perm second) {start : Phase}
    (same : first.getLast?.getD start = second.getLast?.getD start) :
    first.getLast? = second.getLast? := by
  cases last : first.getLast? with
  | none =>
      rw [List.getLast?_eq_none_iff] at last
      rw [last, List.nil_perm] at perm
      rw [perm, List.getLast?_nil]
  | some phase =>
      cases final : second.getLast? with
      | none =>
          rw [List.getLast?_eq_none_iff] at final
          rw [final, List.perm_nil] at perm
          rw [perm, List.getLast?_nil] at last
          cases last
      | some other =>
          rw [last, final] at same
          exact congrArg some same

/--
What every move keeps: each change has either been published or is pending.  No publication
is made up, and none is made twice.
-/
structure Balanced (setup : Setup σ) (updates : List Link.Call) (published : List Phase)
    (switching : Switching σ) : Prop where
  routed : Link.Routed updates switching.core
  once : (published ++ switching.pending).Perm (Link.changes updates)
  watched_eq : switching.core.link.watched = published.getLast?.getD .connecting
  publications_eq : switching.core.link.publications = published.length
  notified_eq : switching.core.notified = if setup.observesPhases then published else []

namespace Balanced

variable {setup : Setup σ} {updates : List Link.Call} {published : List Phase}
  {switching : Switching σ}

theorem new (setup : Setup σ) (world : σ) : Balanced setup [] [] (new setup world) where
  routed := .new setup world
  once := .nil
  watched_eq := rfl
  publications_eq := rfl
  notified_eq := (ite_self []).symm

theorem update (balanced : Balanced setup updates published switching) {caller : Nat}
    {call : Link.Call} (found : switching.stages[caller]? = some (.called call)) :
    Balanced setup (updates ++ [call]) published
      ⟨(Link.update switching.core call).1,
        switching.stages.set caller (.after (Link.update switching.core call).2)⟩ := by
  have unpublished := Link.update_unpublished switching.core call
  have updated := balanced.routed.update call
  have moved := pending_set found (.after (Link.update switching.core call).2)
  rw [Stage.pending?_after, updated.2] at moved
  refine ⟨updated.1, ?_, ?_, ?_, ?_⟩
  · rw [Link.changes_concat]
    refine (moved.append_left _).trans ?_
    rw [← List.append_assoc]
    refine (List.perm_append_comm.append_right _).trans ?_
    rw [List.append_assoc]
    exact List.perm_append_comm.trans (balanced.once.append_right _)
  · exact (congrArg (·) unpublished.1).trans balanced.watched_eq
  · exact unpublished.2.1.trans balanced.publications_eq
  · exact unpublished.2.2.trans balanced.notified_eq

theorem publish (balanced : Balanced setup updates published switching) {caller : Nat}
    {phase : Phase} (found : switching.stages[caller]? = some (.publishing phase)) :
    Balanced setup updates (published ++ [phase])
      ⟨switching.core.publish setup phase, switching.stages.set caller .returned⟩ := by
  have publication := Link.published setup switching.core phase
  have moved := pending_set found .returned
  refine ⟨balanced.routed.publish setup phase, ?_, ?_, ?_, ?_⟩
  · rw [List.append_assoc]
    exact (moved.append_left _).trans balanced.once
  · rw [List.getLast?_concat]
    exact congrArg Link.watched publication.1
  · rw [List.length_append, ← balanced.publications_eq]
    exact congrArg Link.publications publication.1
  · rw [publication.2, balanced.notified_eq]
    split <;> rfl

theorem perform (balanced : Balanced setup updates published switching) (move : Move) :
    Balanced setup (updates ++ updated switching move) (published ++ told switching move)
      (perform setup switching move) := by
  have idle : Balanced setup (updates ++ []) (published ++ []) switching := by
    rwa [List.append_nil, List.append_nil]
  cases move with
  | call call =>
      have unchanged : (switching.stages ++ [Stage.called call]).filterMap Stage.pending? =
          switching.pending := (Run.filterMap_concat Stage.pending? _ _).trans (List.append_nil _)
      refine ⟨idle.routed, ?_, idle.watched_eq, idle.publications_eq, idle.notified_eq⟩
      have once := idle.once
      rwa [← unchanged] at once
  | step caller =>
      simp only [Switching.perform, updated, told]
      cases found : switching.stages[caller]? with
      | none => exact idle
      | some stage =>
          cases stage with
          | called call =>
              have next := balanced.update found
              rwa [← List.append_nil published] at next
          | publishing phase =>
              have next := balanced.publish found
              rwa [← List.append_nil updates] at next
          | returned => exact idle

/--
While nothing or one change is pending, and a further change is made only when nothing is,
the changes are published in order.  There is no room for two to change places.
-/
theorem in_order (balanced : Balanced setup updates published switching)
    (ordered : published ++ switching.pending = Link.changes updates)
    (short : switching.pending.length ≤ 1) {move : Move}
    (quiet : ∀ call ∈ updated switching move,
      Link.entered updates call ≠ [] → switching.pending = []) :
    (published ++ told switching move) ++ (Switching.perform setup switching move).pending =
        Link.changes (updates ++ updated switching move) ∧
      (Switching.perform setup switching move).pending.length ≤ 1 := by
  have added : ∃ extra, Link.changes (updates ++ updated switching move) =
      Link.changes updates ++ extra ∧ (switching.pending ++ extra).length ≤ 1 := by
    rcases updated_eq switching move with unchanged | ⟨call, one⟩
    · exact ⟨[], by rw [unchanged, List.append_nil, List.append_nil], by rwa [List.append_nil]⟩
    · refine ⟨Link.entered updates call, by rw [one, Link.changes_concat], ?_⟩
      by_cases silent : Link.entered updates call = []
      · rwa [silent, List.append_nil]
      · rw [quiet call (one ▸ List.mem_singleton_self call) silent, List.nil_append]
        exact Link.length_entered_le updates call
  rcases added with ⟨extra, changes, few⟩
  have once := (balanced.perform move).once
  rw [changes, ← ordered, List.append_assoc, List.append_assoc, List.perm_append_left_iff] at once
  have same : told switching move ++ (Switching.perform setup switching move).pending =
      switching.pending ++ extra := eq_of_perm_of_length_le once few
  refine ⟨by rw [changes, ← ordered, List.append_assoc, List.append_assoc, same], ?_⟩
  rw [← same, List.length_append] at few
  exact Nat.le_trans (Nat.le_add_left _ _) few

end Balanced

theorem run_concat (setup : Setup σ) (switching : Switching σ) (moves : List Move) (move : Move) :
    run setup switching (moves ++ [move]) = perform setup (run setup switching moves) move :=
  List.foldl_append

theorem updates_concat (setup : Setup σ) (switching : Switching σ) (moves : List Move)
    (move : Move) : updates setup switching (moves ++ [move]) =
      updates setup switching moves ++ updated (run setup switching moves) move :=
  Run.history_concat _ _ _ _ _

theorem published_concat (setup : Setup σ) (switching : Switching σ) (moves : List Move)
    (move : Move) : published setup switching (moves ++ [move]) =
      published setup switching moves ++ told (run setup switching moves) move :=
  Run.history_concat _ _ _ _ _

/-! ## Whole runs -/

theorem balanced_run (setup : Setup σ) (world : σ) (moves : List Move) :
    Balanced setup (updates setup (new setup world) moves) (published setup (new setup world) moves)
      (run setup (new setup world) moves) := by
  induction moves using List.reverseRecOn with
  | nil => exact .new setup world
  | append_singleton moves move ih =>
      rw [run_concat, updates_concat, published_concat]
      exact ih.perform move

/--
Watchers and observer know the phase of the link, and were told nothing after its end.  It
is what a link should always come to.
-/
structure Settled (published : List Phase) (core : Core σ) : Prop where
  watched_eq : core.link.watched = core.link.phase
  last_eq : ∀ phase ∈ core.notified.getLast?, phase = core.link.phase
  final : ∀ earlier later, published = earlier ++ .closed :: later → later = []

/--
Nobody changes the phase while another change is still to be published.  Calls that change
nothing may still overlap.
-/
def Orderly (setup : Setup σ) (start : Switching σ) (moves : List Move) : Prop :=
  ∀ first move rest, moves = first ++ move :: rest → ∀ call ∈ updated (run setup start first) move,
    Link.entered (updates setup start first) call ≠ [] → (run setup start first).pending = []

/-- What a run of overlapping calls leaves behind.  All of them have returned by then. -/
structure Outcome (setup : Setup σ) (start : Switching σ) (moves : List Move) : Prop where
  phase_eq : (run setup start moves).core.link.phase = Link.phaseAfter (updates setup start moves)
  /-- Each change is published once.  Nothing is said about the order here. -/
  once : (published setup start moves).Perm (Link.changes (updates setup start moves))
  /--
  All is well exactly if the change made last has been published last.  The publications
  before it may be in any order.
  -/
  settled_iff : Settled (published setup start moves) (run setup start moves).core ↔
    (published setup start moves).getLast? = (Link.changes (updates setup start moves)).getLast?
  in_order : Orderly setup start moves →
    published setup start moves = Link.changes (updates setup start moves)

/--
Where the next change waits for the publication of the one before, all are in order.  That
is so for calls made one after another, in particular.
-/
theorem in_order_run {setup : Setup σ} {world : σ} {moves : List Move}
    (orderly : Orderly setup (new setup world) moves) :
    published setup (new setup world) moves ++ (run setup (new setup world) moves).pending =
        Link.changes (updates setup (new setup world) moves) ∧
      (run setup (new setup world) moves).pending.length ≤ 1 := by
  induction moves using List.reverseRecOn with
  | nil => exact ⟨rfl, Nat.zero_le 1⟩
  | append_singleton moves move ih =>
      have before : Orderly setup (new setup world) moves := by
        rintro first other rest rfl
        exact orderly first other (rest ++ [move]) (by rw [List.append_assoc]; rfl)
      rw [run_concat, updates_concat, published_concat]
      exact (balanced_run setup world moves).in_order (ih before).1 (ih before).2
        (orderly moves move [] rfl)

theorem Balanced.settled_iff {setup : Setup σ} {updates : List Link.Call} {published : List Phase}
    {switching : Switching σ} (balanced : Balanced setup updates published switching)
    (once : published.Perm (Link.changes updates)) :
    Settled published switching.core ↔
      published.getLast? = (Link.changes updates).getLast? := by
  have phase_eq : switching.core.link.phase =
      (Link.changes updates).getLast?.getD .connecting := by
    rw [Link.getLast?_changes, balanced.routed.phase_eq]
  constructor
  · intro settled
    have same := settled.watched_eq
    rw [balanced.watched_eq, phase_eq] at same
    exact getLast?_eq_of_perm once same
  · intro last
    refine ⟨by rw [balanced.watched_eq, phase_eq, last], ?_, ?_⟩
    · intro phase told
      rw [balanced.notified_eq] at told
      split at told
      · rw [phase_eq, ← last, Option.mem_def.mp told, Option.getD_some]
      · cases told
    · rintro earlier later rfl
      have closed : Link.phaseAfter updates = .closed := by
        rw [← Link.closed_mem_changes_iff, ← once.mem_iff]
        exact List.mem_append_right _ List.mem_cons_self
      -- the last publication is a second one of the closed phase, which is entered only once
      rcases List.eq_nil_or_concat' later with rfl | ⟨rest, final, rfl⟩
      · rfl
      · rw [← Link.getLast?_changes, ← last, ← List.cons_append, ← List.append_assoc,
          List.getLast?_concat, Option.getD_some] at closed
        have few := Link.count_closed_changes_le updates
        rw [← once.count_eq, closed, List.count_append, List.count_cons_self,
          List.count_append, List.count_singleton_self] at few
        omega

/--
Once all calls have returned, each change has been published exactly once, and the
publications agree with the link exactly if the last change was the last to be published.
Nothing is assumed about how the calls overlap.
-/
theorem publications_balanced (setup : Setup σ) (world : σ) (moves : List Move)
    (returned : ∀ stage ∈ (run setup (new setup world) moves).stages, stage = .returned) :
    Outcome setup (new setup world) moves := by
  have balanced := balanced_run setup world moves
  have settled : (run setup (new setup world) moves).pending = [] := by
    apply List.filterMap_eq_nil_iff.mpr
    intro stage inside
    rw [returned stage inside]
    rfl
  have once := balanced.once
  rw [settled, List.append_nil] at once
  refine ⟨balanced.routed.phase_eq, once, balanced.settled_iff once, fun orderly => ?_⟩
  have in_order := (in_order_run orderly).1
  rwa [settled, List.append_nil] at in_order

/-- Nothing but an observer of the phases.  Calls on devices do not matter here. -/
def watchedSetup : Setup Unit where
  options := .standard
  handler := .unimplemented
  observesPhases := true
  replyObserver := none

/--
The transport comes up while the link is shut down, and tells everybody about it later.  Its
update is made first, and its publication last.
-/
def overtaken : List Move :=
  [.call (.establish (.record "gateway")), .call .shutdown, .step 0, .step 1, .step 1, .step 0]

theorem publications_balanced_overtaken :
    (run watchedSetup (new watchedSetup ()) overtaken).stages = [.returned, .returned] ∧
      Outcome watchedSetup (new watchedSetup ()) overtaken :=
  ⟨rfl, publications_balanced watchedSetup () overtaken (by decide)⟩

theorem published_after_closed :
    (run watchedSetup (new watchedSetup ()) overtaken).stages = [.returned, .returned] ∧
      (run watchedSetup (new watchedSetup ()) overtaken).core.link.phase = .closed ∧
      (run watchedSetup (new watchedSetup ()) overtaken).core.link.watched = .connected ∧
      (run watchedSetup (new watchedSetup ()) overtaken).core.notified = [.closed, .connected] :=
  ⟨rfl, rfl, rfl, rfl⟩

end Switching
end DeviceLink
