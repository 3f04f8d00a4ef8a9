import DeviceLink.Proofs.Registry.Coherence
import DeviceLink.Proofs.Session.Run
import Mathlib.Data.List.Nodup
import Mathlib.Data.List.TakeWhile

namespace DeviceLink
namespace Session

/-!
What the history of a session tells about its synchronous requests, and how that grows
with each occurrence.  A request that waits has a handle, and everything about that
handle can be read off what has occurred since the request was opened.  `since` and
`decided?` look at the part of a history that concerns one request, and `handleOf` is
the handle that follows from it.  `Orderly` is what histories have in common in which
ids and tags do not come twice.
-/

section

variable (past : List Occurrence) (occurrence : Occurrence)

theorem issued_concat :
    issued (past ++ [occurrence]) = issued past + if occurrence.isIssued then 1 else 0 := by
  rw [issued, List.countP_append, List.countP_singleton]
  rfl

theorem opened_concat :
    opened (past ++ [occurrence]) = opened past ++ occurrence.opened?.toList :=
  Run.filterMap_concat _ past occurrence

theorem concluded_concat :
    concluded (past ++ [occurrence]) = concluded past ++ occurrence.concluded?.toList :=
  Run.filterMap_concat _ past occurrence

end

section

variable {past : List Occurrence} {occurrence : Occurrence}

theorem issued_concat_none (uncounted : occurrence.isIssued = false) :
    issued (past ++ [occurrence]) = issued past := by
  rw [issued_concat, uncounted]
  rfl

theorem opened_concat_none (unopened : occurrence.opened? = none) :
    opened (past ++ [occurrence]) = opened past := by
  rw [opened_concat, unopened, Option.toList_none, List.append_nil]

end

theorem mem_opened {past : List Occurrence} {call : Call} :
    call ∈ opened past ↔ Occurrence.opened call ∈ past := by
  rw [opened, List.mem_filterMap]
  constructor
  · rintro ⟨occurrence, inside, opens⟩
    cases occurrence with
    | opened other =>
        cases opens
        exact inside
    | issued | replied | shut | resolved | cancelled => cases opens
  · intro inside
    exact ⟨_, inside, rfl⟩

theorem mem_waiting {past : List Occurrence} {call : Call} :
    call ∈ waiting past ↔ call ∈ opened past ∧ call.tag ∉ concluded past := by
  rw [waiting, List.mem_filter, decide_eq_true_iff]

section

variable {past : List Occurrence} {occurrence : Occurrence}

/--
The end of a request is nothing else at the same time.  It opens no other request, takes no
message id, and decides nothing for anybody.
-/
theorem only_concluded {tag : Tag} (ends : occurrence.concluded? = some tag) :
    occurrence.opened? = none ∧ occurrence.isIssued = false ∧
      ∀ messageId, occurrence.decision? messageId = none := by
  cases occurrence with
  | resolved | cancelled => exact ⟨rfl, rfl, fun _ => rfl⟩
  | issued | opened | replied | shut => cases ends

/-- Nobody begins to wait and nobody ends.  Those who wait are the same as before. -/
theorem waiting_concat_quiet (unopened : occurrence.opened? = none)
    (unended : occurrence.concluded? = none) : waiting (past ++ [occurrence]) = waiting past := by
  simp only [waiting, opened_concat, concluded_concat, unopened, unended, Option.toList_none,
    List.append_nil]

theorem waiting_concat_opened {call : Call} (fresh : call.tag ∉ concluded past) :
    waiting (past ++ [.opened call]) = waiting past ++ [call] := by
  have unended : concluded (past ++ [.opened call]) = concluded past := by
    rw [concluded_concat]
    exact List.append_nil _
  rw [waiting, unended, opened_concat, List.filter_append, waiting]
  exact congrArg _ (List.filter_cons_of_pos (decide_eq_true fresh))

theorem waiting_concat_concluded (past : List Occurrence) {tag : Tag}
    (unopened : occurrence.opened? = none)
    (ends : occurrence.concluded? = some tag) :
    waiting (past ++ [occurrence]) = (waiting past).filter fun call => call.tag ≠ tag := by
  simp only [waiting, opened_concat, concluded_concat, unopened, ends, Option.toList_none,
    List.append_nil, List.filter_filter]
  refine List.filter_congr fun call _ => ?_
  simp [and_comm]

end

/-! ## Since a request was opened -/

/--
What has occurred since the request of a tag was opened.  What came before cannot concern
the request, since it had no handle yet.
-/
def since (past : List Occurrence) (tag : Tag) : List Occurrence :=
  past.dropWhile fun occurrence => !occurrence.opened?.any fun call => call.tag = tag

section

variable {past earlier later : List Occurrence} {occurrence : Occurrence} {call : Call}

theorem since_concat (inside : call ∈ opened past) :
    since (past ++ [occurrence]) call.tag = since past call.tag ++ [occurrence] := by
  have nonempty : (since past call.tag).isEmpty = false := by
    rw [Bool.eq_false_iff, ne_eq, List.isEmpty_iff]
    intro empty
    have passed := List.dropWhile_eq_nil_iff.mp empty _ (mem_opened.mp inside)
    simp [Occurrence.opened?] at passed
  rw [since, List.dropWhile_append, ← since, nonempty]
  rfl

theorem since_split (fresh : call.tag ∉ (opened earlier).map Call.tag) :
    since (earlier ++ .opened call :: later) call.tag = .opened call :: later := by
  rw [since, List.dropWhile_append_of_pos]
  · exact List.dropWhile_cons_of_neg (by simp [Occurrence.opened?])
  · intro occurrence inside
    cases occurrence with
    | opened other =>
        have different : other.tag ≠ call.tag := fun same =>
          fresh (same ▸ List.mem_map_of_mem (mem_opened.mpr inside))
        simp [Occurrence.opened?, different]
    | issued | replied | shut | resolved | cancelled => rfl

/--
What has been decided for a request by now.  The first decision counts, and later ones do
not alter it.
-/
def decided? (past : List Occurrence) (call : Call) : Option (Except Failure Reply) :=
  (since past call.tag).findSome? (Occurrence.decision? call.messageId)

theorem decided?_concat (inside : call ∈ opened past) :
    decided? (past ++ [occurrence]) call =
      (decided? past call).or (occurrence.decision? call.messageId) := by
  rw [decided?, since_concat inside, List.findSome?_append, ← decided?, List.findSome?_singleton]

theorem decided?_split (fresh : call.tag ∉ (opened earlier).map Call.tag) :
    decided? (earlier ++ .opened call :: later) call =
      later.findSome? (Occurrence.decision? call.messageId) := by
  rw [decided?, since_split fresh]
  rfl

/--
Apart from a reply nothing is decided but that the core is closed.  The deadline is no
decision, as it passes without anybody doing anything.
-/
theorem eq_closed_of_decided? {failure : Failure}
    (decided : decided? past call = some (.error failure)) : failure = .closed := by
  rcases List.exists_of_findSome?_eq_some decided with ⟨occurrence, -, decides⟩
  cases occurrence with
  | replied reply =>
      simp only [Occurrence.decision?] at decides
      split at decides <;> cases decides
  | shut =>
      cases decides
      rfl
  | issued | opened | resolved | cancelled => cases decides

/-! ## Handles -/

/--
The slot of a request for which something has been decided, or nothing yet.  It is what the
registry keeps for whoever holds the handle.
-/
def slotOf : Option (Except Failure Reply) → Slot
  | none => .waiting
  | some (.ok reply) => .filled reply
  | some (.error _) => .abandoned

def handleOf (past : List Occurrence) (call : Call) : Handle :=
  ⟨call.wait.token, call.messageId, slotOf (decided? past call)⟩

theorem handleOf_concat_quiet (inside : call ∈ opened past)
    (undecided : occurrence.decision? call.messageId = none) :
    handleOf (past ++ [occurrence]) call = handleOf past call := by
  rw [handleOf, decided?_concat inside, undecided, Option.or_none, handleOf]

theorem handleOf_concat_opened (fresh : call.tag ∉ (opened past).map Call.tag) :
    handleOf (past ++ [.opened call]) call = ⟨call.wait.token, call.messageId, .waiting⟩ := by
  rw [handleOf, decided?_split fresh]
  rfl

theorem handleOf_concat_replied (inside : call ∈ opened past) (reply : Reply) :
    handleOf (past ++ [.replied reply]) call =
      (handleOf past call).answer reply.messageId (.filled reply) := by
  rw [handleOf, decided?_concat inside]
  by_cases same : reply.messageId = call.messageId
  · have decides : (Occurrence.replied reply).decision? call.messageId = some (.ok reply) :=
      if_pos same
    rw [decides, Handle.answer_of_eq same.symm]
    unfold handleOf
    rcases decided? past call with - | (failure | former) <;> rfl
  · have passes : (Occurrence.replied reply).decision? call.messageId = none := if_neg same
    rw [passes, Option.or_none, Handle.answer_of_ne (Ne.symm same), handleOf]

theorem handleOf_concat_shut (inside : call ∈ opened past) :
    handleOf (past ++ [.shut]) call = (handleOf past call).fill .abandoned := by
  rw [handleOf, decided?_concat inside]
  unfold handleOf
  rcases decided? past call with - | (failure | reply) <;> rfl

/--
A request finds in its handle what the history tells about it.  The present time matters
only as long as nothing has been decided.
-/
theorem result?_eq {registry : Registry}
    (found : registry.handle? call.wait.token = some (handleOf past call)) (now : Nat) :
    call.wait.result? registry now = call.outcome? (since past call.tag) now := by
  rw [Call.outcome?, ← decided?, Wait.result?, found]
  cases decided : decided? past call with
  | none => simp only [handleOf, decided, slotOf, Option.none_or]
  | some result =>
      cases result with
      | ok reply => simp only [handleOf, decided, slotOf, Option.some_or]
      | error failure =>
          rw [eq_closed_of_decided? decided]
          simp only [handleOf, decided, slotOf, Option.some_or]

end

/-! ## Histories that make sense -/

/--
Requests are told apart by their tags and by their message ids, each of them ends at
most once, and it ends with what the occurrences since it was opened call for.
-/
structure Orderly (past : List Occurrence) : Prop where
  ids_nodup : ((opened past).map Call.messageId).Nodup
  tags_nodup : ((opened past).map Call.tag).Nodup
  deadline_eq : ∀ call ∈ opened past,
    call.wait.deadline = call.since + call.wait.budget.nanoseconds
  /--
  A request gets at most one result, and none once it has been cancelled.  So whoever has
  been told how a request ended need not listen any longer.
  -/
  concluded_nodup : (concluded past).Nodup
  /--
  Only a request that has been opened before ends.  A request whose frame could not leave
  has failed before it was opened.
  -/
  opened_before : ∀ earlier occurrence later tag, past = earlier ++ occurrence :: later →
    occurrence.concluded? = some tag → tag ∈ (opened earlier).map Call.tag
  outcome_eq : ∀ earlier call between now result later,
    past = earlier ++ .opened call :: (between ++ .resolved call.tag now result :: later) →
      call.outcome? between now = some result

theorem orderly_nil : Orderly [] where
  ids_nodup := List.nodup_nil
  tags_nodup := List.nodup_nil
  deadline_eq := nofun
  concluded_nodup := List.nodup_nil
  opened_before := by
    intro earlier occurrence later tag split
    cases earlier <;> cases split
  outcome_eq := by
    intro earlier call between now result later split
    cases earlier <;> cases split

namespace Orderly

variable {past : List Occurrence} {occurrence : Occurrence}

theorem concluded_subset (orderly : Orderly past) {tag : Tag} (ended : tag ∈ concluded past) :
    tag ∈ (opened past).map Call.tag := by
  rcases List.mem_filterMap.mp ended with ⟨occurrence, inside, ends⟩
  rcases List.append_of_mem inside with ⟨earlier, later, rfl⟩
  have before := orderly.opened_before earlier occurrence later tag rfl ends
  rw [opened, List.filterMap_append, List.map_append]
  exact List.mem_append_left _ before

/--
The history before an occurrence is in order as well.  A request that is opened somewhere in
it is therefore new at that place.
-/
theorem fresh_of_split (orderly : Orderly past) {earlier later : List Occurrence} {call : Call}
    (split : past = earlier ++ .opened call :: later) :
    call.tag ∉ (opened earlier).map Call.tag := by
  have distinct := orderly.tags_nodup
  rw [split, opened, List.filterMap_append, List.map_append] at distinct
  intro inside
  exact (List.nodup_append.mp distinct).2.2 _ inside _ List.mem_cons_self rfl

/--
One more occurrence, if it makes sense after what has occurred.  There is one condition for
each of the things that an occurrence can be.
-/
theorem concat (orderly : Orderly past)
    (opens : ∀ call, occurrence = .opened call →
      call.messageId ∉ (opened past).map Call.messageId ∧
        call.tag ∉ (opened past).map Call.tag ∧
          call.wait.deadline = call.since + call.wait.budget.nanoseconds)
    (ends : ∀ tag, occurrence.concluded? = some tag → tag ∈ (waiting past).map Call.tag)
    (resolves : ∀ call now result, occurrence = .resolved call.tag now result →
      call ∈ waiting past → call.outcome? (since past call.tag) now = some result) :
    Orderly (past ++ [occurrence]) where
  ids_nodup := by
    rw [opened_concat]
    cases occurrence with
    | opened call =>
        rw [List.map_append]
        refine orderly.ids_nodup.append (List.nodup_singleton _) ?_
        exact List.disjoint_singleton.mpr (opens call rfl).1
    | issued | replied | shut | resolved | cancelled =>
        simpa [Occurrence.opened?] using orderly.ids_nodup
  tags_nodup := by
    rw [opened_concat]
    cases occurrence with
    | opened call =>
        rw [List.map_append]
        refine orderly.tags_nodup.append (List.nodup_singleton _) ?_
        exact List.disjoint_singleton.mpr (opens call rfl).2.1
    | issued | replied | shut | resolved | cancelled =>
        simpa [Occurrence.opened?] using orderly.tags_nodup
  deadline_eq := by
    intro call inside
    rw [opened_concat, List.mem_append] at inside
    rcases inside with old | new
    · exact orderly.deadline_eq call old
    · cases occurrence with
      | opened other =>
          rw [List.mem_singleton.mp new]
          exact (opens other rfl).2.2
      | issued | replied | shut | resolved | cancelled => cases new
  concluded_nodup := by
    rw [concluded_concat]
    cases ended : occurrence.concluded? with
    | none => simpa using orderly.concluded_nodup
    | some tag =>
        rcases List.mem_map.mp (ends tag ended) with ⟨call, waits, rfl⟩
        refine orderly.concluded_nodup.append (List.nodup_singleton _) ?_
        exact List.disjoint_singleton.mpr (mem_waiting.mp waits).2
  opened_before := by
    intro earlier other later tag split ended
    rcases Run.split_concat split with ⟨rfl, rfl⟩ | ⟨rest, inner⟩
    · rcases List.mem_map.mp (ends tag ended) with ⟨call, waits, rfl⟩
      exact List.mem_map_of_mem (mem_waiting.mp waits).1
    · exact orderly.opened_before earlier other rest tag inner ended
  outcome_eq := by
    intro earlier call between now result later split
    rw [← List.cons_append, ← List.append_assoc] at split
    -- Either the result is the last occurrence, or it was there before.
    rcases Run.split_concat split with ⟨whole, last⟩ | ⟨rest, inner⟩
    · have fresh := orderly.fresh_of_split whole
      rcases List.mem_map.mp (ends call.tag (by rw [last]; rfl)) with ⟨other, waits, same⟩
      have inside : call ∈ opened past := by
        rw [mem_opened, whole]
        exact List.mem_append_right _ List.mem_cons_self
      have it : other = call :=
        List.inj_on_of_nodup_map orderly.tags_nodup (mem_waiting.mp waits).1 inside same
      have outcome := resolves call now result last (it ▸ waits)
      rw [whole, since_split fresh] at outcome
      exact outcome
    · rw [List.append_assoc, List.cons_append] at inner
      exact orderly.outcome_eq earlier call between now result rest inner

end Orderly

end Session
end DeviceLink
