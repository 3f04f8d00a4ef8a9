import DeviceLink.Proofs.Core.Run
import DeviceLink.Proofs.Traffic.Ids
import DeviceLink.Proofs.Traffic.Tracking

namespace DeviceLink
namespace Traffic

open Registry (Occurrence)

variable {σ : Type}

/-!
Requests and the end of the core.  A response that comes in once a frame is out finds
its request, and after both steps of a shutdown every request comes to its end by its
own steps alone, whatever the others do meanwhile.  `Unstranded` collects the results.
A response may fail to find its request only if it has an excuse, and the runs at the
end of the module show that neither of the two excuses can be spared.
-/

/--
What a request may end with after a shutdown, given what had occurred by then and what time
it was; `framed` says whether its frame was out by then.
-/
inductive Fate (past : List Occurrence) (now : Nat) (framed : Bool) (due : Nat)
    (budget : Duration) (slip : Option Slip) : Except Failure Reply → Prop
  | replied {given : Slip} {reply : Reply} (same : slip = some given)
      (decided : Decided past given (.ok reply)) : Fate past now framed due budget slip (.ok reply)
  | failed {failure : Failure} (unframed : framed = false) :
      Fate past now framed due budget slip (.error failure)
  | closed : Fate past now framed due budget slip (.error .closed)
  | timeout {given : Slip} (same : slip = some given) (late : due ≤ now) :
      Fate past now framed due budget slip (.error (.timeout given.messageId budget))

/--
What is known of a request that is on its way to its end.  It depends on the stage, and it
says enough to know what each further step can come to.
-/
def Doomed (past : List Occurrence) (now : Nat) (framed : Bool) (caller : Caller) : Prop :=
  match caller.stage with
  | .routed slip _ => framed = false ∧ ∃ result, Decided past slip result
  | .waiting slip => ∃ result, Decided past slip result
  | .leaving slip _ result => Fate past now framed caller.due caller.budget (some slip) result
  | .returned slip _ result => Fate past now framed caller.due caller.budget slip result
  | _ => framed = false

section

variable {capacity : Nat} {past later : List Occurrence} {traffic : Traffic σ} {caller : Caller}
  {slip : Slip} {now : Nat} {framed : Bool}

/--
Everybody is on the way to an end once the entries have been given up.  No request is left
in a stage in which it could wait for ever.
-/
theorem doomed_of_cleared (tracked : Tracked capacity past traffic)
    (cleared : traffic.shutdown = .cleared) (inside : caller ∈ traffic.callers)
    (unreturned : caller.stage.result? = none) :
    Doomed past traffic.now caller.stage.framed?.isSome caller := by
  have placed := tracked.placed caller inside
  rw [Placed] at placed
  rw [Doomed]
  cases stage : caller.stage with
  | begun | checked | numbered | registered => rfl
  | routed slip sink =>
      rw [stage] at placed
      exact ⟨rfl, placed cleared⟩
  | waiting slip =>
      rw [stage] at placed
      exact placed cleared
  | leaving slip framed result =>
      rw [stage] at placed
      cases framed with
      | false =>
          rcases placed with ⟨failure, rfl⟩
          exact .failed rfl
      | true =>
          cases placed with
          | replied decided => exact .replied rfl decided
          | closed => exact .closed
          | timeout late => exact .timeout rfl late
  | returned =>
      rw [stage] at unreturned
      cases unreturned

/--
What has been decided for a request is what it finds as long as it has its handle.  The
entry may be gone by then, but the handle is its own.
-/
theorem Tracked.result_of_decided (tracked : Tracked capacity past traffic)
    (inside : caller ∈ traffic.callers) (has : caller.stage.slip? = some slip)
    (holds : caller.stage.held? = some slip.token) {result : Except Failure Reply}
    (decided : Decided past slip result) (now : Nat) :
    (caller.wait slip).result? traffic.core.registry now = some result := by
  rcases tracked.handle_of_held inside has holds with ⟨unended, -⟩
  rcases decided with ⟨earlier, later, split, first⟩
  have found := tracked.change.handle?_registered (Registry.coherent_new capacity) split
    (Registry.unended_of_split split unended)
  have result_eq : (caller.wait slip).result? traffic.core.registry now = _ :=
    Wait.result?_eq found now
  rw [Registry.verdict?_heeded, first] at result_eq
  exact result_eq

/--
After a shutdown no step of a request can fail to bring it closer to its end.  It has one
step less to go, or it has returned.
-/
theorem Doomed.step (doomed : Doomed past now framed caller)
    (tracked : Tracked capacity (past ++ later) traffic) (cleared : traffic.shutdown = .cleared)
    (inside : caller ∈ traffic.callers) {core : Core σ} {next : Stage} {notes : List Occurrence}
    (advance : Advance caller traffic.core traffic.now caller.stage core next notes) :
    Doomed past now framed { caller with stage := next } ∧
      next.remaining ≤ caller.stage.remaining - 1 := by
  have closed := tracked.closed (cleared ▸ nofun)
  generalize stage_eq : caller.stage = stage at advance
  rw [Doomed, stage_eq] at doomed
  cases advance with
  | unconnected | unregistered => exact ⟨.failed doomed, Nat.zero_le _⟩
  | checked connected =>
      rw [Link.ensureConnected, closed] at connected
      cases connected
  | numbered | registered => exact ⟨doomed, Nat.le_refl _⟩
  | routed routes =>
      rw [Link.route, closed] at routes
      cases routes
  | unrouted => exact ⟨.failed doomed, (by decide : 1 ≤ 3)⟩
  | sent => exact ⟨doomed.2, Nat.le_refl _⟩
  | unsent => exact ⟨.failed doomed.1, (by decide : 1 ≤ 2)⟩
  | finished finished =>
      rcases doomed with ⟨result, decided⟩
      have found := tracked.result_of_decided inside (stage_eq ▸ rfl) (stage_eq ▸ rfl)
        (decided.append later) traffic.now
      cases Option.some.inj (finished.symm.trans found)
      refine ⟨?_, Nat.le_refl _⟩
      rcases decided.cases with ⟨reply, rfl⟩ | ⟨rfl, -⟩
      · exact .replied rfl decided
      · exact .closed
  | goesOn undecided =>
      rcases doomed with ⟨result, decided⟩
      have found := tracked.result_of_decided inside (stage_eq ▸ rfl) (stage_eq ▸ rfl)
        (decided.append later) traffic.now
      cases undecided.symm.trans found
  | left => exact ⟨doomed, Nat.le_refl _⟩
  | returned => exact ⟨doomed, Nat.le_refl _⟩

/-- Other moves leave a request where it is.  Its stage and its deadline are its own. -/
theorem caller_of_others (setup : Setup σ) {index : Nat}
    (found : traffic.callers[index]? = some caller) {move : Move}
    (others : move.isStepOf index = false) :
    (traffic.perform setup move).callers[index]? = some caller := by
  cases outside : move.isOutside with
  | true =>
      rw [(outside_perform setup traffic outside).callers_eq]
      exact found
  | false =>
      cases move with
      | call device request budget =>
          rcases call_eq traffic device request budget with same | ⟨other, called, -⟩
          · rw [perform, same]
            exact found
          · rw [perform, called]
            exact (List.getElem?_append_left (List.getElem?_eq_some_iff.mp found).1).trans found
      | step other =>
          have different : other ≠ index := of_decide_eq_false others
          rw [perform, Traffic.step]
          split
          · exact found
          · exact (List.getElem?_set_ne different).trans found
      | shutdown =>
          rw [perform]
          split <;> exact found
      | _ => cases outside

theorem cleared_perform (setup : Setup σ) (cleared : traffic.shutdown = .cleared) (move : Move) :
    (traffic.perform setup move).shutdown = .cleared := by
  cases outside : move.isOutside with
  | true => exact (outside_perform setup traffic outside).shutdown_eq.trans cleared
  | false =>
      cases move with
      | call device request budget =>
          rcases call_eq traffic device request budget with same | ⟨other, called, -⟩
          · rw [perform, same]
            exact cleared
          · rw [perform, called]
            exact cleared
      | step index =>
          rw [perform, Traffic.step]
          split <;> exact cleared
      | shutdown =>
          rw [perform, cleared]
          exact cleared
      | _ => cases outside

theorem doomed_perform (setup : Setup σ) (doomed : Doomed past now framed caller)
    (tracked : Tracked capacity (past ++ later) traffic) (cleared : traffic.shutdown = .cleared)
    {index : Nat} (found : traffic.callers[index]? = some caller) (move : Move) :
    ∃ stage, (traffic.perform setup move).callers[index]? = some { caller with stage := stage } ∧
      Doomed past now framed { caller with stage := stage } ∧
      stage.remaining ≤ caller.stage.remaining - if move.isStepOf index then 1 else 0 := by
  cases own : move.isStepOf index with
  | false => exact ⟨caller.stage, caller_of_others setup found own, doomed, Nat.le_refl _⟩
  | true =>
      cases move with
      | step other =>
          cases of_decide_eq_true own
          rcases step_of_found found with
            ⟨before, rest, core, stage, rfl, callers_eq, step_eq, advance⟩
          rcases doomed.step tracked cleared (List.mem_of_getElem? found) advance with
            ⟨still, fewer⟩
          refine ⟨stage, ?_, still, fewer⟩
          rw [perform, step_eq]
          refine (List.getElem?_append_right (Nat.le_refl _)).trans ?_
          rw [Nat.sub_self]
          rfl
      | _ => cases own

/--
However the moves are mixed, every step of its own brings a request closer to its end.  The
induction is on the moves, and those of others change nothing about it.
-/
theorem doomed_run (setup : Setup σ) (doomed : Doomed past now framed caller)
    (tracked : Tracked capacity (past ++ later) traffic) (cleared : traffic.shutdown = .cleared)
    {index : Nat} (found : traffic.callers[index]? = some caller) (moves : List Move) :
    ∃ stage, (traffic.run setup moves).callers[index]? = some { caller with stage := stage } ∧
      Doomed past now framed { caller with stage := stage } ∧
      stage.remaining ≤ caller.stage.remaining - moves.countP (Move.isStepOf index) := by
  induction moves generalizing traffic caller later with
  | nil => exact ⟨caller.stage, found, doomed, Nat.le_refl _⟩
  | cons move rest ih =>
      rcases doomed_perform setup doomed tracked cleared found move with
        ⟨stage, found_then, doomed_then, fewer⟩
      have tracked_then := tracked.perform setup move
      rw [List.append_assoc] at tracked_then
      rcases ih doomed_then tracked_then (cleared_perform setup cleared move) found_then with
        ⟨last, found_last, doomed_last, fewest⟩
      refine ⟨last, found_last, doomed_last, ?_⟩
      rw [List.countP_cons]
      dsimp only at fewest
      omega

/-! ## Responses -/

/--
Once its frame is out, a request waits for the reply or has its result.  In the last two
cases it has looked before.
-/
theorem Stage.cases_of_framed {stage : Stage} (framed : stage.framed? = some slip) :
    stage = .waiting slip ∨ ∃ result,
      stage = .leaving slip true result ∨ stage = .returned (some slip) true result := by
  cases stage with
  | begun | checked | numbered | registered | routed => cases framed
  | waiting =>
      cases framed
      exact .inl rfl
  | leaving given out result =>
      cases out with
      | false => cases framed
      | true =>
          cases framed
          exact .inr ⟨result, .inl rfl⟩
  | returned given out result =>
      cases out with
      | false => cases framed
      | true =>
          cases framed
          exact .inr ⟨result, .inr rfl⟩

/--
A frame that is out has been sent under the message id of its request.  It is the one that
its registration has.
-/
theorem Stage.slip?_of_framed {stage : Stage} (framed : stage.framed? = some slip) :
    stage.slip? = some slip := by
  rcases cases_of_framed framed with rfl | ⟨result, rfl | rfl⟩ <;> rfl

/--
Another request has been given the same message id.  It is the only way to lose an entry
before the handle is dropped.
-/
theorem other_of_shared (tracked : Tracked capacity past traffic) {index : Nat}
    (found : traffic.callers[index]? = some caller) (has : caller.stage.slip? = some slip)
    (shared : Shared past slip) :
    ∃ other second, other ≠ index ∧ traffic.callers[other]? = some second ∧
      second.stage.id? = some slip.messageId := by
  rcases shared with ⟨token, different, registered⟩
  rcases tracked.owners token slip.messageId registered with ⟨second, inside, has_other⟩
  rcases List.getElem?_of_mem inside with ⟨other, found_other⟩
  refine ⟨other, second, ?_, found_other, ?_⟩
  · rintro rfl
    cases Option.some.inj (found.symm.trans found_other)
    rw [has] at has_other
    exact different (congrArg Slip.token (Option.some.inj has_other)).symm
  · have named : second.stage.id? = some (Slip.mk slip.messageId token).messageId :=
      Stage.id?_of_slip? has_other
    exact named

/--
As long as nobody has shut down the core, a request whose frame is out finds its entry until
its deadline.  If it does not, an earlier response or another request has taken the entry.
-/
theorem waiting_of_framed (tracked : Tracked capacity past traffic)
    (uncleared : traffic.shutdown ≠ .cleared) (inside : caller ∈ traffic.callers)
    (framed : caller.stage.framed? = some slip) (early : traffic.now < caller.due) :
    (∃ handle ∈ traffic.core.registry.handles, handle.messageId = slip.messageId ∧
      handle.slot = .waiting) ∨ (∃ reply, Decided past slip (.ok reply)) ∨ Shared past slip := by
  have explained {result : Except Failure Reply}
      (explained : Explained past traffic.now caller.due caller.budget slip result) :
      (∃ reply, Decided past slip (.ok reply)) ∨ Shared past slip := by
    cases explained with
    | replied decided => exact .inl ⟨_, decided⟩
    | closed cause =>
        exact cause.elim (fun clears => absurd (tracked.cleared clears) uncleared) .inr
    | timeout late => exact absurd early (Nat.not_lt_of_le late)
  have placed := tracked.placed caller inside
  rw [Placed] at placed
  rcases Stage.cases_of_framed framed with waits | ⟨result, stage | stage⟩
  · have has : caller.stage.slip? = some slip := waits ▸ rfl
    have holds : caller.stage.held? = some slip.token := waits ▸ rfl
    rcases tracked.verdict_of_held inside has holds traffic.now with
      ⟨result, decided, finished⟩ | ⟨waiting, -⟩
    · exact .inr (explained (tracked.explained inside waits finished))
    · exact .inl waiting
  · rw [stage] at placed
    exact .inr (explained placed)
  · rw [stage] at placed
    exact .inr (explained placed)

theorem delivered_of_waiting (setup : Setup σ) {core : Core σ} (coherent : core.registry.Coherent)
    {handle : Handle} (inside : handle ∈ core.registry.handles) (waits : handle.slot = .waiting)
    {text : String} {code : Int32} {payload : Json.Value}
    (response : Inbound.ofText text = .ok (.response handle.messageId code payload)) :
    (core.receive setup text).1 = .delivered := by
  have delivered : (core.registry.deliver ⟨handle.messageId, code, payload⟩).1 = true :=
    coherent.deliver_of_waiting inside waits rfl
  simp only [Core.receive, response, Core.receiveReply, Core.deliver, delivered]

/--
A response that comes in once the frame of a request is out, before its deadline and before
the entries are given up, finds the request, or there is an excuse.
-/
def Prompt (setup : Setup σ) (traffic : Traffic σ) (excuse : Nat → Slip → Prop) : Prop :=
  ∀ (index : Nat) (caller : Caller) (slip : Slip),
    traffic.callers[index]? = some caller → caller.stage.framed? = some slip →
    traffic.now < caller.due → traffic.shutdown ≠ .cleared →
    ∀ text code payload, Inbound.ofText text = .ok (.response slip.messageId code payload) →
    (traffic.core.receive setup text).1 = .delivered ∨ excuse index slip

/--
What holds at any moment, given what has occurred and which message ids have been taken.
The parts are about responses, about what a request ends with, and about how it ends after a
shutdown.
-/
structure Unstranded (setup : Setup σ) (past : List Occurrence) (issued : List UInt32)
    (traffic : Traffic σ) : Prop where
  /--
  The excuses: an earlier response has found the request, or another has its message id.
  Without an excuse the verdict on the frame is that it was delivered.
  -/
  prompt : Prompt setup traffic fun index slip =>
    (∃ reply, Decided past slip (.ok reply)) ∨
      ∃ (other : Nat) (second : Caller), other ≠ index ∧ traffic.callers[other]? = some second ∧
        second.stage.id? = some slip.messageId
  /--
  No two requests have the same message id as long as the counter has not come round.  Until
  then the second excuse cannot be made.
  -/
  distinct : issued.length < UInt32.size →
    ∀ (first second : Nat) (one other : Caller) (messageId : UInt32),
    traffic.callers[first]? = some one → traffic.callers[second]? = some other →
    one.stage.id? = some messageId → other.stage.id? = some messageId → first = second
  /--
  After both steps of a shutdown a request returns by seven steps of its own at most,
  whatever happens or does not happen besides.
  -/
  returns : traffic.shutdown = .cleared → ∀ (index : Nat) (caller : Caller),
    traffic.callers[index]? = some caller → caller.stage.result? = none →
    ∀ moves : List Move, 7 ≤ moves.countP (Move.isStepOf index) →
    ∃ slip framed result,
      (traffic.run setup moves).callers[index]? =
        some { caller with stage := .returned slip framed result } ∧
      Fate past traffic.now caller.stage.framed?.isSome caller.due caller.budget slip result
  /--
  When all have returned, nothing is left of them.  The registry has neither entries nor
  handles.
  -/
  empty : (∀ caller ∈ traffic.callers, caller.stage.result?.isSome = true) →
    traffic.core.registry.entries = [] ∧ traffic.core.registry.handles = []

theorem empty_of_returned (tracked : Tracked capacity past traffic)
    (returned : ∀ caller ∈ traffic.callers, caller.stage.result?.isSome = true) :
    traffic.core.registry.entries = [] ∧ traffic.core.registry.handles = [] := by
  have nobody : held traffic.callers = [] := by
    refine List.filterMap_eq_nil_iff.mpr fun caller inside => ?_
    have finished := returned caller inside
    cases stage : caller.stage with
    | returned => rfl
    | _ =>
        rw [stage] at finished
        cases finished
  have nothing : traffic.core.registry.handles = [] :=
    List.map_eq_nil_iff.mp (nobody ▸ tracked.held_perm).nil_eq.symm
  exact ⟨by rw [tracked.coherent.entries_eq, nothing, List.filterMap_nil], nothing⟩

theorem Stage.remaining_le (stage : Stage) : stage.remaining ≤ 7 := by
  cases stage <;> simp [remaining]

theorem Stage.returned_of_remaining {stage : Stage} (none_left : stage.remaining = 0) :
    ∃ slip framed result, stage = .returned slip framed result := by
  cases stage with
  | returned slip framed result => exact ⟨slip, framed, result, rfl⟩
  | _ => cases none_left

end

theorem requests_unstranded (setup : Setup σ) (world : σ) (moves : List Move) :
    Unstranded setup ((new setup world).history setup moves)
      ((new setup world).issued setup moves) ((new setup world).run setup moves) := by
  have tracked := tracked_run setup world moves
  refine ⟨?_, ?_, ?_, empty_of_returned tracked⟩
  · intro index caller slip found framed early uncleared text code payload response
    have inside := List.mem_of_getElem? found
    rcases waiting_of_framed tracked uncleared inside framed early with
      ⟨handle, there, same, waits⟩ | answered | shared
    · exact .inl (delivered_of_waiting setup tracked.coherent there waits (same ▸ response))
    · exact .inr (.inl answered)
    · exact .inr (.inr (other_of_shared tracked found (Stage.slip?_of_framed framed) shared))
  · intro few first second one other messageId found found_other has has_other
    exact index_of_id (numbered_run setup world moves few).ids_nodup found found_other has has_other
  · intro cleared index caller found unreturned later enough
    have doomed := doomed_of_cleared tracked cleared (List.mem_of_getElem? found) unreturned
    rw [← List.append_nil ((new setup world).history setup moves)] at tracked
    rcases doomed_run setup doomed tracked cleared found later with
      ⟨stage, found_then, doomed_then, fewer⟩
    have none_left : stage.remaining = 0 := by
      have most := caller.stage.remaining_le
      omega
    rcases Stage.returned_of_remaining none_left with ⟨slip, framed, result, rfl⟩
    exact ⟨slip, framed, result, found_then, doomed_then⟩

/-! ## No excuse can be spared -/

/--
The message id of the request that a frame replies to.  It is nothing for a frame that is no
response.
-/
def repliesTo? (text : String) : Option UInt32 :=
  match Inbound.ofText text with
  | .ok (.response messageId _ _) => some messageId
  | _ => none

theorem response_of_repliesTo? {text : String} {messageId : UInt32}
    (replies : repliesTo? text = some messageId) :
    ∃ code payload, Inbound.ofText text = .ok (.response messageId code payload) := by
  unfold repliesTo? at replies
  split at replies
  · rename_i response
    cases replies
    exact ⟨_, _, response⟩
  · cases replies

theorem not_prompt {setup : Setup σ} {traffic : Traffic σ} {excuse : Nat → Slip → Prop}
    (index : Nat) (slip : Slip) {text : String}
    (framed : (traffic.callers[index]?.bind fun caller => caller.stage.framed?) = some slip)
    (early : (traffic.callers[index]?.any fun caller => traffic.now < caller.due) = true)
    (uncleared : traffic.shutdown ≠ .cleared) (replies : repliesTo? text = some slip.messageId)
    (missed : (traffic.core.receive setup text).1 ≠ .delivered) (unexcused : ¬ excuse index slip) :
    ¬ Prompt setup traffic excuse := by
  intro prompt
  rcases Option.bind_eq_some_iff.mp framed with ⟨caller, found, framed⟩
  rcases response_of_repliesTo? replies with ⟨code, payload, response⟩
  rw [found] at early
  exact (prompt index caller slip found framed (of_decide_eq_true early) uncleared text code
    payload response).elim missed unexcused

def lamp : Address := ⟨"house", "lamp"⟩

def firstReply : String := "\x7b\"messageId\":1,\"code\":0,\"payload\":\x7b\x7d\x7d"

theorem online_settled : ∃ payload, Request.payload .online lamp = .ok payload := by
  have settled : (Request.payload .online lamp).toOption.isSome = true := by decide +kernel
  cases outcome : Request.payload .online lamp with
  | ok payload => exact ⟨payload, rfl⟩
  | error failure =>
      rw [outcome] at settled
      cases settled

/--
The reply is there, and the request has not looked yet.  Another response with the same
message id would find no entry.
-/
def replied : List Move :=
  [.establish (.record "gateway"), .call lamp .online (.ofSeconds 5), .step 0, .step 0, .step 0,
    .step 0, .step 0, .receive firstReply]

/-- The frames of others are refused meanwhile.  They take message ids all the same. -/
def refused : List Move := replied ++ [.establish (.refusing .connectionDown)]

/--
The counter comes round, and the request has still not looked.  It takes as many reports as
there are message ids.
-/
def comesRound : List Move :=
  refused ++ List.replicate (UInt32.size - 2) (.report lamp .online)

/--
Another request is given the same message id, and then the first one leaves.  The handle
that is dropped takes the entry of the other with it.
-/
def numberedAgain : List Move :=
  [.establish (.record "gateway"), .call lamp .online (.ofSeconds 5), .step 1, .step 1, .step 1,
    .step 1, .step 1, .step 0, .step 0]

/--
The reply comes before the frame is out, and then the core is shut down.  The request has
its reply, so it succeeds.
-/
def repliedEarly : List Move :=
  [.establish (.record "gateway"), .call lamp .online (.ofSeconds 5), .step 0, .step 0, .step 0,
    .step 0, .receive firstReply, .shutdown, .shutdown]

open DeviceLink.Core (plainSetup)

/--
What is left when the counter has come round.  Only the counter differs from what was there
before.
-/
def afterRound : Traffic Unit :=
  let traffic := (new plainSetup ()).run plainSetup refused
  { traffic with core := { traffic.core with nextId := 0 } }

theorem run_numberedAgain :
    (new plainSetup ()).run plainSetup (comesRound ++ numberedAgain) =
      afterRound.run plainSetup numberedAgain := by
  rcases online_settled with ⟨payload, settled⟩
  have link : ((new plainSetup ()).run plainSetup refused).core.link =
      ⟨.connected, some 1, .connected, 1⟩ := by decide +kernel
  have routes : ((new plainSetup ()).run plainSetup refused).core.link.route = .ok 1 := by
    rw [link]
    rfl
  have refuses : ((new plainSetup ()).run plainSetup refused).core.outlets[1]? =
      some (.refusing .connectionDown) := by decide +kernel
  have next : ((new plainSetup ()).run plainSetup refused).core.nextId = UInt32.ofNat (1 + 1) := by
    decide +kernel
  have few : 1 + (UInt32.size - 2) < UInt32.size := by decide
  have round := run_refused plainSetup settled routes refuses next few
  rw [comesRound, run, List.foldl_append, List.foldl_append]
  exact congrArg (run plainSetup · numberedAgain) round

/--
The entry of the second request has gone with the first one.  So nothing has been decided
for it when its reply comes in.
-/
theorem undecided_numberedAgain (reply : Reply) :
    ¬ Decided ((new plainSetup ()).history plainSetup (comesRound ++ numberedAgain)) ⟨1, 1⟩
      (.ok reply) := by
  intro decided
  have tracked := tracked_run plainSetup () (comesRound ++ numberedAgain)
  rw [run_numberedAgain] at tracked
  have has : ((afterRound.run plainSetup numberedAgain).callers[1]?.bind fun caller =>
      caller.stage.slip?) = some ⟨1, 1⟩ := by decide +kernel
  have holds : ((afterRound.run plainSetup numberedAgain).callers[1]?.bind fun caller =>
      caller.stage.held?) = some 1 := by decide +kernel
  have fails : ((afterRound.run plainSetup numberedAgain).callers[1]?.bind fun caller =>
      ((caller.wait ⟨1, 1⟩).result? (afterRound.run plainSetup numberedAgain).core.registry 0).map
        Except.toBool) = some false := by decide +kernel
  rcases Option.bind_eq_some_iff.mp has with ⟨caller, found, has⟩
  rw [found] at holds fails
  have finds := tracked.result_of_decided (List.mem_of_getElem? found) has holds decided 0
  rw [Option.bind_some, finds] at fails
  cases fails

/-- Neither excuse can be spared, and a request may succeed whose frame has still to go out. -/
theorem excuses_needed :
    (¬ ∀ moves, Prompt plainSetup ((new plainSetup ()).run plainSetup moves) fun _ _ => False) ∧
    (¬ ∀ moves, Prompt plainSetup ((new plainSetup ()).run plainSetup moves) fun _ slip =>
      ∃ reply, Decided ((new plainSetup ()).history plainSetup moves) slip (.ok reply)) ∧
    ¬ ∀ (moves later : List Move) (index : Nat) (caller : Caller),
      let traffic := (new plainSetup ()).run plainSetup moves
      traffic.shutdown = .cleared → traffic.callers[index]? = some caller →
      caller.stage.result? = none → caller.stage.framed? = none →
      7 ≤ later.countP (Move.isStepOf index) →
      ∃ slip framed failure, (traffic.run plainSetup later).callers[index]? =
        some { caller with stage := .returned slip framed (.error failure) } := by
  refine ⟨fun prompt => ?_, fun prompt => ?_, fun fails => ?_⟩
  · exact not_prompt 0 ⟨1, 0⟩ (by decide +kernel) (by decide +kernel) (by decide +kernel)
      (show repliesTo? firstReply = some 1 by decide +kernel) (by decide +kernel) id
      (prompt replied)
  · have excused := prompt (comesRound ++ numberedAgain)
    rw [run_numberedAgain] at excused
    exact not_prompt 1 ⟨1, 1⟩ (by decide +kernel) (by decide +kernel) (by decide +kernel)
      (show repliesTo? firstReply = some 1 by decide +kernel) (by decide +kernel)
      (fun excuse => excuse.elim undecided_numberedAgain) excused
  · have unreturned :
        (((new plainSetup ()).run plainSetup repliedEarly).callers[0]?.map fun caller =>
          (caller.stage.result?.isNone, caller.stage.framed?)) = some (true, none) := by
      decide +kernel
    have succeeds :
        ((((new plainSetup ()).run plainSetup repliedEarly).run plainSetup
          (List.replicate 7 (.step 0))).callers[0]?.bind fun caller =>
            caller.stage.result?.map Except.toBool) = some true := by decide +kernel
    rcases Option.map_eq_some_iff.mp unreturned with ⟨caller, found, both⟩
    rcases Prod.mk.inj both with ⟨unreturned, unframed⟩
    rcases fails repliedEarly (List.replicate 7 (.step 0)) 0 caller (by decide +kernel) found
      (Option.isNone_iff_eq_none.mp unreturned) unframed (by decide) with
      ⟨slip, framed, failure, failed⟩
    rw [failed] at succeeds
    cases succeeds

end Traffic
end DeviceLink
