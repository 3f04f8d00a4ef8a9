import DeviceLink.Proofs.Lobby.Run
import DeviceLink.Proofs.Traffic.Shutdown

namespace DeviceLink
namespace Lobby

open Registry (Occurrence Change)

variable {σ : Type}

/-!
What becomes of a reply that has been delivered.  A call that had no result yet returns
it, whatever comes in between.  But the entry of a call lives until its handle goes, and
a reply that comes after the call has timed out and before that counts as delivered all
the same: nobody will ever see it.  `Delivery` describes a delivered frame completely:
to whom it counts, who will return it, and who has missed it.
-/

/-! ## What a move does to one call -/

section

variable {lobby next : Lobby σ} {index : Nat} {guest : Guest} {stage : Stage}

/--
What a move can do to a call, and to its handle as long as it has it.  It is its own step,
or a move of somebody else that at most decides for it.
-/
inductive Turn (lobby next : Lobby σ) (guest : Guest) : Stage → Prop
  | own (same : next.core = (guest.next lobby.core lobby.now).1) :
      Turn lobby next guest (guest.next lobby.core lobby.now).2
  | gaveUp : Turn lobby next guest .cancelled
  | aside (notes : List Occurrence)
      (change : Change lobby.core.registry notes next.core.registry)
      (stays : guest.held? ≠ none → guest.wait.token ∉ Registry.ended notes) :
      Turn lobby next guest guest.stage

theorem index_of_held {guests : List Guest} (distinct : (held guests).Nodup) {first second : Nat}
    {one other : Guest} (found : guests[first]? = some one) (there : guests[second]? = some other)
    (holds : one.held? ≠ none) (holding : other.held? ≠ none)
    (same : one.wait.token = other.wait.token) : first = second := by
  rcases List.getElem?_eq_some_iff.mp found with ⟨inside, rfl⟩
  rcases List.getElem?_eq_some_iff.mp there with ⟨among, rfl⟩
  have apart := List.pairwise_iff_getElem.mp (List.pairwise_filterMap.mp distinct)
  rcases Nat.lt_trichotomy first second with before | equal | after
  · exact absurd same (apart first second inside among before _ (Guest.held?_eq holds) _
      (Guest.held?_eq holding))
  · exact equal
  · exact absurd same.symm (apart second first among inside after _ (Guest.held?_eq holding) _
      (Guest.held?_eq holds))

/--
A step of a call takes away its own handle at most.  Handles of other calls stay where they
are.
-/
theorem change_next (sound : lobby.Sound) (inside : guest ∈ lobby.guests) :
    ∃ notes, Change lobby.core.registry notes (guest.next lobby.core lobby.now).1.registry ∧
      ∀ token ∈ Registry.ended notes, guest.held? ≠ none ∧ token = guest.wait.token := by
  have quiet : Change lobby.core.registry [] lobby.core.registry ∧
      ∀ token ∈ Registry.ended [], guest.held? ≠ none ∧ token = guest.wait.token :=
    ⟨.nothing _, fun token ends => absurd ends List.not_mem_nil⟩
  cases stage : guest.stage with
  | entered =>
      have apart := Core.apart_send lobby.core guest.frame
      refine ⟨[], ?_⟩
      simp only [Guest.next, stage]
      split <;> rename_i sent <;> rw [sent] at apart <;> rw [apart.registry_eq] <;> exact quiet
  | waiting =>
      refine ⟨[], ?_⟩
      simp only [Guest.next, stage]
      split <;> exact quiet
  | leaving sent result =>
      have holds : guest.held? ≠ none := by simp [Guest.held?, stage]
      rcases sound.known guest inside holds with ⟨handle, there, -, -⟩
      simp only [Guest.next, stage]
      refine ⟨_, change_drop there, fun token ends => ⟨holds, ?_⟩⟩
      have one : (Occurrence.dropped guest.wait.token).ended? = some guest.wait.token := rfl
      rw [Registry.ended_of_gone one] at ends
      exact List.mem_singleton.mp ends
  | returned | cancelled =>
      refine ⟨[], ?_⟩
      simp only [Guest.next, stage]
      exact quiet

theorem turn_step (sound : lobby.Sound) (found : lobby.guests[index]? = some guest) (other : Nat) :
    ∃ stage, (lobby.step other).guests[index]? = some { guest with stage := stage } ∧
      Turn lobby (lobby.step other) guest stage := by
  cases there : lobby.guests[other]? with
  | none =>
      simp only [step, there]
      exact ⟨guest.stage, found, .aside [] (.nothing _) fun _ => List.not_mem_nil⟩
  | some mover =>
      simp only [step, there]
      by_cases same : other = index
      · subst same
        cases there.symm.trans found
        refine ⟨_, ?_, .own rfl⟩
        exact List.getElem?_set_self (List.getElem?_eq_some_iff.mp found).1
      · rcases change_next sound (List.mem_of_getElem? there) with ⟨notes, change, only⟩
        refine ⟨guest.stage, ?_, .aside notes change fun holds ends => ?_⟩
        · exact (List.getElem?_set_ne same).trans found
        · rcases only _ ends with ⟨holding, token_eq⟩
          exact same (index_of_held sound.held_nodup there found holding holds token_eq.symm)

theorem turn_cancel (sound : lobby.Sound) (found : lobby.guests[index]? = some guest)
    (other : Nat) :
    ∃ stage, (lobby.cancel other).guests[index]? = some { guest with stage := stage } ∧
      Turn lobby (lobby.cancel other) guest stage := by
  unfold cancel
  cases there : lobby.guests[other]? with
  | none => exact ⟨guest.stage, found, .aside [] (.nothing _) fun _ => List.not_mem_nil⟩
  | some mover =>
      dsimp only
      cases holding : mover.held? with
      | none => exact ⟨guest.stage, found, .aside [] (.nothing _) fun _ => List.not_mem_nil⟩
      | some token =>
          have holds_too : mover.held? ≠ none := by rw [holding]; exact nofun
          have own : mover.wait.token = token :=
            Option.some.inj ((Guest.held?_eq holds_too).symm.trans holding)
          by_cases same : other = index
          · subst same
            cases there.symm.trans found
            exact ⟨.cancelled, List.getElem?_set_self (List.getElem?_eq_some_iff.mp found).1,
              .gaveUp⟩
          · rcases sound.known mover (List.mem_of_getElem? there) holds_too with
              ⟨handle, known, -, -⟩
            refine ⟨guest.stage, (List.getElem?_set_ne same).trans found,
              .aside _ (change_drop (own ▸ known)) fun holds ends => same ?_⟩
            have one : (Occurrence.dropped token).ended? = some token := rfl
            rw [Registry.ended_of_gone one, List.mem_singleton] at ends
            exact index_of_held sound.held_nodup there found holds_too holds (own.trans ends.symm)

theorem turn_call (found : lobby.guests[index]? = some guest) (device : Address)
    (request : Request) (budget : Duration) :
    ∃ stage, (lobby.call device request budget).guests[index]? =
        some { guest with stage := stage } ∧
      Turn lobby (lobby.call device request budget) guest stage := by
  unfold call
  cases lobby.core.clock.after? lobby.now budget with
  | none => exact ⟨guest.stage, found, .aside [] (.nothing _) fun _ => List.not_mem_nil⟩
  | some due =>
      dsimp only
      cases lobby.core.prepare device request with
      | error failure =>
          exact ⟨guest.stage, found, .aside [] (.nothing _) fun _ => List.not_mem_nil⟩
      | ok payload =>
          dsimp only
          cases registered : lobby.core.takeId.2.registry.register lobby.core.takeId.1 with
          | error failure =>
              exact ⟨guest.stage, found, .aside [] (.nothing _) fun _ => List.not_mem_nil⟩
          | ok result =>
              refine ⟨guest.stage, ?_, .aside _ (.registered registered) fun _ =>
                List.not_mem_nil⟩
              exact (List.getElem?_append_left (List.getElem?_eq_some_iff.mp found).1).trans found

theorem turn_perform (sound : lobby.Sound) (found : lobby.guests[index]? = some guest)
    (setup : Setup σ) (move : Move σ) :
    ∃ stage, (lobby.perform setup move).guests[index]? = some { guest with stage := stage } ∧
      Turn lobby (lobby.perform setup move) guest stage := by
  cases move with
  | call device request budget => exact turn_call found device request budget
  | step other => exact turn_step sound found other
  | cancel other => exact turn_cancel sound found other
  | advance span => exact ⟨guest.stage, found, .aside [] (.nothing _) fun _ => List.not_mem_nil⟩
  | beside move =>
      rw [perform]
      by_cases own : isOwn move = true
      · rw [if_pos own]
        exact ⟨guest.stage, found, .aside [] (.nothing _) fun _ => List.not_mem_nil⟩
      · rw [if_neg own]
        rcases (heeding_perform setup lobby.core (Bool.eq_false_iff.mpr own)).change with
          ⟨notes, change, none_ended, -⟩
        exact ⟨guest.stage, found, .aside notes change fun _ => none_ended ▸ List.not_mem_nil⟩

end

/-! ## Calls that have been given a reply -/

section

variable {guest : Guest} {wait : Wait} {reply : Reply} {former stage : Stage} {registry : Registry}

/-- The handle that somebody waits on holds a reply.  The reply is there for whoever looks. -/
def Holds (wait : Wait) (reply : Reply) (registry : Registry) : Prop :=
  ∃ handle, registry.handle? wait.token = some handle ∧ handle.slot.verdict? = some (.ok reply)

/--
How far a call can have come that was given a reply when it was at a former stage.  The
cases are the stages that it can be at, with what they say about the reply.
-/
inductive Gets (wait : Wait) (reply : Reply) (former : Stage) (registry : Registry) :
    Stage → Prop
  | entered (unsent : former = .entered) (holds : Holds wait reply registry) :
      Gets wait reply former registry .entered
  | waiting (holds : Holds wait reply registry) : Gets wait reply former registry .waiting
  | leaving : Gets wait reply former registry (.leaving true (.ok reply))
  | returned : Gets wait reply former registry (.returned true (.ok reply))
  /--
  Its frame had not been out at the former stage, and could not be sent.  Then the failure
  is its result, although there is a reply.
  -/
  | failing (unsent : former = .entered) (failure : Failure) :
      Gets wait reply former registry (.leaving false (.error failure))
  | failed (unsent : former = .entered) (failure : Failure) :
      Gets wait reply former registry (.returned false (.error failure))
  | cancelled : Gets wait reply former registry .cancelled

/--
Only a caller that gives up, or a frame that cannot be sent, keeps a reply from a call.  In
all other cases the call returns it.
-/
theorem Gets.result {sent : Bool} {result : Except Failure Reply}
    (gets : Gets wait reply former registry (.returned sent result)) :
    sent = true ∧ result = .ok reply ∨
      former = .entered ∧ sent = false ∧ ∃ failure, result = .error failure := by
  cases gets with
  | returned => exact .inl ⟨rfl, rfl⟩
  | failed unsent failure => exact .inr ⟨unsent, rfl, failure, rfl⟩

theorem Holds.result? (holds : Holds wait reply registry) (now : Nat) :
    wait.result? registry now = some (.ok reply) := by
  rcases holds with ⟨handle, found, verdict⟩
  rw [Wait.result?_eq found, verdict]
  rfl

theorem Holds.later {after : Registry} {notes : List Occurrence}
    (holds : Holds wait reply registry) (change : Change registry notes after)
    (coherent : registry.Coherent) (stays : wait.token ∉ Registry.ended notes) :
    Holds wait reply after := by
  rcases holds with ⟨handle, found, verdict⟩
  rcases handle?_of_change change coherent found stays with ⟨later, there, -, decided⟩
  exact ⟨later, there, decided _ verdict⟩

/--
How many steps of its own a call takes at most from a stage, if nothing keeps it waiting.
Others may do what they like in between.
-/
def Stage.remaining : Stage → Nat
  | .entered => 3
  | .waiting => 2
  | .leaving _ _ => 1
  | .returned _ _ | .cancelled => 0

/--
A step of a call that has been given a reply brings it closer to its return.  It never has
to wait again.
-/
theorem gets_next {core : Core σ} (now : Nat)
    (gets : Gets guest.wait reply former core.registry guest.stage) :
    Gets guest.wait reply former (guest.next core now).1.registry (guest.next core now).2 ∧
      (guest.next core now).2.remaining ≤ guest.stage.remaining - 1 := by
  generalize stage_eq : guest.stage = stage at gets
  cases gets with
  | entered unsent holds =>
      have apart := Core.apart_send core guest.frame
      simp only [Guest.next, stage_eq]
      split <;> rename_i sent <;> rw [sent] at apart
      · exact ⟨.waiting (apart.registry_eq ▸ holds), Nat.le_refl _⟩
      · exact ⟨.failing unsent _, Nat.le_succ 1⟩
  | waiting holds =>
      simp only [Guest.next, stage_eq, holds.result? now]
      exact ⟨.leaving, Nat.le_refl _⟩
  | leaving =>
      simp only [Guest.next, stage_eq]
      exact ⟨.returned, Nat.le_refl _⟩
  | returned =>
      simp only [Guest.next, stage_eq]
      exact ⟨.returned, Nat.le_refl _⟩
  | failing unsent failure =>
      simp only [Guest.next, stage_eq]
      exact ⟨.failed unsent failure, Nat.le_refl _⟩
  | failed unsent failure =>
      simp only [Guest.next, stage_eq]
      exact ⟨.failed unsent failure, Nat.le_refl _⟩
  | cancelled =>
      simp only [Guest.next, stage_eq]
      exact ⟨.cancelled, Nat.le_refl _⟩

variable {lobby next : Lobby σ}

theorem Turn.gets (turn : Turn lobby next guest stage) (sound : lobby.Sound)
    (gets : Gets guest.wait reply former lobby.core.registry guest.stage) :
    Gets guest.wait reply former next.core.registry stage := by
  cases turn with
  | own same =>
      rw [same]
      exact (gets_next lobby.now gets).1
  | gaveUp => exact .cancelled
  | aside notes change stays =>
      generalize stage_eq : guest.stage = stage at gets
      have holding : guest.held? = ({ guest with stage := stage } : Guest).held? := by
        rw [← stage_eq]
      cases gets with
      | entered unsent holds =>
          exact .entered unsent
            (holds.later change sound.coherent (stays (holding ▸ Option.some_ne_none _)))
      | waiting holds =>
          exact .waiting
            (holds.later change sound.coherent (stays (holding ▸ Option.some_ne_none _)))
      | leaving => exact .leaving
      | returned => exact .returned
      | failing unsent failure => exact .failing unsent failure
      | failed unsent failure => exact .failed unsent failure
      | cancelled => exact .cancelled

theorem gets_run (sound : lobby.Sound) {index : Nat} (found : lobby.guests[index]? = some guest)
    (gets : Gets guest.wait reply former lobby.core.registry guest.stage) (setup : Setup σ)
    (moves : List (Move σ)) :
    ∃ stage, (lobby.run setup moves).guests[index]? = some { guest with stage := stage } ∧
      Gets guest.wait reply former (lobby.run setup moves).core.registry stage := by
  induction moves generalizing lobby guest with
  | nil => exact ⟨guest.stage, found, gets⟩
  | cons move rest ih =>
      rcases turn_perform sound found setup move with ⟨stage, there, turn⟩
      have final := ih (sound.perform setup move) there (turn.gets sound gets)
      exact final

/--
A few steps of its own bring a call to its return that has been given a reply.  What others
do meanwhile cannot keep it from that.
-/
theorem gets_returns (sound : lobby.Sound) {index : Nat}
    (found : lobby.guests[index]? = some guest)
    (gets : Gets guest.wait reply former lobby.core.registry guest.stage) (setup : Setup σ)
    {count : Nat} (enough : guest.stage.remaining ≤ count) :
    ∃ stage, stage.remaining = 0 ∧
      (lobby.run setup (List.replicate count (.step index))).guests[index]? =
        some { guest with stage := stage } := by
  induction count generalizing lobby guest with
  | zero => exact ⟨guest.stage, Nat.le_zero.mp enough, found⟩
  | succ count ih =>
      have there : (lobby.step index).guests[index]? =
          some { guest with stage := (guest.next lobby.core lobby.now).2 } := by
        simp only [step, found]
        exact List.getElem?_set_self (List.getElem?_eq_some_iff.mp found).1
      have core_eq : (lobby.step index).core = (guest.next lobby.core lobby.now).1 := by
        simp only [step, found, put]
      rcases gets_next lobby.now gets with ⟨gets_then, closer⟩
      rw [← core_eq] at gets_then
      have fewer : (guest.next lobby.core lobby.now).2.remaining ≤ count :=
        Nat.le_trans closer (Nat.sub_le_of_le_add enough)
      have final := ih (sound.step index) there gets_then fewer
      exact final

end

/-! ## Calls that have their result -/

/--
How far a call can have come that had its result, but had not returned.  The result does not
change any more.
-/
inductive Leaves (sent : Bool) (result : Except Failure Reply) : Stage → Prop
  | leaving : Leaves sent result (.leaving sent result)
  | returned : Leaves sent result (.returned sent result)
  | cancelled : Leaves sent result .cancelled

section

variable {lobby next : Lobby σ} {guest : Guest} {stage : Stage} {sent : Bool}
  {result : Except Failure Reply}

theorem Turn.leaves (turn : Turn lobby next guest stage)
    (leaves : Leaves sent result guest.stage) : Leaves sent result stage := by
  cases turn with
  | own same =>
      generalize stage_eq : guest.stage = stage at leaves
      cases leaves with
      | leaving | returned =>
          simp only [Guest.next, stage_eq]
          exact .returned
      | cancelled =>
          simp only [Guest.next, stage_eq]
          exact .cancelled
  | gaveUp => exact .cancelled
  | aside => exact leaves

theorem leaves_run (sound : lobby.Sound) {index : Nat} (found : lobby.guests[index]? = some guest)
    (leaves : Leaves sent result guest.stage) (setup : Setup σ) (moves : List (Move σ)) :
    ∃ stage, (lobby.run setup moves).guests[index]? = some { guest with stage := stage } ∧
      Leaves sent result stage := by
  induction moves generalizing lobby guest with
  | nil => exact ⟨guest.stage, found, leaves⟩
  | cons move rest ih =>
      rcases turn_perform sound found setup move with ⟨stage, there, turn⟩
      have final := ih (sound.perform setup move) there (turn.leaves leaves)
      exact final

end

/-! ## Replies that come in -/

/--
A call that has not returned has the entry for a message id.  It is the one that a reply
would be delivered to.
-/
structure Awaits (lobby : Lobby σ) (index : Nat) (guest : Guest) (messageId : UInt32) : Prop where
  found : lobby.guests[index]? = some guest
  holds : guest.held? ≠ none
  entry : ⟨messageId, guest.wait.token⟩ ∈ lobby.core.registry.entries

section

variable {lobby : Lobby σ} {messageId : UInt32}

theorem Awaits.messageId_eq (sound : lobby.Sound) {index : Nat} {guest : Guest}
    (awaits : lobby.Awaits index guest messageId) : guest.messageId = messageId := by
  rcases sound.known guest (List.mem_of_getElem? awaits.found) awaits.holds with
    ⟨handle, found, same, -⟩
  have waits := sound.coherent.handle?_of_entry awaits.entry
  rw [← same, Option.some.inj (found.symm.trans waits)]

/--
Every entry belongs to a call that has not returned.  So there is an entry only where
somebody is still busy with it.
-/
theorem contains_iff_awaits (sound : lobby.Sound) :
    lobby.core.registry.contains messageId = true ↔
      ∃ index guest, lobby.Awaits index guest messageId := by
  rw [Registry.contains_eq_true]
  constructor
  · rintro ⟨token, entry⟩
    have waits := sound.coherent.handle?_of_entry entry
    have known : token ∈ held lobby.guests := sound.held_perm.mem_iff.mpr
      (List.mem_map.mpr ⟨_, (Registry.mem_of_handle? waits).1, rfl⟩)
    rcases List.mem_filterMap.mp known with ⟨guest, inside, holds⟩
    have holding : guest.held? ≠ none := holds ▸ Option.some_ne_none _
    have own : guest.wait.token = token :=
      Option.some.inj ((Guest.held?_eq holding).symm.trans holds)
    rcases List.mem_iff_getElem?.mp inside with ⟨index, found⟩
    exact ⟨index, guest, found, holding, own ▸ entry⟩
  · rintro ⟨index, guest, awaits⟩
    exact ⟨guest.wait.token, awaits.entry⟩

/--
Once a reply has been delivered, the handle that had the entry holds it.  No other handle
has got anything.
-/
theorem Awaits.holds_after (sound : lobby.Sound) {index : Nat} {guest : Guest} {reply : Reply}
    (awaits : lobby.Awaits index guest reply.messageId) :
    Holds guest.wait reply (lobby.core.registry.deliver reply).2 := by
  refine ⟨⟨guest.wait.token, reply.messageId, .filled reply⟩, ?_, rfl⟩
  rw [sound.coherent.deliver_eq, Registry.handle?_answer,
    sound.coherent.handle?_of_entry awaits.entry]
  exact congrArg some (Handle.answer_of_eq rfl)

end

section

variable {core : Core σ} {reply : Reply}

theorem verdict_receiveReply (setup : Setup σ) (coherent : core.registry.Coherent) :
    (Core.receiveReply setup core reply).1 =
      if core.registry.contains reply.messageId then .delivered else .unmatched := by
  have delivered := coherent.deliver_eq_contains reply
  unfold Core.receiveReply Core.deliver
  rw [← delivered]
  cases core.registry.deliver reply with
  | mk delivered registry =>
      cases delivered with
      | true => rfl
      | false =>
          dsimp only
          split <;> rfl

theorem registry_receiveReply (setup : Setup σ) :
    (Core.receiveReply setup core reply).2.registry = (core.registry.deliver reply).2 :=
  (Core.apart_receiveReply setup core reply).registry_eq

/--
The observer's job is accepted if there is an observer and the pool has room for it.  The
pool has to be open as well.
-/
theorem admitted_offeredReply (setup : Setup σ) (missed : (core.deliver reply).1 = false) :
    core.admitted (Core.offeredReply? setup core reply) =
      if setup.replyObserver.isSome ∧ core.pool.closed = false ∧
          core.pool.queued < core.pool.queueLimit then
        [.accepted (.reportReply reply.messageId reply.code)]
      else [] := by
  rw [Core.offeredReply?, missed, if_neg Bool.false_ne_true]
  cases observer : setup.replyObserver.isSome with
  | false => simp [Core.admitted]
  | true =>
      simp only [if_true, true_and, Core.admitted, Pool.submit]
      cases closed : core.pool.closed with
      | true => simp
      | false =>
          by_cases full : core.pool.queueLimit ≤ core.pool.queued
          · simp [full]
          · simp [full, Nat.not_le.mp full]

end

/--
What comes of a response that comes in at any moment.  The fields tell apart who has the
entry at that moment, if anybody has.
-/
structure Delivery (setup : Setup σ) (lobby : Lobby σ) (text : String) (reply : Reply) :
    Prop where
  /--
  It counts as delivered exactly if a call has the entry for its message id.  What stage the
  call is at makes no difference to that.
  -/
  delivered_iff : (lobby.core.receive setup text).1 = .delivered ↔
    ∃ index guest, lobby.Awaits index guest reply.messageId
  /--
  If this call has no result yet, it has this reply for a result, unless its caller gives up
  or its frame had still to go out and could not; and a few steps of its own make it return.
  Nothing else can happen to the reply.
  -/
  seen : ∀ index guest, lobby.Awaits index guest reply.messageId →
    guest.stage = .entered ∨ guest.stage = .waiting →
    ∀ moves, ∃ stage last,
      ((lobby.perform setup (.beside (.receive text))).run setup moves).guests[index]? =
          some { guest with stage := stage } ∧
        Gets guest.wait reply guest.stage
          ((lobby.perform setup (.beside (.receive text))).run setup moves).core.registry stage ∧
        last.remaining = 0 ∧
        ((lobby.perform setup (.beside (.receive text))).run setup
          (moves ++ List.replicate 3 (.step index))).guests[index]? =
            some { guest with stage := last }
  /--
  If it has its result already, it had timed out or had not been sent, and it never sees
  this reply.  The one who sent the reply is not told.
  -/
  lost : ∀ index guest sent result, lobby.Awaits index guest reply.messageId →
    guest.stage = .leaving sent result →
    (if sent then guest.wait.deadline ≤ lobby.now ∧
        result = .error (.timeout reply.messageId guest.wait.budget)
      else ∃ failure, result = .error failure) ∧
    ∀ moves, ∃ stage,
      ((lobby.perform setup (.beside (.receive text))).run setup moves).guests[index]? =
          some { guest with stage := stage } ∧
        Leaves sent result stage
  /--
  If no call has an entry for it, it goes to the observer, as far as the pool has room.  The
  registry stays as it was.
  -/
  unmatched : (∀ index guest, ¬ lobby.Awaits index guest reply.messageId) →
    (lobby.perform setup (.beside (.receive text))).core.registry = lobby.core.registry ∧
    Core.observe setup lobby.core (.receive text) = .received text .unmatched ::
      if setup.replyObserver.isSome ∧ lobby.core.pool.closed = false ∧
          lobby.core.pool.queued < lobby.core.pool.queueLimit then
        [.accepted (.reportReply reply.messageId reply.code)]
      else []

theorem Stage.remaining_le (stage : Stage) : stage.remaining ≤ 3 := by
  unfold remaining
  split <;> decide

section

variable {lobby : Lobby σ} {text : String} {reply : Reply} {index : Nat} {guest : Guest}
  (setup : Setup σ)
  (inbound : Inbound.ofText text = .ok (.response reply.messageId reply.code reply.payload))

include inbound

theorem receive_response (core : Core σ) :
    core.receive setup text = Core.receiveReply setup core reply := by
  simp only [Core.receive, inbound]

theorem perform_response : lobby.perform setup (.beside (.receive text)) =
    { lobby with core := (Core.receiveReply setup lobby.core reply).2 } := by
  rw [← receive_response setup inbound]
  rfl

theorem seen_of_awaits (sound : lobby.Sound) (awaits : lobby.Awaits index guest reply.messageId)
    (undecided : guest.stage = .entered ∨ guest.stage = .waiting) (moves : List (Move σ)) :
    ∃ stage last,
      ((lobby.perform setup (.beside (.receive text))).run setup moves).guests[index]? =
          some { guest with stage := stage } ∧
        Gets guest.wait reply guest.stage
          ((lobby.perform setup (.beside (.receive text))).run setup moves).core.registry stage ∧
        last.remaining = 0 ∧
        ((lobby.perform setup (.beside (.receive text))).run setup
          (moves ++ List.replicate 3 (.step index))).guests[index]? =
            some { guest with stage := last } := by
  have after := sound.perform setup (.beside (.receive text))
  have performed : lobby.perform setup (.beside (.receive text)) =
      { lobby with core := (Core.receiveReply setup lobby.core reply).2 } :=
    perform_response setup inbound
  have found : (lobby.perform setup (.beside (.receive text))).guests[index]? = some guest :=
    performed ▸ awaits.found
  have holds : Holds guest.wait reply
      (lobby.perform setup (.beside (.receive text))).core.registry := by
    rw [performed, registry_receiveReply]
    exact awaits.holds_after sound
  have gets : Gets guest.wait reply guest.stage
      (lobby.perform setup (.beside (.receive text))).core.registry guest.stage := by
    rcases undecided with stage | stage
    · rw [stage]
      exact .entered rfl holds
    · rw [stage]
      exact .waiting holds
  rcases gets_run after found gets setup moves with ⟨stage, there, gets_then⟩
  rcases gets_returns (sound_run after setup moves) there gets_then setup stage.remaining_le with
    ⟨last, done, final⟩
  refine ⟨stage, last, there, gets_then, done, ?_⟩
  rw [run, List.foldl_append]
  exact final

theorem lost_of_awaits (sound : lobby.Sound) {sent : Bool} {result : Except Failure Reply}
    (awaits : lobby.Awaits index guest reply.messageId)
    (stage : guest.stage = .leaving sent result) :
    (if sent then guest.wait.deadline ≤ lobby.now ∧
        result = .error (.timeout reply.messageId guest.wait.budget)
      else ∃ failure, result = .error failure) ∧
    ∀ moves, ∃ stage,
      ((lobby.perform setup (.beside (.receive text))).run setup moves).guests[index]? =
          some { guest with stage := stage } ∧
        Leaves sent result stage := by
  refine ⟨?_, fun moves => ?_⟩
  · rcases sound.known guest (List.mem_of_getElem? awaits.found) awaits.holds with
      ⟨handle, known, -, placed⟩
    -- The entry is still there, so nothing can have been decided for the handle.
    have waits : handle.slot = .waiting := by
      rw [Option.some.inj (known.symm.trans (sound.coherent.handle?_of_entry awaits.entry))]
    rw [Guest.Placed, stage] at placed
    cases sent with
    | true =>
        rcases placed with verdict | ⟨late, timeout⟩
        · rw [waits] at verdict
          cases verdict
        · rw [if_pos rfl, ← awaits.messageId_eq sound]
          exact ⟨late, timeout⟩
    | false => exact placed
  · have found : (lobby.perform setup (.beside (.receive text))).guests[index]? = some guest := by
      rw [perform_response setup inbound]
      exact awaits.found
    exact leaves_run (sound.perform setup _) found (stage ▸ .leaving) setup moves

theorem unmatched_of_missed (sound : lobby.Sound)
    (missed : lobby.core.registry.contains reply.messageId = false) :
    (lobby.perform setup (.beside (.receive text))).core.registry = lobby.core.registry ∧
    Core.observe setup lobby.core (.receive text) = .received text .unmatched ::
      if setup.replyObserver.isSome ∧ lobby.core.pool.closed = false ∧
          lobby.core.pool.queued < lobby.core.pool.queueLimit then
        [.accepted (.reportReply reply.messageId reply.code)]
      else [] := by
  have undelivered : (lobby.core.deliver reply).1 = false :=
    (sound.coherent.deliver_eq_contains reply).trans missed
  have offer : Core.offered? setup lobby.core text =
      Core.offeredReply? setup lobby.core reply := by
    simp only [Core.offered?, inbound]
  have verdict : (Core.receiveReply setup lobby.core reply).1 =
      if lobby.core.registry.contains reply.messageId then .delivered else .unmatched :=
    verdict_receiveReply setup sound.coherent
  constructor
  · rw [Registry.contains, Option.isSome_eq_false_iff, Option.isNone_iff_eq_none] at missed
    rw [perform_response setup inbound, registry_receiveReply]
    simp only [Registry.deliver, missed]
  · rw [missed] at verdict
    rw [Core.observe, receive_response setup inbound, verdict, offer,
      admitted_offeredReply setup undelivered]
    rfl

end

theorem replies_delivered (setup : Setup σ) (world : σ) (moves : List (Move σ)) {text : String}
    {reply : Reply}
    (inbound : Inbound.ofText text = .ok (.response reply.messageId reply.code reply.payload)) :
    Delivery setup ((new setup world).run setup moves) text reply := by
  have sound := sound_run (sound_new setup world) setup moves
  refine ⟨?_,
    fun index guest awaits undecided => seen_of_awaits setup inbound sound awaits undecided,
    fun index guest sent result awaits => lost_of_awaits setup inbound sound awaits,
    fun nobody => unmatched_of_missed setup inbound sound ?_⟩
  · rw [← contains_iff_awaits sound, receive_response setup inbound,
      verdict_receiveReply setup sound.coherent]
    split
    · rename_i there
      exact iff_of_true rfl there
    · rename_i missed
      exact iff_of_false nofun missed
  · refine Bool.eq_false_iff.mpr fun there => ?_
    rcases (contains_iff_awaits sound).mp there with ⟨index, guest, awaits⟩
    exact nobody index guest awaits

/-! A call has looked and found that its time is up, and has not let go of its handle yet. -/

open DeviceLink.Core (plainSetup)
open Traffic (firstReply lamp)

def timedOut : List (Move Unit) :=
  [.beside (.establish (.record "gateway")), .call lamp .online (.ofSeconds 5), .step 0,
    .advance (.ofSeconds 5), .step 0]

/--
The failure that a call returns whose frame was out.  There is none while it has not
returned.
-/
def Stage.failure? : Stage → Option Failure
  | .returned true (.error failure) => some failure
  | _ => none

theorem replies_delivered_timedOut :
    ∃ reply : Reply,
      Inbound.ofText firstReply =
        .ok (.response reply.messageId reply.code reply.payload) ∧
      Delivery plainSetup ((new plainSetup ()).run plainSetup timedOut) firstReply reply := by
  have replies : Traffic.repliesTo? firstReply = some 1 := by decide +kernel
  rcases Traffic.response_of_repliesTo? replies with ⟨code, payload, response⟩
  exact ⟨⟨1, code, payload⟩, response,
    replies_delivered plainSetup () timedOut response⟩

theorem late_reply_lost :
    (((new plainSetup ()).run plainSetup timedOut).core.receive plainSetup firstReply).1 =
        .delivered ∧
      ((new plainSetup ()).run plainSetup
          (timedOut ++ [.beside (.receive firstReply), .step 0])).guests.map
        (fun guest => guest.stage.failure?) = [some (.timeout 1 (.ofSeconds 5))] := by
  decide +kernel

end Lobby
end DeviceLink
