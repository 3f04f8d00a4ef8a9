import DeviceLink.Proofs.Core.Routing
import DeviceLink.Proofs.Registry.Change
import DeviceLink.Proofs.Traffic.Tracking

namespace DeviceLink

/-!
Calls that await their replies, from their entry in the registry to their return.  To
have a result and to let go of the handle are two steps, and whatever else a core does
may come between them.  A caller may also give up at any time.  Calls are interleaved
with each other as well, step by step.  `Sound` says that the callers that hold handles
and the handles of the registry correspond, and what is known of each of these callers.
With nothing in between, the steps of a call come to what the operation of the core does
at once.
-/

open Registry (Occurrence Change standing standing_perm)

/-! ## Calls and moves -/

namespace Lobby

/--
How far a call has come.  A call that was never sent has its failure for a result.  Each
stage but the last two still has the handle.
-/
inductive Stage
  /-- It has its entry, but its frame is not out yet.  A reply may be delivered to it already. -/
  | entered
  | waiting
  /-- It has its result, but still its handle.  What is delivered to the handle now is lost. -/
  | leaving (sent : Bool) (result : Except Failure Reply)
  | returned (sent : Bool) (result : Except Failure Reply)
  /-- Its caller has given up.  There is no result then. -/
  | cancelled

structure Guest where
  messageId : UInt32
  frame : String
  wait : Wait
  stage : Stage

namespace Guest

variable {σ : Type}

/-- The handle that a call still has.  One that has returned or was given up has none. -/
def held? (guest : Guest) : Option Nat :=
  match guest.stage with
  | .entered | .waiting | .leaving _ _ => some guest.wait.token
  | .returned _ _ | .cancelled => none

/--
The next step of a call, and where it leaves the call.  A call that waits in vain stays
where it is.
-/
def next (guest : Guest) (core : Core σ) (now : Nat) : Core σ × Stage :=
  match guest.stage with
  | .entered =>
      match core.send guest.frame with
      | (.ok (), sent) => (sent, .waiting)
      | (.error failure, kept) => (kept, .leaving false (.error failure))
  | .waiting =>
      match guest.wait.result? core.registry now with
      | some result => (core, .leaving true result)
      | none => (core, .waiting)
  | .leaving sent result =>
      ({ core with registry := core.registry.drop guest.wait.token }, .returned sent result)
  | .returned sent result => (core, .returned sent result)
  | .cancelled => (core, .cancelled)

end Guest

inductive Move (σ : Type)
  | call (device : Address) (request : Request) (budget : Duration)
  /-- One call takes its next step.  Calls are numbered in the order in which they were made. -/
  | step (index : Nat)
  /--
  The caller of a call gives up, and the handle goes if it is still there.  That may be at
  any stage.
  -/
  | cancel (index : Nat)
  | advance (span : Duration)
  /-- Anything that a core does for others.  Moves of waiting calls are left out here. -/
  | beside (move : Core.Move σ)

/--
The moves of a core that belong to calls that await their replies.  They are made by the
steps of the calls instead.
-/
def isOwn {σ : Type} : Core.Move σ → Bool
  | .request _ _ _ _ => true
  | .forget _ => true
  | _ => false

end Lobby

structure Lobby (σ : Type) where
  core : Core σ
  now : Nat
  guests : List Lobby.Guest

namespace Lobby

variable {σ : Type}

def new (setup : Setup σ) (world : σ) : Lobby σ := ⟨Core.new setup world, 0, []⟩

/--
A call makes its entry, unless something is wrong with it, which its caller is told at once.
One that has failed is not among the guests.
-/
def call (lobby : Lobby σ) (device : Address) (request : Request) (budget : Duration) : Lobby σ :=
  match lobby.core.clock.after? lobby.now budget with
  | none => lobby
  | some due =>
      match lobby.core.prepare device request with
      | .error _ => lobby
      | .ok payload =>
          let (messageId, counted) := lobby.core.takeId
          match counted.registry.register messageId with
          | .error _ => { lobby with core := counted }
          | .ok (token, registry) =>
              { lobby with
                core := { counted with registry := registry }
                guests := lobby.guests ++
                  [⟨messageId, request.frame messageId payload, ⟨token, due, budget⟩, .entered⟩] }

/-- Change the core and the stage of one call.  The other calls keep their stages. -/
def put (lobby : Lobby σ) (index : Nat) (guest : Guest) (core : Core σ) (stage : Stage) :
    Lobby σ :=
  { lobby with core := core, guests := lobby.guests.set index { guest with stage := stage } }

def step (lobby : Lobby σ) (index : Nat) : Lobby σ :=
  match lobby.guests[index]? with
  | none => lobby
  | some guest =>
      let (core, stage) := guest.next lobby.core lobby.now
      lobby.put index guest core stage

def cancel (lobby : Lobby σ) (index : Nat) : Lobby σ :=
  match lobby.guests[index]? with
  | none => lobby
  | some guest =>
      match guest.held? with
      | none => lobby
      | some token =>
          lobby.put index guest { lobby.core with registry := lobby.core.registry.drop token }
            .cancelled

def perform (setup : Setup σ) (lobby : Lobby σ) (move : Move σ) : Lobby σ :=
  match move with
  | .call device request budget => lobby.call device request budget
  | .step index => lobby.step index
  | .cancel index => lobby.cancel index
  | .advance span => { lobby with now := lobby.now + span.nanoseconds }
  | .beside move =>
      if isOwn move then lobby else { lobby with core := Core.perform setup lobby.core move }

def run (setup : Setup σ) (lobby : Lobby σ) (moves : List (Move σ)) : Lobby σ :=
  moves.foldl (perform setup) lobby

/-! ## Steps in a row -/

theorem step_newest (core : Core σ) (now : Nat) (guests : List Guest) (guest : Guest) :
    (Lobby.mk core now (guests ++ [guest])).step guests.length =
      ⟨(guest.next core now).1, now,
        guests ++ [{ guest with stage := (guest.next core now).2 }]⟩ := by
  simp only [step, put, List.getElem?_concat_length, List.set_append_right _ _ (Nat.le_refl _),
    Nat.sub_self, List.set_cons_zero]

/--
With nothing in between, the steps of a call come to what `sendSync` does at once.  So the
single steps are those of the operation that runs.
-/
theorem run_inARow (setup : Setup σ) (lobby : Lobby σ) (device : Address) (request : Request)
    (budget : Duration) :
    let own := Move.step lobby.guests.length
    match lobby.core.sendSync device request lobby.now budget with
    | (.crashes, core) => lobby.call device request budget = { lobby with core := core }
    | (.fails failure, core) =>
        lobby.call device request budget = { lobby with core := core } ∨
          ∃ guest, guest.stage = .returned false (.error failure) ∧
            lobby.run setup [.call device request budget, own, own] =
              { lobby with core := core, guests := lobby.guests ++ [guest] }
    | (.waits wait, core) => ∃ guest, guest.wait = wait ∧ guest.stage = .waiting ∧
        lobby.run setup [.call device request budget, own] =
          { lobby with core := core, guests := lobby.guests ++ [guest] } := by
  simp only [run, List.foldl_cons, List.foldl_nil, perform]
  unfold call Core.sendSync
  cases lobby.core.clock.after? lobby.now budget with
  | none => rfl
  | some due =>
      cases prepared : lobby.core.prepare device request with
      | error failure => exact .inl rfl
      | ok payload =>
          dsimp only
          rw [Core.openWait]
          cases lobby.core.takeId.2.registry.register lobby.core.takeId.1 with
          | error failure => exact .inl rfl
          | ok entered =>
              rcases entered with ⟨token, registry⟩
              dsimp only
              rw [step_newest]
              cases sent : ({ lobby.core.takeId.2 with registry := registry } : Core σ).send
                  (request.frame lobby.core.takeId.1 payload) with
              | mk result after =>
                  cases result with
                  | ok =>
                      simp only [sent, Guest.next]
                      exact ⟨⟨_, _, ⟨token, due, budget⟩, .waiting⟩, rfl, rfl, rfl⟩
                  | error failure =>
                      simp only [sent, Guest.next]
                      rw [step_newest]
                      exact .inr ⟨⟨_, _, ⟨token, due, budget⟩, .returned false (.error failure)⟩,
                        rfl, rfl⟩

/-! ## Calls and their handles -/

/-- The handles that calls still have.  Each belongs to one call. -/
def held (guests : List Guest) : List Nat := guests.filterMap Guest.held?

/--
What the result of a call that has not returned may be, by what its handle holds.  A call
that timed out may have a handle that still waits.
-/
def Guest.Placed (guest : Guest) (now : Nat) (slot : Slot) : Prop :=
  match guest.stage with
  | .leaving true result =>
      slot.verdict? = some result ∨
        guest.wait.deadline ≤ now ∧
          result = .error (.timeout guest.messageId guest.wait.budget)
  | .leaving false result => ∃ failure, result = .error failure
  | _ => True

/--
The handle of a call that has not returned.  It is in the registry, under the message id of
the call.
-/
def Guest.Known (guest : Guest) (registry : Registry) (now : Nat) : Prop :=
  ∃ handle, registry.handle? guest.wait.token = some handle ∧
    handle.messageId = guest.messageId ∧ guest.Placed now handle.slot

structure Sound (lobby : Lobby σ) : Prop where
  coherent : lobby.core.registry.Coherent
  held_perm : (held lobby.guests).Perm (lobby.core.registry.handles.map Handle.token)
  known : ∀ guest ∈ lobby.guests, guest.held? ≠ none →
    guest.Known lobby.core.registry lobby.now

theorem Guest.held?_eq {guest : Guest} (holds : guest.held? ≠ none) :
    guest.held? = some guest.wait.token := by
  unfold held? at holds ⊢
  split at holds
  · rfl
  · rfl
  · rfl
  · exact absurd rfl holds
  · exact absurd rfl holds

theorem Guest.Placed.later {guest : Guest} {now next : Nat} {slot after : Slot}
    (placed : guest.Placed now slot) (later : now ≤ next)
    (decided : ∀ result, slot.verdict? = some result → after.verdict? = some result) :
    guest.Placed next after := by
  unfold Placed at placed ⊢
  split at placed
  · rcases placed with verdict | ⟨late, same⟩
    · exact .inl (decided _ verdict)
    · exact .inr ⟨Nat.le_trans late later, same⟩
  · exact placed
  · trivial

section

variable {before after : Registry} {notes : List Occurrence}

/--
A handle that stays keeps its message id and whatever has been decided for it.  What has not
been decided may be.
-/
theorem handle?_of_change (change : Change before notes after) (coherent : before.Coherent)
    {token : Nat} {handle : Handle} (found : before.handle? token = some handle)
    (stays : token ∉ Registry.ended notes) :
    ∃ later, after.handle? token = some later ∧ later.messageId = handle.messageId ∧
      ∀ result, handle.slot.verdict? = some result → later.slot.verdict? = some result := by
  refine ⟨_, change.handle? coherent found stays, Registry.messageId_heeded handle notes,
    fun result verdict => ?_⟩
  rw [Registry.verdict?_heeded, verdict]
  rfl

theorem Guest.Known.later {guest : Guest} {now next : Nat} (known : guest.Known before now)
    (change : Change before notes after) (coherent : before.Coherent)
    (stays : guest.wait.token ∉ Registry.ended notes) (later : now ≤ next) :
    guest.Known after next := by
  rcases known with ⟨handle, found, same, placed⟩
  rcases handle?_of_change change coherent found stays with ⟨other, there, named, decided⟩
  exact ⟨other, there, named.trans same, placed.later later decided⟩

end

/--
What the end of a call does to the registry.  Its handle goes, and with it the entry of its
message id.
-/
theorem change_drop {registry : Registry} {token : Nat} {handle : Handle}
    (found : registry.handle? token = some handle) :
    Change registry [.dropped token, .removed handle.messageId] (registry.drop token) := by
  rcases Registry.mem_of_handle? found with ⟨-, rfl⟩
  exact .gone found rfl

theorem Sound.held_nodup {lobby : Lobby σ} (sound : lobby.Sound) : (held lobby.guests).Nodup :=
  sound.held_perm.nodup_iff.mpr sound.coherent.tokens_nodup

theorem mem_held {guests : List Guest} {guest : Guest} (inside : guest ∈ guests)
    (holds : guest.held? ≠ none) : guest.wait.token ∈ held guests :=
  List.mem_filterMap.mpr ⟨guest, inside, Guest.held?_eq holds⟩

theorem held_sides (before after : List Guest) (guest : Guest) :
    held (before ++ guest :: after) =
      held before ++ (guest.held?.toList ++ held after) := by
  rw [held, List.filterMap_append, List.filterMap_cons]
  cases guest.held? <;> rfl

/--
When a call lets go of its handle, it is this one that is missing from then on.  The other
handles are those of the other calls.
-/
theorem held_of_gone {before after : List Guest} {guest : Guest} {token : Nat}
    (distinct : (held (before ++ guest :: after)).Nodup) (holds : guest.held? = some token)
    {other : Guest} (gone : other.held? = none) :
    held (before ++ other :: after) =
      (held (before ++ guest :: after)).filter (· ≠ token) := by
  rw [held_sides, holds] at distinct
  rw [held_sides, held_sides, holds, gone]
  rcases List.nodup_append.mp distinct with ⟨-, distinct_after, apart⟩
  have kept {tokens : List Nat} (absent : token ∉ tokens) :
      tokens.filter (· ≠ token) = tokens :=
    List.filter_eq_self.mpr fun other inside =>
      decide_eq_true (ne_of_mem_of_not_mem inside absent)
  have absent_before : token ∉ held before := fun inside =>
    apart _ inside _ List.mem_cons_self rfl
  have absent_after : token ∉ held after := (List.nodup_cons.mp distinct_after).1
  have own : [token].filter (· ≠ token) = [] := by simp
  rw [List.filter_append, List.filter_append, Option.toList_some, own, kept absent_before,
    kept absent_after]
  rfl

/-! ## What every move keeps -/

section

variable {lobby : Lobby σ} {index : Nat} {guest : Guest} {core : Core σ} {stage : Stage}

/-- One call changes its stage, and the others stay where they are.  It is found by its number. -/
theorem put_eq (found : lobby.guests[index]? = some guest) (core : Core σ) (stage : Stage) :
    ∃ before after, before.length = index ∧ lobby.guests = before ++ guest :: after ∧
      lobby.put index guest core stage =
        { lobby with
          core := core
          guests := before ++ { guest with stage := stage } :: after } := by
  rcases Traffic.exists_sides found with ⟨before, after, guests_eq, length_eq⟩
  refine ⟨before, after, length_eq, guests_eq, ?_⟩
  rw [put, guests_eq, ← length_eq, List.set_append_right _ _ (Nat.le_refl _), Nat.sub_self,
    List.set_cons_zero]

theorem Sound.put_held (sound : lobby.Sound) (found : lobby.guests[index]? = some guest)
    (registry_eq : core.registry = lobby.core.registry) (holds : guest.held? ≠ none)
    (stays : ({ guest with stage := stage } : Guest).held? = some guest.wait.token)
    (placed : ∀ handle, lobby.core.registry.handle? guest.wait.token = some handle →
      handle.messageId = guest.messageId →
      ({ guest with stage := stage } : Guest).Placed lobby.now handle.slot) :
    (lobby.put index guest core stage).Sound := by
  rcases put_eq found core stage with ⟨before, after, -, guests_eq, put_eq⟩
  rw [put_eq]
  refine ⟨by rw [registry_eq]; exact sound.coherent, ?_, ?_⟩
  · have held_eq : held (before ++ { guest with stage := stage } :: after) =
        held lobby.guests := by
      rw [guests_eq, held_sides, held_sides, stays, Guest.held?_eq holds]
    rw [held_eq, registry_eq]
    exact sound.held_perm
  · intro other inside holding
    rw [registry_eq]
    rcases Traffic.mem_exchange guest inside with rfl | old
    · rcases sound.known guest (List.mem_of_getElem? found) holds with ⟨handle, there, same, -⟩
      exact ⟨handle, there, same, placed handle there same⟩
    · exact sound.known other (guests_eq ▸ old) holding

theorem Sound.put_gone (sound : lobby.Sound) (found : lobby.guests[index]? = some guest)
    (registry_eq : core.registry = lobby.core.registry.drop guest.wait.token)
    (holds : guest.held? ≠ none)
    (gone : ({ guest with stage := stage } : Guest).held? = none) :
    (lobby.put index guest core stage).Sound := by
  rcases put_eq found core stage with ⟨before, after, -, guests_eq, put_eq⟩
  rcases sound.known guest (List.mem_of_getElem? found) holds with ⟨handle, there, -, -⟩
  have change := registry_eq ▸ change_drop there
  have ends : (Occurrence.dropped guest.wait.token).ended? = some guest.wait.token := rfl
  have distinct := sound.held_nodup
  rw [guests_eq] at distinct
  have held_eq := held_of_gone distinct (Guest.held?_eq holds) gone
  rw [put_eq]
  refine ⟨change.coherent sound.coherent, ?_, ?_⟩
  · rw [change.tokens_eq sound.coherent, held_eq, ← guests_eq, Registry.standing_of_gone ends]
    exact sound.held_perm.filter _
  · intro other inside holding
    have still : other.wait.token ≠ guest.wait.token := by
      intro same
      have there := mem_held inside holding
      rw [held_eq, same] at there
      exact of_decide_eq_true (List.mem_filter.mp there).2 rfl
    rcases Traffic.mem_exchange guest inside with rfl | old
    · exact absurd gone holding
    · refine (sound.known other (guests_eq ▸ old) holding).later change sound.coherent ?_
        (Nat.le_refl _)
      rw [Registry.ended_of_gone ends, List.mem_singleton]
      exact still

theorem Sound.step (sound : lobby.Sound) (index : Nat) : (lobby.step index).Sound := by
  unfold Lobby.step
  cases found : lobby.guests[index]? with
  | none => exact sound
  | some guest =>
      dsimp only
      cases stage : guest.stage with
      | entered =>
          have holds : guest.held? ≠ none := by simp [Guest.held?, stage]
          have apart := Core.apart_send lobby.core guest.frame
          simp only [Guest.next, stage]
          split <;> rename_i sent <;> rw [sent] at apart
          · exact sound.put_held found apart.registry_eq holds rfl fun _ _ _ => trivial
          · exact sound.put_held found apart.registry_eq holds rfl fun _ _ _ => ⟨_, rfl⟩
      | waiting =>
          have holds : guest.held? ≠ none := by simp [Guest.held?, stage]
          simp only [Guest.next, stage]
          split
          · rename_i result finished
            refine sound.put_held found rfl holds rfl fun handle there same => ?_
            rw [Wait.result?_eq there, same] at finished
            rcases Option.or_eq_some_iff.mp finished with verdict | ⟨-, late⟩
            · exact .inl verdict
            · split at late
              · rename_i due
                exact .inr ⟨due, (Option.some.inj late).symm⟩
              · cases late
          · exact sound.put_held found rfl holds rfl fun _ _ _ => trivial
      | leaving sent result =>
          have holds : guest.held? ≠ none := by simp [Guest.held?, stage]
          simp only [Guest.next, stage]
          exact sound.put_gone found rfl holds rfl
      | returned sent result =>
          simp only [Guest.next, stage]
          rcases put_eq found lobby.core (.returned sent result) with ⟨_, _, -, guests_eq, put_eq⟩
          rw [put_eq, ← stage, ← guests_eq]
          exact sound
      | cancelled =>
          simp only [Guest.next, stage]
          rcases put_eq found lobby.core .cancelled with ⟨_, _, -, guests_eq, put_eq⟩
          rw [put_eq, ← stage, ← guests_eq]
          exact sound

theorem Sound.cancel (sound : lobby.Sound) (index : Nat) : (lobby.cancel index).Sound := by
  unfold Lobby.cancel
  cases found : lobby.guests[index]? with
  | none => exact sound
  | some guest =>
      dsimp only
      cases holds : guest.held? with
      | none => exact sound
      | some token =>
          have holding : guest.held? ≠ none := by rw [holds]; exact nofun
          have own : token = guest.wait.token :=
            Option.some.inj (holds.symm.trans (Guest.held?_eq holding))
          exact sound.put_gone found (by rw [own]) holding rfl

theorem Sound.call (sound : lobby.Sound) (device : Address) (request : Request)
    (budget : Duration) : (lobby.call device request budget).Sound := by
  unfold Lobby.call
  cases lobby.core.clock.after? lobby.now budget with
  | none => exact sound
  | some due =>
      dsimp only
      cases lobby.core.prepare device request with
      | error failure => exact sound
      | ok payload =>
          dsimp only
          cases registered : lobby.core.takeId.2.registry.register lobby.core.takeId.1 with
          | error failure => exact ⟨sound.coherent, sound.held_perm, sound.known⟩
          | ok result =>
              rcases result with ⟨token, registry⟩
              have change : Change lobby.core.registry [.registered token lobby.core.takeId.1]
                  registry := .registered registered
              refine ⟨change.coherent sound.coherent, ?_, ?_⟩
              · rw [change.tokens_eq sound.coherent, held, List.filterMap_append]
                exact sound.held_perm.append_right [token]
              · intro guest inside holding
                rcases List.mem_append.mp inside with old | new
                · exact (sound.known guest old holding).later change sound.coherent
                    List.not_mem_nil (Nat.le_refl _)
                · cases List.mem_singleton.mp new
                  exact ⟨_, change.handle?_registered sound.coherent (List.nil_append _).symm
                    List.not_mem_nil, rfl, trivial⟩

/-! ## What a core does for others -/

end

/--
What becomes of a registry while nobody comes or goes.  Only replies and clearings can come
then.
-/
inductive Heeding (registry : Registry) : Registry → Prop
  | same : Heeding registry registry
  | replied (reply : Reply) : Heeding registry (registry.deliver reply).2
  | cleared : Heeding registry registry.clear.2

theorem Heeding.change {before after : Registry} (heeding : Heeding before after) :
    ∃ notes, Change before notes after ∧ Registry.ended notes = [] ∧
      ∀ tokens, standing tokens notes = tokens := by
  cases heeding with
  | same => exact ⟨_, .nothing _, rfl, fun _ => rfl⟩
  | replied reply => exact ⟨_, .replied _ reply, rfl, fun _ => rfl⟩
  | cleared => exact ⟨_, .cleared _, rfl, fun _ => rfl⟩

theorem Heeding.of_apart {core next : Core σ} (apart : Core.Apart core next) :
    Heeding core.registry next.registry := by
  rw [apart.registry_eq]
  exact .same

theorem heeding_perform (setup : Setup σ) (core : Core σ) {move : Core.Move σ}
    (other : isOwn move = false) :
    Heeding core.registry (Core.perform setup core move).registry := by
  cases move with
  | request | forget => cases other
  | establish outlet => exact .of_apart (Core.apart_establish setup core outlet)
  | closeLink => exact .of_apart (Core.apart_closeLink setup core)
  | shutdownLink =>
      rw [Core.perform, (Core.shutdownLink_eq setup core).1]
      exact .same
  | report device request =>
      rw [Core.perform]
      cases prepared : core.prepare device request with
      | error failure =>
          rw [Core.sendAsync_of_error core prepared]
          exact .same
      | ok payload =>
          rw [(Core.apart_sendAsync core prepared).registry_eq]
          exact .same
  | forgetAll => exact .cleared
  | receive text =>
      rw [Core.perform, Core.receive]
      cases Inbound.ofText text with
      | error fault => exact .same
      | ok inbound =>
          cases inbound with
          | call messageId method payload => exact .of_apart (Core.apart_receiveCall _ _ _ _)
          | response messageId code payload =>
              dsimp only
              rw [(Core.apart_receiveReply setup core ⟨messageId, code, payload⟩).registry_eq]
              exact .replied _
  | submit job => exact .of_apart (Core.apart_submit core job)
  | step task => exact .of_apart (Core.apart_step setup core task)
  | openGate | closePool | abort | disturb => exact .same
  | drain most => exact .of_apart (.of_outward (Core.outward_onNewestQueue core _))
  | hangUp => exact .of_apart (.of_outward (Core.outward_onNewestQueue core _))

theorem sound_new (setup : Setup σ) (world : σ) : (new setup world).Sound where
  coherent := Registry.coherent_new _
  held_perm := .nil
  known := fun _ inside => absurd inside List.not_mem_nil

theorem Sound.perform {lobby : Lobby σ} (sound : lobby.Sound) (setup : Setup σ) (move : Move σ) :
    (lobby.perform setup move).Sound := by
  cases move with
  | call device request budget => exact sound.call device request budget
  | step index => exact sound.step index
  | cancel index => exact sound.cancel index
  | advance span =>
      refine ⟨sound.coherent, sound.held_perm, fun guest inside holding => ?_⟩
      exact (sound.known guest inside holding).later (.nothing _) sound.coherent
        List.not_mem_nil (Nat.le_add_right _ _)
  | beside move =>
      rw [Lobby.perform]
      by_cases own : isOwn move = true
      · rw [if_pos own]
        exact sound
      · rw [if_neg own]
        rcases (heeding_perform setup lobby.core (Bool.eq_false_iff.mpr own)).change with
          ⟨notes, change, none_ended, stands⟩
        refine ⟨change.coherent sound.coherent, ?_, fun guest inside holding => ?_⟩
        · rw [change.tokens_eq sound.coherent, stands]
          exact sound.held_perm
        · exact (sound.known guest inside holding).later change sound.coherent
            (none_ended ▸ List.not_mem_nil) (Nat.le_refl _)

theorem sound_run {lobby : Lobby σ} (sound : lobby.Sound) (setup : Setup σ)
    (moves : List (Move σ)) : (lobby.run setup moves).Sound := by
  induction moves generalizing lobby with
  | nil => exact sound
  | cons move rest ih => exact ih (sound.perform setup move)

end Lobby
end DeviceLink
