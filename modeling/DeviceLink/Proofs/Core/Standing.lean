import DeviceLink.Proofs.Core.Effect
import DeviceLink.Proofs.Link.Update

namespace DeviceLink
namespace Core

variable {σ : Type}

/-!
A connected link always leads to an outlet.  Outlets are only ever added, and no move
but those of the link itself changes where it leads, or publishes anything.  `Standing`
says so, and `Rooted` says of a move that it leaves the link and the number of outlets
as they are.  So sending over a connected link comes to a frame that is handed over or
to an outlet that refuses it.  Publications are counted here too.
-/

/-- Whether a move is one of the link itself.  These are the moves by which its phase may change. -/
def Move.turnsLink : Move σ → Bool
  | establish _ => true
  | closeLink => true
  | shutdownLink => true
  | _ => false

/-- While it is connected, the link leads to an outlet.  Without a connection nothing is said. -/
def Standing (core : Core σ) : Prop :=
  core.link.phase = .connected → ∃ sink outlet,
    core.link.sink = some sink ∧ core.outlets[sink]? = some outlet

/--
The link leads where it led, and no outlet has been added.  What the outlets hold may have
changed.
-/
structure Rooted (core next : Core σ) : Prop where
  link_eq : next.link = core.link
  length_eq : next.outlets.length = core.outlets.length

namespace Rooted

variable {core next last : Core σ}

theorem refl (core : Core σ) : Rooted core core := ⟨rfl, rfl⟩

theorem trans (first : Rooted core next) (second : Rooted next last) : Rooted core last where
  link_eq := second.link_eq.trans first.link_eq
  length_eq := second.length_eq.trans first.length_eq

theorem standing (rooted : Rooted core next) (standing : core.Standing) : next.Standing := by
  intro connected
  rw [rooted.link_eq] at connected ⊢
  rcases standing connected with ⟨sink, outlet, sink_eq, there⟩
  have inside : sink < next.outlets.length := by
    rw [rooted.length_eq]
    exact (List.getElem?_eq_some_iff.mp there).1
  exact ⟨sink, next.outlets[sink], sink_eq, List.getElem?_eq_getElem inside⟩

end Rooted

section

variable (setup : Setup σ) (core : Core σ)

theorem rooted_hand (sink : Nat) (text : String) : Rooted core (core.hand sink text).2 := by
  cases found : core.outlets[sink]? with
  | none =>
      simp only [hand, found]
      exact .refl core
  | some outlet =>
      have handed := hand_of_found core found text
      exact ⟨handed.link_eq, by rw [handed.outlets_eq, List.length_set]⟩

theorem rooted_send (text : String) : Rooted core (core.send text).2 := by
  unfold send
  split
  · exact rooted_hand core _ text
  · exact .refl core

theorem rooted_sendAsync (device : Address) (request : Request) :
    Rooted core (core.sendAsync device request).2 := by
  have counted : Rooted core core.takeId.2 := ⟨rfl, rfl⟩
  unfold sendAsync
  split
  · exact .refl core
  · have sent := rooted_send core.takeId.2
    dsimp only
    split <;> rename_i result <;> exact counted.trans (congrArg Prod.snd result ▸ sent _)

theorem rooted_openWait (request : Request) (messageId : UInt32) (payload : Json.Members)
    (due : Nat) (budget : Duration) :
    Rooted core (core.openWait request messageId payload due budget).2 := by
  unfold openWait
  split
  · exact .refl core
  · rename_i token registry _
    have registered : Rooted core { core with registry := registry } := ⟨rfl, rfl⟩
    have sent := rooted_send { core with registry := registry }
    split <;> rename_i result
    · exact registered.trans (congrArg Prod.snd result ▸ sent _)
    · have kept := registered.trans (congrArg Prod.snd result ▸ sent _)
      exact kept.trans ⟨rfl, rfl⟩

theorem rooted_sendSync (device : Address) (request : Request) (now : Nat) (budget : Duration) :
    Rooted core (core.sendSync device request now budget).2 := by
  have counted : Rooted core core.takeId.2 := ⟨rfl, rfl⟩
  unfold sendSync
  split
  · exact .refl core
  · split
    · exact .refl core
    · exact counted.trans (rooted_openWait core.takeId.2 _ _ _ _ _)

theorem rooted_onNewestQueue (change : Outlet → List String × Outlet) :
    Rooted core (core.onNewestQueue change).2 := by
  unfold onNewestQueue
  split
  · exact .refl core
  · dsimp only
    split
    · exact .refl core
    · exact ⟨rfl, List.length_set⟩

theorem rooted_submit (job : Job) : Rooted core (core.submit job).2 := by
  unfold submit
  split <;> exact ⟨rfl, rfl⟩

theorem rooted_receive (text : String) : Rooted core (receive setup core text).2 := by
  have way := routing setup core text
  generalize (receive setup core text).1 = verdict at way
  generalize (receive setup core text).2 = after at way ⊢
  generalize offered? setup core text = offer at way
  cases way with
  | dropped | delivered | unmatched => exact ⟨rfl, rfl⟩
  | observed reply =>
      have delivered : Rooted core (core.deliver reply).2 := ⟨rfl, rfl⟩
      exact delivered.trans (rooted_submit _ _)
  | submitted => exact rooted_submit core _
  | unreadable | refused => exact rooted_send core _

theorem rooted_runActivity (task : Pool.Task σ) (messageId : UInt32)
    (activity : Activity σ Json.Members) :
    Rooted core (core.runActivity task messageId activity) := by
  have ran : Rooted core (core.ranTo activity) := ⟨rfl, rfl⟩
  cases progress : (activity.run core.world).progress with
  | ended outcome =>
      rw [runActivity_of_ended core task messageId progress]
      have answered := rooted_send (core.ranTo activity) (Envelope.response messageId
        (DeviceCall.answer outcome).1 (DeviceCall.answer outcome).2).text
      exact (ran.trans answered).trans ⟨rfl, rfl⟩
  | atGate gate rest =>
      rw [runActivity_of_atGate core task messageId progress]
      exact ran.trans ⟨rfl, rfl⟩

theorem rooted_beginJob (task : Pool.Task σ) : Rooted core (beginJob setup core task) := by
  have begun : Rooted core { core with pool := core.pool.startJob } := ⟨rfl, rfl⟩
  unfold beginJob
  split
  · exact begun.trans (rooted_runActivity _ task _ _)
  · refine begun.trans ?_
    unfold reportReply
    split <;> exact ⟨rfl, rfl⟩

theorem rooted_step (id : Nat) : Rooted core (step setup core id) := by
  have taken : Rooted core { core with pool := core.pool.leaveReady id } := ⟨rfl, rfl⟩
  unfold step
  dsimp only
  split
  · rename_i task _
    refine taken.trans ?_
    unfold stepTask
    split
    · exact ⟨rfl, rfl⟩
    · exact rooted_beginJob setup _ task
    · unfold askGate
      split <;> exact ⟨rfl, rfl⟩
    · exact rooted_runActivity _ task _ _
    · exact .refl _
  · exact taken

theorem rooted_perform {move : Move σ} (turns : move.turnsLink = false) :
    Rooted core (perform setup core move) := by
  cases move with
  | establish | closeLink | shutdownLink => cases turns
  | report device request => exact rooted_sendAsync core device request
  | request device request now budget => exact rooted_sendSync core device request now budget
  | receive text => exact rooted_receive setup core text
  | submit job => exact rooted_submit core job
  | step task => exact rooted_step setup core task
  | drain most => exact rooted_onNewestQueue core _
  | hangUp => exact rooted_onNewestQueue core _
  | forget | forgetAll | openGate | closePool | abort | disturb => exact ⟨rfl, rfl⟩

end

section

variable {core : Core σ}

theorem standing_apply (setup : Setup σ) {update : Link.Update}
    (leads : update.link.phase = .connected → ∃ sink outlet,
      update.link.sink = some sink ∧ core.outlets[sink]? = some outlet) :
    (apply setup core update).Standing := by
  unfold apply publish
  split
  · split <;> exact leads
  · exact leads

theorem standing_establish (setup : Setup σ) (outlet : Outlet) :
    (core.establish setup outlet).2.Standing := by
  refine standing_apply setup fun connected => ?_
  have turns := Link.turns_establish core.link core.outlets.length
  by_cases closed : core.link.phase = .closed
  · rw [turns.phase_eq, if_pos closed] at connected
    cases connected
  · rw [turns.sink_eq, if_neg closed]
    exact ⟨core.outlets.length, outlet, rfl, List.getElem?_concat_length⟩

/-- A move of the link that leaves it without a connection.  Such a link leads nowhere. -/
theorem standing_parted (setup : Setup σ) {phase : Phase} {update : Link.Update}
    (turns : Link.Turns core.link phase none update) (other : phase ≠ .connected) :
    (apply setup core update).Standing := by
  refine standing_apply setup fun connected => ?_
  rw [turns.phase_eq] at connected
  split at connected
  · cases connected
  · exact absurd connected other

theorem Standing.perform (standing : core.Standing) (setup : Setup σ) (move : Move σ) :
    (Core.perform setup core move).Standing := by
  cases turns : move.turnsLink with
  | false => exact (rooted_perform setup core turns).standing standing
  | true =>
      cases move with
      | establish outlet => exact standing_establish setup outlet
      | closeLink => exact standing_parted setup (Link.turns_close core.link) nofun
      | shutdownLink => exact standing_parted setup (Link.turns_shutdown core.link) nofun
      | _ => cases turns

end

theorem standing_new (setup : Setup σ) (world : σ) : (new setup world).Standing := nofun

/-! ## Publications -/

section

variable (setup : Setup σ) (core : Core σ)

theorem publications_apply (update : Link.Update) :
    (apply setup core update).link.publications =
      update.link.publications + update.publication.toList.length := by
  unfold apply publish
  cases update.publication with
  | none => rfl
  | some phase => dsimp only; split <;> rfl

theorem publications_of_turns {phase : Phase} {sink : Option Nat} {update : Link.Update}
    (turns : Link.Turns core.link phase sink update) :
    core.link.publications ≤ (apply setup core update).link.publications := by
  rw [publications_apply, turns.publications_eq]
  exact Nat.le_add_right _ _

theorem publications_le_perform (move : Move σ) :
    core.link.publications ≤ (perform setup core move).link.publications := by
  cases turns : move.turnsLink with
  | false =>
      have link_eq := (rooted_perform setup core turns).link_eq
      exact Nat.le_of_eq (congrArg Link.publications link_eq.symm)
  | true =>
      cases move with
      | establish outlet =>
          exact publications_of_turns setup { core with outlets := core.outlets ++ [outlet] }
            (Link.turns_establish core.link core.outlets.length)
      | closeLink => exact publications_of_turns setup core (Link.turns_close core.link)
      | shutdownLink => exact publications_of_turns setup core (Link.turns_shutdown core.link)
      | _ => cases turns

/--
A connection that comes up after none is published.  A connection that only gets another
outlet is not.
-/
theorem publications_lt_establish {outlet : Outlet} (isOpen : core.link.phase ≠ .closed)
    (parted : core.link.phase ≠ .connected) :
    core.link.publications < (perform setup core (.establish outlet)).link.publications := by
  have turns := Link.turns_establish core.link core.outlets.length
  have counted := publications_apply setup { core with outlets := core.outlets ++ [outlet] }
    (core.link.establish core.outlets.length)
  rw [turns.publications_eq, turns.publication_eq, if_neg (not_or.mpr ⟨isOpen, parted⟩)] at counted
  exact Nat.lt_of_lt_of_eq (Nat.lt_succ_self _) counted.symm

end

end Core
end DeviceLink
