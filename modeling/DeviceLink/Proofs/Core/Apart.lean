import DeviceLink.Core.Turn

namespace DeviceLink
namespace Core

variable {σ : Type}

/-!
Most operations of a core have nothing to do with who awaits which reply: they touch
neither the registry nor the counter of message ids, and a link that they find closed or
open stays so.  The clock is never touched.  The others do one such thing and are apart
from it otherwise.  Whoever proves something about registry, ids or clock therefore
looks at those few operations, and takes the rest from here.  `Apart` relates a core to
the next one, and it is reflexive and transitive, so that the lemma about an operation
follows the way in which the operation is put together.
-/

/-- Only the outlets and the log have changed.  That is all that sending a frame can do. -/
def Outward (core next : Core σ) : Prop :=
  ∃ outlets log, next = { core with outlets := outlets, log := log }

theorem Outward.refl (core : Core σ) : Outward core core := ⟨core.outlets, core.log, rfl⟩

theorem outward_hand (core : Core σ) (sink : Nat) (text : String) :
    Outward core (core.hand sink text).2 := by
  unfold hand
  split
  · exact Outward.refl core
  · split
    · exact Outward.refl core
    · split <;> exact ⟨_, _, rfl⟩

theorem outward_send (core : Core σ) (text : String) : Outward core (core.send text).2 := by
  unfold send
  split
  · exact outward_hand core _ text
  · exact Outward.refl core

theorem outward_onNewestQueue (core : Core σ) (change : Outlet → List String × Outlet) :
    Outward core (core.onNewestQueue change).2 := by
  unfold onNewestQueue
  split
  · exact Outward.refl core
  · dsimp only
    split
    · exact Outward.refl core
    · exact ⟨_, _, rfl⟩

theorem outward_reportReply (setup : Setup σ) (core : Core σ) (messageId : UInt32)
    (code : Int32) : Outward core (reportReply setup core messageId code) := by
  unfold reportReply
  split
  · exact ⟨_, _, rfl⟩
  · exact ⟨_, _, rfl⟩
  · exact Outward.refl core

structure Apart (core next : Core σ) : Prop where
  registry_eq : next.registry = core.registry
  nextId_eq : next.nextId = core.nextId
  clock_eq : next.clock = core.clock
  closed_iff : next.link.phase = .closed ↔ core.link.phase = .closed

namespace Apart

theorem of_link_eq {core next : Core σ} (registry_eq : next.registry = core.registry)
    (nextId_eq : next.nextId = core.nextId) (clock_eq : next.clock = core.clock)
    (link_eq : next.link = core.link) : Apart core next :=
  ⟨registry_eq, nextId_eq, clock_eq, by rw [link_eq]⟩

theorem refl (core : Core σ) : Apart core core := .of_link_eq rfl rfl rfl rfl

theorem trans {core next last : Core σ} (first : Apart core next) (second : Apart next last) :
    Apart core last where
  registry_eq := second.registry_eq.trans first.registry_eq
  nextId_eq := second.nextId_eq.trans first.nextId_eq
  clock_eq := second.clock_eq.trans first.clock_eq
  closed_iff := second.closed_iff.trans first.closed_iff

theorem foldl {α : Type} (change : Core σ → α → Core σ)
    (each : ∀ core item, Apart core (change core item)) (items : List α) (core : Core σ) :
    Apart core (items.foldl change core) := by
  induction items generalizing core with
  | nil => exact refl core
  | cons item rest ih => exact (each core item).trans (ih _)

theorem of_outward {core next : Core σ} (outward : Outward core next) : Apart core next := by
  rcases outward with ⟨outlets, log, rfl⟩
  exact .of_link_eq rfl rfl rfl rfl

end Apart

section

variable (setup : Setup σ) (core : Core σ)

theorem apart_send (text : String) : Apart core (core.send text).2 :=
  .of_outward (outward_send core text)

/-! ## The link -/

theorem apart_apply {update : Link.Update}
    (closed_iff : update.link.phase = .closed ↔ core.link.phase = .closed) :
    Apart core (apply setup core update) := by
  unfold apply publish
  split
  · split <;> exact ⟨rfl, rfl, rfl, closed_iff⟩
  · exact ⟨rfl, rfl, rfl, closed_iff⟩

theorem closed_establish_iff (link : Link) (sink : Nat) :
    (link.establish sink).link.phase = .closed ↔ link.phase = .closed := by
  cases phase : link.phase <;> simp [Link.establish, phase]

theorem closed_close_iff (link : Link) :
    link.close.link.phase = .closed ↔ link.phase = .closed := by
  cases phase : link.phase <;> simp [Link.close, phase]

theorem apart_establish (outlet : Outlet) : Apart core (core.establish setup outlet).2 := by
  have added : Apart core { core with outlets := core.outlets ++ [outlet] } :=
    ⟨rfl, rfl, rfl, Iff.rfl⟩
  exact added.trans (apart_apply setup _ (closed_establish_iff core.link _))

theorem apart_closeLink : Apart core (core.closeLink setup) :=
  apart_apply setup core (closed_close_iff core.link)

theorem shutdownLink_of_closed (closed : core.link.phase = .closed) :
    core.shutdownLink setup = (false, core) := by
  simp only [shutdownLink, Link.shutdown, closed, apply]

theorem shutdown_of_open {link : Link} (isOpen : link.phase ≠ .closed) :
    link.shutdown = ⟨{ link with phase := .closed, sink := none }, true, some .closed⟩ := by
  unfold Link.shutdown
  split
  · contradiction
  · rfl

/--
The link of a core that was not shut down before is closed, and nothing else is touched.
The shutdown is accepted then, and it is the first.
-/
theorem shutdownLink_of_open (isOpen : core.link.phase ≠ .closed) :
    ∃ next, core.shutdownLink setup = (true, next) ∧ next.registry = core.registry ∧
      next.nextId = core.nextId := by
  simp only [shutdownLink, shutdown_of_open isOpen, apply, publish]
  split <;> exact ⟨_, rfl, rfl, rfl⟩

/--
After a shutdown the link is closed, whatever it was before.  A second shutdown finds it
closed and leaves it so.
-/
theorem shutdownLink_eq :
    (core.shutdownLink setup).2.registry = core.registry ∧
      (core.shutdownLink setup).2.nextId = core.nextId ∧
      (core.shutdownLink setup).2.link.phase = .closed := by
  by_cases closed : core.link.phase = .closed
  · rw [shutdownLink_of_closed setup core closed]
    exact ⟨rfl, rfl, closed⟩
  · simp only [shutdownLink, shutdown_of_open closed, apply, publish]
    split <;> exact ⟨rfl, rfl, rfl⟩

/-! ## Inbound frames -/

theorem apart_submit (job : Job) : Apart core (core.submit job).2 := by
  unfold submit
  split <;> exact ⟨rfl, rfl, rfl, Iff.rfl⟩

theorem apart_receiveReply (reply : Reply) :
    Apart (core.deliver reply).2 (receiveReply setup core reply).2 := by
  unfold receiveReply
  split
  · rename_i delivery
    rw [delivery]
    exact Apart.refl _
  · rename_i delivery
    rw [delivery]
    split
    · exact apart_submit _ _
    · exact Apart.refl _

theorem apart_receiveCall (messageId : UInt32) (method : String) (payload : Json.Value) :
    Apart core (core.receiveCall messageId method payload).2 := by
  unfold receiveCall
  split
  · exact Apart.refl core
  · split
    · exact apart_send core _
    · rename_i device _ _ call _
      have submitted := apart_submit core (.invoke messageId device call)
      split
      · rename_i accepted
        rw [accepted] at submitted
        exact submitted
      · rename_i refused
        rw [refused] at submitted
        exact submitted.trans (apart_send _ _)

/-! ## Pool tasks -/

theorem apart_endCall (task : Pool.Task σ) (messageId : UInt32)
    (outcome : Outcome Json.Members) : Apart core (core.endCall task messageId outcome) := by
  have answered : Apart core (core.respond messageId (DeviceCall.answer outcome).1
      (DeviceCall.answer outcome).2).2 := apart_send core _
  exact answered.trans ⟨rfl, rfl, rfl, Iff.rfl⟩

theorem apart_runActivity (task : Pool.Task σ) (messageId : UInt32)
    (activity : Activity σ Json.Members) :
    Apart core (core.runActivity task messageId activity) := by
  have ran : Apart core
      { core with
        world := (activity.run core.world).world
        log := core.log ++ (activity.run core.world).notes.map Event.note } :=
    ⟨rfl, rfl, rfl, Iff.rfl⟩
  unfold runActivity
  dsimp only
  split
  · exact ran.trans (apart_endCall _ task messageId _)
  · exact ⟨rfl, rfl, rfl, Iff.rfl⟩

theorem apart_askGate (task : Pool.Task σ) (gate : String) (rest : Activity σ Json.Members) :
    Apart core (core.askGate task gate rest) := by
  unfold askGate
  split <;> exact ⟨rfl, rfl, rfl, Iff.rfl⟩

theorem apart_beginJob (task : Pool.Task σ) : Apart core (beginJob setup core task) := by
  have begun : Apart core { core with pool := core.pool.startJob } := ⟨rfl, rfl, rfl, Iff.rfl⟩
  unfold beginJob
  split
  · exact begun.trans (apart_runActivity _ task _ _)
  · rename_i messageId code _
    have reported := Apart.of_outward (outward_reportReply setup
      { core with pool := core.pool.startJob } messageId code)
    exact (begun.trans reported).trans ⟨rfl, rfl, rfl, Iff.rfl⟩

theorem apart_stepTask (task : Pool.Task σ) : Apart core (stepTask setup core task) := by
  unfold stepTask
  split
  · exact ⟨rfl, rfl, rfl, Iff.rfl⟩
  · exact apart_beginJob setup core task
  · exact apart_askGate core task _ _
  · exact apart_runActivity core task _ _
  · exact Apart.refl core

theorem apart_step (id : Nat) : Apart core (step setup core id) := by
  have taken : Apart core
      { core with pool := { core.pool with ready := core.pool.ready.erase id } } :=
    ⟨rfl, rfl, rfl, Iff.rfl⟩
  unfold step
  dsimp only
  split
  · exact taken.trans (apart_stepTask setup _ _)
  · exact taken

/--
Settling keeps what a single step keeps, if it is nothing about the ready queue.  The order
in which the tasks take their steps does not matter for such a property.
-/
theorem settleFor_induction {motive : Core σ → Prop}
    (queued : ∀ core ready, motive core → motive (core.withReady ready))
    (steps : ∀ core id, motive core → motive (step setup core id)) (count : Nat) (turns : Turns)
    {start : Core σ} (holds : motive start) : motive (settleFor setup count turns start) := by
  induction count generalizing turns start with
  | zero => exact queued start _ holds
  | succ count ih =>
      rw [settleFor]
      dsimp only
      split
      · exact holds
      · exact ih _ (queued _ _ (steps _ _ (queued start _ holds)))

theorem apart_settleFor (count : Nat) (turns : Turns) :
    Apart core (settleFor setup count turns core) := by
  refine settleFor_induction setup (fun next ready apart => ?_) (fun next id apart => ?_) count
    turns (Apart.refl core)
  · exact apart.trans ⟨rfl, rfl, rfl, Iff.rfl⟩
  · exact apart.trans (apart_step setup next id)

theorem apart_settle : Apart core (settle setup core) := apart_settleFor setup core _ _

end

/-! ## Message ids -/

section

variable {core : Core σ}

/--
The number of a message id, as long as the counter has not come round.  It is one more than
the number of ids that have been taken.
-/
theorem toNat_nextId {count : Nat} (next : core.nextId = UInt32.ofNat (count + 1))
    (few : count + 1 < UInt32.size) : core.nextId.toNat = count + 1 := by
  rw [next, UInt32.toNat_ofNat']
  exact Nat.mod_eq_of_lt few

/--
As long as the counter has not come round, no message id is left out.  Zero would be the one
that is left out, and it comes last.
-/
theorem takeId_eq {count : Nat} (next : core.nextId = UInt32.ofNat (count + 1))
    (few : count + 1 < UInt32.size) :
    core.takeId = (core.nextId, { core with nextId := UInt32.ofNat (count + 1 + 1) }) := by
  have positive : core.nextId ≠ 0 := by
    intro zero
    have number := toNat_nextId next few
    rw [zero] at number
    exact absurd number.symm (Nat.succ_ne_zero count)
  have taken : Request.takeId core.nextId = (core.nextId, core.nextId + 1) := if_neg positive
  rw [takeId, taken, next]
  simp only [UInt32.ofNat_add]
  rfl

end

/-! ## Outbound requests -/

section

variable (core : Core σ) {device : Address} {request : Request}

theorem phase_of_prepare {payload : Json.Members}
    (prepared : core.prepare device request = .ok payload) : core.link.phase = .connected := by
  unfold prepare at prepared
  split at prepared
  · cases prepared
  · split at prepared
    · cases prepared
    · rename_i connected
      unfold Link.ensureConnected at connected
      split at connected
      · assumption
      · cases connected
      · cases connected

theorem sendAsync_of_error {failure : Failure}
    (refused : core.prepare device request = .error failure) :
    (core.sendAsync device request).2 = core := by
  simp only [sendAsync, refused]

theorem apart_sendAsync {payload : Json.Members}
    (prepared : core.prepare device request = .ok payload) :
    Apart core.takeId.2 (core.sendAsync device request).2 := by
  have sent := apart_send core.takeId.2 (request.frame core.takeId.1 payload)
  simp only [sendAsync, prepared]
  split <;> rename_i result <;> rw [result] at sent <;> exact sent

/--
Whether a frame can be sent depends on the link and the outlets alone.  So two cores that
agree on these accept the same frames.
-/
theorem sent_eq (next : Core σ) (link_eq : next.link = core.link)
    (outlets_eq : next.outlets = core.outlets) (text : String) :
    (next.send text).1 = (core.send text).1 := by
  simp only [send, hand, link_eq, outlets_eq]
  cases core.link.route with
  | error failure => rfl
  | ok sink =>
      dsimp only
      cases core.outlets[sink]? with
      | none => rfl
      | some outlet =>
          dsimp only
          cases outlet.accept text with
          | error failure => rfl
          | ok after =>
              dsimp only
              cases outlet <;> rfl

/--
How a request that has its message id goes on.  It is refused by the registry, fails when it
is sent, or waits.
-/
inductive Opened (core : Core σ) (messageId : UInt32) (due : Nat) (budget : Duration) :
    Opening → Core σ → Prop
  | refused (failure : Failure) : Opened core messageId due budget (.fails failure) core
  | failed (failure : Failure) (token : Nat) (registry : Registry)
      (registered : core.registry.register messageId = .ok (token, registry)) (next : Core σ)
      (apart : Apart { core with registry := registry.drop token } next) :
      Opened core messageId due budget (.fails failure) next
  | sent (token : Nat) (registry : Registry)
      (registered : core.registry.register messageId = .ok (token, registry)) (next : Core σ)
      (apart : Apart { core with registry := registry } next) :
      Opened core messageId due budget (.waits ⟨token, due, budget⟩) next

theorem opened_openWait (request : Request) (messageId : UInt32) (payload : Json.Members)
    (due : Nat) (budget : Duration) :
    Opened core messageId due budget
      (core.openWait request messageId payload due budget).1
      (core.openWait request messageId payload due budget).2 := by
  unfold openWait
  split
  · exact .refused _
  · rename_i token registry registered
    have sent := apart_send { core with registry := registry } (request.frame messageId payload)
    split <;> rename_i result <;> rw [result] at sent
    · exact .sent token registry registered _ sent
    · refine .failed _ token registry registered _
        ⟨?_, sent.nextId_eq, sent.clock_eq, sent.closed_iff⟩
      rw [sent.registry_eq]

/-- A request waits only if its frame could be sent.  Otherwise its entry has gone again. -/
theorem sent_of_openWait {core after : Core σ} {messageId : UInt32} {payload : Json.Members}
    {due : Nat} {budget : Duration} {wait : Wait}
    (opens : core.openWait request messageId payload due budget = (.waits wait, after)) :
    wait.budget = budget ∧ (core.send (request.frame messageId payload)).1 = .ok () := by
  unfold openWait at opens
  split at opens
  · cases opens
  · rename_i token registry registered
    have same : (({ core with registry := registry } : Core σ).send
        (request.frame messageId payload)).1 = (core.send (request.frame messageId payload)).1 :=
      sent_eq core { core with registry := registry } rfl rfl _
    split at opens
    · rename_i sent
      cases opens
      rw [sent] at same
      exact ⟨rfl, same.symm⟩
    · cases opens

end

/-! ## The clock -/

section

variable (setup : Setup σ) (core : Core σ)

theorem clock_apply (update : Link.Update) : (apply setup core update).clock = core.clock := by
  unfold apply publish
  split
  · split <;> rfl
  · rfl

theorem clock_openWait (request : Request) (messageId : UInt32) (payload : Json.Members)
    (due : Nat) (budget : Duration) :
    (core.openWait request messageId payload due budget).2.clock = core.clock := by
  have opened := opened_openWait core request messageId payload due budget
  generalize core.openWait request messageId payload due budget = result at opened
  rcases result with ⟨opening, next⟩
  cases opened with
  | refused => rfl
  | failed _ _ _ _ _ apart => exact apart.clock_eq
  | sent _ _ _ _ apart => exact apart.clock_eq

theorem clock_sendAsync (device : Address) (request : Request) :
    (core.sendAsync device request).2.clock = core.clock := by
  cases prepared : core.prepare device request with
  | error failure => rw [sendAsync_of_error core prepared]
  | ok payload => exact (apart_sendAsync core prepared).clock_eq

theorem clock_sendSync (device : Address) (request : Request) (now : Nat) (budget : Duration) :
    (core.sendSync device request now budget).2.clock = core.clock := by
  unfold sendSync
  split
  · rfl
  · split
    · rfl
    · exact clock_openWait core.takeId.2 request _ _ _ _

theorem clock_receive (text : String) : (receive setup core text).2.clock = core.clock := by
  unfold receive
  split
  · rfl
  · exact (apart_receiveReply setup core _).clock_eq
  · exact (apart_receiveCall core _ _ _).clock_eq

end

end Core
end DeviceLink
