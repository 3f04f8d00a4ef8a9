import DeviceLink.Proofs.Core.Apart
import DeviceLink.Proofs.Traffic.Run

namespace DeviceLink
namespace Traffic

open Registry (Occurrence Change)

variable {σ : Type}

/-!
What a single move can do.  A step of a request has one of a few outcomes; a shutdown
takes its two steps; and every other move leaves the requests alone.  `Advance` lists
the outcomes of a step with the occurrences that belong to it, and `Outside` says what
the other moves have in common.  Later modules argue by cases over the two and do not
open the definitions of the steps again.
-/

/--
What may come of the next step of a request.  There are at most two outcomes for each stage,
and the occurrences go with them.
-/
inductive Advance (caller : Caller) (core : Core σ) (now : Nat) :
    Stage → Core σ → Stage → List Occurrence → Prop
  | unconnected {failure : Failure} (refused : core.link.ensureConnected = .error failure) :
      Advance caller core now .begun core (.returned none false (.error failure)) []
  | checked (connected : core.link.ensureConnected = .ok ()) :
      Advance caller core now .begun core .checked []
  | numbered : Advance caller core now .checked core.takeId.2 (.numbered core.takeId.1) []
  | unregistered {messageId : UInt32} {failure : Failure}
      (refused : core.registry.register messageId = .error failure) :
      Advance caller core now (.numbered messageId) core (.returned none false (.error failure)) []
  | registered {messageId : UInt32} {token : Nat} {registry : Registry}
      (registered : core.registry.register messageId = .ok (token, registry)) :
      Advance caller core now (.numbered messageId) { core with registry := registry }
        (.registered ⟨messageId, token⟩) [.registered token messageId]
  | routed {slip : Slip} {sink : Nat} (routes : core.link.route = .ok sink) :
      Advance caller core now (.registered slip) core (.routed slip sink) []
  | unrouted {slip : Slip} {failure : Failure} (refused : core.link.route = .error failure) :
      Advance caller core now (.registered slip) core (.leaving slip false (.error failure)) []
  | sent {slip : Slip} {sink : Nat} {after : Core σ} (apart : Core.Apart core after) :
      Advance caller core now (.routed slip sink) after (.waiting slip) []
  | unsent {slip : Slip} {sink : Nat} {failure : Failure} {after : Core σ}
      (apart : Core.Apart core after) :
      Advance caller core now (.routed slip sink) after (.leaving slip false (.error failure)) []
  | finished {slip : Slip} {result : Except Failure Reply}
      (finished : (caller.wait slip).result? core.registry now = some result) :
      Advance caller core now (.waiting slip) core (.leaving slip true result) []
  | goesOn {slip : Slip} (undecided : (caller.wait slip).result? core.registry now = none) :
      Advance caller core now (.waiting slip) core (.waiting slip) []
  | left {slip : Slip} {framed : Bool} {result : Except Failure Reply} :
      Advance caller core now (.leaving slip framed result)
        { core with registry := core.registry.drop slip.token }
        (.returned (some slip) framed result) [.dropped slip.token, .removed slip.messageId]
  | returned {slip : Option Slip} {framed : Bool} {result : Except Failure Reply} :
      Advance caller core now (.returned slip framed result) core
        (.returned slip framed result) []

theorem advance_next (caller : Caller) (core : Core σ) (now : Nat) (stage : Stage) :
    Advance caller core now stage (caller.next core now stage).1 (caller.next core now stage).2
      (Caller.shows core stage) := by
  cases stage with
  | begun =>
      simp only [Caller.next, Caller.shows]
      cases checked : core.link.ensureConnected with
      | ok => exact .checked checked
      | error failure => exact .unconnected checked
  | checked => exact .numbered
  | numbered messageId =>
      simp only [Caller.next, Caller.shows]
      cases registered : core.registry.register messageId with
      | ok result => exact .registered registered
      | error failure => exact .unregistered registered
  | registered slip =>
      simp only [Caller.next, Caller.shows]
      cases routes : core.link.route with
      | ok sink => exact .routed routes
      | error failure => exact .unrouted routes
  | routed slip sink =>
      have apart := Core.Apart.of_outward
        (Core.outward_hand core sink (caller.request.frame slip.messageId caller.payload))
      simp only [Caller.next, Caller.shows]
      split <;> rename_i handed <;> rw [handed] at apart
      · exact .sent apart
      · exact .unsent apart
  | waiting slip =>
      simp only [Caller.next, Caller.shows]
      cases finished : (caller.wait slip).result? core.registry now with
      | some result => exact .finished finished
      | none => exact .goesOn finished
  | leaving slip framed result => exact .left
  | returned slip framed result => exact .returned

theorem exists_sides {α : Type} {items : List α} {index : Nat} {item : α}
    (found : items[index]? = some item) :
    ∃ before after, items = before ++ item :: after ∧ before.length = index := by
  rcases List.getElem?_eq_some_iff.mp found with ⟨inside, here⟩
  refine ⟨items.take index, items.drop (index + 1), ?_,
    List.length_take_of_le (Nat.le_of_lt inside)⟩
  rw [← here, ← List.drop_eq_getElem_cons inside, List.take_append_drop]

/--
One request takes its next step, and the others stay where they are.  The step is one of
those that `Advance` lists.
-/
theorem step_of_found {traffic : Traffic σ} {index : Nat} {caller : Caller}
    (found : traffic.callers[index]? = some caller) :
    ∃ before after core stage, before.length = index ∧
      traffic.callers = before ++ caller :: after ∧
      traffic.step index =
        { traffic with
          core := core
          callers := before ++ { caller with stage := stage } :: after } ∧
      Advance caller traffic.core traffic.now caller.stage core stage
        (traffic.observe (.step index)) := by
  rcases exists_sides found with ⟨before, after, callers_eq, length_eq⟩
  refine ⟨before, after, _, _, length_eq, callers_eq, ?_,
    (by simp only [observe, found]; exact advance_next caller traffic.core traffic.now _)⟩
  simp only [step, found]
  rw [callers_eq, ← length_eq, List.set_append_right _ _ (Nat.le_refl _), Nat.sub_self,
    List.set_cons_zero]

theorem step_of_missing {traffic : Traffic σ} {index : Nat}
    (missing : traffic.callers[index]? = none) :
    traffic.step index = traffic ∧ traffic.observe (.step index) = [] := by
  simp only [step, observe, missing, and_self]

/--
What moves do that are no business of any request.  They may deliver replies, and they may
let time pass, but no caller is touched.
-/
structure Outside (before after : Traffic σ) (notes : List Occurrence) : Prop where
  callers_eq : after.callers = before.callers
  shutdown_eq : after.shutdown = before.shutdown
  now_le : before.now ≤ after.now
  closed_iff : after.core.link.phase = .closed ↔ before.core.link.phase = .closed
  change : Change before.core.registry notes after.core.registry
  replies : ∀ note ∈ notes, ∃ reply, note = .replied reply

theorem Outside.of_apart {traffic : Traffic σ} {core : Core σ}
    (apart : Core.Apart traffic.core core) : Outside traffic { traffic with core := core } [] where
  callers_eq := rfl
  shutdown_eq := rfl
  now_le := Nat.le_refl _
  closed_iff := apart.closed_iff
  change := by
    rw [apart.registry_eq]
    exact .nothing _
  replies := nofun

theorem outside_receive (setup : Setup σ) (traffic : Traffic σ) (text : String) :
    Outside traffic (traffic.perform setup (.receive text)) (traffic.observe (.receive text)) := by
  simp only [perform, observe, Core.receive]
  cases Inbound.ofText text with
  | error error => exact .of_apart (Core.Apart.refl _)
  | ok inbound =>
      cases inbound with
      | call messageId method payload => exact .of_apart (Core.apart_receiveCall _ _ _ _)
      | response messageId code payload =>
          have apart := Core.apart_receiveReply setup traffic.core ⟨messageId, code, payload⟩
          exact
            { callers_eq := rfl
              shutdown_eq := rfl
              now_le := Nat.le_refl _
              closed_iff := apart.closed_iff
              change := by
                rw [apart.registry_eq]
                exact .replied _ _
              replies := fun note inside => ⟨_, List.mem_singleton.mp inside⟩ }

theorem outside_report (traffic : Traffic σ) (device : Address) (request : Request) :
    Outside traffic { traffic with core := (traffic.core.sendAsync device request).2 } [] := by
  cases prepared : traffic.core.prepare device request with
  | error failure =>
      rw [Core.sendAsync_of_error traffic.core prepared]
      exact .of_apart (Core.Apart.refl _)
  | ok payload =>
      have apart := Core.apart_sendAsync traffic.core prepared
      exact
        { callers_eq := rfl
          shutdown_eq := rfl
          now_le := Nat.le_refl _
          closed_iff := apart.closed_iff
          change := by
            rw [apart.registry_eq]
            exact .nothing _
          replies := nofun }

/--
The moves that neither begin nor move on a request, nor shut anything down.  They are those
of the gateway, of the transport, of the pool and of time.
-/
def Move.isOutside : Move → Bool
  | call _ _ _ => false
  | step _ => false
  | shutdown => false
  | _ => true

theorem outside_perform (setup : Setup σ) (traffic : Traffic σ) {move : Move}
    (outside : move.isOutside = true) :
    Outside traffic (traffic.perform setup move) (traffic.observe move) := by
  cases move with
  | call | step | shutdown => cases outside
  | receive text => exact outside_receive setup traffic text
  | advance span =>
      exact
        { callers_eq := rfl
          shutdown_eq := rfl
          now_le := Nat.le_add_right _ _
          closed_iff := Iff.rfl
          change := .nothing _
          replies := nofun }
  | establish outlet => exact .of_apart (Core.apart_establish setup _ outlet)
  | closeLink => exact .of_apart (Core.apart_closeLink setup _)
  | report device request => exact outside_report traffic device request
  | work task => exact .of_apart (Core.apart_step setup _ task)

/--
A request that begins waits for its first step, or has failed already.  It joins those who
have begun before, behind all of them.
-/
theorem call_eq (traffic : Traffic σ) (device : Address) (request : Request) (budget : Duration) :
    traffic.call device request budget = traffic ∨
      ∃ caller : Caller,
        traffic.call device request budget =
          { traffic with callers := traffic.callers ++ [caller] } ∧
        (caller.stage = .begun ∨
          ∃ failure, caller.stage = .returned none false (.error failure)) := by
  unfold call
  cases traffic.core.clock.after? traffic.now budget with
  | none => exact .inl rfl
  | some due =>
      cases request.payload device with
      | ok payload => exact .inr ⟨_, rfl, .inl rfl⟩
      | error failure => exact .inr ⟨_, rfl, .inr ⟨failure, rfl⟩⟩

/-! ## Steps in a row -/

namespace Caller

/-- Steps of one request with nothing in between.  It is what happens if nobody else is there. -/
def steps (caller : Caller) (now : Nat) : Nat → Core σ × Stage → Core σ × Stage
  | 0, place => place
  | count + 1, place => caller.steps now count (caller.next place.1 now place.2)

theorem steps_returned (caller : Caller) (now count : Nat) (core : Core σ)
    (slip : Option Slip) (framed : Bool) (result : Except Failure Reply) :
    caller.steps now count (core, .returned slip framed result) =
      (core, .returned slip framed result) := by
  induction count with
  | zero => rfl
  | succ count ih => exact ih

/--
The steps of a request come to this.  It waits with the handle, or it has returned with a
failure.
-/
def Opens (caller : Caller) (core : Core σ) (now : Nat) : Core.Opening × Core σ → Prop
  | (.waits wait, after) => ∃ slip, caller.wait slip = wait ∧
      caller.steps now 5 (core, caller.stage) = (after, .waiting slip)
  | (.fails failure, after) => ∃ slip,
      caller.steps now 6 (core, caller.stage) = (after, .returned slip false (.error failure))
  | (.crashes, _) => False

theorem opens_openWait {caller : Caller} {core : Core σ} (begun : caller.stage = .begun)
    (connected : core.link.ensureConnected = .ok ()) (now : Nat) :
    caller.Opens core now
      (core.takeId.2.openWait caller.request core.takeId.1 caller.payload caller.due
        caller.budget) := by
  rw [Core.openWait]
  cases registered : core.takeId.2.registry.register core.takeId.1 with
  | error failure =>
      exact ⟨none, by simp only [steps, next, begun, connected, registered]⟩
  | ok entered =>
      have entry (count : Nat) : caller.steps now (count + 3) (core, caller.stage) =
          caller.steps now count ({ core.takeId.2 with registry := entered.2 },
            .registered ⟨core.takeId.1, entered.1⟩) := by
        simp only [steps, next, begun, connected, registered]
      cases routes : core.takeId.2.link.route with
      | error failure =>
          simp only [Core.send, routes]
          exact ⟨some ⟨core.takeId.1, entered.1⟩,
            (entry 3).trans (by simp only [steps, next, routes])⟩
      | ok sink =>
          simp only [Core.send, routes]
          cases handed : ({ core.takeId.2 with registry := entered.2 } : Core σ).hand sink
              (caller.request.frame core.takeId.1 caller.payload) with
          | mk sent after =>
              cases sent with
              | ok =>
                  exact ⟨⟨core.takeId.1, entered.1⟩, rfl,
                    (entry 2).trans (by simp only [steps, next, routes, handed])⟩
              | error failure =>
                  exact ⟨some ⟨core.takeId.1, entered.1⟩,
                    (entry 3).trans (by simp only [steps, next, routes, handed])⟩

end Caller

theorem run_newest (setup : Setup σ) (core : Core σ) (now : Nat) (callers : List Caller)
    (caller : Caller) (stage : Stage) (shutdown : Shutdown) (count : Nat) :
    (Traffic.mk core now (callers ++ [{ caller with stage := stage }]) shutdown).run setup
        (List.replicate count (.step callers.length)) =
      ⟨(caller.steps now count (core, stage)).1, now,
        callers ++ [{ caller with stage := (caller.steps now count (core, stage)).2 }],
        shutdown⟩ := by
  induction count generalizing core stage with
  | zero => rfl
  | succ count ih =>
      rw [List.replicate_succ, run, List.foldl_cons, perform]
      simp only [step, List.getElem?_concat_length, List.set_append_right _ _ (Nat.le_refl _),
        Nat.sub_self, List.set_cons_zero]
      exact ih _ _

theorem opens_call (traffic : Traffic σ) (device : Address) (request : Request)
    (budget : Duration) :
    (traffic.core.sendSync device request traffic.now budget = (.crashes, traffic.core) ∧
        traffic.call device request budget = traffic) ∨
      ∃ caller : Caller,
        traffic.call device request budget =
          { traffic with callers := traffic.callers ++ [caller] } ∧
        caller.Opens traffic.core traffic.now
          (traffic.core.sendSync device request traffic.now budget) := by
  unfold call Core.sendSync
  cases traffic.core.clock.after? traffic.now budget with
  | none => exact .inl ⟨rfl, rfl⟩
  | some due =>
      refine .inr ?_
      cases settled : request.payload device with
      | error failure =>
          simp only [Core.prepare, settled]
          exact ⟨_, rfl, none, Caller.steps_returned _ _ _ _ _ _ _⟩
      | ok payload =>
          cases connected : traffic.core.link.ensureConnected with
          | error failure =>
              simp only [Core.prepare, settled, connected]
              exact ⟨_, rfl, none, by simp only [Caller.steps, Caller.next, connected]⟩
          | ok =>
              simp only [Core.prepare, settled, connected]
              exact ⟨_, rfl, Caller.opens_openWait rfl connected traffic.now⟩

/--
With nothing in between, the steps of a request come to what `sendSync` does at once.  So
the single steps are a refinement of the operation of the core.
-/
theorem run_inARow (setup : Setup σ) (traffic : Traffic σ) (device : Address) (request : Request)
    (budget : Duration) :
    let own := Move.step traffic.callers.length
    match traffic.core.sendSync device request traffic.now budget with
    | (.crashes, core) =>
        traffic.run setup [.call device request budget] = { traffic with core := core }
    | (.fails failure, core) => ∃ caller slip,
        caller.stage = .returned slip false (.error failure) ∧
        traffic.run setup (.call device request budget :: List.replicate 6 own) =
          { traffic with core := core, callers := traffic.callers ++ [caller] }
    | (.waits wait, core) => ∃ caller slip,
        caller.stage = .waiting slip ∧ caller.wait slip = wait ∧
        traffic.run setup (.call device request budget :: List.replicate 5 own) =
          { traffic with core := core, callers := traffic.callers ++ [caller] } := by
  rcases opens_call traffic device request budget with ⟨crashes, missing⟩ | ⟨caller, called, opens⟩
  · rw [crashes]
    exact missing
  · have stepped (count : Nat) :=
      run_newest setup traffic.core traffic.now traffic.callers caller caller.stage
        traffic.shutdown count
    rcases sent : traffic.core.sendSync device request traffic.now budget with ⟨opening, core⟩
    rw [sent] at opens
    simp only [run, List.foldl_cons, perform, called]
    simp only [run] at stepped
    cases opening with
    | waits wait =>
        rcases opens with ⟨slip, same, place⟩
        exact ⟨{ caller with stage := .waiting slip }, slip, rfl, same,
          (stepped 5).trans (by rw [place])⟩
    | fails failure =>
        rcases opens with ⟨slip, place⟩
        exact ⟨{ caller with stage := .returned slip false (.error failure) }, slip, rfl,
          (stepped 6).trans (by rw [place])⟩
    | crashes => exact opens.elim

end Traffic
end DeviceLink
