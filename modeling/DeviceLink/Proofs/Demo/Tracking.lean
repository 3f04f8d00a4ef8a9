import DeviceLink.Proofs.Core.Requesting
import DeviceLink.Proofs.Demo.Sights
import DeviceLink.Proofs.Fleet.Online
import DeviceLink.Proofs.Registry.Filling

namespace DeviceLink

/-!
What the reporter goes by.  The lamps that it takes for announced, and the reply that it
waits for, have been seen to be so, whatever others do to the core meanwhile; and as
long as it has seen all that was published about the link, no connection has come up
behind its back.  `Awaiting` is about the reply that the reporter waits for, `Relied`
about the lamps it has in its fleet, and `Tracked` about both.  Each is shown to outlast
what others do; the steps of the reporter itself are left to the module about its
reports.
-/

namespace Demo

/-- The wait for the answer to an announcement; only the gateway makes it a good one. -/
structure Awaiting (past : List Sight) (registry : Registry) (lamp : Address) (wait : Wait) :
    Prop where
  noticed : .noticed ∈ past
  exists_id : ∃ messageId, Asked lamp messageId (recent past) ∧
    ∀ handle, registry.handle? wait.token = some handle → handle.messageId = messageId ∧
      ∀ reply, handle.slot = .filled reply → reply.isSuccess = true → Announced lamp past

def Relied (past : List Sight) (core : Core Fleet) : Doing → Prop
  | .waiting .awaitingLink => core.world.online = []
  | .waiting (.announcing lamp wait _) => Awaiting past core.registry lamp wait
  | .waiting _ => True
  | .announcing _ => .noticed ∈ past
  | .reporting rest _ => ∀ lamp ∈ rest, Announced lamp past
  | .checking lamp rest _ => ∀ other ∈ lamp :: rest, Announced other past

/-- What the reporter relies on has been seen. -/
structure Tracked (past : List Sight) (round : Round) : Prop where
  coherent : round.core.registry.Coherent
  faced : Core.Faced round.core.pool
  sparing : ∀ device, Core.Sparing Fleet.online device round.core.pool
  announced : ∀ lamp ∈ round.core.world.online, Announced lamp past
  relied : Relied past round.core round.doing
  seen_le : round.seen ≤ round.core.link.publications
  unseen : round.doing ≠ .waiting .awaitingLink → .established ∈ recent past →
    round.seen < round.core.link.publications

/-- Nothing will be announced or reported any more. -/
def Stage.isOver : Stage → Bool
  | withdrawing _ _ _ _ => true
  | silenced => true
  | stopped => true
  | crashed => true
  | _ => false

def Doing.isOver : Doing → Bool
  | waiting stage => stage.isOver
  | _ => false

theorem over_withdraw (setup : Setup Fleet) (lamps : List Address) (reporter : Reporter) :
    (Reporter.withdraw setup lamps reporter).stage.isOver = true := by
  induction lamps generalizing reporter with
  | nil => rfl
  | cons lamp rest ih =>
      unfold Reporter.withdraw
      split
      · rfl
      · exact ih _
      · rfl

theorem over_stop {setup : Setup Fleet} {reporter next : Reporter}
    (stops : reporter.stop? setup = some next) : next.stage.isOver = true := by
  rcases reporter with ⟨core, now, stage, seen⟩
  have ended : (if core.link.phase = .connected then
      Reporter.withdraw setup core.world.online ⟨core, now, stage, seen⟩
      else ⟨core, now, .stopped, seen⟩).stage.isOver = true := by
    split
    · exact over_withdraw setup _ _
    · rfl
  cases stage with
  | awaitingLink | ticking | silenced => exact Option.some.inj stops ▸ ended
  | announcing | withdrawing | stopped | crashed => cases stops

theorem over_noticeWithdrawal {setup : Setup Fleet} {reporter next : Reporter}
    (notices : reporter.noticeWithdrawal? setup = some next) : next.stage.isOver = true := by
  unfold Reporter.noticeWithdrawal? at notices
  split at notices
  · split at notices
    · cases notices
      exact over_withdraw setup _ _
    · cases notices
      exact over_withdraw setup _ _
    · split at notices
      · cases notices
        exact over_withdraw setup _ _
      · cases notices
  · cases notices

theorem whole_cases (round : Round) (step : Reporter → Option Reporter) :
    round.whole step = round ∨ ∃ stage next, round.doing = .waiting stage ∧
      step (round.reporter stage) = some next ∧ round.whole step = .ofReporter next := by
  unfold Round.whole
  split
  · rename_i stage doing
    cases ready : step (round.reporter stage) with
    | none => exact .inl rfl
    | some next => exact .inr ⟨stage, next, doing, ready, rfl⟩
  · exact .inl rfl

/-! ## Moves of others -/

section

variable {start : Start} {past : List Sight} {core : Core Fleet} {move : Core.Move Fleet}

theorem mem_observeForeign {sight : Sight} (seen : sight ∈ Round.observeForeign start core move) :
    sight.isConnection = true ∨ ∃ messageId code, sight = .answered messageId code := by
  unfold Round.observeForeign at seen
  split at seen
  · split at seen
    · cases seen
    · exact .inl (List.mem_singleton.mp seen ▸ rfl)
    · exact .inl (List.mem_singleton.mp seen ▸ rfl)
  · split at seen
    · split at seen
      · exact .inr ⟨_, _, List.mem_singleton.mp seen⟩
      · cases seen
    · cases seen
  · cases seen

theorem noticed_observeForeign : .noticed ∉ Round.observeForeign start core move := by
  intro seen
  rcases mem_observeForeign seen with connection | ⟨_, _, answer⟩
  · cases connection
  · cases answer

theorem asked_observeForeign (lamp : Address) (messageId : UInt32) :
    .asked lamp messageId ∉ Round.observeForeign start core move := by
  intro seen
  rcases mem_observeForeign seen with connection | ⟨_, _, answer⟩
  · cases connection
  · cases answer

/-- A reply that somebody awaits is seen. -/
theorem observeForeign_delivered {text : String} {reply : Reply}
    (inbound : Inbound.ofText text = .ok (.response reply.messageId reply.code reply.payload))
    (delivered : (core.registry.deliver reply).1 = true) :
    Round.observeForeign start core (.receive text) =
      [.answered reply.messageId reply.code] := by
  obtain ⟨after, taken⟩ : ∃ after, core.deliver reply = (true, after) :=
    ⟨_, Prod.ext delivered rfl⟩
  simp only [Round.observeForeign, Core.receive, inbound, Core.receiveReply, taken, if_true]

/-- Only a reply that has just come in is new to a handle. -/
theorem brings_perform (coherent : core.registry.Coherent) (foreign : isForeign move = true)
    {token : Nat} {handle : Handle}
    (found : (Core.perform (Program.setup start) core move).registry.handle? token = some handle) :
    ∃ before, core.registry.handle? token = some before ∧ before.Brings handle fun reply =>
      Round.observeForeign start core move = [.answered handle.messageId reply.code] := by
  have asks : move.asks = false := by cases move <;> first | rfl | cases foreign
  have stays (same : (Core.perform (Program.setup start) core move).registry = core.registry) :
      ∃ before, core.registry.handle? token = some before ∧ before.Brings handle fun reply =>
        Round.observeForeign start core move = [.answered handle.messageId reply.code] :=
    ⟨handle, same ▸ found, rfl, fun reply filled => .inl filled⟩
  cases settles : move.settles with
  | false => exact stays (Core.unsettled_perform (Program.setup start) core asks settles).1
  | true =>
      cases move with
      | forget => cases foreign
      | forgetAll => exact coherent.brings_clear found
      | receive text =>
          cases inbound : Inbound.ofText text with
          | error error => exact stays (by simp only [Core.perform, Core.receive, inbound])
          | ok frame =>
              cases frame with
              | call messageId method payload =>
                  have apart := Core.apart_receiveCall core messageId method payload
                  exact stays (by simpa only [Core.perform, Core.receive, inbound] using
                    apart.registry_eq)
              | response messageId code payload =>
                  let reply : Reply := ⟨messageId, code, payload⟩
                  have apart := Core.apart_receiveReply (Program.setup start) core reply
                  have registry_eq : (Core.perform (Program.setup start) core
                      (.receive text)).registry = (core.registry.deliver reply).2 := by
                    simp only [Core.perform, Core.receive, inbound]
                    exact apart.registry_eq
                  rcases coherent.brings_deliver (registry_eq ▸ found) with ⟨before, there, brings⟩
                  refine ⟨before, there, brings.mono fun answer new => ?_⟩
                  rcases new with ⟨rfl, named, delivered⟩
                  rw [named]
                  exact observeForeign_delivered inbound delivered
      | _ => cases settles

theorem established_observeForeign (opens : .established ∈ Round.observeForeign start core move) :
    core.link.publications <
      (Core.perform (Program.setup start) core move).link.publications := by
  cases move with
  | establish outlet =>
      cases phase : core.link.phase with
      | connecting | disconnected =>
          refine Core.publications_lt_establish (Program.setup start) core ?_ ?_ <;>
            exact phase ▸ nofun
      | connected | closed => simp [Round.observeForeign, phase] at opens
  | receive text =>
      simp only [Round.observeForeign] at opens
      split at opens
      · split at opens
        · cases List.mem_singleton.mp opens
        · cases opens
      · cases opens
  | _ => cases opens

theorem Awaiting.perform {lamp : Address} {wait : Wait}
    (awaiting : Awaiting past core.registry lamp wait) (coherent : core.registry.Coherent)
    (foreign : isForeign move = true) :
    Awaiting (past ++ Round.observeForeign start core move)
      (Core.perform (Program.setup start) core move).registry lamp wait := by
  rcases awaiting with ⟨noticed, messageId, asked, knows⟩
  have recent_eq := recent_append past (@noticed_observeForeign start core move)
  refine ⟨List.mem_append_left _ noticed, messageId, ?_, fun handle found => ?_⟩
  · rw [recent_eq]
    exact asked.append asked_observeForeign
  · rcases brings_perform coherent foreign found with ⟨before, there, same, new⟩
    rcases knows before there with ⟨named, agreed⟩
    refine ⟨same.trans named, fun reply filled success => ?_⟩
    rcases new reply filled with old | shown
    · exact (agreed reply old success).append noticed_observeForeign
    · have code_eq : reply.code = ResultCode.success.number := of_decide_eq_true success
      rw [code_eq, same.trans named] at shown
      refine ⟨List.mem_append_left _ noticed, _, [], (List.append_nil _).symm, recent past,
        messageId, ?_, asked⟩
      rw [recent_eq, shown]

theorem Tracked.perform {round : Round} (tracked : Tracked past round)
    {move : Core.Move Fleet} (foreign : isForeign move = true) :
    Tracked (past ++ Round.observeForeign start round.core move)
      { round with core := Core.perform (Program.setup start) round.core move } := by
  have asks : move.asks = false := by cases move <;> first | rfl | cases foreign
  have calm : ∀ world, move ≠ .disturb world := by
    rintro world rfl
    cases foreign
  have online_eq : (Core.perform (Program.setup start) round.core move).world.online =
      round.core.world.online := Core.online_perform rfl tracked.faced tracked.sparing calm
  have still {lamp : Address} (announced : Announced lamp past) :
      Announced lamp (past ++ Round.observeForeign start round.core move) :=
    announced.append noticed_observeForeign
  have published := Core.publications_le_perform (Program.setup start) round.core move
  exact
    { coherent := (Core.untaken_perform (Program.setup start) round.core asks).coherent
        tracked.coherent
      faced := tracked.faced.perform (Program.setup start) move
      sparing := fun device =>
        (tracked.sparing device).perform tracked.faced (Fleet.spares_online device) move
      announced := fun lamp inside => still (tracked.announced lamp (online_eq ▸ inside))
      relied := by
        rcases round with ⟨core, now, doing, seen⟩
        have relied := tracked.relied
        cases doing with
        | waiting stage =>
            cases stage with
            | awaitingLink => exact online_eq.trans relied
            | announcing lamp wait rest => exact relied.perform tracked.coherent foreign
            | _ => trivial
        | announcing rest => exact List.mem_append_left _ relied
        | reporting rest due => exact fun lamp inside => still (relied lamp inside)
        | checking lamp rest due => exact fun other inside => still (relied other inside)
      seen_le := Nat.le_trans tracked.seen_le published
      unseen := by
        intro running opens
        rw [recent_append past noticed_observeForeign] at opens
        rcases List.mem_append.mp opens with early | now
        · exact Nat.lt_of_lt_of_le (tracked.unseen running early) published
        · exact Nat.lt_of_le_of_lt tracked.seen_le (established_observeForeign now) }

end

end Demo
end DeviceLink
