import DeviceLink.Demo.Program
import DeviceLink.Proofs.Core.Requests
import DeviceLink.Proofs.Core.Run

namespace DeviceLink
namespace Demo

/-!
The reporter in single steps.  Each request that it makes is a step of its own, and so
is each thing that it waits for; between two steps the transport, the gateway, the clock
and the tasks of the pool may do what they like.  What the reporter does without waiting
is made of such steps.  `Round` is the reporter together with what it is doing, and
`Reaches` ties the steps to the functions that the program runs: whatever one of these
does in one go, a list of own moves does as well.
-/

/--
What the reporter is about to do.  Each case but the waiting is one in which it can go on at
once.
-/
inductive Doing
  | waiting (stage : Stage)
  /-- Goes on to announce lamps.  The first of them is announced next. -/
  | announcing (rest : List Address)
  | reporting (rest : List Address) (due : Nat)
  /--
  A lamp has been reported and may be broken.  That is looked up only now, so it may have
  changed since.
  -/
  | checking (lamp : Address) (rest : List Address) (due : Nat)

structure Round where
  core : Core Fleet
  now : Nat
  doing : Doing
  seen : Nat

/--
A move of the core that is left to others than the reporter.  The excluded ones are those
that the reporter makes itself.
-/
def isForeign : Core.Move Fleet → Bool
  | .report _ _ => false
  | .request _ _ _ _ => false
  | .forget _ => false
  | .disturb _ => false
  | _ => true

/--
What can be seen of the reporter and the gateway.  Everything else that happens does not
matter to whether a lamp has been announced.
-/
inductive Sight
  /-- A connection has come up.  There was none before. -/
  | established
  /--
  A connection has come up in place of one that was still there.  Nothing is published about
  that.
  -/
  | replaced
  /--
  The reporter has found the link connected.  What it knew of lamps before is no longer of
  use.
  -/
  | noticed
  /-- An announcement is out.  It has a message id by which its answer is told. -/
  | asked (lamp : Address) (messageId : UInt32)
  /--
  An answer has been handed to whoever awaited it.  The code tells whether the gateway
  agrees.
  -/
  | answered (messageId : UInt32) (code : Int32)
  /--
  The properties or the event of a lamp have been put to the outlet.  Whether the outlet has
  taken them does not matter here.
  -/
  | reported (lamp : Address)
  deriving DecidableEq

namespace Round

inductive Move
  | foreign (move : { move : Core.Move Fleet // isForeign move = true })
  | advance (span : Duration)
  | noticeLink
  | noticeAnswer
  | noticeChange
  | noticeWithdrawal
  | tick
  | stop
  | goOn (time : String)

def Move.isOwn : Move → Bool
  | foreign _ => false
  | advance _ => false
  | _ => true

def ofReporter (reporter : Reporter) : Round :=
  ⟨reporter.core, reporter.now, .waiting reporter.stage, reporter.seen⟩

def reporter (round : Round) (stage : Stage) : Reporter :=
  ⟨round.core, round.now, stage, round.seen⟩

/--
Take a step of the reporter as a whole, if it waits and something is ready.  Otherwise
nothing happens.
-/
def whole (round : Round) (step : Reporter → Option Reporter) : Round :=
  match round.doing with
  | .waiting stage => ((step (round.reporter stage)).map ofReporter).getD round
  | _ => round

def noticeLink (round : Round) : Round :=
  match round.doing with
  | .waiting .awaitingLink =>
      if round.core.link.watched = .connected then
        { round with
          doing := .announcing round.core.world.order
          seen := round.core.link.publications }
      else round
  | _ => round

/--
The core when the wait for an answer is over.  The lamp is online if the answer was a
success.
-/
def settleAnswer (core : Core Fleet) (lamp : Address) (wait : Wait)
    (result : Except Failure Reply) : Core Fleet :=
  let dropped := { core with registry := core.registry.drop wait.token }
  match result with
  | .ok reply =>
      if reply.isSuccess then { dropped with world := dropped.world.setOnline lamp true }
      else dropped
  | .error _ => dropped

def noticeAnswer (round : Round) : Round :=
  match round.doing with
  | .waiting (.announcing lamp wait rest) =>
      match wait.result? round.core.registry round.now with
      | some result =>
          { round with
            core := settleAnswer round.core lamp wait result
            doing := .announcing rest }
      | none => round
  | _ => round

def tick (interval : Duration) (round : Round) : Round :=
  match round.doing with
  | .waiting (.ticking due) =>
      if due ≤ round.now then
        { round with doing := .reporting round.core.world.online (due + interval.nanoseconds) }
      else round
  | _ => round

/--
Announce one lamp.  The reporter waits for the answer, or goes on to the next lamp if there
can be none.
-/
def ask (setup : Setup Fleet) (round : Round) (lamp : Address) (rest : List Address) : Round :=
  match round.core.sendSync lamp .online round.now setup.options.handshakeTimeout with
  | (.waits wait, core) =>
      { round with core := core, doing := .waiting (.announcing lamp wait rest) }
  | (.fails _, core) => { round with core := core, doing := .announcing rest }
  | (.crashes, core) => { round with core := core, doing := .waiting .silenced }

/-- The report of a broken lamp.  It is an event that names the time. -/
def broken (time : String) : Request :=
  .event Reporter.brokenEvent (Reporter.brokenDetail time)

def goOn (setup : Setup Fleet) (time : String) (round : Round) : Round :=
  match round.doing with
  | .waiting _ => round
  | .announcing [] => { round with doing := .waiting (.ticking round.now) }
  | .announcing (lamp :: rest) => round.ask setup lamp rest
  | .reporting [] due => { round with doing := .waiting (.ticking due) }
  | .reporting (lamp :: rest) due =>
      match round.core.world.snapshot? lamp with
      | none => { round with doing := .reporting rest due }
      | some data =>
          { round with
            core := (round.core.sendAsync lamp (.properties data)).2
            doing := .checking lamp rest due }
  | .checking lamp rest due =>
      if round.core.world.isBroken lamp then
        { round with
          core := (round.core.sendAsync lamp (broken time)).2
          doing := .reporting rest due }
      else { round with doing := .reporting rest due }

section

variable (start : Start)

def new : Round := ofReporter (Reporter.new (Program.setup start) start.settings.lamps)

def perform (round : Round) : Move → Round
  | .foreign move => { round with core := Core.perform (Program.setup start) round.core move }
  | .advance span => { round with now := round.now + span.nanoseconds }
  | .noticeLink => round.noticeLink
  | .noticeAnswer => round.noticeAnswer
  | .noticeChange => round.whole Reporter.noticeChange?
  | .noticeWithdrawal => round.whole (Reporter.noticeWithdrawal? (Program.setup start))
  | .tick => round.tick start.settings.reportInterval
  | .stop => round.whole (Reporter.stop? (Program.setup start))
  | .goOn time => round.goOn (Program.setup start) time

def run (round : Round) (moves : List Move) : Round := moves.foldl (perform start) round

/-- What can be seen of a move that others make.  Only connections and replies are seen. -/
def observeForeign (core : Core Fleet) : Core.Move Fleet → List Sight
  | .establish _ =>
      match core.link.phase with
      | .closed => []
      | .connected => [.replaced]
      | _ => [.established]
  | .receive text =>
      match Inbound.ofText text with
      | .ok (.response messageId code _) =>
          if (Core.receive (Program.setup start) core text).1 = .delivered then
            [.answered messageId code]
          else []
      | _ => []
  | _ => []

/-- What can be seen of a report.  There is nothing to see if it could not be sent. -/
def observeReport (core : Core Fleet) (lamp : Address) (request : Request) : List Sight :=
  (core.reportIds lamp request).map fun _ => .reported lamp

def observeGoOn (time : String) (round : Round) : List Sight :=
  match round.doing with
  | .announcing (lamp :: _) =>
      match (round.core.sendSync lamp .online round.now
          (Program.setup start).options.handshakeTimeout).1 with
      | .waits _ => [.asked lamp round.core.takeId.1]
      | _ => []
  | .reporting (lamp :: _) _ =>
      match round.core.world.snapshot? lamp with
      | none => []
      | some data => observeReport round.core lamp (.properties data)
  | .checking lamp _ _ =>
      if round.core.world.isBroken lamp then observeReport round.core lamp (broken time) else []
  | _ => []

def observe (round : Round) : Move → List Sight
  | .foreign move => observeForeign start round.core move
  | .noticeLink =>
      match round.doing with
      | .waiting .awaitingLink => if round.core.link.watched = .connected then [.noticed] else []
      | _ => []
  | .goOn time => observeGoOn start time round
  | _ => []

def history : Round → List Move → List Sight := Run.history (perform start) (observe start)

end

/-! ## The reporter as a whole -/

/--
The reporter comes from one point to another by steps of its own.  Others may do nothing in
between.
-/
def Reaches (start : Start) (round next : Round) : Prop :=
  ∃ moves : List Move, (∀ move ∈ moves, move.isOwn = true) ∧ run start round moves = next

section

variable {start : Start} {round next last : Round}

theorem Reaches.refl (round : Round) : Reaches start round round := ⟨[], nofun, rfl⟩

theorem Reaches.step (move : Move) (own : move.isOwn = true)
    (rest : Reaches start (perform start round move) last) : Reaches start round last := by
  rcases rest with ⟨moves, owns, rfl⟩
  exact ⟨move :: moves, List.forall_mem_cons.mpr ⟨own, owns⟩, rfl⟩

/-- All lamps that are left are reported.  After that the reporter waits for the next tick. -/
theorem reaches_reported (time : String) (lamps : List Address) (core : Core Fleet)
    (now due seen : Nat) :
    Reaches start ⟨core, now, .reporting lamps due, seen⟩
      ⟨lamps.foldl (Reporter.reportLamp time) core, now, .waiting (.ticking due), seen⟩ := by
  induction lamps generalizing core with
  | nil => exact .step (.goOn time) rfl (.refl _)
  | cons lamp rest ih =>
      rw [List.foldl_cons]
      refine .step (.goOn time) rfl ?_
      cases found : core.world.snapshot? lamp with
      | none =>
          simp only [perform, goOn, found, Reporter.reportLamp]
          exact ih core
      | some data =>
          simp only [perform, goOn, found, Reporter.reportLamp]
          generalize (core.sendAsync lamp (.properties data)).2 = reported
          refine .step (.goOn time) rfl ?_
          cases state : reported.world.isBroken lamp with
          | false =>
              simp only [perform, goOn, state, Bool.false_eq_true, if_false]
              exact ih reported
          | true =>
              simp only [perform, goOn, state, if_true]
              exact ih _

/--
Lamps are announced up to the first announcement that has to be answered.  If there is none,
the ticks begin.
-/
theorem reaches_announced (time : String) (lamps : List Address) (core : Core Fleet)
    (now seen : Nat) (stage : Stage) :
    Reaches start ⟨core, now, .announcing lamps, seen⟩
      (ofReporter (Reporter.announce (Program.setup start) lamps ⟨core, now, stage, seen⟩)) := by
  induction lamps generalizing core with
  | nil => exact .step (.goOn time) rfl (.refl _)
  | cons lamp rest ih =>
      refine .step (.goOn time) rfl ?_
      rcases sent : core.sendSync lamp .online now
        (Program.setup start).options.handshakeTimeout with ⟨asked, next⟩
      cases asked with
      | fails failure =>
          simp only [perform, goOn, ask, Reporter.announce, sent]
          exact ih next
      | waits | crashes =>
          simp only [perform, goOn, ask, Reporter.announce, sent]
          exact .refl _

theorem reaches_whole (move : Move) {step : Reporter → Option Reporter} {before after : Reporter}
    (own : move.isOwn = true) (ready : step before = some after)
    (whole_eq : perform start (ofReporter before) move = (ofReporter before).whole step) :
    Reaches start (ofReporter before) (ofReporter after) := by
  refine .step move own ?_
  have next_eq : (ofReporter before).whole step = ofReporter after := by
    have ready_here : step ((ofReporter before).reporter before.stage) = some after := ready
    simp only [whole, ofReporter]
    rw [ofReporter] at ready_here
    simp only [ready_here, Option.map_some, Option.getD_some]
    rfl
  rw [whole_eq, next_eq]
  exact .refl _

/--
Whatever the reporter does next as a whole is made of its single steps.  So what is proved
about single steps holds of the program that runs.
-/
theorem reaches_next {time : String} {stopping : Bool} {before after : Reporter}
    (next : before.next? (Program.setup start) start.settings.reportInterval time stopping =
      some after) : Reaches start (ofReporter before) (ofReporter after) := by
  rcases before with ⟨core, now, stage, seen⟩
  have stops {stage : Stage}
      (ready : Reporter.stop? (Program.setup start) ⟨core, now, stage, seen⟩ = some after) :
      Reaches start ⟨core, now, .waiting stage, seen⟩ (ofReporter after) :=
    reaches_whole .stop rfl ready rfl
  cases stage with
  | awaitingLink =>
      simp only [Reporter.next?] at next
      split at next
      · exact stops next
      · simp only [Reporter.noticeLink?] at next
        split at next
        · rename_i connected
          cases next
          have noticed : perform start (ofReporter ⟨core, now, .awaitingLink, seen⟩) .noticeLink =
              ⟨core, now, .announcing core.world.order, core.link.publications⟩ := if_pos connected
          refine .step .noticeLink rfl ?_
          rw [noticed]
          exact reaches_announced time _ _ _ _ .awaitingLink
        · cases next
  | announcing lamp wait rest =>
      rcases Option.map_eq_some_iff.mp next with ⟨result, ready, rfl⟩
      have answered : perform start (ofReporter ⟨core, now, .announcing lamp wait rest, seen⟩)
          .noticeAnswer = ⟨settleAnswer core lamp wait result, now, .announcing rest, seen⟩ := by
        simp only [perform, noticeAnswer, ofReporter, ready]
      have announced := @reaches_announced start time rest (settleAnswer core lamp wait result) now
        seen (.announcing lamp wait rest)
      refine .step .noticeAnswer rfl ?_
      rw [answered]
      cases result with
      | error failure => exact announced
      | ok reply =>
          cases success : reply.isSuccess with
          | false =>
              simp only [settleAnswer, success, Bool.false_eq_true, if_false] at announced ⊢
              exact announced
          | true =>
              simp only [settleAnswer, success, if_true] at announced ⊢
              exact announced
  | ticking due =>
      simp only [Reporter.next?] at next
      split at next
      · exact stops next
      · split at next
        · rename_i changed ready
          cases next
          exact reaches_whole .noticeChange rfl ready rfl
        · simp only [Reporter.tick?] at next
          split at next
          · rename_i ready
            cases next
            let next := due + start.settings.reportInterval.nanoseconds
            have ticked : perform start (ofReporter ⟨core, now, .ticking due, seen⟩) .tick =
                ⟨core, now, .reporting core.world.online next, seen⟩ := if_pos ready
            refine .step .tick rfl ?_
            rw [ticked]
            exact reaches_reported time _ _ _ _ _
          · cases next
  | withdrawing lamp wait graceEnds rest => exact reaches_whole .noticeWithdrawal rfl next rfl
  | silenced =>
      simp only [Reporter.next?] at next
      split at next
      · exact stops next
      · cases next
  | stopped | crashed => cases next

end

end Round
end Demo
end DeviceLink
