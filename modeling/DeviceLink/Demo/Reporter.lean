import DeviceLink.Core
import DeviceLink.Fleet.Handler

namespace DeviceLink
namespace Demo

/-!
The reporter of the demonstration.  When the link comes up it announces every lamp and
waits for each answer; then it reports the announced lamps at every tick until the
connection state changes.  Where it waits for several things at once, each of them is a
step of its own, and any one that is ready may be taken.  The order that a program
follows is one choice among these, made where it is driven.  The stage says where the
reporter is in its code, and each step is a partial function that has a result if and
only if it can be taken now.
-/

inductive Stage
  | awaitingLink
  /--
  Waits for the answer to one announcement, with more lamps to announce.  The lamps that
  come later have not been announced on this link yet.
  -/
  | announcing (lamp : Address) (wait : Wait) (rest : List Address)
  /--
  Reports at the next tick.  The tick is due at a fixed moment, however late the one before
  was noticed.
  -/
  | ticking (due : Nat)
  /--
  Waits for the answer to one withdrawal, with more lamps to withdraw.  The wait has a
  deadline of its own besides that of the request.
  -/
  | withdrawing (lamp : Address) (wait : Wait) (graceEnds : Nat) (rest : List Address)
  /--
  An announcement has crashed, and nothing is announced or reported any more.  The reporter
  can still be told to stop, and then withdraws what is online.
  -/
  | silenced
  | stopped
  /--
  A withdrawal has crashed, and the demonstration with it.  Nobody is left to tell the
  client to end.
  -/
  | crashed
  deriving DecidableEq, Repr

structure Reporter where
  core : Core Fleet
  now : Nat
  stage : Stage
  /--
  How many published states of the link the reporter has seen.  Two states that follow each
  other before the reporter looks still count as two.
  -/
  seen : Nat

namespace Reporter

def new (setup : Setup Fleet) (lamps : List Address) : Reporter :=
  ⟨Core.new setup (Fleet.new lamps), 0, .awaitingLink, 0⟩

def fleet (reporter : Reporter) : Fleet := reporter.core.world

def withFleet (reporter : Reporter) (fleet : Fleet) : Reporter :=
  { reporter with core := { reporter.core with world := fleet } }

/--
Announce lamps up to the first announcement that goes out; then the ticks begin.  An
announcement that fails at once is passed over, and its lamp stays offline on this link.
-/
def announce (setup : Setup Fleet) : List Address → Reporter → Reporter
  | [], reporter => { reporter with stage := .ticking reporter.now }
  | lamp :: rest, reporter =>
      match reporter.core.sendSync lamp .online reporter.now setup.options.handshakeTimeout with
      | (.waits wait, core) => { reporter with core := core, stage := .announcing lamp wait rest }
      | (.fails _, core) => announce setup rest { reporter with core := core }
      | (.crashes, core) => { reporter with core := core, stage := .silenced }

/--
The link is up: every published state so far has been seen.  What is published from here on
counts as a change.
-/
def noticeLink? (setup : Setup Fleet) (reporter : Reporter) : Option Reporter :=
  match reporter.stage with
  | .awaitingLink =>
      if reporter.core.link.watched = .connected then
        some (announce setup reporter.fleet.order
          { reporter with seen := reporter.core.link.publications })
      else none
  | _ => none

/--
Drop the handle of a wait that is over.  That takes its entry out of the registry, if it is
still there.
-/
def dropHandle (reporter : Reporter) (wait : Wait) : Reporter :=
  { reporter with
    core := { reporter.core with registry := reporter.core.registry.drop wait.token } }

/--
An announcement is over; the lamp is online if the gateway agreed.  A refusal and a failure
have the same effect: the lamp stays as it was, and the next one is announced.
-/
def noticeAnswer? (setup : Setup Fleet) (reporter : Reporter) : Option Reporter :=
  match reporter.stage with
  | .announcing lamp wait rest =>
      (wait.result? reporter.core.registry reporter.now).map fun result =>
        let dropped := reporter.dropHandle wait
        let marked :=
          match result with
          | .ok reply =>
              if reply.isSuccess then dropped.withFleet (dropped.fleet.setOnline lamp true)
              else dropped
          | .error _ => dropped
        announce setup rest marked
  | _ => none

/--
The event of a lamp that is broken.  It is sent after the properties of the lamp, with the
time as its only datum.
-/
def brokenEvent : String := "ledBroken"

def brokenDetail (time : String) : List Datum := [Datum.ofText "at" time]

/--
Report one lamp, and that it is broken if it is.  Neither frame is awaited, and one that
cannot be sent is lost.
-/
def reportLamp (time : String) (core : Core Fleet) (lamp : Address) : Core Fleet :=
  match core.world.snapshot? lamp with
  | none => core
  | some data =>
      let reported := (core.sendAsync lamp (.properties data)).2
      if reported.world.isBroken lamp then
        (reported.sendAsync lamp (.event brokenEvent (brokenDetail time))).2
      else reported

/--
Report every announced lamp.  Which ones are announced is settled before the first frame,
and their order is the configured one.
-/
def reportAll (time : String) (core : Core Fleet) : Core Fleet :=
  core.world.online.foldl (reportLamp time) core

/--
A tick is due: report, and wait for the next one.  A tick that was noticed late does not
delay the next one.
-/
def tick? (interval : Duration) (time : String) (reporter : Reporter) : Option Reporter :=
  match reporter.stage with
  | .ticking due =>
      if due ≤ reporter.now then
        some { reporter with
          core := reportAll time reporter.core
          stage := .ticking (due + interval.nanoseconds) }
      else none
  | _ => none

/--
The state of the link has changed since it was seen: the gateway has forgotten all lamps.
The reporter starts over and waits for a link, even if the state is the same as before by
now.
-/
def noticeChange? (reporter : Reporter) : Option Reporter :=
  match reporter.stage with
  | .ticking _ =>
      if reporter.core.link.publications ≠ reporter.seen then
        some { reporter.withFleet reporter.fleet.markAllOffline with
          seen := reporter.core.link.publications
          stage := .awaitingLink }
      else none
  | _ => none

/--
How long the withdrawal of one lamp may take.  The whole stop takes at most this long for
every lamp.
-/
def withdrawalGrace : Duration := .ofSeconds 5

/--
Withdraw lamps up to the first withdrawal that goes out.  A withdrawal that fails at once is
passed over.
-/
def withdraw (setup : Setup Fleet) : List Address → Reporter → Reporter
  | [], reporter => { reporter with stage := .stopped }
  | lamp :: rest, reporter =>
      match reporter.core.sendSync lamp .offline reporter.now setup.options.handshakeTimeout with
      | (.waits wait, core) =>
          { reporter with
            core := core
            stage := .withdrawing lamp wait (reporter.now + withdrawalGrace.nanoseconds) rest }
      | (.fails _, core) => withdraw setup rest { reporter with core := core }
      | (.crashes, core) => { reporter with core := core, stage := .crashed }

/--
A request to stop is heard between announcements and reports; online lamps are withdrawn.
Without a link nothing is withdrawn, and the reporter stops at once.
-/
def stop? (setup : Setup Fleet) (reporter : Reporter) : Option Reporter :=
  let withdrawn :=
    if reporter.core.link.phase = .connected then withdraw setup reporter.fleet.online reporter
    else { reporter with stage := .stopped }
  match reporter.stage with
  | .awaitingLink => some withdrawn
  | .ticking _ => some withdrawn
  | .silenced => some withdrawn
  | _ => none

/--
A withdrawal has been answered, has failed, or has taken too long.  The lamp is marked
offline only by an answer, and the next one is withdrawn in any case.
-/
def noticeWithdrawal? (setup : Setup Fleet) (reporter : Reporter) : Option Reporter :=
  match reporter.stage with
  | .withdrawing lamp wait graceEnds rest =>
      match wait.result? reporter.core.registry reporter.now with
      | some (.ok _) =>
          let dropped := reporter.dropHandle wait
          some (withdraw setup rest (dropped.withFleet (dropped.fleet.setOnline lamp false)))
      | some (.error _) => some (withdraw setup rest (reporter.dropHandle wait))
      | none =>
          if graceEnds ≤ reporter.now then some (withdraw setup rest (reporter.dropHandle wait))
          else none
  | _ => none

/--
What the reporter does next by itself, as far as something is ready.  While it reports, a
change of the link goes before a tick; that is the choice of this driver alone.
-/
def next? (setup : Setup Fleet) (interval : Duration) (time : String) (stopping : Bool)
    (reporter : Reporter) : Option Reporter :=
  match reporter.stage with
  | .awaitingLink => if stopping then stop? setup reporter else reporter.noticeLink? setup
  | .announcing _ _ _ => reporter.noticeAnswer? setup
  | .ticking _ =>
      if stopping then stop? setup reporter
      else
        match reporter.noticeChange? with
        | some changed => some changed
        | none => reporter.tick? interval time
  | .withdrawing _ _ _ _ => reporter.noticeWithdrawal? setup
  | .silenced => if stopping then stop? setup reporter else none
  | .stopped => none
  | .crashed => none

end Reporter
end Demo
end DeviceLink
