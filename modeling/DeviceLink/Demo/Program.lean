import DeviceLink.Client
import DeviceLink.Demo.Reporter
import DeviceLink.Demo.Settings

namespace DeviceLink
namespace Demo

/-!
The demonstration as a whole: a client that keeps the link, and a reporter that speaks
for a fleet of lamps over the same core.  An interruption first lets the reporter
withdraw its lamps and then ends the client, and the exit code says how the client has
ended.  `settle` is the only place where the two take turns, the client first and then
the reporter, so each round of the program is a fixed sequence of their steps.  The
command line around it has no part in what is decided here.
-/

structure Program where
  client : Client Fleet
  stage : Stage
  seen : Nat
  /--
  Whether an interruption has been asked for.  The reporter may still be in the middle of an
  announcement then, and hears of it afterwards.
  -/
  stopping : Bool

namespace Program

/--
Lamps serve the calls; states and replies are of interest to nobody but a log.  Both
observers are attentive here, so that a run shows everything that is published.
-/
def setup (start : Start) : Setup Fleet :=
  { options := start.plan.options
    handler := Fleet.handler
    observesPhases := true
    replyObserver := some .attentive }

def new (start : Start) : Program :=
  let session := Session.new (setup start) (Fleet.new start.settings.lamps)
  { client := Client.start start.plan (setup start) session false
    stage := .awaitingLink
    seen := 0
    stopping := false }

def core (program : Program) : Core Fleet := program.client.session.core

def reporter (program : Program) : Reporter :=
  ⟨program.core, program.client.session.now, program.stage, program.seen⟩

/--
Take over what the reporter did.  Reporter and client work on the same core, so its core
becomes that of the client.
-/
def withReporter (program : Program) (reporter : Reporter) : Program :=
  { program with
    client :=
      { program.client with session := { program.client.session with core := reporter.core } }
    stage := reporter.stage
    seen := reporter.seen }

/--
Let the reporter do at most `count` things.  The count makes the recursion end; the reporter
may run out of things to do before.
-/
def reportFor (start : Start) (time : String) : Nat → Program → Program
  | 0, program => program
  | count + 1, program =>
      match program.reporter.next? (setup start) start.settings.reportInterval time
          program.stopping with
      | some reporter => reportFor start time count (program.withReporter reporter)
      | none => program

/--
Once the reporter has stopped, nothing keeps the client.  The client is told to end and does
so in its own time.
-/
def endClient (start : Start) (program : Program) : Program :=
  if program.stage = .stopped && program.client.isRunning then
    { program with client := program.client.cancel (setup start) }
  else program

/--
How many things the reporter may do between two inputs.  Each lamp is announced and
withdrawn at most once without an input, and a few things are done besides.
-/
def reportBound (start : Start) : Nat := 2 * start.settings.lamps.length + 4

/--
Let everything happen that can happen without the outside.  The client settles first, so
that the reporter sees the state of the link as it is by then.
-/
def settle (start : Start) (time : String) (program : Program) : Program :=
  let served := { program with client := (program.client.settle start.plan (setup start)).1 }
  let reported := endClient start (reportFor start time (reportBound start) served)
  { reported with client := (reported.client.settle start.plan (setup start)).1 }

def interrupt (program : Program) : Program := { program with stopping := true }

/--
The exit code of a client that has come to its end.  A regular shutdown is the only end that
counts as success.
-/
def clientCode? (client : Client Fleet) : Option UInt32 :=
  match client.stage with
  | .finished failure => some (if failure = .shutdown then 0 else StartFault.errorCode)
  | .crashed => some StartFault.errorCode
  | _ => none

/--
The exit code, once an interruption has been carried out.  As long as the reporter goes on
there is none, whatever has become of the client.
-/
def exitCode? (program : Program) : Option UInt32 :=
  match program.stage with
  | .stopped => clientCode? program.client
  | .crashed => some StartFault.crashCode
  | _ => none

/-- Let the link come up.  The reporter hears of it when everything settles. -/
def linkUp (start : Start) (program : Program) : Program :=
  { program with client := program.client.linkUp start.plan (setup start) }

/-- Let the link be lost.  The lamps count as announced until the reporter has noticed. -/
def linkDown (start : Start) (program : Program) : Program :=
  { program with client := program.client.linkDown start.plan (setup start) }

def receiveText (start : Start) (program : Program) (text : String) : Program :=
  { program with client := program.client.receiveText start.plan (setup start) text }

/--
Let time pass.  Nothing happens in the meantime; whatever has become due happens when
everything settles.
-/
def advance (program : Program) (span : Duration) : Program :=
  { program with
    client := { program.client with session := program.client.session.advance span } }

/--
Take the frames that are on their way out.  They leave the newest queue in the order in
which they were sent.
-/
def takeFrames (program : Program) : List String × Program :=
  let (frames, core) := program.core.drainQueue none
  (frames,
    { program with
      client := { program.client with session := { program.client.session with core := core } } })

/--
Let attempts to connect fail for a while.  The pauses between them pass as well, and both
stop at the end of the span.
-/
def failFor (start : Start) (span : Duration) (count : Nat) (program : Program) : Program :=
  let session := program.client.session
  { program with
    client := Client.failFor start.plan (setup start) (session.now + span.nanoseconds) count
      program.client }

end Program
end Demo
end DeviceLink
