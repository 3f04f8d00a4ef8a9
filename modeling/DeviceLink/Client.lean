import DeviceLink.Clock
import DeviceLink.Plan
import DeviceLink.Session

namespace DeviceLink

/-!
The life of a client: it connects, serves the link while it is up, pauses, and connects
again.  The pause grows with the failures in a row; a link that came up starts the count
again.  The client ends when it is told to, when its core is shut down, or when it has
failed too often, and its core is closed then.  It crashes if a link comes up and the
time that it may be silent is too long for a span of time.  Whatever the outside does is
a function of its own here, so that runs may interleave them with moves of the core.
`react` lets it do the next thing that is due, and `settle` repeats that until nothing
is.
-/

namespace Client

/--
What a client is doing.  The moments in it are counted from the start of the program, like
all time.
-/
inductive Stage
  | connecting (deadline : Nat)
  /--
  Serves a link that has been silent since some time.  Beside it runs a pinger with its first
  ping due at some time; without one it has crashed.
  -/
  | serving (quietSince : Nat) (firstPing : Option Nat)
  | pausing (resumeAt : Nat)
  /--
  Waits for the core to shut down, to end with this failure.  The failure has been settled
  before, so nothing that happens meanwhile changes what the client ends with.
  -/
  | closing (failure : Failure)
  | finished (failure : Failure)
  | crashed
  deriving DecidableEq, Repr

end Client

structure Client (σ : Type) where
  session : Session σ
  /-- The attempts that have failed in a row since the last pause of a fresh start. -/
  attempt : UInt32
  cancelled : Bool
  stage : Client.Stage

namespace Client

variable {σ : Type}

/--
Shut the core down and end with a failure once it is down.  A core that has been shut down
before is over at once, and so is one whose tasks have all ended.
-/
def shutDown (setup : Setup σ) (client : Client σ) (failure : Failure) : Client σ :=
  let (isOver, session) := client.session.shutdownCore setup none
  { client with
    session := session
    stage := if isOver then .finished failure else .closing failure }

/--
Begin an attempt, unless the client has been told to end.  Only here is it noticed that
somebody else has shut the core down meanwhile, or that a cancelled client is to go on.
-/
def attemptAgain (plan : Plan) (setup : Setup σ) (client : Client σ) : Client σ :=
  if client.cancelled || client.session.phase = .closed then client.shutDown setup .shutdown
  else
    { client with
      stage := .connecting (client.session.now + plan.connectTimeout.nanoseconds) }

def start (plan : Plan) (setup : Setup σ) (session : Session σ) (cancelled : Bool) : Client σ :=
  attemptAgain plan setup ⟨session, 0, cancelled, .connecting 0⟩

/--
After an attempt has failed or a link has ended: give up, or pause.  A core that is shut
down leaves nothing to reconnect for.  Otherwise the failures in a row decide, and the pause
begins now.
-/
def afterAttempt (plan : Plan) (setup : Setup σ) (client : Client σ) : Client σ :=
  if client.session.phase = .closed then { client with stage := .finished .shutdown }
  else if plan.backoff.isExhausted client.attempt then
    client.shutDown setup (.reconnectExhausted client.attempt)
  else
    { client with
      stage := .pausing (client.session.now + (plan.backoff.delay client.attempt).nanoseconds) }

/--
The gateway could not be reached or refused the link.  A client that is not connecting has
no attempt that could fail.
-/
def attemptFailed (plan : Plan) (setup : Setup σ) (client : Client σ) : Client σ :=
  match client.stage with
  | .connecting _ => afterAttempt plan setup client
  | _ => client

/--
Serve a link that has come up, if it is known how long it may be silent.  That time is three
heartbeats, and when they are more than a span of time can hold the client crashes before it
serves anything.  The first ping is due after one heartbeat, if the clock can name that
moment.
-/
def serve (plan : Plan) (client : Client σ) : Client σ :=
  if plan.idleLimit.Fits then
    { client with
      stage := .serving client.session.now (client.session.due? plan.heartbeat) }
  else { client with stage := .crashed }

/--
The transport is up.  Frames queue up to the outbound capacity until it takes them.  A core
that has been shut down meanwhile does not accept the new outlet, and then the attempt is
over.
-/
def linkUp (plan : Plan) (setup : Setup σ) (client : Client σ) : Client σ :=
  match client.stage with
  | .connecting _ =>
      let (accepted, core) :=
        client.session.core.establish setup (.queue plan.outboundCapacity [] true)
      let established := { client with session := { client.session with core := core } }
      if accepted then serve plan established else afterAttempt plan setup established
  | _ => client

/--
The transport is gone; the next attempt is the first one again.  The core is told first, so
no frame is handed to an outlet that nobody empties.
-/
def linkDown (plan : Plan) (setup : Setup σ) (client : Client σ) : Client σ :=
  match client.stage with
  | .serving _ _ =>
      let closed := client.session.core.closeLink setup
      afterAttempt plan setup
        { client with session := { client.session with core := closed }, attempt := 0 }
  | _ => client

/--
Any traffic keeps a link alive.  The silence is counted from here again; when the first ping
is due does not change.
-/
def hear (client : Client σ) : Client σ :=
  match client.stage with
  | .serving _ firstPing => { client with stage := .serving client.session.now firstPing }
  | _ => client

/--
A text frame from the gateway; one that is too long is dropped unread.  Even a frame that is
dropped counts as traffic.
-/
def receiveText (plan : Plan) (setup : Setup σ) (client : Client σ) (text : String) : Client σ :=
  match client.stage with
  | .serving _ _ =>
      let heard := client.hear
      if plan.maxInboundBytes < text.utf8ByteSize then heard
      else
        let core := (heard.session.core.receive setup text).2
        { heard with session := { heard.session with core := core } }
  | _ => client

/--
Whether a client can be told to end.  Once it waits for its core, has ended or has crashed,
telling it changes nothing.
-/
def isRunning (client : Client σ) : Bool :=
  match client.stage with
  | .connecting _ => true
  | .serving _ _ => true
  | .pausing _ => true
  | .closing _ => false
  | .finished _ => false
  | .crashed => false

/--
A client that has been told to end does so.  Telling and heeding are two steps, since the
outcome of an attempt may come in between.
-/
def heed (setup : Setup σ) (client : Client σ) : Client σ :=
  if client.cancelled && client.isRunning then client.shutDown setup .shutdown else client

/-- Tell the client to end.  It is told and heeds in one step, as when nothing else is going on. -/
def cancel (setup : Setup σ) (client : Client σ) : Client σ :=
  heed setup { client with cancelled := true }

/--
What a client that has not ended yet ends with when its core has come to its end.  One that
was already closing keeps its own failure; the others have been shut down by somebody else.
-/
def Stage.ending? : Stage → Option Failure
  | connecting _ => some .shutdown
  | serving _ _ => some .shutdown
  | pausing _ => some .shutdown
  | closing failure => some failure
  | finished _ => none
  | crashed => none

/--
What happens because the core has come to its end.  The client ends with the failure that
was settled, and nothing happens if the core goes on.
-/
def noticeEnd (client : Client σ) : Client σ :=
  if client.session.ended then
    match client.stage.ending? with
    | some failure => { client with stage := .finished failure }
    | none => client
  else client

/--
What happens because time has passed.  An attempt runs into its deadline, a silent link is
given up, or a pause is over; the other stages wait for nothing.
-/
def passTime (plan : Plan) (setup : Setup σ) (client : Client σ) : Client σ :=
  match client.stage with
  | .connecting deadline =>
      if deadline ≤ client.session.now then afterAttempt plan setup client else client
  | .serving quietSince _ =>
      if quietSince + plan.idleLimit.nanoseconds ≤ client.session.now then
        linkDown plan setup client
      else client
  | .pausing resumeAt =>
      if resumeAt ≤ client.session.now then
        attemptAgain plan setup { client with attempt := client.attempt + 1 }
      else client
  | _ => client

/--
What happens without anybody doing anything.  The end of the core is noticed before any
deadline of the client.
-/
def react (plan : Plan) (setup : Setup σ) (client : Client σ) : Client σ :=
  if client.session.ended then client.noticeEnd else client.passTime plan setup

/--
Let everything happen that can happen without the outside.  The core and its tasks settle
first, and the client looks at what they have left.
-/
def settle (plan : Plan) (setup : Setup σ) (client : Client σ) : Client σ × Session.Finished :=
  let (session, finished) := client.session.settle setup
  (react plan setup { client with session := session }, finished)

/--
The failure a client has ended with.  A client never ends without one: a regular shutdown
counts as a failure too.
-/
def result? (client : Client σ) : Option Failure :=
  match client.stage with
  | .finished failure => some failure
  | _ => none

/-! An environment without a gateway. -/

/--
One thing that happens to a client whose every attempt fails, up to a time.  It is an
attempt that fails or a pause that ends, with the time moved on to the end of the pause.
-/
def failOnce? (plan : Plan) (setup : Setup σ) (limit : Nat) (client : Client σ) :
    Option (Client σ) :=
  match client.stage with
  | .connecting _ => some (attemptFailed plan setup client)
  | .pausing resumeAt =>
      if resumeAt ≤ limit then
        some (react plan setup
          { client with session := { client.session with now := max client.session.now resumeAt } })
      else none
  | _ => none

/--
Let attempts fail up to a time, at most `count` steps of them.  The count only makes the
recursion end; with enough steps the client has reached the time or its own end.
-/
def failFor (plan : Plan) (setup : Setup σ) (limit : Nat) : Nat → Client σ → Client σ
  | 0, client => client
  | count + 1, client =>
      match failOnce? plan setup limit client with
      | some next => failFor plan setup limit count next
      | none => client

end Client
end DeviceLink
