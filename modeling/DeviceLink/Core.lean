import DeviceLink.Clock
import DeviceLink.Envelope
import DeviceLink.Link
import DeviceLink.Pool
import DeviceLink.Registry
import DeviceLink.Request

namespace DeviceLink

/-!
The core of a link: connection state, correlation registry, message counter and worker
pool, with everything they do to the outside kept in order in a log.  Each operation is
one atomic step.  Operations that run at the same time on different threads are
interleaved as wholes; where an operation gives way in its middle, its halves are
operations of their own.  The frames that outlets have got, the notes of device code and
what observers have been told all stand in the log, in the order in which they came
about, so a theorem about what can be seen from outside is a theorem about the log.
-/

inductive Event
  | frame (outlet : String) (text : String)
  | phase (phase : Phase)
  | reply (messageId : UInt32) (code : Int32)
  | note (entry : Note)
  deriving DecidableEq, Repr

/--
Who is told about replies that nobody waits for.  Setting one up is optional, and both kinds
are told the same things in the same order.
-/
inductive ReplyObserver
  | attentive
  /-- Crashes each time it has been told. -/
  | crashing
  deriving DecidableEq, Repr

/--
What is settled when a link is opened: by the application, and by the machine that it
runs on.
-/
structure Setup (σ : Type) where
  options : Options
  handler : Handler σ
  observesPhases : Bool
  replyObserver : Option ReplyObserver
  clock : Clock := .standard

structure Core (σ : Type) where
  link : Link
  outlets : List Outlet
  registry : Registry
  nextId : UInt32
  pool : Pool σ
  world : σ
  gates : Gates
  /--
  By which deadlines are worked out.  It is copied from the setup, since a request is made
  without one at hand.
  -/
  clock : Clock
  log : List Event

/--
What became of an inbound frame.  Nobody is told about one that was dropped; a call that was
rejected has been answered at once as far as the link allowed, and one that was submitted is
answered when its job ends.
-/
inductive Verdict
  | delivered
  | unmatched
  | submitted
  | rejected (code : ResultCode)
  | dropped
  deriving DecidableEq, Repr

namespace Core

variable {σ : Type}

def new (setup : Setup σ) (world : σ) : Core σ :=
  { link := .new
    outlets := []
    registry := Registry.new setup.options.maxInFlight
    nextId := 1
    pool := Pool.new setup.options
    world := world
    gates := []
    clock := setup.clock
    log := [] }

def record (core : Core σ) (event : Event) : Core σ := { core with log := core.log ++ [event] }

/-! Connection state. -/

/--
The second half of a state change: publish it and tell the observer.  It may come later than
the first, and then publishes a phase that is no longer the current one.
-/
def publish (setup : Setup σ) (core : Core σ) (phase : Phase) : Core σ :=
  let published := { core with link := core.link.publish phase }
  if setup.observesPhases then published.record (.phase phase) else published

/--
Both halves of a state change, one right after the other.  That is what happens when no
other thread comes in between.
-/
def apply (setup : Setup σ) (core : Core σ) (update : Link.Update) : Core σ :=
  match update.publication with
  | some phase => publish setup { core with link := update.link } phase
  | none => { core with link := update.link }

/--
The transport is up and frames go to a new outlet.  A link that has been closed refuses; the
outlet is kept all the same, but no frame will be handed to it.
-/
def establish (setup : Setup σ) (core : Core σ) (outlet : Outlet) : Bool × Core σ :=
  let update := core.link.establish core.outlets.length
  (update.accepted, apply setup { core with outlets := core.outlets ++ [outlet] } update)

def closeLink (setup : Setup σ) (core : Core σ) : Core σ := apply setup core core.link.close

def shutdownLink (setup : Setup σ) (core : Core σ) : Bool × Core σ :=
  let update := core.link.shutdown
  (update.accepted, apply setup core update)

/-! Outbound frames. -/

/--
Hand a frame to an outlet.  What an outlet that records has accepted is outside at once and
stands in the log; the others keep their frames until somebody takes them.
-/
def hand (core : Core σ) (sink : Nat) (text : String) : Except Failure Unit × Core σ :=
  match core.outlets[sink]? with
  | none => (.error .connectionDown, core)
  | some outlet =>
      match outlet.accept text with
      | .error failure => (.error failure, core)
      | .ok after =>
          let handed := { core with outlets := core.outlets.set sink after }
          match outlet with
          | .record name => (.ok (), handed.record (.frame name text))
          | _ => (.ok (), handed)

/--
Send a frame where the link leads now.  Nothing is kept for later: without a link, or with a
full queue, the frame is refused.
-/
def send (core : Core σ) (text : String) : Except Failure Unit × Core σ :=
  match core.link.route with
  | .ok sink => core.hand sink text
  | .error failure => (.error failure, core)

/--
Answer a call.  The answer can fail like any other frame, and then there is no second
attempt.
-/
def respond (core : Core σ) (messageId : UInt32) (code : Int32) (payload : Json.Members) :
    Except Failure Unit × Core σ :=
  core.send (Envelope.response messageId code payload).text

def takeId (core : Core σ) : UInt32 × Core σ :=
  let (messageId, next) := Request.takeId core.nextId
  (messageId, { core with nextId := next })

/--
Check a request as far as that is possible without sending it.  The limits come before the
state of the link, so a request that breaks one is refused alike whether there is a link or
not.
-/
def prepare (core : Core σ) (device : Address) (request : Request) : Except Failure Json.Members :=
  match request.payload device with
  | .error failure => .error failure
  | .ok payload =>
      match core.link.ensureConnected with
      | .error failure => .error failure
      | .ok () => .ok payload

/--
Send a request without waiting; the answer is its message id.  A request that fails its
checks uses up no id; one that cannot be sent has used its own.
-/
def sendAsync (core : Core σ) (device : Address) (request : Request) :
    Except Failure UInt32 × Core σ :=
  match core.prepare device request with
  | .error failure => (.error failure, core)
  | .ok payload =>
      let (messageId, counted) := core.takeId
      match counted.send (request.frame messageId payload) with
      | (.ok (), sent) => (.ok messageId, sent)
      | (.error failure, kept) => (.error failure, kept)

/-- What becomes of a request that awaits its reply when it is made. -/
inductive Opening
  | waits (wait : Wait)
  | fails (failure : Failure)
  /--
  No clock can name its deadline, and the caller crashes.  The core is as before, since the
  deadline is worked out first of all.
  -/
  | crashes
  deriving DecidableEq, Repr

/--
Register a request that has its message id, and send it.  With the registry full there is
neither an entry nor a frame.
-/
def openWait (core : Core σ) (request : Request) (messageId : UInt32) (payload : Json.Members)
    (due : Nat) (budget : Duration) : Opening × Core σ :=
  match core.registry.register messageId with
  | .error failure => (.fails failure, core)
  | .ok (token, registry) =>
      match { core with registry := registry }.send (request.frame messageId payload) with
      | (.ok (), sent) => (.waits ⟨token, due, budget⟩, sent)
      | (.error failure, kept) =>
          (.fails failure, { kept with registry := kept.registry.drop token })

/--
Send a request that awaits its reply until a deadline, which is settled first.
The entry is made before the frame leaves, and goes again when the frame cannot
leave.
-/
def sendSync (core : Core σ) (device : Address) (request : Request) (now : Nat)
    (budget : Duration) : Opening × Core σ :=
  match core.clock.after? now budget with
  | none => (.crashes, core)
  | some due =>
      match core.prepare device request with
      | .error failure => (.fails failure, core)
      | .ok payload =>
          let (messageId, counted) := core.takeId
          counted.openWait request messageId payload due budget

/-! Inbound frames. -/

def submit (core : Core σ) (job : Job) : Except Failure Unit × Core σ :=
  match core.pool.submit job with
  | .ok pool => (.ok (), { core with pool := pool })
  | .error failure => (.error failure, core)

def deliver (core : Core σ) (reply : Reply) : Bool × Core σ :=
  let (delivered, registry) := core.registry.deliver reply
  (delivered, { core with registry := registry })

/--
A reply goes to the request that awaits it, or else to the observer if there is one.  The
observer is told by a job of the pool, and nobody is told when the pool takes no more jobs.
-/
def receiveReply (setup : Setup σ) (core : Core σ) (reply : Reply) : Verdict × Core σ :=
  match core.deliver reply with
  | (true, delivered) => (.delivered, delivered)
  | (false, kept) =>
      if setup.replyObserver.isSome then
        (.unmatched, (kept.submit (.reportReply reply.messageId reply.code)).2)
      else (.unmatched, kept)

/--
Answer a call that is not carried out.  Such an answer has an empty payload, and the verdict
is the same whether or not the answer could be sent.
-/
def reject (core : Core σ) (messageId : UInt32) (code : ResultCode) : Verdict × Core σ :=
  (.rejected code, (core.respond messageId code.number []).2)

/--
A call without an address cannot be answered by anybody and is dropped.  Every other call is
either taken by the pool, which answers it later, or answered here with the code that says
why not.
-/
def receiveCall (core : Core σ) (messageId : UInt32) (method : String) (payload : Json.Value) :
    Verdict × Core σ :=
  match Address.ofPayload? payload with
  | none => (.dropped, core)
  | some device =>
      match DeviceCall.ofPayload method payload with
      | .error _ => core.reject messageId .invalidParameter
      | .ok call =>
          match core.submit (.invoke messageId device call) with
          | (.ok (), submitted) => (.submitted, submitted)
          | (.error failure, kept) => kept.reject messageId failure.code

/--
Route one inbound text frame.  A text that is no envelope is dropped without an answer,
since no id in it can be trusted.
-/
def receive (setup : Setup σ) (core : Core σ) (text : String) : Verdict × Core σ :=
  match Inbound.ofText text with
  | .error _ => (.dropped, core)
  | .ok (.response messageId code payload) => receiveReply setup core ⟨messageId, code, payload⟩
  | .ok (.call messageId method payload) => core.receiveCall messageId method payload

/-! The environment. -/

/--
Open a gate for a number of activities.  Those who wait go first, in the order in which they
came; permits that nobody waits for stay at the gate.
-/
def releaseGate (core : Core σ) (gate : String) (permits : Nat) : Core σ :=
  let (gates, served) := core.gates.release gate permits
  { core with gates := gates, pool := core.pool.awaken served Pool.Stage.resume }

/--
Abandon pool tasks where they stand.  What they have done already remains done, and they
wait at no gate from here on.
-/
def abortTasks (core : Core σ) (ids : List Nat) : Core σ :=
  { core with pool := core.pool.abort ids, gates := ids.foldl Gates.forget core.gates }

/--
Change the newest outlet that holds frames, and say what came of it.  Without such an outlet
nothing changes, and nothing comes of it.
-/
def onNewestQueue (core : Core σ) (change : Outlet → List String × Outlet) :
    List String × Core σ :=
  match core.outlets.reverse.findIdx? Outlet.isQueue with
  | none => ([], core)
  | some back =>
      let index := core.outlets.length - 1 - back
      match core.outlets[index]? with
      | none => ([], core)
      | some outlet =>
          let (taken, after) := change outlet
          (taken, { core with outlets := core.outlets.set index after })

/--
Take frames out of the newest queue, all of them or at most a given number.  The oldest
frames leave first.
-/
def drainQueue (core : Core σ) (most : Option Nat) : List String × Core σ :=
  core.onNewestQueue fun outlet =>
    match outlet with
    | .queue capacity frames isOpen =>
        let count := most.getD frames.length
        (frames.take count, .queue capacity (frames.drop count) isOpen)
    | other => ([], other)

/-- The receiver of the newest queue goes away, with all the frames it holds. -/
def hangUp (core : Core σ) : Core σ :=
  (core.onNewestQueue fun outlet =>
    match outlet with
    | .queue capacity _ _ => ([], .queue capacity [] false)
    | other => ([], other)).2

end Core
end DeviceLink
