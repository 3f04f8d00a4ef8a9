import DeviceLink.Core.Turn
import DeviceLink.Proofs.Registry.Change

namespace DeviceLink

/-!
Synchronous requests in single steps.  Between its start and its result a request takes
several locks, one after the other, and lets go of each before it takes the next, so its
steps may come in any order with the steps of other requests, with inbound frames and
with the two steps of a shutdown.  The stage of a request says how far it has come and
what it holds, and `next` is its next step.
-/

namespace Traffic

/--
What a registration gives to a request.  The message id is for the gateway, and the token is
for the registry.
-/
structure Slip where
  messageId : UInt32
  token : Nat
  deriving DecidableEq

/--
How far a request has come.  Between two stages the request holds no lock, so that anything
can happen.
-/
inductive Stage
  /-- Its deadline and its payload are settled.  Nothing has been looked at yet. -/
  | begun
  /-- It has found the link connected.  The link may have gone by the time of the next step. -/
  | checked
  | numbered (messageId : UInt32)
  | registered (slip : Slip)
  /--
  It has looked up the outlet for its frame.  It will use this outlet even if there is a
  newer one by then.
  -/
  | routed (slip : Slip) (sink : Nat)
  /-- Its frame is out.  From now on the gateway may reply to it. -/
  | waiting (slip : Slip)
  /--
  It has its result, but still its handle.  A reply that comes in now is delivered to a
  handle that nobody looks at any more.
  -/
  | leaving (slip : Slip) (framed : Bool) (result : Except Failure Reply)
  | returned (slip : Option Slip) (framed : Bool) (result : Except Failure Reply)

namespace Stage

/--
What the request has been given, whether or not it still has its handle.  It is nothing as
long as the request has not been registered.
-/
def slip? : Stage → Option Slip
  | registered slip => some slip
  | routed slip _ => some slip
  | waiting slip => some slip
  | leaving slip _ _ => some slip
  | returned slip _ _ => slip
  | _ => none

/--
The handle that the request still has.  A request has one from its registration until it
returns.
-/
def held? : Stage → Option Nat
  | returned _ _ _ => none
  | stage => stage.slip?.map Slip.token

/--
What the request has been given, once its frame is out.  A request whose frame could not
leave never comes to this.
-/
def framed? : Stage → Option Slip
  | waiting slip => some slip
  | leaving slip true _ => some slip
  | returned slip true _ => slip
  | _ => none

def result? : Stage → Option (Except Failure Reply)
  | returned _ _ result => some result
  | _ => none

/--
How many steps there are at most until the request has returned.  A step that finds nothing
to do does not count as one of them.
-/
def remaining : Stage → Nat
  | begun => 7
  | checked => 6
  | numbered _ => 5
  | registered _ => 4
  | routed _ _ => 3
  | waiting _ => 2
  | leaving _ _ _ => 1
  | returned _ _ _ => 0

end Stage

structure Caller where
  request : Request
  payload : Json.Members
  due : Nat
  budget : Duration
  stage : Stage

namespace Caller

variable {σ : Type}

def wait (caller : Caller) (slip : Slip) : Wait := ⟨slip.token, caller.due, caller.budget⟩

/--
The next step of a request, and where it leaves the request.  Each stage is one lock that is
taken and given back.
-/
def next (caller : Caller) (core : Core σ) (now : Nat) : Stage → Core σ × Stage
  | .begun =>
      match core.link.ensureConnected with
      | .ok () => (core, .checked)
      | .error failure => (core, .returned none false (.error failure))
  | .checked => (core.takeId.2, .numbered core.takeId.1)
  | .numbered messageId =>
      match core.registry.register messageId with
      | .ok (token, registry) =>
          ({ core with registry := registry }, .registered ⟨messageId, token⟩)
      | .error failure => (core, .returned none false (.error failure))
  | .registered slip =>
      match core.link.route with
      | .ok sink => (core, .routed slip sink)
      | .error failure => (core, .leaving slip false (.error failure))
  | .routed slip sink =>
      match core.hand sink (caller.request.frame slip.messageId caller.payload) with
      | (.ok (), handed) => (handed, .waiting slip)
      | (.error failure, kept) => (kept, .leaving slip false (.error failure))
  | .waiting slip =>
      match (caller.wait slip).result? core.registry now with
      | some result => (core, .leaving slip true result)
      | none => (core, .waiting slip)
  | .leaving slip framed result =>
      ({ core with registry := core.registry.drop slip.token }, .returned (some slip) framed result)
  | .returned slip framed result => (core, .returned slip framed result)

/--
What the next step does to the registry.  Only a registration and the dropping of a handle
do anything to it.
-/
def shows (core : Core σ) : Stage → List Registry.Occurrence
  | .numbered messageId =>
      match core.registry.register messageId with
      | .ok (token, _) => [.registered token messageId]
      | .error _ => []
  | .leaving slip _ _ => [.dropped slip.token, .removed slip.messageId]
  | _ => []

/--
The message ids that the next step takes from the counter.  It is one at most, and it is
taken before anything is registered.
-/
def takes (core : Core σ) : Stage → List UInt32
  | .checked => [core.takeId.1]
  | _ => []

end Caller

/--
The shutdown of a core takes two steps.  Between the two a request may still find its entry,
though nobody can send any more.
-/
inductive Shutdown
  | ahead
  /-- The link is closed for good.  Nobody finds it connected any more. -/
  | closed
  /--
  Every entry of the registry has been given up.  Whoever waits is told that the core is
  closed.
  -/
  | cleared
  deriving DecidableEq

inductive Move
  | call (device : Address) (request : Request) (budget : Duration)
  /-- One request takes its next step.  Which one is up to the scheduler. -/
  | step (index : Nat)
  | shutdown
  | receive (text : String)
  | advance (span : Duration)
  | establish (outlet : Outlet)
  | closeLink
  /-- Somebody sends a request without waiting for the reply.  It takes a message id as well. -/
  | report (device : Address) (request : Request)
  /-- One step of a pool task.  Device code may run in it. -/
  | work (task : Nat)

/-- The move is a step of this request.  All other moves are those of somebody else. -/
def Move.isStepOf (index : Nat) : Move → Bool
  | step other => other = index
  | _ => false

end Traffic

structure Traffic (σ : Type) where
  core : Core σ
  now : Nat
  callers : List Traffic.Caller
  shutdown : Traffic.Shutdown

namespace Traffic

variable {σ : Type}

def new (setup : Setup σ) (world : σ) : Traffic σ := ⟨Core.new setup world, 0, [], .ahead⟩

/--
A request begins; nothing is heard of one whose deadline no clock can name.  One that cannot
be put into a frame has failed before its first step.
-/
def call (traffic : Traffic σ) (device : Address) (request : Request) (budget : Duration) :
    Traffic σ :=
  match traffic.core.clock.after? traffic.now budget with
  | none => traffic
  | some due =>
      let caller : Caller :=
        match request.payload device with
        | .ok payload => ⟨request, payload, due, budget, .begun⟩
        | .error failure => ⟨request, [], due, budget, .returned none false (.error failure)⟩
      { traffic with callers := traffic.callers ++ [caller] }

def step (traffic : Traffic σ) (index : Nat) : Traffic σ :=
  match traffic.callers[index]? with
  | none => traffic
  | some caller =>
      let (core, stage) := caller.next traffic.core traffic.now caller.stage
      { traffic with
        core := core
        callers := traffic.callers.set index { caller with stage := stage } }

def perform (setup : Setup σ) (traffic : Traffic σ) (move : Move) : Traffic σ :=
  match move with
  | .call device request budget => traffic.call device request budget
  | .step index => traffic.step index
  | .shutdown =>
      match traffic.shutdown with
      | .ahead => { traffic with core := (traffic.core.shutdownLink setup).2, shutdown := .closed }
      | .closed =>
          { traffic with
            core := { traffic.core with registry := traffic.core.registry.clear.2 }
            shutdown := .cleared }
      | .cleared => traffic
  | .receive text => { traffic with core := (traffic.core.receive setup text).2 }
  | .advance span => { traffic with now := traffic.now + span.nanoseconds }
  | .establish outlet => { traffic with core := (traffic.core.establish setup outlet).2 }
  | .closeLink => { traffic with core := traffic.core.closeLink setup }
  | .report device request => { traffic with core := (traffic.core.sendAsync device request).2 }
  | .work task => { traffic with core := traffic.core.step setup task }

def run (setup : Setup σ) (traffic : Traffic σ) (moves : List Move) : Traffic σ :=
  moves.foldl (perform setup) traffic

/--
What a move does to the registry.  Inbound responses belong to it, whether or not anybody
awaits them.
-/
def observe (traffic : Traffic σ) (move : Move) : List Registry.Occurrence :=
  match move with
  | .step index =>
      match traffic.callers[index]? with
      | some caller => Caller.shows traffic.core caller.stage
      | none => []
  | .shutdown =>
      match traffic.shutdown with
      | .closed => [.cleared]
      | _ => []
  | .receive text =>
      match Inbound.ofText text with
      | .ok (.response messageId code payload) => [.replied ⟨messageId, code, payload⟩]
      | _ => []
  | _ => []

def history (setup : Setup σ) : Traffic σ → List Move → List Registry.Occurrence :=
  Run.history (perform setup) observe

/--
The message ids that a move takes from the counter.  They are counted for requests of both
kinds.
-/
def issues (traffic : Traffic σ) (move : Move) : List UInt32 :=
  match move with
  | .step index =>
      match traffic.callers[index]? with
      | some caller => Caller.takes traffic.core caller.stage
      | none => []
  | .report device request =>
      match traffic.core.prepare device request with
      | .ok _ => [traffic.core.takeId.1]
      | .error _ => []
  | _ => []

def issued (setup : Setup σ) : Traffic σ → List Move → List UInt32 :=
  Run.history (perform setup) issues

end Traffic
end DeviceLink
