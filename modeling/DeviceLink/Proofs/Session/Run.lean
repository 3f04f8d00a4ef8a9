import DeviceLink.Session
import DeviceLink.Proofs.Run

namespace DeviceLink

/-!
Runs of a session.  A run is a list of moves, each of which is one operation of those
who use the session, of the transport or of the clock, one step of a pool task, or one
look of somebody who waits, so any order of all these is a run.

The history of a run tells what matters to synchronous requests: when one was opened,
which replies came in, when the core was shut down, and how the request ended.
-/

namespace Session

variable {σ : Type}

/--
A synchronous request whose frame has gone out.  It is known by its tag to whoever made it,
and by its message id to the gateway.
-/
structure Call where
  tag : Tag
  messageId : UInt32
  /-- When it was made.  Its deadline is counted from this time. -/
  since : Nat
  wait : Wait

inductive Occurrence
  /-- A message id was taken from the counter.  Requests of both kinds take them. -/
  | issued (messageId : UInt32)
  | opened (call : Call)
  /--
  A reply came in, whether or not anybody awaits it.  Who gets it depends on what has
  occurred before.
  -/
  | replied (reply : Reply)
  | shut
  | resolved (tag : Tag) (now : Nat) (result : Except Failure Reply)
  | cancelled (tag : Tag)

inductive Move (σ : Type)
  | establish (outlet : Outlet)
  | closeLink
  | report (device : Address) (request : Request)
  | receive (text : String)
  | request (label : String) (device : Address) (request : Request) (budget : Duration)
  | waitConnected (label : String) (budget : Duration)
  | awaitEnd (label : String)
  | shutdown (label : String)
  | shutdownPool (label : String) (grace : Duration)
  | abort (label : String)
  | advance (span : Duration)
  | openGate (gate : String) (permits : Nat)
  | drain (most : Option Nat)
  | hangUp
  /-- Something outside changes what device code works on.  The link has no part in it. -/
  | disturb (world : σ)
  /--
  One step of a pool task, whether or not it can go on.  Any order of such steps is an order
  that the workers may come to take.
  -/
  | step (task : Nat)
  /--
  All pool tasks take the steps that they can take.  They do so until nobody can go on
  without something from outside.
  -/
  | settleTasks
  /--
  Whoever waits under a tag looks whether a result is there.  If there is one it is taken,
  and the handle is dropped with it.
  -/
  | poll (tag : Tag)
  | endWatchers
  | endDrains
  | endAwaiting

/-! Looking for a result. -/

/--
The wait under a tag that is over, with its result.  It is over when a reply is there, when
the registry has been cleared, or at the deadline.
-/
def seen? (session : Session σ) (tag : Tag) : Option (Wait × Except Failure Reply) :=
  session.callers.findSome? fun entry =>
    if entry.1 = tag then
      (entry.2.result? session.core.registry session.now).map fun result => (entry.2, result)
    else none

/--
A request that has its result drops its handle.  With the handle goes the entry of the
registry, if it is still there.
-/
def leave (session : Session σ) (token : Nat) : Session σ :=
  { session with
    core := { session.core with registry := session.core.registry.drop token }
    callers := session.callers.filter fun entry => entry.2.token ≠ token }

def poll (session : Session σ) (tag : Tag) : Session σ :=
  match session.seen? tag with
  | some (wait, _) => session.leave wait.token
  | none => session

def perform (setup : Setup σ) (session : Session σ) (move : Move σ) : Session σ :=
  match move with
  | .establish outlet => { session with core := (session.core.establish setup outlet).2 }
  | .closeLink => { session with core := session.core.closeLink setup }
  | .report device request => { session with core := (session.core.sendAsync device request).2 }
  | .receive text => { session with core := (session.core.receive setup text).2 }
  | .request label device request budget => (session.request label device request budget).session
  | .waitConnected label budget => session.waitConnected label budget
  | .awaitEnd label => session.awaitEnd label
  | .shutdown label => (session.shutdown setup label).session
  | .shutdownPool label grace => (session.shutdownPool label grace).session
  | .abort label => (session.abort label).2
  | .advance span => session.advance span
  | .openGate gate permits => { session with core := session.core.releaseGate gate permits }
  | .drain most => { session with core := (session.core.drainQueue most).2 }
  | .hangUp => { session with core := session.core.hangUp }
  | .disturb world => { session with core := { session.core with world := world } }
  | .step task => { session with core := session.core.step setup task }
  | .settleTasks => { session with core := session.core.settle setup }
  | .poll tag => session.poll tag
  | .endWatchers => session.endWatchers.1
  | .endDrains => session.endDrains.1
  | .endAwaiting => session.endAwaiting.1

def run (setup : Setup σ) (session : Session σ) (moves : List (Move σ)) : Session σ :=
  moves.foldl (perform setup) session

/-! What a single move shows. -/

/--
A request that passes its checks takes a message id.  It takes it even if its frame turns
out to have nowhere to go.
-/
def counted (core : Core σ) (device : Address) (request : Request) : List Occurrence :=
  match core.prepare device request with
  | .ok _ => [.issued core.takeId.1]
  | .error _ => []

/--
A synchronous request whose frame could be sent waits from now on.  Any other has failed,
and the history says nothing about it but that it took an id.
-/
def opening (session : Session σ) (label : String) (messageId : UInt32) :
    Core.Opening → List Occurrence
  | .waits wait => [.opened ⟨⟨label, session.nextTicket⟩, messageId, session.now, wait⟩]
  | .fails _ => []
  | .crashes => []

def requested (session : Session σ) (label : String) (device : Address) (request : Request)
    (budget : Duration) : List Occurrence :=
  match session.core.clock.after? session.now budget with
  | none => []
  | some _ =>
      counted session.core device request ++
        session.opening label session.core.takeId.1
          (session.core.sendSync device request session.now budget).1

def received (text : String) : List Occurrence :=
  match Inbound.ofText text with
  | .ok (.response messageId code payload) => [.replied ⟨messageId, code, payload⟩]
  | _ => []

/--
Giving up a label cancels the request that it stands for, if that still waits.  One that has
returned by then is not cancelled any more.
-/
def aborted (session : Session σ) (label : String) : List Occurrence :=
  match session.started.find? fun tag => tag.label = label with
  | none => []
  | some tag => if session.callers.any fun entry => entry.1 = tag then [.cancelled tag] else []

def polled (session : Session σ) (tag : Tag) : List Occurrence :=
  match session.seen? tag with
  | some (_, result) => [.resolved tag session.now result]
  | none => []

def observe (session : Session σ) (move : Move σ) : List Occurrence :=
  match move with
  | .report device request => counted session.core device request
  | .receive text => received text
  | .request label device request budget => session.requested label device request budget
  | .shutdown _ => [.shut]
  | .abort label => session.aborted label
  | .poll tag => session.polled tag
  | _ => []

def history (setup : Setup σ) : Session σ → List (Move σ) → List Occurrence :=
  Run.history (perform setup) observe

/-! What a caller sees. -/

section

variable {session : Session σ} {tag : Tag} {wait : Wait}

/--
A result that is found is that of a caller.  The handle is its own, and the time is the
present one.
-/
theorem mem_of_seen? {result : Except Failure Reply}
    (seen : session.seen? tag = some (wait, result)) :
    (tag, wait) ∈ session.callers ∧
      wait.result? session.core.registry session.now = some result := by
  rcases List.exists_of_findSome?_eq_some seen with ⟨entry, inside, there⟩
  by_cases same : entry.1 = tag
  · rw [if_pos same] at there
    rcases Option.map_eq_some_iff.mp there with ⟨outcome, outcome_eq, pair⟩
    cases pair
    exact ⟨same ▸ inside, outcome_eq⟩
  · rw [if_neg same] at there
    cases there

theorem seen?_of_only (inside : (tag, wait) ∈ session.callers)
    (only : ∀ other, (tag, other) ∈ session.callers → other = wait) :
    session.seen? tag =
      (wait.result? session.core.registry session.now).map fun result => (wait, result) := by
  cases seen : session.seen? tag with
  | none =>
      have missed := List.findSome?_eq_none_iff.mp seen _ inside
      rw [if_pos rfl, Option.map_eq_none_iff] at missed
      rw [missed]
      rfl
  | some found =>
      rcases found with ⟨other, result⟩
      rcases mem_of_seen? seen with ⟨there, finished⟩
      cases only other there
      rw [finished]
      rfl

end

/-! What a history tells. -/

namespace Occurrence

def isIssued : Occurrence → Bool
  | issued _ => true
  | _ => false

def opened? : Occurrence → Option Call
  | opened call => some call
  | _ => none

/--
The tag of a request that has got its result or has been cancelled.  These are the two ways
in which a request that was opened can end.
-/
def concluded? : Occurrence → Option Tag
  | resolved tag _ _ => some tag
  | cancelled tag => some tag
  | _ => none

/--
What an occurrence decides for a request that awaits a reply to a message id.  A reply
decides for its own message id, and a shutdown decides for everybody.
-/
def decision? (messageId : UInt32) : Occurrence → Option (Except Failure Reply)
  | replied reply => if reply.messageId = messageId then some (.ok reply) else none
  | shut => some (.error .closed)
  | _ => none

end Occurrence

/--
How many message ids have been taken.  Those of requests that failed afterwards are among
them.
-/
def issued (past : List Occurrence) : Nat := past.countP Occurrence.isIssued

def opened (past : List Occurrence) : List Call := past.filterMap Occurrence.opened?

def concluded (past : List Occurrence) : List Tag := past.filterMap Occurrence.concluded?

/--
The requests that have neither got a result nor been cancelled.  They are those whose
handles the registry has.
-/
def waiting (past : List Occurrence) : List Call :=
  (opened past).filter fun call => call.tag ∉ concluded past

/--
The result of a request at a time, if there is one, after what has occurred since it
was opened: the first reply to it or the shutdown, whichever was earlier, or else that
its deadline has come.
-/
def Call.outcome? (call : Call) (later : List Occurrence) (now : Nat) :
    Option (Except Failure Reply) :=
  (later.findSome? (Occurrence.decision? call.messageId)).or
    (if call.wait.deadline ≤ now then some (.error (.timeout call.messageId call.wait.budget))
      else none)

end Session
end DeviceLink
