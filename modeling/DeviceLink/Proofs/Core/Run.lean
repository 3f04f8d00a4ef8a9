import DeviceLink.Core.Step
import DeviceLink.Proofs.Run

namespace DeviceLink

/-!
Runs of a core.  A run is a list of moves, each of which is one operation of the
application, of the transport, of the environment, or one step of a pool task, so
any order of operations and any interleaving of tasks is a run.

Beside the states of a run stands its history: what became of the inbound frames, which
requests left, and when jobs were accepted, began and ended.  It is read off each move
on its own, and no operation looks at it.  The properties of later modules are stated
about `run` and `history`, for all lists of moves.
-/

inductive Happening
  | received (text : String) (verdict : Verdict)
  /-- A request was handed to the link.  Whether an outlet has taken it is another matter. -/
  | sent (text : String)
  | accepted (job : Job)
  | began (job : Job)
  /--
  A call leaves the code and the payload that were handed on as its answer.  A report of a
  reply leaves none.
  -/
  | ended (job : Job) (answer : Option (Int32 × Json.Members))

namespace Core

variable {σ : Type}

inductive Move (σ : Type)
  | establish (outlet : Outlet)
  | closeLink
  | shutdownLink
  | report (device : Address) (request : Request)
  | request (device : Address) (request : Request) (now : Nat) (budget : Duration)
  /--
  Nobody waits on a handle any longer.  The wait may be over, or whoever waited may have
  given up.
  -/
  | forget (token : Nat)
  | forgetAll
  | receive (text : String)
  | submit (job : Job)
  /--
  One step of a pool task, whether or not it can go on.  A step of a task that waits changes
  nothing.
  -/
  | step (task : Nat)
  | openGate (gate : String) (permits : Nat)
  | closePool
  | abort (tasks : List Nat)
  | drain (most : Option Nat)
  | hangUp
  /--
  Something outside changes what device code works on.  Device code shares its world with
  the rest of the program.
  -/
  | disturb (world : σ)

namespace Move

def isAbort : Move σ → Bool
  | abort _ => true
  | _ => false

end Move

def perform (setup : Setup σ) (core : Core σ) (move : Move σ) : Core σ :=
  match move with
  | .establish outlet => (core.establish setup outlet).2
  | .closeLink => core.closeLink setup
  | .shutdownLink => (core.shutdownLink setup).2
  | .report device request => (core.sendAsync device request).2
  | .request device request now budget => (core.sendSync device request now budget).2
  | .forget token => { core with registry := core.registry.drop token }
  | .forgetAll => { core with registry := core.registry.clear.2 }
  | .receive text => (receive setup core text).2
  | .submit job => (core.submit job).2
  | .step task => step setup core task
  | .openGate gate permits => core.releaseGate gate permits
  | .closePool => { core with pool := core.pool.close.1 }
  | .abort tasks => core.abortTasks tasks
  | .drain most => (core.drainQueue most).2
  | .hangUp => core.hangUp
  | .disturb world => { core with world := world }

def run (setup : Setup σ) (core : Core σ) (moves : List (Move σ)) : Core σ :=
  moves.foldl (perform setup) core

/-! What a single move shows. -/

/--
A reply that nobody awaits is offered to the pool, if there is an observer for it.  Whether
it is awaited is looked up in the registry as it is then.
-/
def offeredReply? (setup : Setup σ) (core : Core σ) (reply : Reply) : Option Job :=
  if (core.deliver reply).1 then none
  else if setup.replyObserver.isSome then some (.reportReply reply.messageId reply.code)
  else none

/--
A call that can be read is offered to the pool.  Any other call is answered at once or
dropped.
-/
def offeredCall? (messageId : UInt32) (method : String) (payload : Json.Value) : Option Job :=
  match Address.ofPayload? payload, DeviceCall.ofPayload method payload with
  | some device, .ok call => some (.invoke messageId device call)
  | _, _ => none

/-- The job that an inbound frame offers to the pool.  It is worked out before the pool is asked. -/
def offered? (setup : Setup σ) (core : Core σ) (text : String) : Option Job :=
  match Inbound.ofText text with
  | .error _ => none
  | .ok (.response messageId code payload) => offeredReply? setup core ⟨messageId, code, payload⟩
  | .ok (.call messageId method payload) => offeredCall? messageId method payload

/-- What becomes of a job that is offered to the pool.  A job that is refused shows nothing. -/
def admitted (core : Core σ) (offer : Option Job) : List Happening :=
  match offer with
  | none => []
  | some job =>
      match core.pool.submit job with
      | .ok _ => [.accepted job]
      | .error _ => []

/-- The frame of a request that passes all checks.  It carries the id that the counter tells. -/
def outgoing (core : Core σ) (device : Address) (request : Request) : List Happening :=
  match core.prepare device request with
  | .ok payload => [.sent (request.frame core.takeId.1 payload)]
  | .error _ => []

/--
Device code that runs to its end ends the call of its task.  Code that comes to a gate shows
nothing yet.
-/
def concluded (job : Job) (activity : Activity σ Json.Members) (world : σ) : List Happening :=
  match (activity.run world).progress with
  | .ended outcome => [.ended job (some (DeviceCall.answer outcome))]
  | .atGate _ _ => []

/-- What the step of a task shows.  It is worked out from the core before the step. -/
def stepped (setup : Setup σ) (core : Core σ) (id : Nat) : List Happening :=
  match core.pool.task? id with
  | none => []
  | some task =>
      match task.stage, task.job with
      | .granted, .invoke _ device call =>
          .began task.job ::
            concluded task.job (call.perform setup.handler setup.options.outputSlots device)
              core.world
      | .granted, .reportReply _ _ => [.began task.job, .ended task.job none]
      | .resumable rest, .invoke _ _ _ => concluded task.job rest core.world
      | _, _ => []

def observe (setup : Setup σ) (core : Core σ) (move : Move σ) : List Happening :=
  match move with
  | .report device request =>
      match (core.sendAsync device request).1 with
      | .ok _ => core.outgoing device request
      | .error _ => []
  | .request device request now budget =>
      match (core.sendSync device request now budget).1 with
      | .waits _ => core.outgoing device request
      | _ => []
  | .receive text =>
      .received text (receive setup core text).1 :: core.admitted (offered? setup core text)
  | .submit job => core.admitted (some job)
  | .step task => stepped setup core task
  | _ => []

def history (setup : Setup σ) : Core σ → List (Move σ) → List Happening :=
  Run.history (perform setup) (observe setup)

section

variable (setup : Setup σ) (core : Core σ)

theorem history_nil : history setup core [] = [] := rfl

theorem history_cons (move : Move σ) (rest : List (Move σ)) :
    history setup core (move :: rest) =
      observe setup core move ++ history setup (perform setup core move) rest := rfl

/--
What every move keeps of a history and a core, a run keeps.  The moves may be restricted to
a kind, as to those that abandon nothing.
-/
theorem run_induction {kind : Move σ → Prop} {holds : List Happening → Core σ → Prop}
    (kept : ∀ past core move, kind move → holds past core →
      holds (past ++ observe setup core move) (perform setup core move))
    {past : List Happening} {core : Core σ} (start : holds past core)
    {moves : List (Move σ)} (kinds : ∀ move ∈ moves, kind move) :
    holds (past ++ history setup core moves) (run setup core moves) :=
  Run.keeps kept start kinds

end

/--
A link whose devices serve nothing, so that each call ends at once with an error.  Its
options are the standard ones, and it has no observers.
-/
def plainSetup : Setup Unit := ⟨Options.standard, Handler.unimplemented, false, none, .standard⟩

end Core
end DeviceLink
