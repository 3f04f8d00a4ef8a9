import DeviceLink.Core

namespace DeviceLink
namespace Core

/-!
The steps of pool tasks.  A task asks for its permit, begins its job, comes to a gate,
asks the gate, goes on, and ends in single steps, so any interleaving of tasks is a list
of task numbers.  What a task does within one step is seen by the others as a whole.
`step` is the transition function of the pool together with the core around it.
`pendingSteps` bounds how many steps there can be until somebody outside does something;
each step of a task lowers it, and that is why settling ends.
-/

variable {σ : Type}

/--
The device of a job is where its next job comes from.  The permit goes back when the lane
has moved on, and may wake a task that waits for one.
-/
def endTask (core : Core σ) (task : Pool.Task σ) : Core σ :=
  let pool :=
    match task.job with
    | .invoke _ device _ => core.pool.advanceLane task device
    | .reportReply _ _ => core.pool.removeTask task.id
  { core with pool := pool.releasePermit }

/--
A call has ended: its answer goes out, whether or not somebody takes it.  A call that was
answered in vain ends like any other and leaves its lane and its permit.
-/
def endCall (core : Core σ) (task : Pool.Task σ) (messageId : UInt32)
    (outcome : Outcome Json.Members) : Core σ :=
  let (code, payload) := DeviceCall.answer outcome
  (core.respond messageId code payload).2.endTask task

/--
Run device code up to its end or to a gate.  The notes of the stretch go into the log in one
piece, before the answer of the call if there is one.
-/
def runActivity (core : Core σ) (task : Pool.Task σ) (messageId : UInt32)
    (activity : Activity σ Json.Members) : Core σ :=
  let stretch := activity.run core.world
  let ran :=
    { core with
      world := stretch.world
      log := core.log ++ stretch.notes.map Event.note }
  match stretch.progress with
  | .ended outcome => ran.endCall task messageId outcome
  | .atGate gate rest =>
      { ran with pool := ran.pool.proceed { task with stage := .atGate gate rest } }

/--
Ask a gate for a permit: take a free one and go on, or wait for one.  Either way the worker
permit of the task stays with it.
-/
def askGate (core : Core σ) (task : Pool.Task σ) (gate : String)
    (rest : Activity σ Json.Members) : Core σ :=
  match core.gates.pass? gate with
  | some gates =>
      { core with
        gates := gates
        pool := core.pool.proceed { task with stage := .resumable rest } }
  | none =>
      { core with
        gates := core.gates.enqueue gate task.id
        pool := core.pool.setTask { task with stage := .suspended rest } }

/-- Tell the observer about a reply, if there is one; a crash of it has no consequence. -/
def reportReply (setup : Setup σ) (core : Core σ) (messageId : UInt32) (code : Int32) : Core σ :=
  match setup.replyObserver with
  | some .attentive => core.record (.reply messageId code)
  | some .crashing => core.record (.reply messageId code)
  | none => core

/--
A task with a permit begins its job.  From here on the job counts as running, and the device
code runs up to its first gate in the same step.
-/
def beginJob (setup : Setup σ) (core : Core σ) (task : Pool.Task σ) : Core σ :=
  let begun := { core with pool := core.pool.startJob }
  match task.job with
  | .invoke messageId device call =>
      begun.runActivity task messageId
        (call.perform setup.handler setup.options.outputSlots device)
  | .reportReply messageId code => (reportReply setup begun messageId code).endTask task

/--
One step of a task that has left the ready queue.  A task that waits for a permit or at a
gate takes no step of its own accord.
-/
def stepTask (setup : Setup σ) (core : Core σ) (task : Pool.Task σ) : Core σ :=
  match task.stage, task.job with
  | .fresh, _ => { core with pool := core.pool.acquire task }
  | .granted, _ => beginJob setup core task
  | .atGate gate rest, _ => core.askGate task gate rest
  | .resumable rest, .invoke messageId _ _ => core.runActivity task messageId rest
  | _, _ => core

/--
One step of a ready task.  The task is taken from the ready queue first; a number that
belongs to no task is only taken away.
-/
def step (setup : Setup σ) (core : Core σ) (id : Nat) : Core σ :=
  let taken := { core with pool := { core.pool with ready := core.pool.ready.erase id } }
  match core.pool.task? id with
  | some task => stepTask setup taken task
  | none => taken

/-- How many steps a task may take from a stage until it waits or ends, if no gate lets it pass. -/
def stepsOf (stage : Pool.Stage σ) : Nat :=
  match stage with
  | .fresh => 3
  | .queueing => 2
  | .granted => 2
  | .atGate _ _ => 1
  | .suspended _ => 0
  | .resumable _ => 2

/--
A bound on the steps that all tasks can take while nothing happens outside.  A
call that waits in its lane has all its steps before it, and every free permit
of a gate lets some task take two steps more.
-/
def pendingSteps (core : Core σ) : Nat :=
  core.pool.tasks.foldr (fun task steps => stepsOf task.stage + steps) 0 +
    core.pool.lanes.foldr (fun lane steps => 3 * lane.2.length + steps) 0 +
    core.gates.foldr (fun gate steps => 2 * gate.2.free + steps) 0 +
    core.pool.ready.length

end Core
end DeviceLink
