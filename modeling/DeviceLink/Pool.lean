import DeviceLink.DeviceCall
import DeviceLink.Options
import DeviceLink.Semaphore

namespace DeviceLink

/-!
The bookkeeping of the worker pool.  Every accepted call joins the lane of its device,
which one task works off in the order of arrival; a task holds a permit while a call of
its lane runs.  A lane disappears when it has nothing left.  `queued` counts the
accepted jobs that do not hold a permit yet.  What runs the tasks, and in which order,
is not settled here.  Each operation is a function from one pool to the next and says
what becomes of one task or one job.  The permits are those of a fair semaphore, and the
ready queue lists the tasks that may take a step.
-/

inductive Job
  | invoke (messageId : UInt32) (device : Address) (call : DeviceCall)
  | reportReply (messageId : UInt32) (code : Int32)
  deriving DecidableEq, Repr

namespace Pool

/--
Where a task stands with its job.  What is left of the job is kept with it from the first
gate on.
-/
inductive Stage (σ : Type)
  /--
  Has not asked for a permit yet.  Every call starts like this, also one that waited in its
  lane.
  -/
  | fresh
  /-- Waits for a permit.  Its number is in the queue of the semaphore. -/
  | queueing
  /--
  Holds a permit and has not begun.  The permit was free or has been handed on by a task
  that ended.
  -/
  | granted
  /--
  Has begun and has come to a gate, but has not asked it for a permit yet.  The permit of
  the pool stays with it all the while.
  -/
  | atGate (gate : String) (rest : Activity σ Json.Members)
  /-- Waits at a gate.  Only the gate makes it go on. -/
  | suspended (rest : Activity σ Json.Members)
  /-- Has a permit of its gate and may go on.  It goes on with its next step. -/
  | resumable (rest : Activity σ Json.Members)

namespace Stage

variable {σ : Type}

def holdsPermit : Stage σ → Bool
  | fresh => false
  | queueing => false
  | granted => true
  | atGate _ _ => true
  | suspended _ => true
  | resumable _ => true

/--
Whether a task goes on only by asking for a permit, of the pool or of a gate.  Such a step
may end the turn of the task, if it has taken too many permits.
-/
def asks : Stage σ → Bool
  | fresh => true
  | queueing => false
  | granted => false
  | atGate _ _ => true
  | suspended _ => false
  | resumable _ => false

/--
Whether a task goes on with a permit that it has just received.  That permit is charged to
the turn in which the task goes on.
-/
def receives : Stage σ → Bool
  | fresh => false
  | queueing => false
  | granted => true
  | atGate _ _ => false
  | suspended _ => false
  | resumable _ => true

/-- What a gate does to a task that it lets pass.  Tasks elsewhere are not affected. -/
def resume : Stage σ → Stage σ
  | suspended rest => resumable rest
  | stage => stage

end Stage

structure Task (σ : Type) where
  id : Nat
  job : Job
  stage : Stage σ

/--
A call that waits behind another one of its device.  It has no task of its own, and its
device is that of the lane.
-/
structure WaitingCall where
  messageId : UInt32
  call : DeviceCall
  deriving DecidableEq, Repr

end Pool

structure Pool (σ : Type) where
  queueLimit : Nat
  closed : Bool
  queued : Nat
  /--
  The calls that wait behind the one a device is at.  A lane without any of them is one
  whose device is at its last call.
  -/
  lanes : List (Address × List Pool.WaitingCall)
  tasks : List (Pool.Task σ)
  permits : Semaphore
  /--
  The tasks that can go on, in the order in which they became able to.  Any of them may be
  the next to take a step.
  -/
  ready : List Nat
  nextTask : Nat

namespace Pool

variable {σ : Type}

def new (options : Options) : Pool σ :=
  { queueLimit := options.queueLimit
    closed := false
    queued := 0
    lanes := []
    tasks := []
    permits := Semaphore.new options.workerCount
    ready := []
    nextTask := 0 }

/--
The number of devices with a call that has not ended.  A lane whose task was abandoned
counts as well.
-/
def busyDevices (pool : Pool σ) : Nat := pool.lanes.length

def lane? (pool : Pool σ) (device : Address) : Option (List WaitingCall) :=
  (pool.lanes.find? fun lane => lane.1 = device).map Prod.snd

def setLane (pool : Pool σ) (device : Address) (waiting : List WaitingCall) : Pool σ :=
  { pool with
    lanes := pool.lanes.map fun lane => if lane.1 = device then (device, waiting) else lane }

def task? (pool : Pool σ) (id : Nat) : Option (Task σ) :=
  pool.tasks.find? fun task => task.id = id

def setTask (pool : Pool σ) (task : Task σ) : Pool σ :=
  { pool with tasks := pool.tasks.map fun other => if other.id = task.id then task else other }

def removeTask (pool : Pool σ) (id : Nat) : Pool σ :=
  { pool with tasks := pool.tasks.filter fun task => task.id ≠ id }

/-- Start a task for a job; it is ready at once.  Its number has never been used before. -/
def spawn (pool : Pool σ) (job : Job) : Pool σ :=
  { pool with
    tasks := pool.tasks ++ [⟨pool.nextTask, job, .fresh⟩]
    ready := pool.ready ++ [pool.nextTask]
    nextTask := pool.nextTask + 1 }

def queueFull : Failure := .allocationFailure "worker queue is full"

/--
Put an accepted job where it will be worked off.  A call for a busy device waits in its
lane, and every other job gets a task at once.
-/
def enqueue (pool : Pool σ) (job : Job) : Pool σ :=
  match job with
  | .reportReply _ _ => pool.spawn job
  | .invoke messageId device call =>
      match pool.lane? device with
      | some waiting => pool.setLane device (waiting ++ [⟨messageId, call⟩])
      | none => { pool with lanes := pool.lanes ++ [(device, [])] }.spawn job

/--
Accept a job unless the pool is closed or too many jobs wait already.  The closing is looked
at first, and a job that is refused changes nothing.
-/
def submit (pool : Pool σ) (job : Job) : Except Failure (Pool σ) :=
  if pool.closed then .error .closed
  else if pool.queueLimit ≤ pool.queued then .error queueFull
  else .ok ({ pool with queued := pool.queued + 1 }.enqueue job)

/--
Change a task that goes on at once.  It stands at the front of the ready queue, so that its
turn can continue.
-/
def proceed (pool : Pool σ) (task : Task σ) : Pool σ :=
  { pool.setTask task with ready := task.id :: pool.ready }

/--
Ask for a permit: take a free one and go on, or wait for one.  A permit is free only while
nobody waits for one, so nobody is overtaken here.
-/
def acquire (pool : Pool σ) (task : Task σ) : Pool σ :=
  match pool.permits.take? with
  | some left => { pool with permits := left }.proceed { task with stage := .granted }
  | none =>
      { pool.setTask { task with stage := .queueing } with
        permits := pool.permits.enqueue task.id }

/--
Change the stage of some tasks and make them ready.  They are put behind the tasks that were
ready before, in the order given.
-/
def awaken (pool : Pool σ) (ids : List Nat) (change : Stage σ → Stage σ) : Pool σ :=
  { pool with
    tasks := pool.tasks.map fun task =>
      if ids.contains task.id then { task with stage := change task.stage } else task
    ready := pool.ready ++ ids }

/--
Give a permit back; whoever waits longest gets it.  It never becomes free while somebody
waits for it.
-/
def releasePermit (pool : Pool σ) : Pool σ :=
  let (permits, served) := pool.permits.release 1
  { pool with permits := permits }.awaken served fun _ => .granted

/--
The job of a task that holds a permit begins.  From here on it is no longer among the queued
ones.
-/
def startJob (pool : Pool σ) : Pool σ := { pool with queued := pool.queued - 1 }

/--
The next job of a task whose call has ended: the first waiting call of the lane, or none, in
which case the lane is removed together with its task.  The task asks for a permit anew,
behind those who wait for one.
-/
def advanceLane (pool : Pool σ) (task : Task σ) (device : Address) : Pool σ :=
  match pool.lane? device with
  | some (next :: rest) =>
      (pool.setLane device rest).proceed ⟨task.id, .invoke next.messageId device next.call, .fresh⟩
  | _ =>
      { pool with lanes := pool.lanes.filter fun lane => lane.1 ≠ device }.removeTask task.id

/--
Stop accepting jobs; the answer lists the tasks that a first closing leaves behind.  A
second closing has nobody to wait for.
-/
def close (pool : Pool σ) : Pool σ × List Nat :=
  ({ pool with closed := true }, if pool.closed then [] else pool.tasks.map Task.id)

/--
Abandon one task where it stands.  Its lane stays.  A permit that it held is handed on at
once.
-/
def abortOne (pool : Pool σ) (id : Nat) : Pool σ :=
  match pool.task? id with
  | none => pool
  | some task =>
      let without :=
        { pool.removeTask id with
          permits := pool.permits.forget id
          ready := pool.ready.filter fun other => other ≠ id }
      if task.stage.holdsPermit then without.releasePermit else without

def abort (pool : Pool σ) (ids : List Nat) : Pool σ := ids.foldl abortOne pool

/-- Whether some of these tasks have not ended.  A task that was abandoned has ended too. -/
def anyAlive (pool : Pool σ) (ids : List Nat) : Bool :=
  pool.tasks.any fun task => ids.contains task.id

end Pool
end DeviceLink
