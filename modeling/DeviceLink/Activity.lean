import DeviceLink.Address
import DeviceLink.Datum
import DeviceLink.Failure

namespace DeviceLink

/-!
Device code as data.  An activity reads and writes a world that all device code shares,
may wait at gates for as long as the environment likes, and ends with a value, with an
error, or by crashing.  Between two waits it is not interrupted.  Stretches of device
code are what a step of a task runs, so an interleaving of tasks interleaves them at
gates and nowhere else.  A `Handler` bundles the three callbacks that serve devices.
Nothing is assumed about it: results about the link hold for every handler, and those
that need more of one say so in a hypothesis.
-/

/--
What is known about device code from the outside.  Each note is made by the code itself
while it runs: a callback that is called says so with its arguments, and an activity that
was let through a gate names the gate.
-/
inductive Note
  | getProperties (device : Address) (keys : List String)
  | setProperty (device : Address) (datum : Datum)
  | callService (device : Address) (service : String) (inputs : List Datum) (slots : Nat)
  | resumed (gate : String)
  deriving DecidableEq, Repr

inductive Activity (σ α : Type)
  | done (value : α)
  | fail (error : DeviceError)
  | crash
  | note (entry : Note) (rest : Activity σ α)
  | read (rest : σ → Activity σ α)
  | write (world : σ) (rest : Activity σ α)
  | wait (gate : String) (rest : Activity σ α)

/--
How an activity ended.  An error is the device's own answer to the call and becomes the code
of the response; a crash has no code of its own and is answered as an unknown failure.
-/
inductive Outcome (α : Type)
  | ok (value : α)
  | error (error : DeviceError)
  | crashed
  deriving DecidableEq, Repr

/--
Where an activity stands when it does not go on by itself.  At a gate it keeps the rest of
its code, which is a function of the world it will find when it is let through.
-/
inductive Progress (σ α : Type)
  | ended (outcome : Outcome α)
  | atGate (gate : String) (rest : Activity σ α)

/--
What an activity did, and where it stopped.  The notes are those of this stretch alone, in
the order in which they were made.
-/
structure Stretch (σ α : Type) where
  world : σ
  notes : List Note
  progress : Progress σ α

namespace Activity

variable {σ α β : Type}

def bind (activity : Activity σ α) (next : α → Activity σ β) : Activity σ β :=
  match activity with
  | done value => next value
  | fail error => fail error
  | crash => crash
  | note entry rest => note entry (rest.bind next)
  | read rest => read fun world => (rest world).bind next
  | write world rest => write world (rest.bind next)
  | wait gate rest => wait gate (rest.bind next)

def ofExcept (result : Except DeviceError α) : Activity σ α :=
  match result with
  | .ok value => done value
  | .error error => fail error

/--
Run until the end or up to the next gate.  Nothing else touches the world meanwhile, so one
stretch is one atomic step of whoever runs the activity.
-/
def run (activity : Activity σ α) (world : σ) : Stretch σ α :=
  match activity with
  | done value => ⟨world, [], .ended (.ok value)⟩
  | fail error => ⟨world, [], .ended (.error error)⟩
  | crash => ⟨world, [], .ended .crashed⟩
  | note entry rest =>
      let stretch := rest.run world
      { stretch with notes := entry :: stretch.notes }
  | read rest => (rest world).run world
  | write changed rest => rest.run changed
  | wait gate rest => ⟨world, [], .atGate gate rest⟩

end Activity

/--
The code that serves the devices behind a link.  The three callbacks get the address and
what the call asks for; what they do to the world, at which gates they wait and how they end
is up to them.
-/
structure Handler (σ : Type) where
  getProperties : Address → List String → Activity σ (List Datum)
  setProperty : Address → Datum → Activity σ Unit
  /--
  A service fills the output slots it is given from the front.  How many there are is
  settled by the options of the core, and a slot that is left with an empty key ends the
  output.
  -/
  callService : {slots : Nat} →
    Address → String → List Datum → Vector Datum slots → Activity σ (Vector Datum slots)

namespace Handler

/--
A handler that serves nothing.  Every callback ends with the error that a device without
such a service gives.
-/
def unimplemented {σ : Type} : Handler σ where
  getProperties := fun _ _ => .fail (.unknown "get_properties not implemented")
  setProperty := fun _ _ => .fail (.unknown "set_property not implemented")
  callService := fun _ service _ _ => .fail (.serviceNotExist service)

end Handler
end DeviceLink
