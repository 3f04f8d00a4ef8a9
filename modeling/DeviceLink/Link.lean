import DeviceLink.Failure

namespace DeviceLink

/-!
The state of a link to the gateway.  A link starts out connecting, then changes between
connected and disconnected, and is closed for good at the end.  Each change is made in
two steps: the update itself, and its publication to those who watch.  Other updates may
come between the two.  The phase in the state is what the operations of the link look
at, and the published one is what everybody else sees.  Outlets, through which frames
leave, are given by the transport with each connection, and a newer one takes the place
of the older.
-/

inductive Phase
  | connecting
  | connected
  | disconnected
  | closed
  deriving DecidableEq, Repr

namespace Phase

def name : Phase → String
  | connecting => "connecting"
  | connected => "connected"
  | disconnected => "disconnected"
  | closed => "closed"

end Phase

/--
The sink is the number of the outlet that takes the frames.  There is one exactly while the
link is connected.
-/
structure Link where
  phase : Phase
  sink : Option Nat
  /-- The phase that was published last.  It may lag behind the phase of the link. -/
  watched : Phase
  /--
  How many phases have been published.  Who has seen a number of them can tell by it whether
  there was another one since.
  -/
  publications : Nat
  deriving DecidableEq, Repr

namespace Link

def new : Link := ⟨.connecting, none, .connecting, 0⟩

/--
An update, and the phase it leaves to be published.  An update that was not accepted changes
nothing and leaves nothing.
-/
structure Update where
  link : Link
  accepted : Bool
  publication : Option Phase
  deriving DecidableEq, Repr

/--
The transport is up; the latest sink replaces an earlier one.  Only a link that was not
connected before publishes anything.
-/
def establish (link : Link) (sink : Nat) : Update :=
  match link.phase with
  | .closed => ⟨link, false, none⟩
  | .connected => ⟨{ link with sink := some sink }, true, none⟩
  | _ => ⟨{ link with phase := .connected, sink := some sink }, true, some .connected⟩

/--
The transport is gone.  A link that is closed stays closed, and one that was disconnected
publishes nothing.
-/
def close (link : Link) : Update :=
  match link.phase with
  | .closed => ⟨link, false, none⟩
  | .disconnected => ⟨{ link with sink := none }, true, none⟩
  | _ => ⟨{ link with phase := .disconnected, sink := none }, true, some .disconnected⟩

/--
The end of the link; only the first shutdown is accepted.  It is accepted in every other
phase, and publishes the last phase of all.
-/
def shutdown (link : Link) : Update :=
  match link.phase with
  | .closed => ⟨link, false, none⟩
  | _ => ⟨{ link with phase := .closed, sink := none }, true, some .closed⟩

def publish (link : Link) (phase : Phase) : Link :=
  { link with watched := phase, publications := link.publications + 1 }

/--
The sink for a frame that is sent now.  The two failures tell apart a link that may come
back and one that will not.
-/
def route (link : Link) : Except Failure Nat :=
  match link.phase, link.sink with
  | .connected, some sink => .ok sink
  | .closed, _ => .error .closed
  | _, _ => .error .connectionDown

/--
Fail with the error that sending would meet.  It only asks; the link may have changed by the
time of the sending.
-/
def ensureConnected (link : Link) : Except Failure Unit :=
  match link.phase with
  | .connected => .ok ()
  | .closed => .error .closed
  | _ => .error .connectionDown

end Link

/-- The receiving end of frames.  It stands for whatever an application has put behind the link. -/
inductive Outlet
  /-- Takes every frame, as an application does that looks at frames when they come. -/
  | record (name : String)
  | refusing (failure : Failure)
  /--
  Holds a bounded number of frames until they are taken.  One that is not open any more
  takes none.
  -/
  | queue (capacity : Nat) (frames : List String) (isOpen : Bool)
  deriving DecidableEq, Repr

namespace Outlet

def queueFull : Failure := .allocationFailure "outbound queue is full"

/--
Hand over a frame; the answer is the outlet afterwards.  A frame that is not accepted leaves
the outlet as it is.
-/
def accept (outlet : Outlet) (frame : String) : Except Failure Outlet :=
  match outlet with
  | record name => .ok (record name)
  | refusing failure => .error failure
  | queue capacity frames isOpen =>
      if !isOpen then .error .connectionDown
      else if capacity ≤ frames.length then .error queueFull
      else .ok (queue capacity (frames ++ [frame]) isOpen)

def isQueue : Outlet → Bool
  | queue _ _ _ => true
  | _ => false

end Outlet
end DeviceLink
