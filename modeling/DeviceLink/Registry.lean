import DeviceLink.Failure
import DeviceLink.Json.Value

namespace DeviceLink

/-!
The correlation registry: which message ids await a reply, and for whom.  An entry leads
from a message id to the handle of the registration that made it.  A handle keeps its
own slot, so what a handle has received is settled even after its entry is gone.
Looking at a handle and dropping it are separate operations, because replies may arrive
between the two.  Tokens grow with every registration and are never used again, while
message ids come round.  The capacity limits the entries and not the handles, so handles
that nobody looks at do not fill a registry.
-/

/--
What the gateway answered to a request.  Its code is kept as a number, since the gateway may
send one that is in no table.
-/
structure Reply where
  messageId : UInt32
  code : Int32
  payload : Json.Value
  deriving BEq

namespace Reply

def status (reply : Reply) : ResultCode := ResultCode.ofNumber reply.code

def isSuccess (reply : Reply) : Bool := reply.code = ResultCode.success.number

end Reply

/--
What has become of a registration.  A slot is filled or abandoned once, and stays so until
its handle is dropped.
-/
inductive Slot
  | waiting
  | filled (reply : Reply)
  | abandoned
  deriving BEq

/--
The token tells apart registrations that used the same message id.  Whoever registered holds
the token and asks for the slot by it.
-/
structure Handle where
  token : Nat
  messageId : UInt32
  slot : Slot
  deriving BEq

/--
An entry waits for a message id on behalf of a handle.  It is there for as long as a reply
to that id would be taken.
-/
structure Entry where
  messageId : UInt32
  token : Nat
  deriving DecidableEq, Repr

/--
A capacity of zero does not limit the number of entries.  The capacity counts entries and
not handles, so answered requests do not fill the registry.
-/
structure Registry where
  capacity : Nat
  entries : List Entry
  handles : List Handle
  nextToken : Nat

namespace Registry

def new (capacity : Nat) : Registry := ⟨capacity, [], [], 0⟩

def size (registry : Registry) : Nat := registry.entries.length

def isEmpty (registry : Registry) : Bool := registry.entries.isEmpty

def entry? (registry : Registry) (messageId : UInt32) : Option Entry :=
  registry.entries.find? fun entry => entry.messageId = messageId

def contains (registry : Registry) (messageId : UInt32) : Bool :=
  (registry.entry? messageId).isSome

def handle? (registry : Registry) (token : Nat) : Option Handle :=
  registry.handles.find? fun handle => handle.token = token

def isFull (registry : Registry) : Bool :=
  0 < registry.capacity && registry.capacity ≤ registry.size

/--
Open an entry for a message id; a full registry is reported before a taken id.  A
registration that fails leaves no trace, and uses up no token.
-/
def register (registry : Registry) (messageId : UInt32) : Except Failure (Nat × Registry) :=
  if registry.isFull then
    .error (.allocationFailure
      (Decimal.naturalString registry.size ++ " requests already awaiting replies"))
  else if registry.contains messageId then
    .error (.invalidParameter
      ("message " ++ Decimal.naturalString messageId.toNat ++ " is already awaiting a reply"))
  else
    .ok (registry.nextToken,
      { registry with
        entries := registry.entries ++ [⟨messageId, registry.nextToken⟩]
        handles := registry.handles ++ [⟨registry.nextToken, messageId, .waiting⟩]
        nextToken := registry.nextToken + 1 })

/--
Take an entry out and say what its handle gets.  Every way in which an entry can go leads
through here, except for the clearing of all of them.
-/
def settle (registry : Registry) (entry : Entry) (slot : Slot) : Registry :=
  { registry with
    entries := registry.entries.filter fun other => other.messageId ≠ entry.messageId
    handles := registry.handles.map fun handle =>
      if handle.token = entry.token then { handle with slot := slot } else handle }

/--
Hand a reply to whoever awaits its message id; the answer says whether anybody did.  The
entry is gone afterwards, even if its handle was dropped before.
-/
def deliver (registry : Registry) (reply : Reply) : Bool × Registry :=
  match registry.entry? reply.messageId with
  | none => (false, registry)
  | some entry =>
      ((registry.handle? entry.token).isSome, registry.settle entry (.filled reply))

/--
Give up the entry of a message id, whichever registration made it.  Its handle learns that
there will be no reply; the answer says whether there was an entry.
-/
def remove (registry : Registry) (messageId : UInt32) : Bool × Registry :=
  match registry.entry? messageId with
  | none => (false, registry)
  | some entry => (true, registry.settle entry .abandoned)

/--
Give up every entry.  The answer is how many there were, and their handles learn that there
will be no reply.
-/
def clear (registry : Registry) : Nat × Registry :=
  (registry.size,
    { registry with
      entries := []
      handles := registry.handles.map fun handle =>
        if registry.entries.any fun entry => entry.token = handle.token then
          { handle with slot := .abandoned }
        else handle })

/--
Drop a handle; the entry of its message id goes with it.  That entry may belong to a later
registration of the same id, whose handle is then abandoned.
-/
def drop (registry : Registry) (token : Nat) : Registry :=
  match registry.handle? token with
  | none => registry
  | some handle =>
      let forgotten :=
        { registry with handles := registry.handles.filter fun other => other.token ≠ token }
      (forgotten.remove handle.messageId).2

end Registry

/--
A wait on a handle: the time at which it ends, and the span that a timeout reports.  The
span is what was asked for, not what was left of it.
-/
structure Wait where
  token : Nat
  deadline : Nat
  budget : Duration
  deriving DecidableEq, Repr

namespace Wait

/--
The result of a wait at a time, if there is one.  A reply or a closed entry counts even when
the deadline has passed as well.  A handle that is gone counts as a closed entry.
-/
def result? (wait : Wait) (registry : Registry) (now : Nat) : Option (Except Failure Reply) :=
  match registry.handle? wait.token with
  | none => some (.error .closed)
  | some handle =>
      match handle.slot with
      | .filled reply => some (.ok reply)
      | .abandoned => some (.error .closed)
      | .waiting =>
          if wait.deadline ≤ now then some (.error (.timeout handle.messageId wait.budget))
          else none

end Wait
end DeviceLink
