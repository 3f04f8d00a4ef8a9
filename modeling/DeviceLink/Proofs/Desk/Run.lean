import DeviceLink.Proofs.Registry.Change
import DeviceLink.Registry.Desk

namespace DeviceLink
namespace Desk

/-!
Runs of a registry with its handles.  Each move is one operation on the registry, on a
handle or on the clock, in any order and with any message ids.  Since ids may be used
again at will, all that can go wrong between registrations of one id is to be seen here.
A registration under a label that already has a handle ends the older one, and a look at
a wait ends it if it has a result.  `observe` reads off what each move does to the
registry, in terms that do not depend on labels.
-/

open Registry (Occurrence)

inductive Move
  | register (messageId : UInt32) (label : String)
  | deliver (reply : Reply)
  | remove (messageId : UInt32)
  | clear
  | drop (label : String)
  | wait (label : String) (span : Duration)
  | advance (span : Duration)
  /--
  Whoever waits on a handle looks whether its wait is over.  Looking at the wrong time
  changes nothing.
  -/
  | poll (token : Nat)
  /-- Whoever waits on a handle gives up.  The handle goes without a result. -/
  | cancel (token : Nat)

/--
The wait on a handle, if it is over, with its result.  It is found by the token of the
handle.
-/
def seen? (desk : Desk) (token : Nat) : Option (Wait × Except Failure Reply) :=
  desk.waits.findSome? fun entry =>
    if entry.2.token = token then
      (entry.2.result? desk.registry desk.now).map fun result => (entry.2, result)
    else none

/-- A wait ends, and its handle is dropped.  Both go together. -/
def leave (desk : Desk) (token : Nat) : Desk :=
  { desk with
    registry := desk.registry.drop token
    waits := desk.waits.filter fun entry => entry.2.token ≠ token }

def perform (desk : Desk) (move : Move) : Desk :=
  match move with
  | .register messageId label => (desk.register messageId label).2
  | .deliver reply => (desk.deliver reply).2
  | .remove messageId => (desk.remove messageId).2
  | .clear => desk.clear.2
  | .drop label => (desk.drop label).2
  | .wait label span => (desk.wait label span).2
  | .advance span => desk.advance span
  | .poll token =>
      match desk.seen? token with
      | some _ => desk.leave token
      | none => desk
  | .cancel token =>
      if desk.waits.any fun entry => entry.2.token = token then desk.leave token else desk

def run (desk : Desk) (moves : List Move) : Desk := moves.foldl perform desk

/-! What a single move shows. -/

/--
A handle that is dropped gives up its message id, whoever waits for that now.  That may be
somebody else.
-/
def givenUp (registry : Registry) (token : Nat) : List Occurrence :=
  match registry.handle? token with
  | some handle => [.removed handle.messageId]
  | none => []

/--
The handle that a label keeps is dropped, if there is one.  Without one the registry stays
as it is.
-/
def letGo (desk : Desk) (registry : Registry) (label : String) : Registry :=
  match desk.held? label with
  | some old => registry.drop old
  | none => registry

/-- What that shows.  A label that keeps nothing shows nothing. -/
def lettingGo (desk : Desk) (registry : Registry) (label : String) : List Occurrence :=
  match desk.held? label with
  | some old => .dropped old :: givenUp registry old
  | none => []

def observe (desk : Desk) (move : Move) : List Occurrence :=
  match move with
  | .register messageId label =>
      match desk.registry.register messageId with
      | .ok (token, registry) => .registered token messageId :: desk.lettingGo registry label
      | .error _ => []
  | .deliver reply => [.replied reply]
  | .remove messageId => [.removed messageId]
  | .clear => [.cleared]
  | .drop label => desk.lettingGo desk.registry label
  | .wait label span =>
      match desk.held? label with
      | some token => [.waited ⟨token, desk.now + span.nanoseconds, span⟩]
      | none => []
  | .advance _ => []
  | .poll token =>
      match desk.seen? token with
      | some (_, result) => .resolved token desk.now result :: givenUp desk.registry token
      | none => []
  | .cancel token =>
      if desk.waits.any fun entry => entry.2.token = token then
        .dropped token :: givenUp desk.registry token
      else []

def history : Desk → List Move → List Occurrence := Run.history perform observe

theorem registry_register {desk : Desk} {messageId : UInt32} {label : String} {token : Nat}
    {registry : Registry} (registered : desk.registry.register messageId = .ok (token, registry)) :
    (desk.register messageId label).2.registry = desk.letGo registry label := by
  cases kept : desk.held? label <;> simp only [register, registered, letGo, kept]

theorem registry_drop (desk : Desk) (label : String) :
    (desk.drop label).2.registry = desk.letGo desk.registry label := by
  cases kept : desk.held? label <;> simp only [Desk.drop, letGo, kept]

end Desk
end DeviceLink
