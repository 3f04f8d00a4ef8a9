import DeviceLink.Agenda
import DeviceLink.Registry

namespace DeviceLink

/-!
A registry at work under a clock that moves only when told to.  Handles and waits go by
labels; after every operation each wait that can end does end, the one with the earliest
deadline first, and its handle is dropped.  It is the registry as one program after
another may use it, without a link.  Its operations are those of the registry with the
labels put in place of the tokens, and what they answer is what the registry answers.  A
session has the same kind of waits, but there the handles of requests cannot be kept
without waiting.
-/

structure Desk where
  registry : Registry
  now : Nat
  /--
  Handles that nobody waits on yet.  Each label has at most one, and waiting on it takes it
  from here.
  -/
  held : List (String × Nat)
  /-- In the order of their deadlines. -/
  waits : List (String × Wait)

namespace Desk

def new (capacity : Nat) : Desk := ⟨Registry.new capacity, 0, [], []⟩

abbrev Finished := List (String × Except Failure Reply)

/--
End the first wait that has a result, and drop its handle.  The waits are looked at in the
order of their deadlines.
-/
def endOne? (desk : Desk) : Option (Desk × (String × Except Failure Reply)) :=
  desk.waits.findSome? fun (label, wait) =>
    (wait.result? desk.registry desk.now).map fun result =>
      ({ desk with
          registry := desk.registry.drop wait.token
          waits := desk.waits.filter fun other => other.2.token ≠ wait.token },
        (label, result))

/--
End at most `count` waits, one after the other.  Each of them is looked for anew, since the
one before may have changed the registry.
-/
def settleFor : Nat → Desk → Desk × Finished
  | 0, desk => (desk, [])
  | count + 1, desk =>
      match desk.endOne? with
      | none => (desk, [])
      | some (next, result) =>
          let (final, results) := settleFor count next
          (final, result :: results)

/--
End every wait that can end; dropping one handle may end the wait on another.  There are no
more ends than waits, so their number is enough.
-/
def settle (desk : Desk) : Desk × Finished := settleFor desk.waits.length desk

def held? (desk : Desk) (label : String) : Option Nat :=
  (desk.held.find? fun entry => entry.1 = label).map Prod.snd

/--
Forget the handle kept under a label without dropping it.  What becomes of the handle is up
to whoever has taken it over.
-/
def release (desk : Desk) (label : String) : Desk :=
  { desk with held := desk.held.filter fun entry => entry.1 ≠ label }

/--
A handle that the label already kept is dropped after the new registration.  So a label that
registers the same id twice is refused, and keeps what it had.
-/
def register (desk : Desk) (messageId : UInt32) (label : String) : Except Failure UInt32 × Desk :=
  match desk.registry.register messageId with
  | .error failure => (.error failure, desk)
  | .ok (token, registry) =>
      let registry :=
        match desk.held? label with
        | some old => registry.drop old
        | none => registry
      let desk := { desk.release label with registry := registry }
      (.ok messageId, { desk with held := (label, token) :: desk.held })

def deliver (desk : Desk) (reply : Reply) : Bool × Desk :=
  let (delivered, registry) := desk.registry.deliver reply
  (delivered, { desk with registry := registry })

def remove (desk : Desk) (messageId : UInt32) : Bool × Desk :=
  let (removed, registry) := desk.registry.remove messageId
  (removed, { desk with registry := registry })

def clear (desk : Desk) : Nat × Desk :=
  let (count, registry) := desk.registry.clear
  (count, { desk with registry := registry })

def drop (desk : Desk) (label : String) : Bool × Desk :=
  match desk.held? label with
  | none => (false, desk)
  | some token => (true, { desk.release label with registry := desk.registry.drop token })

/--
Start to wait on the handle kept under a label; the answer says whether there was one.  The
deadline is counted from now, and has no bound here.
-/
def wait (desk : Desk) (label : String) (span : Duration) : Bool × Desk :=
  match desk.held? label with
  | none => (false, desk)
  | some token =>
      let wait : Wait := ⟨token, desk.now + span.nanoseconds, span⟩
      let released := desk.release label
      (true, { released with
        waits := Agenda.insert (fun entry => entry.2.deadline) (label, wait) desk.waits })

def advance (desk : Desk) (span : Duration) : Desk :=
  { desk with now := desk.now + span.nanoseconds }

end Desk
end DeviceLink
