import DeviceLink.Activity

namespace DeviceLink

/-!
Device code from tables: for every property and every service an action says what
happens when it is read, set or called.  It serves to put device code of any behaviour
behind a core: slow, refusing, crashing or at fault in its answers.  Every action may
wait at a gate before it does anything, which is how a run chooses when a call goes on.
Tables are searched from the front, so of two entries for one name the first one counts.
-/

structure Action where
  /--
  Wait at a gate first.  Going on after the gate leaves a note, so that the order of several
  calls can be seen.
  -/
  gate : Option String
  crash : Bool
  /--
  Fail with the result code of this number.  A number that is in no table fails with the
  unknown code.
  -/
  fail : Option Int32
  data : List Datum
  deriving DecidableEq, Repr

structure Script where
  onGet : List (String × Action)
  onSet : List (String × Action)
  onCall : List (String × Action)
  deriving DecidableEq, Repr

namespace Action

variable {σ : Type}

def find? (actions : List (String × Action)) (name : String) : Option Action :=
  (actions.find? fun entry => entry.1 = name).map Prod.snd

/--
What an action does once it has passed its gate.  A crash goes before a failure, and a
failure before an answer.
-/
def conclude (action : Action) : Activity σ (List Datum) :=
  if action.crash then .crash
  else
    match action.fail with
    | some number => .fail ⟨ResultCode.ofNumber number, "scripted"⟩
    | none => .done action.data

def perform (action : Action) : Activity σ (List Datum) :=
  match action.gate with
  | some gate => .wait gate (.note (.resumed gate) action.conclude)
  | none => action.conclude

end Action

namespace Script

variable {σ : Type}

/--
The data of all keys, one key after the other.  Each key may wait at a gate of its own, and
the first failure ends the reading.
-/
def getAll (script : Script) : List String → Activity σ (List Datum)
  | [] => .done []
  | key :: rest =>
      match Action.find? script.onGet key with
      | none => .fail (.propertyNotExist key)
      | some action =>
          action.perform.bind fun data => (script.getAll rest).bind fun more => .done (data ++ more)

/--
Write data into output slots from a position on; there must be a slot for each.  Without one
the device code is at fault, and crashes.
-/
def fill {slots : Nat} (outputs : Vector Datum slots) (position : Nat) :
    List Datum → Activity σ (Vector Datum slots)
  | [] => .done outputs
  | datum :: rest =>
      if inside : position < slots then
        fill (outputs.set position datum inside) (position + 1) rest
      else .crash

def handler (script : Script) : Handler σ where
  getProperties := fun _ keys => script.getAll keys
  setProperty := fun _ datum =>
    match Action.find? script.onSet datum.key with
    | none => .fail (.propertyNotExist datum.key)
    | some action => action.perform.bind fun _ => .done ()
  callService := fun _ service _ outputs =>
    match Action.find? script.onCall service with
    | none => .fail (.serviceNotExist service)
    | some action => action.perform.bind fun data => fill outputs 0 data

end Script
end DeviceLink
