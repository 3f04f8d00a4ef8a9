import DeviceLink.Activity
import DeviceLink.Datum.Codec
import DeviceLink.Method

namespace DeviceLink

/-!
The calls that a gateway makes on devices: reading one from a payload, and carrying it
out.  A call is read as a whole before anything of it is carried out, so one invalid
datum keeps the device code from seeing any of the others.  The result of a call is an
activity, made of the callbacks of the handler in the order of the call, and `answer`
turns its outcome into the code and the payload of the response.  A service call gets
its output slots empty and gives them back.
-/

inductive DeviceCall
  | getProperties (keys : List String)
  | setProperties (items : List Datum)
  | callService (service : String) (inputs : List Datum)
  deriving DecidableEq, Repr

namespace DeviceCall

/--
Why a payload is no call.  The sender gets the same code for each of these; they differ in
the reason only.
-/
inductive Fault
  | unsupportedMethod (name : String)
  | missingProperties
  | untypedProperty (key : String)
  | missingIdentifier
  | data (fault : DecodeFault)
  deriving DecidableEq, Repr

/--
The data of a call; a member that is there counts even if it is not readable.  There are two
names for that member, and the second is looked for only without the first.
-/
def data? (method : Method) (payload : Json.Value) : Option Json.Value :=
  match payload.get? method.dataFields.1 with
  | some data => some data
  | none => payload.get? method.dataFields.2

def readData (data : Json.Value) : Except Fault (List Datum) :=
  match Datum.decode data with
  | .ok items => .ok items
  | .error fault => .error (.data fault)

/--
The data of a call that must have some.  Calls of services may come without data, and do not
use this.
-/
def requiredData (method : Method) (payload : Json.Value) : Except Fault (List Datum) :=
  match data? method payload with
  | some data => readData data
  | none => .error .missingProperties

def readGet (payload : Json.Value) : Except Fault DeviceCall :=
  match requiredData .getProperty payload with
  | .ok items => .ok (.getProperties (items.map Datum.key))
  | .error fault => .error fault

def readSet (payload : Json.Value) : Except Fault DeviceCall :=
  match requiredData .setProperty payload with
  | .error fault => .error fault
  | .ok items =>
      match items.find? fun item => item.type = .invalid with
      | some item => .error (.untypedProperty item.key)
      | none => .ok (.setProperties items)

/--
The name of the service; the empty text is no name.  A member of another kind than text is
no name either.
-/
def serviceName? (payload : Json.Value) : Option String :=
  match (payload.get? Method.identifierField).bind Json.Value.string? with
  | some name => if name.isEmpty then none else some name
  | none => none

def readService (payload : Json.Value) : Except Fault DeviceCall :=
  match serviceName? payload with
  | none => .error .missingIdentifier
  | some service =>
      match data? .callService payload with
      | none => .ok (.callService service [])
      | some data =>
          match readData data with
          | .ok inputs => .ok (.callService service inputs)
          | .error fault => .error fault

/--
Read a call from the name of its method and its payload.  Only three of the methods are
calls that a gateway can make; the others are unsupported like any unknown name.
-/
def ofPayload (method : String) (payload : Json.Value) : Except Fault DeviceCall :=
  match Method.ofName? method with
  | some .getProperty => readGet payload
  | some .setProperty => readSet payload
  | some .callService => readService payload
  | _ => .error (.unsupportedMethod method)

/-! Carrying out. -/

variable {σ : Type}

/--
What a device answers must be within the limits and must encode.  Otherwise the device code
itself is at fault, and the gateway gets an error and no data.
-/
def encodeAnswer (field : String) (data : List Datum) : Except DeviceError Json.Members :=
  match Datum.firstLimitFault? data with
  | some fault => .error (.invalidParameter fault.message)
  | none =>
      match Datum.encode data with
      | .ok value => .ok [(field, value)]
      | .error error => .error ⟨.invalidParameter, error.message⟩

/--
Set the items in order and stop at the first one that is not accepted.  Those before it stay
set, and those after it are never shown to the device code.
-/
def setAll (handler : Handler σ) (device : Address) : List Datum → Activity σ Unit
  | [] => .done ()
  | item :: rest =>
      .note (.setProperty device item)
        ((handler.setProperty device item).bind fun _ => setAll handler device rest)

/--
The output slots before the first one that is unused.  Slots after that one are not looked
at, even if they are filled.
-/
def usedSlots {slots : Nat} (outputs : Vector Datum slots) : List Datum :=
  (outputs.toArray.takeWhile fun datum => !datum.isEmpty).toList

/--
More output slots than this cannot be laid out in memory.  The number is the size of the
largest block of memory, divided by the size of a slot.
-/
def slotLimit : Nat := 164703072086692425

/--
Carry out a call; the value is the payload of the answer.  A service call crashes
before it reaches any device code if there are too many output slots.
-/
def perform (handler : Handler σ) (slots : Nat) (device : Address) (call : DeviceCall) :
    Activity σ Json.Members :=
  match call with
  | getProperties keys =>
      .note (.getProperties device keys)
        ((handler.getProperties device keys).bind fun values =>
          .ofExcept (encodeAnswer Method.propertiesField values))
  | setProperties items => (setAll handler device items).bind fun _ => .done []
  | callService service inputs =>
      if slotLimit < slots then .crash
      else
        .note (.callService device service inputs slots)
          ((handler.callService device service inputs (Vector.replicate slots Datum.empty)).bind
            fun outputs => .ofExcept (encodeAnswer Method.outputDataField (usedSlots outputs)))

/--
The code and the payload that answer a call; only success has a payload.  A crash is
answered like an error for which there is no better code.
-/
def answer (outcome : Outcome Json.Members) : Int32 × Json.Members :=
  match outcome with
  | .ok payload => (ResultCode.success.number, payload)
  | .error error => (error.code.number, [])
  | .crashed => (ResultCode.unknown.number, [])

end DeviceCall
end DeviceLink
