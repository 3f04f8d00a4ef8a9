import DeviceLink.Address
import DeviceLink.Datum.Codec
import DeviceLink.Envelope
import DeviceLink.Failure

namespace DeviceLink

/-!
What a device asks of the gateway, and the payload that says so.  None of them expects
data from the gateway, only a code.  A request with an incomplete address, an event
without a name, or data that cannot be encoded is refused before it gets a message id.
Only the payload depends on the kind of the request; the rest of the frame is the same
for all of them.
-/

inductive Request
  | online
  | offline
  | properties (data : List Datum)
  | event (name : String) (data : List Datum)
  deriving DecidableEq, Repr

namespace Request

def method : Request → Method
  | online => .onlineDevice
  | offline => .offlineDevice
  | properties _ => .reportProperty
  | event _ _ => .reportEvent

/--
Data on their way out: the limits are checked for all before any is encoded.  So a datum
over a limit is what is reported, even where an earlier one could not be encoded.
-/
def encodeData (data : List Datum) : Except Failure Json.Value :=
  match Datum.firstLimitFault? data with
  | some fault => .error (.invalidParameter fault.message)
  | none =>
      match Datum.encode data with
      | .ok value => .ok value
      | .error error => .error (.codec error)

def isEventName (name : String) : Bool :=
  !name.isEmpty && name.utf8ByteSize ≤ Datum.keyLimit

def addressRequired : Failure :=
  .invalidParameter "productKey and deviceName must be non-empty"

def eventNameRequired : Failure :=
  .invalidParameter
    ("event name must be 1..=" ++ Decimal.naturalString Datum.keyLimit ++ " bytes")

/--
The payload of a request, or the first thing that is wrong with it.  The address is looked
at first, then the name of an event, and the data come last.
-/
def payload (request : Request) (device : Address) : Except Failure Json.Members :=
  if !device.isComplete then .error addressRequired
  else
    match request with
    | online => .ok device.payload
    | offline => .ok device.payload
    | properties data =>
        match encodeData data with
        | .ok value => .ok (device.payload.insert Method.propertiesField value)
        | .error failure => .error failure
    | event name data =>
        if !isEventName name then .error eventNameRequired
        else
          match encodeData data with
          | .ok value =>
              .ok ((device.payload.insert Method.identifierField (.string name)).insert
                Method.outputDataField value)
          | .error failure => .error failure

/--
The text of a request with its message id.  The same request gives the same text but for the
id.
-/
def frame (request : Request) (messageId : UInt32) (payload : Json.Members) : String :=
  (Envelope.request messageId request.method payload).text

/--
Take the next message id from a counter; zero is left out when the counter comes round.  The
answer is the id and the counter that follows, and a counter that comes round goes on with
one.
-/
def takeId (next : UInt32) : UInt32 × UInt32 := if next = 0 then (1, 2) else (next, next + 1)

end Request
end DeviceLink
