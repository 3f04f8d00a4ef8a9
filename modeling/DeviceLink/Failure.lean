import DeviceLink.Datum.Codec
import DeviceLink.Duration
import DeviceLink.ResultCode

namespace DeviceLink

/-!
Failures.  A `Failure` is what an operation of the link reports to the program that uses
it; a `DeviceError` is what device code reports to the link.  Both carry a result code
for the wire.  The texts of both are for people and may name keys, ids and times.
Several failures share a code, because the code says only what the other side can act
upon.
-/

/--
Data that cannot be written or read are an invalid parameter of whoever sent them.  That
covers both directions, so no fault of data has a code of its own.
-/
def CodecError.code : CodecError → ResultCode := fun _ => .invalidParameter

inductive Failure
  | invalidParameter (reason : String)
  | allocationFailure (reason : String)
  | timeout (messageId : UInt32) (waited : Duration)
  | connectTimeout (waited : Duration)
  | connectionDown
  | closed
  | codec (error : CodecError)
  | config (reason : String)
  | websocket (reason : String)
  | tls (reason : String)
  | reconnectExhausted (attempts : UInt32)
  | shutdown
  deriving DecidableEq, Repr

namespace Failure

def message : Failure → String
  | invalidParameter reason => "invalid parameter: " ++ reason
  | allocationFailure reason => "allocation failure: " ++ reason
  | timeout messageId waited =>
      "message " ++ Decimal.naturalString messageId.toNat ++ " got no reply within " ++ waited.text
  | connectTimeout waited => "not connected within " ++ waited.text
  | connectionDown => "connection down"
  | closed => "closed"
  | codec error => "codec: " ++ error.message
  | config reason => "config: " ++ reason
  | websocket reason => "websocket: " ++ reason
  | tls reason => "tls: " ++ reason
  | reconnectExhausted attempts =>
      "reconnect exhausted after " ++ Decimal.naturalString attempts.toNat ++ " attempts"
  | shutdown => "shutdown"

def code : Failure → ResultCode
  | invalidParameter _ | config _ => .invalidParameter
  | codec error => error.code
  | allocationFailure _ => .allocationFailure
  | timeout _ _ | connectTimeout _ => .timeout
  | connectionDown | closed | websocket _ | tls _ | reconnectExhausted _ | shutdown =>
      .connectionDown

end Failure

/--
The code goes onto the wire; the reason is for people.  The link does not look at the code,
so even that of success may be one.
-/
structure DeviceError where
  code : ResultCode
  reason : String
  deriving DecidableEq, Repr

namespace DeviceError

def propertyNotExist (key : String) : DeviceError :=
  ⟨.propertyNotExist, "no property '" ++ key ++ "'"⟩

def serviceNotExist (name : String) : DeviceError :=
  ⟨.serviceNotExist, "no service '" ++ name ++ "'"⟩

def rangeOverflow (reason : String) : DeviceError := ⟨.rangeOverflow, reason⟩

def invalidParameter (reason : String) : DeviceError := ⟨.invalidParameter, reason⟩

def unknown (reason : String) : DeviceError := ⟨.unknown, reason⟩

def message (error : DeviceError) : String := error.code.text ++ ": " ++ error.reason

end DeviceError
end DeviceLink
