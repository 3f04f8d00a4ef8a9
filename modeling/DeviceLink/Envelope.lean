import DeviceLink.Json.Record
import DeviceLink.Json.Printer
import DeviceLink.Method

namespace DeviceLink

/-!
The envelope around every frame: a message id, a payload, and either the method of a
call or the code of a reply.  Reading is two steps: the form of the envelope, and which
of the two kinds of frame it is.  A frame that has both a method and a code, or neither
of them, has the form of an envelope and is still refused, with a message that names its
id.  The payload is a value and is looked at by those who know what it is for.
-/

structure Envelope where
  version : Option String
  messageId : UInt32
  method : Option String
  code : Option Int32
  payload : Json.Value
  deriving BEq

/-- A frame that has been told apart.  The version is of no interest from here on. -/
inductive Inbound
  | response (messageId : UInt32) (code : Int32) (payload : Json.Value)
  | call (messageId : UInt32) (method : String) (payload : Json.Value)
  deriving BEq

inductive EnvelopeError
  | malformed
  | ambiguous (messageId : UInt32)
  | noDiscriminant (messageId : UInt32)
  deriving DecidableEq, Repr

namespace EnvelopeError

def message : EnvelopeError → String
  | malformed => "malformed frame"
  | ambiguous messageId =>
      "frame " ++ Decimal.naturalString messageId.toNat ++ " carries both 'code' and 'method'"
  | noDiscriminant messageId =>
      "frame " ++ Decimal.naturalString messageId.toNat ++ " carries neither 'code' nor 'method'"

end EnvelopeError

namespace Envelope

/--
The version that every outbound call states.  Replies state none, and inbound frames may
state any.
-/
def protocolVersion : String := "1.0"

/--
The subprotocol a device offers when it connects.  It names the protocol of the gateway and
is the same for all devices.
-/
def subprotocol : String := "alibaba-iot-linkedge-protocol"

/-- The fields in the order in which they are written.  Reading accepts them in any order. -/
def fields : List String := ["version", "messageId", "method", "code", "payload"]

def request (messageId : UInt32) (method : Method) (payload : Json.Members) : Envelope :=
  { version := some protocolVersion
    messageId := messageId
    method := some method.name
    code := none
    payload := .object payload }

def response (messageId : UInt32) (code : Int32) (payload : Json.Members) : Envelope :=
  { version := none
    messageId := messageId
    method := none
    code := some code
    payload := .object payload }

def ofRecord? (record : Json.Record) : Option Envelope :=
  match record.withDefault? "version" (Json.Document.nullable? Json.Document.string?) none,
      record.required? "messageId" Json.Document.uint32?,
      record.withDefault? "method" (Json.Document.nullable? Json.Document.string?) none,
      record.withDefault? "code" (Json.Document.nullable? Json.Document.int32?) none,
      record.withDefault? "payload" (Json.Value.ofDocument? (Json.Value.nestingLimit - 1))
        (.object []) with
  | some version, some messageId, some method, some code, some payload =>
      some ⟨version, messageId, method, code, payload⟩
  | _, _, _, _, _ => none

/--
Read an envelope; the envelope itself is one of the nested objects that a text may hold.  So
the payload may be nested one level less deeply than a text on its own.
-/
def ofText? (text : String) : Option Envelope :=
  match Json.Document.ofText? text with
  | some document => (Json.Record.ofDocument? fields document).bind ofRecord?
  | none => none

/-- A member that is written only when it is there.  Absence is never written as null. -/
def optionalMember (name : String) (value : Option (List Char)) : List (List Char) :=
  (value.map (Json.memberText name)).toList

def render (envelope : Envelope) : List Char :=
  Json.objectText
    (optionalMember "version" (envelope.version.map Json.Quoted.encode) ++
      [Json.memberText "messageId" (Decimal.naturalText envelope.messageId.toNat)] ++
      optionalMember "method" (envelope.method.map Json.Quoted.encode) ++
      optionalMember "code" (envelope.code.map fun code => Decimal.integerText code.toInt) ++
      [Json.memberText "payload" envelope.payload.render])

/-- The text of a frame.  Nothing stands between its parts, and every text inside it is quoted. -/
def text (envelope : Envelope) : String := String.ofList envelope.render

/--
A frame has either a code or a method.  A frame with both or neither is at fault, but its id
is known and can be reported.
-/
def classify (envelope : Envelope) : Except EnvelopeError Inbound :=
  match envelope.code, envelope.method with
  | some code, none => .ok (.response envelope.messageId code envelope.payload)
  | none, some method => .ok (.call envelope.messageId method envelope.payload)
  | some _, some _ => .error (.ambiguous envelope.messageId)
  | none, none => .error (.noDiscriminant envelope.messageId)

end Envelope

namespace Inbound

/--
Read and tell apart the text of one frame.  Every fault of the form is the same error,
without a position or a reason.
-/
def ofText (text : String) : Except EnvelopeError Inbound :=
  match Envelope.ofText? text with
  | some envelope => envelope.classify
  | none => .error .malformed

end Inbound

theorem Envelope.classify_request (messageId : UInt32) (method : Method) (payload : Json.Members) :
    (Envelope.request messageId method payload).classify =
      .ok (.call messageId method.name (.object payload)) :=
  rfl

theorem Envelope.classify_response (messageId : UInt32) (code : Int32) (payload : Json.Members) :
    (Envelope.response messageId code payload).classify =
      .ok (.response messageId code (.object payload)) :=
  rfl

end DeviceLink
