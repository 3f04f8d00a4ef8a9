import DeviceLink.Backoff
import DeviceLink.Options

namespace DeviceLink

/-!
The written settings of a client.  Every field has a default, so an empty object is a
complete description of a client for a gateway on the same machine.  The written form
and the read one have the same fields, under the same names.  They are read from any
notation in the same way and written in JSON, with the fields in a fixed order.  Counts
are words of 64 bits.  The part that concerns the core becomes its options, and the rest
becomes a plan for the client.
-/

/--
Files with certificates, given by their paths.  They are named here and opened by whoever
sets up an encrypted link.
-/
structure TlsFiles where
  authorities : Option String
  certificate : Option String
  key : Option String
  deriving DecidableEq, Repr

namespace TlsFiles

def none : TlsFiles := ⟨.none, .none, .none⟩

/--
A client identifies itself only with a certificate and its key.  One without the other
counts as neither.
-/
def hasClientAuth (files : TlsFiles) : Bool := files.certificate.isSome && files.key.isSome

def fields : List String := ["ca_path", "cert_path", "key_path"]

def ofFields? {δ : Type} (source : Source δ) (given : Fields δ) : Option TlsFiles :=
  match given.withDefault? "ca_path" source.optionalString? .none,
      given.withDefault? "cert_path" source.optionalString? .none,
      given.withDefault? "key_path" source.optionalString? .none with
  | some authorities, some certificate, some key => some ⟨authorities, certificate, key⟩
  | _, _, _ => .none

def read? {δ : Type} (source : Source δ) (value : δ) : Option TlsFiles :=
  (source.fields? fields value).bind (ofFields? source)

def pathText (path : Option String) : List Char :=
  match path with
  | some text => Json.Quoted.encode text
  | .none => "null".toList

def render (files : TlsFiles) : List Char :=
  Json.objectText
    [Json.memberText "ca_path" (pathText files.authorities),
      Json.memberText "cert_path" (pathText files.certificate),
      Json.memberText "key_path" (pathText files.key)]

end TlsFiles

structure Settings where
  url : String
  tls : TlsFiles
  connectTimeoutSeconds : UInt64
  requestTimeoutSeconds : UInt64
  handshakeTimeoutSeconds : UInt64
  heartbeatSeconds : UInt64
  workers : UInt64
  queueDepth : UInt64
  outputSlots : UInt64
  outboundCapacity : UInt64
  maxInboundBytes : UInt64
  maxInFlight : UInt64
  backoff : Backoff
  deriving DecidableEq, Repr

namespace Settings

def standard : Settings :=
  { url := "ws://127.0.0.1:17682"
    tls := .none
    connectTimeoutSeconds := 10
    requestTimeoutSeconds := 10
    handshakeTimeoutSeconds := 1200
    heartbeatSeconds := 30
    workers := 5
    queueDepth := 5120
    outputSlots := 16
    outboundCapacity := 256
    maxInboundBytes := 262144
    maxInFlight := 1024
    backoff := .standard }

def secureScheme : String := "wss://"

def plainScheme : String := "ws://"

def isSecureUrl (url : String) : Bool := url.startsWith secureScheme

def isPlainUrl (url : String) : Bool := url.startsWith plainScheme

def isTls (settings : Settings) : Bool := isSecureUrl settings.url

/--
The part of the settings that concerns the core.  What the settings do not speak of has its
standard value.
-/
def options (settings : Settings) : Options :=
  { Options.standard with
    requestTimeout := .ofSeconds settings.requestTimeoutSeconds.toNat
    handshakeTimeout := .ofSeconds settings.handshakeTimeoutSeconds.toNat
    workers := settings.workers.toNat
    queueDepth := settings.queueDepth.toNat
    outputSlots := settings.outputSlots.toNat
    maxInFlight := settings.maxInFlight.toNat }

/-- The fields in the order in which they are written. -/
def fields : List String :=
  ["url", "tls", "connect_timeout_secs", "request_timeout_secs", "handshake_timeout_secs",
    "heartbeat_interval_secs", "workers", "queue_depth", "service_output_max_count",
    "outbound_capacity", "max_inbound_bytes", "max_in_flight", "reconnect"]

/--
A field that counts something.  Negative numbers and fractions are no counts, and make the
whole unreadable.
-/
def count? {δ : Type} (source : Source δ) (given : Fields δ) (field : String)
    (default : UInt64) : Option UInt64 :=
  given.withDefault? field source.word64? default

def ofFields? {δ : Type} (source : Source δ) (given : Fields δ) : Option Settings := do
  let url ← given.withDefault? "url" source.string? standard.url
  let tls ← given.withDefault? "tls" (TlsFiles.read? source) standard.tls
  let connectTimeout ← count? source given "connect_timeout_secs" standard.connectTimeoutSeconds
  let requestTimeout ← count? source given "request_timeout_secs" standard.requestTimeoutSeconds
  let handshakeTimeout ←
    count? source given "handshake_timeout_secs" standard.handshakeTimeoutSeconds
  let heartbeat ← count? source given "heartbeat_interval_secs" standard.heartbeatSeconds
  let workers ← count? source given "workers" standard.workers
  let queueDepth ← count? source given "queue_depth" standard.queueDepth
  let outputSlots ← count? source given "service_output_max_count" standard.outputSlots
  let outboundCapacity ← count? source given "outbound_capacity" standard.outboundCapacity
  let maxInboundBytes ← count? source given "max_inbound_bytes" standard.maxInboundBytes
  let maxInFlight ← count? source given "max_in_flight" standard.maxInFlight
  let backoff ← given.withDefault? "reconnect" (Backoff.read? source) standard.backoff
  return {
    url := url
    tls := tls
    connectTimeoutSeconds := connectTimeout
    requestTimeoutSeconds := requestTimeout
    handshakeTimeoutSeconds := handshakeTimeout
    heartbeatSeconds := heartbeat
    workers := workers
    queueDepth := queueDepth
    outputSlots := outputSlots
    outboundCapacity := outboundCapacity
    maxInboundBytes := maxInboundBytes
    maxInFlight := maxInFlight
    backoff := backoff }

/-- Read settings in any notation. -/
def read? {δ : Type} (source : Source δ) (value : δ) : Option Settings :=
  (source.fields? fields value).bind (ofFields? source)

def ofText? (text : String) : Option Settings :=
  (Json.Document.ofText? text).bind (read? Json.source)

/-- A field that counts something, as it is written. -/
def countText (field : String) (value : UInt64) : List Char :=
  Json.memberText field (Decimal.naturalText value.toNat)

def render (settings : Settings) : List Char :=
  Json.objectText
    [Json.memberText "url" (Json.Quoted.encode settings.url),
      Json.memberText "tls" settings.tls.render,
      countText "connect_timeout_secs" settings.connectTimeoutSeconds,
      countText "request_timeout_secs" settings.requestTimeoutSeconds,
      countText "handshake_timeout_secs" settings.handshakeTimeoutSeconds,
      countText "heartbeat_interval_secs" settings.heartbeatSeconds,
      countText "workers" settings.workers,
      countText "queue_depth" settings.queueDepth,
      countText "service_output_max_count" settings.outputSlots,
      countText "outbound_capacity" settings.outboundCapacity,
      countText "max_inbound_bytes" settings.maxInboundBytes,
      countText "max_in_flight" settings.maxInFlight,
      Json.memberText "reconnect" settings.backoff.render]

def text (settings : Settings) : String := String.ofList settings.render

end Settings
end DeviceLink
