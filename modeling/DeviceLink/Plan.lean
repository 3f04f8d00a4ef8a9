import DeviceLink.Failure
import DeviceLink.Settings

namespace DeviceLink

/-!
The plan of a client: settings in the units in which a running client uses them.  A plan
may be changed field by field; only a plan that passes `check` is carried out.  The
first fault that `check` comes to is the one that it reports, so plans with several
faults have one message.  No limit is put on numbers and times from above; what comes of
very long times is settled by the clock, when a deadline is worked out.
-/

structure Plan where
  url : String
  tls : TlsFiles
  connectTimeout : Duration
  heartbeat : Duration
  outboundCapacity : Nat
  maxInboundBytes : Nat
  backoff : Backoff
  options : Options
  deriving DecidableEq, Repr

namespace Plan

def ofSettings (settings : Settings) : Plan :=
  { url := settings.url
    tls := settings.tls
    connectTimeout := .ofSeconds settings.connectTimeoutSeconds.toNat
    heartbeat := .ofSeconds settings.heartbeatSeconds.toNat
    outboundCapacity := settings.outboundCapacity.toNat
    maxInboundBytes := settings.maxInboundBytes.toNat
    backoff := settings.backoff
    options := settings.options }

def standard : Plan := ofSettings .standard

/--
Why a plan cannot be carried out.  Whoever hears of it gets one sentence that names the
setting.
-/
inductive Fault
  | scheme (url : String)
  | secureLink
  | noWorker
  | noOutboundRoom
  | noTime
  deriving DecidableEq, Repr

def Fault.message : Fault → String
  | .scheme url => "gateway url must start with ws:// or wss://, got '" ++ url ++ "'"
  | .secureLink => "wss:// needs the `tls` feature of leda-sdk"
  | .noWorker => "workers and queue_depth must be at least 1"
  | .noOutboundRoom => "outbound_capacity must be at least 1"
  | .noTime => "heartbeat_interval and connect_timeout must be non-zero"

/--
The first thing that is wrong with a plan; encrypted links are not available.  Only zero is
looked for among numbers and times, and never a number that is too large.
-/
def fault? (plan : Plan) : Option Fault :=
  if !Settings.isSecureUrl plan.url && !Settings.isPlainUrl plan.url then some (.scheme plan.url)
  else if Settings.isSecureUrl plan.url then some .secureLink
  else if plan.options.workers = 0 || plan.options.queueDepth = 0 then some .noWorker
  else if plan.outboundCapacity = 0 then some .noOutboundRoom
  else if plan.heartbeat.isZero || plan.connectTimeout.isZero then some .noTime
  else none

def check (plan : Plan) : Except Failure Plan :=
  match plan.fault? with
  | some fault => .error (.config fault.message)
  | none => .ok plan

/-! Changing a plan. -/

def withUrl (plan : Plan) (url : String) : Plan := { plan with url := url }

def withAuthorities (plan : Plan) (path : String) : Plan :=
  { plan with tls := { plan.tls with authorities := some path } }

def withClientCertificate (plan : Plan) (certificate key : String) : Plan :=
  { plan with tls := { plan.tls with certificate := some certificate, key := some key } }

def withConnectTimeout (plan : Plan) (span : Duration) : Plan :=
  { plan with connectTimeout := span }

def withHeartbeat (plan : Plan) (span : Duration) : Plan := { plan with heartbeat := span }

def withBackoff (plan : Plan) (backoff : Backoff) : Plan := { plan with backoff := backoff }

def withOutboundCapacity (plan : Plan) (count : Nat) : Plan :=
  { plan with outboundCapacity := count }

def withMaxInboundBytes (plan : Plan) (count : Nat) : Plan := { plan with maxInboundBytes := count }

/-- Change what concerns the core.  The rest of the plan stays as it is. -/
def withOptions (plan : Plan) (change : Options → Options) : Plan :=
  { plan with options := change plan.options }

/--
The link is taken for dead after this many silent heartbeats.  Any traffic starts the count
again.
-/
def silentHeartbeats : Nat := 3

/--
How long a link may be silent.  The product is exact here, and may be more than a span of
time can hold.
-/
def idleLimit (plan : Plan) : Duration := ⟨plan.heartbeat.nanoseconds * silentHeartbeats⟩

end Plan
end DeviceLink
