import DeviceLink.Duration

namespace DeviceLink

/-!
What can be tuned about the core of a link.  Every number here may be zero; where zero
makes no sense, the least sensible number stands for it or the plan is refused.  Some of
them are limits, and some are spans after which somebody gives up.  The standard options
are those of a client that nobody has configured, and what the written settings do not
speak of keeps its standard value.
-/

structure Options where
  /-- The budget of a synchronous report.  It starts before the report is sent. -/
  requestTimeout : Duration
  /-- The budget for announcing or withdrawing a device, which is a long one unless it is set. -/
  handshakeTimeout : Duration
  workers : Nat
  queueDepth : Nat
  /--
  The number of output slots that a service call may fill.  All of them are made before the
  service is called.
  -/
  outputSlots : Nat
  /--
  Synchronous requests that may await a reply at once; zero does not limit them.  One more
  than that is refused before it is sent.
  -/
  maxInFlight : Nat
  /-- How long a shutdown lets accepted work finish.  What has not ended by then is abandoned. -/
  drainTimeout : Duration
  deriving DecidableEq, Repr

namespace Options

def standard : Options :=
  { requestTimeout := .ofSeconds 10
    handshakeTimeout := .ofSeconds 1200
    workers := 5
    queueDepth := 5120
    outputSlots := 16
    maxInFlight := 1024
    drainTimeout := .ofSeconds 5 }

/--
There is always at least one worker.  A core can be made without a plan, and then nobody has
refused the zero.
-/
def workerCount (options : Options) : Nat := max options.workers 1

/-- There is always room for at least one job.  It counts the jobs that have not begun. -/
def queueLimit (options : Options) : Nat := max options.queueDepth 1

end Options
end DeviceLink
