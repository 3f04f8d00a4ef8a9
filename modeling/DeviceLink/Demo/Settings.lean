import DeviceLink.Address
import DeviceLink.Plan
import DeviceLink.Semaphore
import DeviceLink.Toml.Reader

namespace DeviceLink
namespace Demo

/-!
The settings of the demonstration: a gateway, a reporting interval, and lamps.  They are
read as a whole, and nothing is started unless all of them are in order.  The rest of a
start is the same for all settings: the gateway's part becomes a plan, the plan is
checked, and the number of workers has to be one for which there are permits.  Every
fault has its exit code.
-/

structure Settings where
  gateway : DeviceLink.Settings
  reportSeconds : UInt64
  lamps : List Address
  deriving DecidableEq, Repr

namespace Settings

def fields : List String := ["gateway", "report_interval_secs", "devices"]

def lampFields : List String := ["product_key", "device_name"]

def standardReportSeconds : UInt64 := 15

/--
A lamp needs both parts of its address.  Neither has a default, so a lamp without one of
them makes all settings unreadable.
-/
def readLamp? {δ : Type} (source : Source δ) (value : δ) : Option Address :=
  match source.fields? lampFields value with
  | none => none
  | some given =>
      match given.required? "product_key" source.string?,
          given.required? "device_name" source.string? with
      | some productKey, some deviceName => some ⟨productKey, deviceName⟩
      | _, _ => none

def readLamps? {δ : Type} (source : Source δ) (value : δ) : Option (List Address) :=
  (source.items? value).bind fun items => items.mapM (readLamp? source)

def ofFields? {δ : Type} (source : Source δ) (given : Fields δ) : Option Settings :=
  match given.withDefault? "gateway" (DeviceLink.Settings.read? source) .standard,
      given.withDefault? "report_interval_secs" source.word64? standardReportSeconds,
      given.withDefault? "devices" (readLamps? source) [] with
  | some gateway, some reportSeconds, some lamps => some ⟨gateway, reportSeconds, lamps⟩
  | _, _, _ => none

def read? {δ : Type} (source : Source δ) (value : δ) : Option Settings :=
  (source.fields? fields value).bind (ofFields? source)

def ofText? (text : String) : Option Settings := (Toml.ofText? text).bind (read? Toml.source)

/-- Reports are at least a second apart.  An interval of zero counts as one second. -/
def reportInterval (settings : Settings) : Duration :=
  .ofSeconds (Nat.max settings.reportSeconds.toNat 1)

end Settings

/--
Why the demonstration does not start.  The reasons are listed in the order in which they are
looked for.
-/
inductive StartFault
  | unreadable
  | noLamps
  | refused (failure : Failure)
  /--
  There are no permits for so many workers.  The limit is that of the semaphore behind the
  pool, and going beyond it is a crash.
  -/
  | tooManyWorkers (workers : Nat)
  deriving DecidableEq, Repr

namespace StartFault

/--
The exit code of a demonstration that ends with an error.  All errors share it; the text on
the terminal tells them apart.
-/
def errorCode : UInt32 := 1

/--
The exit code of a demonstration that crashes.  It is the one that the runtime itself uses
for a crash.
-/
def crashCode : UInt32 := 101

def exitCode : StartFault → UInt32
  | unreadable => errorCode
  | noLamps => errorCode
  | refused _ => errorCode
  | tooManyWorkers _ => crashCode

end StartFault

/--
Settings that are complete, with the plan they lead to.  Whoever has one of these can start
without further checks.
-/
structure Start where
  settings : Settings
  plan : Plan
  deriving DecidableEq, Repr

/--
Read the settings and check them before anything is started.  The first fault ends the
reading, so at most one is reported.
-/
def Start.ofText (text : String) : Except StartFault Start :=
  match Settings.ofText? text with
  | none => .error .unreadable
  | some settings =>
      if settings.lamps.isEmpty then .error .noLamps
      else
        match (Plan.ofSettings settings.gateway).check with
        | .ok plan =>
            if Semaphore.permitLimit < plan.options.workerCount then
              .error (.tooManyWorkers plan.options.workerCount)
            else .ok ⟨settings, plan⟩
        | .error failure => .error (.refused failure)

end Demo
end DeviceLink
