import DeviceLink.Address
import DeviceLink.Failure

namespace DeviceLink

/-!
A fleet of simulated lamps.  Every configured address leads to one lamp, also when it is
configured more than once; writing a property touches the addressed lamp alone, and an
operation that fails touches none.  A lamp has two properties, its power and its
brightness, and one service that lets it blink.  It serves as long as it is configured,
whether or not it has been announced; being online only says what the gateway has been
told.
-/

/-- The brightest setting of a lamp.  Settings are whole numbers from zero up to this one. -/
def maxBrightness : Nat := 100

structure Lamp where
  power : Bool
  brightness : Fin (maxBrightness + 1)
  online : Bool
  deriving DecidableEq, Repr

namespace Lamp

/--
Switched off and not announced.  Every lamp starts like this, whatever the gateway knows of
it.
-/
def dark : Lamp := ⟨false, 0, false⟩

/--
A lamp that is switched on but emits no light counts as broken.  Nothing else can break, so
the state alone decides.
-/
def isBroken (lamp : Lamp) : Bool := lamp.power && lamp.brightness = 0

def brightnessKey : String := "brightness"

def powerKey : String := "power"

def brightnessDatum (lamp : Lamp) : Datum :=
  Datum.ofInt brightnessKey (Int64.ofInt lamp.brightness.val)

def powerDatum (lamp : Lamp) : Datum := Datum.ofBool powerKey lamp.power

def property (lamp : Lamp) (key : String) : Except DeviceError Datum :=
  if key = powerKey then .ok lamp.powerDatum
  else if key = brightnessKey then .ok lamp.brightnessDatum
  else .error (.propertyNotExist key)

/--
The properties in the order of the keys, or the first key that is none.  A key that is asked
for twice is answered twice.
-/
def properties (lamp : Lamp) : List String → Except DeviceError (List Datum)
  | [] => .ok []
  | key :: rest =>
      match lamp.property key with
      | .error error => .error error
      | .ok datum =>
          match lamp.properties rest with
          | .error error => .error error
          | .ok data => .ok (datum :: data)

/--
The integer that a value spells, without blanks around it.  The declared type of the datum
does not matter.
-/
def level (datum : Datum) : Except DeviceError Int :=
  match Decimal.readInt64? datum.value.toList with
  | some value => .ok value.toInt
  | none => .error (.invalidParameter ("'" ++ datum.value ++ "' is not an integer"))

def setPower (lamp : Lamp) (level : Int) : Except DeviceError Lamp :=
  if level = 0 then .ok { lamp with power := false }
  else if level = 1 then .ok { lamp with power := true }
  else .error (.rangeOverflow ("power must be 0 or 1, got " ++ Decimal.integerString level))

def setBrightness (lamp : Lamp) (level : Int) : Except DeviceError Lamp :=
  if inRange : 0 ≤ level ∧ level ≤ maxBrightness then
    .ok { lamp with brightness := ⟨level.toNat, by omega⟩ }
  else
    .error (.rangeOverflow
      ("brightness must be 0..=" ++ Decimal.naturalString maxBrightness ++ ", got " ++
        Decimal.integerString level))

def set (lamp : Lamp) (datum : Datum) : Except DeviceError Lamp :=
  if datum.key = powerKey then
    match level datum with
    | .ok level => lamp.setPower level
    | .error error => .error error
  else if datum.key = brightnessKey then
    match level datum with
    | .ok level => lamp.setBrightness level
    | .error error => .error error
  else .error (.propertyNotExist datum.key)

end Lamp

structure Fleet where
  /--
  The configured addresses, as they were given.  An address that was given twice stands here
  twice, and is announced and reported twice.
  -/
  order : List Address
  lamps : List (Address × Lamp)
  deriving DecidableEq, Repr

namespace Fleet

/--
One dark lamp for every address.  There is one even for an address that was given several
times.
-/
def new (addresses : List Address) : Fleet :=
  ⟨addresses, addresses.eraseDups.map fun address => (address, Lamp.dark)⟩

def lamp? (fleet : Fleet) (address : Address) : Option Lamp :=
  (fleet.lamps.find? fun entry => entry.1 = address).map Prod.snd

/-- Change the lamp at an address and no other.  Without such a lamp nothing changes. -/
def modify (fleet : Fleet) (address : Address) (change : Lamp → Lamp) : Fleet :=
  { fleet with
    lamps := fleet.lamps.map fun entry =>
      if entry.1 = address then (entry.1, change entry.2) else entry }

def setOnline (fleet : Fleet) (address : Address) (online : Bool) : Fleet :=
  fleet.modify address fun lamp => { lamp with online := online }

def markAllOffline (fleet : Fleet) : Fleet :=
  { fleet with lamps := fleet.lamps.map fun entry => (entry.1, { entry.2 with online := false }) }

def isOnline (fleet : Fleet) (address : Address) : Bool :=
  ((fleet.lamp? address).map Lamp.online).getD false

/--
The announced addresses in the configured order.  These are the ones that are reported at a
tick and withdrawn at the end.
-/
def online (fleet : Fleet) : List Address := fleet.order.filter fleet.isOnline

/--
What is reported about a lamp.  Unlike an answer to the gateway, it always has both
properties, in a fixed order.
-/
def snapshot? (fleet : Fleet) (address : Address) : Option (List Datum) :=
  (fleet.lamp? address).map fun lamp => [lamp.brightnessDatum, lamp.powerDatum]

def isBroken (fleet : Fleet) (address : Address) : Bool :=
  ((fleet.lamp? address).map Lamp.isBroken).getD false

def find (fleet : Fleet) (address : Address) : Except DeviceError Lamp :=
  match fleet.lamp? address with
  | some lamp => .ok lamp
  | none => .error (.invalidParameter ("unknown device " ++ address.text))

def getProperties (fleet : Fleet) (address : Address) (keys : List String) :
    Except DeviceError (List Datum) :=
  match fleet.find address with
  | .ok lamp => lamp.properties keys
  | .error error => .error error

def setProperty (fleet : Fleet) (address : Address) (datum : Datum) : Except DeviceError Fleet :=
  match fleet.find address with
  | .error error => .error error
  | .ok lamp =>
      match lamp.set datum with
      | .error error => .error error
      | .ok changed => .ok (fleet.modify address fun _ => changed)

/-- The one service of a lamp.  Its inputs are of no interest, and it fills no output. -/
def blinkService : String := "blink"

/--
Blinking changes nothing; a wrong service is reported before a wrong address.  Every other
name is a service that does not exist.
-/
def callService (fleet : Fleet) (address : Address) (service : String) : Except DeviceError Unit :=
  if service = blinkService then
    match fleet.find address with
    | .ok _ => .ok ()
    | .error error => .error error
  else .error (.serviceNotExist service)

end Fleet
end DeviceLink
