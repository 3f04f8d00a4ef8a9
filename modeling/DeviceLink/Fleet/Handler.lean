import DeviceLink.Activity
import DeviceLink.Fleet

namespace DeviceLink
namespace Fleet

/-!
The device code of a fleet of lamps.  It never waits and never crashes, so each callback
is a single stretch of code, and a whole call is one too.  It reads and writes the fleet
through the functions of the fleet, and turns their failures into those of a device.
What a call does to the fleet is therefore a function of the fleet and the call, and
does not depend on when the call is carried out.
-/

/--
Read a property list from the fleet as it is now.  All properties of one answer come from
the same state of the lamp.
-/
def readProperties (device : Address) (keys : List String) : Activity Fleet (List Datum) :=
  .read fun fleet => .ofExcept (fleet.getProperties device keys)

/--
Set one property of one lamp.  An item that is refused leaves the fleet as it was, also when
earlier items of the same call have been accepted.
-/
def writeProperty (device : Address) (datum : Datum) : Activity Fleet Unit :=
  .read fun fleet =>
    match fleet.setProperty device datum with
    | .ok changed => .write changed (.done ())
    | .error error => .fail error

def handler : Handler Fleet where
  getProperties := readProperties
  setProperty := writeProperty
  callService := fun device service _ outputs =>
    .read fun fleet =>
      match fleet.callService device service with
      | .ok () => .done outputs
      | .error error => .fail error

end Fleet
end DeviceLink
