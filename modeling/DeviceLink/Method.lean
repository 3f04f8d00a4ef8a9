namespace DeviceLink

/-!
The methods of the link: four that a device calls, three that the gateway calls.  Each
has a name of its own on the wire, and the names of the payload members are the same for
all of them.  An inbound call with any other method is refused, and so is one whose
method is for devices to call.  For the data of a call two names are accepted, and which
of them is tried first depends on the method.
-/

inductive Method
  | onlineDevice
  | offlineDevice
  | reportProperty
  | reportEvent
  | getProperty
  | setProperty
  | callService
  deriving DecidableEq, Repr

namespace Method

def name : Method → String
  | onlineDevice => "onlineDevice"
  | offlineDevice => "offlineDevice"
  | reportProperty => "reportProperty"
  | reportEvent => "reportEvent"
  | getProperty => "getProperty"
  | setProperty => "setProperty"
  | callService => "callService"

def all : List Method :=
  [onlineDevice, offlineDevice, reportProperty, reportEvent, getProperty, setProperty, callService]

def ofName? (name : String) : Option Method := all.find? fun method => method.name = name

/--
Whether the gateway calls this method on a device.  The others go the opposite way and are
no calls on a device.
-/
def isInbound : Method → Bool
  | getProperty => true
  | setProperty => true
  | callService => true
  | _ => false

def propertiesField : String := "properties"

def inputDataField : String := "inputData"

def outputDataField : String := "outputData"

def identifierField : String := "identifier"

/--
The payload member that holds the data of a call, and the one tried when it is absent.
Gateways have used either name for the data, so both are accepted.  A call is read from
whichever of the two is there, so data under the other name are honoured as well.
-/
def dataFields : Method → String × String
  | callService => (inputDataField, propertiesField)
  | _ => (propertiesField, inputDataField)

theorem ofName?_name (method : Method) : ofName? method.name = some method := by
  cases method <;> decide

end Method
end DeviceLink
