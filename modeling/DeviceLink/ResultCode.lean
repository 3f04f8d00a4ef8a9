import DeviceLink.Decimal.Layout

namespace DeviceLink

/-!
The result codes that both ends of a link understand.  A number outside the table is
read as `unknown`, so reading a code back gives the same code.  Each code has a number
for the wire, a name for programs and a text for people.  Zero is the number of success,
and all other codes stand for one kind of failure or another.
-/

inductive ResultCode
  | success
  | unknown
  | invalidParameter
  | allocationFailure
  | timeout
  | rangeOverflow
  | propertyNotExist
  | serviceNotExist
  | connectionDown
  deriving DecidableEq, Repr

namespace ResultCode

def number : ResultCode → Int32
  | success => 0
  | unknown => 100000
  | invalidParameter => 100001
  | allocationFailure => 100002
  | timeout => 100006
  | rangeOverflow => 100007
  | propertyNotExist => 109002
  | serviceNotExist => 109005
  | connectionDown => 109009

def all : List ResultCode :=
  [success, unknown, invalidParameter, allocationFailure, timeout, rangeOverflow,
    propertyNotExist, serviceNotExist, connectionDown]

def ofNumber (number : Int32) : ResultCode :=
  (all.find? fun code => code.number = number).getD unknown

def name : ResultCode → String
  | success => "success"
  | unknown => "unknown"
  | invalidParameter => "invalid_parameter"
  | allocationFailure => "allocation_failure"
  | timeout => "timeout"
  | rangeOverflow => "range_overflow"
  | propertyNotExist => "property_not_exist"
  | serviceNotExist => "service_not_exist"
  | connectionDown => "connection_down"

/-- The name with the number in parentheses.  It is how a code shows in a message for people. -/
def text (code : ResultCode) : String :=
  code.name ++ "(" ++ Decimal.integerString code.number.toInt ++ ")"

def isSuccess (code : ResultCode) : Bool := code = success

theorem ofNumber_number (code : ResultCode) : ofNumber code.number = code := by
  cases code <;> decide

end ResultCode
end DeviceLink
