import DeviceLink.Json.Printer

namespace DeviceLink

/-!
The address of a device, and the two payload members that carry it.  A device belongs to
a product, and only both names together tell it apart from other devices; every frame
about a device has both among its members.  `payload` writes the members and
`ofPayload?` reads them, and what the one writes the other reads back.  The text of an
address, with a colon between its parts, is for messages only and is never read.
-/

structure Address where
  productKey : String
  deviceName : String
  deriving DecidableEq, Repr

namespace Address

def text (address : Address) : String := address.productKey ++ ":" ++ address.deviceName

def productKeyField : String := "productKey"

def deviceNameField : String := "deviceName"

/--
A payload that says nothing but the address.  It is what announces a device or withdraws it,
and the start of every payload that says more.
-/
def payload (address : Address) : Json.Members :=
  Json.Members.ofList
    [(productKeyField, .string address.productKey), (deviceNameField, .string address.deviceName)]

/--
The address in a payload; both members must be strings.  A payload in which one of them is
missing or is no string has no address, and nobody can be answered about it.
-/
def ofPayload? (payload : Json.Value) : Option Address :=
  match (payload.get? productKeyField).bind Json.Value.string?,
      (payload.get? deviceNameField).bind Json.Value.string? with
  | some productKey, some deviceName => some ⟨productKey, deviceName⟩
  | _, _ => none

/--
Neither part is the empty text.  Requests about other addresses are refused before they are
sent; inbound calls are not held to this.
-/
def isComplete (address : Address) : Bool :=
  !address.productKey.isEmpty && !address.deviceName.isEmpty

theorem ofPayload?_payload (address : Address) :
    ofPayload? (.object address.payload) = some address := by
  have order : deviceNameField < productKeyField := by decide
  have distinct : productKeyField ≠ deviceNameField := by decide
  simp [ofPayload?, payload, Json.Members.ofList, Json.Members.insert, Json.Value.get?,
    Json.Members.get?, Json.Value.string?, order, distinct.symm]

end Address
end DeviceLink
