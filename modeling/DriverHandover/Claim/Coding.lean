import DriverHandover.Claim
import DriverHandover.Metadata.Coding

/-!
# Claims in JSON

Reading passes over members that a claim has no place for, and fails on one of the wrong type.
Writing leaves out what is missing and the lists of devices and consumers where they are empty.

## Main definitions

* `Claim.read` – reads a claim.
* `Claim.ofJson?` – the claim that a value describes.
* `Claim.toJson`, `ClaimStatus.toJson` – the value that describes a claim, or its status.
-/

namespace DriverHandover

open Json.Draft (optional asString list record)

namespace AllocatedDevice

/-- A device of which nothing is known. -/
def empty : AllocatedDevice := ⟨"", "", "", ""⟩

/-- The fields of a device. -/
def fields : List (Json.Field AllocatedDevice) := [
  .given "request" asString fun d v => { d with request := v },
  .given "driver" asString fun d v => { d with driver := v },
  .given "pool" asString fun d v => { d with pool := v },
  .given "device" asString fun d v => { d with device := v }]

/-- Reads a device. -/
def read : Json.Draft → JsonReading AllocatedDevice :=
  record fields empty

/-- The value that describes a device. -/
def toJson (d : AllocatedDevice) : Json :=
  .object [("request", .string d.request), ("driver", .string d.driver), ("pool", .string d.pool),
    ("device", .string d.device)]

end AllocatedDevice

namespace Consumer

/-- A consumer of which nothing is known. -/
def empty : Consumer := ⟨none, "", "", ""⟩

/-- The fields of a consumer. -/
def fields : List (Json.Field Consumer) := [
  .given "apiGroup" (optional asString) fun c v => { c with apiGroup := v },
  .required "resource" asString fun c v => { c with resource := v },
  .required "name" asString fun c v => { c with name := v },
  .required "uid" asString fun c v => { c with uid := v }]

/-- Reads a consumer. -/
def read : Json.Draft → JsonReading Consumer :=
  record fields empty

/-- The value that describes a consumer. -/
def toJson (c : Consumer) : Json :=
  .object (Json.memberOf "apiGroup" Json.string c.apiGroup ++
    [("resource", .string c.resource), ("name", .string c.name), ("uid", .string c.uid)])

end Consumer

namespace ClaimStatus

/-- A status that says nothing. -/
def empty : ClaimStatus := ⟨none, []⟩

/-- Reads the devices of an allocation, which are the results of what is allocated. -/
def readDevices : Json.Draft → JsonReading (List AllocatedDevice) :=
  record [.given "devices" (record [.given "results" (list AllocatedDevice.read) fun _ v => v] [])
    fun _ v => v] []

/-- The value that describes an allocation. -/
def devicesToJson (devices : List AllocatedDevice) : Json :=
  let results :=
    if devices.isEmpty then [] else [("results", Json.ofList AllocatedDevice.toJson devices)]
  .object [("devices", .object results)]

/-- The fields of a status. -/
def fields : List (Json.Field ClaimStatus) := [
  .given "allocation" (optional readDevices) fun s v => { s with allocation := v },
  .given "reservedFor" (list Consumer.read) fun s v => { s with reservedFor := v }]

/-- Reads a status. -/
def read : Json.Draft → JsonReading ClaimStatus :=
  record fields empty

/-- The value that describes a status. -/
def toJson (s : ClaimStatus) : Json :=
  let consumers :=
    if s.reservedFor.isEmpty then []
    else [("reservedFor", Json.ofList Consumer.toJson s.reservedFor)]
  .object (Json.memberOf "allocation" devicesToJson s.allocation ++ consumers)

end ClaimStatus

namespace Claim

/-- A claim that says nothing. -/
def empty : Claim := ⟨Metadata.empty, none⟩

/-- The fields of a claim. -/
def fields : List (Json.Field Claim) := [
  .given "metadata" Metadata.read fun c v => { c with metadata := v },
  .given "status" (optional ClaimStatus.read) fun c v => { c with status := v }]

/-- Reads a claim. -/
def read : Json.Draft → JsonReading Claim :=
  record fields empty

/-- The claim that a value describes. -/
def ofJson? (value : Json) : Option Claim :=
  (read (.ofJson value)).toOption

/-- The value that describes a claim. -/
def toJson (c : Claim) : Json :=
  .object (("metadata", c.metadata.toJson) :: Json.memberOf "status" ClaimStatus.toJson c.status)

end Claim

end DriverHandover
