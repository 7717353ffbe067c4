import DriverHandover.Metadata

/-!
# Resource claims

A resource claim asks for devices. Once a driver has allocated devices to it, pods can reserve it,
and so a pod that has reserved a claim with a device of the GPU driver uses a GPU.

## Main definitions

* `Claim` – a claim: its metadata, what was allocated to it, and who has reserved it.
* `Claim.isGpu` – whether the GPU driver allocated a device to it.
* `Claim.reservedPods` – the UIDs of the pods that have reserved it.
* `Claim.key` – what identifies a claim.
-/

namespace DriverHandover

/-- A device allocated to a claim. -/
structure AllocatedDevice where
  request : String
  driver : String
  pool : String
  device : String
  deriving DecidableEq, Repr

/-- One who has reserved a claim. -/
structure Consumer where
  apiGroup : Option String
  resource : String
  name : String
  uid : String
  deriving DecidableEq, Repr

/-- The state of a claim: the devices allocated to it, if there is an allocation, and who has
reserved it. -/
structure ClaimStatus where
  allocation : Option (List AllocatedDevice)
  reservedFor : List Consumer
  deriving DecidableEq, Repr

/-- A resource claim. -/
structure Claim where
  metadata : Metadata
  status : Option ClaimStatus
  deriving DecidableEq, Repr

namespace Claim

/-- The name under which the GPU driver allocates devices. -/
def gpuDriver : String := "gpu.nvidia.com"

/-- The resource of a consumer that is a pod. -/
def podResource : String := "pods"

/-- The devices allocated to a claim. -/
def devices (c : Claim) : List AllocatedDevice :=
  ((c.status.bind (·.allocation)).getD [])

/-- Who has reserved a claim. -/
def consumers (c : Claim) : List Consumer :=
  (c.status.map (·.reservedFor)).getD []

/-- Whether the GPU driver allocated a device to the claim. -/
def isGpu (c : Claim) : Bool :=
  c.devices.any (·.driver == gpuDriver)

/-- The UIDs of the pods that have reserved the claim, in order. -/
def reservedPods (c : Claim) : List String :=
  (c.consumers.filter (·.resource == podResource)).map (·.uid)

/-- What identifies a claim: its namespace and its name. -/
def key (c : Claim) : String :=
  c.metadata.objectNamespace.getD "" ++ "/" ++
    (c.metadata.name.or c.metadata.generateName).getD ""

/-- The pods that the claim shows to use a GPU. -/
def gpuPods (c : Claim) : List String :=
  if c.isGpu then c.reservedPods else []

end Claim

end DriverHandover
