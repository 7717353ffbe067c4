import DriverHandover.Pod

/-!
# GPU pods

A pod asks for a GPU in one of two ways: a container of it names a GPU resource, or the pod has
resource claims, one of which may have been allocated by the GPU driver. Only the second way needs
to be looked up, and only for a pod that does not ask in the first.

## Main definitions

* `GpuDemand` – in which way a pod may ask for a GPU.
* `Pod.usesGpu` – whether it does, given which pods hold a claim for a GPU.
* `Pod.lookups` – the pods that are looked up to answer that.
-/

namespace DriverHandover

/-- How the resource names of the device plugin start: whole GPUs, and partitions of them. -/
def gpuResourcePrefixes : List String :=
  ["nvidia.com/gpu", "nvidia.com/mig-"]

/-- Whether a resource is a GPU or a part of one. -/
def isGpuResource (name : String) : Bool :=
  gpuResourcePrefixes.any fun start => start.toList.isPrefixOf name.toList

/-- Whether a container names a GPU resource, in a limit or in a request. -/
def Container.namesGpu (c : Container) : Bool :=
  (c.limits ++ c.requests).any isGpuResource

/-- How a pod may ask for a GPU. -/
inductive GpuDemand where
  | no
  | byResource
  /-- The pod has resource claims and this UID. -/
  | byClaim (uid : String)
  deriving DecidableEq, Repr

namespace Pod

/-- How a pod may ask for a GPU. -/
def gpuDemand (p : Pod) : GpuDemand :=
  match p.spec with
  | none => .no
  | some spec =>
    if spec.containers.any Container.namesGpu then .byResource
    else if spec.claims.isEmpty then .no
    else
      match p.uid with
      | none => .no
      | some uid => .byClaim uid

/-- Whether a pod uses a GPU, where `holds` tells which pods hold a claim for one. -/
def usesGpu (holds : String → Bool) (p : Pod) : Bool :=
  match p.gpuDemand with
  | .no => false
  | .byResource => true
  | .byClaim uid => holds uid

/-- The UIDs that are looked up to tell whether a pod uses a GPU. -/
def lookups (p : Pod) : List String :=
  match p.gpuDemand with
  | .byClaim uid => [uid]
  | _ => []

end Pod

end DriverHandover
