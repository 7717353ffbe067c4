import DriverHandover.Drain.Selection
import DriverHandover.Pod.Gpu

/-!
# Removing the GPU pods of a node

The GPU pods of a node are removed all or not at all, so what matters is whether the filters let
every one of them pass.

## Main definitions

* `GpuPlan`, `planGpuEviction` – the number of GPU pods and the selection among them.
* `EvictionReport` – the outcome, with `EvictionReport.isComplete`.
-/

namespace DriverHandover

/-- What became of the GPU pods of a node. -/
structure EvictionReport where
  gpuPods : Nat
  deletable : Nat
  errors : List String
  deriving DecidableEq, Repr, Inhabited

/-- Whether every GPU pod could be removed. -/
def EvictionReport.isComplete (r : EvictionReport) : Bool :=
  r.deletable == r.gpuPods

/-- The GPU pods of a node and those of them that may be removed. -/
structure GpuPlan where
  gpuPods : Nat
  selection : Selection
  deriving DecidableEq, Repr

/-- The report of a plan. -/
def GpuPlan.report (plan : GpuPlan) : EvictionReport where
  gpuPods := plan.gpuPods
  deletable := plan.selection.pods.length
  errors := plan.selection.errors

/-- Pods without a GPU are no concern of an eviction. -/
def gpuVerdict (holds : String → Bool) (p : Pod) : Verdict :=
  if p.usesGpu holds then .accept else .skip "pod does not use an NVIDIA GPU"

/-- Finds the GPU pods of a list and puts them through the drain filters. -/
def planGpuEviction (o : DrainOptions) (holds : String → Bool) (pods : List Pod) : GpuPlan where
  gpuPods := (pods.filter (·.usesGpu holds)).length
  selection := select o (gpuVerdict holds) pods

end DriverHandover
