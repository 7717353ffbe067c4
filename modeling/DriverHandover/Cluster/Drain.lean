import DriverHandover.Cluster.Pool
import DriverHandover.Drain.GpuPlan

/-!
# Draining a node

## Main definitions

* `Session.drainNode` – removes every removable pod of a node.
* `Session.evictGpuPods`, `Session.drainGpuPods` – removes the GPU pods of a node, all or not at
  all. They differ in what they make of GPU pods that cannot be removed: the first reports them, for
  the second they are a failure.
-/

namespace DriverHandover.Session

variable {ω : Type} (api : ApiServer ω)

/-- The pods on a node, of all namespaces, that match a label selector if there is one. -/
def nodePods (node : String) (selector : Option String) : ClusterStep ω (List Pod) :=
  require api (.podListFailed s!"pods on node {node}") (.listPods none selector node)

/-- Removes pods; a failure is one of draining the node. -/
def removeNodePods (node message : String) (o : DrainOptions) (pods : List Pod) :
    ClusterStep ω Unit :=
  ExceptT.adapt (fun report => report.under (.drainFailed node message)) (removePods api o pods)

/-- Removes every pod of a node that may be removed, unless one stands in the way. -/
def drainNode (node : String) (o : DrainOptions) : ClusterStep ω Unit := do
  let selection := select o (fun _ => .accept) (← nodePods api node o.podSelector)
  if selection.refused.isEmpty then
    removeNodePods api node "could not evict all pods" o selection.pods
  else throw (Report.of (.drainFailed node selection.errorText))

/-- Removes the pods of a complete plan. -/
def removeGpuPods (node : String) (o : DrainOptions) (plan : GpuPlan) : ClusterStep ω Unit :=
  removeNodePods api node "failed to delete all GPU pods" o plan.selection.pods

/-- Removes the GPU pods of a node if all of them may be removed, and reports how many there are
and which may not. -/
def evictGpuPods (holds : String → Bool) (node : String) (o : DrainOptions) :
    ClusterStep ω EvictionReport := do
  let plan := planGpuEviction o holds (← nodePods api node none)
  if plan.gpuPods = 0 ∨ ¬ plan.report.isComplete then return plan.report
  removeGpuPods api node o plan
  return plan.report

/-- How many GPU pods may be removed, and why the others may not. -/
def incompleteText (plan : GpuPlan) : String :=
  let deletable := plan.selection.pods.length
  let all := plan.gpuPods
  let errors := plan.selection.errorText
  s!"only {deletable} of {all} GPU pods can be deleted: {errors}"

/-- Removes the GPU pods of a node, all of which have to be removable. In a dry run they are only
counted. -/
def drainGpuPods (holds : String → Bool) (node : String) (o : DrainOptions) (dryRun : Bool) :
    ClusterStep ω EvictionReport := do
  let plan := planGpuEviction o holds (← nodePods api node none)
  if ¬ plan.report.isComplete then throw (Report.of (.drainFailed node (incompleteText plan)))
  if dryRun ∨ plan.gpuPods = 0 then return plan.report
  removeGpuPods api node o plan
  return plan.report

end DriverHandover.Session
