import DriverHandover.Drain.GpuPlan
import DriverHandover.Label.Map
import DriverHandover.Process
import DriverHandover.Report

/-!
# What an uninstall run asks of its node

## Main definitions

* `Stage` – how far a run has come.
* `NodeCall`, `NodeCall.Reply` – the calls of a run to the cluster and the host, and their replies.
-/

namespace DriverHandover

/-- How far an uninstall run has come. -/
inductive Stage where
  | start
  | preflightSkipCheck
  | labelsFetched
  | componentsEvicted
  | podsDrained
  | modulesUnloaded
  | devicesRebound
  | rdmaWaited
  | rescheduled
  | done
  | failed
  deriving DecidableEq, Repr

/-- All stages, in the order of a run. -/
def Stage.all : List Stage :=
  [.start, .preflightSkipCheck, .labelsFetched, .componentsEvicted, .podsDrained, .modulesUnloaded,
    .devicesRebound, .rdmaWaited, .rescheduled, .done, .failed]

/-- A call of an uninstall run. -/
inductive NodeCall where
  /-- The version of a driver that the host itself has. -/
  | hostDriverVersion
  /-- The version of the containerized driver. -/
  | driverVersion
  | moduleLoaded (module : String)
  | nodeLabels (node : String)
  | nodeAnnotations (node : String)
  /-- Writes all given labels at once. -/
  | updateLabels (node : String) (labels : LabelMap)
  | cordon (node : String)
  | uncordon (node : String)
  /-- Waits until no pod of a namespace that matches a selector is left on the node. -/
  | awaitPodsGone (selector podNamespace node : String) (timeout : Duration)
  /-- Removes every removable pod. -/
  | drain (node : String) (options : DrainOptions)
  /-- Removes the GPU pods if all of them can be removed. -/
  | evictGpuPods (node : String) (options : DrainOptions)
  /-- Unloads the driver modules and unmounts the driver. -/
  | cleanupDriver
  | unbindVfio
  | rdmaPresent
  /-- Whether the MOFED driver is loaded, of the host or of a container. -/
  | mofedReady (onHost : Bool)
  | unloadNouveau
  | sleep (d : Duration)
  /-- Tells that a stage is entered. -/
  | enter (stage : Stage)
  deriving DecidableEq, Repr

namespace NodeCall

/-- The replies to a call. -/
abbrev Reply : NodeCall → Type
  | hostDriverVersion => Option String
  | driverVersion => Except (Report HostError) String
  | moduleLoaded _ => Bool
  | nodeLabels _ => Except (Report ClusterError) LabelMap
  | nodeAnnotations _ => Except (Report ClusterError) LabelMap
  | updateLabels _ _ => Except (Report ClusterError) Unit
  | cordon _ => Except (Report ClusterError) Unit
  | uncordon _ => Except (Report ClusterError) Unit
  | awaitPodsGone _ _ _ _ => Except (Report ClusterError) Unit
  | drain _ _ => Except (Report ClusterError) Unit
  | evictGpuPods _ _ => Except (Report ClusterError) EvictionReport
  | cleanupDriver => Except (Report HostError) Unit
  | unbindVfio => Except (Report HostError) Unit
  | rdmaPresent => Bool
  | mofedReady _ => Bool
  | unloadNouveau => Except (Report HostError) Unit
  | sleep _ => Unit
  | enter _ => Unit

end NodeCall

end DriverHandover
