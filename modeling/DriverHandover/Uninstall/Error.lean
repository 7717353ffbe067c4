/-!
# Errors of an uninstall run

## Main definitions

* `UninstallError` – the step at which a run ended, with `UninstallError.message`.
-/

namespace DriverHandover

/-- Why an uninstall run ends without having removed the driver. -/
inductive UninstallError where
  | hostDriverPreinstalled
  | disableDriverFailed
  | fetchLabelsFailed
  | fetchAnnotationFailed
  | componentEvictionFailed
  | cordonFailed
  | gpuPodsRemaining
  | drainFailed
  | cleanupFailed
  | vfioUnbindFailed
  | mofedWaitFailed
  | nouveauUnloadFailed
  deriving DecidableEq, Repr

namespace UninstallError

/-- All errors, in the order of the steps they belong to. -/
def all : List UninstallError :=
  [hostDriverPreinstalled, disableDriverFailed, fetchLabelsFailed, fetchAnnotationFailed,
    componentEvictionFailed, cordonFailed, gpuPodsRemaining, drainFailed, cleanupFailed,
    vfioUnbindFailed, mofedWaitFailed, nouveauUnloadFailed]

/-- The wording of an error. -/
def message : UninstallError → String
  | hostDriverPreinstalled => "NVIDIA GPU driver is pre-installed on the host"
  | disableDriverFailed => "Failed to disable the containerized driver"
  | fetchLabelsFailed => "Failed to fetch current node labels"
  | fetchAnnotationFailed => "Failed to fetch the auto upgrade annotation"
  | componentEvictionFailed => "Failed to evict GPU operator components"
  | cordonFailed => "Failed to cordon node"
  | gpuPodsRemaining => "Cannot proceed until all GPU pods are drained from the node"
  | drainFailed => "Failed to drain node"
  | cleanupFailed => "Failed to cleanup NVIDIA driver"
  | vfioUnbindFailed => "Failed to unbind vfio-pci driver"
  | mofedWaitFailed => "Failed to wait for MOFED driver"
  | nouveauUnloadFailed => "Failed to unload nouveau driver"

end UninstallError

end DriverHandover
