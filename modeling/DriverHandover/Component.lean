/-!
# Components

The components of the GPU operator that run on a node. Each is scheduled through a deploy label of
the node, and all but one have pods that are waited for when they are descheduled.

## Main definitions

* `Component` – the components, with `Component.all` in the order in which they are shut down.
* `Component.labelKey`, `Component.app?` – the deploy label and the `app` label of the pods.
-/

namespace DriverHandover

/-- A component of the GPU operator. -/
inductive Component where
  | operatorValidator
  | containerToolkit
  | devicePlugin
  | gpuFeatureDiscovery
  | dcgmExporter
  | dcgm
  | migManager
  | nvsm
  | sandboxValidator
  | sandboxDevicePlugin
  | vgpuDeviceManager
  deriving DecidableEq, Repr

namespace Component

/-- All components in shutdown order. -/
def all : List Component :=
  [operatorValidator, containerToolkit, devicePlugin, gpuFeatureDiscovery, dcgmExporter, dcgm,
    migManager, nvsm, sandboxValidator, sandboxDevicePlugin, vgpuDeviceManager]

theorem mem_all (c : Component) : c ∈ all := by
  cases c <;> decide

/-- The key of the node label that schedules the component. -/
def labelKey : Component → String
  | operatorValidator => "nvidia.com/gpu.deploy.operator-validator"
  | containerToolkit => "nvidia.com/gpu.deploy.container-toolkit"
  | devicePlugin => "nvidia.com/gpu.deploy.device-plugin"
  | gpuFeatureDiscovery => "nvidia.com/gpu.deploy.gpu-feature-discovery"
  | dcgmExporter => "nvidia.com/gpu.deploy.dcgm-exporter"
  | dcgm => "nvidia.com/gpu.deploy.dcgm"
  | migManager => "nvidia.com/gpu.deploy.mig-manager"
  | nvsm => "nvidia.com/gpu.deploy.nvsm"
  | sandboxValidator => "nvidia.com/gpu.deploy.sandbox-validator"
  | sandboxDevicePlugin => "nvidia.com/gpu.deploy.sandbox-device-plugin"
  | vgpuDeviceManager => "nvidia.com/gpu.deploy.vgpu-device-manager"

/-- The `app` label of the component's pods, if they are waited for. -/
def app? : Component → Option String
  | operatorValidator => some "nvidia-operator-validator"
  | containerToolkit => some "nvidia-container-toolkit-daemonset"
  | devicePlugin => some "nvidia-device-plugin-daemonset"
  | gpuFeatureDiscovery => some "gpu-feature-discovery"
  | dcgmExporter => some "nvidia-dcgm-exporter"
  | dcgm => some "nvidia-dcgm"
  | migManager => some "nvidia-mig-manager"
  | nvsm => none
  | sandboxValidator => some "nvidia-sandbox-validator"
  | sandboxDevicePlugin => some "nvidia-sandbox-device-plugin-daemonset"
  | vgpuDeviceManager => some "nvidia-vgpu-device-manager"

/-- Components whose pods are waited for only on a node that carries their label. -/
def isOptional : Component → Bool
  | migManager | sandboxValidator | sandboxDevicePlugin | vgpuDeviceManager => true
  | _ => false

/-- Components whose label is written also when its value is empty. -/
def alwaysWritten : Component → Bool
  | migManager => false
  | _ => true

end Component

/-- The label that schedules the containerized driver itself. -/
def driverLabelKey : String := "nvidia.com/gpu.deploy.driver"

/-- The value of the driver label on a node with a driver of its own. -/
def driverPreinstalled : String := "pre-installed"

/-- The node annotation with the upgrade policy of the GPU operator. -/
def upgradePolicyKey : String := "nvidia.com/gpu-driver-upgrade-enabled"

end DriverHandover
