import DriverHandover.CommandLine.Scan
import DriverHandover.Config

/-!
# Settings of the commands

Each setting can be given as an option or, where that is not done, in the environment; most have a
default value.

## Main definitions

* `ManagerOption`, `ManagerSettings` – the options of an uninstall run and of the checks before it.
* `GpuDrainOption`, `GpuDrainSettings` – the options of removing the GPU pods of a node.
-/

namespace DriverHandover.CommandLine

/-- A text that is not empty. -/
def nonempty? (text : Option String) : Option String :=
  text.filter (· != "")

/-- The options of an uninstall run. -/
inductive ManagerOption where
  | nodeName
  | drainForce
  | drainPodSelector
  | drainTimeout
  | drainDeleteLocalData
  | enableAutoDrain
  | enableGpuPodEviction
  | operatorNamespace
  | customEvictionLabel
  | gpuDirectRdmaEnabled
  | useHostMofed
  | kubeconfig
  | driverVersion
  | forceReinstall
  deriving DecidableEq, Repr

namespace ManagerOption

/-- All options of an uninstall run. -/
def all : List ManagerOption :=
  [nodeName, drainForce, drainPodSelector, drainTimeout, drainDeleteLocalData, enableAutoDrain,
    enableGpuPodEviction, operatorNamespace, customEvictionLabel, gpuDirectRdmaEnabled,
    useHostMofed, kubeconfig, driverVersion, forceReinstall]

/-- How the options of an uninstall run are given. -/
def spec : ManagerOption → OptionSpec
  | nodeName => ⟨"node-name", none, "NODE_NAME", .text⟩
  | drainForce => ⟨"drain-use-force", none, "DRAIN_USE_FORCE", .truth⟩
  | drainPodSelector => ⟨"drain-pod-selector-label", none, "DRAIN_POD_SELECTOR_LABEL", .text⟩
  | drainTimeout => ⟨"drain-timeout-seconds", none, "DRAIN_TIMEOUT_SECONDS", .duration⟩
  | drainDeleteLocalData =>
    ⟨"drain-delete-emptydir-data", none, "DRAIN_DELETE_EMPTYDIR_DATA", .truth⟩
  | enableAutoDrain => ⟨"enable-auto-drain", none, "ENABLE_AUTO_DRAIN", .truth⟩
  | enableGpuPodEviction => ⟨"enable-gpu-pod-eviction", none, "ENABLE_GPU_POD_EVICTION", .truth⟩
  | operatorNamespace => ⟨"operator-namespace", none, "OPERATOR_NAMESPACE", .text⟩
  | customEvictionLabel =>
    ⟨"node-label-for-gpu-pod-eviction", none, "NODE_LABEL_FOR_GPU_POD_EVICTION", .text⟩
  | gpuDirectRdmaEnabled => ⟨"gpu-direct-rdma-enabled", none, "GPU_DIRECT_RDMA_ENABLED", .truth⟩
  | useHostMofed => ⟨"use-host-mofed", none, "USE_HOST_MOFED", .truth⟩
  | kubeconfig => ⟨"kubeconfig", none, "KUBECONFIG", .path⟩
  | driverVersion => ⟨"driver-version", none, "DRIVER_VERSION", .text⟩
  | forceReinstall => ⟨"force-reinstall", none, "FORCE_REINSTALL", .truth⟩

end ManagerOption

instance : OptionSet ManagerOption := ⟨ManagerOption.all, ManagerOption.spec⟩

/-- The settings of an uninstall run. -/
structure ManagerSettings where
  kubeconfig : Option String
  config : Config
  deriving DecidableEq, Repr

/-- The namespace of the GPU operator where none is given. -/
def defaultOperatorNamespace : String := "gpu-operator"

/-- The settings that a command line gives. Only the name of the node has to be given. -/
def ManagerSettings.ofScan (s : Scan ManagerOption) : Except Stop ManagerSettings := do
  let some nodeName := s.value .nodeName | .error .missingOption
  let timeout : Option Duration := s.value .drainTimeout
  let truth (value : Option Bool) (default : Bool) : Bool := value.getD default
  let drain : DrainOptions :=
    { force := truth (s.value .drainForce) false
      deleteLocalData := truth (s.value .drainDeleteLocalData) false
      timeout := timeout.getD Duration.zero
      podSelector := nonempty? (s.value .drainPodSelector)
      graceSeconds := none }
  let operatorNamespace : Option String := s.value .operatorNamespace
  let config : Config :=
    { nodeName
      drain
      enableAutoDrain := truth (s.value .enableAutoDrain) true
      enableGpuPodEviction := truth (s.value .enableGpuPodEviction) true
      operatorNamespace := operatorNamespace.getD defaultOperatorNamespace
      customEvictionLabel := nonempty? (s.value .customEvictionLabel)
      gpuDirectRdmaEnabled := truth (s.value .gpuDirectRdmaEnabled) false
      useHostMofed := truth (s.value .useHostMofed) false
      driverVersion := nonempty? (s.value .driverVersion)
      forceReinstall := truth (s.value .forceReinstall) false }
  return { kubeconfig := s.value .kubeconfig, config }

/-- The options of removing the GPU pods of a node. -/
inductive GpuDrainOption where
  | nodeName
  | kubeconfig
  | dryRun
  | deleteLocalData
  | force
  | timeout
  | gracePeriod
  deriving DecidableEq, Repr

namespace GpuDrainOption

/-- All options of removing GPU pods. -/
def all : List GpuDrainOption :=
  [nodeName, kubeconfig, dryRun, deleteLocalData, force, timeout, gracePeriod]

/-- How the options of removing GPU pods are given. -/
def spec : GpuDrainOption → OptionSpec
  | nodeName => ⟨"node-name", none, "NODE_NAME", .text⟩
  | kubeconfig => ⟨"kubeconfig", none, "KUBECONFIG", .path⟩
  | dryRun => ⟨"dry-run", none, "NVDRAIN_DRY_RUN", .flag⟩
  | deleteLocalData => ⟨"delete-emptydir-data", none, "NVDRAIN_DELETE_EMPTYDIR_DATA", .flag⟩
  | force => ⟨"force", some 'f', "NVDRAIN_USE_FORCE", .flag⟩
  | timeout => ⟨"timeout", some 't', "NVDRAIN_TIMEOUT_SECONDS", .duration⟩
  | gracePeriod => ⟨"grace-period", none, "NVDRAIN_GRACE_PERIOD", .integer⟩

end GpuDrainOption

instance : OptionSet GpuDrainOption := ⟨GpuDrainOption.all, GpuDrainOption.spec⟩

/-- The settings of removing the GPU pods of a node. -/
structure GpuDrainSettings where
  nodeName : String
  kubeconfig : Option String
  dryRun : Bool
  /-- The grace period as it is given. -/
  gracePeriod : Int
  options : DrainOptions
  deriving DecidableEq, Repr

/-- The grace period of an eviction: a number of 32 bits. Any other number leaves it to the pod. -/
def graceSeconds? (n : Int) : Option Nat :=
  if 0 ≤ n ∧ n < UInt32.size then some n.toNat else none

/-- The settings that a command line gives. Only the name of the node has to be given. -/
def GpuDrainSettings.ofScan (s : Scan GpuDrainOption) : Except Stop GpuDrainSettings := do
  let some nodeName := s.value .nodeName | .error .missingOption
  let timeout : Option Duration := s.value .timeout
  let given : Option Int := s.value .gracePeriod
  let gracePeriod := given.getD (-1)
  let truth (value : Option Bool) : Bool := value.getD false
  let options : DrainOptions :=
    { force := truth (s.value .force)
      deleteLocalData := truth (s.value .deleteLocalData)
      timeout := timeout.getD Duration.zero
      podSelector := none
      graceSeconds := graceSeconds? gracePeriod }
  return {
    nodeName
    kubeconfig := s.value .kubeconfig
    dryRun := truth (s.value .dryRun)
    gracePeriod
    options }

end DriverHandover.CommandLine
