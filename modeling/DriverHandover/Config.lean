import DriverHandover.Drain.Options

/-!
# Configuration

## Main definitions

* `Config` – the settings of an uninstall run.
* `Timings` – its fixed waits.
-/

namespace DriverHandover

/-- The settings of an uninstall run. -/
structure Config where
  nodeName : String
  drain : DrainOptions
  enableAutoDrain : Bool
  enableGpuPodEviction : Bool
  operatorNamespace : String
  /-- A further node label that is paused along with the components. -/
  customEvictionLabel : Option String
  gpuDirectRdmaEnabled : Bool
  useHostMofed : Bool
  /-- The driver version that will be installed next. -/
  driverVersion : Option String
  forceReinstall : Bool
  deriving DecidableEq, Repr

/-- The fixed waits of an uninstall run. -/
structure Timings where
  /-- After a node was marked as having a driver of its own. -/
  hostDriverSettle : Duration
  /-- For each component, for its pods to leave the node. -/
  componentGrace : Duration
  /-- Between two looks at whether MOFED is ready. -/
  mofedPollInterval : Duration
  /-- For MOFED to become ready; `none` is no limit. -/
  mofedTimeout : Option Duration
  deriving DecidableEq, Repr

/-- The waits of a run in production. -/
def Timings.default : Timings :=
  ⟨Duration.ofSeconds 60, Duration.ofSeconds 300, Duration.ofSeconds 5, none⟩

end DriverHandover
