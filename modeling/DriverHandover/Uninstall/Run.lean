import DriverHandover.Component.State
import DriverHandover.Config
import DriverHandover.Uninstall.Call

/-!
# The uninstall run

A run takes a node from "driver loaded, GPU pods running" to "driver unloaded, ready for the next
driver": it pauses the components, has the GPU pods removed, unloads the driver, hands the devices
back, and restores the node. A run that fails after it has read the node's labels restores the node
as well.

## Main definitions

* `Memory` – what the process keeps from one run to the next.
* `UninstallOutcome` – how a run without an error ends.
* `uninstall` – the run.

## Design notes

Waiting for MOFED without a limit may never end. A run is therefore given the number of looks after
which it is cut off; every finite part of an endless run is the part of a run with enough looks.
-/

namespace DriverHandover

/-- What the process keeps. -/
structure Memory where
  /-- The values captured from the node. -/
  components : ComponentState
  /-- Whether the process has cordoned the node and not yet uncordoned it. -/
  cordoned : Bool
  stage : Stage

/-- The memory of a process that has just been started. -/
def Memory.fresh : Memory := ⟨ComponentState.empty, false, .start⟩

instance : Inhabited Memory := ⟨Memory.fresh⟩

/-- How a run without an error ends. -/
inductive UninstallOutcome where
  /-- The desired driver version is loaded already. -/
  | skipped
  | completed
  deriving DecidableEq, Repr

/-- A process on a node. -/
abbrev NodeProcess := Process NodeCall NodeCall.Reply Memory

/-- A part of a run that may fail. -/
abbrev RunStep := ExceptT (Report UninstallError) NodeProcess

namespace Uninstall

/-- Makes a call and returns the reply. -/
def ask (call : NodeCall) : NodeProcess call.Reply :=
  Process.ask call

/-- Makes a call that may fail and puts an error of the run on top of its report. -/
def attempt [Cause ε] (error : UninstallError) (call : NodeProcess (Except (Report ε) α)) :
    RunStep α := do
  match ← call with
  | .ok a => return a
  | .error report => throw (report.under error)

/-- Enters a stage. -/
def enter (stage : Stage) : NodeProcess Unit := do
  modify fun memory => { memory with stage }
  ask (.enter stage)

/-- Whether the base module of the driver is loaded. -/
def driverLoaded : NodeProcess Bool :=
  ask (.moduleLoaded baseModule)

variable (c : Config)

/-- Marks a node that has a driver of its own. This never succeeds, because such a node is no place
for a containerized driver. -/
def refuseHostDriver (t : Timings) : RunStep UninstallOutcome := do
  attempt .disableDriverFailed <|
    ask (.updateLabels c.nodeName (LabelMap.ofList [(driverLabelKey, driverPreinstalled)]))
  ask (.sleep t.hostDriverSettle)
  throw (Report.of .hostDriverPreinstalled)

/-- Whether the driver version that is to be installed is loaded already. Whenever that is not
certain, the driver is installed again. -/
def canSkip : NodeProcess Bool := do
  if c.forceReinstall then return false
  match c.driverVersion with
  | none => return false
  | some desired =>
    if ← driverLoaded then
      match ← ask .driverVersion with
      | .ok version => return version == desired
      | .error _ => return false
    else return false

/-- Captures the component labels and the upgrade policy. -/
def fetchState : RunStep Unit := do
  let labels ← attempt .fetchLabelsFailed (ask (.nodeLabels c.nodeName))
  modify fun memory =>
    { memory with components := memory.components.capture c.customEvictionLabel labels }
  let annotations ← attempt .fetchAnnotationFailed (ask (.nodeAnnotations c.nodeName))
  modify fun memory =>
    { memory with components := memory.components.setPolicy (annotations.getD upgradePolicyKey) }

/-- Whether the run may drain the node. -/
def autoDrainEnabled : NodeProcess Bool := do
  return c.enableAutoDrain && !(← get).components.upgradesExternally

/-- Whether the run may evict GPU pods. -/
def gpuPodEvictionEnabled : NodeProcess Bool := do
  return c.enableGpuPodEviction && !(← get).components.upgradesExternally

/-- Waits for the pods of components to leave the node, one component after the other. -/
def awaitApps (t : Timings) : List String → RunStep Unit
  | [] => return ()
  | app :: rest => do
    let selector := "app=" ++ app
    match ← ask (.awaitPodsGone selector c.operatorNamespace c.nodeName t.componentGrace) with
    | .ok () => awaitApps t rest
    | .error report =>
      throw ((report.under .componentEvictionFailed).note (app ++ " did not shut down"))

/-- Pauses the components and waits for their pods to leave the node. -/
def evictComponents (t : Timings) : RunStep Unit := do
  let components := (← get).components
  attempt .componentEvictionFailed
    (ask (.updateLabels c.nodeName components.pausedLabels))
  awaitApps c t components.awaitedApps

/-- Keeps new pods from the node. -/
def cordon : RunStep Unit := do
  attempt .cordonFailed (ask (.cordon c.nodeName))
  modify fun memory => { memory with cordoned := true }

/-- Removes all removable pods from the node, which is cordoned before. -/
def drainNode : RunStep Unit := do
  if !(← get).cordoned then cordon c
  attempt .drainFailed (ask (.drain c.nodeName c.drain))

/-- Removes the driver from the host. -/
def cleanup : RunStep Unit :=
  attempt .cleanupFailed (ask .cleanupDriver)

/-- Has the GPU pods removed. Where some cannot be, and the run may do so, the node is drained and
the driver is removed at once. -/
def evictGpuPods : RunStep Unit := do
  let complete :=
    match ← ask (.evictGpuPods c.nodeName c.drain) with
    | .ok report => report.isComplete
    | .error _ => false
  if complete then return ()
  if ← autoDrainEnabled c then
    drainNode c
    cleanup
  else throw (Report.of .gpuPodsRemaining)

/-- Removes the driver from the host; a driver in use is given a second try after a drain, if the
run may drain the node. -/
def cleanupDriver : RunStep Unit := do
  match ← ask .cleanupDriver with
  | .ok () => return ()
  | .error report =>
    if ← autoDrainEnabled c then
      drainNode c
      cleanup
    else throw (report.under .cleanupFailed)

/-- How an optional duration is shown in a note. -/
def budgetText : Option Duration → String
  | none => "None"
  | some d => "Some(" ++ d.text ++ ")"

/-- Looks, at most `looks` times, whether MOFED is ready, with a pause between two looks. After the
pauses have used the `budget` up, one more look that fails ends the wait. -/
def awaitMofed (t : Timings) (budget : Option Duration) : Nat → RunStep Unit
  | 0 => Process.halt
  | looks + 1 => do
    if ← ask (.mofedReady c.useHostMofed) then return ()
    if budget.any (·.isZero) then
      throw ((Report.of .mofedWaitFailed).note ("not ready after " ++ budgetText t.mofedTimeout))
    ask (.sleep t.mofedPollInterval)
    awaitMofed t (budget.map (·.minus t.mofedPollInterval)) looks

/-- The steps between reading the state of the node and restoring it. -/
def removeDriver (t : Timings) (looks : Nat) : RunStep Unit := do
  evictComponents c t
  enter .componentsEvicted
  if ← gpuPodEvictionEnabled c then
    cordon c
    evictGpuPods c
  enter .podsDrained
  if ← driverLoaded then cleanupDriver c
  enter .modulesUnloaded
  attempt .vfioUnbindFailed (ask .unbindVfio)
  enter .devicesRebound
  if c.gpuDirectRdmaEnabled then
    if ← ask .rdmaPresent then awaitMofed c t t.mofedTimeout looks
  enter .rdmaWaited

/-- Gives the node back to the scheduler and the components their labels. A failure here does not
change how the run ends. -/
def reschedule : NodeProcess Unit := do
  if (← get).cordoned then
    match ← ask (.uncordon c.nodeName) with
    | .ok () => modify fun memory => { memory with cordoned := false }
    | .error _ => pure ()
  let components := (← get).components
  let _ ← ask (.updateLabels c.nodeName components.resumedLabels)

/-- Makes sure that the driver that only stands in is not loaded. -/
def unloadNouveau : RunStep Unit := do
  if ← ask (.moduleLoaded nouveauModule) then
    attempt .nouveauUnloadFailed (ask .unloadNouveau)

/-- Enters the last stage of a run and ends it with a result. -/
def finish (result : Except (Report UninstallError) UninstallOutcome) :
    NodeProcess (Except (Report UninstallError) UninstallOutcome) := do
  enter (match result with | .ok _ => .done | .error _ => .failed)
  return result

end Uninstall

open Uninstall in
/-- The uninstall run, with at most `looks` looks at MOFED. -/
def uninstall (c : Config) (t : Timings) (looks : Nat) :
    NodeProcess (Except (Report UninstallError) UninstallOutcome) := do
  if (← ask .hostDriverVersion).isSome then
    finish (← (refuseHostDriver c t).run)
  else
    enter .preflightSkipCheck
    if ← canSkip c then finish (.ok .skipped)
    else
      match ← (fetchState c).run with
      | .error report => finish (.error report)
      | .ok () =>
        enter .labelsFetched
        let removed ← (removeDriver c t looks).run
        reschedule c
        match removed with
        | .error report => finish (.error report)
        | .ok () =>
          enter .rescheduled
          finish ((← unloadNouveau.run).map fun _ => .completed)

/-- The checks that come before an upgrade. There are none yet. -/
def preflight : Except (Report UninstallError) Unit := .ok ()

end DriverHandover
