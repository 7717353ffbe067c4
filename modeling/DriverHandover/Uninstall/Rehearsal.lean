import DriverHandover.Uninstall.Run

/-!
# Rehearsals

A rehearsal is an uninstall run against a node that is held in memory. Which calls fail is laid down
beforehand, by kind and by number, and time is virtual: it passes only while a call sleeps. A run
that would sleep beyond its limit is cut off there.

## Main definitions

* `NodeState` – the node: its labels, its schedulability and its modules, and how it behaves.
* `CallKind`, `NodeCall.kind?` – the calls that can be made to fail.
* `Rehearsal` – the node with the script of failures, the clock and what has happened so far.
* `Rehearsal.reply` – the environment that a rehearsal is to a process.
* `Rehearsal.uninstall` – one run of a process on the node.

## Design notes

A call that fails is recorded like any other and changes nothing. Reading is not recorded.
-/

namespace DriverHandover

/-- A node that is held in memory. -/
structure NodeState where
  labels : LabelMap
  annotations : LabelMap
  /-- The kernel modules that are loaded. -/
  modules : List String
  /-- Whether the scheduler keeps new pods from the node. -/
  cordoned : Bool
  hostDriver : Option String
  driverVersion : Option String
  rdmaPresent : Bool
  /-- How many more looks at MOFED find it not ready. -/
  mofedNotReady : Nat
  /-- The selectors of pods that never leave the node. -/
  stuck : List String
  /-- What an eviction of the GPU pods returns. -/
  eviction : EvictionReport

/-- The kinds of calls that can be made to fail. -/
inductive CallKind where
  | nodeLabels
  | nodeAnnotations
  | updateLabels
  | cordon
  | uncordon
  | awaitPodsGone
  | drain
  | evictGpuPods
  | cleanupDriver
  | unbindVfio
  | unloadNouveau
  deriving DecidableEq, Repr

/-- The kind of a call, if it can be made to fail. -/
def NodeCall.kind? : NodeCall → Option CallKind
  | .nodeLabels _ => some .nodeLabels
  | .nodeAnnotations _ => some .nodeAnnotations
  | .updateLabels _ _ => some .updateLabels
  | .cordon _ => some .cordon
  | .uncordon _ => some .uncordon
  | .awaitPodsGone _ _ _ _ => some .awaitPodsGone
  | .drain _ _ => some .drain
  | .evictGpuPods _ _ => some .evictGpuPods
  | .cleanupDriver => some .cleanupDriver
  | .unbindVfio => some .unbindVfio
  | .unloadNouveau => some .unloadNouveau
  | _ => none

/-- Whether a call is recorded: those that only read are not. -/
def NodeCall.isRecorded : NodeCall → Bool
  | .updateLabels _ _ | .cordon _ | .uncordon _ | .awaitPodsGone _ _ _ _ | .drain _ _
  | .evictGpuPods _ _ | .cleanupDriver | .unbindVfio | .mofedReady _ | .unloadNouveau => true
  | _ => false

/-- A call that was made. -/
structure CallRecord where
  call : NodeCall
  moment : Instant
  /-- Whether the script made it fail. -/
  failed : Bool

/-- A node in memory with everything that a run on it needs. -/
structure Rehearsal where
  node : NodeState
  /-- Which calls fail: the numbers, from one, of the failing calls of a kind. -/
  script : CallKind → List Nat
  /-- The kinds of the calls so far. -/
  seen : List CallKind
  now : Instant
  /-- The moment at which the run is cut off. -/
  limit : Instant
  /-- The recorded calls of this run, the last one first. -/
  calls : List CallRecord
  /-- The stages that this run has entered, the last one first. -/
  stages : List Stage

namespace Rehearsal

/-- A rehearsal in which nothing has happened. -/
def start (node : NodeState) (script : CallKind → List Nat) : Rehearsal :=
  ⟨node, script, [], 0, 0, [], []⟩

/-- Whether the script makes the next call of a kind fail. -/
def fails (r : Rehearsal) (kind : CallKind) : Bool :=
  (r.script kind).contains (r.seen.count kind + 1)

/-- Whether the script makes a call fail that is made now. -/
def isFailing (r : Rehearsal) (call : NodeCall) : Bool :=
  call.kind?.any r.fails

/-- Takes note of a call. -/
def record (r : Rehearsal) (call : NodeCall) : Rehearsal :=
  { r with
    seen := call.kind?.toList ++ r.seen
    calls :=
      if call.isRecorded then ⟨call, r.now, r.isFailing call⟩ :: r.calls else r.calls }

/-- Changes the node. -/
def change (r : Rehearsal) (f : NodeState → NodeState) : Rehearsal :=
  { r with node := f r.node }

/-- Lets time pass; `none` if the run is cut off meanwhile. -/
def sleep (r : Rehearsal) (d : Duration) : Option Unit × Rehearsal :=
  if r.now.after d ≤ r.limit then (some (), { r with now := r.now.after d })
  else (none, { r with now := r.limit })

/-- Fails as the script says, or else changes the node and replies. -/
def attempt (r : Rehearsal) (call : NodeCall) (failure : ε) (reply : α)
    (f : NodeState → NodeState) : Option (Except (Report ε) α) × Rehearsal :=
  if r.isFailing call then (some (.error (Report.of failure)), r.record call)
  else (some (.ok reply), (r.record call).change f)

/-- Waits for pods to leave the node. They leave at once or, if they are stuck or the wait is made
to fail, not at all. -/
def awaitPods (r : Rehearsal) (call : NodeCall) (selector : String) (timeout : Duration) :
    Option (Except (Report ClusterError) Unit) × Rehearsal :=
  if r.isFailing call ∨ selector ∈ r.node.stuck then
    match (r.record call).sleep timeout with
    | (some (), r) => (some (.error (Report.of (.podTerminationTimeout selector timeout))), r)
    | (none, r) => (none, r)
  else (some (.ok ()), r.record call)

/-- A node without a module. -/
def unload (module : String) (node : NodeState) : NodeState :=
  { node with modules := node.modules.filter (· != module) }

/-- The message of the failures that have one. -/
def scripted : String := "scripted"

/-- How a rehearsal replies to the calls of a process. -/
def reply : Handler NodeCall NodeCall.Reply Rehearsal
  | .hostDriverVersion, r => (some r.node.hostDriver, r)
  | .driverVersion, r =>
    (some (match r.node.driverVersion with
      | some version => .ok version
      | none => .error (Report.of .versionUnknown)), r)
  | .moduleLoaded module, r => (some (r.node.modules.contains module), r)
  | call@(.nodeLabels node), r => r.attempt call (.nodeReadFailed node) r.node.labels id
  | call@(.nodeAnnotations node), r => r.attempt call (.nodeReadFailed node) r.node.annotations id
  | call@(.updateLabels node labels), r =>
    r.attempt call (.nodeUpdateFailed node) ()
      fun node => { node with labels := node.labels.overlay labels }
  | call@(.cordon node), r =>
    r.attempt call (.nodeUpdateFailed node) () fun node => { node with cordoned := true }
  | call@(.uncordon node), r =>
    r.attempt call (.nodeUpdateFailed node) () fun node => { node with cordoned := false }
  | call@(.awaitPodsGone selector _ _ timeout), r => r.awaitPods call selector timeout
  | call@(.drain node _), r => r.attempt call (.drainFailed node scripted) () id
  | call@(.evictGpuPods _ _), r => r.attempt call (.podListFailed scripted) r.node.eviction id
  | call@.cleanupDriver, r => r.attempt call .modulesInUse () (unload baseModule)
  | call@.unbindVfio, r => r.attempt call (.commandFailed "vfio-manage unbind --all") () id
  | .rdmaPresent, r => (some r.node.rdmaPresent, r)
  | call@(.mofedReady _), r =>
    (some (r.node.mofedNotReady == 0),
      (r.record call).change fun node => { node with mofedNotReady := node.mofedNotReady - 1 })
  | call@.unloadNouveau, r => r.attempt call (.unloadFailed nouveauModule) () (unload nouveauModule)
  | .sleep d, r => r.sleep d
  | .enter stage, r => (some (), { r with stages := stage :: r.stages })

/-- One uninstall run of a process, which is cut off after `limit`. The node is not ready for as
many looks as it says, so a run never has to look more often than once beyond that. -/
def uninstall (c : Config) (t : Timings) (limit : Duration) (memory : Memory) (r : Rehearsal) :
    Option (Except (Report UninstallError) UninstallOutcome) × Memory × Rehearsal :=
  (DriverHandover.uninstall c t (r.node.mofedNotReady + 1)).run reply memory
    { r with limit := r.now.after limit, calls := [], stages := [] }

end Rehearsal

end DriverHandover
