import DriverHandover.Cluster.Session
import DriverHandover.Drain.Options

/-!
# Removing a pod

A pod is removed in two phases: it is evicted, which is tried again while a disruption budget
forbids it, and then it is looked for until it is gone. Every wait between two requests has the same
length.

## Main definitions

* `Removal` – a removal under way, with the moment at which it goes on.
* `RemovalPlan` – what all removals of a drain have in common.
* `Removal.proceed` – goes on with a removal until it ends or waits.
-/

namespace DriverHandover

/-- What is done next to remove a pod. -/
inductive RemovalPhase where
  | evicting
  /-- The pod is evicted, or was gone already; it is looked for until it is not found. -/
  | confirming
  deriving DecidableEq, Repr

/-- A removal under way. -/
structure Removal where
  pod : Pod
  phase : RemovalPhase
  /-- The moment at which the removal goes on. -/
  wake : Instant
  deriving DecidableEq, Repr

/-- What the removals of one drain have in common. -/
structure RemovalPlan where
  graceSeconds : Option Nat
  timeout : Duration
  /-- The moment after which no removal waits. -/
  deadline : Option Instant
  deriving DecidableEq, Repr

/-- How a removal stands when it has gone on. -/
inductive RemovalState where
  | removed
  | failed (report : Report ClusterError)
  /-- The removal waits and goes on in a phase. -/
  | waits (phase : RemovalPhase)

/-- The time between two requests for the same pod. -/
def removalInterval : Duration := Duration.ofSeconds 5

/-- The note about a removal that ran out of time while its eviction was tried. -/
def evictionTimeoutNote : String := "drain timeout exceeded while retrying eviction"

namespace RemovalPlan

/-- The plan of removals that start now. -/
def ofOptions (o : DrainOptions) (now : Instant) : RemovalPlan :=
  ⟨o.graceSeconds, o.timeout, o.deadline? now⟩

/-- Whether the time for all removals is over. -/
def isOver (plan : RemovalPlan) (now : Instant) : Bool :=
  plan.deadline.any (· ≤ now)

end RemovalPlan

/-- What follows from the answer to an eviction. -/
inductive EvictionVerdict where
  /-- The eviction is accepted, or there is nothing to evict. -/
  | accepted
  /-- A disruption budget, or a flaw of one, forbids the eviction for now. -/
  | blocked
  | rejected (e : ApiError)
  deriving DecidableEq, Repr

/-- What follows from the answer to an eviction. -/
def EvictionVerdict.ofAnswer : Except ApiError Unit → EvictionVerdict
  | .ok () => .accepted
  | .error (.status 404) => .accepted
  | .error (.status 429) => .blocked
  | .error (.status 500) => .blocked
  | .error e => .rejected e

/-- Whether the answer to a look at a pod shows that it is gone: it is not found, or there is
another pod of its name. -/
def Pod.isGoneBy (p : Pod) : Except ApiError Pod → Bool
  | .ok current => current.uid != p.uid
  | .error (.status 404) => true
  | .error _ => false

namespace Removal

variable {ω : Type} (api : ApiServer ω) (plan : RemovalPlan)

/-- Looks whether a pod is gone. -/
def confirm (p : Pod) : StateM (Session ω) RemovalState := do
  if p.isGoneBy (← Session.ask api (.getPod p.address)) then return .removed
  else if plan.isOver (← get).now then
    return .failed (Report.of (.podDeletionTimeout p.reference plan.timeout))
  else return .waits .confirming

/-- Asks for the eviction of a pod and, if that is accepted, looks whether the pod is gone. -/
def evict (p : Pod) : StateM (Session ω) RemovalState := do
  match EvictionVerdict.ofAnswer (← Session.ask api (.evictPod p.address plan.graceSeconds)) with
  | .accepted => confirm api plan p
  | .rejected e => return .failed (Report.because (.evictionFailed p.reference) e)
  | .blocked =>
    if plan.isOver (← get).now then
      return .failed ((Report.of (.evictionFailed p.reference)).note evictionTimeoutNote)
    else return .waits .evicting

/-- Goes on with a removal until it ends or waits. -/
def proceed (r : Removal) : StateM (Session ω) RemovalState :=
  match r.phase with
  | .evicting => evict api plan r.pod
  | .confirming => confirm api plan r.pod

end Removal

end DriverHandover
