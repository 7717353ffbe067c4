import DriverHandover.Cluster.Session

/-!
# Operations on a node

## Main definitions

* `Session.nodeLabels`, `Session.nodeAnnotations` – reading a node.
* `Session.updateLabels` – writing labels, with a few attempts.
* `Session.cordon`, `Session.uncordon` – closing a node for new pods, and opening it.
* `Session.awaitPodsGone` – waiting for pods to leave a node.
-/

namespace DriverHandover

/-- The pauses between the attempts to write labels: each is twice the one before. -/
def labelRetryPauses : List Duration :=
  [400, 800, 1600, 3200].map Duration.ofMillis

/-- The number of attempts to write labels. -/
def labelAttempts : Nat := labelRetryPauses.length + 1

/-- The time between two listings of the pods that are waited for. -/
def podPollInterval : Duration := Duration.ofSeconds 5

namespace Session

variable {ω : Type} (api : ApiServer ω)

/-- The labels of a node. -/
def nodeLabels (node : String) : ClusterStep ω LabelMap := do
  return (← require api (.nodeReadFailed node) (.getNode node)).labels

/-- The annotations of a node. -/
def nodeAnnotations (node : String) : ClusterStep ω LabelMap := do
  return (← require api (.nodeReadFailed node) (.getNode node)).annotations

/-- Attempts to write labels until one attempt succeeds, with the given pauses in between. -/
def attemptLabels (node : String) (labels : LabelMap) : List Duration → ClusterStep ω Unit
  | [] => do
    match ← ask api (.patchLabels node labels) with
    | .ok () => return ()
    | .error e =>
      let report := Report.because (.nodeUpdateFailed node) e
      throw (report.note s!"giving up after {labelAttempts} attempts")
  | pause :: pauses => do
    match ← ask api (.patchLabels node labels) with
    | .ok () => return ()
    | .error _ =>
      sleep pause
      attemptLabels node labels pauses

/-- Writes all given labels at once. -/
def updateLabels (node : String) (labels : LabelMap) : ClusterStep ω Unit :=
  attemptLabels api node labels labelRetryPauses

/-- Closes a node for new pods, or opens it; `name` is what a failure calls this. -/
def patchCordon (node : String) (cordoned : Bool) (name : String) : ClusterStep ω Unit := do
  match ← ask api (.patchCordon node cordoned) with
  | .ok () => return ()
  | .error e => throw ((Report.because (.nodeUpdateFailed node) e).note name)

/-- Closes a node for new pods. -/
def cordon (node : String) : ClusterStep ω Unit :=
  patchCordon api node true "cordon"

/-- Opens a node for new pods. -/
def uncordon (node : String) : ClusterStep ω Unit :=
  patchCordon api node false "uncordon"

/-- Lists pods again and again until none is left or the rest of the budget is used up. -/
def pollPods (selector podNamespace node : String) (timeout budget : Duration) :
    ClusterStep ω Unit := do
  let pods ← require api (.podListFailed s!"pods matching {selector} in {podNamespace}")
    (.listPods (some podNamespace) (some selector) node)
  if pods.isEmpty then return ()
  else if _h : budget.nanos = 0 then throw (Report.of (.podTerminationTimeout selector timeout))
  else
    sleep (budget.min podPollInterval)
    pollPods selector podNamespace node timeout (budget.minus podPollInterval)
termination_by budget.nanos
decreasing_by
  simp only [Duration.minus, podPollInterval, Duration.ofSeconds]
  omega

/-- Waits until no pod of a namespace that matches a selector is left on a node. The last listing
is at the deadline, so pods that are gone by then are not waited for in vain. -/
def awaitPodsGone (selector podNamespace node : String) (timeout : Duration) :
    ClusterStep ω Unit :=
  pollPods api selector podNamespace node timeout timeout

end Session

end DriverHandover
