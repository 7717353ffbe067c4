import DriverHandover.Drain.Options
import DriverHandover.Pod
import DriverHandover.Text.Blank

/-!
# Choosing the pods to remove

Each pod of a node goes through a sequence of filters. The first filter that objects decides: the
pod stays and is no problem, or it stays and stands in the way of the drain. A pod that no filter
objects to is removed.

## Main definitions

* `Verdict` – what a filter says about a pod.
* `drainVerdict`, `drainWarns` – what the filters together say, and whether they warn.
* `Selection`, `select` – the pods of a list by verdict, each kind in the order of the list.
-/

namespace DriverHandover

/-- What a filter says about a pod. -/
inductive Verdict where
  /-- No objection: the pod may be removed. -/
  | accept
  /-- The pod stays, and that is no problem. -/
  | skip (reason : String)
  /-- The pod stays and blocks the drain. -/
  | refuse (message : String)
  deriving DecidableEq, Repr

namespace Verdict

/-- The first objection of two filters. -/
def orElse (v w : Verdict) : Verdict :=
  match v with
  | accept => w
  | v => v

end Verdict

namespace Pod

/-- Pods that a `DaemonSet` would start again stay. -/
def daemonVerdict (p : Pod) : Verdict :=
  if p.isDaemon then .skip "pod is member of a DaemonSet" else .accept

/-- Static pods of the node stay. -/
def mirrorVerdict (p : Pod) : Verdict :=
  if p.isMirror then .skip "pod is a static mirror pod" else .accept

/-- Pods with data that would be lost stay, unless they have ended or the options give it up. -/
def storageVerdict (o : DrainOptions) (p : Pod) : Verdict :=
  if p.usesLocalStorage ∧ ¬ p.isCompleted ∧ ¬ o.deleteLocalData then
    .refuse "pod has local storage (use delete-emptydir-data to override)"
  else .accept

/-- Pods that no controller would replace stay, unless they have ended or the options force it. -/
def managementVerdict (o : DrainOptions) (p : Pod) : Verdict :=
  if ¬ p.isManaged ∧ ¬ p.isCompleted ∧ ¬ o.force then
    .refuse "pod is not managed by a controller (use force to override)"
  else .accept

/-- The filter for managed pods warns when it lets a pod pass only because the options force it. -/
def managementWarns (o : DrainOptions) (p : Pod) : Bool :=
  !p.isManaged && !p.isCompleted && o.force

end Pod

/-- The verdict of the caller's filter and then the standard filters, in this order. -/
def drainVerdict (o : DrainOptions) (filter : Pod → Verdict) (p : Pod) : Verdict :=
  (filter p).orElse <| p.daemonVerdict.orElse <| p.mirrorVerdict.orElse <|
    (p.storageVerdict o).orElse (p.managementVerdict o)

/-- Whether the filters warn about a pod. Only the last one does, and it is not asked about a pod
that another one objects to. -/
def drainWarns (o : DrainOptions) (filter : Pod → Verdict) (p : Pod) : Bool :=
  let others := (filter p).orElse <| p.daemonVerdict.orElse <| p.mirrorVerdict.orElse <|
    p.storageVerdict o
  others = .accept && p.managementWarns o

/-- The pods of a list by verdict. -/
structure Selection where
  /-- The pods to remove. -/
  pods : List Pod
  /-- The pods that stay and are no problem, with the reason. -/
  skipped : List (Pod × String)
  /-- The pods that block the drain, with the message. -/
  refused : List (Pod × String)
  /-- The pods about which there was a warning that no controller will replace them. -/
  forced : List Pod
  deriving DecidableEq, Repr

/-- Sorts the pods of a list by verdict. -/
def select (o : DrainOptions) (filter : Pod → Verdict) (pods : List Pod) : Selection where
  pods := pods.filter fun p => drainVerdict o filter p = .accept
  skipped := pods.filterMap fun p =>
    match drainVerdict o filter p with
    | .skip reason => some (p, reason)
    | _ => none
  refused := pods.filterMap fun p =>
    match drainVerdict o filter p with
    | .refuse message => some (p, message)
    | _ => none
  forced := pods.filter (drainWarns o filter)

namespace Selection

/-- The messages about the pods that block the drain. -/
def errors (s : Selection) : List String :=
  s.refused.map fun (p, message) => p.reference ++ ": " ++ message

/-- The messages in one line. -/
def errorText (s : Selection) : String :=
  Text.join "; " s.errors

end Selection

end DriverHandover
