import DriverHandover.Cluster.Error
import DriverHandover.Json
import DriverHandover.Pod

/-!
# The API server

## Main definitions

* `ApiRequest`, `ApiRequest.Answer` – the requests to the API server and what they ask for.
* `ApiServer` – a server: how it answers a request that is made at a moment.
* `ApiRequest.body?`, `fieldSelector` – how the parts of a request are written.
-/

namespace DriverHandover

/-- What the server tells about a node. -/
structure NodeRecord where
  labels : LabelMap
  annotations : LabelMap
  deriving DecidableEq, Repr

/-- How a pod is addressed. -/
structure PodAddress where
  podNamespace : String
  name : String
  deriving DecidableEq, Repr

/-- The namespace of pods that name none. -/
def defaultNamespace : String := "default"

/-- The address of a pod. -/
def Pod.address (p : Pod) : PodAddress :=
  ⟨p.podNamespace.getD defaultNamespace, p.name⟩

/-- A request to the API server. -/
inductive ApiRequest where
  | getNode (node : String)
  /-- Writes labels over those of a node. -/
  | patchLabels (node : String) (labels : LabelMap)
  /-- Closes a node for new pods, or opens it. -/
  | patchCordon (node : String) (cordoned : Bool)
  /-- The pods on a node, of one namespace or of all, that match a label selector. -/
  | listPods (podNamespace selector : Option String) (node : String)
  | evictPod (pod : PodAddress) (graceSeconds : Option Nat)
  | getPod (pod : PodAddress)
  deriving DecidableEq, Repr

namespace ApiRequest

/-- What a request asks for. -/
abbrev Answer : ApiRequest → Type
  | getNode _ => NodeRecord
  | patchLabels _ _ => Unit
  | patchCordon _ _ => Unit
  | listPods _ _ _ => List Pod
  | evictPod _ _ => Unit
  | getPod _ => Pod

/-- The merge patch that a request carries. -/
def body? : ApiRequest → Option Json
  | patchLabels _ labels =>
    let written := labels.entries.map fun (key, value) => (key, Json.string value)
    some (.object [("metadata", .object [("labels", .object written)])])
  | patchCordon _ cordoned => some (.object [("spec", .object [("unschedulable", .bool cordoned)])])
  | _ => none

end ApiRequest

/-- The field selector of the pods on a node. -/
def fieldSelector (node : String) : String :=
  "spec.nodeName=" ++ node

/-- A server with a state of type `ω`: how it answers a request at a moment. -/
abbrev ApiServer (ω : Type) :=
  (request : ApiRequest) → Instant → ω → Except ApiError request.Answer × ω

end DriverHandover
