import DriverHandover.Json
import DriverHandover.Pod

/-!
# Pods from JSON

Every field may be missing or `null`; one of the wrong type makes the whole value no pod. Fields
that a `Pod` has no place for are passed over.

## Main definitions

* `Pod.ofJson?` – the pod that a value describes.
-/

namespace DriverHandover

/-- A map of strings. -/
def LabelMap.ofJson? (value : Json) : Option LabelMap :=
  (value.asEntries? Json.asString?).map LabelMap.ofList

/-- An owner reference. -/
def Owner.ofJson? (value : Json) : Option Owner := do
  let members ← value.members?
  let kind ← Json.orElse "" Json.asString? (Json.member "kind" members)
  let isController ← Json.orElse false Json.asBool? (Json.member "controller" members)
  return { kind, isController }

/-- The names of the resources in a map from names to quantities. -/
def resourceNames? (value : Json) : Option (List String) :=
  (value.asEntries? Json.asString?).map fun entries => entries.map (·.1)

/-- A container. -/
def Container.ofJson? (value : Json) : Option Container := do
  let members ← value.members?
  let resources ← Json.orElse [] Json.members? (Json.member "resources" members)
  let limits ← Json.orElse [] resourceNames? (Json.member "limits" resources)
  let requests ← Json.orElse [] resourceNames? (Json.member "requests" resources)
  return { limits, requests }

/-- A volume. -/
def Volume.ofJson? (value : Json) : Option Volume := do
  let members ← value.members?
  let emptyDir ← Json.optional Json.members? (Json.member "emptyDir" members)
  return { isEmptyDir := emptyDir.isSome }

/-- The name of a resource claim of a pod. -/
def claimName? (value : Json) : Option String := do
  let members ← value.members?
  Json.orElse "" Json.asString? (Json.member "name" members)

/-- What a pod asks for. -/
def PodSpec.ofJson? (value : Json) : Option PodSpec := do
  let members ← value.members?
  let nodeName ← Json.optional Json.asString? (Json.member "nodeName" members)
  let containers ←
    Json.orElse [] (Json.asList? Container.ofJson?) (Json.member "containers" members)
  let claims ← Json.orElse [] (Json.asList? claimName?) (Json.member "resourceClaims" members)
  let volumes ← Json.orElse [] (Json.asList? Volume.ofJson?) (Json.member "volumes" members)
  return { nodeName, containers, claims, volumes }

/-- The pod that a value describes. -/
def Pod.ofJson? (value : Json) : Option Pod := do
  let members ← value.members?
  let metadata ← Json.orElse [] Json.members? (Json.member "metadata" members)
  let text (key : String) := Json.optional Json.asString? (Json.member key metadata)
  let labelMap (key : String) :=
    Json.orElse LabelMap.empty LabelMap.ofJson? (Json.member key metadata)
  let status ← Json.orElse [] Json.members? (Json.member "status" members)
  return {
    givenName := ← text "name"
    generateName := ← text "generateName"
    podNamespace := ← text "namespace"
    uid := ← text "uid"
    labels := ← labelMap "labels"
    annotations := ← labelMap "annotations"
    owners :=
      ← Json.orElse [] (Json.asList? Owner.ofJson?) (Json.member "ownerReferences" metadata)
    spec := ← Json.optional PodSpec.ofJson? (Json.member "spec" members)
    phase := ← Json.optional Json.asString? (Json.member "phase" status) }

end DriverHandover
