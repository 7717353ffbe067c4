import DriverHandover.Component
import DriverHandover.Label.Map
import DriverHandover.Label.Marker

/-!
# Captured component labels

What a run keeps of the node it started on: the values of the deploy labels, of a further label that
the operator names, and of the upgrade policy. The labels that pause all components and those that
restore them are both computed from the captured values.

## Main definitions

* `ComponentState` – the captured values, with `ComponentState.capture` to take them from a node.
* `ComponentState.pausedLabels`, `ComponentState.resumedLabels` – the two label sets.
* `ComponentState.awaitedApps` – whose pods have to leave the node, in shutdown order.
-/

namespace DriverHandover

/-- The values captured from a node. -/
structure ComponentState where
  value : Component → String
  /-- The key and value of the label for custom operands. -/
  custom : Option (String × String)
  policy : String

namespace ComponentState

/-- Nothing captured yet: all values are empty. -/
def empty : ComponentState := ⟨fun _ => "", none, ""⟩

instance : Inhabited ComponentState := ⟨empty⟩

/-- Sets the value of one component. -/
def set (s : ComponentState) (c : Component) (v : String) : ComponentState :=
  { s with value := fun c' => if c' = c then v else s.value c' }

/-- Sets the label for custom operands. -/
def setCustom (s : ComponentState) (key v : String) : ComponentState :=
  { s with custom := some (key, v) }

/-- Sets the upgrade policy. -/
def setPolicy (s : ComponentState) (v : String) : ComponentState :=
  { s with policy := v }

/-- Takes the component values and, if a key is given, the value of the custom label from the labels
of a node, where a missing label counts as empty. -/
def capture (s : ComponentState) (customKey : Option String) (labels : LabelMap) :
    ComponentState :=
  { s with
    value := fun c => labels.getD c.labelKey
    custom :=
      match customKey with
      | none => s.custom
      | some key => some (key, labels.getD key) }

/-- Under the policy `true` the operator's own upgrade controller drains the node, so a run must
neither drain it nor evict from it. -/
def upgradesExternally (s : ComponentState) : Bool :=
  s.policy == "true"

/-- Components whose label a run writes. -/
def written (s : ComponentState) : List Component :=
  Component.all.filter fun c => c.alwaysWritten || s.value c != ""

/-- The labels of the written components and the custom label, unless that is empty, each with its
value encoded. -/
def encodeLabels (encode : String → String) (s : ComponentState) : LabelMap :=
  let labels := LabelMap.ofList (s.written.map fun c => (c.labelKey, encode (s.value c)))
  match s.custom with
  | none => labels
  | some (key, v) => if v = "" then labels else labels.insert key (encode v)

/-- The labels that deschedule every component. -/
def pausedLabels : ComponentState → LabelMap :=
  encodeLabels pause

/-- The labels that give every component back the value it was captured with. -/
def resumedLabels : ComponentState → LabelMap :=
  encodeLabels resume

/-- The `app` labels of the pods that have to leave the node, in shutdown order. -/
def awaitedApps (s : ComponentState) : List String :=
  (Component.all.filter fun c => !c.isOptional || s.value c != "").filterMap Component.app?

end ComponentState

end DriverHandover
