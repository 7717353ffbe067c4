import DriverHandover.Component.State
import DriverHandover.Proofs.Label.Map
import DriverHandover.Proofs.Label.Marker
import Mathlib.Data.List.Nodup

/-!
# The label sets of a captured state

A run captures the values under the component keys and the custom key. The set that pauses and the
set that resumes have the same keys, and what they hold under a key is computed from the value that
was captured under it.

## Main definitions

* `Tracked` – the keys that a run captures.
* `WrittenKey` – those of them that a run writes.
* `captured` – the state captured from the labels of a node.

## Main statements

* `get?_encodeLabels_captured` – what a label set holds.
* `getD_overlay_encodeLabels` – what a node holds after a label set was written.
-/

namespace DriverHandover

/-- The keys under which a run captures values: those of the components and the custom one. -/
def Tracked (custom : Option String) (key : String) : Prop :=
  (∃ component : Component, component.labelKey = key) ∨ custom = some key

/-- The keys of the components that a run writes on a node with the given labels: an empty label is
left alone if its component is one of those that need not be there. -/
def WrittenComponentKey (labels : LabelMap) (key : String) : Prop :=
  ∃ component ∈ Component.all,
    component.labelKey = key ∧ (component.alwaysWritten = true ∨ labels.getD key ≠ "")

instance (labels : LabelMap) (key : String) : Decidable (WrittenComponentKey labels key) :=
  inferInstanceAs (Decidable (∃ component ∈ Component.all, _))

/-- The keys that a run writes: those of the components, and the custom one unless it is empty. -/
def WrittenKey (custom : Option String) (labels : LabelMap) (key : String) : Prop :=
  WrittenComponentKey labels key ∨ custom = some key ∧ labels.getD key ≠ ""

instance (custom : Option String) (labels : LabelMap) (key : String) :
    Decidable (WrittenKey custom labels key) :=
  inferInstanceAs (Decidable (_ ∨ _))

/-- The state that a fresh process captures from the labels of a node. -/
def captured (custom : Option String) (labels : LabelMap) : ComponentState :=
  ComponentState.empty.capture custom labels

variable {custom : Option String} {labels : LabelMap} {key : String}

theorem WrittenKey.tracked (h : WrittenKey custom labels key) : Tracked custom key := by
  rcases h with ⟨component, -, hkey, -⟩ | ⟨hcustom, -⟩
  · exact .inl ⟨component, hkey⟩
  · exact .inr hcustom

theorem Component.labelKey_injective {component other : Component}
    (h : component.labelKey = other.labelKey) : component = other := by
  have hnodup : (Component.all.map Component.labelKey).Nodup := by decide +kernel
  exact List.inj_on_of_nodup_map hnodup component.mem_all other.mem_all h

theorem writtenKey_labelKey_iff {component : Component} :
    WrittenKey custom labels component.labelKey ↔
      component.alwaysWritten = true ∨ labels.getD component.labelKey ≠ "" := by
  constructor
  · rintro (⟨other, -, hkey, hwritten⟩ | ⟨-, hvalue⟩)
    · obtain rfl := Component.labelKey_injective hkey
      exact hwritten
    · exact .inr hvalue
  · exact fun h => .inl ⟨component, component.mem_all, rfl, h⟩

/-- A tracked key that is not written has no value, or an empty one. -/
theorem getD_eq_empty_of_not_written (htracked : Tracked custom key)
    (h : ¬WrittenKey custom labels key) : labels.getD key = "" := by
  by_cases hempty : labels.getD key = ""
  · exact hempty
  · refine absurd ?_ h
    rcases htracked with ⟨component, hkey⟩ | hcustom
    · exact .inl ⟨component, component.mem_all, hkey, .inr hempty⟩
    · exact .inr ⟨hcustom, hempty⟩

/-- What a process captures replaces all that it has captured before. -/
theorem capture_eq_captured {s : ComponentState} (hcustom : custom = none → s.custom = none)
    (labels : LabelMap) (policy : String) :
    (s.capture custom labels).setPolicy policy = (captured custom labels).setPolicy policy := by
  cases custom with
  | some key => rfl
  | none =>
    simp only [captured, ComponentState.capture, ComponentState.setPolicy, hcustom rfl]
    rfl

theorem mem_written_captured {component : Component} :
    component ∈ (captured custom labels).written ↔
      component.alwaysWritten = true ∨ labels.getD component.labelKey ≠ "" := by
  simp [ComponentState.written, captured, ComponentState.capture, component.mem_all]

theorem get?_componentLabels (custom : Option String) (labels : LabelMap)
    (encode : String → String) (key : String) :
    (LabelMap.ofList ((captured custom labels).written.map fun component =>
      (component.labelKey, encode ((captured custom labels).value component)))).get? key =
        if WrittenComponentKey labels key then some (encode (labels.getD key)) else none := by
  have hgraph : ∀ e ∈ (captured custom labels).written.map fun component =>
      (component.labelKey, encode ((captured custom labels).value component)),
      e.2 = encode (labels.getD e.1) := by
    intro e he
    obtain ⟨component, -, rfl⟩ := List.mem_map.1 he
    rfl
  have hkeys : key ∈ ((captured custom labels).written.map fun component =>
      (component.labelKey, encode ((captured custom labels).value component))).map Prod.fst ↔
      WrittenComponentKey labels key := by
    rw [List.map_map, List.mem_map]
    constructor
    · rintro ⟨component, hwritten, rfl⟩
      exact ⟨component, component.mem_all, rfl, mem_written_captured.1 hwritten⟩
    · rintro ⟨component, -, rfl, hwritten⟩
      exact ⟨component, mem_written_captured.2 hwritten, rfl⟩
  rw [LabelMap.get?_ofList_of_graph (g := fun k => encode (labels.getD k)) hgraph]
  simp only [hkeys]

/-- A label set of a captured state holds, under the keys that a run writes and under no other, the
encoded captured value. -/
theorem get?_encodeLabels_captured (custom : Option String) (labels : LabelMap)
    (encode : String → String) (key : String) :
    ((captured custom labels).encodeLabels encode).get? key =
      if WrittenKey custom labels key then some (encode (labels.getD key)) else none := by
  -- the custom key is written last, so it wins where it is the key of a component as well
  have hcomponents := get?_componentLabels custom labels encode key
  cases custom with
  | none =>
    have hiff : WrittenKey none labels key ↔ WrittenComponentKey labels key := by
      simp [WrittenKey, WrittenComponentKey]
    simp only [hiff]
    exact hcomponents
  | some name =>
    have hencode : (captured (some name) labels).encodeLabels encode =
        if labels.getD name = "" then _ else _ := rfl
    rw [hencode]
    split
    · rename_i hempty
      have hiff : WrittenKey (some name) labels key ↔ WrittenComponentKey labels key := by
        refine or_iff_left ?_
        rintro ⟨hname, hne⟩
        exact hne (Option.some.inj hname ▸ hempty)
      simp only [hiff]
      exact hcomponents
    · rename_i hne
      rw [LabelMap.get?_insert]
      by_cases hkey : key = name
      · subst hkey
        rw [if_pos rfl, if_pos (.inr ⟨rfl, hne⟩)]
      · have hiff : WrittenKey (some name) labels key ↔ WrittenComponentKey labels key := by
          refine or_iff_left ?_
          rintro ⟨hname, -⟩
          exact hkey (Option.some.inj hname).symm
        rw [if_neg hkey]
        simp only [hiff]
        exact hcomponents

/-- The two label sets have the same keys. -/
theorem get?_pausedLabels_eq_none_iff :
    (captured custom labels).pausedLabels.get? key = none ↔
      (captured custom labels).resumedLabels.get? key = none := by
  rw [ComponentState.pausedLabels, ComponentState.resumedLabels, get?_encodeLabels_captured,
    get?_encodeLabels_captured]
  split <;> simp

/-- No label set of a run holds the label of the driver itself, unless it is the custom one. -/
theorem tracked_ne_driverLabelKey (hcustom : custom ≠ some driverLabelKey)
    (htracked : Tracked custom key) : key ≠ driverLabelKey := by
  rintro rfl
  rcases htracked with ⟨component, hkey⟩ | hkey
  · cases component <;> exact absurd hkey (by decide +kernel)
  · exact hcustom hkey

/-- What a node holds under a tracked key after a label set was written over other labels that agree
with the captured ones where nothing is written. -/
theorem getD_overlay_encodeLabels {encode : String → String} (hempty : encode "" = "")
    (htracked : Tracked custom key) {lower : LabelMap}
    (hlower : labels.getD key = "" → lower.getD key = "") :
    (lower.overlay ((captured custom labels).encodeLabels encode)).getD key =
      encode (labels.getD key) := by
  have hget := get?_encodeLabels_captured custom labels encode key
  by_cases hwritten : WrittenKey custom labels key
  · rw [if_pos hwritten] at hget
    rw [LabelMap.getD_overlay_of_some hget]
  · rw [if_neg hwritten] at hget
    have hnone := getD_eq_empty_of_not_written htracked hwritten
    rw [LabelMap.getD_overlay_of_none hget, hlower hnone, hnone, hempty]

end DriverHandover
