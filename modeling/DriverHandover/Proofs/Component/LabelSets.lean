import DriverHandover.Proofs.Component.Capture

/-!
# The label sets of a run match

Whatever a node holds, and also if the custom key is that of a component, a run pauses the labels
that it resumes, and waits for no pods of a component whose label it leaves alone. A process that
reads the node when the components are paused comes to the same labels and the same pods.

## Main definitions

* `steadyKeys` – the keys that are written whatever a node holds under them.

## Main statements

* `writtenKey_iff` – which keys a run writes.
* `encodeLabels_captured_paused` – what a process makes of a node that is paused already.
* `label_sets_match` – the labels that are paused, those that are resumed and the pods.
-/

namespace DriverHandover

/-- The keys of the components whose labels are written whatever a node holds under them. -/
def steadyKeys : List String :=
  (Component.all.filter Component.alwaysWritten).map Component.labelKey

variable {custom : Option String} {labels labels' : LabelMap} {key : String}
variable {prior : ComponentState}

theorem mem_steadyKeys_iff :
    key ∈ steadyKeys ↔ ∃ component : Component, component.alwaysWritten = true ∧
      component.labelKey = key := by
  simp only [steadyKeys, List.mem_map, List.mem_filter, Component.mem_all, true_and]

theorem writtenKey_iff :
    WrittenKey custom labels key ↔
      key ∈ steadyKeys ∨ key = Component.migManager.labelKey ∧ labels.getD key ≠ "" ∨
        custom = some key ∧ labels.getD key ≠ "" := by
  rw [WrittenKey, ← or_assoc, mem_steadyKeys_iff]
  refine or_congr_left ⟨?_, ?_⟩
  · rintro ⟨component, -, rfl, halways | hvalue⟩
    · exact .inl ⟨component, halways, rfl⟩
    · by_cases halways : component.alwaysWritten = true
      · exact .inl ⟨component, halways, rfl⟩
      · cases component with
        | migManager => exact .inr ⟨rfl, hvalue⟩
        | _ => exact absurd rfl halways
  · rintro (⟨component, halways, rfl⟩ | ⟨rfl, hvalue⟩)
    · exact ⟨component, component.mem_all, rfl, .inl halways⟩
    · exact ⟨.migManager, Component.mem_all _, rfl, .inr hvalue⟩

theorem contains_encodeLabels_captured (custom : Option String) (labels : LabelMap)
    (encode : String → String) (key : String) :
    ((captured custom labels).encodeLabels encode).contains key = true ↔
      WrittenKey custom labels key := by
  rw [LabelMap.contains, get?_encodeLabels_captured]
  split
  · rename_i hwritten
    exact iff_of_true rfl hwritten
  · rename_i hwritten
    exact iff_of_false Bool.false_ne_true hwritten

/-- Only whether a value is empty decides whether it is written. -/
theorem writtenKey_congr
    (h : Tracked custom key → (labels'.getD key = "" ↔ labels.getD key = "")) :
    WrittenKey custom labels' key ↔ WrittenKey custom labels key := by
  by_cases htracked : Tracked custom key
  · simp only [WrittenKey, WrittenComponentKey, ne_eq, h htracked]
  · exact iff_of_false (fun hw => htracked hw.tracked) fun hw => htracked hw.tracked

theorem getD_overlay_pausedLabels (h : Tracked custom key) :
    (labels.overlay (captured custom labels).pausedLabels).getD key = pause (labels.getD key) :=
  getD_overlay_encodeLabels pause_empty h id

/-- Where pausing makes no difference to what becomes of a value, a process that reads a node with
paused labels comes to the labels that it comes to without. -/
theorem encodeLabels_captured_paused {encode : String → String}
    (hencode : ∀ value, encode (pause value) = encode value) :
    (captured custom (labels.overlay (captured custom labels).pausedLabels)).encodeLabels encode =
      (captured custom labels).encodeLabels encode := by
  refine LabelMap.ext_get? fun key => ?_
  have hwritten : WrittenKey custom (labels.overlay (captured custom labels).pausedLabels) key ↔
      WrittenKey custom labels key := by
    refine writtenKey_congr fun htracked => ?_
    rw [getD_overlay_pausedLabels htracked, pause_eq_empty_iff]
  rw [get?_encodeLabels_captured, get?_encodeLabels_captured]
  by_cases h : WrittenKey custom labels key
  · rw [if_pos (hwritten.2 h), if_pos h, getD_overlay_pausedLabels h.tracked, hencode]
  · rw [if_neg (mt hwritten.1 h), if_neg h]

theorem awaitedApps_captured_paused :
    (captured custom (labels.overlay (captured custom labels).pausedLabels)).awaitedApps =
      (captured custom labels).awaitedApps := by
  refine congrArg (List.filterMap Component.app?) (List.filter_congr fun component _ => ?_)
  have htracked : Tracked custom component.labelKey := .inl ⟨component, rfl⟩
  have hvalue : (labels.overlay (captured custom labels).pausedLabels).getD component.labelKey =
      pause (labels.getD component.labelKey) := getD_overlay_pausedLabels htracked
  simp only [captured, ComponentState.capture] at hvalue ⊢
  rw [hvalue, Bool.eq_iff_iff]
  simp [pause_eq_empty_iff]

/-- The label of a component whose pods are awaited is written. -/
theorem awaited_written {app : String} (h : app ∈ (captured custom labels).awaitedApps) :
    ∃ component : Component, component.app? = some app ∧
      WrittenKey custom labels component.labelKey := by
  obtain ⟨component, hmem, happ⟩ := List.mem_filterMap.1 h
  obtain ⟨-, hawaited⟩ := List.mem_filter.1 hmem
  refine ⟨component, happ, writtenKey_labelKey_iff.2 ?_⟩
  -- the only component whose label may be left alone is an optional one
  cases component with
  | migManager =>
    rw [Bool.or_eq_true, bne_iff_ne] at hawaited
    exact .inr (hawaited.resolve_left Bool.false_ne_true)
  | _ => exact .inl rfl

/-- Let a process capture the labels of a node, which has captured a custom label before only if it
has a custom key. It pauses and resumes the same labels: those of the components that are always
written, and the one of the MIG manager and the custom one if they have a value. Each is paused and
resumed from the value that the node has under this very key, also if the custom key is the one of a
component. The process waits for pods only of components whose label it pauses. A process that
captures the labels when they are paused, the same one or another, comes to the same labels and
waits for the same pods. -/
theorem label_sets_match {prior later : ComponentState}
    (hprior : custom = none → prior.custom = none) (hlater : custom = none → later.custom = none)
    (labels : LabelMap) (policy policy' : String) :
    let state := (prior.capture custom labels).setPolicy policy
    let again := (later.capture custom (labels.overlay state.pausedLabels)).setPolicy policy'
    (steadyKeys.length = 10 ∧ steadyKeys.Nodup) ∧
    (∀ key,
      (state.pausedLabels.contains key ↔
        key ∈ steadyKeys ∨ key = Component.migManager.labelKey ∧ labels.getD key ≠ "" ∨
          custom = some key ∧ labels.getD key ≠ "") ∧
      state.resumedLabels.contains key = state.pausedLabels.contains key) ∧
    (∀ key, state.pausedLabels.contains key →
      state.pausedLabels.get? key = some (pause (labels.getD key)) ∧
        state.resumedLabels.get? key = some (resume (labels.getD key))) ∧
    (∀ app ∈ state.awaitedApps, ∃ component : Component,
      component.app? = some app ∧ state.pausedLabels.contains component.labelKey) ∧
    again.pausedLabels = state.pausedLabels ∧ again.resumedLabels = state.resumedLabels ∧
      again.awaitedApps = state.awaitedApps := by
  intro state again
  have hstate : state = (captured custom labels).setPolicy policy :=
    capture_eq_captured hprior labels policy
  have hpaused : state.pausedLabels = (captured custom labels).pausedLabels := by
    rw [hstate]
    rfl
  have hresumed : state.resumedLabels = (captured custom labels).resumedLabels := by
    rw [hstate]
    rfl
  have hagain : again = (captured custom
      (labels.overlay (captured custom labels).pausedLabels)).setPolicy policy' := by
    rw [← hpaused]
    exact capture_eq_captured hlater _ policy'
  have hkeys (encode key) : ((captured custom labels).encodeLabels encode).contains key = true ↔
      WrittenKey custom labels key := contains_encodeLabels_captured custom labels encode key
  refine ⟨⟨rfl, by decide +kernel⟩, fun key => ⟨?_, ?_⟩, fun key hkey => ?_, fun app happ => ?_,
    ?_, ?_, ?_⟩
  · rw [← writtenKey_iff, hpaused]
    exact hkeys pause key
  · rw [hpaused, hresumed, Bool.eq_iff_iff]
    exact (hkeys resume key).trans (hkeys pause key).symm
  · rw [hpaused] at hkey ⊢
    rw [hresumed]
    have hwritten := (hkeys pause key).1 hkey
    constructor
    · rw [ComponentState.pausedLabels, get?_encodeLabels_captured, if_pos hwritten]
    · rw [ComponentState.resumedLabels, get?_encodeLabels_captured, if_pos hwritten]
  · have hawaited : app ∈ (captured custom labels).awaitedApps := happ
    obtain ⟨component, hcomponent, hwritten⟩ := awaited_written hawaited
    rw [hpaused]
    exact ⟨component, hcomponent, (hkeys pause _).2 hwritten⟩
  · rw [hpaused, hagain]
    exact encodeLabels_captured_paused pause_pause
  · rw [hresumed, hagain]
    exact encodeLabels_captured_paused resume_pause_eq_resume
  · rw [hstate, hagain]
    exact awaitedApps_captured_paused

/-- What a process that dies has paused is resumed by the next one. -/
theorem mig_manager_resumed_by_next_process :
    let labels := LabelMap.ofList [(Component.migManager.labelKey, "all-balanced")]
    let state := (ComponentState.empty.capture none labels).setPolicy ""
    let again := (ComponentState.empty.capture none
      (labels.overlay state.pausedLabels)).setPolicy "true"
    state.pausedLabels.contains Component.migManager.labelKey = true ∧
      again.resumedLabels.get? Component.migManager.labelKey = some "all-balanced" ∧
      again.awaitedApps = state.awaitedApps := by
  intro labels state again
  obtain ⟨-, hkeys, hvalues, -, -, hresumed, hawaited⟩ :=
    @label_sets_match none .empty .empty (fun _ => rfl) (fun _ => rfl) labels "" "true"
  have hvalue : labels.getD Component.migManager.labelKey = "all-balanced" := by decide +kernel
  have hpaused := (hkeys Component.migManager.labelKey).1.2
    (.inr (.inl ⟨rfl, by rw [hvalue]; decide⟩))
  refine ⟨hpaused, ?_, hawaited⟩
  rw [hresumed, (hvalues _ hpaused).2, hvalue]
  decide +kernel

end DriverHandover
