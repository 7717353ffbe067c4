import DriverHandover.Proofs.Uninstall.Rollback

/-!
# What a run that ends well leaves behind

A run that completes resumes what it has read, so it leaves no component paused, not even one that a
process which died had paused before. A run that is skipped reads no labels and leaves them as they
are: a component that was paused stays paused.

## Main definitions

* `Resumable` – a value that a dead process may have left in the label of a component.
* `ClusterSucceeds` – no call to the cluster has failed.

## Main statements

* `completed_run_resumes` – what a run without an error has done to the components.
* `skipped_run_strands` – a run without an error may leave a component paused.
-/

namespace DriverHandover

open Uninstall

/-- A clean value, or one paused. -/
def Resumable (value : String) : Prop :=
  ∃ original, Clean original ∧ (value = original ∨ value = pause original)

theorem Resumable.resume_unmarked {value : String} (h : Resumable value) :
    Marker.marks (resume value) = false := by
  obtain ⟨original, hclean, rfl | rfl⟩ := h
  · rw [hclean.resume_eq_self]
    exact hclean.unmarked
  · rw [hclean.resume_pause]
    exact hclean.unmarked

/-- Whether a call to the cluster failed. -/
def clusterFails : NodeExchange → Bool
  | ⟨.nodeLabels _, .error _⟩ | ⟨.nodeAnnotations _, .error _⟩ | ⟨.updateLabels _ _, .error _⟩
  | ⟨.cordon _, .error _⟩ | ⟨.uncordon _, .error _⟩ | ⟨.awaitPodsGone _ _ _ _, .error _⟩
  | ⟨.drain _ _, .error _⟩ | ⟨.evictGpuPods _ _, .error _⟩ => true
  | _ => false

/-- No call to the cluster has failed. -/
def ClusterSucceeds (history : NodeHistory) : Prop :=
  ∀ e ∈ history, clusterFails e = false

instance (history : NodeHistory) : Decidable (ClusterSucceeds history) :=
  inferInstanceAs (Decidable (∀ e ∈ history, clusterFails e = false))

variable {c : Config} {t : Timings} {initial read labels : LabelMap} {memory : Memory}
variable {past history : NodeHistory}

/-- An update among calls that have not failed was made. -/
theorem ClusterSucceeds.update_ok (h : ClusterSucceeds history) {node : String}
    {reply : Except (Report ClusterError) Unit}
    (hmem : ⟨.updateLabels node labels, reply⟩ ∈ history) : reply = .ok () := by
  cases reply with
  | error report => exact Bool.noConfusion (h _ hmem)
  | ok _ => rfl

namespace Uninstall

theorem conclude_lastStage (removed : Except (Report UninstallError) Unit) :
    (conclude removed).Guarantees (fun _ _ _ => True)
      (fun result after _ => after.stage = lastStage result ∧ result ≠ .ok .skipped)
      memory past := by
  have hfinish : ∀ (result : Except (Report UninstallError) UninstallOutcome) (memory : Memory)
      (past : NodeHistory), result ≠ .ok .skipped →
      (finish result).Guarantees (fun _ _ _ => True)
        (fun result after _ => after.stage = lastStage result ∧ result ≠ .ok .skipped)
        memory past :=
    fun result memory past hresult => finish_guarantees.2 ⟨trivial, fun _ => ⟨rfl, hresult⟩⟩
  cases removed with
  | error report => exact hfinish (.error report) _ _ nofun
  | ok _ =>
    rw [conclude, Process.guarantees_bind]
    refine Process.guarantees_trivial.imp fun _ _ _ _ => ?_
    rw [Process.guarantees_bind]
    refine Process.guarantees_trivial.imp fun unloaded _ _ _ => ?_
    cases unloaded with
    | error report => exact hfinish (.error report) _ _ nofun
    | ok _ => exact hfinish (.ok .completed) _ _ nofun

/-- A run that has read its node is not skipped any more. -/
theorem handOver_lastStage {looks : Nat} :
    (handOver c t looks).Guarantees (fun _ _ _ => True)
      (fun result after _ => after.stage = lastStage result ∧ result ≠ .ok .skipped)
      memory past := by
  -- how the run ends is decided by its last part alone
  rw [handOver_eq, Process.guarantees_bind]
  refine Process.guarantees_trivial.imp fun _ _ _ _ => ?_
  rw [Process.guarantees_bind]
  refine Process.guarantees_trivial.imp fun removed _ _ _ => ?_
  rw [Process.guarantees_bind]
  refine Process.guarantees_trivial.imp fun _ _ _ _ => ?_
  exact conclude_lastStage removed

end Uninstall

/-- A run that ends enters its last stage. It is skipped only because the desired version is loaded,
and has only looked at the node then. -/
theorem uninstall_lastStage {looks : Nat} :
    (uninstall c t looks).Guarantees (fun _ _ _ => True)
      (fun result after past => after.stage = lastStage result ∧
        (result = .ok .skipped → DesiredLoaded c past ∧ ∀ e ∈ past, e.1.Looks))
      memory [] := by
  refine uninstall_guarantees (fun _ _ _ _ _ _ => trivial) ?_ ?_
  · intro result after past hend
    exact ⟨hend.stage, hend.skipped⟩
  · intro kept before labels annotations _ _ _
    refine handOver_lastStage.imp fun result after past hlast => ?_
    exact ⟨hlast.1, fun hskipped => absurd hskipped hlast.2⟩

/-- A run that completes has read its node and resumed the components. -/
theorem uninstall_completed {looks : Nat} :
    (uninstall c t looks).Ensures (InOrder c)
      (fun result _ past => result = .ok .completed → ∃ read, ResumedAs c read past)
      Memory.fresh [] := by
  refine uninstall_ensures (fun past call h => inOrder_of_declines h) ?_ ?_
  · intro result _ past hne _ _ hcompleted
    exact absurd hcompleted hne
  · intro before labels annotations memory hlooks hstate
    refine (handOver_inOrder hstate (readAs_reads hlooks labels annotations)).imp ?_
    rintro _ _ later hresumed -
    exact ⟨labels, hresumed⟩

/-- What has been resumed holds the resumed values, if the update was made. -/
theorem ResumedAs.getD_component (h : ResumedAs c read history)
    (hfaithful : Faithful c.nodeName initial history) (hcluster : ClusterSucceeds history)
    (component : Component) :
    (labelsAfter c.nodeName initial history).getD component.labelKey =
      resume (initial.getD component.labelKey) := by
  obtain ⟨before, reply, rest, rfl, hpaused, hrest⟩ := h
  obtain ⟨rfl, hover⟩ := hpaused.overlay_resumed (faithful_append.1 hfaithful).1
  obtain rfl : reply = .ok () :=
    hcluster.update_ok (List.mem_append_right before List.mem_cons_self)
  -- nothing after this update writes labels, and it hides the one that paused the components
  rw [List.append_cons, labelsAfter_append,
    labelsAfter_of_not_relabels fun e he => (hrest e he).not_relabels, labelsAfter_concat,
    labelsStep_ok, hover]
  exact getD_overlay_encodeLabels resume_empty (.inl ⟨component, rfl⟩) id

/-- A run of a fresh process that ends without an error, and without a failure of the cluster, has
come to the last stage. If it has completed, no component is paused, whatever a process that died
had left paused. If it is skipped, the desired version was found loaded, and the labels are those
that it found. -/
theorem completed_run_resumes {looks : Nat} {outcome : UninstallOutcome} {after : Memory}
    (hrun : (uninstall c t looks).Runs Memory.fresh history (some (.ok outcome)) after)
    (hfaithful : Faithful c.nodeName initial history) (hcluster : ClusterSucceeds history)
    (hstart : ∀ component : Component, Resumable (initial.getD component.labelKey)) :
    after.stage = .done ∧
      (outcome = .completed → ∀ component : Component,
        Marker.marks ((labelsAfter c.nodeName initial history).getD component.labelKey) = false) ∧
      (outcome = .skipped →
        DesiredLoaded c history ∧ labelsAfter c.nodeName initial history = initial) := by
  obtain ⟨hstage, hskipped⟩ := (uninstall_lastStage.ensures.of_runs hrun).2 _ rfl
  refine ⟨hstage, ?_, ?_⟩
  · rintro rfl component
    obtain ⟨read, hresumed⟩ : ∃ read, ResumedAs c read history :=
      (uninstall_completed.of_runs hrun).2 _ rfl rfl
    rw [hresumed.getD_component hfaithful hcluster]
    exact (hstart component).resume_unmarked
  · rintro rfl
    obtain ⟨hloaded, hlooks⟩ := hskipped rfl
    exact ⟨hloaded, labelsAfter_of_not_relabels fun e he => (hlooks e he).not_relabels⟩

/-- The outcome of a run that has ended without an error. -/
def outcome? : Option (Except (Report UninstallError) UninstallOutcome) → Option UninstallOutcome
  | some (.ok outcome) => some outcome
  | _ => none

theorem eq_some_ok_of_outcome? {result : Option (Except (Report UninstallError) UninstallOutcome)}
    {outcome : UninstallOutcome} (h : outcome? result = some outcome) :
    result = some (.ok outcome) := by
  match result with
  | some (.ok found) => exact congrArg (some ∘ Except.ok) (Option.some.inj h)
  | some (.error report) => cases h
  | none => cases h

/-- A rehearsal in which no call fails. -/
def Rehearsal.smooth (node : NodeState) : Rehearsal :=
  { Rehearsal.start node (fun _ => []) with limit := (Duration.ofSeconds 60).nanos }

theorem resumable_loaded (component : Component) :
    Resumable (NodeState.loaded.labels.getD component.labelKey) := by
  have hall : ∀ component ∈ Component.all,
      let value := NodeState.loaded.labels.getD component.labelKey
      Clean (resume value) ∧ (value = resume value ∨ value = pause (resume value)) := by
    decide +kernel
  exact ⟨_, hall component component.mem_all⟩

/-- The component that was paused is resumed. -/
theorem dcgm_resumed_by_completed_run :
    ∃ history after,
      (uninstall .thorough .default 2).Runs Memory.fresh history (some (.ok .completed)) after ∧
        Faithful "node" NodeState.loaded.labels history ∧ ClusterSucceeds history ∧
        (∀ component : Component, Resumable (NodeState.loaded.labels.getD component.labelKey)) ∧
        Marker.marks (NodeState.loaded.labels.getD Component.dcgm.labelKey) = true ∧
        after.stage = .done ∧
        Marker.marks ((labelsAfter "node" NodeState.loaded.labels history).getD
          Component.dcgm.labelKey) = false := by
  let p := uninstall .thorough .default 2
  let r := Rehearsal.smooth NodeState.loaded
  have hrun := Process.runs_history Rehearsal.reply p Memory.fresh r
  have hresult : (p.run Rehearsal.reply Memory.fresh r).1 = some (.ok .completed) :=
    eq_some_ok_of_outcome? (by decide +kernel)
  have hfaithful : Faithful "node" NodeState.loaded.labels
      (p.history Rehearsal.reply Memory.fresh r) := by decide +kernel
  have hcluster : ClusterSucceeds (p.history Rehearsal.reply Memory.fresh r) := by decide +kernel
  rw [hresult] at hrun
  have hmarked : Marker.marks (NodeState.loaded.labels.getD Component.dcgm.labelKey) = true := by
    decide +kernel
  obtain ⟨hstage, hresumed, -⟩ := completed_run_resumes hrun hfaithful hcluster resumable_loaded
  exact ⟨_, _, hrun, hfaithful, hcluster, resumable_loaded, hmarked, hstage,
    hresumed rfl Component.dcgm⟩

/-- A run that is skipped leaves a component paused that a process which died had paused. -/
theorem skipped_run_strands :
    ¬ ∀ (c : Config) (t : Timings) (looks : Nat) (initial : LabelMap) (history : NodeHistory)
      (outcome : UninstallOutcome) (after : Memory),
      (uninstall c t looks).Runs Memory.fresh history (some (.ok outcome)) after →
      Faithful c.nodeName initial history → ClusterSucceeds history →
      (∀ component : Component, Resumable (initial.getD component.labelKey)) →
      ∀ component : Component,
        Marker.marks ((labelsAfter c.nodeName initial history).getD component.labelKey) =
          false := by
  intro h
  let c : Config := { Config.thorough with driverVersion := some "550.54.15" }
  let r := Rehearsal.smooth { NodeState.loaded with driverVersion := some "550.54.15" }
  let p := uninstall c .default 2
  have hrun := Process.runs_history Rehearsal.reply p Memory.fresh r
  have hresult : (p.run Rehearsal.reply Memory.fresh r).1 = some (.ok .skipped) :=
    eq_some_ok_of_outcome? (by decide +kernel)
  rw [hresult] at hrun
  have hunmarked := h c .default 2 NodeState.loaded.labels _ _ _ hrun (by decide +kernel)
    (by decide +kernel) resumable_loaded Component.dcgm
  exact absurd hunmarked (by decide +kernel)

end DriverHandover
