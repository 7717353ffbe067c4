import DriverHandover.Proofs.Drain.Classes

/-!
# The plan for the GPU pods

The plan for a list of pods is the selection among its GPU pods, and depends on nothing else in the
list. The report of the plan compares two counts that are made apart. They agree only if the lists
behind them agree, because each GPU pod that does not go is either one that has to stay or one
about which there is an error.

## Main statements

* `planGpuEviction_refused` – the errors are about GPU pods only.
* `gpuPods_accounted_for` – each GPU pod goes, stays or is an error.
* `gpu_plan_exact` – what the plan and its report say.
-/

namespace DriverHandover

variable {o : DrainOptions} {holds : String → Bool} {pods : List Pod} {p : Pod}

theorem drainVerdict_of_usesGpu (h : p.usesGpu holds) :
    drainVerdict o (gpuVerdict holds) p = drainVerdict o (fun _ => .accept) p := by
  rw [drainVerdict, gpuVerdict, if_pos h, drainVerdict]

theorem drainVerdict_of_not_usesGpu (h : ¬ p.usesGpu holds) :
    drainVerdict o (gpuVerdict holds) p = .skip "pod does not use an NVIDIA GPU" := by
  rw [drainVerdict, gpuVerdict, if_neg h]
  rfl

/-- Pods that use no GPU are never in the way. -/
theorem planGpuEviction_refused : (planGpuEviction o holds pods).selection.refused =
    (select o (fun _ => .accept) (pods.filter (·.usesGpu holds))).refused := by
  simp only [planGpuEviction, select, List.filterMap_filter]
  refine congrArg (List.filterMap · pods) (funext fun p => ?_)
  by_cases huses : p.usesGpu holds
  · rw [if_pos huses, drainVerdict_of_usesGpu huses]
  · rw [if_neg huses, drainVerdict_of_not_usesGpu huses]

/-- The standard filters skip a pod because a `DaemonSet` would start it again, or because the API
server only shows it. -/
theorem drainVerdict_isSkip_eq :
    (drainVerdict o (fun _ => .accept) p).isSkip = (p.isDaemon || p.isMirror) := by
  have hlast : ((p.storageVerdict o).orElse (p.managementVerdict o)).isSkip = false := by
    rw [Pod.storageVerdict, Verdict.ite_refuse_orElse, Pod.managementVerdict]
    split
    · rfl
    · split <;> rfl
  rw [drainVerdict, Pod.daemonVerdict, Pod.mirrorVerdict]
  cases p.isDaemon with
  | true => rfl
  | false =>
    cases p.isMirror with
    | true => rfl
    | false => exact hlast

/-- Each GPU pod goes, or there is an error about it, or it is one that always stays. -/
theorem gpuPods_accounted_for (o : DrainOptions) (holds : String → Bool) (pods : List Pod) :
    (planGpuEviction o holds pods).selection.pods.length +
        (planGpuEviction o holds pods).selection.refused.length +
        ((pods.filter (·.usesGpu holds)).filter fun p => p.isDaemon || p.isMirror).length =
      (pods.filter (·.usesGpu holds)).length := by
  have hpods : (planGpuEviction o holds pods).selection.pods =
      (select o (fun _ => .accept) (pods.filter (·.usesGpu holds))).pods := planGpuEviction_pods
  have hstays (gpuPods : List Pod) : (gpuPods.filter fun p => p.isDaemon || p.isMirror) =
      (select o (fun _ => .accept) gpuPods).skipped.map (·.1) := by
    rw [select_skipped_map_fst]
    exact List.filter_congr fun p _ => drainVerdict_isSkip_eq.symm
  have hall := (select_perm o (fun _ => .accept) (pods.filter (·.usesGpu holds))).length_eq
  simp only [List.length_append, List.length_map] at hall
  rw [hpods, planGpuEviction_refused, hstays, List.length_map]
  omega

theorem planGpuEviction_pods_sublist : (planGpuEviction o holds pods).selection.pods.Sublist
    (pods.filter (·.usesGpu holds)) := by
  rw [planGpuEviction_pods]
  exact List.filter_sublist

theorem planGpuEviction_refused_sublist :
    ((planGpuEviction o holds pods).selection.refused.map (·.1)).Sublist
      (pods.filter (·.usesGpu holds)) := by
  rw [planGpuEviction_refused, select_refused_map_fst]
  exact List.filter_sublist

theorem isComplete_iff_length_eq : (planGpuEviction o holds pods).report.isComplete ↔
    (planGpuEviction o holds pods).selection.pods.length =
      (pods.filter (·.usesGpu holds)).length := by
  rw [EvictionReport.isComplete, beq_iff_eq]
  rfl

theorem planGpuEviction_refused_eq_nil_iff :
    (planGpuEviction o holds pods).selection.refused = [] ↔
      ∀ p ∈ pods.filter (·.usesGpu holds), ∀ message,
        (p, message) ∉ (planGpuEviction o holds pods).selection.refused := by
  rw [List.eq_nil_iff_forall_not_mem]
  refine ⟨fun hnone p _ message => hnone (p, message), fun hnone e he => ?_⟩
  have hmem := planGpuEviction_refused_sublist.subset (List.mem_map_of_mem he)
  exact hnone e.1 hmem e.2 he

/-- The two counts agree exactly if there is nothing else to count. -/
theorem isComplete_iff_forall : (planGpuEviction o holds pods).report.isComplete ↔
    ∀ p ∈ pods.filter (·.usesGpu holds), ¬ p.isDaemon ∧ ¬ p.isMirror ∧
      ∀ message, (p, message) ∉ (planGpuEviction o holds pods).selection.refused := by
  have hall := gpuPods_accounted_for o holds pods
  calc ((planGpuEviction o holds pods).report.isComplete : Prop)
    _ ↔ ((pods.filter (·.usesGpu holds)).filter fun p => p.isDaemon || p.isMirror).length = 0 ∧
        (planGpuEviction o holds pods).selection.refused.length = 0 := by
      rw [isComplete_iff_length_eq]
      omega
    _ ↔ (∀ p ∈ pods.filter (·.usesGpu holds), ¬ (p.isDaemon || p.isMirror)) ∧
        ∀ p ∈ pods.filter (·.usesGpu holds), ∀ message,
          (p, message) ∉ (planGpuEviction o holds pods).selection.refused := by
      rw [List.length_eq_zero_iff, List.length_eq_zero_iff, List.filter_eq_nil_iff,
        planGpuEviction_refused_eq_nil_iff]
    _ ↔ _ := by
      simp only [Bool.or_eq_true, not_or, ← forall_and, and_assoc]

/-- Let the GPU pods of a list be given in the order of the list. The plan counts them, chooses from
them in this order, and its errors are about them alone. Those chosen, those in error and those that
always stay make up all of them, so the report is complete exactly if no GPU pod is in error or
always stays, and then all GPU pods are chosen. Other pods in the list, wherever they stand, change
neither the report nor the choice. -/
theorem gpu_plan_exact (o : DrainOptions) (holds : String → Bool) (pods : List Pod) :
    let gpuPods := pods.filter (·.usesGpu holds)
    let plan := planGpuEviction o holds pods
    plan.gpuPods = gpuPods.length ∧ plan.selection.pods.Sublist gpuPods ∧
      ((plan.selection.refused.map (·.1)).Sublist gpuPods ∧
        plan.report.errors = plan.selection.refused.map fun e => e.1.reference ++ ": " ++ e.2) ∧
      plan.selection.pods.length + plan.selection.errors.length +
        (gpuPods.filter fun p => p.isDaemon || p.isMirror).length = gpuPods.length ∧
      (plan.report.isComplete ↔
        ∀ p ∈ gpuPods, ¬ p.isDaemon ∧ ¬ p.isMirror ∧
          ∀ message, (p, message) ∉ plan.selection.refused) ∧
      (plan.report.isComplete → plan.selection.pods = gpuPods) ∧
      ∀ others : List Pod, others.filter (·.usesGpu holds) = gpuPods →
        (planGpuEviction o holds others).report = plan.report ∧
          (planGpuEviction o holds others).selection.pods = plan.selection.pods := by
  refine ⟨rfl, planGpuEviction_pods_sublist, ⟨planGpuEviction_refused_sublist, rfl⟩,
    ?_, isComplete_iff_forall, fun hcomplete => ?_, fun others hothers => ?_⟩
  · rw [Selection.errors, List.length_map]
    exact gpuPods_accounted_for o holds pods
  · exact planGpuEviction_pods_sublist.eq_of_length (isComplete_iff_length_eq.1 hcomplete)
  · have hpods : (planGpuEviction o holds others).selection.pods =
        (planGpuEviction o holds pods).selection.pods := by
      rw [planGpuEviction_pods, planGpuEviction_pods, hothers]
    have hrefused : (planGpuEviction o holds others).selection.refused =
        (planGpuEviction o holds pods).selection.refused := by
      rw [planGpuEviction_refused, planGpuEviction_refused, hothers]
    have hcount : (planGpuEviction o holds others).gpuPods =
        (planGpuEviction o holds pods).gpuPods := congrArg List.length hothers
    refine ⟨?_, hpods⟩
    rw [GpuPlan.report, GpuPlan.report, Selection.errors, Selection.errors, hpods, hrefused, hcount]

theorem train_planned_among_others :
    let plan := planGpuEviction DrainOptions.default fun _ => false
    let train := { Pod.alone "train" with owners := [⟨"Job", true⟩] }
    let pods := [train]
    let others := [Pod.scratch, train, Pod.scratch]
    ((plan pods).report.isComplete ∧
        others.filter (·.usesGpu fun _ => false) = pods.filter (·.usesGpu fun _ => false)) ∧
      ((plan others).report = ⟨1, 1, []⟩ ∧ (plan others).selection.pods = [train]) ∧
      -- on a node with more GPU pods, two of them always stay and one is in error
      ((plan mixedNode).gpuPods = 5 ∧
        (plan mixedNode).selection.pods.map Pod.name = ["train", "report"] ∧
        (plan mixedNode).report.errors =
          ["/notebook: pod is not managed by a controller (use force to override)"] ∧
        ¬ (plan mixedNode).report.isComplete) := by
  intro plan train pods others
  have hcomplete : (plan pods).report.isComplete := by decide +kernel
  have hsame : others.filter (·.usesGpu fun _ => false) =
      pods.filter (·.usesGpu fun _ => false) := by
    decide +kernel
  obtain ⟨-, -, -, -, -, hall, hothers⟩ :=
    gpu_plan_exact DrainOptions.default (fun _ => false) pods
  obtain ⟨hreport, hpods⟩ := hothers others hsame
  have htrain : pods.filter (·.usesGpu fun _ => false) = [train] := by decide +kernel
  refine ⟨⟨hcomplete, hsame⟩, ⟨hreport.trans (by decide +kernel), ?_⟩, by decide +kernel,
    by decide +kernel, by decide +kernel, by decide +kernel⟩
  exact hpods.trans ((hall hcomplete).trans htrain)

end DriverHandover
