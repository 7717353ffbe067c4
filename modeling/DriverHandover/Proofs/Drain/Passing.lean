import DriverHandover.Drain.GpuPlan

/-!
# Passing the drain filters

A pod is chosen when no filter objects to it. The plan for the GPU pods is complete when every GPU
pod passes, because the pods it chooses are among the GPU pods.

## Main definitions

* `Pod.Passes` – the standard filters let a pod pass.
* `Pod.IsEvictable` – a pod that is neither started again nor only shown by the API server.
* `GpuPodsPass`, `NoneRefused` – when a list of pods lets an eviction go ahead.

## Main statements

* `drainVerdict_eq_accept_iff` – who passes, with a filter of the caller in front.
* `gpuPodsPass_iff` – the plan for a list in which the GPU pods pass.
* `refused_isEmpty_iff` – when no pod blocks a drain.
-/

namespace DriverHandover

theorem Verdict.orElse_eq_accept_iff {v w : Verdict} :
    v.orElse w = .accept ↔ v = .accept ∧ w = .accept := by
  cases v with
  | accept => simp [orElse]
  | skip reason => simp [orElse]
  | refuse message => simp [orElse]

namespace Pod

variable {o : DrainOptions} {holds : String → Bool} {p : Pod}

/-- A pod that no `DaemonSet` controls and that the API server does not only show. -/
structure IsEvictable (p : Pod) : Prop where
  not_daemon : p.isDaemon = false
  not_mirror : p.isMirror = false

/-- The standard filters have no objection to the pod. -/
def Passes (o : DrainOptions) (p : Pod) : Prop :=
  drainVerdict o (fun _ => .accept) p = .accept

instance : Decidable (p.Passes o) :=
  inferInstanceAs (Decidable (drainVerdict o (fun _ => .accept) p = .accept))

theorem daemonVerdict_eq_accept_iff : p.daemonVerdict = .accept ↔ p.isDaemon = false := by
  cases hdaemon : p.isDaemon <;> simp [daemonVerdict, hdaemon]

theorem mirrorVerdict_eq_accept_iff : p.mirrorVerdict = .accept ↔ p.isMirror = false := by
  cases hmirror : p.isMirror <;> simp [mirrorVerdict, hmirror]

theorem passes_iff : p.Passes o ↔ p.isDaemon = false ∧ p.isMirror = false ∧
    p.storageVerdict o = .accept ∧ p.managementVerdict o = .accept := by
  simp only [Passes, drainVerdict, Verdict.orElse_eq_accept_iff, daemonVerdict_eq_accept_iff,
    mirrorVerdict_eq_accept_iff, true_and]

theorem Passes.isEvictable (h : p.Passes o) : p.IsEvictable :=
  ⟨(passes_iff.1 h).1, (passes_iff.1 h).2.1⟩

theorem gpuVerdict_eq_accept_iff : gpuVerdict holds p = .accept ↔ p.usesGpu holds := by
  cases huses : p.usesGpu holds <;> simp [gpuVerdict, huses]

end Pod

section Selection

variable {o : DrainOptions} {filter : Pod → Verdict} {holds : String → Bool} {pods : List Pod}
  {p : Pod}

theorem drainVerdict_eq_accept_iff :
    drainVerdict o filter p = .accept ↔ filter p = .accept ∧ p.Passes o := by
  simp only [Pod.Passes, drainVerdict, Verdict.orElse_eq_accept_iff, true_and]

theorem mem_select_pods :
    p ∈ (select o filter pods).pods ↔ p ∈ pods ∧ filter p = .accept ∧ p.Passes o := by
  simp only [select, List.mem_filter, decide_eq_true_eq, drainVerdict_eq_accept_iff]

/-- No pod blocks a drain exactly when no filter refuses a pod of the list. -/
theorem refused_isEmpty_iff :
    (select o filter pods).refused.isEmpty ↔
      ∀ p ∈ pods, ∀ message, drainVerdict o filter p ≠ .refuse message := by
  rw [List.isEmpty_iff, select, List.filterMap_eq_nil_iff]
  refine forall_congr' fun p => imp_congr_right fun _ => ?_
  cases drainVerdict o filter p with
  | accept => simp
  | skip reason => simp
  | refuse message => simp

theorem mem_planGpuEviction_pods :
    p ∈ (planGpuEviction o holds pods).selection.pods ↔
      p ∈ pods ∧ p.usesGpu holds ∧ p.Passes o := by
  rw [planGpuEviction, mem_select_pods, Pod.gpuVerdict_eq_accept_iff]

/-- The chosen pods are those GPU pods that pass. -/
theorem planGpuEviction_pods :
    (planGpuEviction o holds pods).selection.pods =
      (pods.filter (·.usesGpu holds)).filter fun p =>
        drainVerdict o (fun _ => .accept) p = .accept := by
  rw [List.filter_filter, planGpuEviction, select]
  refine List.filter_congr fun p _ => ?_
  rw [Bool.eq_iff_iff, Bool.and_eq_true, decide_eq_true_eq, decide_eq_true_eq,
    drainVerdict_eq_accept_iff, Pod.gpuVerdict_eq_accept_iff, and_comm]
  rfl

/-- The two counts agree only if all GPU pods pass: none that is chosen is not a GPU pod. -/
theorem isComplete_iff :
    (planGpuEviction o holds pods).report.isComplete ↔
      ∀ p ∈ pods, p.usesGpu holds → p.Passes o := by
  simp only [EvictionReport.isComplete, GpuPlan.report, beq_iff_eq, planGpuEviction_pods]
  rw [show (planGpuEviction o holds pods).gpuPods = (pods.filter (·.usesGpu holds)).length from rfl,
    List.length_filter_eq_length_iff]
  simp only [List.mem_filter, decide_eq_true_eq, and_imp]
  rfl

theorem gpuPods_eq_zero_iff :
    (planGpuEviction o holds pods).gpuPods = 0 ↔ ¬ ∃ p ∈ pods, p.usesGpu holds := by
  simp [planGpuEviction]

/-- There are GPU pods in the list, and the standard filters let every one of them pass. -/
def GpuPodsPass (holds : String → Bool) (o : DrainOptions) (pods : List Pod) : Prop :=
  (∃ p ∈ pods, p.usesGpu holds) ∧ ∀ p ∈ pods, p.usesGpu holds → p.Passes o

instance : Decidable (GpuPodsPass holds o pods) :=
  inferInstanceAs (Decidable (_ ∧ _))

theorem gpuPodsPass_iff :
    GpuPodsPass holds o pods ↔ (planGpuEviction o holds pods).gpuPods ≠ 0 ∧
      (planGpuEviction o holds pods).report.isComplete := by
  rw [GpuPodsPass, isComplete_iff, ne_eq, gpuPods_eq_zero_iff, Classical.not_not]

/-- The standard filters refuse no pod of the list. -/
def NoneRefused (o : DrainOptions) (pods : List Pod) : Prop :=
  ∀ p ∈ pods, ∀ message, drainVerdict o (fun _ => .accept) p ≠ .refuse message

end Selection

end DriverHandover
