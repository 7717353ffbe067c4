import DriverHandover.Proofs.Drain.Passing

/-!
# The classes of a selection

A selection deals the pods of a list out to three classes: those to remove, those that stay and are
no problem, and those that block the drain. No pod is lost, none is dealt twice, and each class
keeps the order of the list. The class of a pod follows from the caller's filter, the options and
what the pod itself says, by a rule of six cases of which the first one that applies decides.

## Main definitions

* `Verdict.isSkip`, `Verdict.isRefusal` – the verdicts that keep a pod on its node.
* `drainRule` – the filters as one rule about the parts of a pod.

## Main statements

* `select_perm` – nothing is lost and nothing is dealt twice.
* `drainVerdict_eq_drainRule` – the filters decide by the rule.
* `pods_dealt_by_rule` – the classes of a selection, and the pods that are warned about.
-/

namespace DriverHandover

namespace Verdict

/-- The pod stays, and that is no problem. -/
def isSkip : Verdict → Bool
  | skip _ => true
  | _ => false

/-- The pod stays and blocks the drain. -/
def isRefusal : Verdict → Bool
  | refuse _ => true
  | _ => false

theorem orElse_eq_ite (v w : Verdict) : v.orElse w = if v ≠ .accept then v else w := by
  cases v <;> rfl

theorem orElse_assoc (u v w : Verdict) : (u.orElse v).orElse w = u.orElse (v.orElse w) := by
  cases u <;> rfl

theorem ite_skip_orElse (c : Prop) [Decidable c] (reason : String) (w : Verdict) :
    (if c then skip reason else accept).orElse w = if c then skip reason else w := by
  split <;> rfl

theorem ite_refuse_orElse (c : Prop) [Decidable c] (message : String) (w : Verdict) :
    (if c then refuse message else accept).orElse w = if c then refuse message else w := by
  split <;> rfl

end Verdict

section Classes

variable {o : DrainOptions} {filter : Pod → Verdict} {pods : List Pod} {p : Pod} {text : String}

theorem mem_select_skipped : (p, text) ∈ (select o filter pods).skipped ↔
    p ∈ pods ∧ drainVerdict o filter p = .skip text := by
  rw [select, List.mem_filterMap]
  constructor
  · rintro ⟨q, hq, hqp⟩
    cases hverdict : drainVerdict o filter q <;> rw [hverdict] at hqp <;> cases hqp
    exact ⟨hq, hverdict⟩
  · rintro ⟨hp, hverdict⟩
    exact ⟨p, hp, by rw [hverdict]⟩

theorem mem_select_refused : (p, text) ∈ (select o filter pods).refused ↔
    p ∈ pods ∧ drainVerdict o filter p = .refuse text := by
  rw [select, List.mem_filterMap]
  constructor
  · rintro ⟨q, hq, hqp⟩
    cases hverdict : drainVerdict o filter q <;> rw [hverdict] at hqp <;> cases hqp
    exact ⟨hq, hverdict⟩
  · rintro ⟨hp, hverdict⟩
    exact ⟨p, hp, by rw [hverdict]⟩

theorem select_skipped_map_fst : (select o filter pods).skipped.map (·.1) =
    pods.filter fun p => (drainVerdict o filter p).isSkip := by
  rw [select, List.map_filterMap, ← List.filterMap_eq_filter]
  refine congrArg (List.filterMap · pods) (funext fun p => ?_)
  cases hverdict : drainVerdict o filter p <;> simp [Option.guard, Verdict.isSkip, hverdict]

theorem select_refused_map_fst : (select o filter pods).refused.map (·.1) =
    pods.filter fun p => (drainVerdict o filter p).isRefusal := by
  rw [select, List.map_filterMap, ← List.filterMap_eq_filter]
  refine congrArg (List.filterMap · pods) (funext fun p => ?_)
  cases hverdict : drainVerdict o filter p <;> simp [Option.guard, Verdict.isRefusal, hverdict]

/-- No pod of the list is lost, and none is dealt to two classes or twice to one. -/
theorem select_perm (o : DrainOptions) (filter : Pod → Verdict) (pods : List Pod) :
    ((select o filter pods).pods ++ (select o filter pods).skipped.map (·.1) ++
      (select o filter pods).refused.map (·.1)).Perm pods := by
  let stays := pods.filter fun p => !decide (drainVerdict o filter p = .accept)
  -- the pods that stay are split by whether their verdict is a skip
  have hskipped : pods.filter (fun p => (drainVerdict o filter p).isSkip) =
      stays.filter fun p => (drainVerdict o filter p).isSkip := by
    rw [List.filter_filter]
    refine List.filter_congr fun p _ => ?_
    cases drainVerdict o filter p <;> rfl
  have hrefused : pods.filter (fun p => (drainVerdict o filter p).isRefusal) =
      stays.filter fun p => !(drainVerdict o filter p).isSkip := by
    rw [List.filter_filter]
    refine List.filter_congr fun p _ => ?_
    cases drainVerdict o filter p <;> rfl
  have hstays := List.filter_append_perm (fun p => (drainVerdict o filter p).isSkip) stays
  rw [select_skipped_map_fst, select_refused_map_fst, hskipped, hrefused, List.append_assoc]
  exact (hstays.append_left _).trans (List.filter_append_perm _ pods)

end Classes

/-- What becomes of a pod: the first of six cases that applies. The caller's filter decides if it
has an objection; then pods of a `DaemonSet` and static pods stay; then pods with local storage and
pods without a controller are in the way, unless they have ended or the options give them up; all
others go. -/
def drainRule (o : DrainOptions) (filter : Pod → Verdict) (p : Pod) : Verdict :=
  let ended := p.phase = some "Succeeded" ∨ p.phase = some "Failed"
  if filter p ≠ .accept then filter p
  else if ∃ owner ∈ p.owners, owner.isController ∧ owner.kind = "DaemonSet" then
    .skip "pod is member of a DaemonSet"
  else if (p.annotations.get? "kubernetes.io/config.mirror").isSome then
    .skip "pod is a static mirror pod"
  else if (∃ volume ∈ p.volumes, volume.isEmptyDir) ∧ ¬ ended ∧ ¬ o.deleteLocalData then
    .refuse "pod has local storage (use delete-emptydir-data to override)"
  else if (¬ ∃ owner ∈ p.owners, owner.isController) ∧ ¬ ended ∧ ¬ o.force then
    .refuse "pod is not managed by a controller (use force to override)"
  else .accept

namespace Pod

variable {p : Pod}

theorem isDaemon_iff :
    p.isDaemon ↔ ∃ owner ∈ p.owners, owner.isController ∧ owner.kind = "DaemonSet" := by
  simp only [isDaemon, List.any_eq_true, Bool.and_eq_true, beq_iff_eq]

theorem isManaged_iff : p.isManaged ↔ ∃ owner ∈ p.owners, owner.isController := by
  simp only [isManaged, List.any_eq_true]

theorem usesLocalStorage_iff : p.usesLocalStorage ↔ ∃ volume ∈ p.volumes, volume.isEmptyDir := by
  simp only [usesLocalStorage, List.any_eq_true]

theorem isCompleted_iff :
    p.isCompleted ↔ p.phase = some "Succeeded" ∨ p.phase = some "Failed" := by
  simp only [isCompleted, Bool.or_eq_true, beq_iff_eq]

end Pod

/-- The filters, asked one after the other, decide by the rule. -/
theorem drainVerdict_eq_drainRule (o : DrainOptions) (filter : Pod → Verdict) (p : Pod) :
    drainVerdict o filter p = drainRule o filter p := by
  simp only [drainRule, ← Pod.isDaemon_iff, ← Pod.isManaged_iff, ← Pod.usesLocalStorage_iff,
    ← Pod.isCompleted_iff]
  rw [drainVerdict, Verdict.orElse_eq_ite, Pod.daemonVerdict, Verdict.ite_skip_orElse,
    Pod.mirrorVerdict, Verdict.ite_skip_orElse, Pod.storageVerdict, Verdict.ite_refuse_orElse]
  rfl

/-- The last filter is asked, and warns, about exactly those pods without a controller that may go
before they have ended. -/
theorem drainWarns_iff {o : DrainOptions} {filter : Pod → Verdict} {p : Pod} :
    drainWarns o filter p ↔
      drainVerdict o filter p = .accept ∧ ¬ p.isManaged ∧ ¬ p.isCompleted := by
  have hverdict : drainVerdict o filter p = ((filter p).orElse <| p.daemonVerdict.orElse <|
      p.mirrorVerdict.orElse <| p.storageVerdict o).orElse (p.managementVerdict o) := by
    simp only [drainVerdict, Verdict.orElse_assoc]
  rw [hverdict, Verdict.orElse_eq_accept_iff, drainWarns, Bool.and_eq_true, decide_eq_true_eq,
    and_assoc]
  refine and_congr_right fun _ => ?_
  rw [Pod.managementWarns, Pod.managementVerdict]
  cases p.isManaged <;> cases p.isCompleted <;> cases o.force <;> simp

theorem select_forced (o : DrainOptions) (filter : Pod → Verdict) (pods : List Pod) :
    (select o filter pods).forced =
      (select o filter pods).pods.filter fun p => !p.isManaged && !p.isCompleted := by
  rw [select, List.filter_filter]
  refine List.filter_congr fun p _ => ?_
  rw [Bool.eq_iff_iff, drainWarns_iff]
  simp [and_comm]

/-- Whatever the caller's filter and the options are, a selection deals out all pods of a list, each
of them once, to the class that the rule names, and in each class the pods are in the order of the
list. Those that are warned about are the pods to remove that no controller will replace and that
have not ended. -/
theorem pods_dealt_by_rule (o : DrainOptions) (filter : Pod → Verdict) (pods : List Pod) :
    let s := select o filter pods
    (s.pods ++ s.skipped.map (·.1) ++ s.refused.map (·.1)).Perm pods ∧
      (s.pods.Sublist pods ∧ (s.skipped.map (·.1)).Sublist pods ∧
        (s.refused.map (·.1)).Sublist pods) ∧
      (∀ p ∈ s.pods, drainRule o filter p = .accept) ∧
      (∀ p reason, (p, reason) ∈ s.skipped → drainRule o filter p = .skip reason) ∧
      (∀ p message, (p, message) ∈ s.refused → drainRule o filter p = .refuse message) ∧
      s.forced = s.pods.filter fun p => (¬ ∃ owner ∈ p.owners, owner.isController) ∧
        ¬ (p.phase = some "Succeeded" ∨ p.phase = some "Failed") := by
  refine ⟨select_perm o filter pods, ⟨?_, ?_, ?_⟩, fun p hp => ?_, fun p reason hp => ?_,
    fun p message hp => ?_, ?_⟩
  · exact List.filter_sublist
  · rw [select_skipped_map_fst]
    exact List.filter_sublist
  · rw [select_refused_map_fst]
    exact List.filter_sublist
  · rw [← drainVerdict_eq_drainRule]
    exact of_decide_eq_true (List.mem_filter.1 hp).2
  · rw [← drainVerdict_eq_drainRule]
    exact (mem_select_skipped.1 hp).2
  · rw [← drainVerdict_eq_drainRule]
    exact (mem_select_refused.1 hp).2
  · rw [select_forced]
    refine List.filter_congr fun p _ => ?_
    rw [Bool.eq_iff_iff, decide_eq_true_eq, ← Pod.isManaged_iff, ← Pod.isCompleted_iff]
    simp

/-- A pod with a GPU that no controller owns. -/
def Pod.alone (name : String) : Pod where
  givenName := some name
  generateName := none
  podNamespace := none
  uid := none
  labels := .empty
  annotations := .empty
  owners := []
  spec := some ⟨some "node", [⟨["nvidia.com/gpu"], []⟩], [], []⟩
  phase := none

/-- A pod whose scratch space is lost with it. -/
def Pod.scratch : Pod :=
  { Pod.alone "scratch" with
    owners := [⟨"ReplicaSet", true⟩]
    spec := some ⟨some "node", [], [], [⟨true⟩]⟩ }

/-- A node with a pod for each case of the rule. -/
def mixedNode : List Pod :=
  [{ Pod.alone "train" with owners := [⟨"Job", true⟩] },
    { Pod.alone "monitor" with owners := [⟨"Node", false⟩, ⟨"DaemonSet", true⟩] },
    { Pod.alone "proxy" with annotations := LabelMap.empty.insert Pod.mirrorKey "" },
    Pod.scratch, Pod.alone "notebook", { Pod.alone "report" with phase := some "Failed" }]

theorem mixed_node_dealt :
    let o := { DrainOptions.default with force := true }
    let s := select o (fun _ => .accept) mixedNode
    (Pod.scratch, "pod has local storage (use delete-emptydir-data to override)") ∈ s.refused ∧
      drainRule o (fun _ => .accept) Pod.scratch =
        .refuse "pod has local storage (use delete-emptydir-data to override)" ∧
      s.pods.map Pod.name = ["train", "notebook", "report"] ∧
      s.skipped.map (·.1.name) = ["monitor", "proxy"] ∧ s.forced.map Pod.name = ["notebook"] := by
  intro o s
  have hrefused : (Pod.scratch, "pod has local storage (use delete-emptydir-data to override)") ∈
      s.refused := by
    decide +kernel
  obtain ⟨-, -, -, -, hrule, -⟩ := pods_dealt_by_rule o (fun _ => .accept) mixedNode
  exact ⟨hrefused, hrule _ _ hrefused, by decide +kernel, by decide +kernel, by decide +kernel⟩

end DriverHandover
