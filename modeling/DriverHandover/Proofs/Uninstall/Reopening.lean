import DriverHandover.Proofs.Uninstall.Completion
import DriverHandover.Proofs.Uninstall.Cordoning

/-!
# Whether the scheduler gets the node back

A run never asks whether its node is cordoned. It opens the node if it has cordoned it itself, also
if it was cordoned before that.

## Main statements

* `node_reopened_after_own_cordon` – whether the node is cordoned after a run.
* `foreign_cordon_undone` – it need not be so although it was so before the run.
-/

namespace DriverHandover

open Uninstall

variable {c : Config} {t : Timings} {looks : Nat} {node : String} {initial : Bool}
variable {after : Memory} {past history : NodeHistory}

theorem any_hasCordoned_of_not_steers (h : ∀ e ∈ past, ¬e.1.Steers) :
    past.any (hasCordoned node) = false := by
  rw [List.any_eq_false]
  intro e he
  simp [hasCordoned_of_not_steers (h e he)]

theorem cordonedAfter_of_not_steers (h : ∀ e ∈ past, ¬e.1.Steers) :
    cordonedAfter node initial past = initial :=
  (Continues.nil_iff.2 h).cordonedAfter_eq

/-- Opening a node that has been cordoned since the run began, and nothing else. -/
theorem cordonedAfter_opening (initial : Bool) {before opening : NodeHistory}
    (hbefore : ∀ e ∈ before, ¬e.1.Uncordons)
    (hopens : Opens c (cordonedAfter c.nodeName false before) opening)
    (hopened : ∀ report, ⟨.uncordon c.nodeName, .error report⟩ ∉ opening) :
    cordonedAfter c.nodeName initial (before ++ opening) =
        (initial && !before.any (hasCordoned c.nodeName)) ∧
      opening.any (hasCordoned c.nodeName) = false := by
  rw [cordonedAfter_of_not_uncordons hbefore, Bool.false_or] at hopens
  rw [cordonedAfter_append, cordonedAfter_of_not_uncordons hbefore]
  cases hcordoned : before.any (hasCordoned c.nodeName) with
  | false =>
    rw [hcordoned] at hopens
    obtain rfl : opening = [] := hopens
    simp [cordonedAfter]
  | true =>
    rw [hcordoned] at hopens
    obtain ⟨reply, rfl⟩ := hopens
    cases reply with
    | error report => exact absurd List.mem_cons_self (hopened report)
    | ok _ => simp [cordonedAfter, cordonChange, hasCordoned]

theorem HandedBack.cordonedAfter_eq (h : HandedBack c false after history)
    (hopened : ∀ report, ⟨.uncordon c.nodeName, .error report⟩ ∉ history) :
    cordonedAfter c.nodeName initial history =
      (initial && !history.any (hasCordoned c.nodeName)) := by
  obtain ⟨before, opening, resumed, rest, rfl, hquiet, hfinishes, -, hopens, -⟩ := h
  have hbefore : ∀ e ∈ before, ¬e.1.Uncordons := fun e he =>
    hquiet e (List.mem_append_left rest he)
  have hown : ∀ report, ⟨.uncordon c.nodeName, .error report⟩ ∉ opening := fun report hmem =>
    hopened report (List.mem_append_left _ (List.mem_append_right before hmem))
  obtain ⟨hflag, hnone⟩ := cordonedAfter_opening initial hbefore hopens hown
  -- nothing steers the node after that
  have hrest : ∀ e ∈ ⟨.updateLabels c.nodeName after.components.resumedLabels, resumed⟩ :: rest,
      ¬NodeCall.Steers e.1 :=
    List.forall_mem_cons.2 ⟨id, fun e he => (hfinishes e he).not_steers⟩
  rw [cordonedAfter_append, cordonedAfter_of_not_steers hrest, hflag, List.any_append,
    List.any_append, hnone, any_hasCordoned_of_not_steers hrest, Bool.or_false, Bool.or_false]

/-- When a run of a fresh process has ended, and the node could be opened if that was tried, the
node is cordoned exactly if it was so before and the run has not cordoned it itself. So a
schedulable node is schedulable again, and one that was cordoned stays so unless the run has
cordoned it once more. -/
theorem node_reopened_after_own_cordon
    {result : Except (Report UninstallError) UninstallOutcome}
    (hrun : (uninstall c t looks).Runs Memory.fresh history (some result) after)
    (hopened : ∀ report, ⟨.uncordon c.nodeName, .error report⟩ ∉ history) :
    cordonedAfter c.nodeName initial history =
      (initial && !history.any (hasCordoned c.nodeName)) := by
  obtain ⟨-, hend⟩ := uninstall_disciplined.ensures.of_runs hrun
  obtain ⟨-, ⟨-, hdeclines⟩ | hback⟩ := hend _ rfl
  · have hquiet : ∀ e ∈ history, ¬e.1.Steers := fun e he => (hdeclines e he).not_steers
    rw [cordonedAfter_of_not_steers hquiet, any_hasCordoned_of_not_steers hquiet]
    simp
  · exact hback.cordonedAfter_eq hopened

/-- A node that was cordoned before stays so if the GPU pods need not be evicted. -/
theorem cordoned_node_stays_cordoned :
    ∃ history result after,
      (uninstall { Config.thorough with enableGpuPodEviction := false } .default 2).Runs
        Memory.fresh history (some result) after ∧
        (∀ report, ⟨.uncordon "node", .error report⟩ ∉ history) ∧
        cordonedAfter "node" true history = true := by
  let c : Config := { Config.thorough with enableGpuPodEviction := false }
  let p := uninstall c .default 2
  let r := Rehearsal.smooth { NodeState.loaded with cordoned := true }
  have hrun := Process.runs_history Rehearsal.reply p Memory.fresh r
  have hresult : (p.run Rehearsal.reply Memory.fresh r).1 = some (.ok .completed) :=
    eq_some_ok_of_outcome? (by decide +kernel)
  have hcluster : ClusterSucceeds (p.history Rehearsal.reply Memory.fresh r) := by decide +kernel
  have hopened : ∀ report, ⟨.uncordon "node", .error report⟩ ∉
      p.history Rehearsal.reply Memory.fresh r := fun report hmem =>
    Bool.noConfusion (hcluster _ hmem)
  rw [hresult] at hrun
  have hflag : cordonedAfter "node" true _ = (true && !_) :=
    node_reopened_after_own_cordon hrun hopened
  refine ⟨_, _, _, hrun, hopened, hflag.trans ?_⟩
  decide +kernel

/-- A run that cordons its node opens it again, also if the node was cordoned before the run. -/
theorem foreign_cordon_undone :
    ¬ ∀ (c : Config) (t : Timings) (looks : Nat) (initial : Bool) (history : NodeHistory)
      (result : Except (Report UninstallError) UninstallOutcome) (after : Memory),
      (uninstall c t looks).Runs Memory.fresh history (some result) after →
      (∀ report, ⟨.uncordon c.nodeName, .error report⟩ ∉ history) →
      cordonedAfter c.nodeName initial history = initial := by
  intro h
  let p := uninstall .thorough .default 2
  let r := Rehearsal.smooth { NodeState.loaded with cordoned := true }
  have hrun := Process.runs_history Rehearsal.reply p Memory.fresh r
  have hresult : (p.run Rehearsal.reply Memory.fresh r).1 = some (.ok .completed) :=
    eq_some_ok_of_outcome? (by decide +kernel)
  have hcluster : ClusterSucceeds (p.history Rehearsal.reply Memory.fresh r) := by decide +kernel
  rw [hresult] at hrun
  have hkept := h .thorough .default 2 true _ _ _ hrun fun report hmem =>
    Bool.noConfusion (hcluster _ hmem)
  exact absurd hkept (by decide +kernel)

end DriverHandover
