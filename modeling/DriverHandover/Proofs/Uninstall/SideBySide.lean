import DriverHandover.Proofs.Process.Coupling
import DriverHandover.Proofs.Uninstall.Relabeling

/-!
# What the rollback of a run has no say in

What comes of giving the node back does not change what a run does or how it ends: two runs of one
process in which only the calls that give the node back fare differently make the same calls, and
come to the same result.

## Main definitions

* `NodeCall.RollsBack` – the calls of a run that give the node back.

## Main statements

* `Uninstall.uninstall_coupled` – a run does not depend on them.
-/

namespace DriverHandover

open Uninstall

namespace NodeCall

/-- A call that gives the node back: it opens the node, or it updates the labels once they have been
updated. The first update of a run pauses the components or marks the node, and a second one resumes
what was paused. -/
def RollsBack (calls : List NodeCall) : NodeCall → Prop
  | .uncordon _ => True
  | .updateLabels _ _ => ∃ call ∈ calls, call.Relabels
  | _ => False

variable {call : NodeCall} {calls : List NodeCall}

theorem not_rollsBack_of_not_givesBack (h : ¬call.GivesBack) : ¬call.RollsBack calls := by
  cases call with
  | uncordon | updateLabels => exact absurd trivial h
  | _ => exact id

theorem Looks.not_givesBack (h : call.Looks) : ¬call.GivesBack := by
  cases call with
  | uncordon | updateLabels => cases h
  | _ => exact id

theorem Awaits.not_givesBack (h : call.Awaits) : ¬call.GivesBack := by
  cases call with
  | uncordon | updateLabels => cases h
  | _ => exact id

theorem Clears.not_givesBack (h : call.Clears) : ¬call.GivesBack := by
  cases call with
  | uncordon | updateLabels => cases h
  | _ => exact id

end NodeCall

variable {c : Config} {t : Timings} {looks : Nat} {memory memory' : Memory} {past : NodeHistory}
variable {calls : List NodeCall}

/-- An update that nothing was updated before is not made to give the node back. -/
theorem not_rollsBack_of_not_relabels {node : String} {labels : LabelMap}
    (hpast : ∀ e ∈ past, ¬e.1.Relabels) :
    ¬(NodeCall.updateLabels node labels).RollsBack (past.map (·.1)) := by
  rintro ⟨call, hcall, hrelabels⟩
  obtain ⟨e, he, rfl⟩ := List.mem_map.1 hcall
  exact hpast e he hrelabels

/-- A call that does not give the node back. -/
def Forward (_ : Memory) (past : NodeHistory) (call : NodeCall) : Prop :=
  ¬call.RollsBack (past.map (·.1))

theorem Keeping.forward {α γ : Type} {view : Memory → γ} {kind : NodeCall → Prop}
    {p : NodeProcess α} (hp : Keeping view kind p)
    (hclass : ∀ call, kind call → ¬call.GivesBack) :
    p.Guarantees Forward (fun _ _ _ => True) memory past :=
  (hp memory past).mono
    (fun _ _ call h => NodeCall.not_rollsBack_of_not_givesBack (hclass call h.1))
    fun _ _ _ _ => trivial

/-- Both runs of a process have come to the same result. -/
def SameResult {α : Type} (result : α) (_ : Memory) (result' : α) (_ : Memory)
    (_ : List NodeCall) : Prop :=
  result = result'

namespace Uninstall

theorem enter_bind_coupled {α : Type} {stage : Stage} {next next' : Unit → NodeProcess α}
    {post : α → Memory → α → Memory → List NodeCall → Prop}
    (h : Process.Coupled NodeCall.RollsBack post (next ()) { memory with stage } (next' ())
      { memory' with stage } (calls ++ [.enter stage])) :
    Process.Coupled NodeCall.RollsBack post (enter stage >>= next) memory (enter stage >>= next')
      memory' calls :=
  .readLeft (.writeLeft (.readRight (.writeRight (.call fun _ _ _ => h))))

theorem finish_coupled (result : Except (Report UninstallError) UninstallOutcome) :
    Process.Coupled NodeCall.RollsBack SameResult (finish result) memory (finish result) memory'
      calls :=
  enter_bind_coupled (.done rfl)

theorem unloadNouveau_coupled :
    Process.Coupled NodeCall.RollsBack SameResult unloadNouveau.run memory unloadNouveau.run memory'
      calls := by
  refine .call fun loaded loaded' hloaded => ?_
  cases hloaded id
  cases loaded with
  | false => exact .done rfl
  | true =>
    refine .call fun reply reply' hreply => ?_
    cases hreply id
    cases reply with
    | ok _ => exact .done rfl
    | error report => exact .done rfl

/-- How a run is concluded does not depend on what the process keeps. -/
theorem conclude_coupled (removed : Except (Report UninstallError) Unit) :
    Process.Coupled NodeCall.RollsBack SameResult (conclude removed) memory (conclude removed)
      memory' calls := by
  cases removed with
  | error report => exact finish_coupled (.error report)
  | ok _ =>
    refine enter_bind_coupled (Process.coupled_bind unloadNouveau_coupled ?_)
    rintro unloaded _ _ _ _ rfl
    exact finish_coupled _

/-- Whether the node could be opened makes no difference to the labels that are resumed. -/
theorem reschedule_coupled :
    Process.Coupled NodeCall.RollsBack (fun _ _ _ _ _ => True) (reschedule c) memory (reschedule c)
      memory calls := by
  have hresume : ∀ (components : ComponentState) (cordoned cordoned' : Bool) (stage : Stage)
      (calls : List NodeCall),
      Process.Coupled NodeCall.RollsBack (fun _ _ _ _ _ => True)
        (do
          let components := (← get).components
          let _ ← ask (.updateLabels c.nodeName components.resumedLabels))
        ⟨components, cordoned, stage⟩
        (do
          let components := (← get).components
          let _ ← ask (.updateLabels c.nodeName components.resumedLabels))
        ⟨components, cordoned', stage⟩ calls :=
    fun _ _ _ _ _ => .readLeft (.readRight (.call fun _ _ _ => .done trivial))
  obtain ⟨components, cordoned, stage⟩ := memory
  refine .readLeft (.readRight ?_)
  cases cordoned with
  | false => exact hresume _ _ _ _ _
  | true =>
    refine .call fun reply reply' _ => ?_
    cases reply with
    | ok _ =>
      cases reply' with
      | ok _ => exact .readLeft (.writeLeft (.readRight (.writeRight (hresume _ _ _ _ _))))
      | error report => exact .readLeft (.writeLeft (hresume _ _ _ _ _))
    | error report =>
      cases reply' with
      | ok _ => exact .readRight (.writeRight (hresume _ _ _ _ _))
      | error report => exact hresume _ _ _ _ _

/-- Until the node is given back, no call of a run gives it back. -/
theorem removeDriver_forward (hpast : ∀ e ∈ past, ¬e.1.Relabels) :
    (removeDriver c t looks).run.Guarantees Forward (fun _ _ _ => True) memory past := by
  have hafter : ∀ memory past, RunStep.Guarantees Forward (fun _ _ _ => True) (fun _ _ _ => True)
      (afterEviction c t looks) memory past :=
    fun _ _ => RunStep.guarantees_run_iff.1
      (afterEviction_keeping.forward fun _ h => h.not_givesBack)
  rw [RunStep.guarantees_run_iff, removeDriver_eq, RunStep.guarantees_bind, evictComponents,
    RunStep.guarantees_bind, RunStep.guarantees_get, RunStep.guarantees_bind,
    RunStep.guarantees_attempt]
  refine ⟨not_rollsBack_of_not_relabels hpast, fun reply => ?_⟩
  cases reply with
  | error report => trivial
  | ok _ =>
    have hkeeping : Keeping Memory.components NodeCall.Awaits
        (awaitApps c t memory.components.awaitedApps).run := awaitApps_keeping _
    refine RunStep.Guarantees.imp (RunStep.guarantees_run_iff.1 (hkeeping.forward ?_)) ?_ ?_
    · exact fun _ h => h.not_givesBack
    · exact fun _ after later _ => hafter after later
    · exact fun _ _ _ _ => trivial

/-- A run that has read its node does not depend on what comes of giving it back. -/
theorem handOver_coupled (hpast : ∀ e ∈ past, ¬e.1.Relabels) :
    Process.Coupled NodeCall.RollsBack SameResult (handOver c t looks) memory (handOver c t looks)
      memory (past.map (·.1)) := by
  rw [handOver_eq]
  refine enter_bind_coupled ?_
  have hentered : ∀ e ∈ past ++ [⟨.enter .labelsFetched, ()⟩], ¬e.1.Relabels :=
    List.forall_mem_append.2 ⟨hpast, List.forall_mem_singleton.2 id⟩
  have hremove : (removeDriver c t looks).run.Guarantees Forward (fun _ _ _ => True)
      { memory with stage := .labelsFetched } (past ++ [⟨.enter .labelsFetched, ()⟩]) :=
    removeDriver_forward hentered
  have hcoupled := hremove.coupled
  rw [List.map_append] at hcoupled
  refine Process.coupled_bind hcoupled ?_
  rintro removed memory _ _ calls ⟨rfl, rfl, -⟩
  exact Process.coupled_bind reschedule_coupled fun _ _ _ _ _ _ => conclude_coupled removed

/-- A node with a driver of its own is marked and not given back. -/
theorem refuseHostDriver_coupled (hpast : ∀ e ∈ past, ¬e.1.Relabels) :
    Process.Coupled NodeCall.RollsBack SameResult ((refuseHostDriver c t).run >>= finish) memory
      ((refuseHostDriver c t).run >>= finish) memory (past.map (·.1)) := by
  refine .call fun reply reply' hreply => ?_
  cases hreply (not_rollsBack_of_not_relabels hpast)
  cases reply with
  | error report => exact finish_coupled (.error _)
  | ok _ => exact .call fun _ _ _ => finish_coupled (.error _)

/-- A run that reads its node does not depend on what comes of giving it back. -/
theorem fetched_coupled (hpast : ∀ e ∈ past, ¬e.1.Relabels) :
    Process.Coupled NodeCall.RollsBack SameResult
      (do match ← (fetchState c).run with
        | .error report => finish (.error report)
        | .ok () => handOver c t looks) memory
      (do match ← (fetchState c).run with
        | .error report => finish (.error report)
        | .ok () => handOver c t looks) memory (past.map (·.1)) := by
  have hfetch : (fetchState c).run.Guarantees Forward
      (fun _ _ later => ∀ e ∈ later, ¬e.1.Relabels) memory past := by
    rw [RunStep.guarantees_run_iff]
    refine (fetchState_guarantees fun _ _ _ _ _ hcall => ?_).imp ?_ ?_
    · exact NodeCall.not_rollsBack_of_not_givesBack hcall.not_givesBack
    · rintro _ _ _ ⟨-, labels, annotations, -, rfl⟩
      refine List.forall_mem_append.2 ⟨hpast, List.forall_mem_cons.2 ⟨id, ?_⟩⟩
      exact List.forall_mem_singleton.2 id
    · rintro _ _ _ ⟨-, hlooked, -⟩
      exact hlooked.forall_mem hpast fun _ h => h.not_relabels
  refine Process.coupled_bind hfetch.coupled ?_
  rintro fetched memory _ _ _ ⟨rfl, rfl, later, rfl, hlater⟩
  cases fetched with
  | error report => exact finish_coupled (.error report)
  | ok _ => exact handOver_coupled hlater

end Uninstall

/-- Two runs of a process make the same calls and come to the same result, if they differ only in
what comes of giving the node back. -/
theorem uninstall_coupled :
    Process.Coupled NodeCall.RollsBack SameResult (uninstall c t looks) memory (uninstall c t looks)
      memory [] := by
  rw [uninstall_eq]
  refine .call fun version version' hversion => ?_
  cases hversion id
  cases version with
  | some version =>
    have hfound : ∀ e ∈ ([⟨.hostDriverVersion, some version⟩] : NodeHistory), ¬e.1.Relabels :=
      List.forall_mem_singleton.2 id
    exact refuseHostDriver_coupled hfound
  | none =>
    refine enter_bind_coupled ?_
    have hskip : (canSkip c).Guarantees Forward (fun _ _ later => ∀ e ∈ later, ¬e.1.Relabels)
        { memory with stage := .preflightSkipCheck }
        [⟨.hostDriverVersion, none⟩, ⟨.enter .preflightSkipCheck, ()⟩] := by
      refine (canSkip_guarantees fun _ _ _ hcall => ?_).imp ?_
      · exact NodeCall.not_rollsBack_of_not_givesBack hcall.not_givesBack
      · rintro _ _ _ ⟨-, hlooked, -⟩
        refine hlooked.forall_mem (List.forall_mem_cons.2 ⟨id, ?_⟩) fun _ h => h.not_relabels
        exact List.forall_mem_singleton.2 id
    refine Process.coupled_bind hskip.coupled ?_
    rintro skip memory _ _ _ ⟨rfl, rfl, later, rfl, hlater⟩
    cases skip with
    | true => exact finish_coupled (.ok .skipped)
    | false => exact fetched_coupled hlater

end DriverHandover
