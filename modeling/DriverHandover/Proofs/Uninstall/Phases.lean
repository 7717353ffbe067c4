import DriverHandover.Proofs.Component.Capture
import DriverHandover.Proofs.Uninstall.Confined
import DriverHandover.Uninstall.Rehearsal

/-!
# The phases of an uninstall run

A run that has read its node removes the driver phase by phase, and restores the node then, whatever
came of it.

## Main definitions

* `Uninstall.afterEviction` – the removal once the components have left the node, with the phases
  `Uninstall.clearGpuPods`, `Uninstall.unloadDriver` and `Uninstall.awaitRdma`, which not every run
  goes through.
* `Uninstall.handOver` – what a run does with a node that it has read, and `Uninstall.conclude` for
  the end of it.
* `EndsEarly` – why a run may end before it has read its node; `DesiredLoaded` for a run that is
  skipped, and `Uninstall.EndedEarly` for all that is known of such an end.
* `stateRead`, `reads` – what a run knows of a node that it has read, and how it came to know it.
* `Config.thorough`, `NodeState.loaded` – a run that goes through every phase.

## Main statements

* `Uninstall.removeDriver_eq` – the removal is its phases one after the other.
* `Uninstall.uninstall_eq` – a run ends before it has read its node, or hands the node over.
* `Uninstall.uninstall_guarantees` – what is guaranteed from there on is guaranteed by the run.
-/

namespace DriverHandover

/-- The state of a process that has read the labels and annotations of its node. -/
def stateRead (c : Config) (labels annotations : LabelMap) : ComponentState :=
  (captured c.customEvictionLabel labels).setPolicy (annotations.getD upgradePolicyKey)

/-- What a process reads replaces all that it has read before. -/
theorem capture_setPolicy {c : Config} {s : ComponentState}
    (hcustom : c.customEvictionLabel = none → s.custom = none) (labels annotations : LabelMap) :
    (s.capture c.customEvictionLabel labels).setPolicy (annotations.getD upgradePolicyKey) =
      stateRead c labels annotations :=
  capture_eq_captured hcustom labels _

theorem pausedLabels_stateRead (c : Config) (labels annotations : LabelMap) :
    (stateRead c labels annotations).pausedLabels =
      (captured c.customEvictionLabel labels).pausedLabels :=
  rfl

theorem resumedLabels_stateRead (c : Config) (labels annotations : LabelMap) :
    (stateRead c labels annotations).resumedLabels =
      (captured c.customEvictionLabel labels).resumedLabels :=
  rfl

/-- The successful reads of a node. -/
def reads (c : Config) (labels annotations : LabelMap) : NodeHistory :=
  [⟨.nodeLabels c.nodeName, .ok labels⟩, ⟨.nodeAnnotations c.nodeName, .ok annotations⟩]

/-- Why a run may end before it has read its node: the node has a driver of its own, or there is
nothing to do, or the node could not be read. -/
def EndsEarly (c : Config) (past : NodeHistory)
    (result : Except (Report UninstallError) UninstallOutcome) : Prop :=
  (∃ version, ⟨.hostDriverVersion, some version⟩ ∈ past) ∨ result = .ok .skipped ∨
    (∃ report, ⟨.nodeLabels c.nodeName, .error report⟩ ∈ past) ∨
    ∃ report, ⟨.nodeAnnotations c.nodeName, .error report⟩ ∈ past

/-- The desired version of the driver was found loaded, in a run that need not install it again. -/
structure DesiredLoaded (c : Config) (past : NodeHistory) : Prop where
  not_forced : c.forceReinstall = false
  loaded : ⟨.moduleLoaded baseModule, true⟩ ∈ past
  desired : ∃ version, c.driverVersion = some version ∧ ⟨.driverVersion, .ok version⟩ ∈ past

theorem EndsEarly.append {c : Config} {past : NodeHistory}
    {result : Except (Report UninstallError) UninstallOutcome} (h : EndsEarly c past result)
    (new : NodeHistory) : EndsEarly c (past ++ new) result := by
  rcases h with ⟨version, hversion⟩ | hskipped | ⟨report, hreport⟩ | ⟨report, hreport⟩
  · exact .inl ⟨version, List.mem_append_left new hversion⟩
  · exact .inr (.inl hskipped)
  · exact .inr (.inr (.inl ⟨report, List.mem_append_left new hreport⟩))
  · exact .inr (.inr (.inr ⟨report, List.mem_append_left new hreport⟩))

theorem DesiredLoaded.append {c : Config} {past : NodeHistory} (h : DesiredLoaded c past)
    (new : NodeHistory) : DesiredLoaded c (past ++ new) := by
  obtain ⟨version, hdesired, hversion⟩ := h.desired
  exact ⟨h.not_forced, List.mem_append_left new h.loaded,
    version, hdesired, List.mem_append_left new hversion⟩

namespace Uninstall

variable (c : Config) (t : Timings) (looks : Nat)

/-- Has the GPU pods removed from a cordoned node, where the run does so. -/
def clearGpuPods : RunStep Unit := do
  if ← gpuPodEvictionEnabled c then
    cordon c
    evictGpuPods c

/-- Removes the driver, where it is loaded. -/
def unloadDriver : RunStep Unit := do
  if ← driverLoaded then cleanupDriver c

/-- Waits for MOFED, where the node needs it. -/
def awaitRdma : RunStep Unit := do
  if c.gpuDirectRdmaEnabled then
    if ← ask .rdmaPresent then awaitMofed c t t.mofedTimeout looks

/-- The removal once the components have left the node. -/
def afterEviction : RunStep Unit := do
  enter .componentsEvicted
  clearGpuPods c
  enter .podsDrained
  unloadDriver c
  enter .modulesUnloaded
  attempt .vfioUnbindFailed (ask .unbindVfio)
  enter .devicesRebound
  awaitRdma c t looks
  enter .rdmaWaited

/-- A step after a choice is made in both branches. -/
theorem ite_bind_step {α β : Type} {choice : Prop} [Decidable choice] (yes no : RunStep β)
    (next : β → RunStep α) :
    (if choice then yes else no) >>= next = if choice then yes >>= next else no >>= next :=
  apply_ite (· >>= next) choice yes no

/-- The removal is its phases one after the other. -/
theorem removeDriver_eq :
    removeDriver c t looks = (do
      evictComponents c t
      afterEviction c t looks) := by
  rw [removeDriver, afterEviction, clearGpuPods, unloadDriver, awaitRdma]
  simp only [bind_assoc, ite_bind_step, pure_bind]

/-- What a run does with a node that it has read: it removes the driver and then, whether that
succeeded or not, gives the node back. -/
def handOver : NodeProcess (Except (Report UninstallError) UninstallOutcome) := do
  enter .labelsFetched
  let removed ← (removeDriver c t looks).run
  reschedule c
  match removed with
  | .error report => finish (.error report)
  | .ok () =>
    enter .rescheduled
    finish ((← unloadNouveau.run).map fun _ => .completed)

/-- What is left of a run when the node has been given back. -/
def conclude (removed : Except (Report UninstallError) Unit) :
    NodeProcess (Except (Report UninstallError) UninstallOutcome) :=
  match removed with
  | .error report => finish (.error report)
  | .ok () => do
    enter .rescheduled
    finish ((← unloadNouveau.run).map fun _ => .completed)

/-- The node is given back and the run concluded whether the driver could be removed or not. -/
theorem handOver_eq :
    handOver c t looks = (do
      enter .labelsFetched
      let removed ← (removeDriver c t looks).run
      reschedule c
      conclude removed) := by
  rw [handOver]
  refine congrArg _ (funext fun _ => congrArg _ (funext fun removed => ?_))
  cases removed with
  | error report => rfl
  | ok _ => rfl

/-- A run ends before it has read its node, or hands the node over. -/
theorem uninstall_eq :
    uninstall c t looks = (do
      if (← ask .hostDriverVersion).isSome then
        finish (← (refuseHostDriver c t).run)
      else
        enter .preflightSkipCheck
        if ← canSkip c then finish (.ok .skipped)
        else
          match ← (fetchState c).run with
          | .error report => finish (.error report)
          | .ok () => handOver c t looks) :=
  rfl

theorem clearGpuPods_keeping {c : Config} :
    Keeping Memory.components NodeCall.Vacates (clearGpuPods c).run := by
  refine RunStep.keeping_bind (RunStep.keeping_lift ?_) fun enabled => ?_
  · exact keeping_bind keeping_get fun _ => keeping_pure _
  · cases enabled with
    | true => exact RunStep.keeping_bind (cordon_keeping trivial) fun _ =>
        evictGpuPods_keeping
    | false => exact RunStep.keeping_pure ()

theorem unloadDriver_keeping {c : Config} :
    Keeping Memory.components NodeCall.Vacates (unloadDriver c).run := by
  refine RunStep.keeping_bind (RunStep.keeping_lift (keeping_ask trivial)) fun loaded => ?_
  cases loaded with
  | true => exact cleanupDriver_keeping
  | false => exact RunStep.keeping_pure ()

theorem awaitRdma_keeping {γ : Type} {view : Memory → γ} {c : Config} {t : Timings} {looks : Nat} :
    Keeping view NodeCall.Polls (awaitRdma c t looks).run := by
  rw [awaitRdma]
  split
  · refine RunStep.keeping_bind (RunStep.keeping_lift (keeping_ask trivial)) fun present => ?_
    cases present with
    | true => exact awaitMofed_keeping _ _
    | false => exact RunStep.keeping_pure ()
  · exact RunStep.keeping_pure ()

theorem afterEviction_keeping {c : Config} {t : Timings} {looks : Nat} :
    Keeping Memory.components NodeCall.Clears (afterEviction c t looks).run := by
  have henter : ∀ stage,
      Keeping Memory.components NodeCall.Clears (liftM (enter stage) : RunStep Unit).run :=
    fun stage => RunStep.keeping_lift (keeping_enter (fun _ _ => rfl) trivial)
  refine RunStep.keeping_bind (henter _) fun _ => ?_
  refine RunStep.keeping_bind (clearGpuPods_keeping.mono fun _ h => h.clears) fun _ => ?_
  refine RunStep.keeping_bind (henter _) fun _ => ?_
  refine RunStep.keeping_bind (unloadDriver_keeping.mono fun _ h => h.clears) fun _ => ?_
  refine RunStep.keeping_bind (henter _) fun _ => ?_
  refine RunStep.keeping_bind (RunStep.keeping_attempt (keeping_ask trivial)) fun _ => ?_
  refine RunStep.keeping_bind (henter _) fun _ => ?_
  refine RunStep.keeping_bind (awaitRdma_keeping.mono fun _ h => h.clears) fun _ => ?_
  exact henter _

theorem conclude_keeping {γ : Type} {view : Memory → γ}
    (hview : ∀ memory stage, view { memory with stage } = view memory)
    (removed : Except (Report UninstallError) Unit) :
    Keeping view NodeCall.Finishes (conclude removed) := by
  have hfinish : ∀ result, Keeping view NodeCall.Finishes (finish result) :=
    finish_keeping hview fun _ => trivial
  cases removed with
  | error report => exact hfinish (.error report)
  | ok _ =>
    exact keeping_bind (keeping_enter hview trivial) fun _ =>
      keeping_bind unloadNouveau_keeping fun _ => hfinish _

section Guarantees

variable {c : Config} {t : Timings} {looks : Nat} {memory : Memory} {past : NodeHistory}
variable {permitted : Memory → NodeHistory → NodeCall → Prop}

/-- A run may be skipped only if the desired version was found loaded. -/
theorem canSkip_guarantees
    (hpermitted : ∀ later call, Continues NodeCall.Looks past later → call.Looks →
      permitted memory later call) :
    (canSkip c).Guarantees permitted
      (fun skip after later => after = memory ∧ Continues NodeCall.Looks past later ∧
        (skip = true → DesiredLoaded c later)) memory past := by
  have hrefl : Continues NodeCall.Looks past past := Continues.refl past
  rw [canSkip]
  by_cases hforced : c.forceReinstall = true
  · rw [if_pos hforced]
    exact ⟨rfl, hrefl, nofun⟩
  rw [if_neg hforced]
  cases hdesired : c.driverVersion with
  | none => exact ⟨rfl, hrefl, nofun⟩
  | some desired =>
    dsimp only
    rw [Process.guarantees_bind]
    refine ⟨hpermitted _ _ hrefl trivial, fun loaded => ?_⟩
    have hloaded : Continues NodeCall.Looks past
        (past ++ [⟨.moduleLoaded baseModule, loaded⟩]) := Continues.one past trivial
    cases loaded with
    | false => exact ⟨rfl, hloaded, nofun⟩
    | true =>
      show Process.Guarantees _ _ (ask .driverVersion >>= _) _ _
      rw [Process.guarantees_bind]
      refine ⟨hpermitted _ _ hloaded trivial, fun found => ?_⟩
      have hfound := hloaded.trans (Continues.one (e := ⟨.driverVersion, found⟩) _ trivial)
      cases found with
      | error report => exact ⟨rfl, hfound, nofun⟩
      | ok version =>
        refine ⟨rfl, hfound, fun hequal => ⟨Bool.eq_false_iff.2 hforced, ?_, version, ?_, ?_⟩⟩
        · exact List.mem_append_left _ List.mem_concat_self
        · rw [hdesired, eq_of_beq hequal]
        · exact List.mem_concat_self

/-- Reading the node replaces the captured values and nothing else. -/
theorem fetchState_guarantees
    (hpermitted : ∀ kept later call, kept.cordoned = memory.cordoned →
      Continues NodeCall.Looks past later → call.Looks → permitted kept later call) :
    RunStep.Guarantees permitted
      (fun _ after later => after.cordoned = memory.cordoned ∧ ∃ labels annotations,
        after.components = (memory.components.capture c.customEvictionLabel labels).setPolicy
          (annotations.getD upgradePolicyKey) ∧
        later = past ++ reads c labels annotations)
      (fun _ after later => after.cordoned = memory.cordoned ∧
        Continues NodeCall.Looks past later ∧
        ((∃ report, ⟨.nodeLabels c.nodeName, .error report⟩ ∈ later) ∨
          ∃ report, ⟨.nodeAnnotations c.nodeName, .error report⟩ ∈ later))
      (fetchState c) memory past := by
  rw [fetchState, RunStep.guarantees_bind, RunStep.guarantees_attempt]
  refine ⟨hpermitted _ _ _ rfl (Continues.refl past) trivial, fun reply => ?_⟩
  have hread : Continues NodeCall.Looks past (past ++ [⟨.nodeLabels c.nodeName, reply⟩]) :=
    Continues.one past trivial
  cases reply with
  | error report => exact ⟨rfl, hread, .inl ⟨report, List.mem_concat_self⟩⟩
  | ok labels =>
    rw [Process.guarantees_done]
    dsimp only
    rw [RunStep.guarantees_bind, RunStep.guarantees_modify, RunStep.guarantees_bind,
      RunStep.guarantees_attempt]
    refine ⟨hpermitted _ _ _ rfl hread trivial, fun reply => ?_⟩
    cases reply with
    | error report =>
      refine ⟨rfl, ?_, .inr ⟨report, List.mem_concat_self⟩⟩
      exact hread.trans (Continues.one _ trivial)
    | ok annotations =>
      rw [Process.guarantees_done]
      dsimp only
      rw [RunStep.guarantees_modify]
      exact ⟨rfl, labels, annotations, rfl, List.append_assoc past _ _⟩

/-- A run on a node that has a driver of its own never succeeds. -/
theorem refuseHostDriver_guarantees
    (hpermitted : ∀ later call, Continues (NodeCall.Declines c) past later → call.Declines c →
      permitted memory later call) :
    RunStep.Guarantees permitted (fun _ _ _ => False)
      (fun _ after later => after = memory ∧ Continues (NodeCall.Declines c) past later)
      (refuseHostDriver c t) memory past := by
  rw [refuseHostDriver, RunStep.guarantees_bind, RunStep.guarantees_attempt]
  refine ⟨hpermitted _ _ (Continues.refl past) ⟨rfl, rfl⟩, fun reply => ?_⟩
  have hmarked : Continues (NodeCall.Declines c) past (past ++ [⟨.updateLabels c.nodeName
      (LabelMap.ofList [(driverLabelKey, driverPreinstalled)]), reply⟩]) :=
    Continues.one past ⟨rfl, rfl⟩
  cases reply with
  | error report => exact ⟨rfl, hmarked⟩
  | ok _ =>
    rw [Process.guarantees_done]
    dsimp only
    rw [RunStep.guarantees_bind]
    refine RunStep.guarantees_ask.2 ⟨hpermitted _ _ hmarked trivial, fun _ => ?_⟩
    exact ⟨rfl, hmarked.trans (Continues.one _ trivial)⟩

/-- The last stage of a run with a result. -/
def lastStage : Except (Report UninstallError) UninstallOutcome → Stage
  | .ok _ => .done
  | .error _ => .failed

theorem lastStage_ne (result : Except (Report UninstallError) UninstallOutcome) :
    lastStage result ≠ .labelsFetched := by
  cases result with
  | ok outcome => exact (nofun : Stage.done ≠ .labelsFetched)
  | error report => exact (nofun : Stage.failed ≠ .labelsFetched)

theorem finish_guarantees {result : Except (Report UninstallError) UninstallOutcome}
    {post : Except (Report UninstallError) UninstallOutcome → Memory → NodeHistory → Prop} :
    (finish result).Guarantees permitted post memory past ↔
      permitted { memory with stage := lastStage result } past (.enter (lastStage result)) ∧
        ∀ reply, post result { memory with stage := lastStage result }
          (past ++ [⟨.enter (lastStage result), reply⟩]) := by
  cases result with
  | ok outcome =>
    rw [finish, Process.guarantees_bind, guarantees_enter]
    rfl
  | error report =>
    rw [finish, Process.guarantees_bind, guarantees_enter]
    rfl

/-- How a run that started with `memory` ends before it has read its node. -/
structure EndedEarly (c : Config) (memory : Memory)
    (result : Except (Report UninstallError) UninstallOutcome) (after : Memory)
    (past : NodeHistory) : Prop where
  cordoned : after.cordoned = memory.cordoned
  stage : after.stage = lastStage result
  not_completed : result ≠ .ok .completed
  endsEarly : EndsEarly c past result
  declines : ∀ e ∈ past, e.1.Declines c
  skipped : result = .ok .skipped → DesiredLoaded c past ∧ ∀ e ∈ past, e.1.Looks

/-- The way a run ends early: it enters the last stage with what it has found out so far. -/
theorem finish_endedEarly {result : Except (Report UninstallError) UninstallOutcome}
    {kept : Memory}
    {post : Except (Report UninstallError) UninstallOutcome → Memory → NodeHistory → Prop}
    (hpermitted : ∀ kept past call, kept.cordoned = memory.cordoned →
      (∀ e ∈ past, e.1.Declines c) → call.Declines c → permitted kept past call)
    (hearly : ∀ result after past, EndedEarly c memory result after past → post result after past)
    (hkept : kept.cordoned = memory.cordoned) (hresult : result ≠ .ok .completed)
    (hends : EndsEarly c past result) (hdeclines : ∀ e ∈ past, e.1.Declines c)
    (hskipped : result = .ok .skipped → DesiredLoaded c past ∧ ∀ e ∈ past, e.1.Looks) :
    (finish result).Guarantees permitted post kept past := by
  have hlast : (NodeCall.enter (lastStage result)).Looks := lastStage_ne result
  refine finish_guarantees.2 ⟨hpermitted _ past _ hkept hdeclines hlast.declines, fun reply => ?_⟩
  have hnew : Continues NodeCall.Looks past (past ++ [⟨.enter (lastStage result), reply⟩]) :=
    Continues.one past hlast
  refine hearly result _ _ ⟨hkept, rfl, hresult, hends.append _, ?_, fun h => ?_⟩
  · exact hnew.forall_mem hdeclines fun _ h => h.declines
  · exact ⟨(hskipped h).1.append _, hnew.forall_mem (hskipped h).2 fun _ h => h⟩

/-- A run guarantees what it guarantees from reading its node on, if that permits the calls that
come before and the ends of a run that does not come so far. -/
theorem uninstall_guarantees
    {post : Except (Report UninstallError) UninstallOutcome → Memory → NodeHistory → Prop}
    (hpermitted : ∀ kept past call, kept.cordoned = memory.cordoned →
      (∀ e ∈ past, e.1.Declines c) → call.Declines c → permitted kept past call)
    (hearly : ∀ result after past, EndedEarly c memory result after past → post result after past)
    (hread : ∀ kept before labels annotations, kept.cordoned = memory.cordoned →
      (∀ e ∈ before, e.1.Looks) →
      kept.components = (memory.components.capture c.customEvictionLabel labels).setPolicy
        (annotations.getD upgradePolicyKey) →
      (handOver c t looks).Guarantees permitted post kept
        (before ++ reads c labels annotations)) :
    (uninstall c t looks).Guarantees permitted post memory [] := by
  have hlook : ∀ kept past call, kept.cordoned = memory.cordoned →
      Continues NodeCall.Looks [] past → call.Looks → permitted kept past call := by
    intro kept past call hkept hpast hcall
    exact hpermitted kept past call hkept
      (fun e he => (Continues.nil_iff.1 hpast e he).declines) hcall.declines
  rw [uninstall_eq, Process.guarantees_bind]
  refine ⟨hlook _ _ _ rfl (Continues.refl []) trivial, fun version => ?_⟩
  have hversion : Continues NodeCall.Looks [] [⟨.hostDriverVersion, version⟩] :=
    Continues.one [] trivial
  cases version with
  | some version =>
    show Process.Guarantees _ _ ((refuseHostDriver c t).run >>= finish) _ _
    rw [Process.guarantees_bind]
    have hdeclined := hversion.mono fun _ h => NodeCall.Looks.declines (c := c) h
    refine Process.Guarantees.imp (refuseHostDriver_guarantees fun later call hlater hcall => ?_) ?_
    · exact hpermitted _ _ _ rfl (Continues.nil_iff.1 (hdeclined.trans hlater)) hcall
    -- marking the node never succeeds, so the run ends with a report
    rintro (report | outcome) kept past hpast
    · obtain ⟨rfl, hmarked⟩ := hpast
      refine finish_endedEarly hpermitted hearly rfl (by simp)
        (.inl ⟨version, hmarked.mem (List.mem_singleton.2 rfl)⟩)
        (Continues.nil_iff.1 (hdeclined.trans hmarked)) (by simp)
    · cases hpast
  | none =>
    show Process.Guarantees _ _ (enter .preflightSkipCheck >>= _) _ _
    rw [Process.guarantees_bind, guarantees_enter]
    have hstage : (NodeCall.enter .preflightSkipCheck).Looks :=
      (nofun : Stage.preflightSkipCheck ≠ .labelsFetched)
    refine ⟨hlook _ _ _ rfl hversion hstage, fun _ => ?_⟩
    have hentered : Continues NodeCall.Looks []
        [⟨.hostDriverVersion, none⟩, ⟨.enter .preflightSkipCheck, ()⟩] :=
      hversion.trans (Continues.one _ hstage)
    rw [Process.guarantees_bind]
    refine (canSkip_guarantees fun later call hlater hcall => ?_).imp ?_
    · exact hlook _ _ _ rfl (hentered.trans hlater) hcall
    rintro skip kept past ⟨rfl, hpast, hmatches⟩
    have hlooked : Continues NodeCall.Looks [] past := hentered.trans hpast
    have hlooks := Continues.nil_iff.1 hlooked
    cases skip with
    | true =>
      rw [if_pos rfl]
      exact finish_endedEarly hpermitted hearly rfl (by simp) (.inr (.inl rfl))
        (fun e he => (hlooks e he).declines) fun _ => ⟨hmatches rfl, hlooks⟩
    | false =>
      show Process.Guarantees _ _ ((fetchState c).run >>= _) _ _
      rw [Process.guarantees_bind]
      refine Process.Guarantees.imp
        (fetchState_guarantees fun _ past call hkept hpast hcall => ?_) ?_
      · exact hlook _ _ _ hkept (hlooked.trans hpast) hcall
      rintro (report | ⟨⟩) kept past hend
      · obtain ⟨hkept, hfetched, herrors⟩ := hend
        have hfailed := Continues.nil_iff.1 (hlooked.trans hfetched)
        exact finish_endedEarly hpermitted hearly hkept (by simp) (.inr (.inr herrors))
          (fun e he => (hfailed e he).declines) (by simp)
      · obtain ⟨hkept, labels, annotations, hstate, rfl⟩ := hend
        exact hread kept _ labels annotations hkept hlooks hstate

end Guarantees

/-- A run of a fresh process ensures what it ensures from reading its node on, if that allows the
calls that come before and the ends of a run that does not come so far. -/
theorem uninstall_ensures {c : Config} {t : Timings} {looks : Nat}
    {allowed : NodeHistory → NodeCall → Prop}
    {post : Except (Report UninstallError) UninstallOutcome → Memory → NodeHistory → Prop}
    (hallowed : ∀ past call, call.Declines c → allowed past call)
    (hearly : ∀ result after past, result ≠ .ok .completed → EndsEarly c past result →
      (∀ e ∈ past, e.1.Declines c) → post result after past)
    (hread : ∀ before labels annotations memory, (∀ e ∈ before, e.1.Looks) →
      memory.components = stateRead c labels annotations →
      (handOver c t looks).Ensures allowed post memory (before ++ reads c labels annotations)) :
    (uninstall c t looks).Ensures allowed post Memory.fresh [] := by
  rw [Process.ensures_iff_guarantees]
  refine uninstall_guarantees (fun _ past call _ _ h => hallowed past call h) ?_ ?_
  · intro result after past hend
    exact hearly result after past hend.not_completed hend.endsEarly hend.declines
  · intro kept before labels annotations _ hlooks hstate
    exact Process.ensures_iff_guarantees.1 (hread before labels annotations kept hlooks hstate)

end Uninstall

/-- Settings under which a run goes through every phase. -/
def Config.thorough : Config where
  nodeName := "node"
  drain := DrainOptions.default
  enableAutoDrain := true
  enableGpuPodEviction := true
  operatorNamespace := "gpu-operator"
  customEvictionLabel := some "team/operand"
  gpuDirectRdmaEnabled := true
  useHostMofed := false
  driverVersion := none
  forceReinstall := false

/-- A node with a loaded driver, on which one component is paused already. -/
def NodeState.loaded : NodeState where
  labels := LabelMap.ofList
    [(Component.devicePlugin.labelKey, "true"), (Component.dcgm.labelKey, pause "true"),
      ("team/operand", "on")]
  annotations := LabelMap.empty
  modules := [baseModule]
  cordoned := false
  hostDriver := none
  driverVersion := none
  rdmaPresent := true
  mofedNotReady := 1
  stuck := []
  eviction := ⟨1, 1, []⟩

/-- A rehearsal on that node in which the first call of a kind fails. -/
def Rehearsal.failing (kind : CallKind) : Rehearsal where
  node := NodeState.loaded
  script other := if other = kind then [1] else []
  seen := []
  now := 0
  limit := (Duration.ofSeconds 60).nanos
  calls := []
  stages := []

end DriverHandover
