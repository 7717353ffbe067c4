import DriverHandover.Proofs.Process.Agreement
import DriverHandover.Proofs.Uninstall.EarlyEnd
import DriverHandover.Proofs.Uninstall.Fallback
import DriverHandover.Proofs.Uninstall.Quiescence
import DriverHandover.Proofs.Uninstall.RootCause
import DriverHandover.Proofs.Uninstall.Schedulability

/-!
# Who may remove pods

A run evicts GPU pods and drains the node only where the settings say so, and never where the node
is annotated as one that others drain for an upgrade. It goes by the annotations that it has read
itself, whatever the process has read in earlier runs. Where it may do neither, it makes no
difference how it would have removed the pods.

## Main definitions

* `Enabled` – a setting is on, and the annotations that were read do not rule it out.
* `Permitted` – what must be enabled for a call.
* `Restrained` – a part of a run that keeps to what the captured values permit.

## Main statements

* `Uninstall.uninstall_agrees` – two runs with different drain options agree until pods are removed.
* `pods_removed_only_by_policy` – every call of a run is permitted.
-/

namespace DriverHandover

open Uninstall

/-- A setting is on, and the run has read annotations that leave upgrades to it. -/
def Enabled (c : Config) (setting : Bool) (past : NodeHistory) : Prop :=
  setting = true ∧ ∃ annotations, ⟨.nodeAnnotations c.nodeName, .ok annotations⟩ ∈ past ∧
    annotations.get? upgradePolicyKey ≠ some "true"

/-- What must be enabled for a call. The node is cordoned for either of the two others. -/
def Permitted (c : Config) (past : NodeHistory) : NodeCall → Prop
  | .evictGpuPods _ _ => Enabled c c.enableGpuPodEviction past
  | .drain _ _ => Enabled c c.enableAutoDrain past
  | .cordon _ => Enabled c (c.enableGpuPodEviction || c.enableAutoDrain) past
  | _ => True

/-- Whether a run with the captured values may make a call. -/
def NodeCall.OpenTo (c : Config) (s : ComponentState) : NodeCall → Prop
  | .evictGpuPods _ _ => evictsGpuPods c s = true
  | .drain _ _ => drainsNode c s = true
  | .cordon _ => (evictsGpuPods c s || drainsNode c s) = true
  | _ => True

/-- A part of a run that only makes calls which the captured values permit, and leaves these
alone. -/
def Restrained {α : Type} (c : Config) (s : ComponentState) (p : NodeProcess α) : Prop :=
  ∀ memory past, memory.components = s →
    p.Guarantees (fun _ _ call => call.OpenTo c s) (fun _ after _ => after.components = s)
      memory past

variable {c : Config} {t : Timings} {looks : Nat} {s : ComponentState} {o : DrainOptions}
variable {memory after : Memory} {past later history : NodeHistory} {call : NodeCall}

theorem Enabled.mono {setting setting' : Bool} (h : Enabled c setting past)
    (hsetting : setting = true → setting' = true) (hpast : ∀ e ∈ past, e ∈ later) :
    Enabled c setting' later := by
  obtain ⟨hon, annotations, hread, hpolicy⟩ := h
  exact ⟨hsetting hon, annotations, hpast _ hread, hpolicy⟩

namespace NodeCall

/-- A class of calls without those that the policy is about. -/
theorem openTo_of {calls : NodeCall → Prop} (hcordon : ∀ node, ¬calls (.cordon node))
    (hdrain : ∀ node o, ¬calls (.drain node o)) (hevict : ∀ node o, ¬calls (.evictGpuPods node o))
    (h : calls call) : call.OpenTo c s := by
  cases call with
  | cordon node => exact absurd h (hcordon node)
  | drain node o => exact absurd h (hdrain node o)
  | evictGpuPods node o => exact absurd h (hevict node o)
  | _ => trivial

theorem Awaits.openTo (h : call.Awaits) : call.OpenTo c s :=
  openTo_of (fun _ => id) (fun _ _ => id) (fun _ _ => id) h

theorem Polls.openTo (h : call.Polls) : call.OpenTo c s :=
  openTo_of (fun _ => id) (fun _ _ => id) (fun _ _ => id) h

theorem GivesBack.openTo (h : call.GivesBack) : call.OpenTo c s :=
  openTo_of (fun _ => id) (fun _ _ => id) (fun _ _ => id) h

theorem Finishes.openTo (h : call.Finishes) : call.OpenTo c s :=
  openTo_of (fun _ => id) (fun _ _ => id) (fun _ _ => id) h

theorem Declines.permitted (h : call.Declines c) : Permitted c past call := by
  cases call with
  | cordon | drain | evictGpuPods => cases h
  | _ => trivial

/-- What the captured values permit is permitted by the annotations that were read. -/
theorem OpenTo.permitted {annotations : LabelMap} (h : call.OpenTo c s)
    (hs : s.policy = annotations.getD upgradePolicyKey)
    (hread : ⟨.nodeAnnotations c.nodeName, .ok annotations⟩ ∈ past) : Permitted c past call := by
  have hpolicy : s.upgradesExternally = false →
      annotations.get? upgradePolicyKey ≠ some "true" := by
    intro hown htrue
    simp [ComponentState.upgradesExternally, hs, LabelMap.getD, htrue] at hown
  cases call with
  | evictGpuPods =>
    obtain ⟨hon, hown⟩ := Bool.and_eq_true_iff.1 h
    exact ⟨hon, annotations, hread, hpolicy (by simpa using hown)⟩
  | drain =>
    obtain ⟨hon, hown⟩ := Bool.and_eq_true_iff.1 h
    exact ⟨hon, annotations, hread, hpolicy (by simpa using hown)⟩
  | cordon =>
    have heither : ((c.enableGpuPodEviction || c.enableAutoDrain) &&
        !s.upgradesExternally) = true := by
      rw [Bool.and_or_distrib_right]
      exact h
    obtain ⟨hon, hown⟩ := Bool.and_eq_true_iff.1 heither
    exact ⟨hon, annotations, hread, hpolicy (by simpa using hown)⟩
  | _ => trivial

/-- Pods are removed only where one of the two settings is on. -/
theorem enabled_of_removesPods (hremoves : call.RemovesPods) (h : Permitted c past call)
    (hpast : ∀ e ∈ past, e ∈ later) :
    Enabled c (c.enableGpuPodEviction || c.enableAutoDrain) later := by
  cases call with
  | evictGpuPods => exact Enabled.mono h (fun hon => by simp [hon]) hpast
  | drain => exact Enabled.mono h (fun hon => by simp [hon]) hpast
  | _ => cases hremoves

end NodeCall

section Restrained

variable {α β : Type} {calls : NodeCall → Prop}

theorem Keeping.restrained {p : NodeProcess α} (hp : Keeping Memory.components calls p)
    (hcalls : ∀ call, calls call → call.OpenTo c s) : Restrained c s p := by
  intro memory past hs
  exact (hp memory past).mono (fun _ _ call h => hcalls call h.1) fun _ _ _ h => h.1.trans hs

theorem restrained_bind {p : NodeProcess β} {next : β → NodeProcess α} (hp : Restrained c s p)
    (hnext : ∀ b, Restrained c s (next b)) : Restrained c s (p >>= next) := by
  intro memory past hs
  rw [Process.guarantees_bind]
  exact (hp memory past hs).imp fun b kept later hkept => hnext b kept later hkept

theorem RunStep.restrained_bind {step : RunStep β} {next : β → RunStep α}
    (hstep : Restrained c s step.run) (hnext : ∀ b, Restrained c s (next b).run) :
    Restrained c s (step >>= next).run := by
  refine DriverHandover.restrained_bind hstep fun result => ?_
  cases result with
  | ok b => exact hnext b
  | error report => exact fun _ _ hs => hs

theorem RunStep.restrained_lift {p : NodeProcess α} (hp : Restrained c s p) :
    Restrained c s (liftM p : RunStep α).run := by
  intro memory past hs
  rw [RunStep.guarantees_run_iff, RunStep.guarantees_lift]
  exact hp memory past hs

theorem RunStep.restrained_ask (hcall : call.OpenTo c s) :
    Restrained c s (liftM (ask call) : RunStep call.Reply).run :=
  RunStep.restrained_lift ((keeping_ask hcall).restrained fun _ h => h)

theorem RunStep.agreeUntil_bind {apart : NodeCall → Prop} {step step' : RunStep β}
    {next next' : β → RunStep α} (hstep : Process.AgreeUntil apart step.run step'.run)
    (hnext : ∀ b, Process.AgreeUntil apart (next b).run (next' b).run) :
    Process.AgreeUntil apart (step >>= next).run (step' >>= next').run := by
  refine Process.agreeUntil_bind hstep fun result => ?_
  cases result with
  | ok b => exact hnext b
  | error report => exact .refl _

end Restrained

namespace Uninstall

theorem fallBack_restrained (report : Report UninstallError) :
    Restrained c s (fallBack c report).run := by
  intro memory past hs
  rw [RunStep.guarantees_run_iff, fallBack, RunStep.guarantees_bind, RunStep.guarantees_lift]
  show RunStep.Guarantees _ _ _ (if drainsNode c memory.components = true then _ else _) _ _
  rw [hs]
  cases hdrains : drainsNode c s with
  | false => exact hs
  | true =>
    have hdrain : Keeping Memory.components (NodeCall.OpenTo c s) (drainNode c).run :=
      drainNode_keeping (by simp [NodeCall.OpenTo, hdrains]) hdrains
    have hcleanup : Keeping Memory.components (NodeCall.OpenTo c s) cleanup.run :=
      cleanup_keeping trivial
    exact RunStep.guarantees_run_iff.1
      ((RunStep.keeping_bind hdrain fun _ => hcleanup).restrained (fun _ h => h) memory past hs)

theorem clearGpuPods_restrained : Restrained c s (clearGpuPods c).run := by
  intro memory past hs
  rw [RunStep.guarantees_run_iff, clearGpuPods, RunStep.guarantees_bind, RunStep.guarantees_lift,
    guarantees_gpuPodEvictionEnabled]
  show RunStep.Guarantees _ _ _ (if evictsGpuPods c memory.components = true then _ else _) _ _
  rw [hs]
  cases hevicts : evictsGpuPods c s with
  | false => exact hs
  | true =>
    have hcordon : Keeping Memory.components (NodeCall.OpenTo c s) (cordon c).run :=
      cordon_keeping (by simp [NodeCall.OpenTo, hevicts])
    have hevict : Restrained c s (evictGpuPods c).run := by
      refine RunStep.restrained_bind (RunStep.restrained_ask hevicts) fun reply => ?_
      cases reply with
      | error report => exact fallBack_restrained _
      | ok report =>
        cases hcomplete : report.isComplete with
        | true =>
          simp only [hcomplete]
          exact fun _ _ hs => hs
        | false =>
          simp only [hcomplete]
          exact fallBack_restrained _
    exact RunStep.guarantees_run_iff.1
      (RunStep.restrained_bind (hcordon.restrained fun _ h => h) (fun _ => hevict) memory past hs)

theorem unloadDriver_restrained : Restrained c s (unloadDriver c).run := by
  refine RunStep.restrained_bind (RunStep.restrained_ask trivial) fun loaded => ?_
  cases loaded with
  | false => exact fun _ _ hs => hs
  | true =>
    refine RunStep.restrained_bind (RunStep.restrained_ask trivial) fun reply => ?_
    cases reply with
    | ok _ => exact fun _ _ hs => hs
    | error report => exact fallBack_restrained _

theorem enter_restrained (stage : Stage) : Restrained c s (enter stage) := by
  have henter : Keeping Memory.components (NodeCall.OpenTo c s) (enter stage) :=
    keeping_enter (fun _ _ => rfl) trivial
  exact henter.restrained fun _ h => h

theorem removeDriver_restrained : Restrained c s (removeDriver c t looks).run := by
  have henter : ∀ stage, Restrained c s (liftM (enter stage) : RunStep Unit).run :=
    fun stage => RunStep.restrained_lift (enter_restrained stage)
  have hevict : Keeping Memory.components (NodeCall.OpenTo c s) (evictComponents c t).run :=
    evictComponents_keeping (fun _ => trivial) fun _ h => h.openTo
  have hunbind : Keeping Memory.components (NodeCall.OpenTo c s)
      (attempt .vfioUnbindFailed (ask .unbindVfio)).run :=
    RunStep.keeping_attempt (keeping_ask trivial)
  rw [removeDriver_eq]
  refine RunStep.restrained_bind (hevict.restrained fun _ h => h) fun _ => ?_
  refine RunStep.restrained_bind (henter _) fun _ => ?_
  refine RunStep.restrained_bind clearGpuPods_restrained fun _ => ?_
  refine RunStep.restrained_bind (henter _) fun _ => ?_
  refine RunStep.restrained_bind unloadDriver_restrained fun _ => ?_
  refine RunStep.restrained_bind (henter _) fun _ => ?_
  refine RunStep.restrained_bind (hunbind.restrained fun _ h => h) fun _ => ?_
  refine RunStep.restrained_bind (henter _) fun _ => ?_
  refine RunStep.restrained_bind (awaitRdma_keeping.restrained fun _ h => h.openTo) fun _ => ?_
  exact henter _

theorem handOver_restrained : Restrained c s (handOver c t looks) := by
  rw [handOver_eq]
  refine restrained_bind (enter_restrained _) fun _ => ?_
  refine restrained_bind removeDriver_restrained fun removed => ?_
  refine restrained_bind (reschedule_keeping.restrained fun _ h => h.openTo) fun _ => ?_
  exact (conclude_keeping (fun _ _ => rfl) removed).restrained fun _ h => h.openTo

/-- Every call of a run is permitted, whatever the process has read before. -/
theorem uninstall_permitted :
    (uninstall c t looks).Guarantees (fun _ past call => Permitted c past call)
      (fun _ _ _ => True) memory [] := by
  refine uninstall_guarantees (fun _ _ _ _ _ hcall => hcall.permitted) (fun _ _ _ _ => trivial) ?_
  intro kept before labels annotations _ _ hstate
  refine (handOver_restrained kept _ rfl).extends.mono ?_ fun _ _ _ _ => trivial
  rintro _ later call ⟨hopen, hpast⟩
  have hread : ⟨.nodeAnnotations c.nodeName, .ok annotations⟩ ∈
      before ++ reads c labels annotations :=
    List.mem_append_right before (List.mem_cons_of_mem _ List.mem_cons_self)
  exact hopen.permitted (by rw [hstate]; rfl) (hpast.subset hread)

section Agreement

open Process (AgreeUntil)

theorem drainNode_agrees :
    AgreeUntil NodeCall.RemovesPods (drainNode c).run (drainNode { c with drain := o }).run := by
  have hdrain : AgreeUntil NodeCall.RemovesPods
      (attempt .drainFailed (ask (.drain c.nodeName c.drain))).run
      (attempt .drainFailed (ask (.drain c.nodeName o))).run := .part _ _ trivial trivial
  refine RunStep.agreeUntil_bind (.refl _) fun memory => ?_
  cases memory.cordoned with
  | true => exact hdrain
  | false => exact RunStep.agreeUntil_bind (.refl _) fun _ => hdrain

theorem fallBack_agrees (report : Report UninstallError) :
    AgreeUntil NodeCall.RemovesPods (fallBack c report).run
      (fallBack { c with drain := o } report).run := by
  refine RunStep.agreeUntil_bind (.refl _) fun enabled => ?_
  cases enabled with
  | true => exact RunStep.agreeUntil_bind drainNode_agrees fun _ => .refl _
  | false => exact .refl _

theorem clearGpuPods_agrees :
    AgreeUntil NodeCall.RemovesPods (clearGpuPods c).run
      (clearGpuPods { c with drain := o }).run := by
  refine RunStep.agreeUntil_bind (.refl _) fun enabled => ?_
  cases enabled with
  | true => exact RunStep.agreeUntil_bind (.refl _) fun _ => .part _ _ trivial trivial
  | false => exact .refl _

theorem unloadDriver_agrees :
    AgreeUntil NodeCall.RemovesPods (unloadDriver c).run
      (unloadDriver { c with drain := o }).run := by
  refine RunStep.agreeUntil_bind (.refl _) fun loaded => ?_
  cases loaded with
  | false => exact .refl _
  | true =>
    refine RunStep.agreeUntil_bind (.refl _) fun reply => ?_
    cases reply with
    | ok _ => exact .refl _
    | error report => exact fallBack_agrees _

theorem awaitApps_agrees (apps : List String) :
    AgreeUntil NodeCall.RemovesPods (awaitApps c t apps).run
      (awaitApps { c with drain := o } t apps).run := by
  induction apps with
  | nil => exact .refl _
  | cons app rest ih =>
    refine RunStep.agreeUntil_bind (.refl _) fun reply => ?_
    cases reply with
    | ok _ => exact ih
    | error report => exact .refl _

theorem evictComponents_agrees :
    AgreeUntil NodeCall.RemovesPods (evictComponents c t).run
      (evictComponents { c with drain := o } t).run := by
  refine RunStep.agreeUntil_bind (.refl _) fun memory => ?_
  exact RunStep.agreeUntil_bind (.refl _) fun _ => awaitApps_agrees _

theorem awaitMofed_agrees (budget : Option Duration) :
    AgreeUntil NodeCall.RemovesPods (awaitMofed c t budget looks).run
      (awaitMofed { c with drain := o } t budget looks).run := by
  induction looks generalizing budget with
  | zero => exact .refl _
  | succ looks ih =>
    refine RunStep.agreeUntil_bind (.refl _) fun ready => ?_
    cases ready with
    | true => exact .refl _
    | false =>
      by_cases hspent : budget.any (·.isZero) = true
      · simp only [hspent]
        exact .refl _
      · simp only [hspent]
        exact RunStep.agreeUntil_bind (.refl _) fun _ => ih _

theorem awaitRdma_agrees :
    AgreeUntil NodeCall.RemovesPods (awaitRdma c t looks).run
      (awaitRdma { c with drain := o } t looks).run := by
  rw [awaitRdma, awaitRdma]
  by_cases henabled : c.gpuDirectRdmaEnabled = true
  · rw [if_pos henabled, if_pos henabled]
    refine RunStep.agreeUntil_bind (.refl _) fun present => ?_
    cases present with
    | true => exact awaitMofed_agrees _
    | false => exact .refl _
  · rw [if_neg henabled, if_neg henabled]
    exact .refl _

theorem reschedule_agrees :
    AgreeUntil NodeCall.RemovesPods (reschedule c) (reschedule { c with drain := o }) := by
  refine Process.agreeUntil_bind (.refl _) fun memory => ?_
  cases memory.cordoned with
  | false => exact .refl _
  | true =>
    refine Process.agreeUntil_bind (.refl _) fun reply => ?_
    cases reply with
    | ok _ => exact .refl _
    | error report => exact .refl _

theorem removeDriver_agrees :
    AgreeUntil NodeCall.RemovesPods (removeDriver c t looks).run
      (removeDriver { c with drain := o } t looks).run := by
  rw [removeDriver_eq, removeDriver_eq]
  refine RunStep.agreeUntil_bind evictComponents_agrees fun _ => ?_
  refine RunStep.agreeUntil_bind (.refl _) fun _ => ?_
  refine RunStep.agreeUntil_bind clearGpuPods_agrees fun _ => ?_
  refine RunStep.agreeUntil_bind (.refl _) fun _ => ?_
  refine RunStep.agreeUntil_bind unloadDriver_agrees fun _ => ?_
  refine RunStep.agreeUntil_bind (.refl _) fun _ => ?_
  refine RunStep.agreeUntil_bind (.refl _) fun _ => ?_
  refine RunStep.agreeUntil_bind (.refl _) fun _ => ?_
  exact RunStep.agreeUntil_bind awaitRdma_agrees fun _ => .refl _

theorem handOver_agrees :
    AgreeUntil NodeCall.RemovesPods (handOver c t looks)
      (handOver { c with drain := o } t looks) := by
  rw [handOver_eq, handOver_eq]
  refine Process.agreeUntil_bind (.refl _) fun _ => ?_
  refine Process.agreeUntil_bind removeDriver_agrees fun _ => ?_
  exact Process.agreeUntil_bind reschedule_agrees fun _ => .refl _

/-- Two runs with different drain options agree until pods are removed. -/
theorem uninstall_agrees :
    AgreeUntil NodeCall.RemovesPods (uninstall c t looks)
      (uninstall { c with drain := o } t looks) := by
  rw [uninstall_eq, uninstall_eq]
  refine Process.agreeUntil_bind (.refl _) fun version => ?_
  cases version with
  | some version =>
    rw [if_pos Option.isSome_some, if_pos Option.isSome_some]
    exact .refl _
  | none =>
    rw [if_neg (by simp), if_neg (by simp)]
    refine Process.agreeUntil_bind (.refl _) fun _ => ?_
    refine Process.agreeUntil_bind (.refl _) fun skip => ?_
    cases skip with
    | true =>
      rw [if_pos rfl, if_pos rfl]
      exact .refl _
    | false =>
      rw [if_neg Bool.false_ne_true, if_neg Bool.false_ne_true]
      refine Process.agreeUntil_bind (.refl _) fun fetched => ?_
      cases fetched with
      | error report => exact .refl _
      | ok _ => exact handOver_agrees

end Agreement

end Uninstall

theorem timesMade_append (kind : CallKind) (past later : NodeHistory) :
    timesMade kind (past ++ later) = timesMade kind past + timesMade kind later :=
  List.countP_append

theorem timesMade_eq_zero_of_not_inspects (h : ∀ e ∈ past, ¬e.1.Inspects) :
    timesMade .nodeAnnotations past = 0 := by
  rw [timesMade, List.countP_eq_zero]
  intro e he hmade
  have hcall := h e he
  obtain ⟨call, reply⟩ := e
  cases call with
  | nodeAnnotations => exact hcall trivial
  | _ => simp [NodeCall.kind?] at hmade

theorem SkipCheck.annotations_unread {checks : NodeHistory} {skip : Bool}
    (h : SkipCheck c checks skip) : timesMade .nodeAnnotations (preamble ++ checks) = 0 := by
  cases h with
  | _ => rfl

/-- The annotations of the node are read once at most. -/
theorem Course.annotations_read_once
    {result : Option (Except (Report UninstallError) UninstallOutcome)}
    (h : Course c history result) : timesMade .nodeAnnotations history ≤ 1 := by
  cases h with
  | refused version reply hrest =>
    have hzero := timesMade_eq_zero_of_not_inspects fun e he => (hrest e he).2.2
    exact Nat.le_trans (Nat.le_of_eq hzero) (Nat.zero_le 1)
  | skipped hcheck | labelsUnread _ hcheck =>
    rw [timesMade_append, hcheck.annotations_unread]
    exact Nat.zero_le 1
  | annotationsUnread labels report hcheck =>
    rw [timesMade_append, hcheck.annotations_unread]
    exact Nat.le_refl 1
  | handedOver labels annotations hcheck hrest =>
    rw [timesMade_append, hcheck.annotations_unread, timesMade_append,
      timesMade_eq_zero_of_not_inspects hrest]
    exact Nat.le_refl 1

/-- Whatever the process keeps from earlier runs and whatever the replies are: GPU pods are evicted
only if that is enabled, and the node is drained only if that is, and it is cordoned only if one of
the two is. Neither is enabled by its setting alone but by the annotations that this run has read
before the call, and it reads them once at most. If both are ruled out, the run does the same,
reply by reply, with any other drain options. -/
theorem pods_removed_only_by_policy
    {result : Option (Except (Report UninstallError) UninstallOutcome)}
    (hrun : (uninstall c t looks).Runs memory history result after) :
    (∀ before e rest, history = before ++ e :: rest → Permitted c before e.1) ∧
      timesMade .nodeAnnotations history ≤ 1 ∧
      (¬Enabled c (c.enableGpuPodEviction || c.enableAutoDrain) history →
        ∀ o, (uninstall { c with drain := o } t looks).Runs memory history result after) := by
  have hpermitted : ∀ before e rest, history = before ++ e :: rest → Permitted c before e.1 := by
    intro before e rest hsplit
    obtain ⟨_, hcall⟩ := (uninstall_permitted.ensures.of_runs hrun).1 before e rest hsplit
    exact hcall
  refine ⟨hpermitted, ?_, fun hruledOut o => ?_⟩
  · obtain ⟨rest, _, _, hends⟩ := hrun.completed
    have honce := (uninstall_course hends).annotations_read_once
    rw [timesMade_append] at honce
    exact Nat.le_trans (Nat.le_add_right _ _) honce
  · refine uninstall_agrees.runs hrun fun e he hremoves => hruledOut ?_
    obtain ⟨before, rest, rfl⟩ := List.append_of_mem he
    refine NodeCall.enabled_of_removesPods hremoves (hpermitted before e rest rfl) fun f hf => ?_
    exact List.mem_append_left _ hf

/-- Whether a read of annotations says that others drain the node for an upgrade. -/
def leavesUpgrade : NodeExchange → Bool
  | ⟨.nodeAnnotations _, .ok annotations⟩ => annotations.get? upgradePolicyKey == some "true"
  | _ => true

/-- A process that has removed pods from the node in one run does not do so in the next one, in
which the node is annotated, and so does not use its drain options. -/
theorem annotated_node_keeps_pods :
    ∃ memory history after, memory.components.upgradesExternally = false ∧
      (uninstall .thorough .default 2).Runs memory history (some (.ok .completed)) after ∧
        (∀ before e rest, history = before ++ e :: rest → Permitted .thorough before e.1) ∧
        timesMade .nodeAnnotations history = 1 ∧
        ∀ o, (uninstall { Config.thorough with drain := o } .default 2).Runs memory history
          (some (.ok .completed)) after := by
  let p := uninstall .thorough .default 2
  let memory := (p.run Rehearsal.reply Memory.fresh (.smooth .loaded)).2.1
  let annotated : NodeState :=
    { NodeState.loaded with annotations := LabelMap.ofList [(upgradePolicyKey, "true")] }
  let history := p.history Rehearsal.reply memory (.smooth annotated)
  have hrun := Process.runs_history Rehearsal.reply p memory (.smooth annotated)
  have hresult : (p.run Rehearsal.reply memory (.smooth annotated)).1 = some (.ok .completed) :=
    eq_some_ok_of_outcome? (by decide +kernel)
  have hleft : ∀ e ∈ history, leavesUpgrade e = true := by decide +kernel
  rw [hresult] at hrun
  obtain ⟨hpermitted, -, hsame⟩ := pods_removed_only_by_policy hrun
  refine ⟨memory, history, _, by decide +kernel, hrun, hpermitted, by decide +kernel,
    hsame ?_⟩
  rintro ⟨-, annotations, hread, hpolicy⟩
  exact hpolicy (eq_of_beq (hleft _ hread))

end DriverHandover
