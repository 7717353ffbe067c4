import DriverHandover.Proofs.Uninstall.Phases

/-!
# The driver is touched on a quiet node only

Before a run removes the driver or rebinds its devices, everything that could use a GPU has left the
node: the components are paused and their pods are gone, and where the run evicts GPU pods the node
is cordoned and they have been evicted or the node has been drained.

## Main definitions

* `Quiesced` – the calls that make a node quiet have been made, in their order.
* `Guarded` – the calls that touch the driver are made on a quiet node.

## Main statements

* `driver_touched_only_when_quiesced` – every run keeps to this order, whatever the replies.
-/

namespace DriverHandover

open Uninstall
open scoped List

/-- The successful wait for the pods of a component. -/
def appGone (c : Config) (t : Timings) (app : String) : NodeExchange :=
  ⟨.awaitPodsGone ("app=" ++ app) c.operatorNamespace c.nodeName t.componentGrace, .ok ()⟩

/-- The components paused and their pods gone, in shutdown order. -/
def pausing (c : Config) (t : Timings) (s : ComponentState) : NodeHistory :=
  ⟨.updateLabels c.nodeName s.pausedLabels, .ok ()⟩ :: s.awaitedApps.map (appGone c t)

/-- The GPU pods are gone: all of them were evicted, or the node was drained. -/
def PodsGone (c : Config) (e : NodeExchange) : Prop :=
  (∃ report : EvictionReport,
    report.isComplete = true ∧ e = ⟨.evictGpuPods c.nodeName c.drain, .ok report⟩) ∨
  e = ⟨.drain c.nodeName c.drain, .ok ()⟩

/-- Whether a run evicts GPU pods. -/
def evictsGpuPods (c : Config) (s : ComponentState) : Bool :=
  c.enableGpuPodEviction && !s.upgradesExternally

/-- What a run that evicts GPU pods does to be rid of them. -/
def clearing (c : Config) (s : ComponentState) (gone : NodeExchange) : NodeHistory :=
  if evictsGpuPods c s then [⟨.cordon c.nodeName, .ok ()⟩, gone] else []

/-- The node has been read, its components have been paused, their pods have left it and, where the
run evicts GPU pods, so have these: all of it successfully and in this order. -/
def Quiesced (c : Config) (t : Timings) (past : NodeHistory) : Prop :=
  ∃ labels annotations gone, PodsGone c gone ∧
    (reads c labels annotations ++ pausing c t (stateRead c labels annotations) ++
      clearing c (stateRead c labels annotations) gone) <+ past

/-- The last attempt to remove the driver succeeded. -/
def LastCleanupSucceeded (past : NodeHistory) : Prop :=
  ∃ before after, past = before ++ ⟨.cleanupDriver, .ok ()⟩ :: after ∧
    ∀ e ∈ after, e.1 ≠ .cleanupDriver

/-- The devices may be rebound: the node was quiet and after that the driver was found not loaded,
or else its removal succeeded in the end. -/
def DriverGone (c : Config) (t : Timings) (past : NodeHistory) : Prop :=
  ∃ before after, past = before ++ after ∧ Quiesced c t before ∧
    (⟨.moduleLoaded baseModule, false⟩ ∈ after ∨ LastCleanupSucceeded past)

/-- The driver is removed on a quiet node only, and the devices are rebound when it is gone. -/
def Guarded (c : Config) (t : Timings) (past : NodeHistory) : NodeCall → Prop
  | .cleanupDriver => Quiesced c t past
  | .unbindVfio => DriverGone c t past
  | _ => True

variable {c : Config} {t : Timings} {memory : Memory} {past later prior : NodeHistory}

/-- Calls of a class that does not touch the driver are always allowed. -/
theorem guarded_of {calls : NodeCall → Prop} (hcleanup : ¬calls .cleanupDriver)
    (hunbind : ¬calls .unbindVfio) {call : NodeCall} (h : calls call) : Guarded c t past call := by
  cases call with
  | cleanupDriver => exact absurd h hcleanup
  | unbindVfio => exact absurd h hunbind
  | _ => trivial

theorem Quiesced.mono (h : Quiesced c t past) (hsub : past <+ later) : Quiesced c t later := by
  obtain ⟨labels, annotations, gone, hgone, hpast⟩ := h
  exact ⟨labels, annotations, gone, hgone, hpast.trans hsub⟩

theorem Quiesced.append (h : Quiesced c t past) (new : NodeHistory) :
    Quiesced c t (past ++ new) :=
  h.mono (List.sublist_append_left past new)

/-- An exchange that comes after others stays behind them. -/
theorem sublist_concat (h : prior <+ past) (e : NodeExchange) : prior ++ [e] <+ past ++ [e] :=
  h.append (List.Sublist.refl [e])

theorem sublist_skip (h : prior <+ past) (e : NodeExchange) : prior <+ past ++ [e] :=
  h.trans (List.sublist_append_left past [e])

theorem lastCleanupSucceeded_concat (past : NodeHistory) :
    LastCleanupSucceeded (past ++ [⟨.cleanupDriver, .ok ()⟩]) :=
  ⟨past, [], rfl, fun e he => by cases he⟩

theorem LastCleanupSucceeded.concat (h : LastCleanupSucceeded past) {e : NodeExchange}
    (he : e.1 ≠ .cleanupDriver) : LastCleanupSucceeded (past ++ [e]) := by
  obtain ⟨before, after, rfl, hafter⟩ := h
  refine ⟨before, after ++ [e], by simp, fun f hf => ?_⟩
  rcases List.mem_append.1 hf with hf | hf
  · exact hafter f hf
  · exact List.mem_singleton.1 hf ▸ he

theorem DriverGone.concat (h : DriverGone c t past) {e : NodeExchange}
    (he : e.1 ≠ .cleanupDriver) : DriverGone c t (past ++ [e]) := by
  obtain ⟨before, after, rfl, hquiet, hgone⟩ := h
  refine ⟨before, after ++ [e], List.append_assoc before after [e], hquiet, ?_⟩
  rcases hgone with hunloaded | hcleaned
  · exact .inl (List.mem_append_left [e] hunloaded)
  · exact .inr (hcleaned.concat he)

namespace Uninstall

theorem awaitApps_quiescence (c : Config) (t : Timings) (memory : Memory) (apps : List String)
    (hprior : prior <+ past) :
    RunStep.Ensures (Guarded c t)
      (fun _ after past => after = memory ∧ prior ++ apps.map (appGone c t) <+ past)
      (fun _ _ _ => True) (awaitApps c t apps) memory past := by
  induction apps generalizing prior past with
  | nil =>
    rw [awaitApps, RunStep.ensures_pure, List.map_nil, List.append_nil]
    exact ⟨rfl, hprior⟩
  | cons app rest ih =>
    rw [awaitApps, RunStep.ensures_bind, RunStep.ensures_ask]
    refine ⟨trivial, fun reply => ?_⟩
    cases reply with
    | error report => trivial
    | ok gone =>
      have hrest := ih (sublist_concat hprior (appGone c t app))
      rw [List.append_assoc] at hrest
      exact hrest

theorem evictComponents_quiescence (hprior : prior <+ past) :
    RunStep.Ensures (Guarded c t)
      (fun _ after past => after = memory ∧ prior ++ pausing c t memory.components <+ past)
      (fun _ _ _ => True) (evictComponents c t) memory past := by
  rw [evictComponents, RunStep.ensures_bind, RunStep.ensures_get, RunStep.ensures_bind,
    RunStep.ensures_attempt]
  refine ⟨trivial, fun reply => ?_⟩
  cases reply with
  | error report => trivial
  | ok _ =>
    have happs := awaitApps_quiescence c t memory memory.components.awaitedApps
      (sublist_concat hprior ⟨.updateLabels c.nodeName memory.components.pausedLabels, .ok ()⟩)
    rw [List.append_assoc] at happs
    exact happs

theorem cordon_quiescence (hprior : prior <+ past) :
    RunStep.Ensures (Guarded c t)
      (fun _ after past => after.components = memory.components ∧
        prior ++ [⟨.cordon c.nodeName, .ok ()⟩] <+ past)
      (fun _ _ _ => True) (cordon c) memory past := by
  rw [cordon, RunStep.ensures_bind, RunStep.ensures_attempt]
  refine ⟨trivial, fun reply => ?_⟩
  cases reply with
  | error report => trivial
  | ok _ => exact ⟨rfl, sublist_concat hprior _⟩

theorem drainNode_quiescence (hprior : prior <+ past) :
    RunStep.Ensures (Guarded c t)
      (fun _ after past => after.components = memory.components ∧
        prior ++ [⟨.drain c.nodeName c.drain, .ok ()⟩] <+ past)
      (fun _ _ _ => True) (drainNode c) memory past := by
  have hdrain : ∀ (after : Memory) (past : NodeHistory),
      after.components = memory.components → prior <+ past →
      RunStep.Ensures (Guarded c t)
        (fun _ after past => after.components = memory.components ∧
          prior ++ [⟨.drain c.nodeName c.drain, .ok ()⟩] <+ past)
        (fun _ _ _ => True) (attempt .drainFailed (ask (.drain c.nodeName c.drain)))
        after past := by
    intro after past hkeeps hprior
    rw [RunStep.ensures_attempt]
    refine ⟨trivial, fun reply => ?_⟩
    cases reply with
    | error report => trivial
    | ok _ => exact ⟨hkeeps, sublist_concat hprior _⟩
  rw [drainNode, RunStep.ensures_bind, RunStep.ensures_get]
  cases memory.cordoned with
  | true => exact hdrain memory past rfl hprior
  | false =>
    refine RunStep.ensures_bind.2 ((cordon_quiescence hprior).imp ?_ fun _ _ _ h => h)
    rintro _ after past ⟨hkeeps, hcordoned⟩
    exact hdrain after past hkeeps ((List.sublist_append_left prior _).trans hcordoned)

theorem cleanup_quiescence (hquiet : Quiesced c t past) :
    RunStep.Ensures (Guarded c t)
      (fun _ after past => after.components = memory.components ∧ Quiesced c t past ∧
        LastCleanupSucceeded past)
      (fun _ _ _ => True) cleanup memory past := by
  rw [cleanup, RunStep.ensures_attempt]
  refine ⟨hquiet, fun reply => ?_⟩
  cases reply with
  | error report => trivial
  | ok _ => exact ⟨rfl, hquiet.append _, lastCleanupSucceeded_concat past⟩

/-- The fallback removes the driver only after a drain that makes the node quiet. -/
theorem fallBack_quiescence (report : Report UninstallError) (hprior : prior <+ past)
    (hquiet : ∀ later, prior ++ [⟨.drain c.nodeName c.drain, .ok ()⟩] <+ later →
      Quiesced c t later) :
    RunStep.Ensures (Guarded c t)
      (fun _ after past => after.components = memory.components ∧ Quiesced c t past ∧
        LastCleanupSucceeded past)
      (fun _ _ _ => True) (fallBack c report) memory past := by
  rw [fallBack, RunStep.ensures_bind, RunStep.ensures_lift, ensures_autoDrainEnabled]
  split
  · refine RunStep.ensures_bind.2 ((drainNode_quiescence hprior).imp ?_ fun _ _ _ h => h)
    rintro _ after past ⟨hkeeps, hdrained⟩
    refine (cleanup_quiescence (hquiet past hdrained)).imp ?_ fun _ _ _ h => h
    rintro _ after' past ⟨hkeeps', hend⟩
    exact ⟨hkeeps'.trans hkeeps, hend⟩
  · trivial

/-- However the GPU pods are removed, the node is quiet after that. -/
theorem evictGpuPods_quiescence (hprior : prior <+ past)
    (hquiet : ∀ gone later, PodsGone c gone → prior ++ [gone] <+ later → Quiesced c t later) :
    RunStep.Ensures (Guarded c t)
      (fun _ after past => after.components = memory.components ∧ Quiesced c t past)
      (fun _ _ _ => True) (evictGpuPods c) memory past := by
  rw [evictGpuPods, RunStep.ensures_bind, RunStep.ensures_ask]
  refine ⟨trivial, fun reply => ?_⟩
  -- an incomplete eviction and one that failed take the same way out
  have hfallBack : RunStep.Ensures (Guarded c t)
      (fun _ after past => after.components = memory.components ∧ Quiesced c t past)
      (fun _ _ _ => True) (fallBack c (Report.of .gpuPodsRemaining)) memory
      (past ++ [⟨.evictGpuPods c.nodeName c.drain, reply⟩]) := by
    refine (fallBack_quiescence _ (sublist_skip hprior _) fun later hlater => ?_).imp
      (fun _ _ _ h => ⟨h.1, h.2.1⟩) fun _ _ _ h => h
    exact hquiet _ later (.inr rfl) hlater
  cases reply with
  | error report => exact hfallBack
  | ok report =>
    cases hcomplete : report.isComplete with
    | false =>
      simp only [hcomplete]
      exact hfallBack
    | true =>
      simp only [hcomplete]
      exact ⟨rfl, hquiet _ _ (.inl ⟨report, hcomplete, rfl⟩) (sublist_concat hprior _)⟩

theorem cleanupDriver_quiescence (hquiet : Quiesced c t past) :
    RunStep.Ensures (Guarded c t)
      (fun _ after past => after.components = memory.components ∧ Quiesced c t past ∧
        LastCleanupSucceeded past)
      (fun _ _ _ => True) (cleanupDriver c) memory past := by
  rw [cleanupDriver, RunStep.ensures_bind, RunStep.ensures_ask]
  refine ⟨hquiet, fun reply => ?_⟩
  cases reply with
  | ok _ => exact ⟨rfl, hquiet.append _, lastCleanupSucceeded_concat past⟩
  | error report =>
    -- the node was quiet before the first try and stays so
    obtain ⟨labels, annotations, gone, hgone, hpast⟩ := hquiet
    refine fallBack_quiescence _ (sublist_skip hpast _) fun later hlater => ?_
    exact ⟨labels, annotations, gone, hgone, (List.sublist_append_left _ _).trans hlater⟩

theorem clearGpuPods_quiescence {labels annotations : LabelMap}
    (hstate : memory.components = stateRead c labels annotations)
    (hpaused : reads c labels annotations ++ pausing c t (stateRead c labels annotations) <+ past) :
    RunStep.Ensures (Guarded c t) (fun _ _ past => Quiesced c t past) (fun _ _ _ => True)
      (clearGpuPods c) memory past := by
  rw [clearGpuPods, RunStep.ensures_bind, RunStep.ensures_lift, ensures_gpuPodEvictionEnabled,
    hstate, ← evictsGpuPods]
  cases hevicts : evictsGpuPods c (stateRead c labels annotations) with
  | false =>
    rw [if_neg Bool.false_ne_true]
    refine ⟨labels, annotations, _, .inr rfl, ?_⟩
    rw [clearing, hevicts, if_neg Bool.false_ne_true, List.append_nil]
    exact hpaused
  | true =>
    rw [if_pos rfl]
    refine RunStep.ensures_bind.2 ((cordon_quiescence hpaused).imp ?_ fun _ _ _ h => h)
    rintro _ after past ⟨-, hcordoned⟩
    refine (evictGpuPods_quiescence hcordoned fun gone later hgone hlater => ?_).imp
      (fun _ _ _ h => h.2) fun _ _ _ h => h
    refine ⟨labels, annotations, gone, hgone, ?_⟩
    rw [clearing, hevicts, if_pos rfl, List.append_cons]
    exact hlater

theorem unloadDriver_quiescence (hquiet : Quiesced c t past) :
    RunStep.Ensures (Guarded c t) (fun _ _ past => DriverGone c t past) (fun _ _ _ => True)
      (unloadDriver c) memory past := by
  rw [unloadDriver, RunStep.ensures_bind, RunStep.ensures_lift]
  refine ⟨trivial, fun loaded => ?_⟩
  cases loaded with
  | false => exact ⟨past, _, rfl, hquiet, .inl (List.mem_singleton.2 rfl)⟩
  | true =>
    rw [Process.ensures_done, if_pos rfl]
    refine (cleanupDriver_quiescence (hquiet.append _)).imp ?_ fun _ _ _ h => h
    rintro _ after past ⟨-, hquiet, hcleaned⟩
    exact ⟨past, [], (List.append_nil past).symm, hquiet, .inr hcleaned⟩

theorem removeDriver_quiescence {labels annotations : LabelMap} {looks : Nat}
    (hstate : memory.components = stateRead c labels annotations)
    (hread : reads c labels annotations <+ past) :
    RunStep.Ensures (Guarded c t) (fun _ _ past => ⟨.unbindVfio, .ok ()⟩ ∈ past)
      (fun _ _ _ => True) (removeDriver c t looks) memory past := by
  rw [removeDriver_eq, RunStep.ensures_bind]
  refine (evictComponents_quiescence hread).imp ?_ fun _ _ _ h => h
  rintro _ after past ⟨rfl, hpaused⟩
  rw [afterEviction, RunStep.ensures_bind, RunStep.ensures_lift, ensures_enter]
  refine ⟨trivial, fun _ => ?_⟩
  rw [RunStep.ensures_bind]
  -- the phases from here on, each with what the one before has established
  refine (clearGpuPods_quiescence ?_ (hstate ▸ sublist_skip hpaused _)).imp ?_ fun _ _ _ h => h
  · exact hstate
  rintro _ after past hquiet
  rw [RunStep.ensures_bind, RunStep.ensures_lift, ensures_enter]
  refine ⟨trivial, fun _ => ?_⟩
  rw [RunStep.ensures_bind]
  refine (unloadDriver_quiescence (hquiet.append _)).imp ?_ fun _ _ _ h => h
  rintro _ after past hgone
  rw [RunStep.ensures_bind, RunStep.ensures_lift, ensures_enter]
  refine ⟨trivial, fun _ => ?_⟩
  rw [RunStep.ensures_bind, RunStep.ensures_attempt]
  refine ⟨hgone.concat (by simp), fun reply => ?_⟩
  cases reply with
  | error report => trivial
  | ok _ =>
    rw [Process.ensures_done]
    dsimp only
    rw [RunStep.ensures_bind, RunStep.ensures_lift, ensures_enter]
    refine ⟨trivial, fun _ => ?_⟩
    rw [RunStep.ensures_bind]
    refine (awaitRdma_keeping.confined.ensures_step
      (fun past call h => guarded_of id id h) _ _).imp ?_ fun _ _ _ _ => trivial
    -- the wait for MOFED only adds to the history, so the exchange stays in it
    rintro _ after later ⟨-, hwaited⟩
    rw [RunStep.ensures_lift, ensures_enter]
    refine ⟨trivial, fun _ => ?_⟩
    have hunbound : (⟨.unbindVfio, .ok ()⟩ : NodeExchange) ∈ later :=
      hwaited.mem (List.mem_append_left _ (List.mem_concat_self))
    exact List.mem_append_left _ hunbound

theorem handOver_quiescence {labels annotations : LabelMap} {looks : Nat}
    (hstate : memory.components = stateRead c labels annotations)
    (hread : reads c labels annotations <+ past) :
    (handOver c t looks).Ensures (Guarded c t)
      (fun result _ past => result = .ok .completed → ⟨.unbindVfio, .ok ()⟩ ∈ past)
      memory past := by
  rw [handOver_eq, Process.ensures_bind, ensures_enter]
  refine ⟨trivial, fun _ => ?_⟩
  -- restoring the node comes after both ends of the removal, and touches nothing
  rw [Process.ensures_bind]
  refine Process.Ensures.imp (removeDriver_quiescence hstate (sublist_skip hread _)) ?_
  rintro removed memory past hremoved
  rw [Process.ensures_bind]
  refine (reschedule_keeping.confined.ensures (fun past call h => guarded_of id id h) _ _).imp ?_
  rintro _ memory later ⟨-, hgiven⟩
  cases removed with
  | error report =>
    rw [Process.ensures_iff_guarantees, conclude]
    exact finish_guarantees.2 ⟨trivial, fun _ h => by cases h⟩
  | ok _ =>
    have hunbound := hgiven.mem hremoved
    have hconclude : Keeping Memory.components NodeCall.Finishes (conclude (.ok ())) :=
      conclude_keeping (fun _ _ => rfl) _
    refine (hconclude.confined.ensures (fun past call h => guarded_of id id h) _ _).imp ?_
    rintro result _ last ⟨-, hlast⟩ -
    exact hlast.mem hunbound

end Uninstall

/-- The driver is removed from a quiet node only, its devices are rebound on a quiet node only and
when the driver is gone, and a run is completed only if they have been rebound: in every run of a
fresh process, whatever the replies are and wherever the run ends. -/
theorem driver_touched_only_when_quiesced {looks : Nat} {history : NodeHistory}
    {result : Option (Except (Report UninstallError) UninstallOutcome)} {after : Memory}
    (hrun : (uninstall c t looks).Runs Memory.fresh history result after) :
    (∀ before reply rest, history = before ++ ⟨.cleanupDriver, reply⟩ :: rest →
      Quiesced c t before) ∧
    (∀ before reply rest, history = before ++ ⟨.unbindVfio, reply⟩ :: rest →
      DriverGone c t before) ∧
    (result = some (.ok .completed) → ⟨.unbindVfio, .ok ()⟩ ∈ history) := by
  have hensures : (uninstall c t looks).Ensures (Guarded c t)
      (fun result _ past => result = .ok .completed → ⟨.unbindVfio, .ok ()⟩ ∈ past)
      Memory.fresh [] := by
    refine uninstall_ensures (fun past call h => guarded_of id id h) ?_ ?_
    · intro result _ past hresult _ _ hcompleted
      exact absurd hcompleted hresult
    · intro before labels annotations memory _ hstate
      exact handOver_quiescence hstate (List.sublist_append_right before _)
  obtain ⟨hcalls, hend⟩ := hensures.of_runs hrun
  refine ⟨fun before reply rest hsplit => ?_, fun before reply rest hsplit => ?_, fun hresult => ?_⟩
  · exact hcalls before _ rest hsplit
  · exact hcalls before _ rest hsplit
  · exact hend _ hresult rfl

theorem driver_touched_after_second_try :
    ∃ history after,
      (uninstall .thorough .default 2).Runs Memory.fresh history (some (.ok .completed)) after ∧
        (history.map (·.1)).count .cleanupDriver = 2 ∧
        (∀ before reply rest, history = before ++ ⟨.cleanupDriver, reply⟩ :: rest →
          Quiesced .thorough .default before) ∧
        (∀ before reply rest, history = before ++ ⟨.unbindVfio, reply⟩ :: rest →
          DriverGone .thorough .default before) ∧
        ⟨.unbindVfio, .ok ()⟩ ∈ history := by
  have hrun := Process.runs_history Rehearsal.reply (uninstall .thorough .default 2) Memory.fresh
    (Rehearsal.failing .cleanupDriver)
  obtain ⟨hcleanup, hunbind, hcompleted⟩ := driver_touched_only_when_quiesced hrun
  exact ⟨_, _, hrun, by decide +kernel, hcleanup, hunbind, hcompleted rfl⟩

end DriverHandover
