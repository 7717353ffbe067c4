import DriverHandover.Proofs.Uninstall.Completion
import DriverHandover.Proofs.Uninstall.SideBySide

/-!
# Why a run has failed

A run that fails after it has read its node names the step that it could not get over, and if that
step was a call, the report of the call is below the error of the run. What a fallback has made good
is not named, and what comes of giving the node back is not either. There is one exception: where
the eviction of the GPU pods fails and the node must not be drained, the report of the eviction is
lost.

## Main definitions

* `Fault` – the calls that a run cannot get over, with the report that it ends with.
* `Traced` – the last call of a run, but for those that give the node back, is the fault.

## Main statements

* `root_cause_surfaces` – how a run fails, whatever comes of giving the node back.
* `eviction_report_lost` – the exception.
-/

namespace DriverHandover

open Uninstall

/-- Whether a run may drain the node. -/
def drainsNode (c : Config) (s : ComponentState) : Bool :=
  c.enableAutoDrain && !s.upgradesExternally

/-- A call that a run cannot get over, with the report that the run ends with. -/
inductive Fault (c : Config) (t : Timings) (s : ComponentState) :
    NodeExchange → Report UninstallError → Prop where
  | pause (report : Report ClusterError) :
      Fault c t s ⟨.updateLabels c.nodeName s.pausedLabels, .error report⟩
        (report.under .componentEvictionFailed)
  | wait (app : String) (report : Report ClusterError) :
      Fault c t s
        ⟨.awaitPodsGone ("app=" ++ app) c.operatorNamespace c.nodeName t.componentGrace,
          .error report⟩
        ((report.under .componentEvictionFailed).note (app ++ " did not shut down"))
  | cordon (report : Report ClusterError) :
      Fault c t s ⟨.cordon c.nodeName, .error report⟩ (report.under .cordonFailed)
  /-- The eviction failed or was not complete, and the node must not be drained. Either way there is
  no report below the error. -/
  | eviction (reply : Except (Report ClusterError) EvictionReport) :
      (∀ report, reply = .ok report → report.isComplete = false) → drainsNode c s = false →
        Fault c t s ⟨.evictGpuPods c.nodeName c.drain, reply⟩ (Report.of .gpuPodsRemaining)
  | drain (report : Report ClusterError) :
      Fault c t s ⟨.drain c.nodeName c.drain, .error report⟩ (report.under .drainFailed)
  | cleanup (report : Report HostError) :
      Fault c t s ⟨.cleanupDriver, .error report⟩ (report.under .cleanupFailed)
  | unbind (report : Report HostError) :
      Fault c t s ⟨.unbindVfio, .error report⟩ (report.under .vfioUnbindFailed)
  | mofed :
      Fault c t s ⟨.mofedReady c.useHostMofed, false⟩
        ((Report.of .mofedWaitFailed).note ("not ready after " ++ budgetText t.mofedTimeout))
  | nouveau (report : Report HostError) :
      Fault c t s ⟨.unloadNouveau, .error report⟩ (report.under .nouveauUnloadFailed)

/-- The fault is the last call of a history, but for those that are left when a run has failed. -/
def Traced (c : Config) (t : Timings) (s : ComponentState) (report : Report UninstallError)
    (past : NodeHistory) : Prop :=
  ∃ before e, Fault c t s e report ∧ Continues NodeCall.Unwinds (before ++ [e]) past

variable {c : Config} {t : Timings} {looks : Nat} {memory after after' : Memory}
variable {s : ComponentState} {past later : NodeHistory} {report : Report UninstallError}

theorem Fault.traced {e : NodeExchange} (h : Fault c t s e report) (past : NodeHistory) :
    Traced c t s report (past ++ [e]) :=
  ⟨past, e, h, Continues.refl _⟩

theorem Traced.continues (h : Traced c t s report past)
    (hlater : Continues NodeCall.Unwinds past later) : Traced c t s report later := by
  obtain ⟨before, e, hfault, hpast⟩ := h
  exact ⟨before, e, hfault, hpast.trans hlater⟩

/-- A step that leaves the captured values alone, and if it fails, names its last call. -/
def Blames {α : Type} (c : Config) (t : Timings) (step : RunStep α) : Prop :=
  ∀ memory past, RunStep.Guarantees (fun _ _ _ => True)
    (fun _ after _ => after.components = memory.components)
    (fun report after later => after.components = memory.components ∧
      Traced c t memory.components report later)
    step memory past

section Rules

variable {α β ε : Type}

theorem blames_bind {step : RunStep β} {next : β → RunStep α} (hstep : Blames c t step)
    (hnext : ∀ b, Blames c t (next b)) : Blames c t (step >>= next) := by
  intro memory past
  rw [RunStep.guarantees_bind]
  refine (hstep memory past).imp (fun b after later hkeeps => ?_) fun _ _ _ h => h
  have h := hnext b after later
  rw [hkeeps] at h
  exact h

theorem blames_pure (a : α) : Blames c t (pure a) :=
  fun _ _ => rfl

/-- What cannot fail names nothing. -/
theorem blames_lift {p : NodeProcess α} (hp : Keeping Memory.components (fun _ => True) p) :
    Blames c t (liftM p) := by
  intro memory past
  rw [RunStep.guarantees_lift]
  exact (hp memory past).mono (fun _ _ _ _ => trivial) fun _ _ _ h => h.1

theorem blames_attempt [Cause ε] {error : UninstallError}
    {call : NodeProcess (Except (Report ε) α)}
    (h : ∀ memory past, call.Guarantees (fun _ _ _ => True)
      (fun reply after later => after.components = memory.components ∧
        ∀ report, reply = .error report → Traced c t memory.components (report.under error) later)
      memory past) :
    Blames c t (attempt error call) := by
  intro memory past
  rw [RunStep.guarantees_attempt]
  refine (h memory past).imp fun reply after later hreply => ?_
  cases reply with
  | ok a => exact hreply.1
  | error report => exact ⟨hreply.1, hreply.2 report rfl⟩

end Rules

namespace Uninstall

theorem awaitApps_blames (apps : List String) : Blames c t (awaitApps c t apps) := by
  induction apps with
  | nil => exact blames_pure ()
  | cons app rest ih =>
    intro memory past
    rw [awaitApps, RunStep.guarantees_bind, RunStep.guarantees_ask]
    refine ⟨trivial, fun reply => ?_⟩
    cases reply with
    | ok _ => exact ih memory _
    | error report => exact ⟨rfl, (Fault.wait app report).traced past⟩

theorem evictComponents_blames : Blames c t (evictComponents c t) := by
  intro memory past
  rw [evictComponents, RunStep.guarantees_bind, RunStep.guarantees_get, RunStep.guarantees_bind,
    RunStep.guarantees_attempt]
  refine ⟨trivial, fun reply => ?_⟩
  cases reply with
  | ok _ => exact awaitApps_blames _ memory _
  | error report => exact ⟨rfl, (Fault.pause report).traced past⟩

theorem cordon_blames : Blames c t (cordon c) := by
  refine blames_bind (blames_attempt fun _ past => ⟨trivial, fun reply => ⟨rfl, ?_⟩⟩) fun _ => ?_
  · rintro report rfl
    exact (Fault.cordon report).traced past
  · exact fun _ _ => rfl

theorem drainNode_blames : Blames c t (drainNode c) := by
  have hdrain : Blames c t (attempt .drainFailed (ask (.drain c.nodeName c.drain))) := by
    refine blames_attempt fun _ past => ⟨trivial, fun reply => ⟨rfl, ?_⟩⟩
    rintro report rfl
    exact (Fault.drain report).traced past
  refine blames_bind (fun _ _ => rfl) fun memory => ?_
  split
  · exact blames_bind cordon_blames fun _ => hdrain
  · exact hdrain

theorem cleanup_blames : Blames c t cleanup := by
  refine blames_attempt fun _ past => ⟨trivial, fun reply => ⟨rfl, ?_⟩⟩
  rintro report rfl
  exact (Fault.cleanup report).traced past

/-- The fallback names the step that it was made for, where the node must not be drained, and what
it fails at itself otherwise. -/
theorem fallBack_guarantees
    (hlast : drainsNode c memory.components = false → Traced c t memory.components report past) :
    RunStep.Guarantees (fun _ _ _ => True)
      (fun _ after _ => after.components = memory.components)
      (fun report after later => after.components = memory.components ∧
        Traced c t memory.components report later)
      (fallBack c report) memory past := by
  rw [fallBack, RunStep.guarantees_bind, RunStep.guarantees_lift]
  show RunStep.Guarantees _ _ _ (if drainsNode c memory.components = true then _ else _) _ _
  cases hdrains : drainsNode c memory.components with
  | true => exact blames_bind drainNode_blames (fun _ => cleanup_blames) memory past
  | false => exact ⟨rfl, hlast hdrains⟩

theorem evictGpuPods_blames : Blames c t (evictGpuPods c) := by
  intro memory past
  rw [evictGpuPods, RunStep.guarantees_bind, RunStep.guarantees_ask]
  refine ⟨trivial, fun reply => ?_⟩
  cases reply with
  | error report =>
    refine fallBack_guarantees fun hdrains => (Fault.eviction _ ?_ hdrains).traced past
    rintro _ ⟨⟩
  | ok report =>
    cases hcomplete : report.isComplete with
    | true =>
      simp only [hcomplete]
      exact rfl
    | false =>
      simp only [hcomplete]
      refine fallBack_guarantees fun hdrains => (Fault.eviction _ ?_ hdrains).traced past
      rintro _ ⟨⟩
      exact hcomplete

theorem clearGpuPods_blames : Blames c t (clearGpuPods c) := by
  refine blames_bind (blames_lift ?_) fun enabled => ?_
  · exact keeping_bind keeping_get fun _ => keeping_pure _
  · cases enabled with
    | true => exact blames_bind cordon_blames fun _ => evictGpuPods_blames
    | false => exact blames_pure ()

theorem cleanupDriver_blames : Blames c t (cleanupDriver c) := by
  intro memory past
  rw [cleanupDriver, RunStep.guarantees_bind, RunStep.guarantees_ask]
  refine ⟨trivial, fun reply => ?_⟩
  cases reply with
  | ok _ => exact rfl
  | error report => exact fallBack_guarantees fun _ => (Fault.cleanup report).traced past

theorem unloadDriver_blames : Blames c t (unloadDriver c) := by
  refine blames_bind (blames_lift (keeping_ask trivial)) fun loaded => ?_
  cases loaded with
  | true => exact cleanupDriver_blames
  | false => exact blames_pure ()

theorem awaitMofed_blames (budget : Option Duration) (looks : Nat) :
    Blames c t (awaitMofed c t budget looks) := by
  induction looks generalizing budget with
  | zero => exact fun _ _ => trivial
  | succ looks ih =>
    intro memory past
    rw [awaitMofed, RunStep.guarantees_bind, RunStep.guarantees_ask]
    refine ⟨trivial, fun ready => ?_⟩
    cases ready with
    | true => exact rfl
    | false =>
      by_cases hspent : budget.any (·.isZero) = true
      · simp only [hspent]
        exact ⟨rfl, Fault.mofed.traced past⟩
      · simp only [hspent]
        exact ⟨trivial, fun _ => ih _ memory _⟩

theorem awaitRdma_blames : Blames c t (awaitRdma c t looks) := by
  rw [awaitRdma]
  split
  · refine blames_bind (blames_lift (keeping_ask trivial)) fun present => ?_
    cases present with
    | true => exact awaitMofed_blames _ _
    | false => exact blames_pure ()
  · exact blames_pure ()

theorem removeDriver_blames : Blames c t (removeDriver c t looks) := by
  have henter : ∀ stage, Blames c t (liftM (enter stage) : RunStep Unit) := fun stage =>
    blames_lift (keeping_enter (fun _ _ => rfl) trivial)
  rw [removeDriver_eq]
  refine blames_bind evictComponents_blames fun _ => ?_
  refine blames_bind (henter _) fun _ => blames_bind clearGpuPods_blames fun _ => ?_
  refine blames_bind (henter _) fun _ => blames_bind unloadDriver_blames fun _ => ?_
  refine blames_bind (henter _) fun _ => blames_bind (blames_attempt ?_) fun _ => ?_
  · refine fun _ past => ⟨trivial, fun reply => ⟨rfl, ?_⟩⟩
    rintro report rfl
    exact (Fault.unbind report).traced past
  · exact blames_bind (henter _) fun _ => blames_bind awaitRdma_blames fun _ => henter _

theorem unloadNouveau_blames : Blames c t unloadNouveau := by
  refine blames_bind (blames_lift (keeping_ask trivial)) fun loaded => ?_
  cases loaded with
  | true =>
    refine blames_attempt fun _ past => ⟨trivial, fun reply => ⟨rfl, ?_⟩⟩
    rintro report rfl
    exact (Fault.nouveau report).traced past
  | false => exact blames_pure ()

theorem finish_traced {result : Except (Report UninstallError) UninstallOutcome}
    (hfailed : ∀ report, result = .error report → Traced c t memory.components report past) :
    (finish result).Guarantees (fun _ _ _ => True)
      (fun result after later =>
        ∀ report, result = .error report → Traced c t after.components report later)
      memory past := by
  refine finish_guarantees.2 ⟨trivial, fun _ report hreport => ?_⟩
  refine (hfailed report hreport).continues (Continues.one _ ?_)
  rw [hreport]
  rfl

theorem conclude_traced {removed : Except (Report UninstallError) Unit}
    (hfailed : ∀ report, removed = .error report → Traced c t memory.components report past) :
    (conclude removed).Guarantees (fun _ _ _ => True)
      (fun result after later =>
        ∀ report, result = .error report → Traced c t after.components report later)
      memory past := by
  cases removed with
  | error report =>
    change (finish (.error report)).Guarantees _ _ memory past
    refine finish_traced ?_
    rintro _ ⟨⟩
    exact hfailed report rfl
  | ok _ =>
    rw [conclude, Process.guarantees_bind, guarantees_enter]
    refine ⟨trivial, fun _ => ?_⟩
    rw [Process.guarantees_bind]
    refine Process.Guarantees.imp (unloadNouveau_blames (c := c) (t := t) _ _) ?_
    rintro unloaded after later hunloaded
    refine finish_traced fun report hreport => ?_
    cases unloaded with
    | ok _ => cases hreport
    | error found =>
      cases hreport
      rw [hunloaded.1]
      exact hunloaded.2

/-- Giving the node back comes between the fault and the end of a run. -/
theorem handOver_traced :
    (handOver c t looks).Guarantees (fun _ _ _ => True)
      (fun result after later =>
        ∀ report, result = .error report → Traced c t after.components report later)
      memory past := by
  rw [handOver_eq, Process.guarantees_bind, guarantees_enter]
  refine ⟨trivial, fun _ => ?_⟩
  rw [Process.guarantees_bind]
  refine Process.Guarantees.imp (removeDriver_blames (c := c) (t := t) _ _) ?_
  rintro removed memory past hremoved
  rw [Process.guarantees_bind]
  refine (reschedule_keeping memory past).mono (fun _ _ _ _ => trivial) ?_
  rintro _ after later ⟨hkeeps, hgiven⟩
  refine conclude_traced fun report hreport => ?_
  cases hreport
  obtain ⟨hkept, htraced⟩ := hremoved
  rw [hkeeps, hkept]
  exact htraced.continues (hgiven.mono fun _ h => h.unwinds)

end Uninstall

/-- A run that fails after it has read its node names the call that it could not get over. -/
theorem uninstall_traced :
    (uninstall c t looks).Guarantees (fun _ _ _ => True)
      (fun result after past => ∀ report, result = .error report →
        ⟨.enter .labelsFetched, ()⟩ ∈ past → Traced c t after.components report past)
      memory [] := by
  refine uninstall_guarantees (fun _ _ _ _ _ _ => trivial) ?_ ?_
  · intro result after past hend report _ hread
    exact absurd rfl (hend.declines _ hread)
  · intro kept before labels annotations _ _ _
    exact handOver_traced.imp fun _ _ _ h report hreport _ => h report hreport

/-- Two runs of a process in which only the calls that give the node back fare differently make the
same calls, so that they enter the same stages, and come to the same result. A run that fails after
it has read its node ends with the report that goes with the last call before the node is given
back. -/
theorem root_cause_surfaces {history history' : NodeHistory}
    {result result' : Option (Except (Report UninstallError) UninstallOutcome)}
    (hends : (uninstall c t looks).Ends memory history result after)
    (hends' : (uninstall c t looks).Ends memory history' result' after')
    (hsame : Process.SameReplies NodeCall.RollsBack [] history history') :
    history.map (·.1) = history'.map (·.1) ∧ result = result' ∧
      ∀ report, result = some (.error report) → ⟨.enter .labelsFetched, ()⟩ ∈ history →
        Traced c t after.components report history := by
  obtain ⟨hcalls, hresults⟩ := uninstall_coupled.ends hends hends' hsame
  refine ⟨hcalls, ?_, fun report hreport hread => ?_⟩
  · rcases hresults with ⟨rfl, rfl⟩ | ⟨ended, ended', rfl, rfl, hequal⟩
    · rfl
    · exact congrArg some hequal
  · exact (uninstall_traced.ensures.of_runs hends.runs).2 _ hreport report rfl hread

/-- The driver cannot be removed, not even after a drain. In the second of the two runs the node
cannot be given back either. -/
theorem cleanup_failure_surfaces :
    ∃ history history' report after after',
      (uninstall .thorough .default 2).Ends Memory.fresh history (some (.error report)) after ∧
        (uninstall .thorough .default 2).Ends Memory.fresh history' (some (.error report)) after' ∧
        Process.SameReplies NodeCall.RollsBack [] history history' ∧
        after.cordoned = false ∧ after'.cordoned = true ∧
        history.map (·.1) = history'.map (·.1) ∧
        Traced .thorough .default after.components report history := by
  let p := uninstall .thorough .default 2
  let fails (kinds : List CallKind) (kind : CallKind) : List Nat :=
    if kind ∈ kinds then [1, 2] else []
  let r : Rehearsal := { Rehearsal.smooth NodeState.loaded with script := fails [.cleanupDriver] }
  let r' : Rehearsal :=
    { Rehearsal.smooth NodeState.loaded with script := fails [.cleanupDriver, .uncordon] }
  have hresult : (p.run Rehearsal.reply Memory.fresh r).1 =
      some (.error ((Report.of HostError.modulesInUse).under .cleanupFailed)) := by rfl
  have hresult' : (p.run Rehearsal.reply Memory.fresh r').1 =
      some (.error ((Report.of HostError.modulesInUse).under .cleanupFailed)) := by rfl
  let history := p.history Rehearsal.reply Memory.fresh r
  let history' := p.history Rehearsal.reply Memory.fresh r'
  -- the runs are the same until they open the node, with the last call but two
  have hlast : Process.SameReplies NodeCall.RollsBack ([] ++ (history.take 20).map (·.1))
      (history.drop 20) (history'.drop 20) :=
    fun _ => ⟨fun hforced => absurd trivial hforced,
      fun _ => ⟨fun _ => rfl, fun _ => ⟨fun _ => rfl, trivial⟩⟩⟩
  have hsame : Process.SameReplies NodeCall.RollsBack [] history history' :=
    Process.sameReplies_append hlast
  have hrun := Process.runs_history Rehearsal.reply p Memory.fresh r
  have hrun' := Process.runs_history Rehearsal.reply p Memory.fresh r'
  rw [hresult] at hrun
  rw [hresult'] at hrun'
  obtain ⟨hcalls, -, htraced⟩ := root_cause_surfaces hrun.ends hrun'.ends hsame
  have hread : ⟨.enter .labelsFetched, ()⟩ ∈ history := enter_mem (by decide +kernel)
  exact ⟨_, _, _, _, _, hrun.ends, hrun'.ends, hsame, by decide +kernel, by decide +kernel, hcalls,
    htraced _ rfl hread⟩

/-- Where the node must not be drained, the report of an eviction that failed is not below the error
that the run ends with. -/
theorem eviction_report_lost :
    ¬ ∀ (c : Config) (t : Timings) (looks : Nat) (memory after : Memory) (history : NodeHistory)
      (found : Report ClusterError) (report : Report UninstallError),
      (uninstall c t looks).Ends memory history (some (.error report)) after →
      c.enableAutoDrain = false → ⟨.evictGpuPods c.nodeName c.drain, .error found⟩ ∈ history →
      report = found.under .gpuPodsRemaining := by
  intro h
  let c : Config := { Config.thorough with enableAutoDrain := false }
  let p := uninstall c .default 2
  have hrun := Process.runs_history Rehearsal.reply p Memory.fresh (.failing .evictGpuPods)
  have hresult : (p.run Rehearsal.reply Memory.fresh (.failing .evictGpuPods)).1 =
      some (.error (Report.of .gpuPodsRemaining)) := by
    rfl
  rw [hresult] at hrun
  have hfailed : ⟨.evictGpuPods c.nodeName c.drain,
      .error (Report.of (.podListFailed Rehearsal.scripted))⟩ ∈
        p.history Rehearsal.reply Memory.fresh (.failing .evictGpuPods) :=
    List.mem_of_getElem? (show (p.history Rehearsal.reply Memory.fresh
      (.failing .evictGpuPods))[14]? = _ from rfl)
  exact absurd (h _ _ _ _ _ _ _ _ hrun.ends rfl hfailed) (by decide +kernel)

end DriverHandover
