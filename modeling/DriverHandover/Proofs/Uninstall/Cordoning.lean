import DriverHandover.Proofs.Uninstall.Schedulability

/-!
# Cordoning the node

A process remembers whether it has cordoned its node. What it remembers is right at all times, so
that pods are removed from a cordoned node only, and a run cordons the node at most once. A run that
has read the node tries to open it again before it resumes the components.

## Main definitions

* `Disciplined` – what is required of the calls of a run.
* `Removing` – how a run stands until it gives the node back.
* `HandedBack` – how a run that has read its node has given it back.

## Main statements

* `Uninstall.uninstall_disciplined` – every run keeps to the discipline.
-/

namespace DriverHandover

open Uninstall

/-- What is required of a call: the process remembers whether the node is cordoned; no other node is
steered; the node is cordoned only if no call of this run has done so, and pods are removed from it
only while it is cordoned. -/
structure Disciplined (c : Config) (start : Bool) (memory : Memory) (past : NodeHistory)
    (call : NodeCall) : Prop where
  inStep : memory.cordoned = cordonedAfter c.nodeName start past
  ownNode : ∀ node, call.steeredNode? = some node → node = c.nodeName
  first : ∀ node, call = .cordon node → ∀ e ∈ past, hasCordoned c.nodeName e = false
  cordoned : call.RemovesPods → memory.cordoned = true

/-- How a run stands until it gives the node back: nothing has opened the node, and the process
remembers whether it is cordoned. -/
structure Removing (c : Config) (start : Bool) (memory : Memory) (past : NodeHistory) : Prop where
  inStep : memory.cordoned = cordonedAfter c.nodeName start past
  not_uncordons : ∀ e ∈ past, ¬e.1.Uncordons

/-- What a run does about the node before it resumes the components: it tries to open a cordoned
node, once. -/
def Opens (c : Config) : Bool → NodeHistory → Prop
  | true, opening => ∃ reply, opening = [⟨.uncordon c.nodeName, reply⟩]
  | false, opening => opening = []

/-- How a run has given the node back: it has tried to open the node if that was cordoned then, as
it still was if an earlier run had left it so, and resumed the components right after that, when
nothing was left to be done but to unload the driver that stands in. The node stays cordoned exactly
if it could not be opened. -/
def HandedBack (c : Config) (start : Bool) (after : Memory) (history : NodeHistory) : Prop :=
  ∃ before opening resumed rest,
    history = before ++ opening ++
      ⟨.updateLabels c.nodeName after.components.resumedLabels, resumed⟩ :: rest ∧
    (∀ e ∈ before ++ rest, ¬e.1.Uncordons) ∧ (∀ e ∈ rest, e.1.Finishes) ∧
    (start = true → cordonedAfter c.nodeName start before = true) ∧
    Opens c (cordonedAfter c.nodeName start before) opening ∧
    (after.cordoned = true ↔ ∃ report, opening = [⟨.uncordon c.nodeName, .error report⟩])

variable {c : Config} {t : Timings} {start : Bool} {memory kept : Memory}
variable {past later : NodeHistory} {e : NodeExchange} {calls : NodeCall → Prop}

theorem disciplined_of_not_steers (h : memory.cordoned = cordonedAfter c.nodeName start past)
    {call : NodeCall} (hcall : ¬call.Steers) : Disciplined c start memory past call := by
  cases call with
  | cordon node => exact absurd trivial hcall
  | uncordon node => exact absurd trivial hcall
  | drain node o => exact absurd trivial hcall
  | evictGpuPods node o => exact absurd trivial hcall
  | _ => exact ⟨h, nofun, nofun, False.elim⟩

/-- A run that has not yet steered anything has found the node as it is. -/
theorem removing_of_not_steers (hflag : memory.cordoned = start)
    (hpast : ∀ e ∈ past, ¬e.1.Steers) : Removing c start memory past := by
  have hall : Continues (¬NodeCall.Steers ·) [] past := Continues.nil_iff.2 hpast
  refine ⟨?_, fun e he => NodeCall.not_uncordons_of_not_steers (hpast e he)⟩
  rw [hall.cordonedAfter_eq]
  exact hflag

theorem disciplined_enter (h : memory.cordoned = cordonedAfter c.nodeName start past)
    {stage : Stage} : Disciplined c start { memory with stage } past (.enter stage) :=
  ⟨h, nofun, nofun, False.elim⟩

/-- A call on the node itself. -/
theorem ownNode_of_eq {call : NodeCall} (h : call.steeredNode? = some c.nodeName) :
    ∀ node, call.steeredNode? = some node → node = c.nodeName :=
  fun _ hnode => Option.some.inj (hnode.symm.trans h)

namespace Removing

theorem continues (h : Removing c start memory past) (hkept : kept.cordoned = memory.cordoned)
    (hlater : Continues (¬NodeCall.Steers ·) past later) : Removing c start kept later := by
  refine ⟨?_, hlater.forall_mem h.not_uncordons fun _ h => ?_⟩
  · rw [hkept, h.inStep, hlater.cordonedAfter_eq]
  · exact NodeCall.not_uncordons_of_not_steers h

/-- Calls that have not changed whether the node is cordoned, and could not open it. -/
theorem concat (h : Removing c start memory past) (he : ¬e.1.Uncordons)
    (hchange : cordonChange c.nodeName e = none) : Removing c start memory (past ++ [e]) := by
  refine ⟨?_, List.forall_mem_append.2 ⟨h.not_uncordons, List.forall_mem_singleton.2 he⟩⟩
  rw [cordonedAfter_concat, hchange]
  exact h.inStep

theorem cordon (h : Removing c start memory past) :
    Removing c start { memory with cordoned := true } (past ++ [⟨.cordon c.nodeName, .ok ()⟩]) := by
  refine ⟨?_, List.forall_mem_append.2 ⟨h.not_uncordons, List.forall_mem_singleton.2 id⟩⟩
  rw [cordonedAfter_concat, cordonChange, if_pos rfl]
  rfl

/-- As long as the node is open, no call of the run has cordoned it. -/
theorem hasCordoned_eq_false (h : Removing c start memory past) (hopen : memory.cordoned = false) :
    ∀ e ∈ past, hasCordoned c.nodeName e = false := by
  have hflag := h.inStep
  rw [hopen, cordonedAfter_of_not_uncordons h.not_uncordons] at hflag
  have hany := (Bool.or_eq_false_iff.1 hflag.symm).2
  simpa using List.any_eq_false.1 hany

end Removing

theorem HandedBack.continues (h : HandedBack c start memory past)
    (hcomponents : kept.components = memory.components) (hkept : kept.cordoned = memory.cordoned)
    (hlater : Continues NodeCall.Finishes past later) : HandedBack c start kept later := by
  obtain ⟨before, opening, resumed, rest, rfl, hquiet, hfinishes, hheld, hopens, hcordoned⟩ := h
  obtain ⟨new, rfl, hnew⟩ := hlater
  refine ⟨before, opening, resumed, rest ++ new, ?_, ?_,
    List.forall_mem_append.2 ⟨hfinishes, hnew⟩, hheld, hopens, hkept ▸ hcordoned⟩
  · rw [hcomponents, List.append_assoc, List.cons_append]
  · rw [← List.append_assoc]
    refine List.forall_mem_append.2 ⟨hquiet, fun e he => ?_⟩
    exact NodeCall.not_uncordons_of_not_steers (hnew e he).not_steers

/-- A part of a run that keeps to the discipline and leaves the node to be given back. -/
def Careful {α : Type} (c : Config) (start : Bool) (p : NodeProcess α) : Prop :=
  ∀ memory past, Removing c start memory past →
    p.Guarantees (Disciplined c start) (fun _ => Removing c start) memory past

theorem Keeping.careful {α : Type} {p : NodeProcess α} (hp : Keeping Memory.cordoned calls p)
    (hcalls : ∀ call, calls call → ¬call.Steers) : Careful c start p := by
  intro memory past h
  refine (hp memory past).mono ?_ ?_
  · rintro kept later call ⟨hcall, hkept, hlater⟩
    exact disciplined_of_not_steers (h.continues hkept (hlater.mono hcalls)).inStep
      (hcalls call hcall)
  · rintro a after later ⟨hkept, hlater⟩
    exact h.continues hkept (hlater.mono hcalls)

theorem RunStep.careful_bind {α β : Type} {step : RunStep β} {next : β → RunStep α}
    (hstep : Careful c start step.run) (hnext : ∀ b, Careful c start (next b).run) :
    Careful c start (step >>= next).run := by
  intro memory past h
  change Process.Guarantees _ _ (step.run >>= _) memory past
  rw [Process.guarantees_bind]
  refine (hstep memory past h).imp fun result memory past h => ?_
  cases result with
  | ok b => exact hnext b memory past h
  | error report => exact h

namespace Uninstall

theorem cordon_guarantees (h : Removing c start memory past)
    (hfirst : ∀ e ∈ past, hasCordoned c.nodeName e = false) :
    RunStep.Guarantees (Disciplined c start)
      (fun _ after later => Removing c start after later ∧ after.cordoned = true)
      (fun _ after later => Removing c start after later) (cordon c) memory past := by
  rw [cordon, RunStep.guarantees_bind, RunStep.guarantees_attempt]
  refine ⟨⟨h.inStep, ownNode_of_eq rfl, fun _ _ => hfirst, False.elim⟩, fun reply => ?_⟩
  cases reply with
  | error report => exact h.concat id rfl
  | ok _ => exact ⟨h.cordon, rfl⟩

theorem drainNode_careful : Careful c start (drainNode c).run := by
  intro memory past h
  have hdrain : ∀ memory past, Removing c start memory past → memory.cordoned = true →
      RunStep.Guarantees (Disciplined c start) (fun _ => Removing c start)
        (fun _ => Removing c start) (attempt .drainFailed (ask (.drain c.nodeName c.drain)))
        memory past := by
    intro memory past h hcordoned
    rw [RunStep.guarantees_attempt]
    refine ⟨⟨h.inStep, ownNode_of_eq rfl, nofun, fun _ => hcordoned⟩,
      fun reply => ?_⟩
    cases reply with
    | error report => exact h.concat id rfl
    | ok _ => exact h.concat id rfl
  rw [RunStep.guarantees_run_iff, drainNode, RunStep.guarantees_bind, RunStep.guarantees_get]
  cases hflag : memory.cordoned with
  | true => exact hdrain memory past h hflag
  | false =>
    have hfirst := h.hasCordoned_eq_false hflag
    refine RunStep.guarantees_bind.2 ((cordon_guarantees h hfirst).imp ?_ ?_)
    · rintro _ after later ⟨h, hcordoned⟩
      exact hdrain after later h hcordoned
    · exact fun _ _ _ h => h

/-- Looking into the memory steers nothing. -/
theorem enabled_careful {p : NodeProcess Bool} (hp : Keeping Memory.cordoned (fun _ => False) p) :
    Careful c start (liftM p : RunStep Bool).run :=
  (RunStep.keeping_lift hp).careful fun _ h => h.elim

theorem cleanup_careful : Careful c start cleanup.run := by
  have hcleanup : Keeping Memory.cordoned (¬NodeCall.Steers ·) cleanup.run := cleanup_keeping id
  exact hcleanup.careful fun _ h => h

theorem fallBack_careful (report : Report UninstallError) :
    Careful c start (fallBack c report).run := by
  refine RunStep.careful_bind (enabled_careful ?_) fun enabled => ?_
  · exact keeping_bind keeping_get fun _ => keeping_pure _
  · cases enabled with
    | true => exact RunStep.careful_bind drainNode_careful fun _ => cleanup_careful
    | false => exact fun memory past h => h

/-- The GPU pods are evicted while the node is cordoned. -/
theorem evictGpuPods_guarantees (h : Removing c start memory past)
    (hcordoned : memory.cordoned = true) :
    RunStep.Guarantees (Disciplined c start) (fun _ => Removing c start)
      (fun _ => Removing c start) (evictGpuPods c) memory past := by
  rw [evictGpuPods, RunStep.guarantees_bind, RunStep.guarantees_ask]
  refine ⟨⟨h.inStep, ownNode_of_eq rfl, nofun, fun _ => hcordoned⟩,
    fun reply => ?_⟩
  have hevicted : Removing c start memory (past ++ [⟨.evictGpuPods c.nodeName c.drain, reply⟩]) :=
    h.concat id rfl
  have hfallBack := RunStep.guarantees_run_iff.1
    (fallBack_careful (Report.of .gpuPodsRemaining) memory _ hevicted)
  cases reply with
  | error report => exact hfallBack
  | ok report =>
    cases hcomplete : report.isComplete with
    | false =>
      simp only [hcomplete]
      exact hfallBack
    | true =>
      simp only [hcomplete]
      exact hevicted

theorem cleanupDriver_careful : Careful c start (cleanupDriver c).run := by
  have hask : Keeping Memory.cordoned (¬NodeCall.Steers ·) (ask .cleanupDriver) := keeping_ask id
  refine RunStep.careful_bind ((RunStep.keeping_lift hask).careful fun _ h => h) fun reply => ?_
  cases reply with
  | ok _ => exact fun memory past h => h
  | error report => exact fallBack_careful _

theorem unloadDriver_careful : Careful c start (unloadDriver c).run := by
  have hask : Keeping Memory.cordoned (¬NodeCall.Steers ·) driverLoaded := keeping_ask id
  refine RunStep.careful_bind ((RunStep.keeping_lift hask).careful fun _ h => h) fun loaded => ?_
  cases loaded with
  | true => exact cleanupDriver_careful
  | false => exact fun memory past h => h

/-- The node is cordoned for the eviction also if it has been since an earlier run. -/
theorem clearGpuPods_guarantees (h : Removing c start memory past)
    (hfirst : ∀ e ∈ past, hasCordoned c.nodeName e = false) :
    RunStep.Guarantees (Disciplined c start) (fun _ => Removing c start)
      (fun _ => Removing c start) (clearGpuPods c) memory past := by
  rw [clearGpuPods, RunStep.guarantees_bind, RunStep.guarantees_lift,
    guarantees_gpuPodEvictionEnabled]
  split
  · refine RunStep.guarantees_bind.2 ((cordon_guarantees h hfirst).imp ?_ fun _ _ _ h => h)
    rintro _ after later ⟨h, hcordoned⟩
    exact evictGpuPods_guarantees h hcordoned
  · exact h

theorem enter_careful (stage : Stage) :
    Careful c start (liftM (enter stage) : RunStep Unit).run := by
  have henter : Keeping Memory.cordoned (¬NodeCall.Steers ·) (enter stage) :=
    keeping_enter (fun _ _ => rfl) id
  exact (RunStep.keeping_lift henter).careful fun _ h => h

theorem afterEviction_guarantees {looks : Nat} (h : Removing c start memory past)
    (hfirst : ∀ e ∈ past, hasCordoned c.nodeName e = false) :
    RunStep.Guarantees (Disciplined c start) (fun _ => Removing c start)
      (fun _ => Removing c start) (afterEviction c t looks) memory past := by
  rw [afterEviction, RunStep.guarantees_bind, RunStep.guarantees_lift, guarantees_enter]
  have hentered : Removing c start { memory with stage := .componentsEvicted }
      (past ++ [⟨.enter .componentsEvicted, ()⟩]) :=
    h.continues rfl (Continues.one past id)
  have hfirst' : ∀ e ∈ past ++ [⟨.enter .componentsEvicted, ()⟩],
      hasCordoned c.nodeName e = false :=
    List.forall_mem_append.2 ⟨hfirst, List.forall_mem_singleton.2 rfl⟩
  refine ⟨disciplined_enter h.inStep, fun _ => ?_⟩
  rw [RunStep.guarantees_bind]
  refine (clearGpuPods_guarantees hentered hfirst').imp ?_ fun _ _ _ h => h
  -- whether the node is cordoned makes no difference from here on
  have hrest : Careful c start (do
      enter .podsDrained
      unloadDriver c
      enter .modulesUnloaded
      attempt .vfioUnbindFailed (ask .unbindVfio)
      enter .devicesRebound
      awaitRdma c t looks
      enter .rdmaWaited : RunStep Unit).run := by
    have hunbind : Keeping Memory.cordoned (¬NodeCall.Steers ·)
        (attempt .vfioUnbindFailed (ask .unbindVfio)).run :=
      RunStep.keeping_attempt (keeping_ask id)
    refine RunStep.careful_bind (enter_careful _) fun _ => ?_
    refine RunStep.careful_bind unloadDriver_careful fun _ => ?_
    refine RunStep.careful_bind (enter_careful _) fun _ => ?_
    refine RunStep.careful_bind (hunbind.careful fun _ h => h) fun _ => ?_
    refine RunStep.careful_bind (enter_careful _) fun _ => ?_
    refine RunStep.careful_bind (awaitRdma_keeping.careful fun _ h => h.not_steers) fun _ => ?_
    exact enter_careful _
  intro _ after later h
  exact RunStep.guarantees_run_iff.1 (hrest after later h)

theorem removeDriver_guarantees {looks : Nat} (hflag : memory.cordoned = start)
    (hpast : ∀ e ∈ past, ¬e.1.Steers) :
    RunStep.Guarantees (Disciplined c start) (fun _ => Removing c start)
      (fun _ => Removing c start) (removeDriver c t looks) memory past := by
  have h : Removing c start memory past := removing_of_not_steers hflag hpast
  rw [removeDriver_eq, RunStep.guarantees_bind]
  have hevict : Keeping Memory.cordoned (¬NodeCall.Steers ·) (evictComponents c t).run :=
    evictComponents_keeping (fun _ => id) fun _ h => h.not_steers
  refine Process.Guarantees.mono (hevict memory past) ?_ ?_
  · rintro kept later call ⟨hcall, hkept, hlater⟩
    exact disciplined_of_not_steers (h.continues hkept hlater).inStep hcall
  rintro result after later ⟨hkept, hlater⟩
  have hevicted : Removing c start after later := h.continues hkept hlater
  cases result with
  | error report => exact hevicted
  | ok _ =>
    refine afterEviction_guarantees hevicted fun e he => hasCordoned_of_not_steers ?_
    exact hlater.forall_mem hpast (fun _ h => h) e he

theorem reschedule_guarantees (h : Removing c start memory past) :
    (reschedule c).Guarantees (Disciplined c start)
      (fun _ after later => after.cordoned = cordonedAfter c.nodeName start later ∧
        HandedBack c start after later) memory past := by
  -- however the node was opened, the components are resumed right after that
  have hresume : ∀ (memory : Memory) (opening : NodeHistory),
      memory.cordoned = cordonedAfter c.nodeName start (past ++ opening) →
      Opens c (cordonedAfter c.nodeName start past) opening →
      (memory.cordoned = true ↔ ∃ report, opening = [⟨.uncordon c.nodeName, .error report⟩]) →
      Process.Guarantees (Disciplined c start)
        (fun _ after later => after.cordoned = cordonedAfter c.nodeName start later ∧
          HandedBack c start after later)
        (do
          let components := (← get).components
          let _ ← ask (.updateLabels c.nodeName components.resumedLabels))
        memory (past ++ opening) := by
    intro memory opening hinStep hopens hcordoned
    rw [Process.guarantees_bind, Process.guarantees_get]
    dsimp only
    rw [Process.guarantees_bind]
    refine ⟨disciplined_of_not_steers hinStep id, fun reply => ⟨?_, past, opening, reply, [], rfl,
      ?_, List.forall_mem_nil _, ?_, hopens, hcordoned⟩⟩
    · rw [cordonedAfter_concat]
      exact hinStep
    · rw [List.append_nil]
      exact h.not_uncordons
    · rintro rfl
      rw [cordonedAfter_of_not_uncordons h.not_uncordons]
      rfl
  rw [reschedule, Process.guarantees_bind, Process.guarantees_get]
  cases hflag : memory.cordoned with
  | false =>
    have hopens : Opens c (cordonedAfter c.nodeName start past) [] := by
      rw [← h.inStep, hflag]
      rfl
    have hinStep : memory.cordoned = cordonedAfter c.nodeName start (past ++ []) := by
      rw [List.append_nil]
      exact h.inStep
    have hnone := hresume memory [] hinStep hopens (by simp [hflag])
    rw [List.append_nil] at hnone
    exact hnone
  | true =>
    have hopens : ∀ reply, Opens c (cordonedAfter c.nodeName start past)
        [⟨.uncordon c.nodeName, reply⟩] := by
      intro reply
      rw [← h.inStep, hflag]
      exact ⟨reply, rfl⟩
    rw [if_pos rfl, Process.guarantees_bind]
    refine ⟨⟨h.inStep, ownNode_of_eq rfl, nofun, False.elim⟩, fun reply => ?_⟩
    cases reply with
    | ok _ =>
      refine hresume { memory with cordoned := false } _ ?_ (hopens _) (by simp)
      rw [cordonedAfter_concat, cordonChange, if_pos rfl]
      rfl
    | error report =>
      refine hresume memory _ ?_ (hopens _) (by simp [hflag])
      rw [cordonedAfter_concat]
      exact h.inStep

theorem handOver_guarantees {looks : Nat} (hflag : memory.cordoned = start)
    (hpast : ∀ e ∈ past, ¬e.1.Steers) :
    (handOver c t looks).Guarantees (Disciplined c start)
      (fun _ after later => after.cordoned = cordonedAfter c.nodeName start later ∧
        HandedBack c start after later) memory past := by
  have h : Removing c start memory past := removing_of_not_steers hflag hpast
  rw [handOver_eq, Process.guarantees_bind, guarantees_enter]
  refine ⟨disciplined_enter h.inStep, fun _ => ?_⟩
  rw [Process.guarantees_bind]
  have hentered : ∀ e ∈ past ++ [⟨.enter .labelsFetched, ()⟩], ¬e.1.Steers :=
    List.forall_mem_append.2 ⟨hpast, List.forall_mem_singleton.2 id⟩
  refine Process.Guarantees.imp (removeDriver_guarantees ?_ hentered) ?_
  · exact hflag
  rintro removed memory past hremoved
  -- the node is given back whether the driver could be removed or not
  have hremoving : Removing c start memory past := by
    cases removed with
    | ok _ => exact hremoved
    | error report => exact hremoved
  rw [Process.guarantees_bind]
  refine (reschedule_guarantees hremoving).imp ?_
  rintro _ memory past ⟨hinStep, hback⟩
  have hkeeps : ∀ {kept : Memory} {later : NodeHistory}, Continues NodeCall.Finishes past later →
      kept.cordoned = memory.cordoned → kept.cordoned = cordonedAfter c.nodeName start later := by
    intro kept later hlater hkept
    rw [hkept, hinStep, (hlater.mono fun _ h => h.not_steers).cordonedAfter_eq]
  have hconclude : Keeping (fun memory => (memory.components, memory.cordoned)) NodeCall.Finishes
      (conclude removed) := conclude_keeping (fun _ _ => rfl) removed
  refine (hconclude memory past).mono ?_ ?_
  · rintro kept later call ⟨hcall, hkept, hlater⟩
    exact disciplined_of_not_steers (hkeeps hlater (congrArg Prod.snd hkept)) hcall.not_steers
  · rintro _ after later ⟨hkept, hlater⟩
    exact ⟨hkeeps hlater (congrArg Prod.snd hkept),
      hback.continues (congrArg Prod.fst hkept) (congrArg Prod.snd hkept) hlater⟩

/-- Every run keeps to the discipline, and if it ends, the process remembers whether the node is
cordoned, and the run has ended early or given the node back. -/
theorem uninstall_disciplined {looks : Nat} :
    (uninstall c t looks).Guarantees (Disciplined c memory.cordoned)
      (fun result after past => after.cordoned = cordonedAfter c.nodeName memory.cordoned past ∧
        (EndsEarly c past result ∧ (∀ e ∈ past, e.1.Declines c) ∨
          HandedBack c memory.cordoned after past)) memory [] := by
  have hinStep : ∀ (kept : Memory) (past : NodeHistory), kept.cordoned = memory.cordoned →
      (∀ e ∈ past, e.1.Declines c) →
      kept.cordoned = cordonedAfter c.nodeName memory.cordoned past := by
    intro kept past hkept hdeclines
    exact (removing_of_not_steers hkept fun e he => (hdeclines e he).not_steers).inStep
  refine uninstall_guarantees ?_ ?_ ?_
  · intro kept past call hkept hdeclines hcall
    exact disciplined_of_not_steers (hinStep kept past hkept hdeclines) hcall.not_steers
  · intro result after past hend
    exact ⟨hinStep after past hend.cordoned hend.declines, .inl ⟨hend.endsEarly, hend.declines⟩⟩
  · intro kept before labels annotations hkept hlooks _
    have hreads : ∀ e ∈ reads c labels annotations, ¬e.1.Steers :=
      List.forall_mem_cons.2 ⟨id, List.forall_mem_singleton.2 id⟩
    have hquiet : ∀ e ∈ before ++ reads c labels annotations, ¬e.1.Steers :=
      List.forall_mem_append.2 ⟨fun e he => (hlooks e he).not_steers, hreads⟩
    exact (handOver_guarantees hkept hquiet).imp fun _ _ _ h => ⟨h.1, .inr h.2⟩

end Uninstall

end DriverHandover
