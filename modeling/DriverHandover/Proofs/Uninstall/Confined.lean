import DriverHandover.Proofs.Uninstall.Steps

/-!
# Parts of a run that keep to a class of calls

Most parts of an uninstall run make calls of a few kinds only and leave some of what the process
keeps alone, mostly the captured values.

## Main definitions

* `Continues` – a history goes on with calls of a class.
* `Keeping` – a part of a run makes calls of a class only, and keeps what a view shows of its
  memory; `Confined` for the captured values.
* `NodeCall.Looks`, `NodeCall.Declines`, `NodeCall.Awaits`, `NodeCall.Polls`, `NodeCall.Vacates`,
  `NodeCall.Clears`, `NodeCall.GivesBack`, `NodeCall.Finishes`, `NodeCall.Unwinds` – the classes.
* `Uninstall.fallBack` – what two steps of a run do when they fail.

## Main statements

* `keeping_bind`, `RunStep.keeping_bind` – two parts one after the other.
-/

namespace DriverHandover

namespace NodeCall

/-- Calls that change nothing, before the node has been read. -/
def Looks : NodeCall → Prop
  | .hostDriverVersion | .driverVersion | .moduleLoaded _ | .nodeLabels _ | .nodeAnnotations _ =>
    True
  | .enter stage => stage ≠ .labelsFetched
  | _ => False

/-- Calls of a run that ends before it has read its node: besides looking around it marks a node
with a driver of its own. -/
def Declines (c : Config) : NodeCall → Prop
  | .updateLabels node labels =>
    node = c.nodeName ∧ labels = LabelMap.ofList [(driverLabelKey, driverPreinstalled)]
  | .sleep _ => True
  | call => call.Looks

/-- Calls of a wait for pods. -/
def Awaits : NodeCall → Prop
  | .awaitPodsGone _ _ _ _ => True
  | _ => False

/-- Calls of a wait for MOFED. -/
def Polls : NodeCall → Prop
  | .rdmaPresent | .mofedReady _ | .sleep _ => True
  | _ => False

/-- Calls that take GPU pods and driver away from a node. -/
def Vacates : NodeCall → Prop
  | .cordon _ | .drain _ _ | .evictGpuPods _ _ | .moduleLoaded _ | .cleanupDriver => True
  | _ => False

/-- Calls that take pods, driver and devices away from a node whose components are paused. -/
def Clears : NodeCall → Prop
  | .awaitPodsGone _ _ _ _ | .cordon _ | .drain _ _ | .evictGpuPods _ _ | .cleanupDriver
  | .unbindVfio | .moduleLoaded _ | .rdmaPresent | .mofedReady _ | .sleep _ | .enter _ => True
  | _ => False

/-- Calls that give the node back to the scheduler. -/
def GivesBack : NodeCall → Prop
  | .uncordon _ | .updateLabels _ _ => True
  | _ => False

/-- Calls that are left when the labels are restored. -/
def Finishes : NodeCall → Prop
  | .moduleLoaded module => module = nouveauModule
  | .unloadNouveau | .enter _ => True
  | _ => False

/-- Calls that are left when a run has failed. -/
def Unwinds : NodeCall → Prop
  | .uncordon _ | .updateLabels _ _ => True
  | .enter stage => stage = .failed
  | _ => False

theorem Looks.declines {c : Config} {call : NodeCall} (h : call.Looks) : call.Declines c := by
  cases call with
  | updateLabels => cases h
  | sleep => trivial
  | _ => exact h

theorem Awaits.clears {call : NodeCall} (h : call.Awaits) : call.Clears := by
  cases call with
  | awaitPodsGone => trivial
  | _ => cases h

theorem Polls.clears {call : NodeCall} (h : call.Polls) : call.Clears := by
  cases call with
  | rdmaPresent | mofedReady | sleep => trivial
  | _ => cases h

theorem Vacates.clears {call : NodeCall} (h : call.Vacates) : call.Clears := by
  cases call with
  | cordon | drain | evictGpuPods | moduleLoaded | cleanupDriver => trivial
  | _ => cases h

theorem GivesBack.unwinds {call : NodeCall} (h : call.GivesBack) : call.Unwinds := by
  cases call with
  | uncordon | updateLabels => trivial
  | _ => cases h

end NodeCall

/-- The history goes on with calls of a class. -/
def Continues (calls : NodeCall → Prop) (past later : NodeHistory) : Prop :=
  ∃ new, later = past ++ new ∧ ∀ e ∈ new, calls e.1

namespace Continues

variable {calls calls' : NodeCall → Prop} {past later latest : NodeHistory} {e : NodeExchange}

theorem refl (past : NodeHistory) : Continues calls past past :=
  ⟨[], (List.append_nil past).symm, fun e he => by cases he⟩

theorem one (past : NodeHistory) (h : calls e.1) : Continues calls past (past ++ [e]) :=
  ⟨[e], rfl, fun _ hf => List.mem_singleton.1 hf ▸ h⟩

theorem nil_iff : Continues calls [] later ↔ ∀ e ∈ later, calls e.1 :=
  ⟨fun ⟨_, hlater, hnew⟩ => hlater ▸ hnew, fun h => ⟨later, rfl, h⟩⟩

theorem trans (h : Continues calls past later) (h' : Continues calls later latest) :
    Continues calls past latest := by
  obtain ⟨new, rfl, hnew⟩ := h
  obtain ⟨new', rfl, hnew'⟩ := h'
  exact ⟨new ++ new', List.append_assoc past new new', List.forall_mem_append.2 ⟨hnew, hnew'⟩⟩

theorem mono (h : Continues calls past later) (hcalls : ∀ call, calls call → calls' call) :
    Continues calls' past later := by
  obtain ⟨new, hlater, hnew⟩ := h
  exact ⟨new, hlater, fun e he => hcalls e.1 (hnew e he)⟩

/-- What holds of all calls so far and of the class holds of all calls later. -/
theorem forall_mem {holds : NodeExchange → Prop} (h : Continues calls past later)
    (hpast : ∀ e ∈ past, holds e) (hcalls : ∀ e : NodeExchange, calls e.1 → holds e) :
    ∀ e ∈ later, holds e := by
  obtain ⟨new, rfl, hnew⟩ := h
  exact List.forall_mem_append.2 ⟨hpast, fun e he => hcalls e (hnew e he)⟩

theorem mem (h : Continues calls past later) (he : e ∈ past) : e ∈ later := by
  obtain ⟨new, rfl, -⟩ := h
  exact List.mem_append_left new he

end Continues

/-- Whatever the replies, the part of a run makes calls of a class only, and what is seen of its
memory stays the same throughout. -/
def Keeping {α γ : Type} (view : Memory → γ) (calls : NodeCall → Prop) (p : NodeProcess α) : Prop :=
  ∀ memory past, p.Guarantees
    (fun kept later call => calls call ∧ view kept = view memory ∧ Continues calls past later)
    (fun _ after later => view after = view memory ∧ Continues calls past later) memory past

/-- Whatever the replies, the part of a run makes calls of a class only, and leaves the captured
values alone. -/
def Confined {α : Type} (calls : NodeCall → Prop) (p : NodeProcess α) : Prop :=
  ∀ memory past, p.Ensures (fun _ call => calls call)
    (fun _ after later => after.components = memory.components ∧ Continues calls past later)
    memory past

section Rules

variable {α β γ ε : Type} {view : Memory → γ} {calls calls' : NodeCall → Prop}

theorem keeping_pure (a : α) : Keeping view calls (pure a) :=
  fun _ past => ⟨rfl, Continues.refl past⟩

theorem keeping_bind {p : NodeProcess β} {next : β → NodeProcess α} (hp : Keeping view calls p)
    (hnext : ∀ b, Keeping view calls (next b)) : Keeping view calls (p >>= next) := by
  intro memory past
  rw [Process.guarantees_bind]
  refine (hp memory past).imp fun b memory' past' h => ?_
  refine (hnext b memory' past').mono (fun kept later call hcall => ?_) fun a after later h' => ?_
  · exact ⟨hcall.1, hcall.2.1.trans h.1, h.2.trans hcall.2.2⟩
  · exact ⟨h'.1.trans h.1, h.2.trans h'.2⟩

theorem keeping_ask {call : NodeCall} (h : calls call) :
    Keeping view calls (Uninstall.ask call) :=
  fun _ past => ⟨⟨h, rfl, Continues.refl past⟩, fun _ => ⟨rfl, Continues.one past h⟩⟩

theorem keeping_get : Keeping view calls (get : NodeProcess Memory) :=
  fun _ past => ⟨rfl, Continues.refl past⟩

theorem keeping_modify {f : Memory → Memory} (h : ∀ memory, view (f memory) = view memory) :
    Keeping view calls (modify f : NodeProcess Unit) :=
  fun memory past => ⟨h memory, Continues.refl past⟩

theorem keeping_halt : Keeping view calls (.halt : NodeProcess α) :=
  fun _ _ => trivial

theorem Keeping.mono {p : NodeProcess α} (hp : Keeping view calls p)
    (hcalls : ∀ call, calls call → calls' call) : Keeping view calls' p := by
  intro memory past
  refine (hp memory past).mono (fun kept later call h => ?_) fun a after later h => ?_
  · exact ⟨hcalls call h.1, h.2.1, h.2.2.mono hcalls⟩
  · exact ⟨h.1, h.2.mono hcalls⟩

/-- What is seen through a view that is kept is kept as well. -/
theorem Keeping.comp {δ : Type} {p : NodeProcess α} (hp : Keeping view calls p) (f : γ → δ) :
    Keeping (fun memory => f (view memory)) calls p := by
  intro memory past
  refine (hp memory past).mono (fun kept later call h => ?_) fun a after later h => ?_
  · exact ⟨h.1, congrArg f h.2.1, h.2.2⟩
  · exact ⟨congrArg f h.1, h.2⟩

theorem Keeping.confined {p : NodeProcess α} (hp : Keeping Memory.components calls p) :
    Confined calls p := by
  intro memory past
  refine (hp memory past).ensures.mono (fun later call h => ?_) fun _ _ _ h => h
  obtain ⟨kept, hcall, -⟩ := h
  exact hcall

/-- What a confined part of a run ensures where its calls are allowed. -/
theorem Confined.ensures {p : NodeProcess α} (hp : Confined calls p)
    {allowed : NodeHistory → NodeCall → Prop}
    (hallowed : ∀ past call, calls call → allowed past call) (memory : Memory)
    (past : NodeHistory) :
    p.Ensures allowed
      (fun _ after later => after.components = memory.components ∧ Continues calls past later)
      memory past :=
  (hp memory past).mono hallowed fun _ _ _ h => h

/-- What a confined step ensures, whether it succeeds or fails. -/
theorem Confined.ensures_step {step : RunStep α} (hstep : Confined calls step.run)
    {allowed : NodeHistory → NodeCall → Prop}
    (hallowed : ∀ past call, calls call → allowed past call) (memory : Memory)
    (past : NodeHistory) :
    RunStep.Ensures allowed
      (fun _ after later => after.components = memory.components ∧ Continues calls past later)
      (fun _ after later => after.components = memory.components ∧ Continues calls past later)
      step memory past := by
  refine (hstep.ensures hallowed memory past).imp fun result after later h => ?_
  cases result with
  | ok a => exact h
  | error report => exact h

namespace RunStep

/-- Of two steps one after the other, neither does more than each does by itself. -/
theorem keeping_bind {step : RunStep β} {next : β → RunStep α}
    (hstep : Keeping view calls step.run) (hnext : ∀ b, Keeping view calls (next b).run) :
    Keeping view calls (step >>= next).run := by
  refine DriverHandover.keeping_bind hstep fun result => ?_
  cases result with
  | ok b => exact hnext b
  | error report => exact keeping_pure (Except.error report)

theorem keeping_pure (a : α) : Keeping view calls (pure a : RunStep α).run :=
  DriverHandover.keeping_pure (Except.ok a)

theorem keeping_throw (report : Report UninstallError) :
    Keeping view calls (throw report : RunStep α).run :=
  DriverHandover.keeping_pure (Except.error report)

theorem keeping_lift {p : NodeProcess α} (hp : Keeping view calls p) :
    Keeping view calls (liftM p : RunStep α).run :=
  DriverHandover.keeping_bind hp fun a => DriverHandover.keeping_pure (Except.ok a)

theorem keeping_attempt [Cause ε] {error : UninstallError}
    {call : NodeProcess (Except (Report ε) α)} (hcall : Keeping view calls call) :
    Keeping view calls (Uninstall.attempt error call).run := by
  refine keeping_bind (keeping_lift hcall) fun reply => ?_
  cases reply with
  | ok a => exact keeping_pure a
  | error report => exact keeping_throw (report.under error)

end RunStep

end Rules

namespace Uninstall

variable {γ : Type} {view : Memory → γ} {calls : NodeCall → Prop} {c : Config} {t : Timings}

/-- Entering a stage keeps all that does not depend on the stage. -/
theorem keeping_enter {stage : Stage}
    (hview : ∀ memory stage, view { memory with stage } = view memory) (h : calls (.enter stage)) :
    Keeping view calls (enter stage) :=
  keeping_bind (keeping_modify fun memory => hview memory stage) fun _ => keeping_ask h

theorem awaitApps_keeping (apps : List String) :
    Keeping view NodeCall.Awaits (awaitApps c t apps).run := by
  induction apps with
  | nil => exact RunStep.keeping_pure ()
  | cons app rest ih =>
    refine RunStep.keeping_bind (RunStep.keeping_lift (keeping_ask trivial)) fun reply => ?_
    cases reply with
    | ok _ => exact ih
    | error report => exact RunStep.keeping_throw _

theorem evictComponents_keeping (hwrites : ∀ labels, calls (.updateLabels c.nodeName labels))
    (hawaits : ∀ call, NodeCall.Awaits call → calls call) :
    Keeping view calls (evictComponents c t).run := by
  refine RunStep.keeping_bind (RunStep.keeping_lift keeping_get) fun memory => ?_
  refine RunStep.keeping_bind (RunStep.keeping_attempt (keeping_ask (hwrites _))) fun _ => ?_
  exact (awaitApps_keeping _).mono hawaits

theorem cordon_keeping (h : calls (.cordon c.nodeName)) :
    Keeping Memory.components calls (cordon c).run :=
  RunStep.keeping_bind (RunStep.keeping_attempt (keeping_ask h)) fun _ =>
    keeping_bind (keeping_modify fun _ => rfl) fun _ => keeping_pure _

theorem drainNode_keeping (hcordon : calls (.cordon c.nodeName))
    (hdrain : calls (.drain c.nodeName c.drain)) :
    Keeping Memory.components calls (drainNode c).run := by
  refine RunStep.keeping_bind (RunStep.keeping_lift keeping_get) fun memory => ?_
  have hattempt : Keeping Memory.components calls
      (attempt .drainFailed (ask (.drain c.nodeName c.drain))).run :=
    RunStep.keeping_attempt (keeping_ask hdrain)
  split
  · exact RunStep.keeping_bind (cordon_keeping hcordon) fun _ => hattempt
  · exact hattempt

theorem cleanup_keeping (h : calls .cleanupDriver) : Keeping view calls cleanup.run :=
  RunStep.keeping_attempt (keeping_ask h)

/-- Drains the node and removes the driver, where the run may drain. Two steps of a run fall back on
this when they fail. -/
def fallBack (c : Config) (report : Report UninstallError) : RunStep Unit := do
  if ← autoDrainEnabled c then
    drainNode c
    cleanup
  else throw report

theorem fallBack_keeping (report : Report UninstallError) :
    Keeping Memory.components NodeCall.Vacates (fallBack c report).run := by
  refine RunStep.keeping_bind (RunStep.keeping_lift ?_) fun enabled => ?_
  · exact keeping_bind keeping_get fun _ => keeping_pure _
  · cases enabled with
    | true => exact RunStep.keeping_bind (drainNode_keeping trivial trivial) fun _ =>
        cleanup_keeping trivial
    | false => exact RunStep.keeping_throw report

theorem evictGpuPods_keeping : Keeping Memory.components NodeCall.Vacates (evictGpuPods c).run := by
  refine RunStep.keeping_bind (RunStep.keeping_lift (keeping_ask trivial)) fun reply => ?_
  cases reply with
  | error report => exact fallBack_keeping _
  | ok report =>
    cases hcomplete : report.isComplete with
    | true =>
      simp only [hcomplete]
      exact RunStep.keeping_pure ()
    | false =>
      simp only [hcomplete]
      exact fallBack_keeping _

theorem cleanupDriver_keeping :
    Keeping Memory.components NodeCall.Vacates (cleanupDriver c).run := by
  refine RunStep.keeping_bind (RunStep.keeping_lift (keeping_ask trivial)) fun reply => ?_
  cases reply with
  | ok _ => exact RunStep.keeping_pure ()
  | error report => exact fallBack_keeping _

theorem awaitMofed_keeping (budget : Option Duration) (looks : Nat) :
    Keeping view NodeCall.Polls (awaitMofed c t budget looks).run := by
  induction looks generalizing budget with
  | zero => exact keeping_halt
  | succ looks ih =>
    refine RunStep.keeping_bind (RunStep.keeping_lift (keeping_ask trivial)) fun ready => ?_
    cases ready with
    | true => exact RunStep.keeping_pure ()
    | false =>
      by_cases hspent : budget.any (·.isZero) = true
      · simp only [hspent]
        exact RunStep.keeping_throw _
      · simp only [hspent]
        exact RunStep.keeping_bind (RunStep.keeping_lift (keeping_ask trivial)) fun _ => ih _

theorem unloadNouveau_keeping : Keeping view NodeCall.Finishes unloadNouveau.run := by
  refine RunStep.keeping_bind (RunStep.keeping_lift (keeping_ask rfl)) fun loaded => ?_
  cases loaded with
  | true => exact RunStep.keeping_attempt (keeping_ask trivial)
  | false => exact RunStep.keeping_pure ()

theorem reschedule_keeping : Keeping Memory.components NodeCall.GivesBack (reschedule c) := by
  refine keeping_bind keeping_get fun memory => ?_
  have hlabels : Keeping Memory.components NodeCall.GivesBack (do
      let components := (← get).components
      let _ ← ask (.updateLabels c.nodeName components.resumedLabels)) :=
    keeping_bind keeping_get fun _ => keeping_bind (keeping_ask trivial) fun _ =>
      keeping_pure ()
  split
  · refine keeping_bind (keeping_ask trivial) fun reply => ?_
    cases reply with
    | ok _ => exact keeping_bind (keeping_modify fun _ => rfl) fun _ => hlabels
    | error report => exact hlabels
  · exact hlabels

theorem finish_keeping (hview : ∀ memory stage, view { memory with stage } = view memory)
    (h : ∀ stage, calls (.enter stage))
    (result : Except (Report UninstallError) UninstallOutcome) :
    Keeping view calls (finish result) :=
  keeping_bind (keeping_enter hview (h _)) fun _ => keeping_pure result

end Uninstall

end DriverHandover
