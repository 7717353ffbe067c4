import DriverHandover.Proofs.Process.Ensures
import DriverHandover.Uninstall.Run

/-!
# What a step of an uninstall run guarantees

A step that may fail ends in one of two ways, so its guarantee has two ends.

## Main definitions

* `NodeHistory` – the calls of a run with their replies.
* `RunStep.Guarantees` – the guarantee of a step, with what the process keeps.
* `RunStep.Ensures` – the guarantee of a step whatever the process keeps.

## Main statements

* `RunStep.guarantees_bind` – of two steps the second is made only if the first one succeeds.
* `RunStep.guarantees_attempt` – a call that may fail.
* `RunStep.guarantees_run_iff` – what both ends have in common.
-/

namespace DriverHandover

/-- A call of a run with its reply. -/
abbrev NodeExchange := Process.Exchange NodeCall.Reply

/-- The calls of a run, with their replies. -/
abbrev NodeHistory := List NodeExchange

/-- Every call of the step is allowed after what happened before it, and the step ends in `ok` if it
succeeds and in `failed` if it fails, whatever the replies are. -/
def RunStep.Ensures {α : Type} (allowed : NodeHistory → NodeCall → Prop)
    (ok : α → Memory → NodeHistory → Prop)
    (failed : Report UninstallError → Memory → NodeHistory → Prop) (step : RunStep α)
    (memory : Memory) (past : NodeHistory) : Prop :=
  Process.Ensures allowed
    (fun result memory past =>
      match result with
      | .ok a => ok a memory past
      | .error report => failed report memory past)
    step.run memory past

/-- Every call of the step is allowed with what the process keeps then and after what happened
before, and the step ends in `ok` if it succeeds and in `failed` if it fails. -/
def RunStep.Guarantees {α : Type} (allowed : Memory → NodeHistory → NodeCall → Prop)
    (ok : α → Memory → NodeHistory → Prop)
    (failed : Report UninstallError → Memory → NodeHistory → Prop) (step : RunStep α)
    (memory : Memory) (past : NodeHistory) : Prop :=
  Process.Guarantees allowed
    (fun result memory past =>
      match result with
      | .ok a => ok a memory past
      | .error report => failed report memory past)
    step.run memory past

namespace RunStep

variable {α β ε : Type} {allowed : NodeHistory → NodeCall → Prop}
variable {permitted : Memory → NodeHistory → NodeCall → Prop}
variable {ok : α → Memory → NodeHistory → Prop}
variable {failed : Report UninstallError → Memory → NodeHistory → Prop}
variable {memory : Memory} {past : NodeHistory}

theorem ensures_iff_guarantees {step : RunStep α} :
    Ensures allowed ok failed step memory past ↔
      Guarantees (fun _ => allowed) ok failed step memory past :=
  Process.ensures_iff_guarantees

/-- Of two steps the second is made only if the first one succeeds. -/
theorem guarantees_bind {step : RunStep β} {next : β → RunStep α} :
    Guarantees permitted ok failed (step >>= next) memory past ↔
      Guarantees permitted
        (fun b memory past => Guarantees permitted ok failed (next b) memory past) failed
        step memory past := by
  change Process.Guarantees permitted _ (step.run >>= _) memory past ↔ _
  rw [Process.guarantees_bind]
  constructor
  · intro h
    refine h.imp fun result memory past hresult => ?_
    cases result with
    | ok b => exact hresult
    | error report => exact hresult
  · intro h
    refine h.imp fun result memory past hresult => ?_
    cases result with
    | ok b => exact hresult
    | error report => exact hresult

theorem guarantees_lift {p : NodeProcess α} :
    Guarantees permitted ok failed (liftM p) memory past ↔
      p.Guarantees permitted ok memory past := by
  change Process.Guarantees permitted _
    (p >>= fun a => pure (Except.ok a : Except (Report UninstallError) α)) memory past ↔ _
  rw [Process.guarantees_bind]
  rfl

theorem guarantees_ask {call : NodeCall} {ok : call.Reply → Memory → NodeHistory → Prop} :
    Guarantees permitted ok failed (liftM (Uninstall.ask call)) memory past ↔
      permitted memory past call ∧ ∀ reply, ok reply memory (past ++ [⟨call, reply⟩]) :=
  guarantees_lift

theorem guarantees_get {ok : Memory → Memory → NodeHistory → Prop} :
    Guarantees permitted ok failed get memory past ↔ ok memory memory past :=
  Iff.rfl

theorem guarantees_modify {f : Memory → Memory} {ok : Unit → Memory → NodeHistory → Prop} :
    Guarantees permitted ok failed (modify f) memory past ↔ ok () (f memory) past :=
  Iff.rfl

/-- A call that may fail: an error of the run is put on top of the report of the call. -/
theorem guarantees_attempt [Cause ε] {error : UninstallError}
    {call : NodeProcess (Except (Report ε) α)} :
    Guarantees permitted ok failed (Uninstall.attempt error call) memory past ↔
      call.Guarantees permitted
        (fun reply memory past =>
          match reply with
          | .ok a => ok a memory past
          | .error report => failed (report.under error) memory past) memory past := by
  rw [Uninstall.attempt, guarantees_bind, guarantees_lift]
  constructor
  · intro h
    refine h.imp fun reply memory past hreply => ?_
    cases reply with
    | ok a => exact hreply
    | error report => exact hreply
  · intro h
    refine h.imp fun reply memory past hreply => ?_
    cases reply with
    | ok a => exact hreply
    | error report => exact hreply

/-- The two ends of a guarantee can be weakened. -/
theorem Guarantees.imp {ok' : α → Memory → NodeHistory → Prop}
    {failed' : Report UninstallError → Memory → NodeHistory → Prop} {step : RunStep α}
    (h : Guarantees permitted ok failed step memory past)
    (hok : ∀ a memory past, ok a memory past → ok' a memory past)
    (hfailed : ∀ report memory past, failed report memory past → failed' report memory past) :
    Guarantees permitted ok' failed' step memory past := by
  refine Process.Guarantees.imp h fun result memory past hresult => ?_
  cases result with
  | ok a => exact hok a memory past hresult
  | error report => exact hfailed report memory past hresult

/-- What both ends of a step have in common holds whatever its result is. -/
theorem guarantees_run_iff {post : Memory → NodeHistory → Prop} {step : RunStep α} :
    step.run.Guarantees permitted (fun _ => post) memory past ↔
      Guarantees permitted (fun _ => post) (fun _ => post) step memory past := by
  constructor
  · intro h
    refine Process.Guarantees.imp h fun result memory past hresult => ?_
    cases result with
    | ok a => exact hresult
    | error report => exact hresult
  · intro h
    refine Process.Guarantees.imp h fun result memory past hresult => ?_
    cases result with
    | ok a => exact hresult
    | error report => exact hresult

section Ensures

theorem ensures_pure {a : α} :
    Ensures allowed ok failed (pure a) memory past ↔ ok a memory past :=
  Iff.rfl

theorem ensures_bind {step : RunStep β} {next : β → RunStep α} :
    Ensures allowed ok failed (step >>= next) memory past ↔
      Ensures allowed (fun b memory past => Ensures allowed ok failed (next b) memory past) failed
        step memory past := by
  simp only [ensures_iff_guarantees, guarantees_bind]

theorem ensures_lift {p : NodeProcess α} :
    Ensures allowed ok failed (liftM p) memory past ↔ p.Ensures allowed ok memory past := by
  rw [ensures_iff_guarantees, guarantees_lift, Process.ensures_iff_guarantees]

theorem ensures_ask {call : NodeCall} {ok : call.Reply → Memory → NodeHistory → Prop} :
    Ensures allowed ok failed (liftM (Uninstall.ask call)) memory past ↔
      allowed past call ∧ ∀ reply, ok reply memory (past ++ [⟨call, reply⟩]) :=
  ensures_lift

theorem ensures_get {ok : Memory → Memory → NodeHistory → Prop} :
    Ensures allowed ok failed get memory past ↔ ok memory memory past :=
  Iff.rfl

theorem ensures_attempt [Cause ε] {error : UninstallError}
    {call : NodeProcess (Except (Report ε) α)} :
    Ensures allowed ok failed (Uninstall.attempt error call) memory past ↔
      call.Ensures allowed
        (fun reply memory past =>
          match reply with
          | .ok a => ok a memory past
          | .error report => failed (report.under error) memory past) memory past := by
  rw [ensures_iff_guarantees, guarantees_attempt, Process.ensures_iff_guarantees]

theorem Ensures.imp {ok' : α → Memory → NodeHistory → Prop}
    {failed' : Report UninstallError → Memory → NodeHistory → Prop} {step : RunStep α}
    (h : Ensures allowed ok failed step memory past)
    (hok : ∀ a memory past, ok a memory past → ok' a memory past)
    (hfailed : ∀ report memory past, failed report memory past → failed' report memory past) :
    Ensures allowed ok' failed' step memory past :=
  ensures_iff_guarantees.2 ((ensures_iff_guarantees.1 h).imp hok hfailed)

end Ensures

end RunStep

namespace Uninstall

variable {c : Config} {stage : Stage} {allowed : NodeHistory → NodeCall → Prop}
variable {permitted : Memory → NodeHistory → NodeCall → Prop} {memory : Memory} {past : NodeHistory}

theorem guarantees_enter {post : Unit → Memory → NodeHistory → Prop} :
    (enter stage).Guarantees permitted post memory past ↔
      permitted { memory with stage } past (.enter stage) ∧
        ∀ reply, post reply { memory with stage } (past ++ [⟨.enter stage, reply⟩]) := by
  rw [enter, Process.guarantees_bind]
  rfl

theorem ensures_enter {post : Unit → Memory → NodeHistory → Prop} :
    (enter stage).Ensures allowed post memory past ↔
      allowed past (.enter stage) ∧
        ∀ reply, post reply { memory with stage } (past ++ [⟨.enter stage, reply⟩]) := by
  rw [Process.ensures_iff_guarantees, guarantees_enter]

theorem ensures_autoDrainEnabled {post : Bool → Memory → NodeHistory → Prop} :
    (autoDrainEnabled c).Ensures allowed post memory past ↔
      post (c.enableAutoDrain && !memory.components.upgradesExternally) memory past :=
  Iff.rfl

theorem guarantees_gpuPodEvictionEnabled {post : Bool → Memory → NodeHistory → Prop} :
    (gpuPodEvictionEnabled c).Guarantees permitted post memory past ↔
      post (c.enableGpuPodEviction && !memory.components.upgradesExternally) memory past :=
  Iff.rfl

theorem ensures_gpuPodEvictionEnabled {post : Bool → Memory → NodeHistory → Prop} :
    (gpuPodEvictionEnabled c).Ensures allowed post memory past ↔
      post (c.enableGpuPodEviction && !memory.components.upgradesExternally) memory past :=
  Iff.rfl

end Uninstall

end DriverHandover
