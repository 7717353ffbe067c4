import DriverHandover.Proofs.Uninstall.History
import DriverHandover.Proofs.Uninstall.Phases

/-!
# The label updates of a run

A run changes the labels of its node in two ways only. It marks a node that has a driver of its own;
or it reads the labels, pauses the components once and resumes them once, with the label sets of
what it has read.

## Main definitions

* `ReadAs`, `PausedAs`, `ResumedAs` – how far a run has come with the labels of its node.
* `InOrder` – the order of the updates.

## Main statements

* `uninstall_inOrder` – every run keeps to this order.
-/

namespace DriverHandover

open Uninstall

/-- The labels of the node were read, and no update was made before or after. -/
def ReadAs (c : Config) (read : LabelMap) (past : NodeHistory) : Prop :=
  ∃ before after, past = before ++ ⟨.nodeLabels c.nodeName, .ok read⟩ :: after ∧
    ∀ e ∈ before ++ after, ¬e.1.Relabels

/-- The labels of the node were read, and then one update was made, which was to pause the
components. -/
def PausedAs (c : Config) (read : LabelMap) (past : NodeHistory) : Prop :=
  ∃ before reply after,
    past = before ++
      ⟨.updateLabels c.nodeName (captured c.customEvictionLabel read).pausedLabels, reply⟩ ::
        after ∧
    ReadAs c read before ∧ ∀ e ∈ after, ¬e.1.Relabels

/-- The components were paused, and then one further update was made, which was to resume them;
nothing was left to be done after it but to unload the driver that stands in. -/
def ResumedAs (c : Config) (read : LabelMap) (past : NodeHistory) : Prop :=
  ∃ before reply after,
    past = before ++
      ⟨.updateLabels c.nodeName (captured c.customEvictionLabel read).resumedLabels, reply⟩ ::
        after ∧
    PausedAs c read before ∧ ∀ e ∈ after, e.1.Finishes

/-- The updates of a run are made on its own node. One marks the node as having a driver of its own;
any other pauses components that have been read, or resumes components that have been paused. -/
def InOrder (c : Config) (past : NodeHistory) : NodeCall → Prop
  | .updateLabels node labels =>
    node = c.nodeName ∧
      (labels = LabelMap.ofList [(driverLabelKey, driverPreinstalled)] ∨
        ∃ read, ReadAs c read past ∧
            labels = (captured c.customEvictionLabel read).pausedLabels ∨
          PausedAs c read past ∧
            labels = (captured c.customEvictionLabel read).resumedLabels)
  | _ => True

variable {c : Config} {t : Timings} {calls : NodeCall → Prop} {read annotations : LabelMap}
variable {memory : Memory} {past later : NodeHistory}

theorem inOrder_of_not_relabels {call : NodeCall} (h : ¬call.Relabels) : InOrder c past call := by
  cases call with
  | updateLabels node labels => exact absurd trivial h
  | _ => trivial

theorem inOrder_of_declines {call : NodeCall} (h : call.Declines c) : InOrder c past call := by
  cases call with
  | updateLabels node labels => exact ⟨h.1, .inl h.2⟩
  | _ => trivial

/-- Calls of a class without updates change no labels. -/
theorem not_relabels_of (hcalls : ∀ node labels, ¬calls (.updateLabels node labels))
    {call : NodeCall} (h : calls call) : ¬call.Relabels := by
  cases call with
  | updateLabels node labels => exact absurd h (hcalls node labels)
  | _ => exact id

theorem NodeCall.Looks.not_relabels {call : NodeCall} (h : call.Looks) : ¬call.Relabels :=
  not_relabels_of (fun _ _ => id) h

theorem NodeCall.Clears.not_relabels {call : NodeCall} (h : call.Clears) : ¬call.Relabels :=
  not_relabels_of (fun _ _ => id) h

theorem NodeCall.Finishes.not_relabels {call : NodeCall} (h : call.Finishes) : ¬call.Relabels :=
  not_relabels_of (fun _ _ => id) h

theorem ReadAs.not_relabels (h : ReadAs c read past) : ∀ e ∈ past, ¬e.1.Relabels := by
  obtain ⟨before, after, rfl, hquiet⟩ := h
  intro e he
  rcases List.mem_append.1 he with he | he
  · exact hquiet e (List.mem_append_left after he)
  · rcases List.mem_cons.1 he with rfl | he
    · exact id
    · exact hquiet e (List.mem_append_right before he)

theorem ReadAs.mem (h : ReadAs c read past) : ⟨.nodeLabels c.nodeName, .ok read⟩ ∈ past := by
  obtain ⟨before, after, rfl, -⟩ := h
  exact List.mem_append_right before List.mem_cons_self

theorem PausedAs.mem (h : PausedAs c read past) : ⟨.nodeLabels c.nodeName, .ok read⟩ ∈ past := by
  obtain ⟨before, reply, after, rfl, hread, -⟩ := h
  exact List.mem_append_left _ hread.mem

theorem ReadAs.continues (h : ReadAs c read past) (hlater : Continues calls past later)
    (hcalls : ∀ call, calls call → ¬call.Relabels) : ReadAs c read later := by
  obtain ⟨before, after, rfl, hquiet⟩ := h
  obtain ⟨new, rfl, hnew⟩ := hlater
  refine ⟨before, after ++ new, by simp, ?_⟩
  rw [← List.append_assoc]
  exact List.forall_mem_append.2 ⟨hquiet, fun e he => hcalls e.1 (hnew e he)⟩

theorem PausedAs.continues (h : PausedAs c read past) (hlater : Continues calls past later)
    (hcalls : ∀ call, calls call → ¬call.Relabels) : PausedAs c read later := by
  obtain ⟨before, reply, after, rfl, hread, hquiet⟩ := h
  obtain ⟨new, rfl, hnew⟩ := hlater
  exact ⟨before, reply, after ++ new, by simp, hread,
    List.forall_mem_append.2 ⟨hquiet, fun e he => hcalls e.1 (hnew e he)⟩⟩

theorem ResumedAs.continues (h : ResumedAs c read past)
    (hlater : Continues NodeCall.Finishes past later) : ResumedAs c read later := by
  obtain ⟨before, reply, after, rfl, hpaused, hfinishes⟩ := h
  obtain ⟨new, rfl, hnew⟩ := hlater
  exact ⟨before, reply, after ++ new, by simp, hpaused,
    List.forall_mem_append.2 ⟨hfinishes, hnew⟩⟩

theorem ReadAs.paused (h : ReadAs c read past) (reply) :
    PausedAs c read (past ++
      [⟨.updateLabels c.nodeName (captured c.customEvictionLabel read).pausedLabels, reply⟩]) :=
  ⟨past, reply, [], rfl, h, List.forall_mem_nil _⟩

theorem readAs_reads {before : NodeHistory} (hbefore : ∀ e ∈ before, e.1.Looks)
    (labels annotations : LabelMap) : ReadAs c labels (before ++ reads c labels annotations) := by
  exact ⟨before, _, rfl, List.forall_mem_append.2
    ⟨fun e he => (hbefore e he).not_relabels, List.forall_mem_singleton.2 id⟩⟩

namespace Uninstall

theorem evictComponents_inOrder (hstate : memory.components = stateRead c read annotations)
    (hread : ReadAs c read past) :
    RunStep.Ensures (InOrder c)
      (fun _ after later => after.components = stateRead c read annotations ∧ PausedAs c read later)
      (fun _ after later => after.components = stateRead c read annotations ∧ PausedAs c read later)
      (evictComponents c t) memory past := by
  rw [evictComponents, RunStep.ensures_bind, RunStep.ensures_get, RunStep.ensures_bind,
    RunStep.ensures_attempt, hstate, pausedLabels_stateRead]
  refine ⟨⟨rfl, .inr ⟨read, .inl ⟨hread, rfl⟩⟩⟩, fun reply => ?_⟩
  cases reply with
  | error report => exact ⟨hstate, hread.paused _⟩
  | ok _ =>
    have hquiet : ∀ call, NodeCall.Awaits call → ¬call.Relabels := fun _ h => h.clears.not_relabels
    refine ((awaitApps_keeping _).confined.ensures_step
      (fun past call h => inOrder_of_not_relabels (hquiet call h)) _ _).imp ?_ ?_
    · rintro _ after later ⟨hkeeps, hwaited⟩
      exact ⟨hkeeps.trans hstate, (hread.paused _).continues hwaited hquiet⟩
    · rintro _ after later ⟨hkeeps, hwaited⟩
      exact ⟨hkeeps.trans hstate, (hread.paused _).continues hwaited hquiet⟩

theorem removeDriver_inOrder {looks : Nat} (annotations : LabelMap)
    (hstate : memory.components = stateRead c read annotations) (hread : ReadAs c read past) :
    RunStep.Ensures (InOrder c)
      (fun _ after later => after.components = stateRead c read annotations ∧ PausedAs c read later)
      (fun _ after later => after.components = stateRead c read annotations ∧ PausedAs c read later)
      (removeDriver c t looks) memory past := by
  rw [removeDriver_eq, RunStep.ensures_bind]
  refine (evictComponents_inOrder hstate hread).imp ?_ fun _ _ _ h => h
  rintro _ after past ⟨hstate, hpaused⟩
  refine (afterEviction_keeping.confined.ensures_step
    (fun past call h => inOrder_of_not_relabels h.not_relabels) _ _).imp ?_ ?_
  · rintro _ after' later ⟨hkeeps, hlater⟩
    exact ⟨hkeeps.trans hstate, hpaused.continues hlater fun _ h => h.not_relabels⟩
  · rintro _ after' later ⟨hkeeps, hlater⟩
    exact ⟨hkeeps.trans hstate, hpaused.continues hlater fun _ h => h.not_relabels⟩

theorem reschedule_inOrder (hstate : memory.components = stateRead c read annotations)
    (hpaused : PausedAs c read past) :
    (reschedule c).Ensures (InOrder c) (fun _ _ later => ResumedAs c read later) memory past := by
  -- the update is the same one whether the node had to be uncordoned before it or not
  have hresume : ∀ (memory : Memory) (past : NodeHistory),
      memory.components = stateRead c read annotations → PausedAs c read past →
      Process.Ensures (InOrder c) (fun _ _ later => ResumedAs c read later)
        (do
          let components := (← get).components
          let _ ← ask (.updateLabels c.nodeName components.resumedLabels)) memory past := by
    intro memory past hstate hpaused
    rw [Process.ensures_bind, Process.ensures_get]
    dsimp only
    rw [Process.ensures_bind, hstate, resumedLabels_stateRead]
    refine ⟨⟨rfl, .inr ⟨read, .inr ⟨hpaused, rfl⟩⟩⟩, fun reply => ?_⟩
    exact ⟨past, reply, [], rfl, hpaused, List.forall_mem_nil _⟩
  rw [reschedule, Process.ensures_bind, Process.ensures_get]
  cases memory.cordoned with
  | false => exact hresume memory past hstate hpaused
  | true =>
    rw [if_pos rfl, Process.ensures_bind]
    refine ⟨trivial, fun reply => ?_⟩
    have hstep : Continues (¬NodeCall.Relabels ·) past (past ++ [⟨.uncordon c.nodeName, reply⟩]) :=
      Continues.one past id
    have hpaused' := hpaused.continues hstep fun _ h => h
    cases reply with
    | ok _ => exact hresume _ _ hstate hpaused'
    | error report => exact hresume _ _ hstate hpaused'

/-- A run that has read its node pauses and resumes the components, whatever comes between. -/
theorem handOver_inOrder {looks : Nat}
    (hstate : memory.components = stateRead c read annotations) (hread : ReadAs c read past) :
    (handOver c t looks).Ensures (InOrder c) (fun _ _ later => ResumedAs c read later)
      memory past := by
  rw [handOver_eq, Process.ensures_bind, ensures_enter]
  refine ⟨trivial, fun reply => ?_⟩
  have hstep : Continues (¬NodeCall.Relabels ·) past (past ++ [⟨.enter .labelsFetched, reply⟩]) :=
    Continues.one past id
  rw [Process.ensures_bind]
  have hread' := hread.continues hstep fun _ h => h
  refine Process.Ensures.imp (removeDriver_inOrder annotations ?_ hread') ?_
  · exact hstate
  rintro removed after past hend
  -- both ends of the removal have paused the components, and both are followed by resuming them
  obtain ⟨hstate, hpaused⟩ :
      after.components = stateRead c read annotations ∧ PausedAs c read past := by
    cases removed with
    | ok _ => exact hend
    | error report => exact hend
  rw [Process.ensures_bind]
  refine (reschedule_inOrder hstate hpaused).imp ?_
  rintro _ after past hresumed
  have hallowed : ∀ past call, NodeCall.Finishes call → InOrder c past call :=
    fun past call h => inOrder_of_not_relabels h.not_relabels
  have hconclude : Keeping Memory.components NodeCall.Finishes (conclude removed) :=
    conclude_keeping (fun _ _ => rfl) removed
  refine (hconclude.confined.ensures hallowed _ _).imp ?_
  rintro _ _ later ⟨-, hlater⟩
  exact hresumed.continues hlater

end Uninstall

/-- Every run keeps to the order of the updates, whatever the replies are, and if it ends, it has
ended early or resumed the components. -/
theorem uninstall_inOrder {looks : Nat} :
    (uninstall c t looks).Ensures (InOrder c)
      (fun result _ past =>
        EndsEarly c past result ∧ (∀ e ∈ past, e.1.Declines c) ∨ ∃ read, ResumedAs c read past)
      Memory.fresh [] := by
  refine uninstall_ensures (fun past call h => inOrder_of_declines h) ?_ ?_
  · intro result _ past _ hends hdeclines
    exact .inl ⟨hends, hdeclines⟩
  · intro before labels annotations memory hlooks hstate
    refine (handOver_inOrder hstate (readAs_reads hlooks labels annotations)).imp ?_
    rintro _ _ later hresumed
    exact .inr ⟨labels, hresumed⟩

end DriverHandover
