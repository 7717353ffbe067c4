import DriverHandover.Proofs.Uninstall.History
import DriverHandover.Proofs.Uninstall.Phases

/-!
# The fallback of a run

Two steps of a run fall back on draining the node and removing the driver right after that: the
eviction of the GPU pods, and the removal of the driver itself. One may come after the other, but
none is made twice, and the removal of the driver is not tried again without a drain.

## Main definitions

* `timesMade` – how often a kind of calls has been made.
* `Sparing` – what is required of the calls of a run.
* `Steady`, `Calm` – how a run stands while nothing has been given up.

## Main statements

* `Uninstall.uninstall_sparing` – every run keeps to the requirements.
* `fallback_bounded` – how often a run falls back, and on what.
-/

namespace DriverHandover

open Uninstall

namespace NodeCall

/-- Calls that take neither pods nor the driver away. -/
def Spares : NodeCall → Prop
  | .evictGpuPods _ _ | .drain _ _ | .cleanupDriver => False
  | _ => True

theorem Spares.kind?_ne {call : NodeCall} (h : call.Spares) :
    call.kind? ≠ some .evictGpuPods ∧ call.kind? ≠ some .drain ∧
      call.kind? ≠ some .cleanupDriver := by
  cases call with
  | evictGpuPods | drain | cleanupDriver => cases h
  | _ => simp [kind?]

theorem Unwinds.spares {call : NodeCall} (h : call.Unwinds) : call.Spares := by
  cases call with
  | evictGpuPods | drain | cleanupDriver => cases h
  | _ => trivial

theorem Looks.spares {call : NodeCall} (h : call.Looks) : call.Spares := by
  cases call with
  | evictGpuPods | drain | cleanupDriver => cases h
  | _ => trivial

theorem Declines.spares {c : Config} {call : NodeCall} (h : call.Declines c) : call.Spares := by
  cases call with
  | evictGpuPods | drain | cleanupDriver => cases h
  | _ => trivial

theorem Awaits.spares {call : NodeCall} (h : call.Awaits) : call.Spares := by
  cases call with
  | evictGpuPods | drain | cleanupDriver => cases h
  | _ => trivial

theorem Polls.spares {call : NodeCall} (h : call.Polls) : call.Spares := by
  cases call with
  | evictGpuPods | drain | cleanupDriver => cases h
  | _ => trivial

theorem Finishes.spares {call : NodeCall} (h : call.Finishes) : call.Spares := by
  cases call with
  | evictGpuPods | drain | cleanupDriver => cases h
  | _ => trivial

end NodeCall

/-- How often a kind of calls has been made. -/
def timesMade (kind : CallKind) (history : NodeHistory) : Nat :=
  history.countP fun e => e.1.kind? = some kind

/-- A drain that succeeded. -/
def Drained : NodeExchange → Prop
  | ⟨.drain _ _, .ok _⟩ => True
  | _ => False

/-- A drain that failed. -/
def DrainFailed : NodeExchange → Prop
  | ⟨.drain _ _, .error _⟩ => True
  | _ => False

/-- A removal of the driver that failed. -/
def CleanupFailed : NodeExchange → Prop
  | ⟨.cleanupDriver, .error _⟩ => True
  | _ => False

/-- No removal of the driver has failed. -/
def NoCleanupFailed (past : NodeHistory) : Prop :=
  ∀ e ∈ past, ¬CleanupFailed e

/-- The last call was a drain that succeeded. -/
def JustDrained (past : NodeHistory) : Prop :=
  ∃ before e, past = before ++ [e] ∧ Drained e

/-- Where the driver was found not loaded, nothing had been done to remove it. -/
def UnloadedBefore (past : NodeHistory) : Prop :=
  ∀ before rest, past = before ++ ⟨.moduleLoaded baseModule, false⟩ :: rest →
    timesMade .cleanupDriver before = 0

/-- How a run stands as long as no drain has failed. -/
structure Steady (past : NodeHistory) : Prop where
  not_gaveUp : ∀ e ∈ past, ¬DrainFailed e
  not_justDrained : ¬JustDrained past

/-- What is required of a call. Pods are removed while no drain has failed, evicted once, and
drained twice at most. The driver is removed three times at most, never once it was found not loaded
after a removal, and after a failure only once more after each drain. Nothing comes between a drain
and the removal of the driver, and after a drain that failed there is nothing left but to give the
node back. -/
def Sparing (past : NodeHistory) : NodeCall → Prop
  | .evictGpuPods _ _ => Steady past ∧ timesMade .evictGpuPods past < 1
  | .drain _ _ => Steady past ∧ timesMade .drain past < 2
  | .cleanupDriver =>
    (∀ e ∈ past, ¬DrainFailed e) ∧ timesMade .cleanupDriver past < 3 ∧ UnloadedBefore past ∧
      (JustDrained past ∨ NoCleanupFailed past)
  | call => ¬JustDrained past ∧ ((∃ e ∈ past, DrainFailed e) → call.Unwinds)

/-- How a run stands that has made a number of drains and of removals of the driver, and will find
out whether the driver is loaded. -/
structure Calm (drains cleanups : Nat) (past : NodeHistory) : Prop extends Steady past where
  drains_le : timesMade .drain past ≤ drains
  cleanups_le : timesMade .cleanupDriver past ≤ cleanups
  unloadedBefore : UnloadedBefore past

variable {c : Config} {t : Timings} {looks : Nat} {memory after : Memory}
variable {past later history : NodeHistory} {kind : CallKind} {e : NodeExchange}
variable {calls : NodeCall → Prop} {drains cleanups : Nat}

theorem timesMade_concat (kind : CallKind) (past : NodeHistory) (e : NodeExchange) :
    timesMade kind (past ++ [e]) =
      timesMade kind past + if e.1.kind? = some kind then 1 else 0 := by
  simp [timesMade, List.countP_append, List.countP_singleton]

theorem not_drained_of_kind (h : e.1.kind? ≠ some .drain) : ¬Drained e := by
  obtain ⟨call, reply⟩ := e
  cases call with
  | drain => exact absurd rfl h
  | _ => exact id

theorem not_drainFailed_of_kind (h : e.1.kind? ≠ some .drain) : ¬DrainFailed e := by
  obtain ⟨call, reply⟩ := e
  cases call with
  | drain => exact absurd rfl h
  | _ => exact id

theorem not_cleanupFailed_of_kind (h : e.1.kind? ≠ some .cleanupDriver) : ¬CleanupFailed e := by
  obtain ⟨call, reply⟩ := e
  cases call with
  | cleanupDriver => exact absurd rfl h
  | _ => exact id

theorem not_justDrained_concat (h : ¬Drained e) : ¬JustDrained (past ++ [e]) := by
  rintro ⟨before, last, hlast, hdrained⟩
  obtain ⟨-, hlast⟩ := List.append_inj' hlast rfl
  cases hlast
  exact h hdrained

theorem Continues.not_justDrained (h : Continues NodeCall.Spares past later)
    (hpast : ¬JustDrained past) : ¬JustDrained later := by
  obtain ⟨new, rfl, hnew⟩ := h
  rcases List.eq_nil_or_concat new with rfl | ⟨init, e, rfl⟩
  · rw [List.append_nil]
    exact hpast
  · rw [List.concat_eq_append, ← List.append_assoc]
    refine not_justDrained_concat (not_drained_of_kind (hnew e ?_).kind?_ne.2.1)
    simp

theorem Steady.continues (h : Steady past) (hlater : Continues NodeCall.Spares past later) :
    Steady later :=
  ⟨hlater.forall_mem h.not_gaveUp fun _ he => not_drainFailed_of_kind he.kind?_ne.2.1,
    hlater.not_justDrained h.not_justDrained⟩

theorem steady_of_spares (hpast : ∀ e ∈ past, e.1.Spares) : Steady past := by
  have hnil : Steady [] := ⟨List.forall_mem_nil _, by rintro ⟨before, e, h, -⟩; simp at h⟩
  exact hnil.continues (Continues.nil_iff.2 hpast)

theorem sparing_of_spares {call : NodeCall} (hcall : call.Spares) (h : Steady past) :
    Sparing past call := by
  have hgoesOn : (∃ e ∈ past, DrainFailed e) → call.Unwinds :=
    fun ⟨e, he, hfailed⟩ => absurd hfailed (h.not_gaveUp e he)
  cases call with
  | evictGpuPods | drain | cleanupDriver => cases hcall
  | _ => exact ⟨h.not_justDrained, hgoesOn⟩

theorem sparing_of_unwinds {call : NodeCall} (hcall : call.Unwinds) (h : ¬JustDrained past) :
    Sparing past call := by
  cases call with
  | evictGpuPods | drain | cleanupDriver => cases hcall
  | _ => exact ⟨h, fun _ => hcall⟩

/-- A part of a run that takes neither pods nor the driver away leaves the run as it stands. -/
theorem Keeping.steady {α γ : Type} {view : Memory → γ} {p : NodeProcess α}
    (hp : Keeping view NodeCall.Spares p) (h : Steady past) :
    p.Guarantees (fun _ => Sparing)
      (fun _ _ later => Steady later ∧ Continues NodeCall.Spares past later) memory past :=
  (hp memory past).mono
    (fun _ _ _ ⟨hcall, _, hlater⟩ => sparing_of_spares hcall (h.continues hlater))
    fun _ _ _ ⟨_, hlater⟩ => ⟨h.continues hlater, hlater⟩

/-- A step that takes neither pods nor the driver away, whether it succeeds or fails. -/
theorem Keeping.steady_step {γ : Type} {view : Memory → γ} {step : RunStep Unit}
    (hstep : Keeping view NodeCall.Spares step.run) (h : Steady past) :
    RunStep.Guarantees (fun _ => Sparing)
      (fun _ _ later => Steady later ∧ Continues NodeCall.Spares past later)
      (fun _ _ later => ¬JustDrained later) step memory past :=
  (RunStep.guarantees_run_iff.1 (hstep.steady h)).imp (fun _ _ _ h => h)
    fun _ _ _ h => h.1.not_justDrained

/-- Giving the node back comes after all. -/
theorem Keeping.unwinding {α γ : Type} {view : Memory → γ} {p : NodeProcess α}
    (hp : Keeping view NodeCall.Unwinds p) (h : ¬JustDrained past) :
    p.Guarantees (fun _ => Sparing) (fun _ _ later => ¬JustDrained later) memory past := by
  have hlater : ∀ {later}, Continues NodeCall.Unwinds past later → ¬JustDrained later :=
    fun hlater => (hlater.mono fun _ h => h.spares).not_justDrained h
  exact (hp memory past).mono
    (fun _ _ _ ⟨hcall, _, hpast⟩ => sparing_of_unwinds hcall (hlater hpast))
    fun _ _ _ ⟨_, hpast⟩ => hlater hpast

theorem UnloadedBefore.concat (h : UnloadedBefore past)
    (hloaded : e ≠ ⟨.moduleLoaded baseModule, false⟩) : UnloadedBefore (past ++ [e]) := by
  intro before rest hsplit
  rcases List.eq_nil_or_concat rest with rfl | ⟨init, last, rfl⟩
  · obtain ⟨-, hlast⟩ := List.append_inj' hsplit rfl
    cases hlast
    exact absurd rfl hloaded
  · rw [List.concat_eq_append, ← List.cons_append, ← List.append_assoc] at hsplit
    exact h before init (List.append_inj' hsplit rfl).1

theorem timesMade_eq_zero_of_spares (hpast : ∀ e ∈ past, e.1.Spares)
    (hkind : ∀ call : NodeCall, call.Spares → call.kind? ≠ some kind) :
    timesMade kind past = 0 := by
  rw [timesMade, List.countP_eq_zero]
  intro e he hmade
  exact hkind e.1 (hpast e he) (of_decide_eq_true hmade)

/-- Nothing has been done yet. -/
theorem calm_of_spares (hpast : ∀ e ∈ past, e.1.Spares) : Calm 0 0 past where
  toSteady := steady_of_spares hpast
  drains_le := Nat.le_of_eq (timesMade_eq_zero_of_spares hpast fun _ h => h.kind?_ne.2.1)
  cleanups_le := Nat.le_of_eq (timesMade_eq_zero_of_spares hpast fun _ h => h.kind?_ne.2.2)
  unloadedBefore _ _ hsplit :=
    timesMade_eq_zero_of_spares
      (fun e he => hpast e (hsplit ▸ List.mem_append_left _ he)) fun _ h => h.kind?_ne.2.2

theorem Calm.mono {drains' cleanups' : Nat} (h : Calm drains cleanups past)
    (hdrains : drains ≤ drains') (hcleanups : cleanups ≤ cleanups') :
    Calm drains' cleanups' past :=
  { h with
    drains_le := Nat.le_trans h.drains_le hdrains
    cleanups_le := Nat.le_trans h.cleanups_le hcleanups }

/-- Another call than those that are counted, which does not find the driver not loaded either. -/
theorem Calm.concat (h : Calm drains cleanups past) (hdrain : e.1.kind? ≠ some .drain)
    (hcleanup : e.1.kind? ≠ some .cleanupDriver) (hloaded : e ≠ ⟨.moduleLoaded baseModule, false⟩) :
    Calm drains cleanups (past ++ [e]) where
  not_gaveUp := List.forall_mem_append.2
    ⟨h.not_gaveUp, List.forall_mem_singleton.2 (not_drainFailed_of_kind hdrain)⟩
  not_justDrained := not_justDrained_concat (not_drained_of_kind hdrain)
  drains_le := by
    rw [timesMade_concat, if_neg hdrain]
    exact h.drains_le
  cleanups_le := by
    rw [timesMade_concat, if_neg hcleanup]
    exact h.cleanups_le
  unloadedBefore := h.unloadedBefore.concat hloaded

theorem Calm.concat_of_spares (h : Calm drains cleanups past) (hcall : e.1.Spares)
    (hloaded : e ≠ ⟨.moduleLoaded baseModule, false⟩) : Calm drains cleanups (past ++ [e]) :=
  h.concat hcall.kind?_ne.2.1 hcall.kind?_ne.2.2 hloaded

/-- The removal of the driver was tried. -/
theorem Calm.tried (h : Calm drains cleanups past) (reply : Except (Report HostError) Unit) :
    Calm drains (cleanups + 1) (past ++ [⟨.cleanupDriver, reply⟩]) where
  not_gaveUp := List.forall_mem_append.2 ⟨h.not_gaveUp, List.forall_mem_singleton.2 id⟩
  not_justDrained := not_justDrained_concat id
  drains_le := by
    rw [timesMade_concat]
    exact h.drains_le
  cleanups_le := by
    rw [timesMade_concat]
    exact Nat.succ_le_succ h.cleanups_le
  unloadedBefore := h.unloadedBefore.concat (by simp)

/-- The node was drained and the driver removed. -/
theorem Calm.cleaned (h : Calm drains cleanups past) (node : String) (o : DrainOptions) :
    Calm (drains + 1) (cleanups + 1)
      (past ++ [⟨.drain node o, .ok ()⟩] ++ [⟨.cleanupDriver, .ok ()⟩]) where
  not_gaveUp :=
    List.forall_mem_append.2 ⟨List.forall_mem_append.2 ⟨h.not_gaveUp,
      List.forall_mem_singleton.2 id⟩, List.forall_mem_singleton.2 id⟩
  not_justDrained := not_justDrained_concat id
  drains_le := by
    rw [timesMade_concat, timesMade_concat]
    exact Nat.succ_le_succ h.drains_le
  cleanups_le := by
    rw [timesMade_concat, timesMade_concat]
    exact Nat.succ_le_succ h.cleanups_le
  unloadedBefore := (h.unloadedBefore.concat (by simp)).concat (by simp)

theorem NoCleanupFailed.concat (h : NoCleanupFailed past) (he : ¬CleanupFailed e) :
    NoCleanupFailed (past ++ [e]) :=
  List.forall_mem_append.2 ⟨h, List.forall_mem_singleton.2 he⟩

theorem Drained.eq (h : Drained e) : ∃ node o, e = ⟨.drain node o, .ok ()⟩ := by
  obtain ⟨call, reply⟩ := e
  cases call with
  | drain node o =>
    cases reply with
    | ok _ => exact ⟨node, o, rfl⟩
    | error report => cases h
  | _ => cases h

namespace Sparing

variable {call : NodeCall}

/-- Another call of a kind is allowed only if not too many of that kind have been made. -/
theorem timesMade_lt (h : Sparing past call) :
    (call.kind? = some .evictGpuPods → timesMade .evictGpuPods past < 1) ∧
      (call.kind? = some .drain → timesMade .drain past < 2) ∧
      (call.kind? = some .cleanupDriver → timesMade .cleanupDriver past < 3) := by
  cases call with
  | evictGpuPods => exact ⟨fun _ => h.2, by simp [NodeCall.kind?], by simp [NodeCall.kind?]⟩
  | drain => exact ⟨by simp [NodeCall.kind?], fun _ => h.2, by simp [NodeCall.kind?]⟩
  | cleanupDriver => exact ⟨by simp [NodeCall.kind?], by simp [NodeCall.kind?], fun _ => h.2.1⟩
  | _ => simp [NodeCall.kind?]

theorem eq_cleanupDriver (h : Sparing past call) (hdrained : JustDrained past) :
    call = .cleanupDriver := by
  cases call with
  | cleanupDriver => rfl
  | evictGpuPods | drain => exact absurd hdrained h.1.not_justDrained
  | _ => exact absurd hdrained h.1

theorem unwinds (h : Sparing past call) (he : e ∈ past) (hfailed : DrainFailed e) :
    call.Unwinds := by
  cases call with
  | cleanupDriver => exact absurd hfailed (h.1 e he)
  | evictGpuPods | drain => exact absurd hfailed (h.1.not_gaveUp e he)
  | _ => exact h.2 ⟨e, he, hfailed⟩

end Sparing

namespace Uninstall

theorem cordon_sparing (h : Steady past) :
    RunStep.Guarantees (fun _ => Sparing)
      (fun _ _ later => later = past ++ [⟨.cordon c.nodeName, .ok ()⟩])
      (fun _ _ later => ¬JustDrained later) (cordon c) memory past := by
  rw [cordon, RunStep.guarantees_bind, RunStep.guarantees_attempt]
  refine ⟨sparing_of_spares trivial h, fun reply => ?_⟩
  cases reply with
  | error report => exact not_justDrained_concat id
  | ok _ => exact rfl

/-- The node is drained and the driver removed right after that, or the run gives up. -/
theorem drainNode_cleanup_sparing (h : Calm drains cleanups past) (hdrains : drains < 2)
    (hcleanups : cleanups < 3) :
    RunStep.Guarantees (fun _ => Sparing)
      (fun _ _ later => Calm (drains + 1) (cleanups + 1) later ∧
        (NoCleanupFailed past → NoCleanupFailed later))
      (fun _ _ later => ¬JustDrained later)
      (do
        drainNode c
        cleanup) memory past := by
  have hdrain : ∀ memory later, Calm drains cleanups later →
      (NoCleanupFailed past → NoCleanupFailed later) →
      RunStep.Guarantees (fun _ => Sparing)
        (fun _ _ later => Calm (drains + 1) (cleanups + 1) later ∧
          (NoCleanupFailed past → NoCleanupFailed later))
        (fun _ _ later => ¬JustDrained later)
        (do
          attempt .drainFailed (ask (.drain c.nodeName c.drain))
          cleanup) memory later := by
    intro memory later h hclean
    rw [RunStep.guarantees_bind, RunStep.guarantees_attempt]
    refine ⟨⟨h.toSteady, Nat.lt_of_le_of_lt h.drains_le hdrains⟩, fun reply => ?_⟩
    cases reply with
    | error report => exact not_justDrained_concat id
    | ok _ =>
      rw [Process.guarantees_done]
      dsimp only
      rw [cleanup, RunStep.guarantees_attempt]
      refine ⟨⟨?_, ?_, ?_, .inl ⟨later, _, rfl, trivial⟩⟩, fun reply => ?_⟩
      · exact List.forall_mem_append.2 ⟨h.not_gaveUp, List.forall_mem_singleton.2 id⟩
      · rw [timesMade_concat]
        exact Nat.lt_of_le_of_lt h.cleanups_le hcleanups
      · exact h.unloadedBefore.concat (by simp)
      cases reply with
      | error report => exact not_justDrained_concat id
      | ok _ => exact ⟨h.cleaned _ _, fun hpast => ((hclean hpast).concat id).concat id⟩
  rw [drainNode, bind_assoc, RunStep.guarantees_bind, RunStep.guarantees_get]
  cases memory.cordoned with
  | true => exact hdrain memory past h id
  | false =>
    show RunStep.Guarantees _ _ _ ((cordon c >>= _) >>= _) memory past
    rw [bind_assoc, RunStep.guarantees_bind]
    refine (cordon_sparing h.toSteady).imp ?_ fun _ _ _ h => h
    rintro _ after _ rfl
    exact hdrain after _ (h.concat_of_spares trivial (by simp)) fun hpast => hpast.concat id

/-- The fallback is made, or the run gives up. -/
theorem fallBack_sparing {report : Report UninstallError} (h : Calm drains cleanups past)
    (hdrains : drains < 2) (hcleanups : cleanups < 3) :
    RunStep.Guarantees (fun _ => Sparing)
      (fun _ _ later => Calm (drains + 1) (cleanups + 1) later ∧
        (NoCleanupFailed past → NoCleanupFailed later))
      (fun _ _ later => ¬JustDrained later) (fallBack c report) memory past := by
  rw [fallBack, RunStep.guarantees_bind, RunStep.guarantees_lift]
  show RunStep.Guarantees _ _ _
    (if (c.enableAutoDrain && !memory.components.upgradesExternally) = true then _ else _) _ _
  split
  · exact drainNode_cleanup_sparing h hdrains hcleanups
  · exact h.not_justDrained

/-- The GPU pods are evicted once, with the fallback if that does not rid the node of them. -/
theorem evictGpuPods_sparing (h : Calm 0 0 past) (hclean : NoCleanupFailed past)
    (hfirst : timesMade .evictGpuPods past = 0) :
    RunStep.Guarantees (fun _ => Sparing)
      (fun _ _ later => Calm 1 1 later ∧ NoCleanupFailed later)
      (fun _ _ later => ¬JustDrained later) (evictGpuPods c) memory past := by
  rw [evictGpuPods, RunStep.guarantees_bind, RunStep.guarantees_ask]
  refine ⟨⟨h.toSteady, hfirst ▸ Nat.one_pos⟩, fun reply => ?_⟩
  have hevicted : Calm 0 0 (past ++ [⟨.evictGpuPods c.nodeName c.drain, reply⟩]) :=
    h.concat (by simp [NodeCall.kind?]) (by simp [NodeCall.kind?]) (by simp)
  have hclean' : NoCleanupFailed (past ++ [⟨.evictGpuPods c.nodeName c.drain, reply⟩]) :=
    hclean.concat id
  have hfallBack : RunStep.Guarantees (fun _ => Sparing)
      (fun _ _ later => Calm 1 1 later ∧ NoCleanupFailed later)
      (fun _ _ later => ¬JustDrained later) (fallBack c (Report.of .gpuPodsRemaining)) memory
      (past ++ [⟨.evictGpuPods c.nodeName c.drain, reply⟩]) :=
    (fallBack_sparing hevicted (by decide) (by decide)).imp
      (fun _ _ _ h => ⟨h.1, h.2 hclean'⟩) fun _ _ _ h => h
  cases reply with
  | error report => exact hfallBack
  | ok report =>
    cases hcomplete : report.isComplete with
    | false =>
      simp only [hcomplete]
      exact hfallBack
    | true =>
      simp only [hcomplete]
      exact ⟨hevicted.mono (Nat.zero_le 1) (Nat.zero_le 1), hclean'⟩

theorem clearGpuPods_sparing (hpast : ∀ e ∈ past, e.1.Spares) :
    RunStep.Guarantees (fun _ => Sparing)
      (fun _ _ later => Calm 1 1 later ∧ NoCleanupFailed later)
      (fun _ _ later => ¬JustDrained later) (clearGpuPods c) memory past := by
  have hclean : ∀ {past : NodeHistory}, (∀ e ∈ past, e.1.Spares) → NoCleanupFailed past :=
    fun h e he => not_cleanupFailed_of_kind (h e he).kind?_ne.2.2
  rw [clearGpuPods, RunStep.guarantees_bind, RunStep.guarantees_lift,
    guarantees_gpuPodEvictionEnabled]
  split
  · rw [RunStep.guarantees_bind]
    refine (cordon_sparing (steady_of_spares hpast)).imp ?_ fun _ _ _ h => h
    rintro _ after _ rfl
    have hcordoned : ∀ e ∈ past ++ [⟨.cordon c.nodeName, .ok ()⟩], e.1.Spares :=
      List.forall_mem_append.2 ⟨hpast, List.forall_mem_singleton.2 trivial⟩
    exact evictGpuPods_sparing (calm_of_spares hcordoned) (hclean hcordoned)
      (timesMade_eq_zero_of_spares hcordoned fun _ h => h.kind?_ne.1)
  · exact ⟨(calm_of_spares hpast).mono (Nat.zero_le 1) (Nat.zero_le 1), hclean hpast⟩

/-- The driver is removed if it is still loaded, with the fallback if it is in use. -/
theorem unloadDriver_sparing (h : Calm 1 1 past) (hclean : NoCleanupFailed past) :
    RunStep.Guarantees (fun _ => Sparing) (fun _ _ later => Steady later)
      (fun _ _ later => ¬JustDrained later) (unloadDriver c) memory past := by
  rw [unloadDriver, RunStep.guarantees_bind, RunStep.guarantees_lift]
  refine ⟨sparing_of_spares trivial h.toSteady, fun loaded => ?_⟩
  cases loaded with
  | false =>
    have hlooked : Continues NodeCall.Spares past (past ++ [⟨.moduleLoaded baseModule, false⟩]) :=
      Continues.one past trivial
    exact h.toSteady.continues hlooked
  | true =>
    rw [Process.guarantees_done, if_pos rfl]
    have hloaded : Calm 1 1 (past ++ [⟨.moduleLoaded baseModule, true⟩]) :=
      h.concat_of_spares trivial (by simp)
    rw [cleanupDriver, RunStep.guarantees_bind, RunStep.guarantees_ask]
    refine ⟨⟨hloaded.not_gaveUp, Nat.lt_of_le_of_lt hloaded.cleanups_le (by decide),
      hloaded.unloadedBefore, .inr (hclean.concat id)⟩, fun reply => ?_⟩
    have htried := hloaded.tried reply
    cases reply with
    | ok _ => exact htried.toSteady
    | error report =>
      exact (fallBack_sparing htried (by decide) (by decide)).imp (fun _ _ _ h => h.1.toSteady)
        fun _ _ _ h => h

theorem afterEviction_sparing (hpast : ∀ e ∈ past, e.1.Spares) :
    RunStep.Guarantees (fun _ => Sparing) (fun _ _ later => Steady later)
      (fun _ _ later => ¬JustDrained later) (afterEviction c t looks) memory past := by
  have hentered : ∀ e ∈ past ++ [⟨.enter .componentsEvicted, ()⟩], e.1.Spares :=
    List.forall_mem_append.2 ⟨hpast, List.forall_mem_singleton.2 trivial⟩
  rw [afterEviction, RunStep.guarantees_bind, RunStep.guarantees_lift, guarantees_enter]
  refine ⟨sparing_of_spares trivial (steady_of_spares hpast), fun _ => ?_⟩
  rw [RunStep.guarantees_bind]
  refine (clearGpuPods_sparing hentered).imp ?_ fun _ _ _ h => h
  rintro _ after past ⟨hcalm, hclean⟩
  rw [RunStep.guarantees_bind, RunStep.guarantees_lift, guarantees_enter]
  refine ⟨sparing_of_spares trivial hcalm.toSteady, fun _ => ?_⟩
  rw [RunStep.guarantees_bind]
  have hdrained := hcalm.concat_of_spares (e := ⟨.enter .podsDrained, ()⟩) trivial (by simp)
  refine (unloadDriver_sparing hdrained (hclean.concat id)).imp ?_ fun _ _ _ h => h
  -- nothing is taken away from here on
  have henter : ∀ stage, Keeping Memory.components NodeCall.Spares
      (liftM (enter stage) : RunStep Unit).run :=
    fun stage => RunStep.keeping_lift (keeping_enter (fun _ _ => rfl) trivial)
  have hrest : Keeping Memory.components NodeCall.Spares (do
      enter .modulesUnloaded
      attempt .vfioUnbindFailed (ask .unbindVfio)
      enter .devicesRebound
      awaitRdma c t looks
      enter .rdmaWaited : RunStep Unit).run := by
    refine RunStep.keeping_bind (henter _) fun _ => ?_
    refine RunStep.keeping_bind (RunStep.keeping_attempt (keeping_ask trivial)) fun _ => ?_
    refine RunStep.keeping_bind (henter _) fun _ => ?_
    refine RunStep.keeping_bind (awaitRdma_keeping.mono fun _ h => h.spares) fun _ => ?_
    exact henter _
  intro _ after past hsteady
  exact (hrest.steady_step hsteady).imp (fun _ _ _ h => h.1) fun _ _ _ h => h

theorem removeDriver_sparing (hpast : ∀ e ∈ past, e.1.Spares) :
    RunStep.Guarantees (fun _ => Sparing) (fun _ _ later => Steady later)
      (fun _ _ later => ¬JustDrained later) (removeDriver c t looks) memory past := by
  have hevict : Keeping Memory.components NodeCall.Spares (evictComponents c t).run :=
    evictComponents_keeping (fun _ => trivial) fun _ h => h.spares
  rw [removeDriver_eq, RunStep.guarantees_bind]
  refine (hevict.steady_step (steady_of_spares hpast)).imp ?_ fun _ _ _ h => h
  rintro _ after later ⟨-, hlater⟩
  exact afterEviction_sparing (hlater.forall_mem hpast fun _ h => h)

theorem handOver_sparing (hpast : ∀ e ∈ past, e.1.Spares) :
    (handOver c t looks).Guarantees (fun _ => Sparing) (fun _ _ later => ¬JustDrained later)
      memory past := by
  have hentered : ∀ e ∈ past ++ [⟨.enter .labelsFetched, ()⟩], e.1.Spares :=
    List.forall_mem_append.2 ⟨hpast, List.forall_mem_singleton.2 trivial⟩
  rw [handOver_eq, Process.guarantees_bind, guarantees_enter]
  refine ⟨sparing_of_spares trivial (steady_of_spares hpast), fun _ => ?_⟩
  rw [Process.guarantees_bind]
  refine Process.Guarantees.imp (removeDriver_sparing hentered) ?_
  rintro (report | _) after later hremoved
  · -- what is left to be done after a failure is allowed whatever has failed
    have hunwind : Keeping Memory.components NodeCall.Unwinds (do
        reschedule c
        conclude (.error report)) :=
      keeping_bind (reschedule_keeping.mono fun _ h => h.unwinds) fun _ =>
        keeping_bind (keeping_enter (fun _ _ => rfl) rfl) fun _ => keeping_pure _
    exact hunwind.unwinding hremoved
  · have hspare : Keeping Memory.components NodeCall.Spares (do
        reschedule c
        conclude (.ok ())) :=
      keeping_bind (reschedule_keeping.mono fun _ h => h.unwinds.spares) fun _ =>
        (conclude_keeping (fun _ _ => rfl) _).mono fun _ h => h.spares
    exact (hspare.steady hremoved).imp fun _ _ _ h => h.1.not_justDrained

/-- Every run keeps to the requirements, and does not end with a drain. -/
theorem uninstall_sparing :
    (uninstall c t looks).Guarantees (fun _ => Sparing) (fun _ _ past => ¬JustDrained past)
      memory [] := by
  have hsteady : ∀ past : NodeHistory, (∀ e ∈ past, e.1.Declines c) → Steady past :=
    fun past hpast => steady_of_spares fun e he => (hpast e he).spares
  refine uninstall_guarantees ?_ ?_ ?_
  · intro kept past call _ hpast hcall
    exact sparing_of_spares hcall.spares (hsteady past hpast)
  · intro result after past hend
    exact (hsteady past hend.declines).not_justDrained
  · intro kept before labels annotations _ hlooks _
    refine handOver_sparing (List.forall_mem_append.2 ⟨fun e he => (hlooks e he).spares, ?_⟩)
    exact List.forall_mem_cons.2 ⟨trivial, List.forall_mem_singleton.2 trivial⟩

end Uninstall

/-- All calls of a history are as required. -/
def AllSparing (history : NodeHistory) : Prop :=
  ∀ before e rest, history = before ++ e :: rest → Sparing before e.1

namespace AllSparing

/-- What comes after a drain is the removal of the driver. -/
theorem cleans_after_drain (h : AllSparing history) {before rest : NodeHistory} {node : String}
    {o : DrainOptions} (hsplit : history = before ++ ⟨.drain node o, .ok ()⟩ :: rest) :
    (rest = [] ∧ JustDrained history) ∨ ∃ reply later, rest = ⟨.cleanupDriver, reply⟩ :: later := by
  have hdrained : JustDrained (before ++ [⟨.drain node o, .ok ()⟩]) :=
    ⟨before, ⟨.drain node o, .ok ()⟩, rfl, trivial⟩
  cases rest with
  | nil => exact .inl ⟨rfl, hsplit ▸ hdrained⟩
  | cons e later =>
    obtain ⟨call, reply⟩ := e
    obtain rfl : call = .cleanupDriver :=
      (h _ ⟨call, reply⟩ later (hsplit.trans (List.append_cons _ _ _))).eq_cleanupDriver hdrained
    exact .inr ⟨reply, later, rfl⟩

/-- What comes after a drain that failed gives the node back. -/
theorem unwinds_after_failed_drain (h : AllSparing history) {before rest : NodeHistory}
    (hsplit : history = before ++ e :: rest) (hfailed : DrainFailed e) :
    ∀ f ∈ rest, f.1.Unwinds := by
  intro f hf
  obtain ⟨init, later, rfl⟩ := List.append_of_mem hf
  have hcall := h (before ++ e :: init) f later (hsplit.trans (by simp))
  exact hcall.unwinds (List.mem_append_right before List.mem_cons_self) hfailed

/-- Between a removal of the driver that failed and the next one the node is drained. -/
theorem drained_between (h : AllSparing history) {before between rest : NodeHistory}
    {report : Report HostError} {reply : Except (Report HostError) Unit}
    (hsplit : history = before ++ ⟨.cleanupDriver, .error report⟩ :: between ++
      ⟨.cleanupDriver, reply⟩ :: rest) :
    ∃ node o, ⟨.drain node o, .ok ()⟩ ∈ between := by
  obtain ⟨-, -, -, ⟨init, e, hlast, he⟩ | hclean⟩ := h _ _ rest hsplit
  · rcases List.eq_nil_or_concat between with rfl | ⟨first, last, rfl⟩
    · obtain ⟨-, hlast⟩ := List.append_inj' hlast rfl
      cases hlast
      cases he
    · rw [List.concat_eq_append, ← List.cons_append, ← List.append_assoc] at hlast
      obtain ⟨-, hlast⟩ := List.append_inj' hlast rfl
      cases hlast
      obtain ⟨node, o, rfl⟩ := he.eq
      exact ⟨node, o, by simp⟩
  · exact absurd trivial (hclean _ (List.mem_append_right before List.mem_cons_self))

/-- A driver that was removed and then found not loaded is not removed again. -/
theorem not_cleaned_again (h : AllSparing history) {before rest : NodeHistory}
    (hsplit : history = before ++ ⟨.moduleLoaded baseModule, false⟩ :: rest)
    (hcleaned : .cleanupDriver ∈ before.map (·.1)) : .cleanupDriver ∉ rest.map (·.1) := by
  intro hagain
  obtain ⟨e, he, hcall⟩ := List.mem_map.1 hagain
  obtain ⟨init, later, rfl⟩ := List.append_of_mem he
  have hsparing := h (before ++ ⟨.moduleLoaded baseModule, false⟩ :: init) e later
    (hsplit.trans (by simp))
  rw [hcall] at hsparing
  obtain ⟨-, -, hunloaded, -⟩ := hsparing
  obtain ⟨f, hf, hfirst⟩ := List.mem_map.1 hcleaned
  have hnone := List.countP_eq_zero.1 (hunloaded before init rfl) f hf
  rw [hfirst] at hnone
  exact hnone rfl

end AllSparing

/-- A run evicts GPU pods once at most, drains the node twice at most, and removes the driver three
times at most. A drain that succeeds is followed by the removal of the driver, if the run is not cut
off between them, and one that fails by nothing but giving the node back. After a removal that
failed there is no other one without a drain between them, and after a removal and a look at the
driver that finds it not loaded there is no other one at all. -/
theorem fallback_bounded {result : Option (Except (Report UninstallError) UninstallOutcome)}
    (hrun : (uninstall c t looks).Runs memory history result after) :
    timesMade .evictGpuPods history ≤ 1 ∧ timesMade .drain history ≤ 2 ∧
      timesMade .cleanupDriver history ≤ 3 ∧
      (∀ before node o rest, history = before ++ ⟨.drain node o, .ok ()⟩ :: rest →
        (rest = [] ∧ result = none) ∨ ∃ reply later, rest = ⟨.cleanupDriver, reply⟩ :: later) ∧
      (∀ before node o report rest, history = before ++ ⟨.drain node o, .error report⟩ :: rest →
        ∀ e ∈ rest, e.1.Unwinds) ∧
      (∀ before report between reply rest,
        history = before ++ ⟨.cleanupDriver, .error report⟩ :: between ++
          ⟨.cleanupDriver, reply⟩ :: rest →
        ∃ node o, ⟨.drain node o, .ok ()⟩ ∈ between) ∧
      ∀ before rest, history = before ++ ⟨.moduleLoaded baseModule, false⟩ :: rest →
        .cleanupDriver ∈ before.map (·.1) → .cleanupDriver ∉ rest.map (·.1) := by
  obtain ⟨hcalls, hend⟩ := (uninstall_sparing (c := c) (t := t)).ensures.of_runs hrun
  have hall : AllSparing history := by
    intro before e rest hsplit
    obtain ⟨_, hcall⟩ := hcalls before e rest hsplit
    exact hcall
  refine ⟨?_, ?_, ?_, fun before node o rest hsplit => ?_,
    fun _ _ _ _ _ hsplit => hall.unwinds_after_failed_drain hsplit trivial,
    fun _ _ _ _ _ => hall.drained_between, fun _ _ => hall.not_cleaned_again⟩
  · exact countP_le_of_before fun before e rest hsplit he =>
      (hall before e rest hsplit).timesMade_lt.1 (of_decide_eq_true he)
  · exact countP_le_of_before fun before e rest hsplit he =>
      (hall before e rest hsplit).timesMade_lt.2.1 (of_decide_eq_true he)
  · exact countP_le_of_before fun before e rest hsplit he =>
      (hall before e rest hsplit).timesMade_lt.2.2 (of_decide_eq_true he)
  · refine (hall.cleans_after_drain hsplit).imp_left ?_
    rintro ⟨hlast, hdrained⟩
    refine ⟨hlast, Option.eq_none_iff_forall_ne_some.2 fun ended hended => ?_⟩
    exact hend ended hended hdrained

/-- A driver that is in use at first is removed with a second attempt, after a drain. -/
theorem driver_in_use_drained :
    ∃ history result after before between rest report node o,
      (uninstall .thorough .default 2).Runs Memory.fresh history result after ∧
        history = before ++ ⟨.cleanupDriver, .error report⟩ :: between ++
          ⟨.cleanupDriver, .ok ()⟩ :: rest ∧
        ⟨.drain node o, .ok ()⟩ ∈ between ∧ timesMade .cleanupDriver history = 2 := by
  let p := uninstall .thorough .default 2
  let history := p.history Rehearsal.reply Memory.fresh (.failing .cleanupDriver)
  have hrun := Process.runs_history Rehearsal.reply p Memory.fresh (.failing .cleanupDriver)
  -- the node is drained between the two attempts
  have hsplit : history = history.take 17 ++ ⟨.cleanupDriver, .error (Report.of .modulesInUse)⟩ ::
      (history.drop 18).take 1 ++ ⟨.cleanupDriver, .ok ()⟩ :: history.drop 20 := rfl
  obtain ⟨-, -, -, -, -, hbetween, -⟩ := fallback_bounded hrun
  obtain ⟨node, o, hdrained⟩ := hbetween _ _ _ _ _ hsplit
  exact ⟨history, _, _, _, _, _, _, node, o, hrun, hsplit, hdrained, by decide +kernel⟩

end DriverHandover
