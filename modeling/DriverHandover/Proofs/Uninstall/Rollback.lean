import DriverHandover.Proofs.Uninstall.Relabeling

/-!
# A run gives the labels back

A run that has read its node pauses the components and later resumes them, whether the driver could
be removed or not. If it can resume them, the labels are what they were before.

## Main definitions

* `GivenBack` – labels that are restored from those that were read.
* `RolledBack` – the updates of a run and what they come to.

## Main statements

* `labels_given_back` – every run that has read its node makes two updates, and the second one
  restores the labels.
-/

namespace DriverHandover

open Uninstall

/-- Labels that are given back: the captured labels were written back, no other one has changed, and
of those the ones that a marker can be told from hold what they held. -/
structure GivenBack (custom : Option String) (initial final : LabelMap) : Prop where
  eq_overlay : final = initial.overlay (captured custom initial).resumedLabels
  untracked : ∀ key, ¬Tracked custom key → final.get? key = initial.get? key
  clean : ∀ key, Tracked custom key → Clean (initial.getD key) →
    final.getD key = initial.getD key

/-- Exactly two updates are made: one that pauses the components, and one that resumes them when
nothing is left to be done but to unload the driver that stands in. If the second one succeeds, the
labels are given back. -/
def RolledBack (c : Config) (initial : LabelMap) (history : NodeHistory) : Prop :=
  ∃ before paused between resumed rest,
    history = before ++
      ⟨.updateLabels c.nodeName (captured c.customEvictionLabel initial).pausedLabels, paused⟩ ::
      between ++
      ⟨.updateLabels c.nodeName (captured c.customEvictionLabel initial).resumedLabels, resumed⟩ ::
      rest ∧
    (∀ e ∈ before ++ between ++ rest, ¬e.1.Relabels) ∧ (∀ e ∈ rest, e.1.Finishes) ∧
    (resumed = .ok () →
      GivenBack c.customEvictionLabel initial (labelsAfter c.nodeName initial history))

variable {c : Config} {t : Timings} {custom : Option String} {initial labels read : LabelMap}
variable {past : NodeHistory}

theorem givenBack_overlay (custom : Option String) (initial : LabelMap) :
    GivenBack custom initial (initial.overlay (captured custom initial).resumedLabels) where
  eq_overlay := rfl
  untracked key huntracked := by
    have hnone : (captured custom initial).resumedLabels.get? key = none := by
      rw [ComponentState.resumedLabels, get?_encodeLabels_captured,
        if_neg fun hwritten => huntracked hwritten.tracked]
    rw [LabelMap.get?_overlay, hnone]
    rfl
  clean key htracked hclean := by
    have hheld : (initial.overlay (captured custom initial).resumedLabels).getD key =
        resume (initial.getD key) :=
      getD_overlay_encodeLabels resume_empty htracked id
    rw [hheld, hclean.resume_eq_self]

/-- Before the components are paused, the labels are those that were read. -/
theorem ReadAs.labels_eq (h : ReadAs c read past) (hfaithful : Faithful c.nodeName initial past) :
    read = initial ∧ labelsAfter c.nodeName initial past = initial := by
  have hpast := h.not_relabels
  obtain ⟨before, after, rfl, -⟩ := h
  have hbefore : labelsAfter c.nodeName initial before = initial :=
    labelsAfter_of_not_relabels fun e he => hpast e (List.mem_append_left _ he)
  exact ⟨hfaithful.read_eq.trans hbefore, labelsAfter_of_not_relabels hpast⟩

/-- However the update went that was to pause the components, the one that resumes them hides it. -/
theorem PausedAs.overlay_resumed (h : PausedAs c read past)
    (hfaithful : Faithful c.nodeName initial past) :
    read = initial ∧
      (labelsAfter c.nodeName initial past).overlay
          (captured c.customEvictionLabel initial).resumedLabels =
        initial.overlay (captured c.customEvictionLabel initial).resumedLabels := by
  obtain ⟨before, reply, after, rfl, hread, hquiet⟩ := h
  obtain ⟨rfl, hbefore⟩ := hread.labels_eq (faithful_append.1 hfaithful).1
  refine ⟨rfl, ?_⟩
  rw [List.append_cons, labelsAfter_append, labelsAfter_of_not_relabels hquiet, labelsAfter_concat,
    hbefore]
  -- either the pausing update changed nothing, or its keys are all written again
  cases reply with
  | error report => rw [labelsStep_error]
  | ok _ =>
    rw [labelsStep_ok]
    exact LabelMap.overlay_overlay_of_covers fun key => get?_pausedLabels_eq_none_iff.2

/-- A run of a fresh process that has read its node is rolled back, whether it succeeds or fails and
whatever the replies are: if it has come to the stage after reading or, what is more, if there was
no reason to end before. -/
theorem labels_given_back {looks : Nat} {history : NodeHistory}
    {result : Except (Report UninstallError) UninstallOutcome} {after : Memory}
    (hrun : (uninstall c t looks).Runs Memory.fresh history (some result) after)
    (hfaithful : Faithful c.nodeName initial history)
    (hread : ⟨.enter .labelsFetched, ()⟩ ∈ history ∨ ¬EndsEarly c history result) :
    RolledBack c initial history := by
  have hend : EndsEarly c history result ∧ (∀ e ∈ history, e.1.Declines c) ∨
      ∃ read, ResumedAs c read history :=
    (uninstall_inOrder.of_runs hrun).2 result rfl
  -- a run that ends early makes no call that comes after reading
  rcases hend with ⟨hearly, hdeclines⟩ | ⟨read, past, resumed, rest, rfl, hpaused, hrest⟩
  · rcases hread with hentered | hlate
    · exact absurd rfl (hdeclines _ hentered)
    · exact absurd hearly hlate
  · obtain ⟨rfl, hover⟩ := hpaused.overlay_resumed (faithful_append.1 hfaithful).1
    obtain ⟨before, paused, between, rfl, hbefore, hbetween⟩ := hpaused
    refine ⟨before, paused, between, resumed, rest, rfl, fun e he => ?_, hrest, ?_⟩
    · rcases List.mem_append.1 he with he | he
      · rcases List.mem_append.1 he with he | he
        · exact hbefore.not_relabels e he
        · exact hbetween e he
      · exact (hrest e he).not_relabels
    · rintro rfl
      rw [List.append_cons, labelsAfter_append,
        labelsAfter_of_not_relabels fun e he => (hrest e he).not_relabels, labelsAfter_concat,
        labelsStep_ok, hover]
      exact givenBack_overlay _ _

theorem labels_given_back_without_cordon :
    ∃ history report after,
      (uninstall .thorough .default 2).Runs Memory.fresh history (some (.error report)) after ∧
        Faithful "node" NodeState.loaded.labels history ∧
        ⟨.enter .labelsFetched, ()⟩ ∈ history ∧
        RolledBack .thorough NodeState.loaded.labels history := by
  let r : Rehearsal := .failing .cordon
  let history := (uninstall .thorough .default 2).history Rehearsal.reply Memory.fresh r
  have hrun := Process.runs_history Rehearsal.reply (uninstall .thorough .default 2) Memory.fresh r
  have hfaithful : Faithful "node" NodeState.loaded.labels history := by decide +kernel
  have hread : ⟨.enter .labelsFetched, ()⟩ ∈ history := enter_mem (by decide +kernel)
  exact ⟨_, _, _, hrun, hfaithful, hread, labels_given_back hrun hfaithful (.inl hread)⟩

end DriverHandover
