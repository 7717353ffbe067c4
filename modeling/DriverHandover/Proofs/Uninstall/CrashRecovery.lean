import DriverHandover.Proofs.Uninstall.Relabeling

/-!
# Recovery from the labels alone

Nothing but the labels of the node outlives a process. A process that dies may leave components
paused; each run of a later process reads the paused values, and the values it resumes are the
original ones still, however many processes have died before.

## Main definitions

* `Settled` – every tracked label is the original one, or that one paused.
* `Restored` – every tracked label is the original one.
* `Reaches` – what runs that may be cut off anywhere make of the labels of a node.

## Main statements

* `labels_recovered` – the labels stay settled, and resuming restores them.
-/

namespace DriverHandover

/-- Every tracked label holds the original value, or the one that pauses it. -/
def Settled (custom : Option String) (original : String → String) (labels : LabelMap) : Prop :=
  ∀ key, Tracked custom key →
    labels.getD key = original key ∨ labels.getD key = pause (original key)

/-- Every tracked label holds the original value. -/
def Restored (custom : Option String) (original : String → String) (labels : LabelMap) : Prop :=
  ∀ key, Tracked custom key → labels.getD key = original key

/-- The labels of a node that any number of runs can lead to, each by a fresh process and with
settings of its own, and each ended or cut off between any two calls. They share the custom
label. -/
inductive Reaches (custom : Option String) (node : String) (initial : LabelMap) :
    LabelMap → Prop where
  | start : Reaches custom node initial initial
  | run {labels : LabelMap} {c : Config} {t : Timings} {looks : Nat} {history : NodeHistory}
      {result : Option (Except (Report UninstallError) UninstallOutcome)} {after : Memory} :
      Reaches custom node initial labels →
      c.customEvictionLabel = custom →
      (uninstall c t looks).Runs Memory.fresh history result after →
      Faithful node labels history →
      Reaches custom node initial (labelsAfter node labels history)

variable {custom : Option String} {node : String} {original : String → String}
variable {initial labels read lower : LabelMap} {c : Config} {t : Timings}

/-- A label that is empty in one settled state of a node is empty in all of them. -/
theorem Settled.empty_of_empty (hread : Settled custom original read)
    (hlower : Settled custom original lower) {key : String} (htracked : Tracked custom key)
    (hempty : read.getD key = "") : lower.getD key = "" := by
  have horiginal : original key = "" := by
    rcases hread key htracked with h | h
    · exact h.symm.trans hempty
    · exact pause_eq_empty_iff.1 (h.symm.trans hempty)
  rcases hlower key htracked with h | h
  · exact h.trans horiginal
  · rw [h, horiginal, pause_empty]

/-- Pausing keeps the labels settled. -/
theorem Settled.overlay_paused (hread : Settled custom original read)
    (hlower : Settled custom original lower) :
    Settled custom original (lower.overlay (captured custom read).pausedLabels) := by
  intro key htracked
  have hheld : (lower.overlay (captured custom read).pausedLabels).getD key =
      pause (read.getD key) :=
    getD_overlay_encodeLabels pause_empty htracked (hread.empty_of_empty hlower htracked)
  refine .inr (hheld.trans ?_)
  rcases hread key htracked with h | h
  · rw [h]
  · rw [h, pause_pause]

/-- Resuming restores the labels. -/
theorem Settled.overlay_resumed (hclean : ∀ key, Tracked custom key → Clean (original key))
    (hread : Settled custom original read) (hlower : Settled custom original lower) :
    Restored custom original (lower.overlay (captured custom read).resumedLabels) := by
  intro key htracked
  have hheld : (lower.overlay (captured custom read).resumedLabels).getD key =
      resume (read.getD key) :=
    getD_overlay_encodeLabels resume_empty htracked (hread.empty_of_empty hlower htracked)
  refine hheld.trans ?_
  rcases hread key htracked with h | h
  · rw [h, (hclean key htracked).resume_eq_self]
  · rw [h, (hclean key htracked).resume_pause]

theorem Restored.settled (h : Restored custom original labels) : Settled custom original labels :=
  fun key htracked => .inl (h key htracked)

/-- The label of the driver itself is not tracked. -/
theorem Settled.overlay_driver (hcustom : custom ≠ some driverLabelKey)
    (hlower : Settled custom original lower) (value : String) :
    Settled custom original (lower.overlay (LabelMap.ofList [(driverLabelKey, value)])) := by
  intro key htracked
  have hnone : (LabelMap.ofList [(driverLabelKey, value)]).get? key = none := by
    show (LabelMap.empty.insert driverLabelKey value).get? key = none
    rw [LabelMap.get?_insert, if_neg (tracked_ne_driverLabelKey hcustom htracked)]
    rfl
  rw [LabelMap.getD_overlay_of_none hnone]
  exact hlower key htracked

/-- A successful update of a run keeps the labels settled, if they have been settled so far. -/
theorem settled_step (hcustom : custom ≠ some driverLabelKey)
    (hclean : ∀ key, Tracked custom key → Clean (original key))
    (hc : c.customEvictionLabel = custom) {before : NodeHistory} {e : NodeExchange}
    (horder : InOrder c before e.1)
    (hreads : ∀ read, ⟨.nodeLabels node, .ok read⟩ ∈ before → Settled custom original read)
    (hlower : Settled custom original lower) :
    Settled custom original (labelsStep node lower e) := by
  obtain ⟨call, reply⟩ := e
  cases call with
  | updateLabels name written =>
    cases reply with
    | error report => exact hlower
    | ok _ =>
      by_cases hname : name = node
      · subst hname hc
        rw [labelsStep_ok]
        obtain ⟨rfl, rfl | ⟨read, ⟨hread, rfl⟩ | ⟨hpaused, rfl⟩⟩⟩ := horder
        · exact hlower.overlay_driver hcustom _
        · exact (hreads read hread.mem).overlay_paused hlower
        · exact ((hreads read hpaused.mem).overlay_resumed hclean hlower).settled
      · rw [labelsStep, labelsWritten, if_neg hname]
        exact hlower
  | _ => exact hlower

/-- What a faithful history has read is settled, if the labels were so at all times before. -/
theorem settled_of_read {before rest : NodeHistory}
    (hfaithful : Faithful node labels (before ++ rest))
    (hbefore : ∀ past later, before = past ++ later →
      Settled custom original (labelsAfter node labels past))
    (hread : ⟨.nodeLabels node, .ok read⟩ ∈ before) : Settled custom original read := by
  obtain ⟨past, later, rfl⟩ := List.append_of_mem hread
  rw [List.append_assoc] at hfaithful
  rw [Faithful.read_eq hfaithful]
  exact hbefore past _ rfl

/-- Wherever a run on settled labels is cut off, the labels are settled. -/
theorem settled_through_run (hcustom : custom ≠ some driverLabelKey)
    (hclean : ∀ key, Tracked custom key → Clean (original key))
    (hsettled : Settled custom original labels) (hc : c.customEvictionLabel = custom) {looks : Nat}
    {history : NodeHistory} {result : Option (Except (Report UninstallError) UninstallOutcome)}
    {after : Memory} (hrun : (uninstall c t looks).Runs Memory.fresh history result after)
    (hfaithful : Faithful node labels history) :
    ∀ before rest, history = before ++ rest →
      Settled custom original (labelsAfter node labels before) := by
  refine labelsAfter_invariant hsettled fun before e rest hsplit hbefore => ?_
  have horder : InOrder c before e.1 := by
    simpa using (uninstall_inOrder.of_runs hrun).1 before e rest hsplit
  -- what the run has read before this call was settled when it was read
  refine settled_step hcustom hclean hc horder (fun read hread => ?_)
    (hbefore before [] (List.append_nil before).symm)
  exact settled_of_read (hsplit ▸ hfaithful) hbefore hread

/-- Whatever runs have worked on the node and wherever they were cut off, the tracked labels are the
original ones or those paused, and right after a run has resumed what it read they are the original
ones. The originals must be such that a marker can be told from them, and the custom label must not
be that of the driver itself. -/
theorem labels_recovered {current : LabelMap} (hcustom : custom ≠ some driverLabelKey)
    (hclean : ∀ key, Tracked custom key → Clean (original key))
    (hstart : Settled custom original initial) (hreach : Reaches custom node initial current) :
    Settled custom original current ∧
      ∀ (c : Config) (t : Timings) (looks : Nat) (history : NodeHistory)
        (result : Option (Except (Report UninstallError) UninstallOutcome)) (after : Memory),
        c.customEvictionLabel = custom →
        (uninstall c t looks).Runs Memory.fresh history result after →
        Faithful node current history →
        ∀ (read : LabelMap) (before rest : NodeHistory),
          ⟨.nodeLabels node, .ok read⟩ ∈ before →
          history = before ++
            ⟨.updateLabels node (captured custom read).resumedLabels, .ok ()⟩ :: rest →
          Restored custom original (labelsAfter node current (before ++
            [⟨.updateLabels node (captured custom read).resumedLabels, .ok ()⟩])) := by
  -- by induction on the runs so far, of which each starts on settled labels
  have hcurrent : Settled custom original current := by
    induction hreach with
    | start => exact hstart
    | run _ hc hrun hfaithful ih =>
      exact settled_through_run hcustom hclean ih hc hrun hfaithful _ []
        (List.append_nil _).symm
  refine ⟨hcurrent, ?_⟩
  intro c t looks history result after hc hrun hfaithful read before rest hread hsplit
  have hsettled := settled_through_run hcustom hclean hcurrent hc hrun hfaithful
  rw [labelsAfter_concat, labelsStep_ok]
  refine Settled.overlay_resumed hclean ?_ (hsettled before _ hsplit)
  refine settled_of_read (hsplit ▸ hfaithful) (fun past later hbefore => ?_) hread
  exact hsettled past _ (by rw [hsplit, hbefore, List.append_assoc])

/-- The first of two runs is cut off after it has read the labels, and the second one resumes them,
although it cannot cordon the node: also the component that was paused in the beginning. -/
theorem labels_recovered_by_second_run :
    let original := fun key => resume (NodeState.loaded.labels.getD key)
    let r : Rehearsal := .failing .cordon
    let history := (uninstall .thorough .default 2).history Rehearsal.reply Memory.fresh r
    ∃ before rest,
      history = before ++ rest ∧
        Settled (some "team/operand") original NodeState.loaded.labels ∧
        Restored (some "team/operand") original
          (labelsAfter "node" NodeState.loaded.labels before) := by
  intro original r history
  have hrun : (uninstall .thorough .default 2).Runs Memory.fresh history _ _ :=
    Process.runs_history Rehearsal.reply (uninstall .thorough .default 2) Memory.fresh r
  have hfaithful : Faithful "node" NodeState.loaded.labels history := by decide +kernel
  have htracked : ∀ {holds : String → Prop},
      (∀ component ∈ Component.all, holds component.labelKey) → holds "team/operand" →
      ∀ key, Tracked (some "team/operand") key → holds key := by
    rintro holds hcomponents hoperand key (⟨component, rfl⟩ | hkey)
    · exact hcomponents component component.mem_all
    · exact Option.some.inj hkey ▸ hoperand
  have hclean : ∀ key, Tracked (some "team/operand") key → Clean (original key) :=
    htracked (by decide +kernel) (by decide +kernel)
  have hstart : Settled (some "team/operand") original NodeState.loaded.labels :=
    htracked (by decide +kernel) (by decide +kernel)
  have hreach : Reaches (some "team/operand") "node" NodeState.loaded.labels
      NodeState.loaded.labels := by
    have hcut : history = history.take 5 ++ history.drop 5 :=
      (List.take_append_drop 5 history).symm
    have hlabels : labelsAfter "node" NodeState.loaded.labels (history.take 5) =
        NodeState.loaded.labels := by
      rfl
    rw [hcut] at hrun hfaithful
    obtain ⟨stopped, hstopped⟩ := hrun.cut
    rw [← hlabels]
    exact .run (c := .thorough) .start rfl hstopped (faithful_append.1 hfaithful).1
  obtain ⟨hcurrent, hrestored⟩ := labels_recovered (by decide +kernel) hclean hstart hreach
  have hread : ⟨.nodeLabels "node", .ok NodeState.loaded.labels⟩ ∈ history.take 14 :=
    mem_of_findSome?_labelsRead (by decide +kernel)
  have hresumed : history[14]?.bind (labelsWritten "node") =
      some (stateRead .thorough NodeState.loaded.labels LabelMap.empty).resumedLabels := by
    rfl
  have hsplit := split_of_labelsWritten hresumed
  rw [resumedLabels_stateRead] at hsplit
  refine ⟨_, _, hsplit.trans (List.append_cons _ _ _), hcurrent, ?_⟩
  exact hrestored .thorough .default 2 history _ _ rfl hrun hfaithful _ _ _ hread hsplit

end DriverHandover
