import DriverHandover.Proofs.Uninstall.EarlyEnd
import DriverHandover.Proofs.Uninstall.Service

/-!
# Another writer during a run

A run reads the labels of its node once, and both label sets that it writes are made from what it
has read. So what somebody else writes after that is lost when the run resumes the components, and
stays only where the run does not write.

## Main definitions

* `labelsAmid` – the labels of a node on which somebody else sets one in the middle of a history.
* `WritesLater` – a run still writes the label of a component.

## Main statements

* `Course.of_labelsRead` – the labels are read once, before anything acts on the node.
* `disabled_component_kept_unless_written` – what becomes of a component that is disabled meanwhile.
* `disabled_component_resumed` – it may be resumed nevertheless.
-/

namespace DriverHandover

open Uninstall

/-- The labels of a node on which somebody else sets one between two parts of a history. -/
def labelsAmid (node : String) (labels : LabelMap) (key value : String)
    (before later : NodeHistory) : LabelMap :=
  labelsAfter node ((labelsAfter node labels before).insert key value) later

/-- Whether a run that has yet to make the calls of `later` still writes the label of a
component. -/
def WritesLater (labels : LabelMap) (component : Component) (later : NodeHistory) : Prop :=
  (∃ e ∈ later, e.1.Relabels) ∧
    (component.alwaysWritten = true ∨ labels.getD component.labelKey ≠ "")

variable {c : Config} {t : Timings} {looks : Nat} {memory after kept : Memory}
variable {past before later history : NodeHistory} {initial read labels : LabelMap}
variable {node key value : String}

theorem NodeCall.Relabels.acts {call : NodeCall} (h : call.Relabels) : call.Acts := by
  cases call with
  | updateLabels => trivial
  | _ => cases h

/-- A label that no update writes stays as it is. -/
theorem get?_labelsAfter_of_unwritten
    (h : ∀ e ∈ past, ∀ written, labelsWritten node e = some written → written.get? key = none) :
    (labelsAfter node labels past).get? key = labels.get? key := by
  induction past generalizing labels with
  | nil => rfl
  | cons e rest ih =>
    obtain ⟨he, hrest⟩ := List.forall_mem_cons.1 h
    show (labelsAfter node (labelsStep node labels e) rest).get? key = labels.get? key
    rw [ih hrest, labelsStep]
    split
    · rename_i written hwritten
      rw [LabelMap.get?_overlay, he written hwritten]
      rfl
    · rfl

/-- The labels of a node are read once, and nothing has acted on the node before. -/
theorem Course.of_labelsRead
    {result : Option (Except (Report UninstallError) UninstallOutcome)}
    (h : Course c history result) (hread : ⟨.nodeLabels c.nodeName, .ok read⟩ ∈ history) :
    ∃ start rest, history = start ++ ⟨.nodeLabels c.nodeName, .ok read⟩ :: rest ∧
      (∀ e ∈ start, ¬e.1.Acts ∧ e.1 ≠ .nodeLabels c.nodeName) ∧
      ∀ e ∈ rest, e.1 ≠ .nodeLabels c.nodeName := by
  have hstart : ∀ {checks : NodeHistory} {skip : Bool}, SkipCheck c checks skip →
      ∀ e ∈ preamble ++ checks, ¬e.1.Acts ∧ e.1 ≠ .nodeLabels c.nodeName := by
    intro checks skip hcheck e he
    have hmem : e ∈ preamble ++ checks ++ [] := by simpa using he
    refine ⟨hcheck.not_acts (List.forall_mem_nil _) e hmem, fun hcall => ?_⟩
    have hnil := hcheck.mem_of_readsNode hmem (by rw [hcall]; trivial)
    cases hnil
  cases h with
  | refused version reply hrest =>
    rcases List.mem_cons.1 hread with hread | hread
    · cases hread
    rcases List.mem_cons.1 hread with hread | hread
    · cases hread
    · exact absurd trivial (hrest _ hread).2.1
  | skipped hcheck =>
    have hmem := hcheck.mem_of_readsNode hread trivial
    simp at hmem
  | labelsUnread report hcheck =>
    have hmem := hcheck.mem_of_readsNode hread trivial
    simp at hmem
  | annotationsUnread found report hcheck =>
    have hmem := hcheck.mem_of_readsNode hread trivial
    obtain rfl : read = found := by simpa using hmem
    exact ⟨_, _, rfl, hstart hcheck, by simp⟩
  | handedOver found annotations hcheck hrest =>
    rcases List.mem_append.1 (hcheck.mem_of_readsNode hread trivial) with hmem | hmem
    · obtain rfl : read = found := by simpa [reads] using hmem
      refine ⟨_, _, rfl, hstart hcheck, List.forall_mem_cons.2 ⟨by simp, fun e he hcall => ?_⟩⟩
      exact hrest e he (by rw [hcall]; trivial)
    · exact absurd trivial (hrest _ hmem)

/-- Whatever a run has read is what the labels were in the beginning, if somebody else writes only
after that. -/
theorem read_eq_initial {result : Option (Except (Report UninstallError) UninstallOutcome)}
    (hcourse : Course c (before ++ later) result)
    (hread : ⟨.nodeLabels c.nodeName, .ok read⟩ ∈ before)
    (hfaithful : Faithful c.nodeName initial before) {found : LabelMap}
    (hfound : ⟨.nodeLabels c.nodeName, .ok found⟩ ∈ before ++ later) : found = initial := by
  obtain ⟨start, rest, hsplit, hstart, hrest⟩ :=
    hcourse.of_labelsRead (List.mem_append_left later hread)
  have hquiet : ∀ e ∈ start, ¬e.1.Relabels := fun e he hrelabels =>
    (hstart e he).1 hrelabels.acts
  have hunread : ∀ {found : LabelMap}, ⟨.nodeLabels c.nodeName, .ok found⟩ ∉ start :=
    fun hmem => (hstart _ hmem).2 rfl
  have hunread' : ∀ {found : LabelMap}, ⟨.nodeLabels c.nodeName, .ok found⟩ ∉ rest :=
    fun hmem => hrest _ hmem rfl
  have hsame : found = read := by
    rw [hsplit] at hfound
    rcases List.mem_append.1 hfound with hmem | hmem
    · exact absurd hmem hunread
    rcases List.mem_cons.1 hmem with heq | hmem
    · cases heq
      rfl
    · exact absurd hmem hunread'
  -- so the read that is known is this one, and the labels had not been written before it
  obtain ⟨front, back, rfl⟩ := List.append_of_mem hread
  rw [List.append_assoc, List.cons_append] at hsplit
  obtain ⟨rfl, -, -⟩ := (List.append_cons_inj_of_notMem hunread hunread').1 hsplit.symm
  rw [hsame, hfaithful.read_eq, labelsAfter_of_not_relabels hquiet]

/-- The update that pauses the components writes the keys that the run writes at all. -/
theorem PausedAs.unwritten (h : PausedAs c initial past)
    (hkey : ¬WrittenKey c.customEvictionLabel initial key) :
    ∀ e ∈ past, ∀ written, labelsWritten c.nodeName e = some written →
      written.get? key = none := by
  have hquiet : ∀ {e : NodeExchange} {written : LabelMap}, ¬e.1.Relabels →
      labelsWritten c.nodeName e = some written → written.get? key = none := by
    intro e written hcall hwritten
    rw [labelsWritten_of_not_relabels hcall] at hwritten
    cases hwritten
  obtain ⟨before, reply, between, rfl, hread, hbetween⟩ := h
  intro e he written hwritten
  rcases List.mem_append.1 he with he | he
  · exact hquiet (hread.not_relabels e he) hwritten
  rcases List.mem_cons.1 he with rfl | he
  · cases eq_of_labelsWritten hwritten
    rw [ComponentState.pausedLabels, get?_encodeLabels_captured, if_neg hkey]
  · exact hquiet (hbetween e he) hwritten

/-- What the run writes when it resumes the components stays. -/
theorem labelsAfter_resumed (labels : LabelMap) (past : NodeHistory) {rest : NodeHistory}
    (hrest : ∀ e ∈ rest, e.1.Finishes) (written : LabelMap) :
    labelsAfter node labels (past ++ ⟨.updateLabels node written, .ok ()⟩ :: rest) =
      (labelsAfter node labels past).overlay written := by
  rw [List.append_cons, labelsAfter_append,
    labelsAfter_of_not_relabels fun e he => (hrest e he).not_relabels, labelsAfter_concat,
    labelsStep_ok]

/-- Somebody else sets a label before the components are resumed: the run still writes it, if it
writes it at all. -/
theorem PausedAs.getD_resumed_amid (h : PausedAs c initial (before ++ past)) (labels : LabelMap)
    (key value : String) {rest : NodeHistory} (hrest : ∀ e ∈ rest, e.1.Finishes) :
    (labelsAfter c.nodeName (labels.insert key value) (past ++ ⟨.updateLabels c.nodeName
        (captured c.customEvictionLabel initial).resumedLabels, .ok ()⟩ :: rest)).getD key =
      if WrittenKey c.customEvictionLabel initial key then resume (initial.getD key)
      else value := by
  have hget := get?_encodeLabels_captured c.customEvictionLabel initial resume key
  rw [labelsAfter_resumed _ _ hrest]
  by_cases hkey : WrittenKey c.customEvictionLabel initial key
  · rw [if_pos hkey] at hget ⊢
    exact LabelMap.getD_overlay_of_some hget
  · rw [if_neg hkey] at hget ⊢
    rw [ComponentState.resumedLabels, LabelMap.getD_overlay_of_none hget, LabelMap.getD,
      get?_labelsAfter_of_unwritten fun e he =>
        h.unwritten hkey e (List.mem_append_right before he)]
    simp

/-- What becomes of the label of a component that somebody else sets while a run is under way that
has read its node. -/
theorem ResumedAs.getD_amid (h : ResumedAs c initial (before ++ later))
    (hcluster : ClusterSucceeds (before ++ later)) (labels : LabelMap) {component : Component} :
    let final := labelsAfter c.nodeName (labels.insert component.labelKey value) later
    (WritesLater initial component later →
      final.getD component.labelKey = resume (initial.getD component.labelKey)) ∧
    (¬WritesLater initial component later → final.getD component.labelKey = value) := by
  intro final
  obtain ⟨past, reply, rest, hsplit, hpaused, hrest⟩ := h
  obtain rfl : reply = .ok () :=
    hcluster.update_ok (hsplit ▸ List.mem_append_right past List.mem_cons_self)
  by_cases hupdate : ∃ e ∈ later, e.1.Relabels
  · -- the components are still to be resumed
    obtain ⟨between, rfl, rfl⟩ : ∃ between, past = before ++ between ∧
        later = between ++ ⟨.updateLabels c.nodeName
          (captured c.customEvictionLabel initial).resumedLabels, .ok ()⟩ :: rest := by
      rcases List.append_eq_append_iff.1 hsplit with ⟨between, h, h'⟩ | ⟨between, h, h'⟩
      · exact ⟨between, h, h'⟩
      · cases between with
        | nil => exact ⟨[], by simpa using h.symm, by simpa using h'.symm⟩
        | cons e between =>
          obtain ⟨e, he, hrelabels⟩ := hupdate
          have hmem : e ∈ rest := by
            rw [List.cons_append] at h'
            exact (List.cons.inj h').2 ▸ List.mem_append_right between he
          exact absurd hrelabels (hrest e hmem).not_relabels
    have hfinal := hpaused.getD_resumed_amid labels component.labelKey value hrest
    refine ⟨fun hwrites => ?_, fun hwrites => ?_⟩
    · exact hfinal.trans (if_pos (writtenKey_labelKey_iff.2 hwrites.2))
    · exact hfinal.trans (if_neg fun hkey => hwrites ⟨hupdate, writtenKey_labelKey_iff.1 hkey⟩)
  · refine ⟨fun hwrites => absurd hwrites.1 hupdate, fun _ => ?_⟩
    have hquiet : ∀ e ∈ later, ¬e.1.Relabels := fun e he hrelabels => hupdate ⟨e, he, hrelabels⟩
    show (labelsAfter _ _ later).getD _ = value
    rw [labelsAfter_of_not_relabels hquiet]
    simp [LabelMap.getD]

namespace Uninstall

theorem fetchState_keeping_custom (hcustom : c.customEvictionLabel = none) :
    Keeping (fun memory => memory.components.custom) (fun _ => True) (fetchState c).run := by
  have hcapture : ∀ (memory : Memory) (labels : LabelMap),
      (memory.components.capture c.customEvictionLabel labels).custom =
        memory.components.custom := by
    intro memory labels
    rw [hcustom]
    rfl
  refine RunStep.keeping_bind (RunStep.keeping_attempt (keeping_ask trivial)) fun labels => ?_
  refine RunStep.keeping_bind ?_ fun _ => ?_
  · exact keeping_bind (keeping_modify fun memory => hcapture memory labels) fun _ => keeping_pure _
  refine RunStep.keeping_bind (RunStep.keeping_attempt (keeping_ask trivial)) fun annotations => ?_
  exact keeping_bind (keeping_modify fun _ => rfl) fun _ => keeping_pure _

/-- A process that is not to look at a label for custom operands never captures one. -/
theorem uninstall_keeping_custom (hcustom : c.customEvictionLabel = none) :
    Keeping (fun memory => memory.components.custom) (fun _ => True) (uninstall c t looks) := by
  have hfinish : ∀ result,
      Keeping (fun memory => memory.components.custom) (fun _ => True) (finish result) :=
    finish_keeping (fun _ _ => rfl) fun _ => trivial
  rw [uninstall_eq]
  refine keeping_bind (keeping_ask trivial) fun version => ?_
  cases version with
  | some version =>
    refine keeping_bind ?_ hfinish
    refine RunStep.keeping_bind (RunStep.keeping_attempt (keeping_ask trivial)) fun _ => ?_
    refine RunStep.keeping_bind (RunStep.keeping_lift (keeping_ask trivial)) fun _ => ?_
    exact RunStep.keeping_throw _
  | none =>
    refine keeping_bind (keeping_enter (fun _ _ => rfl) trivial) fun _ => ?_
    have hskip : Keeping (fun memory => memory.components.custom) NodeCall.Looks (canSkip c) := by
      intro memory past
      refine (canSkip_guarantees fun _ _ hlater hcall => ⟨hcall, rfl, hlater⟩).imp ?_
      rintro _ _ _ ⟨rfl, hlater, -⟩
      exact ⟨rfl, hlater⟩
    refine keeping_bind (hskip.mono fun _ _ => trivial) fun skip => ?_
    cases skip with
    | true => exact hfinish (.ok .skipped)
    | false =>
      refine keeping_bind (fetchState_keeping_custom hcustom) fun fetched => ?_
      cases fetched with
      | error report => exact hfinish (.error report)
      | ok _ => exact (handOver_keeping.comp ComponentState.custom).mono fun _ _ => trivial

/-- A run that ends has ended early or resumed the components, also if its process has made other
runs before. -/
theorem uninstall_resumes
    (hcustom : c.customEvictionLabel = none → memory.components.custom = none) :
    (uninstall c t looks).Guarantees (fun _ _ _ => True)
      (fun result _ past => EndsEarly c past result ∨ ∃ read, ResumedAs c read past) memory [] := by
  refine uninstall_guarantees (fun _ _ _ _ _ _ => trivial) (fun _ _ _ h => .inl h.endsEarly) ?_
  intro kept before labels annotations _ hlooks hstate
  have hover : (handOver c t looks).Ensures (InOrder c) (fun _ _ later => ResumedAs c labels later)
      kept (before ++ reads c labels annotations) :=
    handOver_inOrder (hstate.trans (capture_setPolicy hcustom labels annotations))
      (readAs_reads hlooks labels annotations)
  refine (Process.ensures_iff_guarantees.1 hover).mono (fun _ _ _ _ => trivial) ?_
  exact fun _ _ _ h => .inr ⟨labels, h⟩

end Uninstall

theorem Serves.custom (h : Serves c t past memory) (hcustom : c.customEvictionLabel = none) :
    memory.components.custom = none := by
  induction h with
  | start => rfl
  | @run _ _ memory kept _ _ hrests ih =>
    have hkept : kept.components.custom = memory.components.custom :=
      (uninstall_keeping_custom hcustom memory []).at_rest
        (fun kept _ => kept.components.custom = memory.components.custom)
        (fun _ _ _ h => h.2.1) (fun _ _ _ h => h.1) hrests
    exact hkept.trans ih

/-- A run that has read the labels of its node, and in which no call to the cluster fails, resumes
the components. -/
theorem resumed_of_labelsRead {result : Except (Report UninstallError) UninstallOutcome}
    (hserves : Serves c t past memory)
    (hrun : (uninstall c t looks).Runs memory history (some result) after)
    (hread : ⟨.nodeLabels c.nodeName, .ok read⟩ ∈ history) (hcluster : ClusterSucceeds history) :
    ∃ found, ResumedAs c found history := by
  have hcourse := uninstall_course hrun.ends
  have hend := ((uninstall_resumes hserves.custom).ensures.of_runs hrun).2 _ rfl
  refine hend.resolve_left fun hearly => ?_
  rcases hearly with ⟨version, hfound⟩ | hskipped | ⟨report, hfailed⟩ | ⟨report, hfailed⟩
  · -- nothing is read on a node that has a driver of its own
    obtain ⟨front, reply, back, rfl, hquiet, -⟩ := hcourse.of_hostDriver hfound
    rcases List.mem_append.1 hread with hmem | hmem
    · exact (hquiet _ (List.mem_append_left back hmem)).2 trivial
    rcases List.mem_cons.1 hmem with heq | hmem
    · cases heq
    · exact (hquiet _ (List.mem_append_right front hmem)).2 trivial
  · cases hcourse with
    | refused | labelsUnread | annotationsUnread => cases hskipped
    | skipped hcheck =>
      have hmem := hcheck.mem_of_readsNode hread trivial
      simp at hmem
    | handedOver _ _ _ _ hne => exact hne (congrArg some hskipped)
  · exact Bool.noConfusion (hcluster _ hfailed)
  · exact Bool.noConfusion (hcluster _ hfailed)

/-- What such a run resumes is what the labels were in the beginning, if somebody else writes only
after it has read them. -/
theorem resumedAs_initial {result : Except (Report UninstallError) UninstallOutcome}
    (hserves : Serves c t past memory)
    (hrun : (uninstall c t looks).Runs memory (before ++ later) (some result) after)
    (hread : ⟨.nodeLabels c.nodeName, .ok read⟩ ∈ before)
    (hfaithful : Faithful c.nodeName initial before)
    (hcluster : ClusterSucceeds (before ++ later)) : ResumedAs c initial (before ++ later) := by
  obtain ⟨found, hresumed⟩ :=
    resumed_of_labelsRead hserves hrun (List.mem_append_left later hread) hcluster
  obtain rfl : found = initial := by
    obtain ⟨front, _, _, hsplit, hpaused, -⟩ := hresumed
    refine read_eq_initial (uninstall_course hrun.ends) hread hfaithful ?_
    exact hsplit ▸ List.mem_append_left _ hpaused.mem
  exact hresumed

/-- Somebody else disables a component while a run of a process is under way which has read its node
and in which no call to the cluster fails. If the run still writes the label of the component then,
that holds in the end what was read in the beginning, resumed; if not, the component stays
disabled. -/
theorem disabled_component_kept_unless_written
    {result : Except (Report UninstallError) UninstallOutcome} {component : Component}
    (hserves : Serves c t past memory)
    (hrun : (uninstall c t looks).Runs memory (before ++ later) (some result) after)
    (hread : ⟨.nodeLabels c.nodeName, .ok read⟩ ∈ before)
    (hfaithful : Faithful c.nodeName initial before)
    (hcluster : ClusterSucceeds (before ++ later)) :
    let final := labelsAmid c.nodeName initial component.labelKey "false" before later
    (WritesLater initial component later →
      final.getD component.labelKey = resume (initial.getD component.labelKey)) ∧
    (¬WritesLater initial component later → final.getD component.labelKey = "false") := by
  have hresumed : ResumedAs c initial (before ++ later) :=
    resumedAs_initial hserves hrun hread hfaithful hcluster
  exact hresumed.getD_amid hcluster _

/-- A run that goes through every phase without a failure. -/
def smoothHistory : NodeHistory :=
  (uninstall .thorough .default 2).history Rehearsal.reply Memory.fresh (.smooth .loaded)

theorem smoothHistory_runs (n : Nat) :
    ∃ after, (uninstall .thorough .default 2).Runs Memory.fresh
      (smoothHistory.take n ++ smoothHistory.drop n) (some (.ok .completed)) after := by
  have hrun := Process.runs_history Rehearsal.reply (uninstall .thorough .default 2) Memory.fresh
    (.smooth .loaded)
  have hresult : ((uninstall .thorough .default 2).run Rehearsal.reply Memory.fresh
      (.smooth .loaded)).1 = some (.ok .completed) :=
    eq_some_ok_of_outcome? (by decide +kernel)
  rw [hresult] at hrun
  rw [List.take_append_drop]
  exact ⟨_, hrun⟩

theorem smoothHistory_reads :
    ⟨.nodeLabels "node", .ok NodeState.loaded.labels⟩ ∈ smoothHistory.take 6 :=
  mem_of_findSome?_labelsRead (by decide +kernel)

theorem smoothHistory_faithful :
    Faithful "node" NodeState.loaded.labels (smoothHistory.take 6) := by
  decide +kernel

theorem smoothHistory_succeeds :
    ClusterSucceeds (smoothHistory.take 6 ++ smoothHistory.drop 6) := by
  decide +kernel

theorem smoothHistory_updates : ∃ e ∈ smoothHistory.drop 6, e.1.Relabels := by
  have hsome : ((smoothHistory.drop 6).findSome? (labelsWritten "node")).isSome = true := by
    decide +kernel
  obtain ⟨written, hwritten⟩ := Option.isSome_iff_exists.1 hsome
  obtain ⟨e, he, hwrites⟩ := List.exists_of_findSome?_eq_some hwritten
  obtain rfl := eq_of_labelsWritten hwrites
  exact ⟨_, he, trivial⟩

/-- A component that is disabled when the run has just paused it is resumed; one that is not written
while it is empty stays disabled. -/
theorem migManager_stays_disabled :
    ∃ before later after,
      (uninstall .thorough .default 2).Runs Memory.fresh (before ++ later) (some (.ok .completed))
        after ∧
      (∃ e ∈ later, e.1.Relabels) ∧
      (labelsAmid "node" NodeState.loaded.labels Component.devicePlugin.labelKey "false" before
        later).getD Component.devicePlugin.labelKey = "true" ∧
      (labelsAmid "node" NodeState.loaded.labels Component.migManager.labelKey "false" before
        later).getD Component.migManager.labelKey = "false" := by
  obtain ⟨after, hrun⟩ := smoothHistory_runs 6
  have hleaves : ¬WritesLater NodeState.loaded.labels .migManager (smoothHistory.drop 6) := by
    rintro ⟨-, hwritten⟩
    exact absurd hwritten (by decide +kernel)
  obtain ⟨hresumed, -⟩ := disabled_component_kept_unless_written .start hrun
    smoothHistory_reads smoothHistory_faithful smoothHistory_succeeds
  obtain ⟨-, hkept⟩ := disabled_component_kept_unless_written .start hrun
    smoothHistory_reads smoothHistory_faithful smoothHistory_succeeds
  exact ⟨_, _, after, hrun, smoothHistory_updates,
    (hresumed ⟨smoothHistory_updates, .inl rfl⟩).trans (by decide +kernel), hkept hleaves⟩

/-- Disabling a component does not keep a run from resuming it. -/
theorem disabled_component_resumed :
    ¬ ∀ (c : Config) (t : Timings) (looks : Nat) (past before later : NodeHistory)
      (memory after : Memory) (initial read : LabelMap) (component : Component)
      (result : Except (Report UninstallError) UninstallOutcome),
      Serves c t past memory →
      (uninstall c t looks).Runs memory (before ++ later) (some result) after →
      ⟨.nodeLabels c.nodeName, .ok read⟩ ∈ before →
      Faithful c.nodeName initial before → ClusterSucceeds (before ++ later) →
      (labelsAmid c.nodeName initial component.labelKey "false" before later).getD
        component.labelKey = "false" := by
  intro h
  obtain ⟨after, hrun⟩ := smoothHistory_runs 6
  have hresumed : ResumedAs .thorough NodeState.loaded.labels
      (smoothHistory.take 6 ++ smoothHistory.drop 6) :=
    resumedAs_initial .start hrun smoothHistory_reads smoothHistory_faithful smoothHistory_succeeds
  have hkept := h .thorough .default 2 [] _ _ _ after _ _ .devicePlugin _ .start hrun
    smoothHistory_reads smoothHistory_faithful smoothHistory_succeeds
  obtain ⟨hlost, -⟩ := hresumed.getD_amid smoothHistory_succeeds
    (labelsAfter "node" NodeState.loaded.labels (smoothHistory.take 6))
  have htrue := (hlost ⟨smoothHistory_updates, .inl rfl⟩).symm.trans hkept
  exact absurd htrue (by decide +kernel)

end DriverHandover
