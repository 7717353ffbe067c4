import DriverHandover.Proofs.Uninstall.Confined

/-!
# The labels of a node through a history

Where nobody else writes the labels of a node, a history of calls says what they are: each update
that succeeded was written over what was there, and one that failed changed nothing.

## Main definitions

* `labelsAfter` – the labels of a node after a history.
* `Faithful` – the successful reads of a history return the labels that the node has then.
* `NodeCall.Relabels` – the calls that may change labels.

## Main statements

* `Faithful.read_eq` – what a read in a faithful history returned.
* `labelsAfter_of_not_relabels` – a history without updates leaves the labels as they were.
-/

namespace DriverHandover

/-- Calls that may change the labels of a node. -/
def NodeCall.Relabels : NodeCall → Prop
  | .updateLabels _ _ => True
  | _ => False

/-- What a successful read of the labels of a node returned. -/
def labelsRead (node : String) : NodeExchange → Option LabelMap
  | ⟨.nodeLabels name, .ok read⟩ => if name = node then some read else none
  | _ => none

/-- What a successful update wrote to a node. -/
def labelsWritten (node : String) : NodeExchange → Option LabelMap
  | ⟨.updateLabels name written, .ok _⟩ => if name = node then some written else none
  | _ => none

/-- The labels of a node after a call. -/
def labelsStep (node : String) (labels : LabelMap) (e : NodeExchange) : LabelMap :=
  match labelsWritten node e with
  | some written => labels.overlay written
  | none => labels

/-- The labels of a node after a history. -/
def labelsAfter (node : String) (labels : LabelMap) (history : NodeHistory) : LabelMap :=
  history.foldl (labelsStep node) labels

/-- Every successful read of the labels of a node returns what they are then. -/
def Faithful (node : String) : LabelMap → NodeHistory → Prop
  | _, [] => True
  | labels, e :: rest =>
    (∀ read ∈ labelsRead node e, read = labels) ∧ Faithful node (labelsStep node labels e) rest

instance Faithful.decidable (node : String) :
    ∀ (labels : LabelMap) (history : NodeHistory), Decidable (Faithful node labels history)
  | _, [] => inferInstanceAs (Decidable True)
  | labels, e :: rest =>
    have : Decidable (Faithful node (labelsStep node labels e) rest) :=
      Faithful.decidable node (labelsStep node labels e) rest
    inferInstanceAs (Decidable (_ ∧ _))

variable {node : String} {labels read written : LabelMap} {past later before after : NodeHistory}
variable {e : NodeExchange}

theorem labelsAfter_append (node : String) (labels : LabelMap) (past later : NodeHistory) :
    labelsAfter node labels (past ++ later) =
      labelsAfter node (labelsAfter node labels past) later :=
  List.foldl_append

theorem labelsAfter_concat (node : String) (labels : LabelMap) (past : NodeHistory)
    (e : NodeExchange) :
    labelsAfter node labels (past ++ [e]) = labelsStep node (labelsAfter node labels past) e :=
  labelsAfter_append node labels past [e]

theorem labelsWritten_of_not_relabels (h : ¬e.1.Relabels) : labelsWritten node e = none := by
  obtain ⟨call, reply⟩ := e
  cases call with
  | updateLabels name written => exact absurd trivial h
  | _ => rfl

theorem labelsStep_of_not_relabels (h : ¬e.1.Relabels) : labelsStep node labels e = labels := by
  rw [labelsStep, labelsWritten_of_not_relabels h]

/-- A history without updates leaves the labels as they were. -/
theorem labelsAfter_of_not_relabels (h : ∀ e ∈ past, ¬e.1.Relabels) :
    labelsAfter node labels past = labels := by
  induction past with
  | nil => rfl
  | cons e rest ih =>
    obtain ⟨he, hrest⟩ := List.forall_mem_cons.1 h
    show labelsAfter node (labelsStep node labels e) rest = labels
    rw [labelsStep_of_not_relabels he]
    exact ih hrest

theorem labelsStep_ok (node : String) (labels written : LabelMap) :
    labelsStep node labels ⟨.updateLabels node written, .ok ()⟩ = labels.overlay written := by
  rw [labelsStep, labelsWritten, if_pos rfl]

theorem labelsStep_error (node name : String) (labels written : LabelMap)
    (report : Report ClusterError) :
    labelsStep node labels ⟨.updateLabels name written, .error report⟩ = labels :=
  rfl

theorem eq_of_labelsRead (h : labelsRead node e = some read) :
    e = ⟨.nodeLabels node, .ok read⟩ := by
  obtain ⟨call, reply⟩ := e
  cases call with
  | nodeLabels name =>
    cases reply with
    | error report => cases h
    | ok found =>
      rw [labelsRead] at h
      split at h
      · rename_i hname
        cases h
        rw [hname]
      · cases h
  | _ => cases h

theorem eq_of_labelsWritten (h : labelsWritten node e = some written) :
    e = ⟨.updateLabels node written, .ok ()⟩ := by
  obtain ⟨call, reply⟩ := e
  cases call with
  | updateLabels name labels =>
    cases reply with
    | error report => cases h
    | ok _ =>
      rw [labelsWritten] at h
      split at h
      · rename_i hname
        cases h
        rw [hname]
      · cases h
  | _ => cases h

/-- A read can be looked up in a history. -/
theorem mem_of_findSome?_labelsRead (h : past.findSome? (labelsRead node) = some read) :
    ⟨.nodeLabels node, .ok read⟩ ∈ past := by
  obtain ⟨e, he, hread⟩ := List.exists_of_findSome?_eq_some h
  exact eq_of_labelsRead hread ▸ he

/-- An update can be looked up in a history. -/
theorem split_of_labelsWritten {n : Nat} (h : past[n]?.bind (labelsWritten node) = some written) :
    past = past.take n ++ ⟨.updateLabels node written, .ok ()⟩ :: past.drop (n + 1) := by
  obtain ⟨e, he, hwritten⟩ := Option.bind_eq_some_iff.1 h
  obtain ⟨hn, hget⟩ := List.getElem?_eq_some_iff.1 he
  rw [← eq_of_labelsWritten hwritten, ← hget, List.getElem_cons_drop, List.take_append_drop]

/-- No more than `n` calls of a kind are made, if each one comes when fewer have been made. -/
theorem countP_le_of_before {n : Nat} {kind : NodeExchange → Bool}
    (h : ∀ before e rest, past = before ++ e :: rest → kind e = true → before.countP kind < n) :
    past.countP kind ≤ n := by
  induction past generalizing n with
  | nil => exact Nat.zero_le n
  | cons e rest ih =>
    cases he : kind e with
    | false =>
      have hskip : ∀ before : NodeHistory, (e :: before).countP kind = before.countP kind :=
        fun before => List.countP_cons_of_neg (by rw [he]; exact Bool.false_ne_true)
      rw [hskip]
      refine ih fun before f after hsplit hf => ?_
      rw [← hskip]
      exact h (e :: before) f after (congrArg (e :: ·) hsplit) hf
    | true =>
      have hstep : ∀ before : NodeHistory, (e :: before).countP kind = before.countP kind + 1 :=
        fun before => List.countP_cons_of_pos he
      -- the first one leaves room for one less
      obtain ⟨m, rfl⟩ := Nat.exists_eq_succ_of_ne_zero (Nat.ne_of_gt (h [] e rest rfl he))
      rw [hstep]
      refine Nat.succ_le_succ (ih fun before f after hsplit hf => ?_)
      have hlt := h (e :: before) f after (congrArg (e :: ·) hsplit) hf
      rw [hstep] at hlt
      exact Nat.lt_of_succ_lt_succ hlt

/-- Entering a stage has one reply only. -/
theorem enter_mem {stage : Stage} (h : .enter stage ∈ past.map (·.1)) :
    ⟨.enter stage, ()⟩ ∈ past := by
  obtain ⟨⟨call, reply⟩, he, rfl⟩ := List.mem_map.1 h
  exact he

/-- What every call of a history keeps, given that it held so far, holds throughout. -/
theorem labelsAfter_invariant {holds : LabelMap → Prop} {history : NodeHistory}
    (hstart : holds labels)
    (hstep : ∀ before e after, history = before ++ e :: after →
      (∀ past later, before = past ++ later → holds (labelsAfter node labels past)) →
      holds (labelsStep node (labelsAfter node labels before) e)) :
    ∀ before after, history = before ++ after → holds (labelsAfter node labels before) := by
  intro before
  -- on the length, because the last call is split off while the condition is about all beginnings
  induction hlength : before.length using Nat.strongRecOn generalizing before with
  | ind n ih =>
    intro after hhistory
    rcases List.eq_nil_or_concat before with rfl | ⟨init, e, rfl⟩
    · exact hstart
    · rw [List.concat_eq_append] at hlength hhistory ⊢
      rw [labelsAfter_concat]
      rw [List.append_assoc] at hhistory
      refine hstep init e after hhistory fun past later hinit => ?_
      refine ih past.length ?_ past rfl (later ++ e :: after) ?_
      · rw [← hlength, hinit, List.length_append, List.length_append]
        exact Nat.lt_succ_of_le (Nat.le_add_right _ _)
      · rw [hhistory, hinit, List.append_assoc]
        rfl

theorem faithful_append :
    Faithful node labels (past ++ later) ↔
      Faithful node labels past ∧ Faithful node (labelsAfter node labels past) later := by
  induction past generalizing labels with
  | nil => exact ⟨fun h => ⟨trivial, h⟩, fun h => h.2⟩
  | cons e rest ih =>
    show _ ∧ Faithful node (labelsStep node labels e) (rest ++ later) ↔ _
    rw [ih, ← and_assoc]
    rfl

/-- A read in a faithful history returned the labels that the node had then. -/
theorem Faithful.read_eq
    (h : Faithful node labels (before ++ ⟨.nodeLabels node, .ok read⟩ :: after)) :
    read = labelsAfter node labels before := by
  obtain ⟨hread, -⟩ := (faithful_append.1 h).2
  exact hread read (by rw [labelsRead, if_pos rfl]; rfl)

end DriverHandover
