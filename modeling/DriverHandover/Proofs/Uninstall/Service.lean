import DriverHandover.Proofs.Uninstall.Cordoning
import DriverHandover.Proofs.Uninstall.History

/-!
# The runs of one process

A process keeps what it remembers of its node from one run to the next. A node that one run could
not open is still known to be cordoned in the next one, which tries again.

## Main definitions

* `Serves` – what the runs of a process come to, one after the other.

## Main statements

* `cordon_disciplined` – what holds of the node in each run of a process.
-/

namespace DriverHandover

open Uninstall

variable {c : Config} {t : Timings} {memory kept : Memory} {past : NodeHistory}

/-- What the runs of a process come to, one after the other: the calls of all of them together, and
what the process keeps. A run may also be abandoned at a call. -/
inductive Serves (c : Config) (t : Timings) : NodeHistory → Memory → Prop where
  | start : Serves c t [] Memory.fresh
  | run {past history : NodeHistory} {memory kept : Memory} {looks : Nat} :
      Serves c t past memory → (uninstall c t looks).Rests memory history kept →
        Serves c t (past ++ history) kept

/-- Wherever a run rests, the process remembers whether the node is cordoned. -/
theorem uninstall_inStep {looks : Nat} {history : NodeHistory}
    (hrests : (uninstall c t looks).Rests memory history kept) :
    kept.cordoned = cordonedAfter c.nodeName memory.cordoned history :=
  uninstall_disciplined.at_rest
    (fun kept past => kept.cordoned = cordonedAfter c.nodeName memory.cordoned past)
    (fun _ _ _ h => h.1) (fun _ _ _ h => h.1) hrests

theorem Serves.inStep (h : Serves c t past memory) :
    memory.cordoned = cordonedAfter c.nodeName false past := by
  induction h with
  | start => rfl
  | run _ hrests ih =>
    rw [uninstall_inStep hrests, ih, cordonedAfter_append]

/-- A process that starts on an open node knows at every rest whether the node is cordoned, however
many runs it has made and whatever the replies were. In each of these runs it removes pods only from
a cordoned node, and cordons the node at most once; and a run that has read the node and ends has
given the node back. -/
theorem cordon_disciplined {history : NodeHistory} {looks : Nat}
    {result : Option (Except (Report UninstallError) UninstallOutcome)} {after : Memory}
    (hserves : Serves c t past memory)
    (hrun : (uninstall c t looks).Runs memory history result after) :
    (∀ before kept, (uninstall c t looks).Rests memory before kept →
      kept.cordoned = cordonedAfter c.nodeName false (past ++ before)) ∧
    (∀ e ∈ history, ∀ node, e.1.steeredNode? = some node → node = c.nodeName) ∧
    (∀ before e rest, history = before ++ e :: rest → e.1.RemovesPods →
      cordonedAfter c.nodeName false (past ++ before) = true) ∧
    history.countP (hasCordoned c.nodeName) ≤ 1 ∧
    ∀ ended, result = some ended →
      after.cordoned = cordonedAfter c.nodeName false (past ++ history) ∧
      (⟨.enter .labelsFetched, ()⟩ ∈ history ∨ ¬EndsEarly c history ended →
        HandedBack c (cordonedAfter c.nodeName false past) after history) := by
  have hstart : cordonedAfter c.nodeName false past = memory.cordoned := hserves.inStep.symm
  obtain ⟨hcalls, hend⟩ := (uninstall_disciplined (c := c) (t := t)).ensures.of_runs hrun
  refine ⟨fun before kept hrests => ?_, fun e he node hnode => ?_,
    fun before e rest hsplit hremoves => ?_, ?_, ?_⟩
  · rw [cordonedAfter_append, hstart]
    exact uninstall_inStep hrests
  · obtain ⟨before, rest, hsplit⟩ := List.append_of_mem he
    obtain ⟨kept, hcall⟩ := hcalls before e rest hsplit
    exact hcall.ownNode node hnode
  · obtain ⟨kept, hcall⟩ := hcalls before e rest hsplit
    rw [cordonedAfter_append, hstart]
    exact hcall.inStep.symm.trans (hcall.cordoned hremoves)
  · refine countP_le_of_before fun before e rest hsplit hcordons => ?_
    obtain ⟨kept, hcall⟩ := hcalls before e rest hsplit
    obtain rfl := eq_of_hasCordoned hcordons
    have hnone : before.countP (hasCordoned c.nodeName) = 0 := by
      simpa [List.countP_eq_zero] using hcall.first c.nodeName rfl
    rw [hnone]
    exact Nat.one_pos
  · intro ended hresult
    rw [cordonedAfter_append, hstart]
    refine ⟨(hend ended hresult).1, fun hread => ?_⟩
    rcases (hend ended hresult).2 with ⟨hearly, hdeclines⟩ | hback
    · rcases hread with hentered | hlate
      · exact absurd rfl (hdeclines _ hentered)
      · exact absurd hearly hlate
    · exact hback

/-- A node that the first run could not open is still cordoned when the second one gives it back,
which opens it. -/
theorem opened_by_second_run :
    ∃ past memory history ended after,
      Serves .thorough .default past memory ∧ memory.cordoned = true ∧
        (uninstall .thorough .default 2).Runs memory history (some ended) after ∧
        ⟨.enter .labelsFetched, ()⟩ ∈ history ∧
        history.countP (hasCordoned "node") = 1 ∧
        HandedBack .thorough (cordonedAfter "node" false past) after history ∧
        cordonedAfter "node" false (past ++ history) = false := by
  let p := uninstall .thorough .default 2
  let first := p.run Rehearsal.reply Memory.fresh (.failing .uncordon)
  let history := p.history Rehearsal.reply first.2.1 (.failing .drain)
  have hfirst := Process.runs_history Rehearsal.reply p Memory.fresh (.failing .uncordon)
  have hrun := Process.runs_history Rehearsal.reply p first.2.1 (.failing .drain)
  obtain ⟨_, hended⟩ : ∃ ended, first.1 = some ended :=
    Option.isSome_iff_exists.1 (by decide +kernel)
  obtain ⟨ended, hended'⟩ :
      ∃ ended, (p.run Rehearsal.reply first.2.1 (.failing .drain)).1 = some ended :=
    Option.isSome_iff_exists.1 (by decide +kernel)
  rw [hended] at hfirst
  rw [hended'] at hrun
  have hserves := Serves.run Serves.start hfirst.rests
  have hcordoned : first.2.1.cordoned = true := by decide +kernel
  have hread : ⟨.enter .labelsFetched, ()⟩ ∈ history := enter_mem (by decide +kernel)
  have honce : history.countP (hasCordoned "node") = 1 := by decide +kernel
  have hopen : (p.run Rehearsal.reply first.2.1 (.failing .drain)).2.1.cordoned = false := by
    decide +kernel
  obtain ⟨-, -, -, -, hend⟩ := cordon_disciplined hserves hrun
  obtain ⟨hinStep, hback⟩ := hend ended rfl
  exact ⟨_, _, _, _, _, hserves, hcordoned, hrun, hread, honce, hback (.inl hread),
    hinStep.symm.trans hopen⟩

end DriverHandover
