import DriverHandover.Proofs.Cluster.Turns

/-!
# When removals go on

The removals under way stand in the order in which they go on. So the turns of a pool follow each
other in time, and each of them puts off the removals by no more than an interval.

## Main statements

* `Pool.Takes.pairwise_wake` – the turns of a pool follow each other in time.
* `Pool.Takes.wake_le_of_length` – each turn puts a removal off by an interval at most.
-/

namespace DriverHandover

open Session

namespace Pool

variable {ω : Type} {api : ApiServer ω} {plan : RemovalPlan} {horizon now : Instant}
variable {pool last : Pool} {s later : Session ω} {turns : List Turn} {r : Removal}
variable {rest active : List Removal} {waiting pods : List Pod}
variable {failures : List (Report ClusterError)}

/-- The removals under way stand in the order in which they go on. -/
def InOrder (pool : Pool) : Prop :=
  pool.active.Pairwise (·.wake ≤ ·.wake)

theorem pairwise_enqueue (h : active.Pairwise (·.wake ≤ ·.wake)) (r : Removal) :
    (enqueue r active).Pairwise (·.wake ≤ ·.wake) := by
  induction active with
  | nil => exact List.pairwise_singleton _ r
  | cons first rest ih =>
    obtain ⟨hfirst, hrest⟩ := List.pairwise_cons.1 h
    rw [enqueue]
    split
    · rename_i hle
      refine List.pairwise_cons.2 ⟨fun q hq => ?_, ih hrest⟩
      rcases mem_enqueue.1 hq with rfl | hq
      · exact hle
      · exact hfirst q hq
    · rename_i hlt
      have hle : r.wake ≤ first.wake := Nat.le_of_lt (Nat.lt_of_not_le hlt)
      refine List.pairwise_cons.2 ⟨fun q hq => ?_, h⟩
      rcases List.mem_cons.1 hq with rfl | hq
      · exact hle
      · exact Nat.le_trans hle (hfirst q hq)

theorem inOrder_start (now : Instant) (pods : List Pod) : (start now pods).InOrder := by
  refine List.pairwise_map.2 (List.pairwise_of_forall fun _ _ => ?_)
  exact Nat.le_refl now

theorem InOrder.settle (h : InOrder ⟨r :: rest, waiting, failures⟩) (now : Instant)
    (state : RemovalState) : (Pool.settle now r ⟨rest, waiting, failures⟩ state).InOrder := by
  have hrest : rest.Pairwise (·.wake ≤ ·.wake) := (List.pairwise_cons.1 h).2
  rcases settle_cases now r ⟨rest, waiting, failures⟩ state with
    ⟨next, -, heq⟩ | ⟨-, ⟨-, heq⟩ | ⟨p, others, -, heq⟩⟩
  · rw [heq]
    exact pairwise_enqueue hrest _
  · rw [heq]
    exact hrest
  · rw [heq]
    exact pairwise_enqueue hrest _

/-- A turn leaves no removal that goes on earlier. -/
theorem InOrder.wake_le (h : InOrder ⟨r :: rest, waiting, failures⟩) (state : RemovalState) :
    ∀ q ∈ (Pool.settle r.wake r ⟨rest, waiting, failures⟩ state).active, r.wake ≤ q.wake := by
  intro q hq
  rcases mem_settle hq with hq | ⟨p, -, rfl⟩ | ⟨next, -, rfl⟩
  · exact (List.pairwise_cons.1 h).1 q hq
  · exact Nat.le_refl _
  · exact Nat.le_add_right _ _

theorem Takes.inOrder (h : Takes api plan horizon pool s turns last later) (hpool : pool.InOrder) :
    last.InOrder := by
  induction h with
  | none => exact hpool
  | turn _ _ _ _ _ ih => exact ih.settle _ _

/-- What is under way goes on no earlier than what had a turn. -/
theorem Takes.wake_le (h : Takes api plan horizon pool s turns last later) (hpool : pool.InOrder) :
    ∀ t ∈ turns, ∀ r ∈ last.active, t.removal.wake ≤ r.wake := by
  induction h with
  | none => exact List.forall_mem_nil _
  | @turn turns r _ _ _ _ _ _ state htakes _ _ _ _ ih =>
    have hpast := (htakes.inOrder hpool).wake_le state
    intro t ht q hq
    rcases List.mem_append.1 ht with ht | ht
    · exact Nat.le_trans (ih t ht r List.mem_cons_self) (hpast q hq)
    · rw [List.mem_singleton.1 ht]
      exact hpast q hq

/-- The turns of a pool follow each other in time. -/
theorem Takes.pairwise_wake (h : Takes api plan horizon pool s turns last later)
    (hpool : pool.InOrder) : turns.Pairwise (·.removal.wake ≤ ·.removal.wake) := by
  induction h with
  | none => exact .nil
  | turn htakes _ _ _ _ ih =>
    refine List.pairwise_append.2 ⟨ih, List.pairwise_singleton _ _, fun t ht t' ht' => ?_⟩
    rw [List.mem_singleton.1 ht']
    exact htakes.wake_le hpool t ht _ List.mem_cons_self

/-- Each turn puts a removal off by an interval at most. -/
theorem Takes.wake_le_of_length (h : Takes api plan horizon (start now pods) s turns last later) :
    ∀ r ∈ last.active, r.wake ≤ now + turns.length * removalInterval.nanos := by
  induction h with
  | none =>
    intro r hr
    obtain ⟨p, -, rfl⟩ := List.mem_map.1 hr
    exact Nat.le_add_right _ _
  | @turn turns r _ _ _ _ _ _ _ _ _ _ _ _ ih =>
    have hwake := ih r List.mem_cons_self
    intro q hq
    rw [List.length_append, List.length_singleton, Nat.succ_mul, ← Nat.add_assoc]
    rcases mem_settle hq with hq | ⟨p, -, rfl⟩ | ⟨next, -, rfl⟩
    · exact Nat.le_add_right_of_le (ih q (List.mem_cons_of_mem r hq))
    · exact Nat.le_add_right_of_le hwake
    · exact Nat.add_le_add_right hwake _

end Pool

end DriverHandover
