import DriverHandover.Cluster.Removal

/-!
# Removing several pods at a time

The pods of a drain are removed a few at a time: a pod has its turn at the moment at which the
removal before it ends, well or not. Every pod is tried, whatever becomes of the others, and all
failures are reported together.

## Main definitions

* `Pool` – the removals under way, in the order in which they go on, and the pods that wait.
* `Pool.step` – goes on with the first removal.
* `Pool.run`, `Session.removePods` – removing all pods.

## Design notes

A pool runs in a session whose horizon bounds it: each step either takes a waiting pod in or comes
closer to the horizon.
-/

namespace DriverHandover

/-- The number of pods that are removed at a time. -/
def poolCapacity : Nat := 5

/-- The removals of a drain. -/
structure Pool where
  /-- The removals under way, the one that goes on first in front. -/
  active : List Removal
  /-- The pods whose turn has not come. -/
  waiting : List Pod
  /-- The failures so far, in order. -/
  failures : List (Report ClusterError)

namespace Pool

/-- Puts a removal behind all that go on no later. -/
def enqueue (r : Removal) : List Removal → List Removal
  | [] => [r]
  | first :: rest => if first.wake ≤ r.wake then first :: enqueue r rest else r :: first :: rest

/-- The removal of a pod whose turn has come. -/
def begin (now : Instant) (p : Pod) : Removal := ⟨p, .evicting, now⟩

/-- The pool at the start of a drain. -/
def start (now : Instant) (pods : List Pod) : Pool where
  active := (pods.take poolCapacity).map (begin now)
  waiting := pods.drop poolCapacity
  failures := []

/-- Lets the next pod have its turn. -/
def refill (now : Instant) (pool : Pool) : Pool :=
  match pool.waiting with
  | [] => pool
  | p :: waiting => { pool with active := enqueue (begin now p) pool.active, waiting }

/-- The pool after a removal, which is no longer among the active ones, has gone on. -/
def settle (now : Instant) (r : Removal) (pool : Pool) : RemovalState → Pool
  | .removed => pool.refill now
  | .failed report => { pool with failures := pool.failures ++ [report] }.refill now
  | .waits phase =>
    { pool with active := enqueue ⟨r.pod, phase, now.after removalInterval⟩ pool.active }

/-- Goes on with a removal, which is no longer among the active ones. -/
def step {ω : Type} (api : ApiServer ω) (plan : RemovalPlan) (r : Removal) (pool : Pool)
    (s : Session ω) : Pool × Session ω :=
  let (state, s) := r.proceed api plan { s with now := r.wake }
  (pool.settle r.wake r state, s)

/-- How far a list of removals is from a horizon. -/
def distance (horizon : Instant) : List Removal → Nat
  | [] => 0
  | r :: rest => horizon + 1 - r.wake + distance horizon rest

theorem distance_enqueue (horizon : Instant) (r : Removal) (removals : List Removal) :
    distance horizon (enqueue r removals) = horizon + 1 - r.wake + distance horizon removals := by
  induction removals with
  | nil => rfl
  | cons first rest ih =>
    simp only [enqueue]
    split
    · simp only [distance, ih]
      omega
    · rfl

/-- Whether one pool comes before another on the way to its end. -/
def Before (horizon : Instant) (a b : Pool) : Prop :=
  Prod.Lex (· < ·) (· < ·) (a.waiting.length, distance horizon a.active)
    (b.waiting.length, distance horizon b.active)

theorem before_refill {horizon now : Instant} {r : Removal} {pool : Pool}
    (h : r.wake ≤ horizon) :
    Before horizon (pool.refill now) { pool with active := r :: pool.active } := by
  unfold Before refill
  split
  · rename_i hw
    have hpos : 0 < horizon + 1 - r.wake := Nat.sub_pos_of_lt (Nat.lt_succ_of_le h)
    simp only [hw, distance]
    exact Prod.Lex.right _ (Nat.lt_add_of_pos_left hpos)
  · rename_i hw
    simp only [hw, List.length_cons]
    exact Prod.Lex.left _ _ (by omega)

/-- A step takes a waiting pod in or comes closer to the horizon. -/
theorem before_settle {horizon : Instant} {r : Removal} {pool : Pool} (h : r.wake ≤ horizon)
    (state : RemovalState) :
    Before horizon (pool.settle r.wake r state) { pool with active := r :: pool.active } := by
  cases state with
  | removed => exact before_refill h
  | failed report => exact before_refill h
  | waits phase =>
    have hlt : horizon + 1 - r.wake.after removalInterval < horizon + 1 - r.wake :=
      Nat.sub_lt_sub_left (Nat.lt_succ_of_le h) (Nat.lt_add_of_pos_right (by decide))
    refine Prod.Lex.right _ ?_
    simp only [settle, distance_enqueue]
    exact Nat.add_lt_add_right hlt _

/-- Goes on until no removal is left, and returns the failures; `none` if that is not so by the
horizon. -/
def run {ω : Type} (api : ApiServer ω) (plan : RemovalPlan) (horizon : Instant) (pool : Pool)
    (s : Session ω) : Option (List (Report ClusterError)) × Session ω :=
  match pool with
  | ⟨[], _, failures⟩ => (some failures, s)
  | ⟨r :: rest, waiting, failures⟩ =>
    if _h : r.wake ≤ horizon then
      let next := step api plan r ⟨rest, waiting, failures⟩ s
      run api plan horizon next.1 next.2
    else (none, { s with now := horizon })
termination_by (pool.waiting.length, distance horizon pool.active)
decreasing_by exact before_settle _h _

end Pool

namespace Session

variable {ω : Type} (api : ApiServer ω)

/-- Removes pods and reports all failures together. The deadline is computed before any request, and
where the clock cannot show it the program is aborted. -/
def removePods (o : DrainOptions) (pods : List Pod) : ClusterStep ω Unit := fun s =>
  if o.deadlineIsShown s.now then
    match (Pool.start s.now pods).run api (.ofOptions o s.now) s.horizon s with
    | (none, s) => (none, s)
    | (some failures, s) =>
      match Report.joinAll? failures with
      | none => (some (.ok ()), s)
      | some report => (some (.error report), s)
  else abort s

end Session

end DriverHandover
