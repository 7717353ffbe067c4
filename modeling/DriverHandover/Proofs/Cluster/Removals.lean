import DriverHandover.Cluster.Pool
import DriverHandover.Proofs.Cluster.Requests

/-!
# Removals concern their own pods

A removal makes requests about its pod only, and a pool has no other removals than those of the pods
it was started with.

## Main definitions

* `ApiRequest.About` – the requests about a pod.
* `Pool.Within` – a pool of removals of given pods.

## Main statements

* `Pool.step_within` – going on with one removal keeps the pool within its pods.
* `Session.removePods_goesOn` – removing pods makes requests about them only.
-/

namespace DriverHandover

open Session

/-- The requests that address a pod. -/
def ApiRequest.About (p : Pod) : ApiRequest → Prop
  | .evictPod address _ | .getPod address => address = p.address
  | _ => False

namespace Removal

variable {ω : Type} (api : ApiServer ω) (plan : RemovalPlan)

theorem confirm_makes (p : Pod) : Makes (ApiRequest.About p) (confirm api plan p) := by
  refine makes_bind (makes_ask rfl) fun answer => ?_
  split
  · exact makes_pure _
  · refine makes_bind makes_get fun s => ?_
    split
    · exact makes_pure _
    · exact makes_pure _

/-- A removal that begins asks for the eviction first. -/
theorem evict_goesOn (p : Pod) (s : Session ω) :
    GoesOn (ApiRequest.About p) (ask api (.evictPod p.address plan.graceSeconds) s).2
      (evict api plan p s).2 := by
  rw [evict]
  refine bind_goesOn (fun answer => ?_) s
  cases EvictionVerdict.ofAnswer answer with
  | accepted => exact confirm_makes api plan p
  | rejected e => exact makes_pure _
  | blocked =>
    refine makes_bind makes_get fun s => ?_
    split
    · exact makes_pure _
    · exact makes_pure _

theorem proceed_makes (r : Removal) : Makes (ApiRequest.About r.pod) (r.proceed api plan) := by
  rw [proceed]
  split
  · intro s
    have habout : ApiRequest.About r.pod (.evictPod r.pod.address plan.graceSeconds) := rfl
    exact (ask_goesOn habout s).trans (evict_goesOn api plan r.pod s)
  · exact confirm_makes api plan r.pod

theorem proceed_evicts {r : Removal} (hphase : r.phase = .evicting) (s : Session ω) :
    r.pod.address ∈ (r.proceed api plan s).2.evicted := by
  have hasked : r.pod.address ∈ (ask api (.evictPod r.pod.address plan.graceSeconds) s).2.evicted :=
    mem_evicted.2 ⟨_, List.mem_cons_self, plan.graceSeconds, rfl⟩
  rw [proceed, hphase]
  exact (evict_goesOn api plan r.pod s).evicted_subset hasked

end Removal

namespace Pool

variable {pool : Pool} {pods : List Pod} {r : Removal} {now : Instant}

/-- Every pod of the pool, under way or not, is one of the given pods. -/
structure Within (pods : List Pod) (pool : Pool) : Prop where
  active : ∀ r ∈ pool.active, r.pod ∈ pods
  waiting : ∀ p ∈ pool.waiting, p ∈ pods

theorem mem_enqueue {removals : List Removal} {q : Removal} :
    q ∈ enqueue r removals ↔ q = r ∨ q ∈ removals := by
  induction removals with
  | nil => simp [enqueue]
  | cons first rest ih =>
    rw [enqueue]
    split
    · rw [List.mem_cons, ih, List.mem_cons, or_left_comm]
    · rw [List.mem_cons]

theorem within_start (now : Instant) (pods : List Pod) : (start now pods).Within pods where
  active q hq := by
    obtain ⟨p, hp, rfl⟩ := List.mem_map.1 hq
    exact List.mem_of_mem_take hp
  waiting p hp := List.mem_of_mem_drop hp

theorem Within.enqueue (h : pool.Within pods) (hr : r.pod ∈ pods) :
    ({ pool with active := Pool.enqueue r pool.active } : Pool).Within pods where
  active q hq := by
    rcases mem_enqueue.1 hq with rfl | hq
    · exact hr
    · exact h.active q hq
  waiting := h.waiting

theorem Within.refill (h : pool.Within pods) (now : Instant) : (pool.refill now).Within pods := by
  rw [Pool.refill]
  split
  · exact h
  · rename_i p waiting hwaiting
    have hpods : ∀ q ∈ p :: waiting, q ∈ pods := hwaiting ▸ h.waiting
    have hrest : ({ pool with waiting } : Pool).Within pods :=
      ⟨h.active, fun q hq => hpods q (List.mem_cons_of_mem p hq)⟩
    exact hrest.enqueue (r := begin now p) (hpods p List.mem_cons_self)

theorem Within.settle (h : pool.Within pods) (hr : r.pod ∈ pods) (now : Instant)
    (state : RemovalState) : (pool.settle now r state).Within pods := by
  cases state with
  | removed => exact h.refill now
  | failed report =>
    have hkept : Within pods { pool with failures := pool.failures ++ [report] } :=
      ⟨h.active, h.waiting⟩
    exact hkept.refill now
  | waits phase => exact h.enqueue (r := ⟨r.pod, phase, _⟩) hr

variable {ω : Type} (api : ApiServer ω) (plan : RemovalPlan) (horizon : Instant)

/-- Going on with one removal makes requests about its pod only, and no pod comes into the pool that
was not there. -/
theorem step_within {rest : List Removal} {waiting : List Pod}
    {failures : List (Report ClusterError)} (h : Within pods ⟨r :: rest, waiting, failures⟩)
    (s : Session ω) :
    (step api plan r ⟨rest, waiting, failures⟩ s).1.Within pods ∧
      GoesOn (ApiRequest.About r.pod) s (step api plan r ⟨rest, waiting, failures⟩ s).2 := by
  have hr : r.pod ∈ pods := h.active r List.mem_cons_self
  have hrest : Within pods ⟨rest, waiting, failures⟩ :=
    ⟨fun q hq => h.active q (List.mem_cons_of_mem r hq), h.waiting⟩
  refine ⟨hrest.settle hr _ _, ?_⟩
  exact GoesOn.trans (.of_eq rfl) (Removal.proceed_makes api plan r { s with now := r.wake })

/-- A pool that runs makes requests about its pods only. -/
theorem run_goesOn (h : pool.Within pods) (s : Session ω) :
    GoesOn (fun request => ∃ p ∈ pods, request.About p) s (run api plan horizon pool s).2 := by
  -- along the run, because each step leaves another pool
  induction pool, s using run.induct api plan horizon with
  | case1 s waiting failures =>
    rw [run]
    exact .of_eq rfl
  | case2 s r rest waiting failures hwake next ih =>
    obtain ⟨hnext, hstep⟩ := step_within api plan h s
    rw [run, dif_pos hwake]
    refine GoesOn.trans (hstep.mono fun request hrequest => ?_) (ih hnext)
    exact ⟨r.pod, h.active r List.mem_cons_self, hrequest⟩
  | case3 s r rest waiting failures hwake =>
    rw [run, dif_neg hwake]
    exact .of_eq rfl

theorem within_self (pool : Pool) :
    pool.Within (pool.active.map (·.pod) ++ pool.waiting) where
  active _ hr := List.mem_append_left _ (List.mem_map_of_mem hr)
  waiting _ hp := List.mem_append_right _ hp

/-- The removal in front of a pool that runs begins. -/
theorem run_evicts {rest : List Removal} {waiting : List Pod}
    {failures : List (Report ClusterError)} (hphase : r.phase = .evicting)
    (hwake : r.wake ≤ horizon) (s : Session ω) :
    r.pod.address ∈ (run api plan horizon ⟨r :: rest, waiting, failures⟩ s).2.evicted := by
  rw [run, dif_pos hwake]
  refine (run_goesOn api plan horizon (within_self _) _).evicted_subset ?_
  exact Removal.proceed_evicts api plan hphase _

end Pool

namespace DrainOptions

variable {o : DrainOptions}

theorem deadlineIsShown_of_timeless (h : o.timeout.isZero = true) (now : Instant) :
    o.deadlineIsShown now = true := by
  simp [deadlineIsShown, deadline?, h]

theorem deadlineIsShown_of_timed (h : o.timeout.isZero = false) (now : Instant) :
    o.deadlineIsShown now = (now.after o.timeout).isShown := by
  simp [deadlineIsShown, deadline?, h]

end DrainOptions

namespace Session

variable {ω : Type} (api : ApiServer ω) {o : DrainOptions} {s : Session ω}

/-- Where the clock cannot show the deadline nothing is asked, and nothing is returned. -/
theorem removePods_of_unshown (hunshown : o.deadlineIsShown s.now = false) (pods : List Pod) :
    removePods api o pods s = (none, s) := by
  rw [removePods, hunshown]
  rfl

theorem removePods_snd (hshown : o.deadlineIsShown s.now = true) (pods : List Pod) :
    (removePods api o pods s).2 =
      ((Pool.start s.now pods).run api (.ofOptions o s.now) s.horizon s).2 := by
  rw [removePods, if_pos hshown]
  rcases Pool.run api (.ofOptions o s.now) s.horizon (Pool.start s.now pods) s with
    ⟨_ | failures, later⟩
  · rfl
  · dsimp only
    cases Report.joinAll? failures with
    | none => rfl
    | some report => rfl

theorem removePods_goesOn (o : DrainOptions) (pods : List Pod) (s : Session ω) :
    GoesOn (fun request => ∃ p ∈ pods, request.About p) s (removePods api o pods s).2 := by
  cases hshown : o.deadlineIsShown s.now with
  | false =>
    rw [removePods_of_unshown api hshown]
    exact .of_eq rfl
  | true =>
    rw [removePods_snd api hshown]
    exact Pool.run_goesOn api (.ofOptions o s.now) s.horizon (Pool.within_start s.now pods) s

/-- The first pod to be removed is evicted at once. -/
theorem removePods_evicts (hshown : o.deadlineIsShown s.now = true) (p : Pod) (pods : List Pod)
    (htime : s.now ≤ s.horizon) : p.address ∈ (removePods api o (p :: pods) s).2.evicted := by
  rw [removePods_snd api hshown]
  exact Pool.run_evicts api (.ofOptions o s.now) s.horizon (r := Pool.begin s.now p) rfl htime s

end Session

end DriverHandover
