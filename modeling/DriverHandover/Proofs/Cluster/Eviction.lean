import DriverHandover.Cluster.Drain
import DriverHandover.Cluster.Scripted
import DriverHandover.Proofs.Cluster.Removals
import DriverHandover.Proofs.Drain.Passing
import Mathlib.Data.List.Nodup

/-!
# Who is evicted

Evictions follow from one list of the pods on the node. Whether there are any depends on the list as
a whole, and no pod is evicted that the list does not show as one of those that may go.

## Main definitions

* `Session.Lists`, `Session.ListsApart` – the pods that the server lists.
* `Session.EvictsFrom` – evictions that follow from a list.

## Main statements

* `Session.nodePods_evictsFrom` – what holds of the requests after the list holds of the evictions.
* `evictions_all_or_nothing` – when there are evictions at all, and of which pods.
-/

namespace DriverHandover

namespace Session

variable {ω α : Type} {api : ApiServer ω} {node : String} {selector : Option String}
variable {whole : List Pod → Prop} {each : Pod → Prop} {pods : List Pod} {s now later : Session ω}

/-- The server lists these pods if it is asked now. -/
def Lists (api : ApiServer ω) (s : Session ω) (node : String) (selector : Option String)
    (pods : List Pod) : Prop :=
  (api (.listPods none selector node) s.now s.server).1 = .ok pods

/-- No two pods that the server lists now have the same address. -/
def ListsApart (api : ApiServer ω) (s : Session ω) (node : String) (selector : Option String) :
    Prop :=
  ∀ pods, Lists api s node selector pods → (pods.map Pod.address).Nodup

/-- The evictions asked for later follow from the list of pods that the server gives now: if there
is one, the list meets a condition as a whole, and the pod with the address meets another one. -/
def EvictsFrom (api : ApiServer ω) (s : Session ω) (node : String) (selector : Option String)
    (whole : List Pod → Prop) (each : Pod → Prop) (later : Session ω) : Prop :=
  ∀ address ∈ later.evicted, ∃ pods, Lists api s node selector pods ∧ whole pods ∧
    (∃ p ∈ pods, p.address = address) ∧ ∀ p ∈ pods, p.address = address → each p

/-- The requests that a list of pods gives rise to. -/
def FollowsFrom (pods : List Pod) (whole : List Pod → Prop) (each : Pod → Prop)
    (request : ApiRequest) : Prop :=
  whole pods ∧ ∃ p ∈ pods, each p ∧ request.About p

theorem GoesOn.evictsFrom (h : GoesOn (FollowsFrom pods whole each) now later)
    (hnone : now.evicted = []) (hlists : Lists api s node selector pods)
    (hapart : ListsApart api s node selector) :
    EvictsFrom api s node selector whole each later := by
  obtain ⟨new, heq, hnew⟩ := h
  intro address hmem
  obtain ⟨e, he, grace, hrequest⟩ := mem_evicted.1 hmem
  rw [heq, List.mem_append] at he
  rcases he with he | he
  · obtain ⟨hwhole, p, hp, heach, habout⟩ := hnew e he
    rw [hrequest] at habout
    refine ⟨pods, hlists, hwhole, ⟨p, hp, habout.symm⟩, fun q hq haddress => ?_⟩
    have hsame : p = q :=
      List.inj_on_of_nodup_map (hapart pods hlists) hp hq (habout.symm.trans haddress.symm)
    exact hsame ▸ heach
  · have hold : address ∈ now.evicted := mem_evicted.2 ⟨e, he, grace, hrequest⟩
    rw [hnone] at hold
    exact absurd hold List.not_mem_nil

variable {next : List Pod → ClusterStep ω α}

theorem nodePods_bind (hlists : Lists api s node selector pods) :
    (nodePods api node selector >>= next) s =
      next pods (ask api (.listPods none selector node) s).2 := by
  rw [bind_apply, nodePods, require_apply]
  rcases hanswer : ask api (.listPods none selector node) s with ⟨answer, now⟩
  have hok : answer = .ok pods := (congrArg Prod.fst hanswer).symm.trans hlists
  rw [hok]

theorem nodePods_bind_error {e : ApiError}
    (hfails : (api (.listPods none selector node) s.now s.server).1 = .error e) :
    (nodePods api node selector >>= next) s =
      (some (.error (Report.because (.podListFailed s!"pods on node {node}") e)),
        (ask api (.listPods none selector node) s).2) := by
  rw [bind_apply, nodePods, require_apply]
  rcases hanswer : ask api (.listPods none selector node) s with ⟨answer, now⟩
  have herror : answer = .error e := (congrArg Prod.fst hanswer).symm.trans hfails
  rw [herror]

/-- If every request after the list follows from it, so do the evictions. -/
theorem nodePods_evictsFrom
    (hnext : ∀ pods now, GoesOn (FollowsFrom pods whole each) now (next pods now).2)
    (hapart : ListsApart api s node selector) (hnone : s.evicted = []) :
    EvictsFrom api s node selector whole each ((nodePods api node selector >>= next) s).2 := by
  have hasked : (ask api (.listPods none selector node) s).2.evicted = [] := hnone
  cases hanswer : (api (.listPods none selector node) s.now s.server).1 with
  | error e =>
    rw [nodePods_bind_error hanswer]
    intro address hmem
    exact absurd (hasked ▸ hmem) List.not_mem_nil
  | ok pods =>
    rw [nodePods_bind hanswer]
    exact (hnext pods _).evictsFrom hasked hanswer hapart

/-- Removing pods for which the list speaks follows from the list. -/
theorem removeNodePods_followsFrom {o : DrainOptions} {message : String} {chosen : List Pod}
    (hwhole : whole pods) (hchosen : ∀ p ∈ chosen, p ∈ pods ∧ each p) :
    GoesOn (FollowsFrom pods whole each) now (removeNodePods api node message o chosen now).2 := by
  rw [removeNodePods, adapt_snd]
  refine (removePods_goesOn api o chosen now).mono fun request hrequest => ?_
  obtain ⟨p, hp, habout⟩ := hrequest
  exact ⟨hwhole, p, (hchosen p hp).1, (hchosen p hp).2, habout⟩

variable {holds : String → Bool} {o : DrainOptions}

theorem removeGpuPods_followsFrom (hwhole : whole pods) :
    GoesOn (FollowsFrom pods whole fun p => p.usesGpu holds ∧ p.IsEvictable) now
      (removeGpuPods api node o (planGpuEviction o holds pods) now).2 := by
  refine removeNodePods_followsFrom hwhole fun p hp => ?_
  obtain ⟨hlisted, huses, hpasses⟩ := mem_planGpuEviction_pods.1 hp
  exact ⟨hlisted, huses, hpasses.isEvictable⟩

theorem evictGpuPods_evictsFrom (hapart : ListsApart api s node none) (hnone : s.evicted = []) :
    EvictsFrom api s node none (GpuPodsPass holds o) (fun p => p.usesGpu holds ∧ p.IsEvictable)
      (evictGpuPods api holds node o s).2 := by
  refine nodePods_evictsFrom (fun pods now => ?_) hapart hnone
  by_cases hstop : (planGpuEviction o holds pods).gpuPods = 0 ∨
      ¬ (planGpuEviction o holds pods).report.isComplete
  · simp only [if_pos hstop]
    exact .of_eq rfl
  · rw [not_or, not_not] at hstop
    have hpass : GpuPodsPass holds o pods := gpuPodsPass_iff.2 hstop
    simp only [if_neg (not_or.2 ⟨hstop.1, not_not.2 hstop.2⟩)]
    rw [bind_pure_snd]
    exact removeGpuPods_followsFrom hpass

/-- If the GPU pods of the list pass, their removal begins. -/
theorem evictGpuPods_evicts (hlists : Lists api s node none pods)
    (hpass : GpuPodsPass holds o pods) (hshown : o.deadlineIsShown s.now = true)
    (htime : s.now ≤ s.horizon) :
    (evictGpuPods api holds node o s).2.evicted ≠ [] := by
  obtain ⟨hsome, hcomplete⟩ := gpuPodsPass_iff.1 hpass
  have hgo : ¬ ((planGpuEviction o holds pods).gpuPods = 0 ∨
      ¬ (planGpuEviction o holds pods).report.isComplete) :=
    not_or.2 ⟨hsome, not_not.2 hcomplete⟩
  obtain ⟨p, rest, hchosen⟩ :
      ∃ p rest, (planGpuEviction o holds pods).selection.pods = p :: rest := by
    obtain ⟨p, hp, huses⟩ := hpass.1
    exact List.exists_cons_of_ne_nil
      (List.ne_nil_of_mem (mem_planGpuEviction_pods.2 ⟨hp, huses, hpass.2 p hp huses⟩))
  rw [evictGpuPods, nodePods_bind hlists]
  simp only [if_neg hgo]
  rw [bind_pure_snd, removeGpuPods, removeNodePods, adapt_snd, hchosen]
  exact List.ne_nil_of_mem (removePods_evicts api (s := (ask api _ s).2) hshown p rest htime)

theorem drainGpuPods_evictsFrom {dryRun : Bool} (hapart : ListsApart api s node none)
    (hnone : s.evicted = []) :
    EvictsFrom api s node none (fun pods => dryRun = false ∧ GpuPodsPass holds o pods)
      (fun p => p.usesGpu holds ∧ p.IsEvictable) (drainGpuPods api holds node o dryRun s).2 := by
  refine nodePods_evictsFrom (fun pods now => ?_) hapart hnone
  by_cases hcomplete : (planGpuEviction o holds pods).report.isComplete
  · by_cases hstop : dryRun ∨ (planGpuEviction o holds pods).gpuPods = 0
    · simp only [hcomplete, not_true, if_false, if_pos hstop]
      exact .of_eq rfl
    · simp only [hcomplete, not_true, if_false, if_neg hstop]
      rw [not_or, Bool.not_eq_true] at hstop
      have hpass : GpuPodsPass holds o pods := gpuPodsPass_iff.2 ⟨hstop.2, hcomplete⟩
      rw [bind_pure_snd]
      exact removeGpuPods_followsFrom ⟨hstop.1, hpass⟩
  · simp only [if_pos hcomplete]
    exact .of_eq rfl

theorem drainNode_evictsFrom (hapart : ListsApart api s node o.podSelector)
    (hnone : s.evicted = []) :
    EvictsFrom api s node o.podSelector (NoneRefused o) Pod.IsEvictable
      (drainNode api node o s).2 := by
  refine nodePods_evictsFrom (fun pods now => ?_) hapart hnone
  by_cases hempty : (select o (fun _ => .accept) pods).refused.isEmpty
  · simp only [if_pos hempty]
    refine removeNodePods_followsFrom (refused_isEmpty_iff.1 hempty) fun p hp => ?_
    obtain ⟨hlisted, -, hpasses⟩ := mem_select_pods.1 hp
    exact ⟨hlisted, hpasses.isEvictable⟩
  · simp only [if_neg hempty]
    exact .of_eq rfl

end Session

/-- Pods are evicted all or not at all. The two removals of GPU pods evict only if the server lists
GPU pods and the filters let every one of them pass, the second one only if it is no dry run, and a
full drain only if the filters refuse no pod. No pod is evicted that a `DaemonSet` controls or that
is a mirror pod, and the removals of GPU pods evict GPU pods only. -/
theorem evictions_all_or_nothing {ω : Type} (api : ApiServer ω) (holds : String → Bool)
    (node : String) (o : DrainOptions) (dryRun : Bool) (limit : Duration) (s : Session ω)
    (hall : s.ListsApart api node none) (hselected : s.ListsApart api node o.podSelector) :
    s.EvictsFrom api node none (GpuPodsPass holds o) (fun p => p.usesGpu holds ∧ p.IsEvictable)
        (Session.run (Session.evictGpuPods api holds node o) limit s).2 ∧
      s.EvictsFrom api node none (fun pods => dryRun = false ∧ GpuPodsPass holds o pods)
        (fun p => p.usesGpu holds ∧ p.IsEvictable)
        (Session.run (Session.drainGpuPods api holds node o dryRun) limit s).2 ∧
      s.EvictsFrom api node o.podSelector (NoneRefused o) Pod.IsEvictable
        (Session.run (Session.drainNode api node o) limit s).2 :=
  -- the time limit and the empty record of a new session change nothing about the listing
  ⟨Session.evictGpuPods_evictsFrom hall rfl, Session.drainGpuPods_evictsFrom hall rfl,
    Session.drainNode_evictsFrom hselected rfl⟩

/-- A node with a GPU pod that may be evicted and one of a `DaemonSet` that uses no GPU. -/
def ScriptedServer.training : ScriptedServer where
  node := "node"
  record := ⟨.empty, .empty⟩
  cordoned := true
  pods :=
    let pod (kind name : String) (resources : List String) : Pod :=
      { givenName := some name, generateName := none, podNamespace := none, uid := none,
        labels := .empty, annotations := .empty, owners := [⟨kind, true⟩],
        spec := some ⟨some "node", [⟨resources, []⟩], [], []⟩, phase := none }
    [pod "Job" "train" ["nvidia.com/gpu"], pod "DaemonSet" "logs" []].map fun pod =>
      ⟨pod, [], [], some Duration.zero, none, false, none⟩
  gets := []
  patches := []
  lists := []

theorem training_pod_evicted :
    let api := ScriptedServer.answer
    let s : Session ScriptedServer := ⟨.training, 0, 0, []⟩
    let o := DrainOptions.default
    let holds := fun _ : String => false
    s.ListsApart api "node" none ∧ s.ListsApart api "node" o.podSelector ∧
      (s.EvictsFrom api "node" none (GpuPodsPass holds o)
          (fun p => p.usesGpu holds ∧ p.IsEvictable)
          (Session.run (Session.evictGpuPods api holds "node" o) Duration.zero s).2 ∧
        s.EvictsFrom api "node" none (fun pods => false = false ∧ GpuPodsPass holds o pods)
          (fun p => p.usesGpu holds ∧ p.IsEvictable)
          (Session.run (Session.drainGpuPods api holds "node" o false) Duration.zero s).2 ∧
        s.EvictsFrom api "node" o.podSelector (NoneRefused o) Pod.IsEvictable
          (Session.run (Session.drainNode api "node" o) Duration.zero s).2) ∧
      (Session.run (Session.evictGpuPods api holds "node" o) Duration.zero s).2.evicted ≠ [] := by
  intro api s o holds
  have hapart : s.ListsApart api "node" none := by
    intro pods hlists
    rw [← Except.ok.inj hlists]
    decide +kernel
  have hlists : s.Lists api "node" none (ScriptedServer.training.pods.map (·.pod)) := by
    rw [Session.Lists]
    rfl
  have hpass : GpuPodsPass holds o (ScriptedServer.training.pods.map (·.pod)) := by
    decide +kernel
  refine ⟨hapart, hapart, evictions_all_or_nothing api holds "node" o false Duration.zero s hapart
    hapart, ?_⟩
  exact Session.evictGpuPods_evicts hlists hpass rfl (Nat.le_refl 0)

end DriverHandover
