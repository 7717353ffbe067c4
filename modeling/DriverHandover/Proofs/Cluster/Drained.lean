import DriverHandover.Proofs.Cluster.Departure
import DriverHandover.Proofs.Cluster.Eviction

/-!
# Drained pods are gone

A removal of pods ends well only after it has seen each of them gone. The drains remove the pods
that they choose of one list, so they end well only when these are gone.

## Main definitions

* `Session.SeesGone` – the pods that are chosen of a list have been seen to be gone.

## Main statements

* `Session.removePods_departed` – what a removal has asked about each of its pods.
* `pods_gone_after_removal` – what it means that a drain ends well.
-/

namespace DriverHandover

namespace Session

variable {ω α : Type} {api : ApiServer ω} {o : DrainOptions} {node message : String}
variable {selector : Option String} {holds : String → Bool} {s now : Session ω} {pods : List Pod}

/-- Removing pods of different addresses keeps the inquiries about each of them in order, and has
seen each of them gone if it ends well. -/
theorem removePods_departed (hapart : (pods.map Pod.address).Nodup) :
    ∃ talk, Talks api s talk (removePods api o pods s).2 ∧
      ∀ p ∈ pods, (p.inquiries talk).Pairwise (Inquiry.MayPrecede p) ∧
        ((removePods api o pods s).1 = some (.ok ()) → Departed p (p.inquiries talk)) := by
  cases hshown : o.deadlineIsShown s.now with
  | false =>
    rw [removePods_of_unshown api hshown]
    exact ⟨[], .refl s, fun p _ => ⟨List.Pairwise.nil, by simp⟩⟩
  | true =>
    obtain ⟨turns, last, later, htakes, hend⟩ := removePods_takes api hshown pods
    refine ⟨turns.flatMap (·.talk), ?_, fun p hp => ?_⟩
    · rcases hend with ⟨-, ⟨result, hrun, -⟩⟩ | ⟨r, -, -, hrun⟩
      · rw [hrun]
        exact htakes.talks
      · rw [hrun]
        exact ⟨htakes.talks.exchanges, htakes.talks.answers⟩
    · have htracks := htakes.orderly hapart.of_map hp
      obtain ⟨next, horderly⟩ := htracks.exists_next fun moment => Progress.orderly_begin moment p
      rw [htakes.inquiries_eq hapart hp]
      refine ⟨horderly.orderly, fun hok => ?_⟩
      rcases hend with ⟨hidle, ⟨result, hrun, hresult⟩⟩ | ⟨r, -, -, hrun⟩
      · rw [hrun] at hok
        have hfailures := hresult.1 (Option.some.inj hok)
        rw [htakes.failures_flatMap] at hfailures
        have hnone := List.flatMap_eq_nil_iff.1 (List.append_eq_nil_iff.1 hfailures).2
        have hended := htracks.ended (htakes.pods_eq_nil hidle ▸ List.not_mem_nil)
        exact hended.departed rfl fun t ht => hnone t (Pod.mem_turns.1 ht).1
      · rw [hrun] at hok
        cases hok

theorem removeNodePods_departed
    (hok : (removeNodePods api node message o pods s).1 = some (.ok ()))
    (hapart : (pods.map Pod.address).Nodup) :
    ∃ talk, Talks api s talk (removeNodePods api node message o pods s).2 ∧
      ∀ p ∈ pods, Departed p (p.inquiries talk) := by
  obtain ⟨talk, htalks, hpods⟩ : ∃ talk, Talks api s talk (removePods api o pods s).2 ∧ _ :=
    removePods_departed hapart
  rw [removeNodePods, adapt_snd]
  exact ⟨talk, htalks, fun p hp => (hpods p hp).2 (adapt_ok_iff.1 hok)⟩

/-- The pods that are chosen of the list that the server gives now have been seen to be gone later,
if no two of them have the same address. -/
def SeesGone (api : ApiServer ω) (s : Session ω) (node : String) (selector : Option String)
    (chosen : List Pod → List Pod) (later : Session ω) : Prop :=
  ∃ pods, Lists api s node selector pods ∧ (((chosen pods).map Pod.address).Nodup →
    ∀ p ∈ chosen pods, Departed p (p.inquiries (conversation api s later)))

theorem SeesGone.departed {chosen : List Pod → List Pod}
    (h : SeesGone api s node selector chosen now) (hlists : Lists api s node selector pods)
    (hapart : ((chosen pods).map Pod.address).Nodup) :
    ∀ p ∈ chosen pods, Departed p (p.inquiries (conversation api s now)) := by
  obtain ⟨pods', hlists', hgone⟩ := h
  have hsame : pods = pods' := Except.ok.inj (hlists.symm.trans hlists')
  subst hsame
  exact hgone hapart

/-- If a step that begins with a list of pods ends well, the server has given a list. -/
theorem lists_of_ok {next : List Pod → ClusterStep ω α} {a : α}
    (hok : ((nodePods api node selector >>= next) s).1 = some (.ok a)) :
    ∃ pods, Lists api s node selector pods := by
  cases hanswer : (api (.listPods none selector node) s.now s.server).1 with
  | ok pods => exact ⟨pods, hanswer⟩
  | error e =>
    rw [nodePods_bind_error hanswer] at hok
    cases hok

/-- The list is not about a pod, so what follows it tells which pods are gone. -/
theorem nodePods_seesGone {next : List Pod → ClusterStep ω α} {a : α}
    {chosen : List Pod → List Pod}
    (hnext : ∀ pods now, (next pods now).1 = some (.ok a) → ((chosen pods).map Pod.address).Nodup →
      ∃ talk, Talks api now talk (next pods now).2 ∧
        ∀ p ∈ chosen pods, Departed p (p.inquiries talk))
    (hok : ((nodePods api node selector >>= next) s).1 = some (.ok a)) (hstart : s.exchanges = []) :
    SeesGone api s node selector chosen ((nodePods api node selector >>= next) s).2 := by
  obtain ⟨pods, hlists⟩ := lists_of_ok hok
  rw [nodePods_bind hlists] at hok ⊢
  refine ⟨pods, hlists, fun hapart p hp => ?_⟩
  obtain ⟨talk, htalks, hgone⟩ := hnext pods _ hok hapart
  rw [((talks_ask _ s).trans htalks).conversation_eq hstart]
  exact hgone p hp

theorem drainNode_seesGone (hok : (drainNode api node o s).1 = some (.ok ()))
    (hstart : s.exchanges = []) :
    SeesGone api s node o.podSelector (fun pods => (select o (fun _ => .accept) pods).pods)
      (drainNode api node o s).2 := by
  refine nodePods_seesGone (fun pods now hok hapart => ?_) hok hstart
  by_cases hempty : (select o (fun _ => .accept) pods).refused.isEmpty
  · simp only [if_pos hempty] at hok ⊢
    exact removeNodePods_departed hok hapart
  · simp only [if_neg hempty] at hok
    cases hok

theorem removeGpuPods_departed {report a : EvictionReport}
    (hok : ((removeGpuPods api node o (planGpuEviction o holds pods) >>= fun _ => pure report)
      now).1 = some (.ok a))
    (hapart : ((planGpuEviction o holds pods).selection.pods.map Pod.address).Nodup) :
    ∃ talk,
      Talks api now talk ((removeGpuPods api node o (planGpuEviction o holds pods) >>= fun _ =>
        pure report) now).2 ∧
      ∀ p ∈ (planGpuEviction o holds pods).selection.pods, Departed p (p.inquiries talk) := by
  obtain ⟨⟨⟩, hremoved⟩ := ok_of_bind_pure hok
  rw [bind_pure_snd]
  exact removeNodePods_departed hremoved hapart

/-- A complete plan without GPU pods has chosen none. -/
theorem chosen_eq_nil (hnone : (planGpuEviction o holds pods).gpuPods = 0)
    (hcomplete : (planGpuEviction o holds pods).report.isComplete) :
    (planGpuEviction o holds pods).selection.pods = [] := by
  have hlength : (planGpuEviction o holds pods).selection.pods.length = 0 :=
    (beq_iff_eq.1 hcomplete).trans hnone
  exact List.eq_nil_of_length_eq_zero hlength

theorem evictGpuPods_seesGone {report : EvictionReport}
    (hok : (evictGpuPods api holds node o s).1 = some (.ok report)) (hcomplete : report.isComplete)
    (hstart : s.exchanges = []) :
    SeesGone api s node none (fun pods => (planGpuEviction o holds pods).selection.pods)
      (evictGpuPods api holds node o s).2 := by
  refine nodePods_seesGone (fun pods now hok hapart => ?_) hok hstart
  by_cases hstop : (planGpuEviction o holds pods).gpuPods = 0 ∨
      ¬ (planGpuEviction o holds pods).report.isComplete
  · simp only [if_pos hstop] at hok ⊢
    have hreport : (planGpuEviction o holds pods).report = report := by
      cases hok
      rfl
    rw [← hreport] at hcomplete
    have hnone := hstop.resolve_right (not_not.2 hcomplete)
    refine ⟨[], .refl now, ?_⟩
    rw [chosen_eq_nil hnone hcomplete]
    exact List.forall_mem_nil _
  · simp only [if_neg hstop] at hok ⊢
    exact removeGpuPods_departed hok hapart

theorem drainGpuPods_seesGone {report : EvictionReport}
    (hok : (drainGpuPods api holds node o false s).1 = some (.ok report))
    (hstart : s.exchanges = []) :
    SeesGone api s node none (fun pods => (planGpuEviction o holds pods).selection.pods)
      (drainGpuPods api holds node o false s).2 := by
  refine nodePods_seesGone (fun pods now hok hapart => ?_) hok hstart
  by_cases hcomplete : (planGpuEviction o holds pods).report.isComplete
  · by_cases hnone : (planGpuEviction o holds pods).gpuPods = 0
    · simp only [hcomplete, hnone, not_true, if_false, or_true, if_true] at hok ⊢
      refine ⟨[], .refl now, ?_⟩
      rw [chosen_eq_nil hnone hcomplete]
      exact List.forall_mem_nil _
    · simp only [hcomplete, hnone, not_true, if_false, or_false, Bool.false_eq_true] at hok ⊢
      exact removeGpuPods_departed hok hapart
  · simp only [if_pos hcomplete] at hok
    cases hok

end Session

/-- A removal of pods with different addresses ends well only after each of them has been seen to be
gone, or replaced, when its eviction had been accepted. However it ends, no pod is evicted after an
eviction that was not blocked, and nothing is asked about a pod that has been seen to be gone. So
the drains end well only when the pods that they have chosen are gone; the one that may stop short
of an eviction says so in its report. -/
theorem pods_gone_after_removal {ω : Type} (api : ApiServer ω) (o : DrainOptions) (limit : Duration)
    (s : Session ω) :
    (∀ pods, (pods.map Pod.address).Nodup →
      let run := Session.run (Session.removePods api o pods) limit s
      ∀ p ∈ pods, (p.inquiries (s.conversation api run.2)).Pairwise (Inquiry.MayPrecede p) ∧
        (run.1 = some (.ok ()) → Departed p (p.inquiries (s.conversation api run.2)))) ∧
    (∀ node,
      let run := Session.run (Session.drainNode api node o) limit s
      run.1 = some (.ok ()) →
        s.SeesGone api node o.podSelector (fun pods => (select o (fun _ => .accept) pods).pods)
          run.2) ∧
    ∀ holds node report,
      let evicted := Session.run (Session.evictGpuPods api holds node o) limit s
      let drained := Session.run (Session.drainGpuPods api holds node o false) limit s
      let chosen := fun pods => (planGpuEviction o holds pods).selection.pods
      (evicted.1 = some (.ok report) → report.isComplete →
        s.SeesGone api node none chosen evicted.2) ∧
      (drained.1 = some (.ok report) → s.SeesGone api node none chosen drained.2) := by
  -- the listing and the answers depend on the server and the clock, which a new record keeps
  refine ⟨?_, ?_, ?_⟩
  · intro pods hapart run
    let start : Session ω := { s with horizon := s.now.after limit, exchanges := [] }
    obtain ⟨talk, htalks, hpods⟩ : ∃ talk, Session.Talks api start talk run.2 ∧ _ :=
      Session.removePods_departed hapart
    have hconversation : s.conversation api run.2 = talk := htalks.conversation_eq rfl
    rw [hconversation]
    exact hpods
  · intro node run hok
    exact Session.drainNode_seesGone hok rfl
  · intro holds node report evicted drained chosen
    refine ⟨fun hok hcomplete => ?_, fun hok => ?_⟩
    · exact Session.evictGpuPods_seesGone hok hcomplete rfl
    · exact Session.drainGpuPods_seesGone hok rfl

/-- A node with a GPU pod that may be evicted at the second try, and that is gone at once. -/
def ScriptedServer.yielding : ScriptedServer where
  node := "node"
  record := ⟨.empty, .empty⟩
  cordoned := true
  pods :=
    let pod : Pod :=
      { givenName := some "train", generateName := none, podNamespace := none, uid := none,
        labels := .empty, annotations := .empty, owners := [⟨"Job", true⟩],
        spec := some ⟨some "node", [⟨["nvidia.com/gpu"], []⟩], [], []⟩, phase := none }
    [⟨pod, [429, 201], [], some Duration.zero, none, false, none⟩]
  gets := []
  patches := []
  lists := []

/-- All removals of the pod of that node end well. -/
theorem yielding_ends_well :
    let api := ScriptedServer.answer
    let start : Session ScriptedServer :=
      ⟨.yielding, 0, Instant.after 0 (Duration.ofSeconds 60), []⟩
    let o := DrainOptions.default
    let holds := fun _ : String => false
    (Session.removePods api o (ScriptedServer.yielding.pods.map (·.pod)) start).1 =
        some (.ok ()) ∧
      (Session.drainNode api "node" o start).1 = some (.ok ()) ∧
      (Session.evictGpuPods api holds "node" o start).1 = some (.ok ⟨1, 1, []⟩) ∧
      (Session.drainGpuPods api holds "node" o false start).1 = some (.ok ⟨1, 1, []⟩) := by
  intro api start o holds
  let pods := ScriptedServer.yielding.pods.map (·.pod)
  let listed := (Session.ask api (.listPods none none "node") start).2
  have hlists : start.Lists api "node" none pods := by
    rw [Session.Lists]
    rfl
  have hopen : (select o (fun _ => .accept) pods).refused.isEmpty := by decide +kernel
  have hselected : (select o (fun _ => .accept) pods).pods = pods := by decide +kernel
  have hsome : (planGpuEviction o holds pods).gpuPods ≠ 0 := by decide +kernel
  have hcomplete : (planGpuEviction o holds pods).report.isComplete := by decide +kernel
  have hchosen : (planGpuEviction o holds pods).selection.pods = pods := by decide +kernel
  have hreport : (planGpuEviction o holds pods).report = ⟨1, 1, []⟩ := by decide +kernel
  -- the pod has two turns: its eviction is blocked, and then it is accepted and the pod gone
  let last := fun s : Session ScriptedServer =>
    ((Pool.start s.now pods).afterTurns api (.ofOptions o s.now) s.horizon 2 s).1
  have hends (s : Session ScriptedServer) (hidle : (last s).active = [])
      (hnone : (last s).failures = []) :
      (Session.removePods api o pods s).1 = some (.ok ()) := by
    have hshown := DrainOptions.deadlineIsShown_of_timeless (o := o) rfl s.now
    rw [Session.removePods_of_idle 2 hshown hidle]
    exact congrArg some (Report.ofAll_eq_ok_iff.2 hnone)
  have hremoved : (Session.removePods api o pods start).1 = some (.ok ()) :=
    hends start (by decide +kernel) (by decide +kernel)
  have hremovedListed : (Session.removePods api o pods listed).1 = some (.ok ()) :=
    hends listed (by decide +kernel) (by decide +kernel)
  have hgpu : (Session.removeGpuPods api "node" o (planGpuEviction o holds pods) listed).1 =
      some (.ok ()) := by
    rw [Session.removeGpuPods, Session.removeNodePods, Session.adapt_ok_iff, hchosen]
    exact hremovedListed
  refine ⟨hremoved, ?_, ?_, ?_⟩
  · rw [Session.drainNode, show o.podSelector = none from rfl, Session.nodePods_bind hlists]
    simp only [if_pos hopen]
    rw [Session.removeNodePods, Session.adapt_ok_iff, hselected]
    exact hremovedListed
  · rw [Session.evictGpuPods, Session.nodePods_bind hlists]
    simp only [hsome, hcomplete, not_true, or_self, if_false]
    rw [hreport]
    exact Session.bind_pure_of_ok hgpu _
  · rw [Session.drainGpuPods, Session.nodePods_bind hlists]
    simp only [hsome, hcomplete, not_true, or_self, if_false, Bool.false_eq_true]
    rw [hreport]
    exact Session.bind_pure_of_ok hgpu _

theorem yielding_pod_gone :
    let api := ScriptedServer.answer
    let s : Session ScriptedServer := ⟨.yielding, 0, 0, []⟩
    let o := DrainOptions.default
    let holds := fun _ : String => false
    let limit := Duration.ofSeconds 60
    let pods := ScriptedServer.yielding.pods.map (·.pod)
    let removed := Session.run (Session.removePods api o pods) limit s
    let drained := Session.run (Session.drainNode api "node" o) limit s
    let gpuEvicted := Session.run (Session.evictGpuPods api holds "node" o) limit s
    let gpuDrained := Session.run (Session.drainGpuPods api holds "node" o false) limit s
    let seenGone := fun later => ∀ p ∈ pods, Departed p (p.inquiries (s.conversation api later))
    (removed.1 = some (.ok ()) ∧ seenGone removed.2) ∧
      (drained.1 = some (.ok ()) ∧ seenGone drained.2) ∧
      (gpuEvicted.1 = some (.ok ⟨1, 1, []⟩) ∧ seenGone gpuEvicted.2) ∧
      (gpuDrained.1 = some (.ok ⟨1, 1, []⟩) ∧ seenGone gpuDrained.2) := by
  intro api s o holds limit pods removed drained gpuEvicted gpuDrained seenGone
  have hapart : (pods.map Pod.address).Nodup := by decide
  have hlists : s.Lists api "node" none pods := by
    rw [Session.Lists]
    rfl
  have hselected : (select o (fun _ => .accept) pods).pods = pods := by decide +kernel
  have hchosen : (planGpuEviction o holds pods).selection.pods = pods := by decide +kernel
  obtain ⟨hremoved, hdrained, hevicted, hgpu⟩ := yielding_ends_well
  obtain ⟨hpods, hnode, hgpuPods⟩ := pods_gone_after_removal api o limit s
  obtain ⟨hevictedGone, hdrainedGone⟩ := hgpuPods holds "node" ⟨1, 1, []⟩
  have hdrainedSeen := (hnode "node" hdrained).departed hlists (hselected.symm ▸ hapart)
  have hevictedSeen := (hevictedGone hevicted rfl).departed hlists (hchosen.symm ▸ hapart)
  have hgpuSeen := (hdrainedGone hgpu).departed hlists (hchosen.symm ▸ hapart)
  rw [hselected] at hdrainedSeen
  simp only [hchosen] at hevictedSeen hgpuSeen
  exact ⟨⟨hremoved, fun p hp => (hpods pods hapart p hp).2 hremoved⟩, ⟨hdrained, hdrainedSeen⟩,
    ⟨hevicted, hevictedSeen⟩, ⟨hgpu, hgpuSeen⟩⟩

end DriverHandover
