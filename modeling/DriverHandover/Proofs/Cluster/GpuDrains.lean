import DriverHandover.Proofs.Cluster.Drained

/-!
# The two removals of GPU pods agree

The removal of GPU pods within a run and the one that is asked for on its own look at the same list
and make the same plan. They differ only in what they make of a plan that is not complete, and in
that the second one can be rehearsed.

## Main statements

* `Session.evictGpuPods_eq_drainGpuPods` – a complete plan is carried out in the same way.
* `Session.evictGpuPods_of_incomplete`, `Session.drainGpuPods_of_incomplete` – one that is not is
  reported, or is a failure.
* `Session.drainGpuPods_rehearsed` – a rehearsal only counts.
* `gpu_drains_agree` – how the two compare.
-/

namespace DriverHandover

/-- How a failure words a report of GPU pods that cannot all be removed. -/
def EvictionReport.shortfall (r : EvictionReport) : String :=
  "only " ++ toString r.deletable ++ " of " ++ toString r.gpuPods ++
    " GPU pods can be deleted: " ++ Text.join "; " r.errors

namespace Session

variable {ω : Type} {api : ApiServer ω} {holds : String → Bool} {node : String} {o : DrainOptions}
variable {s : Session ω} {pods : List Pod}

theorem incompleteText_eq (plan : GpuPlan) : incompleteText plan = plan.report.shortfall :=
  rfl

/-- A complete plan is carried out in the same way, also if there is nothing to remove. -/
theorem evictGpuPods_eq_drainGpuPods (hlists : Lists api s node none pods)
    (hcomplete : (planGpuEviction o holds pods).report.isComplete) :
    evictGpuPods api holds node o s = drainGpuPods api holds node o false s := by
  rw [evictGpuPods, drainGpuPods, nodePods_bind hlists, nodePods_bind hlists]
  simp only [hcomplete, not_true, or_false, if_false, Bool.false_eq_true, false_or]

/-- A plan that is not complete is reported, and nothing is removed. -/
theorem evictGpuPods_of_incomplete (hlists : Lists api s node none pods)
    (hincomplete : ¬ (planGpuEviction o holds pods).report.isComplete) :
    evictGpuPods api holds node o s =
      (some (.ok (planGpuEviction o holds pods).report),
        (ask api (.listPods none none node) s).2) := by
  rw [evictGpuPods, nodePods_bind hlists]
  simp only [if_pos (Or.inr hincomplete)]
  rfl

/-- A plan that is not complete is a failure, rehearsed or not. -/
theorem drainGpuPods_of_incomplete (dryRun : Bool) (hlists : Lists api s node none pods)
    (hincomplete : ¬ (planGpuEviction o holds pods).report.isComplete) :
    drainGpuPods api holds node o dryRun s =
      (some (.error (Report.of
          (.drainFailed node (planGpuEviction o holds pods).report.shortfall))),
        (ask api (.listPods none none node) s).2) := by
  rw [drainGpuPods, nodePods_bind hlists, ← incompleteText_eq]
  simp only [if_pos hincomplete]
  rfl

/-- Both leave the same session, whatever the server lists. -/
theorem evictGpuPods_snd (api : ApiServer ω) (holds : String → Bool) (node : String)
    (o : DrainOptions) (s : Session ω) :
    (evictGpuPods api holds node o s).2 = (drainGpuPods api holds node o false s).2 := by
  cases hanswer : (api (.listPods none none node) s.now s.server).1 with
  | error e =>
    rw [evictGpuPods, drainGpuPods, nodePods_bind_error hanswer, nodePods_bind_error hanswer]
  | ok pods =>
    by_cases hcomplete : (planGpuEviction o holds pods).report.isComplete
    · rw [evictGpuPods_eq_drainGpuPods hanswer hcomplete]
    · rw [evictGpuPods_of_incomplete hanswer hcomplete,
        drainGpuPods_of_incomplete false hanswer hcomplete]

/-- The rehearsal of a complete plan returns its report. -/
theorem drainGpuPods_of_complete (hlists : Lists api s node none pods)
    (hcomplete : (planGpuEviction o holds pods).report.isComplete) :
    drainGpuPods api holds node o true s =
      (some (.ok (planGpuEviction o holds pods).report),
        (ask api (.listPods none none node) s).2) := by
  rw [drainGpuPods, nodePods_bind hlists]
  simp only [hcomplete, not_true, if_false, true_or, if_true]
  rfl

/-- However it ends, a rehearsal only asks for the list. -/
theorem drainGpuPods_rehearsed (api : ApiServer ω) (holds : String → Bool) (node : String)
    (o : DrainOptions) (s : Session ω) :
    (drainGpuPods api holds node o true s).2 = (ask api (.listPods none none node) s).2 := by
  cases hanswer : (api (.listPods none none node) s.now s.server).1 with
  | error e => rw [drainGpuPods, nodePods_bind_error hanswer]
  | ok pods =>
    by_cases hcomplete : (planGpuEviction o holds pods).report.isComplete
    · rw [drainGpuPods_of_complete hanswer hcomplete]
    · rw [drainGpuPods_of_incomplete true hanswer hcomplete]

/-- A removal that ends well returns the report of a complete plan. -/
theorem complete_of_drainGpuPods {report : EvictionReport}
    (hok : (drainGpuPods api holds node o false s).1 = some (.ok report)) :
    ∃ pods, Lists api s node none pods ∧ (planGpuEviction o holds pods).report.isComplete ∧
      (planGpuEviction o holds pods).report = report := by
  cases hanswer : (api (.listPods none none node) s.now s.server).1 with
  | error e =>
    rw [drainGpuPods, nodePods_bind_error hanswer] at hok
    cases hok
  | ok pods =>
    by_cases hcomplete : (planGpuEviction o holds pods).report.isComplete
    · refine ⟨pods, hanswer, hcomplete, ?_⟩
      rw [drainGpuPods, nodePods_bind hanswer] at hok
      simp only [hcomplete, not_true, if_false, Bool.false_eq_true, false_or] at hok
      by_cases hnone : (planGpuEviction o holds pods).gpuPods = 0
      · simp only [if_pos hnone] at hok
        cases hok
        rfl
      · simp only [if_neg hnone] at hok
        rw [bind_apply] at hok
        split at hok <;> cases hok
        rfl
    · rw [drainGpuPods_of_incomplete false hanswer hcomplete] at hok
      cases hok

end Session

/-- Run from the same state, the two removals of GPU pods make the same requests at the same
moments and leave the same session. If the pods cannot be listed, or all GPU pods may be removed,
they also end in the same way. If some may not, nothing is evicted: one returns the report, and for
the other it is a failure with the same counts and errors. A dry run evicts nothing, and returns the
report of the removal if that ends well. -/
theorem gpu_drains_agree {ω : Type} (api : ApiServer ω) (holds : String → Bool) (node : String)
    (o : DrainOptions) (limit : Duration) (s : Session ω) :
    let evicted := Session.run (Session.evictGpuPods api holds node o) limit s
    let drained := Session.run (Session.drainGpuPods api holds node o false) limit s
    let rehearsed := Session.run (Session.drainGpuPods api holds node o true) limit s
    evicted.2 = drained.2 ∧
      (∀ e, (api (.listPods none none node) s.now s.server).1 = .error e →
        evicted.1 = drained.1 ∧
          evicted.1 = some (.error (Report.because (.podListFailed s!"pods on node {node}") e))) ∧
      (∀ pods, s.Lists api node none pods →
        let report := (planGpuEviction o holds pods).report
        (report.isComplete → evicted.1 = drained.1) ∧
          (¬ report.isComplete → evicted.2.evicted = [] ∧ drained.2.evicted = [] ∧
            evicted.1 = some (.ok report) ∧
            drained.1 = some (.error (Report.of (.drainFailed node report.shortfall))))) ∧
      rehearsed.2.evicted = [] ∧
      ∀ report, drained.1 = some (.ok report) → rehearsed.1 = some (.ok report) := by
  intro evicted drained rehearsed
  let start : Session ω := { s with horizon := s.now.after limit, exchanges := [] }
  refine ⟨?_, fun e hfails => ?_, fun pods hlists => ⟨fun hcomplete => ?_, fun hincomplete => ?_⟩,
    ?_, fun report hok => ?_⟩
  · exact Session.evictGpuPods_snd api holds node o start
  · have hevicted : evicted = _ := Session.nodePods_bind_error (s := start) hfails
    have hdrained : drained = _ := Session.nodePods_bind_error (s := start) hfails
    rw [hevicted, hdrained]
    exact ⟨rfl, rfl⟩
  · exact congrArg Prod.fst (Session.evictGpuPods_eq_drainGpuPods (s := start) hlists hcomplete)
  · have hevicted : evicted = _ :=
      Session.evictGpuPods_of_incomplete (s := start) hlists hincomplete
    have hdrained : drained = _ :=
      Session.drainGpuPods_of_incomplete (s := start) false hlists hincomplete
    rw [hevicted, hdrained]
    exact ⟨rfl, rfl, rfl, rfl⟩
  · have hrehearsed : rehearsed.2 = _ := Session.drainGpuPods_rehearsed api holds node o start
    rw [hrehearsed]
    rfl
  · obtain ⟨pods, hlists, hcomplete, hreport⟩ :=
      Session.complete_of_drainGpuPods (s := start) hok
    have hrehearsed : rehearsed = _ := Session.drainGpuPods_of_complete hlists hcomplete
    rw [hrehearsed, hreport]

/-- A node with two GPU pods, one of which no controller would replace. -/
def ScriptedServer.shared : ScriptedServer where
  node := "node"
  record := ⟨.empty, .empty⟩
  cordoned := true
  pods :=
    let pod (name : String) (owners : List Owner) : Pod :=
      { givenName := some name, generateName := none, podNamespace := none, uid := none,
        labels := .empty, annotations := .empty, owners,
        spec := some ⟨some "node", [⟨["nvidia.com/gpu"], []⟩], [], []⟩, phase := none }
    [pod "train" [⟨"Job", true⟩], pod "notebook" []].map fun pod =>
      ⟨pod, [], [], some Duration.zero, none, false, none⟩
  gets := []
  patches := []
  lists := []

theorem notebook_stops_both :
    let api := ScriptedServer.answer
    let s : Session ScriptedServer := ⟨.shared, 0, 0, []⟩
    let o := DrainOptions.default
    let holds := fun _ : String => false
    let limit := Duration.ofSeconds 60
    let evicted := Session.run (Session.evictGpuPods api holds "node" o) limit s
    let drained := Session.run (Session.drainGpuPods api holds "node" o false) limit s
    evicted.1 = some (.ok ⟨2, 1,
        ["/notebook: pod is not managed by a controller (use force to override)"]⟩) ∧
      drained.1 = some (.error (Report.of (.drainFailed "node"
        ("only 1 of 2 GPU pods can be deleted: " ++
          "/notebook: pod is not managed by a controller (use force to override)")))) ∧
      -- where all GPU pods may go the dry run returns what the removal does
      (Session.run (Session.drainGpuPods api holds "node" o true) limit
        { s with server := .yielding }).1 = some (.ok ⟨1, 1, []⟩) := by
  intro api s o holds limit evicted drained
  have hlists : s.Lists api "node" none (ScriptedServer.shared.pods.map (·.pod)) := by
    rw [Session.Lists]
    rfl
  have hincomplete : ¬ (planGpuEviction o holds
      (ScriptedServer.shared.pods.map (·.pod))).report.isComplete := by
    decide +kernel
  have hreport : (planGpuEviction o holds (ScriptedServer.shared.pods.map (·.pod))).report =
      ⟨2, 1, ["/notebook: pod is not managed by a controller (use force to override)"]⟩ := by
    decide +kernel
  obtain ⟨-, -, hlisted, -⟩ := gpu_drains_agree api holds "node" o limit s
  obtain ⟨-, -, hevicted, hdrained⟩ := (hlisted _ hlists).2 hincomplete
  rw [hreport] at hevicted hdrained
  refine ⟨hevicted, hdrained, ?_⟩
  obtain ⟨-, -, -, -, hrehearsed⟩ :=
    gpu_drains_agree api holds "node" o limit { s with server := .yielding }
  exact hrehearsed _ yielding_ends_well.2.2.2

end DriverHandover
