import DriverHandover.CommandLine
import DriverHandover.Proofs.Cluster.Budget
import DriverHandover.Proofs.Cluster.Eviction
import DriverHandover.Proofs.Cluster.Failures
import Mathlib.Data.List.Perm.Subperm

/-!
# Every pod is attempted

However the removals of some pods go, those of the others begin, and the capacity of the pool is
used up while pods wait. With a time limit all of them end, and what is returned tells how. The one
limit that lets no removal begin is one that the clock cannot show: it is computed before any
request, and the program is aborted there.

## Main definitions

* `Pool.Busy` – a pool that is full while pods wait.
* `Pool.unsettled`, `settledPods` – the pods whose eviction is still to be decided, and the others.

## Main statements

* `Pool.Takes.busy` – a pool is full while pods wait.
* `Pool.Takes.settled_perm` – the eviction of every pod is decided once.
* `every_pod_attempted` – what holds of a removal of pods that has a time limit.
* `unshown_deadline_attempts_none` – a timeout of the command line with which no pod is attempted.
-/

namespace DriverHandover

open Session

namespace Pool

variable {ω : Type} {api : ApiServer ω} {plan : RemovalPlan} {horizon : Instant}
variable {pool last : Pool} {s later : Session ω} {turns : List Turn} {r : Removal}
variable {rest : List Removal} {waiting pods : List Pod} {failures : List (Report ClusterError)}
variable {talk : List Inquiry} {state : RemovalState} {now : Instant}

/-- No more removals are under way than may be, and no fewer while pods wait. -/
structure Busy (pool : Pool) : Prop where
  length_le : pool.active.length ≤ poolCapacity
  full : pool.waiting ≠ [] → pool.active.length = poolCapacity

theorem busy_start (now : Instant) (pods : List Pod) : (start now pods).Busy where
  length_le := by
    rw [start, List.length_map]
    exact List.length_take_le poolCapacity pods
  full hwaiting := by
    have hlong : poolCapacity < pods.length := by
      by_contra hshort
      exact hwaiting (List.drop_eq_nil_of_le (Nat.le_of_not_lt hshort))
    rw [start, List.length_map, List.length_take]
    omega

/-- A removal that waits keeps its place, and one that has ended gives it to the next pod. -/
theorem Busy.settle (h : Busy ⟨r :: rest, waiting, failures⟩) (now : Instant)
    (state : RemovalState) : (Pool.settle now r ⟨rest, waiting, failures⟩ state).Busy := by
  obtain ⟨hle, hfull⟩ := h
  rw [List.length_cons] at hle hfull
  rcases settle_cases now r ⟨rest, waiting, failures⟩ state with
    ⟨next, -, heq⟩ | ⟨-, ⟨-, heq⟩ | ⟨p, others, hwaiting, heq⟩⟩
  · rw [heq]
    have hlen := (enqueue_perm ⟨r.pod, next, now.after removalInterval⟩ rest).length_eq
    rw [List.length_cons] at hlen
    exact ⟨hlen ▸ hle, fun hwaiting => hlen ▸ hfull hwaiting⟩
  · rw [heq]
    exact ⟨Nat.le_of_succ_le hle, fun hne => absurd rfl hne⟩
  · rw [heq]
    have hlen := (enqueue_perm (begin now p) rest).length_eq
    rw [List.length_cons] at hlen
    have hcapacity := hfull (hwaiting ▸ List.cons_ne_nil p others)
    exact ⟨hlen ▸ hle, fun _ => hlen ▸ hcapacity⟩

/-- A pool that starts full stays full while pods wait. -/
theorem Takes.busy (h : Takes api plan horizon pool s turns last later) (hpool : pool.Busy) :
    last.Busy := by
  induction h with
  | none => exact hpool
  | turn _ _ _ _ _ ih => exact ih.settle _ _

/-- The pods whose eviction is still to be decided: they wait, or it was blocked so far. -/
def unsettled (pool : Pool) : List Pod :=
  (pool.active.filter (·.phase = .evicting)).map (·.pod) ++ pool.waiting

theorem unsettled_start (now : Instant) (pods : List Pod) : (start now pods).unsettled = pods := by
  have hall : (start now pods).active.filter (·.phase = .evicting) = (start now pods).active := by
    refine List.filter_eq_self.2 fun r hr => ?_
    obtain ⟨p, -, rfl⟩ := List.mem_map.1 hr
    rfl
  rw [unsettled, hall]
  exact pods_start now pods

theorem unsettled_enqueue (r : Removal) (rest : List Removal) (waiting : List Pod)
    (failures failures' : List (Report ClusterError)) :
    (unsettled ⟨enqueue r rest, waiting, failures⟩).Perm
      (unsettled ⟨r :: rest, waiting, failures'⟩) :=
  (((enqueue_perm r rest).filter _).map Removal.pod).append_right waiting

end Pool

/-- Whether the eviction of a pod was decided in a turn: it is not tried again. -/
def Turn.settles (t : Turn) : Bool :=
  match t.removal.phase, t.state with
  | .evicting, .waits .evicting => false
  | .evicting, _ => true
  | .confirming, _ => false

/-- The pods whose eviction was decided in some turns. -/
def settledPods (turns : List Turn) : List Pod :=
  (turns.filter (·.settles)).map (·.removal.pod)

/-- A removal that looks for its pod goes on looking. -/
theorem Removal.Outcome.confirming_of_waits {plan : RemovalPlan} {p : Pod} {now : Instant}
    {next : RemovalPhase} {talk : List Inquiry}
    (h : Outcome plan p now .confirming talk (.waits next)) : next = .confirming := by
  cases h
  rfl

namespace Pool

variable {ω : Type} {api : ApiServer ω} {plan : RemovalPlan} {horizon : Instant}
variable {pool last : Pool} {s later : Session ω} {turns : List Turn} {r : Removal}
variable {rest : List Removal} {waiting pods : List Pod} {failures : List (Report ClusterError)}
variable {talk : List Inquiry} {state : RemovalState} {now : Instant}

/-- What a turn leaves undecided: the eviction of its own pod is decided, or it is to be decided as
before. -/
theorem unsettled_settle (houtcome : Removal.Outcome plan r.pod now r.phase talk state) :
    (settledPods [⟨r, talk, state⟩] ++
        (settle now r ⟨rest, waiting, failures⟩ state).unsettled).Perm
      (unsettled ⟨r :: rest, waiting, failures⟩) := by
  have hended (hend : state.isEnd) :
      (settle now r ⟨rest, waiting, failures⟩ state).unsettled.Perm
        (unsettled ⟨rest, waiting, failures⟩) := by
    rcases settle_cases now r ⟨rest, waiting, failures⟩ state with
      ⟨next, rfl, -⟩ | ⟨-, ⟨hnone, heq⟩ | ⟨p, others, hwaiting, heq⟩⟩
    · cases hend
    · rw [heq, unsettled, unsettled, hnone]
    · rw [heq]
      refine (unsettled_enqueue _ rest others _ []).trans ?_
      change waiting = p :: others at hwaiting
      rw [hwaiting, unsettled, unsettled]
      exact List.perm_middle.symm
  obtain ⟨p, phase, wake⟩ := r
  cases state with
  | removed =>
    cases phase with
    | evicting => exact (hended rfl).cons p
    | confirming => exact hended rfl
  | failed report =>
    cases phase with
    | evicting => exact (hended rfl).cons p
    | confirming => exact hended rfl
  | waits next =>
    cases phase with
    | evicting =>
      cases next with
      | evicting => exact unsettled_enqueue ⟨p, .evicting, _⟩ rest waiting failures failures
      | confirming =>
        exact (unsettled_enqueue ⟨p, .confirming, _⟩ rest waiting failures failures).cons p
    | confirming =>
      have hnext : next = .confirming := houtcome.confirming_of_waits
      rw [hnext]
      exact unsettled_enqueue ⟨p, .confirming, _⟩ rest waiting failures failures

/-- The eviction of every pod is decided in one turn, or is still to be decided. -/
theorem Takes.settled_perm (h : Takes api plan horizon pool s turns last later) :
    (settledPods turns ++ last.unsettled).Perm pool.unsettled := by
  induction h with
  | none => exact .refl _
  | turn _ _ houtcome _ _ ih =>
    refine List.Perm.trans ?_ ih
    rw [settledPods, List.filter_append, List.map_append, List.append_assoc]
    exact (unsettled_settle houtcome).append_left _

end Pool

/-- The pods whose eviction is asked for in some inquiries. -/
def evictionsOf (talk : List Inquiry) : List PodAddress :=
  talk.filterMap fun i =>
    match i.request with
    | .evictPod address _ => some address
    | _ => none

theorem evictionsOf_append (talk more : List Inquiry) :
    evictionsOf (talk ++ more) = evictionsOf talk ++ evictionsOf more :=
  List.filterMap_append

/-- The evictions that a session has asked for are those of its record. -/
theorem Session.evicted_eq {ω : Type} {later : Session ω} {talk : List Inquiry}
    (h : later.exchanges = (talk.map Inquiry.exchange).reverse) :
    later.evicted = (evictionsOf talk).reverse := by
  rw [evicted, h, List.filterMap_reverse, List.filterMap_map]
  rfl

theorem Turn.evictionsOf_talk {plan : RemovalPlan} {t : Turn}
    (h : Removal.Outcome plan t.removal.pod t.removal.wake t.removal.phase t.talk t.state)
    (hsettles : t.settles = true) : t.removal.pod.address ∈ evictionsOf t.talk := by
  obtain ⟨⟨p, phase, wake⟩, talk, state⟩ := t
  change Removal.Outcome plan p wake phase talk state at h
  cases h with
  | gone | present | overdue => cases hsettles
  | accepted | rejected | blocked | exhausted => exact List.mem_cons_self

/-- The eviction of each pod was asked for before it was decided. -/
theorem settledPods_sublist {plan : RemovalPlan} {turns : List Turn}
    (h : ∀ t ∈ turns,
      Removal.Outcome plan t.removal.pod t.removal.wake t.removal.phase t.talk t.state) :
    ((settledPods turns).map Pod.address).Sublist (evictionsOf (turns.flatMap (·.talk))) := by
  induction turns with
  | nil => exact List.Sublist.refl _
  | cons t rest ih =>
    have hrest := ih fun t' ht' => h t' (List.mem_cons_of_mem t ht')
    rw [List.flatMap_cons, evictionsOf_append, settledPods, List.filter_cons]
    split
    · rename_i hsettles
      have hown := Turn.evictionsOf_talk (h t List.mem_cons_self) hsettles
      exact (List.singleton_sublist.2 hown).append hrest
    · exact hrest.trans (List.sublist_append_right _ _)

theorem Pool.unsettled_eq_nil {pool : Pool} (h : pool.pods = []) : pool.unsettled = [] := by
  obtain ⟨hactive, hwaiting⟩ := List.append_eq_nil_iff.1 h
  rw [unsettled, List.map_eq_nil_iff.1 hactive, hwaiting]
  rfl

/-- A removal of pods with a time limit returns if the session goes on for an interval longer. -/
theorem Session.removePods_returns {ω : Type} (api : ApiServer ω) {o : DrainOptions}
    (pods : List Pod) {s : Session ω} (htimed : o.timeout.isZero = false)
    (hshown : (s.now.after o.timeout).isShown = true)
    (hlong : (s.now.after o.timeout).after removalInterval ≤ s.horizon) :
    ∃ turns last later,
      Pool.Takes api (.ofOptions o s.now) s.horizon (Pool.start s.now pods) s turns last later ∧
      last.active = [] ∧ removePods api o pods s = (some (Report.ofAll last.failures), later) := by
  have hclock := (DrainOptions.deadlineIsShown_of_timed htimed s.now).trans hshown
  obtain ⟨turns, last, later, htakes, hend⟩ := removePods_ends api hclock pods
  refine ⟨turns, last, later, htakes, ?_⟩
  rcases hend with hend | ⟨r, hr, hlate, -⟩
  · exact hend
  · -- the next turn would be less than an interval after the deadline
    have hplan := RemovalPlan.deadline_of_timed htimed s.now
    have hstart := lt_after_removalInterval s.now o.timeout
    have hwake := (htakes.timely hplan (Pool.timely_start hstart pods) hstart).1 r hr
    exact absurd (Nat.lt_of_le_of_lt hlong hlate) (Nat.lt_asymm hwake)

/-- However many pods there are and whatever the server answers, a removal of pods that has a time
limit attempts each of them, as long as the clock can show the deadline. At any time at most five
removals are under way, and exactly five while pods wait; every pod waits, is under way, or has had
one turn that ended its removal. When all have ended, the eviction of each pod of the list has been
asked for. The removal ends well exactly if no turn has failed, and else its report names one error
for each turn that has, which is the end of the removal of its pod. If the clock cannot show the
deadline, nothing is asked and nothing is reported. -/
theorem every_pod_attempted {ω : Type} (api : ApiServer ω) (o : DrainOptions) (pods : List Pod)
    (limit : Duration) (s : Session ω) (htimed : o.timeout.isZero = false) :
    let deadline := s.now.after o.timeout
    let plan := RemovalPlan.ofOptions o s.now
    let start : Session ω := { s with horizon := s.now.after limit, exchanges := [] }
    let takes := Pool.Takes api plan start.horizon (Pool.start s.now pods) start
    let run := Session.run (Session.removePods api o pods) limit s
    (∀ turns last now, takes turns last now →
      last.active.length ≤ 5 ∧ (last.waiting ≠ [] → last.active.length = 5) ∧
        (Pool.ended turns ++ last.pods).Perm pods) ∧
    (deadline.isShown = true → deadline.after removalInterval ≤ s.now.after limit →
      ∃ turns last now result, takes turns last now ∧ run = (some result, now) ∧
        now.exchanges = ((turns.flatMap (·.talk)).map Inquiry.exchange).reverse ∧
        (pods.map Pod.address).Subperm now.evicted ∧ (Pool.ended turns).Perm pods ∧
        (∀ t ∈ turns, (t.failure? plan).isSome → t.state.isEnd) ∧
        (result = .ok () ↔ ∀ t ∈ turns, t.failure? plan = none) ∧
        ∀ report, result = .error report → report.clusterErrors =
          (turns.filter fun t => (t.failure? plan).isSome).map (Turn.error o.timeout)) ∧
    (deadline.isShown = false → run = (none, start)) := by
  intro deadline plan start takes run
  refine ⟨fun turns last now htakes => ?_, fun hshown hlong => ?_, fun hunshown => ?_⟩
  · have hbusy := htakes.busy (Pool.busy_start s.now pods)
    exact ⟨hbusy.length_le, hbusy.full, htakes.perm_start⟩
  · obtain ⟨turns, last, now, htakes, hidle, hrun⟩ :=
      Session.removePods_returns api pods (s := start) htimed hshown hlong
    have hpods := htakes.pods_eq_nil hidle
    have hrecord := htakes.exchanges rfl
    have hfailures : last.failures = turns.filterMap (·.failure? plan) := htakes.failures_eq
    refine ⟨turns, last, now, _, htakes, hrun, hrecord, ?_, htakes.ended_perm hidle,
      htakes.isEnd_of_failure?, ?_, fun report hreport => ?_⟩
    · have hsettled := htakes.settled_perm
      rw [Pool.unsettled_eq_nil hpods, List.append_nil, Pool.unsettled_start] at hsettled
      rw [Session.evicted_eq hrecord]
      exact (hsettled.symm.map Pod.address).subperm.trans
        ((settledPods_sublist htakes.outcome).subperm.trans (List.reverse_perm _).symm.subperm)
    · rw [Report.ofAll_eq_ok_iff, hfailures, List.filterMap_eq_nil_iff]
    · rw [Report.clusterErrors_ofAll hreport, hfailures]
      exact clusterErrors_failures htakes.outcome
  · have hclock := DrainOptions.deadlineIsShown_of_timed htimed s.now
    exact Session.removePods_of_unshown api (s := start) (hclock.trans hunshown) pods

/-- A node with seven pods: one may never be evicted, one not for now, one stays when it is evicted,
and four are gone at once. -/
def ScriptedServer.crowded : ScriptedServer where
  node := "node"
  record := ⟨.empty, .empty⟩
  cordoned := true
  pods :=
    let scripted (name : String) (evictions : List Nat) (goneAfter : Option Duration) :=
      let pod : Pod :=
        { givenName := some name, generateName := none, podNamespace := none, uid := none,
          labels := .empty, annotations := .empty, owners := [⟨"Job", true⟩], spec := none,
          phase := none }
      (⟨pod, evictions, [], goneAfter, none, false, none⟩ : ScriptedPod)
    [scripted "denied" [403] none, scripted "guarded" [429] none, scripted "stuck" [] none] ++
      ["a", "b", "c", "d"].map fun name => scripted name [] (some Duration.zero)
  gets := []
  patches := []
  lists := []

theorem failures_of_crowded_node :
    let api := ScriptedServer.answer
    let s : Session ScriptedServer := ⟨.crowded, 0, 0, []⟩
    let o := { DrainOptions.default with timeout := Duration.ofSeconds 7 }
    let pods := ScriptedServer.crowded.pods.map (·.pod)
    let limit := Duration.ofSeconds 60
    let run := Session.run (Session.removePods api o pods) limit s
    o.timeout.isZero = false ∧ (s.now.after o.timeout).isShown = true ∧
      (s.now.after o.timeout).after removalInterval ≤ s.now.after limit ∧
      (pods.map Pod.address).Subperm run.2.evicted ∧
      ∃ report, run.1 = some (.error report) ∧ report.clusterErrors =
        [.evictionFailed "/denied", .evictionFailed "/guarded",
          .podDeletionTimeout "/stuck" (Duration.ofSeconds 7)] := by
  intro api s o pods limit run
  have htimed : o.timeout.isZero = false := by decide
  have hshown : (s.now.after o.timeout).isShown = true := by decide
  have hlong : (s.now.after o.timeout).after removalInterval ≤ s.now.after limit := by decide
  obtain ⟨-, hattempted, -⟩ := every_pod_attempted api o pods limit s htimed
  obtain ⟨_, _, now, result, -, hrun, -, hevicted, -⟩ := hattempted hshown hlong
  let start : Session ScriptedServer := { s with horizon := s.now.after limit, exchanges := [] }
  -- three turns of the pod that is blocked and of the one that stays, one of each other pod
  let last := ((Pool.start s.now pods).afterTurns api (.ofOptions o s.now) start.horizon 11 start).1
  have hidle : last.active = [] := by decide +kernel
  have hfailures : last.failures.flatMap Report.clusterErrors =
      [.evictionFailed "/denied", .evictionFailed "/guarded",
        .podDeletionTimeout "/stuck" (Duration.ofSeconds 7)] := by
    decide +kernel
  have hclock := (DrainOptions.deadlineIsShown_of_timed htimed s.now).trans hshown
  have hstart : run = Session.removePods api o pods start := Session.run_apply _ limit s
  have hresult : run.1 = some (Report.ofAll last.failures) := by
    rw [hstart]
    exact Session.removePods_of_idle 11 hclock hidle
  refine ⟨htimed, hshown, hlong, ?_, ?_⟩
  · have hrun' : run = (some result, now) := hrun
    rw [hrun']
    exact hevicted
  · cases hall : Report.ofAll last.failures with
    | ok =>
      rw [Report.ofAll_eq_ok_iff.1 hall] at hfailures
      cases hfailures
    | error report =>
      exact ⟨report, hall ▸ hresult, (Report.clusterErrors_ofAll hall).trans hfailures⟩

/-- The command line takes a timeout whose deadline the clock cannot show, and a pod that may be
evicted is then not attempted, however long the session goes on. -/
theorem unshown_deadline_attempts_none :
    let args := ["nvdrain", "--node-name=node", "--timeout=18446744073709551615s"]
    let o := { DrainOptions.default with timeout := Duration.ofSeconds 18446744073709551615 }
    let api := ScriptedServer.answer
    let s : Session ScriptedServer := ⟨.training, 0, 0, []⟩
    let pods := (ScriptedServer.training.pods.map (·.pod)).take 1
    let limit := Duration.ofSeconds 18446744073709551620
    let run := Session.run (Session.removePods api o pods) limit s
    CommandLine.read [] args = .ok ⟨false, .nvdrain ⟨"node", none, false, -1, o⟩⟩ ∧
      o.timeout.isZero = false ∧ (s.now.after o.timeout).after removalInterval ≤ s.now.after limit ∧
      run.1 = none ∧ ¬ (pods.map Pod.address).Subperm run.2.evicted := by
  intro args o api s pods limit run
  have haccepted : CommandLine.read [] args =
      .ok ⟨false, .nvdrain ⟨"node", none, false, -1, o⟩⟩ := rfl
  let start : Session ScriptedServer := { s with horizon := s.now.after limit, exchanges := [] }
  have hunshown : o.deadlineIsShown start.now = false := by decide
  have hstart : run = Session.removePods api o pods start := Session.run_apply _ limit s
  have haborted : run = (none, start) := by
    rw [hstart, Session.removePods_of_unshown api hunshown pods]
  refine ⟨haccepted, by decide, by decide, ?_, ?_⟩
  · rw [haborted]
  · rw [haborted]
    intro hattempted
    exact absurd hattempted.length_le (by decide)

end DriverHandover
