import DriverHandover.Proofs.Cluster.Progress

/-!
# How removals fail

A removal fails with the last thing that was asked in one of its turns. Here the failures of a pool
are read off what its turns asked and were answered, and the errors of a joint report off the
failures that it joins.

## Main definitions

* `Inquiry.failure?`, `Turn.failure?` – the failure that an inquiry about a pod brings about.
* `Turn.error` – the error that tells in which phase a removal has failed.
* `Report.clusterErrors` – the errors of the cluster that a report names.

## Main statements

* `Removal.Outcome.failures_eq` – a turn fails as its inquiries do.
* `Pool.Takes.failures_eq` – the failures of a pool are those of its turns.
* `Report.clusterErrors_ofAll` – a joint report names the error of each failure once.
-/

namespace DriverHandover

open Session

/-- The failure of the removal of a pod that an inquiry brings about. An eviction fails if it is
rejected, and if it is forbidden when the time is over; looking for the pod fails if it is still
there when the time is over. -/
def Inquiry.failure? (plan : RemovalPlan) (p : Pod) : Inquiry → Option (Report ClusterError)
  | ⟨moment, .evictPod _ _, answer⟩ =>
    match EvictionVerdict.ofAnswer answer with
    | .accepted => none
    | .rejected e => some (Report.because (.evictionFailed p.reference) e)
    | .blocked =>
      if plan.isOver moment then
        some ((Report.of (.evictionFailed p.reference)).note evictionTimeoutNote)
      else none
  | ⟨moment, .getPod _, answer⟩ =>
    if p.isGoneBy answer = false ∧ plan.isOver moment then
      some (Report.of (.podDeletionTimeout p.reference plan.timeout))
    else none
  | _ => none

/-- The failure of the removal of a pod that some inquiries bring about. -/
def Pod.failure? (plan : RemovalPlan) (p : Pod) (talk : List Inquiry) :
    Option (Report ClusterError) :=
  talk.findSome? (·.failure? plan p)

/-- The failure of a removal in a turn. -/
def Turn.failure? (plan : RemovalPlan) (t : Turn) : Option (Report ClusterError) :=
  t.talk.findSome? (·.failure? plan t.removal.pod)

/-- What is asked in some turns of a pod brings about the first failure of these turns. -/
theorem Pod.failure?_flatMap {plan : RemovalPlan} {p : Pod} {turns : List Turn}
    (h : ∀ t ∈ turns, t.removal.pod = p) :
    p.failure? plan (turns.flatMap (·.talk)) = turns.findSome? (·.failure? plan) := by
  induction turns with
  | nil => rfl
  | cons t rest ih =>
    have hrest := ih fun t' ht' => h t' (List.mem_cons_of_mem t ht')
    have hfirst : t.talk.findSome? (·.failure? plan p) = t.failure? plan := by
      rw [Turn.failure?, h t List.mem_cons_self]
    rw [failure?] at hrest
    rw [failure?, List.flatMap_cons, List.findSome?_append, hrest, hfirst, List.findSome?_cons]
    cases t.failure? plan <;> rfl

namespace Removal

variable {plan : RemovalPlan} {p : Pod} {now : Instant} {phase next : RemovalPhase}
variable {talk : List Inquiry} {state : RemovalState}

/-- A turn fails as its inquiries do. -/
theorem Outcome.failures_eq (h : Outcome plan p now phase talk state) :
    state.failures = (talk.findSome? (·.failure? plan p)).toList := by
  induction h with
  | gone hgone => simp [RemovalState.failures, Inquiry.failure?, hgone]
  | present hpresent htime => simp [RemovalState.failures, Inquiry.failure?, htime]
  | overdue hpresent hover => simp [RemovalState.failures, Inquiry.failure?, hpresent, hover]
  | accepted hverdict _ ih => simp [Inquiry.failure?, hverdict, ih]
  | rejected hverdict => simp [RemovalState.failures, Inquiry.failure?, hverdict]
  | blocked hverdict htime => simp [RemovalState.failures, Inquiry.failure?, hverdict, htime]
  | exhausted hverdict hover => simp [RemovalState.failures, Inquiry.failure?, hverdict, hover]

/-- A turn leaves a failure behind exactly if the removal has failed. -/
theorem Outcome.failed_iff {report : Report ClusterError}
    (h : Outcome plan p now phase talk state) :
    talk.findSome? (·.failure? plan p) = some report ↔ state = .failed report := by
  have hfailures := h.failures_eq
  cases state with
  | removed | waits _ =>
    rw [RemovalState.failures] at hfailures
    rw [Option.toList_eq_nil_iff.1 hfailures.symm]
    simp
  | failed other =>
    rw [RemovalState.failures] at hfailures
    rw [Option.toList_eq_singleton_iff.1 hfailures.symm]
    simp

end Removal

namespace Pool

variable {ω : Type} {api : ApiServer ω} {plan : RemovalPlan} {horizon now : Instant}
variable {pool last : Pool} {s later : Session ω} {turns : List Turn} {pods : List Pod} {p : Pod}

/-- The failures of a pool are those of its turns, in order. -/
theorem Takes.failures_eq (h : Takes api plan horizon pool s turns last later) :
    last.failures = pool.failures ++ turns.filterMap (·.failure? plan) := by
  rw [h.failures_flatMap, List.filterMap_eq_flatMap_toList]
  exact congrArg _ (List.flatMap_congr fun t ht => (h.outcome t ht).failures_eq)

theorem Takes.isEnd_of_failure? (h : Takes api plan horizon pool s turns last later) :
    ∀ t ∈ turns, (t.failure? plan).isSome → t.state.isEnd = true := by
  intro t ht hfails
  obtain ⟨report, hreport⟩ := Option.isSome_iff_exists.1 hfails
  rw [(h.outcome t ht).failed_iff.1 hreport]
  rfl

/-- The inquiries about a pod bring about the failure of its last turn. -/
theorem Takes.failure?_of_isEnd (h : Takes api plan horizon (start now pods) s turns last later)
    (hapart : (pods.map Pod.address).Nodup) :
    ∀ t ∈ turns, t.state.isEnd = true →
      t.removal.pod.failure? plan (t.removal.pod.inquiries (turns.flatMap (·.talk))) =
        t.failure? plan := by
  intro t ht hend
  have hown : t ∈ t.removal.pod.turns turns := Pod.mem_turns.2 ⟨ht, rfl⟩
  -- no other turn of the pod fails, for a pod has only one turn that ends its removal
  have hunique : ∀ t' ∈ t.removal.pod.turns turns, (t'.failure? plan).isSome → t' = t := by
    intro t' ht' hfails
    obtain ⟨ht', hpod⟩ := Pod.mem_turns.1 ht'
    have hend' := h.isEnd_of_failure? t' ht' hfails
    have hnodup : (ended turns).Nodup :=
      (h.perm_start.nodup_iff.2 hapart.of_map).of_append_left
    exact List.inj_on_of_nodup_map hnodup (List.mem_filter.2 ⟨ht', hend'⟩)
      (List.mem_filter.2 ⟨ht, hend⟩) hpod
  rw [h.inquiries_eq hapart (h.pod_mem.2 t ht),
    Pod.failure?_flatMap fun t' ht' => (Pod.mem_turns.1 ht').2]
  cases hfind : (t.removal.pod.turns turns).findSome? (·.failure? plan) with
  | none => exact (List.findSome?_eq_none_iff.1 hfind t hown).symm
  | some report =>
    obtain ⟨t', ht', hreport⟩ := List.exists_of_findSome?_eq_some hfind
    rw [← hunique t' ht' (Option.isSome_of_eq_some hreport), hreport]

/-- The failures of a pool are those of its pods, in the order in which their removals ended. -/
theorem Takes.failures_ended (h : Takes api plan horizon (start now pods) s turns last later)
    (hapart : (pods.map Pod.address).Nodup) :
    last.failures = (ended turns).filterMap fun p =>
      p.failure? plan (p.inquiries (turns.flatMap (·.talk))) := by
  rw [h.failures_eq, ended, List.filterMap_map, List.filterMap_filter]
  refine List.filterMap_congr fun t ht => ?_
  split
  · rename_i hend
    exact (h.failure?_of_isEnd hapart t ht hend).symm
  · rename_i hgoes
    by_contra hfails
    exact hgoes (h.isEnd_of_failure? t ht (Option.isSome_iff_ne_none.2 hfails))

end Pool

namespace Report

variable {r t : Report ClusterError} {reports : List (Report ClusterError)}

/-- The errors of the cluster that a report names. -/
def clusterErrors (r : Report ClusterError) : List ClusterError :=
  r.error :: r.causes.filterMap fun
    | .cluster e => some e
    | _ => none

theorem clusterErrors_join (r t : Report ClusterError) :
    (r.join t).clusterErrors = r.clusterErrors ++ t.clusterErrors := by
  simp [clusterErrors, join, Cause.toFailure]

theorem clusterErrors_foldl_join (r : Report ClusterError) (reports : List (Report ClusterError)) :
    (reports.foldl join r).clusterErrors = r.clusterErrors ++ reports.flatMap clusterErrors := by
  induction reports generalizing r with
  | nil => rw [List.foldl_nil, List.flatMap_nil, List.append_nil]
  | cons t rest ih =>
    rw [List.foldl_cons, ih, clusterErrors_join, List.flatMap_cons, List.append_assoc]

/-- A joint report names the errors of all the reports that it joins. -/
theorem clusterErrors_ofAll (h : ofAll reports = .error r) :
    r.clusterErrors = reports.flatMap clusterErrors := by
  cases reports with
  | nil => cases h
  | cons first rest =>
    cases h
    rw [clusterErrors_foldl_join, List.flatMap_cons]

end Report

/-- The error with which a removal fails in a turn: that of looking for the pod if it was looked
for, else that of the eviction. -/
def Turn.error (timeout : Duration) (t : Turn) : ClusterError :=
  if t.talk.any (·.request.isLook) then .podDeletionTimeout t.removal.pod.reference timeout
  else .evictionFailed t.removal.pod.reference

/-- A removal that fails names one error of the cluster. -/
theorem Removal.Outcome.clusterErrors_eq {plan : RemovalPlan} {r : Removal} {now : Instant}
    {talk : List Inquiry} {report : Report ClusterError} {state : RemovalState}
    (h : Outcome plan r.pod now r.phase talk state) (hfailed : state = .failed report) :
    report.clusterErrors = [Turn.error plan.timeout ⟨r, talk, state⟩] := by
  subst hfailed
  obtain ⟨p, phase, wake⟩ := r
  change Outcome plan p now phase talk (.failed report) at h
  cases h with
  | overdue => rfl
  | accepted _ hlook =>
    cases hlook with
    | overdue => rfl
  | rejected | exhausted => rfl

/-- The failures of some turns name one error each. -/
theorem clusterErrors_failures {plan : RemovalPlan} {turns : List Turn}
    (h : ∀ t ∈ turns,
      Removal.Outcome plan t.removal.pod t.removal.wake t.removal.phase t.talk t.state) :
    (turns.filterMap (·.failure? plan)).flatMap Report.clusterErrors =
      (turns.filter fun t => (t.failure? plan).isSome).map (Turn.error plan.timeout) := by
  induction turns with
  | nil => rfl
  | cons t rest ih =>
    have hrest := ih fun t' ht' => h t' (List.mem_cons_of_mem t ht')
    have houtcome := h t List.mem_cons_self
    cases hfails : t.failure? plan with
    | none => simp only [List.filterMap_cons, List.filter_cons, hfails, hrest, Option.isSome_none,
        Bool.false_eq_true, if_false]
    | some report =>
      have herrors := houtcome.clusterErrors_eq (houtcome.failed_iff.1 hfails)
      simp only [List.filterMap_cons, List.filter_cons, hfails, hrest, Option.isSome_some, if_true,
        List.flatMap_cons, List.map_cons, herrors, List.singleton_append]

end DriverHandover
