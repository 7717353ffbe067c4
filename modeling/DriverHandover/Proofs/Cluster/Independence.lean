import DriverHandover.Proofs.Cluster.Alone
import DriverHandover.Proofs.Cluster.Wakes

/-!
# Removals do not influence each other

A pool goes on with five removals at a time, and which pod comes next depends on when the others
end. If there is no deadline, and the answers about each pod concern this pod only, then none of
this matters to a pod but for the time at which its removal begins.

## Main definitions

* `Session.RepliesBy` – a server answers about a pod as the pod stands.
* `Session.Independent` – pods whose removals do not influence each other.

## Main statements

* `Pool.Takes.determine` – a removal goes on in a pool as the answers about its pod determine.
* `Session.Independent.removePods_eq` – what a removal of independent pods comes to.
* `removals_independent` – the removal of a pod is the same whatever other pods are removed.
-/

namespace DriverHandover

open Session

/-- A server answers about a pod as the pod stands, whatever else has been asked before. -/
def Session.RepliesBy {ω : Type} (api : ApiServer ω) (s : Session ω) (graceSeconds : Option Nat)
    (p : Pod) (a : PodAnswers) : Prop :=
  ∀ (past : List Exchange) (now : Instant), (∀ e ∈ past, e.moment ≤ now) →
    let server := heard api s.server past
    let standing := Standing.of (p.inquiries (answers api s.server past)) now
    (api (.evictPod p.address graceSeconds) now server).1 = a.eviction standing ∧
      (api (.getPod p.address) now server).1 = a.look standing

namespace Pool

variable {ω : Type} {api : ApiServer ω} {plan : RemovalPlan} {horizon now : Instant}
variable {last : Pool} {s later : Session ω} {turns : List Turn} {pods : List Pod} {p : Pod}
variable {a : PodAnswers} {t : Turn}

/-- The answers in a turn are those about its pod. -/
theorem Takes.givesAll
    (h : Takes api plan horizon (start now pods) s (turns ++ [t]) last later)
    (hapart : (pods.map Pod.address).Nodup)
    (hreplies : s.RepliesBy api plan.graceSeconds t.removal.pod a) :
    a.GivesAll ((t.removal.pod.turns turns).flatMap (·.talk)) t.talk := by
  intro before i after htalk
  have houtcome := h.outcome t (List.mem_append_right _ List.mem_cons_self)
  have hpod := h.pod_mem.2 t (List.mem_append_right _ List.mem_cons_self)
  have hbefore : ∀ j ∈ before, j ∈ t.talk := fun j hj => htalk ▸ List.mem_append_left _ hj
  have hi : i ∈ t.talk := htalk ▸ List.mem_append_right _ List.mem_cons_self
  have hall : (turns ++ [t]).flatMap (·.talk) =
      (turns.flatMap (·.talk) ++ before) ++ i :: after := by
    rw [List.flatMap_append, List.flatMap_singleton, htalk, List.append_assoc]
  have htalks := h.talks
  rw [hall] at htalks
  obtain ⟨hpast, hanswer⟩ := htalks.answer_eq
  -- of what was asked before, the inquiries about this pod are those of its own turns
  have hinquiries : t.removal.pod.inquiries (turns.flatMap (·.talk) ++ before) =
      (t.removal.pod.turns turns).flatMap (·.talk) ++ before := by
    have hown := h.inquiries_eq hapart hpod
    rw [Pod.turns_concat_own rfl, List.flatMap_append, List.flatMap_append, List.flatMap_singleton,
      Pod.inquiries_append, Pod.inquiries_eq_self houtcome.about] at hown
    rw [Pod.inquiries_append, List.append_cancel_right hown,
      Pod.inquiries_eq_self fun j hj => houtcome.about j (hbefore j hj)]
  have hmoments : ∀ e ∈ (turns.flatMap (·.talk) ++ before).map Inquiry.exchange,
      e.moment ≤ t.removal.wake := by
    intro e he
    obtain ⟨j, hj, rfl⟩ := List.mem_map.1 he
    rcases List.mem_append.1 hj with hj | hj
    · obtain ⟨t', ht', hj⟩ := List.mem_flatMap.1 hj
      have hmoment : j.exchange.moment = t'.removal.wake :=
        (h.outcome t' (List.mem_append_left _ ht')).moment_eq j hj
      have hfollows := (List.pairwise_append.1 (h.pairwise_wake (inOrder_start now pods))).2.2
      exact hmoment ▸ hfollows t' ht' t List.mem_cons_self
    · exact Nat.le_of_eq (houtcome.moment_eq j (hbefore j hj))
  obtain ⟨heviction, hlook⟩ := hreplies _ _ hmoments
  rw [hpast, hinquiries] at heviction hlook
  rcases houtcome.inquiry_cases i hi with ⟨answer, rfl⟩ | ⟨answer, rfl⟩
  · exact hlook.symm.trans hanswer
  · exact heviction.symm.trans hanswer

/-- The removal of a pod goes on in a pool as the answers about the pod determine. -/
theorem Takes.determine (h : Takes api plan horizon (start now pods) s turns last later)
    (hplan : plan.deadline = .none) (hapart : (pods.map Pod.address).Nodup) (hp : p ∈ pods)
    (hreplies : s.RepliesBy api plan.graceSeconds p a) :
    last.Tracks (a.Determine plan p) p (p.turns turns) := by
  refine h.tracks hapart.of_map hp (fun moment => PodAnswers.determine_begin moment) ?_
  intro turns t _ _ htakes hown hdetermine
  subst hown
  have houtcome := htakes.outcome t (List.mem_append_right _ List.mem_cons_self)
  have hturn : a.turn plan ((t.removal.pod.turns turns).flatMap (·.talk)) t.removal = t :=
    PodAnswers.turn_eq (houtcome.eq_goesOn (htakes.givesAll hapart hreplies))
  have hstep := hdetermine.step hplan
  rw [PodAnswers.step] at hstep
  simp only [Progress.talk, hturn] at hstep
  exact hstep

end Pool

/-- Pods whose removals do not influence each other: they have different addresses, the answers
about each of them concern this pod only, and each of them can be removed, or fails to be, when it
is alone. -/
structure Session.Independent {ω : Type} (api : ApiServer ω) (s : Session ω) (o : DrainOptions)
    (answersOf : Pod → PodAnswers) (pods : List Pod) : Prop where
  apart : (pods.map Pod.address).Nodup
  replies : ∀ p ∈ pods, s.RepliesBy api o.graceSeconds p (answersOf p)
  ends : ∀ p ∈ pods, ∃ limit result,
    (Session.run (removePods api o [p]) limit s).1 = some result

namespace Session.Independent

variable {ω : Type} {api : ApiServer ω} {s : Session ω} {o : DrainOptions}
variable {answersOf : Pod → PodAnswers} {pods : List Pod} {p : Pod} {limit : Duration}

theorem singleton (h : s.Independent api o answersOf pods) (hp : p ∈ pods) :
    s.Independent api o answersOf [p] where
  apart := List.nodup_singleton _
  replies _ hq := List.mem_singleton.1 hq ▸ h.replies p hp
  ends _ hq := List.mem_singleton.1 hq ▸ h.ends p hp

/-- A pod whose removal ends has an end among the turns that the answers about it determine. -/
theorem exists_end (h : s.Independent api o answersOf pods) (htimeless : o.timeout.isZero = true)
    (hp : p ∈ pods) :
    ∃ n, ((answersOf p).alone (.ofOptions o s.now) p n).next = none := by
  obtain ⟨limit, result, hrun⟩ := h.ends p hp
  let start : Session ω := { s with horizon := s.now.after limit, exchanges := [] }
  have hshown := DrainOptions.deadlineIsShown_of_timeless htimeless s.now
  obtain ⟨turns, last, later, htakes, hend⟩ := removePods_ends api (s := start) hshown [p]
  rcases hend with ⟨hidle, -⟩ | ⟨r, -, -, habandoned⟩
  · have hplan := RemovalPlan.deadline_of_timeless htimeless s.now
    have htracks :=
      htakes.determine hplan (List.nodup_singleton _) List.mem_cons_self (h.replies p hp)
    have hended := htracks.ended (htakes.pods_eq_nil hidle ▸ List.not_mem_nil)
    obtain ⟨n, -, hn, -⟩ := hended.exists_alone rfl
    exact ⟨n, hn⟩
  · have hrun' : (removePods api o [p] start).1 = some result := hrun
    rw [habandoned] at hrun'
    cases hrun'

/-- All removals end after some number of turns. -/
theorem exists_bound (h : s.Independent api o answersOf pods)
    (htimeless : o.timeout.isZero = true) :
    ∃ n, ∀ p ∈ pods, ((answersOf p).alone (.ofOptions o s.now) p n).next = none := by
  have hall : ∀ list : List Pod, (∀ p ∈ list, p ∈ pods) →
      ∃ n, ∀ p ∈ list, ((answersOf p).alone (.ofOptions o s.now) p n).next = none := by
    intro list hlist
    -- the bound for the whole list is the largest of those of its pods
    induction list with
    | nil => exact ⟨0, List.forall_mem_nil _⟩
    | cons p rest ih =>
      obtain ⟨m, hm⟩ := h.exists_end htimeless (hlist p List.mem_cons_self)
      obtain ⟨n, hn⟩ := ih fun q hq => hlist q (List.mem_cons_of_mem p hq)
      refine ⟨max m n, fun q hq => ?_⟩
      rcases List.mem_cons.1 hq with rfl | hq
      · exact PodAnswers.alone_next_eq_none hm (Nat.le_max_left m n)
      · exact PodAnswers.alone_next_eq_none (hn q hq) (Nat.le_max_right m n)
  exact hall pods fun _ hp => hp

/-- What a removal of independent pods comes to, when it has time for all their turns: the failures
are those of each pod alone, and about each pod the same is asked as when it is alone. -/
theorem removePods_eq (h : s.Independent api o answersOf pods)
    (htimeless : o.timeout.isZero = true) {n : Nat}
    (halone : ∀ p ∈ pods, ((answersOf p).alone (.ofOptions o s.now) p n).next = none)
    (hlimit : pods.length * n * removalInterval.nanos ≤ limit.nanos) :
    let plan := RemovalPlan.ofOptions o s.now
    let run := Session.run (removePods api o pods) limit s
    let asked := fun p => p.inquiries (s.conversation api run.2)
    let alone := fun p => ((answersOf p).alone plan p n).talk
    (∃ order : List Pod, order.Perm pods ∧
      run.1 = some (Report.ofAll (order.filterMap fun p => p.failure? plan (alone p)))) ∧
    ∀ p ∈ pods, sinceFirst (asked p) = sinceFirst (alone p) ∧
      p.failure? plan (asked p) = p.failure? plan (alone p) := by
  intro plan run asked alone
  let start : Session ω := { s with horizon := s.now.after limit, exchanges := [] }
  have hplan : plan.deadline = none := RemovalPlan.deadline_of_timeless htimeless s.now
  have hshown := DrainOptions.deadlineIsShown_of_timeless htimeless s.now
  obtain ⟨turns, last, later, htakes, hend⟩ := removePods_ends api (s := start) hshown pods
  have htracks (p : Pod) (hp : p ∈ pods) := htakes.determine hplan h.apart hp (h.replies p hp)
  rcases hend with ⟨hidle, hreturns⟩ | ⟨r, hr, hlate, -⟩
  · have hpods := htakes.pods_eq_nil hidle
    have hrun : run = (some (Report.ofAll last.failures), later) := hreturns
    have hconversation : s.conversation api run.2 = turns.flatMap (·.talk) := by
      rw [hrun]
      exact htakes.talks.conversation_eq rfl
    have hsame (p : Pod) (hp : p ∈ pods) : sinceFirst (asked p) = sinceFirst (alone p) ∧
        p.failure? plan (asked p) = p.failure? plan (alone p) := by
      have hended := (htracks p hp).ended (hpods ▸ List.not_mem_nil)
      obtain ⟨d, heq⟩ := hended.eq_alone rfl (halone p hp)
      have hasked : asked p = (alone p).map (·.later d) := by
        rw [← Progress.talk_later, ← heq]
        exact (congrArg p.inquiries hconversation).trans (htakes.inquiries_eq h.apart hp)
      rw [hasked]
      exact ⟨sinceFirst_later, Pod.failure?_later hplan⟩
    have hperm := htakes.ended_perm hidle
    refine ⟨⟨Pool.ended turns, hperm, ?_⟩, hsame⟩
    rw [hrun, htakes.failures_ended h.apart, ← hconversation]
    refine congrArg (some <| Report.ofAll ·) (List.filterMap_congr fun p hp => ?_)
    exact (hsame p (hperm.subset hp)).2
  · -- the pool would go on after the turns of all pods
    have hlength : turns.length ≤ pods.length * n := by
      refine length_le_mul htakes.pod_mem.2 fun p hp => ?_
      obtain ⟨next, hdetermine⟩ := (htracks p hp).exists_next PodAnswers.determine_begin
      exact hdetermine.length_le (halone p hp)
    have hturns := Nat.le_trans (Nat.mul_le_mul_right removalInterval.nanos hlength) hlimit
    have hwake := Nat.le_trans (htakes.wake_le_of_length r hr) (Nat.add_le_add_left hturns s.now)
    exact absurd hwake (Nat.not_le_of_lt hlate)

/-- What the removal of a pod alone comes to. -/
theorem removePods_singleton (h : s.Independent api o answersOf pods)
    (htimeless : o.timeout.isZero = true) (hp : p ∈ pods) {n : Nat}
    (halone : ((answersOf p).alone (.ofOptions o s.now) p n).next = none)
    (hlimit : n * removalInterval.nanos ≤ limit.nanos) :
    let plan := RemovalPlan.ofOptions o s.now
    let run := Session.run (removePods api o [p]) limit s
    let asked := p.inquiries (s.conversation api run.2)
    run.1 = some (Report.ofAll (p.failure? plan asked).toList) ∧
      p.failure? plan asked = p.failure? plan ((answersOf p).alone plan p n).talk := by
  intro plan run asked
  have hlong : [p].length * n * removalInterval.nanos ≤ limit.nanos := by
    rwa [List.length_singleton, Nat.one_mul]
  obtain ⟨⟨order, hperm, hrun⟩, hsame⟩ := (h.singleton hp).removePods_eq htimeless
    (fun q hq => List.mem_singleton.1 hq ▸ halone) hlong
  have hfails := (hsame p List.mem_cons_self).2
  refine ⟨?_, hfails⟩
  rw [List.perm_singleton.1 hperm] at hrun
  rw [hfails]
  refine hrun.trans (congrArg (some <| Report.ofAll ·) ?_)
  rw [List.filterMap_cons]
  cases p.failure? plan ((answersOf p).alone plan p n).talk <;> rfl

end Session.Independent

/-- Let there be no deadline, and let the answers about each pod depend only on how many requests of
each kind there were about it and on the time since its eviction was last accepted, so that its
removal ends when it is alone. Then whatever pods are removed together, in whatever order, what is
asked about a pod, at which times after the first request for it, and how its removal fails, if it
does, are the same. The removals end well together exactly if each of them does alone, and else
their failures are those that the pods have alone. -/
theorem removals_independent {ω : Type} (api : ApiServer ω) (s : Session ω) (o : DrainOptions)
    (answersOf : Pod → PodAnswers) (pods others : List Pod) (htimeless : o.timeout.isZero = true)
    (hpods : s.Independent api o answersOf pods)
    (hothers : s.Independent api o answersOf others) :
    ∃ bound : Duration, ∀ limit : Duration, bound.nanos ≤ limit.nanos →
      let run := fun pods => Session.run (Session.removePods api o pods) limit s
      let asked := fun p pods => p.inquiries (s.conversation api (run pods).2)
      let failure? := fun p pods => p.failure? (.ofOptions o s.now) (asked p pods)
      (∀ p ∈ pods, p ∈ others →
        sinceFirst (asked p pods) = sinceFirst (asked p others) ∧
          failure? p pods = failure? p others) ∧
      (∃ order : List Pod, order.Perm pods ∧
        (run pods).1 = some (Report.ofAll (order.filterMap fun p => failure? p [p]))) ∧
      ((run pods).1 = some (.ok ()) ↔ ∀ p ∈ pods, (run [p]).1 = some (.ok ())) := by
  -- both lists, and each pod alone, are compared with the turns that the answers determine
  obtain ⟨m, hm⟩ := hpods.exists_bound htimeless
  obtain ⟨m', hm'⟩ := hothers.exists_bound htimeless
  let n := max m m'
  have hn (p : Pod) (hp : p ∈ pods) :=
    PodAnswers.alone_next_eq_none (hm p hp) (Nat.le_max_left m m')
  have hn' (p : Pod) (hp : p ∈ others) :=
    PodAnswers.alone_next_eq_none (hm' p hp) (Nat.le_max_right m m')
  refine ⟨⟨(pods.length + others.length) * n * removalInterval.nanos⟩, ?_⟩
  intro limit hlimit run asked failure?
  rw [Nat.add_mul, Nat.add_mul] at hlimit
  have hlong := Nat.le_trans (Nat.le_add_right _ _) hlimit
  obtain ⟨⟨order, hperm, hrun⟩, hsame⟩ := hpods.removePods_eq htimeless hn hlong
  obtain ⟨-, hsame'⟩ := hothers.removePods_eq htimeless hn'
    (Nat.le_trans (Nat.le_add_left _ _) hlimit)
  have halone (p : Pod) (hp : p ∈ pods) :
      (run [p]).1 = some (Report.ofAll (failure? p [p]).toList) ∧
        failure? p [p] = p.failure? (.ofOptions o s.now)
          ((answersOf p).alone (.ofOptions o s.now) p n).talk := by
    have hle : n ≤ pods.length * n := Nat.le_mul_of_pos_left n (List.length_pos_of_mem hp)
    exact hpods.removePods_singleton htimeless hp (hn p hp)
      (Nat.le_trans (Nat.mul_le_mul_right _ hle) hlong)
  have hrun' : (run pods).1 = some (Report.ofAll (order.filterMap fun p => failure? p [p])) := by
    refine hrun.trans (congrArg (some <| Report.ofAll ·) (List.filterMap_congr fun p hp => ?_))
    exact (halone p (hperm.subset hp)).2.symm
  refine ⟨fun p hp hp' => ?_, ⟨order, hperm, hrun'⟩, ?_⟩
  · obtain ⟨hasked, hfails⟩ := hsame p hp
    obtain ⟨hasked', hfails'⟩ := hsame' p hp'
    exact ⟨hasked.trans hasked'.symm, hfails.trans hfails'.symm⟩
  · rw [hrun', Option.some.injEq, Report.ofAll_eq_ok_iff, List.filterMap_eq_nil_iff]
    constructor
    · intro hnone p hp
      rw [(halone p hp).1, hnone p (hperm.mem_iff.2 hp)]
      rfl
    · intro hok p hp
      have hown := (halone p (hperm.subset hp)).1
      rw [hok p (hperm.subset hp), Option.some.injEq] at hown
      exact Option.toList_eq_nil_iff.1 (Report.ofAll_eq_ok_iff.1 hown.symm)

/-- The pod that a request is about. -/
def ApiRequest.address? : ApiRequest → Option PodAddress
  | .evictPod address _ | .getPod address => some address
  | _ => none

theorem Pod.inquiries_eq_filter (p : Pod) (talk : List Inquiry) :
    p.inquiries talk = talk.filter (·.request.address? = some p.address) := by
  refine List.filter_congr fun i _ => decide_eq_decide.2 ?_
  cases i.request <;> simp [ApiRequest.About, ApiRequest.address?]

/-- A server that remembers what it was asked, and answers about the pod of each address as it
stands. It knows of nothing else. -/
def attentiveServer (answersOf : PodAddress → PodAnswers) : ApiServer (List Inquiry) :=
  fun request now past =>
    let standing (address : PodAddress) : Standing :=
      .of (past.filter (·.request.address? = some address)) now
    let answer : Except ApiError request.Answer :=
      match request with
      | .evictPod address _ => (answersOf address).eviction (standing address)
      | .getPod address => (answersOf address).look (standing address)
      | _ => .error (.status 404)
    (answer, past ++ [⟨now, request, answer⟩])

theorem heard_attentiveServer (answersOf : PodAddress → PodAnswers) (known : List Inquiry)
    (past : List Exchange) :
    heard (attentiveServer answersOf) known past =
      known ++ answers (attentiveServer answersOf) known past := by
  induction past generalizing known with
  | nil => exact (List.append_nil known).symm
  | cons e rest ih =>
    rw [heard, ih]
    exact List.append_assoc known [_] _

/-- A server that knows nothing yet answers about each pod as the pod stands. -/
theorem repliesBy_attentiveServer (answersOf : PodAddress → PodAnswers) (now horizon : Instant)
    (graceSeconds : Option Nat) (p : Pod) :
    RepliesBy (attentiveServer answersOf) ⟨[], now, horizon, []⟩ graceSeconds p
      (answersOf p.address) := by
  intro past moment _ server standing
  have hserver : server = answers (attentiveServer answersOf) [] past :=
    heard_attentiveServer answersOf [] past
  have hstanding : standing =
      .of (server.filter (·.request.address? = some p.address)) moment := by
    rw [hserver, ← Pod.inquiries_eq_filter]
  rw [hstanding]
  exact ⟨rfl, rfl⟩

/-- A pod of a job. -/
def Pod.ofJob (name : String) : Pod where
  givenName := some name
  generateName := none
  podNamespace := none
  uid := none
  labels := .empty
  annotations := .empty
  owners := [⟨"Job", true⟩]
  spec := none
  phase := none

/-- A pod that may not be evicted, if it is called so, or else one whose eviction is blocked at
first, and that is gone some time after it has been accepted. -/
def answersByName (address : PodAddress) : PodAnswers where
  eviction standing :=
    if address.name = "denied" then .error (.status 403)
    else if standing.evictions = 0 then .error (.status 429)
    else .ok ()
  look standing :=
    match standing.sinceAccepted with
    | some d => if 7 ≤ d.seconds then .error (.status 404) else .ok (Pod.ofJob address.name)
    | none => .ok (Pod.ofJob address.name)

theorem removals_of_jobs_independent :
    let api := attentiveServer answersByName
    let s : Session (List Inquiry) := ⟨[], 0, 0, []⟩
    let o := DrainOptions.default
    let answersOf := fun p : Pod => answersByName p.address
    let pods := ["denied", "a", "b", "c", "d", "e", "f"].map Pod.ofJob
    let others := ["g", "f", "a"].map Pod.ofJob
    o.timeout.isZero = true ∧ s.Independent api o answersOf pods ∧
      s.Independent api o answersOf others ∧
      ∃ bound : Duration, ∀ limit : Duration, bound.nanos ≤ limit.nanos →
        let run := fun pods => Session.run (Session.removePods api o pods) limit s
        let asked := fun p pods => p.inquiries (s.conversation api (run pods).2)
        sinceFirst (asked (Pod.ofJob "f") pods) = sinceFirst (asked (Pod.ofJob "f") others) ∧
          ((run pods).1 = some (.ok ()) ↔ ∀ p ∈ pods, (run [p]).1 = some (.ok ())) := by
  intro api s o answersOf pods others
  have htimeless : o.timeout.isZero = true := by decide
  let start : Session (List Inquiry) := { s with horizon := s.now.after (Duration.ofSeconds 60) }
  have hidle : ∀ p ∈ pods ++ others, ((Pool.start s.now [p]).afterTurns api (.ofOptions o s.now)
      start.horizon 4 start).1.active = [] := by
    decide +kernel
  have hends (p : Pod) (hp : p ∈ pods ++ others) :
      ∃ result, (Session.run (Session.removePods api o [p]) (Duration.ofSeconds 60) s).1 =
        some result := by
    rw [Session.run_apply]
    have hclock := DrainOptions.deadlineIsShown_of_timeless htimeless s.now
    exact ⟨_, Session.removePods_of_idle (s := start) 4 hclock (hidle p hp)⟩
  have hindependent (list : List Pod) (hapart : (list.map Pod.address).Nodup)
      (hall : ∀ p ∈ list, p ∈ pods ++ others) : s.Independent api o answersOf list := by
    refine ⟨hapart, fun p _ => repliesBy_attentiveServer answersByName 0 0 _ p, fun p hp => ?_⟩
    exact ⟨_, hends p (hall p hp)⟩
  have hpods : s.Independent api o answersOf pods :=
    hindependent pods (by decide) fun p hp => List.mem_append_left others hp
  have hothers : s.Independent api o answersOf others :=
    hindependent others (by decide) fun p hp => List.mem_append_right pods hp
  obtain ⟨bound, hbound⟩ :=
    removals_independent api s o answersOf pods others htimeless hpods hothers
  refine ⟨htimeless, hpods, hothers, bound, fun limit hlimit => ?_⟩
  obtain ⟨hsame, -, hok⟩ := hbound limit hlimit
  exact ⟨(hsame (Pod.ofJob "f") (by decide) (by decide)).1, hok⟩

end DriverHandover
