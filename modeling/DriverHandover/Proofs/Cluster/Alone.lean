import DriverHandover.Proofs.Cluster.Failures
import DriverHandover.Proofs.Cluster.Progress
import Mathlib.Logic.Function.Iterate

/-!
# Removals that concern themselves

What a server answers about a pod may depend only on the requests about that pod. Then the answers
alone determine how its removal goes on. Without a deadline it goes on in the same way at any other
time.

## Main definitions

* `Standing` – what an answer about a pod may depend on.
* `PodAnswers` – the answers about a pod, with `PodAnswers.goesOn` and `PodAnswers.alone`.
* `Inquiry.later`, `Progress.later` – what has happened, put off by some time.
* `PodAnswers.Determine` – some progress is one of the removal alone, but for the time.

## Main statements

* `Removal.Outcome.eq_goesOn` – a turn goes as the answers determine.
* `PodAnswers.step_later` – a removal goes on in the same way at any other time.
* `PodAnswers.Determine.eq_alone` – a removal that has ended went as it does alone.
-/

namespace DriverHandover

/-- What an answer about a pod may depend on: how many requests of each kind there were about it,
and how long ago its eviction was last accepted. -/
structure Standing where
  evictions : Nat
  looks : Nat
  sinceAccepted : Option Duration
  deriving DecidableEq, Repr

/-- The moment at which an eviction was accepted. -/
def Inquiry.acceptedAt? : Inquiry → Option Instant
  | ⟨moment, .evictPod _ _, .ok ()⟩ => some moment
  | _ => none

/-- How a pod stands after some inquiries about it. -/
def Standing.of (past : List Inquiry) (now : Instant) : Standing where
  evictions := past.countP (·.request.isEviction)
  looks := past.countP (·.request.isLook)
  sinceAccepted := (past.filterMap (·.acceptedAt?)).getLast?.map fun moment => ⟨now - moment⟩

/-- The answers about a pod, as it stands. -/
structure PodAnswers where
  eviction : Standing → Except ApiError Unit
  look : Standing → Except ApiError Pod

namespace PodAnswers

variable (a : PodAnswers) (plan : RemovalPlan)

/-- An inquiry has one of these answers. -/
def Gives (past : List Inquiry) : Inquiry → Prop
  | ⟨now, .evictPod _ _, answer⟩ => a.eviction (.of past now) = answer
  | ⟨now, .getPod _, answer⟩ => a.look (.of past now) = answer
  | _ => False

/-- Some inquiries, after others, have these answers. -/
def GivesAll (past talk : List Inquiry) : Prop :=
  ∀ before i after, talk = before ++ i :: after → a.Gives (past ++ before) i

variable {a} in
theorem GivesAll.head {past rest : List Inquiry} {i : Inquiry} (h : a.GivesAll past (i :: rest)) :
    a.Gives past i := by
  have hgive := h [] i rest rfl
  rwa [List.append_nil] at hgive

variable {a} in
theorem GivesAll.tail {past rest : List Inquiry} {i : Inquiry} (h : a.GivesAll past (i :: rest)) :
    a.GivesAll (past ++ [i]) rest := by
  intro before j after hrest
  rw [← List.append_cons]
  exact h (i :: before) j after (congrArg (i :: ·) hrest)

/-- What is asked, and what it comes to, when a pod is looked for. -/
def confirms (p : Pod) (now : Instant) (past : List Inquiry) : List Inquiry × RemovalState :=
  let answer := a.look (.of past now)
  ([⟨now, .getPod p.address, answer⟩], Removal.lookState plan p now answer)

def evicts (p : Pod) (now : Instant) (past : List Inquiry) : List Inquiry × RemovalState :=
  let answer := a.eviction (.of past now)
  let i : Inquiry := ⟨now, .evictPod p.address plan.graceSeconds, answer⟩
  match EvictionVerdict.ofAnswer answer with
  | .accepted =>
    let (talk, state) := a.confirms plan p now (past ++ [i])
    (i :: talk, state)
  | .rejected e => ([i], .failed (Report.because (.evictionFailed p.reference) e))
  | .blocked => ([i], Removal.blockedState plan p now)

/-- What is asked, and what it comes to, when a removal goes on. -/
def goesOn (p : Pod) (now : Instant) (past : List Inquiry) :
    RemovalPhase → List Inquiry × RemovalState
  | .evicting => a.evicts plan p now past
  | .confirming => a.confirms plan p now past

end PodAnswers

namespace Removal

variable {a : PodAnswers} {plan : RemovalPlan} {p : Pod} {now : Instant} {phase : RemovalPhase}
variable {talk past : List Inquiry} {state : RemovalState}

theorem Outcome.eq_confirms (h : Outcome plan p now .confirming talk state)
    (hgives : a.GivesAll past talk) : a.confirms plan p now past = (talk, state) := by
  obtain ⟨answer, rfl⟩ := h.of_confirming
  have hanswer : a.look (.of past now) = answer := hgives.head
  rw [PodAnswers.confirms, hanswer, lookState]
  cases h with
  | gone hgone => simp [hgone]
  | present hpresent htime => simp [hpresent, htime]
  | overdue hpresent hover => simp [hpresent, hover]

/-- A turn goes as the answers determine. -/
theorem Outcome.eq_goesOn (h : Outcome plan p now phase talk state)
    (hgives : a.GivesAll past talk) : a.goesOn plan p now past phase = (talk, state) := by
  cases phase with
  | confirming => exact h.eq_confirms hgives
  | evicting =>
    rw [PodAnswers.goesOn, PodAnswers.evicts]
    cases h with
    | accepted hverdict hlook =>
      have hanswer : a.eviction (.of past now) = _ := hgives.head
      simp only [hanswer, hverdict, hlook.eq_confirms hgives.tail]
    | rejected hverdict =>
      have hanswer : a.eviction (.of past now) = _ := hgives.head
      simp only [hanswer, hverdict]
    | blocked hverdict htime =>
      have hanswer : a.eviction (.of past now) = _ := hgives.head
      simp [hanswer, hverdict, blockedState, htime]
    | exhausted hverdict hover =>
      have hanswer : a.eviction (.of past now) = _ := hgives.head
      simp [hanswer, hverdict, blockedState, hover]

end Removal

section Later

variable {a : PodAnswers} {plan : RemovalPlan} {p : Pod} {now : Instant} {past talk : List Inquiry}
variable {i : Inquiry} {d : Duration}

/-- An inquiry, put off by some time. -/
def Inquiry.later (d : Duration) (i : Inquiry) : Inquiry :=
  { i with moment := i.moment.after d }

def Removal.later (d : Duration) (r : Removal) : Removal :=
  { r with wake := r.wake.after d }

def Turn.later (d : Duration) (t : Turn) : Turn :=
  ⟨t.removal.later d, t.talk.map (·.later d), t.state⟩

def Progress.later (d : Duration) (c : Progress) : Progress :=
  ⟨c.turns.map (·.later d), c.next.map (·.later d)⟩

/-- Some inquiries, with the times since the first of them. -/
def sinceFirst : List Inquiry → List Inquiry
  | [] => []
  | first :: rest => (first :: rest).map fun i => { i with moment := i.moment - first.moment }

theorem sinceFirst_later : sinceFirst (talk.map (·.later d)) = sinceFirst talk := by
  cases talk with
  | nil => rfl
  | cons first rest =>
    rw [List.map_cons, sinceFirst, ← List.map_cons, List.map_map, sinceFirst]
    refine List.map_congr_left fun i _ => ?_
    exact congrArg (Inquiry.mk · i.request i.answer) (Nat.add_sub_add_right _ _ _)

theorem Inquiry.acceptedAt?_later : (i.later d).acceptedAt? = i.acceptedAt?.map (·.after d) := by
  obtain ⟨moment, request, answer⟩ := i
  cases request with
  | evictPod =>
    cases answer with
    | ok => rfl
    | error => rfl
  | _ => rfl

/-- A pod stands the same if all that was asked about it was put off. -/
theorem Standing.of_later : of (past.map (·.later d)) (now.after d) = of past now := by
  have haccepted : (past.map (·.later d)).filterMap (·.acceptedAt?) =
      (past.filterMap (·.acceptedAt?)).map (·.after d) := by
    rw [List.filterMap_map, List.map_filterMap]
    exact List.filterMap_congr fun i _ => Inquiry.acceptedAt?_later
  have hsince (moment : Instant) : now.after d - moment.after d = now - moment :=
    Nat.add_sub_add_right _ _ _
  simp only [of, List.countP_map, haccepted, List.getLast?_map, Option.map_map, Function.comp_def,
    hsince]
  rfl

theorem RemovalPlan.isOver_eq_false (hplan : plan.deadline = none) (now : Instant) :
    plan.isOver now = false := by
  rw [isOver, hplan]
  rfl

theorem Pod.failure?_later (hplan : plan.deadline = none) :
    p.failure? plan (talk.map (·.later d)) = p.failure? plan talk := by
  have hinquiry (i : Inquiry) : (i.later d).failure? plan p = i.failure? plan p := by
    obtain ⟨moment, request, answer⟩ := i
    cases request <;> simp [Inquiry.later, Inquiry.failure?, RemovalPlan.isOver_eq_false hplan]
  rw [failure?, List.findSome?_map, failure?]
  exact congrArg (List.findSome? · talk) (funext hinquiry)

namespace PodAnswers

theorem confirms_later (hplan : plan.deadline = none) :
    a.confirms plan p (now.after d) (past.map (·.later d)) =
      ((a.confirms plan p now past).1.map (·.later d), (a.confirms plan p now past).2) := by
  simp only [confirms, Standing.of_later, Removal.lookState, RemovalPlan.isOver_eq_false hplan]
  rfl

theorem evicts_later (hplan : plan.deadline = none) :
    a.evicts plan p (now.after d) (past.map (·.later d)) =
      ((a.evicts plan p now past).1.map (·.later d), (a.evicts plan p now past).2) := by
  simp only [evicts, Standing.of_later]
  generalize a.eviction (.of past now) = answer
  cases EvictionVerdict.ofAnswer answer with
  | accepted =>
    -- the look in the same turn comes after the eviction, which is put off as well
    let i : Inquiry := ⟨now, .evictPod p.address plan.graceSeconds, answer⟩
    have hpast : past.map (·.later d) ++ [i.later d] = (past ++ [i]).map (·.later d) := by
      rw [List.map_append, List.map_singleton]
    have hlook : a.confirms plan p (now.after d) ((past ++ [i]).map (·.later d)) = _ :=
      confirms_later hplan
    rw [← hpast] at hlook
    exact congrArg (fun next => (i.later d :: next.1, next.2)) hlook
  | rejected => rfl
  | blocked =>
    simp only [Removal.blockedState, RemovalPlan.isOver_eq_false hplan]
    rfl

theorem goesOn_later (hplan : plan.deadline = none) (phase : RemovalPhase) :
    a.goesOn plan p (now.after d) (past.map (·.later d)) phase =
      ((a.goesOn plan p now past phase).1.map (·.later d), (a.goesOn plan p now past phase).2) := by
  cases phase with
  | evicting => exact evicts_later hplan
  | confirming => exact confirms_later hplan

end PodAnswers

theorem Turn.next_later (t : Turn) : (t.later d).next = t.next.map (·.later d) := by
  obtain ⟨r, talk, state⟩ := t
  cases state with
  | removed | failed _ => rfl
  | waits phase =>
    have hwake : (r.wake.after d).after removalInterval = (r.wake.after removalInterval).after d :=
      Nat.add_right_comm _ _ _
    rw [Turn.next, Turn.next, later]
    simp only [Removal.later, hwake, Option.map_some]

namespace Progress

theorem talk_later (c : Progress) : (c.later d).talk = c.talk.map (·.later d) := by
  rw [talk, talk, later, List.map_flatMap, List.flatMap_map]
  rfl

theorem concat_later (c : Progress) (t : Turn) :
    (c.concat t).later d = (c.later d).concat (t.later d) := by
  rw [concat, concat, later, Turn.next_later, List.map_append]
  rfl

end Progress

end Later

namespace PodAnswers

variable (a : PodAnswers) (plan : RemovalPlan) {p : Pod} {c : Progress} {m n : Nat}

/-- The turn of a removal after some inquiries about its pod. -/
def turn (past : List Inquiry) (r : Removal) : Turn :=
  let (talk, state) := a.goesOn plan r.pod r.wake past r.phase
  ⟨r, talk, state⟩

variable {a plan} in
theorem turn_eq {past : List Inquiry} {t : Turn}
    (h : a.goesOn plan t.removal.pod t.removal.wake past t.removal.phase = (t.talk, t.state)) :
    a.turn plan past t.removal = t := by
  rw [turn, h]

variable {plan} in
theorem turn_later (hplan : plan.deadline = none) (d : Duration) (past : List Inquiry)
    (r : Removal) :
    a.turn plan (past.map (·.later d)) (r.later d) = (a.turn plan past r).later d := by
  rw [turn, Removal.later, goesOn_later hplan]
  rfl

/-- The next turn of a removal that has not ended. -/
def step (c : Progress) : Progress :=
  match c.next with
  | none => c
  | some r => c.concat (a.turn plan c.talk r)

variable {plan} in
/-- A removal goes on in the same way at any other time. -/
theorem step_later (hplan : plan.deadline = none) (d : Duration) (c : Progress) :
    a.step plan (c.later d) = (a.step plan c).later d := by
  obtain ⟨turns, next⟩ := c
  cases next with
  | none => rfl
  | some r =>
    have hstep : a.step plan ⟨turns, some r⟩ =
        Progress.concat ⟨turns, some r⟩ (a.turn plan (Progress.talk ⟨turns, some r⟩) r) := rfl
    rw [hstep, Progress.concat_later, ← turn_later a hplan, ← Progress.talk_later]
    rfl

/-- The turns of the removal of a pod that begins at the moment zero. -/
def alone (p : Pod) (n : Nat) : Progress := (a.step plan)^[n] (.begin 0 p)

theorem alone_succ (p : Pod) (n : Nat) : a.alone plan p (n + 1) = a.step plan (a.alone plan p n) :=
  Function.iterate_succ_apply' _ n _

theorem length_alone (p : Pod) (n : Nat) : (a.alone plan p n).turns.length ≤ n := by
  induction n with
  | zero => exact Nat.le_refl 0
  | succ n ih =>
    rw [alone_succ, step]
    split
    · exact Nat.le_succ_of_le ih
    · simp only [Progress.concat, List.length_append]
      exact Nat.succ_le_succ ih

variable {a plan}

/-- A removal that has ended has no more turns. -/
theorem alone_eq_of_ended (hended : (a.alone plan p m).next = none) (hle : m ≤ n) :
    a.alone plan p n = a.alone plan p m := by
  induction hle with
  | refl => rfl
  | step _ ih => rw [alone_succ, ih, step, hended]

theorem alone_next_eq_none (hended : (a.alone plan p m).next = none) (hle : m ≤ n) :
    (a.alone plan p n).next = none := by
  rw [alone_eq_of_ended hended hle, hended]

/-- Some progress of a removal is what the answers determine, put off by some time. -/
def Determine (a : PodAnswers) (plan : RemovalPlan) (p : Pod) (c : Progress) : Prop :=
  ∃ n d, c = (a.alone plan p n).later d

theorem determine_begin (now : Instant) : a.Determine plan p (.begin now p) := by
  have hnow : Instant.after 0 ⟨now⟩ = now := Nat.zero_add now
  have hlater : (a.alone plan p 0).later ⟨now⟩ = .begin (Instant.after 0 ⟨now⟩) p := rfl
  exact ⟨0, ⟨now⟩, by rw [hlater, hnow]⟩

theorem Determine.step (h : a.Determine plan p c) (hplan : plan.deadline = none) :
    a.Determine plan p (a.step plan c) := by
  obtain ⟨n, d, rfl⟩ := h
  refine ⟨n + 1, d, ?_⟩
  rw [step_later a hplan, alone_succ]

theorem Determine.exists_alone (h : a.Determine plan p c) (hended : c.next = none) :
    ∃ n d, (a.alone plan p n).next = none ∧ c = (a.alone plan p n).later d := by
  obtain ⟨n, d, rfl⟩ := h
  exact ⟨n, d, Option.map_eq_none_iff.1 hended, rfl⟩

/-- A removal that has ended went as it does alone. -/
theorem Determine.eq_alone (h : a.Determine plan p c) (hended : c.next = none)
    (halone : (a.alone plan p n).next = none) : ∃ d, c = (a.alone plan p n).later d := by
  obtain ⟨m, d, hm, rfl⟩ := h.exists_alone hended
  refine ⟨d, congrArg (Progress.later d) ?_⟩
  rcases Nat.le_total m n with hle | hle
  · exact (alone_eq_of_ended hm hle).symm
  · exact alone_eq_of_ended halone hle

theorem Determine.length_le (h : a.Determine plan p c) (halone : (a.alone plan p n).next = none) :
    c.turns.length ≤ n := by
  obtain ⟨m, d, rfl⟩ := h
  rw [Progress.later, List.length_map]
  rcases Nat.le_total m n with hle | hle
  · exact Nat.le_trans (length_alone a plan p m) hle
  · rw [alone_eq_of_ended halone hle]
    exact length_alone a plan p n

end PodAnswers

end DriverHandover
