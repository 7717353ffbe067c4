import DriverHandover.Proofs.Cluster.Conversation
import DriverHandover.Proofs.Cluster.Removals

/-!
# The turns of a pool

A pool goes on with one removal at a time. Such a turn makes one or two requests about one pod,
after which the removal has ended or waits. Here is what a turn may come to, and what holds of the
pool after any number of turns.

## Main definitions

* `Removal.Outcome` – what a turn may come to, for all answers.
* `Turn`, `Pool.Takes` – a turn, and the turns of a pool.
* `Pool.afterTurns` – the pool after a number of turns.

## Main statements

* `Removal.proceed_outcome` – every turn comes to one of these outcomes.
* `Pool.run_takes` – a pool that runs takes turns until no removal is left, or until its horizon.
* `Pool.run_of_idle` – a pool that has no removal left after some turns has run.
* `Pool.Takes.perm` – every pod waits, is under way, or has had a turn that ended its removal.
-/

namespace DriverHandover

open Session

/-- Whether an eviction is asked for. -/
def ApiRequest.isEviction : ApiRequest → Bool
  | .evictPod _ _ => true
  | _ => false

/-- Whether a pod is looked for. -/
def ApiRequest.isLook : ApiRequest → Bool
  | .getPod _ => true
  | _ => false

namespace Removal

/-- What a removal in a phase may come to when it goes on: the inquiries it makes at that moment,
and how it stands then. -/
inductive Outcome (plan : RemovalPlan) (p : Pod) (now : Instant) :
    RemovalPhase → List Inquiry → RemovalState → Prop where
  | gone {answer : Except ApiError Pod} :
      p.isGoneBy answer = true →
        Outcome plan p now .confirming [⟨now, .getPod p.address, answer⟩] .removed
  | present {answer : Except ApiError Pod} :
      p.isGoneBy answer = false → plan.isOver now = false →
        Outcome plan p now .confirming [⟨now, .getPod p.address, answer⟩] (.waits .confirming)
  | overdue {answer : Except ApiError Pod} :
      p.isGoneBy answer = false → plan.isOver now = true →
        Outcome plan p now .confirming [⟨now, .getPod p.address, answer⟩]
          (.failed (Report.of (.podDeletionTimeout p.reference plan.timeout)))
  | accepted {answer : Except ApiError Unit} {talk : List Inquiry} {state : RemovalState} :
      EvictionVerdict.ofAnswer answer = .accepted → Outcome plan p now .confirming talk state →
        Outcome plan p now .evicting
          (⟨now, .evictPod p.address plan.graceSeconds, answer⟩ :: talk) state
  | rejected {answer : Except ApiError Unit} {e : ApiError} :
      EvictionVerdict.ofAnswer answer = .rejected e →
        Outcome plan p now .evicting [⟨now, .evictPod p.address plan.graceSeconds, answer⟩]
          (.failed (Report.because (.evictionFailed p.reference) e))
  | blocked {answer : Except ApiError Unit} :
      EvictionVerdict.ofAnswer answer = .blocked → plan.isOver now = false →
        Outcome plan p now .evicting [⟨now, .evictPod p.address plan.graceSeconds, answer⟩]
          (.waits .evicting)
  | exhausted {answer : Except ApiError Unit} :
      EvictionVerdict.ofAnswer answer = .blocked → plan.isOver now = true →
        Outcome plan p now .evicting [⟨now, .evictPod p.address plan.graceSeconds, answer⟩]
          (.failed ((Report.of (.evictionFailed p.reference)).note evictionTimeoutNote))

variable {ω : Type} (api : ApiServer ω) (plan : RemovalPlan)

/-- How a removal stands when its pod has been looked for. -/
def lookState (p : Pod) (now : Instant) (answer : Except ApiError Pod) : RemovalState :=
  if p.isGoneBy answer then .removed
  else if plan.isOver now then .failed (Report.of (.podDeletionTimeout p.reference plan.timeout))
  else .waits .confirming

theorem confirm_apply (p : Pod) (s : Session ω) :
    confirm api plan p s =
      (lookState plan p s.now (ask api (.getPod p.address) s).1,
        (ask api (.getPod p.address) s).2) := by
  have hlook : confirm api plan p s =
      (if p.isGoneBy (ask api (.getPod p.address) s).1 then pure .removed
      else do
        if plan.isOver (← get).now then
          return .failed (Report.of (.podDeletionTimeout p.reference plan.timeout))
        else return .waits .confirming : StateM (Session ω) RemovalState)
        (ask api (.getPod p.address) s).2 := rfl
  rw [hlook, lookState]
  split
  · rfl
  · change (if plan.isOver s.now then pure _ else pure _ : StateM (Session ω) RemovalState) _ = _
    split
    · rfl
    · rfl

theorem lookState_outcome (p : Pod) (now : Instant) (answer : Except ApiError Pod) :
    Outcome plan p now .confirming [⟨now, .getPod p.address, answer⟩]
      (lookState plan p now answer) := by
  rw [lookState]
  split
  · rename_i hgone
    exact .gone hgone
  · rename_i hpresent
    split
    · rename_i hover
      exact .overdue (Bool.of_not_eq_true hpresent) hover
    · rename_i htime
      exact .present (Bool.of_not_eq_true hpresent) (Bool.of_not_eq_true htime)

theorem confirm_outcome (p : Pod) (s : Session ω) :
    ∃ talk, Outcome plan p s.now .confirming talk (confirm api plan p s).1 ∧
      Talks api s talk (confirm api plan p s).2 ∧ (confirm api plan p s).2.now = s.now := by
  rw [confirm_apply]
  exact ⟨_, lookState_outcome plan p s.now _, talks_ask _ s, rfl⟩

/-- How a removal stands when its eviction was blocked. -/
def blockedState (p : Pod) (now : Instant) : RemovalState :=
  if plan.isOver now then
    .failed ((Report.of (.evictionFailed p.reference)).note evictionTimeoutNote)
  else .waits .evicting

theorem evict_apply (p : Pod) (s : Session ω) :
    evict api plan p s =
      match EvictionVerdict.ofAnswer (ask api (.evictPod p.address plan.graceSeconds) s).1 with
      | .accepted => confirm api plan p (ask api (.evictPod p.address plan.graceSeconds) s).2
      | .rejected e =>
        (.failed (Report.because (.evictionFailed p.reference) e),
          (ask api (.evictPod p.address plan.graceSeconds) s).2)
      | .blocked =>
        (blockedState plan p s.now, (ask api (.evictPod p.address plan.graceSeconds) s).2) := by
  have hevict : evict api plan p s =
      (match EvictionVerdict.ofAnswer (ask api (.evictPod p.address plan.graceSeconds) s).1 with
      | .accepted => confirm api plan p
      | .rejected e => return .failed (Report.because (.evictionFailed p.reference) e)
      | .blocked => do
        if plan.isOver (← get).now then
          return .failed ((Report.of (.evictionFailed p.reference)).note evictionTimeoutNote)
        else return .waits .evicting : StateM (Session ω) RemovalState)
        (ask api (.evictPod p.address plan.graceSeconds) s).2 := rfl
  rw [hevict]
  cases EvictionVerdict.ofAnswer (ask api (.evictPod p.address plan.graceSeconds) s).1 with
  | accepted => rfl
  | rejected e => rfl
  | blocked =>
    rw [blockedState]
    change (if plan.isOver s.now then pure _ else pure _ : StateM (Session ω) RemovalState) _ = _
    split
    · rfl
    · rfl

theorem evict_outcome (p : Pod) (s : Session ω) :
    ∃ talk, Outcome plan p s.now .evicting talk (evict api plan p s).1 ∧
      Talks api s talk (evict api plan p s).2 ∧ (evict api plan p s).2.now = s.now := by
  have htalks : Talks api s _ (ask api (.evictPod p.address plan.graceSeconds) s).2 :=
    talks_ask _ s
  rw [evict_apply]
  split
  · rename_i hverdict
    obtain ⟨talk, houtcome, htalks', hnow⟩ :=
      confirm_outcome api plan p (ask api (.evictPod p.address plan.graceSeconds) s).2
    exact ⟨_, .accepted hverdict houtcome, htalks.trans htalks', hnow⟩
  · rename_i e hverdict
    exact ⟨_, .rejected hverdict, htalks, rfl⟩
  · rename_i hverdict
    refine ⟨_, ?_, htalks, rfl⟩
    rw [blockedState]
    split
    · rename_i hover
      exact .exhausted hverdict hover
    · rename_i htime
      exact .blocked hverdict (Bool.of_not_eq_true htime)

/-- Every turn comes to one of the outcomes. -/
theorem proceed_outcome (r : Removal) (s : Session ω) :
    ∃ talk, Outcome plan r.pod s.now r.phase talk (r.proceed api plan s).1 ∧
      Talks api s talk (r.proceed api plan s).2 ∧ (r.proceed api plan s).2.now = s.now := by
  obtain ⟨p, phase, wake⟩ := r
  cases phase with
  | evicting => exact evict_outcome api plan p s
  | confirming => exact confirm_outcome api plan p s

variable {plan} {p : Pod} {now : Instant} {phase next : RemovalPhase} {talk : List Inquiry}
variable {state : RemovalState}

theorem Outcome.of_confirming (h : Outcome plan p now .confirming talk state) :
    ∃ answer, talk = [⟨now, .getPod p.address, answer⟩] := by
  cases h with
  | gone | present | overdue => exact ⟨_, rfl⟩

/-- A turn makes one request, or asks for the eviction and then looks for the pod. -/
theorem Outcome.talk_cases (h : Outcome plan p now phase talk state) :
    (∃ answer, talk = [⟨now, .getPod p.address, answer⟩]) ∨
      (∃ answer, talk = [⟨now, .evictPod p.address plan.graceSeconds, answer⟩]) ∨
      ∃ answer answer', talk = [⟨now, .evictPod p.address plan.graceSeconds, answer⟩,
        ⟨now, .getPod p.address, answer'⟩] := by
  cases h with
  | gone | present | overdue => exact .inl ⟨_, rfl⟩
  | rejected | blocked | exhausted => exact .inr (.inl ⟨_, rfl⟩)
  | accepted _ hlook =>
    obtain ⟨answer', rfl⟩ := hlook.of_confirming
    exact .inr (.inr ⟨_, answer', rfl⟩)

/-- What a turn asks is the eviction of its pod, or where the pod is. -/
theorem Outcome.inquiry_cases (h : Outcome plan p now phase talk state) :
    ∀ i ∈ talk, (∃ answer, i = ⟨now, .getPod p.address, answer⟩) ∨
      ∃ answer, i = ⟨now, .evictPod p.address plan.graceSeconds, answer⟩ := by
  rcases h.talk_cases with ⟨_, rfl⟩ | ⟨_, rfl⟩ | ⟨_, _, rfl⟩ <;> simp

theorem Outcome.moment_eq (h : Outcome plan p now phase talk state) :
    ∀ i ∈ talk, i.moment = now := by
  rcases h.talk_cases with ⟨_, rfl⟩ | ⟨_, rfl⟩ | ⟨_, _, rfl⟩ <;> simp

theorem Outcome.about (h : Outcome plan p now phase talk state) :
    ∀ i ∈ talk, i.request.About p := by
  rcases h.talk_cases with ⟨_, rfl⟩ | ⟨_, rfl⟩ | ⟨_, _, rfl⟩ <;> simp [ApiRequest.About]

/-- A removal waits only while there is time. -/
theorem Outcome.isOver_eq_false (h : Outcome plan p now phase talk (.waits next)) :
    plan.isOver now = false := by
  cases h with
  | present _ htime | blocked _ htime => exact htime
  | accepted _ hlook =>
    cases hlook with
    | present _ htime => exact htime

theorem Outcome.lt_deadline {deadline : Instant}
    (h : Outcome plan p now phase talk (.waits next)) (hplan : plan.deadline = some deadline) :
    now < deadline := by
  have htime := h.isOver_eq_false
  rw [RemovalPlan.isOver, hplan] at htime
  simpa using htime

end Removal

theorem RemovalPlan.deadline_of_timed {o : DrainOptions} (h : o.timeout.isZero = false)
    (now : Instant) : (ofOptions o now).deadline = some (now.after o.timeout) := by
  simp [ofOptions, DrainOptions.deadline?, h]

theorem RemovalPlan.deadline_of_timeless {o : DrainOptions} (h : o.timeout.isZero = true)
    (now : Instant) : (ofOptions o now).deadline = none := by
  simp [ofOptions, DrainOptions.deadline?, h]

theorem lt_after_removalInterval (now : Instant) (d : Duration) :
    now < (now.after d).after removalInterval := by
  have hinterval : 0 < removalInterval.nanos := by decide
  exact Nat.lt_of_le_of_lt (Nat.le_add_right _ _) (Nat.lt_add_of_pos_right hinterval)

/-- Whether a removal that stands so has ended. -/
def RemovalState.isEnd : RemovalState → Bool
  | .waits _ => false
  | .removed | .failed _ => true

/-- The failure in which a removal has ended, if it has. -/
def RemovalState.failures : RemovalState → List (Report ClusterError)
  | .failed report => [report]
  | .removed | .waits _ => []

/-- A turn: the removal that went on, what it asked and was answered, and how it stood then. -/
structure Turn where
  removal : Removal
  talk : List Inquiry
  state : RemovalState

namespace Pool

variable {ω : Type} (api : ApiServer ω) (plan : RemovalPlan) (horizon : Instant)

/-- The turns that a pool takes up to a horizon, from its state and that of the session at the
beginning to those at the end. -/
inductive Takes (pool : Pool) (s : Session ω) : List Turn → Pool → Session ω → Prop where
  | none : Takes pool s [] pool s
  | turn {turns : List Turn} {r : Removal} {rest : List Removal} {waiting : List Pod}
      {failures : List (Report ClusterError)} {now later : Session ω} {talk : List Inquiry}
      {state : RemovalState} :
      Takes pool s turns ⟨r :: rest, waiting, failures⟩ now → r.wake ≤ horizon →
      Removal.Outcome plan r.pod r.wake r.phase talk state →
      Talks api now talk later → later.now = r.wake →
        Takes pool s (turns ++ [⟨r, talk, state⟩])
          (settle r.wake r ⟨rest, waiting, failures⟩ state) later

variable {api plan horizon} {pool middle last : Pool} {s now later : Session ω}
variable {turns more : List Turn} {r : Removal} {state : RemovalState}

theorem Takes.trans (h : Takes api plan horizon pool s turns middle now)
    (h' : Takes api plan horizon middle now more last later) :
    Takes api plan horizon pool s (turns ++ more) last later := by
  induction h' with
  | none => rwa [List.append_nil]
  | turn _ hwake houtcome htalks hnow ih =>
    rw [← List.append_assoc]
    exact ih.turn hwake houtcome htalks hnow

variable (api plan horizon) in
/-- A pool that runs takes turns until no removal is left, or until the next one would go on beyond
the horizon. -/
theorem run_takes (pool : Pool) (s : Session ω) :
    ∃ turns last later, Takes api plan horizon pool s turns last later ∧
      (last.active = [] ∧ run api plan horizon pool s = (some last.failures, later) ∨
        ∃ r ∈ last.active, horizon < r.wake ∧
          run api plan horizon pool s = (none, { later with now := horizon })) := by
  -- along the run: its first turn stands before those of the pool that it leaves
  induction pool, s using run.induct api plan horizon with
  | case1 s waiting failures =>
    refine ⟨[], _, s, .none, .inl ⟨rfl, ?_⟩⟩
    rw [run]
  | case2 s r rest waiting failures hwake next ih =>
    obtain ⟨turns, last, later, htakes, hend⟩ := ih
    obtain ⟨talk, houtcome, htalks, hnow⟩ :=
      Removal.proceed_outcome api plan r { s with now := r.wake }
    have hfirst : Takes api plan horizon ⟨r :: rest, waiting, failures⟩ s _ next.1 next.2 :=
      Takes.none.turn hwake houtcome ⟨htalks.exchanges, htalks.answers⟩ hnow
    refine ⟨_, last, later, hfirst.trans htakes, ?_⟩
    rw [run, dif_pos hwake]
    exact hend
  | case3 s r rest waiting failures hwake =>
    refine ⟨[], _, s, .none, .inr ⟨r, List.mem_cons_self, Nat.lt_of_not_le hwake, ?_⟩⟩
    rw [run, dif_neg hwake]

variable (api plan horizon) in
/-- The pool and the session after `n` turns, or after all if there are fewer. -/
def afterTurns : Nat → Pool → Session ω → Pool × Session ω
  | 0, pool, s => (pool, s)
  | _ + 1, ⟨[], waiting, failures⟩, s => (⟨[], waiting, failures⟩, s)
  | n + 1, ⟨r :: rest, waiting, failures⟩, s =>
    if r.wake ≤ horizon then
      let next := step api plan r ⟨rest, waiting, failures⟩ s
      afterTurns n next.1 next.2
    else (⟨r :: rest, waiting, failures⟩, s)

variable (api plan horizon) in
/-- What a pool comes to is settled by any of the pools on the way. -/
theorem run_afterTurns (n : Nat) (pool : Pool) (s : Session ω) :
    run api plan horizon (afterTurns api plan horizon n pool s).1
      (afterTurns api plan horizon n pool s).2 = run api plan horizon pool s := by
  induction n generalizing pool s with
  | zero => rfl
  | succ n ih =>
    obtain ⟨active, waiting, failures⟩ := pool
    cases active with
    | nil => rfl
    | cons r rest =>
      rw [afterTurns]
      split
      · rename_i hwake
        rw [ih, run, dif_pos hwake]
      · rfl

/-- A pool that has no removal left after some turns has run. -/
theorem run_of_idle {n : Nat} (hidle : (afterTurns api plan horizon n pool s).1.active = []) :
    run api plan horizon pool s =
      (some (afterTurns api plan horizon n pool s).1.failures,
        (afterTurns api plan horizon n pool s).2) := by
  rw [← run_afterTurns api plan horizon n]
  rcases hlast : (afterTurns api plan horizon n pool s).1 with ⟨active, waiting, failures⟩
  rw [hlast] at hidle
  change active = [] at hidle
  rw [hidle, run]

/-- Every turn comes to one of the outcomes. -/
theorem Takes.outcome (h : Takes api plan horizon pool s turns last later) :
    ∀ t ∈ turns,
      Removal.Outcome plan t.removal.pod t.removal.wake t.removal.phase t.talk t.state := by
  induction h with
  | none => exact List.forall_mem_nil _
  | turn _ _ houtcome _ _ ih =>
    intro t ht
    rcases List.mem_append.1 ht with ht | ht
    · exact ih t ht
    · rw [List.mem_singleton.1 ht]
      exact houtcome

/-- All that the turns ask and are answered. -/
theorem Takes.talks (h : Takes api plan horizon pool s turns last later) :
    Talks api s (turns.flatMap (·.talk)) later := by
  induction h with
  | none => exact .refl s
  | turn _ _ _ htalks _ ih =>
    rw [List.flatMap_append, List.flatMap_singleton]
    exact ih.trans htalks

theorem Takes.exchanges (h : Takes api plan horizon pool s turns last later)
    (hstart : s.exchanges = []) :
    later.exchanges = ((turns.flatMap (·.talk)).map Inquiry.exchange).reverse := by
  rw [h.talks.exchanges, hstart, List.append_nil]

/-- The pods that wait or are under way. -/
def pods (pool : Pool) : List Pod :=
  pool.active.map (·.pod) ++ pool.waiting

theorem enqueue_perm (r : Removal) (removals : List Removal) :
    (enqueue r removals).Perm (r :: removals) := by
  induction removals with
  | nil => exact .refl _
  | cons first rest ih =>
    rw [enqueue]
    split
    · exact (ih.cons first).trans (.swap r first rest)
    · exact .refl _

theorem pods_enqueue (r : Removal) (pool : Pool) :
    (pods { pool with active := enqueue r pool.active }).Perm (r.pod :: pool.pods) :=
  ((enqueue_perm r pool.active).map Removal.pod).append_right pool.waiting

theorem enqueue_ne_nil (r : Removal) (removals : List Removal) : enqueue r removals ≠ [] :=
  fun hnil => List.cons_ne_nil r removals (hnil ▸ enqueue_perm r removals).nil_eq.symm

/-- What a turn leaves: the removal waits again, or it has ended, and then the next pod begins if
there is one. -/
theorem settle_cases (now : Instant) (r : Removal) (pool : Pool) (state : RemovalState) :
    (∃ next, state = .waits next ∧ pool.settle now r state =
        { pool with active := enqueue ⟨r.pod, next, now.after removalInterval⟩ pool.active }) ∨
      state.isEnd = true ∧
        (pool.waiting = [] ∧
            pool.settle now r state =
              ⟨pool.active, [], pool.failures ++ state.failures⟩ ∨
          ∃ p waiting, pool.waiting = p :: waiting ∧
            pool.settle now r state =
              ⟨enqueue (begin now p) pool.active, waiting, pool.failures ++ state.failures⟩) := by
  obtain ⟨active, waiting, failures⟩ := pool
  cases state with
  | waits next => exact .inl ⟨next, rfl, rfl⟩
  | removed =>
    rw [RemovalState.failures, List.append_nil]
    cases waiting with
    | nil => exact .inr ⟨rfl, .inl ⟨rfl, rfl⟩⟩
    | cons p waiting => exact .inr ⟨rfl, .inr ⟨p, waiting, rfl, rfl⟩⟩
  | failed report =>
    cases waiting with
    | nil => exact .inr ⟨rfl, .inl ⟨rfl, rfl⟩⟩
    | cons p waiting => exact .inr ⟨rfl, .inr ⟨p, waiting, rfl, rfl⟩⟩

/-- Which removals are under way after a turn. -/
theorem mem_settle {q : Removal} {now : Instant} (hq : q ∈ (pool.settle now r state).active) :
    q ∈ pool.active ∨ (∃ p ∈ pool.waiting, q = begin now p) ∨
      ∃ next, state = .waits next ∧ q = ⟨r.pod, next, now.after removalInterval⟩ := by
  rcases settle_cases now r pool state with
    ⟨next, hstate, heq⟩ | ⟨-, ⟨-, heq⟩ | ⟨p, waiting, hwaiting, heq⟩⟩
  · rw [heq] at hq
    rcases mem_enqueue.1 hq with hq | hq
    · exact .inr (.inr ⟨next, hstate, hq⟩)
    · exact .inl hq
  · rw [heq] at hq
    exact .inl hq
  · rw [heq] at hq
    rcases mem_enqueue.1 hq with hq | hq
    · exact .inr (.inl ⟨p, hwaiting ▸ List.mem_cons_self, hq⟩)
    · exact .inl hq

theorem mem_waiting_of_settle {p : Pod} {now : Instant}
    (hp : p ∈ (pool.settle now r state).waiting) : p ∈ pool.waiting := by
  rcases settle_cases now r pool state with
    ⟨next, -, heq⟩ | ⟨-, ⟨hnone, heq⟩ | ⟨first, waiting, hwaiting, heq⟩⟩
  · rwa [heq] at hp
  · rw [heq] at hp
    cases hp
  · rw [heq] at hp
    exact hwaiting ▸ List.mem_cons_of_mem first hp

theorem pods_settle (now : Instant) (r : Removal) (pool : Pool) (state : RemovalState) :
    (pool.settle now r state).pods.Perm
      (if state.isEnd then pool.pods else r.pod :: pool.pods) := by
  rcases settle_cases now r pool state with
    ⟨next, rfl, heq⟩ | ⟨hend, ⟨hnone, heq⟩ | ⟨p, waiting, hwaiting, heq⟩⟩
  · rw [heq]
    exact pods_enqueue ⟨r.pod, next, now.after removalInterval⟩ pool
  · rw [heq, if_pos hend, pods, pods, hnone]
  · rw [heq, if_pos hend]
    refine (pods_enqueue (begin now p) ⟨pool.active, waiting, _⟩).trans ?_
    rw [pods, pods, hwaiting]
    exact List.perm_middle.symm

theorem pods_start (now : Instant) (pods : List Pod) : (start now pods).pods = pods := by
  rw [Pool.pods, start, List.map_map]
  exact (congrArg (· ++ _) (List.map_id _)).trans (List.take_append_drop poolCapacity pods)

theorem failures_settle (now : Instant) (r : Removal) (pool : Pool) (state : RemovalState) :
    (pool.settle now r state).failures = pool.failures ++ state.failures := by
  rcases settle_cases now r pool state with
    ⟨next, rfl, heq⟩ | ⟨-, ⟨-, heq⟩ | ⟨_, _, -, heq⟩⟩
  · rw [heq, RemovalState.failures, List.append_nil]
  · rw [heq]
  · rw [heq]

/-- The failures of a pool are those of its turns. -/
theorem Takes.failures_flatMap (h : Takes api plan horizon pool s turns last later) :
    last.failures = pool.failures ++ turns.flatMap (·.state.failures) := by
  induction h with
  | none => exact (List.append_nil _).symm
  | turn _ _ _ _ _ ih =>
    rw [failures_settle, ih, List.flatMap_append, List.flatMap_singleton, List.append_assoc]

/-- The pods whose removals have ended in some turns. -/
def ended (turns : List Turn) : List Pod :=
  (turns.filter (·.state.isEnd)).map (·.removal.pod)

/-- Every pod waits, is under way, or has had one turn that ended its removal. -/
theorem Takes.perm (h : Takes api plan horizon pool s turns last later) :
    (ended turns ++ last.pods).Perm pool.pods := by
  induction h with
  | none => exact .refl _
  | turn _ _ _ _ _ ih =>
    -- the pod of the turn goes from those of the pool to those that have ended, or stays
    rename_i turns r rest waiting failures now later talk state _ _ _ _ _
    refine List.Perm.trans ?_ ih
    have hsettled := pods_settle r.wake r ⟨rest, waiting, failures⟩ state
    have hbefore : pods ⟨r :: rest, waiting, failures⟩ = r.pod :: pods ⟨rest, waiting, failures⟩ :=
      rfl
    rw [ended, List.filter_append, List.map_append, List.append_assoc, hbefore]
    refine List.Perm.append_left _ ?_
    cases hend : state.isEnd with
    | true => simpa [hend] using hsettled.cons r.pod
    | false => simpa [hend] using hsettled

/-- Every pod of a list waits, is under way, or has had one turn that ended its removal. -/
theorem Takes.perm_start {now : Instant} {pods : List Pod}
    (h : Takes api plan horizon (start now pods) s turns last later) :
    (ended turns ++ last.pods).Perm pods := by
  have hperm := h.perm
  rwa [pods_start] at hperm

theorem waiting_of_settle (now : Instant) (r : Removal) (pool : Pool) (state : RemovalState)
    (h : (pool.settle now r state).active = []) : (pool.settle now r state).waiting = [] := by
  rcases settle_cases now r pool state with
    ⟨next, rfl, heq⟩ | ⟨-, ⟨-, heq⟩ | ⟨p, waiting, -, heq⟩⟩
  · rw [heq] at h
    exact absurd h (enqueue_ne_nil _ _)
  · rw [heq]
  · rw [heq] at h
    exact absurd h (enqueue_ne_nil _ _)

/-- When no removal is under way none is left. -/
theorem Takes.waiting_eq_nil {now : Instant} {pods : List Pod}
    (h : Takes api plan horizon (start now pods) s turns last later) (hidle : last.active = []) :
    last.waiting = [] := by
  cases h with
  | none =>
    have hnone : pods.take poolCapacity = [] := List.map_eq_nil_iff.1 hidle
    have hpods : pods = [] := (List.take_eq_nil_iff.1 hnone).resolve_left (by decide)
    rw [start, hpods]
    rfl
  | turn => exact waiting_of_settle _ _ _ _ hidle

theorem Takes.pods_eq_nil {now : Instant} {pods : List Pod}
    (h : Takes api plan horizon (start now pods) s turns last later) (hidle : last.active = []) :
    last.pods = [] := by
  rw [Pool.pods, hidle, h.waiting_eq_nil hidle]
  rfl

/-- When no removal is left, every pod has had one turn that ended its removal. -/
theorem Takes.ended_perm {now : Instant} {pods : List Pod}
    (h : Takes api plan horizon (start now pods) s turns last later) (hidle : last.active = []) :
    (ended turns).Perm pods := by
  have hperm := h.perm_start
  rwa [h.pods_eq_nil hidle, List.append_nil] at hperm

end Pool

theorem Report.joinAll?_eq_none_iff {ε : Type} [Cause ε] {reports : List (Report ε)} :
    joinAll? reports = none ↔ reports = [] := by
  cases reports <;> simp [joinAll?]

/-- What several removals come to: all is well, or their failures are reported together. -/
def Report.ofAll {ε : Type} [Cause ε] (failures : List (Report ε)) : Except (Report ε) Unit :=
  match joinAll? failures with
  | none => .ok ()
  | some report => .error report

theorem Report.ofAll_eq_ok_iff {ε : Type} [Cause ε] {failures : List (Report ε)} :
    ofAll failures = .ok () ↔ failures = [] := by
  rw [ofAll, ← joinAll?_eq_none_iff]
  cases joinAll? failures <;> simp

/-- Removing pods reports the failures of its pool together. -/
theorem Session.removePods_of_run {ω : Type} {api : ApiServer ω} {o : DrainOptions}
    {s later : Session ω} {pods : List Pod} {failures : List (Report ClusterError)}
    (hshown : o.deadlineIsShown s.now = true)
    (hrun : (Pool.start s.now pods).run api (.ofOptions o s.now) s.horizon s =
      (some failures, later)) :
    removePods api o pods s = (some (Report.ofAll failures), later) := by
  rw [removePods, if_pos hshown, hrun, Report.ofAll]
  cases hjoin : Report.joinAll? failures <;> simp only [hjoin]

theorem Session.removePods_of_idle {ω : Type} {api : ApiServer ω} {o : DrainOptions}
    {s : Session ω} {pods : List Pod} (n : Nat) (hshown : o.deadlineIsShown s.now = true)
    (hidle : ((Pool.start s.now pods).afterTurns api (.ofOptions o s.now) s.horizon n s).1.active =
      []) :
    (removePods api o pods s).1 = some (Report.ofAll
      ((Pool.start s.now pods).afterTurns api (.ofOptions o s.now) s.horizon n s).1.failures) :=
  congrArg Prod.fst (removePods_of_run hshown (Pool.run_of_idle hidle))

/-- Removing pods ends with the failures that the turns of the pool leave; it is abandoned when the
next turn would be beyond the horizon. -/
theorem Session.removePods_ends {ω : Type} (api : ApiServer ω) {o : DrainOptions}
    {s : Session ω} (hshown : o.deadlineIsShown s.now = true) (pods : List Pod) :
    ∃ turns last later,
      Pool.Takes api (.ofOptions o s.now) s.horizon (Pool.start s.now pods) s turns last later ∧
      (last.active = [] ∧ removePods api o pods s = (some (Report.ofAll last.failures), later) ∨
        ∃ r ∈ last.active, s.horizon < r.wake ∧
          removePods api o pods s = (none, { later with now := s.horizon })) := by
  obtain ⟨turns, last, later, htakes, hend⟩ :=
    Pool.run_takes api (.ofOptions o s.now) s.horizon (Pool.start s.now pods) s
  refine ⟨turns, last, later, htakes, ?_⟩
  rcases hend with ⟨hidle, hrun⟩ | ⟨r, hr, hlate, hrun⟩
  · exact .inl ⟨hidle, removePods_of_run hshown hrun⟩
  · refine .inr ⟨r, hr, hlate, ?_⟩
    rw [removePods, if_pos hshown, hrun]

/-- Removing pods ends well exactly when the turns of the pool leave no failure. -/
theorem Session.removePods_takes {ω : Type} (api : ApiServer ω) {o : DrainOptions}
    {s : Session ω} (hshown : o.deadlineIsShown s.now = true) (pods : List Pod) :
    ∃ turns last later,
      Pool.Takes api (.ofOptions o s.now) s.horizon (Pool.start s.now pods) s turns last later ∧
      (last.active = [] ∧ (∃ result, removePods api o pods s = (some result, later) ∧
          (result = .ok () ↔ last.failures = [])) ∨
        ∃ r ∈ last.active, s.horizon < r.wake ∧
          removePods api o pods s = (none, { later with now := s.horizon })) := by
  obtain ⟨turns, last, later, htakes, hend⟩ := removePods_ends api hshown pods
  refine ⟨turns, last, later, htakes, hend.imp_left ?_⟩
  rintro ⟨hidle, hrun⟩
  exact ⟨hidle, _, hrun, Report.ofAll_eq_ok_iff⟩

end DriverHandover
