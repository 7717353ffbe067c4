import DriverHandover.Proofs.Cluster.Requests
import Mathlib.Data.Nat.Find

/-!
# The same request again and again

Some steps of a session make the same request until an answer settles the matter, with pauses in
between. Which answer each round would get depends on the server and on the moments of the rounds
before it, and not on the step, so all answers can be told in advance. The step ends with the first
round whose answer settles the matter, and with the last one in any case.

## Main definitions

* `Session.serverAfter`, `Session.answerIn` – a server that is asked the same in each round, and its
  answers.
* `Session.afterRounds`, `Session.EndedWith` – a session after some rounds, and a record that begins
  with the first of them.
* `Schedule` – the moments of rounds with pauses in between.
* `Session.askUntil` – the step.

## Main statements

* `Schedule.of_millis` – moments that are told in milliseconds after the first one.
* `Session.askUntil_apply` – the step ends with a given round.
* `Session.run_askUntil` – there is such a round.
-/

namespace DriverHandover

/-- The moments of rounds, the first of which is now. -/
structure Schedule (start : Instant) (pauses : List Duration) (moment : Nat → Instant) : Prop where
  first : moment 0 = start
  next : ∀ k pause, pauses[k]? = some pause → moment (k + 1) = (moment k).after pause

theorem Schedule.tail {start : Instant} {pause : Duration} {pauses : List Duration}
    {moment : Nat → Instant} (h : Schedule start (pause :: pauses) moment) :
    Schedule (start.after pause) pauses fun k => moment (k + 1) where
  first := by rw [h.next 0 pause rfl, h.first]
  next k later hlater := h.next (k + 1) later hlater

theorem Instant.after_mono {d d' : Duration} (start : Instant) (h : d.nanos ≤ d'.nanos) :
    start.after d ≤ start.after d' :=
  Nat.add_le_add_left h start

theorem Instant.after_ofMillis (start : Instant) (passed pause : Nat) :
    (start.after (Duration.ofMillis passed)).after (Duration.ofMillis pause) =
      start.after (Duration.ofMillis (passed + pause)) := by
  simp only [Instant.after, Duration.ofMillis, Nat.add_mul]
  exact Nat.add_assoc _ _ _

/-- The moments of rounds in milliseconds after the first one. -/
theorem Schedule.of_millis {rounds : Nat} {passed pause : Nat → Nat} (start : Instant)
    (hfirst : passed 0 = 0) (hnext : ∀ k < rounds, passed (k + 1) = passed k + pause k) :
    Schedule start ((List.range rounds).map fun k => Duration.ofMillis (pause k))
      fun k => start.after (Duration.ofMillis (passed k)) where
  first := by
    rw [hfirst]
    rfl
  next k later hlater := by
    rw [List.getElem?_map, Option.map_eq_some_iff] at hlater
    obtain ⟨j, hj, rfl⟩ := hlater
    obtain ⟨hk, hj⟩ := List.getElem?_eq_some_iff.1 hj
    rw [List.length_range] at hk
    rw [List.getElem_range] at hj
    subst hj
    rw [hnext k hk, Instant.after_ofMillis]

/-- Some round is the last one: the first one that settles the matter, or else the one after which
there is no time left. -/
theorem exists_last_round (settled : Nat → Bool) (rounds : Nat) :
    ∃ n ≤ rounds, (∀ k < n, settled k = false) ∧ (n < rounds → settled n = true) := by
  have hsome : ∃ n, n = rounds ∨ settled n = true := ⟨rounds, .inl rfl⟩
  refine ⟨Nat.find hsome, Nat.find_min' hsome (.inl rfl), ?_, ?_⟩
  · intro k hk
    exact Bool.eq_false_iff.2 fun hsettled => Nat.find_min hsome hk (.inr hsettled)
  · intro hfew
    exact (Nat.find_spec hsome).resolve_left (Nat.ne_of_lt hfew)

namespace Session

variable {ω α : Type} (api : ApiServer ω) (request : ApiRequest)

/-- What has become of a server after some rounds. -/
def serverAfter (moment : Nat → Instant) (server : ω) : Nat → ω
  | 0 => server
  | k + 1 => (api request (moment k) (serverAfter moment server k)).2

/-- The answer of a server in a round. -/
def answerIn (moment : Nat → Instant) (server : ω) (k : Nat) : Except ApiError request.Answer :=
  (api request (moment k) (serverAfter api request moment server k)).1

/-- The record of some rounds, the first one in front. -/
def roundsMade (moment : Nat → Instant) (server : ω) (rounds : Nat) : List Exchange :=
  (List.range rounds).map fun k =>
    ⟨moment k, request, failureOf (answerIn api request moment server k)⟩

/-- The session in which the round `n` has been made, which is the first one if `n` is zero. -/
def afterRounds (moment : Nat → Instant) (s : Session ω) (n : Nat) : Session ω :=
  { s with
    server := serverAfter api request moment s.server (n + 1)
    now := moment n
    exchanges := (roundsMade api request moment s.server (n + 1)).reverse ++ s.exchanges }

/-- The session is what another one has become with the round `n`, with which a record begins. -/
structure EndedWith (moment : Nat → Instant) (s : Session ω) (n : Nat) (later : Session ω) :
    Prop where
  server : later.server = serverAfter api request moment s.server (n + 1)
  now : later.now = moment n
  exchanges : later.exchanges.reverse = roundsMade api request moment s.server (n + 1)

/-- Makes a request in rounds with the given pauses in between, until an answer settles the matter
or there is no pause left. The answer decides how that ends. -/
def askUntil (settles : Except ApiError request.Answer → Bool)
    (verdict : Except ApiError request.Answer → Except (Report ClusterError) α) :
    List Duration → ClusterStep ω α
  | [] => do
    let answer ← ask api request
    ExceptT.mk (pure (verdict answer))
  | pause :: pauses => do
    let answer ← ask api request
    if settles answer then ExceptT.mk (pure (verdict answer))
    else
      sleep pause
      askUntil settles verdict pauses

section Rounds

variable {api request} {moment : Nat → Instant} {server : ω} {s : Session ω} {n : Nat}

/-- The rounds after the first one are those of the server that it leaves. -/
theorem serverAfter_succ (k : Nat) :
    serverAfter api request moment server (k + 1) =
      serverAfter api request (fun k => moment (k + 1)) (api request (moment 0) server).2 k := by
  induction k with
  | zero => rfl
  | succ k ih =>
    rw [serverAfter, ih]
    rfl

theorem answerIn_succ (k : Nat) :
    answerIn api request moment server (k + 1) =
      answerIn api request (fun k => moment (k + 1)) (api request (moment 0) server).2 k := by
  rw [answerIn, answerIn, serverAfter_succ]

theorem roundsMade_succ (rounds : Nat) :
    roundsMade api request moment server (rounds + 1) =
      ⟨moment 0, request, failureOf (answerIn api request moment server 0)⟩ ::
        roundsMade api request (fun k => moment (k + 1)) (api request (moment 0) server).2
          rounds := by
  rw [roundsMade, List.range_succ_eq_map, List.map_cons, List.map_map]
  refine congrArg _ (List.map_congr_left fun k _ => ?_)
  exact congrArg (fun answer => (⟨moment (k + 1), request, failureOf answer⟩ : Exchange))
    (answerIn_succ k)

variable {settles : Except ApiError request.Answer → Bool} {pauses : List Duration}
variable {verdict : Except ApiError request.Answer → Except (Report ClusterError) α}

/-- The first round of a session. -/
theorem ask_eq_afterRounds (hfirst : moment 0 = s.now) :
    ask api request s =
      (answerIn api request moment s.server 0, afterRounds api request moment s 0) := by
  simp [ask, afterRounds, roundsMade, answerIn, serverAfter, hfirst]

/-- A round that is followed by others. -/
theorem askUntil_cons_apply {pause : Duration} (hfirst : moment 0 = s.now)
    (hopen : settles (answerIn api request moment s.server 0) = false)
    (hmoment : moment 1 = s.now.after pause) (hhorizon : moment 1 ≤ s.horizon) :
    askUntil api request settles verdict (pause :: pauses) s =
      askUntil api request settles verdict pauses
        { afterRounds api request moment s 0 with now := moment 1 } := by
  have hsleep : sleep pause (afterRounds api request moment s 0) =
      (some (.ok ()), { afterRounds api request moment s 0 with now := moment 1 }) := by
    have hnow : (afterRounds api request moment s 0).now.after pause = moment 1 := by
      rw [hmoment, ← hfirst]
      rfl
    rw [sleep, hnow, if_pos]
    exact hhorizon
  rw [askUntil, bind_apply, lift_apply, ask_eq_afterRounds hfirst]
  simp only [hopen, Bool.false_eq_true, if_false]
  rw [bind_apply, hsleep]

/-- The rounds after the first one, counted from the session that it leaves. -/
theorem afterRounds_succ (n : Nat) :
    afterRounds api request moment s (n + 1) =
      afterRounds api request (fun k => moment (k + 1))
        { afterRounds api request moment s 0 with now := moment 1 } n := by
  simp only [afterRounds, serverAfter_succ (n + 1), roundsMade_succ (n + 1), List.reverse_cons,
    List.append_assoc]
  rfl

/-- A round whose answer settles the matter, or that is the last one, decides how the step ends. -/
theorem askUntil_apply (hschedule : Schedule s.now pauses moment)
    (hhorizon : ∀ k ≤ pauses.length, moment k ≤ s.horizon) (hn : n ≤ pauses.length)
    (hopen : ∀ k < n, settles (answerIn api request moment s.server k) = false)
    (hend : n < pauses.length → settles (answerIn api request moment s.server n) = true) :
    askUntil api request settles verdict pauses s =
      (some (verdict (answerIn api request moment s.server n)),
        afterRounds api request moment s n) := by
  induction pauses generalizing s n moment with
  | nil =>
    obtain rfl : n = 0 := Nat.le_zero.1 hn
    rw [askUntil, bind_apply, lift_apply, ask_eq_afterRounds hschedule.first]
    rfl
  | cons pause pauses ih =>
    cases n with
    | zero =>
      rw [askUntil, bind_apply, lift_apply, ask_eq_afterRounds hschedule.first]
      simp only [hend (Nat.succ_pos _), if_true]
      rfl
    | succ n =>
      have hmoment : moment 1 = s.now.after pause := by
        rw [hschedule.next 0 pause rfl, hschedule.first]
      rw [askUntil_cons_apply hschedule.first (hopen 0 (Nat.succ_pos n)) hmoment
        (hhorizon 1 (Nat.succ_le_succ (Nat.zero_le _))), afterRounds_succ, answerIn_succ]
      refine ih ?_ (fun k hk => hhorizon (k + 1) (Nat.succ_le_succ hk))
        (Nat.le_of_succ_le_succ hn) (fun k hk => ?_) fun hfew => ?_
      · exact hmoment ▸ hschedule.tail
      · have hround := hopen (k + 1) (Nat.succ_lt_succ hk)
        rwa [answerIn_succ] at hround
      · have hround := hend (Nat.succ_lt_succ hfew)
        rwa [answerIn_succ] at hround

/-- A run of the step ends with the first round whose answer settles the matter, and with the last
one in any case. -/
theorem run_askUntil {limit : Duration} (api : ApiServer ω) (request : ApiRequest)
    (settles : Except ApiError request.Answer → Bool)
    (verdict : Except ApiError request.Answer → Except (Report ClusterError) α)
    (hschedule : Schedule s.now pauses moment)
    (hlimit : ∀ k ≤ pauses.length, moment k ≤ s.now.after limit) :
    ∃ n ≤ pauses.length,
      (∀ k < n, settles (answerIn api request moment s.server k) = false) ∧
      (n < pauses.length → settles (answerIn api request moment s.server n) = true) ∧
      ∃ later, EndedWith api request moment s n later ∧
        run (askUntil api request settles verdict pauses) limit s =
          (some (verdict (answerIn api request moment s.server n)), later) := by
  obtain ⟨n, hn, hopen, hend⟩ := exists_last_round
    (fun k => settles (answerIn api request moment s.server k)) pauses.length
  let begun : Session ω := { s with horizon := s.now.after limit, exchanges := [] }
  have hrun : run (askUntil api request settles verdict pauses) limit s = _ :=
    askUntil_apply (s := begun) hschedule hlimit hn hopen hend
  refine ⟨n, hn, hopen, hend, _, ⟨rfl, rfl, ?_⟩, hrun⟩
  rw [afterRounds, List.append_nil, List.reverse_reverse]

end Rounds

end Session

end DriverHandover
