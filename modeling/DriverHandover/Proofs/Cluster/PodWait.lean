import DriverHandover.Cluster.Node
import DriverHandover.Cluster.Scripted
import DriverHandover.Proofs.Cluster.Repetition
import Mathlib.Algebra.Order.Floor.Div

/-!
# Waiting for pods to leave

Pods that are waited for are listed every five seconds. The last pause is cut short at the deadline,
and whether time is up is asked after a listing only, so that the last listing is made at the
deadline itself. Pods that are gone by then have left in time.

## Main definitions

* `pollPauses` – the pauses between the listings.
* `showsPods`, `podsVerdict` – what a listing says about the wait.

## Main statements

* `Session.pollPods_eq_askUntil` – the wait is one request made again and again.
* `pods_awaited_until_deadline` – the listings and how the wait ends.
-/

namespace DriverHandover

open Session

/-- The pauses between the listings for a budget in milliseconds. All but the last one are of five
seconds. -/
def pollPauses (budget : Nat) : List Duration :=
  (List.range (budget ⌈/⌉ 5000)).map fun k => Duration.ofMillis (min (budget - 5000 * k) 5000)

/-- Whether a listing shows a pod. -/
def showsPods : Except ApiError (List Pod) → Bool
  | .ok pods => !pods.isEmpty
  | .error _ => false

/-- How the wait ends with the listing after which it does not go on. -/
def podsVerdict (selector podNamespace : String) (timeout : Duration) :
    Except ApiError (List Pod) → Except (Report ClusterError) Unit
  | .ok pods =>
    if pods.isEmpty then .ok ()
    else .error (Report.of (.podTerminationTimeout selector timeout))
  | .error e =>
    .error (Report.because (.podListFailed s!"pods matching {selector} in {podNamespace}") e)

theorem Duration.ofMillis_minus (m n : Nat) :
    (ofMillis m).minus (ofMillis n) = ofMillis (m - n) := by
  rw [minus, ofMillis, ofMillis, ofMillis, Nat.sub_mul]

theorem Duration.ofMillis_min (m n : Nat) :
    (ofMillis m).min (ofMillis n) = ofMillis (Min.min m n) := by
  rw [Duration.min, ofMillis, ofMillis, ofMillis, ← Nat.mul_min_mul_right]

theorem podPollInterval_eq : podPollInterval = Duration.ofMillis 5000 := by
  decide

section Pauses

variable {budget k : Nat}

theorem lt_ceilDiv_iff : k < budget ⌈/⌉ 5000 ↔ 5000 * k < budget := by
  rw [← Nat.not_le, ← Nat.not_le, ceilDiv_le_iff_le_mul (by decide)]

theorem length_pollPauses : (pollPauses budget).length = budget ⌈/⌉ 5000 := by
  rw [pollPauses, List.length_map, List.length_range]

theorem pollPauses_of_pos (h : 0 < budget) :
    pollPauses budget = Duration.ofMillis (min budget 5000) :: pollPauses (budget - 5000) := by
  have hone : budget ⌈/⌉ 5000 = (budget - 5000) ⌈/⌉ 5000 + 1 := by
    rw [Nat.ceilDiv_eq_add_pred_div, Nat.ceilDiv_eq_add_pred_div]
    omega
  rw [pollPauses, hone, List.range_succ_eq_map, List.map_cons, List.map_map]
  refine congrArg _ (List.map_congr_left fun k _ => ?_)
  have hleft : budget - 5000 * (k + 1) = budget - 5000 - 5000 * k := by omega
  exact congrArg (fun left => Duration.ofMillis (min left 5000)) hleft

theorem listings_schedule (start : Instant) :
    Schedule start (pollPauses budget) fun k =>
      start.after (Duration.ofMillis (min (5000 * k) budget)) := by
  refine Schedule.of_millis start (Nat.zero_min _) fun k hk => ?_
  have hearly := lt_ceilDiv_iff.1 hk
  omega

end Pauses

variable {ω : Type} {api : ApiServer ω} {selector podNamespace node : String} {timeout : Duration}

/-- The wait is one request that is made until a listing shows no pod or fails. -/
theorem Session.pollPods_eq_askUntil (budget : Nat) :
    pollPods api selector podNamespace node timeout (Duration.ofMillis budget) =
      askUntil api (.listPods (some podNamespace) (some selector) node)
        (fun listing => !showsPods listing) (podsVerdict selector podNamespace timeout)
        (pollPauses budget) := by
  induction budget using Nat.strong_induction_on with
  | _ budget ih =>
    rcases Nat.eq_zero_or_pos budget with rfl | hleft
    · have hnone : pollPauses 0 = [] := rfl
      rw [hnone, pollPods, askUntil]
      funext s
      rw [bind_apply, require_apply, bind_apply, lift_apply]
      rcases ask api _ s with ⟨e | pods, later⟩
      · rfl
      · cases pods <;> rfl
    · have hbudget : (Duration.ofMillis budget).nanos ≠ 0 :=
        Nat.ne_of_gt (Nat.mul_pos hleft (by decide))
      rw [pollPauses_of_pos hleft, pollPods, askUntil, podPollInterval_eq,
        Duration.ofMillis_minus, Duration.ofMillis_min]
      funext s
      rw [bind_apply, require_apply, bind_apply, lift_apply]
      rcases ask api _ s with ⟨e | pods, later⟩
      · rfl
      · cases pods with
        | nil =>
          simp only [showsPods, podsVerdict, List.isEmpty_nil, Bool.not_true, Bool.not_false,
            if_true]
          rfl
        | cons p rest =>
          simp [hbudget, showsPods, ih (budget - 5000) (by omega)]

section Verdict

variable {listing : Except ApiError (List Pod)} {e : ApiError}

theorem podsVerdict_eq_ok_iff :
    podsVerdict selector podNamespace timeout listing = .ok () ↔ listing = .ok [] := by
  rcases listing with e | _ | ⟨p, rest⟩ <;> simp [podsVerdict]

theorem podsVerdict_eq_failed_iff :
    podsVerdict selector podNamespace timeout listing = .error (Report.because
      (.podListFailed s!"pods matching {selector} in {podNamespace}") e) ↔ listing = .error e := by
  rcases listing with e | _ | ⟨p, rest⟩ <;>
    simp [podsVerdict, Report.because, Report.of, Cause.toFailure]

theorem podsVerdict_eq_timeout_iff :
    podsVerdict selector podNamespace timeout listing =
      .error (Report.of (.podTerminationTimeout selector timeout)) ↔ showsPods listing := by
  rcases listing with e | _ | ⟨p, rest⟩ <;>
    simp [podsVerdict, showsPods, Report.because, Report.of]

end Verdict

theorem listingMoment_le (s : Session ω) (T k : Nat) :
    s.now.after (Duration.ofMillis (min (5000 * k) T)) ≤ s.now.after (Duration.ofMillis T) :=
  Instant.after_mono s.now (Nat.mul_le_mul_right 1000000 (Nat.min_le_right (5000 * k) T))

/-- The wait ends with the first listing that shows no pod or fails, and with the one at the
deadline in any case. -/
theorem Session.awaitPodsGone_ends (api : ApiServer ω) (selector podNamespace node : String)
    (s : Session ω) (T : Nat) {limit : Duration}
    (hlimit : (Duration.ofMillis T).nanos ≤ limit.nanos) :
    let timeout := Duration.ofMillis T
    let last := T ⌈/⌉ 5000
    let moment := fun k => s.now.after (Duration.ofMillis (min (5000 * k) T))
    let request := ApiRequest.listPods (some podNamespace) (some selector) node
    let listing := answerIn api request moment s.server
    ∃ n ≤ last, (∀ k < n, showsPods (listing k)) ∧ (showsPods (listing n) → n = last) ∧
      ∃ later, EndedWith api request moment s n later ∧
        run (awaitPodsGone api selector podNamespace node timeout) limit s =
          (some (podsVerdict selector podNamespace timeout (listing n)), later) := by
  intro timeout last moment request listing
  have hmoments : ∀ k ≤ (pollPauses T).length, moment k ≤ s.now.after limit := fun k _ =>
    Nat.le_trans (listingMoment_le s T k) (Instant.after_mono s.now hlimit)
  obtain ⟨n, hn, hopen, hend, hrun⟩ := run_askUntil api request
    (fun listing => !showsPods listing) (podsVerdict selector podNamespace timeout)
    (listings_schedule s.now) hmoments
  rw [length_pollPauses] at hn hend
  refine ⟨n, hn, fun k hk => ?_, fun hshows => ?_, ?_⟩
  · simpa using hopen k hk
  · refine Nat.le_antisymm hn (Nat.le_of_not_lt fun hfew => ?_)
    have hsettles : (!showsPods (listing n)) = true := hend hfew
    rw [hshows] at hsettles
    cases hsettles
  · rw [awaitPodsGone, pollPods_eq_askUntil]
    exact hrun

/-- The listings of pods that are waited for, over at least the time that the wait may take. They
are made every five seconds before the deadline and once at the deadline, and the wait ends with the
first one that shows no pod or fails: well in the first case, and with a report in the second. It
times out exactly if every listing shows a pod, up to the one at the deadline, and at the
deadline. -/
theorem pods_awaited_until_deadline (api : ApiServer ω) (selector podNamespace node : String)
    (s : Session ω) (T : Nat) (limit : Duration)
    (hlimit : (Duration.ofMillis T).nanos ≤ limit.nanos) :
    let timeout := Duration.ofMillis T
    let deadline := s.now.after timeout
    let last := T ⌈/⌉ 5000
    let moment := fun k => s.now.after (Duration.ofMillis (min (5000 * k) T))
    let request := ApiRequest.listPods (some podNamespace) (some selector) node
    let listing := answerIn api request moment s.server
    let ended := Session.run (awaitPodsGone api selector podNamespace node timeout) limit s
    -- the moments at which there may be a listing
    (∀ k < last, 5000 * k < T ∧ moment k = s.now.after (Duration.ofMillis (5000 * k))) ∧
      moment last = deadline ∧
    -- the listings that there are
      (∃ n ≤ last, (∀ k < n, showsPods (listing k)) ∧ (showsPods (listing n) → n = last) ∧
        ended.2.exchanges.reverse =
          (List.range (n + 1)).map (fun k => ⟨moment k, request, failureOf (listing k)⟩) ∧
        ended.2.now = moment n ∧
        (ended.1 = some (.ok ()) ↔ listing n = .ok []) ∧
        ∀ e, ended.1 = some (.error (Report.because
          (.podListFailed s!"pods matching {selector} in {podNamespace}") e)) ↔
            listing n = .error e) ∧
      (∀ e ∈ ended.2.exchanges, e.moment ≤ deadline) ∧
    -- the end of time
      (ended.1 = some (.error (Report.of (.podTerminationTimeout selector timeout))) ↔
        ∀ k ≤ last, showsPods (listing k)) ∧
      (ended.1 = some (.error (Report.of (.podTerminationTimeout selector timeout))) →
        ended.2.now = deadline) := by
  intro timeout deadline last moment request listing ended
  obtain ⟨n, hn, hbefore, hend, later, hlater, hrun⟩ :=
    awaitPodsGone_ends api selector podNamespace node s T hlimit
  have hended : ended = (some (podsVerdict selector podNamespace timeout (listing n)), later) :=
    hrun
  have hlate : T ≤ 5000 * last :=
    Nat.le_of_not_lt fun hearly => Nat.lt_irrefl last (lt_ceilDiv_iff.2 hearly)
  have hlast : moment last = deadline :=
    congrArg (fun millis => s.now.after (Duration.ofMillis millis)) (Nat.min_eq_right hlate)
  rw [hended]
  refine ⟨fun k hk => ?_, hlast,
    ⟨n, hn, hbefore, hend, hlater.exchanges, hlater.now, ?_, fun e => ?_⟩,
    fun e he => ?_, ?_, ?_⟩
  · have hearly := lt_ceilDiv_iff.1 hk
    exact ⟨hearly, congrArg (fun millis => s.now.after (Duration.ofMillis millis))
      (Nat.min_eq_left (Nat.le_of_lt hearly))⟩
  · rw [Option.some_inj, podsVerdict_eq_ok_iff]
  · rw [Option.some_inj, podsVerdict_eq_failed_iff]
  · rw [← List.mem_reverse, hlater.exchanges, roundsMade, List.mem_map] at he
    obtain ⟨k, -, rfl⟩ := he
    exact listingMoment_le s T k
  · rw [Option.some_inj, podsVerdict_eq_timeout_iff]
    constructor
    · intro hshows k hk
      have hk : k ≤ n := hk.trans_eq (hend hshows).symm
      rcases Nat.lt_or_eq_of_le hk with hk | rfl
      · exact hbefore k hk
      · exact hshows
    · exact fun hall => hall n hn
  · rw [Option.some_inj, podsVerdict_eq_timeout_iff]
    exact fun hshows => (hlater.now.trans (congrArg moment (hend hshows))).trans hlast

/-- A node with a pod of an application that leaves after seven seconds. -/
def ScriptedServer.leaving : ScriptedServer where
  node := "node"
  record := ⟨.empty, .empty⟩
  cordoned := false
  pods :=
    let pod : Pod :=
      { givenName := some "plugin", generateName := none, podNamespace := some "gpu-operator",
        uid := none, labels := .ofList [("app", "plugin")], annotations := .empty, owners := [],
        spec := some ⟨some "node", [], [], []⟩, phase := none }
    [⟨pod, [], [], none, some (Duration.ofSeconds 7).nanos, false, none⟩]
  gets := []
  patches := []
  lists := []

/-- A pod that leaves at the deadline has left in time. -/
theorem leaving_pod_awaited :
    let s : Session ScriptedServer := ⟨.leaving, 0, 0, []⟩
    let limit := Duration.ofSeconds 7
    let ended := Session.run (awaitPodsGone ScriptedServer.answer "app=plugin" "gpu-operator" "node"
      (Duration.ofMillis 7000)) limit s
    (Duration.ofMillis 7000).nanos ≤ limit.nanos ∧ ended.1 = some (.ok ()) ∧
      ended.2.now = (Duration.ofSeconds 7).nanos := by
  intro s limit ended
  have hlimit : (Duration.ofMillis 7000).nanos ≤ limit.nanos := by decide
  obtain ⟨-, -, ⟨n, hn, -, hend, -, hnow, hok, -⟩, -, -, -⟩ :=
    pods_awaited_until_deadline ScriptedServer.answer "app=plugin" "gpu-operator" "node" s 7000
      limit hlimit
  have hlast : 7000 ⌈/⌉ 5000 = 2 := by decide
  rw [hlast] at hn hend
  have htwo : n = 2 := by
    obtain rfl | rfl | rfl : n = 0 ∨ n = 1 ∨ n = 2 := by omega
    · exact hend (by decide +kernel)
    · exact hend (by decide +kernel)
    · rfl
  subst htwo
  exact ⟨hlimit, hok.2 (by decide +kernel), hnow.trans (by decide)⟩

end DriverHandover
