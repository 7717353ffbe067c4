import DriverHandover.Cluster.Node
import DriverHandover.Cluster.Scripted
import DriverHandover.Proofs.Cluster.Repetition
import Mathlib.Algebra.Order.Ring.Nat

/-!
# Writing labels in a few attempts

Labels are written by the same request in each attempt. The attempts end with the first one that
succeeds, and with the fifth one in any case; each pause between two of them is twice the one
before. As long as a failed attempt changes nothing, the labels of the node are written over exactly
if one of five attempts succeeds.

## Main definitions

* `StoresLabels` – a server writes labels over those of a node, or fails and changes nothing.
* `attemptOffset` – when an attempt is made.

## Main statements

* `labels_written_in_five_attempts` – the attempts, how they end and what becomes of the labels.
-/

namespace DriverHandover

open Session

/-- What a server does with labels that are written to a node. The labels that the node has are read
off the server by `view`. -/
structure StoresLabels {ω : Type} (api : ApiServer ω) (node : String) (view : ω → LabelMap) :
    Prop where
  written : ∀ labels now server, (api (.patchLabels node labels) now server).1 = .ok () →
    view (api (.patchLabels node labels) now server).2 = (view server).overlay labels
  kept : ∀ labels now server e, (api (.patchLabels node labels) now server).1 = .error e →
    view (api (.patchLabels node labels) now server).2 = view server

/-- When an attempt to write labels is made, in milliseconds after the first one, which has the
number zero. -/
def attemptOffset : Nat → Nat
  | 0 => 0
  | k + 1 => attemptOffset k + 200 * 2 ^ (k + 1)

/-- What is reported after the last attempt. -/
def labelReport (node : String) (e : ApiError) : Report ClusterError :=
  (Report.because (.nodeUpdateFailed node) e).note "giving up after 5 attempts"

theorem labelRetryPauses_eq :
    labelRetryPauses = (List.range 4).map fun k => Duration.ofMillis (200 * 2 ^ (k + 1)) := by
  decide

theorem attempts_schedule (start : Instant) :
    Schedule start labelRetryPauses fun k => start.after (Duration.ofMillis (attemptOffset k)) := by
  rw [labelRetryPauses_eq]
  exact Schedule.of_millis start rfl fun _ _ => rfl

/-- The pauses before an attempt sum up to a little less than the one after it. -/
theorem attemptOffset_add (k : Nat) : attemptOffset k + 400 = 400 * 2 ^ k := by
  induction k with
  | zero => rfl
  | succ k ih =>
    rw [attemptOffset, Nat.pow_succ]
    omega

theorem attemptOffset_le {k : Nat} (hk : k ≤ 4) : attemptOffset k ≤ 6000 := by
  have hpow : 2 ^ k ≤ 2 ^ 4 := Nat.pow_le_pow_right (by decide) hk
  have hsum := attemptOffset_add k
  omega

variable {ω : Type} {api : ApiServer ω} {node : String} {labels : LabelMap}

theorem Session.attemptLabels_eq_askUntil (pauses : List Duration) :
    attemptLabels api node labels pauses =
      askUntil api (.patchLabels node labels) Except.isOk (Except.mapError (labelReport node))
        pauses := by
  induction pauses with
  | nil =>
    refine congrArg (bind _) (funext fun answer => ?_)
    rcases answer with e | ⟨⟩ <;> rfl
  | cons pause pauses ih =>
    refine congrArg (bind _) (funext fun answer => ?_)
    rcases answer with e | ⟨⟩
    · exact congrArg (sleep pause >>= ·) (funext fun _ => ih)
    · rfl

theorem isOk_iff {answer : Except ApiError Unit} : answer.isOk = true ↔ answer = .ok () := by
  rcases answer with e | ⟨⟩
  · exact iff_of_false nofun nofun
  · exact iff_of_true rfl rfl

/-- The attempts end with the first one that succeeds, and with the fifth one in any case. -/
theorem Session.updateLabels_ends (api : ApiServer ω) (node : String) (labels : LabelMap)
    (s : Session ω) {limit : Duration} (hlimit : (Duration.ofMillis 6000).nanos ≤ limit.nanos) :
    let request := ApiRequest.patchLabels node labels
    let moment := fun k => s.now.after (Duration.ofMillis (attemptOffset k))
    let outcome := answerIn api request moment s.server
    ∃ n < 5, (∀ k < n, outcome k ≠ .ok ()) ∧ (n < 4 → outcome n = .ok ()) ∧
      ∃ later, EndedWith api request moment s n later ∧
        run (updateLabels api node labels) limit s =
          (some ((outcome n).mapError (labelReport node)), later) := by
  intro request moment outcome
  have hmoments : ∀ k ≤ labelRetryPauses.length, moment k ≤ s.now.after limit := by
    intro k hk
    have hoffset : attemptOffset k ≤ 6000 := attemptOffset_le hk
    exact Instant.after_mono s.now (Nat.le_trans (Nat.mul_le_mul_right 1000000 hoffset) hlimit)
  obtain ⟨n, hn, hopen, hend, hrun⟩ := run_askUntil api request Except.isOk
    (Except.mapError (labelReport node)) (attempts_schedule s.now) hmoments
  refine ⟨n, Nat.lt_succ_of_le hn, fun k hk hok => ?_, fun hfew => isOk_iff.1 (hend hfew), ?_⟩
  · exact Bool.false_ne_true ((hopen k hk).symm.trans (isOk_iff.2 hok))
  · rw [updateLabels, attemptLabels_eq_askUntil]
    exact hrun

/-- Attempts that fail leave the labels as they are. -/
theorem StoresLabels.view_serverAfter {view : ω → LabelMap} {moment : Nat → Instant} {server : ω}
    {n : Nat} (h : StoresLabels api node view)
    (hfailed : ∀ k < n, answerIn api (.patchLabels node labels) moment server k ≠ .ok ()) :
    view (serverAfter api (.patchLabels node labels) moment server n) = view server := by
  induction n with
  | zero => rfl
  | succ n ih =>
    have hbefore := ih fun k hk => hfailed k (Nat.lt_succ_of_lt hk)
    cases hlast : answerIn api (.patchLabels node labels) moment server n with
    | ok => exact absurd hlast (hfailed n (Nat.lt_succ_self n))
    | error e => exact (h.kept labels _ _ e hlast).trans hbefore

/-- A server that stores labels is asked to write some to a node, for at least as long as the pauses
take. It gets the same request in each of up to five attempts, the first of which to succeed is the
last one; the pause after the attempt `k`, counted from one, is of `200 * 2 ^ k` milliseconds.
Labels are written exactly if one of five attempts would succeed. They are written over those that
the node has then, and no other label changes. Otherwise the report is about the failure of the
fifth attempt, and the labels of the node stay as they are. -/
theorem labels_written_in_five_attempts {view : ω → LabelMap} (labels : LabelMap) (s : Session ω)
    (limit : Duration) (hstores : StoresLabels api node view)
    (hlimit : (Duration.ofMillis 6000).nanos ≤ limit.nanos) :
    let request := ApiRequest.patchLabels node labels
    let moment := fun k => s.now.after (Duration.ofMillis (attemptOffset k))
    let outcome := answerIn api request moment s.server
    let ended := Session.run (updateLabels api node labels) limit s
    -- the attempts
    (∃ n < 5, (∀ k < n, outcome k ≠ .ok ()) ∧ (n < 4 → outcome n = .ok ()) ∧
        ended.2.exchanges.reverse =
          (List.range (n + 1)).map (fun k => ⟨moment k, request, failureOf (outcome k)⟩) ∧
        ended.2.now = moment n) ∧
    -- what comes of them
      (ended.1 = some (.ok ()) ↔ ∃ k < 5, outcome k = .ok ()) ∧
      (ended.1 = some (.ok ()) → view ended.2.server = (view s.server).overlay labels ∧
        ∀ key, labels.get? key = none →
          (view ended.2.server).get? key = (view s.server).get? key) ∧
      (ended.1 ≠ some (.ok ()) → view ended.2.server = view s.server ∧
        ∃ e, outcome 4 = .error e ∧ ended.1 = some (.error (labelReport node e))) := by
  intro request moment outcome ended
  obtain ⟨n, hn, hfailed, hsucceeds, later, hlater, hrun⟩ :=
    updateLabels_ends api node labels s hlimit
  have hended : ended = (some ((outcome n).mapError (labelReport node)), later) := hrun
  have hview : view (serverAfter api request moment s.server n) = view s.server :=
    hstores.view_serverAfter hfailed
  rw [hended]
  refine ⟨⟨n, hn, hfailed, hsucceeds, hlater.exchanges, hlater.now⟩, ?_⟩
  cases hlast : outcome n with
  | ok =>
    have hwritten : view later.server = (view s.server).overlay labels := by
      rw [hlater.server, ← hview]
      exact hstores.written labels _ _ hlast
    refine ⟨iff_of_true rfl ⟨n, hn, hlast⟩, fun _ => ⟨hwritten, fun key hkey => ?_⟩,
      fun hother => absurd rfl hother⟩
    show (view later.server).get? key = (view s.server).get? key
    rw [hwritten, LabelMap.get?_overlay, hkey, Option.none_or]
  | error e =>
    have hno : ¬ n < 4 := fun hfew => by cases hlast.symm.trans (hsucceeds hfew)
    obtain rfl : n = 4 := by omega
    have hkept : view later.server = view s.server := by
      rw [hlater.server, ← hview]
      exact hstores.kept labels _ _ e hlast
    refine ⟨iff_of_false nofun ?_, nofun, fun _ => ⟨hkept, e, hlast, rfl⟩⟩
    rintro ⟨k, hk, hok⟩
    rcases Nat.lt_succ_iff_lt_or_eq.1 hk with hk | rfl
    · exact hfailed k hk hok
    · cases hlast.symm.trans hok

/-- A scripted server changes its node, or fails and only goes on in its script. -/
theorem ScriptedServer.patch_cases (server : ScriptedServer) (node : String)
    (f : ScriptedServer → ScriptedServer) :
    ∃ patches, server.patch node f = (.ok (), f { server with patches }) ∨
      ∃ e, server.patch node f = (.error e, { server with patches }) := by
  rw [patch]
  rcases ScriptedPod.next 200 server.patches with ⟨code, patches⟩
  refine ⟨patches, ?_⟩
  dsimp only
  cases ScriptedPod.ofCode 200 code () with
  | error e => exact .inr ⟨e, rfl⟩
  | ok =>
    by_cases hnode : node = server.node
    · exact .inl (if_pos hnode)
    · exact .inr ⟨.status 404, if_neg hnode⟩

theorem ScriptedServer.storesLabels (node : String) :
    StoresLabels answer node fun server => server.record.labels where
  written labels now server hok := by
    rw [answer] at hok ⊢
    obtain ⟨patches, hpatch | ⟨e, hpatch⟩⟩ := server.patch_cases node _
    · rw [hpatch]
    · rw [hpatch] at hok
      cases hok
  kept labels now server e herror := by
    rw [answer] at herror ⊢
    obtain ⟨patches, hpatch | ⟨e, hpatch⟩⟩ := server.patch_cases node _
    · rw [hpatch] at herror
      cases herror
    · rw [hpatch]

/-- A node whose server is busy twice before it writes labels. -/
def ScriptedServer.busyTwice : ScriptedServer where
  node := "node"
  record := ⟨.ofList [("zone", "a"), ("state", "old")], .empty⟩
  cordoned := false
  pods := []
  gets := []
  patches := [503, 0]
  lists := []

theorem labels_written_in_third_attempt :
    let s : Session ScriptedServer := ⟨.busyTwice, 0, 0, []⟩
    let labels := LabelMap.ofList [("state", "new")]
    let limit := Duration.ofSeconds 10
    let ended := Session.run (updateLabels ScriptedServer.answer "node" labels) limit s
    (Duration.ofMillis 6000).nanos ≤ limit.nanos ∧ ended.1 = some (.ok ()) ∧
      ended.2.server.record.labels = .ofList [("zone", "a"), ("state", "new")] := by
  intro s labels limit ended
  have hlimit : (Duration.ofMillis 6000).nanos ≤ limit.nanos := by decide
  obtain ⟨-, hresult, hwritten, -⟩ := labels_written_in_five_attempts labels s limit
    (ScriptedServer.storesLabels "node") hlimit
  have hok : ended.1 = some (.ok ()) := hresult.2 ⟨2, by decide, rfl⟩
  refine ⟨hlimit, hok, ?_⟩
  rw [(hwritten hok).1]
  decide

end DriverHandover
