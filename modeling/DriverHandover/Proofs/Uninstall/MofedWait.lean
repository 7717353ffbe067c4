import DriverHandover.Proofs.Process.Leads
import DriverHandover.Proofs.Uninstall.Phases
import Mathlib.Algebra.Order.Floor.Div
import Mathlib.Data.ENat.Lattice

/-!
# Waiting for MOFED

A wait for MOFED looks, and pauses after each look that does not find it ready. Whether the budget
is used up is asked after a look only, and a pause is never cut short, so that the wait may go on
for less than a pause beyond its deadline and a look there still counts.

## Main definitions

* `lookMoments`, `momentAfter` – the clock, which goes on in pauses only.
* `lastLook` – the look with which a wait ends at the latest.
* `lookEnv`, `readyAt` – an environment in which a wait goes on, and what its looks find there.
* `FirstReady` – the first look that finds MOFED ready.
* `MayLook`, `Discreet` – a part of a run that looks at MOFED only where it may.

## Main statements

* `Uninstall.awaitMofed_rounds` – a wait after some looks that have not found MOFED ready.
* `Uninstall.uninstall_discreet` – a run waits only if it is to, and the node has devices for it.
* `mofed_awaited_until_deadline` – the looks and how the wait ends.
-/

namespace DriverHandover

open Uninstall

/-- The moments at which a part of a run that begins at a moment looks at MOFED. Only pauses take
time. -/
def lookMoments (now : Instant) : NodeHistory → List Instant
  | [] => []
  | ⟨.mofedReady _, _⟩ :: rest => now :: lookMoments now rest
  | ⟨.sleep d, _⟩ :: rest => lookMoments (now.after d) rest
  | _ :: rest => lookMoments now rest

/-- The moment at which a part of a run has come to its end. -/
def momentAfter (now : Instant) : NodeHistory → Instant
  | [] => now
  | ⟨.sleep d, _⟩ :: rest => momentAfter (now.after d) rest
  | _ :: rest => momentAfter now rest

/-- The number of the look with which a wait ends at the latest, counted from zero. -/
def lastLook (t : Timings) : ℕ∞ :=
  match t.mofedTimeout with
  | none => ⊤
  | some budget => ↑(budget.nanos ⌈/⌉ t.mofedPollInterval.nanos)

/-- What is left of a budget after some pauses. -/
def budgetAfter (t : Timings) (pauses : Nat) : Option Duration :=
  t.mofedTimeout.map fun budget => ⟨budget.nanos - t.mofedPollInterval.nanos * pauses⟩

section Environment

variable {ω : Type} (handle : Handler NodeCall NodeCall.Reply ω) (c : Config) (t : Timings)

/-- The environment after some looks at MOFED, each of which was followed by a pause. -/
def lookEnv (env : ω) : Nat → ω
  | 0 => env
  | n + 1 =>
    let looked := (handle (.mofedReady c.useHostMofed) (lookEnv env n)).2
    (handle (.sleep t.mofedPollInterval) looked).2

/-- Whether a look finds MOFED ready. -/
def readyAt (env : ω) (n : Nat) : Bool :=
  (handle (.mofedReady c.useHostMofed) (lookEnv handle c t env n)).1 == some true

end Environment

/-- The first of some looks that finds MOFED ready has a number, which is infinite if none does. -/
def FirstReady (ready : Nat → Bool) (k : ℕ∞) : Prop :=
  ∀ n : Nat, (n < k → ready n = false) ∧ (n = k → ready n = true)

/-- Looks that have not found MOFED ready, each followed by a pause. -/
def unreadyLooks (c : Config) (t : Timings) (n : Nat) : NodeHistory :=
  (List.replicate n [⟨.mofedReady c.useHostMofed, false⟩, ⟨.sleep t.mofedPollInterval, ()⟩]).flatten

/-- What must have come before a call: MOFED is only looked at by a run that is to wait for it, on a
node that was found to have devices that need it. -/
def MayLook (c : Config) (past : NodeHistory) : NodeCall → Prop
  | .mofedReady _ => c.gpuDirectRdmaEnabled = true ∧ ⟨.rdmaPresent, true⟩ ∈ past
  | _ => True

/-- A part of a run that looks at MOFED only where it may. -/
def Discreet {α : Type} (c : Config) (p : NodeProcess α) : Prop :=
  ∀ memory past, p.Guarantees (fun _ later call => MayLook c later call) (fun _ _ _ => True)
    memory past

variable {c : Config} {t : Timings} {looks n : Nat} {now : Instant} {past later : NodeHistory}

theorem momentAfter_append :
    momentAfter now (past ++ later) = momentAfter (momentAfter now past) later := by
  induction past generalizing now with
  | nil => rfl
  | cons e past ih =>
    obtain ⟨call, reply⟩ := e
    cases call <;> exact ih

theorem lookMoments_append :
    lookMoments now (past ++ later) =
      lookMoments now past ++ lookMoments (momentAfter now past) later := by
  induction past generalizing now with
  | nil => rfl
  | cons e past ih =>
    obtain ⟨call, reply⟩ := e
    cases call with
    | mofedReady => exact congrArg (now :: ·) ih
    | _ => exact ih

theorem unreadyLooks_succ :
    unreadyLooks c t (n + 1) =
      unreadyLooks c t n ++
        [⟨.mofedReady c.useHostMofed, false⟩, ⟨.sleep t.mofedPollInterval, ()⟩] := by
  rw [unreadyLooks, List.replicate_succ', List.flatten_concat]
  rfl

theorem momentAfter_unreadyLooks :
    momentAfter now (unreadyLooks c t n) = now.after ⟨t.mofedPollInterval.nanos * n⟩ := by
  induction n with
  | zero => rfl
  | succ n ih =>
    rw [unreadyLooks_succ, momentAfter_append, ih]
    exact (Nat.add_assoc _ _ _).trans (congrArg (now + ·) (Nat.mul_succ _ _).symm)

theorem lookMoments_unreadyLooks :
    lookMoments now (unreadyLooks c t n) =
      (List.range n).map fun k => now.after ⟨t.mofedPollInterval.nanos * k⟩ := by
  induction n with
  | zero => rfl
  | succ n ih =>
    rw [unreadyLooks_succ, lookMoments_append, ih, momentAfter_unreadyLooks, List.range_succ,
      List.map_append]
    rfl

/-- One more look takes no time. -/
theorem momentAfter_concat_look {onHost ready : Bool} :
    momentAfter now (past ++ [⟨.mofedReady onHost, ready⟩]) = momentAfter now past :=
  momentAfter_append

theorem lookMoments_concat_look {onHost ready : Bool} :
    lookMoments now (past ++ [⟨.mofedReady onHost, ready⟩]) =
      lookMoments now past ++ [momentAfter now past] :=
  lookMoments_append

/-- The budget is used up with the last look, and not before. -/
theorem budgetAfter_isZero_iff (hpause : 0 < t.mofedPollInterval.nanos) :
    (budgetAfter t n).any (·.isZero) = true ↔ lastLook t ≤ n := by
  rw [budgetAfter, lastLook]
  cases t.mofedTimeout with
  | none => simp
  | some budget =>
    have hceil := ceilDiv_le_iff_le_mul (b := budget.nanos) (c := n) hpause
    simp [Duration.isZero, hceil, Nat.sub_eq_zero_iff_le]

theorem budgetAfter_zero : budgetAfter t 0 = t.mofedTimeout := by
  rw [budgetAfter]
  cases t.mofedTimeout <;> rfl

theorem budgetAfter_succ :
    (budgetAfter t n).map (·.minus t.mofedPollInterval) = budgetAfter t (n + 1) := by
  rw [budgetAfter, budgetAfter, Option.map_map]
  refine congrFun (congrArg Option.map (funext fun budget => ?_)) _
  simp only [Function.comp, Duration.minus, Nat.sub_sub, Nat.mul_succ]

/-- What is reported when MOFED has not become ready. -/
def mofedReport (t : Timings) : Report UninstallError :=
  (Report.of .mofedWaitFailed).note ("not ready after " ++ budgetText t.mofedTimeout)

namespace Uninstall

open Process (LeadsTo RepliesAlways leadsTo_ask)

variable {ω : Type} {handle : Handler NodeCall NodeCall.Reply ω} {memory : Memory}
variable {env later mid : ω} {budget : Option Duration}

/-- A look that finds MOFED ready ends a wait. -/
theorem awaitMofed_ready
    (hlook : handle (.mofedReady c.useHostMofed) env = (some true, later)) :
    LeadsTo handle (awaitMofed c t budget (looks + 1)).run memory env
      [⟨.mofedReady c.useHostMofed, true⟩] (pure (.ok ())) memory later :=
  LeadsTo.step (leadsTo_ask hlook).lift _

/-- A look that does not find MOFED ready ends a wait whose budget is used up. -/
theorem awaitMofed_late (hlook : handle (.mofedReady c.useHostMofed) env = (some false, later))
    (hspent : budget.any (·.isZero) = true) :
    LeadsTo handle (awaitMofed c t budget (looks + 1)).run memory env
      [⟨.mofedReady c.useHostMofed, false⟩] (pure (.error (mofedReport t))) memory later := by
  rw [awaitMofed]
  refine .call hlook ?_
  simp only [hspent]
  exact .here _ _ _

/-- A look that does not find MOFED ready is followed by a pause, as long as there is time left. -/
theorem awaitMofed_unready (hlook : handle (.mofedReady c.useHostMofed) env = (some false, mid))
    (hsleep : handle (.sleep t.mofedPollInterval) mid = (some (), later))
    (hleft : budget.any (·.isZero) = false) :
    LeadsTo handle (awaitMofed c t budget (looks + 1)).run memory env
      [⟨.mofedReady c.useHostMofed, false⟩, ⟨.sleep t.mofedPollInterval, ()⟩]
      (awaitMofed c t (budget.map (·.minus t.mofedPollInterval)) looks).run memory later := by
  rw [awaitMofed]
  refine .call hlook ?_
  simp only [hleft]
  exact .call hsleep (.here _ _ _)

theorem ready_reply (h : readyAt handle c t env n = true) :
    handle (.mofedReady c.useHostMofed) (lookEnv handle c t env n) =
      (some true, (handle (.mofedReady c.useHostMofed) (lookEnv handle c t env n)).2) :=
  Prod.ext (eq_of_beq h) rfl

theorem unready_reply (hreplies : RepliesAlways handle) (h : readyAt handle c t env n = false) :
    handle (.mofedReady c.useHostMofed) (lookEnv handle c t env n) =
      (some false, (handle (.mofedReady c.useHostMofed) (lookEnv handle c t env n)).2) := by
  obtain ⟨ready, looked, hlook⟩ := hreplies.exists_reply (.mofedReady c.useHostMofed)
    (lookEnv handle c t env n)
  rw [readyAt, hlook] at h
  cases ready with
  | true => cases h
  | false => rw [hlook]

/-- A wait after some looks that have not found MOFED ready while there was time left. -/
theorem awaitMofed_rounds (memory : Memory) (hreplies : RepliesAlways handle) (hn : n ≤ looks)
    (hunready : ∀ k < n, readyAt handle c t env k = false) (hleft : (n : ℕ∞) ≤ lastLook t)
    (hpause : 0 < t.mofedPollInterval.nanos) :
    LeadsTo handle (awaitMofed c t t.mofedTimeout looks).run memory env (unreadyLooks c t n)
      (awaitMofed c t (budgetAfter t n) (looks - n)).run memory (lookEnv handle c t env n) := by
  induction n with
  | zero =>
    rw [budgetAfter_zero]
    exact .here _ _ _
  | succ n ih =>
    have hbefore : (n : ℕ∞) < lastLook t :=
      lt_of_lt_of_le (ENat.natCast_lt_natCast.2 (Nat.lt_succ_self n)) hleft
    have hrounds := ih (Nat.le_of_succ_le hn) (fun k hk => hunready k (Nat.lt_succ_of_lt hk))
      hbefore.le
    have hlook : handle (.mofedReady c.useHostMofed) (lookEnv handle c t env n) =
        (some false, (handle (.mofedReady c.useHostMofed) (lookEnv handle c t env n)).2) :=
      unready_reply hreplies (hunready n (Nat.lt_succ_self n))
    obtain ⟨⟨⟩, paused, hsleep⟩ := hreplies.exists_reply (.sleep t.mofedPollInterval)
      (handle (.mofedReady c.useHostMofed) (lookEnv handle c t env n)).2
    have hlater : lookEnv handle c t env (n + 1) = paused := by
      rw [lookEnv, hsleep]
    have htime : (budgetAfter t n).any (·.isZero) = false :=
      Bool.eq_false_iff.2 fun hspent =>
        absurd ((budgetAfter_isZero_iff hpause).1 hspent) (not_le_of_gt hbefore)
    have hone : looks - n = looks - (n + 1) + 1 := by omega
    rw [hone] at hrounds
    rw [unreadyLooks_succ, hlater, ← budgetAfter_succ]
    exact hrounds.trans (awaitMofed_unready hlook hsleep htime)

variable {k : ℕ∞}

/-- A wait with enough looks ends with the first one that finds MOFED ready, or with the last one
that there is time for. -/
theorem awaitMofed_leads (memory : Memory) (hreplies : RepliesAlways handle)
    (hpause : 0 < t.mofedPollInterval.nanos) (hk : FirstReady (readyAt handle c t env) k)
    (hn : (n : ℕ∞) = min k (lastLook t)) (hlooks : n < looks) :
    ∃ ready later, LeadsTo handle (awaitMofed c t t.mofedTimeout looks).run memory env
        (unreadyLooks c t n ++ [⟨.mofedReady c.useHostMofed, ready⟩])
        (pure (if ready then .ok () else .error (mofedReport t))) memory later ∧
      (ready = true ↔ k ≤ lastLook t) := by
  have hunready : ∀ j < n, readyAt handle c t env j = false := fun j hj =>
    (hk j).1 (lt_of_lt_of_le (ENat.natCast_lt_natCast.2 hj) (hn.trans_le (min_le_left _ _)))
  have hrounds := awaitMofed_rounds memory hreplies hlooks.le hunready
    (hn.trans_le (min_le_right _ _)) hpause
  have hone : looks - n = looks - n - 1 + 1 := by omega
  rw [hone] at hrounds
  rcases le_or_gt k (lastLook t) with hready | hlate
  · have hend : readyAt handle c t env n = true := (hk n).2 (hn.trans (min_eq_left hready))
    exact ⟨true, _, hrounds.trans (awaitMofed_ready (ready_reply hend)), iff_of_true rfl hready⟩
  · have hearly : (n : ℕ∞) < k := (hn.trans_le (min_le_right _ _)).trans_lt hlate
    have hspent : (budgetAfter t n).any (·.isZero) = true :=
      (budgetAfter_isZero_iff hpause).2 (hn.trans (min_eq_right hlate.le)).ge
    have hlook := unready_reply hreplies ((hk n).1 hearly)
    exact ⟨false, _, hrounds.trans (awaitMofed_late hlook hspent),
      iff_of_false Bool.false_ne_true (not_le_of_gt hlate)⟩

/-- A wait with no more looks than there is time for, none of which finds MOFED ready, is cut
off. -/
theorem awaitMofed_cut (memory : Memory) (hreplies : RepliesAlways handle)
    (hpause : 0 < t.mofedPollInterval.nanos) (hk : FirstReady (readyAt handle c t env) k)
    (hlooks : (looks : ℕ∞) ≤ min k (lastLook t)) :
    ∃ later, LeadsTo handle (awaitMofed c t t.mofedTimeout looks).run memory env
      (unreadyLooks c t looks) .halt memory later := by
  have hunready : ∀ j < looks, readyAt handle c t env j = false := fun j hj =>
    (hk j).1 (lt_of_lt_of_le (ENat.natCast_lt_natCast.2 hj) (hlooks.trans (min_le_left _ _)))
  have hrounds := awaitMofed_rounds memory hreplies le_rfl hunready
    (hlooks.trans (min_le_right _ _)) hpause
  rw [Nat.sub_self] at hrounds
  exact ⟨_, hrounds⟩

end Uninstall

section Discreet

variable {α β γ : Type} {view : Memory → γ} {calls : NodeCall → Prop}

/-- A class of calls without looks at MOFED. -/
theorem mayLook_of (hcalls : ∀ onHost, ¬ calls (.mofedReady onHost)) {call : NodeCall}
    (h : calls call) : MayLook c past call := by
  cases call with
  | mofedReady onHost => exact absurd h (hcalls onHost)
  | _ => trivial

theorem Keeping.discreet {p : NodeProcess α} (hp : Keeping view calls p)
    (hcalls : ∀ onHost, ¬ calls (.mofedReady onHost)) : Discreet c p := fun memory past =>
  (hp memory past).mono (fun _ _ _ h => mayLook_of hcalls h.1) fun _ _ _ _ => trivial

theorem discreet_bind {p : NodeProcess β} {next : β → NodeProcess α} (hp : Discreet c p)
    (hnext : ∀ b, Discreet c (next b)) : Discreet c (p >>= next) := by
  intro memory past
  rw [Process.guarantees_bind]
  exact (hp memory past).imp fun b kept later _ => hnext b kept later

theorem RunStep.discreet_bind {step : RunStep β} {next : β → RunStep α}
    (hstep : Discreet c step.run) (hnext : ∀ b, Discreet c (next b).run) :
    Discreet c (step >>= next).run := by
  refine DriverHandover.discreet_bind hstep fun result => ?_
  cases result with
  | ok b => exact hnext b
  | error report => exact fun _ _ => trivial

end Discreet

namespace Uninstall

theorem awaitRdma_discreet : Discreet c (awaitRdma c t looks).run := by
  intro memory past
  rw [awaitRdma, RunStep.guarantees_run_iff]
  by_cases henabled : c.gpuDirectRdmaEnabled = true
  · rw [if_pos henabled, RunStep.guarantees_bind, RunStep.guarantees_ask]
    refine ⟨trivial, fun present => ?_⟩
    cases present with
    | false => trivial
    | true =>
      rw [if_pos rfl, ← RunStep.guarantees_run_iff]
      have hpolls : Keeping id NodeCall.Polls (awaitMofed c t t.mofedTimeout looks).run :=
        awaitMofed_keeping _ _
      refine (hpolls memory _).mono (fun _ later call h => ?_) fun _ _ _ _ => trivial
      have hpresent : ⟨.rdmaPresent, true⟩ ∈ later := h.2.2.mem List.mem_concat_self
      cases call with
      | mofedReady => exact ⟨henabled, hpresent⟩
      | _ => trivial
  · rw [if_neg henabled]
    trivial

theorem enter_discreet (stage : Stage) : Discreet c (enter stage) := by
  have henter : Keeping (fun _ => ()) NodeCall.Finishes (enter stage) :=
    keeping_enter (fun _ _ => rfl) trivial
  exact henter.discreet fun _ => id

theorem removeDriver_discreet : Discreet c (removeDriver c t looks).run := by
  have henter : ∀ stage, Discreet c (liftM (enter stage) : RunStep Unit).run := by
    intro stage memory past
    rw [RunStep.guarantees_run_iff, RunStep.guarantees_lift]
    exact enter_discreet stage memory past
  have hevict : Keeping id (fun call => ∀ onHost, call ≠ .mofedReady onHost)
      (evictComponents c t).run :=
    evictComponents_keeping (fun _ _ => nofun) fun _ h _ heq => by cases heq; exact h
  have hunbind : Keeping id (· = .unbindVfio) (attempt .vfioUnbindFailed (ask .unbindVfio)).run :=
    RunStep.keeping_attempt (keeping_ask rfl)
  rw [removeDriver_eq]
  refine RunStep.discreet_bind (hevict.discreet fun _ h => h _ rfl) fun _ => ?_
  refine RunStep.discreet_bind (henter _) fun _ => ?_
  refine RunStep.discreet_bind (clearGpuPods_keeping.discreet fun _ => id) fun _ => ?_
  refine RunStep.discreet_bind (henter _) fun _ => ?_
  refine RunStep.discreet_bind (unloadDriver_keeping.discreet fun _ => id) fun _ => ?_
  refine RunStep.discreet_bind (henter _) fun _ => ?_
  refine RunStep.discreet_bind (hunbind.discreet fun _ => nofun) fun _ => ?_
  refine RunStep.discreet_bind (henter _) fun _ => ?_
  refine RunStep.discreet_bind awaitRdma_discreet fun _ => ?_
  exact henter _

theorem handOver_discreet : Discreet c (handOver c t looks) := by
  have hconclude : ∀ removed, Keeping (fun _ => ()) NodeCall.Finishes (conclude removed) :=
    conclude_keeping fun _ _ => rfl
  rw [handOver_eq]
  refine discreet_bind (enter_discreet _) fun _ => ?_
  refine discreet_bind removeDriver_discreet fun removed => ?_
  refine discreet_bind (reschedule_keeping.discreet fun _ => id) fun _ => ?_
  exact (hconclude removed).discreet fun _ => id

/-- A run looks at MOFED only where it may, whatever the process keeps. -/
theorem uninstall_discreet (memory : Memory) :
    (uninstall c t looks).Guarantees (fun _ past call => MayLook c past call)
      (fun _ _ _ => True) memory [] :=
  uninstall_guarantees (fun _ _ _ _ _ h => mayLook_of (fun _ => id) h) (fun _ _ _ _ => trivial)
    fun kept _ _ _ _ _ _ => handOver_discreet kept _

end Uninstall

/-- The last look is at the deadline or, by less than a pause, after it. -/
theorem lastLook_of_timeout {budget : Duration} (hpause : 0 < t.mofedPollInterval.nanos)
    (hbudget : t.mofedTimeout = some budget) :
    let last := budget.nanos ⌈/⌉ t.mofedPollInterval.nanos
    lastLook t = last ∧ budget.nanos ≤ t.mofedPollInterval.nanos * last ∧
      t.mofedPollInterval.nanos * last < budget.nanos + t.mofedPollInterval.nanos := by
  intro last
  have hbelow : t.mofedPollInterval.nanos * last ≤
      budget.nanos + t.mofedPollInterval.nanos - 1 := Nat.mul_div_le _ _
  refine ⟨by rw [lastLook, hbudget], (ceilDiv_le_iff_le_mul hpause).1 le_rfl, by omega⟩

/-- A wait for MOFED in an environment that replies to every call, where the look `k` is the first
one to find it ready. The wait looks at once and after each pause. It ends with the look `k`, or
with the last one that there is time for if that comes first: well in the first case, and with a
report in the second. Without a limit it never fails. With one the last look is made less than a
pause after the deadline. A run waits only if it is to, and has found devices that need MOFED. -/
theorem mofed_awaited_until_deadline {ω : Type} {handle : Handler NodeCall NodeCall.Reply ω}
    {k : ℕ∞} (c : Config) (t : Timings) (looks : Nat) (memory : Memory) (env : ω) (now : Instant)
    (hpause : 0 < t.mofedPollInterval.nanos) (hreplies : Process.RepliesAlways handle)
    (hk : FirstReady (readyAt handle c t env) k) :
    let pause := t.mofedPollInterval.nanos
    let moment := fun j => now.after ⟨pause * j⟩
    let wait := (awaitMofed c t t.mofedTimeout looks).run
    let result := (wait.run handle memory env).1
    let history := wait.history handle memory env
    -- the last look that there is time for
    (t.mofedTimeout = none → lastLook t = ⊤) ∧
      (∀ budget, t.mofedTimeout = some budget →
        let last := budget.nanos ⌈/⌉ pause
        lastLook t = last ∧ budget.nanos ≤ pause * last ∧ pause * last < budget.nanos + pause) ∧
    -- the wait
      (∀ n : Nat, (n : ℕ∞) = min k (lastLook t) → n < looks →
        lookMoments now history = (List.range (n + 1)).map moment ∧
          momentAfter now history = moment n ∧
          (result = some (.ok ()) ↔ k ≤ lastLook t) ∧
          (result = some (.error (mofedReport t)) ↔ lastLook t < k)) ∧
      ((looks : ℕ∞) ≤ min k (lastLook t) →
        lookMoments now history = (List.range looks).map moment ∧ result = none) ∧
    -- the runs in which there is a wait
      ∀ kept calls ended after, (uninstall c t looks).Runs kept calls ended after →
        ∀ before onHost ready rest, calls = before ++ ⟨.mofedReady onHost, ready⟩ :: rest →
          c.gpuDirectRdmaEnabled = true ∧ ⟨.rdmaPresent, true⟩ ∈ before := by
  intro pause moment wait result history
  refine ⟨fun hnone => by rw [lastLook, hnone], fun budget => lastLook_of_timeout hpause,
    fun n hn hlooks => ?_, fun hlooks => ?_, ?_⟩
  · obtain ⟨ready, later, hleads, hready⟩ := awaitMofed_leads memory hreplies hpause hk hn hlooks
    have hhistory : history = unreadyLooks c t n ++ [⟨.mofedReady c.useHostMofed, ready⟩] :=
      hleads.history_eq.trans (List.append_nil _)
    have hresult : result = some (if ready then .ok () else .error (mofedReport t)) :=
      congrArg Prod.fst hleads.run_eq
    refine ⟨?_, ?_, ?_, ?_⟩
    · rw [hhistory, lookMoments_concat_look, lookMoments_unreadyLooks, momentAfter_unreadyLooks,
        List.range_succ, List.map_append]
      rfl
    · rw [hhistory, momentAfter_concat_look, momentAfter_unreadyLooks]
    · rw [hresult, ← hready]
      cases ready <;> simp
    · rw [hresult, ← not_le, ← hready]
      cases ready <;> simp
  · obtain ⟨later, hleads⟩ := awaitMofed_cut memory hreplies hpause hk hlooks
    have hhistory : history = unreadyLooks c t looks :=
      hleads.history_eq.trans (List.append_nil _)
    refine ⟨?_, congrArg Prod.fst hleads.run_eq⟩
    rw [hhistory, lookMoments_unreadyLooks]
  · intro kept calls ended after hrun before onHost ready rest hsplit
    obtain ⟨_, hmay⟩ :=
      ((uninstall_discreet kept).ensures.of_runs hrun).1 before _ rest hsplit
    exact hmay

/-- A node that finds MOFED ready after some looks, and on which nothing else is of note. Its state
is the number of looks so far. -/
def readyAfter (looks : Nat) : Handler NodeCall NodeCall.Reply Nat
  | .mofedReady _, n => (some (decide (looks ≤ n)), n + 1)
  | .hostDriverVersion, n => (some none, n)
  | .driverVersion, n => (some (.ok ""), n)
  | .moduleLoaded _, n => (some false, n)
  | .nodeLabels _, n => (some (.ok .empty), n)
  | .nodeAnnotations _, n => (some (.ok .empty), n)
  | .updateLabels _ _, n => (some (.ok ()), n)
  | .cordon _, n => (some (.ok ()), n)
  | .uncordon _, n => (some (.ok ()), n)
  | .awaitPodsGone _ _ _ _, n => (some (.ok ()), n)
  | .drain _ _, n => (some (.ok ()), n)
  | .evictGpuPods _ _, n => (some (.ok ⟨0, 0, []⟩), n)
  | .cleanupDriver, n => (some (.ok ()), n)
  | .unbindVfio, n => (some (.ok ()), n)
  | .rdmaPresent, n => (some true, n)
  | .unloadNouveau, n => (some (.ok ()), n)
  | .sleep _, n => (some (), n)
  | .enter _, n => (some (), n)

theorem readyAfter_replies (looks : Nat) : Process.RepliesAlways (readyAfter looks) := by
  intro call n
  cases call <;> rfl

theorem firstReady_readyAfter (looks : Nat) :
    FirstReady (readyAt (readyAfter looks) c t 0) looks := by
  have henv : ∀ n, lookEnv (readyAfter looks) c t 0 n = n := by
    intro n
    induction n with
    | zero => rfl
    | succ n ih =>
      rw [lookEnv, ih]
      rfl
  have hready : ∀ n, readyAt (readyAfter looks) c t 0 n = decide (looks ≤ n) := by
    intro n
    rw [readyAt, henv]
    by_cases h : looks ≤ n <;> simp [readyAfter, h]
  refine fun n => ⟨fun hearly => ?_, fun hfirst => ?_⟩
  · rw [hready, decide_eq_false_iff_not, Nat.not_le]
    exact ENat.natCast_lt_natCast.1 hearly
  · rw [hready, decide_eq_true_eq]
    exact (ENat.natCast_inj.1 hfirst).ge

/-- A look after the deadline counts as long as it is less than a pause late. -/
theorem late_look_counts :
    let t : Timings := { Timings.default with mofedTimeout := some (Duration.ofSeconds 12) }
    let wait := (awaitMofed .thorough t t.mofedTimeout 9).run
    (wait.run (readyAfter 3) .fresh 0).1 = some (.ok ()) ∧
      momentAfter 0 (wait.history (readyAfter 3) .fresh 0) = (Duration.ofSeconds 15).nanos := by
  intro t wait
  obtain ⟨-, hlimit, hends, -, -⟩ := mofed_awaited_until_deadline .thorough t 9 .fresh 0 0
    (by decide) (readyAfter_replies 3) (firstReady_readyAfter 3)
  have hceil : (Duration.ofSeconds 12).nanos ⌈/⌉ (Duration.ofSeconds 5).nanos = 3 := by decide
  have hlast : lastLook t = (3 : Nat) :=
    (hlimit (Duration.ofSeconds 12) rfl).1.trans (congrArg Nat.cast hceil)
  obtain ⟨-, hnow, hresult, -⟩ := hends 3 (by rw [hlast, min_self]) (by decide)
  exact ⟨hresult.2 hlast.ge, hnow.trans (by decide)⟩

end DriverHandover
