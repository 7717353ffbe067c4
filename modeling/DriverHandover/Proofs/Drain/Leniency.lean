import DriverHandover.Proofs.Drain.Classes
import Mathlib.Data.List.Basic

/-!
# Lenient options

Two options let pods go that would block a drain. A drain with more of them set removes at least the
same pods: the only verdicts that depend on the options are refusals of the last two filters, and
what stands behind these never lets a pod stay without blocking.

## Main definitions

* `DrainOptions.AtMost` – options that allow at least what others allow.
* `Verdict.Eases` – how a verdict may change when more is allowed.

## Main statements

* `drainVerdict_eases` – what more options do to the verdict about a pod.
* `drainVerdict_of_waived` – no option counts for a pod that has ended, or beyond both options.
* `lenient_drains_remove_more` – what more options do to a selection.
-/

namespace DriverHandover

/-- What the first options allow is allowed by the second ones as well. -/
structure DrainOptions.AtMost (o o' : DrainOptions) : Prop where
  force : o.force → o'.force
  deleteLocalData : o.deleteLocalData → o'.deleteLocalData

namespace Verdict

/-- A refusal may give way to any verdict but a skip, and all other verdicts stay. -/
inductive Eases : Verdict → Verdict → Prop
  | same (v : Verdict) : Eases v v
  | refusal (message : String) {v : Verdict} : v.isSkip = false → Eases (refuse message) v

variable {u v w v' w' : Verdict}

theorem Eases.orElse_left (u : Verdict) (h : v.Eases w) : (u.orElse v).Eases (u.orElse w) := by
  cases u with
  | accept => exact h
  | skip reason => exact .same _
  | refuse message => exact .same _

/-- Filters one after the other: where the first refusal gives way, the second filter decides. -/
theorem Eases.orElse (h : v.Eases v') (hw : w.Eases w') (hskip : w'.isSkip = false) :
    (v.orElse w).Eases (v'.orElse w') := by
  cases h with
  | same => exact hw.orElse_left v
  | refusal message hv =>
    refine .refusal message ?_
    cases v' with
    | accept => exact hskip
    | skip reason => exact hv
    | refuse message' => rfl

/-- A filter that refuses in fewer cases eases the verdict. -/
theorem eases_ite {c c' : Prop} [Decidable c] [Decidable c'] (message : String) (h : c' → c) :
    (if c then refuse message else accept).Eases (if c' then refuse message else accept) := by
  by_cases hc : c
  · rw [if_pos hc]
    refine .refusal message ?_
    split <;> rfl
  · rw [if_neg hc, if_neg (mt h hc)]
    exact .same _

theorem Eases.accept_of_accept (h : v.Eases w) (hv : v = .accept) : w = .accept := by
  cases h with
  | same => exact hv
  | refusal => cases hv

theorem Eases.isRefusal_of_isRefusal (h : v.Eases w) (hw : w.isRefusal = true) :
    v.isRefusal = true := by
  cases h with
  | same => exact hw
  | refusal => rfl

end Verdict

section Options

variable {o o' : DrainOptions} {filter : Pod → Verdict} {p : Pod}

theorem Pod.managementVerdict_isSkip : (p.managementVerdict o).isSkip = false := by
  rw [managementVerdict]
  split <;> rfl

theorem Pod.storageVerdict_eases (h : o.AtMost o') :
    (p.storageVerdict o).Eases (p.storageVerdict o') :=
  Verdict.eases_ite _ fun ⟨huses, hruns, hkeeps⟩ =>
    ⟨huses, hruns, fun hgives => hkeeps (h.deleteLocalData hgives)⟩

theorem Pod.managementVerdict_eases (h : o.AtMost o') :
    (p.managementVerdict o).Eases (p.managementVerdict o') :=
  Verdict.eases_ite _ fun ⟨halone, hruns, hspares⟩ =>
    ⟨halone, hruns, fun hforces => hspares (h.force hforces)⟩

/-- More options ease the verdict about a pod. -/
theorem drainVerdict_eases (h : o.AtMost o') :
    (drainVerdict o filter p).Eases (drainVerdict o' filter p) := by
  have hlast := (p.storageVerdict_eases h).orElse (p.managementVerdict_eases h)
    p.managementVerdict_isSkip
  exact ((hlast.orElse_left p.mirrorVerdict).orElse_left p.daemonVerdict).orElse_left (filter p)

/-- Where both options are set, and for a pod that has ended, the last two filters accept. -/
theorem drainVerdict_of_waived (hstorage : p.isCompleted ∨ o.deleteLocalData)
    (hmanagement : p.isCompleted ∨ o.force) :
    drainVerdict o filter p = (filter p).orElse (p.daemonVerdict.orElse p.mirrorVerdict) := by
  have hstored : p.storageVerdict o = .accept :=
    if_neg fun ⟨_, hruns, hkeeps⟩ => hstorage.elim hruns hkeeps
  have hmanaged : p.managementVerdict o = .accept :=
    if_neg fun ⟨_, hruns, hspares⟩ => hmanagement.elim hruns hspares
  rw [drainVerdict, hstored, hmanaged]
  cases p.mirrorVerdict <;> rfl

/-- The standard filters before the last two refuse no pod. -/
theorem refuse_of_waived {message : String} (hstorage : o.deleteLocalData) (hmanagement : o.force) :
    drainVerdict o filter p = .refuse message ↔ filter p = .refuse message := by
  rw [drainVerdict_of_waived (.inr hstorage) (.inr hmanagement), Pod.daemonVerdict,
    Pod.mirrorVerdict]
  cases hcaller : filter p with
  | accept => cases p.isDaemon <;> cases p.isMirror <;> simp [Verdict.orElse]
  | skip reason => simp [Verdict.orElse]
  | refuse text => simp [Verdict.orElse]

end Options

/-- Of two sets of options let the second one allow whatever the first one does. For every caller's
filter and every list of pods, a drain with the second options removes the pods that a drain with
the first ones removes, skips exactly the same pods for the same reasons, and has only pods in its
way that were in the way before, all in the order of the list. A pod that has ended gets the same
verdict under all options, and where both options are set only the caller's filter refuses pods. -/
theorem lenient_drains_remove_more {o o' : DrainOptions} (h : o.AtMost o')
    (filter : Pod → Verdict) (pods : List Pod) :
    let s := select o filter pods
    let s' := select o' filter pods
    s.pods.Sublist s'.pods ∧ s.skipped = s'.skipped ∧
      (s'.refused.map (·.1)).Sublist (s.refused.map (·.1)) ∧
      (∀ p, p.phase = some "Succeeded" ∨ p.phase = some "Failed" →
        ∀ o₁ o₂, drainVerdict o₁ filter p = drainVerdict o₂ filter p) ∧
      ∀ o₁ : DrainOptions, o₁.force → o₁.deleteLocalData → ∀ p message,
        (p, message) ∈ (select o₁ filter pods).refused ↔ p ∈ pods ∧ filter p = .refuse message := by
  have heases (p : Pod) : (drainVerdict o filter p).Eases (drainVerdict o' filter p) :=
    drainVerdict_eases h
  refine ⟨?_, ?_, ?_, fun p hended o₁ o₂ => ?_, fun o₁ hforce hdelete p message => ?_⟩
  · refine List.monotone_filter_right pods fun p haccept => ?_
    exact decide_eq_true ((heases p).accept_of_accept (of_decide_eq_true haccept))
  · refine congrArg (List.filterMap · pods) (funext fun p => ?_)
    have hp := heases p
    generalize drainVerdict o filter p = v at hp
    generalize drainVerdict o' filter p = v' at hp
    cases hp with
    | same => rfl
    | refusal message hskip =>
      cases v' with
      | accept => rfl
      | skip reason => cases hskip
      | refuse message' => rfl
  · rw [select_refused_map_fst, select_refused_map_fst]
    exact List.monotone_filter_right pods fun p hrefused =>
      (heases p).isRefusal_of_isRefusal hrefused
  · rw [← Pod.isCompleted_iff] at hended
    rw [drainVerdict_of_waived (.inl hended) (.inl hended),
      drainVerdict_of_waived (.inl hended) (.inl hended)]
  · rw [mem_select_refused, refuse_of_waived hdelete hforce]

theorem notebook_goes_if_forced :
    let o := DrainOptions.default
    let o' := { o with force := true }
    let both := { o' with deleteLocalData := true }
    let keep (p : Pod) : Verdict := if p.name = "train" then .refuse "still training" else .accept
    let report := { Pod.alone "report" with phase := some "Failed" }
    o.AtMost o' ∧
      ((select o keep mixedNode).pods.Sublist (select o' keep mixedNode).pods ∧
        (select o keep mixedNode).pods.map Pod.name = ["report"] ∧
        (select o' keep mixedNode).pods.map Pod.name = ["notebook", "report"]) ∧
      ((select o keep mixedNode).refused.map (·.1.name) = ["train", "scratch", "notebook"] ∧
        (select o' keep mixedNode).refused.map (·.1.name) = ["train", "scratch"]) ∧
      (report.phase = some "Failed" ∧ drainVerdict o keep report = drainVerdict both keep report) ∧
      ((both.force ∧ both.deleteLocalData) ∧
        ¬ ∃ message, (Pod.scratch, message) ∈ (select both keep mixedNode).refused) := by
  intro o o' both keep report
  have hmore : o.AtMost o' := ⟨fun _ => rfl, id⟩
  obtain ⟨hpods, -, -, hended, hboth⟩ := lenient_drains_remove_more hmore keep mixedNode
  refine ⟨hmore, ⟨hpods, by decide +kernel, by decide +kernel⟩,
    ⟨by decide +kernel, by decide +kernel⟩, ⟨rfl, hended report (.inr rfl) o both⟩,
    ⟨rfl, rfl⟩, ?_⟩
  rintro ⟨message, hrefused⟩
  have hcaller := ((hboth both rfl rfl Pod.scratch message).1 hrefused).2
  have haccepted : keep Pod.scratch = .accept := by decide +kernel
  rw [haccepted] at hcaller
  cases hcaller

end DriverHandover
