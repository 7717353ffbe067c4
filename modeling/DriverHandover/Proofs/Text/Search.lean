import DriverHandover.Text.Blank

/-!
# Looking for a text in another one

A text is cut where another one occurs in it for the first time.

## Main definitions

* `Text.cut?` – the text before and the text behind the first occurrence.

## Main statements

* `Text.occurs_iff_infix` – what occurs in a text is a contiguous part of it.
* `Text.cut?_eq_some_iff`, `Text.cut?_eq_none_iff` – where a text is cut, and when it is not.
-/

namespace DriverHandover.Text

/-- The text before and the text behind the first occurrence of `pattern`. -/
def cut? (pattern : List Char) : List Char → Option (List Char × List Char)
  | [] => (after? pattern []).map fun behind => ([], behind)
  | c :: rest =>
    match after? pattern (c :: rest) with
    | some behind => some ([], behind)
    | none => (cut? pattern rest).map fun (front, behind) => (c :: front, behind)

variable {pattern front behind s : List Char} {c : Char}

/-- `occurs` decides whether a text is a contiguous part of another one. -/
theorem occurs_iff_infix : occurs pattern s = true ↔ pattern <:+: s := by
  induction s with
  | nil => simp [occurs]
  | cons c rest ih =>
    rw [occurs, Bool.or_eq_true, List.isPrefixOf_iff_prefix, ih, List.infix_cons_iff]

theorem after?_eq_some_iff : after? pattern s = some behind ↔ s = pattern ++ behind := by
  rw [after?]
  split
  · rename_i hprefix
    rw [List.isPrefixOf_iff_prefix] at hprefix
    obtain ⟨tail, rfl⟩ := hprefix
    rw [List.drop_left, Option.some.injEq, List.append_cancel_left_eq]
  · rename_i hprefix
    rw [List.isPrefixOf_iff_prefix] at hprefix
    exact iff_of_false (by simp) fun heq => hprefix ⟨behind, heq.symm⟩

theorem after?_eq_none_iff : after? pattern s = none ↔ ¬ pattern <+: s := by
  rw [after?, ← List.isPrefixOf_iff_prefix]
  split <;> simp_all

theorem cut?_cons_of_matched (h : c :: s = pattern ++ behind) :
    cut? pattern (c :: s) = some ([], behind) := by
  rw [cut?, after?_eq_some_iff.2 h]

theorem cut?_cons_of_unmatched (h : ¬ pattern <+: c :: s) :
    cut? pattern (c :: s) = (cut? pattern s).map fun (front, behind) => (c :: front, behind) := by
  rw [cut?, after?_eq_none_iff.2 h]

theorem cut?_eq_none_iff : cut? pattern s = none ↔ ¬ pattern <:+: s := by
  induction s with
  | nil => rw [cut?, Option.map_eq_none_iff, after?_eq_none_iff, List.infix_nil, List.prefix_nil]
  | cons c rest ih =>
    by_cases hprefix : pattern <+: c :: rest
    · obtain ⟨behind, hbehind⟩ := hprefix
      rw [cut?_cons_of_matched hbehind.symm]
      exact iff_of_false (by simp) fun h => h ⟨[], behind, hbehind⟩
    · rw [cut?_cons_of_unmatched hprefix, Option.map_eq_none_iff, ih, List.infix_cons_iff,
        or_iff_right hprefix]

/-- A text is cut at an occurrence that none in front of it precedes. -/
theorem cut?_eq_some_iff :
    cut? pattern s = some (front, behind) ↔
      s = front ++ (pattern ++ behind) ∧ ∀ i < front.length, ¬ pattern <+: s.drop i := by
  induction s generalizing front with
  | nil =>
    rw [cut?, Option.map_eq_some_iff]
    simp only [after?_eq_some_iff, Prod.mk.injEq]
    constructor
    · rintro ⟨later, hlater, rfl, rfl⟩
      exact ⟨hlater, by simp⟩
    · rintro ⟨hsplit, -⟩
      obtain ⟨rfl, hrest⟩ := List.nil_eq_append_iff.1 hsplit
      exact ⟨behind, hrest.symm, rfl, rfl⟩
  | cons c rest ih =>
    by_cases hprefix : pattern <+: c :: rest
    · obtain ⟨later, hlater⟩ := hprefix
      rw [cut?_cons_of_matched hlater.symm, Option.some.injEq, Prod.mk.injEq]
      constructor
      · rintro ⟨rfl, rfl⟩
        exact ⟨hlater.symm, by simp⟩
      · rintro ⟨hsplit, hfirst⟩
        cases front with
        | nil => exact ⟨rfl, List.append_cancel_left (hlater.trans hsplit)⟩
        | cons d front => exact absurd ⟨later, hlater⟩ (hfirst 0 (by simp))
    · rw [cut?_cons_of_unmatched hprefix, Option.map_eq_some_iff]
      simp only [Prod.exists, Prod.mk.injEq]
      constructor
      · rintro ⟨tail, later, hcut, rfl, rfl⟩
        obtain ⟨rfl, hfirst⟩ := ih.1 hcut
        refine ⟨rfl, fun i hi => ?_⟩
        cases i with
        | zero => exact hprefix
        | succ i => exact hfirst i (Nat.lt_of_succ_lt_succ hi)
      · rintro ⟨hsplit, hfirst⟩
        cases front with
        | nil => exact absurd ⟨behind, hsplit.symm⟩ hprefix
        | cons d front =>
          obtain ⟨rfl, hrest⟩ := List.cons.inj hsplit
          refine ⟨front, behind, ih.2 ⟨hrest, fun i hi => ?_⟩, rfl, rfl⟩
          exact hfirst (i + 1) (Nat.succ_lt_succ hi)

end DriverHandover.Text
