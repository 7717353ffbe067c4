import DriverHandover.Label.Map

/-!
# Label maps through their values

A label map is known when the value under each key is known.

## Main statements

* `LabelMap.ext_get?` – two maps with the same values are equal.
* `LabelMap.get?_ofList_of_graph` – a map whose values are computed from their keys.
* `LabelMap.overlay_overlay_of_covers` – a later write hides an earlier one.
-/

namespace DriverHandover

theorem lookup_eq_none_of_lt {key : String} {entries : List (String × String)}
    (h : ∀ e ∈ entries, key < e.1) : entries.lookup key = none := by
  rw [List.lookup_eq_none_iff]
  intro e he
  simpa using fun heq : key = e.1 => String.lt_irrefl _ (heq ▸ h e he)

theorem lookup_cons_ne {key : String} {e : String × String} (h : key ≠ e.1)
    (entries : List (String × String)) : (e :: entries).lookup key = entries.lookup key := by
  rw [List.lookup_cons, beq_false_of_ne h]

theorem lookup_cons_eq (e : String × String) (entries : List (String × String)) :
    (e :: entries).lookup e.1 = some e.2 := by
  rw [List.lookup_cons, BEq.rfl]

/-- The first entry of an ascending list is first in every list with the same values. -/
theorem Ascending.not_lt_head {e f : String × String} {xs ys : List (String × String)}
    (hf : Ascending (f :: ys)) (h : ∀ k, (e :: xs).lookup k = (f :: ys).lookup k) :
    ¬e.1 < f.1 := by
  intro hlt
  have hnone : (f :: ys).lookup e.1 = none := by
    refine lookup_eq_none_of_lt fun g hg => ?_
    rcases List.mem_cons.1 hg with rfl | hg
    · exact hlt
    · exact String.lt_trans hlt ((List.pairwise_cons.1 hf).1 g hg)
  have hsome := h e.1
  rw [lookup_cons_eq, hnone] at hsome
  cases hsome

theorem Ascending.eq_of_lookup_eq {xs ys : List (String × String)} (hxs : Ascending xs)
    (hys : Ascending ys) (h : ∀ k, xs.lookup k = ys.lookup k) : xs = ys := by
  induction xs generalizing ys with
  | nil =>
    cases ys with
    | nil => rfl
    | cons f ys =>
      have hf := h f.1
      rw [lookup_cons_eq] at hf
      cases hf
  | cons e xs ih =>
    cases ys with
    | nil =>
      have he := h e.1
      rw [lookup_cons_eq] at he
      cases he
    | cons f ys =>
      have hkey : e.1 = f.1 :=
        String.le_antisymm (String.not_lt.1 (hxs.not_lt_head fun k => (h k).symm))
          (String.not_lt.1 (hys.not_lt_head h))
      have hvalue : e.2 = f.2 := by
        have he := h e.1
        rw [lookup_cons_eq, hkey, lookup_cons_eq] at he
        exact Option.some.inj he
      obtain ⟨hbelow, htail⟩ := List.pairwise_cons.1 hxs
      obtain ⟨hbelow', htail'⟩ := List.pairwise_cons.1 hys
      have hrest : xs = ys := by
        refine ih htail htail' fun k => ?_
        by_cases hk : k = e.1
        · rw [hk, lookup_eq_none_of_lt hbelow, hkey, lookup_eq_none_of_lt hbelow']
        · have hall := h k
          rwa [lookup_cons_ne hk, lookup_cons_ne (hkey ▸ hk)] at hall
      rw [Prod.ext hkey hvalue, hrest]

namespace LabelMap

/-- Two maps with the same values are equal. -/
theorem ext_get? {m m' : LabelMap} (h : ∀ k, m.get? k = m'.get? k) : m = m' := by
  obtain ⟨entries, hentries⟩ := m
  obtain ⟨entries', hentries'⟩ := m'
  have heq : entries = entries' := hentries.eq_of_lookup_eq hentries' h
  subst heq
  rfl

/-- A map of entries whose values are computed from their keys holds under each of the keys the
computed value, in whatever order the entries come and however often they are repeated. -/
theorem get?_ofList_of_graph {entries : List (String × String)} {g : String → String}
    (h : ∀ e ∈ entries, e.2 = g e.1) (k : String) :
    (ofList entries).get? k = if k ∈ entries.map Prod.fst then some (g k) else none := by
  -- over any map, because the fold starts each time from what it has written so far
  have hfold : ∀ (es : List (String × String)) (m : LabelMap), (∀ e ∈ es, e.2 = g e.1) →
      (es.foldl (fun m e => m.insert e.1 e.2) m).get? k =
        if k ∈ es.map Prod.fst then some (g k) else m.get? k := by
    intro es
    induction es with
    | nil => intro m _; simp
    | cons e es ih =>
      intro m hes
      have hvalue := hes e List.mem_cons_self
      rw [List.foldl_cons, ih _ fun f hf => hes f (List.mem_cons_of_mem e hf), get?_insert]
      by_cases hk : k = e.1
      · subst hk
        simp [hvalue]
      · have hmem : k ∈ (e :: es).map Prod.fst ↔ k ∈ es.map Prod.fst := by
          rw [List.map_cons, List.mem_cons, or_iff_right hk]
        simp only [if_neg hk, hmem]
  rw [ofList, hfold entries empty h, get?_empty]

theorem getD_overlay_of_some {lower upper : LabelMap} {k v : String} (h : upper.get? k = some v) :
    (lower.overlay upper).getD k = v := by
  rw [getD, get?_overlay, h]
  rfl

theorem getD_overlay_of_none {lower upper : LabelMap} {k : String} (h : upper.get? k = none) :
    (lower.overlay upper).getD k = lower.getD k := by
  rw [getD, get?_overlay, h]
  rfl

/-- A map that is written over another one hides what it was written over before, if it has a value
wherever the earlier one has one. -/
theorem overlay_overlay_of_covers {lower first second : LabelMap}
    (h : ∀ k, second.get? k = none → first.get? k = none) :
    (lower.overlay first).overlay second = lower.overlay second := by
  refine ext_get? fun k => ?_
  rw [get?_overlay, get?_overlay, get?_overlay]
  cases hk : second.get? k with
  | none => rw [h k hk]; rfl
  | some v => rfl

end LabelMap

end DriverHandover
