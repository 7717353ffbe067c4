import DriverHandover.Proofs.Label.Pieces

/-!
# Taking markers out round by round

The markers of a value are looked for one by one. Each round keeps what stands in front of the next
marker and goes on behind it. Two markers never overlap, so the cuts between the pieces of a text
are found one after the other, whether or not a separator behind a marker is dropped on the way.

## Main definitions

* `Marker.Removal` – how far the removal of the markers has come.
* `Marker.Removal.round?` – one round of it.
* `Marker.Removal.Leaves` – how many rounds are made and what is left.

## Main statements

* `Marker.Pieces.unique` – a text has one way to be cut into pieces.
* `Marker.Removal.leaves_iff` – a round for each marker, and the pieces are left.
* `markers_taken_out` – what that says of values.
-/

namespace DriverHandover

namespace Marker

variable {first first' piece s : List Char} {rest rest' : List (List Char)}

theorem withMarkers_eq_intercalate (first : List Char) (rest : List (List Char)) :
    withMarkers first rest = chars.intercalate (first :: rest) := by
  induction rest generalizing first with
  | nil => rw [withMarkers, List.flatMap_nil, List.append_nil, List.intercalate_singleton]
  | cons piece rest ih =>
    rw [withMarkers_cons, ih, List.intercalate_cons_cons, List.append_assoc]

/-- A text is cut at the first marker behind a piece. -/
theorem cut?_append_chars (hs : ¬ chars <:+: s) (behind : List Char) :
    Text.cut? chars (s ++ (chars ++ behind)) = some (s, behind) := by
  refine Text.cut?_eq_some_iff.2 ⟨rfl, fun i hi => ?_⟩
  have hunmarked : ¬ chars <:+: s.drop i :=
    fun hinside => hs (hinside.trans (List.drop_suffix i s).isInfix)
  have hne : s.drop i ≠ [] := by
    rw [ne_eq, List.drop_eq_nil_iff]
    omega
  rw [List.drop_append_of_le_length (Nat.le_of_lt hi), ← List.isPrefixOf_iff_prefix,
    isPrefixOf_append_chars (occurs_eq_false_iff.2 hunmarked) hne]
  exact Bool.false_ne_true

namespace Pieces

theorem cut?_nil (h : Pieces first [] s) : Text.cut? chars s = none ∧ s = first := by
  have hs : s = first := by
    rw [h.eq_withMarkers, withMarkers, List.flatMap_nil, List.append_nil]
  rw [hs, Text.cut?_eq_none_iff]
  exact ⟨h.unmarked first List.mem_cons_self, rfl⟩

/-- The first cut leaves the first piece in front of it and the other ones behind it. -/
theorem cut?_cons (h : Pieces first (piece :: rest) s) :
    Text.cut? chars s = some (first, withMarkers piece rest) ∧
      Pieces piece rest (withMarkers piece rest) := by
  obtain ⟨hfirst, hrest⟩ := List.forall_mem_cons.1 h.unmarked
  rw [h.eq_withMarkers, withMarkers_cons]
  exact ⟨cut?_append_chars hfirst _, rfl, hrest⟩

/-- A separator at the start of a text is no part of a marker. -/
theorem dropSeparator (h : Pieces first rest s) :
    Pieces (dropSeparator first) rest (Marker.dropSeparator s) := by
  obtain ⟨hfirst, hrest⟩ := List.forall_mem_cons.1 h.unmarked
  refine ⟨?_, List.forall_mem_cons.2 ⟨unmarked_dropSeparator hfirst, hrest⟩⟩
  rw [h.eq_withMarkers, dropSeparator_withMarkers]

theorem unique (h : Pieces first rest s) (h' : Pieces first' rest' s) :
    first = first' ∧ rest = rest' := by
  -- on the pieces of one way: the first cut is the same in the other one
  induction rest generalizing first first' rest' s with
  | nil =>
    obtain ⟨hnone, hs⟩ := h.cut?_nil
    cases rest' with
    | nil => exact ⟨hs.symm.trans h'.cut?_nil.2, rfl⟩
    | cons piece' rest' =>
      rw [h'.cut?_cons.1] at hnone
      exact absurd hnone (by simp)
  | cons piece rest ih =>
    obtain ⟨hcut, hrest⟩ := h.cut?_cons
    cases rest' with
    | nil =>
      rw [h'.cut?_nil.1] at hcut
      exact absurd hcut (by simp)
    | cons piece' rest' =>
      obtain ⟨hcut', hrest'⟩ := h'.cut?_cons
      rw [hcut, Option.some.injEq, Prod.mk.injEq] at hcut'
      obtain ⟨rfl, hbehind⟩ := hcut'
      rw [← hbehind] at hrest'
      obtain ⟨rfl, rfl⟩ := ih hrest hrest'
      exact ⟨rfl, rfl⟩

end Pieces

/-- How far the removal of the markers has come: what is kept of the text so far, and what is still
to be looked through. -/
structure Removal where
  kept : List Char
  rest : List Char

namespace Removal

/-- One round: what stands in front of the next marker is kept, and the marker is dropped together
with one separator behind it. There is no round where no marker is found. -/
def round? (r : Removal) : Option Removal :=
  (Text.cut? chars r.rest).map fun (front, behind) => ⟨r.kept ++ front, dropSeparator behind⟩

/-- The removal ends after the given number of rounds and leaves the given text. -/
inductive Leaves : Removal → Nat → List Char → Prop
  | done {r : Removal} (h : r.round? = none) : Leaves r 0 (r.kept ++ r.rest)
  | round {r later : Removal} {rounds : Nat} {left : List Char} (h : r.round? = some later)
      (hlater : Leaves later rounds left) : Leaves r (rounds + 1) left

variable {r later : Removal} {rounds : Nat} {left : List Char}

theorem leaves_of_done (h : r.round? = none) :
    r.Leaves rounds left ↔ rounds = 0 ∧ left = r.kept ++ r.rest := by
  constructor
  · intro hleaves
    cases hleaves with
    | done => exact ⟨rfl, rfl⟩
    | round hround => exact absurd (h.symm.trans hround) (by simp)
  · rintro ⟨rfl, rfl⟩
    exact .done h

theorem leaves_of_round (h : r.round? = some later) :
    r.Leaves rounds left ↔ ∃ others, rounds = others + 1 ∧ later.Leaves others left := by
  constructor
  · intro hleaves
    cases hleaves with
    | done hdone => exact absurd (h.symm.trans hdone) (by simp)
    | round hround hlater =>
      obtain rfl := Option.some.inj (h.symm.trans hround)
      exact ⟨_, rfl, hlater⟩
  · rintro ⟨others, rfl, hlater⟩
    exact .round h hlater

/-- A round is made for each marker, and the pieces are left behind what was kept before. -/
theorem leaves_iff (h : Pieces first rest r.rest) :
    r.Leaves rounds left ↔
      rounds = rest.length ∧ left = r.kept ++ withoutMarkers first rest := by
  -- on the pieces: a round takes the first one and drops the separator of the next
  induction rest generalizing first r rounds with
  | nil =>
    obtain ⟨hnone, hs⟩ := h.cut?_nil
    have hdone : r.round? = none := by rw [round?, hnone, Option.map_none]
    rw [leaves_of_done hdone, hs, withoutMarkers, List.flatMap_nil, List.append_nil,
      List.length_nil]
  | cons piece rest ih =>
    obtain ⟨hcut, hrest⟩ := h.cut?_cons
    have hround : r.round? =
        some ⟨r.kept ++ first, Marker.dropSeparator (withMarkers piece rest)⟩ := by
      rw [round?, hcut, Option.map_some]
    rw [leaves_of_round hround, withoutMarkers_cons, ← List.append_assoc, List.length_cons]
    constructor
    · rintro ⟨others, rfl, hlater⟩
      obtain ⟨rfl, rfl⟩ := (ih hrest.dropSeparator).1 hlater
      exact ⟨rfl, rfl⟩
    · rintro ⟨rfl, rfl⟩
      exact ⟨_, rfl, (ih hrest.dropSeparator).2 ⟨rfl, rfl⟩⟩

end Removal

end Marker

/-- Texts without a marker that are joined by markers come apart again when the markers are taken
out: a round is made for each marker, and the texts are left, each but the first without one
separator at its start. Resuming the joined text trims the separators off the ends of what is left.
Since markers do not overlap, every text is joined in exactly one way. -/
theorem markers_taken_out :
    (∀ first rest, (∀ piece ∈ first :: rest, ¬ Marker.chars <:+: piece) →
      Marker.strip (Marker.chars.intercalate (first :: rest)) = Marker.withoutMarkers first rest ∧
      (∀ rounds left,
        Marker.Removal.Leaves ⟨[], Marker.chars.intercalate (first :: rest)⟩ rounds left ↔
          rounds = rest.length ∧ left = Marker.withoutMarkers first rest) ∧
      ∀ value : String, value.toList = Marker.chars.intercalate (first :: rest) →
        value ≠ "false" → value ≠ Marker.text →
        resume value = String.ofList
          (Text.trimEnds (· == Marker.separator) (Marker.withoutMarkers first rest))) ∧
    (∀ s : List Char, ∃! pieces : List Char × List (List Char),
      s = Marker.chars.intercalate (pieces.1 :: pieces.2) ∧
        ∀ piece ∈ pieces.1 :: pieces.2, ¬ Marker.chars <:+: piece) ∧
    ∀ (s : List Char) (i j : Nat), i < j → Marker.chars <+: s.drop i → Marker.chars <+: s.drop j →
      i + Marker.chars.length ≤ j := by
  simp only [← Marker.withMarkers_eq_intercalate]
  refine ⟨fun first rest hunmarked => ?_, fun s => ?_, fun s i j => Marker.markers_apart⟩
  · have hpieces : Marker.Pieces first rest (Marker.withMarkers first rest) := ⟨rfl, hunmarked⟩
    refine ⟨hpieces.strip_eq, fun rounds left => ?_, fun value hvalue hfalse htext => ?_⟩
    · rw [Marker.Removal.leaves_iff hpieces, List.nil_append]
    · rw [resume, if_neg hfalse, if_neg htext, hvalue, hpieces.strip_eq]
  · obtain ⟨first, rest, hpieces⟩ := Marker.exists_pieces s
    refine ⟨(first, rest), ⟨hpieces.eq_withMarkers, hpieces.unmarked⟩, ?_⟩
    rintro ⟨first', rest'⟩ ⟨hjoined, hunmarked⟩
    obtain ⟨rfl, rfl⟩ := hpieces.unique ⟨hjoined, hunmarked⟩
    rfl

/-- A value that was paused twice, with a separator between the markers and text behind them. -/
def twiceMarked : String := "x_paused-for-driver-upgrade_paused-for-driver-upgrade__y"

/-- Both markers are taken out of a value that was paused twice, each with one separator, and the
separators that are left inside of it stay. -/
theorem twice_marked_taken_out :
    (∀ piece ∈ ["x_".toList, ['_'], "__y".toList], ¬ Marker.chars <:+: piece) ∧
      Marker.strip twiceMarked.toList = "x__y".toList ∧
      Marker.Removal.Leaves ⟨[], twiceMarked.toList⟩ 2 "x__y".toList ∧
      resume twiceMarked = "x__y" ∧
      Marker.chars <+: twiceMarked.toList.drop 2 ∧ Marker.chars <+: twiceMarked.toList.drop 28 ∧
      2 + Marker.chars.length ≤ 28 := by
  have hunmarked : ∀ piece ∈ ["x_".toList, ['_'], "__y".toList], ¬ Marker.chars <:+: piece := by
    decide +kernel
  have hjoined : twiceMarked.toList =
      Marker.chars.intercalate ["x_".toList, ['_'], "__y".toList] := by
    decide +kernel
  have hfirst : Marker.chars <+: twiceMarked.toList.drop 2 := by decide +kernel
  have hsecond : Marker.chars <+: twiceMarked.toList.drop 28 := by decide +kernel
  obtain ⟨hpieces, -, hapart⟩ := markers_taken_out
  obtain ⟨hstrip, hleaves, hresume⟩ := hpieces "x_".toList [['_'], "__y".toList] hunmarked
  rw [← hjoined] at hstrip
  simp only [← hjoined] at hleaves
  refine ⟨hunmarked, hstrip, (hleaves _ _).2 ⟨rfl, rfl⟩, ?_, hfirst, hsecond,
    hapart _ 2 28 (by decide) hfirst hsecond⟩
  exact hresume twiceMarked hjoined (by decide) (by decide)

end DriverHandover
