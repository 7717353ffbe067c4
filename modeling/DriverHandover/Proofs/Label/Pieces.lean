import DriverHandover.Proofs.Label.Codec
import Mathlib.Logic.Function.Iterate

/-!
# What is left of a value that is resumed

The markers of a value are taken out in one pass from its start to its end. What stood before and
behind a marker meets then, and a new marker may come about there, which the pass does not see. That
cannot happen to a value that was paused, because of the separator in front of the marker.

## Main definitions

* `Marker.Pieces` – the pieces of a text between its markers.
* `Marker.withMarkers`, `Marker.withoutMarkers` – the pieces with the markers and without them.
* `Marker.Closed` – a piece that makes up no marker with what is put behind it.

## Main statements

* `Marker.exists_pieces` – every text has its pieces.
* `Marker.Pieces.strip_eq` – taking out the markers leaves the pieces.
* `resume_resume_eq_iff` – resuming twice is the same as once exactly if no marker is left.
* `marker_left_iff_joined` – when a marker is left of a value.
-/

namespace DriverHandover

namespace Text

variable {p : Char → Bool} {pattern s : List Char}

theorem prefix_of_prefix_append_cons {c : Char} {rest : List Char} (hc : c ∉ pattern)
    (h : pattern <+: s ++ c :: rest) : pattern <+: s := by
  induction s generalizing pattern with
  | nil =>
    cases pattern with
    | nil => exact List.prefix_rfl
    | cons first others =>
      have hfirst : first = c := (List.cons_prefix_cons.1 h).1
      exact absurd (hfirst ▸ List.mem_cons_self) hc
  | cons a s ih =>
    cases pattern with
    | nil => exact List.nil_prefix
    | cons first others =>
      obtain ⟨rfl, hothers⟩ := List.cons_prefix_cons.1 h
      exact List.cons_prefix_cons.2 ⟨rfl, ih (fun hmem => hc (List.mem_cons_of_mem _ hmem)) hothers⟩

/-- A part of a text in which a character of the text does not occur stands on one side of it. -/
theorem infix_append_cons {c : Char} {rest : List Char} (hc : c ∉ pattern)
    (h : pattern <:+: s ++ c :: rest) : pattern <:+: s ∨ pattern <:+: rest := by
  induction s with
  | nil =>
    rcases List.infix_cons_iff.1 h with hstart | hinside
    · exact .inl (prefix_of_prefix_append_cons (s := []) hc hstart).isInfix
    · exact .inr hinside
  | cons a s ih =>
    rcases List.infix_cons_iff.1 h with hstart | hinside
    · exact .inl (prefix_of_prefix_append_cons (s := a :: s) hc hstart).isInfix
    · exact (ih hinside).imp_left fun h => List.infix_cons h

theorem infix_dropWhile_iff (hne : pattern ≠ []) (h : ∀ c ∈ pattern, p c = false) :
    pattern <:+: s.dropWhile p ↔ pattern <:+: s := by
  induction s with
  | nil => rfl
  | cons c rest ih =>
    rw [List.dropWhile_cons]
    split
    · rename_i hc
      have hnot : c ∉ pattern := fun hmem => Bool.false_ne_true ((h c hmem).symm.trans hc)
      rw [ih, List.infix_cons_iff, or_iff_right]
      intro hstart
      exact hne (List.prefix_nil.1 (prefix_of_prefix_append_cons (s := []) hnot hstart))
    · rfl

/-- Taking characters off the ends of a text takes away no part in which they do not occur. -/
theorem infix_trimEnds_iff (hne : pattern ≠ []) (h : ∀ c ∈ pattern, p c = false) :
    pattern <:+: trimEnds p s ↔ pattern <:+: s := by
  rw [trimEnds, ← List.reverse_infix, List.reverse_reverse,
    infix_dropWhile_iff (by simpa using hne) (by simpa using h), List.reverse_infix,
    infix_dropWhile_iff hne h]

theorem trimEnds_trimEnds (p : Char → Bool) (s : List Char) :
    trimEnds p (trimEnds p s) = trimEnds p s := by
  have hstart : trimEnds p s <+: s.dropWhile p := by
    rw [trimEnds, ← List.reverse_suffix, List.reverse_reverse]
    exact List.dropWhile_suffix p
  apply trimEnds_eq_self
  · intro c hc
    obtain ⟨tail, htail⟩ := hstart
    have hhead := List.head?_dropWhile_not p s
    rw [← htail, List.head?_append, hc] at hhead
    exact hhead
  · intro c hc
    rw [trimEnds, List.getLast?_reverse] at hc
    have hhead := List.head?_dropWhile_not p (s.dropWhile p).reverse
    rw [hc] at hhead
    exact hhead

end Text

namespace Marker

theorem occurs_eq_false_iff {s : List Char} :
    Text.occurs chars s = false ↔ ¬ chars <:+: s := by
  rw [← Text.occurs_iff_infix, Bool.not_eq_true]

/-- The text of given pieces, with a marker in front of each piece but the first. -/
def withMarkers (first : List Char) (rest : List (List Char)) : List Char :=
  first ++ rest.flatMap (chars ++ ·)

/-- The pieces alone, without one separator at the start of each piece but the first. -/
def withoutMarkers (first : List Char) (rest : List (List Char)) : List Char :=
  first ++ rest.flatMap dropSeparator

/-- The pieces of a text that stand before, between and after its markers. -/
structure Pieces (first : List Char) (rest : List (List Char)) (s : List Char) : Prop where
  eq_withMarkers : s = withMarkers first rest
  unmarked : ∀ piece ∈ first :: rest, ¬ chars <:+: piece

variable {first piece s : List Char} {rest : List (List Char)}

theorem withMarkers_cons (first piece : List Char) (rest : List (List Char)) :
    withMarkers first (piece :: rest) = first ++ (chars ++ withMarkers piece rest) := by
  simp [withMarkers]

theorem withoutMarkers_cons (first piece : List Char) (rest : List (List Char)) :
    withoutMarkers first (piece :: rest) =
      first ++ withoutMarkers (dropSeparator piece) rest := by
  simp [withoutMarkers]

theorem exists_pieces (s : List Char) : ∃ first rest, Pieces first rest s := by
  -- on the length, because the text behind a marker is no tail of the text
  induction hlength : s.length using Nat.strongRecOn generalizing s with
  | ind n ih =>
    by_cases hmarked : chars <+: s
    · obtain ⟨later, rfl⟩ := hmarked
      have hchars := List.length_pos_iff.2 chars_ne_nil
      rw [List.length_append] at hlength
      obtain ⟨first, rest, hpieces⟩ := ih later.length (by omega) later rfl
      refine ⟨[], first :: rest, ?_, ?_⟩
      · rw [withMarkers_cons, ← hpieces.eq_withMarkers, List.nil_append]
      · exact List.forall_mem_cons.2 ⟨by decide, hpieces.unmarked⟩
    · cases s with
      | nil => exact ⟨[], [], rfl, List.forall_mem_singleton.2 (by decide)⟩
      | cons c tail =>
        rw [List.length_cons] at hlength
        obtain ⟨first, rest, hpieces⟩ := ih tail.length (by omega) tail rfl
        obtain ⟨hfirst, hrest⟩ := List.forall_mem_cons.1 hpieces.unmarked
        have htail := hpieces.eq_withMarkers
        refine ⟨c :: first, rest, by rw [htail]; rfl, List.forall_mem_cons.2 ⟨?_, hrest⟩⟩
        rw [List.infix_cons_iff]
        rintro (hstart | hinside)
        · rw [htail] at hmarked
          exact hmarked (hstart.trans (List.prefix_append (c :: first) _))
        · exact hfirst hinside

theorem dropSeparator_suffix (s : List Char) : dropSeparator s <:+ s := by
  cases s with
  | nil => exact List.suffix_rfl
  | cons c rest =>
    rw [dropSeparator]
    split
    · exact List.suffix_cons c rest
    · exact List.suffix_rfl

/-- Dropping a separator makes no marker. -/
theorem unmarked_dropSeparator (h : ¬ chars <:+: s) : ¬ chars <:+: dropSeparator s :=
  fun hinside => h (hinside.trans (dropSeparator_suffix s).isInfix)

theorem dropSeparator_withMarkers (piece : List Char) (rest : List (List Char)) :
    dropSeparator (withMarkers piece rest) = withMarkers (dropSeparator piece) rest := by
  cases piece with
  | cons c tail =>
    simp only [withMarkers, List.cons_append, dropSeparator]
    split <;> rfl
  | nil =>
    cases rest with
    | nil => rfl
    | cons next later => rfl

/-- What is left of a text without its markers are its pieces. -/
theorem Pieces.strip_eq (h : Pieces first rest s) : strip s = withoutMarkers first rest := by
  obtain ⟨rfl, hunmarked⟩ := h
  induction rest generalizing first with
  | nil =>
    obtain ⟨hfirst, -⟩ := List.forall_mem_cons.1 hunmarked
    simp only [withMarkers, withoutMarkers, List.flatMap_nil, List.append_nil]
    exact strip_eq_self (occurs_eq_false_iff.2 hfirst)
  | cons piece rest ih =>
    obtain ⟨hfirst, hrest⟩ := List.forall_mem_cons.1 hunmarked
    obtain ⟨hpiece, hrest⟩ := List.forall_mem_cons.1 hrest
    rw [withMarkers_cons, strip_append_chars (occurs_eq_false_iff.2 hfirst),
      dropSeparator_withMarkers,
      ih (List.forall_mem_cons.2 ⟨unmarked_dropSeparator hpiece, hrest⟩), withoutMarkers_cons]

/-- A piece that is empty or has a separator at its end, so that it makes up no marker with what is
put behind it. -/
def Closed (piece : List Char) : Prop :=
  piece = [] ∨ piece.getLast? = some separator

theorem Closed.dropSeparator (h : Closed piece) : Closed (dropSeparator piece) := by
  rcases h with rfl | hlast
  · exact .inl rfl
  · cases piece with
    | nil => exact .inl rfl
    | cons c rest =>
      rw [Marker.dropSeparator]
      split
      · cases rest with
        | nil => exact .inl rfl
        | cons d rest => exact .inr (by rwa [List.getLast?_cons_cons] at hlast)
      · exact .inr hlast

theorem Closed.unmarked_append {later : List Char} (h : Closed piece)
    (hpiece : ¬ chars <:+: piece) (hlater : ¬ chars <:+: later) :
    ¬ chars <:+: piece ++ later := by
  rcases h with rfl | hlast
  · exact hlater
  · obtain ⟨front, rfl⟩ := List.getLast?_eq_some_iff.1 hlast
    intro hjoined
    rw [List.append_assoc] at hjoined
    rcases Text.infix_append_cons separator_not_mem_chars hjoined with hfront | hbehind
    · exact hpiece (hfront.trans (List.prefix_append front _).isInfix)
    · exact hlater hbehind

/-- Where every piece in front of a marker is closed, no marker comes about when the markers are
taken out. -/
theorem unmarked_withoutMarkers (hunmarked : ∀ piece ∈ first :: rest, ¬ chars <:+: piece)
    (hclosed : ∀ piece ∈ (first :: rest).dropLast, Closed piece) :
    ¬ chars <:+: withoutMarkers first rest := by
  induction rest generalizing first with
  | nil =>
    rw [withoutMarkers, List.flatMap_nil, List.append_nil]
    exact hunmarked first List.mem_cons_self
  | cons piece rest ih =>
    obtain ⟨hfirst, hrest⟩ := List.forall_mem_cons.1 hunmarked
    obtain ⟨hpiece, hrest⟩ := List.forall_mem_cons.1 hrest
    rw [List.dropLast_cons_cons, List.forall_mem_cons] at hclosed
    rw [withoutMarkers_cons]
    refine hclosed.1.unmarked_append hfirst
      (ih (List.forall_mem_cons.2 ⟨unmarked_dropSeparator hpiece, hrest⟩) ?_)
    cases rest with
    | nil => exact List.forall_mem_nil _
    | cons next rest =>
      rw [List.dropLast_cons_cons, List.forall_mem_cons] at hclosed ⊢
      exact ⟨hclosed.2.1.dropSeparator, hclosed.2.2⟩

end Marker

/-- Trimming the ends neither makes nor takes a marker, so a resumed value holds one exactly if the
text without its markers does. -/
theorem marks_resume_iff (value : String) :
    Marker.marks (resume value) = true ↔ Marker.chars <:+: Marker.strip value.toList := by
  by_cases hfalse : value = "false"
  · subst hfalse
    rw [Marker.strip_eq_self (by decide +kernel), ← Text.occurs_iff_infix]
    decide +kernel
  · by_cases htext : value = Marker.text
    · subst htext
      have hstrip : Marker.strip Marker.text.toList = [] := by
        have hchars := Marker.strip_chars_append []
        rwa [List.append_nil, Marker.dropSeparator, Marker.strip_nil] at hchars
      rw [hstrip]
      decide +kernel
    · have hclear : ∀ c ∈ Marker.chars, (c == Marker.separator) = false := fun c hc =>
        beq_false_of_ne fun heq => Marker.separator_not_mem_chars (heq ▸ hc)
      rw [resume, if_neg hfalse, if_neg htext, Marker.marks, Text.occurs_iff_infix,
        String.toList_ofList, Text.infix_trimEnds_iff Marker.chars_ne_nil hclear]

/-- No separator is at the ends of a resumed value. -/
theorem resume_ends (value : String) :
    (resume value).toList.head? ≠ some Marker.separator ∧
      (resume value).toList.getLast? ≠ some Marker.separator := by
  by_cases hfalse : value = "false"
  · subst hfalse
    decide +kernel
  · by_cases htext : value = Marker.text
    · subst htext
      decide +kernel
    · rw [resume, if_neg hfalse, if_neg htext, String.toList_ofList]
      obtain ⟨hhead, hlast⟩ := Text.ends_of_trimEnds_eq_self
        (Text.trimEnds_trimEnds (· == Marker.separator) (Marker.strip value.toList))
      exact ⟨fun hc => absurd (hhead _ hc) (by decide), fun hc => absurd (hlast _ hc) (by decide)⟩

/-- Resuming a second time changes nothing exactly if no marker is left. -/
theorem resume_resume_eq_iff (value : String) :
    resume (resume value) = resume value ↔ Marker.marks (resume value) = false := by
  obtain ⟨hhead, hlast⟩ := resume_ends value
  exact ⟨fun h => (Clean.of_resume_eq_self h).unmarked,
    fun h => Clean.resume_eq_self ⟨h, hhead, hlast⟩⟩

/-- A marked value loses the length of a marker when it is resumed, unless it is the bare marker. -/
theorem resume_length_add_le {value : String} (hmarks : Marker.marks value = true)
    (htext : value ≠ Marker.text) :
    (resume value).toList.length + Marker.chars.length ≤ value.toList.length := by
  have hfalse : value ≠ "false" := by
    rintro rfl
    exact absurd hmarks (by decide +kernel)
  have hstrip := Marker.strip_length_add_le hmarks
  have htrim := Text.trimEnds_length_le (· == Marker.separator) (Marker.strip value.toList)
  rw [resume, if_neg hfalse, if_neg htext, String.toList_ofList]
  omega

/-- No marker is left of a value that is resumed often enough. -/
theorem exists_resumed_unmarked (value : String) :
    ∃ times ≤ value.toList.length / Marker.chars.length,
      Marker.marks (resume^[times] value) = false := by
  induction hlength : value.toList.length using Nat.strongRecOn generalizing value with
  | ind n ih =>
    cases hmarks : Marker.marks value with
    | false => exact ⟨0, Nat.zero_le _, hmarks⟩
    | true =>
      have hpos : 0 < Marker.chars.length := List.length_pos_iff.2 Marker.chars_ne_nil
      by_cases htext : value = Marker.text
      · subst htext
        exact ⟨1, hlength ▸ Nat.div_pos (Nat.le_refl _) hpos, by decide +kernel⟩
      · have hshort := resume_length_add_le hmarks htext
        rw [hlength] at hshort
        obtain ⟨times, htimes, hclear⟩ := ih _ (by omega) (resume value) rfl
        refine ⟨times + 1, ?_, hclear⟩
        calc times + 1
          _ ≤ (resume value).toList.length / Marker.chars.length + 1 := Nat.succ_le_succ htimes
          _ = ((resume value).toList.length + Marker.chars.length) / Marker.chars.length :=
            (Nat.add_div_right _ hpos).symm
          _ ≤ n / Marker.chars.length := Nat.div_le_div_right hshort

theorem marks_eq_true_iff {value : String} :
    Marker.marks value = true ↔ Marker.chars <:+: value.toList :=
  Text.occurs_iff_infix

/-- Every value is cut by its markers into pieces without one. Resuming takes the markers out and
joins the pieces, so a marker is left exactly if one comes about where they meet; none does if every
piece in front of a marker is empty or has a separator at its end, as in a value that was paused
while it held no marker. Resuming a second time changes nothing exactly if no marker is left the
first time. Each further time takes a marker away, so none is left in the end. -/
theorem marker_left_iff_joined (value : String) :
    (∃ first rest, Marker.Pieces first rest value.toList) ∧
    (∀ first rest, Marker.Pieces first rest value.toList →
      (Marker.chars <:+: (resume value).toList ↔
        Marker.chars <:+: Marker.withoutMarkers first rest) ∧
      ((∀ piece ∈ (first :: rest).dropLast, Marker.Closed piece) →
        ¬ Marker.chars <:+: (resume value).toList)) ∧
    (resume (resume value) = resume value ↔ ¬ Marker.chars <:+: (resume value).toList) ∧
    (¬ Marker.chars <:+: value.toList → ¬ Marker.chars <:+: (resume (pause value)).toList) ∧
    ∃ times ≤ value.toList.length / Marker.chars.length,
      ¬ Marker.chars <:+: (resume^[times] value).toList := by
  refine ⟨Marker.exists_pieces _, fun first rest hpieces => ?_, ?_, fun hclear => ?_, ?_⟩
  · have hleft : Marker.chars <:+: (resume value).toList ↔
        Marker.chars <:+: Marker.withoutMarkers first rest := by
      rw [← marks_eq_true_iff, marks_resume_iff, hpieces.strip_eq]
    refine ⟨hleft, fun hclosed => ?_⟩
    rw [hleft]
    exact Marker.unmarked_withoutMarkers hpieces.unmarked hclosed
  · rw [resume_resume_eq_iff, marks_eq_false_iff]
  · rw [resume_pause_eq_resume, ← marks_eq_true_iff, marks_resume_iff,
      Marker.strip_eq_self (Marker.occurs_eq_false_iff.2 hclear)]
    exact hclear
  · obtain ⟨times, htimes, hclear⟩ := exists_resumed_unmarked value
    exact ⟨times, htimes, marks_eq_false_iff.1 hclear⟩

/-- A marker with another one in it. -/
def nestedMarker : String := "paused-for-driver-paused-for-driver-upgradeupgrade"

/-- The pieces of one marker meet where another one is taken out, while a separator keeps the pieces
of a paused value apart. -/
theorem nested_marker_joined :
    Marker.Pieces "paused-for-driver-".toList ["upgrade".toList] nestedMarker.toList ∧
      Marker.chars <:+: (resume nestedMarker).toList ∧
      Marker.Pieces "custom_".toList [[]] "custom_paused-for-driver-upgrade".toList ∧
      ¬ Marker.chars <:+: (resume "custom_paused-for-driver-upgrade").toList ∧
      ¬ Marker.chars <:+: (resume (pause "custom")).toList := by
  have hnested : Marker.Pieces "paused-for-driver-".toList ["upgrade".toList]
      nestedMarker.toList := ⟨by decide +kernel, by decide +kernel⟩
  have hpaused : Marker.Pieces "custom_".toList [[]] "custom_paused-for-driver-upgrade".toList :=
    ⟨by decide +kernel, by decide +kernel⟩
  have hcustom : ¬ Marker.chars <:+: "custom".toList := by decide +kernel
  obtain ⟨-, hpieces, -⟩ := marker_left_iff_joined nestedMarker
  obtain ⟨-, hpieces', -⟩ := marker_left_iff_joined "custom_paused-for-driver-upgrade"
  obtain ⟨-, -, -, hunmarked, -⟩ := marker_left_iff_joined "custom"
  refine ⟨hnested, (hpieces _ _ hnested).1.2 (by decide +kernel), hpaused, ?_, hunmarked hcustom⟩
  exact (hpieces' _ _ hpaused).2 (List.forall_mem_singleton.2 (.inr (by decide +kernel)))

/-- A marker may be left of a value, even of one that a label can have. -/
theorem nested_marker_left :
    IsLabelValue nestedMarker ∧
      ¬ ∀ value, ¬ Marker.chars <:+: (resume value).toList ∧
        resume (resume value) = resume value := by
  refine ⟨by constructor <;> simp [nestedMarker], fun h => ?_⟩
  have hresumed : resume nestedMarker = Marker.text := by decide +kernel
  obtain ⟨hunmarked, -⟩ := h nestedMarker
  rw [hresumed] at hunmarked
  exact hunmarked List.infix_rfl

end DriverHandover
