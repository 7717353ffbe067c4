import DriverHandover.Label.Marker
import DriverHandover.Proofs.Text.Search

/-!
# Pausing and resuming clean values

Whatever a value is resumed to, it is resumed to the same when it has been paused before. A clean
value holds no marker and has no separator at its ends. Pausing such a value loses nothing: resuming
gives it back, whether it was paused or not.

## Main statements

* `Marker.markers_apart` – the markers of a text do not overlap.
* `Marker.strip_append_chars` – the first marker of a text goes, what is before it stays.
* `pause_pause` – a paused value is its own paused form.
* `resume_pause_eq_resume` – pausing a value does not change what it is resumed to.
* `Clean.resume_eq_self`, `Clean.resume_pause` – a clean value comes back.
-/

namespace DriverHandover

namespace Text

theorem trimEnds_eq_self {p : Char → Bool} {s : List Char} (hhead : ∀ c ∈ s.head?, p c = false)
    (hlast : ∀ c ∈ s.getLast?, p c = false) : trimEnds p s = s := by
  have hfirst : s.dropWhile p = s := by
    cases s with
    | nil => rfl
    | cons c rest => simp [hhead c rfl]
  have hrev : s.reverse.dropWhile p = s.reverse := by
    cases hs : s.reverse with
    | nil => rfl
    | cons c rest =>
      have hc : c ∈ s.getLast? := by rw [← List.head?_reverse, hs]; rfl
      simp [hlast c hc]
  rw [trimEnds, hfirst, hrev, List.reverse_reverse]

/-- A character of the class at the end changes nothing. -/
theorem trimEnds_append_singleton {p : Char → Bool} {s : List Char} {c : Char} (hc : p c = true) :
    trimEnds p (s ++ [c]) = trimEnds p s := by
  rw [trimEnds, trimEnds, List.dropWhile_append]
  cases hrest : s.dropWhile p with
  | nil => simp [hc]
  | cons first rest => simp [hc]

end Text

namespace Marker

/-- No proper end of the marker is also a start of it. -/
theorem chars_no_border :
    ∀ k < chars.length, 0 < k → chars.drop k ≠ chars.take (chars.length - k) := by
  decide

/-- The markers of a text do not overlap. -/
theorem markers_apart {s : List Char} {i j : Nat} (hij : i < j) (hi : chars <+: s.drop i)
    (hj : chars <+: s.drop j) : i + chars.length ≤ j := by
  apply Nat.le_of_not_lt
  intro hclose
  obtain ⟨tail, htail⟩ := hi
  have hrest : chars.drop (j - i) ++ tail = s.drop j := by
    rw [← List.drop_append_of_le_length (by omega), htail, List.drop_drop,
      Nat.add_sub_cancel' (Nat.le_of_lt hij)]
  -- An end of the earlier marker would be a start of the later one.
  have hprefix : chars.drop (j - i) <+: chars := by
    refine List.prefix_of_prefix_length_le ?_ hj (by simp)
    exact ⟨tail, hrest⟩
  have hborder := List.prefix_iff_eq_take.1 hprefix
  rw [List.length_drop] at hborder
  exact chars_no_border (j - i) (by omega) (by omega) hborder

theorem separator_not_mem_chars : separator ∉ chars := by
  decide

theorem chars_ne_nil : chars ≠ [] := by
  decide

/-- A text without a marker stays without one when a separator is put behind it. -/
theorem occurs_append_separator {s : List Char} (hs : Text.occurs chars s = false) :
    Text.occurs chars (s ++ [separator]) = false := by
  rw [Bool.eq_false_iff, ne_eq, Text.occurs_iff_infix] at hs ⊢
  rintro ⟨front, back, h⟩
  rcases List.eq_nil_or_concat back with rfl | ⟨back, last, rfl⟩
  · have hmem : separator ∈ chars := by
      obtain ⟨body, last, hchars⟩ := (List.eq_nil_or_concat chars).resolve_left chars_ne_nil
      rw [List.append_nil, hchars, List.concat_eq_append, ← List.append_assoc] at h
      have hlast : last = separator := by simpa using (List.append_inj' h rfl).2
      rw [hchars, hlast]
      simp
    exact separator_not_mem_chars hmem
  · rw [List.concat_eq_append, ← List.append_assoc] at h
    exact hs ⟨front, back, (List.append_inj' h rfl).1⟩

/-- Before the end of a text without a marker no marker starts, even if one follows the text. -/
theorem isPrefixOf_append_chars {s : List Char} (hs : Text.occurs chars s = false) (hne : s ≠ [])
    (rest : List Char) : chars.isPrefixOf (s ++ (chars ++ rest)) = false := by
  rw [Bool.eq_false_iff, ne_eq, List.isPrefixOf_iff_prefix]
  intro hprefix
  have hbehind : chars <+: (s ++ (chars ++ rest)).drop s.length := by
    rw [List.drop_left]
    exact List.prefix_append chars rest
  have hlength : 0 + chars.length ≤ s.length :=
    markers_apart (List.length_pos_iff.2 hne) hprefix hbehind
  have hinfix : chars <+: s :=
    List.prefix_of_prefix_length_le hprefix (List.prefix_append s _) (by omega)
  rw [Bool.eq_false_iff, ne_eq, Text.occurs_iff_infix] at hs
  exact hs hinfix.isInfix

theorem strip_nil : strip [] = [] := by
  rw [strip]

theorem strip_cons_of_unmarked {c : Char} {rest : List Char}
    (h : chars.isPrefixOf (c :: rest) = false) : strip (c :: rest) = c :: strip rest := by
  rw [strip, h]
  rfl

/-- A marker at the start of a text goes, together with one separator after it. -/
theorem strip_chars_append (rest : List Char) :
    strip (chars ++ rest) = strip (dropSeparator rest) := by
  have hprefix : chars.isPrefixOf (chars ++ rest) = true :=
    List.isPrefixOf_iff_prefix.2 (List.prefix_append chars rest)
  obtain ⟨first, others, hchars⟩ := List.exists_cons_of_ne_nil chars_ne_nil
  have hlen : chars.length - 1 = others.length := by rw [hchars]; rfl
  have hcons : chars ++ rest = first :: (others ++ rest) := by rw [hchars]; rfl
  rw [hcons] at hprefix ⊢
  rw [strip, if_pos hprefix, hlen, List.drop_left]

/-- A text without a marker has nothing to strip. -/
theorem strip_eq_self {s : List Char} (hs : Text.occurs chars s = false) : strip s = s := by
  induction s with
  | nil => exact strip_nil
  | cons c rest ih =>
    rw [Text.occurs, Bool.or_eq_false_iff] at hs
    rw [strip_cons_of_unmarked hs.1, ih hs.2]

/-- What is before the first marker of a text stays. -/
theorem strip_append_chars {s : List Char} (hs : Text.occurs chars s = false) (rest : List Char) :
    strip (s ++ (chars ++ rest)) = s ++ strip (dropSeparator rest) := by
  induction s with
  | nil => exact strip_chars_append rest
  | cons c tail ih =>
    have hfirst : chars.isPrefixOf (c :: (tail ++ (chars ++ rest))) = false :=
      isPrefixOf_append_chars hs (List.cons_ne_nil c tail) rest
    rw [Text.occurs, Bool.or_eq_false_iff] at hs
    rw [List.cons_append, strip_cons_of_unmarked hfirst, ih hs.2, List.cons_append]

end Marker

/-- A label value that pausing cannot confuse: no marker in it and no separator at its ends. -/
structure Clean (value : String) : Prop where
  unmarked : Marker.marks value = false
  head : value.toList.head? ≠ some Marker.separator
  last : value.toList.getLast? ≠ some Marker.separator

instance (value : String) : Decidable (Clean value) :=
  decidable_of_iff
    (Marker.marks value = false ∧ value.toList.head? ≠ some Marker.separator ∧
      value.toList.getLast? ≠ some Marker.separator)
    ⟨fun h => ⟨h.1, h.2.1, h.2.2⟩, fun h => ⟨h.unmarked, h.head, h.last⟩⟩

/-- A value that the marker was written behind. -/
def marked (value : String) : String :=
  value ++ String.singleton Marker.separator ++ Marker.text

theorem toList_marked (value : String) :
    (marked value).toList = value.toList ++ [Marker.separator] ++ Marker.chars := by
  simp [marked, Marker.chars]

theorem marks_marked (value : String) : Marker.marks (marked value) = true := by
  rw [Marker.marks, Text.occurs_iff_infix, toList_marked]
  exact (List.suffix_append _ _).isInfix

/-- A value is paused in one of three ways: it stays, or it becomes the bare marker, or the marker
is written behind it. -/
theorem pause_cases (value : String) :
    (value = "" ∨ value = "false" ∨ Marker.marks value = true) ∧ pause value = value ∨
      value = "true" ∧ pause value = Marker.text ∨
      (value ≠ "" ∧ value ≠ "false" ∧ Marker.marks value = false) ∧ pause value = marked value := by
  by_cases huser : value = "" ∨ value = "false"
  · refine .inl ⟨?_, by rw [pause, if_pos huser]⟩
    exact huser.imp_right .inl
  · by_cases htrue : value = "true"
    · exact .inr (.inl ⟨htrue, by rw [pause, if_neg huser, if_pos htrue]⟩)
    · rw [pause, if_neg huser, if_neg htrue]
      rw [not_or] at huser
      cases hmark : Marker.marks value with
      | true => exact .inl ⟨.inr (.inr rfl), rfl⟩
      | false => exact .inr (.inr ⟨⟨huser.1, huser.2, rfl⟩, rfl⟩)

theorem pause_empty : pause "" = "" := by
  rw [pause, if_pos (.inl rfl)]

theorem resume_empty : resume "" = "" := by
  decide +kernel

/-- A value that holds the marker is its own paused form. -/
theorem pause_of_marks {value : String} (h : Marker.marks value = true) : pause value = value := by
  rcases pause_cases value with ⟨-, hpause⟩ | ⟨rfl, -⟩ | ⟨⟨-, -, hclear⟩, -⟩
  · exact hpause
  · exact absurd h (by decide +kernel)
  · rw [h] at hclear
    cases hclear

/-- A paused value is its own paused form. -/
theorem pause_pause (value : String) : pause (pause value) = pause value := by
  rcases pause_cases value with ⟨-, hpause⟩ | ⟨-, hpause⟩ | ⟨-, hpause⟩
  · rw [hpause, hpause]
  · rw [hpause, pause_of_marks (by decide +kernel)]
  · rw [hpause, pause_of_marks (marks_marked value)]

theorem pause_eq_empty_iff {value : String} : pause value = "" ↔ value = "" := by
  constructor
  · intro h
    rcases pause_cases value with ⟨-, hpause⟩ | ⟨-, hpause⟩ | ⟨-, hpause⟩
    · rw [← hpause, h]
    · rw [hpause] at h
      exact absurd h (by decide +kernel)
    · have hmarks := marks_marked value
      rw [← hpause, h] at hmarks
      exact absurd hmarks (by decide +kernel)
  · rintro rfl
    rfl

/-- A value without a marker is resumed to what is left of it without separators at its ends. -/
theorem resume_of_unmarked {value : String} (h : Marker.marks value = false) :
    resume value = String.ofList (Text.trimEnds (· == Marker.separator) value.toList) := by
  have hne : value ≠ Marker.text := by
    rintro rfl
    exact absurd h (by decide +kernel)
  by_cases hfalse : value = "false"
  · subst hfalse
    decide +kernel
  · rw [resume, if_neg hfalse, if_neg hne, Marker.strip_eq_self h]

theorem marked_ne_text (value : String) : marked value ≠ Marker.text := by
  intro heq
  have hlen := congrArg (fun s => s.toList.length) heq
  simp only [toList_marked, List.length_append, List.length_singleton, Marker.chars] at hlen
  omega

/-- Only the separator is left of the marker that was written behind a value. -/
theorem strip_marked {value : String} (h : Marker.marks value = false) :
    Marker.strip (marked value).toList = value.toList ++ [Marker.separator] := by
  have hstrip := Marker.strip_append_chars (Marker.occurs_append_separator h) []
  rw [List.append_nil, Marker.dropSeparator, Marker.strip_nil, List.append_nil] at hstrip
  rw [toList_marked, hstrip]

/-- The separator that is left goes with those at the ends of the value. -/
theorem resume_marked {value : String} (h : Marker.marks value = false) :
    resume (marked value) = resume value := by
  have hfalse : marked value ≠ "false" := by
    intro heq
    have hmarks := marks_marked value
    rw [heq] at hmarks
    exact absurd hmarks (by decide +kernel)
  rw [resume, if_neg hfalse, if_neg (marked_ne_text value), strip_marked h,
    Text.trimEnds_append_singleton (by decide), resume_of_unmarked h]

/-- Pausing a value does not change what it is resumed to. -/
theorem resume_pause_eq_resume (value : String) : resume (pause value) = resume value := by
  rcases pause_cases value with ⟨-, hpause⟩ | ⟨rfl, hpause⟩ | ⟨⟨-, -, hclear⟩, hpause⟩
  · rw [hpause]
  · rw [hpause]
    decide +kernel
  · rw [hpause]
    exact resume_marked hclear

namespace Clean

variable {value : String}

theorem not_separator_head (h : Clean value) :
    ∀ c ∈ value.toList.head?, (c == Marker.separator) = false := by
  intro c hc
  rw [beq_eq_false_iff_ne]
  rintro rfl
  exact h.head hc

theorem not_separator_last (h : Clean value) :
    ∀ c ∈ value.toList.getLast?, (c == Marker.separator) = false := by
  intro c hc
  rw [beq_eq_false_iff_ne]
  rintro rfl
  exact h.last hc

/-- A clean value that is not paused is what it is resumed to. -/
theorem resume_eq_self (h : Clean value) : resume value = value := by
  rw [resume_of_unmarked h.unmarked,
    Text.trimEnds_eq_self h.not_separator_head h.not_separator_last, String.ofList_toList]

/-- A clean value comes back when it is resumed. -/
theorem resume_pause (h : Clean value) : resume (pause value) = value := by
  rw [resume_pause_eq_resume, h.resume_eq_self]

end Clean

end DriverHandover
