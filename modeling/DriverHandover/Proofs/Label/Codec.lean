import DriverHandover.Proofs.Label.Marker

/-!
# Pausing and resuming any value

A value comes back from its paused form exactly if it is clean. A marker in it would be taken for
one that was written when it was paused, and separators at its ends for the one in front of the
marker. A label of a node has a letter or a digit at both ends of its value, so only the marker
matters there.

## Main definitions

* `IsLabelValue` – the values that a label can have.

## Main statements

* `Clean.of_resume_eq_self` – a value that is resumed to itself is clean.
* `eq_of_pause_eq` – pausing tells values without a marker apart.
* `label_codec_laws` – what holds of pausing and resuming for every value.
-/

namespace DriverHandover

namespace Text

variable {p : Char → Bool} {s : List Char}

theorem trimEnds_length_le (p : Char → Bool) (s : List Char) :
    (trimEnds p s).length ≤ s.length := by
  have hfront := dropWhile_length_le p s
  have hback := dropWhile_length_le p (s.dropWhile p).reverse
  rw [List.length_reverse] at hback
  rw [trimEnds, List.length_reverse]
  omega

/-- A text from which nothing is taken off has no character of the class at its ends. -/
theorem ends_of_trimEnds_eq_self (h : trimEnds p s = s) :
    (∀ c ∈ s.head?, p c = false) ∧ ∀ c ∈ s.getLast?, p c = false := by
  have hlen := congrArg List.length h
  have hback := dropWhile_length_le p (s.dropWhile p).reverse
  rw [List.length_reverse] at hback
  rw [trimEnds, List.length_reverse] at hlen
  have hfront : s.dropWhile p = s := (List.dropWhile_suffix p).eq_of_length_le (by omega)
  have hrev : s.reverse.dropWhile p = s.reverse := by
    rw [trimEnds, hfront] at h
    exact List.reverse_eq_iff.1 h
  constructor
  · intro c hc
    have hhead := List.head?_dropWhile_not p s
    rw [hfront, hc] at hhead
    exact hhead
  · intro c hc
    have hhead := List.head?_dropWhile_not p s.reverse
    rw [hrev, List.head?_reverse, hc] at hhead
    exact hhead

end Text

namespace Marker

theorem strip_length_le (s : List Char) : (strip s).length ≤ s.length := by
  fun_induction strip s with
  | case1 => exact Nat.le_refl _
  | case2 c rest _ ih =>
    have hdrop := dropSeparator_length_le (rest.drop (chars.length - 1))
    rw [List.length_drop] at hdrop
    rw [List.length_cons]
    omega
  | case3 c rest _ ih =>
    rw [List.length_cons, List.length_cons]
    omega

/-- A marker at least is stripped of a text with a marker. -/
theorem strip_length_add_le {s : List Char} (h : Text.occurs chars s = true) :
    (strip s).length + chars.length ≤ s.length := by
  fun_induction strip s with
  | case1 => exact absurd h (by decide)
  | case2 c rest hprefix _ =>
    have hlength := (List.isPrefixOf_iff_prefix.1 hprefix).length_le
    have hstrip := strip_length_le (dropSeparator (rest.drop (chars.length - 1)))
    have hdrop := dropSeparator_length_le (rest.drop (chars.length - 1))
    rw [List.length_drop] at hdrop
    rw [List.length_cons] at hlength ⊢
    omega
  | case3 c rest hprefix ih =>
    rw [Text.occurs, Bool.or_eq_true] at h
    have hrest := ih (h.resolve_left hprefix)
    rw [List.length_cons, List.length_cons]
    omega

end Marker

/-- A value that is resumed to itself is clean: a marker in it would have been stripped, and a
separator at its ends taken off. -/
theorem Clean.of_resume_eq_self {value : String} (h : resume value = value) : Clean value := by
  by_cases hfalse : value = "false"
  · subst hfalse
    decide +kernel
  · by_cases htext : value = Marker.text
    · subst htext
      exact absurd h (by decide +kernel)
    · rw [resume, if_neg hfalse, if_neg htext] at h
      have hself : Text.trimEnds (· == Marker.separator) (Marker.strip value.toList) =
          value.toList := by
        have hlist := congrArg String.toList h
        rwa [String.toList_ofList] at hlist
      have hclear : Marker.marks value = false := by
        rw [← Bool.not_eq_true]
        intro hmarks
        have hshort := Marker.strip_length_add_le hmarks
        have hpos := List.length_pos_iff.2 Marker.chars_ne_nil
        have htrim := Text.trimEnds_length_le (· == Marker.separator) (Marker.strip value.toList)
        rw [hself] at htrim
        omega
      rw [Marker.strip_eq_self hclear] at hself
      obtain ⟨hhead, hlast⟩ := Text.ends_of_trimEnds_eq_self hself
      refine ⟨hclear, fun hc => ?_, fun hc => ?_⟩
      · exact absurd (hhead _ hc) (by decide)
      · exact absurd (hlast _ hc) (by decide)

theorem resume_pause_eq_self_iff {value : String} : resume (pause value) = value ↔ Clean value := by
  rw [resume_pause_eq_resume]
  exact ⟨Clean.of_resume_eq_self, Clean.resume_eq_self⟩

/-- A value is marked when it is paused, unless a user has disabled the component with it. -/
theorem marks_pause {value : String} (hempty : value ≠ "") (hfalse : value ≠ "false") :
    Marker.marks (pause value) = true := by
  rcases pause_cases value with ⟨h, hpause⟩ | ⟨-, hpause⟩ | ⟨-, hpause⟩
  · rw [hpause]
    exact (h.resolve_left hempty).resolve_left hfalse
  · rw [hpause]
    decide +kernel
  · rw [hpause]
    exact marks_marked value

theorem marked_injective {v w : String} (h : marked v = marked w) : v = w := by
  have hlist := congrArg String.toList h
  rw [toList_marked, toList_marked, List.append_assoc, List.append_assoc] at hlist
  exact String.toList_inj.1 (List.append_cancel_right hlist)

/-- Pausing tells values without a marker apart. -/
theorem eq_of_pause_eq {v w : String} (hv : Marker.marks v = false) (hw : Marker.marks w = false)
    (h : pause v = pause w) : v = w := by
  -- a value that stays as it is holds no marker, so it is no paused form of another kind
  rcases pause_cases v with ⟨-, hpause⟩ | ⟨htrue, hpause⟩ | ⟨-, hpause⟩ <;>
    rcases pause_cases w with ⟨-, hpause'⟩ | ⟨htrue', hpause'⟩ | ⟨-, hpause'⟩ <;>
    rw [hpause, hpause'] at h
  · exact h
  · rw [h] at hv
    exact absurd hv (by decide +kernel)
  · rw [h, marks_marked] at hv
    cases hv
  · rw [← h] at hw
    exact absurd hw (by decide +kernel)
  · rw [htrue, htrue']
  · exact absurd h.symm (marked_ne_text w)
  · rw [← h, marks_marked] at hw
    cases hw
  · exact absurd h (marked_ne_text v)
  · exact marked_injective h

/-- The values that a label can have: empty, or at most 63 letters, digits, dashes, underscores and
dots, with a letter or a digit at both ends. -/
structure IsLabelValue (value : String) : Prop where
  length_le : value.toList.length ≤ 63
  chars : ∀ c ∈ value.toList, c.isAlphanum ∨ c = '-' ∨ c = '_' ∨ c = '.'
  head : ∀ c ∈ value.toList.head?, c.isAlphanum
  last : ∀ c ∈ value.toList.getLast?, c.isAlphanum

/-- No separator is at the ends of a value that a label can have. -/
theorem IsLabelValue.clean {value : String} (h : IsLabelValue value)
    (hclear : Marker.marks value = false) : Clean value := by
  refine ⟨hclear, fun hc => ?_, fun hc => ?_⟩
  · exact absurd (h.head _ hc) (by decide)
  · exact absurd (h.last _ hc) (by decide)

theorem marks_eq_false_iff {value : String} :
    Marker.marks value = false ↔ ¬ Marker.chars <:+: value.toList := by
  rw [← Text.occurs_iff_infix, Bool.not_eq_true]
  rfl

/-- Pausing again changes nothing, and neither does pausing before resuming. Only the empty value
has an empty paused form, and every paused form holds the marker except those of the two values by
which a user disables a component. A value comes back exactly if it holds no marker and has no
separator at its ends, as it is with every value of a label that holds no marker. Among the values
without a marker no two have the same paused form. -/
theorem label_codec_laws :
    (∀ value,
      pause (pause value) = pause value ∧ resume (pause value) = resume value ∧
      (pause value = "" ↔ value = "") ∧
      (value ≠ "" → value ≠ "false" → Marker.chars <:+: (pause value).toList) ∧
      (resume (pause value) = value ↔
        ¬ Marker.chars <:+: value.toList ∧ value.toList.head? ≠ some Marker.separator ∧
          value.toList.getLast? ≠ some Marker.separator) ∧
      (IsLabelValue value → ¬ Marker.chars <:+: value.toList → resume (pause value) = value)) ∧
    (∀ value ∈ ["", "true", "false"], resume (pause value) = value) ∧
    ∀ v w, ¬ Marker.chars <:+: v.toList → ¬ Marker.chars <:+: w.toList → pause v = pause w →
      v = w := by
  refine ⟨fun value => ?_, ?_, fun v w hv hw h => ?_⟩
  · refine ⟨pause_pause value, resume_pause_eq_resume value, pause_eq_empty_iff, ?_, ?_, ?_⟩
    · intro hempty hfalse
      exact Text.occurs_iff_infix.1 (marks_pause hempty hfalse)
    · rw [resume_pause_eq_self_iff, ← marks_eq_false_iff]
      exact ⟨fun h => ⟨h.unmarked, h.head, h.last⟩, fun h => ⟨h.1, h.2.1, h.2.2⟩⟩
    · intro hvalue hclear
      exact (hvalue.clean (marks_eq_false_iff.2 hclear)).resume_pause
  · decide +kernel
  · exact eq_of_pause_eq (marks_eq_false_iff.2 hv) (marks_eq_false_iff.2 hw) h

/-- A value that a user may have set comes back, and is paused to another form than `true`. -/
theorem preinstalled_comes_back :
    resume (pause "pre-installed") = "pre-installed" ∧
      Marker.chars <:+: (pause "pre-installed").toList ∧
      (pause "pre-installed" = pause "true" → "pre-installed" = "true") := by
  have hclear : ¬ Marker.chars <:+: "pre-installed".toList := by
    rw [← marks_eq_false_iff]
    decide +kernel
  have htrue : ¬ Marker.chars <:+: "true".toList := by
    rw [← marks_eq_false_iff]
    decide +kernel
  have hvalue : IsLabelValue "pre-installed" := by
    constructor <;> simp
  obtain ⟨hlaws, -, hinjective⟩ := label_codec_laws
  obtain ⟨-, -, -, hmarks, -, hback⟩ := hlaws "pre-installed"
  exact ⟨hback hvalue hclear, hmarks (by decide) (by decide), hinjective _ _ hclear htrue⟩

end DriverHandover
