import DriverHandover.Text.Blank
import Mathlib.Data.List.TakeWhile

/-!
# Cutting a text into lines and fields

Fields and lines come off the front of a text one by one.

## Main definitions

* `Text.IsWord` – a text that can be a field.
* `Text.Apart` – a text that ends the field in front of it.

## Main statements

* `Text.fields_append_blank` – a word in front of a blank is a field.
* `Text.fields_cons_of_not_blank` – a text is read up to the first blank in it.
* `Text.fields_append_apart` – a word is a field, whatever is set apart from it.
* `Text.lines_append_newline` – a text in front of a line feed is a line.
* `Text.lines_eq_singleton` – a text without a line feed is one line.
-/

namespace DriverHandover.Text

variable {c : Char} {s line word rest : List Char}

theorem fields_of_dropWhile_nil (h : s.dropWhile isBlank = []) : fields s = [] := by
  rw [fields]
  split
  · rfl
  · rename_i hcons
    rw [h] at hcons
    exact absurd hcons.symm (List.cons_ne_nil _ _)

theorem fields_of_dropWhile_cons (h : s.dropWhile isBlank = c :: rest) :
    fields s = (c :: rest.takeWhile (!isBlank ·)) :: fields (rest.dropWhile (!isBlank ·)) := by
  rw [fields]
  split
  · rename_i hnil
    rw [h] at hnil
    exact absurd hnil (List.cons_ne_nil _ _)
  · rename_i hcons
    rw [h, List.cons.injEq] at hcons
    obtain ⟨rfl, rfl⟩ := hcons
    rfl

theorem fields_cons_of_blank (hc : isBlank c = true) : fields (c :: s) = fields s := by
  have hdrop : (c :: s).dropWhile isBlank = s.dropWhile isBlank := List.dropWhile_cons_of_pos hc
  cases h : s.dropWhile isBlank with
  | nil => rw [fields_of_dropWhile_nil h, fields_of_dropWhile_nil (hdrop.trans h)]
  | cons d tail => rw [fields_of_dropWhile_cons h, fields_of_dropWhile_cons (hdrop.trans h)]

/-- The first field of a text that starts with no blank. -/
theorem fields_cons_of_not_blank (hc : isBlank c = false) :
    fields (c :: s) =
      (c :: s).takeWhile (!isBlank ·) :: fields ((c :: s).dropWhile (!isBlank ·)) := by
  have hdrop : (c :: s).dropWhile isBlank = c :: s := by simp [hc]
  rw [fields_of_dropWhile_cons hdrop]
  simp [hc]

/-- A word in front of a blank is a field. -/
theorem fields_append_blank (hne : word ≠ []) (hword : ∀ d ∈ word, isBlank d = false)
    (hc : isBlank c = true) : fields (word ++ c :: rest) = word :: fields rest := by
  have hclear : ∀ d ∈ word, (!isBlank d) = true := fun d hd => by rw [hword d hd]; rfl
  cases word with
  | nil => exact absurd rfl hne
  | cons d tail =>
    have htake : (d :: tail ++ c :: rest).takeWhile (!isBlank ·) = d :: tail := by
      rw [List.takeWhile_append_of_pos hclear]
      simp [hc]
    have hdrop : (d :: tail ++ c :: rest).dropWhile (!isBlank ·) = c :: rest := by
      rw [List.dropWhile_append_of_pos hclear]
      simp [hc]
    rw [List.cons_append] at htake hdrop ⊢
    rw [fields_cons_of_not_blank (hword d List.mem_cons_self), htake, hdrop,
      fields_cons_of_blank hc]

/-- A text that can be a field: not empty and without a blank. -/
structure IsWord (s : List Char) : Prop where
  ne_nil : s ≠ []
  not_blank : ∀ c ∈ s, isBlank c = false

/-- A text that ends the field in front of it: empty, or a blank with any text behind it. -/
def Apart (s : List Char) : Prop :=
  ∀ c ∈ s.head?, isBlank c = true

/-- A word is a field, whatever is set apart from it. -/
theorem fields_append_apart (hword : IsWord word) (hrest : Apart rest) :
    fields (word ++ rest) = word :: fields rest := by
  cases rest with
  | nil =>
    cases word with
    | nil => exact absurd rfl hword.ne_nil
    | cons c tail =>
      have hclear : ∀ d ∈ tail, (!isBlank d) = true := fun d hd => by
        rw [hword.not_blank d (List.mem_cons_of_mem c hd)]
        rfl
      have hc : isBlank c = false := hword.not_blank c List.mem_cons_self
      have hdrop : (c :: tail).dropWhile isBlank = c :: tail := by simp [hc]
      rw [List.append_nil, fields_of_dropWhile_cons hdrop, List.takeWhile_eq_self_iff.2 hclear,
        List.dropWhile_eq_nil_iff.2 hclear]
  | cons c tail =>
    have hc : isBlank c = true := hrest c rfl
    rw [fields_append_blank hword.ne_nil hword.not_blank hc, fields_cons_of_blank hc]

/-- Blanks in front of a text make no difference to its fields. -/
theorem fields_blanks_append {blanks : List Char} (h : ∀ c ∈ blanks, isBlank c = true) :
    fields (blanks ++ rest) = fields rest := by
  induction blanks with
  | nil => rfl
  | cons c blanks ih =>
    obtain ⟨hc, hblanks⟩ := List.forall_mem_cons.1 h
    rw [List.cons_append, fields_cons_of_blank hc, ih hblanks]

theorem not_blank_of_isDigit (h : c.isDigit = true) : isBlank c = false := by
  rw [Char.isDigit_iff_toNat] at h
  have hlow : 0x30 ≤ c.toNat := h.1
  have hhigh : c.toNat ≤ 0x39 := h.2
  simp [isBlank]
  omega

/-- A number in decimal digits is a word. -/
theorem isWord_toDigits (n : Nat) : IsWord (Nat.toDigits 10 n) :=
  ⟨Nat.toDigits_ne_nil, fun _ h =>
    not_blank_of_isDigit (Nat.isDigit_of_mem_toDigits (by decide) (by decide) h)⟩

/-- A carriage return that is taken off the end of a text is taken off what ends it. -/
theorem withoutReturn_append (hs : s.getLast? ≠ some '\r') (behind : List Char) :
    withoutReturn (s ++ behind) = s ++ withoutReturn behind := by
  cases behind with
  | nil => simp [withoutReturn, hs]
  | cons c tail =>
    have hlast : (s ++ c :: tail).getLast? = (c :: tail).getLast? := by
      rw [List.getLast?_append, List.getLast?_cons, Option.some_or]
    rw [withoutReturn, withoutReturn, hlast, List.dropLast_append_of_ne_nil (by simp)]
    split <;> rfl

theorem Apart.withoutReturn (h : Apart s) : Apart (withoutReturn s) := by
  rw [Text.withoutReturn]
  split
  · intro c hc
    rw [List.head?_dropLast] at hc
    split at hc
    · exact h c hc
    · exact absurd hc (by simp)
  · exact h

theorem mem_of_mem_withoutReturn (h : c ∈ withoutReturn line) : c ∈ line := by
  rw [withoutReturn] at h
  split at h
  · exact List.dropLast_subset line h
  · exact h

theorem newline_not_mem_of_mem_lines (h : line ∈ lines s) : '\n' ∉ line := by
  have hclear (text : List Char) : '\n' ∉ text.takeWhile (· ≠ '\n') := fun hmem => by
    simpa using List.mem_takeWhile_imp hmem
  fun_induction lines s with
  | case1 => exact absurd h List.not_mem_nil
  | case2 c tail start hend =>
    rw [List.mem_singleton.1 h]
    exact hclear _
  | case3 c tail start d later hend ih =>
    rcases List.mem_cons.1 h with rfl | hlater
    · exact fun hmem => hclear _ (mem_of_mem_withoutReturn hmem)
    · exact ih hlater

theorem lines_append_newline (hline : '\n' ∉ line) :
    lines (line ++ '\n' :: rest) = withoutReturn line :: lines rest := by
  have hclear : ∀ d ∈ line, decide (d ≠ '\n') = true := fun d hd =>
    decide_eq_true fun heq => hline (heq ▸ hd)
  have htake : (line ++ '\n' :: rest).takeWhile (· ≠ '\n') = line := by
    rw [List.takeWhile_append_of_pos hclear, List.takeWhile_cons_of_neg (by simp), List.append_nil]
  have hdrop : (line ++ '\n' :: rest).dropWhile (· ≠ '\n') = '\n' :: rest := by
    rw [List.dropWhile_append_of_pos hclear, List.dropWhile_cons_of_neg (by simp)]
  obtain ⟨c, tail, htext⟩ : ∃ c tail, line ++ '\n' :: rest = c :: tail :=
    List.exists_cons_of_ne_nil (by simp)
  rw [htext] at htake hdrop ⊢
  rw [lines]
  split
  · rename_i hnil
    rw [hdrop] at hnil
    exact absurd hnil (List.cons_ne_nil _ _)
  · rename_i hcons
    rw [hdrop, List.cons.injEq] at hcons
    rw [htake, hcons.2]

/-- A text without a line feed is one line, unless it is empty. -/
theorem lines_eq_singleton (hne : line ≠ []) (hline : '\n' ∉ line) : lines line = [line] := by
  have hclear : ∀ d ∈ line, decide (d ≠ '\n') = true := fun d hd =>
    decide_eq_true fun heq => hline (heq ▸ hd)
  obtain ⟨c, tail, rfl⟩ := List.exists_cons_of_ne_nil hne
  rw [lines]
  split
  · rw [List.takeWhile_eq_self_iff.2 hclear]
  · rename_i hcons
    rw [List.dropWhile_eq_nil_iff.2 hclear] at hcons
    exact absurd hcons.symm (List.cons_ne_nil _ _)

end DriverHandover.Text
