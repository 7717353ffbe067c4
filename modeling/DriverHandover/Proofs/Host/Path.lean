import DriverHandover.Host.Path
import Mathlib.Logic.Relation

/-!
# Paths by their components

A path can be spelled in many ways: a slash can be repeated, and a slash or `/.` can stand at the
end. All of these have the same components, while a path that goes on with the name that another one
ends in does not lie below it.

## Main definitions

* `Path.Respelled` – one path is another one with a slash or a `.` more.
* `Path.IsAncestor` – a path lies strictly below another one.

## Main statements

* `Text.pieces_append_separator`, `Text.pieces_append` – the pieces of texts put together.
* `Path.Respelled.parts_eq` – the spelling of a path makes no difference.
* `Path.not_prefix_append` – a path that only starts with the same text lies elsewhere.
-/

namespace DriverHandover

namespace Text

variable {separator : Char} {s t last first : List Char} {start others : List (List Char)}

theorem pieces_ne_nil (separator : Char) (s : List Char) : pieces separator s ≠ [] := by
  cases s with
  | nil => exact List.cons_ne_nil _ _
  | cons c s =>
    rw [pieces]
    split
    · exact List.cons_ne_nil _ _
    · split <;> exact List.cons_ne_nil _ _

/-- The first piece of a text is empty only if the text is, or starts with a separator. -/
theorem head?_of_pieces_eq (h : pieces separator s = [] :: others) (hs : s ≠ []) :
    s.head? = some separator ∧ others ≠ [] := by
  cases s with
  | nil => exact absurd rfl hs
  | cons c s =>
    rw [pieces] at h
    split at h
    · rename_i hc
      exact ⟨congrArg some hc, (List.cons.inj h).2 ▸ pieces_ne_nil separator s⟩
    · split at h <;> exact absurd (List.cons.inj h).1 (List.cons_ne_nil _ _)

theorem pieces_cons_of_ne {c : Char} (hc : c ≠ separator)
    (h : pieces separator s = first :: others) :
    pieces separator (c :: s) = (c :: first) :: others := by
  rw [pieces, if_neg hc, h]

theorem exists_pieces_cons (separator : Char) (s : List Char) :
    ∃ first others, pieces separator s = first :: others :=
  List.exists_cons_of_ne_nil (pieces_ne_nil separator s)

/-- A separator keeps the pieces before it and behind it apart. -/
theorem pieces_append_separator (s t : List Char) :
    pieces separator (s ++ separator :: t) = pieces separator s ++ pieces separator t := by
  induction s with
  | nil =>
    rw [List.nil_append]
    exact if_pos rfl
  | cons c s ih =>
    by_cases hc : c = separator
    · rw [List.cons_append, pieces, if_pos hc, pieces, if_pos hc, ih, List.cons_append]
    · obtain ⟨first, others, hs⟩ := exists_pieces_cons separator s
      have happend : pieces separator (s ++ separator :: t) =
          first :: (others ++ pieces separator t) := by rw [ih, hs, List.cons_append]
      rw [List.cons_append, pieces_cons_of_ne hc happend, pieces_cons_of_ne hc hs,
        List.cons_append]

/-- Without a separator the last piece of one text goes on with the first piece of the other. -/
theorem pieces_append (hs : pieces separator s = start ++ [last])
    (ht : pieces separator t = first :: others) :
    pieces separator (s ++ t) = start ++ (last ++ first) :: others := by
  -- The last piece of a text stays the last one when a character is put in front of the text.
  induction s generalizing start last with
  | nil =>
    obtain ⟨rfl, rfl⟩ : start = [] ∧ last = [] := by
      cases start with
      | nil => exact ⟨rfl, by simpa [pieces] using hs.symm⟩
      | cons a start => simp [pieces] at hs
    exact ht
  | cons c s ih =>
    by_cases hc : c = separator
    · rw [pieces, if_pos hc] at hs
      cases start with
      | nil =>
        rw [List.nil_append, List.cons.injEq] at hs
        exact absurd hs.2 (pieces_ne_nil separator s)
      | cons a start =>
        rw [List.cons_append, List.cons.injEq] at hs
        rw [List.cons_append, pieces, if_pos hc, ih hs.2, ← hs.1, List.cons_append]
    · obtain ⟨head, tail, hpieces⟩ := exists_pieces_cons separator s
      rw [pieces_cons_of_ne hc hpieces] at hs
      cases start with
      | nil =>
        rw [List.nil_append, List.cons.injEq] at hs
        obtain ⟨rfl, rfl⟩ := hs
        have hlast : pieces separator s = [] ++ [head] := hpieces
        exact pieces_cons_of_ne hc (ih hlast)
      | cons a start =>
        rw [List.cons_append, List.cons.injEq] at hs
        obtain ⟨rfl, rfl⟩ := hs
        have hlast : pieces separator s = (head :: start) ++ [last] := hpieces
        exact pieces_cons_of_ne hc (ih hlast)

end Text

namespace Path

variable {a b root : String} {first : List Char} {others others' : List (List Char)}

/-- The component that a path starts with if that is no name. -/
def startOf : List (List Char) → List PathPart
  | [] :: _ :: _ => [PathPart.root]
  | ['.'] :: _ => [PathPart.here]
  | _ => []

/-- The names among the pieces of a path. -/
def namesOf (pieces : List (List Char)) : List PathPart :=
  (pieces.filter isName).map PathPart.name

theorem parts_eq (path : String) :
    parts path =
      startOf (Text.pieces '/' path.toList) ++ namesOf (Text.pieces '/' path.toList) :=
  rfl

theorem namesOf_append (s t : List (List Char)) : namesOf (s ++ t) = namesOf s ++ namesOf t := by
  rw [namesOf, List.filter_append, List.map_append]
  rfl

theorem startOf_of_isName (h : isName first = true) : startOf (first :: others) = [] := by
  rcases first with _ | ⟨c, _ | ⟨d, tail⟩⟩
  · exact absurd h (by decide)
  · have hc : c ≠ '.' := by
      rintro rfl
      exact absurd h (by decide)
    simp [startOf, hc]
  · simp [startOf]

/-- How a path starts depends on its first piece, and on whether a slash follows an empty one. -/
theorem startOf_congr (h : first = [] → (others = [] ↔ others' = [])) :
    startOf (first :: others) = startOf (first :: others') := by
  rcases first with _ | ⟨c, _ | ⟨d, tail⟩⟩
  · cases others <;> cases others' <;> simp_all [startOf]
  · by_cases hc : c = '.'
    · subst hc
      rfl
    · simp [startOf, hc]
  · simp [startOf]

/-- What stands between slashes counts only if it is a name. -/
theorem parts_congr_behind (s t t' : List Char) (ha : a.toList = s ++ '/' :: t)
    (hb : b.toList = s ++ '/' :: t')
    (h : namesOf (Text.pieces '/' t) = namesOf (Text.pieces '/' t')) : parts a = parts b := by
  obtain ⟨first, others, hfirst⟩ := Text.exists_pieces_cons '/' s
  have hne (t : List Char) : others ++ Text.pieces '/' t ≠ [] :=
    List.append_ne_nil_of_right_ne_nil _ (Text.pieces_ne_nil '/' t)
  rw [parts_eq, parts_eq, ha, hb, Text.pieces_append_separator, Text.pieces_append_separator,
    namesOf_append, namesOf_append, h, hfirst, List.cons_append, List.cons_append,
    startOf_congr fun _ => iff_of_false (hne t) (hne t')]

/-- A slash at the end of a path does not count, nor does what follows it if that is no name. -/
theorem parts_eq_of_nameless_end (t : List Char) (hb : b ≠ "")
    (ha : a.toList = b.toList ++ '/' :: t)
    (h : namesOf (Text.pieces '/' t) = []) : parts a = parts b := by
  obtain ⟨first, others, hfirst⟩ := Text.exists_pieces_cons '/' b.toList
  have hslash : first = [] → others ≠ [] := by
    rintro rfl
    exact (Text.head?_of_pieces_eq hfirst (mt String.toList_eq_nil_iff.1 hb)).2
  rw [parts_eq, parts_eq, ha, Text.pieces_append_separator, namesOf_append, h, List.append_nil,
    hfirst, List.cons_append]
  refine congrArg (· ++ _) (startOf_congr fun hnil => ?_)
  exact iff_of_false (fun happend => hslash hnil (List.append_eq_nil_iff.1 happend).1) (hslash hnil)

theorem isBelow_iff : isBelow root a = true ↔ parts root <+: parts a :=
  List.isPrefixOf_iff_prefix

/-- `IsAncestor a b` holds if `b` lies strictly below `a`. -/
def IsAncestor (a b : String) : Prop :=
  parts a <+: parts b ∧ parts a ≠ parts b

theorem IsAncestor.depth_lt (h : IsAncestor a b) : depth a < depth b := by
  refine Nat.lt_of_le_of_ne h.1.length_le fun hlength => ?_
  exact h.2 (h.1.eq_of_length hlength)

/-- `Respelled a b` holds if `a` is `b` with a slash or a component `.` more. -/
inductive Respelled : String → String → Prop
  | slashes (a b : String) : Respelled (a ++ "//" ++ b) (a ++ "/" ++ b)
  | here (a b : String) : Respelled (a ++ "/./" ++ b) (a ++ "/" ++ b)
  | lastSlash {a : String} (ha : a ≠ "") : Respelled (a ++ "/") a
  | lastHere {a : String} (ha : a ≠ "") : Respelled (a ++ "/.") a

theorem Respelled.parts_eq (h : Respelled a b) : parts a = parts b := by
  cases h with
  | slashes a b =>
    exact parts_congr_behind a.toList ('/' :: b.toList) b.toList (by simp) (by simp) rfl
  | here a b =>
    exact parts_congr_behind a.toList ('.' :: '/' :: b.toList) b.toList (by simp) (by simp) rfl
  | lastSlash hb => exact parts_eq_of_nameless_end [] hb (by simp) rfl
  | lastHere hb => exact parts_eq_of_nameless_end ['.'] hb (by simp) rfl

/-- The spelling of a path makes no difference to its components. -/
theorem parts_eq_of_eqvGen (h : Relation.EqvGen Respelled a b) : parts a = parts b := by
  induction h with
  | rel _ _ h => exact h.parts_eq
  | refl => rfl
  | symm _ _ _ ih => exact ih.symm
  | trans _ _ _ _ _ ih ih' => exact ih.trans ih'

theorem isName_append {last : List Char} (hlast : isName last = true) (hfirst : first ≠ []) :
    isName (last ++ first) = true := by
  obtain ⟨c, last, rfl⟩ := List.exists_cons_of_ne_nil
    (show last ≠ [] by rintro rfl; exact absurd hlast (by decide))
  obtain ⟨d, first, rfl⟩ := List.exists_cons_of_ne_nil hfirst
  simp [isName]

/-- A path that goes on with the last name of another one does not lie below it. -/
theorem not_prefix_append {name : List Char} {t : String}
    (hlast : (Text.pieces '/' root.toList).getLast? = some name) (hname : isName name = true)
    (ht : t ≠ "") (hslash : t.toList.head? ≠ some '/') :
    ¬ parts root <+: parts (root ++ t) := by
  obtain ⟨front, hroot⟩ := List.getLast?_eq_some_iff.1 hlast
  obtain ⟨first, others, hpieces⟩ := Text.exists_pieces_cons '/' t.toList
  have hfirst : first ≠ [] := by
    rintro rfl
    exact hslash (Text.head?_of_pieces_eq hpieces (mt String.toList_eq_nil_iff.1 ht)).1
  have hjoined := Text.pieces_append hroot hpieces
  have hstart : startOf (front ++ (name ++ first) :: others) = startOf (front ++ [name]) := by
    cases front with
    | nil =>
      rw [List.nil_append, List.nil_append, startOf_of_isName hname,
        startOf_of_isName (isName_append hname hfirst)]
    | cons a front =>
      exact startOf_congr fun _ => by simp
  -- Both paths start alike and have the same names up to the last name of the shorter one.
  rw [parts_eq, parts_eq, String.toList_append, hjoined, hroot, hstart, namesOf_append,
    namesOf_append, List.prefix_append_right_inj, List.prefix_append_right_inj]
  have hone : namesOf [name] = [.name name] := by simp [namesOf, hname]
  have hmore : namesOf ((name ++ first) :: others) = .name (name ++ first) :: namesOf others := by
    simp [namesOf, isName_append hname hfirst]
  rw [hone, hmore, List.cons_prefix_cons]
  rintro ⟨hsame, -⟩
  exact hfirst (by simpa using hsame)

end Path

end DriverHandover
