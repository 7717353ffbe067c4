import DriverHandover.Proofs.Host.Escape
import DriverHandover.Proofs.Text.Fields

/-!
# Reading the listing of mounts

The kernel cuts the line of a mount into fields at single spaces, and writes the spaces, tabs and
line feeds of a path as escapes. A line is read as fields between blanks of any kind, so a blank of
another kind in a path ends it.

## Main definitions

* `Mount`, `Mounts.listing` – a mount as the kernel lists it, and the listing.
* `Mounts.Unbroken` – a path without a blank that the kernel leaves as it is.

## Main statements

* `Mounts.takeWhile_escape` – where the first field of a written path ends.
* `Mounts.mount_points_read_iff_unbroken` – what is read of a listing.
-/

namespace DriverHandover

/-- A mount as the kernel lists it. -/
structure Mount where
  id : Nat
  parent : Nat
  major : Nat
  minor : Nat
  /-- The path of the mounted directory in its file system. -/
  root : String
  /-- The path of the directory that it is mounted on. -/
  point : String
  /-- What else the line says: the options, and the file system with its own. -/
  options : String
  root_absolute : root.toList.head? = some '/'
  point_absolute : point.toList.head? = some '/'
  options_oneLine : '\n' ∉ options.toList

namespace Mounts

/-- The characters of a path that the kernel writes as escapes. -/
def isEscaped (c : Char) : Bool :=
  c == ' ' || c == '\t' || c == '\n' || c == '\\'

/-- A blank that the kernel leaves as it is. -/
def isBareBlank (c : Char) : Bool :=
  Text.isBlank c && !isEscaped c

/-- A path without a blank that the kernel leaves as it is. -/
def Unbroken (path : String) : Prop :=
  ∀ c ∈ path.toList, isBareBlank c = false

instance (path : String) : Decidable (Unbroken path) :=
  decidable_of_iff (path.toList.all (!isBareBlank ·) = true) (by simp [Unbroken])

/-- The line of a mount up to its path. -/
def lineStart (m : Mount) : List Char :=
  Nat.toDigits 10 m.id ++ ' ' :: (Nat.toDigits 10 m.parent ++
    ' ' :: (Nat.toDigits 10 m.major ++ ':' :: Nat.toDigits 10 m.minor ++
      ' ' :: (escape isEscaped m.root.toList ++ ' ' :: escape isEscaped m.point.toList)))

/-- The line of a mount. -/
def line (m : Mount) : List Char :=
  lineStart m ++ ' ' :: m.options.toList

/-- The listing of mounts. -/
def listing (mounts : List Mount) : String :=
  String.ofList (mounts.flatMap fun m => line m ++ ['\n'])

variable {c d : Char} {path : String}

theorem isEscaped_cases (h : isEscaped c = true) : c = ' ' ∨ c = '\t' ∨ c = '\n' ∨ c = '\\' := by
  simpa [isEscaped, or_assoc] using h

theorem unescape_escape_isEscaped (s : List Char) : unescape (escape isEscaped s) = s := by
  refine unescape_escape rfl (fun c hc => ?_) s
  rcases isEscaped_cases hc with rfl | rfl | rfl | rfl <;> decide

theorem not_blank_octalEscape (h : isEscaped c = true) :
    ∀ d ∈ octalEscape c, Text.isBlank d = false := by
  have hall : (octalEscape c).all (!Text.isBlank ·) = true := by
    rcases isEscaped_cases h with rfl | rfl | rfl | rfl <;> rfl
  simpa using hall

/-- A path is written without a blank up to the first one that stands in it as it is. -/
theorem takeWhile_escape (s : List Char) :
    (escape isEscaped s).takeWhile (!Text.isBlank ·) =
      escape isEscaped (s.takeWhile (!isBareBlank ·)) := by
  induction s with
  | nil => rfl
  | cons c s ih =>
    rw [escape_cons]
    by_cases hc : isEscaped c = true
    · have hclear : ∀ d ∈ octalEscape c, (!Text.isBlank d) = true := fun d hd => by
        rw [not_blank_octalEscape hc d hd]
        rfl
      have hbare : (!isBareBlank c) = true := by simp [isBareBlank, hc]
      rw [if_pos hc, List.takeWhile_append_of_pos hclear, ih,
        List.takeWhile_cons_of_pos (p := (!isBareBlank ·)) hbare, escape_cons, if_pos hc]
    · have hsame : isBareBlank c = Text.isBlank c := by simp [isBareBlank, hc]
      rw [if_neg hc, List.singleton_append, List.takeWhile_cons, List.takeWhile_cons, hsame]
      split
      · rw [ih, escape_cons, if_neg hc, List.singleton_append]
      · rfl

theorem not_blank_of_mem_escape (hpath : Unbroken path)
    (hd : d ∈ escape isEscaped path.toList) : Text.isBlank d = false := by
  obtain ⟨c, hc, hd⟩ := List.mem_flatMap.1 hd
  split at hd
  · rename_i hescaped
    exact not_blank_octalEscape hescaped d hd
  · rename_i hescaped
    rw [List.mem_singleton.1 hd]
    simpa [isBareBlank, hescaped] using hpath c hc

theorem newline_not_mem_escape (s : List Char) : '\n' ∉ escape isEscaped s := by
  intro h
  obtain ⟨c, -, hmem⟩ := List.mem_flatMap.1 h
  split at hmem
  · rename_i hescaped
    exact absurd (not_blank_octalEscape hescaped _ hmem) (by decide)
  · rename_i hescaped
    exact hescaped (List.mem_singleton.1 hmem ▸ rfl)

theorem newline_not_mem_line (m : Mount) : '\n' ∉ line m := by
  have hdigits (k : Nat) : '\n' ∉ Nat.toDigits 10 k := fun h =>
    absurd ((Text.isWord_toDigits k).not_blank _ h) (by decide)
  simp [line, lineStart, hdigits, newline_not_mem_escape, m.options_oneLine]

/-- Without a carriage return at its end the line of a mount only says less of the options. -/
theorem withoutReturn_line (m : Mount) :
    Text.withoutReturn (line m) = lineStart m ++ ' ' :: Text.withoutReturn m.options.toList := by
  rw [line, List.append_cons, Text.withoutReturn_append (by simp), ← List.append_cons]

theorem takeWhile_append_of_neg {p : Char → Bool} {behind : List Char} (hc : p c = false)
    (s : List Char) : (s ++ c :: behind).takeWhile p = s.takeWhile p := by
  induction s with
  | nil => simp [hc]
  | cons d s ih =>
    rw [List.cons_append, List.takeWhile_cons, List.takeWhile_cons, ih]

/-- The fifth field of the line of a mount is what its path is written as up to the first blank. -/
theorem fields_lineStart (m : Mount) (hroot : Unbroken m.root) (behind : List Char) :
    (Text.fields (lineStart m ++ ' ' :: behind))[4]? =
      some ((escape isEscaped m.point.toList).takeWhile (!Text.isBlank ·)) := by
  have hdigits (k : Nat) : ∀ d ∈ Nat.toDigits 10 k, Text.isBlank d = false :=
    (Text.isWord_toDigits k).not_blank
  have hdevice : ∀ d ∈ Nat.toDigits 10 m.major ++ ':' :: Nat.toDigits 10 m.minor,
      Text.isBlank d = false := by
    intro d hd
    rw [List.mem_append, List.mem_cons] at hd
    rcases hd with hd | rfl | hd
    · exact hdigits _ d hd
    · rfl
    · exact hdigits _ d hd
  have hblank : Text.isBlank ' ' = true := rfl
  have hwritten {path : String} (h : path.toList.head? = some '/') :
      ∃ rest, escape isEscaped path.toList = '/' :: rest := by
    obtain ⟨rest, hrest⟩ := List.head?_eq_some_iff.1 h
    exact ⟨escape isEscaped rest, by rw [hrest, escape_cons]; rfl⟩
  obtain ⟨root, hrootText⟩ := hwritten m.root_absolute
  obtain ⟨point, hpointText⟩ := hwritten m.point_absolute
  have hrootWord : escape isEscaped m.root.toList ≠ [] := by
    rw [hrootText]
    exact List.cons_ne_nil _ _
  -- Four fields come off at single spaces; the fifth ends at the first blank of any kind.
  simp only [lineStart, List.append_assoc, List.cons_append]
  rw [Text.fields_append_blank Nat.toDigits_ne_nil (hdigits _) hblank,
    Text.fields_append_blank Nat.toDigits_ne_nil (hdigits _) hblank]
  rw [← List.cons_append, ← List.append_assoc,
    Text.fields_append_blank (by simp) hdevice hblank,
    Text.fields_append_blank hrootWord (fun d => not_blank_of_mem_escape hroot) hblank]
  have hfirst : Text.isBlank '/' = false := rfl
  rw [hpointText, List.cons_append, Text.fields_cons_of_not_blank hfirst, ← List.cons_append,
    takeWhile_append_of_neg rfl]
  rfl

/-- What is read of a mount is its path up to the first blank that stands in it as it is. -/
theorem read_listing (mounts : List Mount) (hroots : ∀ m ∈ mounts, Unbroken m.root) :
    read (listing mounts) =
      mounts.map fun m => String.ofList (m.point.toList.takeWhile (!isBareBlank ·)) := by
  rw [read, listing, String.toList_ofList]
  induction mounts with
  | nil =>
    rw [List.flatMap_nil, Text.lines]
    rfl
  | cons m mounts ih =>
    obtain ⟨hroot, hroots⟩ := List.forall_mem_cons.1 hroots
    rw [List.flatMap_cons, List.append_assoc, List.singleton_append,
      Text.lines_append_newline (newline_not_mem_line m), withoutReturn_line, List.filterMap_cons,
      fields_lineStart m hroot, ih hroots, takeWhile_escape]
    simp only [Option.map_some, unescape_escape_isEscaped, List.map_cons]

/-- A mount point is read from the line of its mount up to the first blank in it that the kernel
leaves as it is. So the mount points of a listing are read as they are exactly if no such blank is
in one of them. -/
theorem mount_points_read_iff_unbroken (mounts : List Mount)
    (hroots : ∀ m ∈ mounts, Unbroken m.root) :
    read (listing mounts) =
        mounts.map (fun m => String.ofList (m.point.toList.takeWhile (!isBareBlank ·))) ∧
      (read (listing mounts) = mounts.map (·.point) ↔ ∀ m ∈ mounts, Unbroken m.point) := by
  refine ⟨read_listing mounts hroots, ?_⟩
  rw [read_listing mounts hroots, List.map_inj_left]
  refine forall₂_congr fun m _ => ?_
  rw [Unbroken, ← String.toList_inj, String.toList_ofList, List.takeWhile_eq_self_iff]
  simp only [Bool.not_eq_true']

/-- A mount on a directory with a space in its name. -/
def firmwareMount : Mount where
  id := 101
  parent := 98
  major := 0
  minor := 53
  root := "/"
  point := "/run/nvidia/driver/lib/firmware files"
  options := "rw - tmpfs tmpfs rw"
  root_absolute := by decide
  point_absolute := by decide
  options_oneLine := by decide

/-- The same mount on a directory with a no-break space in its name. -/
def noBreakMount : Mount :=
  { firmwareMount with
    point := "/run/nvidia/driver/lib/firmware\u00a0files"
    point_absolute := by decide }

/-- A space in a path is read, and a no-break space ends it. -/
theorem firmware_mount_read :
    Unbroken "/" ∧ read (listing [firmwareMount]) = ["/run/nvidia/driver/lib/firmware files"] ∧
      read (listing [firmwareMount, noBreakMount]) =
        ["/run/nvidia/driver/lib/firmware files", "/run/nvidia/driver/lib/firmware"] := by
  have hroot : Unbroken "/" := by decide +kernel
  have hpoint : Unbroken firmwareMount.point := by decide +kernel
  obtain ⟨-, hread⟩ := mount_points_read_iff_unbroken [firmwareMount]
    (List.forall_mem_singleton.2 hroot)
  obtain ⟨hboth, -⟩ := mount_points_read_iff_unbroken [firmwareMount, noBreakMount]
    (List.forall_mem_cons.2 ⟨hroot, List.forall_mem_singleton.2 hroot⟩)
  exact ⟨hroot, hread.2 (List.forall_mem_singleton.2 hpoint), hboth⟩

/-- The kernel may list a mount of which another mount point is read. -/
theorem no_break_mount_misread :
    Unbroken noBreakMount.root ∧ ¬ ∀ mounts, read (listing mounts) = mounts.map (·.point) := by
  have hroot : Unbroken noBreakMount.root := by decide +kernel
  refine ⟨hroot, fun h => ?_⟩
  have hread := h [noBreakMount]
  rw [read_listing _ (List.forall_mem_singleton.2 hroot)] at hread
  exact absurd hread (by decide)

end Mounts

end DriverHandover
