import DriverHandover.Host.ModuleTable
import DriverHandover.Proofs.Text.Fields
import DriverHandover.Proofs.Text.Number
import DriverHandover.Proofs.Text.Search
import Mathlib.Data.List.Infix

/-!
# Reading the table of kernel modules

The kernel writes one line for each module, with blanks between the fields. What is read of such a
table are the modules in it. In any other text each line counts for itself: it is a row, or it is
reported, or it is passed over.

## Main definitions

* `ListedModule`, `ModuleTable.table` – a module as the kernel lists it, and the table.
* `ModuleTable.Shows` – a line that is a row.
* `ModuleTable.Malformed` – a line that is reported.

## Main statements

* `ModuleTable.readLine_eq_row_iff`, `ModuleTable.readLine_eq_malformed_iff` – what becomes of a
  line.
* `ModuleTable.readLines_table_append` – the lines of a table, and the text behind it.
* `ModuleTable.module_table_read_by_line` – what is read of a table and of any other text.
-/

namespace DriverHandover

/-- Blanks between two fields of a line. -/
structure Gap where
  chars : List Char
  ne_nil : chars ≠ []
  blank : ∀ c ∈ chars, Text.isBlank c = true
  oneLine : '\n' ∉ chars

theorem Gap.fields_append {word : List Char} (hword : Text.IsWord word) (g : Gap)
    (rest : List Char) : Text.fields (word ++ (g.chars ++ rest)) = word :: Text.fields rest := by
  have hapart : Text.Apart (g.chars ++ rest) := by
    obtain ⟨c, tail, hchars⟩ := List.exists_cons_of_ne_nil g.ne_nil
    intro d hd
    rw [hchars, List.cons_append, List.head?_cons, Option.mem_some_iff] at hd
    exact hd ▸ g.blank c (hchars ▸ List.mem_cons_self)
  rw [Text.fields_append_apart hword hapart, Text.fields_blanks_append g.blank]

/-- A module as the kernel lists it. -/
structure ListedModule where
  row : ModuleRow
  afterName : Gap
  afterSize : Gap
  afterRefcount : Gap
  /-- What else the line says: nothing, or any text behind a blank. -/
  behind : List Char
  name_isWord : Text.IsWord row.name.toList
  size_lt : row.size < UInt64.size
  refcount_lt : row.refcount < UInt32.size
  usedBy_isWord : Text.IsWord row.usedBy.toList
  behind_apart : Text.Apart behind
  behind_oneLine : '\n' ∉ behind

namespace ListedModule

/-- The line of a module up to its last field. -/
def lineStart (m : ListedModule) : List Char :=
  m.row.name.toList ++ (m.afterName.chars ++ (Nat.toDigits 10 m.row.size ++ (m.afterSize.chars ++
    (Nat.toDigits 10 m.row.refcount ++ m.afterRefcount.chars))))

/-- The line of a module. -/
def line (m : ListedModule) : List Char :=
  m.lineStart ++ (m.row.usedBy.toList ++ m.behind)

variable {behind : List Char}

/-- The fields of a line do not depend on what else it says, as long as that is set apart. -/
theorem fields_append (m : ListedModule) (hbehind : Text.Apart behind) :
    Text.fields (m.lineStart ++ (m.row.usedBy.toList ++ behind)) =
      m.row.name.toList :: Nat.toDigits 10 m.row.size :: Nat.toDigits 10 m.row.refcount ::
        m.row.usedBy.toList :: Text.fields behind := by
  simp only [lineStart, List.append_assoc]
  rw [Gap.fields_append m.name_isWord, Gap.fields_append (Text.isWord_toDigits _),
    Gap.fields_append (Text.isWord_toDigits _), Text.fields_append_apart m.usedBy_isWord hbehind]

/-- Without a carriage return at its end the line of a module only says less behind the fields. -/
theorem withoutReturn_line (m : ListedModule) :
    Text.withoutReturn m.line =
      m.lineStart ++ (m.row.usedBy.toList ++ Text.withoutReturn m.behind) := by
  have hlast : (m.lineStart ++ m.row.usedBy.toList).getLast? ≠ some '\r' := by
    rw [List.getLast?_append_of_ne_nil _ m.usedBy_isWord.ne_nil]
    intro h
    exact absurd (m.usedBy_isWord.not_blank _ (List.mem_of_getLast? h)) (by decide)
  rw [line, ← List.append_assoc, Text.withoutReturn_append hlast, List.append_assoc]

theorem newline_not_mem_line (m : ListedModule) : '\n' ∉ m.line := by
  have hword {s : List Char} (h : Text.IsWord s) : '\n' ∉ s := fun hmem =>
    absurd (h.not_blank _ hmem) (by decide)
  simp [line, lineStart, hword m.name_isWord, hword m.usedBy_isWord,
    hword (Text.isWord_toDigits _), m.afterName.oneLine, m.afterSize.oneLine,
    m.afterRefcount.oneLine, m.behind_oneLine]

theorem line_ne_nil (m : ListedModule) : m.line ≠ [] := by
  simp [line, m.usedBy_isWord.ne_nil]

end ListedModule

namespace ModuleTable

/-- The table of some modules. -/
def table (listed : List ListedModule) : List Char :=
  listed.flatMap fun m => m.line ++ ['\n']

/-- A line that is a row: four fields with a number of 64 bits in the second and one of 32 bits in
the third. -/
def Shows (line : List Char) (r : ModuleRow) : Prop :=
  ∃ size refcount more,
    Text.fields line = r.name.toList :: size :: refcount :: r.usedBy.toList :: more ∧
      (Number.Denotes size r.size ∧ r.size < UInt64.size) ∧
        Number.Denotes refcount r.refcount ∧ r.refcount < UInt32.size

/-- A line that is reported: one with four fields that has no number of 64 bits in the second or
none of 32 bits in the third. -/
def Malformed (line : List Char) : Prop :=
  ∃ name size refcount usedBy more,
    Text.fields line = name :: size :: refcount :: usedBy :: more ∧
      ((¬ ∃ n < UInt64.size, Number.Denotes size n) ∨
        ¬ ∃ n < UInt32.size, Number.Denotes refcount n)

variable {line filter content : List Char} {r : ModuleRow}

/-- A line has four fields or it is too short. -/
theorem readLine_cases (line : List Char) :
    (∃ name size refcount usedBy more,
      Text.fields line = name :: size :: refcount :: usedBy :: more) ∨
      readLine line = .short ∧ ∀ name size refcount usedBy more,
        Text.fields line ≠ name :: size :: refcount :: usedBy :: more := by
  rw [readLine]
  match Text.fields line with
  | name :: size :: refcount :: usedBy :: more =>
    exact .inl ⟨name, size, refcount, usedBy, more, rfl⟩
  | [] | [_] | [_, _] | [_, _, _] => exact .inr ⟨rfl, by simp⟩

theorem readLine_eq_row_iff : readLine line = .row r ↔ Shows line r := by
  rcases readLine_cases line with ⟨name, size, refcount, usedBy, more, hfields⟩ | ⟨hshort, hfields⟩
  · rw [readLine, hfields, Shows]
    dsimp only
    constructor
    · intro hread
      split at hread
      · rename_i s n hs hn
        obtain rfl := ModuleLine.row.inj hread
        rw [Number.readUInt64_eq_ok_iff] at hs
        rw [Number.readUInt32_eq_ok_iff] at hn
        refine ⟨size, refcount, more, ?_, hs, hn⟩
        rw [hfields, String.toList_ofList, String.toList_ofList]
      · cases hread
    · rintro ⟨size', refcount', more', hfields', hs, hn⟩
      rw [hfields] at hfields'
      simp only [List.cons.injEq] at hfields'
      obtain ⟨hname, rfl, rfl, husedBy, rfl⟩ := hfields'
      rw [Number.readUInt64_eq_ok_iff.2 hs, Number.readUInt32_eq_ok_iff.2 hn, hname, husedBy]
      simp only [String.ofList_toList]
  · refine iff_of_false (by simp [hshort]) ?_
    rintro ⟨size, refcount, more, hfields', -⟩
    exact hfields _ _ _ _ _ hfields'

theorem readLine_eq_malformed_iff {text : String} :
    readLine line = .malformed text ↔ Malformed line ∧ text = String.ofList line := by
  rcases readLine_cases line with ⟨name, size, refcount, usedBy, more, hfields⟩ | ⟨hshort, hfields⟩
  · rw [readLine, hfields]
    dsimp only
    constructor
    · intro hread
      split at hread
      · cases hread
      · rename_i hnone
        obtain rfl := ModuleLine.malformed.inj hread
        refine ⟨⟨name, size, refcount, usedBy, more, hfields, ?_⟩, rfl⟩
        rw [← not_and_or]
        rintro ⟨⟨s, hs, hsize⟩, n, hn, hrefcount⟩
        exact hnone s n (Number.readUInt64_eq_ok_iff.2 ⟨hsize, hs⟩)
          (Number.readUInt32_eq_ok_iff.2 ⟨hrefcount, hn⟩)
    · rintro ⟨⟨name', size', refcount', usedBy', more', hfields', hbad⟩, rfl⟩
      rw [hfields] at hfields'
      simp only [List.cons.injEq] at hfields'
      obtain ⟨-, rfl, rfl, -, -⟩ := hfields'
      split
      · rename_i s n hs hn
        rw [Number.readUInt64_eq_ok_iff] at hs
        rw [Number.readUInt32_eq_ok_iff] at hn
        rcases hbad with hsize | hrefcount
        · exact absurd ⟨s, hs.2, hs.1⟩ hsize
        · exact absurd ⟨n, hn.2, hn.1⟩ hrefcount
      · rfl
  · refine iff_of_false (by simp [hshort]) ?_
    rintro ⟨⟨name, size, refcount, usedBy, more, hfields', -⟩, -⟩
    exact hfields _ _ _ _ _ hfields'

instance (line : List Char) : Decidable (Malformed line) :=
  decidable_of_iff (readLine line = .malformed (String.ofList line))
    (by rw [readLine_eq_malformed_iff, and_iff_left rfl])

/-- The row of a line, if it is one. -/
def rowOf (line : List Char) : Option ModuleRow :=
  match readLine line with
  | .row r => some r
  | _ => none

theorem rowOf_eq_some_iff : rowOf line = some r ↔ Shows line r := by
  rw [← readLine_eq_row_iff, rowOf]
  cases readLine line <;> simp

theorem readLines_eq (filter content : List Char) :
    readLines filter content = ((Text.lines content).filter (filter <:+: ·)).map readLine := by
  have hoccurs : Text.occurs filter = fun line => decide (filter <:+: line) := by
    funext line
    rw [Bool.eq_iff_iff, Text.occurs_iff_infix, decide_eq_true_iff]
  rw [readLines, hoccurs]

theorem rows_eq (filter content : List Char) :
    rows filter content = ((Text.lines content).filter (filter <:+: ·)).filterMap rowOf := by
  rw [rows, readLines_eq, List.filterMap_map]
  rfl

theorem mem_rows_iff :
    r ∈ rows filter content ↔ ∃ line ∈ Text.lines content, filter <:+: line ∧ Shows line r := by
  simp only [rows_eq, List.mem_filterMap, List.mem_filter, decide_eq_true_iff, rowOf_eq_some_iff,
    and_assoc]

/-- What is read of one line alone is its row. -/
theorem rows_line (hline : line ∈ Text.lines content) (hfilter : filter <:+: line) :
    rows filter line = (rowOf line).toList := by
  rw [rows_eq]
  cases line with
  | nil =>
    have hshort : rowOf [] = none := by
      rw [rowOf, readLine, Text.fields_of_dropWhile_nil List.dropWhile_nil]
    rw [Text.lines, hshort]
    rfl
  | cons c tail =>
    rw [Text.lines_eq_singleton (List.cons_ne_nil c tail) (Text.newline_not_mem_of_mem_lines hline),
      List.filter_cons_of_pos (p := (filter <:+: ·)) (decide_eq_true hfilter), List.filter_nil,
      List.filterMap_eq_flatMap_toList, List.flatMap_singleton]

/-- The rows of a text are those of its lines, one line after the other. -/
theorem rows_eq_flatMap (filter content : List Char) :
    rows filter content =
      ((Text.lines content).filter (filter <:+: ·)).flatMap (rows filter) := by
  rw [rows_eq, List.filterMap_eq_flatMap_toList]
  refine List.flatMap_congr fun line hline => ?_
  obtain ⟨hline, hfilter⟩ := List.mem_filter.1 hline
  exact (rows_line hline (of_decide_eq_true hfilter)).symm

/-- The warning about a malformed line. -/
def warningOf (line : List Char) : String :=
  "skipping malformed module entry: " ++ String.ofList line

theorem warnings_eq (filter content : List Char) :
    warnings filter content =
      (((Text.lines content).filter (filter <:+: ·)).filter Malformed).map warningOf := by
  rw [warnings, readLines_eq]
  induction (Text.lines content).filter (filter <:+: ·) with
  | nil => rfl
  | cons line others ih =>
    rw [List.map_cons]
    by_cases hbad : Malformed line
    · rw [readLine_eq_malformed_iff.2 ⟨hbad, rfl⟩,
        List.filter_cons_of_pos (p := (Malformed ·)) (decide_eq_true hbad), List.map_cons, ← ih]
      rfl
    · have hnone : ∀ text, readLine line ≠ .malformed text := fun text hread =>
        hbad (readLine_eq_malformed_iff.1 hread).1
      rw [List.filter_cons_of_neg (p := (Malformed ·)) (by simpa using hbad), ← ih,
        List.filterMap_cons_none]
      cases hread : readLine line with
      | malformed text => exact absurd hread (hnone text)
      | row | short => rfl

theorem not_malformed_of_shows (h : Shows line r) : ¬ Malformed line := by
  intro hbad
  have hread := readLine_eq_row_iff.2 h
  rw [readLine_eq_malformed_iff.2 ⟨hbad, rfl⟩] at hread
  cases hread

/-- Where every line is a row, the rows are read and no line is reported. -/
theorem read_of_map_rowOf {listed : List ModuleRow}
    (h : (Text.lines content).map rowOf = listed.map some) :
    rows [] content = listed ∧ warnings [] content = [] := by
  have hall : (Text.lines content).filter ([] <:+: ·) = Text.lines content :=
    List.filter_eq_self.2 fun line _ => decide_eq_true List.nil_infix
  rw [rows_eq, warnings_eq, hall]
  constructor
  · calc (Text.lines content).filterMap rowOf
      _ = ((Text.lines content).map rowOf).filterMap id := by
        rw [List.filterMap_map, Function.id_comp]
      _ = listed := by rw [h, List.filterMap_map, Function.id_comp, List.filterMap_some]
  · rw [List.map_eq_nil_iff, List.filter_eq_nil_iff]
    intro line hline
    obtain ⟨r, -, hr⟩ := List.mem_map.1 (h ▸ List.mem_map_of_mem hline)
    simpa using not_malformed_of_shows (rowOf_eq_some_iff.1 hr.symm)

theorem shows_listed (m : ListedModule) {behind : List Char} (hbehind : Text.Apart behind) :
    Shows (m.lineStart ++ (m.row.usedBy.toList ++ behind)) m.row :=
  ⟨_, _, _, m.fields_append hbehind, ⟨Number.denotes_toDigits _, m.size_lt⟩,
    Number.denotes_toDigits _, m.refcount_lt⟩

theorem rowOf_line (m : ListedModule) : rowOf m.line = some m.row :=
  rowOf_eq_some_iff.2 (shows_listed m m.behind_apart)

theorem rowOf_withoutReturn_line (m : ListedModule) :
    rowOf (Text.withoutReturn m.line) = some m.row := by
  rw [m.withoutReturn_line, rowOf_eq_some_iff]
  exact shows_listed m m.behind_apart.withoutReturn

theorem lines_table_append (listed : List ListedModule) (rest : List Char) :
    Text.lines (table listed ++ rest) =
      listed.map (fun m => Text.withoutReturn m.line) ++ Text.lines rest := by
  induction listed with
  | nil => rfl
  | cons m listed ih =>
    have htable : table (m :: listed) ++ rest = m.line ++ '\n' :: (table listed ++ rest) := by
      simp [table]
    rw [htable, Text.lines_append_newline m.newline_not_mem_line, ih, List.map_cons,
      List.cons_append]

/-- The modules of a table are read in order, and then what is behind the table. -/
theorem map_rowOf_table_append (listed : List ListedModule) (rest : List Char) :
    (Text.lines (table listed ++ rest)).map rowOf =
      (listed.map (·.row)).map some ++ (Text.lines rest).map rowOf := by
  rw [lines_table_append, List.map_append, List.map_map, List.map_map]
  congr 1
  exact List.map_congr_left fun m _ => rowOf_withoutReturn_line m

/-- The modules of a table are read as they are listed, and nothing is reported, also if the last
line has no end. Of any text, the lines that hold the filter are read one by one: the rows are those
of the single lines, and those lines are reported that have four fields without the numbers. -/
theorem module_table_read_by_line :
    (∀ listed : List ListedModule,
      (rows [] (table listed) = listed.map (·.row) ∧ warnings [] (table listed) = []) ∧
      ∀ last : ListedModule,
        rows [] (table listed ++ last.line) = (listed ++ [last]).map (·.row) ∧
          warnings [] (table listed ++ last.line) = []) ∧
    ∀ filter content,
      rows filter content =
        ((Text.lines content).filter (filter <:+: ·)).flatMap (rows filter) ∧
      (∀ r, r ∈ rows filter content ↔
        ∃ line ∈ Text.lines content, filter <:+: line ∧ Shows line r) ∧
      warnings filter content =
        (((Text.lines content).filter (filter <:+: ·)).filter Malformed).map
          fun line => "skipping malformed module entry: " ++ String.ofList line := by
  refine ⟨fun listed => ⟨?_, fun last => ?_⟩, fun filter content =>
    ⟨rows_eq_flatMap filter content, fun r => mem_rows_iff, warnings_eq filter content⟩⟩
  · have hread := map_rowOf_table_append listed []
    rw [Text.lines, List.map_nil, List.append_nil, List.append_nil] at hread
    exact read_of_map_rowOf hread
  · have hread := map_rowOf_table_append listed last.line
    rw [Text.lines_eq_singleton last.line_ne_nil last.newline_not_mem_line, List.map_singleton,
      rowOf_line] at hread
    refine read_of_map_rowOf (hread.trans ?_)
    rw [List.map_append, List.map_append]
    rfl

/-- One space between two fields. -/
def space : Gap where
  chars := [' ']
  ne_nil := by simp
  blank := by simp [Text.isBlank]
  oneLine := by simp

/-- A module without dependents, with a tab and spaces between its numbers and a carriage return at
the end of its line. -/
def uvmModule : ListedModule where
  row := ⟨"nvidia_uvm", 1970176, 0, "-"⟩
  afterName := space
  afterSize :=
    { chars := ['\t', ' ', ' '], ne_nil := by simp, blank := by simp [Text.isBlank],
      oneLine := by simp }
  afterRefcount := space
  behind := " Live 0x0000000000000000 (POE)\r".toList
  name_isWord := ⟨by simp, by simp [Text.isBlank]⟩
  size_lt := by decide
  refcount_lt := by decide
  usedBy_isWord := ⟨by simp, by simp [Text.isBlank]⟩
  behind_apart := by simp [Text.Apart, Text.isBlank]
  behind_oneLine := by simp

/-- A listed module is read, and of two other lines the one with four fields is reported. -/
theorem uvm_module_read :
    rows [] (table [uvmModule]) = [⟨"nvidia_uvm", 1970176, 0, "-"⟩] ∧
      warnings "n".toList "ext4 1032192 -2 nbd\nbroken line\nn 18446744073709551616 1 -\n".toList =
        ["skipping malformed module entry: ext4 1032192 -2 nbd",
          "skipping malformed module entry: n 18446744073709551616 1 -"] := by
  obtain ⟨hlisted, hany⟩ := module_table_read_by_line
  obtain ⟨⟨hrows, -⟩, -⟩ := hlisted [uvmModule]
  obtain ⟨-, -, hwarnings⟩ := hany "n".toList
    "ext4 1032192 -2 nbd\nbroken line\nn 18446744073709551616 1 -\n".toList
  refine ⟨hrows, hwarnings.trans ?_⟩
  decide +kernel

end ModuleTable

end DriverHandover
