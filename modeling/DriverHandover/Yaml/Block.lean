import DriverHandover.Yaml.Cursor

/-!
# Text in blocks

A block of indented lines is text of its own. In a literal block the lines stay as they are; in a
folded one, lines that follow one another are joined. The header of a block says which of the line
ends at its end count, and can say how far its lines are indented; otherwise the first line that is
not empty shows that.

## Main definitions

* `Yaml.Chomping` – which line ends at the end of a block count.
* `Yaml.scanBlock?` – scanning a block.
-/

namespace DriverHandover.Yaml

/-- Which line ends at the end of a block count. -/
inductive Chomping where
  | none
  | one
  | all
  deriving DecidableEq, Repr

/-- The header of a block. -/
structure BlockHeader where
  chomping : Chomping
  /-- How much further than what is around it the block is indented. -/
  increment : Option Nat
  deriving DecidableEq, Repr

namespace BlockHeader

/-- Scans a sign for the chomping. -/
def scanChomping (c : Cursor) : Chomping × Cursor :=
  if c.isAt '+' then (.all, c.advance 1)
  else if c.isAt '-' then (.none, c.advance 1)
  else (.one, c)

/-- Scans a digit for the indentation, which is not zero. -/
def scanIncrement? (c : Cursor) : Option (Option Nat × Cursor) :=
  match c.next? with
  | some x =>
    if x = '0' then .none
    else if x.isDigit then some (some (x.toNat - '0'.toNat), c.advance 1)
    else some (.none, c)
  | .none => some (.none, c)

/-- Scans a header, in which the two signs may stand in any order, up to the next line. -/
def scan? (c : Cursor) : Option (BlockHeader × Cursor) := do
  let (first, c) := scanChomping c
  let (increment, c) ← scanIncrement? c
  let (second, c) := if first = .one then scanChomping c else (first, c)
  let c ← c.skipToNextLine?
  return (⟨second, increment⟩, c)

end BlockHeader

/-- What has been scanned of the line ends and blanks before a line of a block. -/
structure Margin where
  /-- The line ends in reverse. -/
  breaks : List Char
  /-- The furthest indentation that has been seen. -/
  widest : Nat
  cursor : Cursor
  deriving Repr

/-- Passes over the indentation of a line and, if the line is empty, over its end. As long as the
indentation of the block is not known, all blanks count as such; a tab does never. -/
def marginStep (indent : Option Nat) (m : Margin) : Step Margin Margin :=
  let spaces := (m.cursor.takeWhile (· == ' ')).1.length
  let c := m.cursor.advance (indent.elim spaces fun n => min spaces (n - m.cursor.column))
  let m := { m with widest := max m.widest c.column, cursor := c }
  if c.isAt '\t' ∧ indent.all (c.column < ·) then .failed
  else
    match c.takeBreak? with
    | some (x, after) => .again { m with breaks := x :: m.breaks, cursor := after }
    | none => .done m

/-- Scans line ends and the indentation after them. -/
def scanMargin? (indent : Option Nat) (c : Cursor) : Option Margin :=
  repeatStep (marginStep indent) (c.rest.length + 1) ⟨[], 0, c⟩

/-- What has been scanned of a block. -/
structure BlockState where
  /-- The text in reverse. -/
  text : List Char
  /-- The end of the last line. -/
  lastBreak : Option Char
  /-- The line ends after that, in reverse. -/
  breaks : List Char
  /-- Whether the last line starts with a blank, behind its indentation. -/
  startsBlank : Bool
  cursor : Cursor
  deriving Repr

/-- What stands between the last line of a block and the next one, in reverse. In a folded block,
the end of the last line is left out or becomes a blank if neither line starts with a blank. -/
def BlockState.between (s : BlockState) (isLiteral nextStartsBlank : Bool) : List Char :=
  if !isLiteral && s.lastBreak == some '\n' && !s.startsBlank && !nextStartsBlank then
    if s.breaks.isEmpty then [' '] else s.breaks
  else s.breaks ++ s.lastBreak.toList

/-- Reads a line of a block and the line ends after it. -/
def blockStep (isLiteral : Bool) (indent : Nat) (s : BlockState) : Step BlockState BlockState :=
  if s.cursor.column = indent ∧ s.cursor.next?.isSome then
    let startsBlank := s.cursor.atBlank
    let (line, c) := s.cursor.takeWhile (!isBreak ·)
    let text := line.reverse ++ (s.between isLiteral startsBlank ++ s.text)
    let (lastBreak, c) :=
      match c.takeBreak? with
      | some (x, c) => (some x, c)
      | none => (none, c)
    match scanMargin? (some indent) c with
    | none => .failed
    | some m => .again ⟨text, lastBreak, m.breaks, startsBlank, m.cursor⟩
  else .done s

/-- The line ends at the end of a block that count, in reverse. -/
def BlockState.tail (s : BlockState) : Chomping → List Char
  | .none => []
  | .one => s.lastBreak.toList
  | .all => s.breaks ++ s.lastBreak.toList

/-- Scans a block after the mark of its kind; `outer?` is the column of what is around it. -/
def scanBlock? (isLiteral : Bool) (outer? : Option Nat) (c : Cursor) :
    Option (String × Cursor) := do
  let (header, c) ← BlockHeader.scan? c
  let given := header.increment.map fun n => outer?.getD 0 + n
  let m ← scanMargin? given c
  let least := max 1 (outer?.elim 0 (· + 1))
  let indent := given.getD (max m.widest least)
  let s ← repeatStep (blockStep isLiteral indent) (c.rest.length + 1)
    ⟨[], none, m.breaks, false, m.cursor⟩
  return (String.ofList (s.tail header.chomping ++ s.text).reverse, s.cursor)

end DriverHandover.Yaml
