import DriverHandover.Yaml.Cursor

/-!
# Gaps in flowing text

Where a text in quotes, or one without any marks, goes on after blanks, these belong to it as they
are. Where it goes on in another line, one end of a line becomes a blank, and each further one
stands for itself; the blanks around them do not count.

## Main definitions

* `Yaml.Gap` – blanks and ends of lines between two words.
* `Yaml.Gap.text` – what a gap stands for in the text.
* `Yaml.Gap.scan?` – scanning a gap.
-/

namespace DriverHandover.Yaml

/-- Blanks and ends of lines between two words. -/
structure Gap where
  /-- The blanks before the first end of a line, in reverse. -/
  blanks : List Char
  /-- The ends of lines, in reverse. -/
  breaks : List Char
  /-- Whether an end of a line that does not count stands before all of them. -/
  isJoined : Bool
  deriving Repr

namespace Gap

/-- No gap. -/
def empty : Gap := ⟨[], [], false⟩

/-- A gap that starts with an end of a line that does not count. -/
def joined : Gap := ⟨[], [], true⟩

/-- Whether a gap goes on in another line. -/
def isFolded (g : Gap) : Bool :=
  g.isJoined || !g.breaks.isEmpty

/-- Ends of lines as flowing text: a line feed alone becomes a blank, and before others it is left
out. -/
def fold : List Char → List Char
  | ['\n'] => [' ']
  | '\n' :: rest => rest
  | breaks => breaks

/-- What a gap stands for. -/
def text (g : Gap) : List Char :=
  if g.isJoined then g.breaks.reverse
  else if g.breaks.isEmpty then g.blanks.reverse
  else fold g.breaks.reverse

/-- The gap with one more blank. -/
def addBlank (g : Gap) (c : Char) : Gap :=
  if g.isFolded then g else { g with blanks := c :: g.blanks }

/-- The gap with one more end of a line. -/
def addBreak (g : Gap) (c : Char) : Gap :=
  { g with breaks := c :: g.breaks }

/-- Takes one character into a gap. In the lines after its first, tabs have to stand at `column` or
behind. -/
def step (column : Nat) (state : Gap × Cursor) : Step (Gap × Cursor) (Gap × Cursor) :=
  let (g, c) := state
  match c.takeBreak? with
  | some (x, after) => .again (g.addBreak x, after)
  | none =>
    match c.next? with
    | some x =>
      if !isBlank x then .done (g, c)
      else if g.isFolded ∧ x = '\t' ∧ c.column < column then .failed
      else .again (g.addBlank x, c.advance 1)
    | none => .done (g, c)

/-- Scans a gap that has started as `g`. -/
def scan? (column : Nat) (g : Gap) (c : Cursor) : Option (Gap × Cursor) :=
  repeatStep (step column) (c.rest.length + 1) (g, c)

end Gap

end DriverHandover.Yaml
