import DriverHandover.Yaml.Gap

/-!
# Text without quotes

Plain text ends where something else starts: at a comment, at a colon before a blank, in lists and
maps in brackets also at their marks, at a line that is not indented enough, and at a mark of a
document.

## Main definitions

* `Yaml.scanPlain?` – scanning a plain text.
-/

namespace DriverHandover.Yaml

/-- Whether a character is a mark of lists and maps in brackets. -/
def isFlowMark (c : Char) : Bool :=
  c == ',' || c == '[' || c == ']' || c == '\x7b' || c == '\x7d'

/-- The characters of a plain word. In brackets, a colon may not stand right before a mark. -/
def plainWord? (inFlow : Bool) : List Char → Option (List Char)
  | [] => some []
  | c :: rest =>
    if isBlank c || isBreak c then some []
    else if inFlow && c == ':' && rest.head?.any (fun d => isFlowMark d || d == '?') then none
    else if (c == ':' && isBlankOrEnd rest.head?) || (inFlow && isFlowMark c) then some []
    else (plainWord? inFlow rest).map (c :: ·)

/-- What has been scanned of a plain text. -/
structure PlainState where
  /-- The text in reverse. -/
  text : List Char
  /-- The gap since then. -/
  gap : Gap
  cursor : Cursor
  deriving Repr

/-- Reads a word of a plain text and the gap after it. -/
def plainStep (inFlow : Bool) (indent : Nat) (s : PlainState) : Step PlainState PlainState :=
  if s.cursor.atDocumentMark ∨ s.cursor.isAt '#' then .done s
  else
    match plainWord? inFlow s.cursor.rest with
    | none => .failed
    | some word =>
      let c := s.cursor.advance word.length
      let s : PlainState :=
        if word.isEmpty then s
        else ⟨word.reverse ++ (s.gap.text.reverse ++ s.text), .empty, c⟩
      if c.atBlank ∨ c.atBreak then
        match s.gap.scan? indent c with
        | none => .failed
        | some (gap, c) =>
          let s := { s with gap, cursor := c }
          if ¬ inFlow ∧ c.column < indent then .done s else .again s
      else .done s

/-- Scans a plain text, the lines of which have to start at column `indent` or behind unless it
stands in brackets. Also tells whether a line has ended after it. -/
def scanPlain? (inFlow : Bool) (indent : Nat) (c : Cursor) : Option (String × Bool × Cursor) := do
  let s ← repeatStep (plainStep inFlow indent) (c.rest.length + 1) ⟨[], .empty, c⟩
  return (String.ofList s.text.reverse, s.gap.isFolded, s.cursor)

end DriverHandover.Yaml
