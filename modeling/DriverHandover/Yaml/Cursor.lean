/-!
# Places in a YAML text

YAML goes by columns and lines, so whoever scans a text has to know where they are. A cursor is a
place in a text with the text from there on.

## Main definitions

* `Yaml.isPrintable`, `Yaml.isBlank`, `Yaml.isBreak` – classes of characters.
* `Yaml.Cursor` – a place in a text, with `Cursor.advance` and `Cursor.takeBreak?`.
* `Yaml.repeatStep` – a scan in steps.
-/

namespace DriverHandover.Yaml

/-- Whether a character may stand in a text at all. -/
def isPrintable (c : Char) : Bool :=
  let n := c.toNat
  n == 0x09 || n == 0x0A || n == 0x0D || (0x20 ≤ n && n ≤ 0x7E) || n == 0x85 ||
    (0xA0 ≤ n && n ≤ 0xD7FF) || (0xE000 ≤ n && n ≤ 0xFFFD) || 0x10000 ≤ n

/-- Whether a character separates words on a line. -/
def isBlank (c : Char) : Bool :=
  c == ' ' || c == '\t'

/-- Whether a character ends a line. -/
def isBreak (c : Char) : Bool :=
  c == '\n' || c == '\r' || c == '\x85' || c == '\u2028' || c == '\u2029'

/-- Whether a character is a blank or ends a line, where the end of a text counts as well. -/
def isBlankOrEnd : Option Char → Bool
  | none => true
  | some c => isBlank c || isBreak c

/-- Whether a character ends a line, where the end of a text counts as well. -/
def isBreakOrEnd : Option Char → Bool
  | none => true
  | some c => isBreak c

/-- Whether a character may stand in a name: of an anchor, a handle or a directive. -/
def isNameChar (c : Char) : Bool :=
  c.isAlpha || c.isDigit || c == '_' || c == '-'

/-- The mark that can stand at the start of a text to tell its encoding. -/
def byteOrderMark : Char := '\ufeff'

/-- A text without a byte order mark at its start. -/
def withoutByteOrderMark : List Char → List Char
  | c :: rest => if c = byteOrderMark then rest else c :: rest
  | [] => []

/-- A place in a text. -/
structure Cursor where
  /-- The text from the place on. -/
  rest : List Char
  /-- The number of characters before it. -/
  index : Nat
  line : Nat
  column : Nat
  deriving Repr

namespace Cursor

/-- The start of a text. -/
def start (s : List Char) : Cursor := ⟨s, 0, 0, 0⟩

/-- The character so many places ahead. -/
def ahead? (c : Cursor) (n : Nat) : Option Char :=
  c.rest[n]?

/-- The next character. -/
def next? (c : Cursor) : Option Char :=
  c.rest.head?

/-- Whether the next character is a given one. -/
def isAt (c : Cursor) (x : Char) : Bool :=
  c.next? == some x

/-- Whether the next character ends a line. -/
def atBreak (c : Cursor) : Bool :=
  c.next?.any isBreak

/-- Whether the next character is a blank. -/
def atBlank (c : Cursor) : Bool :=
  c.next?.any isBlank

/-- Passes over so many characters of a line. -/
def advance (c : Cursor) (n : Nat) : Cursor :=
  { c with rest := c.rest.drop n, index := c.index + n, column := c.column + n }

/-- The next characters of a class, and the place after them. -/
def takeWhile (c : Cursor) (p : Char → Bool) : List Char × Cursor :=
  let taken := c.rest.takeWhile p
  (taken, c.advance taken.length)

/-- Passes over the next characters of a class. -/
def skipWhile (c : Cursor) (p : Char → Bool) : Cursor :=
  (c.takeWhile p).2

/-- The start of the next line, after so many characters. -/
def nextLine (c : Cursor) (n : Nat) : Cursor :=
  ⟨c.rest.drop n, c.index + n, c.line + 1, 0⟩

/-- The end of a line here, as it counts in a text, and the place after it. A carriage return and a
line feed are one end of a line; all but two ends count as line feeds. -/
def takeBreak? (c : Cursor) : Option (Char × Cursor) :=
  match c.rest with
  | '\r' :: '\n' :: _ => some ('\n', c.nextLine 2)
  | x :: _ =>
    if x == '\u2028' || x == '\u2029' then some (x, c.nextLine 1)
    else if isBreak x then some ('\n', c.nextLine 1)
    else none
  | [] => none

/-- Passes over the end of a line, if there is one here. -/
def skipBreak (c : Cursor) : Cursor :=
  ((c.takeBreak?).map (·.2)).getD c

/-- Passes over a byte order mark, if a line starts with one here. -/
def skipByteOrderMark (c : Cursor) : Cursor :=
  if c.column = 0 ∧ c.isAt byteOrderMark then c.advance 1 else c

/-- Passes over a comment, if there is one here. -/
def skipComment (c : Cursor) : Cursor :=
  if c.isAt '#' then c.skipWhile (!isBreak ·) else c

/-- Passes over blanks and a comment up to the end of the line, which has to follow. -/
def skipToNextLine? (c : Cursor) : Option Cursor :=
  let c := (c.skipWhile isBlank).skipComment
  if isBreakOrEnd c.next? then some c.skipBreak else none

/-- Whether a line starts here with a mark of three characters. -/
def atMark (c : Cursor) (x : Char) : Bool :=
  c.column == 0 && c.rest.take 3 == [x, x, x] && isBlankOrEnd (c.ahead? 3)

/-- Whether a line starts here that ends a document or starts one. -/
def atDocumentMark (c : Cursor) : Bool :=
  c.atMark '-' || c.atMark '.'

end Cursor

/-- What a step of a scan leads to. -/
inductive Step (σ α : Type) where
  | again (state : σ)
  | done (result : α)
  | failed

/-- Takes steps until one is the last, at most `fuel` of them. -/
def repeatStep (step : σ → Step σ α) : Nat → σ → Option α
  | 0, _ => none
  | fuel + 1, state =>
    match step state with
    | .again state => repeatStep step fuel state
    | .done result => some result
    | .failed => none

end DriverHandover.Yaml
