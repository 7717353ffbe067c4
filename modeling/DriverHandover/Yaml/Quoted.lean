import DriverHandover.Yaml.Gap

/-!
# Text in quotes

Between single quotes, two of them stand for one. Between double quotes, a backslash starts an
escape. Text in quotes can go on in other lines.

## Main definitions

* `Yaml.escape?` – the character that an escape stands for.
* `Yaml.scanQuoted?` – scanning a text in quotes.
-/

namespace DriverHandover.Yaml

/-- The two kinds of quotes. -/
inductive Quote where
  | single
  | double
  deriving DecidableEq, Repr

/-- The character of a quote. -/
def Quote.char : Quote → Char
  | single => '\''
  | double => '"'

/-- The character that a letter after a backslash stands for. -/
def escapedLetter? : Char → Option Char
  | '0' => some '\x00'
  | 'a' => some '\x07'
  | 'b' => some '\x08'
  | 't' | '\t' => some '\t'
  | 'n' => some '\n'
  | 'v' => some '\x0b'
  | 'f' => some '\x0c'
  | 'r' => some '\r'
  | 'e' => some '\x1b'
  | ' ' => some ' '
  | '"' => some '"'
  | '/' => some '/'
  | '\\' => some '\\'
  | 'N' => some '\x85'
  | '_' => some '\xa0'
  | 'L' => some '\u2028'
  | 'P' => some '\u2029'
  | _ => none

/-- The number of hexadecimal digits that follow a letter after a backslash. -/
def codeLength? : Char → Option Nat
  | 'x' => some 2
  | 'u' => some 4
  | 'U' => some 8
  | _ => none

/-- The value of a hexadecimal digit. -/
def hexDigit? (c : Char) : Option Nat :=
  if '0' ≤ c ∧ c ≤ '9' then some (c.toNat - '0'.toNat)
  else if 'a' ≤ c ∧ c ≤ 'f' then some (c.toNat - 'a'.toNat + 10)
  else if 'A' ≤ c ∧ c ≤ 'F' then some (c.toNat - 'A'.toNat + 10)
  else none

/-- The character with a code. -/
def charOfCode? (n : Nat) : Option Char :=
  if n.isValidChar then some (Char.ofNat n) else none

/-- The character that an escape stands for, of which `s` is what follows the backslash, and the
number of characters of `s` that belong to it. -/
def escape? (s : List Char) : Option (Char × Nat) :=
  match s with
  | [] => none
  | letter :: rest =>
    match codeLength? letter with
    | none => (escapedLetter? letter).map (·, 1)
    | some length =>
      if rest.length < length then none
      else do
        let code ← (rest.take length).foldlM (fun n c => (hexDigit? c).map (n * 16 + ·)) 0
        return (← charOfCode? code, length + 1)

/-- What follows a word in quotes. -/
inductive WordEnd where
  | quote
  | gap (start : Gap)
  deriving Repr

/-- Reads one character of a word in quotes; `read` holds those before it in reverse. -/
def wordStep (quote : Quote) (state : List Char × Cursor) :
    Step (List Char × Cursor) (List Char × WordEnd × Cursor) :=
  let (read, c) := state
  match c.rest with
  | [] => .failed
  | x :: s =>
    if isBlank x ∨ isBreak x then .done (read, .gap .empty, c)
    else if x = quote.char then
      if quote = .single ∧ s.head? = some '\'' then .again ('\'' :: read, c.advance 2)
      else .done (read, .quote, c.advance 1)
    else if quote = .double ∧ x = '\\' then
      let after := c.advance 1
      if after.atBreak then .done (read, .gap .joined, after.skipBreak)
      else
        match escape? s with
        | some (e, length) => .again (e :: read, after.advance length)
        | none => .failed
    else .again (x :: read, c.advance 1)

/-- Reads a word and the gap after it. A mark of a document may not stand in quotes. -/
def quotedStep (quote : Quote) (state : List Char × Cursor) :
    Step (List Char × Cursor) (List Char × Cursor) :=
  let (read, c) := state
  if c.atDocumentMark then .failed
  else
    match repeatStep (wordStep quote) (c.rest.length + 1) (read, c) with
    | none => .failed
    | some (read, .quote, c) => .done (read.reverse, c)
    | some (read, .gap start, c) =>
      match start.scan? 0 c with
      | none => .failed
      | some (gap, c) => .again (gap.text.reverse ++ read, c)

/-- Scans a text in quotes after the opening one. -/
def scanQuoted? (quote : Quote) (c : Cursor) : Option (String × Cursor) := do
  let (text, c) ← repeatStep (quotedStep quote) (c.rest.length + 1) ([], c)
  return (String.ofList text, c)

end DriverHandover.Yaml
