import DriverHandover.Yaml.Block
import DriverHandover.Yaml.Plain
import DriverHandover.Yaml.Tag

/-!
# Scanning YAML into tokens

The tokens of a text are found from left to right, with two exceptions. That a text or a list is a
key shows only in the colon after it; so the place of each possible key is kept until the colon is
found or can no longer follow. And a block ends before the first line that is not indented enough.

## Main definitions

* `Yaml.Scanner` – what has been scanned of a text.
* `Yaml.Scanner.fetch` – scans the next token.
* `Yaml.Token.ofText?` – the tokens of a text.
-/

namespace DriverHandover.Yaml

/-- A place where a key may have started. -/
structure PossibleKey where
  /-- Whether nothing else but a key can have started there. -/
  isRequired : Bool
  /-- The number of tokens before it. -/
  position : Nat
  index : Nat
  line : Nat
  column : Nat
  deriving DecidableEq, Repr

/-- What has been scanned of a text. -/
structure Scanner where
  cursor : Cursor
  /-- The tokens so far, in reverse. -/
  tokens : List Token
  /-- The column of the innermost block, or -1 outside of all blocks. -/
  indent : Int
  /-- The columns of the blocks around it. -/
  outer : List Int
  /-- Whether a key may start here. -/
  keyAllowed : Bool
  /-- The possible key at this level of brackets. -/
  possibleKey : Option PossibleKey
  /-- The possible keys at the levels around it; outside of brackets there is none. -/
  outerKeys : List (Option PossibleKey)
  deriving Repr

namespace Scanner

/-- The start of a text. -/
def start (s : List Char) : Scanner :=
  ⟨.start s, [], -1, [], true, none, []⟩

/-- Whether the text from here on stands in brackets. -/
def inFlow (s : Scanner) : Bool :=
  !s.outerKeys.isEmpty

/-- Adds a token. -/
def emit (s : Scanner) (token : Token) : Scanner :=
  { s with tokens := token :: s.tokens }

/-- Adds a token after the first `position` ones. -/
def insert (s : Scanner) (position : Nat) (token : Token) : Scanner :=
  let later := s.tokens.length - position
  { s with tokens := s.tokens.take later ++ token :: s.tokens.drop later }

/-- Adds a token of so many characters. -/
def emitMark (s : Scanner) (token : Token) (length : Nat) : Scanner :=
  { s.emit token with cursor := s.cursor.advance length }

/-- The length that a key may have. -/
def maxKeyLength : Nat := 1024

/-- Whether no colon can make a key of a possible one any more: a key stands on one line. -/
def isStale (c : Cursor) (key : PossibleKey) : Bool :=
  key.line < c.line || key.index + maxKeyLength < c.index

/-- Gives up a possible key if it is stale; a required one may not be. -/
def dropStale? (c : Cursor) : Option PossibleKey → Option (Option PossibleKey)
  | none => some none
  | some key =>
    if !isStale c key then some (some key)
    else if key.isRequired then none
    else some none

/-- Gives up all possible keys that are stale. -/
def dropStaleKeys? (s : Scanner) : Option Scanner := do
  let possibleKey ← dropStale? s.cursor s.possibleKey
  let outerKeys ← s.outerKeys.mapM (dropStale? s.cursor)
  return { s with possibleKey, outerKeys }

/-- Gives up the possible key at this level, which may not be required. -/
def dropKey? (s : Scanner) : Option Scanner :=
  if s.possibleKey.any (·.isRequired) then none else some { s with possibleKey := none }

/-- Keeps this place as one where a key may start. -/
def keepKey? (s : Scanner) : Option Scanner := do
  if !s.keyAllowed then return s
  else
    let s ← s.dropKey?
    let c := s.cursor
    let isRequired := !s.inFlow && s.indent == c.column
    return { s with
      possibleKey := some ⟨isRequired, s.tokens.length, c.index, c.line, c.column⟩ }

/-- Starts a block at a column, unless there is one already; `token` goes after the first `position`
ones. -/
def openBlock (s : Scanner) (column : Nat) (position : Nat) (token : Token) : Scanner :=
  if !s.inFlow ∧ s.indent < column then
    { s.insert position token with indent := column, outer := s.indent :: s.outer }
  else s

/-- Ends the blocks that start behind a column, given those around the innermost one. -/
def closeBlocks (s : Scanner) (column : Int) : List Int → Scanner
  | [] => s
  | outer :: rest =>
    if column < s.indent then
      closeBlocks { s.emit .blockEnd with indent := outer, outer := rest } column rest
    else s

/-- Ends the blocks that start behind a column. -/
def dedent (s : Scanner) (column : Int) : Scanner :=
  if s.inFlow then s else s.closeBlocks column s.outer

/-- Ends all blocks, before something that belongs to no document. -/
def leaveDocument? (s : Scanner) : Option Scanner := do
  let s ← (s.dedent (-1)).dropKey?
  return { s with keyAllowed := false }

/-- Passes over what stands between tokens. Tabs may stand there where no key can start. A line end
outside of brackets is a place where one can. -/
def skipStep (s : Scanner) : Step Scanner Scanner :=
  let tabsAllowed := s.inFlow || !s.keyAllowed
  let c := s.cursor.skipByteOrderMark.skipWhile fun c => c == ' ' || (tabsAllowed && c == '\t')
  let c := c.skipComment
  if c.atBreak then
    .again { s with cursor := c.skipBreak, keyAllowed := s.keyAllowed || !s.inFlow }
  else .done { s with cursor := c }

/-- Goes to the next token, and ends the blocks that end before it. -/
def goToToken? (s : Scanner) : Option Scanner := do
  let s ← repeatStep skipStep (s.cursor.rest.length + 1) s
  let s ← s.dropStaleKeys?
  return s.dedent s.cursor.column

/-- Scans a mark that opens a pair of brackets. -/
def fetchOpening? (s : Scanner) (token : Token) : Option Scanner := do
  let s ← s.keepKey?
  let s := { s with outerKeys := s.possibleKey :: s.outerKeys, possibleKey := none }
  return { s.emitMark token 1 with keyAllowed := true }

/-- Scans a mark that closes a pair of brackets. -/
def fetchClosing? (s : Scanner) (token : Token) : Option Scanner := do
  let s ← s.dropKey?
  let s :=
    match s.outerKeys with
    | [] => s
    | key :: rest => { s with possibleKey := key, outerKeys := rest }
  return { s.emitMark token 1 with keyAllowed := false }

/-- Scans a comma in brackets. -/
def fetchComma? (s : Scanner) : Option Scanner := do
  let s ← s.dropKey?
  return { s.emitMark .flowEntry 1 with keyAllowed := true }

/-- Starts a block here, for a mark that can only stand where a key can. -/
def openMarkedBlock? (s : Scanner) (token : Token) : Option Scanner :=
  if s.inFlow then some s
  else if !s.keyAllowed then none
  else some (s.openBlock s.cursor.column s.tokens.length token)

/-- Scans the mark of an entry of a sequence. -/
def fetchEntry? (s : Scanner) : Option Scanner := do
  let s ← (← s.openMarkedBlock? .blockSequenceStart).dropKey?
  return { s.emitMark .blockEntry 1 with keyAllowed := true }

/-- Scans the mark of a key. -/
def fetchKey? (s : Scanner) : Option Scanner := do
  let s ← (← s.openMarkedBlock? .blockMappingStart).dropKey?
  return { s.emitMark .key 1 with keyAllowed := !s.inFlow }

/-- Scans the mark of a value. It makes a key of a possible one. -/
def fetchValue? (s : Scanner) : Option Scanner :=
  match s.possibleKey with
  | some key =>
    let s := (s.insert key.position .key).openBlock key.column key.position .blockMappingStart
    some { s.emitMark .value 1 with possibleKey := none, keyAllowed := false }
  | none => do
    let s ← s.openMarkedBlock? .blockMappingStart
    return { s.emitMark .value 1 with keyAllowed := !s.inFlow }

/-- Scans a token at which a key can start, but not after it. -/
def fetchNode? (s : Scanner) (scan : Cursor → Option (Token × Cursor)) : Option Scanner := do
  let s ← s.keepKey?
  let (token, cursor) ← scan s.cursor
  return { s.emit token with cursor, keyAllowed := false }

/-- Scans an anchor or an alias. -/
def scanNamed? (token : String → Token) (c : Cursor) : Option (Token × Cursor) :=
  (scanName? (c.advance 1)).map fun (name, c) => (token name, c)

/-- Scans a text in quotes. -/
def scanQuotedToken? (quote : Quote) (c : Cursor) : Option (Token × Cursor) :=
  (scanQuoted? quote (c.advance 1)).map fun (text, c) => (.scalar .marked text, c)

/-- Scans a block of text. -/
def fetchBlock? (s : Scanner) (isLiteral : Bool) : Option Scanner := do
  let s ← s.dropKey?
  let outer? := if s.indent < 0 then none else some s.indent.toNat
  let (text, cursor) ← scanBlock? isLiteral outer? (s.cursor.advance 1)
  return { s.emit (.scalar .marked text) with cursor, keyAllowed := true }

/-- Scans a plain text. If a line has ended after it, a key can start there. -/
def fetchPlain? (s : Scanner) : Option Scanner := do
  let s ← s.keepKey?
  let (text, lineEnded, cursor) ← scanPlain? s.inFlow (s.indent + 1).toNat s.cursor
  return { s.emit (.scalar .plain text) with cursor, keyAllowed := lineEnded }

/-- Scans a directive. -/
def fetchDirective? (s : Scanner) : Option Scanner := do
  let s ← s.leaveDocument?
  let (token, cursor) ← scanDirective? (s.cursor.advance 1)
  return { s.emit token with cursor }

/-- Scans a mark of a document. -/
def fetchDocumentMark? (s : Scanner) (token : Token) : Option Scanner := do
  return (← s.leaveDocument?).emitMark token 3

/-- Whether a plain text can start with a character, before another one. -/
def startsPlain (inFlow : Bool) (c : Char) (next : Option Char) : Bool :=
  if c = '-' then !next.any isBlank
  else if c = '?' ∨ c = ':' then !inFlow && !isBlankOrEnd next
  else !isBlank c && !isBreak c && !isFlowMark c && !"#&*!|>'\"%@\x60".toList.contains c

/-- Scans the token here, of which `c` is the first character and `next` the second one. -/
def fetchAt? (s : Scanner) (c : Char) (next : Option Char) : Option Scanner :=
  let isMark := s.inFlow || isBlankOrEnd next
  if s.cursor.column = 0 ∧ c = '%' then s.fetchDirective?
  else if s.cursor.atMark '-' then s.fetchDocumentMark? .documentStart
  else if s.cursor.atMark '.' then s.fetchDocumentMark? .documentEnd
  else if c = '[' then s.fetchOpening? .flowSequenceStart
  else if c = '\x7b' then s.fetchOpening? .flowMappingStart
  else if c = ']' then s.fetchClosing? .flowSequenceEnd
  else if c = '\x7d' then s.fetchClosing? .flowMappingEnd
  else if c = ',' then s.fetchComma?
  else if c = '-' ∧ isBlankOrEnd next then s.fetchEntry?
  else if c = '?' ∧ isMark then s.fetchKey?
  else if c = ':' ∧ isMark then s.fetchValue?
  else if c = '*' then s.fetchNode? (scanNamed? .aliasOf)
  else if c = '&' then s.fetchNode? (scanNamed? .anchor)
  else if c = '!' then s.fetchNode? (scanTag? s.inFlow)
  else if c = '|' ∧ ¬ s.inFlow then s.fetchBlock? true
  else if c = '>' ∧ ¬ s.inFlow then s.fetchBlock? false
  else if c = '\'' then s.fetchNode? (scanQuotedToken? .single)
  else if c = '"' then s.fetchNode? (scanQuotedToken? .double)
  else if startsPlain s.inFlow c next then s.fetchPlain?
  else none

/-- Ends all blocks at the end of a text, as on a line of its own. -/
def finish? (s : Scanner) : Option (List Token) := do
  let s ← s.leaveDocument?
  return s.tokens.reverse

/-- Scans the next token, or ends. -/
def fetch (s : Scanner) : Step Scanner (List Token) :=
  match s.goToToken? with
  | none => .failed
  | some s =>
    match s.cursor.next? with
    | none =>
      match s.finish? with
      | some tokens => .done tokens
      | none => .failed
    | some c =>
      match s.fetchAt? c (s.cursor.ahead? 1) with
      | some s => .again s
      | none => .failed

end Scanner

/-- The tokens of a text. A byte order mark at its start does not even count as a character. -/
def Token.ofText? (text : String) : Option (List Token) :=
  let s := withoutByteOrderMark text.toList
  if s.all isPrintable then repeatStep Scanner.fetch (s.length + 2) (.start s) else none

end DriverHandover.Yaml
