import DriverHandover.Yaml.Quoted
import DriverHandover.Yaml.Token

/-!
# Names, tags and directives

## Main definitions

* `Yaml.scanName?` – scanning the name of an anchor.
* `Yaml.scanTag?` – scanning a tag.
* `Yaml.scanDirective?` – scanning a directive.
-/

namespace DriverHandover.Yaml

/-- Scans the name of an anchor or an alias after its mark. -/
def scanName? (c : Cursor) : Option (String × Cursor) :=
  let (name, c) := c.takeWhile isNameChar
  let isEnd := isBlankOrEnd c.next? || c.next?.any "?:,]\x7d%@\x60".toList.contains
  if name.isEmpty || !isEnd then none else some (String.ofList name, c)

/-- Whether a character may stand in a tag. Outside of brackets and braces, `isLong` admits some
more. -/
def isTagChar (isLong : Bool) (c : Char) : Bool :=
  isNameChar c || ";/?:@&=+$.%!~*'()".toList.contains c || (isLong && ",[]".toList.contains c)

/-- The byte that a percent sign with two digits stands for. -/
def escapedByte? : List Char → Option (UInt8 × List Char)
  | '%' :: a :: b :: rest => do
    return (UInt8.ofNat ((← hexDigit? a) * 16 + (← hexDigit? b)), rest)
  | _ => none

/-- The number of bytes of a character, by the first one of them. -/
def sequenceLength? (byte : UInt8) : Option Nat :=
  if byte < 0x80 then some 1
  else if 0xC0 ≤ byte ∧ byte < 0xE0 then some 2
  else if 0xE0 ≤ byte ∧ byte < 0xF0 then some 3
  else if 0xF0 ≤ byte ∧ byte < 0xF8 then some 4
  else none

/-- Escaped bytes that go on with a character. -/
def trailingBytes? : Nat → List Char → Option (List UInt8)
  | 0, _ => some []
  | n + 1, s => do
    let (byte, s) ← escapedByte? s
    if 0x80 ≤ byte ∧ byte < 0xC0 then return byte :: (← trailingBytes? n s) else none

/-- The bytes of an escaped character. -/
def escapedBytes? (s : List Char) : Option (List UInt8) := do
  let (byte, rest) ← escapedByte? s
  let length ← sequenceLength? byte
  return byte :: (← trailingBytes? (length - 1) rest)

/-- Scans one character of a tag; `read` holds the bytes before it in reverse. -/
def tagStep (isLong : Bool) (state : List UInt8 × Cursor) :
    Step (List UInt8 × Cursor) (List UInt8 × Cursor) :=
  let (read, c) := state
  match c.next? with
  | none => .done state
  | some x =>
    if !isTagChar isLong x then .done state
    else if x = '%' then
      match escapedBytes? c.rest with
      | some bytes => .again (bytes.reverse ++ read, c.advance (3 * bytes.length))
      | none => .failed
    else .again (UInt8.ofNat x.toNat :: read, c.advance 1)

/-- Scans the characters of a tag. -/
def scanTagChars? (isLong : Bool) (c : Cursor) : Option (List UInt8 × Cursor) := do
  let (bytes, c) ← repeatStep (tagStep isLong) (c.rest.length + 1) ([], c)
  return (bytes.reverse, c)

/-- Scans what can be a handle: an exclamation mark, a name, and an exclamation mark again, if there
is one. -/
def scanHandle? (c : Cursor) : Option (List Char × Cursor) :=
  if !c.isAt '!' then none
  else
    let (name, c) := (c.advance 1).takeWhile isNameChar
    if c.isAt '!' then some ('!' :: name ++ ['!'], c.advance 1) else some ('!' :: name, c)

/-- Whether a handle is one between two exclamation marks. -/
def isNamedHandle (handle : List Char) : Bool :=
  2 ≤ handle.length && handle.getLast? == some '!'

/-- The bytes of a text of ASCII characters. -/
def asciiBytes (s : List Char) : List UInt8 :=
  s.map fun c => UInt8.ofNat c.toNat

/-- Scans a tag between angle brackets, from its exclamation mark on. -/
def scanVerbatimTag? (c : Cursor) : Option (Token × Cursor) := do
  let (bytes, c) ← scanTagChars? true (c.advance 2)
  if bytes.isEmpty ∨ ¬ c.isAt '>' then none else some (.tag none bytes, c.advance 1)

/-- Scans a tag with a handle, which is `!` if it has no other one. A lone exclamation mark is a tag
that stands for itself. -/
def scanShortTag? (c : Cursor) : Option (Token × Cursor) := do
  let (handle, c) ← scanHandle? c
  let (bytes, c) ← scanTagChars? false c
  if isNamedHandle handle then
    if bytes.isEmpty then none else some (.tag (some (String.ofList handle)) bytes, c)
  else
    let bytes := asciiBytes (handle.drop 1) ++ bytes
    if bytes.isEmpty then some (.tag none (asciiBytes ['!']), c)
    else some (.tag (some "!") bytes, c)

/-- Scans a tag, which ends at a blank, at the end of a line or, in brackets, at a comma. -/
def scanTag? (inFlow : Bool) (c : Cursor) : Option (Token × Cursor) := do
  let (token, c) ← if c.ahead? 1 = some '<' then scanVerbatimTag? c else scanShortTag? c
  if isBlankOrEnd c.next? ∨ (inFlow ∧ c.isAt ',') then some (token, c) else none

/-- The number of digits that the parts of a version may have. -/
def maxVersionDigits : Nat := 9

/-- Scans a part of a version. -/
def scanVersionNumber? (c : Cursor) : Option (Nat × Cursor) :=
  let (digits, c) := c.takeWhile Char.isDigit
  if digits.isEmpty ∨ maxVersionDigits < digits.length then none
  else some (digits.foldl (fun n d => n * 10 + (d.toNat - '0'.toNat)) 0, c)

/-- Scans the version of a directive. -/
def scanVersion? (c : Cursor) : Option (Token × Cursor) := do
  let (major, c) ← scanVersionNumber? (c.skipWhile isBlank)
  if !c.isAt '.' then none
  else
    let (minor, c) ← scanVersionNumber? (c.advance 1)
    return (.version major minor, c)

/-- Scans the handle of a directive and what it stands for. -/
def scanTagHandle? (c : Cursor) : Option (Token × Cursor) := do
  let (handle, c) ← scanHandle? (c.skipWhile isBlank)
  if handle.length ≠ 1 ∧ ¬ isNamedHandle handle then none
  else if !c.atBlank then none
  else
    let (bytes, c) ← scanTagChars? true (c.skipWhile isBlank)
    if bytes.isEmpty ∨ ¬ isBlankOrEnd c.next? then none
    else some (.tagHandle (String.ofList handle) bytes, c)

/-- Scans a directive after its percent sign, up to the next line. -/
def scanDirective? (c : Cursor) : Option (Token × Cursor) := do
  let (name, c) := c.takeWhile isNameChar
  if !isBlankOrEnd c.next? then none
  else
    let (token, c) ←
      match String.ofList name with
      | "YAML" => scanVersion? c
      | "TAG" => scanTagHandle? c
      | _ => none
    return (token, ← c.skipToNextLine?)

end DriverHandover.Yaml
