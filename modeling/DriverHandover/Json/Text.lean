import DriverHandover.Json.Double
import DriverHandover.Json.Draft
import DriverHandover.Text.Number

/-!
# JSON text

A text is scanned from left to right into a draft of the value that it writes; a scanner returns
what it has found and, unless the text stops there, the rest of the text.

## Main definitions

* `Json.Draft.ofText` – the draft that a text writes.
* `Json.parse` – the value that a text writes.
-/

namespace DriverHandover.Json

/-- The characters that may stand between the parts of a value. -/
def isSpace (c : Char) : Bool :=
  c == ' ' || c == '\n' || c == '\t' || c == '\r'

/-- The text without the space at its start. -/
def skipSpace (s : List Char) : List Char :=
  s.dropWhile isSpace

/-- The value of a hexadecimal digit. -/
def hexDigit? (c : Char) : Option Nat :=
  if '0' ≤ c ∧ c ≤ '9' then some (c.toNat - '0'.toNat)
  else if 'a' ≤ c ∧ c ≤ 'f' then some (c.toNat - 'a'.toNat + 10)
  else if 'A' ≤ c ∧ c ≤ 'F' then some (c.toNat - 'A'.toNat + 10)
  else none

/-- A number of hexadecimal digits. -/
def hexNumber? (s : List Char) : Option Nat :=
  s.foldlM (fun n c => (hexDigit? c).map (n * 16 + ·)) 0

/-- The length of a text in UTF-8. -/
def byteLength (s : List Char) : Nat :=
  s.foldl (fun n c => n + c.utf8Size) 0

/-- Reads the code unit after `\u`, for which the text needs at least four more bytes. -/
def readUnit (s : List Char) : JsonReading (Nat × List Char) :=
  if byteLength (s.take 4) < 4 then .error .truncated
  else
    match hexNumber? (s.take 4) with
    | some unit => .ok (unit, s.drop 4)
    | none => .error .malformed

/-- Whether a code unit is the first of a pair. -/
def isHighSurrogate (unit : Nat) : Bool := 0xD800 ≤ unit && unit < 0xDC00

/-- Whether a code unit is the second of a pair. -/
def isLowSurrogate (unit : Nat) : Bool := 0xDC00 ≤ unit && unit < 0xE000

/-- The character of a pair of code units. -/
def ofSurrogates (high low : Nat) : Char :=
  Char.ofNat (0x10000 + (high - 0xD800) * 0x400 + (low - 0xDC00))

/-- The character that a letter after a backslash stands for. -/
def escaped? : Char → Option Char
  | '"' => some '"'
  | '\\' => some '\\'
  | '/' => some '/'
  | 'b' => some '\x08'
  | 'f' => some '\x0c'
  | 'n' => some '\n'
  | 'r' => some '\r'
  | 't' => some '\t'
  | _ => none

/-- What an escape after a backslash amounts to. -/
inductive Escape where
  /-- A character, or a code unit that is none and cannot be read. -/
  | found (c : Option Char) (rest : List Char)
  | ends
  | wrong

/-- Scans an escape after its backslash. A code unit that is the first of a pair takes the second
one with it. -/
def scanEscape : List Char → Escape
  | [] => .ends
  | 'u' :: s =>
    match readUnit s with
    | .error .truncated => .ends
    | .error .malformed => .wrong
    | .ok (unit, s) =>
      if isLowSurrogate unit then .found none s
      else if !isHighSurrogate unit then .found (some (Char.ofNat unit)) s
      else
        match s with
        | [] | ['\\'] => .ends
        | '\\' :: 'u' :: t =>
          match readUnit t with
          | .error .truncated => .ends
          | .error .malformed => .wrong
          | .ok (low, t) =>
            if isLowSurrogate low then .found (some (ofSurrogates unit low)) t else .found none s
        | _ => .found none s
  | c :: s =>
    match escaped? c with
    | some c => .found (some c) s
    | none => .wrong

/-- Scans the rest of a string after its opening quote, in at most `fuel` steps; `read?` holds the
characters so far in reverse, or nothing if they cannot be read. -/
def scanString :
    Nat → Option (List Char) → List Char → Except JsonFault (Option String × List Char)
  | 0, _, _ => .error .foreign
  | _ + 1, read?, [] => .error (.text read?.isSome)
  | fuel + 1, read?, c :: s =>
    if c = '"' then .ok (read?.map fun read => String.ofList read.reverse, s)
    else if c = '\\' then
      match scanEscape s with
      | .found (some c) s => scanString fuel (read?.map (c :: ·)) s
      | .found none s => scanString fuel none s
      | .ends => .error (.text read?.isSome)
      | .wrong => .error .foreign
    else if c.toNat < 0x20 then .error .foreign
    else scanString fuel (read?.map (c :: ·)) s

/-- Scans the rest of a string after its opening quote. -/
def scanText (s : List Char) : Except JsonFault (Option String × List Char) :=
  scanString (s.length + 1) (some []) s

/-- Scans at least one digit. -/
def scanDigits (s : List Char) : Except JsonFault (List Nat × List Char) :=
  match s with
  | [] => .error .number
  | c :: _ =>
    if c.isDigit then .ok (s.takeWhile Char.isDigit |>.filterMap Number.digit?,
      s.dropWhile Char.isDigit)
    else .error .foreign

/-- Scans the whole part of a number: a single zero, or digits that start with no zero. -/
def scanWhole (s : List Char) : Except JsonFault (List Nat × List Char) :=
  match s with
  | '0' :: c :: rest =>
    if c.isDigit then .error .foreign else .ok ([0], c :: rest)
  | s => scanDigits s

/-- Scans the decimal places of a number, if it has any. -/
def scanFraction : List Char → Except JsonFault (List Nat × List Char)
  | '.' :: s => scanDigits s
  | s => .ok ([], s)

/-- The number that digits write. -/
def ofDigits (digits : List Nat) : Nat :=
  digits.foldl (fun n digit => n * 10 + digit) 0

/-- Scans the exponent of a number, if it has one. -/
def scanExponent : List Char → Except JsonFault (Option Int × List Char)
  | [] => .ok (none, [])
  | c :: s =>
    if c = 'e' ∨ c = 'E' then
      match s with
      | '-' :: s => do
        let (digits, s) ← scanDigits s
        return (some (-(ofDigits digits : Int)), s)
      | '+' :: s => do
        let (digits, s) ← scanDigits s
        return (some (ofDigits digits : Int), s)
      | s => do
        let (digits, s) ← scanDigits s
        return (some (ofDigits digits : Int), s)
    else .ok (none, c :: s)

/-- Whether an integer has at most 64 bits, with a sign or without. -/
def isWord (n : Int) : Bool :=
  -0x8000000000000000 ≤ n && n < 0x10000000000000000

/-- The number of a sign, digits before and after the point and an exponent. One that is too large
can only be passed over. Zero with a minus sign is a double. -/
def Draft.ofNumber (negative : Bool) (whole fraction : List Nat) (exponent : Option Int) : Draft :=
  let magnitude := ofDigits whole
  let n : Int := if negative then -(magnitude : Int) else magnitude
  if fraction.isEmpty ∧ exponent.isNone ∧ isWord n ∧ ¬ (negative ∧ magnitude = 0) then .integer n
  else
    match Double.ofDigits? negative whole fraction (exponent.getD 0) with
    | some bits => .double bits
    | none => .unreadable .null

/-- Scans a number after its sign. -/
def scanNumber (negative : Bool) (s : List Char) : Except JsonFault (Draft × List Char) := do
  let (whole, s) ← scanWhole s
  let (fraction, s) ← scanFraction s
  let (exponent, s) ← scanExponent s
  return (.ofNumber negative whole fraction exponent, s)

/-- Scans the rest of a word. -/
def scanWord (value : Draft) : List Char → List Char → Except JsonFault (Draft × List Char)
  | [], s => .ok (value, s)
  | _ :: _, [] => .error .word
  | c :: cs, d :: s => if c = d then scanWord value cs s else .error .foreign

/-- What a scanner has found, and the rest of the text unless it stops there. -/
abbrev Scanned (α : Type) := α × Option (List Char)

/-- The draft of a value of one token. -/
def Draft.ofToken : Except JsonFault (Draft × List Char) → Scanned Draft
  | .ok (draft, s) => (draft, some s)
  | .error f => (.fault f, none)

/-- The draft of a string; one that cannot be read can be passed over. -/
def Draft.ofString : Except JsonFault (Option String × List Char) → Scanned Draft
  | .ok (some text, s) => (.string text, some s)
  | .ok (none, s) => (.unreadable .null, some s)
  | .error f => (.fault f, none)

/-- A value as deep inside others as is too deep for reading, if `room` is used up. -/
def Draft.within (room : Nat) (draft : Draft) : Draft :=
  if room = 0 then .unreadable draft else draft

mutual

/-- Scans a value in at most `fuel` steps, with `room` for so many levels that can be read. -/
def scanValue (fuel room : Nat) (s : List Char) : Scanned Draft :=
  match fuel with
  | 0 => (.fault .foreign, none)
  | fuel + 1 =>
    match skipSpace s with
    | [] => (.fault .ended, none)
    | 'n' :: s => Draft.ofToken (scanWord .null ['u', 'l', 'l'] s)
    | 't' :: s => Draft.ofToken (scanWord (.bool true) ['r', 'u', 'e'] s)
    | 'f' :: s => Draft.ofToken (scanWord (.bool false) ['a', 'l', 's', 'e'] s)
    | '-' :: s => Draft.ofToken (scanNumber true s)
    | '"' :: s => Draft.ofString (scanText s)
    | '[' :: s =>
      match skipSpace s with
      | [] => (Draft.within room (.array [] (some .ended)), none)
      | ']' :: s => (Draft.within room (.array [] none), some s)
      | s =>
        let ((items, stop), rest) := scanItems fuel (room - 1) s
        (Draft.within room (.array items stop), rest)
    | '\x7b' :: s =>
      match skipSpace s with
      | [] => (Draft.within room (.object [] (some .ended)), none)
      | '\x7d' :: s => (Draft.within room (.object [] none), some s)
      | '"' :: s =>
        let ((members, stop), rest) := scanMembers fuel (room - 1) s
        (Draft.within room (.object members stop), rest)
      | _ => (Draft.within room (.object [] (some .foreign)), none)
    | c :: s =>
      if c.isDigit then Draft.ofToken (scanNumber false (c :: s)) else (.fault .foreign, none)

/-- Scans the items of an array up to its end. -/
def scanItems (fuel room : Nat) (s : List Char) : Scanned (List Draft × Option JsonFault) :=
  match fuel with
  | 0 => (([], some .foreign), none)
  | fuel + 1 =>
    match scanValue fuel room s with
    | (item, none) => (([item], none), none)
    | (item, some s) =>
      match skipSpace s with
      | [] => (([item], some .ended), none)
      | ']' :: s => (([item], none), some s)
      | ',' :: s =>
        let ((items, stop), rest) := scanItems fuel room s
        ((item :: items, stop), rest)
      | _ => (([item], some .foreign), none)

/-- Scans the members of an object up to its end, from after the opening quote of the first one. -/
def scanMembers (fuel room : Nat) (s : List Char) :
    Scanned (List (Option String × Draft) × Option JsonFault) :=
  match fuel with
  | 0 => (([], some .foreign), none)
  | fuel + 1 =>
    match scanText s with
    | .error f => (([], some f), none)
    | .ok (key, s) =>
      match skipSpace s with
      | [] => (([(key, .fault .ended)], none), none)
      | ':' :: s =>
        match scanValue fuel room s with
        | (value, none) => (([(key, value)], none), none)
        | (value, some s) =>
          match skipSpace s with
          | [] => (([(key, value)], some .ended), none)
          | '\x7d' :: s => (([(key, value)], none), some s)
          | ',' :: s =>
            match skipSpace s with
            | [] => (([(key, value)], some .comma), none)
            | '"' :: s =>
              let ((members, stop), rest) := scanMembers fuel room s
              (((key, value) :: members, stop), rest)
            | _ => (([(key, value)], some .foreign), none)
          | _ => (([(key, value)], some .foreign), none)
      | _ => (([(key, .fault .foreign)], none), none)

end

/-- The number of levels that can be read. -/
def maxDepth : Nat := 127

/-- The draft that a text writes, and whether more than space follows it. -/
def Draft.ofText (text : String) : Draft × Bool :=
  let s := text.toList
  let (draft, rest) := scanValue (2 * s.length + 2) maxDepth s
  (draft, rest.any fun rest => !(skipSpace rest).isEmpty)

/-- Reads a text: a draft as `read` asks for it, and nothing after it. -/
def readText (read : Draft → JsonReading α) (text : String) : JsonReading α := do
  let (draft, more) := Draft.ofText text
  let a ← read draft
  if more then .error .malformed else .ok a

/-- The value that a text writes. -/
def parse (text : String) : JsonReading Json :=
  readText Draft.whole text

end DriverHandover.Json
