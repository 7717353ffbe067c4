import DriverHandover.Json

/-!
# JSON texts as far as they can be read

A text that breaks off, or that goes wrong somewhere, still tells something up to there. A draft is
the value that it writes so far, with a mark at the place where it stops. Whether a text fails, and
how, can depend on what is asked of it: a part that only has to be passed over may hold strings and
numbers that cannot be read.

What fails first, from left to right, is what counts.

## Main definitions

* `JsonError` – the two ways to fail: the text ends too early, or it goes wrong.
* `JsonFault` – where a text stops writing a value, and how that fails.
* `Json.Draft` – a value as far as it is written, with `Json.Draft.ofJson` for a whole one.
* `Json.Draft.skip`, `Json.Draft.whole` – passing over a draft, and reading all of it.
* `Json.Draft.asString`, `Json.Draft.list`, … – readers of plain shapes.
-/

namespace DriverHandover

/-- Why a text writes no JSON value. -/
inductive JsonError where
  /-- The text ends before the value does. -/
  | truncated
  | malformed
  deriving DecidableEq, Repr

/-- Where a text stops writing a value. -/
inductive JsonFault where
  /-- The text ends where something has to follow. -/
  | ended
  /-- The text ends after the comma before a key. -/
  | comma
  /-- Something follows that cannot. -/
  | foreign
  /-- The text ends inside `null`, `true` or `false`. -/
  | word
  /-- The text ends inside a number. -/
  | number
  /-- The text ends inside a string, of which all so far is `readable` or not. -/
  | text (readable : Bool)
  deriving DecidableEq, Repr

namespace JsonFault

/-- How reading fails. -/
def whenRead : JsonFault → JsonError
  | ended | comma | word | number | text true => .truncated
  | foreign | text false => .malformed

/-- How passing over fails. Here a number that breaks off is one that goes wrong. -/
def whenSkipped : JsonFault → JsonError
  | ended | comma | word | text _ => .truncated
  | foreign | number => .malformed

/-- How reading fails where only a string or an object can stand, so that a word or a number is
wrong from its first character on. -/
def whenNamed : JsonFault → JsonError
  | ended | comma | text true => .truncated
  | foreign | word | number | text false => .malformed

end JsonFault

/-- A reading fails, or has a result. -/
abbrev JsonReading := Except JsonError

namespace Json

/-- A value as far as a text writes it. -/
inductive Draft where
  | null
  | bool (b : Bool)
  | integer (n : Int)
  | double (bits : UInt64)
  | string (s : String)
  /-- An array, and how the text stops before the next comma or the end of it, if it does. -/
  | array (items : List Draft) (stop : Option JsonFault)
  /-- An object, and how the text stops before the next value or the end of it, if it does. A key
  that cannot be read is missing. -/
  | object (members : List (Option String × Draft)) (stop : Option JsonFault)
  /-- A value that can only be passed over. -/
  | unreadable (value : Draft)
  /-- The text stops here. -/
  | fault (f : JsonFault)
  deriving Inhabited, Repr

namespace Draft

mutual

/-- The draft of a whole value. -/
def ofJson : Json → Draft
  | .null => null
  | .bool b => bool b
  | .integer n => integer n
  | .double bits => double bits
  | .string s => string s
  | .array items => array (ofItems items) none
  | .object members => object (ofMembers members) none

/-- The drafts of whole items. -/
def ofItems : List Json → List Draft
  | [] => []
  | item :: rest => ofJson item :: ofItems rest

/-- The drafts of whole members. -/
def ofMembers : List (String × Json) → List (Option String × Draft)
  | [] => []
  | (key, value) :: rest => (some key, ofJson value) :: ofMembers rest

end

/-- The end of an array or an object, which is reached unless the text stops before it. -/
def close (error : JsonFault → JsonError) : Option JsonFault → JsonReading Unit
  | none => .ok ()
  | some f => .error (error f)

mutual

/-- Passes over a draft. -/
def skip : Draft → JsonReading Unit
  | array items stop => do
    skipItems items
    close JsonFault.whenSkipped stop
  | object members stop => do
    skipMembers members
    close JsonFault.whenSkipped stop
  | unreadable value => skip value
  | fault f => .error f.whenSkipped
  | _ => .ok ()

/-- Passes over items. -/
def skipItems : List Draft → JsonReading Unit
  | [] => .ok ()
  | item :: rest => do
    skip item
    skipItems rest

/-- Passes over members. -/
def skipMembers : List (Option String × Draft) → JsonReading Unit
  | [] => .ok ()
  | (_, value) :: rest => do
    skip value
    skipMembers rest

end

/-- A key that has to be read. -/
def readKey : Option String → JsonReading String
  | some key => .ok key
  | none => .error .malformed

mutual

/-- Reads all of a draft. -/
def whole : Draft → JsonReading Json
  | null => .ok .null
  | bool b => .ok (.bool b)
  | integer n => .ok (.integer n)
  | double bits => .ok (.double bits)
  | string s => .ok (.string s)
  | array items stop => do
    let items ← wholeItems items
    close JsonFault.whenRead stop
    return .array items
  | object members stop => do
    let members ← wholeMembers members
    close JsonFault.whenRead stop
    return .object members
  | unreadable _ => .error .malformed
  | fault f => .error f.whenRead

/-- Reads all of the items. -/
def wholeItems : List Draft → JsonReading (List Json)
  | [] => .ok []
  | item :: rest => do
    let item ← whole item
    return item :: (← wholeItems rest)

/-- Reads all of the members. -/
def wholeMembers : List (Option String × Draft) → JsonReading (List (String × Json))
  | [] => .ok []
  | (key, value) :: rest => do
    let key ← readKey key
    let value ← whole value
    return (key, value) :: (← wholeMembers rest)

end

/-- How reading fails on a draft of another type than the one asked for. Before that, a word, a
number or a string is read to its end. -/
def mistyped : Draft → JsonError
  | fault f => f.whenRead
  | _ => .malformed

/-- A string. -/
def asString : Draft → JsonReading String
  | string s => .ok s
  | draft => .error draft.mistyped

/-- A truth value. -/
def asBool : Draft → JsonReading Bool
  | bool b => .ok b
  | draft => .error draft.mistyped

/-- An integer between two bounds, the upper one not included. -/
def asInteger (low high : Int) : Draft → JsonReading Int
  | integer n => if low ≤ n ∧ n < high then .ok n else .error .malformed
  | draft => .error draft.mistyped

/-- A value that may be `null`. -/
def optional (read : Draft → JsonReading α) : Draft → JsonReading (Option α)
  | null => .ok none
  | draft => do return some (← read draft)

/-- The items of an array, each read. -/
def list (read : Draft → JsonReading α) : Draft → JsonReading (List α)
  | array items stop => do
    let items ← items.mapM read
    close JsonFault.whenRead stop
    return items
  | draft => .error draft.mistyped

/-- The members of an object, each value read. -/
def entries (read : Draft → JsonReading α) : Draft → JsonReading (List (String × α))
  | object members stop => do
    let members ← members.mapM fun (key, value) => do
      let key ← readKey key
      return (key, ← read value)
    close JsonFault.whenRead stop
    return members
  | draft => .error draft.mistyped

end Draft

end Json

end DriverHandover
