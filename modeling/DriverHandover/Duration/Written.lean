import DriverHandover.Duration
import DriverHandover.Text.Blank
import DriverHandover.Text.Number

/-!
# Durations as people write them

A duration is written as a sequence of numbers with units, such as `1h 30m` or `1.5s`. Blanks may
stand anywhere except inside a unit. A lone `0` is the only number that needs no unit.

## Main definitions

* `TimeUnit` – the units, with `TimeUnit.ofWord?` for the words that denote them.
* `Duration.ofWritten?` – the duration that a text denotes.

## Design notes

Numbers, and the seconds of the result, have at most 64 bits. A fraction has to come out exactly:
as a number of nanoseconds for units up to the minute, and of whole seconds for longer ones.
-/

namespace DriverHandover

/-- A unit of time. -/
inductive TimeUnit where
  | nanosecond
  | microsecond
  | millisecond
  | second
  | minute
  | hour
  | day
  | week
  | month
  | year
  deriving DecidableEq, Repr

namespace TimeUnit

/-- All units. -/
def all : List TimeUnit :=
  [nanosecond, microsecond, millisecond, second, minute, hour, day, week, month, year]

/-- The words for a unit. -/
def words : TimeUnit → List String
  | nanosecond => ["nanos", "nsec", "ns"]
  | microsecond => ["usec", "us", "µs"]
  | millisecond => ["millis", "msec", "ms"]
  | second => ["seconds", "second", "secs", "sec", "s"]
  | minute => ["minutes", "minute", "min", "mins", "m"]
  | hour => ["hours", "hour", "hrs", "hr", "h"]
  | day => ["days", "day", "d"]
  | week => ["weeks", "week", "wks", "wk", "w"]
  | month => ["months", "month", "M"]
  | year => ["years", "year", "yrs", "yr", "y"]

/-- The unit that a word denotes. -/
def ofWord? (word : String) : Option TimeUnit :=
  all.find? fun unit => unit.words.contains word

/-- The length of a unit: in seconds, or in nanoseconds if it is shorter than a second. A year has
365.25 days, and a month a twelfth of that. -/
def length : TimeUnit → Nat
  | nanosecond => 1
  | microsecond => 1000
  | millisecond => 1000000
  | second => 1
  | minute => 60
  | hour => 3600
  | day => 86400
  | week => 604800
  | month => 2630016
  | year => 31557600

/-- Whether the length of a unit is one in nanoseconds. -/
def isSubsecond : TimeUnit → Bool
  | nanosecond | microsecond | millisecond => true
  | _ => false

end TimeUnit

/-- A number in a written duration, with the parts before and after the point. -/
structure WrittenNumber where
  whole : Nat
  /-- The digits after the point as a number, and the power of ten that it is divided by. -/
  fraction : Option (Nat × Nat)
  deriving DecidableEq, Repr

namespace Duration

/-- A number of at most 64 bits. -/
def word64? (n : Nat) : Option Nat :=
  if n < UInt64.size then some n else none

/-- Adds seconds and nanoseconds to a duration. -/
def plus? (d : Duration) (seconds nanos : Nat) : Option Duration := do
  let _ ← word64? (d.subsecNanos + nanos)
  let sum : Duration := ⟨d.nanos + seconds * 1000000000 + nanos⟩
  let _ ← word64? sum.seconds
  return sum

/-- Adds so many units to a duration. -/
def plusUnits? (d : Duration) (unit : TimeUnit) (count : Nat) : Option Duration := do
  let amount ← word64? (count * unit.length)
  if unit.isSubsecond then d.plus? 0 amount else d.plus? amount 0

/-- A fraction of a length, if it comes out exactly. -/
def share? (length numerator denominator : Nat) : Option Nat := do
  let amount ← word64? (numerator * length)
  if amount % denominator = 0 then some (amount / denominator) else none

/-- Adds a fraction of a unit to a duration. A nanosecond has no fractions. -/
def plusFraction? (d : Duration) (unit : TimeUnit) (numerator denominator : Nat) :
    Option Duration := do
  if unit = .nanosecond then none
  else if unit.isSubsecond then d.plus? 0 (← share? unit.length numerator denominator)
  else if unit.length ≤ TimeUnit.minute.length then
    d.plus? 0 (← share? (unit.length * 1000000000) numerator denominator)
  else d.plus? (← share? unit.length numerator denominator) 0

/-- Adds a written number of units to a duration. -/
def plusWritten? (d : Duration) (n : WrittenNumber) (unitWord : List Char) : Option Duration := do
  let unit ← TimeUnit.ofWord? (String.ofList unitWord)
  let d ← d.plusUnits? unit n.whole
  match n.fraction with
  | none => return d
  | some (numerator, denominator) => d.plusFraction? unit numerator denominator

/-- The characters that units are made of. -/
def isUnitChar (c : Char) : Bool :=
  c.isAlpha || c == 'µ'

/-- One more digit of a number. -/
def appendDigit? (n digit : Nat) : Option Nat :=
  word64? (n * 10 + digit)

/-- What is read next. -/
inductive WrittenPart where
  /-- The first digit of a number, or the end. -/
  | start
  /-- More digits, a point, or a unit. -/
  | whole (n : Nat)
  /-- More digits after the point, or a unit. -/
  | fraction (n numerator denominator : Nat)
  /-- More of a unit, the characters of which so far are given in reverse. -/
  | unit (n : WrittenNumber) (word : List Char)
  deriving Repr

/-- The number before a unit, when the first character of that is read; a point needs a digit after
it. -/
def WrittenPart.number? : WrittenPart → Option WrittenNumber
  | .whole n => some ⟨n, none⟩
  | .fraction n numerator denominator =>
    if denominator = 1 then none else some ⟨n, some (numerator, denominator)⟩
  | _ => none

/-- Adds up what is left of a written duration. -/
def readParts (d : Duration) : WrittenPart → List Char → Option Duration
  | .start, [] => some d
  | .unit n word, [] => d.plusWritten? n word.reverse
  | _, [] => none
  | part, c :: rest =>
    match part, Number.digit? c with
    | .start, some digit => readParts d (.whole digit) rest
    | .whole n, some digit => do readParts d (.whole (← appendDigit? n digit)) rest
    | .fraction n numerator denominator, some digit => do
      let denominator ← word64? (denominator * 10)
      readParts d (.fraction n (← appendDigit? numerator digit) denominator) rest
    | .unit n word, some digit => do
      readParts (← d.plusWritten? n word.reverse) (.whole digit) rest
    | part, none =>
      if Text.isBlank c then
        match part with
        | .unit n word => do readParts (← d.plusWritten? n word.reverse) .start rest
        | part => readParts d part rest
      else if isUnitChar c then
        match part with
        | .unit n word => readParts d (.unit n (c :: word)) rest
        | part => do readParts d (.unit (← part.number?) [c]) rest
      else
        match part, c with
        | .whole n, '.' => readParts d (.fraction n 0 1) rest
        | _, _ => none

/-- The duration that a text denotes. -/
def ofWritten? (text : String) : Option Duration :=
  if text = "0" then some zero
  else if text.toList.all Text.isBlank then none
  else readParts zero .start text.toList

end Duration

end DriverHandover
