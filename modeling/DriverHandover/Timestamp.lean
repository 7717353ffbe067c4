import DriverHandover.Text.Blank
import DriverHandover.Text.Number

/-!
# Timestamps

A timestamp is a moment of the calendar, to the nanosecond. It is written as a date, a time of day
and an offset from universal time, such as `2024-01-31T12:00:00.5+01:00`. Numbers need no leading
zeros, blanks may stand around them, and years beyond four digits have a sign. Texts that denote the
same moment give equal timestamps.

## Main definitions

* `CalendarDate` – a day of the calendar, with `CalendarDate.dayNumber`.
* `Timestamp` – a moment, with `Timestamp.ofText?` and `Timestamp.text`.

## Design notes

Days are counted from the first of March of the year zero, so that the leap day is the last day of a
year, and four hundred years always have equally many days.
-/

namespace DriverHandover

/-- A day of the Gregorian calendar. -/
structure CalendarDate where
  year : Int
  month : Nat
  day : Nat
  deriving DecidableEq, Repr

namespace CalendarDate

/-- The first and the last year in which a moment can lie. -/
def years : Int × Int := (-262143, 262142)

/-- Whether a year has a leap day. -/
def isLeapYear (year : Int) : Bool :=
  year % 4 == 0 && (year % 100 != 0 || year % 400 == 0)

/-- The number of days of a month. -/
def monthLength (year : Int) (month : Nat) : Nat :=
  if month = 2 then if isLeapYear year then 29 else 28
  else if month = 4 ∨ month = 6 ∨ month = 9 ∨ month = 11 then 30
  else 31

/-- Whether there is such a day. -/
def exists? (d : CalendarDate) : Bool :=
  years.1 ≤ d.year && d.year ≤ years.2 && 1 ≤ d.month && d.month ≤ 12 && 1 ≤ d.day &&
    d.day ≤ monthLength d.year d.month

/-- The number of days in four hundred years. -/
def daysPerCycle : Int := 146097

/-- The number of the first day of the year 1970, counted from the first of March of the year
zero. -/
def epochDay : Int := 719468

/-- The number of a day, counted from the first day of the year 1970. -/
def dayNumber (d : CalendarDate) : Int :=
  let year := if d.month ≤ 2 then d.year - 1 else d.year
  let month : Int := (d.month + 9) % 12
  let yearOfCycle := year % 400
  let dayOfYear := (153 * month + 2) / 5 + d.day - 1
  year / 400 * daysPerCycle + yearOfCycle * 365 + yearOfCycle / 4 - yearOfCycle / 100 + dayOfYear -
    epochDay

/-- The day of a number. -/
def ofDayNumber (n : Int) : CalendarDate :=
  let n := n + epochDay
  let dayOfCycle := n % daysPerCycle
  let yearOfCycle :=
    (dayOfCycle - dayOfCycle / 1460 + dayOfCycle / 36524 - dayOfCycle / 146096) / 365
  let dayOfYear := dayOfCycle - (365 * yearOfCycle + yearOfCycle / 4 - yearOfCycle / 100)
  let month := (5 * dayOfYear + 2) / 153
  let day := dayOfYear - (153 * month + 2) / 5 + 1
  let year := n / daysPerCycle * 400 + yearOfCycle
  if month < 10 then ⟨year, (month + 3).toNat, day.toNat⟩
  else ⟨year + 1, (month - 9).toNat, day.toNat⟩

end CalendarDate

/-- A moment: the seconds since the start of 1970 in universal time, and the nanoseconds beyond
them. In a leap second, the latter are those of the second before it, plus a second. -/
structure Timestamp where
  seconds : Int
  nanos : Nat
  deriving DecidableEq, Repr

namespace Timestamp

/-- The number of seconds in a day. -/
def secondsPerDay : Nat := 86400

/-- The number of nanoseconds in a second. -/
def nanosPerSecond : Nat := 1000000000

/-- The text without the blanks at its start. -/
def skipBlanks (s : List Char) : List Char :=
  s.dropWhile Text.isBlank

/-- Reads a number of at least one and at most `width` digits. -/
def readNumber? (width : Nat) (s : List Char) : Option (Nat × List Char) :=
  let digits := (s.takeWhile Char.isDigit).take width
  if digits.isEmpty then none
  else some ((digits.filterMap Number.digit?).foldl (fun n d => n * 10 + d) 0, s.drop digits.length)

/-- Reads a number of one or two digits after blanks. -/
def readField? (s : List Char) : Option (Nat × List Char) :=
  readNumber? 2 (skipBlanks s)

/-- Expects a mark after blanks. -/
def readMark? (mark : Char) (s : List Char) : Option (List Char) :=
  match skipBlanks s with
  | c :: rest => if c = mark then some rest else none
  | [] => none

/-- Reads a year after blanks: one with a sign, or one of at most four digits. -/
def readYear? (s : List Char) : Option (Int × List Char) :=
  match skipBlanks s with
  | '-' :: rest => (readNumber? rest.length rest).map fun (n, rest) => (-(n : Int), rest)
  | '+' :: rest => (readNumber? rest.length rest).map fun (n, rest) => ((n : Int), rest)
  | s => (readNumber? 4 s).map fun (n, rest) => ((n : Int), rest)

/-- Reads a date. -/
def readDate? (s : List Char) : Option (CalendarDate × List Char) := do
  let (year, s) ← readYear? s
  let (month, s) ← readField? (← readMark? '-' s)
  let (day, s) ← readField? (← readMark? '-' s)
  let date : CalendarDate := ⟨year, month, day⟩
  if date.exists? then some (date, s) else none

/-- Reads the decimal places of a second, if there are any, as nanoseconds. Places after the ninth
do not count. -/
def readNanos? (s : List Char) : Option (Nat × List Char) :=
  match s with
  | '.' :: rest => do
    let (n, _) ← readNumber? 9 rest
    let places := (rest.takeWhile Char.isDigit).length
    return (n * Nat.pow 10 (9 - places), rest.drop places)
  | s => some (0, s)

/-- A time of day, as seconds and nanoseconds. -/
def readTime? (s : List Char) : Option ((Nat × Nat) × List Char) := do
  let (hour, s) ← readField? s
  let (minute, s) ← readField? (← readMark? ':' s)
  let (second, s) ← readField? (← readMark? ':' s)
  let (nanos, s) ← readNanos? s
  if hour ≤ 23 ∧ minute ≤ 59 ∧ second ≤ 60 then
    let start := hour * 3600 + minute * 60
    if second = 60 then some ((start + 59, nanos + nanosPerSecond), s)
    else some ((start + second, nanos), s)
  else none

/-- Two digits as a number. -/
def twoDigits? (a b : Char) : Option Nat := do
  return (← Number.digit? a) * 10 + (← Number.digit? b)

/-- Reads the hours and minutes of an offset, between which colons and blanks may stand. -/
def readShift? (s : List Char) : Option (Int × List Char) :=
  match s with
  | a :: b :: rest => do
    let hours ← twoDigits? a b
    match rest.dropWhile fun c => c == ':' || Text.isBlank c with
    | c :: d :: rest =>
      let minutes ← twoDigits? c d
      if hours ≤ 23 ∧ minutes ≤ 59 then some (((hours * 60 + minutes) * 60 : Nat), rest) else none
    | _ => none
  | _ => none

/-- Reads an offset from universal time, in seconds. -/
def readOffset? (s : List Char) : Option (Int × List Char) :=
  match s with
  | '+' :: rest => readShift? rest
  | '-' :: rest | '−' :: rest => (readShift? rest).map fun (n, rest) => (-n, rest)
  | c :: rest =>
    if c.toUpper = 'Z' then some (0, rest)
    else if (s.take 3).map Char.toUpper = ['U', 'T', 'C'] then some (0, s.drop 3)
    else none
  | [] => none

/-- Whether a moment lies in the years in which one can lie. -/
def isInRange (t : Timestamp) : Bool :=
  let first : CalendarDate := ⟨CalendarDate.years.1, 1, 1⟩
  let last : CalendarDate := ⟨CalendarDate.years.2, 12, 31⟩
  first.dayNumber * secondsPerDay ≤ t.seconds &&
    t.seconds < (last.dayNumber + 1) * secondsPerDay

/-- The moment that a text denotes. -/
def ofText? (text : String) : Option Timestamp := do
  let (date, s) ← readDate? text.toList
  match s with
  | [] => none
  | c :: s =>
    if c = 'T' ∨ c = 't' ∨ c = ' ' then
      let ((seconds, nanos), s) ← readTime? s
      let (offset, s) ← readOffset? (skipBlanks s)
      let moment : Timestamp := ⟨date.dayNumber * secondsPerDay + seconds - offset, nanos⟩
      if (skipBlanks s).isEmpty ∧ moment.isInRange then some moment else none
    else none

/-- A number in decimal, with zeros in front up to a width. -/
def padded (width n : Nat) : String :=
  let digits := Nat.toDigits 10 n
  String.ofList (List.replicate (width - digits.length) '0' ++ digits)

/-- A year in decimal; one that needs a sign has one. -/
def yearText (year : Int) : String :=
  if year < 0 then "-" ++ padded 4 year.natAbs
  else if year < 10000 then padded 4 year.toNat
  else "+" ++ padded 4 year.toNat

/-- A text that denotes a moment, in universal time. -/
def text (t : Timestamp) : String :=
  let date := CalendarDate.ofDayNumber (t.seconds / secondsPerDay)
  let time := (t.seconds % secondsPerDay).toNat
  let isLeapSecond := nanosPerSecond ≤ t.nanos
  let second := if isLeapSecond then 60 else time % 60
  s!"{yearText date.year}-{padded 2 date.month}-{padded 2 date.day}" ++
    s!"T{padded 2 (time / 3600)}:{padded 2 (time / 60 % 60)}:{padded 2 second}" ++
    s!".{padded 9 (t.nanos % nanosPerSecond)}Z"

end Timestamp

end DriverHandover
