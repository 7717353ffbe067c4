/-!
# Durations

A length of time in whole nanoseconds, and the text that error messages show for it: the largest
unit among seconds, milliseconds, microseconds and nanoseconds of which there is at least one, with
as many decimal places as the rest needs.

## Main definitions

* `Duration` – a number of nanoseconds.
* `Duration.text` – the text of a duration in a message.
* `Instant` – a moment, in nanoseconds as the clock counts them.
* `Instant.isShown` – whether the clock can show a moment.

## Design notes

A moment is any number, also one that the clock cannot show. The sum of a moment and a duration is
checked where the duration is one that the user gives.
-/

namespace DriverHandover

/-- A length of time. -/
structure Duration where
  nanos : Nat
  deriving DecidableEq, Repr, Inhabited

/-- A moment, as the time that the clock has counted. -/
abbrev Instant := Nat

namespace Duration

/-- No time at all. -/
def zero : Duration := ⟨0⟩

/-- A number of milliseconds. -/
def ofMillis (n : Nat) : Duration := ⟨n * 1000000⟩

/-- A number of seconds. -/
def ofSeconds (n : Nat) : Duration := ⟨n * 1000000000⟩

/-- The whole seconds of a duration. -/
def seconds (d : Duration) : Nat := d.nanos / 1000000000

/-- The nanoseconds beyond the whole seconds. -/
def subsecNanos (d : Duration) : Nat := d.nanos % 1000000000

/-- The whole milliseconds of a duration. -/
def millis (d : Duration) : Nat := d.nanos / 1000000

/-- Whether no time passes. -/
def isZero (d : Duration) : Bool := d.nanos == 0

/-- The shorter of two durations. -/
def min (a b : Duration) : Duration := ⟨Nat.min a.nanos b.nanos⟩

/-- What is left of a budget after some of it is used; nothing, if it is used up. -/
def minus (a b : Duration) : Duration := ⟨a.nanos - b.nanos⟩

/-- The digits of `n` after a decimal point, in `places` places and without the zeros at the end. -/
def decimals (places n : Nat) : List Char :=
  let digits := Nat.toDigits 10 n
  let padded := List.replicate (places - digits.length) '0' ++ digits
  (padded.reverse.dropWhile (· == '0')).reverse

/-- A number of `10 ^ places`-ths, written in decimal. -/
def decimal (places n : Nat) : String :=
  let unit := Nat.pow 10 places
  let whole := toString (n / unit)
  if n % unit = 0 then whole
  else whole ++ "." ++ String.ofList (decimals places (n % unit))

/-- The text of a duration. -/
def text (d : Duration) : String :=
  if 1000000000 ≤ d.nanos then decimal 9 d.nanos ++ "s"
  else if 1000000 ≤ d.nanos then decimal 6 d.nanos ++ "ms"
  else if 1000 ≤ d.nanos then decimal 3 d.nanos ++ "µs"
  else decimal 0 d.nanos ++ "ns"

end Duration

namespace Instant

/-- The moment a duration after another one. -/
def after (now : Instant) (d : Duration) : Instant := now + d.nanos

/-- The first moment that the clock cannot show: it counts seconds in a signed number of 64 bits. -/
def clockEnd : Instant := 0x8000000000000000 * 1000000000

/-- Whether the clock can show a moment. -/
def isShown (moment : Instant) : Bool := decide (moment < clockEnd)

end Instant

end DriverHandover
