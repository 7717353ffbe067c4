/-!
# Doubles from decimal digits

A decimal number that is no integer of 64 bits is read as a double. Its digits are gathered in a
significand of 64 bits, and one step of double arithmetic brings in the power of ten. The last bit
is therefore not always that of the nearest double.

## Main definitions

* `Significand` – the digits of a number as far as they fit, with the power of ten that is missing.
* `Double.ofDigits?` – the bits of the double that a decimal number denotes.
-/

namespace DriverHandover

/-- The digits of a number as far as they fit into 64 bits, and the power of ten that they have to
be multiplied with. -/
structure Significand where
  digits : Nat
  exponent : Int
  deriving DecidableEq, Repr

namespace Significand

/-- No digits. -/
def empty : Significand := ⟨0, 0⟩

/-- The digits with one more, if that fits. -/
def append? (s : Significand) (digit : Nat) : Option Nat :=
  let digits := s.digits * 10 + digit
  if digits < UInt64.size then some digits else none

/-- Takes in the digits before the point. From the first one on that does not fit, they only raise
the power of ten. -/
def addWhole (s : Significand) : List Nat → Significand
  | [] => s
  | digit :: rest =>
    match s.append? digit with
    | some digits => addWhole { s with digits } rest
    | none => { s with exponent := s.exponent + (rest.length + 1) }

/-- Takes in the digits after the point, up to the first one that does not fit. -/
def addFraction (s : Significand) : List Nat → Significand
  | [] => s
  | digit :: rest =>
    match s.append? digit with
    | some digits => addFraction ⟨digits, s.exponent - 1⟩ rest
    | none => s

end Significand

namespace Double

/-- The largest power of ten that is a double. -/
def maxPower : Nat := 308

/-- A power of ten. -/
def power (exponent : Nat) : Float :=
  Float.ofScientific 1 false exponent

/-- A number divided by a power of ten, in steps of the largest one. -/
def scaleDown (x : Float) (exponent : Nat) : Float :=
  if exponent ≤ maxPower then x / power exponent
  else if x == 0 then x
  else scaleDown (x / power maxPower) (exponent - maxPower)
termination_by exponent
decreasing_by simp only [maxPower] at *; omega

/-- A number multiplied with a power of ten, unless it gets too large. -/
def scaleUp? (x : Float) (exponent : Nat) : Option Float :=
  if exponent ≤ maxPower then
    let y := x * power exponent
    if y.isInf then none else some y
  else if x == 0 then some x
  else none

/-- The double of a significand, unless it is too large. -/
def ofSignificand? (s : Significand) : Option Float :=
  let x := (UInt64.ofNat s.digits).toFloat
  if 0 ≤ s.exponent then scaleUp? x s.exponent.toNat
  else some (scaleDown x s.exponent.natAbs)

/-- The bits of a double, where both zeros count as one. -/
def bits (x : Float) : UInt64 :=
  if x == 0 then 0 else x.toBits

/-- The bits of the double that a sign, digits before and after the point and an exponent denote,
unless it is too large. -/
def ofDigits? (negative : Bool) (whole fraction : List Nat) (exponent : Int) : Option UInt64 := do
  let s := (Significand.empty.addWhole whole).addFraction fraction
  let x ← ofSignificand? { s with exponent := s.exponent + exponent }
  return bits (if negative then -x else x)

end Double

end DriverHandover
