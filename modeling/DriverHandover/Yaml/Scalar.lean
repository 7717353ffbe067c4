import DriverHandover.Json.Double

/-!
# What a piece of text stands for

A piece of text without any marks can stand for something else than itself: for nothing, a truth
value or a number. With a leading zero, a number is text.

## Main definitions

* `Yaml.Scalar` – what a piece of text stands for.
* `Yaml.Scalar.ofPlain?` – what one without marks stands for.
-/

namespace DriverHandover.Yaml

/-- What a piece of text stands for. -/
inductive Scalar where
  | null
  | bool (b : Bool)
  | integer (n : Int)
  /-- A number that is no integer, as the bits of a double; both zeros count as one. -/
  | double (bits : UInt64)
  | string (s : String)
  deriving DecidableEq, Repr

namespace Scalar

/-- Whether a text stands for nothing. -/
def isNull (s : String) : Bool :=
  ["null", "Null", "NULL", "~"].contains s

/-- The truth value that a text stands for. -/
def bool? (s : String) : Option Bool :=
  if ["true", "True", "TRUE"].contains s then some true
  else if ["false", "False", "FALSE"].contains s then some false
  else none

/-- The value of a digit in some base. -/
def digit? (base : Nat) (c : Char) : Option Nat :=
  let value? : Option Nat :=
    if c.isDigit then some (c.toNat - '0'.toNat)
    else if 'a' ≤ c ∧ c ≤ 'f' then some (c.toNat - 'a'.toNat + 10)
    else if 'A' ≤ c ∧ c ≤ 'F' then some (c.toNat - 'A'.toNat + 10)
    else none
  value?.filter (· < base)

/-- The number of at least one digit in some base. -/
def natural? (base : Nat) (s : List Char) : Option Nat :=
  if s.isEmpty then none
  else s.foldlM (fun n c => (digit? base c).map (n * base + ·)) 0

/-- The number of digits in a base that the first two characters tell. -/
def based? : List Char → Option Nat
  | '0' :: 'x' :: rest => natural? 16 rest
  | '0' :: 'o' :: rest => natural? 8 rest
  | '0' :: 'b' :: rest => natural? 2 rest
  | _ => none

/-- A text without a given sign at its start. -/
def withoutSign (sign : Char) : List Char → List Char
  | c :: rest => if c = sign then rest else c :: rest
  | [] => []

/-- Whether a text consists of digits, the first of several of which is zero. -/
def hasLeadingZero (s : List Char) : Bool :=
  let digits :=
    match s with
    | '-' :: rest | '+' :: rest => rest
    | s => s
  match digits with
  | '0' :: rest => !rest.isEmpty && rest.all Char.isDigit
  | _ => false

/-- The integer that a text stands for. A sign may stand before it. -/
def integer? (s : List Char) : Option Int :=
  let magnitude? (s : List Char) : Option Nat :=
    (based? s).or (if hasLeadingZero s then none else natural? 10 s)
  match s with
  | '-' :: rest => (magnitude? rest).map fun n => -(n : Int)
  | '+' :: rest => (magnitude? rest).map Int.ofNat
  | s => (magnitude? s).map Int.ofNat

/-- The range of integers that have at most 64 bits, with a sign or without. -/
def isWord (n : Int) : Bool :=
  -0x8000000000000000 ≤ n && n < 0x10000000000000000

/-- The range of integers that have at most 128 bits, with a sign or without. -/
def isLongWord (n : Int) : Bool :=
  -0x80000000000000000000000000000000 ≤ n && n < 0x100000000000000000000000000000000

/-- The digits at the start of a text, and the text after them. -/
def spanDigits (s : List Char) : List Char × List Char :=
  (s.takeWhile Char.isDigit, s.dropWhile Char.isDigit)

/-- The exponent after the digits of a number, if it has one. -/
def exponent? : List Char → Option Int
  | [] => some 0
  | c :: rest =>
    if c = 'e' ∨ c = 'E' then
      match rest with
      | '-' :: digits => (natural? 10 digits).map fun n => -(n : Int)
      | '+' :: digits => (natural? 10 digits).map Int.ofNat
      | digits => (natural? 10 digits).map Int.ofNat
    else none

/-- The exponents between which a number is neither zero nor too large, whatever its digits. -/
def exponentBound : Int := 400

/-- The double of digits and a power of ten; `none` if it is too large. -/
def nearest? (digits : Nat) (exponent : Int) : Option Float :=
  let magnitude := exponent + (Nat.toDigits 10 digits).length
  if digits = 0 ∨ magnitude < -exponentBound then some 0
  else if exponentBound < magnitude then none
  else
    let x := Float.ofScientific digits (exponent < 0) exponent.natAbs
    if x.isInf then none else some x

/-- The finite double that a text stands for: digits with a point among them or not, and an exponent
or not. -/
def finite? (s : List Char) : Option Float := do
  let (negative, s) :=
    match s with
    | '-' :: rest => (true, rest)
    | '+' :: rest => (false, rest)
    | s => (false, s)
  let (whole, s) := spanDigits s
  let (places, s) :=
    match s with
    | '.' :: rest => spanDigits rest
    | s => ([], s)
  if whole.isEmpty ∧ places.isEmpty then none
  else
    let exponent ← exponent? s
    let x ← nearest? ((natural? 10 (whole ++ places)).getD 0) (exponent - places.length)
    return if negative then -x else x

/-- The bits of what is no number. -/
def nanBits : UInt64 := 0x7FF8000000000000

/-- The bits of infinity. -/
def infinityBits : UInt64 := 0x7FF0000000000000

/-- The bits of infinity with a minus sign. -/
def negativeInfinityBits : UInt64 := 0xFFF0000000000000

/-- The bits of the double that a text stands for. -/
def double? (s : String) : Option UInt64 :=
  let chars := withoutSign '+' s.toList
  let hasTwoSigns :=
    s.toList.head? == some '+' && (chars.head? == some '+' || chars.head? == some '-')
  if hasTwoSigns then none
  else if [".inf", ".Inf", ".INF"].contains (String.ofList chars) then some infinityBits
  else if ["-.inf", "-.Inf", "-.INF"].contains s then some negativeInfinityBits
  else if [".nan", ".NaN", ".NAN"].contains s then some nanBits
  else (finite? chars).map Double.bits

/-- What a text without marks stands for. An integer of more than 64 bits is refused, unless it has
so many that it is a double. -/
def ofPlain? (s : String) : Option Scalar :=
  if s.isEmpty ∨ isNull s then some .null
  else
    match bool? s with
    | some b => some (.bool b)
    | none =>
      match (integer? s.toList).filter isLongWord with
      | some n => if isWord n then some (.integer n) else none
      | none =>
        match if hasLeadingZero s.toList then none else double? s with
        | some bits => some (.double bits)
        | none => some (.string s)

/-- The integer that a text with a tag for one stands for. -/
def ofIntegerText? (s : String) : Option Scalar :=
  ((integer? s.toList).filter isWord).map .integer

end Scalar

end DriverHandover.Yaml
