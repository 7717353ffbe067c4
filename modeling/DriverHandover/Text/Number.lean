/-!
# Decimal numbers in text

A number is read from left to right: the first character that is no digit, or the first digit that
takes the value past the bound, is what is reported, whichever comes first.

## Main definitions

* `NumberError` – why a text is not a number, with `NumberError.message`.
* `Number.readUnsigned` – a number below a bound, after an optional plus sign.
* `Number.readInt64?` – a signed number of 64 bits.
-/

namespace DriverHandover

/-- Why a text is not a number of the asked width. -/
inductive NumberError where
  | empty
  | invalidDigit
  | tooLarge
  deriving DecidableEq, Repr

/-- The wording of a number error. -/
def NumberError.message : NumberError → String
  | .empty => "cannot parse integer from empty string"
  | .invalidDigit => "invalid digit found in string"
  | .tooLarge => "number too large to fit in target type"

namespace Number

/-- The value of an ASCII decimal digit. -/
def digit? (c : Char) : Option Nat :=
  if '0' ≤ c ∧ c ≤ '9' then some (c.toNat - '0'.toNat) else none

/-- Continues a number whose digits so far have the given value. -/
def readDigits (bound : Nat) : Nat → List Char → Except NumberError Nat
  | value, [] => .ok value
  | value, c :: rest =>
    match digit? c with
    | none => .error .invalidDigit
    | some d =>
      if value * 10 + d < bound then readDigits bound (value * 10 + d) rest
      else .error .tooLarge

/-- Reads a number below `bound`. One plus sign may stand before the digits. -/
def readUnsigned (bound : Nat) : List Char → Except NumberError Nat
  | [] => .error .empty
  | ['+'] => .error .invalidDigit
  | '+' :: rest => readDigits bound 0 rest
  | s => readDigits bound 0 s

/-- Reads a number of 32 bits. -/
def readUInt32 : List Char → Except NumberError Nat :=
  readUnsigned UInt32.size

/-- Reads a number of 64 bits. -/
def readUInt64 : List Char → Except NumberError Nat :=
  readUnsigned UInt64.size

/-- Reads a signed number of 64 bits. -/
def readInt64? : List Char → Option Int
  | '-' :: c :: rest =>
    (readDigits 0x8000000000000001 0 (c :: rest)).toOption.map fun n => -(n : Int)
  | s => (readUnsigned 0x8000000000000000 s).toOption.map fun n => (n : Int)

end Number

end DriverHandover
