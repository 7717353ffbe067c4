import DriverHandover.Host.Path
import DriverHandover.Text.Blank
import DriverHandover.Text.Utf8

/-!
# Mount points

The kernel lists the mounts of a process one a line, with the mount point as the fifth field. A byte
that would break the line is written as a backslash and its three octal digits.

## Main definitions

* `Mounts.unescape` – a field with its octal escapes undone.
* `Mounts.read` – the mount points of a listing, in order.
* `Mounts.under` – those at or below a directory, deepest first, so that each can be unmounted
  before what it is mounted on.
-/

namespace DriverHandover.Mounts

/-- The value of an octal digit. -/
def octalDigit? (b : UInt8) : Option Nat :=
  if 0x30 ≤ b.toNat ∧ b.toNat ≤ 0x37 then some (b.toNat - 0x30) else none

/-- The byte that three bytes after a backslash denote: an octal number below 256, with at most one
plus sign in place of the first digit. -/
def octal? (d₁ d₂ d₃ : UInt8) : Option UInt8 := do
  let high ← if d₁.toNat = 0x2B then some 0 else octalDigit? d₁
  let middle ← octalDigit? d₂
  let low ← octalDigit? d₃
  let value := high * 64 + middle * 8 + low
  if value < 256 then some (UInt8.ofNat value) else none

/-- The byte that starts an escape. -/
def backslash : UInt8 := 0x5C

/-- The bytes of a field with each escape replaced by the byte it denotes. A backslash that starts
no escape stands for itself. -/
def unescapeBytes : List UInt8 → List UInt8
  | [] => []
  | b :: d₁ :: d₂ :: d₃ :: rest =>
    match (if b = backslash then octal? d₁ d₂ d₃ else none) with
    | some value => value :: unescapeBytes rest
    | none => b :: unescapeBytes (d₁ :: d₂ :: d₃ :: rest)
  | b :: rest => b :: unescapeBytes rest

/-- A field with its octal escapes undone. -/
def unescape (field : List Char) : List Char :=
  Utf8.decodeLossy (unescapeBytes (Utf8.encode field))

/-- The mount points of a listing, in order. -/
def read (content : String) : List String :=
  (Text.lines content.toList).filterMap fun line =>
    (Text.fields line)[4]?.map fun field => String.ofList (unescape field)

/-- A list without elements that repeat the one kept before them. -/
def dropRepeats (same : α → α → Bool) : List α → List α
  | [] => []
  | [a] => [a]
  | a :: b :: rest =>
    if same a b then dropRepeats same (a :: rest) else a :: dropRepeats same (b :: rest)
termination_by l => l.length

/-- The mount points at or below `root`: the deepest first, those of one depth in the given order,
and neighbours that are the same path only once. -/
def under (root : String) (mountPoints : List String) : List String :=
  let below := mountPoints.filter (Path.isBelow root)
  dropRepeats Path.same (below.mergeSort fun a b => Path.depth b ≤ Path.depth a)

end DriverHandover.Mounts
