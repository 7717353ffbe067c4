/-!
# Text as bytes

The encoding form UTF-8. Reading takes one character, or one malformed sequence, off the front:
a malformed sequence is as long as it agrees with the start of some well-formed one, and at least
one byte long.

## Main definitions

* `Utf8.encode` – the bytes of a text.
* `Utf8.decode?` – the text of a byte sequence, if it is well formed.
* `Utf8.decodeLossy` – the text of any byte sequence, with U+FFFD for each malformed sequence.
-/

namespace DriverHandover.Utf8

/-- The bytes of one character. -/
def encodeChar (c : Char) : List UInt8 :=
  let n := c.toNat
  let byte (k : Nat) := UInt8.ofNat k
  if n < 0x80 then [byte n]
  else if n < 0x800 then [byte (0xC0 + n / 64), byte (0x80 + n % 64)]
  else if n < 0x10000 then
    [byte (0xE0 + n / 4096), byte (0x80 + n / 64 % 64), byte (0x80 + n % 64)]
  else
    [byte (0xF0 + n / 262144), byte (0x80 + n / 4096 % 64), byte (0x80 + n / 64 % 64),
      byte (0x80 + n % 64)]

/-- The bytes of a text. -/
def encode (s : List Char) : List UInt8 :=
  s.flatMap encodeChar

/-- Whether a byte lies between two bounds, both included. -/
def within (low high : Nat) (b : UInt8) : Bool :=
  low ≤ b.toNat && b.toNat ≤ high

/-- A byte that continues a sequence. -/
def isContinuation : UInt8 → Bool :=
  within 0x80 0xBF

/-- The bytes that may follow the first byte of a sequence of three or four: those that make the
sequence neither longer than it needs to be, nor a surrogate, nor too large. -/
def mayFollow (first : UInt8) : UInt8 → Bool :=
  match first.toNat with
  | 0xE0 => within 0xA0 0xBF
  | 0xED => within 0x80 0x9F
  | 0xF0 => within 0x90 0xBF
  | 0xF4 => within 0x80 0x8F
  | _ => isContinuation

/-- The six bits that a continuation byte carries. -/
def payload (b : UInt8) : Nat := b.toNat - 0x80

/-- Reads the sequence that starts with `first`: its character, or `none` if it is malformed, and
the bytes after it. -/
def decodeOne (first : UInt8) (rest : List UInt8) : Option Char × List UInt8 :=
  let f := first.toNat
  if f < 0x80 then (some (Char.ofNat f), rest)
  else if within 0xC2 0xDF first then
    match rest with
    | [] => (none, [])
    | b :: r =>
      if isContinuation b then (some (Char.ofNat ((f - 0xC0) * 64 + payload b)), r)
      else (none, b :: r)
  else if within 0xE0 0xEF first then
    match rest with
    | [] => (none, [])
    | b :: r =>
      if mayFollow first b then
        match r with
        | [] => (none, [])
        | b' :: r' =>
          if isContinuation b' then
            (some (Char.ofNat ((f - 0xE0) * 4096 + payload b * 64 + payload b')), r')
          else (none, b' :: r')
      else (none, b :: r)
  else if within 0xF0 0xF4 first then
    match rest with
    | [] => (none, [])
    | b :: r =>
      if mayFollow first b then
        match r with
        | [] => (none, [])
        | b' :: r' =>
          if isContinuation b' then
            match r' with
            | [] => (none, [])
            | b'' :: r'' =>
              if isContinuation b'' then
                (some (Char.ofNat
                  ((f - 0xF0) * 262144 + payload b * 4096 + payload b' * 64 + payload b'')), r'')
              else (none, b'' :: r'')
          else (none, b' :: r')
      else (none, b :: r)
  else (none, rest)

/-- Reading a sequence never gives bytes back. -/
theorem decodeOne_length_le (first : UInt8) (rest : List UInt8) :
    (decodeOne first rest).2.length ≤ rest.length := by
  unfold decodeOne
  dsimp only
  split
  · simp
  split
  · split
    · simp
    · split <;> simp
  split
  · split
    · simp
    · split
      · split
        · simp
        · split <;> (simp; try omega)
      · simp
  split
  · split
    · simp
    · split
      · split
        · simp
        · split
          · split
            · simp
            · split <;> (simp; try omega)
          · simp
      · simp
  · simp

/-- The characters of a byte sequence in order, with `none` for each malformed sequence. -/
def sequences (bytes : List UInt8) : List (Option Char) :=
  match bytes with
  | [] => []
  | first :: rest => (decodeOne first rest).1 :: sequences (decodeOne first rest).2
termination_by bytes.length
decreasing_by
  have := decodeOne_length_le first rest
  simp only [List.length_cons]
  omega

/-- The text of a well-formed byte sequence. -/
def decode? (bytes : List UInt8) : Option (List Char) :=
  (sequences bytes).mapM id

/-- The character that stands for a malformed sequence. -/
def replacement : Char := '\uFFFD'

/-- The text of a byte sequence, with the replacement character for each malformed sequence. -/
def decodeLossy (bytes : List UInt8) : List Char :=
  (sequences bytes).map (·.getD replacement)

end DriverHandover.Utf8
