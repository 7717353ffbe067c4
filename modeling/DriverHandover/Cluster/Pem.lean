import DriverHandover.Text.Base64
import DriverHandover.Text.Blank
import DriverHandover.Text.Utf8

/-!
# Armoured data

Certificates and keys are kept in files as blocks of Base64 between a line that says what begins and
one that says what ends. Other text may stand around the blocks.

## Main definitions

* `Pem.Block` – what a block says it is, and the bytes in it.
* `Pem.blocks?` – the blocks of a file wherever they stand.
* `Pem.lineBlocks?` – the blocks of a file whose marks stand on lines of their own.
-/

namespace DriverHandover.Pem

/-- A block. -/
structure Block where
  label : List UInt8
  bytes : List UInt8
  deriving DecidableEq, Repr

/-- The bytes of a text of ASCII characters. -/
def ascii (s : String) : List UInt8 := s.toUTF8.toList

/-- What a block begins with. -/
def beginMark : List UInt8 := ascii "-----BEGIN "

/-- What a block ends with. -/
def endMark : List UInt8 := ascii "-----END "

/-- What ends both marks. -/
def dashes : List UInt8 := ascii "-----"

/-- The label of a certificate. -/
def certificateLabel : List UInt8 := ascii "CERTIFICATE"

/-- The bytes before and after a mark, of which `expected` is what is still to come; `read` holds
the bytes so far in reverse. A byte that breaks off a mark does not start it anew. -/
def splitAt? (mark expected read : List UInt8) : List UInt8 → Option (List UInt8 × List UInt8)
  | [] => none
  | b :: rest =>
    match expected with
    | e :: more =>
      if b = e then
        if more.isEmpty then some (((b :: read).drop mark.length).reverse, rest)
        else splitAt? mark more (b :: read) rest
      else splitAt? mark mark (b :: read) rest
    | [] => none

/-- The bytes before and after the first mark. -/
def split? (mark s : List UInt8) : Option (List UInt8 × List UInt8) :=
  splitAt? mark mark [] s

/-- Whether a byte is a blank or ends a line. -/
def isSpace (b : UInt8) : Bool :=
  b == 0x20 || b == 0x0A || b == 0x0D || b == 0x09

/-- The headers and the data in a block, between which a line is empty. -/
def splitHeaders (body : List UInt8) : List UInt8 × List UInt8 :=
  ((split? [0x0A, 0x0A] body).or (split? [0x0D, 0x0A, 0x0D, 0x0A] body)).getD ([], body)

/-- Whether all headers have a name. -/
def areHeaders (s : List Char) : Bool :=
  (Text.lines s).all (·.contains ':')

/-- A block of its parts, if they fit together. -/
def block? (first body last : List UInt8) : Option Block := do
  let _ ← Utf8.decode? first
  let (headers, data) := splitHeaders body
  let text ← Utf8.decode? data
  let bytes ← Base64.decode? (text.filter (!Text.isBlank ·))
  let headers ← Utf8.decode? headers
  if first.isEmpty ∨ first ≠ last ∨ ¬ areHeaders headers then none else some ⟨first, bytes⟩

/-- The parts of the first block, its label at both ends and what is between, and what follows. -/
def parts? (s : List UInt8) : Option ((List UInt8 × List UInt8 × List UInt8) × List UInt8) := do
  let (_, s) ← split? beginMark s
  let (first, s) ← split? dashes s
  let (body, s) ← split? endMark (s.dropWhile isSpace)
  let (last, s) ← split? dashes s
  return ((first, body, last), s)

/-- The blocks of a file, at most `fuel` of them. -/
def readBlocks? : Nat → List UInt8 → Option (List Block)
  | 0, _ => some []
  | fuel + 1, s =>
    match parts? s with
    | none => some []
    | some ((first, body, last), rest) => do
      return (← block? first body last) :: (← readBlocks? fuel rest)

/-- The blocks of a file, wherever they stand; each has to be sound. -/
def blocks? (s : List UInt8) : Option (List Block) :=
  readBlocks? (s.length + 1) s

/-- The lines of a file without their ends and the blanks at them. -/
def trimmedLines (s : List UInt8) : List (List UInt8) :=
  (s.splitOn 0x0A).map fun line =>
    (line.reverse.dropWhile fun b => b == 0x0D || b == 0x20).reverse

/-- The label that a line begins a block with; `none` if there are not just five dashes after it. -/
def label? (line : List UInt8) : Option (List UInt8) :=
  let isFiller (b : UInt8) : Bool := b == 0x2D || b == 0x0D || b == 0x20
  let tail := line.reverse.takeWhile isFiller
  if (tail.filter (· == 0x2D)).length = 5 then
    let kept := (line.reverse.drop tail.length).reverse
    some (kept.drop beginMark.length)
  else none

/-- The blocks of lines; `current?` is the label of the block that the lines are in, and the text in
it so far. -/
def blocksOfLines? (current? : Option (List UInt8 × List Char)) :
    List (List UInt8) → Option (List Block)
  | [] => if current?.isSome then none else some []
  | line :: rest =>
    if beginMark.isPrefixOf line then do
      blocksOfLines? (some (← label? line, [])) rest
    else
      match current? with
      | none => blocksOfLines? none rest
      | some (label, text) =>
        if (endMark ++ label ++ dashes).isPrefixOf line then do
          let bytes ← Base64.decode? text
          return ⟨label, bytes⟩ :: (← blocksOfLines? none rest)
        else do
          blocksOfLines? (some (label, text ++ (← Utf8.decode? line))) rest

/-- The blocks of a file whose marks stand on lines of their own. -/
def lineBlocks? (s : List UInt8) : Option (List Block) :=
  blocksOfLines? none (trimmedLines s)

end DriverHandover.Pem
