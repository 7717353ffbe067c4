/-!
# Blanks, fields and lines

Text that comes from a kernel file or from a program is cut into lines and lines into fields.
A blank is a character with the Unicode property `White_Space`; a field is a maximal run of
other characters.

## Main definitions

* `Text.isBlank` – the property `White_Space`.
* `Text.trim` – a text without the blanks at its two ends.
* `Text.fields` – the maximal runs of characters that are no blanks, in order.
* `Text.lines` – the lines of a text, without their line ends.
* `Text.pieces` – the pieces of a text between separators.
* `Text.occurs` – whether a text holds another one.
-/

namespace DriverHandover.Text

/-- The property `White_Space` of Unicode. -/
def isBlank (c : Char) : Bool :=
  let n := c.toNat
  (0x09 ≤ n && n ≤ 0x0D) || n == 0x20 || n == 0x85 || n == 0xA0 || n == 0x1680 ||
    (0x2000 ≤ n && n ≤ 0x200A) || n == 0x2028 || n == 0x2029 || n == 0x202F || n == 0x205F ||
    n == 0x3000

/-- What is left of a text when the characters of a class are taken off both ends. -/
def trimEnds (p : Char → Bool) (s : List Char) : List Char :=
  ((s.dropWhile p).reverse.dropWhile p).reverse

/-- A text without the blanks at its ends. -/
def trim (s : String) : String :=
  String.ofList (trimEnds isBlank s.toList)

theorem dropWhile_length_le (p : Char → Bool) (s : List Char) :
    (s.dropWhile p).length ≤ s.length := by
  induction s with
  | nil => simp
  | cons c rest ih =>
    simp only [List.dropWhile_cons]
    split
    · simp only [List.length_cons]; omega
    · exact Nat.le_refl _

/-- The maximal runs of characters that are no blanks, in order. -/
def fields (s : List Char) : List (List Char) :=
  match _h : s.dropWhile isBlank with
  | [] => []
  | c :: rest =>
    (c :: rest.takeWhile (!isBlank ·)) :: fields (rest.dropWhile (!isBlank ·))
termination_by s.length
decreasing_by
  have hs := dropWhile_length_le isBlank s
  have hr := dropWhile_length_le (!isBlank ·) rest
  rw [_h, List.length_cons] at hs
  omega

/-- A line that was ended by a line feed, without a carriage return before that line feed. -/
def withoutReturn (line : List Char) : List Char :=
  if line.getLast? = some '\r' then line.dropLast else line

/-- The lines of a text. A line feed, also one after a carriage return, ends a line; what follows
the last line feed is a line of its own only if it is not empty. -/
def lines (s : List Char) : List (List Char) :=
  match s with
  | [] => []
  | c :: tail =>
    let line := (c :: tail).takeWhile (· ≠ '\n')
    match _h : (c :: tail).dropWhile (· ≠ '\n') with
    | [] => [line]
    | _ :: rest => withoutReturn line :: lines rest
termination_by s.length
decreasing_by
  have hs := dropWhile_length_le (· ≠ '\n') (c :: tail)
  rw [_h] at hs
  simp only [List.length_cons] at hs ⊢
  omega

/-- The pieces of a text before, between and after separators; pieces can be empty. -/
def pieces (separator : Char) : List Char → List (List Char)
  | [] => [[]]
  | c :: rest =>
    if c = separator then [] :: pieces separator rest
    else
      match pieces separator rest with
      | [] => [[c]]
      | first :: others => (c :: first) :: others

/-- Whether `pattern` occurs in a text. -/
def occurs (pattern : List Char) : List Char → Bool
  | [] => pattern.isEmpty
  | c :: rest => pattern.isPrefixOf (c :: rest) || occurs pattern rest

/-- What follows `pattern` in a text that starts with it. -/
def after? (pattern : List Char) (s : List Char) : Option (List Char) :=
  if pattern.isPrefixOf s then some (s.drop pattern.length) else none

/-- A text filled up with blanks on the right to a width counted in characters. -/
def padRight (width : Nat) (s : String) : String :=
  s ++ String.ofList (List.replicate (width - s.length) ' ')

/-- The texts with a separator between each two. -/
def join (separator : String) (texts : List String) : String :=
  separator.intercalate texts

end DriverHandover.Text
