import DriverHandover.Text.Number

/-!
# Words of a command line

## Main definitions

* `Word`, `Word.ofString` – a word by its form.
* `Word.isNumeral` – whether a text has the form of a number.
-/

namespace DriverHandover.CommandLine

/-- A word of a command line. -/
inductive Word where
  /-- Two dashes alone: no option follows. -/
  | separator
  /-- Two dashes and a name, with the value after an equals sign. -/
  | long (name : String) (value : Option String)
  /-- One dash and letters. -/
  | short (letters : List Char)
  | plain
  deriving DecidableEq, Repr

namespace Word

/-- What stands before the first equals sign, and what stands after it. -/
def splitValue (s : List Char) : String × Option String :=
  (String.ofList (s.takeWhile (· != '=')),
    match s.dropWhile (· != '=') with
    | [] => none
    | _ :: value => some (String.ofList value))

/-- The form of a word. A dash alone is no option. -/
def ofString (s : String) : Word :=
  match s.toList with
  | ['-', '-'] => separator
  | '-' :: '-' :: rest =>
    let (name, value) := splitValue rest
    long name value
  | '-' :: c :: rest => short (c :: rest)
  | _ => plain

/-- Whether a text has the form of a number without a sign: digits with at most one point, and at
most one `e` after that, neither in front and the latter not at the end. -/
def isNumeral (s : List Char) : Bool :=
  let mantissa := s.takeWhile (· != 'e')
  let digits (t : List Char) : Bool := t.all fun c => (Number.digit? c).isSome
  let pointed :=
    digits (mantissa.takeWhile (· != '.')) && digits ((mantissa.dropWhile (· != '.')).drop 1)
  let pointFirst := s.head? == some '.'
  match s.dropWhile (· != 'e') with
  | [] => pointed && !pointFirst
  | _ :: exponent =>
    pointed && !pointFirst && !mantissa.isEmpty && !exponent.isEmpty && digits exponent

end Word

end DriverHandover.CommandLine
