import DriverHandover.CommandLine.Value
import DriverHandover.CommandLine.Word

/-!
# Reading the options of a command

The words after a command are read from left to right. A value in a word of its own is looked at
only when the next option comes or the words end; until then, a word that fits nowhere is what is
wrong with the command line.

## Main definitions

* `Scan` – what the words so far have given.
* `Scan.long`, `Scan.letters`, `Scan.plain`, `Scan.words` – reads a word of each form, and all
  words.
* `Scan.environment` – fills in what the environment gives.
-/

namespace DriverHandover.CommandLine

/-- The environment variables that are set. -/
abbrev Environment := List (String × String)

/-- The variable of the option that turns debug logging on. -/
def debugVariable : String := "DEBUG"

/-- An option of a command: one of its own, or one that all commands have. -/
inductive AnyOption (κ : Type) where
  | own (k : κ)
  | debug
  | help
  deriving DecidableEq, Repr

namespace AnyOption

variable {κ : Type} [OptionSet κ]

/-- The option with a name. -/
def ofName? (name : String) : Option (AnyOption κ) :=
  if name = "debug" then some .debug
  else if name = "help" then some .help
  else (OptionSet.all.find? fun k : κ => (OptionSet.spec k).name == name).map .own

/-- The option with a letter. -/
def ofLetter? (letter : Char) : Option (AnyOption κ) :=
  if letter = 'h' then some .help
  else (OptionSet.all.find? fun k : κ => (OptionSet.spec k).letter == some letter).map .own

end AnyOption

/-- What the words so far have given. -/
structure Scan (κ : Type) [OptionSet κ] where
  /-- The values that have been looked at. -/
  value : (k : κ) → Option (OptionSet.kind k).Value
  debug : Bool
  /-- The option whose value comes in a word of its own, and that word if it is there. -/
  pending : Option (κ × Option String)

namespace Scan

variable {κ : Type} [OptionSet κ] [DecidableEq κ]

/-- Nothing is given yet. -/
def empty : Scan κ := ⟨fun _ => none, false, none⟩

/-- Sets the value of an option. -/
def set (s : Scan κ) (k : κ) (v : (OptionSet.kind k).Value) : Scan κ :=
  { s with value := fun k' => if h : k = k' then some (h ▸ v) else s.value k' }

/-- Looks at the value of an option, which must be the only one. -/
def accept (s : Scan κ) (k : κ) (text : String) : Except Stop (Scan κ) := do
  if (s.value k).isSome then .error .repeatedOption
  return s.set k (← (OptionSet.kind k).read text)

/-- Looks at the value that has not been looked at. -/
def settle (s : Scan κ) : Except Stop (Scan κ) :=
  match s.pending with
  | none => .ok s
  | some (_, none) => .error .invalidValue
  | some (k, some text) => { s with pending := none }.accept k text

/-- The option that waits for a value in the next word. -/
def awaited (s : Scan κ) : Option κ :=
  match s.pending with
  | some (k, none) => some k
  | _ => none

/-- Reads an option that is just there. -/
def flag (s : Scan κ) (o : AnyOption κ) : Except Stop (Scan κ) := do
  let s ← s.settle
  match o with
  | .help => .error .helpAsked
  | .debug => if s.debug then .error .repeatedOption else return { s with debug := true }
  | .own k => s.accept k "true"

/-- Reads an option with a value that is there, or comes in the next word. -/
def valued (s : Scan κ) (k : κ) (value : Option String) : Except Stop (Scan κ) := do
  let s ← s.settle
  match value with
  | some text => s.accept k text
  | none => return { s with pending := some (k, none) }

/-- The option itself, if it takes a value. -/
def takesValue? : AnyOption κ → Option κ
  | .own k => if OptionSet.kind k = .flag then none else some k
  | _ => none

/-- Reads a word with a long name. -/
def long (s : Scan κ) (name : String) (value : Option String) : Except Stop (Scan κ) :=
  match AnyOption.ofName? name with
  | none => .error .unknownArgument
  | some o =>
    match takesValue? o with
    | some k => s.valued k value
    | none => if value.isSome then .error .unexpectedValue else s.flag o

/-- Reads letters after a dash. What follows the letter of an option with a value is that value,
with or without an equals sign. -/
def letters (s : Scan κ) : List Char → Except Stop (Scan κ)
  | [] => .ok s
  | c :: rest =>
    match AnyOption.ofLetter? c with
    | none => .error .unknownArgument
    | some o =>
      match takesValue? o with
      | some k =>
        s.valued k (match rest with
          | [] => none
          | '=' :: value => some (String.ofList value)
          | value => some (String.ofList value))
      | none => do letters (← s.flag o) rest

/-- Reads a word that is no option. -/
def plain (s : Scan κ) (text : String) : Except Stop (Scan κ) :=
  match s.awaited with
  | some k => .ok { s with pending := some (k, some text) }
  | none => .error .unknownArgument

/-- Whether a negative number can be the value that is waited for. -/
def awaitsNumber (s : Scan κ) : Bool :=
  s.awaited.any fun k => OptionSet.kind k == .integer

/-- Reads all words. -/
def words (s : Scan κ) : List String → Except Stop (Scan κ)
  | [] => s.settle
  | text :: rest =>
    match Word.ofString text with
    | .separator => if rest.isEmpty then s.settle else .error .unknownArgument
    | .long name value => do words (← s.long name value) rest
    | .short chars => do
      if s.awaitsNumber && Word.isNumeral chars then words (← s.plain text) rest
      else words (← s.letters chars) rest
    | .plain => do words (← s.plain text) rest

/-- Fills in the options that are not given from the environment. -/
def fill (env : Environment) (s : Scan κ) : List κ → Except Stop (Scan κ)
  | [] => .ok s
  | k :: rest => do
    match (s.value k).isSome, env.lookup (OptionSet.spec k).envName with
    | false, some text => fill env (s.set k (← (OptionSet.kind k).read text)) rest
    | _, _ => fill env s rest

/-- Whether the environment turns debug logging on. -/
def debugFrom (env : Environment) : Except Stop Bool :=
  match env.lookup debugVariable with
  | none => .ok false
  | some text => ValueKind.readTruth text

/-- Fills in what is not given from the environment. -/
def environment (env : Environment) (s : Scan κ) : Except Stop (Scan κ) := do
  let s ← s.fill env OptionSet.all
  if s.debug then return s else return { s with debug := ← debugFrom env }

/-- Reads the words after a command and the environment. -/
def read (env : Environment) (args : List String) : Except Stop (Scan κ) := do
  (← empty.words args).environment env

end Scan

end DriverHandover.CommandLine
