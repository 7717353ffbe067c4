import DriverHandover.CommandLine.Stop
import DriverHandover.Duration.Written
import DriverHandover.Text.Number

/-!
# Options and their values

## Main definitions

* `ValueKind`, `ValueKind.Value` – the kinds of options and the values they have.
* `ValueKind.read` – the value that a text stands for.
* `OptionSpec`, `OptionSet` – how an option is given, and the options of a command.
-/

namespace DriverHandover.CommandLine

/-- The kind of an option. -/
inductive ValueKind where
  /-- An option that is just there; in the environment it has a truth value. -/
  | flag
  | truth
  | text
  /-- A path, which is never empty. -/
  | path
  | duration
  /-- A signed number of 64 bits. -/
  | integer
  deriving DecidableEq, Repr

namespace ValueKind

/-- The values of a kind. -/
abbrev Value : ValueKind → Type
  | flag => Bool
  | truth => Bool
  | text => String
  | path => String
  | duration => Duration
  | integer => Int

/-- Reads a truth value. -/
def readTruth (s : String) : Except Stop Bool :=
  if s = "true" then .ok true
  else if s = "false" then .ok false
  else .error .invalidValue

/-- A value that has the right form, if there is one. -/
def wellFormed : Option α → Except Stop α
  | some a => .ok a
  | none => .error .malformedValue

/-- The value that a text stands for. -/
def read : (kind : ValueKind) → String → Except Stop kind.Value
  | flag, s => readTruth s
  | truth, s => readTruth s
  | text, s => .ok s
  | path, s => if s = "" then .error .invalidValue else .ok s
  | duration, s => wellFormed (Duration.ofWritten? s)
  | integer, s => wellFormed (Number.readInt64? s.toList)

end ValueKind

/-- How an option is given. -/
structure OptionSpec where
  /-- The name after two dashes. -/
  name : String
  /-- The letter after one dash. -/
  letter : Option Char
  /-- The environment variable that counts where the option is not given. -/
  envName : String
  kind : ValueKind
  deriving DecidableEq, Repr

/-- Options of a command. -/
class OptionSet (κ : Type) where
  /-- All options, in the order in which the environment is looked at. -/
  all : List κ
  spec : κ → OptionSpec

/-- The kind of an option. -/
abbrev OptionSet.kind {κ : Type} [OptionSet κ] (k : κ) : ValueKind :=
  (OptionSet.spec k).kind

end DriverHandover.CommandLine
