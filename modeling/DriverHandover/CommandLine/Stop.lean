/-!
# Why a command line runs nothing

## Main definitions

* `Stop` – the reasons, with `Stop.exitCode`.
-/

namespace DriverHandover.CommandLine

/-- Why a command line runs no command. -/
inductive Stop where
  | helpAsked
  | versionAsked
  /-- The command line is empty. -/
  | nothingAsked
  /-- There are options but no command. -/
  | missingCommand
  | unknownCommand
  | unknownArgument
  /-- A required option is not given. -/
  | missingOption
  /-- A value is missing, or none of the values that are allowed. -/
  | invalidValue
  /-- A value has not the form that it should have. -/
  | malformedValue
  /-- An option that takes no value is given one. -/
  | unexpectedValue
  | repeatedOption
  deriving DecidableEq, Repr

namespace Stop

/-- Whether the user got what was asked for. -/
def isAnswer : Stop → Bool
  | helpAsked | versionAsked => true
  | _ => false

/-- The exit code of a program that stops so. -/
def exitCode (s : Stop) : Nat :=
  if s.isAnswer then 0 else 2

end Stop

end DriverHandover.CommandLine
