import DriverHandover.CommandLine.Settings

/-!
# The command line

A command line has options that stand before the command, the command, and the options of that.

## Main definitions

* `CommandName`, `CommandLine.Command` – the commands, and a command with its settings.
* `CommandLine.read` – the command that a command line and an environment ask for, or why there is
  none.
-/

namespace DriverHandover

/-- The names of the commands. -/
inductive CommandName where
  | uninstallDriver
  | preflightCheck
  | nvdrain
  deriving DecidableEq, Repr

namespace CommandName

/-- All commands. -/
def all : List CommandName := [uninstallDriver, preflightCheck, nvdrain]

/-- How a command is written. -/
def word : CommandName → String
  | uninstallDriver => "uninstall_driver"
  | preflightCheck => "preflight_check"
  | nvdrain => "nvdrain"

/-- The command that a word names. -/
def ofWord? (word : String) : Option CommandName :=
  all.find? fun name => name.word == word

end CommandName

namespace CommandLine

/-- A command with its settings. -/
inductive Command where
  | uninstallDriver (settings : ManagerSettings)
  | preflightCheck (settings : ManagerSettings)
  | nvdrain (settings : GpuDrainSettings)
  deriving DecidableEq, Repr

/-- What a command line asks for. -/
structure Request where
  debug : Bool
  command : Command
  deriving DecidableEq, Repr

/-- The word that asks for help about the command that follows. -/
def helpWord : String := "help"

/-- Whether a word names a command. -/
def isCommandWord (word : String) : Bool :=
  word == helpWord || (CommandName.ofWord? word).isSome

/-- Asks for help about a command; there is none about more than one. -/
def readHelp : List String → Stop
  | [] => .helpAsked
  | [word] => if isCommandWord word then .helpAsked else .unknownCommand
  | _ => .unknownCommand

/-- Reads a command with the words after it. -/
def readCommand (env : Environment) (args : List String) : CommandName → Except Stop Request
  | .uninstallDriver => do
    let s ← Scan.read env args
    return ⟨s.debug, .uninstallDriver (← ManagerSettings.ofScan s)⟩
  | .preflightCheck => do
    let s ← Scan.read env args
    return ⟨s.debug, .preflightCheck (← ManagerSettings.ofScan s)⟩
  | .nvdrain => do
    let s ← Scan.read env args
    return ⟨s.debug, .nvdrain (← GpuDrainSettings.ofScan s)⟩

/-- A command line without a command. The environment counts as an option. -/
def withoutCommand (env : Environment) (debug : Bool) : Except Stop Request := do
  if debug then .error .missingCommand
  let _ ← Scan.debugFrom env
  if (env.lookup debugVariable).isSome then .error .missingCommand
  .error .nothingAsked

/-- Reads letters after a dash that stand before the command. -/
def readLetters : List Char → Stop
  | 'h' :: _ => .helpAsked
  | 'V' :: _ => .versionAsked
  | _ => .unknownArgument

/-- Reads a command line, where `debug` tells whether debug logging has been asked for so far. The
environment is looked at also where it does not count: what it says about debug logging has to be a
truth value, unless that is asked for before the command. -/
def readFrom (env : Environment) (debug : Bool) : List String → Except Stop Request
  | [] => withoutCommand env debug
  | text :: rest =>
    match CommandName.ofWord? text with
    | some name => do
      let request ← readCommand env rest name
      if debug then return { request with debug }
      let fromEnvironment ← Scan.debugFrom env
      return { request with debug := request.debug || fromEnvironment }
    | none =>
      if text = helpWord then .error (readHelp rest)
      else
        match Word.ofString text, rest with
        | .separator, [] => withoutCommand env debug
        | .separator, word :: _ =>
          .error (if isCommandWord word then .unknownArgument else .unknownCommand)
        | .long name value, rest =>
          if name = "debug" ∨ name = "help" ∨ name = "version" then
            if value.isSome then .error .unexpectedValue
            else if name = "help" then .error .helpAsked
            else if name = "version" then .error .versionAsked
            else if debug then .error .repeatedOption
            else readFrom env true rest
          else .error .unknownArgument
        | .short letters, _ => .error (readLetters letters)
        | .plain, _ => .error .unknownCommand

/-- Reads the words of a command line after the name of the program. -/
def read (env : Environment) (args : List String) : Except Stop Request :=
  readFrom env false args

end CommandLine

end DriverHandover
