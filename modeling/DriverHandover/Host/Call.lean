import DriverHandover.Host.Command
import DriverHandover.Process
import DriverHandover.Report
import DriverHandover.Text.Blank
import DriverHandover.Text.Utf8

/-!
# What a process asks of its host

## Main definitions

* `HostCall`, `HostCall.Reply` – the calls to the host and their replies.
* `HostProcess`, `HostStep` – a process on a host, and a part of one that may fail.
* `Host.readText`, `Host.runCommand` – reading a file and running a program.
-/

namespace DriverHandover

/-- How serious a logged line is. -/
inductive LogLevel where
  | info
  | warning
  deriving DecidableEq, Repr

/-- A call to the host. -/
inductive HostCall where
  | read (path : String)
  /-- Whether there is anything at a path. -/
  | probe (path : String)
  | remove (path : String)
  /-- The names of the entries of a directory. -/
  | list (directory : String)
  | run (program : String) (args : List String)
  | unmount (path : String)
  | log (level : LogLevel) (line : String)
  deriving DecidableEq, Repr

/-- The replies to a call. -/
abbrev HostCall.Reply : HostCall → Type
  | read _ => Except IoError (List UInt8)
  | probe _ => Bool
  | remove _ => Except IoError Unit
  | list _ => Except IoError (List String)
  | run _ _ => Except IoError CommandResult
  | unmount _ => Except IoError Unit
  | log _ _ => Unit

/-- A process on a host. It keeps nothing in mind. -/
abbrev HostProcess := Process HostCall HostCall.Reply Unit

/-- A part of a process on a host that may fail. -/
abbrev HostStep := ExceptT (Report HostError) HostProcess

namespace Host

/-- Makes a call and returns the reply. -/
def ask (call : HostCall) : HostProcess call.Reply :=
  Process.ask call

/-- Reads a file as text. -/
def readText (path : String) : HostProcess (Except IoError String) := do
  match ← ask (.read path) with
  | .error e => return .error e
  | .ok bytes =>
    match Utf8.decode? bytes with
    | some chars => return .ok (String.ofList chars)
    | none => return .error .notText

/-- Reads a file as text; without it, the step fails. -/
def requireText (path : String) : HostStep String := do
  match ← readText path with
  | .ok text => return text
  | .error e => throw (Report.because (.readFailed path) e)

/-- Runs a program and returns what it printed. -/
def runCommand (program : String) (args : List String) : HostStep String := do
  let error := HostError.commandFailed (commandLine program args)
  match ← ask (.run program args) with
  | .error e => throw (Report.because error e)
  | .ok result =>
    if result.status.isSuccess then return String.ofList (Utf8.decodeLossy result.stdout)
    else
      let status := result.status.text
      let complaint := Text.trim (String.ofList (Utf8.decodeLossy result.stderr))
      throw (((Report.of error).note s!"exit status: {status}").note complaint)

/-- Puts an error on top of that of a step. -/
def under (error : HostError) (step : HostStep α) : HostStep α :=
  ExceptT.adapt (fun report => report.under error) step

end Host

end DriverHandover
