/-!
# Commands

## Main definitions

* `CommandStatus` – how a program ended, with `CommandStatus.text`.
* `CommandResult` – what is left of a program that has ended.
* `commandLine` – how messages refer to a command.
-/

namespace DriverHandover

/-- How a program ended. -/
inductive CommandStatus where
  | exited (code : Nat)
  | killed (signal : Nat)
  deriving DecidableEq, Repr

/-- The names of the signals from 1 on. -/
def signalNames : List String :=
  ["SIGHUP", "SIGINT", "SIGQUIT", "SIGILL", "SIGTRAP", "SIGABRT", "SIGBUS", "SIGFPE", "SIGKILL",
    "SIGUSR1", "SIGSEGV", "SIGUSR2", "SIGPIPE", "SIGALRM", "SIGTERM", "SIGSTKFLT", "SIGCHLD",
    "SIGCONT", "SIGSTOP", "SIGTSTP", "SIGTTIN", "SIGTTOU", "SIGURG", "SIGXCPU", "SIGXFSZ",
    "SIGVTALRM", "SIGPROF", "SIGWINCH", "SIGIO", "SIGPWR", "SIGSYS"]

namespace CommandStatus

/-- Whether the program did what it was asked to. -/
def isSuccess : CommandStatus → Bool
  | exited code => code == 0
  | killed _ => false

/-- The text of a status. -/
def text : CommandStatus → String
  | exited code => s!"exit status: {code}"
  | killed signal =>
    match signalNames[signal - 1]? with
    | some name => s!"signal: {signal} ({name})"
    | none => s!"signal: {signal}"

end CommandStatus

/-- What is left of a program that has ended. -/
structure CommandResult where
  status : CommandStatus
  stdout : List UInt8
  stderr : List UInt8
  deriving DecidableEq, Repr

/-- A program with its arguments, as messages show it. -/
def commandLine (program : String) (args : List String) : String :=
  " ".intercalate (program :: args)

end DriverHandover
