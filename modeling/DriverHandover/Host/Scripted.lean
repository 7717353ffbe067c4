import DriverHandover.Host.Call
import DriverHandover.Host.FileTree

/-!
# Scripted hosts

A host whose files are held in memory and whose programs do as a script says. Nothing is mounted
on it.

## Main definitions

* `ScriptedHost` – the files and the programs, with what has been run and logged.
* `ScriptedHost.reply` – the environment that the host is to a process.
-/

namespace DriverHandover

/-- A line that was logged. -/
structure LogEntry where
  level : LogLevel
  line : String
  deriving DecidableEq, Repr

/-- A program with a script. -/
structure ScriptedProgram where
  /-- What is left of the program when it has run. -/
  result : CommandResult
  /-- Whether the program takes effect, which it may do also when it does not end well. -/
  takesEffect : Bool
  deriving DecidableEq, Repr

/-- A host with a script. -/
structure ScriptedHost where
  /-- The directory that all files are in. -/
  root : String
  files : FileTree
  programs : List (String × ScriptedProgram)
  /-- The commands that have been run, the last one first. -/
  ran : List String
  /-- The lines that have been logged, the last one first. -/
  logged : List LogEntry

namespace ScriptedHost

/-- The programs that are run in another root. -/
def rootedPrograms : List String := ["nvidia-smi", "modinfo"]

/-- What is left of a program that is not found in another root. -/
def notFoundInRoot : ScriptedProgram := ⟨⟨.exited 127, [], []⟩, false⟩

/-- The program that a command runs, if there is one. The program `chroot`, which runs another one
in another root, exists where there is something to run in this way. -/
def program? (h : ScriptedHost) (program : String) (args : List String) :
    Option ScriptedProgram :=
  if program = "chroot" then
    if rootedPrograms.any fun name => (h.programs.lookup name).isSome then
      some ((args[1]?.bind fun name => h.programs.lookup name).getD notFoundInRoot)
    else none
  else h.programs.lookup program

/-- The directory that stands for a loaded module. -/
def moduleDirectory (h : ScriptedHost) (module : String) : String :=
  Path.join h.root ("sys/module/" ++ module)

/-- The files after a command: the modules that were to be removed are gone. -/
def filesAfter (h : ScriptedHost) (program : String) (args : List String)
    (script : ScriptedProgram) : FileTree :=
  if program = "rmmod" ∧ script.takesEffect then
    args.foldl (fun files module => files.removeAll (h.moduleDirectory module)) h.files
  else h.files

/-- Runs a command. Programs run in a locale that keeps their output the same everywhere. -/
def runProgram (h : ScriptedHost) (program : String) (args : List String) :
    Except IoError CommandResult × ScriptedHost :=
  match h.program? program args with
  | none => (.error .notFound, h)
  | some script =>
    let ran := ("LC_ALL=C " ++ commandLine program args) :: h.ran
    (.ok script.result, { h with ran, files := h.filesAfter program args script })

/-- How the host replies to the calls of a process. To unmount what is not mounted is no error, as
long as the path leads somewhere. -/
def reply : Handler HostCall HostCall.Reply ScriptedHost
  | .read path, h => (some (h.files.read path), h)
  | .probe path, h => (some (h.files.find path).toOption.isSome, h)
  | .remove path, h =>
    match h.files.remove path with
    | .ok files => (some (.ok ()), { h with files })
    | .error e => (some (.error e), h)
  | .list directory, h => (some (h.files.list directory), h)
  | .run program args, h =>
    let (result, h) := h.runProgram program args
    (some result, h)
  | .unmount path, h => (some ((h.files.find path).map fun _ => ()), h)
  | .log level line, h => (some (), { h with logged := ⟨level, line⟩ :: h.logged })

/-- Runs a process on the host; it starts with nothing run or logged. -/
def run (h : ScriptedHost) (p : HostProcess α) : Option α × ScriptedHost :=
  let (result, _, h) := p.run reply () { h with ran := [], logged := [] }
  (result, h)

end ScriptedHost

end DriverHandover
