import DriverHandover.Program

/-!
# The command line program

## Main definitions

* `main` – reads the command line and the environment, and says why no command is run.
-/

namespace DriverHandover.Program

/-- The environment variables that count. -/
def variableNames : List String :=
  CommandLine.debugVariable ::
    (CommandLine.ManagerOption.all.map (·.spec.envName) ++
      CommandLine.GpuDrainOption.all.map (·.spec.envName))

/-- The environment variables that are set, among those that count. -/
def readEnvironment : IO CommandLine.Environment := do
  let values ← variableNames.mapM fun name => do
    return (← IO.getEnv name).map fun value => (name, value)
  return values.filterMap id

/-- The content of a file, if it can be read. -/
def readContent (path : String) : IO (Option String) := do
  try
    return some (← IO.FS.readFile path)
  catch _ =>
    return none

/-- The bytes of files, if they can be read. -/
def readFiles (paths : List String) : IO (List (String × List UInt8)) := do
  let files ← paths.mapM fun (path : String) => do
    try
      return some (path, (← IO.FS.readBinFile path).toList)
    catch _ =>
      return none
  return files.filterMap id

/-- Runs a command line and returns the exit code. -/
def run (args : List String) : IO UInt32 := do
  let env ← readEnvironment
  match CommandLine.read env args with
  | .error _ => pure ()
  | .ok request =>
    let path? := kubeconfig? request.command
    let content? ← match path? with
      | some path => readContent path
      | none => pure none
    let files ← readFiles ((path?.map (connectionFiles · content?)).getD [])
    let surroundings : Surroundings := ⟨fun path => files.lookup path, none⟩
    IO.eprintln (start surroundings path? content?).error.message
  return UInt32.ofNat (exitCode env args)

end DriverHandover.Program

/-- Runs a command line. -/
def main (args : List String) : IO UInt32 :=
  DriverHandover.Program.run args
