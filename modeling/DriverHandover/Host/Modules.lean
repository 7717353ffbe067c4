import DriverHandover.Host.Call
import DriverHandover.Host.ModuleTable
import DriverHandover.Host.Path
import DriverHandover.Text.Quoted

/-!
# The driver modules of a host

The kernel shows each loaded module as a directory, with the reference count in a file.

## Main definitions

* `Host.loadedModules` – the driver modules that are loaded, with their reference counts.
* `Host.unloadModules` – removes them if nothing holds them.
* `Host.logModules` – logs the table of kernel modules.
-/

namespace DriverHandover.Host

/-- The file with the reference count of a module, which exists exactly while it is loaded. -/
def refcountPath (sys module : String) : String :=
  Path.join (Path.join (Path.join sys "module") module) "refcnt"

/-- The reference count in the content of a file. -/
def readRefcount (path content : String) : Except (Report HostError) Nat :=
  let text := Text.trim content
  match Number.readUInt32 text.toList with
  | .ok n => .ok n
  | .error e =>
    let shown := Text.quoted text
    .error ((Report.because (.readFailed path) e).note s!"invalid refcount {shown}")

/-- Those of some modules that are loaded, in order. -/
def loadedAmong (sys : String) : List String → HostStep (List LoadedModule)
  | [] => return []
  | name :: rest => do
    let path := refcountPath sys name
    match ← readText path with
    | .error .notFound => loadedAmong sys rest
    | .error e => throw (Report.because (.readFailed path) e)
    | .ok content =>
      let refcount ← ExceptT.mk (pure (readRefcount path content))
      let others ← loadedAmong sys rest
      return ⟨name, refcount⟩ :: others

/-- The driver modules that are loaded, in unload order. -/
def loadedModules (sys : String) : HostStep (List LoadedModule) :=
  loadedAmong sys driverModules

/-- Logs lines. -/
def logLines (level : LogLevel) : List String → HostProcess Unit
  | [] => return ()
  | line :: rest => do
    ask (.log level line)
    logLines level rest

/-- The file with the table of kernel modules. -/
def moduleTablePath (proc : String) : String :=
  Path.join proc "modules"

/-- Logs the rows of the table of kernel modules that hold `filter`, after the warnings about
malformed ones. -/
def logModules (proc filter : String) : HostStep Unit := do
  let content := (← requireText (moduleTablePath proc)).toList
  logLines .info [ModuleTable.header]
  logLines .warning (ModuleTable.warnings filter.toList content)
  logLines .info ((ModuleTable.rows filter.toList content).map ModuleRow.line)

/-- The line that is logged where there is no table of kernel modules. -/
def noModuleTable : String := "Failed to list kernel modules"

/-- Logs who uses the driver, if that can be told. -/
def logUsers (proc : String) : HostProcess Unit := do
  match ← (logModules proc baseModule).run with
  | .ok () => return ()
  | .error _ => ask (.log .warning noModuleTable)

/-- Removes the driver modules, all at once and dependents first, if nothing holds them. -/
def unloadModules (sys proc : String) (remove : List String → HostStep Unit) : HostStep Unit := do
  let loaded ← loadedModules sys
  if loaded.isEmpty then return ()
  match planUnload loaded with
  | .ok names => under (.unloadFailed (" ".intercalate names)) (remove names)
  | .error refusal =>
    logUsers proc
    throw (Report.because .modulesInUse refusal)

end DriverHandover.Host
