/-!
# Errors of the host

## Main definitions

* `HostError` – what can go wrong on the host, with `HostError.message`.
* `IoError` – why a file cannot be read.
-/

namespace DriverHandover

/-- Why a file operation fails. -/
inductive IoError where
  | notFound
  | isDirectory
  | notDirectory
  /-- The bytes of the file are no text. -/
  | notText
  deriving DecidableEq, Repr

/-- The wording of a file error. -/
def IoError.message : IoError → String
  | .notFound => "No such file or directory (os error 2)"
  | .isDirectory => "Is a directory (os error 21)"
  | .notDirectory => "Not a directory (os error 20)"
  | .notText => "stream did not contain valid UTF-8"

/-- What can go wrong while the host is probed or changed. -/
inductive HostError where
  | commandFailed (command : String)
  | readFailed (path : String)
  | versionUnknown
  | modulesInUse
  | unloadFailed (modules : String)
  | unmountFailed (path : String)
  deriving DecidableEq, Repr

/-- The wording of a host error. -/
def HostError.message : HostError → String
  | .commandFailed command => s!"Failed to run {command}"
  | .readFailed path => s!"Failed to read {path}"
  | .versionUnknown => "Unable to determine the installed driver version"
  | .modulesInUse => "NVIDIA driver kernel modules are in use"
  | .unloadFailed modules => s!"Failed to unload kernel modules: {modules}"
  | .unmountFailed path => s!"Failed to unmount {path}"

end DriverHandover
