import DriverHandover.Host.Modules
import DriverHandover.Host.Mounts

/-!
# The host of a node

## Main definitions

* `HostLayout` – where things are on the host.
* `Host.hostDriverVersion`, `Host.driverVersion` – the versions of the driver.
* `Host.cleanupDriver` – unloads the driver modules and unmounts the driver.
* `Host.unbindVfio`, `Host.rdmaPresent`, `Host.mofedReady`, `Host.unloadNouveau` – the other
  operations of an uninstall run.
-/

namespace DriverHandover

/-- Where things are on the host. -/
structure HostLayout where
  sys : String
  proc : String
  /-- The root of the host itself. -/
  host : String
  /-- The root of the containerized driver. -/
  driver : String
  /-- The file with the process number of the containerized driver. -/
  pidFile : String
  /-- The file that the MOFED container leaves when its driver is loaded. -/
  mofedReady : String
  deriving DecidableEq, Repr

/-- The layout in production. -/
def HostLayout.default : HostLayout where
  sys := "/sys"
  proc := "/proc"
  host := "/host"
  driver := "/run/nvidia/driver"
  pidFile := "/run/nvidia/nvidia-driver.pid"
  mofedReady := "/run/mellanox/drivers/.driver-ready"

namespace Host

variable (l : HostLayout)

/-- A text that is not blank, without the blanks at its ends. -/
def nonblank? (text : String) : Option String :=
  let trimmed := Text.trim text
  if trimmed = "" then none else some trimmed

/-- The version of a driver that the host itself has. -/
def hostDriverVersion : HostProcess (Option String) := do
  let command := runCommand "chroot"
    [l.host, "nvidia-smi", "--query-gpu=driver_version", "--format=csv,noheader"]
  match ← command.run with
  | .ok output => return nonblank? output
  | .error _ => return none

/-- A version in a text, or the note that there is none. -/
def requireVersion (text complaint : String) : HostStep String :=
  match nonblank? text with
  | some version => return version
  | none => throw ((Report.of .versionUnknown).note complaint)

/-- The version that the containerized driver gives of its module. -/
def moduleInfoVersion : HostStep String := do
  let output ← runCommand "chroot" [l.driver, "modinfo", "-F", "version", baseModule]
  requireVersion output "modinfo printed nothing"

/-- The version that the kernel gives of the loaded module. -/
def loadedVersion : HostStep String := do
  let content ← requireText (Path.join l.sys "module/nvidia/version")
  requireVersion content "empty sysfs version"

/-- The version of the containerized driver, from the first source that tells it. -/
def driverVersion : HostStep String :=
  tryCatch (moduleInfoVersion l) fun first =>
    tryCatch (loadedVersion l) fun second => throw ((second.join first).under .versionUnknown)

/-- Whether a kernel module is loaded. -/
def moduleLoaded (module : String) : HostProcess Bool :=
  ask (.probe (refcountPath l.sys module))

/-- Unmounts the mount points in order. Only the driver root itself has to be unmounted. -/
def unmountAll : List String → HostStep Unit
  | [] => return ()
  | point :: rest => do
    match ← ask (.unmount point) with
    | .ok () => unmountAll rest
    | .error e =>
      if Path.same point l.driver then throw (Report.because (.unmountFailed l.driver) e)
      else unmountAll rest

/-- Unmounts the driver root and all that is mounted below it. Without that directory there is
nothing to do. -/
def unmountDriver : HostStep Unit := do
  if ← ask (.probe l.driver) then
    let listing ← requireText (Path.join l.proc "self/mountinfo")
    unmountAll l (Mounts.under l.driver (Mounts.read listing))

/-- Removes modules from the kernel. -/
def removeModules (names : List String) : HostStep Unit := do
  let _ ← runCommand "rmmod" names

/-- Unloads the driver modules, unmounts the driver and removes the file with its process
number. -/
def cleanupDriver : HostStep Unit := do
  unloadModules l.sys l.proc removeModules
  unmountDriver l
  let _ ← ask (.remove l.pidFile)

/-- Gives the devices that are handed through to virtual machines back. -/
def unbindVfio : HostStep Unit := do
  let _ ← runCommand "vfio-manage" ["unbind", "--all"]

/-- The vendor number of the devices with RDMA. -/
def rdmaVendor : String := "0x15b3"

/-- Whether one of some devices is from the vendor. A device that does not tell counts as one of
another vendor. -/
def anyFromVendor (directory : String) : List String → HostProcess Bool
  | [] => return false
  | device :: rest => do
    match ← readText (Path.join (Path.join directory device) "vendor") with
    | .ok vendor =>
      if Text.trim vendor = rdmaVendor then return true else anyFromVendor directory rest
    | .error _ => anyFromVendor directory rest

/-- Whether there is a device with RDMA. -/
def rdmaPresent : HostProcess Bool := do
  let directory := Path.join l.sys "bus/pci/devices"
  match ← ask (.list directory) with
  | .ok devices => anyFromVendor directory devices
  | .error _ => return false

/-- The kernel module of MOFED. -/
def mofedModule : String := "mlx5_core"

/-- Whether MOFED is ready: on the host its module is in the table of kernel modules, in a container
it has left a file. -/
def mofedReady (onHost : Bool) : HostProcess Bool := do
  if onHost then
    match ← readText (moduleTablePath l.proc) with
    | .ok table => return Text.occurs mofedModule.toList table.toList
    | .error _ => return false
  else ask (.probe l.mofedReady)

/-- Unloads the driver that stands in. -/
def unloadNouveau : HostStep Unit :=
  under (.unloadFailed nouveauModule) (removeModules [nouveauModule])

end Host

end DriverHandover
