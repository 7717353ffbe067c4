/-!
# Unloading the driver modules

The kernel modules of the driver can be removed only when nothing but themselves holds them. The
base module is held once by each loaded module that depends on it; further references to it, or any
reference to a dependent module, mean that the driver is in use.

## Main definitions

* `driverModules` – the modules of the driver, dependents before the base module.
* `planUnload` – the names to remove, in order, or why nothing may be removed.
-/

namespace DriverHandover

/-- The module that all other driver modules depend on. -/
def baseModule : String := "nvidia"

/-- The module through which virtual GPUs are handed out. -/
def vgpuModule : String := "nvidia_vgpu_vfio"

/-- The module that stands in where the driver is not loaded. -/
def nouveauModule : String := "nouveau"

/-- The modules of the driver in unload order. -/
def driverModules : List String :=
  ["nvidia_modeset", "nvidia_uvm", "nvidia_peermem", "nvidia_fs", vgpuModule, "gdrdrv", baseModule]

/-- A loaded driver module with its reference count. -/
structure LoadedModule where
  name : String
  refcount : Nat
  deriving DecidableEq, Repr

/-- Why the driver modules stay loaded. -/
inductive UnloadRefusal where
  /-- The base module has more references than dependents. -/
  | baseInUse (refcount dependents : Nat)
  /-- A dependent module is referenced. -/
  | dependentInUse (name : String) (refcount : Nat)
  deriving DecidableEq, Repr

/-- The wording of a refusal. -/
def UnloadRefusal.message : UnloadRefusal → String
  | .baseInUse refcount dependents =>
    s!"nvidia has {refcount} references but only {dependents} dependent modules are loaded"
  | .dependentInUse name refcount => s!"{name} is in use ({refcount} references)"

/-- The reference count of the base module, which is zero if it is not loaded. -/
def baseRefcount (loaded : List LoadedModule) : Nat :=
  ((loaded.find? (·.name == baseModule)).map (·.refcount)).getD 0

/-- The loaded modules other than the base module. -/
def dependents (loaded : List LoadedModule) : List LoadedModule :=
  loaded.filter (·.name != baseModule)

/-- The names to remove. With virtual GPUs the manager of these holds the base module twice, so
exactly two references are no sign of use then. -/
def planUnload (loaded : List LoadedModule) : Except UnloadRefusal (List String) :=
  let base := baseRefcount loaded
  let others := dependents loaded
  let names := loaded.map (·.name)
  if others.length < base then
    if base = 2 ∧ others.any (·.name == vgpuModule) then .ok names
    else .error (.baseInUse base others.length)
  else
    match others.find? (·.refcount != 0) with
    | some busy => .error (.dependentInUse busy.name busy.refcount)
    | none => .ok names

end DriverHandover
