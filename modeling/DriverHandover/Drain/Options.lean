import DriverHandover.Duration

/-!
# Drain options

## Main definitions

* `DrainOptions` – how pods are removed from a node.
-/

namespace DriverHandover

/-- How pods are removed from a node. -/
structure DrainOptions where
  /-- Remove also pods that no controller will replace. -/
  force : Bool
  /-- Remove also pods whose data is lost with them. -/
  deleteLocalData : Bool
  /-- The time for all removals together; zero is no limit. -/
  timeout : Duration
  /-- The label selector of the pods that a full drain considers. -/
  podSelector : Option String
  /-- The seconds a removed pod has to end in; `none` leaves that to the pod. -/
  graceSeconds : Option Nat
  deriving DecidableEq, Repr

namespace DrainOptions

/-- No permission beyond the plain case, and no limit. -/
def default : DrainOptions := ⟨false, false, Duration.zero, none, none⟩

instance : Inhabited DrainOptions := ⟨default⟩

/-- The moment at which removals that start now have to end. -/
def deadline? (o : DrainOptions) (now : Instant) : Option Instant :=
  if o.timeout.isZero then none else some (now.after o.timeout)

/-- Whether the clock can show the moment at which removals that start now have to end, if there is
one. -/
def deadlineIsShown (o : DrainOptions) (now : Instant) : Bool :=
  (o.deadline? now).all (·.isShown)

end DrainOptions

end DriverHandover
