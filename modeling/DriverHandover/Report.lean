import DriverHandover.Cluster.Error
import DriverHandover.Host.Error
import DriverHandover.Host.Unload
import DriverHandover.Text.Number
import DriverHandover.Uninstall.Error

/-!
# Reports

What a failed operation returns: the error itself, the failures below it from the top down, and
notes about them. A step that fails because of a lower one puts its own error on top of the lower
report; a note goes on top of the notes so far.

## Main definitions

* `Failure` – any error, as it occurs below another one.
* `Report` – an error with its causes and notes.
* `Report.under`, `Report.note`, `Report.join` – putting an error on top, adding a note, and
  reporting two failures together.
-/

namespace DriverHandover

/-- Any error below another one. -/
inductive Failure where
  | uninstall (e : UninstallError)
  | cluster (e : ClusterError)
  | host (e : HostError)
  | refusal (r : UnloadRefusal)
  | api (e : ApiError)
  | io (e : IoError)
  | number (e : NumberError)
  deriving DecidableEq, Repr

/-- The wording of a failure. -/
def Failure.message : Failure → String
  | .uninstall e => e.message
  | .cluster e => e.message
  | .host e => e.message
  | .refusal r => r.message
  | .api e => e.message
  | .io e => e.message
  | .number e => e.message

/-- Errors that can occur below another one. -/
class Cause (ε : Type) where
  toFailure : ε → Failure

instance : Cause UninstallError := ⟨.uninstall⟩
instance : Cause ClusterError := ⟨.cluster⟩
instance : Cause HostError := ⟨.host⟩
instance : Cause UnloadRefusal := ⟨.refusal⟩
instance : Cause ApiError := ⟨.api⟩
instance : Cause IoError := ⟨.io⟩
instance : Cause NumberError := ⟨.number⟩

/-- An error, the failures below it and the notes about them, both from the top down. -/
structure Report (ε : Type) where
  error : ε
  causes : List Failure
  notes : List String
  deriving DecidableEq, Repr

namespace Report

variable {ε ε' : Type}

/-- The report of an error without a cause. -/
def of (e : ε) : Report ε := ⟨e, [], []⟩

/-- The report of an error that comes from another one. -/
def because [Cause ε'] (e : ε) (cause : ε') : Report ε := ⟨e, [Cause.toFailure cause], []⟩

/-- Puts an error on top of a report. -/
def under [Cause ε] (r : Report ε) (e : ε') : Report ε' :=
  ⟨e, Cause.toFailure r.error :: r.causes, r.notes⟩

/-- Adds a note on top of a report. -/
def note (r : Report ε) (text : String) : Report ε :=
  { r with notes := text :: r.notes }

/-- Reports two failures together: the second one counts as a cause beside those of the first. -/
def join [Cause ε] (r s : Report ε) : Report ε :=
  ⟨r.error, r.causes ++ Cause.toFailure s.error :: s.causes, r.notes ++ s.notes⟩

/-- Reports several failures together; `none` if there is none. -/
def joinAll? [Cause ε] : List (Report ε) → Option (Report ε)
  | [] => none
  | r :: rest => some (rest.foldl join r)

end Report

end DriverHandover
