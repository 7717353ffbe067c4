import DriverHandover.Json
import DriverHandover.Label.Map
import DriverHandover.Timestamp

/-!
# Metadata of objects

What every object of the API server says about itself: its names, its version, its labels, who owns
it and who manages which of its fields. Most of it only matters for telling two objects apart.

## Main definitions

* `Metadata` – the metadata of an object, with `Metadata.empty`.
* `OwnerReference`, `ManagedFields` – one owner, and one who manages fields.
-/

namespace DriverHandover

/-- One of the owners of an object. -/
structure OwnerReference where
  apiVersion : String
  blockOwnerDeletion : Option Bool
  controller : Option Bool
  kind : String
  name : String
  uid : String
  deriving DecidableEq, Repr

/-- A reference that says nothing. -/
def OwnerReference.empty : OwnerReference := ⟨"", none, none, "", "", ""⟩

/-- One who manages fields of an object. -/
structure ManagedFields where
  apiVersion : Option String
  fieldsType : Option String
  /-- The managed fields, in the normal form of their JSON. -/
  fields : Option Json
  manager : Option String
  operation : Option String
  subresource : Option String
  time : Option Timestamp
  deriving DecidableEq, Repr

/-- A manager that nothing is said about. -/
def ManagedFields.empty : ManagedFields := ⟨none, none, none, none, none, none, none⟩

/-- The metadata of an object. -/
structure Metadata where
  annotations : Option LabelMap
  creationTimestamp : Option Timestamp
  deletionGraceSeconds : Option Int
  deletionTimestamp : Option Timestamp
  finalizers : Option (List String)
  generateName : Option String
  generation : Option Int
  labels : Option LabelMap
  managedFields : Option (List ManagedFields)
  name : Option String
  objectNamespace : Option String
  owners : Option (List OwnerReference)
  resourceVersion : Option String
  selfLink : Option String
  uid : Option String
  deriving DecidableEq, Repr

namespace Metadata

/-- Metadata that says nothing. -/
def empty : Metadata where
  annotations := none
  creationTimestamp := none
  deletionGraceSeconds := none
  deletionTimestamp := none
  finalizers := none
  generateName := none
  generation := none
  labels := none
  managedFields := none
  name := none
  objectNamespace := none
  owners := none
  resourceVersion := none
  selfLink := none
  uid := none

end Metadata

end DriverHandover
