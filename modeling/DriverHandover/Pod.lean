import DriverHandover.Label.Map

/-!
# Pods

What of a pod decides whether it uses a GPU, whether it can be removed from its node, and how it is
addressed.

## Main definitions

* `Pod` – a pod, with `Pod.name`, `Pod.reference` and `Pod.isCompleted`.
* `Pod.isDaemon`, `Pod.isMirror`, `Pod.usesLocalStorage`, `Pod.isManaged` – the properties on which
  a drain decides.
-/

namespace DriverHandover

/-- An owner of a pod. -/
structure Owner where
  kind : String
  isController : Bool
  deriving DecidableEq, Repr

/-- A container, with the names of the resources that it has limits and requests for. -/
structure Container where
  limits : List String
  requests : List String
  deriving DecidableEq, Repr

/-- A volume of a pod. -/
structure Volume where
  isEmptyDir : Bool
  deriving DecidableEq, Repr

/-- What a pod asks for. -/
structure PodSpec where
  nodeName : Option String
  containers : List Container
  /-- The names of the resource claims. -/
  claims : List String
  volumes : List Volume
  deriving DecidableEq, Repr

/-- A pod. -/
structure Pod where
  givenName : Option String
  generateName : Option String
  podNamespace : Option String
  uid : Option String
  labels : LabelMap
  annotations : LabelMap
  owners : List Owner
  spec : Option PodSpec
  phase : Option String
  deriving DecidableEq, Repr

namespace Pod

/-- The name of a pod: its own, else the one it was generated from, else empty. -/
def name (p : Pod) : String :=
  (p.givenName.or p.generateName).getD ""

/-- How messages refer to a pod. -/
def reference (p : Pod) : String :=
  p.podNamespace.getD "" ++ "/" ++ p.name

/-- The volumes of a pod. -/
def volumes (p : Pod) : List Volume :=
  (p.spec.map (·.volumes)).getD []

/-- A pod that has run to its end. -/
def isCompleted (p : Pod) : Bool :=
  p.phase == some "Succeeded" || p.phase == some "Failed"

/-- A pod that a `DaemonSet` controls: it would be started again on a cordoned node. -/
def isDaemon (p : Pod) : Bool :=
  p.owners.any fun o => o.isController && o.kind == "DaemonSet"

/-- The annotation of a pod that the node runs from a file of its own. -/
def mirrorKey : String := "kubernetes.io/config.mirror"

/-- A static pod of the node, which the API server only shows. -/
def isMirror (p : Pod) : Bool :=
  p.annotations.contains mirrorKey

/-- A pod whose data is lost when it is removed. -/
def usesLocalStorage (p : Pod) : Bool :=
  p.volumes.any (·.isEmptyDir)

/-- A pod that a controller will replace. -/
def isManaged (p : Pod) : Bool :=
  p.owners.any (·.isController)

end Pod

end DriverHandover
