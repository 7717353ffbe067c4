/-!
# Configuration files of the connection

A configuration file names clusters, users and contexts, and the context that counts. A context is
a cluster with a user, and with the namespace of what is asked for without one. A file can consist
of several documents; what an earlier one says wins over what a later one says.

## Main definitions

* `KubeCluster`, `KubeUser`, `KubeContext` – what a file can name.
* `Kubeconfig` – the content of a configuration file, with `Kubeconfig.merge?`.
* `Kubeconfig.selected?` – the context that counts, with its cluster and its user.
-/

namespace DriverHandover

/-- A cluster: where its server is, and whom to trust. -/
structure KubeCluster where
  server : Option String
  /-- The file with the certificates to trust. -/
  authority : Option String
  /-- The certificates themselves, which count before the file. -/
  authorityData : Option String
  proxy : Option String
  deriving DecidableEq, Repr

/-- A helper that provides the credentials of a user. -/
structure AuthProvider where
  name : String
  settings : List (String × String)
  deriving DecidableEq, Repr

/-- A user: who asks, and how that is shown. -/
structure KubeUser where
  username : Option String
  password : Option String
  token : Option String
  tokenFile : Option String
  certificate : Option String
  certificateData : Option String
  key : Option String
  keyData : Option String
  /-- The user and the groups in whose place this one asks. -/
  insteadOf : Option String
  insteadOfGroups : Option (List String)
  provider : Option AuthProvider
  /-- Whether there is a command that provides the credentials. -/
  hasCommand : Bool
  deriving DecidableEq, Repr

/-- A context: where a connection goes. -/
structure KubeContext where
  cluster : String
  user : String
  podNamespace : Option String
  deriving DecidableEq, Repr

/-- The content of a configuration file: of each name what it stands for, if anything. -/
structure Kubeconfig where
  kind : Option String
  apiVersion : Option String
  clusters : List (String × Option KubeCluster)
  users : List (String × Option KubeUser)
  contexts : List (String × Option KubeContext)
  current : Option String
  deriving DecidableEq, Repr

namespace Kubeconfig

/-- A file that says nothing. -/
def empty : Kubeconfig := ⟨none, none, [], [], [], none⟩

/-- Whether two texts do not contradict each other. -/
def agree : Option String → Option String → Bool
  | some a, some b => a == b
  | _, _ => true

/-- Names with what they stand for, and those of another list that are new. -/
def addNew (first second : List (String × α)) : List (String × α) :=
  first ++ second.filter fun e => !(first.map (·.1)).contains e.1

/-- What two documents say together, if they are of one kind and version. -/
def merge? (first second : Kubeconfig) : Option Kubeconfig :=
  if agree first.kind second.kind ∧ agree first.apiVersion second.apiVersion then
    some {
      kind := first.kind.or second.kind
      apiVersion := first.apiVersion.or second.apiVersion
      clusters := addNew first.clusters second.clusters
      users := addNew first.users second.users
      contexts := addNew first.contexts second.contexts
      current := first.current.or second.current }
  else none

/-- What documents say together. -/
def mergeAll? : List Kubeconfig → Option Kubeconfig
  | [] => some empty
  | first :: rest => rest.foldlM merge? first

/-- The context that counts, with its cluster and its user. -/
def selected? (k : Kubeconfig) : Option (KubeContext × KubeCluster × KubeUser) := do
  let context ← (← k.contexts.lookup (← k.current))
  let cluster ← (← k.clusters.lookup context.cluster)
  let user ← (← k.users.lookup context.user)
  return (context, cluster, user)

end Kubeconfig

end DriverHandover
