import DriverHandover.Cluster.Address
import DriverHandover.Cluster.Api
import DriverHandover.Cluster.Credentials
import DriverHandover.Cluster.Kubeconfig.Coding
import DriverHandover.Host.Path
import DriverHandover.Report

/-!
# Connections

A connection is made in the context that counts in a configuration file. It is usable if the server
and a proxy have addresses, and if certificates and credentials are in order; whether the server
answers shows only later.

## Main definitions

* `Kubeconfig.isUsable` – whether a connection can be made to a cluster as a user.
* `connect` – the namespace of a connection, or how it fails.
* `connectionFiles` – the files that a connection needs.
-/

namespace DriverHandover

namespace Kubeconfig

/-- Whether there is no proxy, or one with an address. -/
def isProxyUsable (proxy : Option String) : Bool :=
  proxy.all fun proxy => proxy.isEmpty || Address.isValid proxy

/-- Whether a connection can be made to a cluster as a user. -/
def isUsable (s : Surroundings) (cluster : KubeCluster) (user : KubeUser) : Bool :=
  cluster.server.any Address.isValid && isProxyUsable cluster.proxy && cluster.isTrustUsable s &&
    user.isUsable s

/-- The directory that a path is in. -/
def directoryOf (path : String) : String :=
  String.ofList (path.toList.reverse.dropWhile (· != '/')).reverse

/-- The surroundings as seen from a configuration file: paths go from its directory. -/
def seenFrom (path : String) (s : Surroundings) : Surroundings :=
  { s with bytesOf := fun file => s.bytesOf (Path.join (directoryOf path) file) }

end Kubeconfig

/-- Makes a connection with a configuration file, which may be missing, and returns the namespace of
what is asked for without one. -/
def connect (s : Surroundings) (path : String) (content : Option String) :
    Except (Report ClusterError) String :=
  match (content.bind Kubeconfig.ofText?).bind Kubeconfig.selected? with
  | some (context, cluster, user) =>
    if Kubeconfig.isUsable (Kubeconfig.seenFrom path s) cluster user then
      .ok (context.podNamespace.getD defaultNamespace)
    else .error (Report.of (.connectionFailed s!"unusable kubeconfig {path}"))
  | none => .error (Report.of (.connectionFailed s!"unusable kubeconfig {path}"))

/-- The files that a connection with a configuration file needs. -/
def connectionFiles (path : String) (content : Option String) : List String :=
  match (content.bind Kubeconfig.ofText?).bind Kubeconfig.selected? with
  | some (_, cluster, user) =>
    (cluster.authority.toList ++ user.files).map (Path.join (Kubeconfig.directoryOf path))
  | none => []

end DriverHandover
