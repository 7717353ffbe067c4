import DriverHandover.Claim.Feed
import DriverHandover.Cluster.Connection
import DriverHandover.CommandLine

/-!
# The program

Every command starts with a connection to the API server and a first listing of the claims. There
is no transport to a server in this library, so a command gets as far as the first listing, which
then does not come.

## Main definitions

* `Program.start` – how the start of a command fails.
* `Program.exitCode` – the exit code of a command line.
-/

namespace DriverHandover.Program

/-- The exit code of a command that fails. -/
def failureCode : Nat := 1

/-- The configuration file of a request. -/
def kubeconfig? : CommandLine.Command → Option String
  | .uninstallDriver s => s.kubeconfig
  | .preflightCheck s => s.kubeconfig
  | .nvdrain s => s.kubeconfig

/-- How the start of a command fails, where `content?` is what is read from a configuration file, in
the surroundings `s`. -/
def start (s : Surroundings) (path? content? : Option String) : Report ClusterError :=
  match path? with
  | none => Report.of (.connectionFailed "no in-cluster service account or default kubeconfig")
  | some path =>
    match connect s path content? with
    | .error report => report
    | .ok _ => Report.of (.cacheSyncTimeout syncTimeout)

/-- The exit code of a command line. -/
def exitCode (env : CommandLine.Environment) (args : List String) : Nat :=
  match CommandLine.read env args with
  | .error stop => stop.exitCode
  | .ok _ => failureCode

end DriverHandover.Program
