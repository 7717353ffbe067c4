import DriverHandover.Duration

/-!
# Errors of the cluster

## Main definitions

* `ClusterError` – what can go wrong between a node and the cluster, with `ClusterError.message`.
* `ApiError` – how a single request fails.
-/

namespace DriverHandover

/-- How a request to the API server fails. -/
inductive ApiError where
  /-- The server answered with an error status. -/
  | status (code : Nat)
  /-- There was no answer, or none that could be read. -/
  | noAnswer
  deriving DecidableEq, Repr

/-- The wording of a failed request. -/
def ApiError.message : ApiError → String
  | .status code => s!"the API server answered with status {code}"
  | .noAnswer => "the API server gave no readable answer"

/-- What can go wrong in the cluster. -/
inductive ClusterError where
  | connectionFailed (message : String)
  | watchFailed (message : String)
  | cacheSyncTimeout (timeout : Duration)
  | nodeReadFailed (node : String)
  | nodeUpdateFailed (node : String)
  | podListFailed (message : String)
  | podTerminationTimeout (selector : String) (timeout : Duration)
  | evictionFailed (pod : String)
  | podDeletionTimeout (pod : String) (timeout : Duration)
  | drainFailed (node message : String)
  deriving DecidableEq, Repr

/-- The wording of a cluster error. -/
def ClusterError.message : ClusterError → String
  | .connectionFailed message => s!"Failed to connect to Kubernetes API: {message}"
  | .watchFailed message => s!"Failed to watch resource claims: {message}"
  | .cacheSyncTimeout timeout =>
    let budget := timeout.text
    s!"Resource claim cache did not sync within {budget}"
  | .nodeReadFailed node => s!"Failed to read node {node}"
  | .nodeUpdateFailed node => s!"Failed to update node {node}"
  | .podListFailed message => s!"Failed to list pods: {message}"
  | .podTerminationTimeout selector timeout =>
    let budget := timeout.text
    s!"Timed out after {budget} waiting for pods matching {selector} to terminate"
  | .evictionFailed pod => s!"Failed to evict pod {pod}"
  | .podDeletionTimeout pod timeout =>
    let budget := timeout.text
    s!"Pod {pod} was not deleted within {budget}"
  | .drainFailed node message => s!"Failed to drain node {node}: {message}"

end DriverHandover
