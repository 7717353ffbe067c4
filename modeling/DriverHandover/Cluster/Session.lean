import DriverHandover.Cluster.Api
import DriverHandover.Report

/-!
# Sessions with the API server

A session makes requests to a server and lets time pass in between. Requests take no time. A session
has a horizon: whatever would sleep beyond it is abandoned there.

## Main definitions

* `Session` – the server, the clock and the requests so far.
* `Session.ask`, `Session.sleep` – making a request and letting time pass.
* `Session.abort` – aborting the program.
* `SessionM`, `ClusterStep` – what is done in a session, which can be abandoned, and can fail.
-/

namespace DriverHandover

/-- A request that was made. -/
structure Exchange where
  moment : Instant
  request : ApiRequest
  /-- How the request failed, if it did. -/
  failure : Option ApiError
  deriving DecidableEq, Repr

/-- A session with a server whose state has type `ω`. -/
structure Session (ω : Type) where
  server : ω
  now : Instant
  /-- The last moment at which anything is done. -/
  horizon : Instant
  /-- The requests so far, the last one first. -/
  exchanges : List Exchange

/-- What is done in a session; the result is `none` if it is abandoned at the horizon or aborted. -/
abbrev SessionM (ω : Type) := OptionT (StateM (Session ω))

/-- What is done in a session and may fail. -/
abbrev ClusterStep (ω : Type) := ExceptT (Report ClusterError) (SessionM ω)

namespace Session

variable {ω : Type}

/-- The error of a result. -/
def failureOf : Except ε α → Option ε
  | .ok _ => none
  | .error e => some e

/-- Makes a request. -/
def ask (api : ApiServer ω) (request : ApiRequest) :
    StateM (Session ω) (Except ApiError request.Answer) := fun s =>
  let (answer, server) := api request s.now s.server
  (answer, { s with server, exchanges := ⟨s.now, request, failureOf answer⟩ :: s.exchanges })

/-- Lets time pass. -/
def sleep (d : Duration) : ClusterStep ω Unit := fun s =>
  if s.now.after d ≤ s.horizon then (some (.ok ()), { s with now := s.now.after d })
  else (none, { s with now := s.horizon })

/-- Aborts the program: there is no result, and nothing is done from now on. -/
def abort : ClusterStep ω α := fun s => (none, s)

/-- Makes a request whose failure is put below an error. -/
def require (api : ApiServer ω) (error : ClusterError) (request : ApiRequest) :
    ClusterStep ω request.Answer := do
  match ← ask api request with
  | .ok answer => return answer
  | .error e => throw (Report.because error e)

/-- Runs a step in a session that is abandoned after `limit`. -/
def run (step : ClusterStep ω α) (limit : Duration) (s : Session ω) :
    Option (Except (Report ClusterError) α) × Session ω :=
  StateT.run step { s with horizon := s.now.after limit, exchanges := [] }

end Session

end DriverHandover
