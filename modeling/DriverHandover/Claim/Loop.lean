import DriverHandover.Claim.Cache

/-!
# The event loop of the claim cache

One task owns the cache. It takes changes from a queue and applies them in order until it is
cancelled, or until the queue is closed and empty.

## Main definitions

* `ClaimLoop` – the cache, the queue, and whether the task still runs.
* `ClaimLoop.send?`, `ClaimLoop.close`, `ClaimLoop.cancel` – what others do to it.
* `ClaimLoop.step?`, `ClaimLoop.settle` – what the task does itself, one step or all it can.
-/

namespace DriverHandover

/-- The task that owns a claim cache. -/
structure ClaimLoop where
  cache : ClaimCache
  queue : List ClaimChange
  closed : Bool
  cancelled : Bool
  running : Bool
  deriving DecidableEq, Repr

namespace ClaimLoop

/-- A task that has just been started. -/
def start : ClaimLoop := ⟨ClaimCache.empty, [], false, false, true⟩

/-- Sends a change to the task; `none` if nobody will receive it. -/
def send? (l : ClaimLoop) (change : ClaimChange) : Option ClaimLoop :=
  if l.running ∧ ¬ l.closed then some { l with queue := l.queue ++ [change] } else none

/-- Closes the queue: what is in it will still be received. -/
def close (l : ClaimLoop) : ClaimLoop := { l with closed := true }

/-- Asks the task to end. -/
def cancel (l : ClaimLoop) : ClaimLoop := { l with cancelled := true }

/-- Ends the task: what is still in the queue is lost. -/
def stop (l : ClaimLoop) : ClaimLoop := { l with queue := [], running := false }

/-- Takes the next change from the queue and applies it; at the end of a closed queue the task
ends. `none` if there is nothing to receive yet. -/
def receive? (l : ClaimLoop) : Option ClaimLoop :=
  match l.queue with
  | change :: rest => some { l with cache := l.cache.apply change, queue := rest }
  | [] => if l.closed then some l.stop else none

/-- One step of a running task that ends as soon as it is cancelled. -/
def step? (l : ClaimLoop) : Option ClaimLoop :=
  if ¬ l.running then none
  else if l.cancelled then some l.stop
  else l.receive?

/-- Everything the task can do now. -/
def settle (l : ClaimLoop) : ClaimLoop :=
  if ¬ l.running then l
  else if l.cancelled then l.stop
  else
    let done := { l with cache := l.cache.applyAll l.queue, queue := [] }
    if l.closed then done.stop else done

end ClaimLoop

end DriverHandover
