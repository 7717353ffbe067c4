import DriverHandover.Claim.Loop
import DriverHandover.Claim.Stream
import DriverHandover.Cluster.Error
import DriverHandover.Report

/-!
# The claim feed

The feed keeps a claim cache up to date: it lists all claims and then watches them, and sends the
changes to the event loop of the cache. When the watch just ends it is opened again; when it fails,
the feed lists anew after a pause. The cache counts as synced when the first listing is in.

The feed is run here against a service whose requests take no time and fail when they are told to.
Time is virtual: it passes only while nothing is left to do.

## Main definitions

* `ClaimFeed` – what the feed remembers; `ClaimFeed.observe` – the changes that it sends.
* `ClaimService` – a service that serves claims.
* `FeedRun` – the feed, its event loop and the service, with `FeedRun.start?` and what can happen
  to them afterwards.
-/

namespace DriverHandover

/-- What the feed remembers: the claims it knows, and whether it has told that a listing is in. -/
structure ClaimFeed where
  known : KnownClaims
  told : Bool
  deriving DecidableEq, Repr

namespace ClaimFeed

/-- A feed that has seen nothing. -/
def start : ClaimFeed := ⟨KnownClaims.empty, false⟩

/-- Whether an event is a listing. -/
def isListing : WatchEvent → Bool
  | .listed _ => true
  | _ => false

/-- The changes that an event amounts to. After those of the first listing comes the news that the
cache is in sync. -/
def observe (feed : ClaimFeed) (event : WatchEvent) : List ClaimChange × ClaimFeed :=
  let (changes, known) := feed.known.observe event
  if isListing event ∧ ¬ feed.told then (changes ++ [.synced], ⟨known, true⟩)
  else (changes, { feed with known })

end ClaimFeed

/-- The pause before the feed lists anew. -/
def watchRetryDelay : Duration := Duration.ofSeconds 5

/-- The time that the first listing may take. -/
def syncTimeout : Duration := Duration.ofSeconds 60

/-- A service that serves claims. -/
structure ClaimService where
  /-- The claims that a listing returns, as they are sent. -/
  claims : List Json
  failingLists : Nat
  failingWatches : Nat
  /-- The requests so far. -/
  lists : Nat
  watches : Nat
  deriving Repr

/-- What the feed is doing. -/
inductive FeedPhase where
  | watching
  /-- Pausing until a moment. -/
  | pausing (wake : Instant)
  | ended
  deriving DecidableEq, Repr

/-- The feed with everything around it. -/
structure FeedRun where
  service : ClaimService
  feed : ClaimFeed
  loop : ClaimLoop
  phase : FeedPhase
  now : Instant
  deriving Repr

namespace FeedRun

/-- Tells an event to the feed; the event loop applies all changes. -/
def observe (r : FeedRun) (event : WatchEvent) : FeedRun :=
  let (changes, feed) := r.feed.observe event
  { r with feed, loop := { r.loop with queue := r.loop.queue ++ changes }.settle }

/-- Gives the watch up and pauses. -/
def pause (r : FeedRun) : FeedRun :=
  { r with phase := .pausing (r.now.after watchRetryDelay) }

/-- Opens a watch. -/
def openWatch (r : FeedRun) : FeedRun :=
  let service := { r.service with watches := r.service.watches + 1 }
  match service.failingWatches with
  | 0 => { r with service, phase := .watching }
  | n + 1 => { r with service := { service with failingWatches := n } }.pause

/-- Lists all claims and opens a watch. A listing with something in it that is no claim fails. -/
def list (r : FeedRun) : FeedRun :=
  let service := { r.service with lists := r.service.lists + 1 }
  match service.failingLists with
  | n + 1 => { r with service := { service with failingLists := n } }.pause
  | 0 =>
    match service.claims.mapM Claim.ofJson? with
    | none => { r with service }.pause
    | some claims => ({ r with service }.observe (.listed claims)).openWatch

/-- Lets time pass up to a moment, in which the feed lists anew at most `fuel` times. -/
def advanceTo (moment : Instant) : Nat → FeedRun → FeedRun
  | 0, r => { r with now := moment }
  | fuel + 1, r =>
    match r.phase with
    | .pausing wake =>
      if wake ≤ moment then advanceTo moment fuel { r with now := wake }.list
      else { r with now := moment }
    | _ => { r with now := moment }

/-- Lets some time pass. -/
def advance (d : Duration) (r : FeedRun) : FeedRun :=
  advanceTo (r.now.after d) (d.nanos / watchRetryDelay.nanos + 1) r

/-- Waits, with at most `fuel` pauses, until the cache is in sync; `none` when it is not in sync
before `deadline`. -/
def awaitSync (deadline : Instant) : Nat → FeedRun → Option FeedRun
  | 0, _ => none
  | fuel + 1, r =>
    if r.loop.cache.synced then some r
    else
      match r.phase with
      | .pausing wake =>
        if wake < deadline then awaitSync deadline fuel { r with now := wake }.list else none
      | _ => none

/-- Starts the feed on a service and waits for the first listing. -/
def start? (service : ClaimService) : Except (Report ClusterError × Instant) FeedRun :=
  let run : FeedRun := ⟨service, ClaimFeed.start, ClaimLoop.start, .ended, 0⟩
  let deadline := run.now.after syncTimeout
  match awaitSync deadline (syncTimeout.nanos / watchRetryDelay.nanos + 1) run.list with
  | some r => .ok r
  | none => .error (Report.of (.cacheSyncTimeout syncTimeout), deadline)

/-- An item arrives on the stream, which is lost unless a watch is open. -/
def receive (item : StreamItem) (r : FeedRun) : FeedRun :=
  match r.phase, item with
  | .watching, .event e => r.observe e
  | .watching, .broken => r.pause
  | _, _ => r

/-- Items arrive on the stream, one after the other. -/
def receiveAll (items : List StreamItem) (r : FeedRun) : FeedRun :=
  items.foldl (fun r item => r.receive item) r

/-- The stream ends. -/
def endStream (r : FeedRun) : FeedRun :=
  match r.phase with
  | .watching => r.openWatch
  | _ => r

/-- The feed and the event loop are told to end. -/
def cancel (r : FeedRun) : FeedRun :=
  { r with phase := .ended, loop := r.loop.cancel.settle }

/-- The tasks that still run. -/
def running (r : FeedRun) : Nat :=
  (if r.phase = .ended then 0 else 1) + (if r.loop.running then 1 else 0)

end FeedRun

end DriverHandover
