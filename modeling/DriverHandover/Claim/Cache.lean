import DriverHandover.Claim
import DriverHandover.Report

/-!
# The claim cache

The set of the pods that hold a claim for a GPU, kept up to date by the changes to the claims. A
change takes the pods of the older claim out and puts those of the newer one in; claims without a
device of the GPU driver never touch the set.

## Main definitions

* `ClaimChange` – a change to the claims, or the news that the first listing is complete.
* `ClaimCache` – the set of pods, with `ClaimCache.holds` to ask and `ClaimCache.apply` to change
  it.
-/

namespace DriverHandover

/-- A change to the claims of the cluster. -/
inductive ClaimChange where
  | added (claim : Claim)
  | updated (old new : Claim)
  | deleted (claim : Claim)
  /-- All claims of the first listing have been told. -/
  | synced
  deriving DecidableEq, Repr

/-- The pods that hold a claim for a GPU, and whether the first listing is in. -/
structure ClaimCache where
  pods : List String
  synced : Bool
  deriving DecidableEq, Repr

namespace ClaimCache

/-- A cache that has heard of no claim. -/
def empty : ClaimCache := ⟨[], false⟩

instance : Inhabited ClaimCache := ⟨empty⟩

/-- Whether a pod holds a claim for a GPU. -/
def holds (cache : ClaimCache) (uid : String) : Bool :=
  cache.pods.contains uid

/-- Puts in the pods that a claim shows to use a GPU. -/
def enter (cache : ClaimCache) (claim : Claim) : ClaimCache :=
  { cache with pods := claim.gpuPods.foldl (fun pods uid => pods.insert uid) cache.pods }

/-- Takes out the pods that a claim shows to use a GPU. -/
def leave (cache : ClaimCache) (claim : Claim) : ClaimCache :=
  { cache with pods := cache.pods.filter fun uid => !claim.gpuPods.contains uid }

/-- Applies one change. -/
def apply (cache : ClaimCache) : ClaimChange → ClaimCache
  | .added claim => cache.enter claim
  | .updated old new => (cache.leave old).enter new
  | .deleted claim => cache.leave claim
  | .synced => { cache with synced := true }

/-- Waits for the first listing. Nothing happens to a cache while somebody waits for it, so the wait
succeeds if the listing is in already and fails when its time is over. -/
def awaitSynced (cache : ClaimCache) (timeout : Duration) : Except (Report ClusterError) Unit :=
  if cache.synced then .ok () else .error (Report.of (.cacheSyncTimeout timeout))

/-- Applies changes in order. -/
def applyAll (cache : ClaimCache) (changes : List ClaimChange) : ClaimCache :=
  changes.foldl apply cache

end ClaimCache

end DriverHandover
