import DriverHandover.Claim.Cache

/-!
# Changes between what is known and what is seen

A watch tells the current state of a claim, not what changed. So the last seen state of each claim
is kept, and the changes are told against it. A new listing may lack claims that were deleted while
nobody watched; these are told as deleted first.

## Main definitions

* `KnownClaims` – the last seen claim under each key.
* `WatchEvent` – what a watch tells.
* `KnownClaims.observe` – the changes that an event amounts to.
-/

namespace DriverHandover

/-- What a watch tells. -/
inductive WatchEvent where
  /-- A claim has been created or changed. -/
  | applied (claim : Claim)
  | deleted (claim : Claim)
  /-- All claims there are, after nobody watched for a while. -/
  | listed (claims : List Claim)
  deriving DecidableEq, Repr

/-- The last seen claim under each key. -/
structure KnownClaims where
  entries : List (String × Claim)
  deriving DecidableEq, Repr

namespace KnownClaims

/-- No claim seen yet. -/
def empty : KnownClaims := ⟨[]⟩

/-- The claim last seen under a key. -/
def get? (known : KnownClaims) (key : String) : Option Claim :=
  known.entries.lookup key

/-- The keys under which a claim was seen. -/
def keys (known : KnownClaims) : List String :=
  known.entries.map (·.1)

/-- Forgets the claim under a key. -/
def erase (known : KnownClaims) (key : String) : KnownClaims :=
  ⟨known.entries.filter (·.1 != key)⟩

/-- Keeps a claim under its key. -/
def put (known : KnownClaims) (claim : Claim) : KnownClaims :=
  ⟨(known.erase claim.key).entries ++ [(claim.key, claim)]⟩

/-- The change that the current state of a claim amounts to, if it is one. -/
def change? (known : KnownClaims) (claim : Claim) : Option ClaimChange :=
  match known.get? claim.key with
  | none => some (.added claim)
  | some old => if old = claim then none else some (.updated old claim)

/-- Sees the current states of claims, one after the other. -/
def applyAll (known : KnownClaims) : List Claim → List ClaimChange × KnownClaims
  | [] => ([], known)
  | claim :: rest =>
    let (changes, after) := (known.put claim).applyAll rest
    ((known.change? claim).toList ++ changes, after)

/-- Forgets the claims under the given keys, in order, and tells that they are deleted. -/
def forget (known : KnownClaims) : List String → List ClaimChange × KnownClaims
  | [] => ([], known)
  | key :: rest =>
    let (changes, after) := (known.erase key).forget rest
    (((known.get? key).map ClaimChange.deleted).toList ++ changes, after)

/-- The keys of claims that a listing lacks. -/
def vanished (known : KnownClaims) (claims : List Claim) : List String :=
  known.keys.filter fun key => !(claims.map Claim.key).contains key

/-- Sees a listing: the claims under the keys in `gone` have vanished, the others are current. -/
def relist (known : KnownClaims) (gone : List String) (claims : List Claim) :
    List ClaimChange × KnownClaims :=
  let (deletions, remaining) := known.forget gone
  let (changes, after) := remaining.applyAll claims
  (deletions ++ changes, after)

/-- The changes that an event amounts to, and what is known after it. A deletion tells the claim
that was last seen rather than the one delivered. -/
def observe (known : KnownClaims) : WatchEvent → List ClaimChange × KnownClaims
  | .applied claim => known.applyAll [claim]
  | .deleted claim =>
    ([.deleted ((known.get? claim.key).getD claim)], known.erase claim.key)
  | .listed claims => known.relist (known.vanished claims) claims

end KnownClaims

end DriverHandover
