import DriverHandover.Proofs.Claim.Membership

/-!
# What the claim cache holds is reserved

The cache holds no pod without a reason: the change that put the pod in last tells a claim that is
known still, just as it was told, with a device of the GPU driver and the pod among those that have
reserved it. So no membership outlives the claim, the allocation or the reservation behind it.

## Main definitions

* `ClaimCache.ReservedLast` – the change that put a pod in for good.

## Main statements

* `ClaimCache.reservedLast_of_holds` – why the cache holds a pod.
* `Narrates.current_of_reservedLast` – the claim behind a membership is known still.
* `held_only_while_reserved` – the cache never over-reports.
-/

namespace DriverHandover

theorem Claim.mem_gpuPods_iff {uid : String} {claim : Claim} :
    uid ∈ claim.gpuPods ↔
      (∃ device ∈ claim.devices, device.driver = Claim.gpuDriver) ∧
        ∃ consumer ∈ claim.consumers,
          consumer.resource = Claim.podResource ∧ consumer.uid = uid := by
  have hgpu : claim.isGpu = true ↔ ∃ device ∈ claim.devices, device.driver = Claim.gpuDriver := by
    simp [Claim.isGpu]
  have hpods : uid ∈ claim.reservedPods ↔
      ∃ consumer ∈ claim.consumers,
        consumer.resource = Claim.podResource ∧ consumer.uid = uid := by
    simp [Claim.reservedPods, and_assoc]
  rw [Claim.gpuPods, ← hgpu, ← hpods]
  split <;> simp_all

namespace ClaimCache

/-- The change put the pod in, and none has put it in or taken it out after that. -/
def ReservedLast (uid : String) (changes : List ClaimChange) (change : ClaimChange) : Prop :=
  ∃ before after, changes = before ++ change :: after ∧ change.Reserves uid ∧
    ∀ later ∈ after, ¬later.Reserves uid ∧ ¬later.Releases uid

variable {cache : ClaimCache} {uid : String} {changes : List ClaimChange}

/-- If a pod is in after changes, one of them put it in last, or it was in before and none of them
is about it. -/
theorem reservedLast_of_holds (h : (cache.applyAll changes).holds uid = true) :
    (∃ change, ReservedLast uid changes change) ∨
      cache.holds uid = true ∧
        ∀ change ∈ changes, ¬change.Reserves uid ∧ ¬change.Releases uid := by
  induction changes generalizing cache with
  | nil => exact .inr ⟨h, List.forall_mem_nil _⟩
  | cons next rest ih =>
    have hrest : ((cache.apply next).applyAll rest).holds uid = true := h
    rcases ih hrest with ⟨change, before, after, rfl, hchange⟩ | ⟨hin, hquiet⟩
    · exact .inl ⟨change, next :: before, after, rfl, hchange⟩
    · by_cases hreserves : next.Reserves uid
      · exact .inl ⟨next, [], rest, rfl, hreserves, hquiet⟩
      · obtain ⟨hbefore, hreleases⟩ := ((holds_apply next).1 hin).resolve_left hreserves
        exact .inr ⟨hbefore, List.forall_mem_cons.2 ⟨⟨hreserves, hreleases⟩, hquiet⟩⟩

end ClaimCache

open ClaimCache

variable {store final : String → Option Claim} {changes : List ClaimChange}
variable {change : ClaimChange} {claim : Claim} {uid : String}

/-- A change that is about another pod leaves a claim alone that reserves a GPU for this one. -/
theorem ClaimChange.Fits.after_eq (hfits : change.Fits store) (huses : uid ∈ claim.gpuPods)
    (hknown : store claim.key = some claim) (hreserves : ¬change.Reserves uid)
    (hreleases : ¬change.Releases uid) : change.after store claim.key = some claim := by
  -- a change under the same key would have to reserve the GPU again or release it
  have hother : change.key? ≠ some claim.key := by
    intro hkey
    cases change with
    | added new =>
      have hunknown : store new.key = none := hfits
      rw [Option.some.inj hkey, hknown] at hunknown
      cases hunknown
    | updated old new =>
      obtain ⟨-, -, hold⟩ := hfits
      rw [Option.some.inj hkey, hknown] at hold
      obtain rfl := Option.some.inj hold
      exact hreleases ⟨huses, hreserves⟩
    | deleted last =>
      have hlast : store last.key = some last ∨ store last.key = none := hfits
      rw [Option.some.inj hkey, hknown] at hlast
      obtain rfl : claim = last := Option.some.inj (hlast.resolve_right (by simp))
      exact hreleases huses
    | synced => cases hkey
  rw [ClaimChange.after, if_neg hother, hknown]

theorem Narrates.unchanged (h : Narrates store changes final) (huses : uid ∈ claim.gpuPods)
    (hknown : store claim.key = some claim)
    (hquiet : ∀ change ∈ changes, ¬change.Reserves uid ∧ ¬change.Releases uid) :
    final claim.key = some claim := by
  induction changes generalizing store with
  | nil =>
    have hsame : store = final := h
    exact hsame ▸ hknown
  | cons change rest ih =>
    obtain ⟨hfits, hlater⟩ := h
    obtain ⟨⟨hreserves, hreleases⟩, hrest⟩ := List.forall_mem_cons.1 hquiet
    exact ih hlater (hfits.after_eq huses hknown hreserves hreleases) hrest

/-- The claim of the change that put a pod in last is known still, as it was told then. -/
theorem Narrates.current_of_reservedLast (h : Narrates store changes final)
    (hlast : ReservedLast uid changes change) :
    ∃ claim, change.current? = some claim ∧ uid ∈ claim.gpuPods ∧
      final claim.key = some claim := by
  obtain ⟨before, after, rfl, hreserves, hquiet⟩ := hlast
  obtain ⟨middle, -, -, hafter⟩ := h.split
  cases change with
  | added claim | updated _ claim =>
    exact ⟨claim, rfl, hreserves, hafter.unchanged hreserves (if_pos rfl) hquiet⟩
  | deleted | synced => cases hreserves

variable {events : List WatchEvent} {known : KnownClaims}

/-- The cache holds a pod only while a claim that is known has a device of the GPU driver and is
reserved for the pod, whatever the events were and in whatever order vanished claims were told. The
claim is the one that put the pod in last, and it has not changed since. -/
theorem held_only_while_reserved (htold : Told events changes known)
    (hheld : (ClaimCache.empty.applyAll changes).holds uid = true) :
    ∃ claim change,
      known.get? claim.key = some claim ∧
      (∃ device ∈ claim.devices, device.driver = Claim.gpuDriver) ∧
      (∃ consumer ∈ claim.consumers,
        consumer.resource = Claim.podResource ∧ consumer.uid = uid) ∧
      ReservedLast uid changes change ∧ change.current? = some claim := by
  obtain ⟨hnarrates, -⟩ := htold.narrates
  obtain ⟨change, hlast⟩ : ∃ change, ReservedLast uid changes change := by
    rcases reservedLast_of_holds hheld with hlast | ⟨hempty, -⟩
    · exact hlast
    · cases hempty
  obtain ⟨claim, hcurrent, huses, hknown⟩ := hnarrates.current_of_reservedLast hlast
  obtain ⟨hdevice, hconsumer⟩ := Claim.mem_gpuPods_iff.1 huses
  exact ⟨claim, change, hknown, hdevice, hconsumer, hlast, hcurrent⟩

/-- A claim moves from one pod to another in a listing that repeats it, and only the second pod
stays in. -/
theorem held_after_move :
    ∃ changes known,
      Told [.listed [.gpuFor "a" "old"], .listed [.gpuFor "a" "old", .gpuFor "a" "new"]]
        changes known ∧
      (ClaimCache.empty.applyAll changes).pods = ["new"] ∧
      ∃ claim change,
        known.get? claim.key = some claim ∧ ReservedLast "new" changes change ∧
          change.current? = some claim := by
  let before : WatchEvent := .listed [.gpuFor "a" "old"]
  let after : WatchEvent := .listed [.gpuFor "a" "old", .gpuFor "a" "new"]
  let first := KnownClaims.empty.observe before
  let second := first.2.observe after
  have htold : Told [before, after] (first.1 ++ second.1) second.2 :=
    (Told.nil.concat (tells_observe _ before)).concat (tells_observe _ after)
  have hpods : (ClaimCache.empty.applyAll (first.1 ++ second.1)).pods = ["new"] := by
    decide +kernel
  have hheld : (ClaimCache.empty.applyAll (first.1 ++ second.1)).holds "new" = true := by
    rw [ClaimCache.holds, hpods]
    rfl
  obtain ⟨claim, change, hknown, -, -, hlast, hcurrent⟩ := held_only_while_reserved htold hheld
  exact ⟨_, _, htold, hpods, claim, change, hknown, hlast, hcurrent⟩

end DriverHandover
