import DriverHandover.Proofs.Claim.Narration

/-!
# Who is in the claim cache

The cache keeps one set of pods for all claims. A pod gets in when any claim reserves a GPU for it,
and gets out when any claim no longer does, also while another claim still does. So the cache holds
a pod that uses a GPU unless the last change that concerns the pod is such a release.

## Main definitions

* `ClaimChange.Reserves`, `ClaimChange.Releases` – the changes that put a pod in and take it out.
* `ClaimCache.ReleasedLast` – a change that took a pod out for good.

## Main statements

* `under_reported_iff` – when the cache does not hold a pod that a known claim reserves a GPU for.
* `held_of_unshared` – the cache is right about a pod that does not share its claims.
* `cache_under_reports` – it happens: two claims reserve GPUs for one pod, and one is deleted.
-/

namespace DriverHandover

namespace ClaimChange

/-- After the change some claim reserves a GPU for the pod. -/
def Reserves (uid : String) : ClaimChange → Prop
  | .added claim | .updated _ claim => uid ∈ claim.gpuPods
  | .deleted _ | .synced => False

/-- Before the change some claim reserved a GPU for the pod, and after it that claim does not. -/
def Releases (uid : String) : ClaimChange → Prop
  | .updated old new => uid ∈ old.gpuPods ∧ uid ∉ new.gpuPods
  | .deleted claim => uid ∈ claim.gpuPods
  | .added _ | .synced => False

instance (uid : String) : DecidablePred (Reserves uid)
  | .added claim | .updated _ claim => inferInstanceAs (Decidable (uid ∈ claim.gpuPods))
  | .deleted _ | .synced => inferInstanceAs (Decidable False)

instance (uid : String) : DecidablePred (Releases uid)
  | .updated old new => inferInstanceAs (Decidable (uid ∈ old.gpuPods ∧ uid ∉ new.gpuPods))
  | .deleted claim => inferInstanceAs (Decidable (uid ∈ claim.gpuPods))
  | .added _ | .synced => inferInstanceAs (Decidable False)

variable {uid : String}

theorem Releases.not_reserves {change : ClaimChange} (h : change.Releases uid) :
    ¬change.Reserves uid := by
  cases change with
  | updated old new => exact h.2
  | added => cases h
  | deleted | synced => exact id

end ClaimChange

namespace ClaimCache

variable {cache : ClaimCache} {uid : String} {claim : Claim} {changes : List ClaimChange}

theorem holds_iff : cache.holds uid = true ↔ uid ∈ cache.pods := by
  rw [holds, List.contains_iff_mem]

theorem holds_enter : (cache.enter claim).holds uid = true ↔
    uid ∈ claim.gpuPods ∨ cache.holds uid = true := by
  have hfold : ∀ (uids pods : List String),
      uid ∈ uids.foldl (fun pods uid => pods.insert uid) pods ↔ uid ∈ uids ∨ uid ∈ pods := by
    intro uids
    induction uids with
    | nil => simp
    | cons head rest ih =>
      intro pods
      rw [List.foldl_cons, ih, List.mem_insert_iff, List.mem_cons]
      exact or_left_comm.trans or_assoc.symm
  rw [holds_iff, holds_iff]
  exact hfold claim.gpuPods cache.pods

theorem holds_leave : (cache.leave claim).holds uid = true ↔
    cache.holds uid = true ∧ uid ∉ claim.gpuPods := by
  rw [holds_iff, holds_iff, leave, List.mem_filter]
  simp

/-- A change puts a pod in, or takes it out, or leaves it where it was. -/
theorem holds_apply (change : ClaimChange) : (cache.apply change).holds uid = true ↔
    change.Reserves uid ∨ cache.holds uid = true ∧ ¬change.Releases uid := by
  cases change with
  | added claim => simp [apply, holds_enter, ClaimChange.Reserves, ClaimChange.Releases]
  | updated old new =>
    show ((cache.leave old).enter new).holds uid = true ↔
      uid ∈ new.gpuPods ∨ cache.holds uid = true ∧ ¬(uid ∈ old.gpuPods ∧ uid ∉ new.gpuPods)
    rw [holds_enter, holds_leave]
    by_cases hnew : uid ∈ new.gpuPods
    · simp [hnew]
    · simp [hnew]
  | deleted claim => simp [apply, holds_leave, ClaimChange.Reserves, ClaimChange.Releases]
  | synced => simp [apply, holds, ClaimChange.Reserves, ClaimChange.Releases]

theorem not_holds_apply (change : ClaimChange) : (cache.apply change).holds uid = false ↔
    ¬change.Reserves uid ∧ (cache.holds uid = false ∨ change.Releases uid) := by
  rw [← Bool.not_eq_true, holds_apply, not_or]
  refine and_congr_right fun _ => ?_
  cases cache.holds uid with
  | true => simp
  | false => simp

/-- The change took the pod out, and none has put it in again after that. -/
def ReleasedLast (uid : String) (changes : List ClaimChange) (change : ClaimChange) : Prop :=
  ∃ before after, changes = before ++ change :: after ∧ change.Releases uid ∧
    ∀ later ∈ after, ¬later.Reserves uid

/-- After changes a pod is out if one of them took it out and none has put it in again, or if it was
out before and none has put it in. -/
theorem not_holds_applyAll : (cache.applyAll changes).holds uid = false ↔
    (∃ change, ReleasedLast uid changes change) ∨
      cache.holds uid = false ∧ ∀ change ∈ changes, ¬change.Reserves uid := by
  induction changes generalizing cache with
  | nil =>
    constructor
    · exact fun hout => .inr ⟨hout, List.forall_mem_nil _⟩
    · rintro (⟨change, before, after, hsplit, -⟩ | ⟨hout, -⟩)
      · exact absurd hsplit (by simp)
      · exact hout
  | cons next rest ih =>
    show ((cache.apply next).applyAll rest).holds uid = false ↔ _
    rw [ih, not_holds_apply]
    constructor
    · rintro (⟨change, before, after, rfl, hchange⟩ | ⟨⟨hnext, hout | hreleased⟩, hrest⟩)
      · exact .inl ⟨change, next :: before, after, rfl, hchange⟩
      · exact .inr ⟨hout, List.forall_mem_cons.2 ⟨hnext, hrest⟩⟩
      · exact .inl ⟨next, [], rest, rfl, hreleased, hrest⟩
    -- the release is the first change, or it is one of the rest
    · rintro (⟨change, before, after, hsplit, hreleased, hafter⟩ | ⟨hout, hnone⟩)
      · cases before with
        | nil =>
          cases hsplit
          exact .inr ⟨⟨hreleased.not_reserves, .inr hreleased⟩, hafter⟩
        | cons first before =>
          cases hsplit
          exact .inl ⟨change, before, after, rfl, hreleased, hafter⟩
      · obtain ⟨hnext, hrest⟩ := List.forall_mem_cons.1 hnone
        exact .inr ⟨⟨hnext, .inl hout⟩, hrest⟩

end ClaimCache

open ClaimCache

variable {events : List WatchEvent} {changes : List ClaimChange} {known : KnownClaims}
variable {key uid : String} {claim : Claim}

/-- If the cache does not hold a pod for which a known claim reserves a GPU, another claim released
the pod. -/
theorem released_elsewhere (htold : Told events changes known)
    (hknown : known.get? key = some claim) (huses : uid ∈ claim.gpuPods)
    (hout : (ClaimCache.empty.applyAll changes).holds uid = false) :
    ∃ change, ReleasedLast uid changes change ∧ change.key? ≠ some key := by
  obtain ⟨hnarrates, -⟩ := htold.narrates
  rcases hnarrates.last_told hknown with ⟨hnone, -⟩ | ⟨before, told, rest, rfl, hlast⟩
  · cases hnone
  · obtain ⟨-, hcurrent, hrest⟩ := hlast
    have hreserves : told.Reserves uid := by
      cases told with
      | added | updated => exact Option.some.inj hcurrent ▸ huses
      | deleted | synced => cases hcurrent
    -- the pod was in when the claim was told last, so the release came after that
    have hin : ((ClaimCache.empty.applyAll before).apply told).holds uid = true :=
      (holds_apply told).2 (.inl hreserves)
    have hrest_out :
        (((ClaimCache.empty.applyAll before).apply told).applyAll rest).holds uid = false := by
      rw [applyAll, List.foldl_append, List.foldl_cons] at hout
      exact hout
    rcases not_holds_applyAll.1 hrest_out with ⟨change, past, after, rfl, hchange⟩ | ⟨hnot, -⟩
    · refine ⟨change, ⟨before ++ told :: past, after, by simp, hchange⟩, ?_⟩
      exact hrest change (List.mem_append_right past List.mem_cons_self)
    · exact absurd (hin.symm.trans hnot) (by decide)

/-- The cache holds a pod for which a known claim reserves a GPU, if no other claim ever released
the pod: so it is right about every pod that does not share its claims. -/
theorem held_of_unshared (htold : Told events changes known)
    (hknown : known.get? key = some claim) (huses : uid ∈ claim.gpuPods)
    (hunshared : ∀ change ∈ changes, change.Releases uid → change.key? = some key) :
    (ClaimCache.empty.applyAll changes).holds uid = true := by
  refine Bool.of_not_eq_false fun hout => ?_
  obtain ⟨change, hreleased, hkey⟩ := released_elsewhere htold hknown huses hout
  obtain ⟨before, after, rfl, hchange, -⟩ := hreleased
  exact hkey (hunshared change (List.mem_append_right before List.mem_cons_self) hchange)

/-- Take a pod for which a claim that is known reserves a GPU. The cache does not hold the pod just
if another claim released it and no claim has newly reserved a GPU for it after that, whatever the
events were and in whatever order vanished claims were told. -/
theorem under_reported_iff (htold : Told events changes known)
    (hknown : known.get? key = some claim) (huses : uid ∈ claim.gpuPods) :
    (ClaimCache.empty.applyAll changes).holds uid = false ↔
      ∃ change, ReleasedLast uid changes change ∧ change.key? ≠ some key := by
  constructor
  · exact released_elsewhere htold hknown huses
  · rintro ⟨change, hreleased, -⟩
    exact not_holds_applyAll.2 (.inl ⟨change, hreleased⟩)

/-- A claim of a GPU that one pod has reserved. -/
def Claim.gpuFor (name uid : String) : Claim where
  metadata := { Metadata.empty with name := some name, objectNamespace := some "default" }
  status := some
    { allocation := some [⟨"gpu", Claim.gpuDriver, "node", "gpu-0"⟩]
      reservedFor := [⟨none, Claim.podResource, "pod", uid⟩] }

/-- Two claims for one pod are created, and the first one is deleted. -/
theorem told_shared (uid : String) :
    Told
      [.applied (.gpuFor "a" uid), .applied (.gpuFor "b" uid), .deleted (.gpuFor "a" uid)]
      [.added (.gpuFor "a" uid), .added (.gpuFor "b" uid), .deleted (.gpuFor "a" uid)]
      ⟨[("default/b", .gpuFor "b" uid)]⟩ :=
  ((Told.nil.concat (tells_observe _ _)).concat (tells_observe _ _)).concat (tells_observe _ _)

/-- A cache that never under-reports would hold that pod still. -/
theorem cache_under_reports :
    ¬∀ (events : List WatchEvent) (changes : List ClaimChange) (known : KnownClaims)
      (key uid : String) (claim : Claim), Told events changes known →
        known.get? key = some claim → uid ∈ claim.gpuPods →
        (ClaimCache.empty.applyAll changes).holds uid = true := by
  intro hnever
  have hheld := hnever _ _ _ "default/b" "pod" (.gpuFor "b" "pod") (told_shared "pod")
    (by decide +kernel) (by decide +kernel)
  exact absurd hheld (by decide +kernel)

theorem under_reported_after_delete :
    ∃ change,
      ReleasedLast "pod"
        [.added (.gpuFor "a" "pod"), .added (.gpuFor "b" "pod"), .deleted (.gpuFor "a" "pod")]
        change ∧
      change.key? ≠ some "default/b" := by
  have hknown : KnownClaims.get? ⟨[("default/b", .gpuFor "b" "pod")]⟩ "default/b" =
      some (.gpuFor "b" "pod") := by
    decide +kernel
  have huses : "pod" ∈ (Claim.gpuFor "b" "pod").gpuPods := by
    decide +kernel
  exact (under_reported_iff (told_shared "pod") hknown huses).1 (by decide +kernel)

end DriverHandover
