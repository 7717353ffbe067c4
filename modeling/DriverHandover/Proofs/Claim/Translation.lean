import DriverHandover.Proofs.Claim.Membership

/-!
# The changes tell each event faithfully

One who starts with an empty store and makes every change that is told keeps just what is known,
event after event. The changes of one event fit the store one after the other, and a listing leaves
nothing in it but the claims listed.

## Main definitions

* `shadow` – the store of one who only hears the changes.
* `lastListed` – the claim that a listing gives for a key.

## Main statements

* `Tells.get?_listed` – what is known after a listing.
* `Tells.unchanged_untold` – a listed claim that has not changed is not told.
* `events_told_faithfully` – the store and the known claims agree after each event.
-/

namespace DriverHandover

/-- The claim that one has under each key who starts with none and makes the changes. -/
def shadow (changes : List ClaimChange) : String → Option Claim :=
  changes.foldl ClaimChange.after fun _ => none

/-- The claim that a listing gives for a key: the last one, if the key is repeated. -/
def lastListed (claims : List Claim) (key : String) : Option Claim :=
  (claims.filter (·.key == key)).getLast?

variable {known after : KnownClaims} {store final : String → Option Claim}
variable {changes new before rest : List ClaimChange} {claims : List Claim} {claim : Claim}
variable {key : String} {gone : List String}

theorem shadow_append (changes new : List ClaimChange) :
    shadow (changes ++ new) = new.foldl ClaimChange.after (shadow changes) :=
  List.foldl_append

theorem Narrates.foldl_after (h : Narrates store changes final) :
    changes.foldl ClaimChange.after store = final := by
  induction changes generalizing store with
  | nil => exact h
  | cons change rest ih => exact ih h.2

theorem Narrates.fits {change : ClaimChange}
    (h : Narrates store (before ++ change :: rest) final) :
    change.Fits (before.foldl ClaimChange.after store) := by
  obtain ⟨middle, hbefore, hfits, -⟩ := h.split
  rw [hbefore.foldl_after]
  exact hfits

theorem lastListed_cons (claim : Claim) (claims : List Claim) (key : String) :
    lastListed (claim :: claims) key =
      (lastListed claims key).or (if key = claim.key then some claim else none) := by
  rw [lastListed, lastListed]
  by_cases hkey : key = claim.key
  · rw [List.filter_cons_of_pos (by simp [hkey]), List.getLast?_cons, if_pos hkey]
    cases (claims.filter (·.key == key)).getLast? <;> rfl
  · rw [List.filter_cons_of_neg (by simpa using Ne.symm hkey), if_neg hkey, Option.or_none]

theorem lastListed_eq_none_iff : lastListed claims key = none ↔ key ∉ claims.map Claim.key := by
  rw [lastListed, List.getLast?_eq_none_iff, List.filter_eq_nil_iff]
  simp

namespace KnownClaims

theorem mem_keys_of_get? (h : known.get? key = some claim) : key ∈ known.keys := by
  obtain ⟨before, after, hentries, -⟩ := List.lookup_eq_some_iff.1 h
  rw [keys, hentries]
  simp

theorem get?_applyAll (known : KnownClaims) (claims : List Claim) (key : String) :
    (known.applyAll claims).2.get? key = (lastListed claims key).or (known.get? key) := by
  induction claims generalizing known with
  | nil => rfl
  | cons claim rest ih =>
    show ((known.put claim).applyAll rest).2.get? key = _
    rw [ih, get?_put, lastListed_cons, Option.or_assoc]
    by_cases hkey : key = claim.key
    · simp [hkey]
    · simp [hkey]

theorem get?_forget (known : KnownClaims) (gone : List String) (key : String) :
    (known.forget gone).2.get? key = if key ∈ gone then none else known.get? key := by
  induction gone generalizing known with
  | nil => simp [forget]
  | cons first rest ih =>
    show ((known.erase first).forget rest).2.get? key = _
    rw [ih, get?_erase]
    by_cases hrest : key ∈ rest
    · simp [hrest]
    · by_cases hfirst : key = first
      · simp [hfirst]
      · simp [hrest, hfirst]

/-- A change that the current states of claims amount to is about one of them. -/
theorem key?_of_mem_applyAll {change : ClaimChange} (h : change ∈ (known.applyAll claims).1) :
    ∃ claim ∈ claims, change.key? = some claim.key := by
  induction claims generalizing known with
  | nil => cases h
  | cons claim rest ih =>
    rcases List.mem_append.1 h with hfirst | hrest
    · refine ⟨claim, List.mem_cons_self, ?_⟩
      rw [change?] at hfirst
      split at hfirst
      · rw [List.mem_singleton.1 hfirst]
        rfl
      · split at hfirst
        · cases hfirst
        · rw [List.mem_singleton.1 hfirst]
          rfl
    · obtain ⟨other, hother, hkey⟩ := ih hrest
      exact ⟨other, List.mem_cons_of_mem claim hother, hkey⟩

/-- A forgotten claim is told under a key that is forgotten. -/
theorem key?_of_mem_forget (hkeyed : known.Keyed) {change : ClaimChange}
    (h : change ∈ (known.forget gone).1) : ∃ key ∈ gone, change.key? = some key := by
  induction gone generalizing known with
  | nil => cases h
  | cons first rest ih =>
    rcases List.mem_append.1 h with hfirst | hrest
    · obtain ⟨claim, hclaim, rfl⟩ : ∃ claim, known.get? first = some claim ∧
          ClaimChange.deleted claim = change := by simpa using hfirst
      exact ⟨first, List.mem_cons_self, congrArg some (hkeyed first claim hclaim)⟩
    · obtain ⟨key, hkey, hchange⟩ := ih (hkeyed.erase first) hrest
      exact ⟨key, List.mem_cons_of_mem first hkey, hchange⟩

theorem deleted_of_mem_forget {change : ClaimChange} (h : change ∈ (known.forget gone).1) :
    ∃ claim, change = .deleted claim := by
  induction gone generalizing known with
  | nil => cases h
  | cons first rest ih =>
    rcases List.mem_append.1 h with hfirst | hrest
    · obtain ⟨claim, -, rfl⟩ : ∃ claim, known.get? first = some claim ∧
          ClaimChange.deleted claim = change := by simpa using hfirst
      exact ⟨claim, rfl⟩
    · exact ih hrest

/-- Claims under different keys: one that has not changed is not told. -/
theorem unchanged_of_mem_applyAll (hapart : (claims.map Claim.key).Nodup) (hclaim : claim ∈ claims)
    (hknown : known.get? claim.key = some claim) {change : ClaimChange}
    (h : change ∈ (known.applyAll claims).1) : change.key? ≠ some claim.key := by
  induction claims generalizing known with
  | nil => cases hclaim
  | cons first rest ih =>
    obtain ⟨hfirst, hrest⟩ := List.nodup_cons.1 hapart
    have hother : ∀ other ∈ rest, other.key ≠ first.key := fun other hother hsame =>
      hfirst (hsame ▸ List.mem_map_of_mem hother)
    rcases List.mem_cons.1 hclaim with rfl | hclaim
    · -- the claim itself amounts to no change, and the others have other keys
      have hsilent : known.change? claim = none := by
        rw [change?, hknown]
        exact if_pos rfl
      rcases List.mem_append.1 h with hnow | hlater
      · rw [hsilent] at hnow
        cases hnow
      · obtain ⟨other, hmem, hkey⟩ := key?_of_mem_applyAll hlater
        rw [hkey]
        exact fun hsame => hother other hmem (Option.some.inj hsame)
    · have hne : claim.key ≠ first.key := hother claim hclaim
      rcases List.mem_append.1 h with hnow | hlater
      · have honly : change ∈ (known.applyAll [first]).1 := List.mem_append_left _ hnow
        obtain ⟨other, hmem, hkey⟩ := key?_of_mem_applyAll honly
        rw [hkey, List.mem_singleton.1 hmem]
        exact fun hsame => hne (Option.some.inj hsame).symm
      · refine ih hrest hclaim ?_ hlater
        rw [get?_put, if_neg hne, hknown]

end KnownClaims

/-- After a listing the last listed claim of each key is known and no other, whatever was known
before. -/
theorem Tells.get?_listed (h : Tells known (.listed claims) new after) (key : String) :
    after.get? key = lastListed claims key := by
  obtain ⟨gone, hgone, heq⟩ := h
  obtain ⟨-, rfl⟩ := Prod.mk.inj heq
  show ((known.forget gone).2.applyAll claims).2.get? key = _
  rw [KnownClaims.get?_applyAll, KnownClaims.get?_forget]
  cases hlisted : lastListed claims key with
  | some claim => rfl
  | none =>
    -- a key that is known and not listed has vanished
    split
    · rfl
    · rename_i hkept
      cases hknown : known.get? key with
      | none => rfl
      | some claim =>
        refine absurd (hgone.mem_iff.2 (List.mem_filter.2 ⟨?_, ?_⟩)) hkept
        · exact KnownClaims.mem_keys_of_get? hknown
        · simpa using lastListed_eq_none_iff.1 hlisted

theorem Tells.unchanged_untold (h : Tells known (.listed claims) new after) (hkeyed : known.Keyed)
    (hapart : (claims.map Claim.key).Nodup) (hclaim : claim ∈ claims)
    (hknown : known.get? claim.key = some claim) {change : ClaimChange} (hchange : change ∈ new) :
    change.key? ≠ some claim.key := by
  obtain ⟨gone, hgone, heq⟩ := h
  obtain ⟨rfl, -⟩ := Prod.mk.inj heq
  have hlisted : claim.key ∉ gone := by
    intro hmem
    have hvanished := (List.mem_filter.1 (hgone.mem_iff.1 hmem)).2
    have hkey : claim.key ∈ claims.map Claim.key := List.mem_map_of_mem hclaim
    simp [hkey] at hvanished
  rcases List.mem_append.1 hchange with hforgotten | hcurrent
  · obtain ⟨key, hkey, htold⟩ := KnownClaims.key?_of_mem_forget hkeyed hforgotten
    rw [htold]
    exact fun hsame => hlisted (Option.some.inj hsame ▸ hkey)
  · refine KnownClaims.unchanged_of_mem_applyAll hapart hclaim ?_ hcurrent
    rw [KnownClaims.get?_forget, if_neg hlisted, hknown]

/-- No event is told as the news that a listing is in. -/
theorem Tells.synced_not_mem {event : WatchEvent} (h : Tells known event new after) :
    ClaimChange.synced ∉ new := by
  have happlied : ∀ (known : KnownClaims) claims,
      ClaimChange.synced ∉ (known.applyAll claims).1 := by
    intro known claims hmem
    obtain ⟨claim, -, hkey⟩ := KnownClaims.key?_of_mem_applyAll hmem
    cases hkey
  cases event with
  | applied claim =>
    obtain ⟨rfl, -⟩ := Prod.mk.inj h
    exact happlied known [claim]
  | deleted claim =>
    obtain ⟨rfl, -⟩ := Prod.mk.inj h
    simp
  | listed claims =>
    obtain ⟨gone, -, heq⟩ := h
    obtain ⟨rfl, -⟩ := Prod.mk.inj heq
    intro hmem
    rcases List.mem_append.1 hmem with hgone | hcurrent
    · obtain ⟨claim, hdeleted⟩ := KnownClaims.deleted_of_mem_forget hgone
      cases hdeleted
    · exact happlied _ _ hcurrent

/-- Take any history of events and one more event, told in whatever order vanished claims come. One
who makes the changes keeps what is known, before the event and after it. Each change of the event
fits what is kept when it is told: an added claim has an unknown key, an updated one differs from
the older claim, which is kept under its key just so, and a deleted one is kept just so or not at
all. After a listing the last listed claim of each key is known and no other, and if no key is
repeated nothing is told under the key of a claim that was known as it is listed. -/
theorem events_told_faithfully {events : List WatchEvent} {event : WatchEvent}
    (htold : Told events changes known) (htells : Tells known event new after) :
    shadow changes = known.get? ∧ shadow (changes ++ new) = after.get? ∧
      (∀ before change rest, new = before ++ change :: rest →
        change.Fits (shadow (changes ++ before))) ∧
      ∀ claims, event = .listed claims →
        (∀ key, after.get? key = lastListed claims key) ∧
        ((claims.map Claim.key).Nodup → ∀ claim ∈ claims, known.get? claim.key = some claim →
          ∀ change ∈ new, change.key? ≠ some claim.key) := by
  obtain ⟨hbefore, hkeyed⟩ := htold.narrates
  obtain ⟨hnew, -⟩ := htells.narrates hkeyed
  have hshadow : shadow changes = known.get? := hbefore.foldl_after
  refine ⟨hshadow, (hbefore.append hnew).foldl_after, ?_, ?_⟩
  · rintro before change rest rfl
    rw [shadow_append, hshadow]
    exact hnew.fits
  · rintro claims rfl
    refine ⟨htells.get?_listed, fun hapart claim hclaim hknown change hchange => ?_⟩
    exact htells.unchanged_untold hkeyed hapart hclaim hknown hchange

/-- Of three claims one vanishes, one is listed as it was, and one moves to another pod. -/
theorem relisting_told_faithfully :
    ∃ changes known new after,
      Told [.listed [.gpuFor "a" "pod", .gpuFor "b" "pod", .gpuFor "c" "pod"]] changes known ∧
      Tells known (.listed [.gpuFor "c" "other", .gpuFor "b" "pod"]) new after ∧
      new = [.deleted (.gpuFor "a" "pod"),
        .updated (.gpuFor "c" "pod") (.gpuFor "c" "other")] ∧
      shadow (changes ++ new) = after.get? ∧
      after.get? "default/a" = none ∧
      ∀ change ∈ new, change.key? ≠ some "default/b" := by
  let earlier : WatchEvent := .listed [.gpuFor "a" "pod", .gpuFor "b" "pod", .gpuFor "c" "pod"]
  let claims : List Claim := [.gpuFor "c" "other", .gpuFor "b" "pod"]
  let first := KnownClaims.empty.observe earlier
  let second := first.2.observe (.listed claims)
  have htold : Told [earlier] ([] ++ first.1) first.2 := Told.nil.concat (tells_observe _ earlier)
  have htells : Tells first.2 (.listed claims) second.1 second.2 := tells_observe _ _
  obtain ⟨-, hshadow, -, hlisting⟩ := events_told_faithfully htold htells
  obtain ⟨hlisted, huntold⟩ := hlisting claims rfl
  have hb : first.2.get? (Claim.gpuFor "b" "pod").key = some (.gpuFor "b" "pod") := by
    decide +kernel
  refine ⟨_, _, _, _, htold, htells, by decide +kernel, hshadow, ?_, ?_⟩
  · rw [hlisted]
    decide +kernel
  · exact huntold (by decide +kernel) (.gpuFor "b" "pod") (by decide +kernel) hb

end DriverHandover
