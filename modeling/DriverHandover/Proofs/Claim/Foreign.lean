import DriverHandover.Proofs.Claim.Translation
import Mathlib.Data.List.Forall2

/-!
# Claims of other drivers do not show

What is in a claim to which the GPU driver has allocated nothing makes no difference to the cache.
Two clusters that differ in such claims only may be told as different changes, because a claim that
has not changed is not told. Their caches hold the same pods after each event all the same.

## Main definitions

* `Claim.Foreign` – a claim without a device of the GPU driver.
* `WatchEvent.Alike` – events that differ in the contents of such claims only.
* `KnownClaims.Alike`, `ClaimCache.Agrees` – what this comes to for the known claims and the cache.

## Main statements

* `Tells.agrees` – what one event keeps.
* `foreign_claims_invisible` – the caches agree after each event.
-/

namespace DriverHandover

/-- The GPU driver has allocated no device to the claim. -/
def Claim.Foreign (claim : Claim) : Prop :=
  ∀ device ∈ claim.devices, device.driver ≠ Claim.gpuDriver

/-- Two claims under one key, which are the same unless both are foreign. -/
structure Claim.Alike (claim other : Claim) : Prop where
  key : claim.key = other.key
  eq_or_foreign : claim = other ∨ claim.Foreign ∧ other.Foreign

/-- Two events of one kind, about claims that are the same unless both are foreign. -/
def WatchEvent.Alike : WatchEvent → WatchEvent → Prop
  | .applied claim, .applied other => claim.Alike other
  | .deleted claim, .deleted other => claim.Alike other
  | .listed claims, .listed others => List.Forall₂ Claim.Alike claims others
  | _, _ => False

/-- The same keys are known, with claims that are the same unless both are foreign. -/
def KnownClaims.Alike (known other : KnownClaims) : Prop :=
  ∀ key, Option.Rel Claim.Alike (known.get? key) (other.get? key)

/-- Two changes put in the same pods and take out the same pods. -/
def ClaimChange.Alike (change other : ClaimChange) : Prop :=
  ∀ uid, (change.Reserves uid ↔ other.Reserves uid) ∧ (change.Releases uid ↔ other.Releases uid)

/-- Two caches hold the same pods. -/
def ClaimCache.Agrees (cache other : ClaimCache) : Prop :=
  ∀ uid, cache.holds uid = other.holds uid

/-- The pods that the claim known under a key shows to use a GPU. -/
def KnownClaims.podsUnder (known : KnownClaims) (key : String) : List String :=
  (known.get? key).elim [] Claim.gpuPods

variable {claim other : Claim} {claims others : List Claim} {known known' : KnownClaims}
variable {cache cache' : ClaimCache} {changes changes' : List ClaimChange} {key uid : String}

theorem Claim.Foreign.gpuPods_eq_nil (h : claim.Foreign) : claim.gpuPods = [] := by
  have hgpu : claim.isGpu = false := by
    rw [isGpu, List.any_eq_false]
    exact fun device hdevice => by simpa using h device hdevice
  rw [gpuPods, hgpu, if_neg Bool.false_ne_true]

namespace Claim.Alike

theorem refl (claim : Claim) : claim.Alike claim :=
  ⟨rfl, .inl rfl⟩

theorem eq_of_not_foreign (h : claim.Alike other) (hgpu : ¬claim.Foreign) : claim = other :=
  h.eq_or_foreign.resolve_right fun hboth => hgpu hboth.1

theorem foreign_iff (h : claim.Alike other) : claim.Foreign ↔ other.Foreign := by
  rcases h.eq_or_foreign with rfl | ⟨hclaim, hother⟩
  · exact Iff.rfl
  · exact ⟨fun _ => hother, fun _ => hclaim⟩

theorem gpuPods_eq (h : claim.Alike other) : claim.gpuPods = other.gpuPods := by
  rcases h.eq_or_foreign with rfl | ⟨hclaim, hother⟩
  · rfl
  · rw [hclaim.gpuPods_eq_nil, hother.gpuPods_eq_nil]

theorem updated (h : claim.Alike other) (new : Claim) :
    (ClaimChange.updated claim new).Alike (.updated other new) := by
  intro uid
  rw [ClaimChange.Releases, ClaimChange.Releases, h.gpuPods_eq]
  exact ⟨Iff.rfl, Iff.rfl⟩

theorem deleted (h : claim.Alike other) : (ClaimChange.deleted claim).Alike (.deleted other) := by
  intro uid
  rw [ClaimChange.Releases, ClaimChange.Releases, h.gpuPods_eq]
  exact ⟨Iff.rfl, Iff.rfl⟩

end Claim.Alike

theorem map_key_of_alike (h : List.Forall₂ Claim.Alike claims others) :
    claims.map Claim.key = others.map Claim.key := by
  induction h with
  | nil => rfl
  | cons hclaim _ ih => rw [List.map_cons, List.map_cons, hclaim.key, ih]

namespace KnownClaims

namespace Alike

theorem get?_cases (h : known.Alike known') (key : String) :
    known.get? key = none ∧ known'.get? key = none ∨
      ∃ old old', known.get? key = some old ∧ known'.get? key = some old' ∧ old.Alike old' := by
  have hkey := h key
  generalize known.get? key = found, known'.get? key = found' at hkey
  cases hkey with
  | none => exact .inl ⟨rfl, rfl⟩
  | some hold => exact .inr ⟨_, _, rfl, rfl, hold⟩

theorem podsUnder_eq (h : known.Alike known') (key : String) :
    known.podsUnder key = known'.podsUnder key := by
  rw [podsUnder, podsUnder]
  rcases h.get?_cases key with ⟨hnone, hnone'⟩ | ⟨old, old', hold, hold', halike⟩
  · rw [hnone, hnone']
  · rw [hold, hold']
    exact halike.gpuPods_eq

theorem erase (h : known.Alike known') (key : String) :
    (known.erase key).Alike (known'.erase key) := by
  intro k
  rw [get?_erase, get?_erase]
  split
  · exact .none
  · exact h k

theorem put (h : known.Alike known') (hclaim : claim.Alike other) :
    (known.put claim).Alike (known'.put other) := by
  intro k
  rw [get?_put, get?_put, hclaim.key]
  split
  · exact .some hclaim
  · exact h k

end Alike

/-- The keys that are known, by the claims under them. -/
theorem mem_keys_iff : key ∈ known.keys ↔ (known.get? key).isSome = true := by
  constructor
  · intro hkey
    refine Option.isSome_iff_ne_none.2 fun hnone => ?_
    obtain ⟨entry, hentry, rfl⟩ := List.mem_map.1 hkey
    have hne := List.lookup_eq_none_iff.1 hnone entry hentry
    simp at hne
  · intro hknown
    obtain ⟨claim, hclaim⟩ := Option.isSome_iff_exists.1 hknown
    exact mem_keys_of_get? hclaim

/-- A listing of claims under the same keys finds the same keys vanished. -/
theorem Alike.mem_vanished_iff (h : known.Alike known')
    (hclaims : List.Forall₂ Claim.Alike claims others) :
    key ∈ known.vanished claims ↔ key ∈ known'.vanished others := by
  have hkeys : (known.get? key).isSome = (known'.get? key).isSome := by
    rcases h.get?_cases key with ⟨hnone, hnone'⟩ | ⟨old, old', hold, hold', -⟩
    · rw [hnone, hnone']
    · rw [hold, hold']
      rfl
  rw [vanished, vanished, List.mem_filter, List.mem_filter, mem_keys_iff, mem_keys_iff, hkeys,
    map_key_of_alike hclaims]

end KnownClaims

namespace ClaimCache

theorem applyAll_append (cache : ClaimCache) (changes new : List ClaimChange) :
    cache.applyAll (changes ++ new) = (cache.applyAll changes).applyAll new :=
  List.foldl_append

theorem Agrees.apply (h : cache.Agrees cache') {change change' : ClaimChange}
    (hchange : change.Alike change') : (cache.apply change).Agrees (cache'.apply change') := by
  intro uid
  obtain ⟨hreserves, hreleases⟩ := hchange uid
  rw [Bool.eq_iff_iff, holds_apply, holds_apply, h uid, hreserves, hreleases]

/-- Seeing a foreign claim takes out the pods of the claim that it replaces, whether or not it
amounts to a change. -/
theorem holds_see_foreign (hforeign : claim.Foreign) :
    (cache.applyAll (known.change? claim).toList).holds uid = true ↔
      cache.holds uid = true ∧ uid ∉ known.podsUnder claim.key := by
  rw [KnownClaims.change?, KnownClaims.podsUnder]
  cases known.get? claim.key with
  | none => simp [applyAll, apply, holds_enter, hforeign.gpuPods_eq_nil]
  | some old =>
    dsimp only
    split
    · rename_i hsame
      simp [applyAll, hsame, hforeign.gpuPods_eq_nil]
    · show ((cache.leave old).enter claim).holds uid = true ↔ _
      simp [holds_enter, holds_leave, hforeign.gpuPods_eq_nil]

/-- A claim of the GPU driver amounts to a change in both clusters or in neither. -/
theorem Agrees.see_gpu (h : cache.Agrees cache') (hknown : known.Alike known')
    (hgpu : ¬claim.Foreign) :
    (cache.applyAll (known.change? claim).toList).Agrees
      (cache'.applyAll (known'.change? claim).toList) := by
  rw [KnownClaims.change?, KnownClaims.change?]
  rcases hknown.get?_cases claim.key with ⟨hnone, hnone'⟩ | ⟨old, old', hold, hold', halike⟩
  · rw [hnone, hnone']
    have hadded : (ClaimChange.added claim).Alike (.added claim) := fun _ => ⟨Iff.rfl, Iff.rfl⟩
    exact h.apply hadded
  · rw [hold, hold']
    dsimp only
    -- a foreign claim is not this one, so the older claims differ from it both or neither
    have hsame : old = claim ↔ old' = claim := by
      constructor
      · rintro rfl
        exact (halike.eq_of_not_foreign hgpu).symm
      · rintro rfl
        exact halike.eq_of_not_foreign fun hforeign => hgpu (halike.foreign_iff.1 hforeign)
    by_cases hunchanged : old = claim
    · rw [if_pos hunchanged, if_pos (hsame.1 hunchanged)]
      exact h
    · rw [if_neg hunchanged, if_neg fun hunchanged' => hunchanged (hsame.2 hunchanged')]
      exact h.apply (halike.updated claim)

theorem Agrees.see (h : cache.Agrees cache') (hknown : known.Alike known')
    (hclaim : claim.Alike other) :
    (cache.applyAll (known.change? claim).toList).Agrees
      (cache'.applyAll (known'.change? other).toList) := by
  by_cases hforeign : claim.Foreign
  · intro uid
    rw [Bool.eq_iff_iff, holds_see_foreign hforeign,
      holds_see_foreign (hclaim.foreign_iff.1 hforeign), h uid, hclaim.key, hknown.podsUnder_eq]
  · obtain rfl := hclaim.eq_of_not_foreign hforeign
    exact h.see_gpu hknown hforeign

theorem Agrees.seeAll (h : cache.Agrees cache') (hknown : known.Alike known')
    (hclaims : List.Forall₂ Claim.Alike claims others) :
    (cache.applyAll (known.applyAll claims).1).Agrees
        (cache'.applyAll (known'.applyAll others).1) ∧
      (known.applyAll claims).2.Alike (known'.applyAll others).2 := by
  induction hclaims generalizing known known' cache cache' with
  | nil => exact ⟨h, hknown⟩
  | @cons claim other claims others hclaim _ ih =>
    obtain ⟨hcache, hafter⟩ := ih (h.see hknown hclaim) (hknown.put hclaim)
    refine ⟨?_, hafter⟩
    show (cache.applyAll ((known.change? claim).toList ++ _)).Agrees
      (cache'.applyAll ((known'.change? other).toList ++ _))
    rw [applyAll_append, applyAll_append]
    exact hcache

/-- Forgetting claims takes out their pods, in whatever order they are forgotten. -/
theorem holds_forget {gone : List String} :
    (cache.applyAll (known.forget gone).1).holds uid = true ↔
      cache.holds uid = true ∧ ∀ key ∈ gone, uid ∉ known.podsUnder key := by
  induction gone generalizing known cache with
  | nil => simp [KnownClaims.forget, applyAll]
  | cons first rest ih =>
    show (cache.applyAll
      (((known.get? first).map ClaimChange.deleted).toList ++ _)).holds uid = true ↔ _
    rw [applyAll_append, ih]
    have hfirst : (cache.applyAll ((known.get? first).map ClaimChange.deleted).toList).holds uid =
        true ↔ cache.holds uid = true ∧ uid ∉ known.podsUnder first := by
      rw [KnownClaims.podsUnder]
      cases known.get? first with
      | none => simp [applyAll]
      | some old => exact holds_leave
    -- under the first key nothing is known any more, and under the others what was known before
    have hrest : ∀ key, (known.erase first).podsUnder key =
        if key = first then [] else known.podsUnder key := by
      intro key
      rw [KnownClaims.podsUnder, KnownClaims.get?_erase]
      split
      · rfl
      · rfl
    rw [hfirst, List.forall_mem_cons, and_assoc]
    refine and_congr_right fun _ => and_congr_right fun hout => forall₂_congr fun key _ => ?_
    rw [hrest]
    split
    · rename_i hkey
      simp [hkey, hout]
    · rfl

theorem Agrees.forget (h : cache.Agrees cache') (hknown : known.Alike known')
    {gone gone' : List String} (hgone : ∀ key, key ∈ gone ↔ key ∈ gone') :
    (cache.applyAll (known.forget gone).1).Agrees (cache'.applyAll (known'.forget gone').1) ∧
      (known.forget gone).2.Alike (known'.forget gone').2 := by
  constructor
  · intro uid
    rw [Bool.eq_iff_iff, holds_forget, holds_forget, h uid]
    simp only [hgone, hknown.podsUnder_eq]
  · intro key
    rw [KnownClaims.get?_forget, KnownClaims.get?_forget]
    simp only [hgone]
    split
    · exact .none
    · exact hknown key

end ClaimCache

open ClaimCache

variable {event event' : WatchEvent} {events events' : List WatchEvent}
variable {new new' : List ClaimChange} {after after' : KnownClaims}

/-- After one more event that is alike in both clusters the caches agree still. -/
theorem Tells.agrees (h : Tells known event new after) (h' : Tells known' event' new' after')
    (hevent : event.Alike event') (hknown : known.Alike known') (hcache : cache.Agrees cache') :
    (cache.applyAll new).Agrees (cache'.applyAll new') ∧ after.Alike after' := by
  cases event with
  | applied claim =>
    cases event' with
    | applied other =>
      obtain ⟨rfl, rfl⟩ := Prod.mk.inj h
      obtain ⟨rfl, rfl⟩ := Prod.mk.inj h'
      exact hcache.seeAll hknown (.cons hevent .nil)
    | deleted | listed => cases hevent
  | deleted claim =>
    cases event' with
    | deleted other =>
      have hclaim : claim.Alike other := hevent
      obtain ⟨rfl, rfl⟩ := Prod.mk.inj h
      obtain ⟨rfl, rfl⟩ := Prod.mk.inj h'
      -- the claim seen last is told, or else the one delivered
      have hlast : ((known.get? claim.key).getD claim).Alike
          ((known'.get? other.key).getD other) := by
        rw [← hclaim.key]
        rcases hknown.get?_cases claim.key with ⟨hnone, hnone'⟩ | ⟨old, old', hold, hold', halike⟩
        · rw [hnone, hnone']
          exact hclaim
        · rw [hold, hold']
          exact halike
      exact ⟨hcache.apply hlast.deleted, hclaim.key ▸ hknown.erase _⟩
    | applied | listed => cases hevent
  | listed claims =>
    cases event' with
    | listed others =>
      obtain ⟨gone, hgone, heq⟩ := h
      obtain ⟨gone', hgone', heq'⟩ := h'
      obtain ⟨rfl, rfl⟩ := Prod.mk.inj heq
      obtain ⟨rfl, rfl⟩ := Prod.mk.inj heq'
      -- the same claims have vanished, though they may be told in different orders
      have hsame : ∀ key, key ∈ gone ↔ key ∈ gone' := by
        intro key
        rw [hgone.mem_iff, hgone'.mem_iff, hknown.mem_vanished_iff hevent]
      obtain ⟨hforgotten, hremaining⟩ := hcache.forget hknown hsame
      rw [applyAll_append, applyAll_append]
      exact hforgotten.seeAll hremaining hevent
    | applied | deleted => cases hevent

theorem Told.of_concat (h : Told (events ++ [event]) changes after) :
    ∃ before known new, Told events before known ∧ Tells known event new after ∧
      changes = before ++ new := by
  generalize hall : events ++ [event] = all at h
  cases h with
  | nil => simp at hall
  | concat htold htells =>
    obtain ⟨rfl, hlast⟩ := List.append_inj' hall rfl
    obtain rfl := List.singleton_inj.1 hlast
    exact ⟨_, _, _, htold, htells, rfl⟩

theorem forall₂_of_concat {R : WatchEvent → WatchEvent → Prop}
    (h : List.Forall₂ R (events ++ [event]) events') :
    ∃ init last, events' = init ++ [last] ∧ List.Forall₂ R events init ∧ R event last := by
  have hreverse := List.forall₂_reverse_iff.2 h
  rw [List.reverse_append, List.reverse_singleton, List.singleton_append,
    List.forall₂_cons_left_iff] at hreverse
  obtain ⟨last, init, hlast, hinit, hall⟩ := hreverse
  refine ⟨init.reverse, last, ?_, ?_, hlast⟩
  · rw [← List.reverse_cons, ← hall, List.reverse_reverse]
  · exact List.forall₂_reverse_iff.1 (by rwa [List.reverse_reverse])

theorem Told.agrees (h : Told events changes known) (h' : Told events' changes' known')
    (hevents : List.Forall₂ WatchEvent.Alike events events') :
    (ClaimCache.empty.applyAll changes).Agrees (ClaimCache.empty.applyAll changes') ∧
      known.Alike known' := by
  induction h generalizing events' changes' known' with
  | nil =>
    cases hevents
    generalize hall : ([] : List WatchEvent) = all at h'
    cases h' with
    | nil => exact ⟨fun _ => rfl, fun _ => .none⟩
    | concat _ _ => simp at hall
  | concat _ htells ih =>
    obtain ⟨init, last, rfl, hinit, hlast⟩ := forall₂_of_concat hevents
    obtain ⟨before, _, new, htold', htells', rfl⟩ := h'.of_concat
    obtain ⟨hcache, hknown⟩ := ih htold' hinit
    rw [applyAll_append, applyAll_append]
    exact htells.agrees htells' hlast hknown hcache

/-- Take two histories of events that agree in the kinds of the events, in the lengths of the
listings and in the keys of the claims, place by place, and that differ only where both claims are
foreign. After each event both caches hold the same pods, in whatever orders vanished claims were
told in the one and in the other. -/
theorem foreign_claims_invisible (hevents : List.Forall₂ WatchEvent.Alike events events') (n : Nat)
    (htold : Told (events.take n) changes known) (htold' : Told (events'.take n) changes' known')
    (uid : String) :
    (ClaimCache.empty.applyAll changes).holds uid =
      (ClaimCache.empty.applyAll changes').holds uid :=
  (htold.agrees htold' (List.forall₂_take n hevents)).1 uid

/-- A claim of a network card that one pod has reserved. -/
def Claim.cardFor (name uid : String) : Claim :=
  { Claim.gpuFor name uid with
    status := some
      { allocation := some [⟨"card", "nic.example.com", "node", "nic-0"⟩]
        reservedFor := [⟨none, Claim.podResource, "pod", uid⟩] } }

theorem Claim.cardFor_alike (name uid other : String) :
    (Claim.cardFor name uid).Alike (.cardFor name other) where
  key := rfl
  eq_or_foreign := by
    have hforeign : ∀ uid, (Claim.cardFor name uid).Foreign := fun uid device hdevice =>
      List.mem_singleton.1 hdevice ▸ by decide
    exact .inr ⟨hforeign uid, hforeign other⟩

/-- A claim moves from a GPU to a network card and back. Whether the card is passed on to another
pod meanwhile, which is told, makes no difference to any pod. -/
theorem passed_on_card_invisible :
    ∃ events events' changes known changes' known',
      List.Forall₂ WatchEvent.Alike events events' ∧
      Told (events.take 4) changes known ∧ Told (events'.take 4) changes' known' ∧
      changes.length = 5 ∧ changes'.length = 6 ∧
      (ClaimCache.empty.applyAll changes).pods = ["new"] ∧
      ∀ uid, (ClaimCache.empty.applyAll changes).holds uid =
        (ClaimCache.empty.applyAll changes').holds uid := by
  let start : WatchEvent := .listed [.gpuFor "a" "old", .gpuFor "b" "old"]
  let moved (uid : String) : WatchEvent := .applied (.cardFor "a" uid)
  let finish : WatchEvent := .listed [.gpuFor "a" "new"]
  let told (uid : String) : List ClaimChange × KnownClaims :=
    let first := KnownClaims.empty.observe start
    let second := first.2.observe (moved "old")
    let third := second.2.observe (moved uid)
    let fourth := third.2.observe finish
    (first.1 ++ second.1 ++ third.1 ++ fourth.1, fourth.2)
  have htold : ∀ uid,
      Told ([start, moved "old", moved uid, finish].take 4) (told uid).1 (told uid).2 := by
    intro uid
    exact (((Told.nil.concat (tells_observe _ _)).concat (tells_observe _ _)).concat
      (tells_observe _ _)).concat (tells_observe _ _)
  have hsame : ∀ claim : Claim, (WatchEvent.listed [claim]).Alike (.listed [claim]) :=
    fun claim => .cons (Claim.Alike.refl claim) .nil
  have hstart : start.Alike start := .cons (Claim.Alike.refl _) (.cons (Claim.Alike.refl _) .nil)
  have halike : List.Forall₂ WatchEvent.Alike [start, moved "old", moved "old", finish]
      [start, moved "old", moved "other", finish] :=
    .cons hstart (.cons (Claim.Alike.refl _) (.cons (Claim.cardFor_alike "a" "old" "other")
      (.cons (hsame _) .nil)))
  exact ⟨_, _, _, _, _, _, halike, htold "old", htold "other", by decide +kernel,
    by decide +kernel, by decide +kernel,
    foreign_claims_invisible halike 4 (htold "old") (htold "other")⟩

end DriverHandover
