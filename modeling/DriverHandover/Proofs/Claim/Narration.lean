import DriverHandover.Claim.Known

/-!
# The changes tell what is known

One who only hears the changes that a watch amounts to, and keeps for each key the claim that was
told last, knows the claims that were seen last. So the changes leave nothing out, in whatever order
vanished claims are told.

## Main definitions

* `Told` – the changes that a sequence of events may be told as, and what is known after it.
* `ClaimChange.Fits`, `ClaimChange.after` – whether a change fits what is known, and what is known
  after it.
* `Narrates` – changes that fit one after the other.

## Main statements

* `Told.narrates` – the changes narrate what is known.
* `Narrates.last_told` – a known claim was told, and nothing was told under its key after that.
-/

namespace DriverHandover

namespace KnownClaims

theorem lookup_cons_ite (name k : String) (claim : Claim) (rest : List (String × Claim)) :
    ((name, claim) :: rest).lookup k = if k = name then some claim else rest.lookup k := by
  by_cases hk : k = name
  · rw [if_pos hk, hk, List.lookup_cons, beq_self_eq_true]
  · rw [if_neg hk, List.lookup_cons, beq_false_of_ne hk]

theorem lookup_filter_ne (key k : String) (entries : List (String × Claim)) :
    (entries.filter (·.1 != key)).lookup k = if k = key then none else entries.lookup k := by
  induction entries with
  | nil => simp
  | cons e rest ih =>
    obtain ⟨name, claim⟩ := e
    rw [lookup_cons_ite]
    by_cases hname : name = key
    · rw [List.filter_cons_of_neg (by simpa using hname), ih, hname]
      split <;> rfl
    · rw [List.filter_cons_of_pos (by simpa using hname), lookup_cons_ite, ih]
      by_cases hk : k = name
      · rw [if_pos hk, if_pos hk, if_neg (hk ▸ hname)]
      · rw [if_neg hk, if_neg hk]

theorem get?_erase (known : KnownClaims) (key k : String) :
    (known.erase key).get? k = if k = key then none else known.get? k :=
  lookup_filter_ne key k known.entries

theorem get?_put (known : KnownClaims) (claim : Claim) (k : String) :
    (known.put claim).get? k = if k = claim.key then some claim else known.get? k := by
  have herased := known.get?_erase claim.key k
  rw [get?, put, List.lookup_append]
  rw [get?] at herased
  rw [herased]
  by_cases hk : k = claim.key
  · rw [if_pos hk, if_pos hk, lookup_cons_ite, if_pos hk]
    rfl
  · rw [if_neg hk, if_neg hk, lookup_cons_ite, if_neg hk]
    exact Option.or_none

/-- Every claim is known under its own key. -/
def Keyed (known : KnownClaims) : Prop :=
  ∀ key claim, known.get? key = some claim → claim.key = key

variable {known : KnownClaims}

theorem Keyed.erase (h : known.Keyed) (key : String) : (known.erase key).Keyed := by
  intro k claim hk
  rw [get?_erase] at hk
  split at hk
  · cases hk
  · exact h k claim hk

theorem Keyed.put (h : known.Keyed) (claim : Claim) : (known.put claim).Keyed := by
  intro k other hk
  rw [get?_put] at hk
  split at hk
  · rename_i hkey
    cases hk
    exact hkey.symm
  · exact h k other hk

end KnownClaims

namespace ClaimChange

/-- The key of the claim that a change is about. -/
def key? : ClaimChange → Option String
  | .added claim | .updated _ claim | .deleted claim => some claim.key
  | .synced => none

/-- The claim that there is after a change. -/
def current? : ClaimChange → Option Claim
  | .added claim | .updated _ claim => some claim
  | .deleted _ | .synced => none

/-- A change fits what is known: what it tells as added was unknown, and what it tells as updated or
deleted was known just so, except that an unknown claim may be told as deleted. -/
def Fits (store : String → Option Claim) : ClaimChange → Prop
  | .added claim => store claim.key = none
  | .updated old new => old.key = new.key ∧ old ≠ new ∧ store new.key = some old
  | .deleted claim => store claim.key = some claim ∨ store claim.key = none
  | .synced => True

/-- What is known after a change. -/
def after (store : String → Option Claim) (change : ClaimChange) : String → Option Claim :=
  fun key => if change.key? = some key then change.current? else store key

end ClaimChange

/-- Each change fits what is known so far, and in the end `final` is known. -/
def Narrates (store : String → Option Claim) :
    List ClaimChange → (String → Option Claim) → Prop
  | [], final => store = final
  | change :: rest, final => change.Fits store ∧ Narrates (change.after store) rest final

/-- The changes that an event may be told as, and what is known after it. The claims that a listing
lacks may be told in any order. -/
def Tells (known : KnownClaims) : WatchEvent → List ClaimChange → KnownClaims → Prop
  | .listed claims, changes, after =>
    ∃ gone, gone.Perm (known.vanished claims) ∧ (changes, after) = known.relist gone claims
  | event, changes, after => (changes, after) = known.observe event

/-- The changes that a sequence of events may be told as from the beginning, and what is known after
it. -/
inductive Told : List WatchEvent → List ClaimChange → KnownClaims → Prop where
  | nil : Told [] [] .empty
  | concat {events : List WatchEvent} {changes new : List ClaimChange} {known after : KnownClaims}
      {event : WatchEvent} :
      Told events changes known → Tells known event new after →
        Told (events ++ [event]) (changes ++ new) after

variable {known after : KnownClaims} {store middle final : String → Option Claim}
variable {changes new : List ClaimChange}

theorem tells_observe (known : KnownClaims) (event : WatchEvent) :
    Tells known event (known.observe event).1 (known.observe event).2 := by
  cases event with
  | listed claims => exact ⟨known.vanished claims, List.Perm.refl _, rfl⟩
  | applied | deleted => rfl

theorem Narrates.append (h : Narrates store changes middle) (h' : Narrates middle new final) :
    Narrates store (changes ++ new) final := by
  induction changes generalizing store with
  | nil => exact h ▸ h'
  | cons change rest ih => exact ⟨h.1, ih h.2⟩

theorem Narrates.split (h : Narrates store (changes ++ new) final) :
    ∃ middle, Narrates store changes middle ∧ Narrates middle new final := by
  induction changes generalizing store with
  | nil => exact ⟨store, rfl, h⟩
  | cons change changes ih =>
    obtain ⟨hfits, hlater⟩ := h
    obtain ⟨middle, hbefore, hafter⟩ := ih hlater
    exact ⟨middle, ⟨hfits, hbefore⟩, hafter⟩

namespace KnownClaims

/-- Seeing the current state of a claim, if nothing has changed. -/
theorem put_of_get? {claim : Claim} (h : known.get? claim.key = some claim) (k : String) :
    (known.put claim).get? k = known.get? k := by
  rw [get?_put]
  split
  · rename_i hk
    rw [hk, h]
  · rfl

/-- The change that the current state of a claim amounts to narrates that it is known then. -/
theorem narrates_change? (hkeyed : known.Keyed) (claim : Claim) :
    Narrates known.get? (known.change? claim).toList (known.put claim).get? := by
  have hput : ∀ change : ClaimChange, change.key? = some claim.key →
      change.current? = some claim → change.after known.get? = (known.put claim).get? := by
    intro change hkey hcurrent
    funext k
    rw [ClaimChange.after, get?_put, hkey, hcurrent]
    by_cases hk : k = claim.key
    · rw [if_pos (hk ▸ rfl), if_pos hk]
    · rw [if_neg fun h => hk (Option.some.inj h).symm, if_neg hk]
  -- an unknown claim is told as added, a known one only if it has changed
  rw [change?]
  cases hget : known.get? claim.key with
  | none => exact ⟨hget, hput _ rfl rfl⟩
  | some old =>
    dsimp only
    by_cases hsame : old = claim
    · rw [if_pos hsame]
      exact funext fun k => (put_of_get? (hsame ▸ hget) k).symm
    · rw [if_neg hsame]
      exact ⟨⟨hkeyed _ old hget, hsame, hget⟩, hput _ rfl rfl⟩

theorem narrates_applyAll (hkeyed : known.Keyed) (claims : List Claim) :
    Narrates known.get? (known.applyAll claims).1 (known.applyAll claims).2.get? ∧
      (known.applyAll claims).2.Keyed := by
  induction claims generalizing known with
  | nil => exact ⟨rfl, hkeyed⟩
  | cons claim rest ih =>
    obtain ⟨hrest, hkeyed'⟩ := ih (hkeyed.put claim)
    exact ⟨(narrates_change? hkeyed claim).append hrest, hkeyed'⟩

/-- What is known after a claim was told as deleted. -/
theorem after_deleted {key : String} {claim : Claim} (hkey : claim.key = key) :
    (ClaimChange.deleted claim).after known.get? = (known.erase key).get? := by
  funext k
  show (if some claim.key = some k then none else known.get? k) = _
  rw [get?_erase, ← hkey]
  by_cases hk : k = claim.key
  · rw [if_pos (congrArg some hk.symm), if_pos hk]
  · rw [if_neg hk, if_neg fun h => hk (Option.some.inj h).symm]

theorem narrates_forget (hkeyed : known.Keyed) (gone : List String) :
    Narrates known.get? (known.forget gone).1 (known.forget gone).2.get? ∧
      (known.forget gone).2.Keyed := by
  induction gone generalizing known with
  | nil => exact ⟨rfl, hkeyed⟩
  | cons key rest ih =>
    obtain ⟨hrest, hkeyed'⟩ := ih (hkeyed.erase key)
    refine ⟨Narrates.append ?_ hrest, hkeyed'⟩
    cases hget : known.get? key with
    | none =>
      refine funext fun k => ?_
      rw [get?_erase]
      split
      · rename_i hk
        rw [hk, hget]
      · rfl
    | some claim =>
      have hkey := hkeyed key claim hget
      exact ⟨.inl (hkey ▸ hget), after_deleted hkey⟩

end KnownClaims

/-- The changes that an event is told as narrate what is known after it. -/
theorem Tells.narrates {event : WatchEvent} (h : Tells known event new after)
    (hkeyed : known.Keyed) : Narrates known.get? new after.get? ∧ after.Keyed := by
  cases event with
  | applied claim =>
    obtain ⟨rfl, rfl⟩ := Prod.mk.inj h
    exact KnownClaims.narrates_applyAll hkeyed [claim]
  | deleted claim =>
    obtain ⟨rfl, rfl⟩ := Prod.mk.inj h
    refine ⟨?_, hkeyed.erase claim.key⟩
    cases hget : known.get? claim.key with
    | none => exact ⟨.inr hget, KnownClaims.after_deleted rfl⟩
    | some old =>
      have hkey : old.key = claim.key := hkeyed _ old hget
      exact ⟨.inl (hkey ▸ hget), KnownClaims.after_deleted hkey⟩
  | listed claims =>
    obtain ⟨gone, -, heq⟩ := h
    obtain ⟨rfl, rfl⟩ := Prod.mk.inj heq
    obtain ⟨hgone, hkeyed'⟩ := KnownClaims.narrates_forget hkeyed gone
    obtain ⟨hcurrent, hkeyed''⟩ := KnownClaims.narrates_applyAll hkeyed' claims
    exact ⟨hgone.append hcurrent, hkeyed''⟩

/-- The changes narrate what is known. -/
theorem Told.narrates {events : List WatchEvent} (h : Told events changes known) :
    Narrates (fun _ => none) changes known.get? ∧ known.Keyed := by
  induction h with
  | nil =>
    refine ⟨rfl, fun key claim hget => ?_⟩
    cases hget
  | concat _ htells ih =>
    obtain ⟨hnew, hkeyed⟩ := htells.narrates ih.2
    exact ⟨ih.1.append hnew, hkeyed⟩

/-- A claim that is known in the end was known in the beginning and nothing was told under its key,
or it was told, and nothing was told under its key after that. -/
theorem Narrates.last_told {key : String} {claim : Claim} (h : Narrates store changes final)
    (hfinal : final key = some claim) :
    store key = some claim ∧ (∀ change ∈ changes, change.key? ≠ some key) ∨
      ∃ before change rest, changes = before ++ change :: rest ∧ change.key? = some key ∧
        change.current? = some claim ∧ ∀ later ∈ rest, later.key? ≠ some key := by
  induction changes generalizing store with
  | nil =>
    have hsame : store = final := h
    exact .inl ⟨hsame ▸ hfinal, List.forall_mem_nil _⟩
  | cons change rest ih =>
    rcases ih h.2 with ⟨hafter, hrest⟩ | ⟨before, told, later, rfl, htold⟩
    · rw [ClaimChange.after] at hafter
      by_cases hkey : change.key? = some key
      · rw [if_pos hkey] at hafter
        exact .inr ⟨[], change, rest, rfl, hkey, hafter, hrest⟩
      · rw [if_neg hkey] at hafter
        exact .inl ⟨hafter, List.forall_mem_cons.2 ⟨hkey, hrest⟩⟩
    · exact .inr ⟨change :: before, told, later, rfl, htold⟩

end DriverHandover
