import DriverHandover.Proofs.Cluster.Turns
import Mathlib.Data.List.Nodup

/-!
# The progress of each removal

The turns of a pool are those of several removals. Here they are told apart: the turns of one pod,
and what is asked in them, make up the progress of its removal. The pods of a pool have different
addresses, so that what is asked about one of them belongs to its own turns.

## Main definitions

* `Pod.inquiries`, `Pod.turns` – what was asked about a pod, and its turns.
* `Progress` – how far a removal has come.
* `Pool.Tracks` – a property of the progress of a pod, wherever it is in a pool.

## Main statements

* `Pool.Takes.inquiries_eq` – what is asked about a pod is asked in its turns.
* `Pool.Takes.tracks` – a property that each turn of a pod keeps holds of its progress in a pool.
-/

namespace DriverHandover

open Session

instance (p : Pod) : DecidablePred (ApiRequest.About p)
  | .evictPod address _ => inferInstanceAs (Decidable (address = p.address))
  | .getPod address => inferInstanceAs (Decidable (address = p.address))
  | .getNode _ | .patchLabels _ _ | .patchCordon _ _ | .listPods _ _ _ => .isFalse id

theorem ApiRequest.About.address_eq {p q : Pod} {request : ApiRequest} (h : request.About p)
    (h' : request.About q) : p.address = q.address := by
  cases request with
  | evictPod | getPod => exact h.symm.trans h'
  | _ => exact h.elim

namespace Pod

variable {p q : Pod} {talk more : List Inquiry}

/-- What was asked about a pod. -/
def inquiries (p : Pod) (talk : List Inquiry) : List Inquiry :=
  talk.filter (·.request.About p)

theorem inquiries_append : p.inquiries (talk ++ more) = p.inquiries talk ++ p.inquiries more :=
  List.filter_append ..

theorem inquiries_eq_self (h : ∀ i ∈ talk, i.request.About p) : p.inquiries talk = talk :=
  List.filter_eq_self.2 fun i hi => decide_eq_true (h i hi)

theorem inquiries_eq_nil (h : ∀ i ∈ talk, i.request.About q) (hne : q.address ≠ p.address) :
    p.inquiries talk = [] := by
  refine List.filter_eq_nil_iff.2 fun i hi habout => hne ?_
  exact (h i hi).address_eq (of_decide_eq_true habout)

end Pod

/-- How far a removal has come: the turns that it had, and how it goes on unless it has ended. -/
structure Progress where
  turns : List Turn
  next : Option Removal

/-- How a removal goes on after a turn. -/
def Turn.next (t : Turn) : Option Removal :=
  match t.state with
  | .waits phase => some ⟨t.removal.pod, phase, t.removal.wake.after removalInterval⟩
  | .removed | .failed _ => none

def Progress.begin (now : Instant) (p : Pod) : Progress := ⟨[], some (Pool.begin now p)⟩

def Progress.concat (c : Progress) (t : Turn) : Progress := ⟨c.turns ++ [t], t.next⟩

def Progress.talk (c : Progress) : List Inquiry := c.turns.flatMap (·.talk)

theorem Progress.talk_concat (c : Progress) (t : Turn) : (c.concat t).talk = c.talk ++ t.talk := by
  rw [talk, concat, List.flatMap_append, List.flatMap_singleton]
  rfl

/-- The turns of a pod. -/
def Pod.turns (p : Pod) (turns : List Turn) : List Turn := turns.filter (·.removal.pod = p)

theorem Pod.mem_turns {p : Pod} {turns : List Turn} {t : Turn} :
    t ∈ p.turns turns ↔ t ∈ turns ∧ t.removal.pod = p := by
  rw [Pod.turns, List.mem_filter, decide_eq_true_iff]

theorem Pod.turns_concat_own {p : Pod} {turns : List Turn} {t : Turn} (h : t.removal.pod = p) :
    p.turns (turns ++ [t]) = p.turns turns ++ [t] := by
  rw [Pod.turns, List.filter_append, List.filter_singleton, decide_eq_true h, cond_true]
  rfl

theorem Pod.turns_concat_other {p : Pod} {turns : List Turn} {t : Turn} (h : t.removal.pod ≠ p) :
    p.turns (turns ++ [t]) = p.turns turns := by
  rw [Pod.turns, List.filter_append, List.filter_singleton, decide_eq_false h, cond_false]
  exact List.append_nil _

/-- If no pod has more turns than a bound, the number of all turns is bounded. -/
theorem length_le_mul {pods : List Pod} {turns : List Turn} {bound : Nat}
    (hpods : ∀ t ∈ turns, t.removal.pod ∈ pods)
    (hbound : ∀ p ∈ pods, (p.turns turns).length ≤ bound) :
    turns.length ≤ pods.length * bound := by
  induction pods generalizing turns with
  | nil =>
    have hnone : turns = [] :=
      List.eq_nil_iff_forall_not_mem.2 fun t ht => List.not_mem_nil (hpods t ht)
    rw [hnone]
    exact Nat.zero_le _
  | cons p rest ih =>
    -- the turns of the first pod are counted apart, and the others are those of the rest
    let others := turns.filter fun t => !decide (t.removal.pod = p)
    have hsplit : turns.length = (p.turns turns).length + others.length :=
      List.length_eq_length_filter_add _
    have hfirst := hbound p List.mem_cons_self
    have hrest : others.length ≤ rest.length * bound := by
      refine ih (fun t ht => ?_) fun q hq => ?_
      · obtain ⟨ht, hne⟩ := List.mem_filter.1 ht
        exact (List.mem_cons.1 (hpods t ht)).resolve_left (by simpa using hne)
      · have hsub : (q.turns others).Sublist (q.turns turns) := List.filter_sublist.filter _
        exact Nat.le_trans hsub.length_le (hbound q (List.mem_cons_of_mem p hq))
    rw [List.length_cons, Nat.succ_mul]
    omega

namespace Pool

variable {ω : Type} {api : ApiServer ω} {plan : RemovalPlan} {horizon now : Instant}
variable {pool last : Pool} {s later : Session ω} {turns : List Turn} {p : Pod} {r : Removal}
variable {rest : List Removal} {waiting pods : List Pod} {failures : List (Report ClusterError)}
variable {own : List Turn} {holds : Progress → Prop} {t : Turn}

theorem Takes.pod_mem (h : Takes api plan horizon (start now pods) s turns last later) :
    (∀ r ∈ last.active, r.pod ∈ pods) ∧ ∀ t ∈ turns, t.removal.pod ∈ pods := by
  have hlast : ∀ {turns last later}, Takes api plan horizon (start now pods) s turns last later →
      ∀ r ∈ last.active, r.pod ∈ pods := by
    intro turns last later htakes r hr
    have hpod : r.pod ∈ last.pods := List.mem_append_left _ (List.mem_map_of_mem hr)
    exact htakes.perm_start.subset (List.mem_append_right _ hpod)
  refine ⟨hlast h, ?_⟩
  induction h with
  | none => exact List.forall_mem_nil _
  | turn htakes _ _ _ _ ih =>
    intro t ht
    rcases List.mem_append.1 ht with ht | ht
    · exact ih t ht
    · rw [List.mem_singleton.1 ht]
      exact hlast htakes _ List.mem_cons_self

/-- What is asked about a pod is asked in its turns. -/
theorem Takes.inquiries_eq (h : Takes api plan horizon (start now pods) s turns last later)
    (hapart : (pods.map Pod.address).Nodup) (hp : p ∈ pods) :
    p.inquiries (turns.flatMap (·.talk)) = (p.turns turns).flatMap (·.talk) := by
  induction h with
  | none => rfl
  | @turn turns r _ _ _ _ _ talk state htakes hwake houtcome htalks hnow ih =>
    rw [List.flatMap_append, List.flatMap_singleton, Pod.inquiries_append, ih]
    by_cases hown : r.pod = p
    · rw [Pod.turns_concat_own hown, List.flatMap_append, List.flatMap_singleton,
        Pod.inquiries_eq_self (hown ▸ houtcome.about)]
    · -- what is asked in the turn of another pod has another address
      have hr : r.pod ∈ pods := htakes.pod_mem.1 r List.mem_cons_self
      have hne : r.pod.address ≠ p.address := fun haddress =>
        hown (List.inj_on_of_nodup_map hapart hr hp haddress)
      rw [Pod.turns_concat_other hown, Pod.inquiries_eq_nil houtcome.about hne, List.append_nil]

/-- A property of the progress of a pod, wherever the pod is in the pool. -/
structure Tracks (holds : Progress → Prop) (p : Pod) (pool : Pool) (own : List Turn) : Prop where
  waiting : p ∈ pool.waiting → own = []
  active : ∀ r ∈ pool.active, r.pod = p → holds ⟨own, some r⟩
  ended : p ∉ pool.pods → holds ⟨own, none⟩

/-- Wherever a pod is, the property holds of its turns with some continuation. -/
theorem Tracks.exists_next (h : pool.Tracks holds p own)
    (hbegin : ∀ moment, holds (.begin moment p)) : ∃ next, holds ⟨own, next⟩ := by
  by_cases hp : p ∈ pool.pods
  · rcases List.mem_append.1 hp with hp | hp
    · obtain ⟨r, hr, hrp⟩ := List.mem_map.1 hp
      exact ⟨some r, h.active r hr hrp⟩
    · rw [h.waiting hp]
      exact ⟨_, hbegin 0⟩
  · exact ⟨none, h.ended hp⟩

theorem tracks_start (hbegin : ∀ moment, holds (.begin moment p)) (hp : p ∈ pods)
    (now : Instant) : (start now pods).Tracks holds p [] where
  waiting _ := rfl
  active r hr hrp := by
    obtain ⟨q, -, rfl⟩ := List.mem_map.1 hr
    have hq : q = p := hrp
    exact hq ▸ hbegin now
  ended hnot := by
    rw [pods_start] at hnot
    exact absurd hp hnot

/-- The turn of another pod. -/
theorem Tracks.settle_other (h : Tracks holds p ⟨r :: rest, waiting, failures⟩ own)
    (hbegin : ∀ moment, holds (.begin moment p)) (hne : r.pod ≠ p) (now : Instant)
    (state : RemovalState) : (settle now r ⟨rest, waiting, failures⟩ state).Tracks holds p own where
  waiting hp := by
    have hwaits := mem_waiting_of_settle hp
    exact h.waiting hwaits
  active q hq hqp := by
    rcases mem_settle hq with hq | ⟨p', hp', rfl⟩ | ⟨next, -, rfl⟩
    · exact h.active q (List.mem_cons_of_mem r hq) hqp
    · have hp : p' = p := hqp
      have hnone := h.waiting (hp ▸ hp')
      rw [hnone, hp]
      exact hbegin now
    · exact absurd hqp hne
  ended hnot := by
    refine h.ended fun hp => hnot ?_
    have hrest : p ∈ Pool.pods ⟨rest, waiting, failures⟩ :=
      (List.mem_cons.1 hp).resolve_left (Ne.symm hne)
    refine (pods_settle now r _ state).mem_iff.2 ?_
    split
    · exact hrest
    · exact List.mem_cons_of_mem _ hrest

/-- The turn of the pod itself, which is in the pool only once. -/
theorem Tracks.settle_own (honce : t.removal.pod ∉ Pool.pods ⟨rest, waiting, failures⟩)
    (hturn : holds ⟨own ++ [t], t.next⟩) :
    (settle t.removal.wake t.removal ⟨rest, waiting, failures⟩ t.state).Tracks holds t.removal.pod
      (own ++ [t]) := by
  have hwaiting : t.removal.pod ∉ waiting := fun hp => honce (List.mem_append_right _ hp)
  have hrest : ∀ q ∈ rest, q.pod ≠ t.removal.pod := fun q hq hqp =>
    honce (List.mem_append_left _ (hqp ▸ List.mem_map_of_mem hq))
  refine ⟨fun hp => ?_, fun q hq hqp => ?_, fun hnot => ?_⟩
  · exact absurd (mem_waiting_of_settle hp) hwaiting
  · -- no other removal is about this pod, so it is this one that waits
    rcases mem_settle hq with hq | ⟨p', hp', rfl⟩ | ⟨next, hnext, rfl⟩
    · exact absurd hqp (hrest q hq)
    · exact absurd (hqp ▸ hp') hwaiting
    · rwa [Turn.next, hnext] at hturn
  · cases hstate : t.state with
    | removed | failed _ => rwa [Turn.next, hstate] at hturn
    | waits next =>
      refine absurd ((pods_settle _ _ _ _).mem_iff.2 ?_) hnot
      rw [hstate]
      exact List.mem_cons_self

/-- A property that a pod has before its first turn, and that each of its turns keeps, holds of its
progress after any number of turns of a pool. -/
theorem Takes.tracks (h : Takes api plan horizon (start now pods) s turns last later)
    (hnodup : pods.Nodup) (hp : p ∈ pods) (hbegin : ∀ moment, holds (.begin moment p))
    (hturn : ∀ turns t last later,
      Takes api plan horizon (start now pods) s (turns ++ [t]) last later → t.removal.pod = p →
        holds ⟨p.turns turns, some t.removal⟩ →
          holds (Progress.concat ⟨p.turns turns, some t.removal⟩ t)) :
    last.Tracks holds p (p.turns turns) := by
  induction h with
  | none => exact tracks_start hbegin hp now
  | @turn turns r rest waiting failures _ later talk state htakes hwake houtcome htalks hnow ih =>
    by_cases hown : r.pod = p
    · have hmore := hturn _ _ _ _ (htakes.turn hwake houtcome htalks hnow) hown
        (ih.active r List.mem_cons_self hown)
      have hpods := (htakes.perm_start.nodup_iff.2 hnodup).of_append_right
      have honce : r.pod ∉ Pool.pods ⟨rest, waiting, failures⟩ := (List.nodup_cons.1 hpods).1
      rw [Pod.turns_concat_own hown]
      subst hown
      exact Tracks.settle_own (t := ⟨r, talk, state⟩) honce hmore
    · rw [Pod.turns_concat_other hown]
      exact ih.settle_other hbegin hown _ _

end Pool

end DriverHandover
