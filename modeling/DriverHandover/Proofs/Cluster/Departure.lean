import DriverHandover.Proofs.Cluster.Progress

/-!
# What is asked about a pod

What was asked about a pod, and answered, tells how its removal went. Evictions come first, and only
those that were blocked are followed by another one; then the pod is looked for, and nothing is
asked once it has been seen to be gone. The pods of a pool have different addresses here, so that
what is asked about one of them belongs to its own removal.

## Main definitions

* `Inquiry.Blocks`, `Inquiry.Accepts`, `Inquiry.ShowsGone` – the answers that count.
* `UnderWay`, `Departed` – the inquiries about a pod so far, and those about a pod that is gone.
* `Progress.Orderly` – the inquiries about a pod agree with how its removal goes on.

## Main statements

* `Removal.Outcome.orderly` – what a turn adds to the inquiries about its pod.
* `Pool.Takes.orderly` – the inquiries about each pod after any number of turns of a pool.
-/

namespace DriverHandover

open Session

namespace Inquiry

/-- The eviction of the pod was forbidden for now. -/
def Blocks (p : Pod) : Inquiry → Prop
  | ⟨_, .evictPod address _, answer⟩ =>
    address = p.address ∧ (answer = .error (.status 429) ∨ answer = .error (.status 500))
  | _ => False

/-- The eviction of the pod was accepted, or there was nothing to evict. -/
def Accepts (p : Pod) : Inquiry → Prop
  | ⟨_, .evictPod address _, answer⟩ =>
    address = p.address ∧ (answer = .ok () ∨ answer = .error (.status 404))
  | _ => False

/-- The pod was not found, or another one of its name. -/
def ShowsGone (p : Pod) : Inquiry → Prop
  | ⟨_, .getPod address, answer⟩ =>
    address = p.address ∧
      (answer = .error (.status 404) ∨ ∃ current, answer = .ok current ∧ current.uid ≠ p.uid)
  | _ => False

/-- Nothing is asked about a pod after it has been seen to be gone, and an eviction only after
evictions that were blocked. -/
def MayPrecede (p : Pod) (earlier later : Inquiry) : Prop :=
  ¬ earlier.ShowsGone p ∧ (later.request.isEviction → earlier.Blocks p)

end Inquiry

section Answers

variable {p : Pod} {answer : Except ApiError Unit}

theorem EvictionVerdict.ofAnswer_eq_blocked_iff :
    ofAnswer answer = .blocked ↔
      answer = .error (.status 429) ∨ answer = .error (.status 500) := by
  constructor
  · intro h
    unfold ofAnswer at h
    split at h <;> simp_all
  · rintro (rfl | rfl) <;> rfl

theorem EvictionVerdict.ofAnswer_eq_accepted_iff :
    ofAnswer answer = .accepted ↔ answer = .ok () ∨ answer = .error (.status 404) := by
  constructor
  · intro h
    unfold ofAnswer at h
    split at h <;> simp_all
  · rintro (rfl | rfl) <;> rfl

theorem Pod.isGoneBy_iff {answer : Except ApiError Pod} :
    p.isGoneBy answer = true ↔
      answer = .error (.status 404) ∨ ∃ current, answer = .ok current ∧ current.uid ≠ p.uid := by
  constructor
  · intro h
    unfold isGoneBy at h
    split at h <;> simp_all
  · rintro (rfl | ⟨current, rfl, huid⟩)
    · rfl
    · simpa [isGoneBy] using huid

end Answers

/-- The inquiries about a pod while its removal is in a phase. -/
structure UnderWay (p : Pod) (phase : RemovalPhase) (past : List Inquiry) : Prop where
  orderly : past.Pairwise (Inquiry.MayPrecede p)
  present : ∀ i ∈ past, ¬ i.ShowsGone p
  blocked : phase = .evicting → ∀ i ∈ past, i.Blocks p
  accepted : phase = .confirming → ∃ i ∈ past, i.Accepts p

/-- The inquiries about a pod whose eviction was accepted and that was then seen to be gone. -/
def Departed (p : Pod) (talk : List Inquiry) : Prop :=
  ∃ past gone, talk = past ++ [gone] ∧ (∃ i ∈ past, i.Accepts p) ∧ gone.ShowsGone p

section Turns

variable {p : Pod} {phase next : RemovalPhase} {past talk : List Inquiry} {i : Inquiry}

theorem underWay_nil (p : Pod) : UnderWay p .evicting [] :=
  ⟨.nil, List.forall_mem_nil _, fun _ => List.forall_mem_nil _, nofun⟩

theorem UnderWay.concat_orderly (h : UnderWay p phase past)
    (hi : i.request.isEviction → phase = .evicting) :
    (past ++ [i]).Pairwise (Inquiry.MayPrecede p) := by
  refine List.pairwise_append.2
    ⟨h.orderly, List.pairwise_singleton _ _, fun earlier he later hl => ?_⟩
  rw [List.mem_singleton.1 hl]
  exact ⟨h.present earlier he, fun heviction => h.blocked (hi heviction) earlier he⟩

theorem UnderWay.concat (h : UnderWay p phase past) (hi : i.request.isEviction → phase = .evicting)
    (hpresent : ¬ i.ShowsGone p) (hblocked : next = .evicting → phase = .evicting ∧ i.Blocks p)
    (haccepted : next = .confirming → phase = .confirming ∨ i.Accepts p) :
    UnderWay p next (past ++ [i]) where
  orderly := h.concat_orderly hi
  present j hj := by
    rcases List.mem_append.1 hj with hj | hj
    · exact h.present j hj
    · exact List.mem_singleton.1 hj ▸ hpresent
  blocked hnext j hj := by
    obtain ⟨hphase, hi⟩ := hblocked hnext
    rcases List.mem_append.1 hj with hj | hj
    · exact h.blocked hphase j hj
    · exact List.mem_singleton.1 hj ▸ hi
  accepted hnext := by
    rcases haccepted hnext with hphase | hi
    · obtain ⟨j, hj, haccepts⟩ := h.accepted hphase
      exact ⟨j, List.mem_append_left _ hj, haccepts⟩
    · exact ⟨i, List.mem_append_right _ List.mem_cons_self, hi⟩

/-- A turn keeps the order of the inquiries about its pod. If the removal waits it is under way in
the phase in which it goes on, and if it has ended well the pod has been seen to be gone. -/
theorem Removal.Outcome.orderly {plan : RemovalPlan} {now : Instant} {state : RemovalState}
    (h : Outcome plan p now phase talk state) (hpast : UnderWay p phase past) :
    (past ++ talk).Pairwise (Inquiry.MayPrecede p) ∧
      (state = .removed → Departed p (past ++ talk)) ∧
      ∀ next, state = .waits next → UnderWay p next (past ++ talk) := by
  -- an accepted eviction is followed by a look in the same turn, so what is past grows meanwhile
  induction h generalizing past with
  | gone hgone =>
    refine ⟨hpast.concat_orderly nofun, fun _ => ?_, nofun⟩
    exact ⟨past, _, rfl, hpast.accepted rfl, rfl, Pod.isGoneBy_iff.1 hgone⟩
  | present hpresent _ =>
    refine ⟨hpast.concat_orderly nofun, nofun, fun next hnext => ?_⟩
    cases hnext
    refine hpast.concat nofun (fun hgone => ?_) nofun fun _ => .inl rfl
    rw [Pod.isGoneBy_iff.2 hgone.2] at hpresent
    cases hpresent
  | overdue => exact ⟨hpast.concat_orderly nofun, nofun, nofun⟩
  | @accepted answer _ _ hverdict _ ih =>
    have haccepts := EvictionVerdict.ofAnswer_eq_accepted_iff.1 hverdict
    have hmiddle : UnderWay p .confirming
        (past ++ [⟨now, .evictPod p.address plan.graceSeconds, answer⟩]) :=
      hpast.concat (fun _ => rfl) id nofun fun _ => .inr ⟨rfl, haccepts⟩
    have hend := ih hmiddle
    rwa [List.append_assoc] at hend
  | rejected | exhausted => exact ⟨hpast.concat_orderly fun _ => rfl, nofun, nofun⟩
  | blocked hverdict _ =>
    have hblocks := EvictionVerdict.ofAnswer_eq_blocked_iff.1 hverdict
    refine ⟨hpast.concat_orderly fun _ => rfl, nofun, fun next hnext => ?_⟩
    cases hnext
    exact hpast.concat (fun _ => rfl) id (fun _ => ⟨rfl, rfl, hblocks⟩) nofun

end Turns

/-- What was asked in the removal of a pod agrees with how it goes on, and once the removal has
ended without a failure the pod has been seen to be gone. -/
structure Progress.Orderly (p : Pod) (c : Progress) : Prop where
  orderly : c.talk.Pairwise (Inquiry.MayPrecede p)
  underWay : ∀ r, c.next = some r → UnderWay p r.phase c.talk
  departed : c.next = none → (∀ t ∈ c.turns, t.state.failures = []) → Departed p c.talk

theorem Progress.orderly_begin (now : Instant) (p : Pod) : (begin now p).Orderly p where
  orderly := .nil
  underWay r hr := by
    cases hr
    exact underWay_nil p
  departed := nofun

/-- A turn of the pod keeps the order. -/
theorem Progress.Orderly.concat {plan : RemovalPlan} {t : Turn} {own : List Turn}
    (h : Orderly t.removal.pod ⟨own, some t.removal⟩)
    (houtcome : Removal.Outcome plan t.removal.pod t.removal.wake t.removal.phase t.talk t.state) :
    Orderly t.removal.pod (Progress.concat ⟨own, some t.removal⟩ t) := by
  obtain ⟨horderly, hgone, hwaits⟩ := houtcome.orderly (h.underWay _ rfl)
  constructor
  · rwa [talk_concat]
  · intro r hr
    rw [talk_concat]
    cases hstate : t.state with
    | removed | failed _ =>
      rw [Progress.concat, Turn.next, hstate] at hr
      cases hr
    | waits next =>
      rw [Progress.concat, Turn.next, hstate] at hr
      cases hr
      exact hwaits next hstate
  · intro hnext hfailures
    rw [talk_concat]
    cases hstate : t.state with
    | removed => exact hgone hstate
    | failed report =>
      have hnone := hfailures t (List.mem_append_right own List.mem_cons_self)
      rw [hstate] at hnone
      cases hnone
    | waits next =>
      rw [Progress.concat, Turn.next, hstate] at hnext
      cases hnext

/-- After any number of turns of a pool, the inquiries about each of its pods are in order. -/
theorem Pool.Takes.orderly {ω : Type} {api : ApiServer ω} {plan : RemovalPlan}
    {horizon now : Instant} {pods : List Pod} {s later : Session ω} {turns : List Turn}
    {last : Pool} {p : Pod} (h : Takes api plan horizon (start now pods) s turns last later)
    (hnodup : pods.Nodup) (hp : p ∈ pods) : last.Tracks (Progress.Orderly p) p (p.turns turns) := by
  refine h.tracks hnodup hp (fun moment => Progress.orderly_begin moment p) ?_
  intro turns t _ _ htakes hown horderly
  subst hown
  exact horderly.concat (htakes.outcome t (List.mem_append_right _ List.mem_cons_self))

end DriverHandover
