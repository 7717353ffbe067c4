import DriverHandover.Proofs.Claim.FirstListing

/-!
# The event loop applies what it is sent

Others send changes to the event loop, close its queue, or cancel it, while it takes changes from
the queue. In whatever order these steps fall, the cache is what the changes taken from the queue
make of an empty one, and these are the first ones that were sent.

## Main definitions

* `ClaimLoop.Runs` – any number of steps of the event loop and of those around it.
* `ClaimLoop.offered`, `ClaimLoop.taken` – what was sent to the event loop, and what it has taken.
* `ClaimLoop.Quiescent` – the event loop has nothing left to do.

## Main statements

* `ClaimLoop.quiescent_iff` – it has nothing left to do exactly if `ClaimLoop.step?` does nothing.
* `ClaimLoop.runs_settle` – `ClaimLoop.settle` is what the event loop comes to by itself.
* `changes_applied_in_order` – what the cache holds after any number of steps.
-/

namespace DriverHandover

namespace ClaimLoop

/-- Any number of steps, in order. How many changes the queue has room for does not matter here, and
who does not know yet that the event loop has ended may still send to it, in vain. -/
inductive Runs (l : ClaimLoop) : List LoopAction → ClaimLoop → Prop where
  | refl : Runs l [] l
  | concat {trace : List LoopAction} {m next : ClaimLoop} {action : LoopAction} :
      Runs l trace m → m.Step action next → Runs l (trace ++ [action]) next
  | send {trace : List LoopAction} {m : ClaimLoop} (change : ClaimChange) :
      Runs l trace m → m.closed = false →
        Runs l (trace ++ [.send change]) ((m.send? change).getD m)

/-- The changes that were sent to the event loop, those sent in vain included. -/
def offered (trace : List LoopAction) : List ClaimChange :=
  sent (trace.map .loop)

/-- The changes that the event loop has taken from its queue. -/
def taken (trace : List LoopAction) : List ClaimChange :=
  received (trace.map .loop)

/-- Whether a step is one of the event loop itself. -/
def Own : LoopAction → Prop
  | .receive _ | .finish => True
  | _ => False

/-- The event loop can make no step. -/
def Quiescent (l : ClaimLoop) : Prop :=
  ∀ action next, l.Step action next → ¬Own action

/-- How an event loop has ended: it was cancelled, or it has taken all that was sent before its
queue was closed. -/
def Ended (l : ClaimLoop) (told heard : List ClaimChange) : Prop :=
  l.running = false → l.cancelled = true ∨ l.closed = true ∧ heard = told

variable {l m next ended : ClaimLoop} {trace later : List LoopAction} {action : LoopAction}
variable {told heard : List ClaimChange}

theorem offered_concat (trace : List LoopAction) (action : LoopAction) :
    offered (trace ++ [action]) = offered trace ++ sent [.loop action] := by
  simp [offered, sent_concat]

theorem taken_concat (trace : List LoopAction) (action : LoopAction) :
    taken (trace ++ [action]) = taken trace ++ received [.loop action] := by
  simp [taken, received_concat]

theorem Runs.one (h : l.Step action next) : l.Runs [action] next :=
  Runs.refl.concat h

theorem Runs.trans (h : l.Runs trace m) (h' : m.Runs later ended) :
    l.Runs (trace ++ later) ended := by
  induction h' with
  | refl => simpa using h
  | concat _ hstep ih =>
    rw [← List.append_assoc]
    exact ih.concat hstep
  | send change _ hclosed ih =>
    rw [← List.append_assoc]
    exact ih.send change hclosed

theorem send?_eq_some (change : ClaimChange) (h : l.send? change = some next) :
    l.running = true ∧ next = { l with queue := l.queue ++ [change] } := by
  rw [send?] at h
  split at h
  · rename_i hopen
    cases h
    exact ⟨hopen.1, rfl⟩
  · cases h

/-- What is sent to an event loop that has ended is lost. -/
theorem send?_of_ended (change : ClaimChange) (hended : l.running = false) :
    l.send? change = none := by
  simp [send?, hended]

theorem send?_of_running (change : ClaimChange) (hrunning : l.running = true)
    (hclosed : l.closed = false) :
    l.send? change = some { l with queue := l.queue ++ [change] } := by
  simp [send?, hrunning, hclosed]

/-- A step of an event loop that has ended leaves the cache alone. -/
theorem Step.of_ended (h : l.Step action next) (hended : l.running = false) :
    next.running = false ∧ next.cache = l.cache := by
  cases h with
  | send _ hsend =>
    have hrunning := (send?_eq_some _ hsend).1
    simp [hended] at hrunning
  | receive hrunning => simp [hended] at hrunning
  | finish hrunning => simp [hended] at hrunning
  | close | cancel => exact ⟨hended, rfl⟩

theorem Runs.of_ended (h : l.Runs trace ended) (hended : l.running = false) :
    ended.running = false ∧ ended.cache = l.cache := by
  induction h with
  | refl => exact ⟨hended, rfl⟩
  | concat _ hstep ih =>
    obtain ⟨hrunning, hcache⟩ := hstep.of_ended ih.1
    exact ⟨hrunning, hcache.trans ih.2⟩
  | send change _ _ ih =>
    rw [send?_of_ended change ih.1]
    exact ih

/-- Once the event loop has ended, nothing is taken, and nothing is sent to a closed queue. -/
theorem Step.keeps_ended (h : l.Step action next) (hl : l.Accounts told heard)
    (hended : Ended l told heard) :
    Ended next (told ++ sent [.loop action]) (heard ++ received [.loop action]) := by
  cases h with
  | send _ hsend =>
    obtain ⟨hrunning, rfl⟩ := send?_eq_some _ hsend
    intro hstopped
    have hstill : l.running = false := hstopped
    simp [hrunning] at hstill
  | receive hrunning =>
    intro hstopped
    have hstill : l.running = false := hstopped
    simp [hrunning] at hstill
  | close =>
    intro hstopped
    refine (hended hstopped).imp_right fun h => ⟨rfl, ?_⟩
    simp [sent, received, h.2]
  | cancel => exact fun _ => .inl rfl
  | finish hrunning hcause =>
    intro _
    rcases hcause with hcancelled | ⟨hclosed, hqueue⟩
    · exact .inl hcancelled
    · -- it was closed and empty, so all that was sent had been taken
      have htold := hl.complete hrunning
      simp [hqueue] at htold
      exact .inr ⟨hclosed, by simp [sent, received, htold]⟩

/-- A change that is sent is queued last, unless the event loop has ended. -/
theorem accounts_send (change : ClaimChange) (hclosed : l.closed = false)
    (hl : l.Accounts told heard) (hended : Ended l told heard) :
    ((l.send? change).getD l).Accounts (told ++ [change]) heard ∧
      Ended ((l.send? change).getD l) (told ++ [change]) heard := by
  obtain ⟨hcache, hqueue, hcomplete⟩ := hl
  by_cases hrunning : l.running = true
  · rw [send?_of_running change hrunning hclosed]
    have htold := hcomplete hrunning
    have hall : told ++ [change] = heard ++ (l.queue ++ [change]) := by
      rw [htold, List.append_assoc]
    refine ⟨⟨hcache, ?_, fun _ => hall⟩, fun hstopped => ?_⟩
    · rw [hall]
      exact List.prefix_rfl
    · have hstill : l.running = false := hstopped
      simp [hrunning] at hstill
  · have hstopped : l.running = false := by simpa using hrunning
    rw [send?_of_ended change hstopped]
    refine ⟨⟨hcache, hqueue.trans (List.prefix_append _ _), fun h => absurd h hrunning⟩, ?_⟩
    intro _
    -- the queue is open, so it was cancelled
    exact (hended hstopped).imp_right fun h => by simp [hclosed] at h

theorem Runs.accounts (h : Runs .start trace l) :
    l.Accounts (offered trace) (taken trace) ∧ Ended l (offered trace) (taken trace) := by
  induction h with
  | refl => exact ⟨⟨rfl, List.prefix_rfl, fun _ => rfl⟩, nofun⟩
  | concat _ hstep ih =>
    rw [offered_concat, taken_concat]
    exact ⟨hstep.accounts ih.1, hstep.keeps_ended ih.1 ih.2⟩
  | send change _ hclosed ih =>
    rw [offered_concat, taken_concat]
    have hsent := accounts_send change hclosed ih.1 ih.2
    simpa [sent, received] using hsent

theorem quiescent_iff : l.Quiescent ↔ l.step? = none := by
  obtain ⟨cache, queue, closed, cancelled, running⟩ := l
  constructor
  · intro h
    have hfinish := fun hrunning hcause => h .finish _ (.finish hrunning hcause) trivial
    cases running with
    | false => rfl
    | true =>
      cases queue with
      | nil => simp_all [step?, receive?]
      | cons change rest => exact absurd trivial (h (.receive change) _ (.receive rfl rfl))
  · intro h action next hstep hown
    cases hstep with
    | receive hrunning hqueue =>
      simp only at hrunning hqueue
      subst hrunning hqueue
      cases cancelled <;> simp [step?, receive?] at h
    | finish hrunning hcause =>
      simp only at hrunning hcause
      subst hrunning
      rcases hcause with rfl | ⟨rfl, rfl⟩
      · simp [step?] at h
      · cases cancelled <;> simp [step?, receive?] at h
    | send | close | cancel => exact hown

/-- The event loop takes what is in its queue, as long as it is not cancelled. -/
theorem runs_receive (hrunning : l.running = true) (changes : List ClaimChange)
    (hqueue : l.queue = changes) :
    l.Runs (changes.map .receive)
      { l with cache := l.cache.applyAll changes, queue := [] } := by
  induction changes generalizing l with
  | nil =>
    obtain ⟨cache, queue, closed, cancelled, running⟩ := l
    cases hqueue
    exact .refl
  | cons change rest ih =>
    have hfirst : l.Step (.receive change) _ := .receive hrunning hqueue
    exact (Runs.one hfirst).trans (ih hrunning rfl)

theorem offered_map_receive (changes : List ClaimChange) :
    offered (changes.map .receive) = [] := by
  simp [offered, sent]

/-- By itself the event loop comes to what `settle` computes, and has nothing left to do then. -/
theorem runs_settle (l : ClaimLoop) :
    l.settle.Quiescent ∧ ∃ trace, l.Runs trace l.settle ∧ offered trace = [] := by
  rw [quiescent_iff, settle]
  by_cases hrunning : l.running = true
  · rw [if_neg (by simpa using hrunning)]
    by_cases hcancelled : l.cancelled = true
    · rw [if_pos hcancelled]
      exact ⟨by simp [step?, stop], [.finish], .one (.finish hrunning (.inl hcancelled)), rfl⟩
    · rw [if_neg hcancelled]
      have hall := runs_receive hrunning l.queue rfl
      by_cases hclosed : l.closed = true
      · rw [if_pos hclosed]
        refine ⟨by simp [step?, stop], _, hall.concat (.finish hrunning (.inr ⟨hclosed, rfl⟩)), ?_⟩
        rw [offered_concat, offered_map_receive]
        rfl
      · rw [if_neg hclosed]
        refine ⟨?_, _, hall, offered_map_receive _⟩
        simp [step?, receive?, hcancelled, hclosed]
  · rw [if_pos (by simpa using hrunning)]
    exact ⟨by simp [step?, hrunning], [], .refl, rfl⟩

/-- An event loop that has nothing left to do and was not cancelled has taken all that was sent. -/
theorem Runs.taken_eq (h : Runs .start trace l) (hquiescent : l.Quiescent)
    (hcancelled : l.cancelled = false) : taken trace = offered trace := by
  obtain ⟨hl, hended⟩ := h.accounts
  by_cases hrunning : l.running = true
  · have hqueue : l.queue = [] := by
      cases hqueue : l.queue with
      | nil => rfl
      | cons change rest => exact absurd trivial (hquiescent _ _ (.receive hrunning hqueue))
    simpa [hqueue] using (hl.complete hrunning).symm
  · simpa [hcancelled] using (hended (by simpa using hrunning)).imp_right And.right

end ClaimLoop

open ClaimLoop

/-- In whatever order changes are sent and taken, the queue is closed and the event loop cancelled,
the cache is what the changes taken so far make of an empty cache, one after the other. These are
the first ones that were sent; they are all of them as soon as the event loop has nothing left to do
and was not cancelled, also if its queue was closed, and by itself it always comes to that. Once it
has ended, the cache does not change any more. -/
theorem changes_applied_in_order {l : ClaimLoop} {trace : List LoopAction}
    (hrun : ClaimLoop.Runs .start trace l) :
    taken trace <+: offered trace ∧
      l.cache = ClaimCache.empty.applyAll (taken trace) ∧
      (l.Quiescent → l.cancelled = false → taken trace = offered trace) ∧
      (l.settle.Quiescent ∧ ∃ later, l.Runs later l.settle ∧ offered later = []) ∧
      (l.running = false → ∀ later ended, l.Runs later ended → ended.cache = l.cache) := by
  obtain ⟨⟨hcache, hqueue, -⟩, -⟩ := hrun.accounts
  refine ⟨(List.prefix_append _ _).trans hqueue, hcache, hrun.taken_eq, l.runs_settle, ?_⟩
  intro hended later ended hlater
  exact (hlater.of_ended hended).2

/-- One claim is sent, the queue is closed, and the event loop ends. -/
def closedAfter (claim : Claim) : List LoopAction :=
  [.send (.added claim), .close, .receive (.added claim), .finish]

/-- Two claims are sent, but the event loop is cancelled after it has taken the first one, and what
is sent after that is lost too. -/
def cancelledBetween (first second : Claim) : List LoopAction :=
  [.send (.added first), .send (.added second), .receive (.added first), .cancel, .finish,
    .send .synced]

theorem changes_applied_before_close_and_cancel :
    (∃ l, ClaimLoop.Runs .start (closedAfter (.gpuFor "a" "pod")) l ∧ l.running = false ∧
      taken (closedAfter (.gpuFor "a" "pod")) = offered (closedAfter (.gpuFor "a" "pod")) ∧
      l.cache.holds "pod" = true) ∧
    ∃ l, ClaimLoop.Runs .start (cancelledBetween (.gpuFor "a" "pod") (.gpuFor "b" "other")) l ∧
      l.cache = ClaimCache.empty.applyAll [.added (.gpuFor "a" "pod")] ∧
      l.cache.holds "other" = false ∧
      ∀ later ended, l.Runs later ended → ended.cache = l.cache := by
  constructor
  · have hsent := ClaimLoop.Runs.refl.send (.added (.gpuFor "a" "pod")) (l := .start) rfl
    have hrun := ((hsent.concat (.close _)).concat (.receive rfl rfl)).concat
      (.finish rfl (.inr ⟨rfl, rfl⟩))
    obtain ⟨-, hcache, hall, -, -⟩ := changes_applied_in_order hrun
    refine ⟨_, hrun, rfl, hall (quiescent_iff.2 rfl) rfl, ?_⟩
    rw [hcache]
    decide +kernel
  · have hfirst := ClaimLoop.Runs.refl.send (.added (.gpuFor "a" "pod")) (l := .start) rfl
    have hboth := hfirst.send (.added (.gpuFor "b" "other")) rfl
    have hended := ((hboth.concat (.receive rfl rfl)).concat (.cancel _)).concat
      (.finish rfl (.inl rfl))
    have hrun := hended.send .synced rfl
    obtain ⟨-, hcache, -, -, hfixed⟩ := changes_applied_in_order hrun
    refine ⟨_, hrun, hcache, ?_, hfixed rfl⟩
    rw [hcache]
    decide +kernel

end DriverHandover
