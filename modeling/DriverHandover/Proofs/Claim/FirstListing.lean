import DriverHandover.Proofs.Claim.Interleaving
import DriverHandover.Proofs.Claim.Translation

/-!
# In sync means that the first listing is in

The feed sends the changes of an event in order, and the news that the first listing is in right
after those of that listing. The queue keeps the order, so the event loop hears the news when it has
applied all that came before it, however the steps of the tasks fall.

## Main definitions

* `due` – what the feed has to send because of the events that arrived.
* `ClaimLoop.Accounts`, `ClaimTasks.Accounts` – what has been sent and received at a moment.
* `FirstListingApplied` – the changes of the first listing are in the cache.

## Main statements

* `ClaimTasks.Runs.accounts` – what has been received was sent first, and what was sent was due.
* `in_sync_after_first_listing` – what it means that the cache is in sync.
-/

namespace DriverHandover

/-- Whether a step is the arrival of a listing. -/
def TaskAction.isListing : TaskAction → Bool
  | .observe event _ => ClaimFeed.isListing event
  | _ => false

/-- What the feed has to send because of the events that arrived: the changes of each, and the news
after those of the first listing, unless it has been told before. -/
def due : Bool → List TaskAction → List ClaimChange
  | _, [] => []
  | told, action :: rest =>
    if action.isListing ∧ ¬told then action.changes ++ .synced :: due true rest
    else action.changes ++ due told rest

variable {trace earlier later : List TaskAction} {action : TaskAction}
variable {changes told heard : List ClaimChange} {l next : ClaimLoop} {t u : ClaimTasks}

theorem due_append (said : Bool) (earlier later : List TaskAction) :
    due said (earlier ++ later) =
      due said earlier ++ due (said || earlier.any TaskAction.isListing) later := by
  induction earlier generalizing said with
  | nil => simp [due]
  | cons action rest ih =>
    rw [List.cons_append, due, due, List.any_cons]
    by_cases hfirst : action.isListing ∧ ¬said
    · rw [if_pos hfirst, if_pos hfirst, ih]
      simp [hfirst.1]
    · rw [if_neg hfirst, if_neg hfirst, ih, List.append_assoc]
      cases said with
      | true => simp
      | false =>
        have hother : action.isListing = false := by simpa using hfirst
        simp [hother]

theorem due_of_told (trace : List TaskAction) :
    due true trace = trace.flatMap TaskAction.changes := by
  induction trace with
  | nil => rfl
  | cons action rest ih => rw [due, if_neg (by simp), ih, List.flatMap_cons]

/-- There is no listing yet, or there is a first one, and its changes with the news come right after
those of the events before it. -/
theorem due_eq (trace : List TaskAction) :
    due false trace = trace.flatMap TaskAction.changes ∨
      ∃ earlier claims changes later,
        trace = earlier ++ .observe (.listed claims) changes :: later ∧
        (∀ action ∈ earlier, action.isListing = false) ∧
        due false trace = earlier.flatMap TaskAction.changes ++ changes ++
          .synced :: later.flatMap TaskAction.changes := by
  induction trace with
  | nil => exact .inl rfl
  | cons action rest ih =>
    cases hlisting : action.isListing with
    | true =>
      obtain ⟨claims, changes, rfl⟩ :
          ∃ claims changes, action = .observe (.listed claims) changes := by
        cases action with
        | observe event changes =>
          cases event with
          | listed claims => exact ⟨claims, changes, rfl⟩
          | applied | deleted => cases hlisting
        | _ => cases hlisting
      refine .inr ⟨[], claims, changes, rest, rfl, List.forall_mem_nil _, ?_⟩
      rw [due, if_pos ⟨hlisting, Bool.false_ne_true⟩, due_of_told]
      rfl
    | false =>
      have hdue : due false (action :: rest) = action.changes ++ due false rest := by
        rw [due, if_neg (by simp [hlisting])]
      rw [hdue]
      rcases ih with hnone | ⟨earlier, claims, changes, later, rfl, hnone, hrest⟩
      · exact .inl (by rw [hnone, List.flatMap_cons])
      · refine .inr ⟨action :: earlier, claims, changes, later, rfl, ?_, ?_⟩
        · exact List.forall_mem_cons.2 ⟨hlisting, hnone⟩
        · rw [hrest, List.flatMap_cons, List.append_assoc, List.append_assoc, List.append_assoc]

theorem sent_concat (trace : List TaskAction) (action : TaskAction) :
    sent (trace ++ [action]) = sent trace ++ sent [action] :=
  List.filterMap_append

theorem received_concat (trace : List TaskAction) (action : TaskAction) :
    received (trace ++ [action]) = received trace ++ received [action] :=
  List.filterMap_append

namespace ClaimCache

theorem synced_applyAll {cache : ClaimCache} :
    (cache.applyAll changes).synced = true ↔ cache.synced = true ∨ .synced ∈ changes := by
  induction changes generalizing cache with
  | nil => simp [applyAll]
  | cons change rest ih =>
    show ((cache.apply change).applyAll rest).synced = true ↔ _
    rw [ih]
    cases change <;> simp [apply, enter, leave]

end ClaimCache

namespace ClaimLoop

/-- What was sent to the event loop and what it has received: it has applied just the latter, and
what it has not received of the former waits in the queue in order, or is lost with it. -/
structure Accounts (l : ClaimLoop) (told heard : List ClaimChange) : Prop where
  cache : l.cache = ClaimCache.empty.applyAll heard
  queue : heard ++ l.queue <+: told
  complete : l.running = true → told = heard ++ l.queue

theorem Step.accounts {action : LoopAction} (hstep : l.Step action next)
    (h : l.Accounts told heard) :
    next.Accounts (told ++ sent [.loop action]) (heard ++ received [.loop action]) := by
  obtain ⟨hcache, hqueue, hcomplete⟩ := h
  cases hstep with
  | send hroom hsend =>
    rename_i change
    rw [send?] at hsend
    split at hsend
    · rename_i hopen
      cases hsend
      have htold := hcomplete hopen.1
      change Accounts _ (told ++ [change]) (heard ++ [])
      rw [List.append_nil, htold, List.append_assoc]
      exact ⟨hcache, List.prefix_rfl, fun _ => rfl⟩
    · cases hsend
  | receive hrunning hhead =>
    rename_i change rest
    change Accounts _ (told ++ []) (heard ++ [change])
    rw [List.append_nil]
    rw [hhead, List.append_cons] at hqueue hcomplete
    refine ⟨?_, hqueue, hcomplete⟩
    rw [hcache, ClaimCache.applyAll, ClaimCache.applyAll, List.foldl_append]
    rfl
  | close | cancel =>
    change Accounts _ (told ++ []) (heard ++ [])
    rw [List.append_nil, List.append_nil]
    exact ⟨hcache, hqueue, hcomplete⟩
  | finish =>
    change Accounts _ (told ++ []) (heard ++ [])
    rw [List.append_nil, List.append_nil]
    refine ⟨hcache, ?_, fun hrunning => by cases hrunning⟩
    change heard ++ [] <+: told
    rw [List.append_nil]
    exact (List.prefix_append heard l.queue).trans hqueue

end ClaimLoop

namespace ClaimTasks

/-- What the feed has sent at a moment: all that is due but for the rest of the event at hand, or
not even that if the feed has ended. -/
def FeedAccounts (trace : List TaskAction) (t : ClaimTasks) : Prop :=
  match t.feed with
  | .pausing | .watching =>
    sent trace = due false trace ∧ trace.any TaskAction.isListing = t.told
  | .sending changes listing =>
    sent trace ++ changes ++ (if listing ∧ ¬t.told then [.synced] else []) = due false trace ∧
      trace.any TaskAction.isListing = (listing || t.told)
  | .ended => sent trace <+: due false trace

/-- What has been sent and received at a moment. -/
structure Accounts (trace : List TaskAction) (t : ClaimTasks) : Prop where
  loop : t.loop.Accounts (sent trace) (received trace)
  feed : FeedAccounts trace t

theorem FeedAccounts.sent_due (h : FeedAccounts trace t) : sent trace <+: due false trace := by
  rw [FeedAccounts] at h
  split at h
  · exact h.1 ▸ List.prefix_rfl
  · exact h.1 ▸ List.prefix_rfl
  · rw [← h.1, List.append_assoc]
    exact List.prefix_append _ _
  · exact h

theorem due_concat (hlisting : action.isListing = false) (hchanges : action.changes = []) :
    due false (trace ++ [action]) = due false trace := by
  simp [due_append, due, hlisting, hchanges]

theorem any_concat (hlisting : action.isListing = false) :
    (trace ++ [action]).any TaskAction.isListing = trace.any TaskAction.isListing := by
  simp [hlisting]

/-- A step that neither brings an event nor sends a change does not show in the accounts. -/
theorem feedAccounts_concat (hsent : sent [action] = []) (hlisting : action.isListing = false)
    (hchanges : action.changes = []) :
    FeedAccounts (trace ++ [action]) u ↔ FeedAccounts trace u := by
  rw [FeedAccounts, FeedAccounts, sent_concat, hsent, List.append_nil,
    due_concat hlisting hchanges, any_concat hlisting]

theorem Step.feedAccounts (hstep : Step t action u) (h : FeedAccounts trace t) :
    FeedAccounts (trace ++ [action]) u := by
  cases hstep with
  | openWatch hfeed | loseWatch hfeed =>
    refine (feedAccounts_concat rfl rfl rfl).2 ?_
    simp only [FeedAccounts, hfeed] at h ⊢
    exact h
  | observe hfeed htells =>
    rename_i event changes after
    simp only [FeedAccounts, hfeed] at h ⊢
    obtain ⟨hsent, hany⟩ := h
    constructor
    · rw [sent_concat, due_append, Bool.false_or, hany, ← hsent]
      split
      · rename_i hfirst
        simp [due, sent, TaskAction.isListing, TaskAction.changes, hfirst]
      · rename_i hother
        rw [due, TaskAction.isListing, if_neg hother]
        simp [due, sent, TaskAction.changes]
    · rw [List.any_append, hany, Bool.or_comm]
      simp [TaskAction.isListing]
  | send hfeed hsend =>
    rename_i change rest listing loop
    simp only [FeedAccounts, hfeed] at h ⊢
    rw [sent_concat, due_concat rfl rfl, any_concat rfl, ← h.1]
    refine ⟨?_, h.2⟩
    simp [sent]
  | announce hfeed htold hsend =>
    simp only [FeedAccounts, hfeed] at h ⊢
    rw [sent_concat, due_concat rfl rfl, any_concat rfl, ← h.1]
    refine ⟨?_, h.2⟩
    simp [sent, htold]
  | resume hfeed hlisting =>
    refine (feedAccounts_concat rfl rfl rfl).2 ?_
    rename_i listing
    simp only [FeedAccounts, hfeed] at h ⊢
    obtain ⟨hsent, hany⟩ := h
    cases listing with
    | false => simpa using And.intro hsent hany
    | true => simpa [hlisting rfl] using And.intro hsent hany
  | endFeed => exact (feedAccounts_concat rfl rfl rfl).2 h.sent_due
  | receive | finish | cancel | returns | giveUp => exact (feedAccounts_concat rfl rfl rfl).2 h

theorem Step.accounts (hstep : Step t action u) (h : Accounts trace t) :
    Accounts (trace ++ [action]) u := by
  refine ⟨?_, hstep.feedAccounts h.feed⟩
  rw [sent_concat, received_concat]
  cases hstep with
  | openWatch | loseWatch | observe | resume | returns =>
    change ClaimLoop.Accounts t.loop (sent trace ++ []) (received trace ++ [])
    rw [List.append_nil, List.append_nil]
    exact h.loop
  | send _ hloop | announce _ _ hloop | receive hloop | finish hloop => exact hloop.accounts h.loop
  | cancel | giveUp => exact (ClaimLoop.Step.cancel t.loop).accounts h.loop
  | endFeed => exact (ClaimLoop.Step.close t.loop).accounts h.loop

/-- What has been received was sent first, and what was sent was due. -/
theorem Runs.accounts (h : Runs start trace t) : Accounts trace t := by
  induction h with
  | refl => exact ⟨⟨rfl, List.prefix_rfl, fun _ => rfl⟩, rfl, rfl⟩
  | concat _ hstep ih => exact hstep.accounts ih

/-- The cache stays in sync. -/
theorem Step.synced (hstep : Step t action u) (h : t.loop.cache.synced = true) :
    u.loop.cache.synced = true := by
  have hloop : ∀ {action next}, t.loop.Step action next → next.cache.synced = true := by
    intro action next hstep
    cases hstep with
    | send hroom hsend =>
      rw [ClaimLoop.send?] at hsend
      split at hsend
      · cases hsend
        exact h
      · cases hsend
    | receive =>
      rename_i change rest _ _
      show (ClaimCache.applyAll _ [change]).synced = true
      rw [ClaimCache.synced_applyAll]
      exact .inl h
    | close | cancel | finish => exact h
  cases hstep with
  | openWatch | loseWatch | observe | resume | returns | cancel | giveUp | endFeed => exact h
  | send _ hstep | announce _ _ hstep | receive hstep | finish hstep => exact hloop hstep

theorem Runs.synced (h : Runs t later u) (hsynced : t.loop.cache.synced = true) :
    u.loop.cache.synced = true := by
  induction h with
  | refl => exact hsynced
  | concat _ hstep ih => exact hstep.synced ih

/-- Only a cache in sync lets the one who waits for it return. -/
theorem Runs.synced_of_returned (h : Runs start trace t) (hreturned : t.call = .returned) :
    t.loop.cache.synced = true := by
  induction h with
  | refl => cases hreturned
  | concat _ hstep ih =>
    refine Step.synced hstep ?_
    cases hstep with
    | returns _ hsynced => exact hsynced
    | giveUp => cases hreturned
    | openWatch | loseWatch | observe | resume | cancel | endFeed | send | announce | receive
    | finish => exact ih hreturned

theorem Runs.synced_not_mem_changes (h : Runs start trace t) :
    ClaimChange.synced ∉ trace.flatMap TaskAction.changes := by
  induction h with
  | refl => exact List.not_mem_nil
  | concat _ hstep ih =>
    rw [List.flatMap_append, List.mem_append, not_or]
    refine ⟨ih, ?_⟩
    cases hstep with
    | observe _ htells => simpa [TaskAction.changes] using Tells.synced_not_mem htells
    | _ => exact List.not_mem_nil

end ClaimTasks

/-- Of the events that have arrived, the first listing is in the cache with all of its changes, and
so are those before it. -/
def FirstListingApplied (trace : List TaskAction) (cache : ClaimCache) : Prop :=
  ∃ earlier claims changes later,
    trace = earlier ++ .observe (.listed claims) changes :: later ∧
    (∀ action ∈ earlier, action.isListing = false) ∧
    earlier.flatMap TaskAction.changes ++ changes <+: received trace ∧
    cache = ClaimCache.empty.applyAll (received trace)

open ClaimTasks (Runs)

theorem firstListingApplied (hrun : Runs .start trace t) (hsynced : t.loop.cache.synced = true) :
    FirstListingApplied trace t.loop.cache := by
  obtain ⟨⟨hcache, hqueue, -⟩, hfeed⟩ := hrun.accounts
  have hheard : received trace <+: due false trace :=
    ((List.prefix_append _ _).trans hqueue).trans hfeed.sent_due
  have hnews : ClaimChange.synced ∈ received trace := by
    rw [hcache, ClaimCache.synced_applyAll] at hsynced
    exact hsynced.resolve_left (by decide)
  have hnone := hrun.synced_not_mem_changes
  rcases due_eq trace with hdue | ⟨earlier, claims, changes, later, rfl, hfirst, hdue⟩
  · exact absurd (hdue ▸ hheard.subset hnews) hnone
  · refine ⟨earlier, claims, changes, later, rfl, hfirst, ?_, hcache⟩
    rw [hdue] at hheard
    -- what has been received goes beyond the changes of the listing, because the news is in it
    rcases List.prefix_or_prefix_of_prefix (List.prefix_append _ _) hheard with hbeyond | hshort
    · exact hbeyond
    · have hmem := hshort.subset hnews
      rw [List.flatMap_append, List.flatMap_cons] at hnone
      refine absurd ?_ hnone
      rw [List.mem_append, List.mem_append, ← or_assoc]
      exact .inl (List.mem_append.1 hmem)

/-- The news that the first listing is in is due once at most. -/
theorem count_synced_due (hrun : Runs .start trace t) :
    (due false trace).count .synced ≤ 1 := by
  have hnone := hrun.synced_not_mem_changes
  rcases due_eq trace with hdue | ⟨earlier, claims, changes, later, rfl, -, hdue⟩
  · rw [hdue, List.count_eq_zero_of_not_mem hnone]
    exact Nat.zero_le 1
  · simp only [List.flatMap_append, List.flatMap_cons, List.mem_append, not_or,
      TaskAction.changes] at hnone
    obtain ⟨hearlier, hchanges, hlater⟩ := hnone
    have hbefore := List.count_eq_zero_of_not_mem hearlier
    have hlisted := List.count_eq_zero_of_not_mem hchanges
    have hafter := List.count_eq_zero_of_not_mem hlater
    rw [hdue, List.count_append, List.count_append, List.count_cons_self]
    omega

/-- Whatever the order in which the tasks make their steps, and wherever watches are lost or the
tasks are cancelled: the news that the first listing is in is sent once at most over all watches, a
cache in sync stays in sync, and when it is in sync, or the one who waits for that has returned, all
changes of the first listing that ever arrived are in the cache. In particular they are when a feed
has started on a service. -/
theorem in_sync_after_first_listing (hrun : Runs .start trace t) :
    (sent trace).count .synced ≤ 1 ∧
      (t.loop.cache.synced = true → ∀ later u, Runs t later u → u.loop.cache.synced = true) ∧
      (t.loop.cache.synced = true ∨ t.call = .returned →
        FirstListingApplied trace t.loop.cache) ∧
      ∀ service r, FeedRun.start? service = .ok r →
        ∃ trace, Runs .start trace (r.tasks r.activity .returned) ∧
          FirstListingApplied trace r.loop.cache := by
  refine ⟨?_, fun hsynced later u hlater => hlater.synced hsynced, fun hin => ?_, ?_⟩
  · have hsent := hrun.accounts.feed.sent_due.sublist.count_le .synced
    exact Nat.le_trans hsent (count_synced_due hrun)
  · exact firstListingApplied hrun (hin.elim id hrun.synced_of_returned)
  · intro service r hstart
    obtain ⟨trace, hstarted⟩ := FeedRun.runs_start hstart
    exact ⟨trace, hstarted, firstListingApplied hstarted (hstarted.synced_of_returned rfl)⟩

/-- A service that refuses the first request for a listing and then lists one claim. -/
def ClaimService.reluctant (uid : String) : ClaimService where
  claims := [(Claim.gpuFor "a" uid).toJson]
  failingLists := 1
  failingWatches := 0
  lists := 0
  watches := 0

theorem in_sync_after_failed_listing :
    ∃ r trace, FeedRun.start? (.reluctant "pod") = .ok r ∧
      Runs .start trace (r.tasks r.activity .returned) ∧
      (sent trace).count .synced ≤ 1 ∧ FirstListingApplied trace r.loop.cache ∧
      r.loop.cache.holds "pod" = true := by
  have hholds : (FeedRun.start? (.reluctant "pod")).toOption.map (·.loop.cache.holds "pod") =
      some true := by
    decide +kernel
  obtain ⟨r, hr, hheld⟩ := Option.map_eq_some_iff.1 hholds
  have hstart : FeedRun.start? (.reluctant "pod") = .ok r := by
    cases hresult : FeedRun.start? (.reluctant "pod") with
    | error e =>
      rw [hresult] at hr
      cases hr
    | ok found =>
      rw [hresult] at hr
      exact congrArg Except.ok (Option.some.inj hr)
  obtain ⟨-, -, -, hstarts⟩ := in_sync_after_first_listing (.refl)
  obtain ⟨trace, hrun, -⟩ := hstarts _ r hstart
  obtain ⟨honce, -, happlied, -⟩ := in_sync_after_first_listing hrun
  exact ⟨r, trace, hstart, hrun, honce, happlied (.inr rfl), hheld⟩

end DriverHandover
