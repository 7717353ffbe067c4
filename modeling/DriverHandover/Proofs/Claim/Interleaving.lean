import DriverHandover.Claim.Feed
import DriverHandover.Proofs.Claim.Narration

/-!
# The tasks of the claim cache side by side

The feed, the event loop and the one who waits for the first listing run side by side, and anyone
may cancel the two tasks at any moment. Here every order of their steps is possible: a change may
stay in the queue for as long as it likes, the queue may be full, a watch may be lost between any
two events, and a cancelled task may still go on for a while. Nothing is assumed of the events of a
watch.

A feed that runs against a service is one such order.

## Main definitions

* `ClaimLoop.Step` – what can happen to the event loop.
* `ClaimTasks` – the feed, the event loop, and the one who waits for the first listing.
* `ClaimTasks.Step`, `ClaimTasks.Runs` – one step of any of them, and any number of steps.
* `sent`, `received` – the changes that went into the queue, and those that were taken out.

## Main statements

* `FeedRun.runs_start` – a feed that has started has made such steps.
-/

namespace DriverHandover

/-- The most changes that can wait in the queue. -/
def queueCapacity : Nat := 256

/-- What can happen to the event loop. -/
inductive LoopAction where
  | send (change : ClaimChange)
  | receive (change : ClaimChange)
  | close
  | cancel
  /-- The task ends. -/
  | finish

namespace ClaimLoop

/-- What can happen to the event loop, and how. A cancelled task may take a change from the queue
before it notices. -/
inductive Step : ClaimLoop → LoopAction → ClaimLoop → Prop where
  | send {l next : ClaimLoop} {change : ClaimChange} :
      l.queue.length < queueCapacity → l.send? change = some next → Step l (.send change) next
  | receive {l : ClaimLoop} {change : ClaimChange} {rest : List ClaimChange} :
      l.running = true → l.queue = change :: rest →
        Step l (.receive change) { l with cache := l.cache.apply change, queue := rest }
  | close (l : ClaimLoop) : Step l .close l.close
  | cancel (l : ClaimLoop) : Step l .cancel l.cancel
  | finish {l : ClaimLoop} :
      l.running = true → l.cancelled = true ∨ l.closed = true ∧ l.queue = [] →
        Step l .finish l.stop

/-- The event loop has nothing left to do, but still runs. -/
structure Idle (l : ClaimLoop) : Prop where
  running : l.running = true
  closed : l.closed = false
  cancelled : l.cancelled = false
  queue : l.queue = []

/-- The event loop after it has applied changes. -/
def applied (l : ClaimLoop) (changes : List ClaimChange) : ClaimLoop :=
  { l with cache := l.cache.applyAll changes }

variable {l : ClaimLoop}

theorem Idle.applied (h : Idle l) (changes : List ClaimChange) :
    Idle (applied l changes) :=
  ⟨h.running, h.closed, h.cancelled, h.queue⟩

/-- A change that is sent to an idle event loop is received at once. -/
theorem send_idle (h : Idle l) (change : ClaimChange) :
    l.Step (.send change) { l with queue := [change] } ∧
      Step { l with queue := [change] } (.receive change) (applied l [change]) := by
  obtain ⟨cache, queue, closed, cancelled, running⟩ := l
  obtain ⟨hrunning, hclosed, hcancelled, hqueue⟩ := h
  subst hrunning hclosed hcancelled hqueue
  have hroom : 0 < queueCapacity := by decide
  exact ⟨.send hroom rfl, .receive rfl rfl⟩

end ClaimLoop

/-- What the feed is doing. -/
inductive FeedActivity where
  /-- No watch is open. -/
  | pausing
  | watching
  /-- Some of the changes of an event have not been sent yet; `listing` tells whether the event is a
  listing. -/
  | sending (changes : List ClaimChange) (listing : Bool)
  | ended

/-- How it stands with the one who started the tasks. -/
inductive StartCall where
  | waiting
  | returned
  | gaveUp
  deriving DecidableEq

/-- The tasks of the claim cache. -/
structure ClaimTasks where
  known : KnownClaims
  /-- Whether the news that the first listing is in has been sent. -/
  told : Bool
  feed : FeedActivity
  loop : ClaimLoop
  call : StartCall

/-- A step of one of the tasks. -/
inductive TaskAction where
  | openWatch
  | loseWatch
  /-- An event arrives and is told as changes. -/
  | observe (event : WatchEvent) (changes : List ClaimChange)
  /-- The feed awaits the next event. -/
  | resume
  | endFeed
  | loop (action : LoopAction)
  | returns
  | giveUp

namespace ClaimTasks

/-- The tasks when they have just been started. -/
def start : ClaimTasks := ⟨.empty, false, .pausing, .start, .waiting⟩

/-- One step of one of the tasks. -/
inductive Step : ClaimTasks → TaskAction → ClaimTasks → Prop where
  | openWatch {t : ClaimTasks} :
      t.feed = .pausing → Step t .openWatch { t with feed := .watching }
  | loseWatch {t : ClaimTasks} :
      t.feed = .watching → Step t .loseWatch { t with feed := .pausing }
  | observe {t : ClaimTasks} {event : WatchEvent} {changes : List ClaimChange}
      {after : KnownClaims} :
      t.feed = .watching → Tells t.known event changes after →
        Step t (.observe event changes)
          { t with known := after, feed := .sending changes (ClaimFeed.isListing event) }
  | send {t : ClaimTasks} {change : ClaimChange} {rest : List ClaimChange} {listing : Bool}
      {loop : ClaimLoop} :
      t.feed = .sending (change :: rest) listing → t.loop.Step (.send change) loop →
        Step t (.loop (.send change)) { t with feed := .sending rest listing, loop }
  | announce {t : ClaimTasks} {loop : ClaimLoop} :
      t.feed = .sending [] true → t.told = false → t.loop.Step (.send .synced) loop →
        Step t (.loop (.send .synced)) { t with told := true, feed := .watching, loop }
  | resume {t : ClaimTasks} {listing : Bool} :
      t.feed = .sending [] listing → (listing = true → t.told = true) →
        Step t .resume { t with feed := .watching }
  /-- The feed ends when it is cancelled or finds that nobody receives what it sends, wherever it is
  then. Nobody else sends, so the queue is closed. -/
  | endFeed {t : ClaimTasks} :
      t.loop.cancelled = true ∨ t.loop.running = false →
        Step t .endFeed { t with feed := .ended, loop := t.loop.close }
  | receive {t : ClaimTasks} {change : ClaimChange} {loop : ClaimLoop} :
      t.loop.Step (.receive change) loop → Step t (.loop (.receive change)) { t with loop }
  | finish {t : ClaimTasks} {loop : ClaimLoop} :
      t.loop.Step .finish loop → Step t (.loop .finish) { t with loop }
  | cancel {t : ClaimTasks} : Step t (.loop .cancel) { t with loop := t.loop.cancel }
  | returns {t : ClaimTasks} :
      t.call = .waiting → t.loop.cache.synced = true → Step t .returns { t with call := .returned }
  | giveUp {t : ClaimTasks} :
      t.call = .waiting → Step t .giveUp { t with call := .gaveUp, loop := t.loop.cancel }

/-- Any number of steps, in order. -/
inductive Runs (s : ClaimTasks) : List TaskAction → ClaimTasks → Prop where
  | refl : Runs s [] s
  | concat {trace : List TaskAction} {t u : ClaimTasks} {action : TaskAction} :
      Runs s trace t → Step t action u → Runs s (trace ++ [action]) u

variable {s t u : ClaimTasks} {trace later : List TaskAction}

theorem Runs.one {action : TaskAction} (h : Step s action t) : Runs s [action] t :=
  Runs.refl.concat h

theorem Runs.trans (h : Runs s trace t) (h' : Runs t later u) : Runs s (trace ++ later) u := by
  induction h' with
  | refl => rwa [List.append_nil]
  | concat _ hstep ih =>
    rw [← List.append_assoc]
    exact ih.concat hstep

end ClaimTasks

/-- The changes that an event was told as. -/
def TaskAction.changes : TaskAction → List ClaimChange
  | .observe _ changes => changes
  | _ => []

/-- The changes that went into the queue. -/
def sent (trace : List TaskAction) : List ClaimChange :=
  trace.filterMap fun
    | .loop (.send change) => some change
    | _ => none

/-- The changes that were taken out of the queue. -/
def received (trace : List TaskAction) : List ClaimChange :=
  trace.filterMap fun
    | .loop (.receive change) => some change
    | _ => none

namespace FeedRun

open ClaimTasks (Runs)

/-- The tasks of a feed that runs against a service. -/
def tasks (r : FeedRun) (feed : FeedActivity) (call : StartCall) : ClaimTasks :=
  ⟨r.feed.known, r.feed.told, feed, r.loop, call⟩

/-- What a feed that runs against a service is doing when nothing is left to do. -/
def activity (r : FeedRun) : FeedActivity :=
  match r.phase with
  | .watching => .watching
  | .pausing _ => .pausing
  | .ended => .ended

variable {r : FeedRun} {l : ClaimLoop} {event : WatchEvent} {service : ClaimService}
variable {call : StartCall}

/-- The changes of an event are sent to an idle event loop, which applies them. -/
theorem runs_send {known : KnownClaims} {told listing : Bool} (hidle : l.Idle)
    (changes : List ClaimChange) :
    ∃ trace, Runs ⟨known, told, .sending changes listing, l, call⟩ trace
      ⟨known, told, .sending [] listing, l.applied changes, call⟩ := by
  induction changes generalizing l with
  | nil => exact ⟨[], .refl⟩
  | cons change rest ih =>
    obtain ⟨hsend, hreceive⟩ := ClaimLoop.send_idle hidle change
    obtain ⟨trace, hrest⟩ := ih (hidle.applied [change])
    exact ⟨_, ((Runs.one (.send rfl hsend)).concat (.receive hreceive)).trans hrest⟩

theorem observe_feed_first {feed : ClaimFeed} (hlisting : ClaimFeed.isListing event = true)
    (htold : feed.told = false) :
    feed.observe event =
      ((feed.known.observe event).1 ++ [.synced], ⟨(feed.known.observe event).2, true⟩) := by
  simp [ClaimFeed.observe, hlisting, htold]

theorem observe_feed_later {feed : ClaimFeed}
    (h : ClaimFeed.isListing event = true → feed.told = true) :
    feed.observe event =
      ((feed.known.observe event).1, ⟨(feed.known.observe event).2, feed.told⟩) := by
  have hlater : ¬(ClaimFeed.isListing event = true ∧ ¬feed.told = true) := fun hfirst =>
    hfirst.2 (h hfirst.1)
  simp only [ClaimFeed.observe, if_neg hlater]

theorem observe_loop (hidle : r.loop.Idle) (event : WatchEvent) :
    (r.observe event).feed = (r.feed.observe event).2 ∧
      (r.observe event).loop = r.loop.applied (r.feed.observe event).1 := by
  obtain ⟨service, feed, ⟨cache, queue, closed, cancelled, running⟩, phase, now⟩ := r
  obtain ⟨hrunning, hclosed, hcancelled, hqueue⟩ := hidle
  dsimp only at hrunning hclosed hcancelled hqueue
  subst hrunning hclosed hcancelled hqueue
  exact ⟨rfl, rfl⟩

/-- The feed tells an event, and the event loop applies all of its changes. -/
theorem runs_observe (hidle : r.loop.Idle) (call : StartCall) (event : WatchEvent) :
    (r.observe event).loop.Idle ∧
      ∃ trace, Runs (r.tasks .watching call) trace ((r.observe event).tasks .watching call) := by
  obtain ⟨hfeed, hloop⟩ := observe_loop hidle event
  rw [tasks, tasks, hfeed, hloop]
  refine ⟨hidle.applied _, ?_⟩
  have hevent := ClaimTasks.Step.observe (t := r.tasks .watching call) rfl (tells_observe _ event)
  obtain ⟨trace, hsend⟩ := runs_send hidle (r.feed.known.observe event).1
  have hsent := (Runs.one hevent).trans hsend
  by_cases hfirst : ClaimFeed.isListing event = true ∧ r.feed.told = false
  · -- the news that the listing is in goes last
    obtain ⟨hlisting, htold⟩ := hfirst
    obtain ⟨hannounce, hreceive⟩ :=
      ClaimLoop.send_idle (hidle.applied (r.feed.known.observe event).1) .synced
    rw [observe_feed_first hlisting htold, ClaimLoop.applied, ClaimCache.applyAll,
      List.foldl_append]
    rw [hlisting] at hsent
    exact ⟨_, (hsent.concat (.announce rfl htold hannounce)).concat (.receive hreceive)⟩
  · have htold : ClaimFeed.isListing event = true → r.feed.told = true := fun hlisting =>
      Bool.of_not_eq_false fun htold => hfirst ⟨hlisting, htold⟩
    rw [observe_feed_later htold]
    exact ⟨_, hsent.concat (.resume rfl htold)⟩

theorem runs_openWatch (r : FeedRun) (call : StartCall) :
    ∃ trace, Runs (r.tasks .watching call) trace (r.openWatch.tasks r.openWatch.activity call) := by
  rw [openWatch]
  split
  · exact ⟨[], .refl⟩
  · exact ⟨_, .one (.loseWatch rfl)⟩

theorem openWatch_loop (r : FeedRun) : r.openWatch.loop = r.loop := by
  rw [openWatch]
  split
  · rfl
  · rfl

/-- The feed lists all claims and opens a watch, or fails and pauses. -/
theorem runs_list (hidle : r.loop.Idle) (call : StartCall) :
    r.list.loop.Idle ∧
      ∃ trace, Runs (r.tasks .pausing call) trace (r.list.tasks r.list.activity call) := by
  have hopen : ClaimTasks.Step (r.tasks .pausing call) .openWatch (r.tasks .watching call) :=
    .openWatch rfl
  rw [list]
  split
  · exact ⟨hidle, [], .refl⟩
  · dsimp only
    split
    · exact ⟨hidle, [], .refl⟩
    · rename_i claims _
      obtain ⟨hidle', trace, hobserve⟩ := runs_observe
        (r := { r with service := { r.service with lists := r.service.lists + 1 } }) hidle call
        (.listed claims)
      obtain ⟨trace', hwatch⟩ := runs_openWatch
        ({ r with service := { r.service with lists := r.service.lists + 1 } }.observe
          (.listed claims)) call
      rw [openWatch_loop]
      exact ⟨hidle', _, ((Runs.one hopen).trans hobserve).trans hwatch⟩

theorem runs_awaitSync {deadline : Instant} {fuel : Nat} {r' : FeedRun} {call : StartCall}
    (h : awaitSync deadline fuel r = some r') (hidle : r.loop.Idle) :
    r'.loop.cache.synced = true ∧
      ∃ trace, Runs (r.tasks r.activity call) trace (r'.tasks r'.activity call) := by
  induction fuel generalizing r with
  | zero => cases h
  | succ fuel ih =>
    rw [awaitSync] at h
    split at h
    · rename_i hsynced
      cases h
      exact ⟨hsynced, [], .refl⟩
    · split at h
      · rename_i wake hphase
        split at h
        · obtain ⟨hidle', trace, hlist⟩ := runs_list (r := { r with now := wake }) hidle call
          obtain ⟨hsynced, trace', hrest⟩ := ih h hidle'
          have hpausing : r.activity = .pausing := by rw [activity, hphase]
          rw [hpausing]
          exact ⟨hsynced, _, hlist.trans hrest⟩
        · cases h
      · cases h

/-- A feed that has started on a service has made steps after which the listing is in. -/
theorem runs_start (h : start? service = .ok r) :
    ∃ trace, Runs .start trace (r.tasks r.activity .returned) := by
  rw [start?] at h
  split at h
  · rename_i found hfound
    cases h
    obtain ⟨hidle, trace, hlist⟩ := runs_list (r := ⟨service, .start, .start, .ended, 0⟩)
      ⟨rfl, rfl, rfl, rfl⟩ .waiting
    obtain ⟨hsynced, trace', hawait⟩ := runs_awaitSync hfound hidle
    exact ⟨_, (hlist.trans hawait).concat (.returns rfl hsynced)⟩
  · cases h

end FeedRun

end DriverHandover
