import DriverHandover.Proofs.Process.Runs

/-!
# Where a process stands in an environment

In one environment a process is forced: it makes some calls, gets the replies of the environment,
and what is left of it then is another process. If a part of the process was given from outside, as
a parameter, and is what is left in the end, then it is run exactly once and nothing comes after it.

## Main definitions

* `Process.LeadsTo` – what is left of a process after some of its calls.
* `Process.RepliesAlways` – an environment that cuts no process off.

## Main statements

* `Process.LeadsTo.bind` – a part of a process leads where it would lead alone.
* `Process.LeadsTo.run_eq`, `Process.LeadsTo.history_eq` – what is left decides how the run ends.
* `Process.leadsTo_of_run` – a run that comes to a result leads there.
* `Process.LeadsTo.step`, `Process.LeadsTo.fails` – parts that may fail, one after the other.
-/

namespace DriverHandover

namespace Process

variable {ρ : Type} {Reply : ρ → Type} {σ α β ω : Type}

/-- `p.LeadsTo handle memory env past rest after later`: started with `memory` in the environment
`env`, the process makes the calls of `past` and gets the replies in it. Then `rest` is left of it,
it keeps `after`, and the environment is `later`. -/
inductive LeadsTo (handle : Handler ρ Reply ω) : Process ρ Reply σ α → σ → ω →
    List (Exchange Reply) → Process ρ Reply σ α → σ → ω → Prop where
  | here (p : Process ρ Reply σ α) (memory : σ) (env : ω) :
      LeadsTo handle p memory env [] p memory env
  | read {next : σ → Process ρ Reply σ α} {rest : Process ρ Reply σ α} {memory after : σ}
      {env later : ω} {past : List (Exchange Reply)} :
      LeadsTo handle (next memory) memory env past rest after later →
        LeadsTo handle (.read next) memory env past rest after later
  | write {next rest : Process ρ Reply σ α} {before memory after : σ} {env later : ω}
      {past : List (Exchange Reply)} :
      LeadsTo handle next memory env past rest after later →
        LeadsTo handle (.write memory next) before env past rest after later
  | call {request : ρ} {next : Reply request → Process ρ Reply σ α} {rest : Process ρ Reply σ α}
      {memory after : σ} {env between later : ω} {past : List (Exchange Reply)}
      {reply : Reply request} :
      handle request env = (some reply, between) →
        LeadsTo handle (next reply) memory between past rest after later →
        LeadsTo handle (.call request next) memory env (⟨request, reply⟩ :: past) rest after later

/-- The environment replies to every call. -/
def RepliesAlways (handle : Handler ρ Reply ω) : Prop :=
  ∀ request env, (handle request env).1.isSome

variable {handle : Handler ρ Reply ω} {p q rest : Process ρ Reply σ α} {memory between after : σ}
variable {env mid later : ω} {past past' : List (Exchange Reply)}

theorem LeadsTo.trans (h : LeadsTo handle p memory env past q between mid)
    (h' : LeadsTo handle q between mid past' rest after later) :
    LeadsTo handle p memory env (past ++ past') rest after later := by
  induction h with
  | here => exact h'
  | read _ ih => exact .read (ih h')
  | write _ ih => exact .write (ih h')
  | call hreply _ ih => exact .call hreply (ih h')

theorem leadsTo_ask {request : ρ} {reply : Reply request}
    (hreply : handle request env = (some reply, later)) :
    LeadsTo handle (ask request) memory env [⟨request, reply⟩] (pure reply) memory later :=
  .call hreply (.here _ _ _)

theorem RepliesAlways.exists_reply (h : RepliesAlways handle) (request : ρ) (env : ω) :
    ∃ reply later, handle request env = (some reply, later) := by
  obtain ⟨reply, hreply⟩ := Option.isSome_iff_exists.1 (h request env)
  exact ⟨reply, (handle request env).2, Prod.ext hreply rfl⟩

/-- A part of a process leads where it would lead alone. -/
theorem LeadsTo.bind (h : LeadsTo handle p memory env past rest after later)
    (f : α → Process ρ Reply σ β) :
    LeadsTo handle (p >>= f) memory env past (rest >>= f) after later := by
  change LeadsTo handle (p.bind f) memory env past (rest.bind f) after later
  induction h with
  | here => exact .here _ _ _
  | read _ ih => exact .read ih
  | write _ ih => exact .write ih
  | call hreply _ ih => exact .call hreply ih

/-- How a run ends is decided by what is left of it. -/
theorem LeadsTo.run_eq (h : LeadsTo handle p memory env past rest after later) :
    p.run handle memory env = rest.run handle after later := by
  induction h with
  | here => rfl
  | read _ ih => exact ih
  | write _ ih => exact ih
  | call hreply _ ih =>
    rw [run, hreply]
    exact ih

theorem LeadsTo.history_eq (h : LeadsTo handle p memory env past rest after later) :
    p.history handle memory env = past ++ rest.history handle after later := by
  induction h with
  | here => rfl
  | read _ ih => exact ih
  | write _ ih => exact ih
  | call hreply _ ih =>
    rw [history, hreply]
    exact congrArg (_ :: ·) ih

@[simp]
theorem history_pure (a : α) (memory : σ) (env : ω) :
    (pure a : Process ρ Reply σ α).history handle memory env = [] := rfl

/-- A run that comes to a result leads there. -/
theorem leadsTo_of_run {a : α} (h : (p.run handle memory env).1 = some a) :
    LeadsTo handle p memory env (p.history handle memory env) (pure a)
      (p.run handle memory env).2.1 (p.run handle memory env).2.2 := by
  induction p generalizing memory env with
  | done result =>
    cases h
    exact .here _ _ _
  | halt => cases h
  | read next ih => exact .read (ih memory h)
  | write stored next ih => exact .write (ih h)
  | call request next ih =>
    rw [run] at h ⊢
    rw [history]
    cases hreply : handle request env with
    | mk reply between =>
      rw [hreply] at h
      cases reply with
      | some reply => exact .call hreply (ih reply h)
      | none => cases h

/-- Applying a function to the result changes the result alone. -/
theorem run_map (f : α → β) (p : Process ρ Reply σ α) (memory : σ) (env : ω) :
    (f <$> p).run handle memory env =
      ((p.run handle memory env).1.map f, (p.run handle memory env).2) := by
  change (p.bind fun a => done (f a)).run handle memory env = _
  induction p generalizing memory env with
  | done result => rfl
  | halt => rfl
  | read next ih => exact ih memory memory env
  | write stored next ih => exact ih stored env
  | call request next ih =>
    rw [bind, run, run]
    cases handle request env with
    | mk reply env =>
      cases reply with
      | some reply => exact ih reply memory env
      | none => rfl

section Steps

variable {ε : Type} {x : ExceptT ε (Process ρ Reply σ) α}

/-- After a part that comes to a result the next part is left. -/
theorem LeadsTo.step {a : α} (h : LeadsTo handle x.run memory env past (pure (.ok a)) after later)
    (f : α → ExceptT ε (Process ρ Reply σ) β) :
    LeadsTo handle (x >>= f).run memory env past (f a).run after later :=
  h.bind _

/-- A part that fails ends the process. -/
theorem LeadsTo.fails {e : ε}
    (h : LeadsTo handle x.run memory env past (pure (.error e)) after later)
    (f : α → ExceptT ε (Process ρ Reply σ) β) :
    LeadsTo handle (x >>= f).run memory env past (pure (.error e)) after later :=
  h.bind _

/-- A part that cannot fail. -/
theorem LeadsTo.lift {a : α} (h : LeadsTo handle p memory env past (pure a) after later) :
    LeadsTo handle (liftM p : ExceptT ε (Process ρ Reply σ) α).run memory env past (pure (.ok a))
      after later :=
  h.bind _

end Steps

end Process

end DriverHandover
