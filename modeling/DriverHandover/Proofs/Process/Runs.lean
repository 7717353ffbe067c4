import DriverHandover.Process

/-!
# Runs of a process

A run of a process is told by its history: the calls it made, each with the reply it got. A history
may stop between any two calls, so what holds of all runs holds also of a process that dies.

## Main definitions

* `Process.Exchange` – a call with its reply.
* `Process.Runs` – the histories of a process, for all replies.
* `Process.history` – the history of a process in one environment.

## Main statements

* `Process.Runs.cut` – a process may be stopped between any two calls of a run.
* `Process.runs_history` – what happens in an environment is a run.
-/

namespace DriverHandover

namespace Process

variable {ρ : Type} {Reply : ρ → Type} {σ α ω : Type}

/-- A call that was answered. -/
abbrev Exchange (Reply : ρ → Type) :=
  (request : ρ) × Reply request

/-- `p.Runs memory history result after`: started with `memory`, the process makes the calls of
`history` and gets the replies in it, and keeps `after` then. It has ended with a result, or it was
stopped after the last call. -/
inductive Runs : Process ρ Reply σ α → σ → List (Exchange Reply) → Option α → σ → Prop where
  | done (result : α) (memory : σ) : Runs (.done result) memory [] (some result) memory
  | stop (p : Process ρ Reply σ α) (memory : σ) : Runs p memory [] none memory
  | read {next : σ → Process ρ Reply σ α} {memory after : σ} {history : List (Exchange Reply)}
      {result : Option α} :
      Runs (next memory) memory history result after →
        Runs (.read next) memory history result after
  | write {next : Process ρ Reply σ α} {before memory after : σ} {history : List (Exchange Reply)}
      {result : Option α} :
      Runs next memory history result after →
        Runs (.write memory next) before history result after
  | call {request : ρ} {next : Reply request → Process ρ Reply σ α} {memory after : σ}
      {history : List (Exchange Reply)} {result : Option α} (reply : Reply request) :
      Runs (next reply) memory history result after →
        Runs (.call request next) memory (⟨request, reply⟩ :: history) result after

/-- A process may be stopped between any two calls of a run. -/
theorem Runs.cut {p : Process ρ Reply σ α} {memory after : σ} {before rest : List (Exchange Reply)}
    {result : Option α} (h : p.Runs memory (before ++ rest) result after) :
    ∃ stopped, p.Runs memory before none stopped := by
  generalize hhistory : before ++ rest = history at h
  induction h generalizing before with
  | done result memory =>
    obtain ⟨rfl, -⟩ := List.append_eq_nil_iff.1 hhistory
    exact ⟨memory, .stop _ memory⟩
  | stop p memory =>
    obtain ⟨rfl, -⟩ := List.append_eq_nil_iff.1 hhistory
    exact ⟨memory, .stop p memory⟩
  | read _ ih =>
    obtain ⟨stopped, hrun⟩ := ih hhistory
    exact ⟨stopped, .read hrun⟩
  | write _ ih =>
    obtain ⟨stopped, hrun⟩ := ih hhistory
    exact ⟨stopped, .write hrun⟩
  | call reply _ ih =>
    cases before with
    | nil => exact ⟨_, .stop _ _⟩
    | cons first before =>
      cases hhistory
      obtain ⟨stopped, hrun⟩ := ih rfl
      exact ⟨stopped, .call reply hrun⟩

/-- The calls that a process makes in an environment, with their replies. -/
def history (handle : Handler ρ Reply ω) :
    Process ρ Reply σ α → σ → ω → List (Exchange Reply)
  | done _, _, _ => []
  | halt, _, _ => []
  | read next, memory, env => history handle (next memory) memory env
  | write memory next, _, env => history handle next memory env
  | call request next, memory, env =>
    match handle request env with
    | (some reply, env) => ⟨request, reply⟩ :: history handle (next reply) memory env
    | (none, _) => []

/-- What a process does in an environment is one of its runs. -/
theorem runs_history (handle : Handler ρ Reply ω) (p : Process ρ Reply σ α) (memory : σ)
    (env : ω) :
    p.Runs memory (p.history handle memory env) (p.run handle memory env).1
      (p.run handle memory env).2.1 := by
  induction p generalizing memory env with
  | done result => exact .done result memory
  | halt => exact .stop halt memory
  | read next ih => exact .read (ih memory memory env)
  | write stored next ih => exact .write (ih stored env)
  | call request next ih =>
    rw [history, run]
    cases handle request env with
    | mk reply env =>
      cases reply with
      | some reply => exact .call reply (ih reply memory env)
      | none => exact .stop (call request next) memory

end Process

end DriverHandover
