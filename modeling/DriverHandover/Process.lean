/-!
# Processes

A process keeps a memory and calls its environment. It is a tree: each call has one branch for each
reply, so what holds for all branches holds whatever the environment does. A process ends with a
result, or it halts without one; the environment can also cut it off at any call.

## Main definitions

* `Process` – a process, which is a monad.
* `Handler`, `Process.run` – an environment with a state of its own, and running a process in it.
-/

namespace DriverHandover

/-- A process that makes calls of type `ρ`, keeps a memory of type `σ` and returns an `α`. -/
inductive Process (ρ : Type) (Reply : ρ → Type) (σ α : Type) where
  | done (result : α)
  /-- The process gives up and says nothing more. -/
  | halt
  | read (next : σ → Process ρ Reply σ α)
  | write (memory : σ) (next : Process ρ Reply σ α)
  | call (request : ρ) (next : Reply request → Process ρ Reply σ α)

namespace Process

variable {ρ : Type} {Reply : ρ → Type} {σ α β ω : Type}

/-- Goes on with the result of a process. -/
def bind : Process ρ Reply σ α → (α → Process ρ Reply σ β) → Process ρ Reply σ β
  | done result, f => f result
  | halt, _ => halt
  | read next, f => read fun memory => (next memory).bind f
  | write memory next, f => write memory (next.bind f)
  | call request next, f => call request fun reply => (next reply).bind f

instance : Monad (Process ρ Reply σ) where
  pure := done
  bind := bind

/-- Makes a call and returns the reply. -/
def ask (request : ρ) : Process ρ Reply σ (Reply request) :=
  call request done

instance : MonadStateOf σ (Process ρ Reply σ) where
  get := read done
  set memory := write memory (done ⟨⟩)
  modifyGet f := read fun memory => write (f memory).2 (done (f memory).1)

instance : LawfulMonad (Process ρ Reply σ) :=
  LawfulMonad.mk' (Process ρ Reply σ)
    (fun p => by
      induction p with
      | done => rfl
      | halt => rfl
      | read next ih => exact congrArg read (funext fun memory => ih memory)
      | write memory next ih => exact congrArg (write memory) ih
      | call request next ih => exact congrArg (call request) (funext fun reply => ih reply))
    (fun _ _ => rfl)
    (fun p f g => by
      induction p with
      | done => rfl
      | halt => rfl
      | read next ih => exact congrArg read (funext fun memory => ih memory)
      | write memory next ih => exact congrArg (write memory) ih
      | call request next ih => exact congrArg (call request) (funext fun reply => ih reply))

/-- Runs a process with a memory and an environment. The result is `none` if the process halts or
is cut off. -/
def run (handle : (request : ρ) → ω → Option (Reply request) × ω) :
    Process ρ Reply σ α → σ → ω → Option α × σ × ω
  | done result, memory, env => (some result, memory, env)
  | halt, memory, env => (none, memory, env)
  | read next, memory, env => run handle (next memory) memory env
  | write memory next, _, env => run handle next memory env
  | call request next, memory, env =>
    match handle request env with
    | (some reply, env) => run handle (next reply) memory env
    | (none, env) => (none, memory, env)

end Process

/-- An environment with a state of type `ω`: it replies to a call, or cuts the process off. -/
abbrev Handler (ρ : Type) (Reply : ρ → Type) (ω : Type) :=
  (request : ρ) → ω → Option (Reply request) × ω

end DriverHandover
