import DriverHandover.Proofs.Process.Runs

/-!
# What a process guarantees, with what it keeps

A process has its memory to itself between two calls. What it keeps shows when it waits for the next
reply or has ended, and a guarantee may speak about it there.

## Main definitions

* `Process.Rests` – what a process keeps whenever it waits or has ended.
* `Process.Guarantees` – the guarantee.

## Main statements

* `Process.guarantees_bind` – a guarantee of two parts one after the other.
* `Process.Guarantees.at_rest` – what all calls and the end have in common holds at every rest.
-/

namespace DriverHandover

namespace Process

variable {ρ : Type} {Reply : ρ → Type} {σ α β : Type}

/-- `p.Rests memory history kept`: started with `memory`, the process makes the calls of `history`
and gets the replies in it, and keeps `kept` when it makes its next call or has ended. -/
inductive Rests : Process ρ Reply σ α → σ → List (Exchange Reply) → σ → Prop where
  | done (result : α) (memory : σ) : Rests (.done result) memory [] memory
  | waits (request : ρ) (next : Reply request → Process ρ Reply σ α) (memory : σ) :
      Rests (.call request next) memory [] memory
  | read {next : σ → Process ρ Reply σ α} {memory kept : σ} {history : List (Exchange Reply)} :
      Rests (next memory) memory history kept → Rests (.read next) memory history kept
  | write {next : Process ρ Reply σ α} {before memory kept : σ} {history : List (Exchange Reply)} :
      Rests next memory history kept → Rests (.write memory next) before history kept
  | call {request : ρ} {next : Reply request → Process ρ Reply σ α} {memory kept : σ}
      {history : List (Exchange Reply)} (reply : Reply request) :
      Rests (next reply) memory history kept →
        Rests (.call request next) memory (⟨request, reply⟩ :: history) kept

/-- A process that has ended is at rest. -/
theorem Runs.rests {p : Process ρ Reply σ α} {memory after : σ} {history : List (Exchange Reply)}
    {result : α} (h : p.Runs memory history (some result) after) :
    p.Rests memory history after := by
  generalize hresult : some result = ended at h
  induction h with
  | done result memory => exact .done result memory
  | stop p memory => cases hresult
  | read _ ih => exact .read (ih hresult)
  | write _ ih => exact .write (ih hresult)
  | call reply _ ih => exact .call reply (ih hresult)

/-- Every call is allowed with what the process keeps then and after what happened before, and the
process ends in `post` if it ends, whatever the replies are. -/
def Guarantees (allowed : σ → List (Exchange Reply) → ρ → Prop)
    (post : α → σ → List (Exchange Reply) → Prop) :
    Process ρ Reply σ α → σ → List (Exchange Reply) → Prop
  | done result, memory, past => post result memory past
  | halt, _, _ => True
  | read next, memory, past => Guarantees allowed post (next memory) memory past
  | write memory next, _, past => Guarantees allowed post next memory past
  | call request next, memory, past =>
    allowed memory past request ∧
      ∀ reply, Guarantees allowed post (next reply) memory (past ++ [⟨request, reply⟩])

variable {allowed allowed' : σ → List (Exchange Reply) → ρ → Prop} {memory : σ}
variable {past : List (Exchange Reply)}

theorem guarantees_done {a : α} {post : α → σ → List (Exchange Reply) → Prop} :
    (done a : Process ρ Reply σ α).Guarantees allowed post memory past ↔ post a memory past :=
  Iff.rfl

theorem guarantees_bind {p : Process ρ Reply σ α} {f : α → Process ρ Reply σ β}
    {post : β → σ → List (Exchange Reply) → Prop} :
    (p >>= f).Guarantees allowed post memory past ↔
      p.Guarantees allowed (fun a memory past => (f a).Guarantees allowed post memory past)
        memory past := by
  change (p.bind f).Guarantees allowed post memory past ↔ _
  induction p generalizing memory past with
  | done => rfl
  | halt => rfl
  | read next ih => exact ih memory
  | write memory next ih => exact ih
  | call request next ih =>
    exact and_congr_right fun _ => forall_congr' fun reply => ih reply

theorem guarantees_get {post : σ → σ → List (Exchange Reply) → Prop} :
    (get : Process ρ Reply σ σ).Guarantees allowed post memory past ↔ post memory memory past :=
  Iff.rfl

variable {p : Process ρ Reply σ α} {post post' : α → σ → List (Exchange Reply) → Prop}

/-- A guarantee can be weakened. -/
theorem Guarantees.mono (h : p.Guarantees allowed post memory past)
    (hallowed : ∀ memory past request, allowed memory past request → allowed' memory past request)
    (hpost : ∀ a memory past, post a memory past → post' a memory past) :
    p.Guarantees allowed' post' memory past := by
  induction p generalizing memory past with
  | done result => exact hpost result memory past h
  | halt => trivial
  | read next ih => exact ih memory h
  | write memory next ih => exact ih h
  | call request next ih =>
    exact ⟨hallowed memory past request h.1, fun reply => ih reply (h.2 reply)⟩

/-- The end of a guarantee can be weakened. -/
theorem Guarantees.imp (h : p.Guarantees allowed post memory past)
    (hpost : ∀ a memory past, post a memory past → post' a memory past) :
    p.Guarantees allowed post' memory past :=
  h.mono (fun _ _ _ hcall => hcall) hpost

/-- What has happened before stays in the history. -/
theorem Guarantees.extends (h : p.Guarantees allowed post memory past) :
    p.Guarantees (fun memory later request => allowed memory later request ∧ past <+: later)
      (fun a memory later => post a memory later ∧ past <+: later) memory past := by
  -- by induction on the process, from any history that begins with that one
  have hall : ∀ later, past <+: later → p.Guarantees allowed post memory later →
      p.Guarantees (fun memory later request => allowed memory later request ∧ past <+: later)
        (fun a memory later => post a memory later ∧ past <+: later) memory later := by
    clear h
    induction p generalizing memory with
    | done result => exact fun _ hlater h => ⟨h, hlater⟩
    | halt => exact fun _ _ _ => trivial
    | read next ih => exact ih memory
    | write memory next ih => exact ih
    | call request next ih =>
      intro later hlater h
      refine ⟨⟨h.1, hlater⟩, fun reply => ih reply _ ?_ (h.2 reply)⟩
      exact hlater.trans (List.prefix_append _ _)
  exact hall past List.prefix_rfl h

/-- Where all calls are allowed and all ends are good, there is nothing to guarantee. -/
theorem guarantees_trivial :
    p.Guarantees (fun _ _ _ => True) (fun _ _ _ => True) memory past := by
  induction p generalizing memory past with
  | done result => trivial
  | halt => trivial
  | read next ih => exact ih memory
  | write memory next ih => exact ih
  | call request next ih => exact ⟨trivial, fun reply => ih reply⟩

/-- What holds at every allowed call and at the end holds whenever the process rests. -/
theorem Guarantees.at_rest {history : List (Exchange Reply)} {kept : σ}
    (h : p.Guarantees allowed post memory past) (holds : σ → List (Exchange Reply) → Prop)
    (hallowed : ∀ memory past request, allowed memory past request → holds memory past)
    (hpost : ∀ a memory past, post a memory past → holds memory past)
    (hrests : p.Rests memory history kept) : holds kept (past ++ history) := by
  induction hrests generalizing past with
  | done result memory =>
    rw [List.append_nil]
    exact hpost result memory past h
  | waits request next memory =>
    rw [List.append_nil]
    exact hallowed memory past request h.1
  | read _ ih => exact ih h
  | write _ ih => exact ih h
  | call reply _ ih =>
    rw [List.append_cons]
    exact ih (h.2 reply)

end Process

end DriverHandover
