import DriverHandover.Proofs.Process.Runs

/-!
# Processes that agree until they make certain calls

Two processes may be the same tree except below calls of a class, and for what these calls ask. As
long as no such call is made, what the one does the other does as well.

## Main definitions

* `Process.AgreeUntil` – two processes agree until they make a call of a class.

## Main statements

* `Process.agreeUntil_bind` – two parts one after the other.
* `Process.AgreeUntil.runs` – a run without such calls is a run of both processes.
-/

namespace DriverHandover

namespace Process

variable {ρ : Type} {Reply : ρ → Type} {σ α β : Type}

/-- Two processes do the same until they make calls of a class. What they ask with these calls, and
all that comes after that, may differ. -/
inductive AgreeUntil (apart : ρ → Prop) : Process ρ Reply σ α → Process ρ Reply σ α → Prop where
  | done (result : α) : AgreeUntil apart (.done result) (.done result)
  | halt : AgreeUntil apart .halt .halt
  | read {next next' : σ → Process ρ Reply σ α} :
      (∀ memory, AgreeUntil apart (next memory) (next' memory)) →
        AgreeUntil apart (.read next) (.read next')
  | write (memory : σ) {next next' : Process ρ Reply σ α} :
      AgreeUntil apart next next' → AgreeUntil apart (.write memory next) (.write memory next')
  | call {request : ρ} {next next' : Reply request → Process ρ Reply σ α} :
      (∀ reply, AgreeUntil apart (next reply) (next' reply)) →
        AgreeUntil apart (.call request next) (.call request next')
  | part {request request' : ρ} (next : Reply request → Process ρ Reply σ α)
      (next' : Reply request' → Process ρ Reply σ α) :
      apart request → apart request' → AgreeUntil apart (.call request next) (.call request' next')

variable {apart : ρ → Prop} {memory after : σ} {history : List (Exchange Reply)}

theorem AgreeUntil.refl (p : Process ρ Reply σ α) : AgreeUntil apart p p := by
  induction p with
  | done result => exact .done result
  | halt => exact .halt
  | read _ ih => exact .read ih
  | write memory _ ih => exact .write memory ih
  | call _ _ ih => exact .call ih

theorem agreeUntil_bind {p p' : Process ρ Reply σ β} {f f' : β → Process ρ Reply σ α}
    (hp : AgreeUntil apart p p') (hnext : ∀ b, AgreeUntil apart (f b) (f' b)) :
    AgreeUntil apart (p >>= f) (p' >>= f') := by
  change AgreeUntil apart (p.bind f) (p'.bind f')
  induction hp with
  | done b => exact hnext b
  | halt => exact .halt
  | read _ ih => exact .read ih
  | write memory _ ih => exact .write memory ih
  | call _ ih => exact .call ih
  | part _ _ h h' => exact .part _ _ h h'

/-- A run in which no call of the class is made is a run of both processes. -/
theorem AgreeUntil.runs {p p' : Process ρ Reply σ α} {result : Option α}
    (h : AgreeUntil apart p p') (hrun : p.Runs memory history result after)
    (hhistory : ∀ e ∈ history, ¬apart e.1) : p'.Runs memory history result after := by
  induction hrun generalizing p' with
  | done result memory =>
    cases h
    exact .done result memory
  | stop p memory => exact .stop p' memory
  | read _ ih =>
    cases h with
    | read hnext => exact .read (ih (hnext _) hhistory)
  | write _ ih =>
    cases h with
    | write _ hnext => exact .write (ih hnext hhistory)
  | call reply _ ih =>
    obtain ⟨hcall, hrest⟩ := List.forall_mem_cons.1 hhistory
    cases h with
    | call hnext => exact .call reply (ih (hnext reply) hrest)
    | part _ _ hapart => exact absurd hapart hcall

end Process

end DriverHandover
