import DriverHandover.Proofs.Process.Runs

/-!
# Complete runs of a process

In a complete run every call is answered, so it goes on until the process ends with a result or
halts. What must come of a process can be said of its complete runs only.

## Main definitions

* `Process.Ends` – the complete runs of a process, for all replies.

## Main statements

* `Process.Ends.bind_cases` – a complete run of two parts one after the other.
* `Process.Ends.runs` – a complete run is a run.
* `Process.Runs.ends` – a run that has come to a result is complete.
* `Process.Runs.completed` – every run is the beginning of a complete one.
-/

namespace DriverHandover

namespace Process

variable {ρ : Type} {Reply : ρ → Type} {σ α β : Type}

/-- `p.Ends memory history result after`: started with `memory`, the process makes the calls of
`history`, gets the replies in it and keeps `after` then. It has ended with a result, or it has
halted. -/
inductive Ends : Process ρ Reply σ α → σ → List (Exchange Reply) → Option α → σ → Prop where
  | done (result : α) (memory : σ) : Ends (.done result) memory [] (some result) memory
  | halt (memory : σ) : Ends .halt memory [] none memory
  | read {next : σ → Process ρ Reply σ α} {memory after : σ} {history : List (Exchange Reply)}
      {result : Option α} :
      Ends (next memory) memory history result after →
        Ends (.read next) memory history result after
  | write {next : Process ρ Reply σ α} {before memory after : σ} {history : List (Exchange Reply)}
      {result : Option α} :
      Ends next memory history result after →
        Ends (.write memory next) before history result after
  | call {request : ρ} {next : Reply request → Process ρ Reply σ α} {memory after : σ}
      {history : List (Exchange Reply)} {result : Option α} (reply : Reply request) :
      Ends (next reply) memory history result after →
        Ends (.call request next) memory (⟨request, reply⟩ :: history) result after

variable {memory after : σ} {history : List (Exchange Reply)}

/-- A complete run is a run. -/
theorem Ends.runs {p : Process ρ Reply σ α} {result : Option α}
    (h : p.Ends memory history result after) : p.Runs memory history result after := by
  induction h with
  | done result memory => exact .done result memory
  | halt memory => exact .stop _ memory
  | read _ ih => exact .read ih
  | write _ ih => exact .write ih
  | call reply _ ih => exact .call reply ih

/-- A run that has come to a result is complete. -/
theorem Runs.ends {p : Process ρ Reply σ α} {result : α}
    (h : p.Runs memory history (some result) after) :
    p.Ends memory history (some result) after := by
  generalize hresult : some result = ended at h
  induction h with
  | done result memory => exact .done result memory
  | stop p memory => cases hresult
  | read _ ih => exact .read (ih hresult)
  | write _ ih => exact .write (ih hresult)
  | call reply _ ih => exact .call reply (ih hresult)

/-- Every process has a complete run, if each call has a reply. -/
theorem exists_ends [∀ request, Nonempty (Reply request)] (p : Process ρ Reply σ α) (memory : σ) :
    ∃ history result after, p.Ends memory history result after := by
  induction p generalizing memory with
  | done result => exact ⟨[], some result, memory, .done result memory⟩
  | halt => exact ⟨[], none, memory, .halt memory⟩
  | read next ih =>
    obtain ⟨history, result, after, hends⟩ := ih memory memory
    exact ⟨history, result, after, .read hends⟩
  | write stored next ih =>
    obtain ⟨history, result, after, hends⟩ := ih stored
    exact ⟨history, result, after, .write hends⟩
  | call request next ih =>
    obtain ⟨reply⟩ : Nonempty (Reply request) := inferInstance
    obtain ⟨history, result, after, hends⟩ := ih reply memory
    exact ⟨⟨request, reply⟩ :: history, result, after, .call reply hends⟩

/-- Every run is the beginning of a complete one, if each call has a reply. -/
theorem Runs.completed [∀ request, Nonempty (Reply request)] {p : Process ρ Reply σ α}
    {result : Option α} (h : p.Runs memory history result after) :
    ∃ rest result' after', p.Ends memory (history ++ rest) result' after' := by
  induction h with
  | done result memory => exact ⟨[], some result, memory, .done result memory⟩
  | stop p memory => exact exists_ends p memory
  | read _ ih =>
    obtain ⟨rest, result, after, hends⟩ := ih
    exact ⟨rest, result, after, .read hends⟩
  | write _ ih =>
    obtain ⟨rest, result, after, hends⟩ := ih
    exact ⟨rest, result, after, .write hends⟩
  | call reply _ ih =>
    obtain ⟨rest, result, after, hends⟩ := ih
    exact ⟨rest, result, after, .call reply hends⟩

/-- In a complete run of two parts the first one comes to a result and the second one is complete,
or the first one halts. -/
theorem Ends.bind_cases {p : Process ρ Reply σ β} {f : β → Process ρ Reply σ α} {result : Option α}
    (h : (p >>= f).Ends memory history result after) :
    (∃ first b between rest, p.Ends memory first (some b) between ∧
      (f b).Ends between rest result after ∧ history = first ++ rest) ∨
      p.Ends memory history none after ∧ result = none := by
  change (p.bind f).Ends memory history result after at h
  induction p generalizing memory history with
  | done b => exact .inl ⟨[], b, memory, history, .done b memory, h, rfl⟩
  | halt =>
    cases h with
    | halt => exact .inr ⟨.halt _, rfl⟩
  | read next ih =>
    cases h with
    | read h =>
      rcases ih memory h with ⟨first, b, between, rest, hfirst, hrest, rfl⟩ | ⟨hnone, rfl⟩
      · exact .inl ⟨first, b, between, rest, .read hfirst, hrest, rfl⟩
      · exact .inr ⟨.read hnone, rfl⟩
  | write stored next ih =>
    cases h with
    | write h =>
      rcases ih h with ⟨first, b, between, rest, hfirst, hrest, rfl⟩ | ⟨hnone, rfl⟩
      · exact .inl ⟨first, b, between, rest, .write hfirst, hrest, rfl⟩
      · exact .inr ⟨.write hnone, rfl⟩
  | call request next ih =>
    cases h with
    | call reply h =>
      rcases ih reply h with ⟨first, b, between, rest, hfirst, hrest, rfl⟩ | ⟨hnone, rfl⟩
      · exact .inl ⟨_, b, between, rest, .call reply hfirst, hrest, rfl⟩
      · exact .inr ⟨.call reply hnone, rfl⟩

end Process

end DriverHandover
