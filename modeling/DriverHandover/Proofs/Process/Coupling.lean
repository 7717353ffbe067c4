import DriverHandover.Proofs.Process.Ends
import DriverHandover.Proofs.Process.Guarantees

/-!
# Two runs side by side

Some calls are free: two runs may get different replies to them, while all other calls have the same
replies in both. A process does not depend on its free calls if two runs of it still make the same
calls and come to the same result. They are compared call by call, and may keep different things
meanwhile.

## Main definitions

* `Process.SameReplies` – two histories differ in the replies of free calls only.
* `Process.Coupled` – two processes make the same calls, whatever the replies to free calls are.

## Main statements

* `Process.coupled_bind` – two parts one after the other.
* `Process.Guarantees.coupled` – a process without free calls is coupled with itself.
* `Process.Coupled.ends` – coupled processes make the same calls and come to related results.
-/

namespace DriverHandover

namespace Process

variable {ρ : Type} {Reply : ρ → Type} {σ α β : Type}

/-- As long as two histories make the same calls, the calls have the same replies, but for those
that are free. Whether a call is free depends on the calls before it. -/
def SameReplies (free : List ρ → ρ → Prop) :
    List ρ → List (Exchange Reply) → List (Exchange Reply) → Prop
  | calls, e :: rest, e' :: rest' =>
    e.1 = e'.1 → (¬free calls e.1 → e = e') ∧ SameReplies free (calls ++ [e.1]) rest rest'
  | _, _, _ => True

/-- Started with what they keep and after the same calls, two processes make the same calls, as long
as the calls that are not free have the same replies in both, and end in `post` if they end. -/
inductive Coupled (free : List ρ → ρ → Prop) (post : α → σ → α → σ → List ρ → Prop) :
    Process ρ Reply σ α → σ → Process ρ Reply σ α → σ → List ρ → Prop where
  | done {a a' : α} {memory memory' : σ} {calls : List ρ} :
      post a memory a' memory' calls → Coupled free post (.done a) memory (.done a') memory' calls
  | halt {memory memory' : σ} {calls : List ρ} : Coupled free post .halt memory .halt memory' calls
  | readLeft {next : σ → Process ρ Reply σ α} {p' : Process ρ Reply σ α} {memory memory' : σ}
      {calls : List ρ} :
      Coupled free post (next memory) memory p' memory' calls →
        Coupled free post (.read next) memory p' memory' calls
  | readRight {next : σ → Process ρ Reply σ α} {p : Process ρ Reply σ α} {memory memory' : σ}
      {calls : List ρ} :
      Coupled free post p memory (next memory') memory' calls →
        Coupled free post p memory (.read next) memory' calls
  | writeLeft {next p' : Process ρ Reply σ α} {before memory memory' : σ} {calls : List ρ} :
      Coupled free post next memory p' memory' calls →
        Coupled free post (.write memory next) before p' memory' calls
  | writeRight {next p : Process ρ Reply σ α} {before memory memory' : σ} {calls : List ρ} :
      Coupled free post p memory next memory' calls →
        Coupled free post p memory (.write memory' next) before calls
  | call {request : ρ} {next next' : Reply request → Process ρ Reply σ α} {memory memory' : σ}
      {calls : List ρ} :
      (∀ reply reply', (¬free calls request → reply = reply') →
        Coupled free post (next reply) memory (next' reply') memory' (calls ++ [request])) →
        Coupled free post (.call request next) memory (.call request next') memory' calls

variable {free : List ρ → ρ → Prop} {memory memory' : σ} {calls : List ρ}

/-- Histories that begin with the same calls and replies differ only in what comes after that. -/
theorem sameReplies_append {shared rest rest' : List (Exchange Reply)}
    (h : SameReplies free (calls ++ shared.map (·.1)) rest rest') :
    SameReplies free calls (shared ++ rest) (shared ++ rest') := by
  induction shared generalizing calls with
  | nil =>
    rw [List.map_nil, List.append_nil] at h
    exact h
  | cons e shared ih =>
    refine fun _ => ⟨fun _ => rfl, ih ?_⟩
    rw [List.append_assoc]
    exact h

theorem coupled_bind {p p' : Process ρ Reply σ β} {f f' : β → Process ρ Reply σ α}
    {mid : β → σ → β → σ → List ρ → Prop} {post : α → σ → α → σ → List ρ → Prop}
    (hp : Coupled free mid p memory p' memory' calls)
    (hnext : ∀ b memory b' memory' calls, mid b memory b' memory' calls →
      Coupled free post (f b) memory (f' b') memory' calls) :
    Coupled free post (p >>= f) memory (p' >>= f') memory' calls := by
  change Coupled free post (p.bind f) memory (p'.bind f') memory' calls
  induction hp with
  | done h => exact hnext _ _ _ _ _ h
  | halt => exact .halt
  | readLeft _ ih => exact .readLeft ih
  | readRight _ ih => exact .readRight ih
  | writeLeft _ ih => exact .writeLeft ih
  | writeRight _ ih => exact .writeRight ih
  | call _ ih => exact .call fun reply reply' h => ih reply reply' h

/-- A process that makes no free calls does the same in both runs. -/
theorem Guarantees.coupled {p : Process ρ Reply σ α} {past : List (Exchange Reply)}
    {post : α → σ → List (Exchange Reply) → Prop}
    (h : p.Guarantees (fun _ past call => ¬free (past.map (·.1)) call) post memory past) :
    Coupled free
      (fun a memory a' memory' calls => a = a' ∧ memory = memory' ∧
        ∃ past, calls = past.map (·.1) ∧ post a memory past)
      p memory p memory (past.map (·.1)) := by
  induction p generalizing memory past with
  | done result => exact .done ⟨rfl, rfl, past, rfl, h⟩
  | halt => exact .halt
  | read next ih => exact .readLeft (.readRight (ih memory h))
  | write stored next ih => exact .writeLeft (.writeRight (ih h))
  | call request next ih =>
    refine .call fun reply reply' heq => ?_
    cases heq h.1
    have hnext := ih reply (h.2 reply)
    rw [List.map_append] at hnext
    exact hnext

/-- Complete runs of coupled processes make the same calls and come to related results, if they come
to results. -/
theorem Coupled.ends {p p' : Process ρ Reply σ α} {post : α → σ → α → σ → List ρ → Prop}
    (h : Coupled free post p memory p' memory' calls) {history history' : List (Exchange Reply)}
    {result result' : Option α} {after after' : σ} (hends : p.Ends memory history result after)
    (hends' : p'.Ends memory' history' result' after')
    (hsame : SameReplies free calls history history') :
    history.map (·.1) = history'.map (·.1) ∧
      (result = none ∧ result' = none ∨
        ∃ a a', result = some a ∧ result' = some a' ∧
          post a after a' after' (calls ++ history.map (·.1))) := by
  induction h generalizing history history' with
  | done hpost =>
    cases hends
    cases hends'
    refine ⟨rfl, .inr ⟨_, _, rfl, rfl, ?_⟩⟩
    rw [List.map_nil, List.append_nil]
    exact hpost
  | halt =>
    cases hends
    cases hends'
    exact ⟨rfl, .inl ⟨rfl, rfl⟩⟩
  | readLeft _ ih =>
    cases hends with
    | read hends => exact ih hends hends' hsame
  | readRight _ ih =>
    cases hends' with
    | read hends' => exact ih hends hends' hsame
  | writeLeft _ ih =>
    cases hends with
    | write hends => exact ih hends hends' hsame
  | writeRight _ ih =>
    cases hends' with
    | write hends' => exact ih hends hends' hsame
  | @call request next next' _ _ calls _ ih =>
    cases hends with
    | call reply hends =>
      cases hends' with
      | call reply' hends' =>
        -- both runs make this call, so the replies agree unless it is free
        obtain ⟨hreply, hrest⟩ := hsame rfl
        have heq : ¬free calls request → reply = reply' := by
          intro hforced
          cases hreply hforced
          rfl
        obtain ⟨hcalls, hresults⟩ := ih reply reply' heq hends hends' hrest
        refine ⟨congrArg (request :: ·) hcalls, ?_⟩
        rw [List.map_cons, List.append_cons]
        exact hresults

end Process

end DriverHandover
