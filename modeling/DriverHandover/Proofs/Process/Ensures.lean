import DriverHandover.Proofs.Process.Guarantees

/-!
# What a process ensures whatever the replies

`p.Ensures allowed post memory past` says of a process that is started with `memory` after the
exchanges of `past`: every call it makes is allowed after what happened before it, and if it ends,
it ends in `post`. There is one condition for each reply, so a guarantee that is shown step by step
holds in all runs. It is the guarantee whose calls are allowed whatever the process keeps.

## Main definitions

* `Process.Ensures` – the guarantee.

## Main statements

* `Process.ensures_bind` – a guarantee of two parts one after the other.
* `Process.Ensures.mono` – a guarantee can be weakened.
* `Process.ensures_iff_guarantees` – what the guarantee has to do with the memory.
* `Process.Ensures.of_runs` – a guarantee holds in every run.
-/

namespace DriverHandover

namespace Process

variable {ρ : Type} {Reply : ρ → Type} {σ α β : Type}
variable {allowed allowed' : List (Exchange Reply) → ρ → Prop} {memory : σ}
variable {past : List (Exchange Reply)}

/-- Every call is allowed after what happened before it, and the process ends in `post` if it ends,
whatever the replies are. -/
def Ensures (allowed : List (Exchange Reply) → ρ → Prop)
    (post : α → σ → List (Exchange Reply) → Prop) :
    Process ρ Reply σ α → σ → List (Exchange Reply) → Prop
  | done result, memory, past => post result memory past
  | halt, _, _ => True
  | read next, memory, past => Ensures allowed post (next memory) memory past
  | write memory next, _, past => Ensures allowed post next memory past
  | call request next, memory, past =>
    allowed past request ∧
      ∀ reply, Ensures allowed post (next reply) memory (past ++ [⟨request, reply⟩])

theorem ensures_iff_guarantees {p : Process ρ Reply σ α}
    {post : α → σ → List (Exchange Reply) → Prop} :
    p.Ensures allowed post memory past ↔ p.Guarantees (fun _ => allowed) post memory past := by
  induction p generalizing memory past with
  | done => rfl
  | halt => rfl
  | read next ih => exact ih memory
  | write memory next ih => exact ih
  | call request next ih =>
    exact and_congr_right fun _ => forall_congr' fun reply => ih reply

section Rules

variable {post post' : α → σ → List (Exchange Reply) → Prop}

theorem ensures_done {a : α} :
    (done a : Process ρ Reply σ α).Ensures allowed post memory past ↔ post a memory past :=
  Iff.rfl

theorem ensures_bind {p : Process ρ Reply σ α} {f : α → Process ρ Reply σ β}
    {post : β → σ → List (Exchange Reply) → Prop} :
    (p >>= f).Ensures allowed post memory past ↔
      p.Ensures allowed (fun a memory past => (f a).Ensures allowed post memory past)
        memory past := by
  simp only [ensures_iff_guarantees, guarantees_bind]

theorem ensures_get {post : σ → σ → List (Exchange Reply) → Prop} :
    (get : Process ρ Reply σ σ).Ensures allowed post memory past ↔ post memory memory past :=
  Iff.rfl

/-- A guarantee can be weakened. -/
theorem Ensures.mono {p : Process ρ Reply σ α} (h : p.Ensures allowed post memory past)
    (hallowed : ∀ past request, allowed past request → allowed' past request)
    (hpost : ∀ a memory past, post a memory past → post' a memory past) :
    p.Ensures allowed' post' memory past :=
  ensures_iff_guarantees.2 ((ensures_iff_guarantees.1 h).mono (fun _ => hallowed) hpost)

/-- The end of a guarantee can be weakened. -/
theorem Ensures.imp {p : Process ρ Reply σ α} (h : p.Ensures allowed post memory past)
    (hpost : ∀ a memory past, post a memory past → post' a memory past) :
    p.Ensures allowed post' memory past :=
  h.mono (fun _ _ hcall => hcall) hpost

/-- What is guaranteed of the calls with the memory is ensured without it. -/
theorem Guarantees.ensures {p : Process ρ Reply σ α}
    {allowed : σ → List (Exchange Reply) → ρ → Prop} (h : p.Guarantees allowed post memory past) :
    p.Ensures (fun past request => ∃ memory, allowed memory past request) post memory past :=
  ensures_iff_guarantees.2
    (h.mono (fun memory _ _ hallowed => ⟨memory, hallowed⟩) fun _ _ _ hpost => hpost)

/-- A guarantee holds in every run: of the calls made, and of the end if there is one. -/
theorem Ensures.of_runs {p : Process ρ Reply σ α} {history : List (Exchange Reply)}
    {result : Option α} {after : σ} (h : p.Ensures allowed post memory past)
    (hrun : p.Runs memory history result after) :
    (∀ before e rest, history = before ++ e :: rest → allowed (past ++ before) e.1) ∧
      ∀ a, result = some a → post a after (past ++ history) := by
  induction hrun generalizing past with
  | done result memory =>
    refine ⟨fun before e rest hsplit => ?_, fun a ha => ?_⟩
    · simp at hsplit
    · cases ha
      rw [List.append_nil]
      exact h
  | stop p memory =>
    refine ⟨fun before e rest hsplit => ?_, fun a ha => ?_⟩
    · simp at hsplit
    · cases ha
  | read _ ih => exact ih h
  | write _ ih => exact ih h
  | call reply _ ih =>
    obtain ⟨hcalls, hend⟩ := ih (h.2 reply)
    -- the first call is allowed by itself, the others by what the rest of the tree ensures
    rw [List.append_cons]
    refine ⟨fun before e rest hsplit => ?_, hend⟩
    cases before with
    | nil =>
      cases hsplit
      rw [List.append_nil]
      exact h.1
    | cons first before =>
      cases hsplit
      rw [List.append_cons]
      exact hcalls before e rest rfl

end Rules

end Process

end DriverHandover
