import DriverHandover.Cluster.Session

/-!
# The requests of a session

What is done in a session only adds to the requests made before. A session that goes on with a class
of requests is told by the requests it adds, whether the step ends well, fails or is abandoned.

## Main definitions

* `Session.GoesOn` – a session goes on with requests of a class.
* `Session.Makes` – what is done in any session makes requests of a class only.
* `Session.evicted` – the pods whose eviction was asked for.

## Main statements

* `Session.makes_bind` – two parts one after the other.
* `Session.bind_apply`, `Session.require_apply` – the ends of a step that may fail.
-/

namespace DriverHandover.Session

variable {ω α β : Type} {api : ApiServer ω} {calls calls' : ApiRequest → Prop}
variable {s later latest : Session ω}

/-- The session goes on with requests of a class. -/
def GoesOn (calls : ApiRequest → Prop) (s later : Session ω) : Prop :=
  ∃ new, later.exchanges = new ++ s.exchanges ∧ ∀ e ∈ new, calls e.request

theorem GoesOn.of_eq (h : later.exchanges = s.exchanges) : GoesOn calls s later :=
  ⟨[], h, List.forall_mem_nil _⟩

theorem GoesOn.trans (h : GoesOn calls s later) (h' : GoesOn calls later latest) :
    GoesOn calls s latest := by
  obtain ⟨new, heq, hnew⟩ := h
  obtain ⟨new', heq', hnew'⟩ := h'
  refine ⟨new' ++ new, by rw [heq', heq, List.append_assoc], fun e he => ?_⟩
  rcases List.mem_append.1 he with he | he
  · exact hnew' e he
  · exact hnew e he

theorem GoesOn.mono (h : GoesOn calls s later)
    (hcalls : ∀ request, calls request → calls' request) : GoesOn calls' s later := by
  obtain ⟨new, heq, hnew⟩ := h
  exact ⟨new, heq, fun e he => hcalls e.request (hnew e he)⟩

theorem ask_goesOn {request : ApiRequest} (h : calls request) (s : Session ω) :
    GoesOn calls s (ask api request s).2 := by
  refine ⟨[⟨s.now, request, failureOf (ask api request s).1⟩], rfl, fun e he => ?_⟩
  rw [List.mem_singleton.1 he]
  exact h

/-- Whatever the session, requests of a class are made only. -/
def Makes (calls : ApiRequest → Prop) (m : StateM (Session ω) α) : Prop :=
  ∀ s, GoesOn calls s (m s).2

theorem makes_pure (a : α) : Makes calls (pure a : StateM (Session ω) α) :=
  fun _ => .of_eq rfl

theorem makes_get : Makes calls (get : StateM (Session ω) (Session ω)) :=
  fun _ => .of_eq rfl

theorem makes_ask {request : ApiRequest} (h : calls request) : Makes calls (ask api request) :=
  ask_goesOn h

theorem bind_goesOn {m : StateM (Session ω) β} {next : β → StateM (Session ω) α}
    (hnext : ∀ b, Makes calls (next b)) (s : Session ω) :
    GoesOn calls (m s).2 ((m >>= next) s).2 :=
  hnext (m s).1 (m s).2

theorem makes_bind {m : StateM (Session ω) β} {next : β → StateM (Session ω) α}
    (hm : Makes calls m) (hnext : ∀ b, Makes calls (next b)) : Makes calls (m >>= next) :=
  fun s => (hm s).trans (bind_goesOn hnext s)

/-- The addresses of the pods whose eviction was asked for. -/
def evicted (s : Session ω) : List PodAddress :=
  s.exchanges.filterMap fun e =>
    match e.request with
    | .evictPod address _ => some address
    | _ => none

theorem mem_evicted {address : PodAddress} :
    address ∈ s.evicted ↔ ∃ e ∈ s.exchanges, ∃ grace, e.request = .evictPod address grace := by
  rw [evicted, List.mem_filterMap]
  refine exists_congr fun e => and_congr_right fun _ => ?_
  cases e.request <;> simp

theorem GoesOn.evicted_subset (h : GoesOn calls s later) : s.evicted ⊆ later.evicted := by
  obtain ⟨new, heq, -⟩ := h
  intro address hmem
  obtain ⟨e, he, hrequest⟩ := mem_evicted.1 hmem
  exact mem_evicted.2 ⟨e, heq ▸ List.mem_append_right new he, hrequest⟩

/-- Of two steps the second is made only if the first one succeeds. -/
theorem bind_apply (step : ClusterStep ω β) (next : β → ClusterStep ω α) (s : Session ω) :
    (step >>= next) s =
      match step s with
      | (some (.ok b), later) => next b later
      | (some (.error report), later) => (some (.error report), later)
      | (none, later) => (none, later) := by
  simp only [bind, ExceptT.bind, ExceptT.mk, OptionT.bind, OptionT.mk, StateT.bind]
  rcases step s with ⟨_ | _ | _, later⟩ <;> rfl

theorem bind_pure_snd (step : ClusterStep ω β) (a : α) (s : Session ω) :
    ((step >>= fun _ => pure a) s).2 = (step s).2 := by
  rw [bind_apply]
  rcases step s with ⟨_ | _ | _, later⟩ <;> rfl

theorem run_apply (step : ClusterStep ω α) (limit : Duration) (s : Session ω) :
    run step limit s = step { s with horizon := s.now.after limit, exchanges := [] } :=
  rfl

theorem lift_apply (m : StateM (Session ω) α) (s : Session ω) :
    (liftM m : ClusterStep ω α) s = (some (.ok (m s).1), (m s).2) :=
  rfl

theorem require_apply (error : ClusterError) (request : ApiRequest) (s : Session ω) :
    require api error request s =
      match ask api request s with
      | (.ok answer, later) => (some (.ok answer), later)
      | (.error e, later) => (some (.error (Report.because error e)), later) := by
  rw [require, bind_apply, lift_apply]
  rcases ask api request s with ⟨_ | _, later⟩ <;> rfl

/-- Putting an error on top of a report makes no request. -/
theorem adapt_snd (f : Report ClusterError → Report ClusterError) (step : ClusterStep ω α)
    (s : Session ω) : (ExceptT.adapt f step s).2 = (step s).2 := by
  show (ExceptT.mk (Except.mapError f <$> step) s).2 = (step s).2
  simp only [ExceptT.mk, Functor.map, OptionT.bind, OptionT.mk, bind, StateT.bind]
  rcases step s with ⟨_ | _ | _, later⟩ <;> rfl

theorem adapt_fst (f : Report ClusterError → Report ClusterError) (step : ClusterStep ω α)
    (s : Session ω) : (ExceptT.adapt f step s).1 = (step s).1.map (Except.mapError f) := by
  show (ExceptT.mk (Except.mapError f <$> step) s).1 = _
  simp only [ExceptT.mk, Functor.map, OptionT.bind, OptionT.mk, bind, StateT.bind]
  rcases step s with ⟨_ | _ | _, later⟩ <;> rfl

theorem adapt_ok_iff {f : Report ClusterError → Report ClusterError} {step : ClusterStep ω α}
    {a : α} : (ExceptT.adapt f step s).1 = some (.ok a) ↔ (step s).1 = some (.ok a) := by
  rw [adapt_fst]
  rcases (step s).1 with _ | _ | b
  · exact iff_of_false nofun nofun
  · exact iff_of_false nofun nofun
  · exact Iff.rfl

theorem bind_pure_of_ok {step : ClusterStep ω β} {b : β} (h : (step s).1 = some (.ok b)) (a : α) :
    ((step >>= fun _ => pure a) s).1 = some (.ok a) := by
  rw [bind_apply]
  rcases hstep : step s with ⟨_ | _ | _, later⟩ <;> rw [hstep] at h <;> cases h
  rfl

theorem ok_of_bind_pure {step : ClusterStep ω β} {a b : α}
    (h : ((step >>= fun _ => pure a) s).1 = some (.ok b)) : ∃ c, (step s).1 = some (.ok c) := by
  rw [bind_apply] at h
  rcases hstep : step s with ⟨_ | _ | c, later⟩ <;> rw [hstep] at h <;> cases h
  exact ⟨c, rfl⟩

end DriverHandover.Session
