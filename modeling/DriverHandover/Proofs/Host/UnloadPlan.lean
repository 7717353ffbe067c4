import DriverHandover.Host.Unload

/-!
# When the driver modules may be unloaded

The base module is held once by each loaded dependent, so more references than dependents are a sign
of use, and so is any reference to a dependent. The exception for virtual GPUs is asked for wherever
a base module with two references has fewer dependents than that. The manager of virtual GPUs is one
of them there, so it is the only one.

## Main definitions

* `Unheld`, `HeldByVgpuManager` – the two situations in which nothing is in use.
* `FirstInUse` – the first dependent that is referenced.

## Main statements

* `planUnload_accepts_iff` – a plan is made exactly in those two situations.
* `planUnload_refusal` – what a refusal says.
* `unload_plan_exact` – the whole plan for modules with different names.
-/

namespace DriverHandover

/-- The base module has no more references than dependents, and these have none. -/
def Unheld (base : Nat) (others : List LoadedModule) : Prop :=
  base ≤ others.length ∧ ∀ m ∈ others, m.refcount = 0

/-- The base module has two references, and its only dependent is the module of virtual GPUs,
however often that is referenced. -/
def HeldByVgpuManager (base : Nat) (others : List LoadedModule) : Prop :=
  base = 2 ∧ ∃ refcount, others = [⟨vgpuModule, refcount⟩]

/-- A module is referenced, and those before it in a list are not. -/
def FirstInUse (others : List LoadedModule) (busy : LoadedModule) : Prop :=
  busy.refcount ≠ 0 ∧
    ∃ idle rest, others = idle ++ busy :: rest ∧ ∀ m ∈ idle, m.refcount = 0

variable {loaded others : List LoadedModule} {m busy : LoadedModule} {names : List String}
variable {refusal : UnloadRefusal}

theorem mem_dependents : m ∈ dependents loaded ↔ m ∈ loaded ∧ m.name ≠ baseModule := by
  simp [dependents]

/-- Of modules with different names no other one is taken for the base module. -/
theorem baseRefcount_eq_of_mem (hnames : (loaded.map (·.name)).Nodup) (hm : m ∈ loaded)
    (hbase : m.name = baseModule) : baseRefcount loaded = m.refcount := by
  induction loaded with
  | nil => cases hm
  | cons first rest ih =>
    obtain ⟨hfirst, hrest⟩ := List.nodup_cons.1 hnames
    rcases List.mem_cons.1 hm with rfl | hm
    · simp [baseRefcount, hbase]
    · have hother : first.name ≠ baseModule := by
        intro heq
        exact hfirst (List.mem_map.2 ⟨m, hm, hbase.trans heq.symm⟩)
      have hskip : baseRefcount (first :: rest) = baseRefcount rest := by
        simp [baseRefcount, hother]
      exact hskip.trans (ih hrest hm)

theorem baseRefcount_eq_zero (h : baseModule ∉ loaded.map (·.name)) :
    baseRefcount loaded = 0 := by
  have hnone : loaded.find? (·.name == baseModule) = none := by
    rw [List.find?_eq_none]
    intro m hm hname
    exact h (List.mem_map.2 ⟨m, hm, eq_of_beq hname⟩)
  rw [baseRefcount, hnone]
  rfl

/-- Among fewer than two dependents the module of virtual GPUs is alone. -/
theorem any_vgpu_iff (hfew : others.length < 2) :
    others.any (·.name == vgpuModule) ↔ ∃ refcount, others = [⟨vgpuModule, refcount⟩] := by
  match others, hfew with
  | [], _ => simp
  | [⟨name, refcount⟩], _ => simp

theorem exists_ok_ite_iff {ε α : Type} {choice : Prop} [Decidable choice] {e : ε} {a : α} :
    (∃ b, (if choice then .ok a else .error e : Except ε α) = .ok b) ↔ choice := by
  by_cases h : choice <;> simp [h]

theorem firstInUse_of_find? (h : others.find? (·.refcount != 0) = some busy) :
    FirstInUse others busy := by
  obtain ⟨hbusy, idle, rest, hsplit, hidle⟩ := List.find?_eq_some_iff_append.1 h
  exact ⟨by simpa using hbusy, idle, rest, hsplit, by simpa using hidle⟩

/-- A plan names all loaded modules, in the order they have. -/
theorem planUnload_names (h : planUnload loaded = .ok names) :
    names = loaded.map (·.name) := by
  rw [planUnload] at h
  split at h
  next =>
    split at h <;> cases h
    rfl
  next =>
    split at h <;> cases h
    rfl

/-- A plan is made if nothing is in use, and with the manager of virtual GPUs alone. -/
theorem planUnload_accepts_iff :
    (∃ names, planUnload loaded = .ok names) ↔
      Unheld (baseRefcount loaded) (dependents loaded) ∨
        HeldByVgpuManager (baseRefcount loaded) (dependents loaded) := by
  rw [planUnload, Unheld, HeldByVgpuManager]
  generalize baseRefcount loaded = base
  generalize dependents loaded = others
  by_cases hmore : others.length < base
  · rw [if_pos hmore]
    have hheld : ¬ (base ≤ others.length ∧ ∀ m ∈ others, m.refcount = 0) :=
      fun h => Nat.not_le_of_lt hmore h.1
    rw [or_iff_right hheld, exists_ok_ite_iff]
    exact and_congr_right fun htwo => any_vgpu_iff (htwo ▸ hmore)
  · rw [if_neg hmore]
    have halone : ¬ (base = 2 ∧ ∃ refcount, others = [⟨vgpuModule, refcount⟩]) := by
      rintro ⟨rfl, refcount, rfl⟩
      exact hmore (Nat.lt_succ_self 1)
    rw [or_iff_left halone, and_iff_right (Nat.le_of_not_lt hmore)]
    cases hfind : others.find? (·.refcount != 0) with
    | none => simpa [List.find?_eq_none] using hfind
    | some busy =>
      have hmem := List.mem_of_find?_eq_some hfind
      have hbusy : busy.refcount ≠ 0 := by simpa using List.find?_some hfind
      exact iff_of_false (by simp) fun hall => hbusy (hall busy hmem)

/-- A refusal blames the base module wherever that has more references than dependents, and else
the first dependent that is referenced. -/
theorem planUnload_refusal (h : planUnload loaded = .error refusal) :
    ((dependents loaded).length < baseRefcount loaded →
        refusal = .baseInUse (baseRefcount loaded) (dependents loaded).length) ∧
      (baseRefcount loaded ≤ (dependents loaded).length → ∃ busy,
        FirstInUse (dependents loaded) busy ∧
          refusal = .dependentInUse busy.name busy.refcount) := by
  rw [planUnload] at h
  split at h
  next hmore =>
    refine ⟨fun _ => ?_, fun hfew => absurd hmore (Nat.not_lt_of_le hfew)⟩
    split at h <;> cases h
    rfl
  next hfew =>
    refine ⟨fun hmore => absurd hmore hfew, fun _ => ?_⟩
    split at h <;> cases h
    next busy hfind => exact ⟨busy, firstInUse_of_find? hfind, rfl⟩

/-- For loaded modules with different names: the modules may be unloaded exactly if the base module
has no more references than there are dependents and these have none, or if it has two and its only
dependent is the module of virtual GPUs. Then all of them are named in the order they have. A
refusal is about the base module exactly if that has more references than dependents, and tells
both numbers; any other one is about the first dependent that is referenced. -/
theorem unload_plan_exact (hnames : (loaded.map (·.name)).Nodup) :
    let base := baseRefcount loaded
    let others := dependents loaded
    -- the two numbers that matter
    (∀ m ∈ loaded, m.name = baseModule → base = m.refcount) ∧
      (baseModule ∉ loaded.map (·.name) → base = 0) ∧
      (∀ m, m ∈ others ↔ m ∈ loaded ∧ m.name ≠ baseModule) ∧
    -- the plan
    ((∃ names, planUnload loaded = .ok names) ↔
        Unheld base others ∨ HeldByVgpuManager base others) ∧
      (∀ names, planUnload loaded = .ok names → names = loaded.map (·.name)) ∧
      ∀ refusal, planUnload loaded = .error refusal →
        (refusal = .baseInUse base others.length ↔ others.length < base) ∧
          (¬ others.length < base → ∃ busy,
            FirstInUse others busy ∧ refusal = .dependentInUse busy.name busy.refcount) := by
  intro base others
  refine ⟨fun m hm hbase => baseRefcount_eq_of_mem hnames hm hbase, baseRefcount_eq_zero,
    fun m => mem_dependents, planUnload_accepts_iff, fun names => planUnload_names,
    fun refusal hrefusal => ?_⟩
  obtain ⟨hbase, hdependent⟩ := planUnload_refusal hrefusal
  refine ⟨⟨fun heq => ?_, hbase⟩, fun hfew => hdependent (Nat.le_of_not_lt hfew)⟩
  refine Decidable.byContradiction fun hfew => ?_
  obtain ⟨busy, -, hother⟩ := hdependent (Nat.le_of_not_lt hfew)
  cases heq.symm.trans hother

/-- With the manager of virtual GPUs alone two references to the base module are no sign of use, but
three are. -/
theorem vgpu_host_unloaded :
    let loaded (refcount : Nat) : List LoadedModule :=
      [⟨"nvidia_vgpu_vfio", 7⟩, ⟨"nvidia", refcount⟩]
    (∀ refcount, ((loaded refcount).map (·.name)).Nodup) ∧
      planUnload (loaded 2) = .ok ["nvidia_vgpu_vfio", "nvidia"] ∧
      planUnload (loaded 3) = .error (.baseInUse 3 1) := by
  intro loaded
  have hnames : ∀ refcount, ((loaded refcount).map (·.name)).Nodup := by
    intro refcount
    show ["nvidia_vgpu_vfio", "nvidia"].Nodup
    decide
  obtain ⟨-, -, -, haccepts, hlisted, -⟩ := unload_plan_exact (hnames 2)
  obtain ⟨names, hplan⟩ := haccepts.2 (.inr ⟨rfl, 7, rfl⟩)
  have hall : names = ["nvidia_vgpu_vfio", "nvidia"] := hlisted names hplan
  refine ⟨hnames, hall ▸ hplan, ?_⟩
  obtain ⟨-, -, -, -, -, hrefused⟩ := unload_plan_exact (hnames 3)
  cases hthree : planUnload (loaded 3) with
  | ok names => cases hthree
  | error refusal => exact congrArg Except.error ((hrefused refusal hthree).1.2 (by decide))

end DriverHandover
