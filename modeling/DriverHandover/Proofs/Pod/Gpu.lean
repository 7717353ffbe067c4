import DriverHandover.Pod.Decoding
import DriverHandover.Pod.Gpu

/-!
# Which pods use a GPU

A pod is told by the names of its resources or, where these say nothing, by looking up whether it
holds a claim for a GPU. The look-up may be costly, so it counts when it is made: once at most, and
only for a pod whose answer depends on it. A pod that asks for more is told no worse.

## Main definitions

* `IsGpuName`, `PodSpec.NamesGpu` – the names of GPUs, and the pods that ask for one by name.
* `Pod.classify`, `Pod.recordedLookUp` – the course of the question, with a record of the look-ups.
* `Pod.AsksWithin` – a pod asks for all that another one asks for.
* `quantities` – a map of resources as it is written.

## Main statements

* `Pod.classify_eq`, `Pod.classify_recorded` – the answer and the look-ups belong to one course.
* `Pod.AsksWithin.usesGpu` – a pod that asks for more still uses a GPU.
* `PodSpec.ofJson?_congr`, `Container.ofJson?_quantities` – what of a pod is not read.
* `gpu_pods_recognised` – which pods use a GPU, and which are looked up.
-/

namespace DriverHandover

/-- The names of GPUs and of parts of GPUs among the resources. -/
def IsGpuName (name : String) : Prop :=
  "nvidia.com/gpu".toList <+: name.toList ∨ "nvidia.com/mig-".toList <+: name.toList

/-- Some container has a limit or a request for a GPU or a part of one. -/
def PodSpec.NamesGpu (spec : PodSpec) : Prop :=
  ∃ c ∈ spec.containers, ∃ name ∈ c.limits ++ c.requests, IsGpuName name

variable {p q : Pod} {spec : PodSpec} {holds holds' : String → Bool} {uid : String}

theorem isGpuResource_iff {name : String} : isGpuResource name = true ↔ IsGpuName name := by
  simp [isGpuResource, gpuResourcePrefixes, IsGpuName]

theorem PodSpec.namesGpu_iff :
    spec.containers.any Container.namesGpu = true ↔ spec.NamesGpu := by
  simp only [List.any_eq_true, Container.namesGpu, isGpuResource_iff, PodSpec.NamesGpu]

namespace Pod

theorem gpuDemand_eq_byResource_iff :
    p.gpuDemand = .byResource ↔ ∃ spec, p.spec = some spec ∧ spec.NamesGpu := by
  rw [gpuDemand]
  cases hspec : p.spec with
  | none => simp
  | some spec =>
    simp only [Option.some.injEq, exists_eq_left', ← PodSpec.namesGpu_iff]
    by_cases hnames : spec.containers.any Container.namesGpu = true
    · rw [if_pos hnames]
      exact iff_of_true rfl hnames
    · rw [if_neg hnames, iff_false_right hnames]
      split
      · simp
      · cases p.uid <;> simp

theorem gpuDemand_eq_byClaim_iff :
    p.gpuDemand = .byClaim uid ↔
      p.uid = some uid ∧ ∃ spec, p.spec = some spec ∧ ¬ spec.NamesGpu ∧ spec.claims ≠ [] := by
  rw [gpuDemand]
  cases hspec : p.spec with
  | none => simp
  | some spec =>
    simp only [Option.some.injEq, exists_eq_left', ← PodSpec.namesGpu_iff]
    by_cases hnames : spec.containers.any Container.namesGpu = true
    · simp [hnames]
    · rw [if_neg hnames]
      cases spec.claims with
      | nil => simp
      | cons claim claims => cases p.uid <;> simp [hnames]

theorem usesGpu_iff :
    p.usesGpu holds = true ↔
      p.gpuDemand = .byResource ∨ ∃ uid, p.gpuDemand = .byClaim uid ∧ holds uid = true := by
  rw [usesGpu]
  cases p.gpuDemand <;> simp

theorem lookups_eq_singleton_iff : p.lookups = [uid] ↔ p.gpuDemand = .byClaim uid := by
  rw [lookups]
  cases p.gpuDemand <;> simp

theorem length_lookups_le (p : Pod) : p.lookups.length ≤ 1 := by
  rw [lookups]
  cases p.gpuDemand <;> simp

/-- The course of the question whether a pod uses a GPU, where a look-up may do more than answer. -/
def classify {m : Type → Type} [Monad m] (lookUp : String → m Bool) (p : Pod) : m Bool := do
  let some spec := p.spec | return false
  if spec.containers.any Container.namesGpu then return true
  if spec.claims.isEmpty then return false
  let some uid := p.uid | return false
  lookUp uid

/-- The course ends with what a pod may ask for, and looks nothing up before that. -/
theorem classify_eq {m : Type → Type} [Monad m] (lookUp : String → m Bool) (p : Pod) :
    p.classify lookUp =
      match p.gpuDemand with
      | .no => pure false
      | .byResource => pure true
      | .byClaim uid => lookUp uid := by
  rw [classify, gpuDemand]
  cases p.spec with
  | none => rfl
  | some spec =>
    dsimp only
    by_cases hnames : spec.containers.any Container.namesGpu = true
    · rw [if_pos hnames, if_pos hnames]
    · rw [if_neg hnames, if_neg hnames]
      by_cases hclaims : spec.claims.isEmpty = true
      · rw [if_pos hclaims, if_pos hclaims]
      · rw [if_neg hclaims, if_neg hclaims]
        cases p.uid with
        | none => rfl
        | some uid => rfl

/-- A look-up that keeps a record of the pods that are looked up. -/
def recordedLookUp (holds : String → Bool) (uid : String) : StateM (List String) Bool := do
  modify (· ++ [uid])
  return holds uid

/-- The answer and the look-ups belong to one course. -/
theorem classify_recorded (p : Pod) (holds : String → Bool) (asked : List String) :
    (p.classify (recordedLookUp holds)).run asked = (p.usesGpu holds, asked ++ p.lookups) := by
  rw [classify_eq, usesGpu, lookups]
  cases p.gpuDemand with
  | no => exact congrArg (Prod.mk false) (List.append_nil asked).symm
  | byResource => exact congrArg (Prod.mk true) (List.append_nil asked).symm
  | byClaim uid => rfl

/-- `p.AsksWithin q` holds if `q` asks for all that `p` asks for: it has the UID of `p`, a container
with all the resources for each container of `p`, and claims if `p` has some. -/
structure AsksWithin (p q : Pod) : Prop where
  uid : ∀ uid, p.uid = some uid → q.uid = some uid
  spec : ∀ spec, p.spec = some spec → ∃ spec', q.spec = some spec' ∧
    (∀ c ∈ spec.containers, ∃ c' ∈ spec'.containers,
      c.limits ++ c.requests ⊆ c'.limits ++ c'.requests) ∧
    (spec'.claims = [] → spec.claims = [])

/-- A pod that asks for more still uses a GPU, also if more is known of claims. -/
theorem AsksWithin.usesGpu (h : p.AsksWithin q) (hholds : ∀ uid, holds uid → holds' uid)
    (huses : p.usesGpu holds = true) : q.usesGpu holds' = true := by
  rw [usesGpu_iff] at huses ⊢
  rcases huses with hdemand | ⟨uid, hdemand, hheld⟩
  · obtain ⟨spec, hspec, c, hc, name, hname, hgpu⟩ := gpuDemand_eq_byResource_iff.1 hdemand
    obtain ⟨spec', hspec', hcontainers, -⟩ := h.spec spec hspec
    obtain ⟨c', hc', hsubset⟩ := hcontainers c hc
    exact .inl (gpuDemand_eq_byResource_iff.2
      ⟨spec', hspec', c', hc', name, hsubset hname, hgpu⟩)
  · obtain ⟨huid, spec, hspec, -, hclaims⟩ := gpuDemand_eq_byClaim_iff.1 hdemand
    obtain ⟨spec', hspec', -, hkept⟩ := h.spec spec hspec
    -- the claim still counts unless a container asks now, which is as good
    by_cases hnames : spec'.NamesGpu
    · exact .inl (gpuDemand_eq_byResource_iff.2 ⟨spec', hspec', hnames⟩)
    · refine .inr ⟨uid, gpuDemand_eq_byClaim_iff.2 ⟨h.uid uid huid, spec', hspec', hnames, ?_⟩,
        hholds uid hheld⟩
      exact fun hnone => hclaims (hkept hnone)

/-- Nothing of a pod counts but its UID, its containers and its claims. -/
theorem gpuDemand_congr (huid : q.uid = p.uid)
    (hcontainers : q.spec.map (·.containers) = p.spec.map (·.containers))
    (hclaims : q.spec.map (·.claims) = p.spec.map (·.claims)) : q.gpuDemand = p.gpuDemand := by
  rw [gpuDemand, gpuDemand, huid]
  cases hp : p.spec with
  | none =>
    rw [hp] at hcontainers
    rw [Option.map_eq_none_iff.1 hcontainers]
  | some spec =>
    rw [hp] at hcontainers hclaims
    obtain ⟨spec', hq, hsame⟩ := Option.map_eq_some_iff.1 hcontainers
    rw [hq, Option.map_some, Option.map_some, Option.some.injEq] at hclaims
    simp only [hq, hsame, hclaims]

end Pod

/-- A map of resources to quantities, as it is written. -/
def quantities (entries : List (String × String)) : Json :=
  .object (entries.map fun e => (e.1, .string e.2))

/-- Of a map of resources only the names are read. -/
theorem resourceNames?_quantities (entries : List (String × String)) :
    resourceNames? (quantities entries) = some (entries.map (·.1)) := by
  have hread : (entries.map fun e => (e.1, Json.string e.2)).mapM
      (fun e => (Json.asString? e.2).map (e.1, ·)) = some entries := by
    induction entries with
    | nil => rfl
    | cons e entries ih =>
      rw [List.map_cons, List.mapM_cons, ih]
      rfl
  rw [resourceNames?, quantities, Json.asEntries?]
  simp only [hread, Option.map_some]

/-- Of the resources of a container only the names are read, and not the quantities. -/
theorem Container.ofJson?_quantities {members resources : List (String × Json)}
    {limits requests : List (String × String)}
    (hresources : Json.member "resources" members = .object resources)
    (hlimits : Json.member "limits" resources = quantities limits)
    (hrequests : Json.member "requests" resources = quantities requests) :
    Container.ofJson? (.object members) = some ⟨limits.map (·.1), requests.map (·.1)⟩ := by
  have hnames (entries) : Json.orElse [] resourceNames? (quantities entries) =
      some (entries.map (·.1)) := by
    rw [Json.orElse]
    change ((resourceNames? (quantities entries)).map some).map _ = _
    rw [resourceNames?_quantities]
    rfl
  have hmembers : Json.orElse [] Json.members? (.object resources) = some resources := rfl
  simp only [Container.ofJson?, Json.members?, Option.bind_eq_bind, Option.bind_some, hresources,
    hmembers, hlimits, hrequests, hnames]
  rfl

/-- The containers that run before the others are not read. -/
theorem PodSpec.ofJson?_congr {members members' : List (String × Json)}
    (h : ∀ key ≠ "initContainers", Json.member key members = Json.member key members') :
    PodSpec.ofJson? (.object members) = PodSpec.ofJson? (.object members') := by
  simp [PodSpec.ofJson?, Json.members?, h]

/-- A pod uses a GPU exactly if it has a spec and a container of it names a GPU in a limit or a
request, or it has claims and a UID that is held to use one. The look-up is made once at most, for a
pod without such a name, with claims and a UID, and for no other; so it makes no difference to a pod
with such a name. Nothing else of a pod counts, and neither do quantities or the containers that run
before the others. A pod that asks for more, or of which more is known, still uses a GPU. -/
theorem gpu_pods_recognised (p : Pod) :
    (∀ holds, p.usesGpu holds = true ↔ ∃ spec, p.spec = some spec ∧
      (spec.NamesGpu ∨ spec.claims ≠ [] ∧ ∃ uid, p.uid = some uid ∧ holds uid = true)) ∧
    (∀ holds asked, (p.classify (Pod.recordedLookUp holds)).run asked =
      (p.usesGpu holds, asked ++ p.lookups)) ∧
    (p.lookups.length ≤ 1 ∧ ∀ uid, p.lookups = [uid] ↔ p.uid = some uid ∧
      ∃ spec, p.spec = some spec ∧ ¬ spec.NamesGpu ∧ spec.claims ≠ []) ∧
    (∀ spec, p.spec = some spec → spec.NamesGpu → ∀ holds, p.usesGpu holds = true) ∧
    (∀ q : Pod, q.uid = p.uid → q.spec.map (·.containers) = p.spec.map (·.containers) →
      q.spec.map (·.claims) = p.spec.map (·.claims) →
        ∀ holds, q.usesGpu holds = p.usesGpu holds ∧ q.lookups = p.lookups) ∧
    (∀ members members', (∀ key ≠ "initContainers",
        Json.member key members = Json.member key members') →
      PodSpec.ofJson? (.object members) = PodSpec.ofJson? (.object members')) ∧
    (∀ members resources limits requests, Json.member "resources" members = .object resources →
      Json.member "limits" resources = quantities limits →
      Json.member "requests" resources = quantities requests →
        Container.ofJson? (.object members) = some ⟨limits.map (·.1), requests.map (·.1)⟩) ∧
    ∀ (q : Pod) (holds holds' : String → Bool), p.AsksWithin q →
      (∀ uid, holds uid = true → holds' uid = true) → p.usesGpu holds = true →
        q.usesGpu holds' = true := by
  have hnamed : ∀ spec, p.spec = some spec → spec.NamesGpu → p.gpuDemand = .byResource :=
    fun spec hspec hnames => Pod.gpuDemand_eq_byResource_iff.2 ⟨spec, hspec, hnames⟩
  refine ⟨fun holds => ?_, p.classify_recorded, ⟨p.length_lookups_le, fun uid => ?_⟩,
    fun spec hspec hnames holds => ?_, fun q huid hcontainers hclaims holds => ?_, ?_, ?_, ?_⟩
  · rw [Pod.usesGpu_iff]
    constructor
    · rintro (hdemand | ⟨uid, hdemand, hheld⟩)
      · obtain ⟨spec, hspec, hnames⟩ := Pod.gpuDemand_eq_byResource_iff.1 hdemand
        exact ⟨spec, hspec, .inl hnames⟩
      · obtain ⟨huid, spec, hspec, -, hclaims⟩ := Pod.gpuDemand_eq_byClaim_iff.1 hdemand
        exact ⟨spec, hspec, .inr ⟨hclaims, uid, huid, hheld⟩⟩
    · rintro ⟨spec, hspec, hway⟩
      by_cases hnames : spec.NamesGpu
      · exact .inl (hnamed spec hspec hnames)
      · obtain ⟨hclaims, uid, huid, hheld⟩ := hway.resolve_left hnames
        exact .inr ⟨uid, Pod.gpuDemand_eq_byClaim_iff.2 ⟨huid, spec, hspec, hnames, hclaims⟩, hheld⟩
  · rw [Pod.lookups_eq_singleton_iff, Pod.gpuDemand_eq_byClaim_iff]
  · exact Pod.usesGpu_iff.2 (.inl (hnamed spec hspec hnames))
  · have hdemand := Pod.gpuDemand_congr huid hcontainers hclaims
    exact ⟨by rw [Pod.usesGpu, Pod.usesGpu, hdemand], by rw [Pod.lookups, Pod.lookups, hdemand]⟩
  · exact fun members members' => PodSpec.ofJson?_congr
  · exact fun members resources limits requests => Container.ofJson?_quantities
  · exact fun q holds holds' hwithin hholds => hwithin.usesGpu hholds

/-- A pod with a claim, of which no resource is a GPU. -/
def claimPod : Pod where
  givenName := some "trainer"
  generateName := none
  podNamespace := some "team"
  uid := some "7f3c"
  labels := LabelMap.empty
  annotations := LabelMap.empty
  owners := []
  spec := some ⟨none, [⟨["cpu"], ["cpu"]⟩], ["accelerator"], []⟩
  phase := none

/-- The same pod with a container that asks for a part of a GPU. -/
def slicePod : Pod :=
  { claimPod with
    spec := some
      ⟨none, [⟨["cpu"], ["cpu"]⟩, ⟨["nvidia.com/mig-1g.5gb"], []⟩], ["accelerator"], []⟩ }

/-- A pod with a claim is looked up, whoever owns it, until a container of it asks for a GPU. -/
theorem slice_pod_recognised :
    claimPod.lookups = ["7f3c"] ∧
      { claimPod with owners := [⟨"Job", true⟩] }.lookups = claimPod.lookups ∧
      claimPod.usesGpu (fun _ => true) = true ∧ slicePod.usesGpu (fun _ => true) = true ∧
      slicePod.usesGpu (fun _ => false) = true ∧
      PodSpec.ofJson? (.object [("initContainers", .array [])]) = PodSpec.ofJson? (.object []) ∧
      Container.ofJson? (.object [("resources", .object
        [("limits", quantities [("cpu", "2")]), ("requests", quantities [])])]) =
          some ⟨["cpu"], []⟩ := by
  have hslice : PodSpec.NamesGpu
      ⟨none, [⟨["cpu"], ["cpu"]⟩, ⟨["nvidia.com/mig-1g.5gb"], []⟩], ["accelerator"], []⟩ :=
    PodSpec.namesGpu_iff.1 (by decide +kernel)
  have hclaim : ¬ PodSpec.NamesGpu ⟨none, [⟨["cpu"], ["cpu"]⟩], ["accelerator"], []⟩ := by
    rw [← PodSpec.namesGpu_iff]
    decide +kernel
  have hwithin : claimPod.AsksWithin slicePod := by
    refine ⟨fun uid huid => huid, fun spec hspec => ⟨_, rfl, fun c hc => ?_, ?_⟩⟩
    · cases hspec
      exact ⟨c, List.mem_cons.2 (.inl (List.mem_singleton.1 hc)), List.Subset.refl _⟩
    · exact nofun
  obtain ⟨huses, -, hlookups, -, hcongr, hinit, hquantities, hmono⟩ := gpu_pods_recognised claimPod
  obtain ⟨-, -, -, hnamed, -⟩ := gpu_pods_recognised slicePod
  have hused := (huses fun _ => true).2 ⟨_, rfl, .inr ⟨List.cons_ne_nil _ _, _, rfl, rfl⟩⟩
  refine ⟨(hlookups.2 _).2 ⟨rfl, _, rfl, hclaim, List.cons_ne_nil _ _⟩,
    (hcongr _ rfl rfl rfl fun _ => true).2, hused,
    hmono _ _ _ hwithin (fun _ h => h) hused, hnamed _ rfl hslice _, hinit _ _ fun key hkey => ?_,
    hquantities _ _ [("cpu", "2")] [] rfl rfl rfl⟩
  simp [Json.member, Json.member?, List.lookup_cons, beq_false_of_ne hkey]

end DriverHandover
