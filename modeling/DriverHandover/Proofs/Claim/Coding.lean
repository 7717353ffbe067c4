import DriverHandover.Claim.Coding
import DriverHandover.Proofs.Json.Record

/-!
# Claims survive JSON

A claim is read back from what is written of it: what writing leaves out is what reading fills in.
Members that a claim has no place for may stand in any of its records, next to those that it reads.

## Main definitions

* `Metadata.Survives` – metadata that is read back from what is written of it.
* `Claim.Widened` – more members in a claim, its status, its allocation, its devices or its
  consumers.

## Main statements

* `Claim.read_toJson` – a claim is read back if its metadata is.
* `Claim.ignores` – more members in a claim make no difference to reading it.
* `claims_survive_json` – both, for the devices and the pods too.
-/

namespace DriverHandover

open Json (Change EachWidens Widens unchanged)
open Json.Draft (FieldsIgnore Ignores given_read list_ofList ofJson optional_ofJson
  readMembers_cons record_ofJson)

/-- Metadata that is read back from what describes it. -/
def Metadata.Survives (m : Metadata) : Prop :=
  Metadata.read (ofJson m.toJson) = .ok m

/-- More members in metadata. -/
def Metadata.Widened : Change :=
  Widens (unchanged Metadata.fields)

/-- More members in a device. -/
def AllocatedDevice.Widened : Change :=
  Widens (unchanged AllocatedDevice.fields)

/-- More members in a consumer. -/
def Consumer.Widened : Change :=
  Widens (unchanged Consumer.fields)

/-- More members in an allocation, in its devices or in one of them. -/
def ClaimStatus.AllocationWidened : Change :=
  Widens [("devices", Widens [("results", EachWidens AllocatedDevice.Widened)])]

/-- More members in a status, its allocation or a consumer. -/
def ClaimStatus.Widened : Change :=
  Widens [("allocation", AllocationWidened), ("reservedFor", EachWidens Consumer.Widened)]

/-- More members in a claim, at any level. -/
def Claim.Widened : Change :=
  Widens [("metadata", Metadata.Widened), ("status", ClaimStatus.Widened)]

theorem AllocatedDevice.read_toJson (d : AllocatedDevice) : read (ofJson d.toJson) = .ok d :=
  rfl

theorem Consumer.read_toJson (c : Consumer) : read (ofJson c.toJson) = .ok c := by
  obtain ⟨_ | group, resource, name, uid⟩ := c <;> rfl

namespace ClaimStatus

theorem readDevices_toJson (devices : List AllocatedDevice) :
    readDevices (ofJson (devicesToJson devices)) = .ok devices := by
  cases devices with
  | nil => rfl
  | cons device devices =>
    have hresults := list_ofList AllocatedDevice.read_toJson (device :: devices)
    refine record_ofJson (readMembers_cons rfl rfl (given_read "devices" [] ?_)) rfl
    exact record_ofJson (readMembers_cons rfl rfl (given_read "results" [] hresults)) rfl

theorem read_toJson (s : ClaimStatus) : read (ofJson s.toJson) = .ok s := by
  obtain ⟨allocation, reservedFor⟩ := s
  -- A missing allocation and an empty list of consumers are not written, and read as they were.
  have hconsumers := list_ofList Consumer.read_toJson reservedFor
  cases allocation with
  | none =>
    cases reservedFor with
    | nil => rfl
    | cons consumer reservedFor =>
      exact record_ofJson (readMembers_cons rfl rfl (given_read "reservedFor" _ hconsumers)) rfl
  | some devices =>
    have hdevices := optional_ofJson (readDevices_toJson devices) nofun
    cases reservedFor with
    | nil => exact record_ofJson (readMembers_cons rfl rfl (given_read "allocation" _ hdevices)) rfl
    | cons consumer reservedFor =>
      exact record_ofJson ((readMembers_cons rfl rfl (given_read "allocation" _ hdevices)).trans
        (readMembers_cons rfl rfl (given_read "reservedFor" _ hconsumers))) rfl

end ClaimStatus

namespace Claim

theorem read_toJson {c : Claim} (h : c.metadata.Survives) : read (ofJson c.toJson) = .ok c := by
  obtain ⟨metadata, status⟩ := c
  cases status with
  | none => exact record_ofJson (readMembers_cons rfl rfl (given_read "metadata" _ h)) rfl
  | some status =>
    have hstatus := optional_ofJson status.read_toJson nofun
    exact record_ofJson ((readMembers_cons rfl rfl (given_read "metadata" _ h)).trans
      (readMembers_cons rfl rfl (given_read "status" _ hstatus))) rfl

end Claim

theorem Metadata.ignores : Ignores Metadata.read Metadata.Widened :=
  (Json.Draft.fieldsIgnore_unchanged _).entry _

theorem AllocatedDevice.ignores : Ignores AllocatedDevice.read AllocatedDevice.Widened :=
  (Json.Draft.fieldsIgnore_unchanged _).record _

theorem Consumer.ignores : Ignores Consumer.read Consumer.Widened :=
  (Json.Draft.fieldsIgnore_unchanged _).record _

theorem ClaimStatus.ignores_devices :
    Ignores ClaimStatus.readDevices ClaimStatus.AllocationWidened := by
  have hresults : FieldsIgnore
      [.given "results" (Json.Draft.list AllocatedDevice.read) fun _ v => v]
      [("results", EachWidens AllocatedDevice.Widened)] :=
    .cons ⟨rfl, fun _ => AllocatedDevice.ignores.list.given _ _⟩ .nil
  exact FieldsIgnore.record (.cons ⟨rfl, fun _ => (hresults.record _).given _ _⟩ .nil) _

theorem ClaimStatus.ignores : Ignores ClaimStatus.read ClaimStatus.Widened :=
  FieldsIgnore.record (.cons ⟨rfl, fun _ => ClaimStatus.ignores_devices.optional.given _ _⟩
    (.cons ⟨rfl, fun _ => Consumer.ignores.list.given _ _⟩ .nil)) _

/-- A claim is read as what it is without the members that it has no place for. -/
theorem Claim.ignores : Ignores Claim.read Claim.Widened :=
  FieldsIgnore.record (.cons ⟨rfl, fun _ => Metadata.ignores.given _ _⟩
    (.cons ⟨rfl, fun _ => ClaimStatus.ignores.optional.given _ _⟩ .nil)) _

theorem Claim.ofJson?_eq_some_iff {value : Json} {c : Claim} :
    Claim.ofJson? value = some c ↔ Claim.read (ofJson value) = .ok c := by
  rw [Claim.ofJson?]
  cases Claim.read (ofJson value) with
  | error e => exact iff_of_false nofun nofun
  | ok d => simp [Except.toOption]

/-- A claim whose metadata is read back is read back from what describes it. So whatever describes a
claim, what is written of the claim describes it too, with the same devices and pods. More members
make no difference at any level. -/
theorem claims_survive_json :
    (∀ c : Claim, c.metadata.Survives → Claim.ofJson? c.toJson = some c) ∧
    (∀ value c, Claim.ofJson? value = some c → c.metadata.Survives →
      ∃ c', Claim.ofJson? c.toJson = some c' ∧ c'.isGpu = c.isGpu ∧
        c'.reservedPods = c.reservedPods) ∧
    ∀ value value', Claim.Widened value value' → Claim.ofJson? value' = Claim.ofJson? value := by
  have hread (c : Claim) (h : c.metadata.Survives) : Claim.ofJson? c.toJson = some c :=
    Claim.ofJson?_eq_some_iff.2 (Claim.read_toJson h)
  refine ⟨hread, fun value c _ h => ⟨c, hread c h, rfl, rfl⟩, fun value value' h => ?_⟩
  rw [Claim.ofJson?, Claim.ofJson?, Claim.ignores _ _ h]

/-- A claim with a device of the GPU driver, reserved by a pod and by a job. -/
def trainingClaim : Claim where
  metadata := { Metadata.empty with
    name := some "gpu-claim", objectNamespace := some "ml", uid := some "c-1" }
  status := some {
    allocation := some [⟨"gpu", Claim.gpuDriver, "node-a", "gpu-0"⟩]
    reservedFor := [⟨none, Claim.podResource, "trainer", "pod-uid-1"⟩,
      ⟨some "example.com", "jobs", "j", "job-uid"⟩] }

/-- The value of the claim with a specification, and with conditions in the status. -/
def trainingClaim.described : Json :=
  .object [("apiVersion", .string "resource.k8s.io/v1"), ("kind", .string "ResourceClaim"),
    ("metadata", trainingClaim.metadata.toJson), ("spec", .object [("devices", .object [])]),
    ("status", .object [
      ("allocation", ClaimStatus.devicesToJson trainingClaim.devices),
      ("conditions", .array []),
      ("reservedFor", Json.ofList Consumer.toJson trainingClaim.consumers)])]

theorem training_claim_survives_json :
    trainingClaim.metadata.Survives ∧
    Claim.Widened trainingClaim.toJson trainingClaim.described ∧
    Claim.ofJson? trainingClaim.described = some trainingClaim ∧
    ∃ c, Claim.ofJson? trainingClaim.toJson = some c ∧ c.isGpu = true ∧
      c.reservedPods = ["pod-uid-1"] := by
  have hmetadata : trainingClaim.metadata.Survives := rfl
  have hwidened : Claim.Widened trainingClaim.toJson trainingClaim.described := by
    refine .object (.unknown rfl (.unknown rfl (.keep (.unknown rfl (.inside rfl ?_ .nil)))))
    exact .object (.keep (.unknown rfl (.keep .nil)))
  obtain ⟨hback, hagain, hmore⟩ := claims_survive_json
  have hread : Claim.ofJson? trainingClaim.described = some trainingClaim :=
    (hmore _ _ hwidened).trans (hback _ hmetadata)
  obtain ⟨c, hc, hgpu, hpods⟩ := hagain _ _ hread hmetadata
  exact ⟨hmetadata, hwidened, hread, c, hc, hgpu.trans rfl, hpods.trans rfl⟩

end DriverHandover
