import Zrm.L2Crypto.DomainSeparation

/-!
# Intrinsic resources (`zrm-kernel/src/resource.rs`, `resource/error.rs`)

`IntrinsicResourceV1` regroups the eighteen wire fields into typed
sub-structures; `toWire` reads them back through the public accessors.

* `tryFromWire_eq_ok`: what a successful construction says of every field.
* `wire_to_intrinsic_lossless`: nothing is lost from the bytes to the value.
-/
namespace Zrm.L4.Resource
open Zrm.BigEndian Zrm.Result Zrm.L1.Ids Zrm.L1.Scalar Zrm.L2.Hash Zrm.L2.ResourceWire

/-! ## Errors -/

/-- mirrors crates/zrm-kernel/src/resource/error.rs:12-41 -/
inductive IntrinsicResourceFieldV1
  | machineId | domainId | applicationId | resourceKindId | resourceLogicId | logicProfileId
  | resourceKindPolicyId | unitId | labelRoot | valueRoot | controllerRoot | policyRoot
  | provenanceRoot | nonce
  deriving DecidableEq, Repr

/-- mirrors crates/zrm-kernel/src/resource/error.rs:69-89 -/
inductive IntrinsicResourceErrorV1
  | zeroField (field : IntrinsicResourceFieldV1)
  | expiryBeforeCreation (createdEpoch expiryEpoch : UInt64)
  | unknownFlags (bits : UInt32)
  | resourceIdDerivation (error : ResourceIdDerivationError)
  deriving DecidableEq

/-! ## The value -/

/-- mirrors crates/zrm-kernel/src/resource.rs:21-30 -/
structure ResourceIdentityV1 where
  machine : MachineId
  domain : DomainId
  application : ApplicationId
  resourceKind : ResourceKindId
  resourceLogic : ResourceLogicId
  logicProfile : LogicProfileId
  resourceKindPolicy : PolicyId
  unit : UnitId
  deriving DecidableEq

/-- mirrors crates/zrm-kernel/src/resource.rs:63-69 -/
structure ResourceCommitmentsV1 where
  label : Commitment
  value : Commitment
  controller : ControllerRoot
  policy : Commitment
  provenance : ProvenanceRoot
  deriving DecidableEq

/-- mirrors crates/zrm-kernel/src/resource.rs:90-98 -/
structure IntrinsicResourceFieldsV1 where
  identity : ResourceIdentityV1
  quantityAtoms : QuantityAtoms
  commitments : ResourceCommitmentsV1
  nonce : ResourceNonce
  createdEpoch : UInt64
  expiryEpoch : Option UInt64
  flags : ResourceFlagsV1
  deriving DecidableEq

/-- mirrors crates/zrm-kernel/src/resource.rs:123-126 -/
structure IntrinsicResourceV1 where
  resourceId : ResourceId
  fields : IntrinsicResourceFieldsV1
  deriving DecidableEq

/-! ## Construction -/

/-- mirrors crates/zrm-kernel/src/resource.rs:286-294 -/
def requireNonzero {name : OpaqueName} (bytes : Bytes 32) (field : IntrinsicResourceFieldV1) :
    Except IntrinsicResourceErrorV1 (Opaque name) :=
  (Opaque.tryFrom bytes).mapError fun _ => .zeroField field

/-- mirrors crates/zrm-kernel/src/resource.rs:33-59 -/
def ResourceIdentityV1.tryFromWire (wire : ResourceWireV1) :
    Except IntrinsicResourceErrorV1 ResourceIdentityV1 := do
  let machine ← requireNonzero wire.machineId .machineId
  let domain ← requireNonzero wire.domainId .domainId
  let application ← requireNonzero wire.applicationId .applicationId
  let resourceKind ← requireNonzero wire.resourceKindId .resourceKindId
  let resourceLogic ← requireNonzero wire.resourceLogicId .resourceLogicId
  let logicProfile ← requireNonzero wire.logicProfileId .logicProfileId
  let resourceKindPolicy ← requireNonzero wire.resourceKindPolicyId .resourceKindPolicyId
  let unit ← requireNonzero wire.unitId .unitId
  return {
    machine, domain, application, resourceKind, resourceLogic, logicProfile, resourceKindPolicy, unit }

/-- mirrors crates/zrm-kernel/src/resource.rs:72-86 -/
def ResourceCommitmentsV1.tryFromWire (wire : ResourceWireV1) :
    Except IntrinsicResourceErrorV1 ResourceCommitmentsV1 := do
  let label ← requireNonzero wire.labelRoot .labelRoot
  let value ← requireNonzero wire.valueRoot .valueRoot
  let controller ← requireNonzero wire.controllerRoot .controllerRoot
  let policy ← requireNonzero wire.policyRoot .policyRoot
  let provenance ← requireNonzero wire.provenanceRoot .provenanceRoot
  return { label, value, controller, policy, provenance }

/-- mirrors crates/zrm-kernel/src/resource.rs:317-330 -/
def validateEpochOrder (createdEpoch : UInt64) (expiryEpoch : Option UInt64) :
    Except IntrinsicResourceErrorV1 Unit :=
  match expiryEpoch with
  | some expiryEpoch =>
    if expiryEpoch < createdEpoch then .error (.expiryBeforeCreation createdEpoch expiryEpoch)
    else .ok ()
  | none => .ok ()

/-- mirrors crates/zrm-kernel/src/resource.rs:296-315 -/
def validateIntrinsicFields (wire : ResourceWireV1) :
    Except IntrinsicResourceErrorV1 IntrinsicResourceFieldsV1 := do
  let identity ← ResourceIdentityV1.tryFromWire wire
  let quantityAtoms := QuantityAtoms.new wire.quantityAtoms
  let commitments ← ResourceCommitmentsV1.tryFromWire wire
  let nonce ← requireNonzero wire.nonce .nonce
  validateEpochOrder wire.createdEpoch wire.expiryEpoch
  let flags ← (ResourceFlagsV1.tryFromBits wire.flags).mapError fun error => .unknownFlags error.bits
  return {
    identity, quantityAtoms, commitments, nonce
    createdEpoch := wire.createdEpoch
    expiryEpoch := wire.expiryEpoch
    flags }

/-- mirrors crates/zrm-kernel/src/resource.rs:332-346 -/
def constructIntrinsicResource (wire : ResourceWireV1)
    (deriveResourceId : ResourceWireV1 → Except ResourceIdDerivationError ResourceId) :
    Except IntrinsicResourceErrorV1 IntrinsicResourceV1 := do
  let fields ← validateIntrinsicFields wire
  let resourceId ← (deriveResourceId wire).mapError .resourceIdDerivation
  return { resourceId, fields }

/-- mirrors crates/zrm-kernel/src/resource.rs:154-156 -/
def IntrinsicResourceV1.tryFromWire (sha256 : List UInt8 → Bytes 32) (alloc : Nat → Bool)
    (wire : ResourceWireV1) : Except IntrinsicResourceErrorV1 IntrinsicResourceV1 :=
  constructIntrinsicResource wire (ResourceWireV1.resourceId sha256 alloc)

/-! ## Accessors -/

namespace IntrinsicResourceV1

/-! mirrors crates/zrm-kernel/src/resource.rs:160-275 -/

def machineId (r : IntrinsicResourceV1) : MachineId := r.fields.identity.machine
def domainId (r : IntrinsicResourceV1) : DomainId := r.fields.identity.domain
def applicationId (r : IntrinsicResourceV1) : ApplicationId := r.fields.identity.application
def resourceKindId (r : IntrinsicResourceV1) : ResourceKindId := r.fields.identity.resourceKind
def resourceLogicId (r : IntrinsicResourceV1) : ResourceLogicId := r.fields.identity.resourceLogic
def logicProfileId (r : IntrinsicResourceV1) : LogicProfileId := r.fields.identity.logicProfile
def resourceKindPolicyId (r : IntrinsicResourceV1) : PolicyId := r.fields.identity.resourceKindPolicy
def unitId (r : IntrinsicResourceV1) : UnitId := r.fields.identity.unit
def quantityAtoms (r : IntrinsicResourceV1) : QuantityAtoms := r.fields.quantityAtoms
def labelRoot (r : IntrinsicResourceV1) : Commitment := r.fields.commitments.label
def valueRoot (r : IntrinsicResourceV1) : Commitment := r.fields.commitments.value
def controllerRoot (r : IntrinsicResourceV1) : ControllerRoot := r.fields.commitments.controller
def policyRoot (r : IntrinsicResourceV1) : Commitment := r.fields.commitments.policy
def provenanceRoot (r : IntrinsicResourceV1) : ProvenanceRoot := r.fields.commitments.provenance
def nonce (r : IntrinsicResourceV1) : ResourceNonce := r.fields.nonce
def createdEpoch (r : IntrinsicResourceV1) : UInt64 := r.fields.createdEpoch
def expiryEpoch (r : IntrinsicResourceV1) : Option UInt64 := r.fields.expiryEpoch
def flags (r : IntrinsicResourceV1) : ResourceFlagsV1 := r.fields.flags

end IntrinsicResourceV1

/-- A wire value rebuilt, field by field, from the public accessors. -/
def IntrinsicResourceV1.toWire (r : IntrinsicResourceV1) : ResourceWireV1 where
  machineId := r.machineId.asBytes
  domainId := r.domainId.asBytes
  applicationId := r.applicationId.asBytes
  resourceKindId := r.resourceKindId.asBytes
  resourceLogicId := r.resourceLogicId.asBytes
  logicProfileId := r.logicProfileId.asBytes
  resourceKindPolicyId := r.resourceKindPolicyId.asBytes
  unitId := r.unitId.asBytes
  quantityAtoms := r.quantityAtoms.get
  labelRoot := r.labelRoot.asBytes
  valueRoot := r.valueRoot.asBytes
  controllerRoot := r.controllerRoot.asBytes
  policyRoot := r.policyRoot.asBytes
  provenanceRoot := r.provenanceRoot.asBytes
  nonce := r.nonce.asBytes
  createdEpoch := r.createdEpoch
  expiryEpoch := r.expiryEpoch
  flags := r.flags.bits

/-! ## What construction establishes -/

theorem requireNonzero_eq_ok {name : OpaqueName} {bytes : Bytes 32} {field : IntrinsicResourceFieldV1}
    {id : Opaque name} : requireNonzero bytes field = .ok id ↔ id.asBytes = bytes := by
  unfold requireNonzero
  rw [mapError_eq_ok, Opaque.tryFrom_eq_ok]

theorem ResourceIdentityV1.tryFromWire_eq_ok {wire : ResourceWireV1} {identity : ResourceIdentityV1} :
    tryFromWire wire = .ok identity ↔
      identity.machine.asBytes = wire.machineId ∧ identity.domain.asBytes = wire.domainId ∧
      identity.application.asBytes = wire.applicationId ∧
      identity.resourceKind.asBytes = wire.resourceKindId ∧
      identity.resourceLogic.asBytes = wire.resourceLogicId ∧
      identity.logicProfile.asBytes = wire.logicProfileId ∧
      identity.resourceKindPolicy.asBytes = wire.resourceKindPolicyId ∧
      identity.unit.asBytes = wire.unitId := by
  simp only [tryFromWire, bind_eq_ok, requireNonzero_eq_ok, pure_eq, Except.ok.injEq]
  refine ⟨fun h => ?_, fun h => ?_⟩
  · obtain ⟨_, h1, _, h2, _, h3, _, h4, _, h5, _, h6, _, h7, _, h8, rfl⟩ := h
    exact ⟨h1, h2, h3, h4, h5, h6, h7, h8⟩
  · obtain ⟨h1, h2, h3, h4, h5, h6, h7, h8⟩ := h
    exact ⟨_, h1, _, h2, _, h3, _, h4, _, h5, _, h6, _, h7, _, h8, rfl⟩

theorem ResourceCommitmentsV1.tryFromWire_eq_ok {wire : ResourceWireV1}
    {commitments : ResourceCommitmentsV1} :
    tryFromWire wire = .ok commitments ↔
      commitments.label.asBytes = wire.labelRoot ∧ commitments.value.asBytes = wire.valueRoot ∧
      commitments.controller.asBytes = wire.controllerRoot ∧
      commitments.policy.asBytes = wire.policyRoot ∧
      commitments.provenance.asBytes = wire.provenanceRoot := by
  simp only [tryFromWire, bind_eq_ok, requireNonzero_eq_ok, pure_eq, Except.ok.injEq]
  refine ⟨fun h => ?_, fun h => ?_⟩
  · obtain ⟨_, h1, _, h2, _, h3, _, h4, _, h5, rfl⟩ := h
    exact ⟨h1, h2, h3, h4, h5⟩
  · obtain ⟨h1, h2, h3, h4, h5⟩ := h
    exact ⟨_, h1, _, h2, _, h3, _, h4, _, h5, rfl⟩

theorem validateEpochOrder_eq_ok {createdEpoch : UInt64} {expiryEpoch : Option UInt64} :
    validateEpochOrder createdEpoch expiryEpoch = .ok () ↔ ∀ e ∈ expiryEpoch, createdEpoch ≤ e := by
  unfold validateEpochOrder
  cases expiryEpoch with
  | none => simp
  | some e =>
    simp only [Option.mem_some_iff, forall_eq']
    split
    · simp only [reduceCtorEq, false_iff, UInt64.not_le]; assumption
    · simp only [true_iff, ← UInt64.not_lt]; assumption

/-- The fields validate iff they are the wire's, regrouped, and the epochs are in order. -/
theorem validateIntrinsicFields_eq_ok {wire : ResourceWireV1} {r : IntrinsicResourceV1} :
    validateIntrinsicFields wire = .ok r.fields ↔
      r.toWire = wire ∧ ∀ e ∈ wire.expiryEpoch, wire.createdEpoch ≤ e := by
  obtain ⟨id, identity, quantity, commitments, nonce, created, expiry, flags⟩ := r
  rw [← validateEpochOrder_eq_ok]
  simp only [validateIntrinsicFields, bind_eq_ok, mapError_eq_ok, pure_eq, Except.ok.injEq,
    ResourceIdentityV1.tryFromWire_eq_ok, ResourceCommitmentsV1.tryFromWire_eq_ok,
    requireNonzero_eq_ok, ResourceFlagsV1.tryFromBits_eq_ok, ResourceWireV1.ext_iff,
    IntrinsicResourceFieldsV1.mk.injEq]
  refine ⟨fun h => ?_, fun h => ?_⟩
  · obtain ⟨_, ⟨h1, h2, h3, h4, h5, h6, h7, h8⟩, _, ⟨h10, h11, h12, h13, h14⟩, _, h15, ⟨⟩, hepoch, _,
      h18, rfl, rfl, rfl, rfl, rfl, rfl, rfl⟩ := h
    exact ⟨⟨h1, h2, h3, h4, h5, h6, h7, h8, rfl, h10, h11, h12, h13, h14, h15, rfl, rfl, h18⟩, hepoch⟩
  · obtain ⟨⟨h1, h2, h3, h4, h5, h6, h7, h8, h9, h10, h11, h12, h13, h14, h15, h16, h17, h18⟩,
      hepoch⟩ := h
    exact ⟨identity, ⟨h1, h2, h3, h4, h5, h6, h7, h8⟩, commitments, ⟨h10, h11, h12, h13, h14⟩, nonce,
      h15, (), hepoch, flags, h18, rfl, by rw [← h9]; rfl, rfl, rfl, h16.symm, h17.symm, rfl⟩

/-- A construction succeeds iff the accessors give the wire back, its epochs
are in order and the identifier is the derived one. -/
theorem tryFromWire_eq_ok {sha256 : List UInt8 → Bytes 32} {alloc : Nat → Bool} {wire : ResourceWireV1}
    {r : IntrinsicResourceV1} :
    IntrinsicResourceV1.tryFromWire sha256 alloc wire = .ok r ↔
      (r.toWire = wire ∧ ∀ e ∈ wire.expiryEpoch, wire.createdEpoch ≤ e) ∧
        wire.resourceId sha256 alloc = .ok r.resourceId := by
  unfold IntrinsicResourceV1.tryFromWire constructIntrinsicResource
  rw [← validateIntrinsicFields_eq_ok]
  simp only [bind_eq_ok, mapError_eq_ok, pure_eq, Except.ok.injEq]
  refine ⟨fun h => ?_, fun h => ?_⟩
  · obtain ⟨fields, hfields, id, hid, rfl⟩ := h
    exact ⟨hfields, hid⟩
  · obtain ⟨hfields, hid⟩ := h
    exact ⟨_, hfields, _, hid, rfl⟩

/-- An identifier was derived only if the encoding could be allocated. -/
theorem alloc_of_resourceId_eq_ok {sha256 : List UInt8 → Bytes 32} {alloc : Nat → Bool}
    {wire : ResourceWireV1} {id : ResourceId} (h : wire.resourceId sha256 alloc = .ok id) :
    alloc wire.encodedLength = true ∧ id.asBytes = sha256 (resourcePreimage wire) := by
  unfold ResourceWireV1.resourceId at h
  rw [deriveResourceId_eq] at h
  split at h
  · rename_i halloc
    exact ⟨halloc, Opaque.tryFrom_eq_ok.mp (mapError_eq_ok.mp h)⟩
  · cases h

/-- **Lossless construction.** From accepted bytes to the intrinsic resource,
no field is dropped, crossed or renamed. -/
theorem wire_to_intrinsic_lossless {sha256 : List UInt8 → Bytes 32} {alloc : Nat → Bool}
    {b : List UInt8} {w : ResourceWireV1} {r : IntrinsicResourceV1}
    (hdecode : decodeResourceWireV1 b = .ok w)
    (hbuild : IntrinsicResourceV1.tryFromWire sha256 alloc w = .ok r) :
    r.toWire = w ∧ w.encode alloc = .ok b ∧ w.resourceId sha256 alloc = .ok r.resourceId ∧
    (∀ b' w', decodeResourceWireV1 b' = .ok w' →
      IntrinsicResourceV1.tryFromWire sha256 alloc w' = .ok r → b' = b) := by
  obtain ⟨⟨hwire, -⟩, hid⟩ := tryFromWire_eq_ok.mp hbuild
  rw [decode_eq_ok] at hdecode
  refine ⟨hwire, ?_, hid, fun b' w' hdecode' hbuild' => ?_⟩
  · rw [encode_eq, if_pos (alloc_of_resourceId_eq_ok hid).1, hdecode]
  · obtain ⟨⟨hwire', -⟩, -⟩ := tryFromWire_eq_ok.mp hbuild'
    rw [(decode_eq_ok b' w').mp hdecode', hdecode, ← hwire', hwire]

/-- The body of `vectorResource` under an identifier. -/
def vectorIntrinsic (resourceId : ResourceId) (expiryEpoch : Option UInt64) : IntrinsicResourceV1 where
  resourceId
  fields := {
    identity := {
      machine := .repeated 1
      domain := .repeated 2
      application := .repeated 3
      resourceKind := .repeated 4
      resourceLogic := .repeated 5
      logicProfile := .repeated 6
      resourceKindPolicy := .repeated 7
      unit := .repeated 8 }
    quantityAtoms := .new 0x0102030405060708090a0b0c0d0e0f10#128
    commitments := {
      label := .repeated 0x0a
      value := .repeated 0x0b
      controller := .repeated 0x0c
      policy := .repeated 0x0d
      provenance := .repeated 0x0e }
    nonce := .repeated 0x0f
    createdEpoch := 0x0102030405060708
    expiryEpoch
    flags := ⟨0, rfl⟩ }

theorem tryFromWire_vectorAbsent :
    IntrinsicResourceV1.tryFromWire vectorSha256 (fun _ => true) (vectorResource none) =
      .ok (vectorIntrinsic vectorAbsentId none) :=
  tryFromWire_eq_ok.mpr ⟨⟨rfl, nofun⟩, by decide +kernel⟩

theorem tryFromWire_vectorPresent :
    IntrinsicResourceV1.tryFromWire vectorSha256 (fun _ => true)
        (vectorResource (some 0x1112131415161718)) =
      .ok (vectorIntrinsic vectorPresentId (some 0x1112131415161718)) := by
  refine tryFromWire_eq_ok.mpr ⟨⟨rfl, fun e he => ?_⟩, by decide +kernel⟩
  cases Option.some.inj he
  show (0x0102030405060708 : UInt64) ≤ 0x1112131415161718
  decide

theorem wire_to_intrinsic_lossless_vector :
    (vectorIntrinsic vectorAbsentId none).toWire = vectorResource none ∧
    (vectorResource none).resourceId vectorSha256 (fun _ => true) = .ok vectorAbsentId := by
  obtain ⟨hwire, -, hid, -⟩ := wire_to_intrinsic_lossless (b := wireBytes (vectorResource none))
    ((decode_eq_ok _ _).mpr rfl) tryFromWire_vectorAbsent
  exact ⟨hwire, hid⟩

end Zrm.L4.Resource
