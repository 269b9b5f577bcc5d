import Zrm.Core.BigEndian
import Zrm.Core.Result
import Mathlib.Data.List.Lex
import Mathlib.Order.Lattice

/-!
# Opaque 32-byte identifiers (`zrm-types/src/opaque.rs`)

The macro `define_nonzero_bytes32!` makes one type per name over the same
representation, a 32-byte string that is not all zero. Here the name is a
parameter (`Opaque`), so the types stay distinct and share one constructor,
one order and one set of lemmas. The order is Rust's derived `Ord`:
byte-lexicographic.
-/
namespace Zrm.L1.Ids
open Zrm.BigEndian Zrm.Result

/-- mirrors crates/zrm-types/src/lib.rs:40 (`DIGEST_BYTES`) -/
abbrev DIGEST_BYTES : Nat := 32

/-- mirrors crates/zrm-types/src/opaque.rs:6 -/
inductive ZeroValueError
  | zeroValueError
  deriving DecidableEq, Repr

/-- `bytes.iter().all(|byte| *byte == 0)` -/
def allZero (bytes : Bytes DIGEST_BYTES) : Bool := bytes.toList.all (· == 0)

theorem allZero_iff {bytes : Bytes DIGEST_BYTES} :
    allZero bytes = true ↔ bytes = .replicate DIGEST_BYTES 0 := by
  rw [allZero, List.all_eq_true, Bytes.ext_iff, Bytes.replicate, List.eq_replicate_iff]
  simp

/-- mirrors crates/zrm-types/src/opaque.rs:15 -/
structure NonZeroBytes32 where
  bytes : Bytes DIGEST_BYTES
  nonzero : allZero bytes = false
  deriving DecidableEq

/-- mirrors crates/zrm-types/src/opaque.rs:18-23 -/
def NonZeroBytes32.tryNew (bytes : Bytes DIGEST_BYTES) : Except ZeroValueError NonZeroBytes32 :=
  if h : allZero bytes = true then .error .zeroValueError
  else .ok ⟨bytes, Bool.eq_false_iff.mpr h⟩

/-- The names the macro is invoked with, as far as the modelled code uses them. -/
inductive OpaqueName
  | machineId | domainId | applicationId | resourceId | resourceNonce | resourceKindId
  | resourceLogicId | logicProfileId | policyId | unitId | controllerRoot | commitment
  | provenanceRoot | nullifier | cryptoSuiteId | backendFamilyId | verifierCostRowsRoot
  | verifierId | verifierPolicyId | verifierCostModelId | artifactCodecId | accumulatorProfileId
  | supportedResourceSchemaRoot | supportedTransitionSchemaRoot | resourceKindPolicySetRoot
  | creationResourceKindPolicyMapRoot | acceptedPredecessorResourcePolicySetRoot
  | logicVerifierPolicyRoot | transformationVerifierPolicyRoot | authorityVerifierPolicyRoot
  | dataAvailabilityPolicyRoot | governanceAuthorityRoot | featureSuiteRoot
  | programOrKeyDigest | statementSchemaRoot | journalSchemaRoot | proofParameterRoot
  | coverageClaimsRoot | nonClaimsRoot | trustedComputingBaseRoot
  | allowedLogicSetRoot | allowedLogicProfileSetRoot | allowedTransformationSetRoot
  | controllerPolicyRoot | mintAuthorityRoot | burnAuthorityRoot

/-- mirrors crates/zrm-types/src/opaque.rs:41-60 (`define_nonzero_bytes32!`) -/
structure Opaque (name : OpaqueName) where
  inner : NonZeroBytes32
  deriving DecidableEq

/-! The macro's types, mirrors crates/zrm-types/src/opaque.rs:81-275 -/

abbrev MachineId := Opaque .machineId
abbrev DomainId := Opaque .domainId
abbrev ApplicationId := Opaque .applicationId
abbrev ResourceId := Opaque .resourceId
abbrev ResourceNonce := Opaque .resourceNonce
abbrev ResourceKindId := Opaque .resourceKindId
abbrev ResourceLogicId := Opaque .resourceLogicId
abbrev LogicProfileId := Opaque .logicProfileId
abbrev PolicyId := Opaque .policyId
abbrev BackendFamilyId := Opaque .backendFamilyId
abbrev CryptoSuiteId := Opaque .cryptoSuiteId
abbrev UnitId := Opaque .unitId
abbrev ControllerRoot := Opaque .controllerRoot
abbrev Commitment := Opaque .commitment
abbrev Nullifier := Opaque .nullifier
abbrev ProvenanceRoot := Opaque .provenanceRoot
abbrev VerifierCostRowsRoot := Opaque .verifierCostRowsRoot
abbrev VerifierId := Opaque .verifierId
abbrev VerifierPolicyId := Opaque .verifierPolicyId
abbrev VerifierCostModelId := Opaque .verifierCostModelId
abbrev ArtifactCodecId := Opaque .artifactCodecId
abbrev AccumulatorProfileId := Opaque .accumulatorProfileId
abbrev SupportedResourceSchemaRoot := Opaque .supportedResourceSchemaRoot
abbrev SupportedTransitionSchemaRoot := Opaque .supportedTransitionSchemaRoot
abbrev ResourceKindPolicySetRoot := Opaque .resourceKindPolicySetRoot
abbrev CreationResourceKindPolicyMapRoot := Opaque .creationResourceKindPolicyMapRoot
abbrev AcceptedPredecessorResourcePolicySetRoot := Opaque .acceptedPredecessorResourcePolicySetRoot
abbrev LogicVerifierPolicyRoot := Opaque .logicVerifierPolicyRoot
abbrev TransformationVerifierPolicyRoot := Opaque .transformationVerifierPolicyRoot
abbrev AuthorityVerifierPolicyRoot := Opaque .authorityVerifierPolicyRoot
abbrev DataAvailabilityPolicyRoot := Opaque .dataAvailabilityPolicyRoot
abbrev GovernanceAuthorityRoot := Opaque .governanceAuthorityRoot
abbrev FeatureSuiteRoot := Opaque .featureSuiteRoot
abbrev ProgramOrKeyDigest := Opaque .programOrKeyDigest
abbrev StatementSchemaRoot := Opaque .statementSchemaRoot
abbrev JournalSchemaRoot := Opaque .journalSchemaRoot
abbrev ProofParameterRoot := Opaque .proofParameterRoot
abbrev CoverageClaimsRoot := Opaque .coverageClaimsRoot
abbrev NonClaimsRoot := Opaque .nonClaimsRoot
abbrev TrustedComputingBaseRoot := Opaque .trustedComputingBaseRoot
abbrev AllowedLogicSetRoot := Opaque .allowedLogicSetRoot
abbrev AllowedLogicProfileSetRoot := Opaque .allowedLogicProfileSetRoot
abbrev AllowedTransformationSetRoot := Opaque .allowedTransformationSetRoot
abbrev ControllerPolicyRoot := Opaque .controllerPolicyRoot
abbrev MintAuthorityRoot := Opaque .mintAuthorityRoot
abbrev BurnAuthorityRoot := Opaque .burnAuthorityRoot

variable {name : OpaqueName}

/-- mirrors crates/zrm-types/src/opaque.rs:51-59 (`as_bytes`, `into_bytes`) -/
def Opaque.asBytes (id : Opaque name) : Bytes DIGEST_BYTES := id.inner.bytes

/-- mirrors crates/zrm-types/src/opaque.rs:62-71 -/
def Opaque.tryFrom (bytes : Bytes DIGEST_BYTES) : Except ZeroValueError (Opaque name) :=
  (NonZeroBytes32.tryNew bytes).map fun inner => ⟨inner⟩

theorem Opaque.ext {a b : Opaque name} (h : a.asBytes = b.asBytes) : a = b := by
  obtain ⟨⟨a, ha⟩⟩ := a
  obtain ⟨⟨b, hb⟩⟩ := b
  simp only [asBytes] at h
  subst h; rfl

theorem Opaque.asBytes_nonzero (id : Opaque name) : allZero id.asBytes = false := id.inner.nonzero

/-- A conversion succeeds exactly on nonzero bytes, and keeps them. -/
theorem Opaque.tryFrom_eq_ok {bytes : Bytes DIGEST_BYTES} {id : Opaque name} :
    Opaque.tryFrom bytes = .ok id ↔ id.asBytes = bytes := by
  unfold tryFrom NonZeroBytes32.tryNew
  refine ⟨fun h => ?_, fun h => ?_⟩
  · split at h <;> simp only [Except.map, Except.ok.injEq, reduceCtorEq] at h
    subst h; rfl
  · obtain rfl := h
    rw [dif_neg (by rw [id.asBytes_nonzero]; exact Bool.false_ne_true)]
    rfl

theorem Opaque.tryFrom_eq_error {bytes : Bytes DIGEST_BYTES} {e : ZeroValueError} :
    (Opaque.tryFrom bytes : Except _ (Opaque name)) = .error e ↔ allZero bytes = true := by
  unfold tryFrom NonZeroBytes32.tryNew
  split <;> simp_all [Except.map]

/-- 32 copies of a byte, of `0x01` for the byte zero. -/
def Opaque.repeated (byte : UInt8) : Opaque name :=
  (Opaque.tryFrom (.replicate DIGEST_BYTES byte)).toOption.getD ⟨⟨.replicate DIGEST_BYTES 1, rfl⟩⟩

instance : LawfulBEq (Opaque name) := inferInstance

/-! ## The byte-lexicographic order -/

instance byteLinearOrder : LinearOrder UInt8 where
  le_refl := UInt8.le_refl
  le_trans _ _ _ := UInt8.le_trans
  le_antisymm _ _ := UInt8.le_antisymm
  le_total := UInt8.le_total
  lt_iff_le_not_ge a b := by
    simp only [UInt8.lt_iff_toNat_lt, UInt8.le_iff_toNat_le]; omega
  toDecidableLE := inferInstance
  toDecidableEq := inferInstance

/-- Rust's derived `Ord`: lexicographic on the bytes. -/
instance : LinearOrder (Opaque name) :=
  LinearOrder.lift' (fun id => id.asBytes.toList) fun _ _ h =>
    Opaque.ext (Bytes.ext h)

end Zrm.L1.Ids
