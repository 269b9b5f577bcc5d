import Zrm.Core.Result

/-!
# Machine-policy limits (`zrm-policy/src/limits.rs`, `error.rs`)

A validated `PolicyLimitsV1` carries the fact that validation accepted it.
-/
namespace Zrm.L3.Limits
open Zrm.Result

/-- mirrors crates/zrm-policy/src/error.rs:7-16 -/
inductive PolicyObjectV1
  | machinePolicy | resourceKindPolicy | validationContext | verifierPolicy
  deriving DecidableEq, Repr

/-- mirrors crates/zrm-policy/src/error.rs:20-53 -/
inductive LimitFieldV1
  | envelopeBytes | resourceBytes | consumedResources | referencedResources | createdResources
  | logicClaims | transformationClaims | authorityClaims | dataAvailabilityClaims | accountingRows
  | evidenceReferences | proofArtifactBytes | totalProofBytes | totalVerifierCostUnits | nestingDepth
  | storageWriteBytes
  deriving DecidableEq, Repr

/-- mirrors crates/zrm-policy/src/error.rs:60-104 -/
inductive PolicyValidationErrorV1
  | unsupportedSchemaVersion (object : PolicyObjectV1) (actual : UInt16)
  | invalidValidityWindow (object : PolicyObjectV1) (start stop : UInt64)
  | lifecycleQuantityMaximumMustBeOne (actual : BitVec 128)
  | unsupportedResourceCryptoSuite
  | limitExceedsProtocolCeiling (field : LimitFieldV1) (actual ceiling : UInt64)
  | resourceWireLimitTooSmall (actual minimum : UInt32)
  | unexpectedAdmissionVerifierPolicy
  | missingAdmissionVerifierPolicy
  deriving DecidableEq

/-- mirrors crates/zrm-policy/src/limits.rs:7-40 -/
structure PolicyLimitsCandidateV1 where
  maxEnvelopeBytes : UInt32
  maxResourceBytes : UInt32
  maxConsumedResources : UInt16
  maxReferencedResources : UInt16
  maxCreatedResources : UInt16
  maxLogicClaims : UInt16
  maxTransformationClaims : UInt16
  maxAuthorityClaims : UInt16
  maxDataAvailabilityClaims : UInt16
  maxAccountingRows : UInt16
  maxEvidenceReferences : UInt16
  maxProofArtifactBytes : UInt32
  maxTotalProofBytes : UInt32
  maxTotalVerifierCostUnits : UInt64
  maxNestingDepth : UInt16
  maxStorageWriteBytes : UInt32
  deriving DecidableEq

namespace PolicyLimitsV1

/-! mirrors crates/zrm-policy/src/limits.rs:51-84 -/

def MAX_ENVELOPE_BYTES : UInt32 := 4 * 1024 * 1024
def MAX_RESOURCE_BYTES : UInt32 := 16 * 1024
def MAX_CONSUMED_RESOURCES : UInt16 := 256
def MAX_REFERENCED_RESOURCES : UInt16 := 256
def MAX_CREATED_RESOURCES : UInt16 := 256
def MAX_LOGIC_CLAIMS : UInt16 := 768
def MAX_TRANSFORMATION_CLAIMS : UInt16 := 256
def MAX_AUTHORITY_CLAIMS : UInt16 := 768
def MAX_DATA_AVAILABILITY_CLAIMS : UInt16 := 256
def MAX_ACCOUNTING_ROWS : UInt16 := 512
def MAX_EVIDENCE_REFERENCES : UInt16 := 512
def MAX_PROOF_ARTIFACT_BYTES : UInt32 := 1024 * 1024
def MAX_TOTAL_PROOF_BYTES : UInt32 := 3 * 1024 * 1024
def MAX_TOTAL_VERIFIER_COST_UNITS : UInt64 := 281474976710655
def MAX_NESTING_DEPTH : UInt16 := 16
def MAX_STORAGE_WRITE_BYTES : UInt32 := 8 * 1024 * 1024
def MIN_RESOURCE_WIRE_V1_BYTES : UInt32 := 603

end PolicyLimitsV1

open PolicyLimitsV1

/-! ## Validation -/

/-- mirrors crates/zrm-policy/src/limits.rs:190-204 -/
def ensureAtMost (field : LimitFieldV1) (actual ceiling : UInt64) :
    Except PolicyValidationErrorV1 Unit :=
  if actual > ceiling then .error (.limitExceedsProtocolCeiling field actual ceiling) else .ok ()

/-- mirrors crates/zrm-policy/src/limits.rs:213-242 -/
def validateIngressAndResourceCountLimits (candidate : PolicyLimitsCandidateV1) :
    Except PolicyValidationErrorV1 Unit := do
  ensureAtMost .envelopeBytes candidate.maxEnvelopeBytes.toUInt64 MAX_ENVELOPE_BYTES.toUInt64
  ensureAtMost .resourceBytes candidate.maxResourceBytes.toUInt64 MAX_RESOURCE_BYTES.toUInt64
  ensureAtMost .consumedResources candidate.maxConsumedResources.toUInt64
    MAX_CONSUMED_RESOURCES.toUInt64
  ensureAtMost .referencedResources candidate.maxReferencedResources.toUInt64
    MAX_REFERENCED_RESOURCES.toUInt64
  ensureAtMost .createdResources candidate.maxCreatedResources.toUInt64
    MAX_CREATED_RESOURCES.toUInt64

/-- mirrors crates/zrm-policy/src/limits.rs:244-278 -/
def validateClaimAndAccountingLimits (candidate : PolicyLimitsCandidateV1) :
    Except PolicyValidationErrorV1 Unit := do
  ensureAtMost .logicClaims candidate.maxLogicClaims.toUInt64 MAX_LOGIC_CLAIMS.toUInt64
  ensureAtMost .transformationClaims candidate.maxTransformationClaims.toUInt64
    MAX_TRANSFORMATION_CLAIMS.toUInt64
  ensureAtMost .authorityClaims candidate.maxAuthorityClaims.toUInt64 MAX_AUTHORITY_CLAIMS.toUInt64
  ensureAtMost .dataAvailabilityClaims candidate.maxDataAvailabilityClaims.toUInt64
    MAX_DATA_AVAILABILITY_CLAIMS.toUInt64
  ensureAtMost .accountingRows candidate.maxAccountingRows.toUInt64 MAX_ACCOUNTING_ROWS.toUInt64
  ensureAtMost .evidenceReferences candidate.maxEvidenceReferences.toUInt64
    MAX_EVIDENCE_REFERENCES.toUInt64

/-- mirrors crates/zrm-policy/src/limits.rs:280-309 -/
def validateProofAndRuntimeLimits (candidate : PolicyLimitsCandidateV1) :
    Except PolicyValidationErrorV1 Unit := do
  ensureAtMost .proofArtifactBytes candidate.maxProofArtifactBytes.toUInt64
    MAX_PROOF_ARTIFACT_BYTES.toUInt64
  ensureAtMost .totalProofBytes candidate.maxTotalProofBytes.toUInt64 MAX_TOTAL_PROOF_BYTES.toUInt64
  ensureAtMost .totalVerifierCostUnits candidate.maxTotalVerifierCostUnits
    MAX_TOTAL_VERIFIER_COST_UNITS
  ensureAtMost .nestingDepth candidate.maxNestingDepth.toUInt64 MAX_NESTING_DEPTH.toUInt64
  ensureAtMost .storageWriteBytes candidate.maxStorageWriteBytes.toUInt64
    MAX_STORAGE_WRITE_BYTES.toUInt64

/-- mirrors crates/zrm-policy/src/limits.rs:311-319 -/
def validateResourceWireMinimum (maxResourceBytes : UInt32) : Except PolicyValidationErrorV1 Unit :=
  if maxResourceBytes < MIN_RESOURCE_WIRE_V1_BYTES then
    .error (.resourceWireLimitTooSmall maxResourceBytes MIN_RESOURCE_WIRE_V1_BYTES)
  else .ok ()

/-- mirrors crates/zrm-policy/src/limits.rs:206-211 -/
def validateCandidate (candidate : PolicyLimitsCandidateV1) : Except PolicyValidationErrorV1 Unit := do
  validateIngressAndResourceCountLimits candidate
  validateClaimAndAccountingLimits candidate
  validateProofAndRuntimeLimits candidate
  validateResourceWireMinimum candidate.maxResourceBytes

/-- mirrors crates/zrm-policy/src/limits.rs:48; the field is private, so every
value has passed `try_from` or is one of the two profiles below. -/
structure PolicyLimitsV1 where
  inner : PolicyLimitsCandidateV1
  valid : validateCandidate inner = .ok ()
  deriving DecidableEq

namespace PolicyLimitsV1

/-- mirrors crates/zrm-policy/src/limits.rs:184-187 -/
def tryFrom (candidate : PolicyLimitsCandidateV1) : Except PolicyValidationErrorV1 PolicyLimitsV1 :=
  match h : validateCandidate candidate with
  | .error e => .error e
  | .ok () => .ok ⟨candidate, h⟩

/-- mirrors crates/zrm-policy/src/limits.rs:88-107 -/
def strictDefault : PolicyLimitsV1 where
  inner := {
    maxEnvelopeBytes := 1024 * 1024
    maxResourceBytes := 4 * 1024
    maxConsumedResources := 64
    maxReferencedResources := 64
    maxCreatedResources := 64
    maxLogicClaims := 192
    maxTransformationClaims := 64
    maxAuthorityClaims := 192
    maxDataAvailabilityClaims := 64
    maxAccountingRows := 128
    maxEvidenceReferences := 128
    maxProofArtifactBytes := 256 * 1024
    maxTotalProofBytes := 768 * 1024
    maxTotalVerifierCostUnits := 4294967295
    maxNestingDepth := 8
    maxStorageWriteBytes := 2 * 1024 * 1024 }
  valid := by decide

/-- mirrors crates/zrm-policy/src/limits.rs:111-130 -/
def protocolCeiling : PolicyLimitsV1 where
  inner := {
    maxEnvelopeBytes := MAX_ENVELOPE_BYTES
    maxResourceBytes := MAX_RESOURCE_BYTES
    maxConsumedResources := MAX_CONSUMED_RESOURCES
    maxReferencedResources := MAX_REFERENCED_RESOURCES
    maxCreatedResources := MAX_CREATED_RESOURCES
    maxLogicClaims := MAX_LOGIC_CLAIMS
    maxTransformationClaims := MAX_TRANSFORMATION_CLAIMS
    maxAuthorityClaims := MAX_AUTHORITY_CLAIMS
    maxDataAvailabilityClaims := MAX_DATA_AVAILABILITY_CLAIMS
    maxAccountingRows := MAX_ACCOUNTING_ROWS
    maxEvidenceReferences := MAX_EVIDENCE_REFERENCES
    maxProofArtifactBytes := MAX_PROOF_ARTIFACT_BYTES
    maxTotalProofBytes := MAX_TOTAL_PROOF_BYTES
    maxTotalVerifierCostUnits := MAX_TOTAL_VERIFIER_COST_UNITS
    maxNestingDepth := MAX_NESTING_DEPTH
    maxStorageWriteBytes := MAX_STORAGE_WRITE_BYTES }
  valid := by decide

/-! mirrors crates/zrm-policy/src/limits.rs:134-172 -/

def asCandidate (limits : PolicyLimitsV1) : PolicyLimitsCandidateV1 := limits.inner
def maxConsumedResources (limits : PolicyLimitsV1) : UInt16 := limits.inner.maxConsumedResources
def maxReferencedResources (limits : PolicyLimitsV1) : UInt16 := limits.inner.maxReferencedResources
def maxCreatedResources (limits : PolicyLimitsV1) : UInt16 := limits.inner.maxCreatedResources
def maxProofArtifactBytes (limits : PolicyLimitsV1) : UInt32 := limits.inner.maxProofArtifactBytes
def maxTotalProofBytes (limits : PolicyLimitsV1) : UInt32 := limits.inner.maxTotalProofBytes
def maxTotalVerifierCostUnits (limits : PolicyLimitsV1) : UInt64 :=
  limits.inner.maxTotalVerifierCostUnits

/-- `try_from` accepts exactly the candidates that validate, and keeps them. -/
theorem tryFrom_eq_ok {candidate : PolicyLimitsCandidateV1} {limits : PolicyLimitsV1} :
    tryFrom candidate = .ok limits ↔ limits.asCandidate = candidate := by
  unfold tryFrom asCandidate
  refine ⟨fun h => ?_, fun h' => ?_⟩
  · split at h <;> cases h
    rfl
  · obtain rfl := h'
    split
    · rename_i h; rw [limits.valid] at h; cases h
    · rfl

end PolicyLimitsV1

/-! ## The fields as a whole -/

/-- The value of a field, widened to `u64`. -/
def LimitFieldV1.actual (candidate : PolicyLimitsCandidateV1) : LimitFieldV1 → UInt64
  | envelopeBytes => candidate.maxEnvelopeBytes.toUInt64
  | resourceBytes => candidate.maxResourceBytes.toUInt64
  | consumedResources => candidate.maxConsumedResources.toUInt64
  | referencedResources => candidate.maxReferencedResources.toUInt64
  | createdResources => candidate.maxCreatedResources.toUInt64
  | logicClaims => candidate.maxLogicClaims.toUInt64
  | transformationClaims => candidate.maxTransformationClaims.toUInt64
  | authorityClaims => candidate.maxAuthorityClaims.toUInt64
  | dataAvailabilityClaims => candidate.maxDataAvailabilityClaims.toUInt64
  | accountingRows => candidate.maxAccountingRows.toUInt64
  | evidenceReferences => candidate.maxEvidenceReferences.toUInt64
  | proofArtifactBytes => candidate.maxProofArtifactBytes.toUInt64
  | totalProofBytes => candidate.maxTotalProofBytes.toUInt64
  | totalVerifierCostUnits => candidate.maxTotalVerifierCostUnits
  | nestingDepth => candidate.maxNestingDepth.toUInt64
  | storageWriteBytes => candidate.maxStorageWriteBytes.toUInt64

def LimitFieldV1.ceiling : LimitFieldV1 → UInt64
  | envelopeBytes => MAX_ENVELOPE_BYTES.toUInt64
  | resourceBytes => MAX_RESOURCE_BYTES.toUInt64
  | consumedResources => MAX_CONSUMED_RESOURCES.toUInt64
  | referencedResources => MAX_REFERENCED_RESOURCES.toUInt64
  | createdResources => MAX_CREATED_RESOURCES.toUInt64
  | logicClaims => MAX_LOGIC_CLAIMS.toUInt64
  | transformationClaims => MAX_TRANSFORMATION_CLAIMS.toUInt64
  | authorityClaims => MAX_AUTHORITY_CLAIMS.toUInt64
  | dataAvailabilityClaims => MAX_DATA_AVAILABILITY_CLAIMS.toUInt64
  | accountingRows => MAX_ACCOUNTING_ROWS.toUInt64
  | evidenceReferences => MAX_EVIDENCE_REFERENCES.toUInt64
  | proofArtifactBytes => MAX_PROOF_ARTIFACT_BYTES.toUInt64
  | totalProofBytes => MAX_TOTAL_PROOF_BYTES.toUInt64
  | totalVerifierCostUnits => MAX_TOTAL_VERIFIER_COST_UNITS
  | nestingDepth => MAX_NESTING_DEPTH.toUInt64
  | storageWriteBytes => MAX_STORAGE_WRITE_BYTES.toUInt64

/-- The fields in declaration order. -/
def LIMIT_FIELDS : List LimitFieldV1 :=
  [.envelopeBytes, .resourceBytes, .consumedResources, .referencedResources, .createdResources,
    .logicClaims, .transformationClaims, .authorityClaims, .dataAvailabilityClaims, .accountingRows,
    .evidenceReferences, .proofArtifactBytes, .totalProofBytes, .totalVerifierCostUnits,
    .nestingDepth, .storageWriteBytes]

theorem mem_LIMIT_FIELDS (field : LimitFieldV1) : field ∈ LIMIT_FIELDS := by
  cases field <;> decide

/-- The three helpers check the fields in declaration order, before the minimum. -/
theorem validateCandidate_eq (candidate : PolicyLimitsCandidateV1) :
    validateCandidate candidate = (do
      forM LIMIT_FIELDS fun field => ensureAtMost field (field.actual candidate) field.ceiling
      validateResourceWireMinimum candidate.maxResourceBytes) := by
  simp only [validateCandidate, validateIngressAndResourceCountLimits,
    validateClaimAndAccountingLimits, validateProofAndRuntimeLimits, LIMIT_FIELDS, List.forM_cons,
    List.forM_nil, bind_assoc, pure_bind]
  rfl

theorem ensureAtMost_eq_ok {field : LimitFieldV1} {actual ceiling : UInt64} :
    ensureAtMost field actual ceiling = .ok () ↔ actual ≤ ceiling := by
  unfold ensureAtMost
  rw [guard_eq_ok, gt_iff_lt, UInt64.not_lt]
  exact and_iff_left rfl

/-- A validated policy is within every ceiling. -/
theorem PolicyLimitsV1.actual_le (limits : PolicyLimitsV1) (field : LimitFieldV1) :
    field.actual limits.asCandidate ≤ field.ceiling := by
  have hvalid := limits.valid
  rw [validateCandidate_eq] at hvalid
  obtain ⟨hfields, -⟩ := unit_bind_eq_ok.mp hvalid
  exact ensureAtMost_eq_ok.mp (forM_eq_ok.mp hfields field (mem_LIMIT_FIELDS field))

/-- A validated policy allows at most 256 resources in each role. -/
theorem PolicyLimitsV1.maxResources_le (limits : PolicyLimitsV1) :
    limits.maxConsumedResources.toNat ≤ 256 ∧ limits.maxReferencedResources.toNat ≤ 256 ∧
      limits.maxCreatedResources.toNat ≤ 256 :=
  ⟨UInt64.le_iff_toNat_le.mp (limits.actual_le .consumedResources),
    UInt64.le_iff_toNat_le.mp (limits.actual_le .referencedResources),
    UInt64.le_iff_toNat_le.mp (limits.actual_le .createdResources)⟩

/-- A validated policy bounds proof artifacts and verifier cost by the ceilings. -/
theorem PolicyLimitsV1.proofLimits_le (limits : PolicyLimitsV1) :
    limits.maxProofArtifactBytes.toUInt64 ≤ MAX_PROOF_ARTIFACT_BYTES.toUInt64 ∧
      limits.maxTotalVerifierCostUnits ≤ MAX_TOTAL_VERIFIER_COST_UNITS :=
  ⟨limits.actual_le .proofArtifactBytes, limits.actual_le .totalVerifierCostUnits⟩

end Zrm.L3.Limits
