import Zrm.L3Policy.Cost
import Zrm.L3Policy.MachinePolicy

/-!
# Verifier policies (`zrm-policy/src/verifier.rs`, `cost.rs`)

Conversion of verifier-policy candidates, the shape checks of a verifier policy
against a machine policy, and the cost-quote requests made from one.

* `shape_ok`, `admissionShape_ok`: what a passed shape check establishes.
* `quote_le_request`: no quote exceeds the cost limit of its request.
-/
namespace Zrm.L3.Verifier

open Zrm.BigEndian Zrm.Result Zrm.L1.Ids Zrm.L1.Scalar Zrm.L3.Limits Zrm.L3.Machine Zrm.L3.Cost

/-! ## Policies -/

/-- mirrors crates/zrm-policy/src/verifier.rs:20-27 -/
inductive ProofModeV1
  | production | development | test
  deriving DecidableEq, Repr

/-- mirrors crates/zrm-policy/src/verifier.rs:31-76 -/
structure VerifierPolicyCandidateV1 where
  schemaVersion : UInt16
  verifierPolicyId : VerifierPolicyId
  machineId : MachineId
  domainId : DomainId
  backendFamilyId : BackendFamilyId
  verifierId : VerifierId
  programOrKeyDigest : ProgramOrKeyDigest
  artifactCodecId : ArtifactCodecId
  statementSchemaRoot : StatementSchemaRoot
  journalSchemaRoot : JournalSchemaRoot
  proofParameterRoot : ProofParameterRoot
  proofMode : ProofModeV1
  coverageClaimsRoot : CoverageClaimsRoot
  nonClaimsRoot : NonClaimsRoot
  trustedComputingBaseRoot : TrustedComputingBaseRoot
  verifierCostModelId : VerifierCostModelId
  maxVerifierCostUnits : UInt64
  maxArtifactBytes : UInt64
  maxPublicInputBytes : UInt64
  maxPublicOutputBytes : UInt64
  validityStartEpoch : UInt64
  validityEndEpoch : UInt64
  deriving DecidableEq

/-- mirrors crates/zrm-policy/src/verifier.rs:98-101; `try_from` is the only
constructor. -/
structure VerifierPolicyV1 where
  candidate : VerifierPolicyCandidateV1
  validity : ValidityWindowV1
  schema_eq : candidate.schemaVersion = POLICY_SCHEMA_VERSION_V1
  validity_eq : ValidityWindowV1.tryNew .verifierPolicy candidate.validityStartEpoch
    candidate.validityEndEpoch = .ok validity
  deriving DecidableEq

namespace VerifierPolicyV1

/-! mirrors crates/zrm-policy/src/verifier.rs:103-169 -/

def verifierPolicyId (policy : VerifierPolicyV1) : VerifierPolicyId :=
  policy.candidate.verifierPolicyId
def machineId (policy : VerifierPolicyV1) : MachineId := policy.candidate.machineId
def domainId (policy : VerifierPolicyV1) : DomainId := policy.candidate.domainId
def backendFamilyId (policy : VerifierPolicyV1) : BackendFamilyId :=
  policy.candidate.backendFamilyId
def verifierCostModelId (policy : VerifierPolicyV1) : VerifierCostModelId :=
  policy.candidate.verifierCostModelId
def maxVerifierCostUnits (policy : VerifierPolicyV1) : UInt64 :=
  policy.candidate.maxVerifierCostUnits
def maxArtifactBytes (policy : VerifierPolicyV1) : UInt64 := policy.candidate.maxArtifactBytes
def maxPublicInputBytes (policy : VerifierPolicyV1) : UInt64 :=
  policy.candidate.maxPublicInputBytes
def maxPublicOutputBytes (policy : VerifierPolicyV1) : UInt64 :=
  policy.candidate.maxPublicOutputBytes
def isValidAt (policy : VerifierPolicyV1) (epoch : UInt64) : Bool := policy.validity.contains epoch

/-- mirrors crates/zrm-policy/src/verifier.rs:218-234 -/
def tryFrom (candidate : VerifierPolicyCandidateV1) :
    Except PolicyValidationErrorV1 VerifierPolicyV1 :=
  if hschema : candidate.schemaVersion ≠ POLICY_SCHEMA_VERSION_V1 then
    .error (.unsupportedSchemaVersion .verifierPolicy candidate.schemaVersion)
  else do
    let validity ← attach (ValidityWindowV1.tryNew .verifierPolicy
      candidate.validityStartEpoch candidate.validityEndEpoch)
    pure {
      candidate := candidate
      validity := validity.1
      schema_eq := not_not.mp hschema
      validity_eq := validity.2 }

/-- A candidate of this schema with a window is accepted, with a policy that holds it. -/
theorem exists_tryFrom {candidate : VerifierPolicyCandidateV1}
    (hschema : candidate.schemaVersion = POLICY_SCHEMA_VERSION_V1)
    (hwindow : candidate.validityStartEpoch ≤ candidate.validityEndEpoch) :
    ∃ policy, tryFrom candidate = .ok policy ∧ policy.candidate = candidate := by
  have hvalidity : ValidityWindowV1.tryNew .verifierPolicy candidate.validityStartEpoch
      candidate.validityEndEpoch = .ok ⟨candidate.validityStartEpoch, candidate.validityEndEpoch, hwindow⟩ :=
    ValidityWindowV1.tryNew_eq_ok.mpr ⟨rfl, rfl⟩
  refine ⟨⟨candidate, _, hschema, hvalidity⟩, ?_, rfl⟩
  unfold tryFrom
  rw [dif_neg (not_not.mpr hschema), attach_eq_ok ⟨_, hvalidity⟩]
  rfl

theorem isValidAt_iff {policy : VerifierPolicyV1} {epoch : UInt64} :
    policy.isValidAt epoch = true ↔
      policy.candidate.validityStartEpoch ≤ epoch ∧ epoch ≤ policy.candidate.validityEndEpoch := by
  obtain ⟨hstart, hstop⟩ := ValidityWindowV1.tryNew_eq_ok.mp policy.validity_eq
  rw [isValidAt, ValidityWindowV1.contains_iff, hstart, hstop]

end VerifierPolicyV1

/-! ## Quote requests -/

/-- mirrors crates/zrm-policy/src/cost.rs:263-277 -/
def requestFromPolicy (policy : VerifierPolicyV1) (artifactLen canonicalStatementLen : UInt64) :
    CandidateVerifierCostQuoteRequestV1 where
  expectedBackendFamilyId := policy.backendFamilyId
  artifactLen := artifactLen
  canonicalStatementLen := canonicalStatementLen
  maxArtifactBytes := policy.maxArtifactBytes
  maxPublicInputBytes := policy.maxPublicInputBytes
  reservedOutputByteMaximum := policy.maxPublicOutputBytes
  maxVerifierCostUnits := policy.maxVerifierCostUnits

namespace VerifierPolicyV1

/-- mirrors crates/zrm-policy/src/verifier.rs:175-185 -/
def candidateCostQuoteRequest (policy : VerifierPolicyV1)
    (artifactLen canonicalStatementLen : UInt64) : CandidateVerifierCostQuoteRequestV1 :=
  requestFromPolicy policy artifactLen canonicalStatementLen

/-- mirrors crates/zrm-policy/src/verifier.rs:192-199 -/
def candidateAdmissionReservationRequest (policy : VerifierPolicyV1) :
    CandidateVerifierCostQuoteRequestV1 :=
  policy.candidateCostQuoteRequest policy.maxArtifactBytes policy.maxPublicInputBytes

end VerifierPolicyV1

/-! ## Shape checks -/

/-- mirrors crates/zrm-policy/src/error.rs:192-211 -/
inductive VerifierCompatibilityErrorV1
  | admissionVerifierForbidden
  | admissionVerifierPolicyMismatch
  | machineMismatch
  | domainMismatch
  | costModelMismatch
  | machinePolicyInactive
  | verifierPolicyInactive
  | artifactLimitExceedsMachine
  | verifierCostLimitExceedsMachine
  deriving DecidableEq, Repr

/-- mirrors crates/zrm-policy/src/verifier.rs:248-278 -/
def checkUntrustedVerifierCandidateShape (machine : MachinePolicyV1) (verifier : VerifierPolicyV1)
    (epoch : UInt64) : Except VerifierCompatibilityErrorV1 Unit :=
  if machine.machineId ≠ verifier.machineId then .error .machineMismatch
  else if machine.domainId ≠ verifier.domainId then .error .domainMismatch
  else if machine.verifierCostModelId ≠ verifier.verifierCostModelId then
    .error .costModelMismatch
  else if machine.isValidAt epoch = false then .error .machinePolicyInactive
  else if verifier.isValidAt epoch = false then .error .verifierPolicyInactive
  else if verifier.maxArtifactBytes > machine.limits.maxProofArtifactBytes.toUInt64 ∨
      verifier.maxArtifactBytes > machine.limits.maxTotalProofBytes.toUInt64 then
    .error .artifactLimitExceedsMachine
  else if verifier.maxVerifierCostUnits > machine.limits.maxTotalVerifierCostUnits then
    .error .verifierCostLimitExceedsMachine
  else .ok ()

/-- mirrors crates/zrm-policy/src/verifier.rs:292-310 -/
def checkUntrustedAdmissionCandidateShape (machine : MachinePolicyV1) (verifier : VerifierPolicyV1)
    (epoch : UInt64) : Except VerifierCompatibilityErrorV1 Unit :=
  match machine.admissionPolicy with
  | .localKernel => .error .admissionVerifierForbidden
  | .requiredVerifier expectedPolicyId =>
    if expectedPolicyId ≠ verifier.verifierPolicyId then .error .admissionVerifierPolicyMismatch
    else checkUntrustedVerifierCandidateShape machine verifier epoch

theorem shape_ok {machine : MachinePolicyV1} {verifier : VerifierPolicyV1} {epoch : UInt64}
    (h : checkUntrustedVerifierCandidateShape machine verifier epoch = .ok ()) :
    verifier.maxArtifactBytes ≤ machine.limits.maxProofArtifactBytes.toUInt64 ∧
      verifier.maxVerifierCostUnits ≤ machine.limits.maxTotalVerifierCostUnits := by
  simp only [checkUntrustedVerifierCandidateShape, guard_eq_ok, not_or, gt_iff_lt,
    UInt64.not_lt] at h
  obtain ⟨-, -, -, -, -, hbytes, hcost, -⟩ := h
  exact ⟨hbytes.1, hcost⟩

theorem admissionShape_ok {machine : MachinePolicyV1} {verifier : VerifierPolicyV1} {epoch : UInt64}
    (h : checkUntrustedAdmissionCandidateShape machine verifier epoch = .ok ()) :
    checkUntrustedVerifierCandidateShape machine verifier epoch = .ok () := by
  unfold checkUntrustedAdmissionCandidateShape at h
  split at h
  · cases h
  · exact (guard_eq_ok.mp h).2

/-! ## Quotes of a policy's requests -/

/-- A quote is at most the cost limit of its request. -/
theorem quote_le_request {model : VerifierCostModelV1} {row : VerifierCostRowV1}
    {request : CandidateVerifierCostQuoteRequestV1} {quote : CandidateVerifierCostQuoteV1}
    (h : model.computeUntrustedCandidateQuote row request = .ok quote) :
    quote.units ≤ request.maxVerifierCostUnits := by
  obtain ⟨-, -, -, -, hcap, hunits⟩ := quote_eq_ok.mp h
  rw [UInt64.le_iff_toNat_le, hunits]
  exact hcap

/-- A request within its artifact bound is never refused for its artifact. -/
theorem quote_artifact_ok (model : VerifierCostModelV1) (row : VerifierCostRowV1)
    {request : CandidateVerifierCostQuoteRequestV1}
    (h : request.artifactLen ≤ request.maxArtifactBytes) :
    model.computeUntrustedCandidateQuote row request ≠ .error .artifactBytesExceeded := by
  have hbytes : ¬ request.maxArtifactBytes.toNat < request.artifactLen.toNat :=
    Nat.not_lt.mpr (UInt64.le_iff_toNat_le.mp h)
  rw [computeUntrustedCandidateQuote_eq, quoteOutcome, if_neg hbytes]
  intro herror
  repeat' split at herror
  all_goals cases herror

end Zrm.L3.Verifier
