import Zrm.L2Crypto.Hash
import Zrm.L3Policy.Limits

/-!
# Machine policies (`zrm-policy/src/machine.rs`, `window.rs`)

A sealed `MachinePolicyV1` carries, beside the candidate it was made from, the
values derived from it and the facts that they are.

* `MachinePolicyV1.tryFrom_eq_ok`: the conversion accepts a candidate with a
  policy iff the policy holds that candidate.
* `MachinePolicyV1.tryFrom_failure`: its error is the first one of `failures`.
* `machine_policy_sealed`: both, and what the accessors of the policy return.
-/
namespace Zrm.L3.Machine

open Zrm.Result Zrm.L1.Ids Zrm.L2.Hash Zrm.L3.Limits

/-- mirrors crates/zrm-policy/src/lib.rs:52 -/
def POLICY_SCHEMA_VERSION_V1 : UInt16 := 1

/-! ## Validity windows -/

/-- mirrors crates/zrm-policy/src/window.rs:7-10; `try_new` is the only
constructor. -/
structure ValidityWindowV1 where
  start : UInt64
  stop : UInt64
  ordered : start ≤ stop
  deriving DecidableEq

/-- mirrors crates/zrm-policy/src/window.rs:19-29 -/
def ValidityWindowV1.tryNew (object : PolicyObjectV1) (start stop : UInt64) :
    Except PolicyValidationErrorV1 ValidityWindowV1 :=
  if h : stop < start then .error (.invalidValidityWindow object start stop)
  else .ok ⟨start, stop, UInt64.not_lt.mp h⟩

/-- mirrors crates/zrm-policy/src/window.rs:45-47 -/
def ValidityWindowV1.contains (window : ValidityWindowV1) (epoch : UInt64) : Bool :=
  window.start ≤ epoch && epoch ≤ window.stop

theorem ValidityWindowV1.tryNew_eq_ok {object : PolicyObjectV1} {start stop : UInt64}
    {window : ValidityWindowV1} :
    tryNew object start stop = .ok window ↔ window.start = start ∧ window.stop = stop := by
  obtain ⟨s, e, ordered⟩ := window
  unfold tryNew
  refine ⟨fun h => ?_, fun h => ?_⟩
  · split at h <;> cases h
    exact ⟨rfl, rfl⟩
  · obtain ⟨rfl, rfl⟩ := h
    rw [dif_neg (UInt64.not_lt.mpr ordered)]

theorem ValidityWindowV1.err?_tryNew (object : PolicyObjectV1) (start stop : UInt64) :
    err? (tryNew object start stop) =
      if stop < start then some (.invalidValidityWindow object start stop) else none := by
  unfold tryNew
  split <;> rfl

theorem ValidityWindowV1.contains_iff {window : ValidityWindowV1} {epoch : UInt64} :
    window.contains epoch = true ↔ window.start ≤ epoch ∧ epoch ≤ window.stop := by
  simp [contains]

/-! ## Admission -/

/-- mirrors crates/zrm-policy/src/machine.rs:19-24 -/
inductive AdmissionModeV1
  | localKernel | requiredVerifier
  deriving DecidableEq, Repr

/-- mirrors crates/zrm-policy/src/machine.rs:28-33 -/
inductive AdmissionPolicyV1
  | localKernel
  | requiredVerifier (policyId : VerifierPolicyId)
  deriving DecidableEq

/-- mirrors crates/zrm-policy/src/machine.rs:36-52 -/
def AdmissionPolicyV1.tryFromPair (mode : AdmissionModeV1)
    (verifierPolicyId : Option VerifierPolicyId) :
    Except PolicyValidationErrorV1 AdmissionPolicyV1 :=
  match mode, verifierPolicyId with
  | .localKernel, none => .ok .localKernel
  | .localKernel, some _ => .error .unexpectedAdmissionVerifierPolicy
  | .requiredVerifier, some policyId => .ok (.requiredVerifier policyId)
  | .requiredVerifier, none => .error .missingAdmissionVerifierPolicy

/-- The mode asks for a verifier iff there is one. -/
def Paired (mode : AdmissionModeV1) (verifierPolicyId : Option VerifierPolicyId) : Prop :=
  (mode = .localKernel ∧ verifierPolicyId = none) ∨
    (mode = .requiredVerifier ∧ verifierPolicyId.isSome)

theorem AdmissionPolicyV1.tryFromPair_localKernel {mode : AdmissionModeV1}
    {verifierPolicyId : Option VerifierPolicyId} :
    tryFromPair mode verifierPolicyId = .ok .localKernel ↔
      mode = .localKernel ∧ verifierPolicyId = none := by
  cases mode <;> cases verifierPolicyId <;> simp [tryFromPair]

theorem AdmissionPolicyV1.tryFromPair_requiredVerifier {mode : AdmissionModeV1}
    {verifierPolicyId : Option VerifierPolicyId} {policyId : VerifierPolicyId} :
    tryFromPair mode verifierPolicyId = .ok (.requiredVerifier policyId) ↔
      mode = .requiredVerifier ∧ verifierPolicyId = some policyId := by
  cases mode <;> cases verifierPolicyId <;> simp [tryFromPair]

theorem AdmissionPolicyV1.err?_tryFromPair_eq_none {mode : AdmissionModeV1}
    {verifierPolicyId : Option VerifierPolicyId} :
    err? (tryFromPair mode verifierPolicyId) = none ↔ Paired mode verifierPolicyId := by
  cases mode <;> cases verifierPolicyId <;> simp [tryFromPair, err?, Paired]

/-! ## The policy -/

/-- mirrors crates/zrm-policy/src/machine.rs:60-107 -/
structure MachinePolicyCandidateV1 where
  schemaVersion : UInt16
  policyId : PolicyId
  machineId : MachineId
  domainId : DomainId
  cryptoSuiteId : CryptoSuiteId
  accumulatorProfileId : AccumulatorProfileId
  verifierCostModelId : VerifierCostModelId
  supportedResourceSchemaRoot : SupportedResourceSchemaRoot
  supportedTransitionSchemaRoot : SupportedTransitionSchemaRoot
  resourceKindPolicySetRoot : ResourceKindPolicySetRoot
  creationResourceKindPolicyMapRoot : CreationResourceKindPolicyMapRoot
  acceptedPredecessorResourcePolicySetRoot : AcceptedPredecessorResourcePolicySetRoot
  logicVerifierPolicyRoot : LogicVerifierPolicyRoot
  transformationVerifierPolicyRoot : TransformationVerifierPolicyRoot
  authorityVerifierPolicyRoot : AuthorityVerifierPolicyRoot
  dataAvailabilityPolicyRoot : DataAvailabilityPolicyRoot
  admissionMode : AdmissionModeV1
  admissionVerifierPolicyId : Option VerifierPolicyId
  governanceAuthorityRoot : GovernanceAuthorityRoot
  featureSuiteRoot : FeatureSuiteRoot
  limits : PolicyLimitsCandidateV1
  validityStartEpoch : UInt64
  validityEndEpoch : UInt64
  deriving DecidableEq

/-- mirrors crates/zrm-policy/src/machine.rs:115-120; `try_from` is the only
constructor. -/
structure MachinePolicyV1 where
  candidate : MachinePolicyCandidateV1
  admissionPolicy : AdmissionPolicyV1
  limits : PolicyLimitsV1
  validity : ValidityWindowV1
  schema_eq : candidate.schemaVersion = POLICY_SCHEMA_VERSION_V1
  suite_eq : candidate.cryptoSuiteId.asBytes = SHA256_REFERENCE_V1_ID_BYTES
  limits_eq : PolicyLimitsV1.tryFrom candidate.limits = .ok limits
  admission_eq : AdmissionPolicyV1.tryFromPair candidate.admissionMode
    candidate.admissionVerifierPolicyId = .ok admissionPolicy
  validity_eq : ValidityWindowV1.tryNew .machinePolicy candidate.validityStartEpoch
    candidate.validityEndEpoch = .ok validity
  deriving DecidableEq

namespace MachinePolicyV1

/-! mirrors crates/zrm-policy/src/machine.rs:122-184 -/

def schemaVersion (policy : MachinePolicyV1) : UInt16 := policy.candidate.schemaVersion
def policyId (policy : MachinePolicyV1) : PolicyId := policy.candidate.policyId
def machineId (policy : MachinePolicyV1) : MachineId := policy.candidate.machineId
def domainId (policy : MachinePolicyV1) : DomainId := policy.candidate.domainId
def cryptoSuiteId (policy : MachinePolicyV1) : CryptoSuiteId := policy.candidate.cryptoSuiteId
def verifierCostModelId (policy : MachinePolicyV1) : VerifierCostModelId :=
  policy.candidate.verifierCostModelId
def isValidAt (policy : MachinePolicyV1) (epoch : UInt64) : Bool := policy.validity.contains epoch
def asCandidate (policy : MachinePolicyV1) : MachinePolicyCandidateV1 := policy.candidate

/-- mirrors crates/zrm-policy/src/machine.rs:196-222 -/
def tryFrom (candidate : MachinePolicyCandidateV1) :
    Except PolicyValidationErrorV1 MachinePolicyV1 :=
  if hschema : candidate.schemaVersion ≠ POLICY_SCHEMA_VERSION_V1 then
    .error (.unsupportedSchemaVersion .machinePolicy candidate.schemaVersion)
  else if hsuite : candidate.cryptoSuiteId.asBytes ≠ SHA256_REFERENCE_V1_ID_BYTES then
    .error .unsupportedResourceCryptoSuite
  else do
    let limits ← attach (PolicyLimitsV1.tryFrom candidate.limits)
    let admissionPolicy ← attach (AdmissionPolicyV1.tryFromPair
      candidate.admissionMode candidate.admissionVerifierPolicyId)
    let validity ← attach (ValidityWindowV1.tryNew .machinePolicy
      candidate.validityStartEpoch candidate.validityEndEpoch)
    pure {
      candidate := candidate
      admissionPolicy := admissionPolicy.1
      limits := limits.1
      validity := validity.1
      schema_eq := not_not.mp hschema
      suite_eq := not_not.mp hsuite
      limits_eq := limits.2
      admission_eq := admissionPolicy.2
      validity_eq := validity.2 }

/-- The conversion accepts a candidate with the policies that hold it. -/
theorem tryFrom_eq_ok {candidate : MachinePolicyCandidateV1} {policy : MachinePolicyV1} :
    tryFrom candidate = .ok policy ↔ policy.candidate = candidate := by
  unfold tryFrom
  refine ⟨fun h => ?_, fun h => ?_⟩
  · split at h
    · cases h
    split at h
    · cases h
    obtain ⟨limits, _, h⟩ := bind_eq_ok.mp h
    obtain ⟨admissionPolicy, _, h⟩ := bind_eq_ok.mp h
    obtain ⟨validity, _, h⟩ := bind_eq_ok.mp h
    cases h
    rfl
  · obtain rfl := h
    rw [dif_neg (not_not.mpr policy.schema_eq), dif_neg (not_not.mpr policy.suite_eq),
      attach_eq_ok ⟨policy.limits, policy.limits_eq⟩, ok_bind,
      attach_eq_ok ⟨policy.admissionPolicy, policy.admission_eq⟩, ok_bind,
      attach_eq_ok ⟨policy.validity, policy.validity_eq⟩, ok_bind]
    rfl

/-! ## The first failing check -/

/-- The error of each check of a candidate, in the order of the checks. -/
def failures (candidate : MachinePolicyCandidateV1) : List (Option PolicyValidationErrorV1) :=
  [if candidate.schemaVersion = POLICY_SCHEMA_VERSION_V1 then none
    else some (.unsupportedSchemaVersion .machinePolicy candidate.schemaVersion),
    if candidate.cryptoSuiteId.asBytes = SHA256_REFERENCE_V1_ID_BYTES then none
    else some .unsupportedResourceCryptoSuite,
    err? (PolicyLimitsV1.tryFrom candidate.limits),
    err? (AdmissionPolicyV1.tryFromPair candidate.admissionMode
      candidate.admissionVerifierPolicyId),
    if candidate.validityEndEpoch < candidate.validityStartEpoch then
      some (.invalidValidityWindow .machinePolicy candidate.validityStartEpoch
        candidate.validityEndEpoch)
    else none]

theorem tryFrom_failure (candidate : MachinePolicyCandidateV1) :
    err? (tryFrom candidate) = (failures candidate).findSome? id := by
  unfold tryFrom failures
  simp only [findSome?_id_cons, List.findSome?_nil]
  by_cases hschema : candidate.schemaVersion = POLICY_SCHEMA_VERSION_V1
  · by_cases hsuite : candidate.cryptoSuiteId.asBytes = SHA256_REFERENCE_V1_ID_BYTES
    · rw [dif_neg (not_not.mpr hschema), dif_neg (not_not.mpr hsuite), if_pos hschema,
        if_pos hsuite, Option.none_or, Option.none_or, ← ValidityWindowV1.err?_tryNew]
      refine err?_attach_bind fun limits => ?_
      refine err?_attach_bind fun admissionPolicy => ?_
      refine err?_attach_bind fun validity => ?_
      rfl
    · rw [dif_neg (not_not.mpr hschema), dif_pos hsuite, if_pos hschema, if_neg hsuite]
      rfl
  · rw [dif_pos hschema, if_neg hschema]
    rfl

theorem failures_none {candidate : MachinePolicyCandidateV1} :
    (failures candidate).findSome? id = none ↔
      candidate.schemaVersion = POLICY_SCHEMA_VERSION_V1 ∧
      candidate.cryptoSuiteId.asBytes = SHA256_REFERENCE_V1_ID_BYTES ∧
      (∃ limits, PolicyLimitsV1.tryFrom candidate.limits = .ok limits) ∧
      Paired candidate.admissionMode candidate.admissionVerifierPolicyId ∧
      candidate.validityStartEpoch ≤ candidate.validityEndEpoch := by
  simp only [failures, List.findSome?_eq_none_iff, List.forall_mem_cons, id_eq,
    err?_eq_none.symm, ← AdmissionPolicyV1.err?_tryFromPair_eq_none]
  simp

end MachinePolicyV1

/-! ## Sealed policies -/

/-- What the accessors of a policy say of the candidate it was made from. -/
structure Agrees (policy : MachinePolicyV1) (candidate : MachinePolicyCandidateV1) : Prop where
  limits : policy.limits.asCandidate = candidate.limits
  localKernel : policy.admissionPolicy = .localKernel ↔
    candidate.admissionMode = .localKernel ∧ candidate.admissionVerifierPolicyId = none
  requiredVerifier : ∀ policyId, policy.admissionPolicy = .requiredVerifier policyId ↔
    candidate.admissionMode = .requiredVerifier ∧
      candidate.admissionVerifierPolicyId = some policyId
  isValidAt : ∀ epoch, policy.isValidAt epoch = true ↔
    candidate.validityStartEpoch ≤ epoch ∧ epoch ≤ candidate.validityEndEpoch
  asCandidate : policy.asCandidate = candidate

theorem MachinePolicyV1.agrees (policy : MachinePolicyV1) : Agrees policy policy.candidate where
  limits := PolicyLimitsV1.tryFrom_eq_ok.mp policy.limits_eq
  localKernel := by
    rw [← AdmissionPolicyV1.tryFromPair_localKernel, policy.admission_eq, Except.ok.injEq]
  requiredVerifier := by
    intro policyId
    rw [← AdmissionPolicyV1.tryFromPair_requiredVerifier, policy.admission_eq, Except.ok.injEq]
  isValidAt := by
    intro epoch
    obtain ⟨hstart, hstop⟩ := ValidityWindowV1.tryNew_eq_ok.mp policy.validity_eq
    rw [MachinePolicyV1.isValidAt, ValidityWindowV1.contains_iff, hstart, hstop]
  asCandidate := rfl

/-- **Sealed machine policies.** `try_from` accepts exactly the candidates that
pass the five checks and otherwise fails with the first one's error; the
accessors of an accepted policy agree with the candidate; and the candidate of
any policy converts to that policy again. -/
theorem machine_policy_sealed (candidate : MachinePolicyCandidateV1) :
    ((∃ policy, MachinePolicyV1.tryFrom candidate = .ok policy) ↔
      candidate.schemaVersion = 1 ∧
      candidate.cryptoSuiteId.asBytes = SHA256_REFERENCE_V1_ID_BYTES ∧
      (∃ limits, PolicyLimitsV1.tryFrom candidate.limits = .ok limits) ∧
      Paired candidate.admissionMode candidate.admissionVerifierPolicyId ∧
      candidate.validityStartEpoch ≤ candidate.validityEndEpoch) ∧
    (∀ e, MachinePolicyV1.tryFrom candidate = .error e ↔
      (MachinePolicyV1.failures candidate).findSome? id = some e) ∧
    ∀ policy, MachinePolicyV1.tryFrom candidate = .ok policy →
      Agrees policy candidate ∧ MachinePolicyV1.tryFrom policy.asCandidate = .ok policy := by
  refine ⟨?_, fun e => ?_, fun policy h => ?_⟩
  · rw [← err?_eq_none, MachinePolicyV1.tryFrom_failure, MachinePolicyV1.failures_none]
    rfl
  · rw [← err?_eq_some, MachinePolicyV1.tryFrom_failure]
  · obtain rfl := MachinePolicyV1.tryFrom_eq_ok.mp h
    exact ⟨policy.agrees, h⟩

/-- A candidate at the protocol ceilings that requires a verifier. -/
def ceilingCandidate : MachinePolicyCandidateV1 where
  schemaVersion := 1
  policyId := .repeated 1
  machineId := .repeated 2
  domainId := .repeated 3
  cryptoSuiteId := ⟨⟨SHA256_REFERENCE_V1_ID_BYTES, rfl⟩⟩
  accumulatorProfileId := .repeated 4
  verifierCostModelId := .repeated 5
  supportedResourceSchemaRoot := .repeated 6
  supportedTransitionSchemaRoot := .repeated 7
  resourceKindPolicySetRoot := .repeated 8
  creationResourceKindPolicyMapRoot := .repeated 9
  acceptedPredecessorResourcePolicySetRoot := .repeated 10
  logicVerifierPolicyRoot := .repeated 11
  transformationVerifierPolicyRoot := .repeated 12
  authorityVerifierPolicyRoot := .repeated 13
  dataAvailabilityPolicyRoot := .repeated 14
  admissionMode := .requiredVerifier
  admissionVerifierPolicyId := some (.repeated 15)
  governanceAuthorityRoot := .repeated 16
  featureSuiteRoot := .repeated 17
  limits := PolicyLimitsV1.protocolCeiling.asCandidate
  validityStartEpoch := 5
  validityEndEpoch := 9

theorem machine_policy_sealed_ceiling :
    ∃ policy, MachinePolicyV1.tryFrom ceilingCandidate = .ok policy ∧
      Agrees policy ceilingCandidate := by
  obtain ⟨hok, -, hagrees⟩ := machine_policy_sealed ceilingCandidate
  have haccepted : ∃ policy, MachinePolicyV1.tryFrom ceilingCandidate = .ok policy :=
    hok.mpr ⟨rfl, rfl, ⟨_, PolicyLimitsV1.tryFrom_eq_ok.mpr rfl⟩, .inr ⟨rfl, rfl⟩, by decide⟩
  obtain ⟨policy, hpolicy⟩ := haccepted
  exact ⟨policy, hpolicy, (hagrees policy hpolicy).1⟩

end Zrm.L3.Machine
