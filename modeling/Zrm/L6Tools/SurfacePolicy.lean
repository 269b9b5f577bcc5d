/-!
# The reviewed public surface (`tools/check_architecture.py`)

The allowlists of the policy modules and the quarantine, as the gate has them. The
dictionaries of the source have the same keys, the file names of the reviewed modules.
-/
namespace Zrm.L6.Architecture

/-- A reviewed module; `cost.rs` and so on, as keys. -/
inductive Role
  | cost
  | fuzzAssertions
  | error
  | lib
  | verifier
  deriving DecidableEq

def Role.fileName : Role → String
  | .cost => "cost.rs"
  | .fuzzAssertions => "fuzz_assertions.rs"
  | .error => "error.rs"
  | .lib => "lib.rs"
  | .verifier => "verifier.rs"

/-- The key, if the dictionaries have it. -/
def Role.ofFileName (name : String) : Option Role :=
  [Role.cost, .fuzzAssertions, .error, .lib, .verifier].find? fun role => role.fileName == name

/-- mirrors tools/check_architecture.py:40-51 -/
def quarantinedAuthorityMethods : List String :=
  ["admission_reservation_quote_request", "candidate_admission_reservation_request",
   "candidate_cost_quote_request", "check_untrusted_admission_candidate_shape",
   "check_untrusted_verifier_candidate_shape", "compute_quote",
   "compute_untrusted_candidate_quote", "cost_quote_request",
   "validate_admission_verifier_candidate", "validate_verifier_candidate_compatibility"]

/-- mirrors tools/check_architecture.py:52-58 -/
def quarantinedAuthorityTypes : List String :=
  ["CandidateVerifierCostQuoteRequestV1", "CandidateVerifierCostQuoteV1",
   "VerifierCompatibilityErrorV1", "VerifierCostQuoteRequestV1", "VerifierCostQuoteV1"]

/-- mirrors tools/check_architecture.py:66-72 -/
def allowedAuthorityCfgExpressions : List String :=
  ["test", "kani", "fuzzing", "any(test,kani)", "any(test,kani,fuzzing)"]

/-- mirrors tools/check_architecture.py:93-126 -/
def publicFunctionAllowlist : Role → List String
  | .cost =>
    ["artifact_byte_units", "artifact_len", "backend_family_id", "base_units",
     "canonical_statement_len", "label", "max_charge_units", "new",
     "reserved_output_byte_units", "rows_root", "schema_version", "statement_byte_units",
     "units"]
  | .fuzzAssertions => ["fuzz_assert_untrusted_candidate_cost_invariants"]
  | .error => []
  | .lib => []
  | .verifier =>
    ["as_candidate", "backend_family_id", "domain_id", "is_valid_at", "machine_id",
     "max_artifact_bytes", "max_public_input_bytes", "max_public_output_bytes",
     "max_verifier_cost_units", "proof_mode", "verifier_cost_model_id", "verifier_policy_id"]

/-- mirrors tools/check_architecture.py:128-163 -/
def publicFunctionSignatureAllowlist : Role → List String
  | .cost =>
    ["CandidateVerifierCostQuoteRequestV1::pub const fn artifact_len(&self) -> u64",
     "CandidateVerifierCostQuoteRequestV1::pub const fn canonical_statement_len(&self) -> u64",
     "CandidateVerifierCostQuoteV1::pub const fn units(self) -> u64",
     "VerifierCostErrorV1::pub const fn label(self) -> &'static str",
     "VerifierCostModelV1::pub const fn max_charge_units(&self) -> u64",
     "VerifierCostModelV1::pub const fn rows_root(&self) -> VerifierCostRowsRoot",
     "VerifierCostModelV1::pub const fn schema_version(&self) -> u16",
     "VerifierCostRowV1::pub const fn artifact_byte_units(&self) -> u64",
     "VerifierCostRowV1::pub const fn backend_family_id(&self) -> BackendFamilyId",
     "VerifierCostRowV1::pub const fn base_units(&self) -> u64",
     "VerifierCostRowV1::pub const fn new(candidate: VerifierCostRowCandidateV1) -> Self",
     "VerifierCostRowV1::pub const fn reserved_output_byte_units(&self) -> u64",
     "VerifierCostRowV1::pub const fn statement_byte_units(&self) -> u64"]
  | .fuzzAssertions =>
    ["<module>::pub fn fuzz_assert_untrusted_candidate_cost_invariants(data: &[u8])"]
  | .error => []
  | .lib => []
  | .verifier =>
    ["VerifierPolicyV1::pub const fn as_candidate(&self) -> VerifierPolicyCandidateV1",
     "VerifierPolicyV1::pub const fn backend_family_id(&self) -> BackendFamilyId",
     "VerifierPolicyV1::pub const fn domain_id(&self) -> DomainId",
     "VerifierPolicyV1::pub const fn is_valid_at(&self, epoch: u64) -> bool",
     "VerifierPolicyV1::pub const fn machine_id(&self) -> MachineId",
     "VerifierPolicyV1::pub const fn max_artifact_bytes(&self) -> u64",
     "VerifierPolicyV1::pub const fn max_public_input_bytes(&self) -> u64",
     "VerifierPolicyV1::pub const fn max_public_output_bytes(&self) -> u64",
     "VerifierPolicyV1::pub const fn max_verifier_cost_units(&self) -> u64",
     "VerifierPolicyV1::pub const fn proof_mode(&self) -> ProofModeV1",
     "VerifierPolicyV1::pub const fn verifier_cost_model_id(&self) -> VerifierCostModelId",
     "VerifierPolicyV1::pub const fn verifier_policy_id(&self) -> VerifierPolicyId"]

/-- mirrors tools/check_architecture.py:165-171 -/
def publicValueAllowlist : Role → List String
  | .cost => ["<module>::pub const VERIFIER_COST_MODEL_SCHEMA_V1: u16 = 1;"]
  | .fuzzAssertions => []
  | .error => []
  | .lib => ["<module>::pub const POLICY_SCHEMA_VERSION_V1: u16 = 1;"]
  | .verifier => []

/-- mirrors tools/check_architecture.py:173-190 -/
def publicTypeAllowlist : Role → List String
  | .cost =>
    ["VerifierCostErrorV1", "VerifierCostModelCandidateV1", "VerifierCostModelV1",
     "VerifierCostRowCandidateV1", "VerifierCostRowV1"]
  | .fuzzAssertions => []
  | .error =>
    ["LimitFieldV1", "PolicyObjectV1", "PolicyValidationErrorV1", "ResourceDimensionErrorV1"]
  | .lib => []
  | .verifier => ["ProofModeV1", "VerifierPolicyCandidateV1", "VerifierPolicyV1"]

/-- mirrors tools/check_architecture.py:192-225 -/
def publicReexportAllowlist : Role → List String
  | .cost => ["fuzz_assert_untrusted_candidate_cost_invariants"]
  | .fuzzAssertions => []
  | .error => []
  | .lib =>
    ["AccountingModeV1", "AdmissionModeV1", "AdmissionPolicyV1", "DataAvailabilityRequirementV1",
     "LimitFieldV1", "MachinePolicyCandidateV1", "MachinePolicyV1",
     "PolicyLimitsCandidateV1", "PolicyLimitsV1", "PolicyObjectV1",
     "PolicyValidationErrorV1", "ProofModeV1", "ResourceDimensionErrorV1",
     "ResourceKindPolicyCandidateV1", "ResourceKindPolicyV1", "ValidationContextCandidateV1",
     "ValidationContextV1", "ValidityWindowV1", "VerifierCostErrorV1",
     "VerifierCostModelCandidateV1", "VerifierCostModelV1", "VerifierCostRowCandidateV1",
     "VerifierCostRowV1", "VerifierPolicyCandidateV1", "VerifierPolicyV1",
     "fuzz_assert_untrusted_candidate_cost_invariants"]
  | .verifier => []

/-- mirrors tools/check_architecture.py:227-233 -/
def publicModuleAllowlist : Role → List String
  | .cost => []
  | .fuzzAssertions => []
  | .error => []
  | .lib => []
  | .verifier => []

end Zrm.L6.Architecture
