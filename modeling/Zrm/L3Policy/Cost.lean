import Zrm.L1Types.Opaque
import Zrm.L1Types.Scalar

/-!
# Verifier cost quotes (`zrm-policy/src/cost.rs`)

* `accumulateCharge_eq`: the checked `u128` sum is the sum in the naturals,
  or overflows because that sum does.
* `quote_eq_ok`: the conditions of an accepted quote.
* `quote_exact`: the quote as a function of that total.
-/
namespace Zrm.L3.Cost
open Zrm.BigEndian Zrm.Result Zrm.L1.Ids Zrm.L1.Scalar

/-- mirrors crates/zrm-policy/src/cost.rs:15 -/
def VERIFIER_COST_MODEL_SCHEMA_V1 : UInt16 := 1

/-- mirrors crates/zrm-policy/src/cost.rs:19-30 -/
structure VerifierCostRowCandidateV1 where
  backendFamilyId : BackendFamilyId
  baseUnits : UInt64
  artifactByteUnits : UInt64
  statementByteUnits : UInt64
  reservedOutputByteUnits : UInt64

/-- mirrors crates/zrm-policy/src/cost.rs:39-45 -/
structure VerifierCostRowV1 where
  backendFamilyId : BackendFamilyId
  baseUnits : UInt64
  artifactByteUnits : UInt64
  statementByteUnits : UInt64
  reservedOutputByteUnits : UInt64
  deriving DecidableEq

/-- mirrors crates/zrm-policy/src/cost.rs:54-62 -/
def VerifierCostRowV1.new (candidate : VerifierCostRowCandidateV1) : VerifierCostRowV1 where
  backendFamilyId := candidate.backendFamilyId
  baseUnits := candidate.baseUnits
  artifactByteUnits := candidate.artifactByteUnits
  statementByteUnits := candidate.statementByteUnits
  reservedOutputByteUnits := candidate.reservedOutputByteUnits

/-- mirrors crates/zrm-policy/src/cost.rs:100-107 -/
structure VerifierCostModelCandidateV1 where
  schemaVersion : UInt16
  rowsRoot : VerifierCostRowsRoot
  maxChargeUnits : UInt64

/-- mirrors crates/zrm-policy/src/cost.rs:122-126; `try_from` is the only
constructor. -/
structure VerifierCostModelV1 where
  schemaVersion : UInt16
  rowsRoot : VerifierCostRowsRoot
  maxChargeUnits : UInt64
  schema_eq : schemaVersion = VERIFIER_COST_MODEL_SCHEMA_V1
  deriving DecidableEq

/-- mirrors crates/zrm-policy/src/cost.rs:346-363 -/
inductive VerifierCostErrorV1
  | unsupportedModelSchema
  | backendFamilyMismatch
  | artifactBytesExceeded
  | publicInputBytesExceeded
  | arithmeticOverflow
  | chargeDoesNotFitU64
  | modelChargeLimitExceeded
  | verifierChargeLimitExceeded
  deriving DecidableEq, Repr

/-- mirrors crates/zrm-policy/src/cost.rs:368-379 -/
def VerifierCostErrorV1.label : VerifierCostErrorV1 → String
  | unsupportedModelSchema => "zrm.policy.verifier_cost_model_schema"
  | backendFamilyMismatch => "zrm.policy.verifier_cost_backend_mismatch"
  | artifactBytesExceeded => "zrm.bounds.verifier_artifact_bytes"
  | publicInputBytesExceeded => "zrm.bounds.verifier_public_input_bytes"
  | arithmeticOverflow => "zrm.policy.verifier_cost_arithmetic_overflow"
  | chargeDoesNotFitU64 => "zrm.policy.verifier_cost_u64_overflow"
  | modelChargeLimitExceeded => "zrm.policy.verifier_cost_model_limit"
  | verifierChargeLimitExceeded => "zrm.policy.verifier_cost_policy_limit"

/-- The labels tell the errors apart. -/
theorem VerifierCostErrorV1.label_injective : Function.Injective VerifierCostErrorV1.label := by
  intro e e' h
  cases e <;> cases e' <;> simp_all [label]

/-- mirrors crates/zrm-policy/src/cost.rs:213-232 -/
def VerifierCostModelV1.tryFrom (candidate : VerifierCostModelCandidateV1) :
    Except VerifierCostErrorV1 VerifierCostModelV1 :=
  if h : candidate.schemaVersion ≠ VERIFIER_COST_MODEL_SCHEMA_V1 then .error .unsupportedModelSchema
  else .ok {
    schemaVersion := candidate.schemaVersion
    rowsRoot := candidate.rowsRoot
    maxChargeUnits := candidate.maxChargeUnits
    schema_eq := not_not.mp h }

/-- mirrors crates/zrm-policy/src/cost.rs:243-258 -/
structure CandidateVerifierCostQuoteRequestV1 where
  expectedBackendFamilyId : BackendFamilyId
  artifactLen : UInt64
  canonicalStatementLen : UInt64
  maxArtifactBytes : UInt64
  maxPublicInputBytes : UInt64
  reservedOutputByteMaximum : UInt64
  maxVerifierCostUnits : UInt64
  deriving DecidableEq

/-- mirrors crates/zrm-policy/src/cost.rs:327-329 -/
structure CandidateVerifierCostQuoteV1 where
  units : UInt64
  deriving DecidableEq

/-! ## The quote -/

/-- mirrors crates/zrm-policy/src/cost.rs:389-393 -/
def checkedMultiply (coefficient amount : UInt64) : Except VerifierCostErrorV1 U128 :=
  match u128CheckedMul (u128From coefficient) (u128From amount) with
  | some product => .ok product
  | none => .error .arithmeticOverflow

/-- mirrors crates/zrm-policy/src/cost.rs:396-399 -/
def checkedAdd (left right : U128) : Except VerifierCostErrorV1 U128 :=
  match u128CheckedAdd left right with
  | some sum => .ok sum
  | none => .error .arithmeticOverflow

/-- The accumulator of `compute_untrusted_candidate_quote`.
mirrors crates/zrm-policy/src/cost.rs:184-200 -/
def accumulateCharge (row : VerifierCostRowV1) (request : CandidateVerifierCostQuoteRequestV1) :
    Except VerifierCostErrorV1 U128 := do
  let charge ← checkedAdd 0 (u128From row.baseUnits)
  let charge ← checkedAdd charge (← checkedMultiply row.artifactByteUnits request.artifactLen)
  let charge ←
    checkedAdd charge (← checkedMultiply row.statementByteUnits request.canonicalStatementLen)
  checkedAdd charge
    (← checkedMultiply row.reservedOutputByteUnits request.reservedOutputByteMaximum)

/-- mirrors crates/zrm-policy/src/cost.rs:169-210 -/
def VerifierCostModelV1.computeUntrustedCandidateQuote (model : VerifierCostModelV1)
    (row : VerifierCostRowV1) (request : CandidateVerifierCostQuoteRequestV1) :
    Except VerifierCostErrorV1 CandidateVerifierCostQuoteV1 := do
  if row.backendFamilyId ≠ request.expectedBackendFamilyId then throw .backendFamilyMismatch else do
  if request.artifactLen > request.maxArtifactBytes then throw .artifactBytesExceeded else do
  if request.canonicalStatementLen > request.maxPublicInputBytes then
    throw .publicInputBytesExceeded else do
  let charge ← accumulateCharge row request
  match u64TryFrom charge with
  | none => throw .chargeDoesNotFitU64
  | some units =>
    if units > model.maxChargeUnits then throw .modelChargeLimitExceeded
    else if units > request.maxVerifierCostUnits then throw .verifierChargeLimitExceeded
    else return { units }

/-! ## The total in the naturals -/

/-- What a dispatch costs. -/
def total (row : VerifierCostRowV1) (request : CandidateVerifierCostQuoteRequestV1) : Nat :=
  row.baseUnits.toNat + row.artifactByteUnits.toNat * request.artifactLen.toNat +
    row.statementByteUnits.toNat * request.canonicalStatementLen.toNat +
    row.reservedOutputByteUnits.toNat * request.reservedOutputByteMaximum.toNat

/-- The quote that the total and the bounds call for, in order of precedence. -/
def quoteOutcome (model : VerifierCostModelV1) (row : VerifierCostRowV1)
    (request : CandidateVerifierCostQuoteRequestV1) :
    Except VerifierCostErrorV1 CandidateVerifierCostQuoteV1 :=
  if row.backendFamilyId ≠ request.expectedBackendFamilyId then .error .backendFamilyMismatch
  else if request.maxArtifactBytes.toNat < request.artifactLen.toNat then .error .artifactBytesExceeded
  else if request.maxPublicInputBytes.toNat < request.canonicalStatementLen.toNat then
    .error .publicInputBytesExceeded
  else if 2 ^ 128 ≤ total row request then .error .arithmeticOverflow
  else if 2 ^ 64 ≤ total row request then .error .chargeDoesNotFitU64
  else if model.maxChargeUnits.toNat < total row request then .error .modelChargeLimitExceeded
  else if request.maxVerifierCostUnits.toNat < total row request then
    .error .verifierChargeLimitExceeded
  else .ok { units := UInt64.ofNat (total row request) }

/-- No product overflows. -/
theorem checkedMultiply_eq (coefficient amount : UInt64) :
    checkedMultiply coefficient amount =
      .ok (BitVec.ofNat 128 (coefficient.toNat * amount.toNat)) := by
  unfold checkedMultiply
  rw [u128CheckedMul_u64]

theorem checkedAdd_ofNat {m n : Nat} (hm : m < 2 ^ 128) (hn : n < 2 ^ 128) :
    checkedAdd (BitVec.ofNat 128 m) (BitVec.ofNat 128 n) =
      if m + n < 2 ^ 128 then .ok (BitVec.ofNat 128 (m + n)) else .error .arithmeticOverflow := by
  unfold checkedAdd
  rw [u128CheckedAdd_ofNat hm hn]
  by_cases hsum : m + n < 2 ^ 128
  · rw [if_pos hsum, if_pos hsum]
  · rw [if_neg hsum, if_neg hsum]

/-- Adding one more product to a running sum. -/
theorem checkedAdd_product {m : Nat} (hm : m < 2 ^ 128) (coefficient amount : UInt64) :
    (do checkedAdd (BitVec.ofNat 128 m) (← checkedMultiply coefficient amount)) =
      if m + coefficient.toNat * amount.toNat < 2 ^ 128 then
        .ok (BitVec.ofNat 128 (m + coefficient.toNat * amount.toNat))
      else .error .arithmeticOverflow := by
  have hprod : coefficient.toNat * amount.toNat < 2 ^ 128 :=
    Nat.lt_of_lt_of_le (Nat.mul_lt_mul'' coefficient.toNat_lt amount.toNat_lt) (by decide)
  rw [checkedMultiply_eq, ok_bind, checkedAdd_ofNat hm hprod]

/-- **The checked sum.** It overflows somewhere iff the whole total does. -/
theorem accumulateCharge_eq (row : VerifierCostRowV1) (request : CandidateVerifierCostQuoteRequestV1) :
    accumulateCharge row request =
      if total row request < 2 ^ 128 then .ok (BitVec.ofNat 128 (total row request))
      else .error .arithmeticOverflow := by
  have hbase : checkedAdd 0 (u128From row.baseUnits) = .ok (BitVec.ofNat 128 row.baseUnits.toNat) := by
    have hlt := row.baseUnits.toNat_lt
    have hadd := checkedAdd_ofNat (m := 0) (n := row.baseUnits.toNat) (by decide) (by omega)
    rwa [Nat.zero_add, if_pos (by omega)] at hadd
  have hlt : row.baseUnits.toNat < 2 ^ 128 := row.baseUnits.toNat_lt.trans (by decide)
  unfold accumulateCharge total
  rw [hbase, ok_bind, ← bind_assoc, checkedAdd_product hlt]
  by_cases h1 : row.baseUnits.toNat + row.artifactByteUnits.toNat * request.artifactLen.toNat < 2 ^ 128
  · rw [if_pos h1, ok_bind, ← bind_assoc, checkedAdd_product h1]
    by_cases h2 : row.baseUnits.toNat + row.artifactByteUnits.toNat * request.artifactLen.toNat +
        row.statementByteUnits.toNat * request.canonicalStatementLen.toNat < 2 ^ 128
    · rw [if_pos h2, ok_bind, checkedAdd_product h2]
    · rw [if_neg h2, error_bind, if_neg (by omega)]
  · rw [if_neg h1, error_bind, if_neg (by omega)]

theorem u64TryFrom_ofNat {n : Nat} (h : n < 2 ^ 128) :
    u64TryFrom (BitVec.ofNat 128 n) = if n < 2 ^ 64 then some (UInt64.ofNat n) else none := by
  unfold u64TryFrom
  rw [toNat_u128 h]

/-- The computed quote is the outcome that the total calls for. -/
theorem computeUntrustedCandidateQuote_eq (model : VerifierCostModelV1) (row : VerifierCostRowV1)
    (request : CandidateVerifierCostQuoteRequestV1) :
    model.computeUntrustedCandidateQuote row request = quoteOutcome model row request := by
  unfold VerifierCostModelV1.computeUntrustedCandidateQuote quoteOutcome
  simp only [gt_iff_lt, UInt64.lt_iff_toNat_lt, throw_eq, accumulateCharge_eq]
  split
  · rfl
  · split
    · rfl
    · split
      · rfl
      · by_cases h128 : total row request < 2 ^ 128
        · rw [if_pos h128, ok_bind, u64TryFrom_ofNat h128, if_neg (Nat.not_le_of_lt h128)]
          by_cases h64 : total row request < 2 ^ 64
          · rw [if_pos h64, if_neg (Nat.not_le_of_lt h64)]
            simp only [toNat_u64 h64, pure_eq]
          · rw [if_neg h64, if_pos (Nat.le_of_not_lt h64)]
        · rw [if_neg h128, error_bind, if_pos (Nat.le_of_not_lt h128)]

/-- The conditions of an accepted quote; the caps are `u64`, so the total fits. -/
theorem quote_eq_ok {model : VerifierCostModelV1} {row : VerifierCostRowV1}
    {request : CandidateVerifierCostQuoteRequestV1} {quote : CandidateVerifierCostQuoteV1} :
    model.computeUntrustedCandidateQuote row request = .ok quote ↔
      row.backendFamilyId = request.expectedBackendFamilyId ∧
        request.artifactLen ≤ request.maxArtifactBytes ∧
        request.canonicalStatementLen ≤ request.maxPublicInputBytes ∧
        total row request ≤ model.maxChargeUnits.toNat ∧
        total row request ≤ request.maxVerifierCostUnits.toNat ∧
        quote.units.toNat = total row request := by
  rw [computeUntrustedCandidateQuote_eq]
  simp only [quoteOutcome, guard_eq_ok, not_not, Nat.not_lt, Nat.not_le, ← UInt64.le_iff_toNat_le,
    Except.ok.injEq]
  refine ⟨fun h => ?_, fun h => ?_⟩
  · obtain ⟨hfamily, hartifact, hstatement, -, h64, hmodel, hverifier, hquote⟩ := h
    subst hquote
    exact ⟨hfamily, hartifact, hstatement, hmodel, hverifier, toNat_u64 h64⟩
  · obtain ⟨hfamily, hartifact, hstatement, hmodel, hverifier, hunits⟩ := h
    have h64 := model.maxChargeUnits.toNat_lt
    refine ⟨hfamily, hartifact, hstatement, by omega, by omega, hmodel, hverifier, ?_⟩
    rw [← hunits, UInt64.ofNat_toNat]

/-- **Exact quotes.** The quote is the outcome the total calls for; an
accepted quote is exactly the total; no product overflows, and a partial sum
does only when the total does. -/
theorem quote_exact (model : VerifierCostModelV1) (row : VerifierCostRowV1)
    (request : CandidateVerifierCostQuoteRequestV1) :
    model.computeUntrustedCandidateQuote row request = quoteOutcome model row request ∧
    (∀ quote, model.computeUntrustedCandidateQuote row request = .ok quote →
      quote.units.toNat = total row request) ∧
    (∀ coefficient amount, checkedMultiply coefficient amount ≠ .error .arithmeticOverflow) ∧
    (accumulateCharge row request = .error .arithmeticOverflow ↔ 2 ^ 128 ≤ total row request) := by
  have houtcome := computeUntrustedCandidateQuote_eq model row request
  refine ⟨houtcome, fun quote hquote => ?_, fun coefficient amount => ?_, ?_⟩
  · obtain ⟨-, -, -, -, -, hunits⟩ := quote_eq_ok.mp hquote
    exact hunits
  · rw [checkedMultiply_eq]; exact nofun
  · rw [accumulateCharge_eq]
    split
    · simp only [reduceCtorEq, false_iff]; omega
    · simp only [true_iff]; omega

/-- A row, a model and a request whose total is one below `2^64`. -/
def boundaryRow : VerifierCostRowV1 where
  backendFamilyId := .repeated 1
  baseUnits := 0xfffffffffffffff5
  artifactByteUnits := 2
  statementByteUnits := 1
  reservedOutputByteUnits := 1

def boundaryModel : VerifierCostModelV1 where
  schemaVersion := 1
  rowsRoot := .repeated 2
  maxChargeUnits := 0xffffffffffffffff
  schema_eq := rfl

def boundaryRequest : CandidateVerifierCostQuoteRequestV1 where
  expectedBackendFamilyId := .repeated 1
  artifactLen := 3
  canonicalStatementLen := 2
  maxArtifactBytes := 3
  maxPublicInputBytes := 2
  reservedOutputByteMaximum := 2
  maxVerifierCostUnits := 0xffffffffffffffff

theorem quote_exact_boundary :
    ∃ quote, boundaryModel.computeUntrustedCandidateQuote boundaryRow boundaryRequest = .ok quote ∧
      quote.units.toNat = 2 ^ 64 - 1 := by
  obtain ⟨houtcome, hunits, -, -⟩ := quote_exact boundaryModel boundaryRow boundaryRequest
  have hok : quoteOutcome boundaryModel boundaryRow boundaryRequest = .ok ⟨0xffffffffffffffff⟩ := by
    decide
  exact ⟨_, houtcome.trans hok, hunits _ (houtcome.trans hok)⟩

end Zrm.L3.Cost
