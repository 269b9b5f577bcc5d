import Zrm.L3Policy.Reservation
import Zrm.L3Policy.ResourceKind
import Zrm.L7Fuzz.Harness

/-!
# The policy targets (`policy_cost_v1.rs`, `policy_resource_dimensions_v1.rs`)

The cost target reads eleven integers, makes a model, a row and a policy of them, quotes the
cost of a dispatch and of a reservation, and asserts how the quotes, the bounds and the errors
are related. The dimension target reads an accounting mode, a unit and two quantities, states
the rules of the resource dimensions a second time, and compares.

Neither target allocates or hashes, so nothing is a parameter but the bytes. A constructor
that refuses its candidate ends a target before its assertions; the second half of each result
says that this does not happen on enough bytes, so the first half is not empty.

Results:
* `costFuzzCase_coherent`: what the cost target reads is a case with the bounds it was given.
* `assertLengths_ok`, `assertBounds_ok`: the assertions on a quote, one by one.
* `cost_target_exact`: the cost target never panics, and runs its assertions on 88 bytes or
  more.
* `validateDimensions_eq`: the second statement of the rules agrees with the policy's.
* `dimension_target_exact`: the dimension target never panics, and runs its assertions on 34
  bytes or more.
-/
namespace Zrm.L7.PolicyTargets

open Zrm.BigEndian Zrm.Result Harness L1.Ids L1.Scalar L3.Limits L3.Machine L3.Cost L3.Verifier
  L3.ResourceKind

/-! ## Quotes -/

namespace CostTarget

def REQUIRED_BYTES : Nat := 88

/-- mirrors crates/zrm-policy/src/cost/fuzz_assertions.rs:10-16 -/
structure CostFuzzCase where
  model : VerifierCostModelV1
  row : VerifierCostRowV1
  policy : VerifierPolicyV1
  artifactLen : UInt64
  statementLen : UInt64
  artifactMax : UInt64
  statementMax : UInt64
  modelCap : UInt64
  verifierCap : UInt64

/-- mirrors crates/zrm-policy/src/cost/fuzz_assertions.rs:31-36 -/
def fixedCostIdentities : Option (BackendFamilyId × VerifierCostRowsRoot) := do
  return (← nonzero 1, ← nonzero 2)

/-- mirrors crates/zrm-policy/src/cost/fuzz_assertions.rs:38-52 -/
def costRow (backendFamilyId : BackendFamilyId)
    (baseUnits artifactByteUnits statementByteUnits reservedOutputByteUnits : UInt64) : VerifierCostRowV1 :=
  .new { backendFamilyId, baseUnits, artifactByteUnits, statementByteUnits, reservedOutputByteUnits }

/-- mirrors crates/zrm-policy/src/cost/fuzz_assertions.rs:54-89 -/
def verifierPolicy (backendFamilyId : BackendFamilyId)
    (maxArtifactBytes maxPublicInputBytes maxPublicOutputBytes maxCost : UInt64) :
    Option VerifierPolicyV1 := do
  let candidate : VerifierPolicyCandidateV1 := {
    schemaVersion := 1
    verifierPolicyId := ← nonzero 3
    machineId := ← nonzero 4
    domainId := ← nonzero 5
    backendFamilyId
    verifierId := ← nonzero 6
    programOrKeyDigest := ← nonzero 7
    artifactCodecId := ← nonzero 8
    statementSchemaRoot := ← nonzero 9
    journalSchemaRoot := ← nonzero 10
    proofParameterRoot := ← nonzero 11
    proofMode := .production
    coverageClaimsRoot := ← nonzero 12
    nonClaimsRoot := ← nonzero 13
    trustedComputingBaseRoot := ← nonzero 14
    verifierCostModelId := ← nonzero 15
    maxVerifierCostUnits := maxCost
    maxArtifactBytes
    maxPublicInputBytes
    maxPublicOutputBytes
    validityStartEpoch := 0
    validityEndEpoch := 0xffffffffffffffff }
  (VerifierPolicyV1.tryFrom candidate).toOption

/-- mirrors crates/zrm-policy/src/cost/fuzz_assertions.rs:155-172 -/
def readValues (data : List UInt8) : Option (List UInt64) :=
  if data.length < REQUIRED_BYTES then none
  else [0, 8, 16, 24, 32, 40, 48, 56, 64, 72, 80].mapM (readU64 data)

/-- mirrors crates/zrm-policy/src/cost/fuzz_assertions.rs:115-153 -/
def costFuzzCase (data : List UInt8) : Option CostFuzzCase := do
  let values ← readValues data
  let (backend, rowsRoot) ← fixedCostIdentities
  match values with
  | [base, artifactUnits, statementUnits, outputUnits, artifactMax, statementMax, outputMax, modelCap,
      verifierCap, artifactLen, statementLen] =>
    let row := costRow backend base artifactUnits statementUnits outputUnits
    let model ← (VerifierCostModelV1.tryFrom { schemaVersion := 1, rowsRoot, maxChargeUnits := modelCap }).toOption
    let policy ← verifierPolicy backend artifactMax statementMax outputMax verifierCap
    return { model, row, policy, artifactLen, statementLen, artifactMax, statementMax, modelCap, verifierCap }
  | _ => none

/-- `left.min(right)` -/
def minU64 (left right : UInt64) : UInt64 := if right < left then right else left

/-- mirrors crates/zrm-policy/src/cost/fuzz_assertions.rs:174-209 -/
def assertCandidateResults (case : CostFuzzCase) : Option Unit := do
  let rawRequest := case.policy.candidateCostQuoteRequest case.artifactLen case.statementLen
  let first := case.model.computeUntrustedCandidateQuote case.row rawRequest
  let second := case.model.computeUntrustedCandidateQuote case.row rawRequest
  assertThat (decide (first = second))
  if case.artifactLen > case.artifactMax then
    assertThat (decide (first = .error .artifactBytesExceeded))
  else if case.statementLen > case.statementMax then
    assertThat (decide (first = .error .publicInputBytesExceeded))
  let boundedRequest := case.policy.candidateCostQuoteRequest (minU64 case.artifactLen case.artifactMax)
    (minU64 case.statementLen case.statementMax)
  let reservationRequest := case.policy.candidateAdmissionReservationRequest
  let bounded := case.model.computeUntrustedCandidateQuote case.row boundedRequest
  let reservation := case.model.computeUntrustedCandidateQuote case.row reservationRequest
  match bounded, reservation with
  | .ok actual, .ok reserved =>
    assertThat (decide (actual.units ≤ reserved.units))
    assertThat (decide (actual.units ≤ case.modelCap))
    assertThat (decide (actual.units ≤ case.verifierCap))
  | _, _ => some ()

/-- mirrors crates/zrm-policy/src/cost/fuzz_assertions.rs:108-113 -/
def fuzzAssertUntrustedCandidateCostInvariants (data : List UInt8) : Option Unit :=
  match costFuzzCase data with
  | none => some ()
  | some case => assertCandidateResults case

/-- A case whose parts belong together. -/
structure Coherent (case : CostFuzzCase) : Prop where
  backend : case.row.backendFamilyId = case.policy.backendFamilyId
  artifactMax : case.policy.maxArtifactBytes = case.artifactMax
  statementMax : case.policy.maxPublicInputBytes = case.statementMax
  modelCap : case.model.maxChargeUnits = case.modelCap
  verifierCap : case.policy.maxVerifierCostUnits = case.verifierCap

theorem fixedCostIdentities_eq : fixedCostIdentities = some (.repeated 1, .repeated 2) := by
  rw [fixedCostIdentities, nonzero_eq (by decide), nonzero_eq (by decide)]
  rfl

/-- The identities are not zero and the window is not empty: the policy is accepted. -/
theorem verifierPolicy_eq (backend : BackendFamilyId) (artifactMax statementMax outputMax cap : UInt64) :
    ∃ policy, verifierPolicy backend artifactMax statementMax outputMax cap = some policy ∧
      policy.backendFamilyId = backend ∧ policy.maxArtifactBytes = artifactMax ∧
      policy.maxPublicInputBytes = statementMax ∧ policy.maxVerifierCostUnits = cap := by
  have hrun : ∃ candidate : VerifierPolicyCandidateV1,
      verifierPolicy backend artifactMax statementMax outputMax cap = (VerifierPolicyV1.tryFrom candidate).toOption ∧
        candidate.schemaVersion = POLICY_SCHEMA_VERSION_V1 ∧
        candidate.validityStartEpoch ≤ candidate.validityEndEpoch ∧ candidate.backendFamilyId = backend ∧
        candidate.maxArtifactBytes = artifactMax ∧ candidate.maxPublicInputBytes = statementMax ∧
        candidate.maxVerifierCostUnits = cap := by
    rw [verifierPolicy]
    simp (disch := decide) only [nonzero_eq, Option.bind_eq_bind, Option.bind_some]
    exact ⟨_, rfl, rfl, show (0 : UInt64) ≤ 0xffffffffffffffff by decide, rfl, rfl, rfl, rfl⟩
  obtain ⟨candidate, hcandidate, hschema, hwindow, hfields⟩ := hrun
  obtain ⟨policy, hpolicy, rfl⟩ := VerifierPolicyV1.exists_tryFrom hschema hwindow
  exact ⟨policy, hcandidate.trans (toOption_eq_some.mpr hpolicy), hfields⟩

/-- Eleven integers are read as far as the bytes go, and no others. -/
theorem readValues_eq {data : List UInt8} (h : REQUIRED_BYTES ≤ data.length) :
    ∃ a b c d e f g h i j k, readValues data = some [a, b, c, d, e, f, g, h, i, j, k] := by
  have hread : ∀ offset, offset + 8 ≤ REQUIRED_BYTES → ∃ x, readU64 data offset = some x := fun offset hoffset =>
    exists_readInt (hoffset.trans h)
  obtain ⟨a, ha⟩ := hread 0 (by decide)
  obtain ⟨b, hb⟩ := hread 8 (by decide)
  obtain ⟨c, hc⟩ := hread 16 (by decide)
  obtain ⟨d, hd⟩ := hread 24 (by decide)
  obtain ⟨e, he⟩ := hread 32 (by decide)
  obtain ⟨f, hf⟩ := hread 40 (by decide)
  obtain ⟨g, hg⟩ := hread 48 (by decide)
  obtain ⟨i, hi⟩ := hread 56 (by decide)
  obtain ⟨j, hj⟩ := hread 64 (by decide)
  obtain ⟨k, hk⟩ := hread 72 (by decide)
  obtain ⟨l, hl⟩ := hread 80 (by decide)
  refine ⟨a, b, c, d, e, f, g, i, j, k, l, ?_⟩
  rw [readValues, if_neg (Nat.not_lt_of_le h)]
  simp [ha, hb, hc, hd, he, hf, hg, hi, hj, hk, hl]

/-- The input is cut into a case if it is long enough, and the case is coherent. -/
theorem costFuzzCase_coherent {data : List UInt8} (h : REQUIRED_BYTES ≤ data.length) :
    ∃ case, costFuzzCase data = some case ∧ Coherent case := by
  obtain ⟨base, artifactUnits, statementUnits, outputUnits, artifactMax, statementMax, outputMax, modelCap,
    verifierCap, artifactLen, statementLen, hvalues⟩ := readValues_eq h
  obtain ⟨policy, hpolicy, hbackend, hartifact, hstatement, hcap⟩ :=
    verifierPolicy_eq (.repeated 1) artifactMax statementMax outputMax verifierCap
  rw [costFuzzCase, hvalues, fixedCostIdentities_eq]
  simp only [Option.bind_eq_bind, Option.bind_some, hpolicy]
  exact ⟨_, rfl, hbackend.symm, hartifact, hstatement, rfl, hcap⟩

theorem costFuzzCase_short {data : List UInt8} (h : data.length < REQUIRED_BYTES) :
    costFuzzCase data = none := by
  rw [costFuzzCase, readValues, if_pos h]
  rfl

theorem minU64_le (left right : UInt64) : minU64 left right ≤ left ∧ minU64 left right ≤ right := by
  unfold minU64
  split
  · rename_i h
    exact ⟨UInt64.le_of_lt h, UInt64.le_refl _⟩
  · rename_i h
    exact ⟨UInt64.le_refl _, UInt64.not_lt.mp h⟩

theorem assertLengths_ok {case : CostFuzzCase} (h : Coherent case)
    {first : Except VerifierCostErrorV1 CandidateVerifierCostQuoteV1}
    (hfirst : first = case.model.computeUntrustedCandidateQuote case.row
      (case.policy.candidateCostQuoteRequest case.artifactLen case.statementLen)) :
    (case.artifactLen > case.artifactMax → first = .error .artifactBytesExceeded) ∧
      (¬ case.artifactLen > case.artifactMax → case.statementLen > case.statementMax →
        first = .error .publicInputBytesExceeded) := by
  have hfamily : ¬ case.row.backendFamilyId ≠ case.policy.backendFamilyId := not_not.mpr h.backend
  rw [← h.artifactMax, ← h.statementMax, hfirst]
  refine ⟨fun hartifact => ?_, fun hartifact hstatement => ?_⟩
  · rw [quote_bounds case.model case.row case.policy (.inl hartifact), lengthRefusal, if_neg hfamily,
      if_pos hartifact]
  · rw [quote_bounds case.model case.row case.policy (.inr hstatement), lengthRefusal, if_neg hfamily,
      if_neg hartifact]

theorem assertBounds_ok {case : CostFuzzCase} (h : Coherent case) {actual reserved : CandidateVerifierCostQuoteV1}
    (hactual : case.model.computeUntrustedCandidateQuote case.row
      (case.policy.candidateCostQuoteRequest (minU64 case.artifactLen case.artifactMax)
        (minU64 case.statementLen case.statementMax)) = .ok actual)
    (hreserved : case.model.computeUntrustedCandidateQuote case.row
      case.policy.candidateAdmissionReservationRequest = .ok reserved) :
    actual.units ≤ reserved.units ∧ actual.units ≤ case.modelCap ∧ actual.units ≤ case.verifierCap := by
  obtain ⟨-, -, -, hmodel, hverifier, hunits⟩ := quote_eq_ok.mp hactual
  rw [← hunits, ← UInt64.le_iff_toNat_le] at hmodel hverifier
  rw [h.modelCap] at hmodel
  have hcap : actual.units ≤ case.policy.maxVerifierCostUnits := hverifier
  rw [h.verifierCap] at hcap
  refine ⟨quote_mono ?_ ?_ hactual hreserved, hmodel, hcap⟩
  · rw [h.artifactMax]
    exact (minU64_le _ _).2
  · rw [h.statementMax]
    exact (minU64_le _ _).2

theorem assertCandidateResults_ok {case : CostFuzzCase} (h : Coherent case) :
    assertCandidateResults case = some () := by
  obtain ⟨hartifact, hstatement⟩ := assertLengths_ok h rfl
  rw [assertCandidateResults]
  simp only [decide_true, assertThat_true, Option.bind_eq_bind, Option.bind_some]
  generalize hbounded : case.model.computeUntrustedCandidateQuote case.row (case.policy.candidateCostQuoteRequest
    (minU64 case.artifactLen case.artifactMax) (minU64 case.statementLen case.statementMax)) = bounded
  generalize hreservation : case.model.computeUntrustedCandidateQuote case.row
    case.policy.candidateAdmissionReservationRequest = reservation
  have hquotes : ∀ actual reserved, bounded = .ok actual → reservation = .ok reserved →
      (do
        assertThat (decide (actual.units ≤ reserved.units))
        assertThat (decide (actual.units ≤ case.modelCap))
        assertThat (decide (actual.units ≤ case.verifierCap))) = some () := by
    intro actual reserved hactual hreserved
    obtain ⟨hreserve, hmodel, hverifier⟩ :=
      assertBounds_ok h (hbounded.trans hactual) (hreservation.trans hreserved)
    rw [decide_eq_true hreserve, decide_eq_true hmodel, decide_eq_true hverifier]
    rfl
  by_cases hlong : case.artifactLen > case.artifactMax
  · rw [if_pos hlong, hartifact hlong]
    split
    · exact hquotes _ _ rfl rfl
    · rfl
  · rw [if_neg hlong]
    split
    · rename_i hlong'
      rw [hstatement hlong hlong']
      split
      · exact hquotes _ _ rfl rfl
      · rfl
    · split
      · exact hquotes _ _ rfl rfl
      · rfl

/-- **The cost target never panics**, and it runs its assertions on all inputs that hold
eleven integers. -/
theorem cost_target_exact (data : List UInt8) :
    fuzzAssertUntrustedCandidateCostInvariants data = some () ∧
      ((costFuzzCase data).isSome ↔ REQUIRED_BYTES ≤ data.length) := by
  rw [fuzzAssertUntrustedCandidateCostInvariants]
  by_cases h : REQUIRED_BYTES ≤ data.length
  · obtain ⟨case, hcase, hcoherent⟩ := costFuzzCase_coherent h
    rw [hcase]
    exact ⟨assertCandidateResults_ok hcoherent, iff_of_true rfl h⟩
  · rw [costFuzzCase_short (Nat.lt_of_not_le h)]
    exact ⟨rfl, iff_of_false Bool.false_ne_true h⟩

end CostTarget

/-! ## Dimensions -/

namespace DimensionTarget

def REQUIRED_BYTES : Nat := 34

/-- mirrors fuzz/fuzz_targets/policy_resource_dimensions_v1.rs:12-16 -/
inductive UnitRelation
  | matching | mismatched
  deriving DecidableEq

/-- mirrors fuzz/fuzz_targets/policy_resource_dimensions_v1.rs:31-39 -/
def accountingMode (selector : UInt8) : AccountingModeV1 :=
  match (selector % 5).toNat with
  | 0 => .conservedFungible
  | 1 => .authorityMintableFungible
  | 2 => .lifecycleNonFungible
  | 3 => .transformable
  | _ => .evidenceOnly

/-- mirrors fuzz/fuzz_targets/policy_resource_dimensions_v1.rs:41-65 -/
def policyCandidate (accountingMode : AccountingModeV1) (quantityMaximum : U128) :
    Option ResourceKindPolicyCandidateV1 := do
  return {
    schemaVersion := 1
    policyId := ← nonzero 1
    machineId := ← nonzero 2
    domainId := ← nonzero 3
    applicationId := ← nonzero 4
    resourceKindId := ← nonzero 5
    unitId := ← nonzero 6
    accountingMode
    quantityMax := .new quantityMaximum
    allowedLogicSetRoot := ← nonzero 7
    allowedLogicProfileSetRoot := ← nonzero 8
    allowedTransformationSetRoot := ← nonzero 9
    controllerPolicyRoot := ← nonzero 10
    mintAuthorityRoot := ← nonzero 11
    burnAuthorityRoot := ← nonzero 12
    dataAvailability := .optional
    validityStartEpoch := 0
    validityEndEpoch := 0xffffffffffffffff }

/-- mirrors fuzz/fuzz_targets/policy_resource_dimensions_v1.rs:67-89 -/
def expectedDimensionResult (accountingMode : AccountingModeV1) (unitRelation : UnitRelation)
    (quantity quantityMaximum : U128) : Except ResourceDimensionErrorV1 Unit := do
  if unitRelation = .mismatched then throw .unitMismatch
  if accountingMode = .lifecycleNonFungible ∧ quantity ≠ 1 then throw (.lifecycleQuantityMustBeOne quantity)
  if quantity = 0 then throw .zeroQuantityForbidden
  if quantity > quantityMaximum then throw (.quantityExceedsMaximum quantity quantityMaximum)
  return ()

/-- mirrors fuzz/fuzz_targets/policy_resource_dimensions_v1.rs:91-141, once the input is cut
into its parts -/
def checkDimensions (accountingMode : AccountingModeV1) (unitRelation : UnitRelation)
    (quantity quantityMaximum : U128) (candidate : ResourceKindPolicyCandidateV1) : Option Unit := do
  let construction := ResourceKindPolicyV1.tryFrom candidate
  if accountingMode = .lifecycleNonFungible ∧ quantityMaximum ≠ 1 then
    assertThat (decide (construction = .error (.lifecycleQuantityMaximumMustBeOne quantityMaximum)))
  else
    assertThat construction.isOk
    match construction with
    | .error _ => some ()
    | .ok policy =>
      let unitId := match unitRelation with
        | .matching => some candidate.unitId
        | .mismatched => nonzero 250
      match unitId with
      | none => some ()
      | some unitId =>
        let expected := expectedDimensionResult accountingMode unitRelation quantity quantityMaximum
        let first := policy.validateDimensions unitId (.new quantity)
        let second := policy.validateDimensions unitId (.new quantity)
        assertThat (decide (first = expected))
        assertThat (decide (second = expected))

/-- The parts of an input.
mirrors fuzz/fuzz_targets/policy_resource_dimensions_v1.rs:92-109 -/
def parts (data : List UInt8) :
    Option (AccountingModeV1 × UnitRelation × U128 × U128 × ResourceKindPolicyCandidateV1) :=
  if data.length < REQUIRED_BYTES then none
  else do
    let accountingMode := accountingMode (data.getD 0 0)
    let unitRelation : UnitRelation := if data.getD 1 0 &&& 1 = 0 then .matching else .mismatched
    let quantity ← readU128 data 2
    let quantityMaximum ← readU128 data 18
    let candidate ← policyCandidate accountingMode quantityMaximum
    return (accountingMode, unitRelation, quantity, quantityMaximum, candidate)

/-- mirrors fuzz/fuzz_targets/policy_resource_dimensions_v1.rs:91-141 -/
def fuzzTarget (data : List UInt8) : Option Unit :=
  match parts data with
  | none => some ()
  | some (accountingMode, unitRelation, quantity, quantityMaximum, candidate) =>
    checkDimensions accountingMode unitRelation quantity quantityMaximum candidate

/-- The identities are not zero: there is a candidate, with the mode and the maximum. -/
theorem policyCandidate_eq (mode : AccountingModeV1) (quantityMaximum : U128) :
    ∃ candidate, policyCandidate mode quantityMaximum = some candidate ∧
      candidate.schemaVersion = POLICY_SCHEMA_VERSION_V1 ∧
      ¬ candidate.validityEndEpoch < candidate.validityStartEpoch ∧ candidate.accountingMode = mode ∧
      candidate.quantityMax.get = quantityMaximum ∧ candidate.unitId = .repeated 6 := by
  rw [policyCandidate]
  simp (disch := decide) only [nonzero_eq, Option.bind_eq_bind, Option.bind_some]
  exact ⟨_, rfl, rfl, show ¬ (0xffffffffffffffff : UInt64) < 0 by decide, rfl, rfl, rfl⟩

/-- The second statement of the rules agrees with the policy. -/
theorem validateDimensions_eq {policy : ResourceKindPolicyV1} {relation : UnitRelation} {unitId : UnitId}
    (quantity : U128) (h : unitId ≠ policy.candidate.unitId ↔ relation = .mismatched) :
    policy.validateDimensions unitId (.new quantity) =
      expectedDimensionResult policy.candidate.accountingMode relation quantity policy.candidate.quantityMax.get := by
  have hget : (QuantityAtoms.new quantity).get = quantity := rfl
  rw [ResourceKindPolicyV1.validateDimensions, expectedDimensionResult, hget]
  by_cases hrelation : relation = .mismatched
  · rw [if_pos (h.mpr hrelation), if_pos hrelation]
    rfl
  · rw [if_neg (mt h.mp hrelation), if_neg hrelation]
    split
    · rfl
    · split
      · rfl
      · split <;> rfl

theorem repeated_ne : (Opaque.repeated 250 : UnitId) ≠ .repeated 6 := by decide

theorem checkDimensions_ok {mode : AccountingModeV1} (relation : UnitRelation) (quantity : U128) {quantityMaximum : U128}
    {candidate : ResourceKindPolicyCandidateV1}
    (h : policyCandidate mode quantityMaximum = some candidate) :
    checkDimensions mode relation quantity quantityMaximum candidate = some () := by
  obtain ⟨_, hcandidate, hschema, hwindow, rfl, rfl, hunit⟩ := policyCandidate_eq mode quantityMaximum
  obtain rfl := Option.some.inj (h.symm.trans hcandidate)
  have herror := ResourceKindPolicyV1.err?_tryFrom candidate
  rw [if_neg (not_not.mpr hschema), if_neg hwindow] at herror
  unfold checkDimensions
  by_cases hlifecycle : candidate.accountingMode = .lifecycleNonFungible ∧ candidate.quantityMax.get ≠ 1
  · rw [if_pos hlifecycle] at herror
    rw [if_pos hlifecycle, err?_eq_some.mp herror, decide_eq_true rfl]
    rfl
  · rw [if_neg hlifecycle] at herror
    obtain ⟨policy, hpolicy⟩ := err?_eq_none.mp herror
    have hholds := ResourceKindPolicyV1.tryFrom_eq_ok.mp hpolicy
    have hrule : ∀ unitId : UnitId, (unitId ≠ candidate.unitId ↔ relation = .mismatched) →
        policy.validateDimensions unitId (.new quantity) =
          expectedDimensionResult candidate.accountingMode relation quantity candidate.quantityMax.get := by
      intro unitId hunitId
      rw [← hholds] at hunitId ⊢
      exact validateDimensions_eq quantity hunitId
    rw [if_neg hlifecycle, hpolicy]
    cases relation with
    | matching => simp [Except.isOk, Except.toBool, hrule candidate.unitId (by simp)]
    | mismatched =>
      have hunitId := hrule (.repeated 250) (iff_of_true (hunit ▸ repeated_ne) rfl)
      simp [Except.isOk, Except.toBool, nonzero_eq, hunitId]

/-- **The dimension target never panics**, and it runs its assertions on all inputs of 34
bytes or more. -/
theorem dimension_target_exact (data : List UInt8) :
    fuzzTarget data = some () ∧ ((parts data).isSome ↔ REQUIRED_BYTES ≤ data.length) := by
  rw [fuzzTarget]
  by_cases h : REQUIRED_BYTES ≤ data.length
  · obtain ⟨quantity, hquantity⟩ : ∃ x, readU128 data 2 = some x :=
      exists_readInt (Nat.le_trans (by decide) h)
    obtain ⟨quantityMaximum, hmaximum⟩ : ∃ x, readU128 data 18 = some x :=
      exists_readInt (Nat.le_trans (by decide) h)
    obtain ⟨candidate, hcandidate, -⟩ := policyCandidate_eq (accountingMode (data.getD 0 0)) quantityMaximum
    have hparts : parts data = some (accountingMode (data.getD 0 0),
        if data.getD 1 0 &&& 1 = 0 then .matching else .mismatched, quantity, quantityMaximum, candidate) := by
      rw [parts, if_neg (Nat.not_lt_of_le h)]
      simp only [hquantity, hmaximum, hcandidate, Option.bind_eq_bind, Option.bind_some, Option.pure_def]
    rw [hparts]
    exact ⟨checkDimensions_ok _ quantity hcandidate, iff_of_true rfl h⟩
  · have hparts : parts data = none := if_pos (Nat.lt_of_not_le h)
    rw [hparts]
    exact ⟨rfl, iff_of_false Bool.false_ne_true h⟩

end DimensionTarget

end Zrm.L7.PolicyTargets
