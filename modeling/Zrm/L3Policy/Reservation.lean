import Zrm.L3Policy.VerifierPolicy

/-!
# Reservations (`zrm-policy/src/verifier.rs`, `cost.rs`)

An admission reserves the quote of the two maxima, a dispatch is charged the
quote of its own lengths. The total is monotone in both lengths and the caps are
upper bounds, so what passes them at the maxima passes them below.

* `quote_of_le`: an accepted quote leaves room for all shorter lengths.
* `quote_bounds`: longer inputs are refused, whatever the charge would be.
* `reservation_dominates`: the reservation covers every dispatch.
-/
namespace Zrm.L3.Verifier
open Zrm.BigEndian Zrm.Result Zrm.L1.Scalar Zrm.L3.Cost

variable {model : VerifierCostModelV1} {row : VerifierCostRowV1} {policy : VerifierPolicyV1}
  {artifactLen artifactLen' statementLen statementLen' : UInt64}

theorem total_mono (row : VerifierCostRowV1) (policy : VerifierPolicyV1)
    (ha : artifactLen ≤ artifactLen') (hs : statementLen ≤ statementLen') :
    total row (policy.candidateCostQuoteRequest artifactLen statementLen) ≤
      total row (policy.candidateCostQuoteRequest artifactLen' statementLen') := by
  have hartifact := Nat.mul_le_mul_left row.artifactByteUnits.toNat (UInt64.le_iff_toNat_le.mp ha)
  have hstatement := Nat.mul_le_mul_left row.statementByteUnits.toNat (UInt64.le_iff_toNat_le.mp hs)
  unfold total
  exact Nat.add_le_add_right (Nat.add_le_add (Nat.add_le_add_left hartifact _) hstatement) _

/-- Accepted quotes are ordered as the lengths are. -/
theorem quote_mono (ha : artifactLen ≤ artifactLen') (hs : statementLen ≤ statementLen')
    {quote quote' : CandidateVerifierCostQuoteV1}
    (h : model.computeUntrustedCandidateQuote row
      (policy.candidateCostQuoteRequest artifactLen statementLen) = .ok quote)
    (h' : model.computeUntrustedCandidateQuote row
      (policy.candidateCostQuoteRequest artifactLen' statementLen') = .ok quote') :
    quote.units ≤ quote'.units := by
  obtain ⟨-, -, -, -, -, hunits⟩ := quote_eq_ok.mp h
  obtain ⟨-, -, -, -, -, hunits'⟩ := quote_eq_ok.mp h'
  rw [UInt64.le_iff_toNat_le, hunits, hunits']
  exact total_mono row policy ha hs

/-- An accepted quote leaves room for all shorter lengths. -/
theorem quote_of_le (ha : artifactLen ≤ artifactLen') (hs : statementLen ≤ statementLen')
    {quote' : CandidateVerifierCostQuoteV1}
    (h' : model.computeUntrustedCandidateQuote row
      (policy.candidateCostQuoteRequest artifactLen' statementLen') = .ok quote') :
    ∃ quote, model.computeUntrustedCandidateQuote row
      (policy.candidateCostQuoteRequest artifactLen statementLen) = .ok quote := by
  obtain ⟨hfamily, hartifact, hstatement, hmodel, hverifier, -⟩ := quote_eq_ok.mp h'
  have hmono := total_mono row policy ha hs
  have h64 := model.maxChargeUnits.toNat_lt
  refine ⟨⟨UInt64.ofNat _⟩, quote_eq_ok.mpr ⟨hfamily, ?_, ?_, ?_, ?_, toNat_u64 ?_⟩⟩
  · exact UInt64.le_trans ha hartifact
  · exact UInt64.le_trans hs hstatement
  · exact hmono.trans hmodel
  · exact hmono.trans hverifier
  · omega

/-- The refusal of an input that is too long: no coefficient and no cap occurs in it. -/
def lengthRefusal (policy : VerifierPolicyV1) (row : VerifierCostRowV1) (artifactLen : UInt64) :
    VerifierCostErrorV1 :=
  if row.backendFamilyId ≠ policy.backendFamilyId then .backendFamilyMismatch
  else if artifactLen > policy.maxArtifactBytes then .artifactBytesExceeded
  else .publicInputBytesExceeded

theorem quote_bounds (model : VerifierCostModelV1) (row : VerifierCostRowV1)
    (policy : VerifierPolicyV1)
    (h : policy.maxArtifactBytes < artifactLen ∨ policy.maxPublicInputBytes < statementLen) :
    model.computeUntrustedCandidateQuote row
      (policy.candidateCostQuoteRequest artifactLen statementLen) =
        .error (lengthRefusal policy row artifactLen) := by
  unfold VerifierCostModelV1.computeUntrustedCandidateQuote lengthRefusal
  by_cases hfamily : row.backendFamilyId ≠ policy.backendFamilyId
  · rw [if_pos hfamily]
    exact if_pos hfamily
  · rw [if_neg hfamily]
    refine (if_neg hfamily).trans ?_
    by_cases hartifact : artifactLen > policy.maxArtifactBytes
    · rw [if_pos hartifact]
      exact if_pos hartifact
    · have hstatement := h.resolve_left hartifact
      rw [if_neg hartifact]
      exact (if_neg hartifact).trans (if_pos hstatement)

/-! ## Main result -/

/-- **The reservation covers every dispatch.** Once the two maxima have a quote, so has
every pair of lengths within them, monotonically and never above the reservation.
Beyond a maximum the refusal depends on the identity and the lengths only. -/
theorem reservation_dominates (policy : VerifierPolicyV1) (model : VerifierCostModelV1)
    (row : VerifierCostRowV1) :
    (∀ reservation, model.computeUntrustedCandidateQuote row
        policy.candidateAdmissionReservationRequest = .ok reservation →
      (∀ artifactLen ≤ policy.maxArtifactBytes, ∀ statementLen ≤ policy.maxPublicInputBytes,
        ∃ quote, model.computeUntrustedCandidateQuote row
            (policy.candidateCostQuoteRequest artifactLen statementLen) = .ok quote ∧
          quote.units ≤ reservation.units)) ∧
    (∀ artifactLen artifactLen' statementLen statementLen' quote quote',
      artifactLen ≤ artifactLen' → statementLen ≤ statementLen' →
      model.computeUntrustedCandidateQuote row
        (policy.candidateCostQuoteRequest artifactLen statementLen) = .ok quote →
      model.computeUntrustedCandidateQuote row
        (policy.candidateCostQuoteRequest artifactLen' statementLen') = .ok quote' →
      quote.units ≤ quote'.units) ∧
    (∀ artifactLen statementLen,
      policy.maxArtifactBytes < artifactLen ∨ policy.maxPublicInputBytes < statementLen →
      model.computeUntrustedCandidateQuote row
        (policy.candidateCostQuoteRequest artifactLen statementLen) =
          .error (lengthRefusal policy row artifactLen)) := by
  refine ⟨?_, fun _ _ _ _ _ _ ha hs h h' => quote_mono ha hs h h',
    fun _ _ => quote_bounds model row policy⟩
  intro reservation hreservation artifactLen hartifact statementLen hstatement
  obtain ⟨quote, hquote⟩ := quote_of_le hartifact hstatement hreservation
  exact ⟨quote, hquote, quote_mono hartifact hstatement hquote hreservation⟩

/-- A policy at the bounds of the repository's exact-limit test (`cost/tests.rs`). -/
def reservedCandidate : VerifierPolicyCandidateV1 where
  schemaVersion := 1
  verifierPolicyId := .repeated 15
  machineId := .repeated 2
  domainId := .repeated 3
  backendFamilyId := .repeated 1
  verifierId := .repeated 21
  programOrKeyDigest := .repeated 22
  artifactCodecId := .repeated 23
  statementSchemaRoot := .repeated 24
  journalSchemaRoot := .repeated 25
  proofParameterRoot := .repeated 26
  proofMode := .production
  coverageClaimsRoot := .repeated 27
  nonClaimsRoot := .repeated 28
  trustedComputingBaseRoot := .repeated 29
  verifierCostModelId := .repeated 5
  maxVerifierCostUnits := 10
  maxArtifactBytes := 2
  maxPublicInputBytes := 3
  maxPublicOutputBytes := 1
  validityStartEpoch := 1
  validityEndEpoch := 8

def reservedPolicy : VerifierPolicyV1 where
  candidate := reservedCandidate
  validity := ⟨1, 8, by decide⟩
  schema_eq := rfl
  validity_eq := Machine.ValidityWindowV1.tryNew_eq_ok.mpr ⟨rfl, rfl⟩

def reservedRow : VerifierCostRowV1 where
  backendFamilyId := .repeated 1
  baseUnits := 4
  artifactByteUnits := 1
  statementByteUnits := 1
  reservedOutputByteUnits := 1

theorem reservation_dominates_limit :
    (∃ quote, boundaryModel.computeUntrustedCandidateQuote reservedRow
        (reservedPolicy.candidateCostQuoteRequest 1 2) = .ok quote ∧ quote.units ≤ 10) ∧
      boundaryModel.computeUntrustedCandidateQuote reservedRow
        (reservedPolicy.candidateCostQuoteRequest 3 0) = .error .artifactBytesExceeded := by
  obtain ⟨hcovers, -, hbounds⟩ := reservation_dominates reservedPolicy boundaryModel reservedRow
  have hreservation : boundaryModel.computeUntrustedCandidateQuote reservedRow
      reservedPolicy.candidateAdmissionReservationRequest = .ok ⟨10⟩ := by decide
  exact ⟨hcovers _ hreservation 1 (by decide) 2 (by decide), hbounds 3 0 (.inl (by decide))⟩

end Zrm.L3.Verifier
