import Zrm.L3Policy.VerifierPolicy

/-!
# Bounded verifier artifacts (`zrm-verifier-api/src/artifact.rs`)

An artifact is copied under a limit that the caller selects. Here the limit is
the one of a verifier policy that a machine policy admits.

* `tryNew_eq_ok`: a copy holds exactly the bytes, and is made iff they are
  within the limit and the allocator grants it.
* `admission_budget`: the artifact and cost bounds along the chain from the
  machine policy to the quote.
-/
namespace Zrm.L4.Artifact

open Zrm.Result Zrm.L3.Limits Zrm.L3.Machine Zrm.L3.Cost Zrm.L3.Verifier

/-- mirrors crates/zrm-verifier-api/src/artifact.rs:6 -/
inductive ReservationRefused
  | reservationRefused
  deriving DecidableEq

/-- mirrors crates/zrm-verifier-api/src/artifact.rs:18-25 -/
inductive ArtifactErrorV1
  | limitExceedsProtocolCeiling | artifactTooLarge | allocationLimitExceeded
  deriving DecidableEq, Repr

/-- mirrors crates/zrm-verifier-api/src/artifact.rs:27-36 -/
def ArtifactErrorV1.label : ArtifactErrorV1 → String
  | limitExceedsProtocolCeiling => "artifact limit exceeds protocol ceiling"
  | artifactTooLarge => "verifier artifact exceeds selected limit"
  | allocationLimitExceeded => "bounded artifact allocation refused"

/-- The texts tell the errors apart. -/
theorem ArtifactErrorV1.label_injective : Function.Injective ArtifactErrorV1.label := by
  intro e e' h
  cases e <;> cases e' <;> simp_all [label]

/-- mirrors crates/zrm-verifier-api/src/artifact.rs:54-56 -/
structure BoundedArtifactV1 where
  bytes : List UInt8
  deriving DecidableEq

/-- The empty vector, if the allocator (`grants`) reserves the capacity.
mirrors crates/zrm-verifier-api/src/artifact.rs:8-14 -/
def reserveCopyCapacity (grants : Nat → Bool) (requestedBytes : Nat) :
    Except ReservationRefused (List UInt8) :=
  if grants requestedBytes then .ok [] else .error .reservationRefused

/-- mirrors crates/zrm-verifier-api/src/artifact.rs:58-74 -/
def tryNewWithReservation (bytes : List UInt8) (selectedMaxBytes : UInt32)
    (reserveExact : Nat → Except ReservationRefused (List UInt8)) :
    Except ArtifactErrorV1 BoundedArtifactV1 :=
  if selectedMaxBytes > PolicyLimitsV1.MAX_PROOF_ARTIFACT_BYTES then
    .error .limitExceedsProtocolCeiling
  else if bytes.length ≥ 2 ^ 64 then .error .artifactTooLarge
  else if UInt64.ofNat bytes.length > selectedMaxBytes.toUInt64 then .error .artifactTooLarge
  else do
    let bounded ← (reserveExact bytes.length).mapError fun _ => .allocationLimitExceeded
    pure { bytes := bounded ++ bytes }

namespace BoundedArtifactV1

/-- mirrors crates/zrm-verifier-api/src/artifact.rs:91-93 -/
def tryNew (grants : Nat → Bool) (bytes : List UInt8) (selectedMaxBytes : UInt32) :
    Except ArtifactErrorV1 BoundedArtifactV1 :=
  tryNewWithReservation bytes selectedMaxBytes (reserveCopyCapacity grants)

/-! mirrors crates/zrm-verifier-api/src/artifact.rs:95-105 -/

def asBytes (artifact : BoundedArtifactV1) : List UInt8 := artifact.bytes
def len (artifact : BoundedArtifactV1) : Nat := artifact.bytes.length

end BoundedArtifactV1

open BoundedArtifactV1

/-! ## The copy -/

/-- The reservation is empty, so the copy is the bytes alone. -/
theorem tryNew_reserved {grants : Nat → Bool} {bytes : List UInt8} {limit : UInt32}
    (hlimit : limit ≤ PolicyLimitsV1.MAX_PROOF_ARTIFACT_BYTES)
    (hlen : bytes.length ≤ limit.toNat) :
    tryNew grants bytes limit =
      if grants bytes.length then .ok ⟨bytes⟩ else .error .allocationLimitExceeded := by
  have hbound := limit.toNat_lt
  have hhost : bytes.length < 2 ^ 64 := by omega
  have hle : ¬ UInt64.ofNat bytes.length > limit.toUInt64 := by
    rw [gt_iff_lt, UInt64.not_lt, UInt64.le_iff_toNat_le, UInt32.toNat_toUInt64,
      UInt64.toNat_ofNat_of_lt' hhost]
    exact hlen
  unfold tryNew tryNewWithReservation reserveCopyCapacity
  rw [if_neg (UInt32.not_lt.mpr hlimit), if_neg (by omega), if_neg hle]
  split <;> rfl

theorem tryNew_too_large {grants : Nat → Bool} {bytes : List UInt8} {limit : UInt32}
    (hlimit : limit ≤ PolicyLimitsV1.MAX_PROOF_ARTIFACT_BYTES)
    (hlen : limit.toNat < bytes.length) :
    tryNew grants bytes limit = .error .artifactTooLarge := by
  unfold tryNew tryNewWithReservation
  rw [if_neg (UInt32.not_lt.mpr hlimit)]
  by_cases hhost : bytes.length ≥ 2 ^ 64
  · rw [if_pos hhost]
  · have hlt : UInt64.ofNat bytes.length > limit.toUInt64 := by
      rw [gt_iff_lt, UInt64.lt_iff_toNat_lt, UInt32.toNat_toUInt64,
        UInt64.toNat_ofNat_of_lt' (show bytes.length < 2 ^ 64 by omega)]
      exact hlen
    rw [if_neg hhost, if_pos hlt]

/-- A copy holds exactly the bytes, and is made within the limit, if the
allocator grants it. -/
theorem tryNew_eq_ok {grants : Nat → Bool} {bytes : List UInt8} {limit : UInt32}
    (hlimit : limit ≤ PolicyLimitsV1.MAX_PROOF_ARTIFACT_BYTES) {artifact : BoundedArtifactV1} :
    tryNew grants bytes limit = .ok artifact ↔
      artifact.asBytes = bytes ∧ bytes.length ≤ limit.toNat ∧ grants bytes.length = true := by
  rcases Nat.lt_or_ge limit.toNat bytes.length with hlen | hlen
  · rw [tryNew_too_large hlimit hlen]
    refine ⟨nofun, fun h => ?_⟩
    exact absurd h.2.1 (Nat.not_le_of_lt hlen)
  · rw [tryNew_reserved hlimit hlen]
    cases grants bytes.length with
    | true =>
      obtain ⟨copied⟩ := artifact
      simp [hlen, asBytes, eq_comm]
    | false => simp

theorem tryNew_ne_ceiling {grants : Nat → Bool} {bytes : List UInt8} {limit : UInt32}
    (hlimit : limit ≤ PolicyLimitsV1.MAX_PROOF_ARTIFACT_BYTES) :
    tryNew grants bytes limit ≠ .error .limitExceedsProtocolCeiling := by
  rcases Nat.lt_or_ge limit.toNat bytes.length with hlen | hlen
  · rw [tryNew_too_large hlimit hlen]
    nofun
  · rw [tryNew_reserved hlimit hlen]
    split <;> nofun

/-! ## The chain of bounds -/

section Admitted

variable {machine : MachinePolicyV1} {verifier : VerifierPolicyV1} {epoch : UInt64}
  (h : checkUntrustedAdmissionCandidateShape machine verifier epoch = .ok ())
include h

/-- An admitted verifier's artifact limit is within the protocol ceiling. -/
theorem maxArtifactBytes_le : verifier.maxArtifactBytes.toNat ≤ 1024 * 1024 := by
  have hmachine := (shape_ok (admissionShape_ok h)).1
  exact UInt64.le_iff_toNat_le.mp (UInt64.le_trans hmachine machine.limits.proofLimits_le.1)

theorem toNat_selectedMaxBytes :
    verifier.maxArtifactBytes.toUInt32.toNat = verifier.maxArtifactBytes.toNat := by
  have hle := maxArtifactBytes_le h
  rw [UInt64.toNat_toUInt32]
  omega

theorem selectedMaxBytes_le :
    verifier.maxArtifactBytes.toUInt32 ≤ PolicyLimitsV1.MAX_PROOF_ARTIFACT_BYTES := by
  rw [UInt32.le_iff_toNat_le, toNat_selectedMaxBytes h]
  exact maxArtifactBytes_le h

/-- A quote of an admitted verifier's policy is within the machine's budget. -/
theorem quote_le_machine {model : VerifierCostModelV1} {row : VerifierCostRowV1}
    {artifactLen canonicalStatementLen : UInt64} {quote : CandidateVerifierCostQuoteV1}
    (hquote : model.computeUntrustedCandidateQuote row
      (verifier.candidateCostQuoteRequest artifactLen canonicalStatementLen) = .ok quote) :
    quote.units ≤ machine.limits.maxTotalVerifierCostUnits ∧ quote.units.toNat ≤ 2 ^ 48 - 1 := by
  have hmachine : quote.units ≤ machine.limits.maxTotalVerifierCostUnits :=
    UInt64.le_trans (quote_le_request hquote) (shape_ok (admissionShape_ok h)).2
  refine ⟨hmachine, ?_⟩
  exact UInt64.le_iff_toNat_le.mp (UInt64.le_trans hmachine machine.limits.proofLimits_le.2)

end Admitted

/-- **The admission budget.** Under a verifier policy that the machine policy
admits: its artifact limit is a `u32` of at most one mebibyte; copying under
that limit never meets the protocol ceiling, and holds the same bytes exactly
when they are within the limit; such an artifact passes the bound of every
quote request of the policy; and every quote is within the machine's budget. -/
theorem admission_budget (machine : MachinePolicyV1) (verifier : VerifierPolicyV1) (epoch : UInt64)
    (h : checkUntrustedAdmissionCandidateShape machine verifier epoch = .ok ()) :
    verifier.maxArtifactBytes.toNat < 2 ^ 32 ∧
    verifier.maxArtifactBytes.toNat ≤ 1024 * 1024 ∧
    (∀ grants bytes, tryNew grants bytes verifier.maxArtifactBytes.toUInt32 ≠
      .error .limitExceedsProtocolCeiling) ∧
    (∀ grants bytes, grants bytes.length = true → ∀ artifact,
      (tryNew grants bytes verifier.maxArtifactBytes.toUInt32 = .ok artifact ↔
        artifact.asBytes = bytes ∧ bytes.length ≤ verifier.maxArtifactBytes.toNat)) ∧
    (∀ grants bytes artifact,
      tryNew grants bytes verifier.maxArtifactBytes.toUInt32 = .ok artifact →
      ∀ artifactLen canonicalStatementLen : UInt64, artifactLen.toNat = artifact.len →
        artifactLen ≤
          (verifier.candidateCostQuoteRequest artifactLen canonicalStatementLen).maxArtifactBytes ∧
        ∀ (model : VerifierCostModelV1) (row : VerifierCostRowV1),
          model.computeUntrustedCandidateQuote row
            (verifier.candidateCostQuoteRequest artifactLen canonicalStatementLen) ≠
            .error .artifactBytesExceeded) ∧
    (∀ (model : VerifierCostModelV1) (row : VerifierCostRowV1)
      (artifactLen canonicalStatementLen : UInt64) (quote : CandidateVerifierCostQuoteV1),
      model.computeUntrustedCandidateQuote row
          (verifier.candidateCostQuoteRequest artifactLen canonicalStatementLen) = .ok quote →
        quote.units ≤ machine.limits.maxTotalVerifierCostUnits ∧
          quote.units.toNat ≤ 2 ^ 48 - 1) := by
  have hle := maxArtifactBytes_le h
  have hlimit := selectedMaxBytes_le h
  refine ⟨by omega, hle, fun grants bytes => tryNew_ne_ceiling hlimit, ?_, ?_,
    fun model row artifactLen canonicalStatementLen quote hquote => quote_le_machine h hquote⟩
  · intro grants bytes hgrants artifact
    rw [tryNew_eq_ok hlimit, toNat_selectedMaxBytes h]
    simp [hgrants]
  · intro grants bytes artifact hartifact artifactLen canonicalStatementLen hlen
    obtain ⟨hbytes, hbound, -⟩ := (tryNew_eq_ok hlimit).mp hartifact
    have hrequest : artifactLen ≤ verifier.maxArtifactBytes := by
      rw [UInt64.le_iff_toNat_le, hlen, ← toNat_selectedMaxBytes h]
      rw [← hbytes] at hbound
      exact hbound
    exact ⟨hrequest, fun model row => quote_artifact_ok model row hrequest⟩

/-! ## An admitted pair -/

def ceilingMachine : MachinePolicyV1 where
  candidate := ceilingCandidate
  admissionPolicy := .requiredVerifier (.repeated 15)
  limits := PolicyLimitsV1.protocolCeiling
  validity := ⟨5, 9, by decide⟩
  schema_eq := rfl
  suite_eq := rfl
  limits_eq := PolicyLimitsV1.tryFrom_eq_ok.mpr rfl
  admission_eq := rfl
  validity_eq := ValidityWindowV1.tryNew_eq_ok.mpr ⟨rfl, rfl⟩

def ceilingVerifierCandidate : VerifierPolicyCandidateV1 where
  schemaVersion := 1
  verifierPolicyId := .repeated 15
  machineId := .repeated 2
  domainId := .repeated 3
  backendFamilyId := .repeated 20
  verifierId := .repeated 21
  programOrKeyDigest := .repeated 22
  artifactCodecId := .repeated 23
  statementSchemaRoot := .repeated 24
  journalSchemaRoot := .repeated 25
  proofParameterRoot := .repeated 26
  proofMode := .production
  coverageClaimsRoot := .repeated 27
  nonClaimsRoot := .repeated 28
  trustedComputingBaseRoot := .repeated 29
  verifierCostModelId := .repeated 5
  maxVerifierCostUnits := 281474976710655
  maxArtifactBytes := 1048576
  maxPublicInputBytes := 4096
  maxPublicOutputBytes := 4096
  validityStartEpoch := 1
  validityEndEpoch := 7

def ceilingVerifier : VerifierPolicyV1 where
  candidate := ceilingVerifierCandidate
  validity := ⟨1, 7, by decide⟩
  schema_eq := rfl
  validity_eq := ValidityWindowV1.tryNew_eq_ok.mpr ⟨rfl, rfl⟩

theorem admission_budget_ceiling :
    (∀ bytes, tryNew (fun _ => true) bytes 1048576 ≠ .error .limitExceedsProtocolCeiling) ∧
      ∀ artifact, tryNew (fun _ => true) [1, 2, 3] 1048576 = .ok artifact ↔
        artifact.asBytes = [1, 2, 3] ∧ 3 ≤ 1048576 := by
  obtain ⟨-, -, hceiling, hcopy, -, -⟩ :=
    admission_budget ceilingMachine ceilingVerifier 6 (by decide)
  exact ⟨fun bytes => hceiling _ bytes, fun artifact => hcopy _ _ rfl artifact⟩

end Zrm.L4.Artifact
