import Zrm.L3Policy.Reservation

/-!
# The admission shape check (`zrm-policy/src/verifier.rs`)

Each error of the check has a condition of its own (`Applies`), stated on the two
candidates; the check reports the first one that applies. What the conditions read
is what the check depends on.

* `check_first`: the check is the search through the conditions.
* `admission_shape_exact`: agreement, monotonicity and the accepted epochs.
-/
namespace Zrm.L3.Verifier
open Zrm.BigEndian Zrm.Result Zrm.L1.Ids Zrm.L3.Limits Zrm.L3.Machine VerifierCompatibilityErrorV1

/-! ## The conditions -/

/-- The errors in the order of their checks. -/
def ADMISSION_FAULTS : List VerifierCompatibilityErrorV1 :=
  [admissionVerifierForbidden, admissionVerifierPolicyMismatch, machineMismatch, domainMismatch,
    costModelMismatch, machinePolicyInactive, verifierPolicyInactive, artifactLimitExceedsMachine,
    verifierCostLimitExceedsMachine]

/-- What is wrong when an error is reported, whatever else is. -/
def Applies (machine : MachinePolicyV1) (verifier : VerifierPolicyV1) (epoch : UInt64) :
    VerifierCompatibilityErrorV1 → Prop
  | admissionVerifierForbidden => machine.admissionPolicy = .localKernel
  | admissionVerifierPolicyMismatch =>
    machine.admissionPolicy ∉ [.localKernel, .requiredVerifier verifier.verifierPolicyId]
  | machineMismatch => machine.machineId ≠ verifier.machineId
  | domainMismatch => machine.domainId ≠ verifier.domainId
  | costModelMismatch => machine.verifierCostModelId ≠ verifier.verifierCostModelId
  | machinePolicyInactive =>
    ¬ (machine.candidate.validityStartEpoch ≤ epoch ∧ epoch ≤ machine.candidate.validityEndEpoch)
  | verifierPolicyInactive =>
    ¬ (verifier.candidate.validityStartEpoch ≤ epoch ∧ epoch ≤ verifier.candidate.validityEndEpoch)
  | artifactLimitExceedsMachine =>
    machine.limits.maxProofArtifactBytes.toNat < verifier.maxArtifactBytes.toNat ∨
      machine.limits.maxTotalProofBytes.toNat < verifier.maxArtifactBytes.toNat
  | verifierCostLimitExceedsMachine =>
    machine.limits.maxTotalVerifierCostUnits < verifier.maxVerifierCostUnits

instance Applies.decidable (machine : MachinePolicyV1) (verifier : VerifierPolicyV1)
    (epoch : UInt64) : DecidablePred (Applies machine verifier epoch)
  | admissionVerifierForbidden => inferInstanceAs (Decidable (_ = _))
  | admissionVerifierPolicyMismatch => inferInstanceAs (Decidable (_ ∉ [_, _]))
  | machineMismatch => inferInstanceAs (Decidable (_ ≠ _))
  | domainMismatch => inferInstanceAs (Decidable (_ ≠ _))
  | costModelMismatch => inferInstanceAs (Decidable (_ ≠ _))
  | machinePolicyInactive => inferInstanceAs (Decidable (¬ (_ ∧ _)))
  | verifierPolicyInactive => inferInstanceAs (Decidable (¬ (_ ∧ _)))
  | artifactLimitExceedsMachine => inferInstanceAs (Decidable (_ ∨ _))
  | verifierCostLimitExceedsMachine => inferInstanceAs (Decidable (_ < _))

/-! ## The check -/

section Check

variable (machine : MachinePolicyV1) (verifier : VerifierPolicyV1) (epoch : UInt64)

theorem check_first_candidate :
    err? (checkUntrustedVerifierCandidateShape machine verifier epoch) =
      (ADMISSION_FAULTS.drop 2).find? fun error => Applies machine verifier epoch error := by
  have hmachine : machine.isValidAt epoch = false ↔
      Applies machine verifier epoch machinePolicyInactive := by
    rw [← Bool.not_eq_true, machine.agrees.isValidAt]
    rfl
  have hverifier : verifier.isValidAt epoch = false ↔
      Applies machine verifier epoch verifierPolicyInactive := by
    rw [← Bool.not_eq_true, VerifierPolicyV1.isValidAt_iff]
    rfl
  have hartifact : (verifier.maxArtifactBytes > machine.limits.maxProofArtifactBytes.toUInt64 ∨
      verifier.maxArtifactBytes > machine.limits.maxTotalProofBytes.toUInt64) ↔
      Applies machine verifier epoch artifactLimitExceedsMachine := by
    simp only [gt_iff_lt, UInt64.lt_iff_toNat_lt, UInt32.toNat_toUInt64, Applies]
  unfold checkUntrustedVerifierCandidateShape
  refine err?_guard decide_eq_true_iff ?_
  refine err?_guard decide_eq_true_iff ?_
  refine err?_guard decide_eq_true_iff ?_
  refine err?_guard (decide_eq_true_iff.trans hmachine.symm) ?_
  refine err?_guard (decide_eq_true_iff.trans hverifier.symm) ?_
  refine err?_guard (decide_eq_true_iff.trans hartifact.symm) ?_
  exact err?_guard decide_eq_true_iff rfl

/-- The match on the admission policy, as two guards. -/
theorem check_eq_guards :
    checkUntrustedAdmissionCandidateShape machine verifier epoch =
      if Applies machine verifier epoch admissionVerifierForbidden then
        .error admissionVerifierForbidden
      else if Applies machine verifier epoch admissionVerifierPolicyMismatch then
        .error admissionVerifierPolicyMismatch
      else checkUntrustedVerifierCandidateShape machine verifier epoch := by
  unfold checkUntrustedAdmissionCandidateShape
  cases hpolicy : machine.admissionPolicy with
  | localKernel => rw [if_pos (show Applies _ _ _ admissionVerifierForbidden from hpolicy)]
  | requiredVerifier expectedPolicyId =>
    have hforbidden : ¬ Applies machine verifier epoch admissionVerifierForbidden := by
      unfold Applies
      rw [hpolicy]
      exact nofun
    have hmismatch : Applies machine verifier epoch admissionVerifierPolicyMismatch ↔
        expectedPolicyId ≠ verifier.verifierPolicyId := by
      unfold Applies
      rw [hpolicy]
      simp
    simp only [if_neg hforbidden, hmismatch]

/-- The check is the search for the first condition that applies. -/
theorem check_first :
    err? (checkUntrustedAdmissionCandidateShape machine verifier epoch) =
      ADMISSION_FAULTS.find? fun error => Applies machine verifier epoch error := by
  rw [check_eq_guards]
  refine err?_guard decide_eq_true_iff ?_
  exact err?_guard decide_eq_true_iff (check_first_candidate machine verifier epoch)

/-- The check passes when no condition applies. -/
theorem check_eq_ok :
    checkUntrustedAdmissionCandidateShape machine verifier epoch = .ok () ↔
      ∀ error, ¬ Applies machine verifier epoch error := by
  have hnone := err?_eq_none (x := checkUntrustedAdmissionCandidateShape machine verifier epoch)
  have hall : ∀ error, error ∈ ADMISSION_FAULTS := by
    intro error
    cases error <;> decide
  rw [check_first, List.find?_eq_none] at hnone
  refine ⟨fun h error => ?_, fun h => ?_⟩
  · have happlies := hnone.mpr ⟨(), h⟩ error (hall error)
    rwa [decide_eq_true_iff] at happlies
  · obtain ⟨⟨⟩, hok⟩ := hnone.mp fun error _ => by rw [decide_eq_true_iff]; exact h error
    exact hok

end Check

/-! ## What the check reads -/

/-- The policies name the same policy, machine, domain, cost model and window. -/
structure SameSelection (verifier verifier' : VerifierPolicyV1) : Prop where
  verifierPolicyId : verifier'.verifierPolicyId = verifier.verifierPolicyId
  machineId : verifier'.machineId = verifier.machineId
  domainId : verifier'.domainId = verifier.domainId
  verifierCostModelId : verifier'.verifierCostModelId = verifier.verifierCostModelId
  validityStartEpoch : verifier'.candidate.validityStartEpoch = verifier.candidate.validityStartEpoch
  validityEndEpoch : verifier'.candidate.validityEndEpoch = verifier.candidate.validityEndEpoch

/-- All but the epochs fits: no other condition applies, at any epoch. -/
def Compatible (machine : MachinePolicyV1) (verifier : VerifierPolicyV1) : Prop :=
  ∀ error, error ≠ machinePolicyInactive → error ≠ verifierPolicyInactive →
    ∀ epoch, ¬ Applies machine verifier epoch error

section Reads

variable {machine : MachinePolicyV1} {verifier verifier' : VerifierPolicyV1} {epoch : UInt64}

/-- Only the two windows read the epoch. -/
theorem Applies.at_epoch {error : VerifierCompatibilityErrorV1}
    (h : Applies machine verifier epoch error) (hmachine : error ≠ machinePolicyInactive)
    (hverifier : error ≠ verifierPolicyInactive) (epoch' : UInt64) :
    Applies machine verifier epoch' error := by
  cases error with
  | machinePolicyInactive => exact absurd rfl hmachine
  | verifierPolicyInactive => exact absurd rfl hverifier
  | _ => exact h

/-- With lower maxima, no condition applies that did not before. -/
theorem Applies.of_le (h : SameSelection verifier verifier')
    (hbytes : verifier'.maxArtifactBytes ≤ verifier.maxArtifactBytes)
    (hcost : verifier'.maxVerifierCostUnits ≤ verifier.maxVerifierCostUnits)
    {error : VerifierCompatibilityErrorV1} (happlies : Applies machine verifier' epoch error) :
    Applies machine verifier epoch error := by
  cases error with
  | admissionVerifierForbidden => exact happlies
  | admissionVerifierPolicyMismatch =>
    unfold Applies at happlies ⊢
    rwa [← h.verifierPolicyId]
  | machineMismatch =>
    unfold Applies at happlies ⊢
    rwa [← h.machineId]
  | domainMismatch =>
    unfold Applies at happlies ⊢
    rwa [← h.domainId]
  | costModelMismatch =>
    unfold Applies at happlies ⊢
    rwa [← h.verifierCostModelId]
  | machinePolicyInactive => exact happlies
  | verifierPolicyInactive =>
    unfold Applies at happlies ⊢
    rwa [← h.validityStartEpoch, ← h.validityEndEpoch]
  | artifactLimitExceedsMachine =>
    have hle := UInt64.le_iff_toNat_le.mp hbytes
    unfold Applies at happlies ⊢
    omega
  | verifierCostLimitExceedsMachine => exact UInt64.lt_of_lt_of_le happlies hcost

/-- Policies that select the same and have the same maxima get the same result. -/
theorem check_congr (h : SameSelection verifier verifier')
    (hbytes : verifier'.maxArtifactBytes = verifier.maxArtifactBytes)
    (hcost : verifier'.maxVerifierCostUnits = verifier.maxVerifierCostUnits) :
    checkUntrustedAdmissionCandidateShape machine verifier' epoch =
      checkUntrustedAdmissionCandidateShape machine verifier epoch := by
  have hback : SameSelection verifier' verifier :=
    ⟨h.1.symm, h.2.symm, h.3.symm, h.4.symm, h.5.symm, h.6.symm⟩
  have happlies : ∀ error, Applies machine verifier' epoch error ↔
      Applies machine verifier epoch error := fun error =>
    ⟨Applies.of_le h (UInt64.le_of_eq hbytes) (UInt64.le_of_eq hcost),
      Applies.of_le hback (UInt64.le_of_eq hbytes.symm) (UInt64.le_of_eq hcost.symm)⟩
  rw [← err?_inj, check_first, check_first]
  simp only [happlies]

theorem check_of_le (h : SameSelection verifier verifier')
    (hbytes : verifier'.maxArtifactBytes ≤ verifier.maxArtifactBytes)
    (hcost : verifier'.maxVerifierCostUnits ≤ verifier.maxVerifierCostUnits)
    (hok : checkUntrustedAdmissionCandidateShape machine verifier epoch = .ok ()) :
    checkUntrustedAdmissionCandidateShape machine verifier' epoch = .ok () := by
  rw [check_eq_ok] at hok ⊢
  exact fun error happlies => hok error (happlies.of_le h hbytes hcost)

/-- A compatible pair is accepted where both windows are open. -/
theorem check_epochs (h : Compatible machine verifier) :
    checkUntrustedAdmissionCandidateShape machine verifier epoch = .ok () ↔
      (machine.candidate.validityStartEpoch ≤ epoch ∧
        epoch ≤ machine.candidate.validityEndEpoch) ∧
      verifier.candidate.validityStartEpoch ≤ epoch ∧
        epoch ≤ verifier.candidate.validityEndEpoch := by
  rw [check_eq_ok]
  refine ⟨fun hnone => ?_, fun hwindows error => ?_⟩
  · exact ⟨not_not.mp (hnone machinePolicyInactive), not_not.mp (hnone verifierPolicyInactive)⟩
  · obtain ⟨hmachine, hverifier⟩ := hwindows
    by_cases hm : error = machinePolicyInactive
    · subst hm
      exact not_not.mpr hmachine
    · by_cases hv : error = verifierPolicyInactive
      · subst hv
        exact not_not.mpr hverifier
      · exact h error hm hv epoch

end Reads

/-! ## Main result -/

/-- **The admission shape check.** It reports the first condition that applies and
passes when none does. It depends on the verifier policy through its selection and two
maxima, lower maxima keep it passed, and for a compatible pair the accepted epochs are
those in both windows. -/
theorem admission_shape_exact (machine : MachinePolicyV1) (verifier : VerifierPolicyV1)
    (epoch : UInt64) :
    (∀ error, checkUntrustedAdmissionCandidateShape machine verifier epoch = .error error ↔
      ADMISSION_FAULTS.find? (fun e => Applies machine verifier epoch e) = some error) ∧
    (checkUntrustedAdmissionCandidateShape machine verifier epoch = .ok () ↔
      ∀ error, ¬ Applies machine verifier epoch error) ∧
    (∀ verifier', SameSelection verifier verifier' →
      verifier'.maxArtifactBytes = verifier.maxArtifactBytes →
      verifier'.maxVerifierCostUnits = verifier.maxVerifierCostUnits →
      checkUntrustedAdmissionCandidateShape machine verifier' epoch =
        checkUntrustedAdmissionCandidateShape machine verifier epoch) ∧
    (∀ verifier', SameSelection verifier verifier' →
      verifier'.maxArtifactBytes ≤ verifier.maxArtifactBytes →
      verifier'.maxVerifierCostUnits ≤ verifier.maxVerifierCostUnits →
      checkUntrustedAdmissionCandidateShape machine verifier epoch = .ok () →
      checkUntrustedAdmissionCandidateShape machine verifier' epoch = .ok ()) ∧
    (Compatible machine verifier → ∀ epoch,
      (checkUntrustedAdmissionCandidateShape machine verifier epoch = .ok () ↔
        (machine.candidate.validityStartEpoch ≤ epoch ∧
          epoch ≤ machine.candidate.validityEndEpoch) ∧
        verifier.candidate.validityStartEpoch ≤ epoch ∧
          epoch ≤ verifier.candidate.validityEndEpoch)) := by
  refine ⟨fun error => ?_, check_eq_ok machine verifier epoch, fun _ => check_congr,
    fun _ => check_of_le, fun h _ => check_epochs h⟩
  rw [← err?_eq_some, check_first]

/-- A machine at the ceilings that requires the reserved policy for admission. -/
def admittingMachine : MachinePolicyV1 where
  candidate := { ceilingCandidate with validityStartEpoch := 4 }
  admissionPolicy := .requiredVerifier (.repeated 15)
  limits := PolicyLimitsV1.protocolCeiling
  validity := ⟨4, 9, by decide⟩
  schema_eq := rfl
  suite_eq := rfl
  limits_eq := PolicyLimitsV1.tryFrom_eq_ok.mpr rfl
  admission_eq := rfl
  validity_eq := ValidityWindowV1.tryNew_eq_ok.mpr ⟨rfl, rfl⟩

theorem admission_shape_exact_windows :
    (∀ epoch, checkUntrustedAdmissionCandidateShape admittingMachine reservedPolicy epoch = .ok () ↔
      (4 ≤ epoch ∧ epoch ≤ 9) ∧ 1 ≤ epoch ∧ epoch ≤ 8) ∧
    ∃ verifier, verifier.candidate.proofMode = .test ∧ verifier.maxArtifactBytes = 1 ∧
      checkUntrustedAdmissionCandidateShape admittingMachine verifier 6 = .ok () := by
  have hcompatible : Compatible admittingMachine reservedPolicy := by
    have hnone : ∀ error, error ≠ machinePolicyInactive → error ≠ verifierPolicyInactive →
        ¬ Applies admittingMachine reservedPolicy 6 error := by
      intro error
      cases error <;> decide
    intro error hmachine hverifier epoch happlies
    exact hnone error hmachine hverifier (happlies.at_epoch hmachine hverifier 6)
  obtain ⟨-, -, -, hlower, hepochs⟩ := admission_shape_exact admittingMachine reservedPolicy 6
  have hepochs := hepochs hcompatible
  refine ⟨hepochs, ?_⟩
  let verifier : VerifierPolicyV1 :=
    { candidate := { reservedCandidate with proofMode := .test, maxArtifactBytes := 1 }
      validity := reservedPolicy.validity
      schema_eq := rfl
      validity_eq := reservedPolicy.validity_eq }
  exact ⟨verifier, rfl, rfl, hlower verifier ⟨rfl, rfl, rfl, rfl, rfl, rfl⟩ (by decide) (by decide)
    ((hepochs 6).mpr (by decide))⟩

end Zrm.L3.Verifier
