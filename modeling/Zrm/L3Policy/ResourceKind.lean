import Zrm.L1Types.Opaque
import Zrm.L1Types.Scalar
import Zrm.L3Policy.MachinePolicy

/-!
# Resource-kind policies (`zrm-policy/src/resource_kind.rs`)

* `ResourceKindPolicyV1.tryFrom_eq_ok`: a candidate is accepted with the policy
  that holds it.
* `err?_tryFrom`, `err?_validateDimensions`: the errors, in the order of the checks.
-/
namespace Zrm.L3.ResourceKind

open Zrm.BigEndian Zrm.Result Zrm.L1.Ids Zrm.L1.Scalar Zrm.L3.Limits Zrm.L3.Machine

/-- mirrors crates/zrm-policy/src/resource_kind.rs:19-30 -/
inductive AccountingModeV1
  | conservedFungible | authorityMintableFungible | lifecycleNonFungible | transformable
  | evidenceOnly
  deriving DecidableEq, Repr

/-- mirrors crates/zrm-policy/src/resource_kind.rs:34-39 -/
inductive DataAvailabilityRequirementV1
  | optional | required
  deriving DecidableEq, Repr

/-- mirrors crates/zrm-policy/src/resource_kind.rs:43-80 -/
structure ResourceKindPolicyCandidateV1 where
  schemaVersion : UInt16
  policyId : PolicyId
  machineId : MachineId
  domainId : DomainId
  applicationId : ApplicationId
  resourceKindId : ResourceKindId
  unitId : UnitId
  accountingMode : AccountingModeV1
  quantityMax : QuantityAtoms
  allowedLogicSetRoot : AllowedLogicSetRoot
  allowedLogicProfileSetRoot : AllowedLogicProfileSetRoot
  allowedTransformationSetRoot : AllowedTransformationSetRoot
  controllerPolicyRoot : ControllerPolicyRoot
  mintAuthorityRoot : MintAuthorityRoot
  burnAuthorityRoot : BurnAuthorityRoot
  dataAvailability : DataAvailabilityRequirementV1
  validityStartEpoch : UInt64
  validityEndEpoch : UInt64
  deriving DecidableEq

/-- mirrors crates/zrm-policy/src/error.rs:149-166 -/
inductive ResourceDimensionErrorV1
  | unitMismatch
  | lifecycleQuantityMustBeOne (actual : U128)
  | zeroQuantityForbidden
  | quantityExceedsMaximum (actual maximum : U128)
  deriving DecidableEq

/-- mirrors crates/zrm-policy/src/resource_kind.rs:88-91; `try_from` is the only
constructor. -/
structure ResourceKindPolicyV1 where
  candidate : ResourceKindPolicyCandidateV1
  validity : ValidityWindowV1
  schema_eq : candidate.schemaVersion = POLICY_SCHEMA_VERSION_V1
  validity_eq : ValidityWindowV1.tryNew .resourceKindPolicy candidate.validityStartEpoch
    candidate.validityEndEpoch = .ok validity
  lifecycle_max : candidate.accountingMode = .lifecycleNonFungible →
    candidate.quantityMax.get = 1
  deriving DecidableEq

namespace ResourceKindPolicyV1

/-! mirrors crates/zrm-policy/src/resource_kind.rs:95-116 -/

def unitId (policy : ResourceKindPolicyV1) : UnitId := policy.candidate.unitId
def quantityMax (policy : ResourceKindPolicyV1) : QuantityAtoms := policy.candidate.quantityMax
def accountingMode (policy : ResourceKindPolicyV1) : AccountingModeV1 :=
  policy.candidate.accountingMode
def isValidAt (policy : ResourceKindPolicyV1) (epoch : UInt64) : Bool :=
  policy.validity.contains epoch

/-- mirrors crates/zrm-policy/src/resource_kind.rs:129-154 -/
def validateDimensions (policy : ResourceKindPolicyV1) (unitId : UnitId)
    (quantity : QuantityAtoms) : Except ResourceDimensionErrorV1 Unit :=
  if unitId ≠ policy.candidate.unitId then .error .unitMismatch
  else if policy.candidate.accountingMode = .lifecycleNonFungible ∧ quantity.get ≠ 1 then
    .error (.lifecycleQuantityMustBeOne quantity.get)
  else if quantity.get = 0 then .error .zeroQuantityForbidden
  else if policy.candidate.quantityMax.get < quantity.get then
    .error (.quantityExceedsMaximum quantity.get policy.candidate.quantityMax.get)
  else .ok ()

/-- mirrors crates/zrm-policy/src/resource_kind.rs:173-197 -/
def tryFrom (candidate : ResourceKindPolicyCandidateV1) :
    Except PolicyValidationErrorV1 ResourceKindPolicyV1 :=
  if hschema : candidate.schemaVersion ≠ POLICY_SCHEMA_VERSION_V1 then
    .error (.unsupportedSchemaVersion .resourceKindPolicy candidate.schemaVersion)
  else do
    let validity ← attach (ValidityWindowV1.tryNew .resourceKindPolicy
      candidate.validityStartEpoch candidate.validityEndEpoch)
    if hmax : candidate.accountingMode = .lifecycleNonFungible ∧ candidate.quantityMax.get ≠ 1 then
      throw (.lifecycleQuantityMaximumMustBeOne candidate.quantityMax.get)
    else
      pure {
        candidate := candidate
        validity := validity.1
        schema_eq := not_not.mp hschema
        validity_eq := validity.2
        lifecycle_max := fun hmode => not_not.mp fun hone => hmax ⟨hmode, hone⟩ }

/-- The conversion accepts a candidate with the policies that hold it. -/
theorem tryFrom_eq_ok {candidate : ResourceKindPolicyCandidateV1} {policy : ResourceKindPolicyV1} :
    tryFrom candidate = .ok policy ↔ policy.candidate = candidate := by
  unfold tryFrom
  refine ⟨fun h => ?_, fun h' => ?_⟩
  · split at h
    · cases h
    obtain ⟨validity, _, h⟩ := bind_eq_ok.mp h
    split at h <;> cases h
    rfl
  · obtain rfl := h'
    have hmax : ¬ (policy.candidate.accountingMode = .lifecycleNonFungible ∧
        policy.candidate.quantityMax.get ≠ 1) := fun h => h.2 (policy.lifecycle_max h.1)
    rw [dif_neg (not_not.mpr policy.schema_eq), attach_eq_ok ⟨policy.validity, policy.validity_eq⟩,
      ok_bind, dif_neg hmax]
    rfl

/-- The errors of the conversion, in the order of its checks. -/
theorem err?_tryFrom (candidate : ResourceKindPolicyCandidateV1) :
    err? (tryFrom candidate) =
      if candidate.schemaVersion ≠ POLICY_SCHEMA_VERSION_V1 then
        some (.unsupportedSchemaVersion .resourceKindPolicy candidate.schemaVersion)
      else if candidate.validityEndEpoch < candidate.validityStartEpoch then
        some (.invalidValidityWindow .resourceKindPolicy candidate.validityStartEpoch
          candidate.validityEndEpoch)
      else if candidate.accountingMode = .lifecycleNonFungible ∧
          candidate.quantityMax.get ≠ 1 then
        some (.lifecycleQuantityMaximumMustBeOne candidate.quantityMax.get)
      else none := by
  unfold tryFrom
  split
  · rfl
  · calc _ = (err? (ValidityWindowV1.tryNew .resourceKindPolicy candidate.validityStartEpoch
          candidate.validityEndEpoch)).or
          (if candidate.accountingMode = .lifecycleNonFungible ∧
              candidate.quantityMax.get ≠ 1 then
            some (.lifecycleQuantityMaximumMustBeOne candidate.quantityMax.get)
          else none) := err?_attach_bind fun validity => by split <;> rfl
      _ = _ := by
        rw [ValidityWindowV1.err?_tryNew]
        split <;> rfl

theorem err?_validateDimensions (policy : ResourceKindPolicyV1) (unitId : UnitId)
    (quantity : QuantityAtoms) :
    err? (policy.validateDimensions unitId quantity) =
      if unitId ≠ policy.candidate.unitId then some .unitMismatch
      else if policy.candidate.accountingMode = .lifecycleNonFungible ∧ quantity.get ≠ 1 then
        some (.lifecycleQuantityMustBeOne quantity.get)
      else if quantity.get = 0 then some .zeroQuantityForbidden
      else if policy.candidate.quantityMax.get < quantity.get then
        some (.quantityExceedsMaximum quantity.get policy.candidate.quantityMax.get)
      else none := by
  unfold validateDimensions
  repeat' split
  all_goals rfl

end ResourceKindPolicyV1

end Zrm.L3.ResourceKind
