import Mathlib.Algebra.Ring.Int.Defs
import Mathlib.Data.String.Basic
import Zrm.Core.Result

/-!
# The resource-kind policy oracles (`reference_models/`)

`resource_kind_policy_v1.py` decides policies and resource quantities as the
draft specification reads; `resource_kind_policy_v1_rfc0003_proposed.py` decides
them under the proposed amendment. Both take inert candidates, whose fields may
hold any Python object (`HostValue`).

* `construction_accepts_iff`, `quantity_accepts_iff` and their `rfc0003` forms:
  the accepted candidates as a conjunction.
* `amendment_tightens`: where the two oracles differ.
-/
namespace Zrm.L5.KindPolicy

/-! ## Candidates -/

/-- mirrors reference_models/resource_kind_policy_v1.py:18-19 -/
def U64_MAX : Int := 2 ^ 64 - 1

def U128_MAX : Int := 2 ^ 128 - 1

/-- A Python object in a field declared `int`: an exact `int`, or something else
(a `bool` among others). -/
inductive HostValue
  | int (value : Int)
  | foreign
  deriving DecidableEq

/-- `value != n`, of values checked to be `int` before -/
def HostValue.ne (value : HostValue) (n : Int) : Bool := value != .int n

/-- `a > b`, of values checked to be `int` before -/
def HostValue.gt : HostValue → HostValue → Bool
  | .int a, .int b => b < a
  | _, _ => false

/-- mirrors reference_models/resource_kind_policy_v1.py:22-29 -/
inductive AccountingMode
  | conservedFungible | authorityMintableFungible | lifecycleNonFungible | transformable
  | evidenceOnly
  deriving DecidableEq, Repr

/-- mirrors reference_models/resource_kind_policy_v1.py:61-75; a mode that is no
`AccountingMode` is `none`. -/
structure PolicyCandidateV1 where
  schemaVersion : HostValue
  accountingMode : Option AccountingMode
  unitId : String
  quantityMax : HostValue
  validityStartEpoch : HostValue
  validityEndEpoch : HostValue
  deriving DecidableEq

/-- mirrors reference_models/resource_kind_policy_v1.py:78-87 -/
structure ResourceQuantityCandidateV1 where
  unitId : String
  quantityAtoms : HostValue
  deriving DecidableEq

/-! ## Decisions -/

/-- mirrors reference_models/resource_kind_policy_v1.py:32-36, and
`ProposedDecisionKind` of the amendment -/
inductive DecisionKind
  | accept | reject
  deriving DecidableEq, Repr

/-- mirrors reference_models/resource_kind_policy_v1.py:39-58 -/
inductive Reason
  | policyShapeAccepted
  | resourceQuantityAccepted
  | evidenceOnlyQuantityStructurallyAccepted
  | unsupportedSchema
  | unsupportedAccountingMode
  | validityEpochOutOfRange
  | invalidValidityWindow
  | quantityMaxOutOfRange
  | unitMismatch
  | quantityOutOfRange
  | zeroQuantityRequiresExplicitMarkerPermission
  | quantityExceedsMaximum
  | lifecycleQuantityMustEqualOne
  deriving DecidableEq, Repr

def Reason.value : Reason → String
  | policyShapeAccepted => "policy_shape_accepted"
  | resourceQuantityAccepted => "resource_quantity_accepted"
  | evidenceOnlyQuantityStructurallyAccepted => "evidence_only_quantity_structurally_accepted"
  | unsupportedSchema => "unsupported_schema"
  | unsupportedAccountingMode => "unsupported_accounting_mode"
  | validityEpochOutOfRange => "validity_epoch_out_of_range"
  | invalidValidityWindow => "invalid_validity_window"
  | quantityMaxOutOfRange => "quantity_max_out_of_range"
  | unitMismatch => "unit_mismatch"
  | quantityOutOfRange => "quantity_out_of_range"
  | zeroQuantityRequiresExplicitMarkerPermission =>
    "zero_quantity_requires_explicit_marker_permission"
  | quantityExceedsMaximum => "quantity_exceeds_maximum"
  | lifecycleQuantityMustEqualOne => "lifecycle_quantity_must_equal_one"

/-- mirrors reference_models/resource_kind_policy_v1_rfc0003_proposed.py:31-53 -/
inductive ProposedReason
  | policyShapeAccepted
  | resourceQuantityAccepted
  | evidenceOnlyQuantityStructurallyAccepted
  | unsupportedSchema
  | unsupportedAccountingMode
  | validityEpochOutOfRange
  | invalidValidityWindow
  | quantityMaxOutOfRange
  | lifecyclePolicyMaximumMustEqualOne
  | unitMismatch
  | quantityOutOfRange
  | lifecycleQuantityMustEqualOne
  | zeroQuantityRequiresExplicitMarkerPermission
  | quantityExceedsMaximum
  deriving DecidableEq, Repr

def ProposedReason.value : ProposedReason → String
  | policyShapeAccepted => "policy_shape_accepted"
  | resourceQuantityAccepted => "resource_quantity_accepted"
  | evidenceOnlyQuantityStructurallyAccepted => "evidence_only_quantity_structurally_accepted"
  | unsupportedSchema => "unsupported_schema"
  | unsupportedAccountingMode => "unsupported_accounting_mode"
  | validityEpochOutOfRange => "validity_epoch_out_of_range"
  | invalidValidityWindow => "invalid_validity_window"
  | quantityMaxOutOfRange => "quantity_max_out_of_range"
  | lifecyclePolicyMaximumMustEqualOne => "lifecycle_policy_maximum_must_equal_one"
  | unitMismatch => "unit_mismatch"
  | quantityOutOfRange => "quantity_out_of_range"
  | lifecycleQuantityMustEqualOne => "lifecycle_quantity_must_equal_one"
  | zeroQuantityRequiresExplicitMarkerPermission =>
    "zero_quantity_requires_explicit_marker_permission"
  | quantityExceedsMaximum => "quantity_exceeds_maximum"

/-- A decision with reasons in `ρ`.
mirrors reference_models/resource_kind_policy_v1.py:90-96, and `ProposedDecision` -/
structure Decision (ρ : Type) where
  kind : DecisionKind
  reason : ρ
  nonClaims : List String
  deriving DecidableEq

variable {ρ : Type}

/-- mirrors reference_models/resource_kind_policy_v1.py:99-102 -/
def isProtocolUnsigned (value : HostValue) (maximum : Int) : Bool :=
  match value with
  | .int v => 0 ≤ v && v ≤ maximum
  | .foreign => false

/-- mirrors reference_models/resource_kind_policy_v1.py:105-108 -/
def accept (reason : ρ) (nonClaims : List String) : Decision ρ := ⟨.accept, reason, nonClaims⟩

/-- mirrors reference_models/resource_kind_policy_v1.py:111-114 -/
def reject (reason : ρ) : Decision ρ := ⟨.reject, reason, []⟩

/-! ## The draft specification -/

/-- mirrors reference_models/resource_kind_policy_v1.py:117-146 -/
def decidePolicyConstruction (candidate : PolicyCandidateV1) : Decision Reason :=
  if candidate.schemaVersion.ne 1 then reject .unsupportedSchema
  else if candidate.accountingMode.isNone then reject .unsupportedAccountingMode
  else if !isProtocolUnsigned candidate.validityStartEpoch U64_MAX then
    reject .validityEpochOutOfRange
  else if !isProtocolUnsigned candidate.validityEndEpoch U64_MAX then
    reject .validityEpochOutOfRange
  else if candidate.validityStartEpoch.gt candidate.validityEndEpoch then
    reject .invalidValidityWindow
  else if !isProtocolUnsigned candidate.quantityMax U128_MAX then reject .quantityMaxOutOfRange
  else accept .policyShapeAccepted
    ["policy authentication and activation remain unestablished",
      "policy construction does not guarantee an admitted resource exists"]

/-- mirrors reference_models/resource_kind_policy_v1.py:149-191 -/
def decideResourceQuantity (policy : PolicyCandidateV1) (resource : ResourceQuantityCandidateV1) :
    Decision Reason :=
  let policyDecision := decidePolicyConstruction policy
  if policyDecision.kind = .reject then policyDecision
  else if resource.unitId ≠ policy.unitId then reject .unitMismatch
  else if !isProtocolUnsigned resource.quantityAtoms U128_MAX then reject .quantityOutOfRange
  else if resource.quantityAtoms = .int 0 then
    reject .zeroQuantityRequiresExplicitMarkerPermission
  else if resource.quantityAtoms.gt policy.quantityMax then reject .quantityExceedsMaximum
  else if policy.accountingMode = some .lifecycleNonFungible ∧ resource.quantityAtoms.ne 1 then
    reject .lifecycleQuantityMustEqualOne
  else if policy.accountingMode = some .evidenceOnly then
    accept .evidenceOnlyQuantityStructurallyAccepted
      ["nonmonetary semantics remain unestablished",
        "nonfungible interpretation remains unestablished",
        "zero-marker permission remains unavailable in the v1 schema"]
  else accept .resourceQuantityAccepted
    ["transition accounting and authority remain unestablished"]

/-! ## The proposed amendment -/

/-- mirrors reference_models/resource_kind_policy_v1_rfc0003_proposed.py:83-120 -/
def decideRfc0003PolicyConstruction (candidate : PolicyCandidateV1) : Decision ProposedReason :=
  if candidate.schemaVersion.ne 1 then reject .unsupportedSchema
  else if candidate.accountingMode.isNone then reject .unsupportedAccountingMode
  else if !isProtocolUnsigned candidate.validityStartEpoch U64_MAX then
    reject .validityEpochOutOfRange
  else if !isProtocolUnsigned candidate.validityEndEpoch U64_MAX then
    reject .validityEpochOutOfRange
  else if candidate.validityStartEpoch.gt candidate.validityEndEpoch then
    reject .invalidValidityWindow
  else if !isProtocolUnsigned candidate.quantityMax U128_MAX then reject .quantityMaxOutOfRange
  else if candidate.accountingMode = some .lifecycleNonFungible ∧ candidate.quantityMax.ne 1 then
    reject .lifecyclePolicyMaximumMustEqualOne
  else accept .policyShapeAccepted
    (["RFC-0003 remains proposed until governed acceptance",
      "policy authentication and activation remain unestablished"] ++
      if candidate.quantityMax = .int 0 then ["an admitted resource may not exist"] else [])

/-- mirrors reference_models/resource_kind_policy_v1_rfc0003_proposed.py:123-168 -/
def decideRfc0003ResourceQuantity (policy : PolicyCandidateV1)
    (resource : ResourceQuantityCandidateV1) : Decision ProposedReason :=
  let policyDecision := decideRfc0003PolicyConstruction policy
  if policyDecision.kind = .reject then policyDecision
  else if resource.unitId ≠ policy.unitId then reject .unitMismatch
  else if !isProtocolUnsigned resource.quantityAtoms U128_MAX then reject .quantityOutOfRange
  else if policy.accountingMode = some .lifecycleNonFungible ∧ resource.quantityAtoms.ne 1 then
    reject .lifecycleQuantityMustEqualOne
  else if resource.quantityAtoms = .int 0 then
    reject .zeroQuantityRequiresExplicitMarkerPermission
  else if resource.quantityAtoms.gt policy.quantityMax then reject .quantityExceedsMaximum
  else if policy.accountingMode = some .evidenceOnly then
    accept .evidenceOnlyQuantityStructurallyAccepted
      ["RFC-0003 remains proposed until governed acceptance",
        "evidence meaning remains unestablished",
        "nonmonetary and nonfungible interpretation remain unestablished",
        "v1 has no zero-marker permission"]
  else accept .resourceQuantityAccepted
    ["RFC-0003 remains proposed until governed acceptance",
      "transition accounting and authority remain unestablished"]

/-! ## What the oracles accept -/

@[simp] theorem kind_accept (reason : ρ) (nonClaims : List String) :
    (accept reason nonClaims).kind = .accept := rfl

@[simp] theorem kind_reject (reason : ρ) : (reject reason).kind = .reject := rfl

@[simp] theorem reason_accept (reason : ρ) (nonClaims : List String) :
    (accept reason nonClaims).reason = reason := rfl

@[simp] theorem reason_reject (reason : ρ) : (reject reason).reason = reason := rfl

theorem DecisionKind.eq_reject {kind : DecisionKind} : kind = .reject ↔ ¬ kind = .accept := by
  cases kind <;> simp

@[simp] theorem HostValue.ne_iff {value : HostValue} {n : Int} :
    value.ne n = true ↔ ¬ value = .int n := by
  simp [HostValue.ne]

/-- A guard accepts through its other branch only. -/
theorem guard_accepts {P : Prop} [Decidable P] {reason : ρ} {decision : Decision ρ} :
    (if P then reject reason else decision).kind = .accept ↔ ¬ P ∧ decision.kind = .accept := by
  split <;> simp [*]

/-- The checks that both oracles make on a policy candidate. -/
structure WellShaped (candidate : PolicyCandidateV1) : Prop where
  schema : candidate.schemaVersion = .int 1
  mode : candidate.accountingMode.isNone = false
  start : isProtocolUnsigned candidate.validityStartEpoch U64_MAX
  stop : isProtocolUnsigned candidate.validityEndEpoch U64_MAX
  window : candidate.validityStartEpoch.gt candidate.validityEndEpoch = false
  max : isProtocolUnsigned candidate.quantityMax U128_MAX

/-- The checks that both oracles make on a resource candidate. -/
structure Admits (policy : PolicyCandidateV1) (resource : ResourceQuantityCandidateV1) : Prop where
  unit : resource.unitId = policy.unitId
  range : isProtocolUnsigned resource.quantityAtoms U128_MAX
  nonzero : resource.quantityAtoms ≠ .int 0
  max : resource.quantityAtoms.gt policy.quantityMax = false
  lifecycle : policy.accountingMode = some .lifecycleNonFungible → resource.quantityAtoms = .int 1

/-- The check that the amendment adds. -/
def LifecycleMax (policy : PolicyCandidateV1) : Prop :=
  policy.accountingMode = some .lifecycleNonFungible → policy.quantityMax = .int 1

theorem construction_accepts_iff {candidate : PolicyCandidateV1} :
    (decidePolicyConstruction candidate).kind = .accept ↔ WellShaped candidate := by
  unfold decidePolicyConstruction
  simp only [guard_accepts, kind_accept, HostValue.ne_iff, Bool.not_eq_true', Bool.not_eq_true,
    Bool.not_eq_false, not_not, and_true]
  refine ⟨fun h => ?_, fun h => ?_⟩
  · obtain ⟨schema, mode, start, stop, window, max⟩ := h
    exact ⟨schema, mode, start, stop, window, max⟩
  · obtain ⟨schema, mode, start, stop, window, max⟩ := h
    exact ⟨schema, mode, start, stop, window, max⟩

theorem rfc0003_construction_accepts_iff {candidate : PolicyCandidateV1} :
    (decideRfc0003PolicyConstruction candidate).kind = .accept ↔
      WellShaped candidate ∧ LifecycleMax candidate := by
  unfold decideRfc0003PolicyConstruction LifecycleMax
  simp only [guard_accepts, kind_accept, HostValue.ne_iff, Bool.not_eq_true', Bool.not_eq_true,
    Bool.not_eq_false, not_not, not_and, and_true]
  refine ⟨fun h => ?_, fun h => ?_⟩
  · obtain ⟨schema, mode, start, stop, window, max, lifecycle⟩ := h
    exact ⟨⟨schema, mode, start, stop, window, max⟩, lifecycle⟩
  · obtain ⟨⟨schema, mode, start, stop, window, max⟩, lifecycle⟩ := h
    exact ⟨schema, mode, start, stop, window, max, lifecycle⟩

/-- A rejected policy decides the resource. -/
theorem quantity_of_rejected {policy : PolicyCandidateV1} {resource : ResourceQuantityCandidateV1}
    (h : ¬ (decidePolicyConstruction policy).kind = .accept) :
    decideResourceQuantity policy resource = decidePolicyConstruction policy :=
  if_pos (DecisionKind.eq_reject.mpr h)

theorem rfc0003_quantity_of_rejected {policy : PolicyCandidateV1}
    {resource : ResourceQuantityCandidateV1}
    (h : ¬ (decideRfc0003PolicyConstruction policy).kind = .accept) :
    decideRfc0003ResourceQuantity policy resource = decideRfc0003PolicyConstruction policy :=
  if_pos (DecisionKind.eq_reject.mpr h)

theorem quantity_accepts_iff {policy : PolicyCandidateV1}
    {resource : ResourceQuantityCandidateV1} :
    (decideResourceQuantity policy resource).kind = .accept ↔
      WellShaped policy ∧ Admits policy resource := by
  by_cases hpolicy : (decidePolicyConstruction policy).kind = .accept
  swap
  · rw [quantity_of_rejected hpolicy, construction_accepts_iff]
    rw [construction_accepts_iff] at hpolicy
    simp [hpolicy]
  have hshape := construction_accepts_iff.mp hpolicy
  unfold decideResourceQuantity
  rw [if_neg (by simp [hpolicy])]
  simp only [guard_accepts, HostValue.ne_iff, Bool.not_eq_true', Bool.not_eq_true,
    Bool.not_eq_false, not_not, not_and]
  refine ⟨fun h => ?_, fun h => ?_⟩
  · obtain ⟨unit, range, nonzero, max, lifecycle, -⟩ := h
    exact ⟨hshape, unit, range, nonzero, max, lifecycle⟩
  · obtain ⟨-, unit, range, nonzero, max, lifecycle⟩ := h
    refine ⟨unit, range, nonzero, max, lifecycle, ?_⟩
    split <;> simp

theorem rfc0003_quantity_accepts_iff {policy : PolicyCandidateV1}
    {resource : ResourceQuantityCandidateV1} :
    (decideRfc0003ResourceQuantity policy resource).kind = .accept ↔
      WellShaped policy ∧ LifecycleMax policy ∧ Admits policy resource := by
  by_cases hpolicy : (decideRfc0003PolicyConstruction policy).kind = .accept
  swap
  · rw [rfc0003_quantity_of_rejected hpolicy, rfc0003_construction_accepts_iff]
    rw [rfc0003_construction_accepts_iff] at hpolicy
    simp only [hpolicy, ← and_assoc, false_and]
  have hshape := rfc0003_construction_accepts_iff.mp hpolicy
  unfold decideRfc0003ResourceQuantity
  rw [if_neg (by simp [hpolicy])]
  simp only [guard_accepts, HostValue.ne_iff, Bool.not_eq_true', Bool.not_eq_true,
    Bool.not_eq_false, not_not, not_and]
  refine ⟨fun h => ?_, fun h => ?_⟩
  · obtain ⟨unit, range, lifecycle, nonzero, max, -⟩ := h
    exact ⟨hshape.1, hshape.2, unit, range, nonzero, max, lifecycle⟩
  · obtain ⟨-, -, unit, range, nonzero, max, lifecycle⟩ := h
    refine ⟨unit, range, lifecycle, nonzero, max, ?_⟩
    split <;> simp

/-! ## Where the oracles differ -/

theorem exists_of_isProtocolUnsigned {value : HostValue} {maximum : Int}
    (h : isProtocolUnsigned value maximum = true) :
    ∃ v, value = .int v ∧ 0 ≤ v ∧ v ≤ maximum := by
  cases value with
  | int v => exact ⟨v, rfl, by simpa [isProtocolUnsigned] using h⟩
  | foreign => cases h

/-- Under a lifecycle policy, only a maximum of two atoms or more separates a resource
that the draft admits from the amendment. -/
theorem Admits.not_lifecycleMax_iff {policy : PolicyCandidateV1}
    {resource : ResourceQuantityCandidateV1} (hshape : WellShaped policy)
    (h : Admits policy resource) :
    ¬ LifecycleMax policy ↔ policy.accountingMode = some .lifecycleNonFungible ∧
      ∃ q, policy.quantityMax = .int q ∧ 2 ≤ q := by
  obtain ⟨q, hq, _, _⟩ := exists_of_isProtocolUnsigned hshape.max
  unfold LifecycleMax
  constructor
  · intro hmax
    have ⟨hmode, hne⟩ := Classical.not_imp.mp hmax
    -- the one atom of the resource is within the maximum
    have hone := h.max
    rw [h.lifecycle hmode, hq] at hone
    have : q ≠ 1 := fun h1 => hne (by rw [hq, h1])
    have : 1 ≤ q := by simpa [HostValue.gt] using hone
    exact ⟨hmode, q, hq, by omega⟩
  · intro hfault hmax
    obtain ⟨hmode, q', hq', h2⟩ := hfault
    have h1 := hmax hmode
    rw [hq', HostValue.int.injEq] at h1
    omega

/-- The reasons of the two oracles for a resource, under a policy that both construct. -/
theorem reasons_differ_iff {policy : PolicyCandidateV1} {resource : ResourceQuantityCandidateV1}
    (hpolicy : (decidePolicyConstruction policy).kind = .accept)
    (hrfc : (decideRfc0003PolicyConstruction policy).kind = .accept) :
    (decideResourceQuantity policy resource).reason.value ≠
        (decideRfc0003ResourceQuantity policy resource).reason.value ↔
      policy.accountingMode = some .lifecycleNonFungible ∧
        resource.unitId = policy.unitId ∧
        isProtocolUnsigned resource.quantityAtoms U128_MAX ∧
        resource.quantityAtoms ≠ .int 1 := by
  have hmax := (rfc0003_construction_accepts_iff.mp hrfc).2
  have hbase : ¬ (decidePolicyConstruction policy).kind = .reject := by simp [hpolicy]
  have hprop : ¬ (decideRfc0003PolicyConstruction policy).kind = .reject := by simp [hrfc]
  unfold decideResourceQuantity decideRfc0003ResourceQuantity
  rw [if_neg hbase, if_neg hprop]
  by_cases hunit : resource.unitId = policy.unitId
  swap
  · rw [if_pos hunit, if_pos hunit]
    simp [hunit, Reason.value, ProposedReason.value]
  rw [if_neg (not_not.mpr hunit), if_neg (not_not.mpr hunit)]
  by_cases hrange : isProtocolUnsigned resource.quantityAtoms U128_MAX = true
  swap
  · simp [hrange, Reason.value, ProposedReason.value]
  have hin : ¬ (!isProtocolUnsigned resource.quantityAtoms U128_MAX) = true := by simp [hrange]
  rw [if_neg hin, if_neg hin]
  simp only [hunit, hrange, true_and]
  by_cases hmode : policy.accountingMode = some .lifecycleNonFungible
  · -- the maximum is one atom: where the amendment reports the lifecycle quantity, the
    -- draft reports zero or excess
    obtain ⟨q, hq, hq0, -⟩ := exists_of_isProtocolUnsigned hrange
    rw [hmax hmode, hq]
    by_cases h1 : q = 1
    · subst h1
      simp [hmode, HostValue.gt, Reason.value, ProposedReason.value]
    by_cases h0 : q = 0
    · subst h0
      simp [hmode, Reason.value, ProposedReason.value]
    · have hgt : 1 < q := by omega
      simp [hmode, HostValue.gt, h0, h1, hgt, Reason.value, ProposedReason.value]
  · -- both read the same chain of checks
    simp only [hmode, false_and, if_false]
    by_cases h0 : resource.quantityAtoms = .int 0
    · simp [h0, Reason.value, ProposedReason.value]
    by_cases hgt : resource.quantityAtoms.gt policy.quantityMax = true
    · simp [h0, hgt, Reason.value, ProposedReason.value]
    by_cases hev : policy.accountingMode = some .evidenceOnly
    · simp [h0, hgt, hev, Reason.value, ProposedReason.value]
    · simp [h0, hgt, hev, Reason.value, ProposedReason.value]

/-- **The amendment only tightens lifecycle policies.** -/
theorem amendment_tightens (policy : PolicyCandidateV1) (resource : ResourceQuantityCandidateV1) :
    ((decideRfc0003PolicyConstruction policy).kind = .accept →
      (decidePolicyConstruction policy).kind = .accept) ∧
    ((decideRfc0003PolicyConstruction policy).kind ≠ (decidePolicyConstruction policy).kind ↔
      (decidePolicyConstruction policy).kind = .accept ∧
        policy.accountingMode = some .lifecycleNonFungible ∧ policy.quantityMax ≠ .int 1) ∧
    ((decideRfc0003ResourceQuantity policy resource).kind = .accept →
      (decideResourceQuantity policy resource).kind = .accept) ∧
    ((decideRfc0003ResourceQuantity policy resource).kind ≠
        (decideResourceQuantity policy resource).kind ↔
      (decideResourceQuantity policy resource).kind = .accept ∧
        policy.accountingMode = some .lifecycleNonFungible ∧
        ∃ q, policy.quantityMax = .int q ∧ 2 ≤ q) ∧
    ((decideResourceQuantity policy resource).kind = .accept →
      policy.accountingMode = some .lifecycleNonFungible → resource.quantityAtoms = .int 1) ∧
    ((decidePolicyConstruction policy).kind = .accept →
      (decideRfc0003PolicyConstruction policy).kind = .accept →
      ((decideResourceQuantity policy resource).reason.value ≠
          (decideRfc0003ResourceQuantity policy resource).reason.value ↔
        policy.accountingMode = some .lifecycleNonFungible ∧
          resource.unitId = policy.unitId ∧
          isProtocolUnsigned resource.quantityAtoms U128_MAX ∧
          resource.quantityAtoms ≠ .int 1)) := by
  have hdiffer : ∀ a b : DecisionKind, a ≠ b ↔ ¬ (a = .accept ↔ b = .accept) := by
    intro a b
    cases a <;> cases b <;> simp
  refine ⟨fun h => ?_, ?_, fun h => ?_, ?_, fun h => ?_, reasons_differ_iff⟩
  · exact construction_accepts_iff.mpr (rfc0003_construction_accepts_iff.mp h).1
  · rw [hdiffer, construction_accepts_iff, rfc0003_construction_accepts_iff]
    unfold LifecycleMax
    tauto
  · have ⟨hshape, _, hadmits⟩ := rfc0003_quantity_accepts_iff.mp h
    exact quantity_accepts_iff.mpr ⟨hshape, hadmits⟩
  · rw [hdiffer, quantity_accepts_iff, rfc0003_quantity_accepts_iff]
    refine ⟨fun hne => ?_, fun h' => ?_⟩
    · have ⟨hshape, hadmits⟩ : WellShaped policy ∧ Admits policy resource := by tauto
      exact ⟨⟨hshape, hadmits⟩, (hadmits.not_lifecycleMax_iff hshape).mp (by tauto)⟩
    · obtain ⟨⟨hshape, hadmits⟩, hexceeds⟩ := h'
      have hmax := (hadmits.not_lifecycleMax_iff hshape).mpr hexceeds
      tauto
  · exact (quantity_accepts_iff.mp h).2.lifecycle

end Zrm.L5.KindPolicy
