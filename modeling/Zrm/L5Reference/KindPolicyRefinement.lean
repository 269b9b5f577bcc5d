import Zrm.L3Policy.ResourceKind
import Zrm.L5Reference.KindPolicyOracle

/-!
# The kernel's resource-kind policies against the amended oracle

`hostPolicy` and `hostResource` give the oracle's candidates for typed ones: an
integer is its value, a mode the member of the same name, a unit a text that
names it.

* `construction_agrees`: `try_from` decides as the oracle's policy construction.
* `quantity_agrees`: followed by `validate_dimensions`, it decides as the
  oracle's resource quantity.
* `kind_policy_agrees`: both stages.
-/
namespace Zrm.L5.KindPolicy

open Zrm.BigEndian Zrm.Result Zrm.L1.Ids Zrm.L1.Scalar Zrm.L3.Limits Zrm.L3.Machine
  Zrm.L3.ResourceKind

/-! ## Host candidates -/

def hostU16 (x : UInt16) : HostValue := .int x.toNat
def hostU64 (x : UInt64) : HostValue := .int x.toNat
def hostU128 (x : U128) : HostValue := .int x.toNat

def hostMode : AccountingModeV1 → AccountingMode
  | .conservedFungible => .conservedFungible
  | .authorityMintableFungible => .authorityMintableFungible
  | .lifecycleNonFungible => .lifecycleNonFungible
  | .transformable => .transformable
  | .evidenceOnly => .evidenceOnly

def hostPolicy (unitText : UnitId → String) (candidate : ResourceKindPolicyCandidateV1) :
    PolicyCandidateV1 where
  schemaVersion := hostU16 candidate.schemaVersion
  accountingMode := some (hostMode candidate.accountingMode)
  unitId := unitText candidate.unitId
  quantityMax := hostU128 candidate.quantityMax.get
  validityStartEpoch := hostU64 candidate.validityStartEpoch
  validityEndEpoch := hostU64 candidate.validityEndEpoch

def hostResource (unitText : UnitId → String) (unitId : UnitId) (quantity : QuantityAtoms) :
    ResourceQuantityCandidateV1 where
  unitId := unitText unitId
  quantityAtoms := hostU128 quantity.get

theorem hostU16_eq {x y : UInt16} : hostU16 x = .int y.toNat ↔ x = y := by
  rw [hostU16, HostValue.int.injEq, Int.natCast_inj, UInt16.toNat_inj]

theorem hostU128_eq {x y : U128} : hostU128 x = .int y.toNat ↔ x = y := by
  rw [hostU128, HostValue.int.injEq, Int.natCast_inj, BitVec.toNat_inj]

@[simp] theorem hostU64_inRange (x : UInt64) : isProtocolUnsigned (hostU64 x) U64_MAX = true := by
  have hlt := x.toNat_lt
  have hle : (x.toNat : Int) ≤ U64_MAX := by unfold U64_MAX; omega
  simp [isProtocolUnsigned, hostU64, hle]

@[simp] theorem hostU128_inRange (x : U128) : isProtocolUnsigned (hostU128 x) U128_MAX = true := by
  have hlt := x.isLt
  have hle : (x.toNat : Int) ≤ U128_MAX := by unfold U128_MAX; omega
  simp [isProtocolUnsigned, hostU128, hle]

@[simp] theorem hostU64_gt {x y : UInt64} : (hostU64 x).gt (hostU64 y) = true ↔ y < x := by
  simp [hostU64, HostValue.gt, UInt64.lt_iff_toNat_lt]

@[simp] theorem hostU128_gt {x y : U128} : (hostU128 x).gt (hostU128 y) = true ↔ y < x := by
  simp [hostU128, HostValue.gt, BitVec.lt_def]

@[simp] theorem hostMode_lifecycle {mode : AccountingModeV1} :
    hostMode mode = .lifecycleNonFungible ↔ mode = .lifecycleNonFungible := by
  cases mode <;> simp [hostMode]

/-! ## Agreement -/

/-- The oracle's reason for a policy error; the other errors are not those of a
resource-kind policy. -/
def policyReason : PolicyValidationErrorV1 → Option ProposedReason
  | .unsupportedSchemaVersion _ _ => some .unsupportedSchema
  | .invalidValidityWindow _ _ _ => some .invalidValidityWindow
  | .lifecycleQuantityMaximumMustBeOne _ => some .lifecyclePolicyMaximumMustEqualOne
  | _ => none

def dimensionReason : ResourceDimensionErrorV1 → Option ProposedReason
  | .unitMismatch => some .unitMismatch
  | .lifecycleQuantityMustBeOne _ => some .lifecycleQuantityMustEqualOne
  | .zeroQuantityForbidden => some .zeroQuantityRequiresExplicitMarkerPermission
  | .quantityExceedsMaximum _ _ => some .quantityExceedsMaximum

/-- The reasons for a host value that no typed candidate holds. -/
def ProposedReason.IsHostWidth (reason : ProposedReason) : Prop :=
  reason = .unsupportedAccountingMode ∨ reason = .validityEpochOutOfRange ∨
    reason = .quantityMaxOutOfRange ∨ reason = .quantityOutOfRange

theorem policyReason_typed {e : PolicyValidationErrorV1} {reason : ProposedReason}
    (h : policyReason e = some reason) : ¬ reason.IsHostWidth := by
  cases e <;> cases h <;> simp [ProposedReason.IsHostWidth]

theorem dimensionReason_typed {e : ResourceDimensionErrorV1} {reason : ProposedReason}
    (h : dimensionReason e = some reason) : ¬ reason.IsHostWidth := by
  cases e <;> cases h <;> simp [ProposedReason.IsHostWidth]

variable {ε α : Type}

/-- The outcome `x` and the oracle's decision are the same, with the same reason. -/
structure Agrees (reasonOf : ε → Option ProposedReason) (x : Except ε α)
    (decision : Decision ProposedReason) : Prop where
  accepts : (∃ a, x = .ok a) ↔ decision.kind = .accept
  rejects : ∀ e, x = .error e → decision.kind = .reject ∧ reasonOf e = some decision.reason
  typed : ¬ decision.reason.IsHostWidth

/-- The first failure of a chain of checks and the decision of another one. -/
def Matches (reasonOf : ε → Option ProposedReason) :
    Option ε → Decision ProposedReason → Prop
  | none, decision => decision.kind = .accept ∧ ¬ decision.reason.IsHostWidth
  | some e, decision => decision.kind = .reject ∧ reasonOf e = some decision.reason

theorem Matches.guard {P : Prop} [Decidable P] {reasonOf : ε → Option ProposedReason} {e : ε}
    {reason : ProposedReason} {failure : Option ε} {decision : Decision ProposedReason}
    (hreason : reasonOf e = some reason) (h : Matches reasonOf failure decision) :
    Matches reasonOf (if P then some e else failure) (if P then reject reason else decision) := by
  split
  · exact ⟨rfl, hreason⟩
  · exact h

theorem Matches.agrees {reasonOf : ε → Option ProposedReason} {x : Except ε α}
    {decision : Decision ProposedReason}
    (htyped : ∀ {e reason}, reasonOf e = some reason → ¬ reason.IsHostWidth)
    (h : Matches reasonOf (err? x) decision) : Agrees reasonOf x decision := by
  cases x with
  | ok a => exact ⟨⟨fun _ => h.1, fun _ => ⟨a, rfl⟩⟩, by simp, h.2⟩
  | error e =>
    have hkind := DecisionKind.eq_reject.mp h.1
    exact ⟨by simp [hkind], fun _ he => Except.error.inj he ▸ h, htyped h.2⟩

/-- `try_from` decides as the oracle's policy construction. -/
theorem construction_agrees (unitText : UnitId → String)
    (candidate : ResourceKindPolicyCandidateV1) :
    Agrees policyReason (ResourceKindPolicyV1.tryFrom candidate)
      (decideRfc0003PolicyConstruction (hostPolicy unitText candidate)) := by
  have hschema : hostU16 candidate.schemaVersion = .int 1 ↔
      candidate.schemaVersion = POLICY_SCHEMA_VERSION_V1 :=
    hostU16_eq (y := POLICY_SCHEMA_VERSION_V1)
  have hmax : hostU128 candidate.quantityMax.get = .int 1 ↔ candidate.quantityMax.get = 1 :=
    hostU128_eq (y := 1)
  apply Matches.agrees policyReason_typed
  rw [ResourceKindPolicyV1.err?_tryFrom]
  unfold decideRfc0003PolicyConstruction hostPolicy
  simp only [HostValue.ne_iff, hschema, hmax, Option.isNone_some, Bool.false_eq_true,
    hostU64_inRange, hostU128_inRange, hostU64_gt, Bool.not_true, if_false, Option.some.injEq,
    hostMode_lifecycle]
  refine .guard rfl (.guard rfl (.guard rfl ?_))
  exact ⟨rfl, by simp [ProposedReason.IsHostWidth]⟩

/-- `validate_dimensions` decides as the oracle's resource quantity, under a policy that
both construct. -/
theorem dimensions_match {unitText : UnitId → String} (hunit : Function.Injective unitText)
    (policy : ResourceKindPolicyV1) (unitId : UnitId) (quantity : QuantityAtoms)
    (hpolicy : (decideRfc0003PolicyConstruction
      (hostPolicy unitText policy.candidate)).kind = .accept) :
    Matches dimensionReason (err? (policy.validateDimensions unitId quantity))
      (decideRfc0003ResourceQuantity (hostPolicy unitText policy.candidate)
        (hostResource unitText unitId quantity)) := by
  have hprop : ¬ (decideRfc0003PolicyConstruction (hostPolicy unitText policy.candidate)).kind =
      .reject := by simp [hpolicy]
  have hone : hostU128 quantity.get = .int 1 ↔ quantity.get = 1 := hostU128_eq (y := 1)
  have hzero : hostU128 quantity.get = .int 0 ↔ quantity.get = 0 := hostU128_eq (y := 0)
  rw [ResourceKindPolicyV1.err?_validateDimensions]
  unfold decideRfc0003ResourceQuantity
  rw [if_neg hprop]
  unfold hostPolicy hostResource
  simp only [ne_eq, hunit.eq_iff, HostValue.ne_iff, hone, hzero, hostU128_inRange, hostU128_gt,
    Bool.not_true, Bool.false_eq_true, if_false, Option.some.injEq, hostMode_lifecycle]
  refine .guard rfl (.guard rfl (.guard rfl (.guard rfl ?_)))
  split
  · exact ⟨rfl, by simp [ProposedReason.IsHostWidth]⟩
  · exact ⟨rfl, by simp [ProposedReason.IsHostWidth]⟩

/-- `try_from` and then `validate_dimensions` -/
def admitDimensions (candidate : ResourceKindPolicyCandidateV1) (unitId : UnitId)
    (quantity : QuantityAtoms) :
    Except (PolicyValidationErrorV1 ⊕ ResourceDimensionErrorV1) Unit := do
  let policy ← (ResourceKindPolicyV1.tryFrom candidate).mapError .inl
  (policy.validateDimensions unitId quantity).mapError .inr

/-- The two stages together. -/
theorem quantity_agrees {unitText : UnitId → String} (hunit : Function.Injective unitText)
    (candidate : ResourceKindPolicyCandidateV1) (unitId : UnitId) (quantity : QuantityAtoms) :
    Agrees (Sum.elim policyReason dimensionReason) (admitDimensions candidate unitId quantity)
      (decideRfc0003ResourceQuantity (hostPolicy unitText candidate)
        (hostResource unitText unitId quantity)) := by
  have hconstruct := construction_agrees unitText candidate
  have htyped : ∀ {e : PolicyValidationErrorV1 ⊕ ResourceDimensionErrorV1} {reason},
      Sum.elim policyReason dimensionReason e = some reason → ¬ reason.IsHostWidth := by
    intro e reason h
    cases e with
    | inl e => exact policyReason_typed h
    | inr e => exact dimensionReason_typed h
  apply Matches.agrees htyped
  unfold admitDimensions
  rcases ok_or_error (ResourceKindPolicyV1.tryFrom candidate) with ⟨policy, hpolicy⟩ | ⟨e, he⟩
  · have hdimensions := dimensions_match hunit policy unitId quantity
    rw [ResourceKindPolicyV1.tryFrom_eq_ok.mp hpolicy] at hdimensions
    have h := hdimensions (hconstruct.accepts.mp ⟨policy, hpolicy⟩)
    rw [hpolicy]
    change Matches _ (err? ((policy.validateDimensions unitId quantity).mapError
      (Sum.inr : _ → PolicyValidationErrorV1 ⊕ _))) _
    cases hvalidate : policy.validateDimensions unitId quantity with
    | ok _ => rwa [hvalidate] at h
    | error e => rwa [hvalidate] at h
  · obtain ⟨hkind, hreason⟩ := hconstruct.rejects e he
    rw [he, rfc0003_quantity_of_rejected (DecisionKind.eq_reject.mp hkind)]
    exact ⟨hkind, hreason⟩

/-- **The kernel's resource-kind policies agree with the amended oracle**, at both stages and
in the reasons, whatever text names the units apart. -/
theorem kind_policy_agrees (unitText : UnitId → String) (hunit : Function.Injective unitText)
    (candidate : ResourceKindPolicyCandidateV1) (unitId : UnitId) (quantity : QuantityAtoms) :
    Agrees policyReason (ResourceKindPolicyV1.tryFrom candidate)
      (decideRfc0003PolicyConstruction (hostPolicy unitText candidate)) ∧
    Agrees (Sum.elim policyReason dimensionReason) (admitDimensions candidate unitId quantity)
      (decideRfc0003ResourceQuantity (hostPolicy unitText candidate)
        (hostResource unitText unitId quantity)) :=
  ⟨construction_agrees unitText candidate, quantity_agrees hunit candidate unitId quantity⟩

/-- A unit written as the characters of its bytes. -/
def unitChars (unitId : UnitId) : String :=
  String.ofList (unitId.asBytes.toList.map Char.ofUInt8)

theorem unitChars_injective : Function.Injective unitChars := by
  intro a b h
  have hchar : Function.Injective Char.ofUInt8 := by
    intro x y hxy
    exact UInt8.toUInt32_inj.mp (congrArg Char.val hxy)
  have hbytes := List.map_injective_iff.mpr hchar (String.ofList_injective h)
  exact Opaque.ext (Bytes.ext hbytes)

/-- A lifecycle policy of one atom, valid in the epochs 3 to 9. -/
def lifecycleCandidate : ResourceKindPolicyCandidateV1 where
  schemaVersion := POLICY_SCHEMA_VERSION_V1
  policyId := .repeated 1
  machineId := .repeated 2
  domainId := .repeated 3
  applicationId := .repeated 4
  resourceKindId := .repeated 5
  unitId := .repeated 6
  accountingMode := .lifecycleNonFungible
  quantityMax := .new 1
  allowedLogicSetRoot := .repeated 7
  allowedLogicProfileSetRoot := .repeated 8
  allowedTransformationSetRoot := .repeated 9
  controllerPolicyRoot := .repeated 10
  mintAuthorityRoot := .repeated 11
  burnAuthorityRoot := .repeated 12
  dataAvailability := .required
  validityStartEpoch := 3
  validityEndEpoch := 9

/-- No atom breaks the lifecycle rule and the rule on zero; both sides name the first. -/
theorem kind_policy_agrees_zero :
    (decideRfc0003ResourceQuantity (hostPolicy unitChars lifecycleCandidate)
      (hostResource unitChars (.repeated 6) (.new 0))).reason = .lifecycleQuantityMustEqualOne := by
  have h := (kind_policy_agrees unitChars unitChars_injective lifecycleCandidate (.repeated 6)
    (.new 0)).2.rejects (.inr (.lifecycleQuantityMustBeOne 0)) (by decide)
  exact (Option.some.inj h.2).symm

end Zrm.L5.KindPolicy
