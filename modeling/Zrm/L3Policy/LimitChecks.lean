import Zrm.L2Codec.Precedence
import Zrm.L2Codec.RoundTrip
import Zrm.L3Policy.Limits

/-!
# Limit validation (`zrm-policy/src/limits.rs`) and the resource codec

Validation compares every field with its own ceiling, in declaration order, and
then the resource limit with the longest encoding.

* `err?_validateCandidate`: the first field above its ceiling, else the minimum.
* `limits_exact`: the accepted candidates, and the error of any other.
* `resource_bytes_agree`: the accepted resource limits are those between the
  longest encoding and the ingress bound of the decoder.
-/
namespace Zrm.L3.Limits
open Zrm.Result Zrm.L2.ResourceWire PolicyLimitsV1

/-! ## The first failing check -/

/-- Every field within its ceiling, and room for one resource. -/
structure WithinLimits (candidate : PolicyLimitsCandidateV1) : Prop where
  ceilings : ∀ field : LimitFieldV1, field.actual candidate ≤ field.ceiling
  minimum : 603 ≤ candidate.maxResourceBytes

/-- The first field above its ceiling. -/
def firstExceeding (candidate : PolicyLimitsCandidateV1) : Option LimitFieldV1 :=
  LIMIT_FIELDS.find? fun field => field.actual candidate > field.ceiling

theorem firstExceeding_eq_none {candidate : PolicyLimitsCandidateV1} :
    firstExceeding candidate = none ↔
      ∀ field : LimitFieldV1, field.actual candidate ≤ field.ceiling := by
  unfold firstExceeding
  rw [List.find?_eq_none]
  refine ⟨fun h field => ?_, fun h field _ => ?_⟩
  · have hfield := h field (mem_LIMIT_FIELDS field)
    rwa [decide_eq_true_iff, gt_iff_lt, UInt64.not_lt] at hfield
  · rw [decide_eq_true_iff, gt_iff_lt, UInt64.not_lt]
    exact h field

theorem err?_validateCandidate (candidate : PolicyLimitsCandidateV1) :
    err? (validateCandidate candidate) =
      ((firstExceeding candidate).map fun field =>
        .limitExceedsProtocolCeiling field (field.actual candidate) field.ceiling).or
      (if candidate.maxResourceBytes < 603 then
        some (.resourceWireLimitTooSmall candidate.maxResourceBytes 603) else none) := by
  have hminimum : err? (validateResourceWireMinimum candidate.maxResourceBytes) =
      if candidate.maxResourceBytes < 603 then
        some (.resourceWireLimitTooSmall candidate.maxResourceBytes 603) else none := by
    unfold validateResourceWireMinimum MIN_RESOURCE_WIRE_V1_BYTES
    split <;> rfl
  have hfields : err? (forM LIMIT_FIELDS fun field =>
      ensureAtMost field (field.actual candidate) field.ceiling) =
      (firstExceeding candidate).map fun field =>
        .limitExceedsProtocolCeiling field (field.actual candidate) field.ceiling :=
    err?_forM_guard LIMIT_FIELDS
  rw [validateCandidate_eq, ← hfields, ← hminimum]
  cases forM LIMIT_FIELDS fun field =>
    ensureAtMost field (field.actual candidate) field.ceiling <;> rfl

theorem validateCandidate_eq_ok {candidate : PolicyLimitsCandidateV1} :
    validateCandidate candidate = .ok () ↔ WithinLimits candidate := by
  have hnone := err?_eq_none (x := validateCandidate candidate)
  rw [err?_validateCandidate, Option.or_eq_none_iff, Option.map_eq_none_iff,
    firstExceeding_eq_none] at hnone
  have hminimum : (if candidate.maxResourceBytes < 603 then
      some (PolicyValidationErrorV1.resourceWireLimitTooSmall candidate.maxResourceBytes 603)
      else none) = none ↔ 603 ≤ candidate.maxResourceBytes := by
    rw [ite_eq_right_iff, ← UInt32.not_lt]
    simp only [reduceCtorEq, imp_false]
  rw [hminimum] at hnone
  refine ⟨fun h => ?_, fun h => ?_⟩
  · obtain ⟨hceilings, hroom⟩ := hnone.mpr ⟨(), h⟩
    exact ⟨hceilings, hroom⟩
  · obtain ⟨⟨⟩, hok⟩ := hnone.mp ⟨h.ceilings, h.minimum⟩
    exact hok

theorem tryFrom_eq_error {candidate : PolicyLimitsCandidateV1} {e : PolicyValidationErrorV1} :
    tryFrom candidate = .error e ↔ err? (validateCandidate candidate) = some e := by
  rw [err?_eq_some]
  unfold tryFrom
  split
  · rename_i herror
    rw [herror, Except.error.injEq, Except.error.injEq]
  · rename_i hok
    have hne : validateCandidate candidate ≠ .error e := by
      rw [hok]
      nofun
    exact ⟨nofun, fun h => absurd h hne⟩

theorem exists_tryFrom {candidate : PolicyLimitsCandidateV1} :
    (∃ limits, tryFrom candidate = .ok limits) ↔ WithinLimits candidate := by
  rw [← validateCandidate_eq_ok]
  refine ⟨fun h => ?_, fun h => ⟨⟨candidate, h⟩, tryFrom_eq_ok.mpr rfl⟩⟩
  obtain ⟨limits, hlimits⟩ := h
  obtain rfl := tryFrom_eq_ok.mp hlimits
  exact limits.valid

theorem PolicyLimitsV1.withinLimits (limits : PolicyLimitsV1) : WithinLimits limits.asCandidate :=
  validateCandidate_eq_ok.mp limits.valid

/-- **Exact limit validation.** A candidate is accepted, unchanged, when it is within
every limit; otherwise the error names the first field above its ceiling, with its value
and its ceiling, and without one the resource minimum. Every `PolicyLimitsV1`, made by
`try_from` or not, is within the limits. -/
theorem limits_exact (candidate : PolicyLimitsCandidateV1) :
    ((∃ limits, tryFrom candidate = .ok limits) ↔ WithinLimits candidate) ∧
    (∀ limits, tryFrom candidate = .ok limits ↔ limits.asCandidate = candidate) ∧
    (∀ e, tryFrom candidate = .error e ↔
      (∃ field, LIMIT_FIELDS.find? (fun f => f.actual candidate > f.ceiling) = some field ∧
        e = .limitExceedsProtocolCeiling field (field.actual candidate) field.ceiling) ∨
      ((∀ field : LimitFieldV1, field.actual candidate ≤ field.ceiling) ∧
        candidate.maxResourceBytes < 603 ∧
        e = .resourceWireLimitTooSmall candidate.maxResourceBytes 603)) ∧
    WithinLimits strictDefault.asCandidate ∧ WithinLimits protocolCeiling.asCandidate ∧
    ∀ limits : PolicyLimitsV1, WithinLimits limits.asCandidate := by
  refine ⟨exists_tryFrom, fun _ => tryFrom_eq_ok, fun e => ?_, strictDefault.withinLimits,
    protocolCeiling.withinLimits, PolicyLimitsV1.withinLimits⟩
  rw [tryFrom_eq_error, err?_validateCandidate, ← firstExceeding_eq_none]
  show _ ↔ (∃ field, firstExceeding candidate = some field ∧ _) ∨ _
  cases firstExceeding candidate with
  | none =>
    by_cases hminimum : candidate.maxResourceBytes < 603
    · simp [hminimum, eq_comm]
    · simp [hminimum]
  | some field => simp [eq_comm]

/-! ## Agreement with the codec -/

/-- The longer form bounds every encoding. -/
theorem encode_length_le {alloc : Nat → Bool} {w : ResourceWireV1} {b : List UInt8}
    (h : w.encode alloc = .ok b) : b.length ≤ 603 := by
  have hlen := wireBytes_length w
  rw [← encode_eq_ok h] at hlen
  rcases encodedLength_eq w with ⟨hform, -⟩ | ⟨hform, -⟩
  · omega
  · omega

/-- An encoding of the longer form. -/
theorem exists_longest : ∃ (w : ResourceWireV1) (b : List UInt8),
    w.encode (fun _ => true) = .ok b ∧ b.length = 603 :=
  ⟨vectorResource (some 0), _, encode_eq _ _, wireBytes_length _⟩

/-- **Limits and codec agree.** With the other fields within their ceilings, a resource
limit is accepted when it admits every encoding and the decoder would read that much.
So no accepted limit excludes an encodable resource or goes beyond the decoder's
bound, and the decoder refuses no encoding for its length. -/
theorem resource_bytes_agree (candidate : PolicyLimitsCandidateV1)
    (h : ∀ field : LimitFieldV1, field ≠ .resourceBytes → field.actual candidate ≤ field.ceiling) :
    ((∃ limits, tryFrom candidate = .ok limits) ↔
      (∀ alloc (w : ResourceWireV1) b, w.encode alloc = .ok b →
        b.length ≤ candidate.maxResourceBytes.toNat) ∧
      candidate.maxResourceBytes.toNat ≤ Zrm.L2.ResourceWire.MAX_RESOURCE_BYTES) ∧
    (∀ (limits : PolicyLimitsV1) alloc (w : ResourceWireV1) b, w.encode alloc = .ok b →
      b.length ≤ limits.asCandidate.maxResourceBytes.toNat ∧
        decodeResourceWireV1 b ≠ .error ⟨.RESOURCE_WIRE_BYTES⟩) ∧
    (∀ (limits : PolicyLimitsV1) (b : List UInt8),
      b.length ≤ limits.asCandidate.maxResourceBytes.toNat →
        decodeResourceWireV1 b ≠ .error ⟨.RESOURCE_WIRE_BYTES⟩) := by
  have hroom (limits : PolicyLimitsV1) :
      603 ≤ limits.asCandidate.maxResourceBytes.toNat ∧
        limits.asCandidate.maxResourceBytes.toNat ≤ 16384 :=
    ⟨UInt32.le_iff_toNat_le.mp limits.withinLimits.minimum,
      UInt64.le_iff_toNat_le.mp (limits.withinLimits.ceilings .resourceBytes)⟩
  have hread (b : List UInt8) (hlen : b.length ≤ 16384) :
      decodeResourceWireV1 b ≠ .error ⟨.RESOURCE_WIRE_BYTES⟩ := fun herror =>
    absurd (decode_bytes.mp herror) (Nat.not_lt.mpr hlen)
  refine ⟨⟨fun haccept => ?_, fun hagree => ?_⟩, fun limits alloc w b hb => ?_,
    fun limits b hb => hread b (hb.trans (hroom limits).2)⟩
  · obtain ⟨limits, hlimits⟩ := haccept
    obtain rfl := tryFrom_eq_ok.mp hlimits
    obtain ⟨hminimum, hceiling⟩ := hroom limits
    exact ⟨fun alloc w b hb => (encode_length_le hb).trans hminimum, hceiling⟩
  · obtain ⟨hencodings, hceiling⟩ := hagree
    obtain ⟨w, b, hb, hlen⟩ := exists_longest
    have hminimum := hencodings _ w b hb
    rw [hlen] at hminimum
    refine exists_tryFrom.mpr ⟨fun field => ?_, UInt32.le_iff_toNat_le.mpr hminimum⟩
    by_cases hfield : field = .resourceBytes
    · subst hfield
      exact UInt64.le_iff_toNat_le.mpr hceiling
    · exact h field hfield
  · have hlen := encode_length_le hb
    obtain ⟨hminimum, -⟩ := hroom limits
    exact ⟨hlen.trans hminimum, hread b (hlen.trans (by decide))⟩

theorem resource_bytes_agree_minimum :
    ∃ limits, tryFrom { protocolCeiling.asCandidate with maxResourceBytes := 603 } = .ok limits := by
  obtain ⟨haccept, -, -⟩ := resource_bytes_agree
    { protocolCeiling.asCandidate with maxResourceBytes := 603 }
    fun field _ => by cases field <;> decide
  exact haccept.mpr ⟨fun alloc w b hb => encode_length_le hb, by decide⟩

end Zrm.L3.Limits
