import Zrm.L4Kernel.ResourceChecks
import Zrm.L7Fuzz.Harness

/-!
# The wire targets (`resource_wire_v1_decode.rs`, `intrinsic_resource_v1.rs`)

The first target decodes arbitrary bytes; what it gets it encodes again, compares with the
input, and derives an identifier from. The second one reads a quantity and a mask of defects,
puts the defects into a valid wire value, predicts the first error, constructs the resource,
and compares it with the prediction, or with the wire value and its identifier.

The digest and the allocator are parameters without assumptions. `alloc call n` answers the
encoder's request for `n` bytes; a run has two encodings, 0 and 1. What the derivation
of an identifier needs of both is `Derived`: its bytes are granted and their digest is not
zero.

Results:
* `decode_target_exact`: only an encoding makes the first target panic, and only when the
  host refuses memory or the digest is zero.
* `expectedError_eq`: the prediction is the first defect in the order of the kernel's checks.
* `failures_defected`: those checks fail on a defected value where its defects are.
* `intrinsic_target_exact`: the second target panics without a defect only, for the same two
  reasons.
-/
namespace Zrm.L7.WireTargets

open Zrm.BigEndian Zrm.Result Harness L1.Ids L2.ResourceWire L2.Hash L4.Resource

/-! ## Decoding -/

namespace DecodeTarget

/-- mirrors fuzz/fuzz_targets/resource_wire_v1_decode.rs:6-11; the host answers the two
encodings on its own. -/
def fuzzTarget (sha256 : List UInt8 → Bytes 32) (alloc : Nat → Nat → Bool) (data : List UInt8) : Option Unit :=
  match decodeResourceWireV1 data with
  | .error _ => some ()
  | .ok wire => do
    assertThat (decide (wire.encode (alloc 0) = .ok data))
    assertThat (wire.resourceId sha256 (alloc 1)).isOk

variable {sha256 : List UInt8 → Bytes 32} {alloc : Nat → Nat → Bool}

theorem isOk_iff {ε α : Type} {x : Except ε α} : x.isOk = true ↔ ∃ a, x = .ok a := by
  cases x <;> simp [Except.isOk, Except.toBool]

/-- **Only an encoding makes the target panic**, and only when the host refuses memory or the
digest is zero: the decoder has no other way to be wrong. -/
theorem decode_target_exact (sha256 : List UInt8 → Bytes 32) (alloc : Nat → Nat → Bool) (data : List UInt8) :
    fuzzTarget sha256 alloc data = none ↔ ∃ wire, data = wireBytes wire ∧
      ¬ (alloc 0 wire.encodedLength = true ∧ Derived sha256 (alloc 1) wire) := by
  have hencode : ∀ wire : ResourceWireV1, wire.encode (alloc 0) = .ok (wireBytes wire) ↔ alloc 0 wire.encodedLength = true := by
    intro wire
    rw [encode_eq]
    split <;> simp_all
  simp only [eq_none_iff, ← exists_resourceId]
  rw [fuzzTarget]
  cases hdecode : decodeResourceWireV1 data with
  | error e =>
    refine iff_of_false (not_not.mpr rfl) fun h => ?_
    obtain ⟨wire, hwire, -⟩ := h
    rw [(decode_eq_ok data wire).mpr hwire] at hdecode
    cases hdecode
  | ok wire =>
    obtain rfl := (decode_eq_ok data wire).mp hdecode
    have honly : ∀ wire', wireBytes wire = wireBytes wire' ↔ wire' = wire := fun wire' =>
      ⟨fun h => (wireBytes_injective h).symm, fun h => by rw [h]⟩
    simp only [honly, exists_eq_left, Option.bind_eq_bind, Option.bind_eq_some_iff, assertThat_eq_some,
      decide_eq_true_eq, hencode, isOk_iff]
    simp

end DecodeTarget

/-! ## Defects -/

namespace IntrinsicTarget

/-- mirrors fuzz/fuzz_targets/intrinsic_resource_v1.rs:7-10 -/
def DEFECT_MASKS : List UInt16 :=
  [0x0001, 0x0002, 0x0004, 0x0008, 0x0010, 0x0020, 0x0040, 0x0080, 0x0100, 0x0200, 0x0400, 0x0800,
    0x1000, 0x2000, 0x4000, 0x8000]

/-- mirrors fuzz/fuzz_targets/intrinsic_resource_v1.rs:12-19 -/
def defectMask (data : List UInt8) : UInt16 :=
  (data.zip DEFECT_MASKS).foldl (fun mask (byte, defect) => if byte &&& 1 == 1 then mask ||| defect else mask) 0

/-- mirrors fuzz/fuzz_targets/intrinsic_resource_v1.rs:21-29 -/
def quantity (data : List UInt8) : U128 :=
  match (getRange data 16 32).bind (arrayOf 16) with
  | some bytes => fromBeBytes bytes
  | none => 0

/-- `[byte; 32]` -/
def all (byte : UInt8) : Bytes 32 := .replicate 32 byte

/-- mirrors fuzz/fuzz_targets/intrinsic_resource_v1.rs:31-52 -/
def validWire (quantityAtoms : U128) : ResourceWireV1 where
  machineId := all 1
  domainId := all 2
  applicationId := all 3
  resourceKindId := all 4
  resourceLogicId := all 5
  logicProfileId := all 6
  resourceKindPolicyId := all 7
  unitId := all 8
  quantityAtoms
  labelRoot := all 10
  valueRoot := all 11
  controllerRoot := all 12
  policyRoot := all 13
  provenanceRoot := all 14
  nonce := all 15
  createdEpoch := 1
  expiryEpoch := some 1
  flags := 0

/-- mirrors fuzz/fuzz_targets/intrinsic_resource_v1.rs:54-58 -/
def hasDefect (mask : UInt16) (index : Nat) : Bool :=
  match DEFECT_MASKS[index]? with
  | some defect => mask &&& defect != 0
  | none => false

/-- A field that its defect sets to zero. -/
def zeroIf (defect : Bool) (value : Bytes 32) : Bytes 32 := if defect then all 0 else value

/-- mirrors fuzz/fuzz_targets/intrinsic_resource_v1.rs:60-109; each defect sets its own field. -/
def applyDefects (wire : ResourceWireV1) (mask : UInt16) : ResourceWireV1 where
  machineId := zeroIf (hasDefect mask 0) wire.machineId
  domainId := zeroIf (hasDefect mask 1) wire.domainId
  applicationId := zeroIf (hasDefect mask 2) wire.applicationId
  resourceKindId := zeroIf (hasDefect mask 3) wire.resourceKindId
  resourceLogicId := zeroIf (hasDefect mask 4) wire.resourceLogicId
  logicProfileId := zeroIf (hasDefect mask 5) wire.logicProfileId
  resourceKindPolicyId := zeroIf (hasDefect mask 6) wire.resourceKindPolicyId
  unitId := zeroIf (hasDefect mask 7) wire.unitId
  quantityAtoms := wire.quantityAtoms
  labelRoot := zeroIf (hasDefect mask 8) wire.labelRoot
  valueRoot := zeroIf (hasDefect mask 9) wire.valueRoot
  controllerRoot := zeroIf (hasDefect mask 10) wire.controllerRoot
  policyRoot := zeroIf (hasDefect mask 11) wire.policyRoot
  provenanceRoot := zeroIf (hasDefect mask 12) wire.provenanceRoot
  nonce := zeroIf (hasDefect mask 13) wire.nonce
  createdEpoch := if hasDefect mask 14 then 2 else wire.createdEpoch
  expiryEpoch := wire.expiryEpoch
  flags := if hasDefect mask 15 then 0x80000001 else wire.flags

def zeroFields : List IntrinsicResourceFieldV1 :=
  [.machineId, .domainId, .applicationId, .resourceKindId, .resourceLogicId, .logicProfileId,
    .resourceKindPolicyId, .unitId, .labelRoot, .valueRoot, .controllerRoot, .policyRoot,
    .provenanceRoot, .nonce]

/-- mirrors fuzz/fuzz_targets/intrinsic_resource_v1.rs:111-143 -/
def expectedError (mask : UInt16) : Option IntrinsicResourceErrorV1 :=
  match zeroFields.zipIdx.find? fun (_, index) => hasDefect mask index with
  | some (field, _) => some (.zeroField field)
  | none =>
    if hasDefect mask 14 then some (.expiryBeforeCreation 2 1)
    else if hasDefect mask 15 then some (.unknownFlags 0x80000001)
    else none

/-- mirrors fuzz/fuzz_targets/intrinsic_resource_v1.rs:145-164; the host answers the two
encodings on its own. -/
def fuzzTarget (sha256 : List UInt8 → Bytes 32) (alloc : Nat → Nat → Bool) (data : List UInt8) :
    Option Unit := do
  let mask := defectMask data
  let wire := applyDefects (validWire (quantity data)) mask
  let expected := expectedError mask
  let actual := IntrinsicResourceV1.tryFromWire sha256 (alloc 0) wire
  match actual, expected with
  | .ok resource, none =>
    assertThat (decide (wire.resourceId sha256 (alloc 1) = .ok resource.resourceId))
    assertThat (decide (resource.quantityAtoms.get = wire.quantityAtoms))
    assertThat (decide (resource.createdEpoch = wire.createdEpoch))
    assertThat (decide (resource.expiryEpoch = wire.expiryEpoch))
    assertThat (decide (resource.flags.bits = wire.flags))
  | .error actual, some expected => assertThat (decide (actual = expected))
  | _, _ => none

theorem hasDefect_zero {index : Nat} {mask : UInt16}
    (h : ∀ defect ∈ DEFECT_MASKS, mask &&& defect = 0) : hasDefect mask index = false := by
  rw [hasDefect]
  split
  · rename_i defect hdefect
    rw [h defect (List.mem_of_getElem? hdefect)]
    rfl
  · rfl

/-- The mask collects the defects of the odd bytes. -/
theorem foldl_and_eq_zero (pairs : List (UInt8 × UInt16)) (mask defect : UInt16) :
    pairs.foldl (fun mask (byte, defect) => if byte &&& 1 == 1 then mask ||| defect else mask) mask &&& defect = 0 ↔
      mask &&& defect = 0 ∧ ∀ pair ∈ pairs, pair.1 &&& 1 = 1 → pair.2 &&& defect = 0 := by
  induction pairs generalizing mask with
  | nil => simp
  | cons pair pairs ih =>
    rw [List.foldl_cons, ih, List.forall_mem_cons]
    by_cases hodd : pair.1 &&& 1 = 1
    · have hor : (mask ||| pair.2) &&& defect = 0 ↔ mask &&& defect = 0 ∧ pair.2 &&& defect = 0 := by
        rw [← UInt16.or_eq_zero_iff]
        refine Eq.congr_left (UInt16.toBitVec_inj.mp ?_)
        ext i
        simp [Bool.and_or_distrib_right]
      simp [hodd, hor, and_assoc]
    · simp [hodd]

theorem map_fst_zip_take {α β : Type} (l : List α) (m : List β) :
    (l.zip m).map Prod.fst = l.take m.length := by
  induction l generalizing m with
  | nil => simp
  | cons a l ih =>
    cases m with
    | nil => simp
    | cons b m => simp [ih]

/-- There is no defect if and only if the first sixteen bytes are even. -/
theorem noDefect_iff {data : List UInt8} : (∀ defect ∈ DEFECT_MASKS, defectMask data &&& defect = 0) ↔
    ∀ byte ∈ data.take 16, byte &&& 1 ≠ 1 := by
  have htake : data.take 16 = (data.zip DEFECT_MASKS).map Prod.fst := by
    rw [map_fst_zip_take]
    rfl
  have hmasks : ∀ defect ∈ DEFECT_MASKS, defect &&& defect ≠ 0 := by
    simp [DEFECT_MASKS]
  rw [htake, List.forall_mem_map]
  simp only [defectMask, foldl_and_eq_zero, UInt16.zero_and, true_and]
  refine ⟨fun h => ?_, fun h => ?_⟩
  · intro pair hpair hodd
    have hdefect : pair.2 ∈ DEFECT_MASKS := (List.of_mem_zip hpair).2
    exact hmasks pair.2 hdefect (h pair.2 hdefect pair hpair hodd)
  · intro defect _ pair hpair hodd
    exact absurd hodd (h pair hpair)

/-! ## The first defect -/

theorem all_ne_zero {byte : UInt8} (h : byte ≠ 0) : all byte ≠ .replicate 32 0 := by
  intro heq
  exact h ((List.replicate_inj.mp (congrArg Bytes.toList heq)).2.resolve_left (by decide))

theorem fieldFailure_zeroIf {field : IntrinsicResourceFieldV1} {defect : Bool} {byte : UInt8} (h : byte ≠ 0) :
    fieldFailure (field, zeroIf defect (all byte)) = if defect then some (.zeroField field) else none := by
  cases defect with
  | true => rfl
  | false => exact if_neg (all_ne_zero h)

/-- What each defect is reported as, in the order of the checks. -/
def reports : List IntrinsicResourceErrorV1 :=
  zeroFields.map .zeroField ++ [.expiryBeforeCreation 2 1, .unknownFlags 0x80000001]

/-- The checks of the kernel report the defects. -/
theorem failures_defected (quantityAtoms : U128) (mask : UInt16) :
    failures (applyDefects (validWire quantityAtoms) mask) =
      reports.zipIdx.map fun (report, index) => if hasDefect mask index then some report else none := by
  have hepoch : epochFailure (applyDefects (validWire quantityAtoms) mask) =
      if hasDefect mask 14 then some (.expiryBeforeCreation 2 1) else none := by
    by_cases h : hasDefect mask 14 = true <;> simp [epochFailure, applyDefects, validWire, h]
  have hflags : flagsFailure (applyDefects (validWire quantityAtoms) mask) =
      if hasDefect mask 15 then some (.unknownFlags 0x80000001) else none := by
    by_cases h : hasDefect mask 15 = true <;> simp [flagsFailure, applyDefects, validWire, h]
  rw [failures, hepoch, hflags]
  simp (disch := decide) [checkedFields, identityFields, commitmentFields, applyDefects, validWire, reports, zeroFields,
    fieldFailure_zeroIf]

theorem findSome?_reports {α β : Type} (p : α → Bool) (f : α → β) (l : List α) :
    (l.map fun a => if p a then some (f a) else none).findSome? id = (l.find? p).map f := by
  induction l with
  | nil => rfl
  | cons a l ih =>
    rw [List.map_cons, List.findSome?_cons, List.find?_cons]
    cases p a with
    | true => rfl
    | false => exact ih

theorem expectedError_eq (mask : UInt16) : expectedError mask =
    (reports.zipIdx.find? fun (_, index) => hasDefect mask index).map Prod.fst := by
  have hreports : reports.zipIdx =
      zeroFields.zipIdx.map (fun (field, index) => (IntrinsicResourceErrorV1.zeroField field, index)) ++
        [(.expiryBeforeCreation 2 1, 14), (.unknownFlags 0x80000001, 15)] := rfl
  have hfind : ((fun entry : IntrinsicResourceErrorV1 × Nat => hasDefect mask entry.2) ∘
      fun entry : IntrinsicResourceFieldV1 × Nat => (IntrinsicResourceErrorV1.zeroField entry.1, entry.2)) =
        fun entry => hasDefect mask entry.2 := rfl
  rw [expectedError, hreports, List.find?_append, List.find?_map, hfind]
  cases zeroFields.zipIdx.find? fun entry => hasDefect mask entry.2 with
  | some entry => rfl
  | none =>
    simp only [Option.map_none, Option.none_or, List.find?_cons, List.find?_nil]
    cases hasDefect mask 14 with
    | true => rfl
    | false => cases hasDefect mask 15 <;> rfl

/-- The kernel and the target agree on the first defect. -/
theorem failures_expected (quantityAtoms : U128) (mask : UInt16) :
    (failures (applyDefects (validWire quantityAtoms) mask)).findSome? id = expectedError mask := by
  rw [failures_defected, expectedError_eq]
  exact findSome?_reports (fun entry : IntrinsicResourceErrorV1 × Nat => hasDefect mask entry.2) Prod.fst _

theorem expectedError_eq_none {data : List UInt8} :
    expectedError (defectMask data) = none ↔ ∀ byte ∈ data.take 16, byte &&& 1 ≠ 1 := by
  rw [← noDefect_iff, expectedError_eq, Option.map_eq_none_iff, List.find?_eq_none]
  refine ⟨fun h => ?_, fun h => ?_⟩
  · intro defect hdefect
    obtain ⟨index, hindex⟩ := List.mem_iff_getElem?.mp hdefect
    have hlt : index < reports.length := (List.getElem?_eq_some_iff.mp hindex).1
    have hnone : ¬ hasDefect (defectMask data) index = true :=
      h (reports[index], index) (List.mk_mem_zipIdx_iff_getElem?.mpr (List.getElem?_eq_getElem hlt))
    rw [hasDefect, hindex] at hnone
    simpa using hnone
  · intro entry _
    show ¬ hasDefect (defectMask data) entry.2 = true
    rw [hasDefect_zero h]
    exact Bool.false_ne_true

/-! ## The run -/

theorem validWire_wellFormed (quantityAtoms : U128) : WellFormed (validWire quantityAtoms) := by
  have h := failures_expected quantityAtoms 0
  have hnone : expectedError 0 = none := by decide
  have hsame : applyDefects (validWire quantityAtoms) 0 = validWire quantityAtoms := rfl
  rw [hnone, hsame] at h
  exact failures_none.mp h

theorem applyDefects_none {mask : UInt16} (wire : ResourceWireV1)
    (h : ∀ index, hasDefect mask index = false) : applyDefects wire mask = wire := by
  simp [applyDefects, zeroIf, h]

variable {sha256 : List UInt8 → Bytes 32} {alloc : Nat → Nat → Bool} {data : List UInt8}

theorem fuzzTarget_valid (h : ∀ byte ∈ data.take 16, byte &&& 1 ≠ 1) : fuzzTarget sha256 alloc data = some () ↔
    Derived sha256 (alloc 0) (validWire (quantity data)) ∧ Derived sha256 (alloc 1) (validWire (quantity data)) := by
  have hwire : applyDefects (validWire (quantity data)) (defectMask data) = validWire (quantity data) :=
    applyDefects_none _ fun _ => hasDefect_zero (noDefect_iff.mpr h)
  rw [← exists_tryFromWire (validWire_wellFormed _), ← exists_resourceId]
  unfold fuzzTarget
  dsimp only
  rw [hwire, expectedError_eq_none.mpr h]
  cases hactual : IntrinsicResourceV1.tryFromWire sha256 (alloc 0) (validWire (quantity data)) with
  | error e => simp
  | ok resource =>
    obtain ⟨⟨htoWire, -⟩, hid⟩ := tryFromWire_eq_ok.mp hactual
    have hdigest := (resourceId_eq_ok.mp hid).2
    have hquantity : resource.quantityAtoms.get = (validWire (quantity data)).quantityAtoms :=
      congrArg ResourceWireV1.quantityAtoms htoWire
    have hcreated : resource.createdEpoch = (validWire (quantity data)).createdEpoch :=
      congrArg ResourceWireV1.createdEpoch htoWire
    have hexpiry : resource.expiryEpoch = (validWire (quantity data)).expiryEpoch :=
      congrArg ResourceWireV1.expiryEpoch htoWire
    have hflags : resource.flags.bits = (validWire (quantity data)).flags :=
      congrArg ResourceWireV1.flags htoWire
    have hsecond : (∃ id, (validWire (quantity data)).resourceId sha256 (alloc 1) = .ok id) ↔
        (validWire (quantity data)).resourceId sha256 (alloc 1) = .ok resource.resourceId := by
      refine ⟨fun hid' => ?_, fun hid' => ⟨_, hid'⟩⟩
      obtain ⟨id, hid'⟩ := hid'
      obtain ⟨halloc, -⟩ := resourceId_eq_ok.mp hid'
      exact resourceId_eq_ok.mpr ⟨halloc, hdigest⟩
    simp [hsecond, hquantity, hcreated, hexpiry, hflags, Option.bind_eq_some_iff]

theorem fuzzTarget_defect (h : ¬ ∀ byte ∈ data.take 16, byte &&& 1 ≠ 1) :
    fuzzTarget sha256 alloc data = some () := by
  obtain ⟨e, he⟩ := Option.ne_none_iff_exists'.mp (mt expectedError_eq_none.mp h)
  have hactual : IntrinsicResourceV1.tryFromWire sha256 (alloc 0)
      (applyDefects (validWire (quantity data)) (defectMask data)) = .error e := by
    rw [← err?_eq_some, err?_tryFromWire, List.findSome?_append, failures_expected, he]
    rfl
  unfold fuzzTarget
  dsimp only
  rw [hactual, he]
  exact assertThat_eq_some.mpr (decide_eq_true rfl)

/-- **The target panics without a defect only**, where the host refuses memory or the digest
is zero; with a defect the kernel reports the one that is predicted. -/
theorem intrinsic_target_exact (sha256 : List UInt8 → Bytes 32) (alloc : Nat → Nat → Bool) (data : List UInt8) :
    fuzzTarget sha256 alloc data = none ↔ (∀ byte ∈ data.take 16, byte &&& 1 ≠ 1) ∧
      ¬ (Derived sha256 (alloc 0) (validWire (quantity data)) ∧
        Derived sha256 (alloc 1) (validWire (quantity data))) := by
  rw [eq_none_iff]
  by_cases h : ∀ byte ∈ data.take 16, byte &&& 1 ≠ 1
  · rw [fuzzTarget_valid h, and_iff_right h]
  · rw [fuzzTarget_defect h]
    exact iff_of_false (not_not.mpr rfl) fun hpanic => h hpanic.1

end IntrinsicTarget

end Zrm.L7.WireTargets
