import Zrm.L4Kernel.Resource

/-!
# The checks of an intrinsic resource, in order (`zrm-kernel/src/resource.rs`)

`failures` lists what each check of the three construction functions makes of a
wire value: fourteen fields, the epochs and the flags.

* `err?_validateIntrinsicFields`: the fields fail with the first one of them.
* `intrinsic_validation_exact`: so does the construction, once an identifier is
  derived.
-/
namespace Zrm.L4.Resource
open Zrm.BigEndian Zrm.Result Zrm.L1.Ids Zrm.L1.Scalar Zrm.L2.Hash Zrm.L2.ResourceWire

/-! ## The list of the checks -/

def identityFields (wire : ResourceWireV1) : List (IntrinsicResourceFieldV1 × Bytes 32) :=
  [(.machineId, wire.machineId), (.domainId, wire.domainId),
    (.applicationId, wire.applicationId), (.resourceKindId, wire.resourceKindId),
    (.resourceLogicId, wire.resourceLogicId), (.logicProfileId, wire.logicProfileId),
    (.resourceKindPolicyId, wire.resourceKindPolicyId), (.unitId, wire.unitId)]

def commitmentFields (wire : ResourceWireV1) : List (IntrinsicResourceFieldV1 × Bytes 32) :=
  [(.labelRoot, wire.labelRoot), (.valueRoot, wire.valueRoot),
    (.controllerRoot, wire.controllerRoot), (.policyRoot, wire.policyRoot),
    (.provenanceRoot, wire.provenanceRoot)]

/-- The fields that must not be zero, in the order of their checks. -/
def checkedFields (wire : ResourceWireV1) : List (IntrinsicResourceFieldV1 × Bytes 32) :=
  identityFields wire ++ commitmentFields wire ++ [(.nonce, wire.nonce)]

def fieldFailure (entry : IntrinsicResourceFieldV1 × Bytes 32) : Option IntrinsicResourceErrorV1 :=
  if entry.2 = .replicate 32 0 then some (.zeroField entry.1) else none

def epochFailure (wire : ResourceWireV1) : Option IntrinsicResourceErrorV1 :=
  match wire.expiryEpoch with
  | some expiryEpoch =>
    if expiryEpoch < wire.createdEpoch then
      some (.expiryBeforeCreation wire.createdEpoch expiryEpoch)
    else none
  | none => none

def flagsFailure (wire : ResourceWireV1) : Option IntrinsicResourceErrorV1 :=
  if wire.flags = 0 then none else some (.unknownFlags wire.flags)

/-- The error of each check of a wire value, in the order of the checks. -/
def failures (wire : ResourceWireV1) : List (Option IntrinsicResourceErrorV1) :=
  (checkedFields wire).map fieldFailure ++ [epochFailure wire, flagsFailure wire]

/-- What a wire value must satisfy. -/
structure WellFormed (wire : ResourceWireV1) : Prop where
  nonzero : ∀ entry ∈ checkedFields wire, entry.2 ≠ .replicate 32 0
  epochs : ∀ e ∈ wire.expiryEpoch, wire.createdEpoch ≤ e
  flags : wire.flags = 0

theorem failures_none {wire : ResourceWireV1} :
    (failures wire).findSome? id = none ↔ WellFormed wire := by
  have hfield : ∀ entry, fieldFailure entry = none ↔ entry.2 ≠ .replicate 32 0 := by
    intro entry
    simp [fieldFailure]
  have hepoch : epochFailure wire = none ↔ ∀ e ∈ wire.expiryEpoch, wire.createdEpoch ≤ e := by
    unfold epochFailure
    cases wire.expiryEpoch with
    | none => simp
    | some e => simp
  have hflags : flagsFailure wire = none ↔ wire.flags = 0 := by
    simp [flagsFailure]
  simp only [failures, List.findSome?_eq_none_iff, List.forall_mem_append, List.forall_mem_map,
    List.forall_mem_cons, id_eq, hfield, hepoch, hflags]
  refine ⟨fun h => ?_, fun h => ?_⟩
  · obtain ⟨nonzero, epochs, flags, -⟩ := h
    exact ⟨nonzero, epochs, flags⟩
  · obtain ⟨nonzero, epochs, flags⟩ := h
    exact ⟨nonzero, epochs, flags, nofun⟩

/-! ## The construction against the list -/

theorem err?_requireNonzero {name : OpaqueName} (bytes : Bytes 32)
    (field : IntrinsicResourceFieldV1) :
    err? (requireNonzero bytes field : Except _ (Opaque name)) = fieldFailure (field, bytes) := by
  unfold requireNonzero fieldFailure
  by_cases hzero : bytes = .replicate 32 0
  · rw [if_pos hzero, Opaque.tryFrom_eq_error (e := .zeroValueError) |>.mpr (allZero_iff.mpr hzero)]
    rfl
  · rw [if_neg hzero, err?_eq_none]
    obtain ⟨id, hid⟩ | ⟨e, he⟩ := ok_or_error (Opaque.tryFrom bytes : Except _ (Opaque name))
    · exact ⟨id, mapError_eq_ok.mpr hid⟩
    · exact absurd (allZero_iff.mp (Opaque.tryFrom_eq_error.mp he)) hzero

theorem ResourceIdentityV1.err?_tryFromWire (wire : ResourceWireV1) :
    err? (tryFromWire wire) = ((identityFields wire).map fieldFailure).findSome? id := by
  unfold tryFromWire identityFields
  iterate 8 refine err?_bind_cons (err?_requireNonzero _ _) fun _ => ?_
  rfl

theorem ResourceCommitmentsV1.err?_tryFromWire (wire : ResourceWireV1) :
    err? (tryFromWire wire) = ((commitmentFields wire).map fieldFailure).findSome? id := by
  unfold tryFromWire commitmentFields
  iterate 5 refine err?_bind_cons (err?_requireNonzero _ _) fun _ => ?_
  rfl

theorem err?_validateEpochOrder (wire : ResourceWireV1) :
    err? (validateEpochOrder wire.createdEpoch wire.expiryEpoch) = epochFailure wire := by
  unfold validateEpochOrder epochFailure
  cases wire.expiryEpoch with
  | none => rfl
  | some e =>
    dsimp only
    split <;> rfl

theorem err?_flags (wire : ResourceWireV1) :
    err? ((ResourceFlagsV1.tryFromBits wire.flags).mapError fun error =>
      IntrinsicResourceErrorV1.unknownFlags error.bits) = flagsFailure wire := by
  unfold ResourceFlagsV1.tryFromBits flagsFailure KNOWN_MASK
  split <;> simp_all [err?, Except.mapError]

theorem err?_validateIntrinsicFields (wire : ResourceWireV1) :
    err? (validateIntrinsicFields wire) = (failures wire).findSome? id := by
  unfold validateIntrinsicFields failures checkedFields
  rw [List.map_append, List.map_append, List.append_assoc, List.append_assoc]
  refine err?_bind_append (ResourceIdentityV1.err?_tryFromWire wire) fun _ => ?_
  refine err?_bind_append (ResourceCommitmentsV1.err?_tryFromWire wire) fun _ => ?_
  refine err?_bind_cons (err?_requireNonzero _ _) fun _ => ?_
  refine err?_bind_cons (err?_validateEpochOrder wire) fun _ => ?_
  refine err?_bind_cons (err?_flags wire) fun _ => ?_
  rfl

/-- The construction fails as the fields do, then as the derivation does. -/
theorem err?_tryFromWire (sha256 : List UInt8 → Bytes 32) (alloc : Nat → Bool)
    (wire : ResourceWireV1) :
    err? (IntrinsicResourceV1.tryFromWire sha256 alloc wire) =
      (failures wire ++ [(err? (wire.resourceId sha256 alloc)).map
        IntrinsicResourceErrorV1.resourceIdDerivation]).findSome? id := by
  unfold IntrinsicResourceV1.tryFromWire constructIntrinsicResource
  refine err?_bind_append (err?_validateIntrinsicFields wire) fun _ => ?_
  refine err?_bind_cons ?_ fun _ => rfl
  cases wire.resourceId sha256 alloc <;> rfl

theorem err?_tryFromWire_of_derived {sha256 : List UInt8 → Bytes 32} {alloc : Nat → Bool}
    {wire : ResourceWireV1} {resourceId : ResourceId}
    (h : wire.resourceId sha256 alloc = .ok resourceId) :
    err? (IntrinsicResourceV1.tryFromWire sha256 alloc wire) = (failures wire).findSome? id := by
  rw [err?_tryFromWire, h, List.findSome?_append]
  simp [err?]

theorem failures_not_derivation {wire : ResourceWireV1} {e : ResourceIdDerivationError} :
    (failures wire).findSome? id ≠ some (.resourceIdDerivation e) := by
  intro h
  obtain ⟨failure, hmem, hfailure⟩ := List.exists_of_findSome?_eq_some h
  rw [id_eq] at hfailure
  subst hfailure
  simp only [failures, List.mem_append, List.mem_map, List.mem_cons, List.not_mem_nil,
    or_false] at hmem
  rcases hmem with ⟨entry, -, hentry⟩ | hepoch | hflags
  · unfold fieldFailure at hentry
    split at hentry <;> cases hentry
  · unfold epochFailure at hepoch
    split at hepoch
    · split at hepoch <;> cases hepoch
    · cases hepoch
  · unfold flagsFailure at hflags
    split at hflags <;> cases hflags

/-- **The order of the checks is exact.** Once an identifier is derived, the
construction accepts exactly the well-formed wire values, fails otherwise with
the first entry of `failures`, and does so whatever the quantity; a derivation
error is that of a well-formed value. -/
theorem intrinsic_validation_exact (sha256 : List UInt8 → Bytes 32) (alloc : Nat → Bool)
    (wire : ResourceWireV1) :
    (∀ resourceId, wire.resourceId sha256 alloc = .ok resourceId →
      ((∃ r, IntrinsicResourceV1.tryFromWire sha256 alloc wire = .ok r) ↔ WellFormed wire) ∧
      ∀ e, IntrinsicResourceV1.tryFromWire sha256 alloc wire = .error e ↔
        (failures wire).findSome? id = some e) ∧
    (∀ e, IntrinsicResourceV1.tryFromWire sha256 alloc wire = .error (.resourceIdDerivation e) ↔
      WellFormed wire ∧ wire.resourceId sha256 alloc = .error e) ∧
    ∀ quantity,
      err? (validateIntrinsicFields { wire with quantityAtoms := quantity }) =
        err? (validateIntrinsicFields wire) ∧
      ∀ resourceId resourceId', wire.resourceId sha256 alloc = .ok resourceId →
        { wire with quantityAtoms := quantity }.resourceId sha256 alloc = .ok resourceId' →
        err? (IntrinsicResourceV1.tryFromWire sha256 alloc
            { wire with quantityAtoms := quantity }) =
          err? (IntrinsicResourceV1.tryFromWire sha256 alloc wire) := by
  refine ⟨fun resourceId h => ⟨?_, fun e => ?_⟩, fun e => ?_, fun quantity => ⟨?_, ?_⟩⟩
  · rw [← err?_eq_none, err?_tryFromWire_of_derived h, failures_none]
  · rw [← err?_eq_some, err?_tryFromWire_of_derived h]
  · rw [← err?_eq_some, err?_tryFromWire, List.findSome?_append]
    rcases hfirst : (failures wire).findSome? id with _ | first
    · rw [← failures_none, hfirst]
      cases wire.resourceId sha256 alloc with
      | ok _ => simp [err?]
      | error _ => simp [err?]
    · rw [← failures_none, hfirst]
      have hne : first ≠ .resourceIdDerivation e := by
        intro heq
        subst heq
        exact failures_not_derivation hfirst
      simp [hne]
  · rw [err?_validateIntrinsicFields, err?_validateIntrinsicFields]
    rfl
  · intro resourceId resourceId' h h'
    rw [err?_tryFromWire_of_derived h, err?_tryFromWire_of_derived h']
    rfl

/-! ## When there is an identifier -/

/-- The host and the hash give the wire value an identifier. -/
def Derived (sha256 : List UInt8 → Bytes 32) (alloc : Nat → Bool) (w : ResourceWireV1) : Prop :=
  alloc w.encodedLength = true ∧ allZero (sha256 (resourcePreimage w)) = false

variable {sha256 : List UInt8 → Bytes 32} {alloc : Nat → Bool} {w : ResourceWireV1}

theorem resourceId_eq_ok {id : ResourceId} : w.resourceId sha256 alloc = .ok id ↔
    alloc w.encodedLength = true ∧ id.asBytes = sha256 (resourcePreimage w) := by
  refine ⟨alloc_of_resourceId_eq_ok, fun h => ?_⟩
  obtain ⟨halloc, hid⟩ := h
  rw [ResourceWireV1.resourceId, deriveResourceId_eq, if_pos halloc]
  exact mapError_eq_ok.mpr (Opaque.tryFrom_eq_ok.mpr hid)

theorem exists_resourceId : (∃ id, w.resourceId sha256 alloc = .ok id) ↔ Derived sha256 alloc w := by
  simp only [resourceId_eq_ok]
  refine ⟨fun h => ?_, fun h => ?_⟩
  · obtain ⟨id, halloc, hid⟩ := h
    exact ⟨halloc, by rw [← hid, id.asBytes_nonzero]⟩
  · obtain ⟨halloc, hnonzero⟩ := h
    obtain ⟨id, hid⟩ | ⟨e, he⟩ := ok_or_error (Opaque.tryFrom (sha256 (resourcePreimage w)) : Except _ ResourceId)
    · exact ⟨id, halloc, Opaque.tryFrom_eq_ok.mp hid⟩
    · rw [Opaque.tryFrom_eq_error.mp he] at hnonzero
      cases hnonzero

/-- A well-formed wire value is accepted if and only if it gets an identifier. -/
theorem exists_tryFromWire (h : WellFormed w) :
    (∃ r, IntrinsicResourceV1.tryFromWire sha256 alloc w = .ok r) ↔ Derived sha256 alloc w := by
  rw [← exists_resourceId]
  refine ⟨fun hr => ?_, fun hid => ?_⟩
  · obtain ⟨r, hr⟩ := hr
    exact ⟨r.resourceId, (tryFromWire_eq_ok.mp hr).2⟩
  · obtain ⟨id, hid⟩ := hid
    exact err?_eq_none.mp ((err?_tryFromWire_of_derived hid).trans (failures_none.mpr h))

end Zrm.L4.Resource
