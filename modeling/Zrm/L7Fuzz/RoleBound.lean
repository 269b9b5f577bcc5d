import Zrm.L4Kernel.ResourceChecks
import Zrm.L4Kernel.RoleBinding
import Zrm.L7Fuzz.ResourceRoles

/-!
# The role-binding target (`fuzz_targets/role_bound_intrinsic_v1.rs`)

The target builds five resources, a partition of some of their ids, and binds one of them, or
a sixth one with a changed body. It asserts that different bodies have different ids, that
the binding is the predicted one, and that the partition is what it was.

From outside come `sha256` and the allocator, and nothing is assumed of either. `alloc call n`
answers the encoder's request for `n` bytes in the `call`-th construction of a resource: 0 is
the body to bind, 1 to 4 are the others, 5 is the changed body. `allocRoles role n` answers the
kernel for a role. `vec!`, `clone` and `to_vec` abort where they are refused memory; that is left
out. A panic and a failed assertion are `none` (`Harness`).

Results:
* `bodies_wellFormed`, `bodies_nodup`: the bodies are valid and different, whatever the input.
* `tryNew_roleLists`: the lists make a partition if and only if the ids on them are different.
* `checkBinding_present`, `checkBinding_absent`: the predicted binding is the kernel's.
* `role_bound_target_exact`: a panic is a collision of the hash, a zero digest or memory that
  the host refuses.
-/
namespace Zrm.L7.RoleBound

open Zrm.BigEndian Zrm.Result Zrm.Placement Harness L1.Ids L1.Scalar L2.ResourceWire L2.Hash L3.Limits
  L4.Resource L4.Roles

/-! ## The bodies -/

def INPUT_BYTES : Nat := 21
def MUTABLE_FIELD_COUNT : UInt8 := 17

/-- `data[i]` -/
def byteAt (data : Bytes INPUT_BYTES) (i : Nat) : UInt8 := data.toList.getD i 0

/-- mirrors fuzz/fuzz_targets/role_bound_intrinsic_v1.rs:15-19 -/
def quantity (data : Bytes INPUT_BYTES) : U128 := BitVec.ofNat 128 (ofBe (data.toList.drop 5))

/-- `[byte; 32]` -/
def all (byte : UInt8) : Bytes 32 := .replicate 32 byte

/-- mirrors fuzz/fuzz_targets/role_bound_intrinsic_v1.rs:21-42 -/
def wire (marker : UInt8) (quantityAtoms : U128) : ResourceWireV1 where
  machineId := all 1
  domainId := all 2
  applicationId := all 3
  resourceKindId := all 4
  resourceLogicId := all 5
  logicProfileId := all 6
  resourceKindPolicyId := all 7
  unitId := all 8
  quantityAtoms
  labelRoot := all 10
  valueRoot := all 11
  controllerRoot := all 12
  policyRoot := all 13
  provenanceRoot := all 14
  nonce := all marker
  createdEpoch := 1
  expiryEpoch := some 2
  flags := 0

/-- `bytes[0] ^= 1` -/
def xorFirst (bytes : Bytes 32) : Bytes 32 :=
  ⟨bytes.toList.modifyHead (· ^^^ 1), by rw [List.length_modifyHead, bytes.length_toList]⟩

/-- mirrors fuzz/fuzz_targets/role_bound_intrinsic_v1.rs:44-64 -/
def mutateValidField (resource : ResourceWireV1) (selector : UInt8) : ResourceWireV1 :=
  match (selector % MUTABLE_FIELD_COUNT).toNat with
  | 0 => { resource with machineId := all 101 }
  | 1 => { resource with domainId := all 102 }
  | 2 => { resource with applicationId := all 103 }
  | 3 => { resource with resourceKindId := all 104 }
  | 4 => { resource with resourceLogicId := all 105 }
  | 5 => { resource with logicProfileId := all 106 }
  | 6 => { resource with resourceKindPolicyId := all 107 }
  | 7 => { resource with unitId := all 108 }
  | 8 => { resource with quantityAtoms := ~~~ resource.quantityAtoms }
  | 9 => { resource with labelRoot := all 110 }
  | 10 => { resource with valueRoot := all 111 }
  | 11 => { resource with controllerRoot := all 112 }
  | 12 => { resource with policyRoot := all 113 }
  | 13 => { resource with provenanceRoot := all 114 }
  | 14 => { resource with nonce := xorFirst resource.nonce }
  | 15 => { resource with createdEpoch := 2 }
  | _ => { resource with expiryEpoch := none }

/-- mirrors fuzz/fuzz_targets/role_bound_intrinsic_v1.rs:66-71; the host grants the encodings
of one call. -/
def mustIntrinsic (sha256 : List UInt8 → Bytes 32) (alloc : Nat → Bool) (resource : ResourceWireV1) :
    Option IntrinsicResourceV1 := (IntrinsicResourceV1.tryFromWire sha256 alloc resource).toOption

/-- mirrors fuzz/fuzz_targets/role_bound_intrinsic_v1.rs:73-77 -/
def peerWire (marker : UInt8) (quantityAtoms : U128) : ResourceWireV1 :=
  { wire marker quantityAtoms with applicationId := all (marker + 128) }

/-! ## The lists -/

/-- mirrors fuzz/fuzz_targets/role_bound_intrinsic_v1.rs:132-138 -/
def permute (resources : List ResourceId) (selector : UInt8) : List ResourceId :=
  match (selector % 3).toNat with
  | 1 => resources.reverse
  | 2 => if resources.length > 1 then resources.rotate 1 else resources
  | _ => resources

/-- mirrors fuzz/fuzz_targets/role_bound_intrinsic_v1.rs:79-83 -/
structure OwnedRoleLists where
  consumed : List ResourceId
  referenced : List ResourceId
  created : List ResourceId

namespace OwnedRoleLists

/-! mirrors fuzz/fuzz_targets/role_bound_intrinsic_v1.rs:85-121 -/

def push (lists : OwnedRoleLists) (role : ResourceRoleV1) (resourceId : ResourceId) : OwnedRoleLists :=
  match role with
  | .consumed => { lists with consumed := lists.consumed ++ [resourceId] }
  | .referenced => { lists with referenced := lists.referenced ++ [resourceId] }
  | .created => { lists with created := lists.created ++ [resourceId] }

def permuted (lists : OwnedRoleLists) (selector : UInt8) : OwnedRoleLists where
  consumed := permute lists.consumed selector
  referenced := permute lists.referenced selector
  created := permute lists.created selector

def candidate (lists : OwnedRoleLists) : ResourceRoleListsCandidateV1 :=
  { consumed := lists.consumed, referenced := lists.referenced, created := lists.created }

def forRole (lists : OwnedRoleLists) : ResourceRoleV1 → List ResourceId
  | .consumed => lists.consumed
  | .referenced => lists.referenced
  | .created => lists.created

def contains (lists : OwnedRoleLists) (resourceId : ResourceId) : Bool :=
  lists.consumed.contains resourceId || lists.referenced.contains resourceId ||
    lists.created.contains resourceId

end OwnedRoleLists

/-- mirrors fuzz/fuzz_targets/role_bound_intrinsic_v1.rs:123-130 -/
def selectedRole (selector : UInt8) : Option ResourceRoleV1 :=
  match (selector &&& 3).toNat with
  | 1 => some .consumed
  | 2 => some .referenced
  | 3 => some .created
  | _ => none

/-- mirrors fuzz/fuzz_targets/role_bound_intrinsic_v1.rs:140-149 -/
def expectedOrdinal (resources : List ResourceId) (target : ResourceId) : Option UInt32 :=
  u32TryFrom (resources.filter (· < target)).length

/-! ## The run -/

/-- mirrors fuzz/fuzz_targets/role_bound_intrinsic_v1.rs:155-156 -/
def targetWire (data : Bytes INPUT_BYTES) : ResourceWireV1 :=
  wire (if byteAt data 4 = 255 then 255 else byteAt data 4 + 1) (quantity data)

def targetRole (data : Bytes INPUT_BYTES) : Option ResourceRoleV1 := selectedRole (byteAt data 0)

def staleBody (data : Bytes INPUT_BYTES) : Bool := byteAt data 2 &&& 1 == 1

/-- mirrors fuzz/fuzz_targets/role_bound_intrinsic_v1.rs:181-194 -/
def roleLists (data : Bytes INPUT_BYTES) (targetId consumedId referencedId createdId peerId : ResourceId) :
    OwnedRoleLists :=
  let lists : OwnedRoleLists := { consumed := [consumedId], referenced := [referencedId], created := [createdId] }
  let lists := lists.push ((targetRole data).getD .consumed) peerId
  let lists := match targetRole data with
    | some role => lists.push role targetId
    | none => lists
  lists.permuted (byteAt data 1)

/-- mirrors fuzz/fuzz_targets/role_bound_intrinsic_v1.rs:204-224 -/
def boundBody (sha256 : List UInt8 → Bytes 32) (alloc : Nat → Bool) (data : Bytes INPUT_BYTES)
    (baseTarget : IntrinsicResourceV1) (lists : OwnedRoleLists) : Option IntrinsicResourceV1 :=
  if staleBody data then do
    let changedWire := mutateValidField (targetWire data) (byteAt data 3)
    assertThat (decide (changedWire ≠ targetWire data))
    let changed ← mustIntrinsic sha256 alloc changedWire
    assertThat (decide (changed.resourceId ≠ baseTarget.resourceId))
    assertThat (!lists.contains changed.resourceId)
    return changed
  else return baseTarget

/-- mirrors fuzz/fuzz_targets/role_bound_intrinsic_v1.rs:229-248 -/
def checkBinding (data : Bytes INPUT_BYTES) (lists : OwnedRoleLists) (roles : CanonicalResourceRolesV1)
    (targetId : ResourceId) (resource : IntrinsicResourceV1) : Option Unit := do
  let first ← roles.bindIntrinsic resource
  let replay ← roles.bindIntrinsic resource
  assertThat (decide (first = replay))
  match targetRole data with
  | some role =>
    if staleBody data then assertThat (decide (first = .error .resourceAbsentFromRoles))
    else
      let ordinal ← expectedOrdinal (lists.forRole role) targetId
      let bound ← first.toOption
      assertThat (decide (bound.resource = resource))
      assertThat (decide (bound.resourceId = targetId))
      assertThat (decide (bound.role = role))
      assertThat (decide (bound.ordinal = ordinal))
  | none => assertThat (decide (first = .error .resourceAbsentFromRoles))

/-- mirrors fuzz/fuzz_targets/role_bound_intrinsic_v1.rs:151-253, behind the length check; the
host answers each of the six constructions on its own. -/
def checkInput (sha256 : List UInt8 → Bytes 32) (alloc : Nat → Nat → Bool)
    (allocRoles : ResourceRoleV1 → Nat → Bool) (data : Bytes INPUT_BYTES) : Option Unit := do
  let baseTarget ← mustIntrinsic sha256 (alloc 0) (targetWire data)
  let targetId := baseTarget.resourceId
  let otherConsumed ← mustIntrinsic sha256 (alloc 1) (peerWire 41 1)
  let otherReferenced ← mustIntrinsic sha256 (alloc 2) (peerWire 42 2)
  let otherCreated ← mustIntrinsic sha256 (alloc 3) (peerWire 43 3)
  let otherPeer ← mustIntrinsic sha256 (alloc 4) (peerWire 44 4)
  let otherIds := [otherConsumed.resourceId, otherReferenced.resourceId, otherCreated.resourceId,
    otherPeer.resourceId]
  assertThat (!otherIds.contains targetId)
  let lists := roleLists data targetId otherConsumed.resourceId otherReferenced.resourceId
    otherCreated.resourceId otherPeer.resourceId
  let result ← CanonicalResourceRolesV1.tryNew allocRoles lists.candidate .strictDefault
  let roles ← result.toOption
  let resource ← boundBody sha256 (alloc 5) data baseTarget lists
  let consumedSnapshot := roles.consumed
  let referencedSnapshot := roles.referenced
  let createdSnapshot := roles.created
  checkBinding data lists roles targetId resource
  assertThat (roles.consumed == consumedSnapshot)
  assertThat (roles.referenced == referencedSnapshot)
  assertThat (roles.created == createdSnapshot)

/-- mirrors fuzz/fuzz_targets/role_bound_intrinsic_v1.rs:151-253 -/
def fuzzTarget (sha256 : List UInt8 → Bytes 32) (alloc : Nat → Nat → Bool)
    (allocRoles : ResourceRoleV1 → Nat → Bool) (data : List UInt8) : Option Unit :=
  match arrayOf INPUT_BYTES data with
  | none => some ()
  | some data => checkInput sha256 alloc allocRoles data

/-! ## The bodies are valid and different -/

@[simp] theorem all_inj {byte byte' : UInt8} : all byte = all byte' ↔ byte = byte' := by
  rw [all, all, Bytes.ext_iff, Bytes.replicate, Bytes.replicate, List.replicate_inj]
  simp

theorem zeroBytes_eq : Bytes.replicate 32 0 = all 0 := rfl

theorem all_getD {byte : UInt8} : (all byte).toList.getD 1 0 = byte := by
  simp [all, Bytes.replicate]

theorem xorFirst_getD {bytes : Bytes 32} : (xorFirst bytes).toList.getD 1 0 = bytes.toList.getD 1 0 := by
  obtain ⟨l, h⟩ := bytes
  match l, h with
  | b :: c :: l, _ => rfl

theorem xorFirst_ne (bytes : Bytes 32) : xorFirst bytes ≠ bytes := by
  obtain ⟨l, h⟩ := bytes
  match l, h with
  | b :: l, _ =>
    intro heq
    have hfirst : b ^^^ 1 = b := (List.cons.inj (congrArg Bytes.toList heq)).1
    have hzero : b ^^^ (b ^^^ 1) = b ^^^ b := by rw [hfirst]
    rw [← UInt8.xor_assoc, UInt8.xor_self, UInt8.zero_xor] at hzero
    exact absurd hzero (by decide)

theorem wire_wellFormed {marker : UInt8} (quantityAtoms : U128) (h : marker ≠ 0) :
    WellFormed (wire marker quantityAtoms) := by
  refine ⟨?_, ?_, rfl⟩
  · simp [checkedFields, identityFields, commitmentFields, wire, zeroBytes_eq, h]
  · simp [wire]

theorem marker_ne_zero (data : Bytes INPUT_BYTES) :
    (if byteAt data 4 = 255 then 255 else byteAt data 4 + 1) ≠ 0 := by
  split
  · decide
  · rename_i hmax
    intro hzero
    apply hmax
    have hbyte : byteAt data 4 = byteAt data 4 + 1 - 1 := by rw [UInt8.add_sub_cancel]
    rw [hbyte, hzero]
    rfl

theorem targetWire_wellFormed (data : Bytes INPUT_BYTES) : WellFormed (targetWire data) :=
  wire_wellFormed _ (marker_ne_zero data)

theorem peerWire_wellFormed {marker : UInt8} (quantityAtoms : U128) (h : marker ≠ 0)
    (h' : marker + 128 ≠ 0) : WellFormed (peerWire marker quantityAtoms) := by
  refine ⟨?_, ?_, rfl⟩
  · simp [checkedFields, identityFields, commitmentFields, peerWire, wire, zeroBytes_eq, h, h']
  · simp [peerWire, wire]

theorem mutated_wellFormed {marker : UInt8} {quantityAtoms : U128} (selector : UInt8) (h : marker ≠ 0) :
    WellFormed (mutateValidField (wire marker quantityAtoms) selector) := by
  have hnonce : xorFirst (all marker) ≠ all 0 := by
    intro heq
    have hsecond := @xorFirst_getD (all marker)
    rw [heq, all_getD, all_getD] at hsecond
    exact h hsecond.symm
  unfold mutateValidField
  split <;>
    exact ⟨by simp [checkedFields, identityFields, commitmentFields, wire, zeroBytes_eq, h, hnonce],
      by simp [wire], rfl⟩

theorem mutated_ne (marker : UInt8) (quantityAtoms : U128) (selector : UInt8) :
    mutateValidField (wire marker quantityAtoms) selector ≠ wire marker quantityAtoms := by
  have hquantity : ~~~ quantityAtoms ≠ quantityAtoms := (BitVec.ne_not_self (by decide)).symm
  unfold mutateValidField
  split <;> simp [ResourceWireV1.ext_iff, wire, hquantity, xorFirst_ne]

theorem mutated_applicationId (marker : UInt8) (quantityAtoms : U128) (selector : UInt8) :
    (mutateValidField (wire marker quantityAtoms) selector).applicationId = all 3 ∨
      (mutateValidField (wire marker quantityAtoms) selector).applicationId = all 103 := by
  unfold mutateValidField
  split <;> simp [wire]

def peers : List ResourceWireV1 := [peerWire 41 1, peerWire 42 2, peerWire 43 3, peerWire 44 4]

/-- The bodies that a run builds, in the order of the constructions. -/
def bodies (data : Bytes INPUT_BYTES) : List ResourceWireV1 :=
  targetWire data :: peers ++
    if staleBody data then [mutateValidField (targetWire data) (byteAt data 3)] else []

theorem applicationId_of_peer {w : ResourceWireV1} (h : w ∈ peers) :
    w.applicationId ≠ all 3 ∧ w.applicationId ≠ all 103 := by
  simp only [peers, List.mem_cons, List.not_mem_nil, or_false] at h
  rcases h with rfl | rfl | rfl | rfl <;> simp [peerWire]

theorem bodies_wellFormed {data : Bytes INPUT_BYTES} : ∀ w ∈ bodies data, WellFormed w := by
  have hpeers : ∀ w ∈ peers, WellFormed w := by
    intro w hw
    simp only [peers, List.mem_cons, List.not_mem_nil, or_false] at hw
    rcases hw with rfl | rfl | rfl | rfl <;> exact peerWire_wellFormed _ (by decide) (by decide)
  intro w hw
  rw [bodies, List.mem_append, List.mem_cons] at hw
  rcases hw with (rfl | hw) | hw
  · exact targetWire_wellFormed data
  · exact hpeers w hw
  · split at hw
    · rw [List.mem_singleton.mp hw]
      exact mutated_wellFormed _ (marker_ne_zero data)
    · cases hw

/-- The bodies are different, whatever the input. -/
theorem bodies_nodup (data : Bytes INPUT_BYTES) : (bodies data).Nodup := by
  have hpeers : peers.Nodup := by
    refine List.Nodup.of_map (fun w => w.applicationId) ?_
    simp [peers, peerWire]
  have htarget : targetWire data ∉ peers := fun h => (applicationId_of_peer h).1 rfl
  have hmutated : mutateValidField (targetWire data) (byteAt data 3) ∉ targetWire data :: peers := by
    rw [List.mem_cons, not_or]
    refine ⟨mutated_ne _ _ _, fun h => ?_⟩
    obtain ⟨h3, h103⟩ := applicationId_of_peer h
    rcases mutated_applicationId _ (quantity data) (byteAt data 3) with happ | happ
    · exact h3 happ
    · exact h103 happ
  have hcons : (targetWire data :: peers).Nodup := List.nodup_cons.mpr ⟨htarget, hpeers⟩
  rw [bodies]
  split
  · exact List.nodup_append.mpr ⟨hcons, List.nodup_singleton _, fun w hw w' hw' heq =>
      hmutated (List.mem_singleton.mp hw' ▸ heq ▸ hw)⟩
  · rw [List.append_nil]
    exact hcons

/-! ## Constructing a body -/

variable {sha256 : List UInt8 → Bytes 32} {w : ResourceWireV1}

theorem exists_mustIntrinsic {alloc : Nat → Bool} (h : WellFormed w) :
    (∃ r, mustIntrinsic sha256 alloc w = some r) ↔ Derived sha256 alloc w := by
  simp only [mustIntrinsic, toOption_eq_some]
  exact exists_tryFromWire h

theorem mustIntrinsic_id {alloc : Nat → Bool} {r : IntrinsicResourceV1}
    (h : mustIntrinsic sha256 alloc w = some r) : r.resourceId.asBytes = sha256 (resourcePreimage w) :=
  (resourceId_eq_ok.mp (tryFromWire_eq_ok.mp (toOption_eq_some.mp h)).2).2

/-! ## The lists as a whole -/

/-- All ids that are listed. -/
def OwnedRoleLists.flat (lists : OwnedRoleLists) : List ResourceId :=
  lists.consumed ++ lists.referenced ++ lists.created

theorem flat_push (lists : OwnedRoleLists) (role : ResourceRoleV1) (id : ResourceId) :
    (lists.push role id).flat.Perm (id :: lists.flat) := by
  obtain ⟨consumed, referenced, created⟩ := lists
  cases role with
  | consumed =>
    show ((consumed ++ [id]) ++ referenced ++ created).Perm (id :: (consumed ++ referenced ++ created))
    simp only [List.append_assoc, List.singleton_append]
    exact List.perm_middle
  | referenced =>
    show (consumed ++ (referenced ++ [id]) ++ created).Perm (id :: (consumed ++ referenced ++ created))
    rw [← List.append_assoc consumed, List.append_assoc _ [id]]
    exact List.perm_middle
  | created =>
    show (consumed ++ referenced ++ (created ++ [id])).Perm (id :: (consumed ++ referenced ++ created))
    rw [← List.append_assoc]
    exact List.perm_append_singleton id _

theorem permute_perm (resources : List ResourceId) (selector : UInt8) :
    (permute resources selector).Perm resources := by
  unfold permute
  split
  · exact List.reverse_perm resources
  · exact ResourceRoles.rotateIfNontrivial_perm resources
  · exact .refl resources

theorem flat_permuted (lists : OwnedRoleLists) (selector : UInt8) :
    (lists.permuted selector).flat.Perm lists.flat :=
  ((permute_perm _ selector).append (permute_perm _ selector)).append (permute_perm _ selector)

theorem list_candidate (lists : OwnedRoleLists) (role : ResourceRoleV1) :
    lists.candidate.list role = lists.forRole role := by
  cases role <;> rfl

theorem mem_flat {lists : OwnedRoleLists} {id : ResourceId} :
    id ∈ lists.flat ↔ ∃ role, id ∈ lists.forRole role := by
  simp only [OwnedRoleLists.flat, List.mem_append]
  refine ⟨fun h => ?_, fun h => ?_⟩
  · rcases h with (h | h) | h
    · exact ⟨.consumed, h⟩
    · exact ⟨.referenced, h⟩
    · exact ⟨.created, h⟩
  · obtain ⟨role, h⟩ := h
    cases role
    · exact .inl (.inl h)
    · exact .inl (.inr h)
    · exact .inr h

theorem contains_eq {lists : OwnedRoleLists} {id : ResourceId} :
    lists.contains id = true ↔ id ∈ lists.flat := by
  simp [OwnedRoleLists.contains, OwnedRoleLists.flat, or_assoc]

/-- Short lists make a partition if and only if no id is listed twice. -/
theorem admissible_iff {lists : OwnedRoleLists} (h : ∀ role, (lists.forRole role).length ≤ 64) :
    Admissible lists.candidate .strictDefault ↔ lists.flat.Nodup := by
  rw [OwnedRoleLists.flat, List.nodup_append', List.nodup_append', List.disjoint_append_left]
  refine ⟨fun hadmissible => ?_, fun hflat => ?_⟩
  · exact ⟨⟨hadmissible.nodup .consumed, hadmissible.nodup .referenced,
        hadmissible.disjoint .consumed .referenced (by decide)⟩, hadmissible.nodup .created,
      hadmissible.disjoint .consumed .created (by decide),
      hadmissible.disjoint .referenced .created (by decide)⟩
  · obtain ⟨⟨hconsumed, hreferenced, hcr⟩, hcreated, hco, hro⟩ := hflat
    refine ⟨fun role => ?_, fun role => ?_, find?_collides.mp ?_⟩
    · rw [list_candidate]
      refine (h role).trans ?_
      cases role <;> decide
    · cases role
      · exact hconsumed
      · exact hreferenced
      · exact hcreated
    · rw [List.find?_eq_none]
      simp only [pairPrecedence, collides, shareId, decide_eq_true_eq, not_exists, not_and,
        List.forall_mem_cons]
      exact ⟨hcr, hco, hro, fun _ hmem => absurd hmem List.not_mem_nil⟩

/-! ## The lists of a run -/

/-- How many ids a run lists in a role. -/
def listedCount (data : Bytes INPUT_BYTES) (role : ResourceRoleV1) : Nat :=
  1 + (if (targetRole data).getD .consumed = role then 1 else 0) + if targetRole data = some role then 1 else 0

section
variable {data : Bytes INPUT_BYTES} {targetId consumedId referencedId createdId peerId : ResourceId}

theorem length_push (lists : OwnedRoleLists) (role role' : ResourceRoleV1) (id : ResourceId) :
    ((lists.push role id).forRole role').length = (lists.forRole role').length + if role = role' then 1 else 0 := by
  cases role <;> cases role' <;> simp [OwnedRoleLists.push, OwnedRoleLists.forRole]

theorem permuted_forRole (lists : OwnedRoleLists) (selector : UInt8) (role : ResourceRoleV1) :
    ((lists.permuted selector).forRole role).Perm (lists.forRole role) := by
  cases role <;> exact permute_perm _ _

theorem mem_push {lists : OwnedRoleLists} {role : ResourceRoleV1} {id : ResourceId} :
    id ∈ (lists.push role id).forRole role := by
  cases role <;> simp [OwnedRoleLists.push, OwnedRoleLists.forRole]

theorem length_roleLists (role : ResourceRoleV1) :
    ((roleLists data targetId consumedId referencedId createdId peerId).forRole role).length =
      listedCount data role := by
  have hone : (OwnedRoleLists.forRole ⟨[consumedId], [referencedId], [createdId]⟩ role).length = 1 := by
    cases role <;> rfl
  rw [roleLists, (permuted_forRole _ _ role).length_eq, listedCount]
  cases targetRole data with
  | none => simp [length_push, hone]
  | some role' => simp [length_push, hone]

theorem flat_roleLists : (roleLists data targetId consumedId referencedId createdId peerId).flat.Perm
    ((if (targetRole data).isSome then [targetId] else []) ++
      [peerId, consumedId, referencedId, createdId]) := by
  rw [roleLists]
  refine (flat_permuted _ _).trans ?_
  cases targetRole data with
  | none => exact flat_push _ _ _
  | some role => exact (flat_push _ _ _).trans ((flat_push _ _ _).cons _)

theorem mem_roleLists {role : ResourceRoleV1} (h : targetRole data = some role) :
    targetId ∈ (roleLists data targetId consumedId referencedId createdId peerId).forRole role := by
  rw [roleLists, (permuted_forRole _ _ role).mem_iff, h]
  exact mem_push

end

section
variable {data : Bytes INPUT_BYTES} {targetId consumedId referencedId createdId peerId id : ResourceId}

theorem flat_nodup (h : targetId ∉ [consumedId, referencedId, createdId, peerId]) :
    (roleLists data targetId consumedId referencedId createdId peerId).flat.Nodup ↔
      [targetId, consumedId, referencedId, createdId, peerId].Nodup := by
  have hpeer : [peerId, consumedId, referencedId, createdId].Perm [consumedId, referencedId, createdId, peerId] :=
    (List.perm_append_singleton peerId [consumedId, referencedId, createdId]).symm
  rw [flat_roleLists.nodup_iff]
  cases (targetRole data).isSome with
  | false => exact hpeer.nodup_iff.trans (List.nodup_cons.trans (and_iff_right h)).symm
  | true => exact (hpeer.cons targetId).nodup_iff

theorem mem_flat_roleLists (h : id ≠ targetId) :
    id ∈ (roleLists data targetId consumedId referencedId createdId peerId).flat ↔
      id ∈ [targetId, consumedId, referencedId, createdId, peerId] := by
  rw [flat_roleLists.mem_iff]
  cases (targetRole data).isSome <;> simp [h] <;> tauto

theorem tryNew_roleLists {allocRoles : ResourceRoleV1 → Nat → Bool} {roles : CanonicalResourceRolesV1}
    (h : targetId ∉ [consumedId, referencedId, createdId, peerId]) :
    CanonicalResourceRolesV1.tryNew allocRoles
        (roleLists data targetId consumedId referencedId createdId peerId).candidate .strictDefault =
      returned (.ok roles) ↔ [targetId, consumedId, referencedId, createdId, peerId].Nodup ∧
        (∀ role, allocRoles role (listedCount data role) = true) ∧
        roles = canonicalRoles (roleLists data targetId consumedId referencedId createdId peerId).candidate := by
  have hshort : ∀ role, ((roleLists data targetId consumedId referencedId createdId peerId).forRole role).length ≤ 64 := by
    intro role
    rw [length_roleLists, listedCount]
    split <;> split <;> decide
  rw [tryNew_eq_ok, admissible_iff hshort, flat_nodup h, ResourceRoles.capacityError_eq_none]
  simp only [list_candidate, length_roleLists]

end

/-! ## The binding -/

section
variable {data : Bytes INPUT_BYTES} {lists : OwnedRoleLists} {resource : IntrinsicResourceV1}
  {targetId : ResourceId}

theorem checkBinding_absent {roles : CanonicalResourceRolesV1} (h : roles.Canonical)
    (habsent : ∀ role, resource.resourceId ∉ roles.list role)
    (hcase : staleBody data = true ∨ targetRole data = none) :
    checkBinding data lists roles targetId resource = some () := by
  have hbind := (bindIntrinsic_eq_error h resource).mpr habsent
  rw [checkBinding, hbind]
  rcases hcase with hstale | hrole
  · rw [hstale]
    cases targetRole data <;> rfl
  · rw [hrole]
    rfl

theorem expectedOrdinal_eq (h : Admissible lists.candidate .strictDefault) {role : ResourceRoleV1}
    (hmem : targetId ∈ lists.forRole role) : expectedOrdinal (lists.forRole role) targetId =
      some (UInt32.ofNat (((canonicalRoles lists.candidate).list role).idxOf targetId)) := by
  have hcanonical := canonicalRoles_canonical h
  have hperm := canonicalRoles_perm lists.candidate role
  rw [list_candidate] at hperm
  have hcount : ((canonicalRoles lists.candidate).list role).idxOf targetId =
      ((lists.forRole role).filter (· < targetId)).length := by
    rw [idxOf_eq_countP (hcanonical.ascending role) (hperm.mem_iff.mpr hmem), hperm.countP_eq,
      List.countP_eq_length_filter]
  rw [expectedOrdinal, hcount]
  exact u32TryFrom_of_lt (hcount ▸ idxOf_lt_of_mem hcanonical (hperm.mem_iff.mpr hmem))

theorem checkBinding_present (h : Admissible lists.candidate .strictDefault) {role : ResourceRoleV1}
    (hstale : staleBody data = false) (hrole : targetRole data = some role)
    (hid : resource.resourceId = targetId) (hmem : targetId ∈ lists.forRole role) :
    checkBinding data lists (canonicalRoles lists.candidate) targetId resource = some () := by
  have hcanonical := canonicalRoles_canonical h
  have hlisted : resource.resourceId ∈ (canonicalRoles lists.candidate).list role := by
    rw [(canonicalRoles_perm lists.candidate role).mem_iff, list_candidate, hid]
    exact hmem
  obtain ⟨position, hposition⟩ := exists_positionOf hcanonical hlisted
  obtain ⟨hpositionId, hget⟩ := (positionOf_eq_some hcanonical).mp hposition
  have hpositionRole : position.role = role := role_unique hcanonical (List.mem_of_getElem? hget) hlisted
  have hbind : (canonicalRoles lists.candidate).bindIntrinsic resource = returned (.ok ⟨resource, position⟩) :=
    (bindIntrinsic_eq_ok hcanonical resource _).mpr ⟨rfl, hpositionId, hget⟩
  have hordinal : position.ordinal = UInt32.ofNat (((canonicalRoles lists.candidate).list role).idxOf targetId) := by
    rw [← hid, ← hpositionRole, ← ordinal_eq_idxOf hcanonical hget, UInt32.ofNat_toNat]
  rw [checkBinding, hbind, hrole, hstale]
  show (do
    assertThat (decide _)
    _) = _
  simp [expectedOrdinal_eq h hmem, Except.toOption, RoleBoundIntrinsicResourceV1.resourceId,
    RoleBoundIntrinsicResourceV1.role, RoleBoundIntrinsicResourceV1.ordinal, hid, hpositionRole, hordinal]

end

/-! ## The changed body -/

theorem bodies_stale {data : Bytes INPUT_BYTES} (h : staleBody data = true) : bodies data =
    [targetWire data, peerWire 41 1, peerWire 42 2, peerWire 43 3, peerWire 44 4,
      mutateValidField (targetWire data) (byteAt data 3)] := by
  rw [bodies, if_pos h]
  rfl

theorem bodies_fresh {data : Bytes INPUT_BYTES} (h : staleBody data = false) : bodies data =
    [targetWire data, peerWire 41 1, peerWire 42 2, peerWire 43 3, peerWire 44 4] := by
  rw [bodies, if_neg (Bool.eq_false_iff.mp h)]
  rfl

theorem boundBody_stale {data : Bytes INPUT_BYTES} {alloc : Nat → Bool} {base r : IntrinsicResourceV1}
    {lists : OwnedRoleLists} (h : staleBody data = true) :
    boundBody sha256 alloc data base lists = some r ↔
      mustIntrinsic sha256 alloc (mutateValidField (targetWire data) (byteAt data 3)) = some r ∧
        r.resourceId ≠ base.resourceId ∧ r.resourceId ∉ lists.flat := by
  have hchanged : mutateValidField (targetWire data) (byteAt data 3) ≠ targetWire data := mutated_ne _ _ _
  rw [boundBody, if_pos h]
  simp only [Option.bind_eq_bind, Option.bind_eq_some_iff, assertThat_eq_some, decide_eq_true_eq, Bool.not_eq_true',
    Bool.eq_false_iff, ne_eq, contains_eq, Option.pure_def, Option.some.injEq]
  refine ⟨fun hrun => ?_, fun hrun => ?_⟩
  · obtain ⟨_, -, r', hr', _, hbase, _, hlists, rfl⟩ := hrun
    exact ⟨hr', hbase, hlists⟩
  · obtain ⟨hr, hbase, hlists⟩ := hrun
    exact ⟨(), hchanged, r, hr, (), hbase, (), hlists, rfl⟩

theorem boundBody_fresh {data : Bytes INPUT_BYTES} {alloc : Nat → Bool} {base : IntrinsicResourceV1}
    {lists : OwnedRoleLists} (h : staleBody data = false) :
    boundBody sha256 alloc data base lists = some base := by
  rw [boundBody, if_neg (Bool.eq_false_iff.mp h)]
  rfl

/-! ## The run -/

/-- Six bodies have identifiers, no two of them the same, and the lists have their memory. -/
structure Through (sha256 : List UInt8 → Bytes 32) (alloc : Nat → Nat → Bool)
    (allocRoles : ResourceRoleV1 → Nat → Bool) (data : Bytes INPUT_BYTES) : Prop where
  derived : ∀ entry ∈ (bodies data).zipIdx, Derived sha256 (alloc entry.2) entry.1
  distinct : ((bodies data).map fun w => sha256 (resourcePreimage w)).Nodup
  granted : ∀ role, allocRoles role (listedCount data role) = true

variable {alloc : Nat → Nat → Bool} {allocRoles : ResourceRoleV1 → Nat → Bool} {data : Bytes INPUT_BYTES}

/-- The resources of a run, in the order of their constructions. -/
def Built (sha256 : List UInt8 → Bytes 32) (alloc : Nat → Nat → Bool) (data : Bytes INPUT_BYTES)
    (resources : List IntrinsicResourceV1) : Prop :=
  List.Forall₂ (fun entry r => mustIntrinsic sha256 (alloc entry.2) entry.1 = some r) (bodies data).zipIdx resources

theorem exists_built : (∀ entry ∈ (bodies data).zipIdx, Derived sha256 (alloc entry.2) entry.1) ↔
    ∃ resources, Built sha256 alloc data resources := by
  have hentries : ∀ entries : List (ResourceWireV1 × Nat), (∀ entry ∈ entries, WellFormed entry.1) →
      ((∀ entry ∈ entries, Derived sha256 (alloc entry.2) entry.1) ↔ ∃ resources,
        List.Forall₂ (fun entry r => mustIntrinsic sha256 (alloc entry.2) entry.1 = some r) entries resources) := by
    intro entries hwell
    induction entries with
    | nil => exact iff_of_true nofun ⟨[], .nil⟩
    | cons entry entries ih =>
      rw [List.forall_mem_cons] at hwell
      rw [List.forall_mem_cons, ih hwell.2, ← exists_mustIntrinsic hwell.1]
      refine ⟨fun h => ?_, fun h => ?_⟩
      · obtain ⟨⟨r, hr⟩, resources, hresources⟩ := h
        exact ⟨r :: resources, .cons hr hresources⟩
      · obtain ⟨_, hbuilt⟩ := h
        cases hbuilt with
        | cons hr hresources => exact ⟨⟨_, hr⟩, _, hresources⟩
  exact hentries _ fun entry hentry => bodies_wellFormed _ (List.fst_mem_of_mem_zipIdx hentry)

theorem Built.digests {resources : List IntrinsicResourceV1} (h : Built sha256 alloc data resources) :
    (bodies data).map (fun w => sha256 (resourcePreimage w)) =
      (resources.map IntrinsicResourceV1.resourceId).map Opaque.asBytes := by
  have hentries : ((bodies data).zipIdx.map Prod.fst).map (fun w => sha256 (resourcePreimage w)) =
      (resources.map IntrinsicResourceV1.resourceId).map Opaque.asBytes := by
    unfold Built at h
    generalize (bodies data).zipIdx = entries at h
    induction h with
    | nil => rfl
    | cons hr _ ih => rw [List.map_cons, List.map_cons, List.map_cons, List.map_cons, ih, mustIntrinsic_id hr]
  rwa [List.zipIdx_map_fst] at hentries

theorem Built.distinct_iff {resources : List IntrinsicResourceV1} (h : Built sha256 alloc data resources) :
    ((bodies data).map fun w => sha256 (resourcePreimage w)).Nodup ↔
      (resources.map IntrinsicResourceV1.resourceId).Nodup := by
  rw [h.digests]
  exact List.nodup_map_iff fun _ _ heq => Opaque.ext heq

theorem through_of_checkInput (h : checkInput sha256 alloc allocRoles data = some ()) :
    Through sha256 alloc allocRoles data := by
  simp only [checkInput, Option.bind_eq_bind, Option.bind_eq_some_iff, assertThat_eq_some, toOption_eq_some] at h
  obtain ⟨target, htarget, consumed, hconsumed, referenced, hreferenced, created, hcreated, peer, hpeer, _,
    hothers, result, hresult, roles, hroles, resource, hresource, -⟩ := h
  subst hroles
  have hnew : target.resourceId ∉ [consumed.resourceId, referenced.resourceId, created.resourceId,
      peer.resourceId] := by simpa using hothers
  obtain ⟨hnodup, hgranted, -⟩ := (tryNew_roleLists hnew).mp hresult
  cases hstale : staleBody data with
  | true =>
    obtain ⟨hchanged, hbase, hlists⟩ := (boundBody_stale hstale).mp hresource
    rw [mem_flat_roleLists hbase] at hlists
    have hbuilt : Built sha256 alloc data [target, consumed, referenced, created, peer, resource] := by
      rw [Built, bodies_stale hstale]
      exact .cons htarget (.cons hconsumed (.cons hreferenced (.cons hcreated (.cons hpeer (.cons hchanged .nil)))))
    refine ⟨exists_built.mpr ⟨_, hbuilt⟩, hbuilt.distinct_iff.mpr ?_, hgranted⟩
    exact List.nodup_append'.mpr ⟨hnodup, List.nodup_singleton _, List.disjoint_singleton.mpr hlists⟩
  | false =>
    have hbuilt : Built sha256 alloc data [target, consumed, referenced, created, peer] := by
      rw [Built, bodies_fresh hstale]
      exact .cons htarget (.cons hconsumed (.cons hreferenced (.cons hcreated (.cons hpeer .nil))))
    exact ⟨exists_built.mpr ⟨_, hbuilt⟩, hbuilt.distinct_iff.mpr hnodup, hgranted⟩

theorem bind_unit (x : Option Unit) : (x.bind fun _ => some ()) = x := by
  cases x <;> rfl

/-- With five resources and their partition, the rest is the binding: nothing it calls can
change the lists of the partition. -/
theorem checkInput_eq {target consumed referenced created peer : IntrinsicResourceV1}
    (htarget : mustIntrinsic sha256 (alloc 0) (targetWire data) = some target)
    (hconsumed : mustIntrinsic sha256 (alloc 1) (peerWire 41 1) = some consumed)
    (hreferenced : mustIntrinsic sha256 (alloc 2) (peerWire 42 2) = some referenced)
    (hcreated : mustIntrinsic sha256 (alloc 3) (peerWire 43 3) = some created)
    (hpeer : mustIntrinsic sha256 (alloc 4) (peerWire 44 4) = some peer)
    (hnodup : [target.resourceId, consumed.resourceId, referenced.resourceId, created.resourceId,
      peer.resourceId].Nodup) (hgranted : ∀ role, allocRoles role (listedCount data role) = true) :
    checkInput sha256 alloc allocRoles data =
      let lists := roleLists data target.resourceId consumed.resourceId referenced.resourceId
        created.resourceId peer.resourceId
      (boundBody sha256 (alloc 5) data target lists).bind
        (checkBinding data lists (canonicalRoles lists.candidate) target.resourceId) := by
  have hnew := (List.nodup_cons.mp hnodup).1
  have hroles := (@tryNew_roleLists data _ _ _ _ _ allocRoles _ hnew).mpr ⟨hnodup, hgranted, rfl⟩
  rw [checkInput, htarget, hconsumed, hreferenced, hcreated, hpeer]
  simp only [Option.bind_eq_bind, Option.bind_some, List.contains_eq_mem, decide_eq_false hnew, hroles,
    beq_self_eq_true, assertThat_true, bind_unit]
  rfl

theorem roleLists_admissible {targetId consumedId referencedId createdId peerId : ResourceId}
    (h : [targetId, consumedId, referencedId, createdId, peerId].Nodup) :
    Admissible (roleLists data targetId consumedId referencedId createdId peerId).candidate .strictDefault := by
  have hroles := (@tryNew_roleLists data _ _ _ _ _ (fun _ _ => true) _ (List.nodup_cons.mp h).1).mpr
    ⟨h, fun _ => rfl, rfl⟩
  exact (tryNew_eq_ok.mp hroles).1

theorem checkInput_of_through (h : Through sha256 alloc allocRoles data) :
    checkInput sha256 alloc allocRoles data = some () := by
  obtain ⟨hderived, hdistinct, hgranted⟩ := h
  obtain ⟨resources, hbuilt⟩ := exists_built.mp hderived
  rw [hbuilt.distinct_iff] at hdistinct
  have habsent : ∀ {lists : OwnedRoleLists} {id : ResourceId}, id ∉ lists.flat →
      ∀ role, id ∉ (canonicalRoles lists.candidate).list role := by
    intro lists id hflat role hmem
    rw [(canonicalRoles_perm lists.candidate role).mem_iff, list_candidate] at hmem
    exact hflat (mem_flat.mpr ⟨role, hmem⟩)
  cases hstale : staleBody data with
  | true =>
    simp only [Built, bodies_stale hstale, List.zipIdx_cons, List.zipIdx_nil, List.forall₂_cons_left_iff,
      List.forall₂_nil_left_iff, Nat.reduceAdd] at hbuilt
    obtain ⟨target, _, htarget, ⟨consumed, _, hconsumed, ⟨referenced, _, hreferenced, ⟨created, _, hcreated,
      ⟨peer, _, hpeer, ⟨changed, _, hchanged, rfl, rfl⟩, rfl⟩, rfl⟩, rfl⟩, rfl⟩, rfl⟩ := hbuilt
    obtain ⟨hnodup, -, hnew⟩ := List.nodup_append'.mp (show ([target.resourceId, consumed.resourceId,
      referenced.resourceId, created.resourceId, peer.resourceId] ++ [changed.resourceId]).Nodup from hdistinct)
    rw [List.disjoint_singleton] at hnew
    have hne : changed.resourceId ≠ target.resourceId := fun heq => hnew (heq ▸ List.mem_cons_self)
    rw [checkInput_eq htarget hconsumed hreferenced hcreated hpeer hnodup hgranted]
    have hflat := mt (@mem_flat_roleLists data _ _ _ _ _ _ hne).mp hnew
    dsimp only
    rw [(boundBody_stale hstale).mpr ⟨hchanged, hne, hflat⟩]
    exact checkBinding_absent (canonicalRoles_canonical (roleLists_admissible hnodup)) (habsent hflat) (.inl hstale)
  | false =>
    simp only [Built, bodies_fresh hstale, List.zipIdx_cons, List.zipIdx_nil, List.forall₂_cons_left_iff,
      List.forall₂_nil_left_iff, Nat.reduceAdd] at hbuilt
    obtain ⟨target, _, htarget, ⟨consumed, _, hconsumed, ⟨referenced, _, hreferenced, ⟨created, _, hcreated,
      ⟨peer, _, hpeer, rfl, rfl⟩, rfl⟩, rfl⟩, rfl⟩, rfl⟩ := hbuilt
    have hadmissible := @roleLists_admissible data _ _ _ _ _ hdistinct
    rw [checkInput_eq htarget hconsumed hreferenced hcreated hpeer hdistinct hgranted]
    dsimp only
    rw [boundBody_fresh hstale]
    cases hrole : targetRole data with
    | some role => exact checkBinding_present hadmissible hstale hrole rfl (mem_roleLists hrole)
    | none =>
      have hflat : target.resourceId ∉ (roleLists data target.resourceId consumed.resourceId
          referenced.resourceId created.resourceId peer.resourceId).flat := by
        rw [flat_roleLists.mem_iff, hrole]
        exact fun hmem => (List.nodup_cons.mp hdistinct).1
          ((List.perm_append_singleton peer.resourceId _).mem_iff.mpr hmem)
      exact checkBinding_absent (canonicalRoles_canonical hadmissible) (habsent hflat) (.inr hrole)

theorem checkInput_eq_some : checkInput sha256 alloc allocRoles data = some () ↔
    Through sha256 alloc allocRoles data := ⟨through_of_checkInput, checkInput_of_through⟩

theorem derived_iff : (∀ entry ∈ (bodies data).zipIdx, Derived sha256 (alloc entry.2) entry.1) ↔
    (∀ entry ∈ (bodies data).zipIdx, alloc entry.2 entry.1.encodedLength = true) ∧
      ∀ w ∈ bodies data, allZero (sha256 (resourcePreimage w)) = false := by
  have hbodies : (∀ w ∈ bodies data, allZero (sha256 (resourcePreimage w)) = false) ↔
      ∀ entry ∈ (bodies data).zipIdx, allZero (sha256 (resourcePreimage entry.1)) = false := by
    rw [← List.forall_mem_map (f := Prod.fst) (P := fun w => allZero (sha256 (resourcePreimage w)) = false),
      List.zipIdx_map_fst]
  rw [hbodies, ← forall₂_and]
  rfl

/-- No two digests are the same if and only if the hash has no collision on the bodies. -/
theorem distinct_iff : ((bodies data).map fun w => sha256 (resourcePreimage w)).Nodup ↔
    ∀ w ∈ bodies data, ∀ w' ∈ bodies data, sha256 (resourcePreimage w) = sha256 (resourcePreimage w') →
      resourcePreimage w = resourcePreimage w' := by
  rw [List.nodup_map_iff_inj_on (bodies_nodup data)]
  simp only [resourcePreimage_injective.eq_iff]

/-- **A panic is a collision.** On 21 bytes the target panics if and only if the host refuses
memory, a digest is zero or two different preimages have one digest; on all others it ends. -/
theorem role_bound_target_exact (sha256 : List UInt8 → Bytes 32) (alloc : Nat → Nat → Bool)
    (allocRoles : ResourceRoleV1 → Nat → Bool) (data : List UInt8) :
    fuzzTarget sha256 alloc allocRoles data = none ↔ ∃ input, arrayOf INPUT_BYTES data = some input ∧
      ((∃ entry ∈ (bodies input).zipIdx, alloc entry.2 entry.1.encodedLength = false) ∨
        (∃ w ∈ bodies input, allZero (sha256 (resourcePreimage w)) = true) ∨
        (∃ w ∈ bodies input, ∃ w' ∈ bodies input, sha256 (resourcePreimage w) = sha256 (resourcePreimage w') ∧
          resourcePreimage w ≠ resourcePreimage w') ∨
        ∃ role, allocRoles role (listedCount input role) = false) := by
  rw [fuzzTarget]
  cases arrayOf INPUT_BYTES data with
  | none => simp
  | some input =>
    have hthrough : Through sha256 alloc allocRoles input ↔
        ((∀ entry ∈ (bodies input).zipIdx, alloc entry.2 entry.1.encodedLength = true) ∧
          ∀ w ∈ bodies input, allZero (sha256 (resourcePreimage w)) = false) ∧
        (∀ w ∈ bodies input, ∀ w' ∈ bodies input,
          sha256 (resourcePreimage w) = sha256 (resourcePreimage w') →
            resourcePreimage w = resourcePreimage w') ∧
        ∀ role, allocRoles role (listedCount input role) = true := by
      rw [← derived_iff, ← distinct_iff]
      exact ⟨fun h => ⟨h.derived, h.distinct, h.granted⟩, fun h => ⟨h.1, h.2.1, h.2.2⟩⟩
    simp only [Option.some.injEq, exists_eq_left', eq_none_iff, checkInput_eq_some, hthrough]
    simp only [not_and_or, not_forall, exists_prop, Bool.not_eq_true, Bool.not_eq_false, ne_eq,
      or_assoc]

end Zrm.L7.RoleBound
