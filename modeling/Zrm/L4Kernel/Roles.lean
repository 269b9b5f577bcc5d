import Zrm.Core.ScanLoop
import Zrm.L1Types.Opaque
import Zrm.L1Types.Scalar
import Zrm.L3Policy.Limits

/-!
# Canonical resource roles (`zrm-kernel/src/resource_roles.rs`)

The three role lists, their checks and the insertion sort, as the source
computes them. The two index loops run on a saturating `u16` counter and
`Vec::insert` panics beyond the end, so construction is a `Run`: it might not
return. Whether the host grants a role's reservation is the parameter `alloc`.
-/
namespace Zrm.L4.Roles
open Zrm.Result Zrm.ScanLoop Zrm.L1.Ids Zrm.L1.Scalar Zrm.L3.Limits

/-- mirrors crates/zrm-kernel/src/resource_roles.rs:13-20 -/
inductive ResourceRoleV1
  | consumed | referenced | created
  deriving DecidableEq, Repr

/-- mirrors crates/zrm-kernel/src/resource_roles.rs:27-34 -/
structure ResourceRoleListsCandidateV1 where
  consumed : List ResourceId
  referenced : List ResourceId
  created : List ResourceId
  deriving DecidableEq

/-- mirrors crates/zrm-kernel/src/resource_roles.rs:42-67 -/
inductive ResourceRolePartitionErrorV1
  | countLimitExceeded (role : ResourceRoleV1) (maximum : UInt16)
  | capacityUnavailable (role : ResourceRoleV1)
  | duplicateResourceId (role : ResourceRoleV1)
  | resourceRoleCollision (firstRole secondRole : ResourceRoleV1)
  deriving DecidableEq, Repr

/-- mirrors crates/zrm-kernel/src/resource_roles.rs:75-79 -/
structure ResourceRolePositionV1 where
  resourceId : ResourceId
  role : ResourceRoleV1
  ordinal : UInt32
  deriving DecidableEq

/-- mirrors crates/zrm-kernel/src/resource_roles.rs:107-114 -/
@[ext] structure CanonicalResourceRolesV1 where
  consumed : List ResourceId
  referenced : List ResourceId
  created : List ResourceId
  consumedCount : UInt16
  referencedCount : UInt16
  createdCount : UInt16
  deriving DecidableEq

/-- mirrors crates/zrm-kernel/src/resource_roles.rs:232-236 -/
structure ResourceRoleCountsV1 where
  consumed : UInt16
  referenced : UInt16
  created : UInt16

/-! ## Checks on the borrowed lists -/

/-- mirrors crates/zrm-kernel/src/resource_roles.rs:264-275 -/
def validateRoleCount (actual : Nat) (role : ResourceRoleV1) (maximum : UInt16) :
    Except ResourceRolePartitionErrorV1 UInt16 :=
  match u16TryFrom actual with
  | none => .error (.countLimitExceeded role maximum)
  | some normalized =>
    if normalized > maximum then .error (.countLimitExceeded role maximum) else .ok normalized

/-- mirrors crates/zrm-kernel/src/resource_roles.rs:238-262 -/
def validateCountBounds (candidate : ResourceRoleListsCandidateV1) (limits : PolicyLimitsV1) :
    Except ResourceRolePartitionErrorV1 ResourceRoleCountsV1 := do
  let consumed ← validateRoleCount candidate.consumed.length .consumed limits.maxConsumedResources
  let referenced ←
    validateRoleCount candidate.referenced.length .referenced limits.maxReferencedResources
  let created ← validateRoleCount candidate.created.length .created limits.maxCreatedResources
  return { consumed, referenced, created }

/-- mirrors crates/zrm-kernel/src/resource_roles.rs:313-325 -/
def validateDuplicates (role : ResourceRoleV1) :
    List ResourceId → Except ResourceRolePartitionErrorV1 Unit
  | [] => .ok ()
  | resourceId :: tail =>
    if tail.contains resourceId then .error (.duplicateResourceId role)
    else validateDuplicates role tail

/-- mirrors crates/zrm-kernel/src/resource_roles.rs:327-342 -/
def validateDisjoint (second : List ResourceId) (firstRole secondRole : ResourceRoleV1) :
    List ResourceId → Except ResourceRolePartitionErrorV1 Unit
  | [] => .ok ()
  | resourceId :: first =>
    if second.contains resourceId then .error (.resourceRoleCollision firstRole secondRole)
    else validateDisjoint second firstRole secondRole first

/-! ## Copy and sort -/

/-- mirrors crates/zrm-kernel/src/resource_roles.rs:289-300 -/
def insertionPosition (resources : List ResourceId) (resourceId : ResourceId) : Option Nat :=
  (scan resources fun current => decide (current > resourceId)).map fun r => r.1.toNat

/-- `Vec::insert`: panics if `position > len`. -/
def vecInsert (resources : List ResourceId) (position : Nat) (resourceId : ResourceId) :
    Option (List ResourceId) :=
  if position ≤ resources.length then some (resources.insertIdx position resourceId) else none

/-- mirrors crates/zrm-kernel/src/resource_roles.rs:302-311 -/
def reserveRoleCapacity (alloc : ResourceRoleV1 → Nat → Bool) (role : ResourceRoleV1) (count : Nat) :
    Except ResourceRolePartitionErrorV1 (List ResourceId) :=
  if alloc role count then .ok [] else .error (.capacityUnavailable role)

/-- The body of the loop of `copy_and_sort`. -/
def insertSorted (canonical : List ResourceId) (resourceId : ResourceId) :
    Run ResourceRolePartitionErrorV1 (List ResourceId) := do
  let position ← awaiting (insertionPosition canonical resourceId)
  awaiting (vecInsert canonical position resourceId)

/-- mirrors crates/zrm-kernel/src/resource_roles.rs:277-287 -/
def copyAndSort (alloc : ResourceRoleV1 → Nat → Bool) (role : ResourceRoleV1)
    (candidates : List ResourceId) : Run ResourceRolePartitionErrorV1 (List ResourceId) := do
  let canonical ← returned (reserveRoleCapacity alloc role candidates.length)
  candidates.foldlM insertSorted canonical

/-- mirrors crates/zrm-kernel/src/resource_roles.rs:140-180 -/
def CanonicalResourceRolesV1.tryNew (alloc : ResourceRoleV1 → Nat → Bool)
    (candidate : ResourceRoleListsCandidateV1) (limits : PolicyLimitsV1) :
    Run ResourceRolePartitionErrorV1 CanonicalResourceRolesV1 := do
  let counts ← returned (validateCountBounds candidate limits)
  returned (validateDuplicates .consumed candidate.consumed)
  returned (validateDuplicates .referenced candidate.referenced)
  returned (validateDuplicates .created candidate.created)
  returned (validateDisjoint candidate.referenced .consumed .referenced candidate.consumed)
  returned (validateDisjoint candidate.created .consumed .created candidate.consumed)
  returned (validateDisjoint candidate.created .referenced .created candidate.referenced)
  let consumed ← copyAndSort alloc .consumed candidate.consumed
  let referenced ← copyAndSort alloc .referenced candidate.referenced
  let created ← copyAndSort alloc .created candidate.created
  return {
    consumed, referenced, created
    consumedCount := counts.consumed
    referencedCount := counts.referenced
    createdCount := counts.created }

/-! ## Lookup -/

/-- mirrors crates/zrm-kernel/src/resource_roles.rs:344-363; the outer `none`
is a loop that never ends. -/
def positionIn (role : ResourceRoleV1) (resources : List ResourceId) (resourceId : ResourceId) :
    Option (Option ResourceRolePositionV1) :=
  (scan resources fun canonicalId => canonicalId == resourceId).map fun (ordinal, found) =>
    found.map fun canonicalId => { resourceId := canonicalId, role, ordinal := ordinal.toUInt32 }

/-- mirrors crates/zrm-kernel/src/resource_roles.rs:224-228 -/
def CanonicalResourceRolesV1.positionOf (roles : CanonicalResourceRolesV1) (resourceId : ResourceId) :
    Option (Option ResourceRolePositionV1) := do
  if let some position ← positionIn .consumed roles.consumed resourceId then
    return some position
  if let some position ← positionIn .referenced roles.referenced resourceId then
    return some position
  positionIn .created roles.created resourceId

/-! ## The role of a list -/

/-- The list a candidate proposes for a role. -/
def ResourceRoleListsCandidateV1.list (candidate : ResourceRoleListsCandidateV1) :
    ResourceRoleV1 → List ResourceId
  | .consumed => candidate.consumed
  | .referenced => candidate.referenced
  | .created => candidate.created

def CanonicalResourceRolesV1.list (roles : CanonicalResourceRolesV1) : ResourceRoleV1 → List ResourceId
  | .consumed => roles.consumed
  | .referenced => roles.referenced
  | .created => roles.created

def CanonicalResourceRolesV1.count (roles : CanonicalResourceRolesV1) : ResourceRoleV1 → UInt16
  | .consumed => roles.consumedCount
  | .referenced => roles.referencedCount
  | .created => roles.createdCount

/-- The policy limit of a role. -/
def maximum (limits : PolicyLimitsV1) : ResourceRoleV1 → UInt16
  | .consumed => limits.maxConsumedResources
  | .referenced => limits.maxReferencedResources
  | .created => limits.maxCreatedResources

theorem maximum_le (limits : PolicyLimitsV1) (role : ResourceRoleV1) :
    (maximum limits role).toNat ≤ 256 := by
  obtain ⟨hconsumed, hreferenced, hcreated⟩ := limits.maxResources_le
  cases role
  · exact hconsumed
  · exact hreferenced
  · exact hcreated

end Zrm.L4.Roles
