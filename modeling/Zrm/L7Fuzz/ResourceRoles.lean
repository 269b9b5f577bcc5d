import Mathlib.Data.List.Rotate
import Zrm.L4Kernel.Lookup
import Zrm.L7Fuzz.Harness

/-!
# The resource-role target (`fuzz_targets/resource_roles_v1.rs`)

The target parses limits and three lists of ids, calls the kernel on them, and compares. It
states the rules of a partition a second time, without the kernel's sorting and its checks,
and calls the kernel again: for the same lists, for the reversed and for the rotated ones.

The allocator is the only thing from outside, and every reply of it is a parameter.
`reserve role n` answers the `try_reserve_exact` of the target's own vector for a role, and
`alloc call role n` the one in the kernel for a role, where `call` counts the kernel's calls:
0 and 1 for the two runs that are compared, 2 for the reversed lists, 3 for the rotated ones.
No reply is assumed to agree with another. `clone` aborts where it is refused memory; that
is left out. A failed assertion is `none` (`Harness`).

Results:
* `expectedPartitionResult_eq`: the second statement of the rules agrees with the kernel's.
* `assertSuccessProperties_eq_some`: what is asserted of a partition holds, if the kernel gets
  its memory for the rearranged lists.
* `roles_target_exact`: the target panics if and only if it parses an admissible request and
  one of the four calls is refused memory.
-/
namespace Zrm.L7.ResourceRoles

open Zrm.BigEndian Zrm.Result Zrm.Placement Harness L1.Ids L1.Scalar L3.Limits L4.Roles

/-! ## Parsing -/

def HEADER_BYTES : Nat := 12
def RESOURCE_ID_BYTES : Nat := 32
def MAX_ROLE_INPUTS : Nat := 257

/-- mirrors fuzz/fuzz_targets/resource_roles_v1.rs:15-20 -/
structure ResourceRolesFuzzInput where
  limits : PolicyLimitsV1
  consumed : List ResourceId
  referenced : List ResourceId
  created : List ResourceId
  deriving DecidableEq

/-- mirrors fuzz/fuzz_targets/resource_roles_v1.rs:23-29 -/
def ResourceRolesFuzzInput.candidate (input : ResourceRolesFuzzInput) : ResourceRoleListsCandidateV1 :=
  { consumed := input.consumed, referenced := input.referenced, created := input.created }

/-- mirrors fuzz/fuzz_targets/resource_roles_v1.rs:38-43; the rest is the new `remaining`. -/
def takePrefix (remaining : List UInt8) (length : Nat) : Option (List UInt8 × List UInt8) :=
  if length ≤ remaining.length then some (remaining.take length, remaining.drop length) else none

/-- `bytes.chunks_exact(size)` -/
def chunksExact (size : Nat) (bytes : List UInt8) : List (List UInt8) :=
  (List.range (bytes.length / size)).map fun i => (bytes.drop (i * size)).take size

/-- `reserve` answers `try_reserve_exact`.
mirrors fuzz/fuzz_targets/resource_roles_v1.rs:45-55 -/
def parseIds (reserve : Nat → Bool) (remaining : List UInt8) (count : Nat) :
    Option (List ResourceId × List UInt8) := do
  let (bytes, remaining) ← takePrefix remaining (count * RESOURCE_ID_BYTES)
  guard (reserve count)
  let identifiers ← (chunksExact RESOURCE_ID_BYTES bytes).mapM fun chunk => do
    let candidate ← arrayOf 32 chunk
    opaqueOf candidate
  return (identifiers, remaining)

/-- The three calls of `parse_ids` are those of the roles, and each has an answer of its own.
mirrors fuzz/fuzz_targets/resource_roles_v1.rs:57-100 -/
def parseInput (reserve : ResourceRoleV1 → Nat → Bool) (data : List UInt8) : Option ResourceRolesFuzzInput := do
  let consumedLimit ← readU16 data 0
  let referencedLimit ← readU16 data 2
  let createdLimit ← readU16 data 4
  let consumedCount := (← readU16 data 6).toNat
  let referencedCount := (← readU16 data 8).toNat
  let createdCount := (← readU16 data 10).toNat
  let counts := [consumedCount, referencedCount, createdCount]
  guard (counts.all fun count => count ≤ MAX_ROLE_INPUTS)
  guard (data.length = HEADER_BYTES + counts.sum * RESOURCE_ID_BYTES)
  let limits ← (PolicyLimitsV1.tryFrom { PolicyLimitsV1.strictDefault.asCandidate with
    maxConsumedResources := consumedLimit
    maxReferencedResources := referencedLimit
    maxCreatedResources := createdLimit }).toOption
  let remaining := data.drop HEADER_BYTES
  let (consumed, remaining) ← parseIds (reserve .consumed) remaining consumedCount
  let (referenced, remaining) ← parseIds (reserve .referenced) remaining referencedCount
  let (created, remaining) ← parseIds (reserve .created) remaining createdCount
  guard (remaining = [])
  return { limits, consumed, referenced, created }

/-! ## The second statement of the rules -/

/-- mirrors fuzz/fuzz_targets/resource_roles_v1.rs:102-126 -/
def firstCountError (input : ResourceRolesFuzzInput) : Option ResourceRolePartitionErrorV1 :=
  let roleCounts := [(ResourceRoleV1.consumed, input.consumed.length, input.limits.maxConsumedResources),
    (.referenced, input.referenced.length, input.limits.maxReferencedResources),
    (.created, input.created.length, input.limits.maxCreatedResources)]
  (roleCounts.find? fun (_, actual, maximum) => actual > maximum.toNat).map
    fun (role, _, maximum) => .countLimitExceeded role maximum

/-- mirrors fuzz/fuzz_targets/resource_roles_v1.rs:128-135 -/
def hasUnsortedDuplicate (resources : List ResourceId) : Bool :=
  resources.zipIdx.any fun (resourceId, position) =>
    (resources.drop (position + 1)).any fun candidate => candidate == resourceId

/-- mirrors fuzz/fuzz_targets/resource_roles_v1.rs:137-147 -/
def firstDuplicateError (input : ResourceRolesFuzzInput) : Option ResourceRolePartitionErrorV1 :=
  let roles := [(ResourceRoleV1.consumed, input.consumed), (.referenced, input.referenced),
    (.created, input.created)]
  (roles.find? fun (_, resources) => hasUnsortedDuplicate resources).map
    fun (role, _) => .duplicateResourceId role

/-- mirrors fuzz/fuzz_targets/resource_roles_v1.rs:149-153 -/
def hasUnsortedCollision (first second : List ResourceId) : Bool :=
  first.any fun resourceId => second.any fun candidate => candidate == resourceId

/-- mirrors fuzz/fuzz_targets/resource_roles_v1.rs:155-185 -/
def firstCollisionError (input : ResourceRolesFuzzInput) : Option ResourceRolePartitionErrorV1 :=
  let rolePairs := [(ResourceRoleV1.consumed, input.consumed, ResourceRoleV1.referenced, input.referenced),
    (.consumed, input.consumed, .created, input.created),
    (.referenced, input.referenced, .created, input.created)]
  (rolePairs.find? fun (_, first, _, second) => hasUnsortedCollision first second).map
    fun (firstRole, _, secondRole, _) => .resourceRoleCollision firstRole secondRole

/-- mirrors fuzz/fuzz_targets/resource_roles_v1.rs:187-194 -/
def expectedPartitionResult (input : ResourceRolesFuzzInput) : Except ResourceRolePartitionErrorV1 Unit :=
  match (firstCountError input).or ((firstDuplicateError input).or (firstCollisionError input)) with
  | some e => .error e
  | none => .ok ()

/-! ## Assertions -/

/-- `resources.is_sorted()` -/
def isSorted (resources : List ResourceId) : Bool :=
  (resources.zip resources.tail).all fun (first, second) => first ≤ second

/-- `resources.windows(2)`, both elements different -/
def windowsDiffer (resources : List ResourceId) : Bool :=
  (resources.zip resources.tail).all fun (first, second) => first != second

/-- mirrors fuzz/fuzz_targets/resource_roles_v1.rs:196-220 -/
def assertRoleProperties (roles : CanonicalResourceRolesV1) (role : ResourceRoleV1)
    (resources : List ResourceId) (count : UInt16) : Option Unit := do
  assertThat (resources.length == count.toNat)
  assertThat (isSorted resources)
  assertThat (windowsDiffer resources)
  forM resources.zipIdx fun (resourceId, ordinal) => do
    let position ← roles.positionOf resourceId
    assertThat (position.map (fun p => (p.resourceId, p.role, p.ordinal)) ==
      some (resourceId, role, UInt32.ofNat ordinal))

/-- `resources.binary_search(target).is_err()` of a sorted slice -/
def absentFromSorted (resources : List ResourceId) (target : ResourceId) : Bool :=
  !resources.contains target

/-- mirrors fuzz/fuzz_targets/resource_roles_v1.rs:222-228 -/
def assertDisjoint (first second : List ResourceId) : Option Unit :=
  assertThat (first.all (absentFromSorted second))

/-- The kernel called once more, on rearranged lists. -/
def assertInvariance (alloc : ResourceRoleV1 → Nat → Bool) (rearrange : List ResourceId → List ResourceId)
    (input : ResourceRolesFuzzInput) (expected : CanonicalResourceRolesV1) : Option Unit := do
  let rearranged ← CanonicalResourceRolesV1.tryNew alloc
    { consumed := rearrange input.consumed
      referenced := rearrange input.referenced
      created := rearrange input.created } input.limits
  assertThat (decide (rearranged = .ok expected))

/-- mirrors fuzz/fuzz_targets/resource_roles_v1.rs:230-246 -/
def assertReversalInvariance (alloc : Nat → ResourceRoleV1 → Nat → Bool) (input : ResourceRolesFuzzInput)
    (expected : CanonicalResourceRolesV1) : Option Unit :=
  assertInvariance (alloc 2) List.reverse input expected

/-- mirrors fuzz/fuzz_targets/resource_roles_v1.rs:248-252 -/
def rotateIfNontrivial (resources : List ResourceId) : List ResourceId :=
  if resources.length > 1 then resources.rotate 1 else resources

/-- mirrors fuzz/fuzz_targets/resource_roles_v1.rs:254-273 -/
def assertPermutationInvariance (alloc : Nat → ResourceRoleV1 → Nat → Bool) (input : ResourceRolesFuzzInput)
    (expected : CanonicalResourceRolesV1) : Option Unit :=
  assertInvariance (alloc 3) rotateIfNontrivial input expected

/-- mirrors fuzz/fuzz_targets/resource_roles_v1.rs:275-299 -/
def assertSuccessProperties (alloc : Nat → ResourceRoleV1 → Nat → Bool) (input : ResourceRolesFuzzInput)
    (roles : CanonicalResourceRolesV1) : Option Unit := do
  assertRoleProperties roles .consumed roles.consumed roles.consumedCount
  assertRoleProperties roles .referenced roles.referenced roles.referencedCount
  assertRoleProperties roles .created roles.created roles.createdCount
  assertDisjoint roles.consumed roles.referenced
  assertDisjoint roles.consumed roles.created
  assertDisjoint roles.referenced roles.created
  assertReversalInvariance alloc input roles
  assertPermutationInvariance alloc input roles

/-- mirrors fuzz/fuzz_targets/resource_roles_v1.rs:301-313, behind the parser -/
def checkInput (alloc : Nat → ResourceRoleV1 → Nat → Bool) (input : ResourceRolesFuzzInput) : Option Unit := do
  let first ← CanonicalResourceRolesV1.tryNew (alloc 0) input.candidate input.limits
  let replay ← CanonicalResourceRolesV1.tryNew (alloc 1) input.candidate input.limits
  assertThat (decide (first = replay))
  assertThat (decide (first.map (fun _ => ()) = expectedPartitionResult input))
  match first with
  | .ok roles => assertSuccessProperties alloc input roles
  | .error _ => some ()

/-- mirrors fuzz/fuzz_targets/resource_roles_v1.rs:301-313 -/
def fuzzTarget (alloc : Nat → ResourceRoleV1 → Nat → Bool) (reserve : ResourceRoleV1 → Nat → Bool)
    (data : List UInt8) : Option Unit :=
  match parseInput reserve data with
  | none => some ()
  | some input => checkInput alloc input

/-! ## The two statements agree -/

theorem any_beq (resources : List ResourceId) (id : ResourceId) :
    (resources.any fun candidate => candidate == id) = resources.contains id := by
  rw [Bool.eq_iff_iff, List.contains_iff_mem, List.any_eq_true]
  simp only [beq_iff_eq, exists_eq_right]

theorem hasUnsortedDuplicate_eq (resources : List ResourceId) :
    hasUnsortedDuplicate resources = hasDuplicate resources := by
  -- the positions of a suffix count on from where it starts in the whole list
  have hsuffix : ∀ (suffix : List ResourceId) (start : Nat), resources.drop start = suffix →
      ((suffix.zipIdx start).any fun (id, position) =>
        (resources.drop (position + 1)).any fun candidate => candidate == id) = hasDuplicate suffix := by
    intro suffix
    induction suffix with
    | nil =>
      intro start _
      rfl
    | cons id tail ih =>
      intro start hdrop
      have htail : resources.drop (start + 1) = tail := by
        rw [← List.drop_drop, hdrop, List.drop_one, List.tail_cons]
      rw [List.zipIdx_cons, List.any_cons, ih (start + 1) htail, hasDuplicate_cons]
      dsimp only
      rw [htail, any_beq]
  exact hsuffix resources 0 List.drop_zero

theorem hasUnsortedCollision_eq (first second : List ResourceId) :
    hasUnsortedCollision first second = shareId first second := by
  rw [Bool.eq_iff_iff]
  simp only [hasUnsortedCollision, shareId, any_beq, List.any_eq_true, List.contains_iff_mem,
    decide_eq_true_eq]

variable {input : ResourceRolesFuzzInput}

theorem firstCountError_eq : firstCountError input =
    (rolePrecedence.find? (overLimit input.candidate input.limits)).map fun role =>
      .countLimitExceeded role (maximum input.limits role) := by
  have h : firstCountError input = ((rolePrecedence.map fun role =>
      (role, (input.candidate.list role).length, maximum input.limits role)).find?
        fun (_, actual, maximum) => actual > maximum.toNat).map
          fun (role, _, maximum) => .countLimitExceeded role maximum := rfl
  rw [h, List.find?_map, Option.map_map]
  rfl

theorem firstDuplicateError_eq : firstDuplicateError input =
    (rolePrecedence.find? (duplicated input.candidate)).map .duplicateResourceId := by
  have h : firstDuplicateError input = ((rolePrecedence.map fun role =>
      (role, input.candidate.list role)).find? fun (_, resources) => hasUnsortedDuplicate resources).map
        fun (role, _) => .duplicateResourceId role := rfl
  rw [h, List.find?_map, Option.map_map]
  simp only [hasUnsortedDuplicate_eq]
  rfl

theorem firstCollisionError_eq : firstCollisionError input =
    (pairPrecedence.find? (collides input.candidate)).map fun pair =>
      .resourceRoleCollision pair.1 pair.2 := by
  have h : firstCollisionError input = ((pairPrecedence.map fun pair =>
      (pair.1, input.candidate.list pair.1, pair.2, input.candidate.list pair.2)).find?
        fun (_, first, _, second) => hasUnsortedCollision first second).map
          fun (firstRole, _, secondRole, _) => .resourceRoleCollision firstRole secondRole := rfl
  rw [h, List.find?_map, Option.map_map]
  simp only [hasUnsortedCollision_eq]
  rfl

/-- The target and the kernel's rules name the same first error. -/
theorem expectedPartitionResult_eq (input : ResourceRolesFuzzInput) : expectedPartitionResult input =
    match roleError input.candidate input.limits with
    | some e => .error e
    | none => .ok () := by
  rw [expectedPartitionResult, firstCountError_eq, firstDuplicateError_eq, firstCollisionError_eq, roleError]
  cases rolePrecedence.find? (overLimit input.candidate input.limits) with
  | some role => rfl
  | none =>
    cases rolePrecedence.find? (duplicated input.candidate) with
    | some role => rfl
    | none =>
      cases pairPrecedence.find? (collides input.candidate) with
      | some pair => rfl
      | none => rfl

/-! ## The assertions hold -/

theorem ascending_windows {l : List ResourceId} (h : l.Pairwise (· < ·)) :
    ∀ pair ∈ l.zip l.tail, pair.1 < pair.2 := by
  induction l with
  | nil => nofun
  | cons id l ih =>
    obtain ⟨hid, hl⟩ := List.pairwise_cons.mp h
    cases l with
    | nil => nofun
    | cons next l =>
      intro pair hpair
      rw [List.tail_cons, List.zip_cons_cons, List.mem_cons] at hpair
      rcases hpair with rfl | hpair
      · exact hid next List.mem_cons_self
      · exact ih hl pair hpair

variable {roles : CanonicalResourceRolesV1}

theorem assertRoleProperties_ok (h : roles.Canonical) (role : ResourceRoleV1) :
    assertRoleProperties roles role (roles.list role) (roles.count role) = some () := by
  have hwindows := ascending_windows (h.ascending role)
  have hsorted : isSorted (roles.list role) = true :=
    List.all_eq_true.mpr fun pair hpair => decide_eq_true (hwindows pair hpair).le
  have hdiffer : windowsDiffer (roles.list role) = true :=
    List.all_eq_true.mpr fun pair hpair => bne_iff_ne.mpr (hwindows pair hpair).ne
  have hlength : ((roles.list role).length == (roles.count role).toNat) = true := by
    rw [h.count_eq role, beq_self_eq_true]
  rw [assertRoleProperties, hlength, hsorted, hdiffer]
  refine forM_eq_some.mpr fun entry hentry => ?_
  obtain ⟨id, ordinal⟩ := entry
  have hget : (roles.list role)[ordinal]? = some id := List.mk_mem_zipIdx_iff_getElem?.mp hentry
  have hlt : ordinal < 2 ^ 32 := by
    have hbound := (List.getElem?_eq_some_iff.mp hget).1
    rw [← h.count_eq role] at hbound
    exact Nat.lt_of_lt_of_le hbound ((h.count_le role).trans (by decide))
  have hposition : roles.positionOf id = some (some ⟨id, role, UInt32.ofNat ordinal⟩) :=
    (positionOf_eq_some h).mpr ⟨rfl, by rw [toNat_u32 hlt]; exact hget⟩
  simp [hposition]

theorem assertDisjoint_ok (h : roles.Canonical) {role role' : ResourceRoleV1} (hne : role ≠ role') :
    assertDisjoint (roles.list role) (roles.list role') = some () := by
  refine assertThat_eq_some.mpr (List.all_eq_true.mpr fun id hid => ?_)
  have hnot : id ∉ roles.list role' := h.disjoint role role' hne hid
  simpa [absentFromSorted] using hnot

/-- The host grants the kernel the memory of one call. -/
def Granted (alloc : ResourceRoleV1 → Nat → Bool) (input : ResourceRolesFuzzInput) : Prop :=
  ∀ role, alloc role (input.candidate.list role).length = true

theorem capacityError_eq_none {alloc : ResourceRoleV1 → Nat → Bool} {candidate : ResourceRoleListsCandidateV1} :
    capacityError alloc candidate = none ↔ ∀ role, alloc role (candidate.list role).length = true := by
  rw [capacityError, Option.map_eq_none_iff, find?_rolePrecedence]
  simp only [Bool.not_eq_false']

theorem tryNew_granted {alloc : ResourceRoleV1 → Nat → Bool} (h : Admissible input.candidate input.limits) :
    CanonicalResourceRolesV1.tryNew alloc input.candidate input.limits =
        returned (.ok (canonicalRoles input.candidate)) ↔ Granted alloc input := by
  rw [tryNew_eq_ok, capacityError_eq_none, Granted]
  exact ⟨fun hok => hok.2.1, fun hgranted => ⟨h, hgranted, rfl⟩⟩

/-- The kernel does not see the order of the ids. -/
theorem tryNew_rearranged {alloc : ResourceRoleV1 → Nat → Bool} {rearrange : List ResourceId → List ResourceId}
    (hperm : ∀ ids, (rearrange ids).Perm ids) :
    CanonicalResourceRolesV1.tryNew alloc
        { consumed := rearrange input.consumed
          referenced := rearrange input.referenced
          created := rearrange input.created } input.limits =
      CanonicalResourceRolesV1.tryNew alloc input.candidate input.limits := by
  have hlists : ∀ role, (ResourceRoleListsCandidateV1.list
      { consumed := rearrange input.consumed
        referenced := rearrange input.referenced
        created := rearrange input.created } role).Perm (input.candidate.list role) := by
    intro role
    cases role
    · exact hperm input.consumed
    · exact hperm input.referenced
    · exact hperm input.created
  rw [tryNew_eq, tryNew_eq, outcome, outcome, roleError_perm hlists, capacityError_perm hlists,
    canonicalRoles_eq_of_perm hlists]

theorem assertInvariance_eq_some {alloc : ResourceRoleV1 → Nat → Bool}
    {rearrange : List ResourceId → List ResourceId} (hperm : ∀ ids, (rearrange ids).Perm ids)
    (h : Admissible input.candidate input.limits) :
    assertInvariance alloc rearrange input (canonicalRoles input.candidate) = some () ↔
      Granted alloc input := by
  rw [assertInvariance, tryNew_rearranged hperm, ← tryNew_granted h, tryNew_eq, returned_inj]
  show assertThat (decide _) = some () ↔ _
  rw [assertThat_eq_some, decide_eq_true_eq]

theorem rotateIfNontrivial_perm (ids : List ResourceId) : (rotateIfNontrivial ids).Perm ids := by
  unfold rotateIfNontrivial
  split
  · exact List.rotate_perm ids 1
  · exact .refl ids

theorem unit_bind_eq_some {x : Option Unit} {f : Unit → Option Unit} :
    (x >>= f) = some () ↔ x = some () ∧ f () = some () := by
  cases x <;> simp

theorem assertSuccessProperties_eq_some {alloc : Nat → ResourceRoleV1 → Nat → Bool}
    (h : Admissible input.candidate input.limits) :
    assertSuccessProperties alloc input (canonicalRoles input.candidate) = some () ↔
      Granted (alloc 2) input ∧ Granted (alloc 3) input := by
  have hroles := canonicalRoles_canonical h
  have hconsumed := assertRoleProperties_ok hroles .consumed
  have hreferenced := assertRoleProperties_ok hroles .referenced
  have hcreated := assertRoleProperties_ok hroles .created
  have hcr := @assertDisjoint_ok _ hroles .consumed .referenced (by decide)
  have hco := @assertDisjoint_ok _ hroles .consumed .created (by decide)
  have hro := @assertDisjoint_ok _ hroles .referenced .created (by decide)
  simp only [CanonicalResourceRolesV1.list, CanonicalResourceRolesV1.count] at hconsumed hreferenced hcreated hcr hco hro
  rw [assertSuccessProperties, hconsumed, hreferenced, hcreated, hcr, hco, hro]
  simp only [Option.bind_eq_bind, Option.bind_some]
  rw [← Option.bind_eq_bind, unit_bind_eq_some, assertReversalInvariance, assertPermutationInvariance,
    assertInvariance_eq_some List.reverse_perm h, assertInvariance_eq_some rotateIfNontrivial_perm h]

/-- The two calls return, and what they return is compared. -/
theorem checkInput_eq (alloc : Nat → ResourceRoleV1 → Nat → Bool) (input : ResourceRolesFuzzInput) :
    checkInput alloc input = (do
      let first := outcome (alloc 0) input.candidate input.limits
      assertThat (decide (first = outcome (alloc 1) input.candidate input.limits))
      assertThat (decide (first.map (fun _ => ()) = expectedPartitionResult input))
      match first with
      | .ok roles => assertSuccessProperties alloc input roles
      | .error _ => some ()) := by
  rw [checkInput, tryNew_eq, tryNew_eq]
  rfl

/-- With a broken rule the target ends: both calls name the first one. -/
theorem checkInput_refused {alloc : Nat → ResourceRoleV1 → Nat → Bool}
    (h : ¬ Admissible input.candidate input.limits) : checkInput alloc input = some () := by
  obtain ⟨e, he⟩ := Option.ne_none_iff_exists'.mp (mt roleError_eq_none.mp h)
  have houtcome : ∀ call, outcome (alloc call) input.candidate input.limits = .error e := by
    intro call
    rw [outcome, he]
  have hexpected : expectedPartitionResult input = .error e := by
    rw [expectedPartitionResult_eq, he]
  rw [checkInput_eq, houtcome, houtcome, hexpected]
  simp [Except.map]

/-- Without a broken rule it ends if and only if the kernel gets its memory each time. -/
theorem checkInput_admissible {alloc : Nat → ResourceRoleV1 → Nat → Bool}
    (h : Admissible input.candidate input.limits) :
    checkInput alloc input = some () ↔ ∀ call < 4, Granted (alloc call) input := by
  have hexpected : expectedPartitionResult input = .ok () := by
    rw [expectedPartitionResult_eq, roleError_eq_none.mpr h]
  have houtcome : ∀ call, outcome (alloc call) input.candidate input.limits =
      .ok (canonicalRoles input.candidate) ↔ Granted (alloc call) input := by
    intro call
    rw [← tryNew_granted h, tryNew_eq, returned_inj]
  have hcalls : (∀ call < 4, Granted (alloc call) input) ↔ Granted (alloc 0) input ∧
      Granted (alloc 1) input ∧ Granted (alloc 2) input ∧ Granted (alloc 3) input := by
    simp only [Nat.forall_lt_succ_left, Nat.not_lt_zero, IsEmpty.forall_iff, implies_true, and_true,
      Nat.reduceAdd, Nat.zero_add]
  rw [hcalls, checkInput_eq, hexpected]
  simp only [unit_bind_eq_some, assertThat_eq_some, decide_eq_true_eq]
  refine ⟨fun hchecks => ?_, fun hgranted => ?_⟩
  · obtain ⟨hreplay, hfirst, hsuccess⟩ := hchecks
    cases hout : outcome (alloc 0) input.candidate input.limits with
    | error e =>
      rw [hout] at hfirst
      cases hfirst
    | ok roles =>
      obtain rfl : roles = canonicalRoles input.candidate := by
        have hok : CanonicalResourceRolesV1.tryNew (alloc 0) input.candidate input.limits =
            returned (.ok roles) := by rw [tryNew_eq, hout]
        exact (tryNew_eq_ok.mp hok).2.2
      rw [hout] at hreplay hsuccess
      exact ⟨(houtcome 0).mp hout, (houtcome 1).mp hreplay.symm,
        (assertSuccessProperties_eq_some h).mp hsuccess⟩
  · obtain ⟨hfirst, hreplay, hrearranged⟩ := hgranted
    rw [(houtcome 0).mpr hfirst, (houtcome 1).mpr hreplay]
    exact ⟨rfl, rfl, (assertSuccessProperties_eq_some h).mpr hrearranged⟩

/-- **The target panics only where the kernel is refused memory**: on no input at all, however
it was made, do the kernel and the rules of the target part ways. -/
theorem roles_target_exact (alloc : Nat → ResourceRoleV1 → Nat → Bool)
    (reserve : ResourceRoleV1 → Nat → Bool) (data : List UInt8) :
    fuzzTarget alloc reserve data = none ↔ ∃ input, parseInput reserve data = some input ∧
      Admissible input.candidate input.limits ∧
        ∃ call < 4, ∃ role, alloc call role (input.candidate.list role).length = false := by
  rw [fuzzTarget]
  cases hparse : parseInput reserve data with
  | none => simp
  | some input =>
    simp only [Option.some.injEq, exists_eq_left', eq_none_iff]
    by_cases h : Admissible input.candidate input.limits
    · simp [checkInput_admissible h, h, Granted]
    · simp [checkInput_refused h, h]

end Zrm.L7.ResourceRoles
