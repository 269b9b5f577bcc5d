import Zrm.Core.Placement
import Zrm.L4Kernel.Roles

/-!
# Canonical partitioning

`roleError` states the structural rules and their precedence, and
`canonicalRoles` the value they promise: each list sorted, its length kept.

* `tryNew_eq`: construction always returns, with exactly that outcome.
* `tryNew_spec`: its errors and successes, reservations granted.
* `tryNew_invariant`: what holds of every accepted partition.
* `tryNew_canonical`: the partition depends on the three sets alone.
-/
namespace Zrm.L4.Roles
open Zrm.Result Zrm.ScanLoop Zrm.Placement Zrm.L1.Ids Zrm.L1.Scalar Zrm.L3.Limits

/-! ## The rules -/

/-- The roles and their pairs in normative precedence. -/
def rolePrecedence : List ResourceRoleV1 := [.consumed, .referenced, .created]

def pairPrecedence : List (ResourceRoleV1 × ResourceRoleV1) :=
  [(.consumed, .referenced), (.consumed, .created), (.referenced, .created)]

/-- More ids than the policy admits. -/
def overLimit (candidate : ResourceRoleListsCandidateV1) (limits : PolicyLimitsV1)
    (role : ResourceRoleV1) : Bool := (maximum limits role).toNat < (candidate.list role).length

/-- Some id twice in the list. -/
def hasDuplicate (ids : List ResourceId) : Bool := ¬ ids.Nodup

/-- Some id in both lists. -/
def shareId (first second : List ResourceId) : Bool := ∃ id ∈ first, id ∈ second

def duplicated (candidate : ResourceRoleListsCandidateV1) (role : ResourceRoleV1) : Bool :=
  hasDuplicate (candidate.list role)

def collides (candidate : ResourceRoleListsCandidateV1) (pair : ResourceRoleV1 × ResourceRoleV1) :
    Bool := shareId (candidate.list pair.1) (candidate.list pair.2)

/-- The first rule a candidate breaks: counts, then duplicates, then collisions. -/
def roleError (candidate : ResourceRoleListsCandidateV1) (limits : PolicyLimitsV1) :
    Option ResourceRolePartitionErrorV1 :=
  match rolePrecedence.find? (overLimit candidate limits) with
  | some role => some (.countLimitExceeded role (maximum limits role))
  | none =>
    match rolePrecedence.find? (duplicated candidate) with
    | some role => some (.duplicateResourceId role)
    | none =>
      match pairPrecedence.find? (collides candidate) with
      | some pair => some (.resourceRoleCollision pair.1 pair.2)
      | none => none

/-- The first role whose reservation the host refuses. -/
def capacityError (alloc : ResourceRoleV1 → Nat → Bool) (candidate : ResourceRoleListsCandidateV1) :
    Option ResourceRolePartitionErrorV1 :=
  (rolePrecedence.find? fun role => !alloc role (candidate.list role).length).map .capacityUnavailable

/-- The ids of a list in ascending order. -/
def sorted (ids : List ResourceId) : List ResourceId := ids.insertionSort (· ≤ ·)

def canonicalRoles (candidate : ResourceRoleListsCandidateV1) : CanonicalResourceRolesV1 where
  consumed := sorted candidate.consumed
  referenced := sorted candidate.referenced
  created := sorted candidate.created
  consumedCount := UInt16.ofNat candidate.consumed.length
  referencedCount := UInt16.ofNat candidate.referenced.length
  createdCount := UInt16.ofNat candidate.created.length

/-- What `try_new` returns. -/
def outcome (alloc : ResourceRoleV1 → Nat → Bool) (candidate : ResourceRoleListsCandidateV1)
    (limits : PolicyLimitsV1) : Except ResourceRolePartitionErrorV1 CanonicalResourceRolesV1 :=
  match roleError candidate limits with
  | some e => .error e
  | none =>
    match capacityError alloc candidate with
    | some e => .error e
    | none => .ok (canonicalRoles candidate)

/-! ## The checks -/

theorem validateRoleCount_eq (actual : Nat) (role : ResourceRoleV1) (max : UInt16) :
    validateRoleCount actual role max =
      if max.toNat < actual then .error (.countLimitExceeded role max)
      else .ok (UInt16.ofNat actual) := by
  have hmax := max.toNat_lt
  unfold validateRoleCount
  by_cases hwide : actual < 2 ^ 16
  · rw [u16TryFrom_of_lt hwide]
    simp only [gt_iff_lt, UInt16.lt_iff_toNat_lt, toNat_u16 hwide]
  · rw [u16TryFrom, if_neg hwide, if_pos (by omega)]

theorem validateCountBounds_eq (candidate : ResourceRoleListsCandidateV1) (limits : PolicyLimitsV1) :
    validateCountBounds candidate limits =
      match rolePrecedence.find? (overLimit candidate limits) with
      | some role => .error (.countLimitExceeded role (maximum limits role))
      | none => .ok {
          consumed := UInt16.ofNat candidate.consumed.length
          referenced := UInt16.ofNat candidate.referenced.length
          created := UInt16.ofNat candidate.created.length } := by
  unfold validateCountBounds rolePrecedence overLimit
  simp only [validateRoleCount_eq, List.find?_cons, List.find?_nil, maximum,
    ResourceRoleListsCandidateV1.list]
  by_cases h1 : limits.maxConsumedResources.toNat < candidate.consumed.length
  · simp [h1]
  · by_cases h2 : limits.maxReferencedResources.toNat < candidate.referenced.length
    · simp [h1, h2]
    · by_cases h3 : limits.maxCreatedResources.toNat < candidate.created.length <;> simp [h1, h2, h3]

theorem hasDuplicate_cons (id : ResourceId) (tail : List ResourceId) :
    hasDuplicate (id :: tail) = (tail.contains id || hasDuplicate tail) := by
  rw [Bool.eq_iff_iff]
  simp only [hasDuplicate, List.nodup_cons, Bool.or_eq_true, List.contains_iff_mem,
    decide_eq_true_eq]
  tauto

theorem shareId_cons (id : ResourceId) (first second : List ResourceId) :
    shareId (id :: first) second = (second.contains id || shareId first second) := by
  rw [Bool.eq_iff_iff]
  simp only [shareId, List.mem_cons, exists_eq_or_imp, Bool.or_eq_true, List.contains_iff_mem,
    decide_eq_true_eq]

theorem validateDuplicates_eq (role : ResourceRoleV1) (ids : List ResourceId) :
    validateDuplicates role ids =
      if hasDuplicate ids then .error (.duplicateResourceId role) else .ok () := by
  induction ids with
  | nil => rfl
  | cons id tail ih =>
    unfold validateDuplicates
    rw [hasDuplicate_cons, ih]
    cases tail.contains id <;> rfl

theorem validateDisjoint_eq (second : List ResourceId) (firstRole secondRole : ResourceRoleV1)
    (first : List ResourceId) :
    validateDisjoint second firstRole secondRole first =
      if shareId first second then .error (.resourceRoleCollision firstRole secondRole) else .ok () := by
  induction first with
  | nil => rfl
  | cons id first ih =>
    unfold validateDisjoint
    rw [shareId_cons, ih]
    cases second.contains id <;> rfl

/-! ## The sort -/

theorem insertionPosition_eq {ids : List ResourceId} (hlen : ids.length < 2 ^ 16) (id : ResourceId) :
    insertionPosition ids id = some (ids.findIdx (id < ·)) := by
  unfold insertionPosition
  rw [scan_eq hlen, Option.map_some]
  exact congrArg some (toNat_u16 (Nat.lt_of_le_of_lt List.findIdx_le_length hlen))

/-- One turn places the id; the position found is never beyond the end. -/
theorem insertSorted_eq {ids : List ResourceId} (hlen : ids.length < 2 ^ 16) (id : ResourceId) :
    insertSorted ids id = returned (.ok (place ids id)) := by
  unfold insertSorted vecInsert
  rw [insertionPosition_eq hlen, awaiting_some_bind, if_pos List.findIdx_le_length]
  rfl

theorem foldlM_insertSorted (ids acc : List ResourceId) (hlen : acc.length + ids.length < 2 ^ 16) :
    ids.foldlM insertSorted acc = returned (.ok (ids.foldl place acc)) := by
  induction ids generalizing acc with
  | nil => rfl
  | cons id ids ih =>
    rw [List.length_cons] at hlen
    have hplace : (place acc id).length = acc.length + 1 := (place_perm acc id).length_eq
    rw [List.foldlM_cons, insertSorted_eq (by omega), returned_ok_bind, ih _ (by omega)]
    rfl

theorem copyAndSort_eq (alloc : ResourceRoleV1 → Nat → Bool) (role : ResourceRoleV1)
    {ids : List ResourceId} (hlen : ids.length < 2 ^ 16) :
    copyAndSort alloc role ids =
      returned (if !alloc role ids.length then .error (.capacityUnavailable role)
        else .ok (sorted ids)) := by
  unfold copyAndSort reserveRoleCapacity
  cases alloc role ids.length
  · rfl
  · exact (foldlM_insertSorted ids [] (by simpa using hlen)).trans
      (congrArg (fun l => returned (.ok l)) (foldl_place ids))

/-! ## The outcome -/

/-- The three copies at the end of `try_new`. -/
def sortRoles (alloc : ResourceRoleV1 → Nat → Bool) (candidate : ResourceRoleListsCandidateV1) :
    Run ResourceRolePartitionErrorV1 CanonicalResourceRolesV1 := do
  let consumed ← copyAndSort alloc .consumed candidate.consumed
  let referenced ← copyAndSort alloc .referenced candidate.referenced
  let created ← copyAndSort alloc .created candidate.created
  return {
    consumed, referenced, created
    consumedCount := UInt16.ofNat candidate.consumed.length
    referencedCount := UInt16.ofNat candidate.referenced.length
    createdCount := UInt16.ofNat candidate.created.length }

theorem sortRoles_eq (alloc : ResourceRoleV1 → Nat → Bool) {candidate : ResourceRoleListsCandidateV1}
    (hlen : ∀ role, (candidate.list role).length < 2 ^ 16) :
    sortRoles alloc candidate = returned (
      match capacityError alloc candidate with
      | some e => .error e
      | none => .ok (canonicalRoles candidate)) := by
  have h1 := copyAndSort_eq alloc .consumed (hlen .consumed)
  have h2 := copyAndSort_eq alloc .referenced (hlen .referenced)
  have h3 := copyAndSort_eq alloc .created (hlen .created)
  simp only [ResourceRoleListsCandidateV1.list] at h1 h2 h3
  unfold sortRoles capacityError rolePrecedence
  simp only [h1, h2, h3, List.find?_cons, List.find?_nil, ResourceRoleListsCandidateV1.list]
  by_cases hc : alloc .consumed candidate.consumed.length = true
  · by_cases hr : alloc .referenced candidate.referenced.length = true
    · by_cases ho : alloc .created candidate.created.length = true
      · simp only [hc, hr, ho, Bool.not_true]; rfl
      · simp only [hc, hr, ho, Bool.not_true, Bool.not_false]; rfl
    · simp only [hc, hr, Bool.not_true, Bool.not_false]; rfl
  · simp only [hc, Bool.not_false]; rfl

/-- The duplicate and collision checks of `try_new`, as two chains. -/
theorem tryNew_checks (alloc : ResourceRoleV1 → Nat → Bool) (candidate : ResourceRoleListsCandidateV1)
    (limits : PolicyLimitsV1) :
    CanonicalResourceRolesV1.tryNew alloc candidate limits =
      match rolePrecedence.find? (overLimit candidate limits) with
      | some role => returned (.error (.countLimitExceeded role (maximum limits role)))
      | none =>
        checks (duplicated candidate) .duplicateResourceId rolePrecedence
          (checks (collides candidate) (fun pair => .resourceRoleCollision pair.1 pair.2) pairPrecedence
            (sortRoles alloc candidate)) := by
  unfold CanonicalResourceRolesV1.tryNew
  rw [validateCountBounds_eq]
  split
  · rfl
  · simp only [returned_ok_bind, validateDuplicates_eq, validateDisjoint_eq]
    rfl

theorem length_le_of_not_overLimit {candidate : ResourceRoleListsCandidateV1} {limits : PolicyLimitsV1}
    (h : rolePrecedence.find? (overLimit candidate limits) = none) (role : ResourceRoleV1) :
    (candidate.list role).length ≤ (maximum limits role).toNat := by
  have hmem : role ∈ rolePrecedence := by cases role <;> decide
  have hrole := List.find?_eq_none.mp h role hmem
  simpa [overLimit] using hrole

/-- **Construction always returns**, with the outcome of the rules. -/
theorem tryNew_eq (alloc : ResourceRoleV1 → Nat → Bool) (candidate : ResourceRoleListsCandidateV1)
    (limits : PolicyLimitsV1) :
    CanonicalResourceRolesV1.tryNew alloc candidate limits =
      returned (outcome alloc candidate limits) := by
  rw [tryNew_checks, checks_eq, checks_eq]
  unfold outcome roleError
  split
  · rfl
  · rename_i hcount
    have hlen : ∀ role, (candidate.list role).length < 2 ^ 16 := by
      intro role
      have hle := length_le_of_not_overLimit hcount role
      have hmax := maximum_le limits role
      omega
    cases rolePrecedence.find? (duplicated candidate) with
    | some role => rfl
    | none =>
      cases pairPrecedence.find? (collides candidate) with
      | some pair => rfl
      | none => exact sortRoles_eq alloc hlen

/-! ## Accepted candidates -/

/-- No rule is broken. -/
structure Admissible (candidate : ResourceRoleListsCandidateV1) (limits : PolicyLimitsV1) : Prop where
  bounded : ∀ role, (candidate.list role).length ≤ (maximum limits role).toNat
  nodup : ∀ role, (candidate.list role).Nodup
  disjoint : ∀ role role', role ≠ role' → (candidate.list role).Disjoint (candidate.list role')

theorem find?_rolePrecedence {p : ResourceRoleV1 → Bool} :
    rolePrecedence.find? p = none ↔ ∀ role, p role = false := by
  rw [List.find?_eq_none]
  refine ⟨fun h => ?_, fun h => ?_⟩
  · intro role
    exact Bool.eq_false_iff.mpr (h role (by cases role <;> decide))
  · intro role _
    rw [h role]; decide

theorem find?_collides {candidate : ResourceRoleListsCandidateV1} :
    pairPrecedence.find? (collides candidate) = none ↔
      ∀ role role', role ≠ role' → (candidate.list role).Disjoint (candidate.list role') := by
  have hpair : ∀ pair, ¬ collides candidate pair = true ↔
      (candidate.list pair.1).Disjoint (candidate.list pair.2) := by
    intro pair
    simp only [collides, shareId, decide_eq_true_eq, not_exists, not_and, List.Disjoint]
  rw [List.find?_eq_none]
  simp only [hpair, pairPrecedence, List.forall_mem_cons]
  constructor
  · intro hpairs role role' hne
    obtain ⟨hcr, hco, hro, -⟩ := hpairs
    match role, role' with
    | .consumed, .referenced => exact hcr
    | .consumed, .created => exact hco
    | .referenced, .created => exact hro
    | .referenced, .consumed => exact List.disjoint_symm hcr
    | .created, .consumed => exact List.disjoint_symm hco
    | .created, .referenced => exact List.disjoint_symm hro
    | .consumed, .consumed | .referenced, .referenced | .created, .created => exact absurd rfl hne
  · intro h
    exact ⟨h _ _ (by decide), h _ _ (by decide), h _ _ (by decide), fun _ hmem => nomatch hmem⟩

theorem roleError_eq_none {candidate : ResourceRoleListsCandidateV1} {limits : PolicyLimitsV1} :
    roleError candidate limits = none ↔ Admissible candidate limits := by
  unfold roleError
  refine ⟨fun h => ?_, fun h => ?_⟩
  · split at h
    · cases h
    · rename_i hcount
      split at h
      · cases h
      · rename_i hdup
        split at h
        · cases h
        · rename_i hdisjoint
          refine ⟨length_le_of_not_overLimit hcount, fun role => ?_, find?_collides.mp hdisjoint⟩
          simpa [duplicated, hasDuplicate] using find?_rolePrecedence.mp hdup role
  · have hcount : rolePrecedence.find? (overLimit candidate limits) = none :=
      find?_rolePrecedence.mpr fun role => by simpa [overLimit] using h.bounded role
    have hdup : rolePrecedence.find? (duplicated candidate) = none :=
      find?_rolePrecedence.mpr fun role => by simpa [duplicated, hasDuplicate] using h.nodup role
    rw [hcount, hdup, find?_collides.mpr h.disjoint]

theorem tryNew_eq_ok {alloc : ResourceRoleV1 → Nat → Bool} {candidate : ResourceRoleListsCandidateV1}
    {limits : PolicyLimitsV1} {p : CanonicalResourceRolesV1} :
    CanonicalResourceRolesV1.tryNew alloc candidate limits = returned (.ok p) ↔
      Admissible candidate limits ∧ capacityError alloc candidate = none ∧
        p = canonicalRoles candidate := by
  rw [tryNew_eq, returned_inj, outcome, ← roleError_eq_none]
  cases roleError candidate limits with
  | some e => simp
  | none =>
    cases capacityError alloc candidate with
    | some e => simp
    | none => simp [eq_comm]

/-- **Specification.** With the reservations granted, the first broken rule is
the error, and a candidate that breaks none is accepted. -/
theorem tryNew_spec (alloc : ResourceRoleV1 → Nat → Bool) (halloc : ∀ role count, alloc role count = true)
    (candidate : ResourceRoleListsCandidateV1) (limits : PolicyLimitsV1) :
    (∀ e, CanonicalResourceRolesV1.tryNew alloc candidate limits = returned (.error e) ↔
      roleError candidate limits = some e) ∧
    ((∃ p, CanonicalResourceRolesV1.tryNew alloc candidate limits = returned (.ok p)) ↔
      roleError candidate limits = none) := by
  have hcapacity : capacityError alloc candidate = none := by
    unfold capacityError
    rw [find?_rolePrecedence.mpr fun role => by rw [halloc]; rfl]
    rfl
  rw [tryNew_eq, outcome, hcapacity]
  simp only [returned_inj]
  cases roleError candidate limits <;> simp

/-- A candidate with a duplicate in a later role and a collision. -/
def doubleDefect : ResourceRoleListsCandidateV1 where
  consumed := [.repeated 2, .repeated 1]
  referenced := [.repeated 2]
  created := [.repeated 3, .repeated 3]

theorem tryNew_spec_doubleDefect :
    CanonicalResourceRolesV1.tryNew (fun _ _ => true) doubleDefect .strictDefault =
      returned (.error (.duplicateResourceId .created)) :=
  ((tryNew_spec (fun _ _ => true) (fun _ _ => rfl) doubleDefect .strictDefault).1 _).mpr (by decide)

/-! ## The accepted value -/

theorem sorted_perm (ids : List ResourceId) : (sorted ids).Perm ids := List.perm_insertionSort _ ids

@[simp] theorem canonicalRoles_list (candidate : ResourceRoleListsCandidateV1) (role : ResourceRoleV1) :
    (canonicalRoles candidate).list role = sorted (candidate.list role) := by
  cases role <;> rfl

@[simp] theorem canonicalRoles_count (candidate : ResourceRoleListsCandidateV1) (role : ResourceRoleV1) :
    (canonicalRoles candidate).count role = UInt16.ofNat (candidate.list role).length := by
  cases role <;> rfl

/-- What holds of every partition that was built. -/
structure CanonicalResourceRolesV1.Canonical (p : CanonicalResourceRolesV1) : Prop where
  ascending : ∀ role, (p.list role).Pairwise (· < ·)
  count_eq : ∀ role, (p.count role).toNat = (p.list role).length
  count_le : ∀ role, (p.count role).toNat ≤ 256
  disjoint : ∀ role role', role ≠ role' → (p.list role).Disjoint (p.list role')

theorem canonicalRoles_canonical {candidate : ResourceRoleListsCandidateV1} {limits : PolicyLimitsV1}
    (h : Admissible candidate limits) : (canonicalRoles candidate).Canonical := by
  have hlen : ∀ role, (candidate.list role).length ≤ 256 := fun role =>
    (h.bounded role).trans (maximum_le limits role)
  have hcount : ∀ role, ((canonicalRoles candidate).count role).toNat =
      (candidate.list role).length := by
    intro role
    rw [canonicalRoles_count, toNat_u16 (by have := hlen role; omega)]
  refine ⟨fun role => ?_, fun role => ?_, fun role => ?_, fun role role' hne => ?_⟩
  · rw [canonicalRoles_list]
    exact insertionSort_strict (h.nodup role)
  · rw [hcount, canonicalRoles_list, (sorted_perm _).length_eq]
  · rw [hcount]; exact hlen role
  · rw [canonicalRoles_list, canonicalRoles_list]
    exact fun id hid hid' => h.disjoint role role' hne ((sorted_perm _).mem_iff.mp hid)
      ((sorted_perm _).mem_iff.mp hid')

theorem canonicalRoles_perm (candidate : ResourceRoleListsCandidateV1) (role : ResourceRoleV1) :
    ((canonicalRoles candidate).list role).Perm (candidate.list role) := by
  rw [canonicalRoles_list]
  exact sorted_perm _

theorem canonical_of_tryNew {alloc : ResourceRoleV1 → Nat → Bool}
    {candidate : ResourceRoleListsCandidateV1} {limits : PolicyLimitsV1} {p : CanonicalResourceRolesV1}
    (h : CanonicalResourceRolesV1.tryNew alloc candidate limits = returned (.ok p)) : p.Canonical := by
  obtain ⟨hadmissible, -, rfl⟩ := tryNew_eq_ok.mp h
  exact canonicalRoles_canonical hadmissible

/-- **Representation invariant.** An accepted partition is canonical, holds
exactly the ids that were listed and respects the policy. -/
theorem tryNew_invariant {alloc : ResourceRoleV1 → Nat → Bool}
    {candidate : ResourceRoleListsCandidateV1} {limits : PolicyLimitsV1} {p : CanonicalResourceRolesV1}
    (h : CanonicalResourceRolesV1.tryNew alloc candidate limits = returned (.ok p)) :
    p.Canonical ∧
    (∀ role, (p.list role).Perm (candidate.list role)) ∧
    (∀ role, p.count role ≤ maximum limits role) := by
  have hcanonical := canonical_of_tryNew h
  obtain ⟨hadmissible, -, rfl⟩ := tryNew_eq_ok.mp h
  refine ⟨hcanonical, canonicalRoles_perm candidate, fun role => ?_⟩
  rw [UInt16.le_iff_toNat_le, hcanonical.count_eq, (canonicalRoles_perm candidate role).length_eq]
  exact hadmissible.bounded role

/-- Three ids, the consumed ones out of order. -/
def unsortedCandidate : ResourceRoleListsCandidateV1 where
  consumed := [.repeated 2, .repeated 1]
  referenced := []
  created := [.repeated 3]

theorem tryNew_unsortedCandidate :
    CanonicalResourceRolesV1.tryNew (fun _ _ => true) unsortedCandidate .strictDefault =
      returned (.ok (canonicalRoles unsortedCandidate)) :=
  tryNew_eq_ok.mpr ⟨roleError_eq_none.mp (by decide), rfl, rfl⟩

theorem tryNew_invariant_unsortedCandidate :
    (canonicalRoles unsortedCandidate).Canonical ∧
    (∀ role, ((canonicalRoles unsortedCandidate).list role).Perm (unsortedCandidate.list role)) ∧
    (∀ role, (canonicalRoles unsortedCandidate).count role ≤ maximum .strictDefault role) :=
  tryNew_invariant tryNew_unsortedCandidate

/-! ## Independence of the input order -/

theorem roleError_perm {c c' : ResourceRoleListsCandidateV1}
    (h : ∀ role, (c.list role).Perm (c'.list role)) (limits : PolicyLimitsV1) :
    roleError c limits = roleError c' limits := by
  have hover : overLimit c limits = overLimit c' limits := by
    funext role
    simp only [overLimit, (h role).length_eq]
  have hdup : duplicated c = duplicated c' := by
    funext role
    simp only [duplicated, hasDuplicate, (h role).nodup_iff]
  have hcollides : collides c = collides c' := by
    funext pair
    simp only [collides, shareId, (h pair.1).mem_iff, (h pair.2).mem_iff]
  unfold roleError
  rw [hover, hdup, hcollides]

theorem capacityError_perm {c c' : ResourceRoleListsCandidateV1}
    (h : ∀ role, (c.list role).Perm (c'.list role)) (alloc : ResourceRoleV1 → Nat → Bool) :
    capacityError alloc c = capacityError alloc c' := by
  simp only [capacityError, (h _).length_eq]

theorem canonicalRoles_eq_of_perm {c c' : ResourceRoleListsCandidateV1}
    (h : ∀ role, (c.list role).Perm (c'.list role)) : canonicalRoles c = canonicalRoles c' := by
  have hsorted : ∀ role, sorted (c.list role) = sorted (c'.list role) := fun role =>
    insertionSort_eq_iff_perm.mpr (h role)
  have hlength : ∀ role, (c.list role).length = (c'.list role).length := fun role => (h role).length_eq
  unfold canonicalRoles
  congr 1
  · exact hsorted .consumed
  · exact hsorted .referenced
  · exact hsorted .created
  · exact congrArg UInt16.ofNat (hlength .consumed)
  · exact congrArg UInt16.ofNat (hlength .referenced)
  · exact congrArg UInt16.ofNat (hlength .created)

theorem canonicalRoles_eq_iff {c c' : ResourceRoleListsCandidateV1} :
    canonicalRoles c = canonicalRoles c' ↔ ∀ role, (c.list role).Perm (c'.list role) := by
  refine ⟨fun h role => ?_, canonicalRoles_eq_of_perm⟩
  have hlist := congrArg (fun p => p.list role) h
  simp only [canonicalRoles_list] at hlist
  exact insertionSort_eq_iff_perm.mp hlist

/-- The lists of a partition, as a new candidate. -/
def CanonicalResourceRolesV1.asCandidate (p : CanonicalResourceRolesV1) : ResourceRoleListsCandidateV1 :=
  { consumed := p.consumed, referenced := p.referenced, created := p.created }

theorem asCandidate_list (p : CanonicalResourceRolesV1) (role : ResourceRoleV1) :
    p.asCandidate.list role = p.list role := by
  cases role <;> rfl

theorem Admissible.mono {c : ResourceRoleListsCandidateV1} {limits limits' : PolicyLimitsV1}
    (h : Admissible c limits) (hle : ∀ role, maximum limits role ≤ maximum limits' role) :
    Admissible c limits' :=
  ⟨fun role => (h.bounded role).trans (UInt16.le_iff_toNat_le.mp (hle role)), h.nodup, h.disjoint⟩

/-- **Canonical form.** Construction does not see the order of the ids; equal
partitions come from the same three sets of ids; a partition is a fixed point;
and wider limits change no accepted result. -/
theorem tryNew_canonical (alloc : ResourceRoleV1 → Nat → Bool) (limits : PolicyLimitsV1) :
    (∀ c c', (∀ role, (c.list role).Perm (c'.list role)) →
      CanonicalResourceRolesV1.tryNew alloc c limits =
        CanonicalResourceRolesV1.tryNew alloc c' limits) ∧
    (∀ c c' p p', CanonicalResourceRolesV1.tryNew alloc c limits = returned (.ok p) →
      CanonicalResourceRolesV1.tryNew alloc c' limits = returned (.ok p') →
      (p = p' ↔ ∀ role, (c.list role).Perm (c'.list role))) ∧
    (∀ c p, CanonicalResourceRolesV1.tryNew alloc c limits = returned (.ok p) →
      CanonicalResourceRolesV1.tryNew alloc p.asCandidate limits = returned (.ok p)) ∧
    (∀ c p limits', (∀ role, maximum limits role ≤ maximum limits' role) →
      CanonicalResourceRolesV1.tryNew alloc c limits = returned (.ok p) →
      CanonicalResourceRolesV1.tryNew alloc c limits' = returned (.ok p)) := by
  have horder : ∀ c c', (∀ role, (c.list role).Perm (c'.list role)) →
      CanonicalResourceRolesV1.tryNew alloc c limits =
        CanonicalResourceRolesV1.tryNew alloc c' limits := by
    intro c c' h
    rw [tryNew_eq, tryNew_eq, outcome, outcome, roleError_perm h, capacityError_perm h,
      canonicalRoles_eq_of_perm h]
  refine ⟨horder, ?_, ?_, ?_⟩
  · intro c c' p p' h h'
    obtain ⟨-, -, rfl⟩ := tryNew_eq_ok.mp h
    obtain ⟨-, -, rfl⟩ := tryNew_eq_ok.mp h'
    exact canonicalRoles_eq_iff
  · intro c p h
    obtain ⟨-, -, rfl⟩ := tryNew_eq_ok.mp h
    refine (horder _ _ fun role => ?_).trans h
    rw [asCandidate_list]
    exact canonicalRoles_perm c role
  · intro c p limits' hle h
    obtain ⟨hadmissible, hrest⟩ := tryNew_eq_ok.mp h
    exact tryNew_eq_ok.mpr ⟨hadmissible.mono hle, hrest⟩

/-- `unsortedCandidate` with the consumed ids the other way round. -/
def swappedCandidate : ResourceRoleListsCandidateV1 :=
  { unsortedCandidate with consumed := unsortedCandidate.consumed.reverse }

theorem tryNew_canonical_swappedCandidate :
    CanonicalResourceRolesV1.tryNew (fun _ _ => true) unsortedCandidate .strictDefault =
      CanonicalResourceRolesV1.tryNew (fun _ _ => true) swappedCandidate .strictDefault ∧
    CanonicalResourceRolesV1.tryNew (fun _ _ => true) (canonicalRoles unsortedCandidate).asCandidate
      .strictDefault = returned (.ok (canonicalRoles unsortedCandidate)) ∧
    CanonicalResourceRolesV1.tryNew (fun _ _ => true) unsortedCandidate .protocolCeiling =
      returned (.ok (canonicalRoles unsortedCandidate)) ∧
    canonicalRoles unsortedCandidate = canonicalRoles swappedCandidate := by
  obtain ⟨horder, hcomplete, hfixed, hwider⟩ := tryNew_canonical (fun _ _ => true) .strictDefault
  have hperm : ∀ role, (unsortedCandidate.list role).Perm (swappedCandidate.list role) := by
    intro role
    cases role
    · exact (List.reverse_perm _).symm
    · exact .refl _
    · exact .refl _
  have hswapped := (horder _ _ hperm).symm.trans tryNew_unsortedCandidate
  refine ⟨horder _ _ hperm, hfixed _ _ tryNew_unsortedCandidate,
    hwider _ _ .protocolCeiling (by intro role; cases role <;> decide) tryNew_unsortedCandidate, ?_⟩
  rw [(hcomplete _ _ _ _ hswapped tryNew_unsortedCandidate).mpr fun role => (hperm role).symm]
  exact canonicalRoles_eq_of_perm hperm

end Zrm.L4.Roles
