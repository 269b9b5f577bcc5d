import Zrm.L4Kernel.Partition

/-!
# Lookup in a canonical partition

* `positionOf_eq`: the three scans always end, at the first role that lists
  the id.
* `positionOf_eq_none`, `positionOf_eq_some`: absence, and the one place
  where an id is listed.
* `positionOf_exact`: lookup is a bijection from the ids onto the slots.
-/
namespace Zrm.L4.Roles
open Zrm.Result Zrm.ScanLoop Zrm.Placement Zrm.L1.Ids Zrm.L1.Scalar Zrm.L3.Limits

/-- The position of an id in one list. -/
def placeIn (role : ResourceRoleV1) (ids : List ResourceId) (id : ResourceId) :
    Option ResourceRolePositionV1 :=
  if id ∈ ids then some { resourceId := id, role, ordinal := UInt32.ofNat (ids.idxOf id) } else none

theorem find?_beq (ids : List ResourceId) (id : ResourceId) :
    ids.find? (fun current => current == id) = if id ∈ ids then some id else none := by
  cases hfind : ids.find? fun current => current == id with
  | some found =>
    have hbeq := List.find?_some hfind
    have hid : found = id := eq_of_beq hbeq
    rw [if_pos (hid ▸ List.mem_of_find?_eq_some hfind), hid]
  | none =>
    have habsent := List.find?_eq_none.mp hfind
    rw [if_neg fun hmem => habsent id hmem (beq_self_eq_true id)]

theorem positionIn_eq (role : ResourceRoleV1) {ids : List ResourceId} (hlen : ids.length < 2 ^ 16)
    (id : ResourceId) : positionIn role ids id = some (placeIn role ids id) := by
  have hlt : ids.findIdx (fun current => current == id) < 2 ^ 16 :=
    Nat.lt_of_le_of_lt List.findIdx_le_length hlen
  have hordinal : (UInt16.ofNat (ids.findIdx fun current => current == id)).toUInt32 =
      UInt32.ofNat (ids.idxOf id) := by
    rw [← UInt32.toNat_inj, UInt16.toNat_toUInt32, toNat_u16 hlt]
    exact (toNat_u32 (hlt.trans (by decide))).symm
  unfold positionIn placeIn
  rw [scan_eq hlen, Option.map_some, find?_beq]
  simp only [hordinal]
  by_cases hmem : id ∈ ids
  · rw [if_pos hmem, if_pos hmem]; rfl
  · rw [if_neg hmem, if_neg hmem]; rfl

/-- The first role that lists the id. -/
theorem positionOf_eq {p : CanonicalResourceRolesV1} (h : p.Canonical) (id : ResourceId) :
    p.positionOf id = some (rolePrecedence.findSome? fun role => placeIn role (p.list role) id) := by
  have hlen : ∀ role, (p.list role).length < 2 ^ 16 := fun role => by
    have hle := h.count_le role
    rw [h.count_eq] at hle
    omega
  have h1 := positionIn_eq .consumed (hlen .consumed) id
  have h2 := positionIn_eq .referenced (hlen .referenced) id
  have h3 := positionIn_eq .created (hlen .created) id
  simp only [CanonicalResourceRolesV1.list] at h1 h2 h3
  unfold CanonicalResourceRolesV1.positionOf rolePrecedence
  rw [h1, h2, h3]
  simp only [List.findSome?_cons, List.findSome?_nil, CanonicalResourceRolesV1.list]
  cases placeIn .consumed p.consumed id with
  | some position => rfl
  | none =>
    cases placeIn .referenced p.referenced id with
    | some position => rfl
    | none => cases placeIn .created p.created id <;> rfl

theorem placeIn_eq_none {role : ResourceRoleV1} {ids : List ResourceId} {id : ResourceId} :
    placeIn role ids id = none ↔ id ∉ ids := by
  unfold placeIn
  split <;> simp_all

theorem positionOf_eq_none {p : CanonicalResourceRolesV1} (h : p.Canonical) {id : ResourceId} :
    p.positionOf id = some none ↔ ∀ role, id ∉ p.list role := by
  rw [positionOf_eq h, Option.some.injEq, List.findSome?_eq_none_iff]
  refine ⟨fun hnone => ?_, fun habsent => ?_⟩
  · intro role
    exact placeIn_eq_none.mp (hnone role (by cases role <;> decide))
  · intro role _
    exact placeIn_eq_none.mpr (habsent role)

/-- Only one role lists an id, so the scan order does not matter. -/
theorem findSome?_placeIn {p : CanonicalResourceRolesV1} (h : p.Canonical) {id : ResourceId}
    {role : ResourceRoleV1} (hmem : id ∈ p.list role) :
    (rolePrecedence.findSome? fun role => placeIn role (p.list role) id) =
      placeIn role (p.list role) id := by
  have hother : ∀ role', role' ≠ role → placeIn role' (p.list role') id = none := fun role' hne =>
    placeIn_eq_none.mpr fun hmem' => h.disjoint role' role hne hmem' hmem
  obtain ⟨position, hposition⟩ : ∃ position, placeIn role (p.list role) id = some position :=
    ⟨_, if_pos hmem⟩
  unfold rolePrecedence
  simp only [List.findSome?_cons, List.findSome?_nil]
  cases role with
  | consumed => rw [hposition]
  | referenced => rw [hother .consumed (by decide), hposition]
  | created => rw [hother .consumed (by decide), hother .referenced (by decide), hposition]

theorem idxOf_lt_of_mem {p : CanonicalResourceRolesV1} (h : p.Canonical) {id : ResourceId}
    {role : ResourceRoleV1} (hmem : id ∈ p.list role) : (p.list role).idxOf id < 2 ^ 32 := by
  have hlt := List.idxOf_lt_length_iff.mpr hmem
  have hle := h.count_le role
  rw [h.count_eq] at hle
  omega

theorem ordinal_eq_idxOf {p : CanonicalResourceRolesV1} (h : p.Canonical) {id : ResourceId}
    {role : ResourceRoleV1} {i : Nat} (hget : (p.list role)[i]? = some id) :
    i = (p.list role).idxOf id := by
  have hnodup : (p.list role).Nodup := (h.ascending role).imp fun hlt => ne_of_lt hlt
  obtain ⟨hlt, rfl⟩ := List.getElem?_eq_some_iff.mp hget
  exact (hnodup.idxOf_getElem i hlt).symm

theorem role_unique {p : CanonicalResourceRolesV1} (h : p.Canonical) {id : ResourceId}
    {role role' : ResourceRoleV1} (hmem : id ∈ p.list role) (hmem' : id ∈ p.list role') :
    role = role' := by
  by_contra hne
  exact h.disjoint role role' hne hmem hmem'

/-- A position is returned exactly where the id is listed. -/
theorem positionOf_eq_some {p : CanonicalResourceRolesV1} (h : p.Canonical) {id : ResourceId}
    {position : ResourceRolePositionV1} :
    p.positionOf id = some (some position) ↔
      position.resourceId = id ∧ (p.list position.role)[position.ordinal.toNat]? = some id := by
  rw [positionOf_eq h, Option.some.injEq]
  constructor
  · intro hsome
    obtain ⟨role, -, hplace⟩ := List.exists_of_findSome?_eq_some hsome
    unfold placeIn at hplace
    split at hplace
    · rename_i hmem
      cases hplace
      refine ⟨rfl, ?_⟩
      rw [toNat_u32 (idxOf_lt_of_mem h hmem)]
      exact List.getElem?_idxOf hmem
    · cases hplace
  · obtain ⟨resourceId, role, ordinal⟩ := position
    intro hplace
    obtain ⟨hid, hget⟩ := hplace
    simp only at hid hget
    subst hid
    have hmem := List.mem_of_getElem? hget
    rw [findSome?_placeIn h hmem, placeIn, if_pos hmem, ← ordinal_eq_idxOf h hget,
      UInt32.ofNat_toNat]

/-- An id that is listed has a position. -/
theorem exists_positionOf {p : CanonicalResourceRolesV1} (h : p.Canonical) {id : ResourceId}
    {role : ResourceRoleV1} (hmem : id ∈ p.list role) :
    ∃ position, p.positionOf id = some (some position) := by
  refine ⟨⟨id, role, UInt32.ofNat ((p.list role).idxOf id)⟩, ?_⟩
  rw [positionOf_eq h, findSome?_placeIn h hmem, placeIn, if_pos hmem]

/-! ## Lookup inverts placement -/

/-- Where an id stands: its role and its index there. -/
def slotOf (p : CanonicalResourceRolesV1) (id : ResourceId) : Option (ResourceRoleV1 × Nat) :=
  (p.positionOf id).join.map fun position => (position.role, position.ordinal.toNat)

theorem slotOf_eq_some {p : CanonicalResourceRolesV1} (h : p.Canonical) {id : ResourceId}
    {role : ResourceRoleV1} {i : Nat} :
    slotOf p id = some (role, i) ↔ (p.list role)[i]? = some id := by
  refine ⟨fun hslot => ?_, fun hget => ?_⟩
  · unfold slotOf at hslot
    obtain ⟨position, hposition, hpair⟩ := Option.map_eq_some_iff.mp hslot
    rw [Option.join_eq_some_iff, positionOf_eq_some h] at hposition
    cases hpair
    exact hposition.2
  · have hi : i = (p.list role).idxOf id := ordinal_eq_idxOf h hget
    have hmem := List.mem_of_getElem? hget
    have hordinal : (UInt32.ofNat i).toNat = i := toNat_u32 (hi ▸ idxOf_lt_of_mem h hmem)
    have hposition : p.positionOf id = some (some ⟨id, role, UInt32.ofNat i⟩) :=
      (positionOf_eq_some h).mpr ⟨rfl, hordinal.symm ▸ hget⟩
    rw [slotOf, hposition, Option.join_some, Option.map_some, hordinal]

/-- **Lookup is the inverse of placement.** -/
theorem positionOf_exact {alloc : ResourceRoleV1 → Nat → Bool}
    {candidate : ResourceRoleListsCandidateV1} {limits : PolicyLimitsV1}
    {p : CanonicalResourceRolesV1}
    (h : CanonicalResourceRolesV1.tryNew alloc candidate limits = returned (.ok p)) :
    (∀ id, p.positionOf id = some none ↔ ∀ role, id ∉ p.list role) ∧
    (∀ id, (∃ role, id ∈ p.list role) → ∃ position,
      p.positionOf id = some (some position) ∧ position.resourceId = id ∧
      (∀ role, id ∈ p.list role ↔ role = position.role) ∧
      position.ordinal.toNat = (p.list position.role).idxOf id ∧
      position.ordinal.toNat = (p.list position.role).countP (· < id)) ∧
    Set.BijOn (slotOf p) {id | ∃ role, id ∈ p.list role}
      {slot | ∃ role i, i < (p.count role).toNat ∧ slot = some (role, i)} := by
  have hp := canonical_of_tryNew h
  refine ⟨fun id => positionOf_eq_none hp, ?_, ?_, ?_, ?_⟩
  · intro id hid
    obtain ⟨role, hmem⟩ := hid
    obtain ⟨position, hposition⟩ := exists_positionOf hp hmem
    obtain ⟨hid, hget⟩ := (positionOf_eq_some hp).mp hposition
    have hmem' := List.mem_of_getElem? hget
    have hordinal := ordinal_eq_idxOf hp hget
    refine ⟨position, hposition, hid, fun role' => ?_, hordinal, ?_⟩
    · refine ⟨fun hrole' => ?_, fun h' => ?_⟩
      · exact role_unique hp hrole' hmem'
      · obtain rfl := h'
        exact hmem'
    · rw [hordinal, idxOf_eq_countP (hp.ascending _) hmem']
  · -- a listed id has a slot below the count
    intro id hid
    obtain ⟨role, hmem⟩ := hid
    refine ⟨role, (p.list role).idxOf id, ?_, ?_⟩
    · rw [hp.count_eq]
      exact List.idxOf_lt_length_iff.mpr hmem
    · exact (slotOf_eq_some hp).mpr (List.getElem?_idxOf hmem)
  · -- the slot gives the id back
    intro id hid id' _ hslot
    obtain ⟨role, hmem⟩ := hid
    have hid := (slotOf_eq_some hp).mpr (List.getElem?_idxOf hmem)
    rw [hslot, slotOf_eq_some hp, List.getElem?_idxOf hmem] at hid
    exact Option.some.inj hid
  · intro slot hslot
    obtain ⟨role, i, hlt, rfl⟩ := hslot
    rw [hp.count_eq] at hlt
    have hget := List.getElem?_eq_getElem hlt
    exact ⟨(p.list role)[i], ⟨role, List.getElem_mem hlt⟩, (slotOf_eq_some hp).mpr hget⟩

/-- The larger consumed id stands behind the smaller one. -/
theorem positionOf_exact_unsortedCandidate :
    ∃ position,
      (canonicalRoles unsortedCandidate).positionOf (.repeated 2) = some (some position) ∧
      position.role = .consumed := by
  obtain ⟨-, hlisted, -⟩ := positionOf_exact tryNew_unsortedCandidate
  have hmem : Opaque.repeated 2 ∈ (canonicalRoles unsortedCandidate).list .consumed := by decide
  obtain ⟨position, hposition, -, hrole, -⟩ := hlisted _ ⟨.consumed, hmem⟩
  exact ⟨position, hposition, ((hrole .consumed).mp hmem).symm⟩

end Zrm.L4.Roles
