import Zrm.Core.Logged
import Zrm.L4Kernel.RoleBinding

/-!
# The index loops (`zrm-kernel/src/resource_roles.rs`)

On lists whose indices fit the counter, both loops leave at the first index, after at
most one turn more than the list is long. To see which lists they are given, the calls
are run with a log of them; the bound on the lists comes from the policy limits.

* `insertionPosition_first`, `positionIn_first`: what the loops return.
* `tryNewLogged_result`, `positionOfLogged_result`, `bindIntrinsicLogged_result`: the log
  changes no call.
* `tryNewLogged_bounded`, `positionOfLogged_bounded`, `bindIntrinsicLogged_bounded`: they
  hand on short lists only.
* `index_loops_exact`: both, for every reachable call, and what longer lists would do.
-/
namespace Zrm.L4.Roles
open Zrm.Result Zrm.ScanLoop Zrm.Placement Zrm.Logging Zrm.L1.Ids Zrm.L1.Scalar Zrm.L3.Limits
  Zrm.L4.Resource

/-! ## What the loops return -/

/-- `n` is the first index where `P` holds, or the length if it holds nowhere. -/
structure FirstIndex (ids : List ResourceId) (P : ResourceId → Prop) (n : Nat) : Prop where
  le_length : n ≤ ids.length
  before : ∀ i id, i < n → ids[i]? = some id → ¬ P id
  at_index : ∀ id, ids[n]? = some id → P id

theorem firstIndex_findIdx (ids : List ResourceId) (P : ResourceId → Prop) [DecidablePred P] :
    FirstIndex ids P (ids.findIdx fun id => P id) where
  le_length := List.findIdx_le_length
  before i id hi hid := by
    obtain ⟨hlt, rfl⟩ := List.getElem?_eq_some_iff.mp hid
    exact of_decide_eq_false (List.not_of_lt_findIdx hi)
  at_index id hid := by
    have hstop := List.findIdx_of_getElem?_eq_some hid
    simpa using hstop

/-- The loop of `insertion_position`, for so many turns. -/
def insertionTurns (turns : Nat) (resources : List ResourceId) (resourceId : ResourceId) :
    Option (UInt16 × Option ResourceId) :=
  run (scanStep resources fun current => decide (current > resourceId)) turns 0

/-- The loop of `position_in`, for so many turns. -/
def positionTurns (turns : Nat) (resources : List ResourceId) (resourceId : ResourceId) :
    Option (UInt16 × Option ResourceId) :=
  run (scanStep resources fun canonicalId => canonicalId == resourceId) turns 0

section Short

variable {ids : List ResourceId} (hlen : ids.length ≤ 65535) (id : ResourceId)
include hlen

theorem insertionPosition_first :
    ∃ n, insertionPosition ids id = some n ∧ FirstIndex ids (id < ·) n ∧
      ∃ found, insertionTurns (ids.length + 1) ids id = some (UInt16.ofNat n, found) :=
  ⟨_, insertionPosition_eq (by omega) id, firstIndex_findIdx ids (id < ·), _,
    run_scanStep_length (by omega)⟩

theorem positionIn_first (role : ResourceRoleV1) :
    ∃ n, FirstIndex ids (· = id) n ∧
      positionIn role ids id = some (if n < ids.length then
        some ⟨id, role, UInt32.ofNat n⟩ else none) ∧
      ∃ found, positionTurns (ids.length + 1) ids id = some (UInt16.ofNat n, found) := by
  have hfirst := firstIndex_findIdx ids (· = id)
  have hindex : (ids.findIdx fun current => current = id) = ids.idxOf id := by
    rw [List.idxOf]
    rfl
  rw [hindex] at hfirst
  refine ⟨_, hfirst, ?_, _, run_scanStep_length (by omega)⟩
  rw [positionIn_eq role (by omega), placeIn]
  simp only [List.idxOf_lt_length_iff]

end Short

/-! ## The lists that the calls hand on -/

/-- The lists that a call hands to the index loops, beside its result. -/
abbrev Observed (ε α : Type) := Logged (List ResourceId) ε α

/-- `insertSorted`, observed. -/
def insertSortedLogged (canonical : List ResourceId) (resourceId : ResourceId) :
    Observed ResourceRolePartitionErrorV1 (List ResourceId) := do
  let position ← received canonical (awaiting (insertionPosition canonical resourceId))
  silent (awaiting (vecInsert canonical position resourceId))

/-- `copyAndSort`, observed. -/
def copyAndSortLogged (alloc : ResourceRoleV1 → Nat → Bool) (role : ResourceRoleV1)
    (candidates : List ResourceId) : Observed ResourceRolePartitionErrorV1 (List ResourceId) := do
  let canonical ← silent (returned (reserveRoleCapacity alloc role candidates.length))
  candidates.foldlM insertSortedLogged canonical

/-- `try_new`, observed. -/
def CanonicalResourceRolesV1.tryNewLogged (alloc : ResourceRoleV1 → Nat → Bool)
    (candidate : ResourceRoleListsCandidateV1) (limits : PolicyLimitsV1) :
    Observed ResourceRolePartitionErrorV1 CanonicalResourceRolesV1 := do
  let counts ← silent (returned (validateCountBounds candidate limits))
  silent (returned (validateDuplicates .consumed candidate.consumed))
  silent (returned (validateDuplicates .referenced candidate.referenced))
  silent (returned (validateDuplicates .created candidate.created))
  silent (returned (validateDisjoint candidate.referenced .consumed .referenced candidate.consumed))
  silent (returned (validateDisjoint candidate.created .consumed .created candidate.consumed))
  silent (returned (validateDisjoint candidate.created .referenced .created candidate.referenced))
  let consumed ← copyAndSortLogged alloc .consumed candidate.consumed
  let referenced ← copyAndSortLogged alloc .referenced candidate.referenced
  let created ← copyAndSortLogged alloc .created candidate.created
  return {
    consumed, referenced, created
    consumedCount := counts.consumed
    referencedCount := counts.referenced
    createdCount := counts.created }

/-- `position_in`, observed. -/
def positionInLogged {ε : Type} (role : ResourceRoleV1) (resources : List ResourceId)
    (resourceId : ResourceId) : Observed ε (Option ResourceRolePositionV1) :=
  received resources (awaiting (positionIn role resources resourceId))

/-- `position_of`, observed. -/
def CanonicalResourceRolesV1.positionOfLogged {ε : Type} (roles : CanonicalResourceRolesV1)
    (resourceId : ResourceId) : Observed ε (Option ResourceRolePositionV1) := do
  if let some position ← positionInLogged .consumed roles.consumed resourceId then
    return some position
  if let some position ← positionInLogged .referenced roles.referenced resourceId then
    return some position
  positionInLogged .created roles.created resourceId

/-- `bind_position`, observed. -/
def bindPositionLogged (roles : CanonicalResourceRolesV1) (resourceId : ResourceId) :
    Observed IntrinsicRoleBindingErrorV1 ResourceRolePositionV1 := do
  match ← roles.positionOfLogged resourceId with
  | some position => return position
  | none => silent (returned (.error .resourceAbsentFromRoles))

/-- `bind_intrinsic`, observed. -/
def CanonicalResourceRolesV1.bindIntrinsicLogged (roles : CanonicalResourceRolesV1)
    (resource : IntrinsicResourceV1) :
    Observed IntrinsicRoleBindingErrorV1 RoleBoundIntrinsicResourceV1 := do
  let position ← bindPositionLogged roles resource.resourceId
  return { resource, position }

/-! ### Without the log -/

theorem insertSortedLogged_result (canonical : List ResourceId) (id : ResourceId) :
    (insertSortedLogged canonical id).result = insertSorted canonical id :=
  result_bind _ _

theorem copyAndSortLogged_result (alloc : ResourceRoleV1 → Nat → Bool) (role : ResourceRoleV1)
    (candidates : List ResourceId) :
    (copyAndSortLogged alloc role candidates).result = copyAndSort alloc role candidates := by
  unfold copyAndSortLogged copyAndSort
  rw [result_bind, result_silent]
  congr 1
  funext canonical
  exact result_foldlM insertSortedLogged_result candidates canonical

theorem tryNewLogged_result (alloc : ResourceRoleV1 → Nat → Bool)
    (candidate : ResourceRoleListsCandidateV1) (limits : PolicyLimitsV1) :
    (CanonicalResourceRolesV1.tryNewLogged alloc candidate limits).result =
      CanonicalResourceRolesV1.tryNew alloc candidate limits := by
  unfold CanonicalResourceRolesV1.tryNewLogged CanonicalResourceRolesV1.tryNew
  simp only [result_bind, result_silent, result_pure, run_pure_eq, copyAndSortLogged_result]

theorem positionOfLogged_result {ε : Type} (p : CanonicalResourceRolesV1) (id : ResourceId) :
    (p.positionOfLogged id : Observed ε _).result = awaiting (p.positionOf id) := by
  unfold CanonicalResourceRolesV1.positionOfLogged CanonicalResourceRolesV1.positionOf
    positionInLogged
  rw [result_bind, result_received]
  match positionIn .consumed p.consumed id with
  | none => rfl
  | some (some position) => rfl
  | some none =>
    simp only [awaiting_some_bind, result_bind, result_received, Option.bind_eq_bind,
      Option.bind_some]
    match positionIn .referenced p.referenced id with
    | none => rfl
    | some (some position) => rfl
    | some none => rfl

theorem bindIntrinsicLogged_result (p : CanonicalResourceRolesV1) (r : IntrinsicResourceV1) :
    (p.bindIntrinsicLogged r).result = p.bindIntrinsic r := by
  have hposition : (bindPositionLogged p r.resourceId).result = bindPosition p r.resourceId := by
    unfold bindPositionLogged bindPosition
    rw [result_bind, positionOfLogged_result]
    match p.positionOf r.resourceId with
    | none => rfl
    | some none => rfl
    | some (some position) => rfl
  unfold CanonicalResourceRolesV1.bindIntrinsicLogged CanonicalResourceRolesV1.bindIntrinsic
  rw [result_bind, hposition]
  rfl

/-! ### Short lists -/

/-- Only lists that the policy ceiling admits are handed on. -/
def Bounded {ε α : Type} (x : Observed ε α) : Prop := ∀ ids ∈ x.log, ids.length ≤ 256

theorem bounded_silent {ε α : Type} (x : Run ε α) : Bounded (silent x) := nofun

theorem bounded_received {ε α : Type} {ids : List ResourceId} (h : ids.length ≤ 256) (x : Run ε α) :
    Bounded (received ids x) := by
  intro ids' hmem
  rw [log_received, List.mem_singleton] at hmem
  exact hmem ▸ h

theorem bounded_bind {ε α β : Type} {x : Observed ε α} {f : α → Observed ε β} (hx : Bounded x)
    (hf : ∀ a, x.result = returned (.ok a) → Bounded (f a)) : Bounded (x >>= f) := by
  intro ids hmem
  rcases mem_log_bind hmem with hlog | ⟨a, ha, hlog⟩
  · exact hx ids hlog
  · exact hf a ha ids hlog

/-- The list under construction is as long as the part of the input already placed. -/
theorem copyAndSortLogged_bounded (alloc : ResourceRoleV1 → Nat → Bool) (role : ResourceRoleV1)
    {candidates : List ResourceId} (hlen : candidates.length ≤ 256) :
    Bounded (copyAndSortLogged alloc role candidates) := by
  refine bounded_bind (bounded_silent _) fun canonical hcanonical => ?_
  have hempty : canonical = [] := by
    rw [result_silent, returned_inj, reserveRoleCapacity] at hcanonical
    split at hcanonical
    · exact (Except.ok.inj hcanonical).symm
    · cases hcanonical
  subst hempty
  intro ids hmem
  obtain ⟨before, id, after, placed, rfl, hplaced, hlog⟩ := mem_log_foldlM hmem
  rw [List.length_append, List.length_cons] at hlen
  rw [result_foldlM insertSortedLogged_result,
    foldlM_insertSorted before [] (by rw [List.length_nil]; omega), returned_inj] at hplaced
  have hlength : placed.length = before.length := by
    rw [← Except.ok.inj hplaced]
    rw [foldl_place, List.length_insertionSort]
  have hstep : Bounded (insertSortedLogged placed id) :=
    bounded_bind (bounded_received (by omega) _) fun position _ => bounded_silent _
  exact hstep ids hlog

theorem tryNewLogged_bounded (alloc : ResourceRoleV1 → Nat → Bool)
    (candidate : ResourceRoleListsCandidateV1) (limits : PolicyLimitsV1) :
    Bounded (CanonicalResourceRolesV1.tryNewLogged alloc candidate limits) := by
  refine bounded_bind (bounded_silent _) fun counts hcounts => ?_
  have hlen : ∀ role, (candidate.list role).length ≤ 256 := by
    intro role
    rw [result_silent, returned_inj, validateCountBounds_eq] at hcounts
    split at hcounts
    · cases hcounts
    · rename_i hcount
      exact (length_le_of_not_overLimit hcount role).trans (maximum_le limits role)
  refine bounded_bind (bounded_silent _) fun _ _ => ?_
  refine bounded_bind (bounded_silent _) fun _ _ => ?_
  refine bounded_bind (bounded_silent _) fun _ _ => ?_
  refine bounded_bind (bounded_silent _) fun _ _ => ?_
  refine bounded_bind (bounded_silent _) fun _ _ => ?_
  refine bounded_bind (bounded_silent _) fun _ _ => ?_
  refine bounded_bind (copyAndSortLogged_bounded alloc _ (hlen .consumed)) fun _ _ => ?_
  refine bounded_bind (copyAndSortLogged_bounded alloc _ (hlen .referenced)) fun _ _ => ?_
  refine bounded_bind (copyAndSortLogged_bounded alloc _ (hlen .created)) fun _ _ => ?_
  exact bounded_silent _

theorem positionOfLogged_bounded {ε : Type} {p : CanonicalResourceRolesV1} (h : p.Canonical)
    (id : ResourceId) : Bounded (p.positionOfLogged id : Observed ε _) := by
  have hlen : ∀ role, (p.list role).length ≤ 256 := by
    intro role
    rw [← h.count_eq]
    exact h.count_le role
  refine bounded_bind (bounded_received (hlen .consumed) _) fun found _ => ?_
  cases found with
  | some position => exact bounded_silent _
  | none =>
    refine bounded_bind (bounded_received (hlen .referenced) _) fun found _ => ?_
    cases found with
    | some position => exact bounded_silent _
    | none => exact bounded_received (hlen .created) _

theorem bindIntrinsicLogged_bounded {p : CanonicalResourceRolesV1} (h : p.Canonical)
    (r : IntrinsicResourceV1) : Bounded (p.bindIntrinsicLogged r) := by
  refine bounded_bind ?_ fun position _ => bounded_silent _
  refine bounded_bind (positionOfLogged_bounded h _) fun found _ => ?_
  cases found with
  | some position => exact bounded_silent _
  | none => exact bounded_silent _

/-! ## Every reachable call -/

/-- **The index loops are exact.** On every list whose indices fit the counter they
leave at the first index, after at most one turn more than there are elements, and the
counter does not saturate before the end. Construction, lookup and binding hand them
lists of at most 256 ids. An unmatched list beyond the counter keeps them running. -/
theorem index_loops_exact :
    (∀ ids : List ResourceId, ids.length ≤ 65535 →
      (∀ p : UInt16, p.toNat < ids.length → (saturatingSucc p).toNat = p.toNat + 1) ∧
      ∀ id,
        (∃ n, insertionPosition ids id = some n ∧ FirstIndex ids (id < ·) n ∧
          ∃ found, insertionTurns (ids.length + 1) ids id = some (UInt16.ofNat n, found)) ∧
        ∀ role, ∃ n, FirstIndex ids (· = id) n ∧
          positionIn role ids id = some (if n < ids.length then
            some ⟨id, role, UInt32.ofNat n⟩ else none) ∧
          ∃ found, positionTurns (ids.length + 1) ids id = some (UInt16.ofNat n, found)) ∧
    (∀ alloc candidate limits,
      (CanonicalResourceRolesV1.tryNewLogged alloc candidate limits).result =
        CanonicalResourceRolesV1.tryNew alloc candidate limits ∧
      (∀ ids ∈ (CanonicalResourceRolesV1.tryNewLogged alloc candidate limits).log,
        ids.length ≤ 256) ∧
      ∀ p, CanonicalResourceRolesV1.tryNew alloc candidate limits = returned (.ok p) →
        (∀ ε id, (p.positionOfLogged id : Observed ε _).result = awaiting (p.positionOf id) ∧
          ∀ ids ∈ (p.positionOfLogged id : Observed ε _).log, ids.length ≤ 256) ∧
        ∀ r, (p.bindIntrinsicLogged r).result = p.bindIntrinsic r ∧
          ∀ ids ∈ (p.bindIntrinsicLogged r).log, ids.length ≤ 256) ∧
    ∀ ids : List ResourceId, 65536 ≤ ids.length → ∀ id,
      ((∀ current ∈ ids, ¬ current > id) → ∀ turns, insertionTurns turns ids id = none) ∧
      (id ∉ ids → ∀ turns, positionTurns turns ids id = none) := by
  refine ⟨fun ids hlen => ⟨fun p hp => toNat_saturatingSucc (by omega), fun id =>
    ⟨insertionPosition_first hlen id, positionIn_first hlen id⟩⟩,
    fun alloc candidate limits => ⟨tryNewLogged_result alloc candidate limits,
      tryNewLogged_bounded alloc candidate limits, fun p hp => ?_⟩,
    fun ids hlen id => ⟨fun habsent turns => ?_, fun habsent turns => ?_⟩⟩
  · have hcanonical := canonical_of_tryNew hp
    refine ⟨fun ε id => ⟨positionOfLogged_result p id, positionOfLogged_bounded hcanonical id⟩, ?_⟩
    intro r
    exact ⟨bindIntrinsicLogged_result p r, bindIntrinsicLogged_bounded hcanonical r⟩
  · apply run_scanStep_never hlen
    intro current hmem
    exact decide_eq_false (habsent current hmem)
  · apply run_scanStep_never hlen
    intro current hmem
    exact beq_eq_false_iff_ne.mpr fun heq => habsent (heq ▸ hmem)

theorem index_loops_exact_unsortedCandidate :
    (∃ n, insertionPosition [.repeated 2, .repeated 1] (.repeated 1) = some n ∧
      FirstIndex [.repeated 2, .repeated 1] (.repeated 1 < ·) n) ∧
    (∀ ids ∈ ((canonicalRoles unsortedCandidate).positionOfLogged (.repeated 2) :
      Observed Unit _).log, ids.length ≤ 256) ∧
    ∀ turns, positionTurns turns (List.replicate 65536 (.repeated 5)) (.repeated 1) = none := by
  obtain ⟨hexact, hreachable, hlonger⟩ := index_loops_exact
  obtain ⟨-, hfirst⟩ := hexact [.repeated 2, .repeated 1] (by decide)
  obtain ⟨⟨n, hposition, hn, -⟩, -⟩ := hfirst (.repeated 1)
  obtain ⟨-, -, hbuilt⟩ := hreachable (fun _ _ => true) unsortedCandidate .strictDefault
  obtain ⟨hlookup, -⟩ := hbuilt _ tryNew_unsortedCandidate
  refine ⟨⟨n, hposition, hn⟩, (hlookup Unit (.repeated 2)).2, ?_⟩
  obtain ⟨-, hnever⟩ := hlonger (List.replicate 65536 (.repeated 5))
    (Nat.le_of_eq List.length_replicate.symm) (.repeated 1)
  refine hnever fun hmem => ?_
  exact absurd (List.eq_of_mem_replicate hmem) (by decide : (.repeated 1 : ResourceId) ≠ .repeated 5)

end Zrm.L4.Roles
