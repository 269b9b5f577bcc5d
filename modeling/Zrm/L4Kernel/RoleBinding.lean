import Zrm.L4Kernel.Lookup
import Zrm.L4Kernel.Resource

/-!
# Role binding (`zrm-kernel/src/role_bound_resource.rs`)

* `bindIntrinsic_eq_ok`, `bindIntrinsic_eq_error`: when a body is bound, and
  to what.
* `bindIntrinsic_sound_complete`: the same for every partition `tryNew`
  builds, with the separation of bodies that a collision-free hash gives.
-/
namespace Zrm.L4.Roles
open Zrm.BigEndian Zrm.Result Zrm.L1.Ids Zrm.L2.Hash Zrm.L2.ResourceWire Zrm.L3.Limits
  Zrm.L4.Resource

/-- mirrors crates/zrm-kernel/src/role_bound_resource.rs:15-18 -/
inductive IntrinsicRoleBindingErrorV1
  | resourceAbsentFromRoles
  deriving DecidableEq, Repr

/-- mirrors crates/zrm-kernel/src/role_bound_resource.rs:59-62 -/
structure RoleBoundIntrinsicResourceV1 where
  resource : IntrinsicResourceV1
  position : ResourceRolePositionV1
  deriving DecidableEq

namespace RoleBoundIntrinsicResourceV1

/-! mirrors crates/zrm-kernel/src/role_bound_resource.rs:64-92 -/

def resourceId (bound : RoleBoundIntrinsicResourceV1) : ResourceId := bound.resource.resourceId
def role (bound : RoleBoundIntrinsicResourceV1) : ResourceRoleV1 := bound.position.role
def ordinal (bound : RoleBoundIntrinsicResourceV1) : UInt32 := bound.position.ordinal

end RoleBoundIntrinsicResourceV1

/-- mirrors crates/zrm-kernel/src/role_bound_resource.rs:129-136 -/
def bindPosition (roles : CanonicalResourceRolesV1) (resourceId : ResourceId) :
    Run IntrinsicRoleBindingErrorV1 ResourceRolePositionV1 := do
  match ← awaiting (roles.positionOf resourceId) with
  | some position => return position
  | none => returned (.error .resourceAbsentFromRoles)

/-- mirrors crates/zrm-kernel/src/role_bound_resource.rs:117-126 -/
def CanonicalResourceRolesV1.bindIntrinsic (roles : CanonicalResourceRolesV1)
    (resource : IntrinsicResourceV1) :
    Run IntrinsicRoleBindingErrorV1 RoleBoundIntrinsicResourceV1 := do
  let position ← bindPosition roles resource.resourceId
  return { resource, position }

/-! ## Binding in a canonical partition -/

theorem bindIntrinsic_eq_error {p : CanonicalResourceRolesV1} (h : p.Canonical)
    (r : IntrinsicResourceV1) :
    p.bindIntrinsic r = returned (.error .resourceAbsentFromRoles) ↔
      ∀ role, r.resourceId ∉ p.list role := by
  rw [← positionOf_eq_none h, positionOf_eq h]
  unfold CanonicalResourceRolesV1.bindIntrinsic bindPosition
  rw [positionOf_eq h]
  cases rolePrecedence.findSome? fun role => placeIn role (p.list role) r.resourceId <;> simp

theorem bindIntrinsic_eq_ok {p : CanonicalResourceRolesV1} (h : p.Canonical) (r : IntrinsicResourceV1)
    (bound : RoleBoundIntrinsicResourceV1) :
    p.bindIntrinsic r = returned (.ok bound) ↔
      bound.resource = r ∧ bound.position.resourceId = r.resourceId ∧
        (p.list bound.role)[bound.ordinal.toNat]? = some r.resourceId := by
  rw [RoleBoundIntrinsicResourceV1.role, RoleBoundIntrinsicResourceV1.ordinal,
    ← positionOf_eq_some h, positionOf_eq h]
  unfold CanonicalResourceRolesV1.bindIntrinsic bindPosition
  rw [positionOf_eq h]
  obtain ⟨resource, position⟩ := bound
  cases rolePrecedence.findSome? fun role => placeIn role (p.list role) r.resourceId with
  | none => simp
  | some position' => simp [eq_comm]

/-- Without a hash collision, an identifier determines the body. -/
theorem intrinsic_eq_of_resourceId {sha256 : List UInt8 → Bytes 32} {alloc : Nat → Bool}
    {W : Set ResourceWireV1} (hinj : Set.InjOn sha256 (resourcePreimage '' W)) {w w' : ResourceWireV1}
    (hw : w ∈ W) (hw' : w' ∈ W) {r r' : IntrinsicResourceV1}
    (hr : IntrinsicResourceV1.tryFromWire sha256 alloc w = .ok r)
    (hr' : IntrinsicResourceV1.tryFromWire sha256 alloc w' = .ok r')
    (hid : r.resourceId = r'.resourceId) : r = r' := by
  have hdigest := (alloc_of_resourceId_eq_ok (tryFromWire_eq_ok.mp hr).2).2
  have hdigest' := (alloc_of_resourceId_eq_ok (tryFromWire_eq_ok.mp hr').2).2
  rw [hid, hdigest'] at hdigest
  have hpreimage := hinj (Set.mem_image_of_mem _ hw) (Set.mem_image_of_mem _ hw') hdigest.symm
  rw [← resourcePreimage_injective hpreimage, hr] at hr'
  exact Except.ok.inj hr'

/-- **Role binding.** A body is bound iff its own identifier is listed, to
the place where it is listed, whatever the order of the lists; and where the
hash has no collision, a place binds one body only. -/
theorem bindIntrinsic_sound_complete {allocRoles : ResourceRoleV1 → Nat → Bool}
    {c : ResourceRoleListsCandidateV1} {limits : PolicyLimitsV1} {p : CanonicalResourceRolesV1}
    (hp : CanonicalResourceRolesV1.tryNew allocRoles c limits = returned (.ok p))
    (sha256 : List UInt8 → Bytes 32) (alloc : Nat → Bool) :
    (∀ r, (∃ bound, p.bindIntrinsic r = returned (.ok bound)) ↔ ∃ role, r.resourceId ∈ p.list role) ∧
    (∀ r, (¬ ∃ role, r.resourceId ∈ p.list role) →
      p.bindIntrinsic r = returned (.error .resourceAbsentFromRoles)) ∧
    (∀ r bound, p.bindIntrinsic r = returned (.ok bound) →
      bound.resource = r ∧ bound.resourceId = r.resourceId ∧
      bound.position.resourceId = r.resourceId ∧
      (p.list bound.role)[bound.ordinal.toNat]? = some r.resourceId) ∧
    (∀ c' p' r, (∀ role, (c.list role).Perm (c'.list role)) →
      CanonicalResourceRolesV1.tryNew allocRoles c' limits = returned (.ok p') →
      p'.bindIntrinsic r = p.bindIntrinsic r) ∧
    (∀ W : Set ResourceWireV1, Set.InjOn sha256 (resourcePreimage '' W) → ∀ w ∈ W, ∀ w' ∈ W, ∀ r r',
      IntrinsicResourceV1.tryFromWire sha256 alloc w = .ok r →
      IntrinsicResourceV1.tryFromWire sha256 alloc w' = .ok r' →
      (∀ bound bound', p.bindIntrinsic r = returned (.ok bound) →
        p.bindIntrinsic r' = returned (.ok bound') → bound.role = bound'.role →
        bound.ordinal = bound'.ordinal → r.toWire = r'.toWire ∧ r = r') ∧
      (r.toWire ≠ r'.toWire → r.resourceId ≠ r'.resourceId ∧
        ((∀ role, r'.resourceId ∉ p.list role) →
          p.bindIntrinsic r' = returned (.error .resourceAbsentFromRoles)))) := by
  have hcanonical := canonical_of_tryNew hp
  refine ⟨fun r => ?_, fun r habsent => ?_, fun r bound hbound => ?_, fun c' p' r hperm hp' => ?_,
    fun W hinj w hw w' hw' r r' hr hr' => ⟨fun bound bound' hbound hbound' hrole hordinal => ?_,
      fun hne => ⟨fun hid => ?_, (bindIntrinsic_eq_error hcanonical r').mpr⟩⟩⟩
  · refine ⟨fun h => ?_, fun h => ?_⟩
    · obtain ⟨bound, hbound⟩ := h
      obtain ⟨-, -, hget⟩ := (bindIntrinsic_eq_ok hcanonical r bound).mp hbound
      exact ⟨bound.role, List.mem_of_getElem? hget⟩
    · obtain ⟨role, hmem⟩ := h
      obtain ⟨position, hposition⟩ := exists_positionOf hcanonical hmem
      exact ⟨⟨r, position⟩,
        (bindIntrinsic_eq_ok hcanonical r _).mpr ⟨rfl, (positionOf_eq_some hcanonical).mp hposition⟩⟩
  · exact (bindIntrinsic_eq_error hcanonical r).mpr (not_exists.mp habsent)
  · obtain ⟨hresource, hposition, hget⟩ := (bindIntrinsic_eq_ok hcanonical r bound).mp hbound
    refine ⟨hresource, ?_, hposition, hget⟩
    rw [RoleBoundIntrinsicResourceV1.resourceId, hresource]
  · obtain ⟨-, -, rfl⟩ := tryNew_eq_ok.mp hp
    obtain ⟨-, -, rfl⟩ := tryNew_eq_ok.mp hp'
    rw [canonicalRoles_eq_of_perm hperm]
  · obtain ⟨-, -, hget⟩ := (bindIntrinsic_eq_ok hcanonical r bound).mp hbound
    obtain ⟨-, -, hget'⟩ := (bindIntrinsic_eq_ok hcanonical r' bound').mp hbound'
    rw [hrole, hordinal, hget', Option.some.injEq] at hget
    have heq := intrinsic_eq_of_resourceId hinj hw hw' hr hr' hget.symm
    exact ⟨congrArg _ heq, heq⟩
  · exact hne (congrArg _ (intrinsic_eq_of_resourceId hinj hw hw' hr hr' hid))

/-- A partition that lists one of the two vector resources. -/
def vectorCandidate : ResourceRoleListsCandidateV1 where
  consumed := [.repeated 9, vectorAbsentId]
  referenced := []
  created := [.repeated 1]

theorem tryNew_vectorCandidate :
    CanonicalResourceRolesV1.tryNew (fun _ _ => true) vectorCandidate .strictDefault =
      returned (.ok (canonicalRoles vectorCandidate)) :=
  tryNew_eq_ok.mpr ⟨roleError_eq_none.mp (by decide), rfl, rfl⟩

theorem vectorSha256_injOn :
    Set.InjOn vectorSha256
      (resourcePreimage '' {vectorResource none, vectorResource (some 0x1112131415161718)}) := by
  have hentry : ∀ w ∈ ({vectorResource none, vectorResource (some 0x1112131415161718)} : Set _),
      ∃ entry ∈ vectorDigests, entry.1.preimage = resourcePreimage w := by
    intro w hw
    rcases hw with rfl | rfl
    · exact ⟨(.resource (vectorResource none), vectorAbsentId.asBytes), by decide, rfl⟩
    · exact ⟨(.resource (vectorResource (some 0x1112131415161718)), vectorPresentId.asBytes),
        by decide, rfl⟩
  intro x hx y hy h
  obtain ⟨w, hw, rfl⟩ := hx
  obtain ⟨w', hw', rfl⟩ := hy
  obtain ⟨entry, hmem, hpreimage⟩ := hentry w hw
  obtain ⟨entry', hmem', hpreimage'⟩ := hentry w' hw'
  rw [← hpreimage, ← hpreimage'] at h ⊢
  exact vectorSha256_vectors.1 entry hmem entry' hmem' h

theorem bindIntrinsic_vectorCandidate :
    (∃ bound, (canonicalRoles vectorCandidate).bindIntrinsic (vectorIntrinsic vectorAbsentId none) =
      returned (.ok bound)) ∧
    vectorAbsentId ≠ vectorPresentId ∧
    (canonicalRoles vectorCandidate).bindIntrinsic
      (vectorIntrinsic vectorPresentId (some 0x1112131415161718)) =
        returned (.error .resourceAbsentFromRoles) := by
  obtain ⟨hbound, -, -, -, hseparated⟩ :=
    bindIntrinsic_sound_complete tryNew_vectorCandidate vectorSha256 fun _ => true
  obtain ⟨-, hdiffer⟩ := hseparated _ vectorSha256_injOn _ (Or.inl rfl) _ (Or.inr rfl) _ _
    tryFromWire_vectorAbsent tryFromWire_vectorPresent
  obtain ⟨hid, hreject⟩ := hdiffer (by decide)
  exact ⟨(hbound _).mpr ⟨.consumed, by decide⟩, hid,
    hreject fun role => by cases role <;> decide⟩

end Zrm.L4.Roles
