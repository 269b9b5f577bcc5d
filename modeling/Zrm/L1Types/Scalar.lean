import Zrm.Core.BigEndian
import Zrm.Core.Result

/-!
# Integers, quantities and flags (`zrm-types/src/quantity.rs`, `resource_flags.rs`)

`usize` values are naturals: every one of them is a length or a constant, and
the code narrows them with `try_from`, which fails outside the target's range.
-/
namespace Zrm.L1.Scalar
open Zrm.BigEndian

/-- `u16::try_from(n: usize)` -/
def u16TryFrom (n : Nat) : Option UInt16 := if n < 2 ^ 16 then some (UInt16.ofNat n) else none

/-- `u32::try_from(n: usize)` -/
def u32TryFrom (n : Nat) : Option UInt32 := if n < 2 ^ 32 then some (UInt32.ofNat n) else none

/-- `u32::checked_add` -/
def u32CheckedAdd (a b : UInt32) : Option UInt32 :=
  if a.toNat + b.toNat < 2 ^ 32 then some (a + b) else none

/-- `u128::from(x: u64)` -/
def u128From (x : UInt64) : U128 := BitVec.ofNat 128 x.toNat

/-- `u128::checked_add` -/
def u128CheckedAdd (a b : U128) : Option U128 :=
  if a.toNat + b.toNat < 2 ^ 128 then some (a + b) else none

/-- `u128::checked_mul` -/
def u128CheckedMul (a b : U128) : Option U128 :=
  if a.toNat * b.toNat < 2 ^ 128 then some (a * b) else none

/-- `u64::try_from(x: u128)` -/
def u64TryFrom (x : U128) : Option UInt64 :=
  if x.toNat < 2 ^ 64 then some (UInt64.ofNat x.toNat) else none

theorem u16TryFrom_of_lt {n : Nat} (h : n < 2 ^ 16) : u16TryFrom n = some (UInt16.ofNat n) := if_pos h

theorem u32TryFrom_of_lt {n : Nat} (h : n < 2 ^ 32) : u32TryFrom n = some (UInt32.ofNat n) := if_pos h

theorem toNat_u16 {n : Nat} (h : n < 2 ^ 16) : (UInt16.ofNat n).toNat = n := by
  rw [UInt16.toNat_ofNat']; exact Nat.mod_eq_of_lt h

theorem toNat_u32 {n : Nat} (h : n < 2 ^ 32) : (UInt32.ofNat n).toNat = n := by
  rw [UInt32.toNat_ofNat']; exact Nat.mod_eq_of_lt h

theorem toNat_u64 {n : Nat} (h : n < 2 ^ 64) : (UInt64.ofNat n).toNat = n := by
  rw [UInt64.toNat_ofNat']; exact Nat.mod_eq_of_lt h

theorem toNat_u128 {n : Nat} (h : n < 2 ^ 128) : (BitVec.ofNat 128 n).toNat = n := by
  rw [BitVec.toNat_ofNat]; exact Nat.mod_eq_of_lt h

theorem u128CheckedAdd_ofNat {m n : Nat} (hm : m < 2 ^ 128) (hn : n < 2 ^ 128) :
    u128CheckedAdd (BitVec.ofNat 128 m) (BitVec.ofNat 128 n) =
      if m + n < 2 ^ 128 then some (BitVec.ofNat 128 (m + n)) else none := by
  unfold u128CheckedAdd
  rw [toNat_u128 hm, toNat_u128 hn, BitVec.ofNat_add]

/-- A product of two `u64` values always fits `u128`. -/
theorem u128CheckedMul_u64 (a b : UInt64) :
    u128CheckedMul (u128From a) (u128From b) = some (BitVec.ofNat 128 (a.toNat * b.toNat)) := by
  have ha := a.toNat_lt
  have hb := b.toNat_lt
  have hprod : a.toNat * b.toNat < 2 ^ 128 :=
    Nat.lt_of_lt_of_le (Nat.mul_lt_mul'' ha hb) (by decide)
  unfold u128CheckedMul u128From
  rw [toNat_u128 (by omega), toNat_u128 (by omega), if_pos hprod, BitVec.ofNat_mul]

theorem toBeBytes_u16 {n : Nat} (h : n < 2 ^ 16) :
    (toBeBytes (UInt16.ofNat n)).toList = toBe 2 n := by
  show toBe 2 (UInt16.ofNat n).toNat = toBe 2 n
  rw [toNat_u16 h]

theorem toBeBytes_u32 {n : Nat} (h : n < 2 ^ 32) :
    (toBeBytes (UInt32.ofNat n)).toList = toBe 4 n := by
  show toBe 4 (UInt32.ofNat n).toNat = toBe 4 n
  rw [toNat_u32 h]

/-- mirrors crates/zrm-types/src/quantity.rs:4 -/
structure QuantityAtoms where
  value : U128
  deriving DecidableEq

/-- mirrors crates/zrm-types/src/quantity.rs:11-13 -/
def QuantityAtoms.new (value : U128) : QuantityAtoms := ⟨value⟩

/-- mirrors crates/zrm-types/src/quantity.rs:17-19 -/
def QuantityAtoms.get (q : QuantityAtoms) : U128 := q.value

/-- mirrors crates/zrm-types/src/resource_flags.rs:37 -/
def KNOWN_MASK : UInt32 := 0

/-- mirrors crates/zrm-types/src/resource_flags.rs:5-7 -/
structure UnknownResourceFlagsError where
  bits : UInt32
  deriving DecidableEq

/-- mirrors crates/zrm-types/src/resource_flags.rs:33 -/
structure ResourceFlagsV1 where
  bits : UInt32
  known : bits = KNOWN_MASK
  deriving DecidableEq

/-- mirrors crates/zrm-types/src/resource_flags.rs:44-50 -/
def ResourceFlagsV1.tryFromBits (bits : UInt32) : Except UnknownResourceFlagsError ResourceFlagsV1 :=
  if h : bits = KNOWN_MASK then .ok ⟨bits, h⟩ else .error ⟨bits⟩

theorem ResourceFlagsV1.tryFromBits_eq_ok {bits : UInt32} {flags : ResourceFlagsV1} :
    ResourceFlagsV1.tryFromBits bits = .ok flags ↔ flags.bits = bits := by
  unfold tryFromBits
  refine ⟨fun h => ?_, fun h => ?_⟩
  · split at h <;> simp only [Except.ok.injEq, reduceCtorEq] at h
    subst h
    rfl
  · subst h
    rw [dif_pos flags.known]

end Zrm.L1.Scalar
