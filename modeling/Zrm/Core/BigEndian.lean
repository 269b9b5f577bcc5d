import Mathlib.Algebra.Ring.Nat
import Mathlib.Data.List.Basic

/-!
# Big-endian byte strings

Fixed-width big-endian encodings of naturals, and from them of any unsigned
integer type that is a copy of `[0, 256^n)`.

* `ofBe_toBe`, `toBe_ofBe`: at a fixed width, `toBe` and `ofBe` are inverse to
  each other (on naturals below `256^n` and on strings of length `n`).
* `fromBeBytes_toBeBytes`, `toBeBytes_fromBeBytes`: the same for a type with a
  `BeInt` instance.
* `packBe_eq_some`: an integer has bytes if and only if it fits.
-/
namespace Zrm.BigEndian

/-- A Rust array `[u8; n]`. -/
@[ext] structure Bytes (n : Nat) where
  toList : List UInt8
  length_toList : toList.length = n
  deriving DecidableEq

attribute [simp] Bytes.length_toList

/-- `[b; n]` -/
def Bytes.replicate (n : Nat) (b : UInt8) : Bytes n := ⟨List.replicate n b, List.length_replicate⟩

/-- The `n` low base-256 digits of `x`, most significant first. -/
def toBe : Nat → Nat → List UInt8
  | 0, _ => []
  | n + 1, x => UInt8.ofNat (x / 256 ^ n) :: toBe n x

/-- The natural a big-endian string spells. -/
def ofBe : List UInt8 → Nat
  | [] => 0
  | b :: l => b.toNat * 256 ^ l.length + ofBe l

@[simp] theorem toBe_length (n x : Nat) : (toBe n x).length = n := by
  induction n with
  | zero => rfl
  | succ n ih => simp [toBe, ih]

theorem ofBe_lt (l : List UInt8) : ofBe l < 256 ^ l.length := by
  induction l with
  | nil => simp [ofBe]
  | cons b l ih =>
    have hb := b.toNat_lt
    have hmul := Nat.mul_le_mul_right (256 ^ l.length) (show b.toNat ≤ 255 by omega)
    simp only [ofBe, List.length_cons, Nat.pow_succ]
    omega

theorem ofBe_toBe (n x : Nat) : ofBe (toBe n x) = x % 256 ^ n := by
  induction n with
  | zero => simp [toBe, ofBe, Nat.mod_one]
  | succ n ih =>
    have hdigit : (UInt8.ofNat (x / 256 ^ n)).toNat = x / 256 ^ n % 256 := UInt8.toNat_ofNat'
    simp only [toBe, ofBe, toBe_length, ih, hdigit]
    rw [Nat.mod_pow_succ (b := 256), Nat.mul_comm (256 ^ n), Nat.add_comm]

/-- The digits above the `n`-th do not matter. -/
theorem toBe_add_mul (n a x : Nat) : toBe n (a * 256 ^ n + x) = toBe n x := by
  induction n generalizing a with
  | zero => rfl
  | succ n ih =>
    have hpow : a * 256 ^ (n + 1) + x = (a * 256) * 256 ^ n + x := by
      rw [Nat.pow_succ, Nat.mul_assoc, Nat.mul_comm (256 ^ n)]
    have hdiv : ((a * 256) * 256 ^ n + x) / 256 ^ n = a * 256 + x / 256 ^ n := by
      rw [Nat.add_comm, Nat.add_mul_div_right _ _ (Nat.pow_pos (by decide)), Nat.add_comm]
    simp only [toBe]
    rw [hpow, ih, hdiv]
    congr 1
    apply UInt8.toNat_inj.mp
    simp only [UInt8.toNat_ofNat']
    omega

theorem toBe_ofBe (l : List UInt8) : toBe l.length (ofBe l) = l := by
  induction l with
  | nil => rfl
  | cons b l ih =>
    have hdiv : (b.toNat * 256 ^ l.length + ofBe l) / 256 ^ l.length = b.toNat := by
      rw [Nat.add_comm, Nat.add_mul_div_right _ _ (Nat.pow_pos (by decide)),
        Nat.div_eq_of_lt (ofBe_lt l), Nat.zero_add]
    simp only [List.length_cons, toBe, ofBe]
    rw [hdiv, toBe_add_mul, ih, UInt8.ofNat_toNat]

/-! ## Integers of any size -/

/-- An integer that `n` bytes hold. -/
def FitsBe (n : Nat) (value : Int) : Prop := 0 ≤ value ∧ value < (256 ^ n : Nat)

instance (n : Nat) (value : Int) : Decidable (FitsBe n value) := inferInstanceAs (Decidable (_ ∧ _))

/-- Its bytes; another integer has none. -/
def packBe (n : Nat) (value : Int) : Option (List UInt8) :=
  if FitsBe n value then some (toBe n value.toNat) else none

theorem packBe_eq_some {n : Nat} {value : Int} {bytes : List UInt8} :
    packBe n value = some bytes ↔ FitsBe n value ∧ bytes = toBe n value.toNat := by
  unfold packBe
  split <;> simp_all [eq_comm]

theorem fitsBe_natCast {n m : Nat} : FitsBe n m ↔ m < 256 ^ n := by
  unfold FitsBe
  omega

theorem toBe_inj {n x y : Nat} (hx : x < 256 ^ n) (hy : y < 256 ^ n) (h : toBe n x = toBe n y) : x = y := by
  have hvalue := congrArg ofBe h
  rwa [ofBe_toBe, ofBe_toBe, Nat.mod_eq_of_lt hx, Nat.mod_eq_of_lt hy] at hvalue

theorem FitsBe.toNat_lt {n : Nat} {value : Int} (h : FitsBe n value) : value.toNat < 256 ^ n := by
  obtain ⟨hnonneg, hlt⟩ := h
  omega

/-- Integers one after the other, in `n` bytes each. -/
def packed (n : Nat) (values : List Int) : List UInt8 := values.flatMap fun value => toBe n value.toNat

/-- As many integers of one width spell one byte string only. -/
theorem packed_inj {n : Nat} {values values' : List Int} {rest rest' : List UInt8}
    (hlength : values.length = values'.length) (h : ∀ value ∈ values, FitsBe n value)
    (h' : ∀ value ∈ values', FitsBe n value)
    (heq : packed n values ++ rest = packed n values' ++ rest') : values = values' ∧ rest = rest' := by
  induction values generalizing values' with
  | nil =>
    obtain rfl := List.length_eq_zero_iff.mp hlength.symm
    exact ⟨rfl, heq⟩
  | cons value values ih =>
    cases values' with
    | nil => cases hlength
    | cons value' values' =>
      rw [List.forall_mem_cons] at h h'
      have hsplit : toBe n value.toNat ++ (packed n values ++ rest) =
          toBe n value'.toNat ++ (packed n values' ++ rest') := by
        simpa [packed] using heq
      obtain ⟨hfirst, hlater⟩ := List.append_inj hsplit (by rw [toBe_length, toBe_length])
      obtain ⟨rfl, hrest⟩ := ih (Nat.succ.inj hlength) h.2 h'.2 hlater
      have htoNat := toBe_inj h.1.toNat_lt h'.1.toNat_lt hfirst
      have hvalue : value = value' := by
        have hnonneg := h.1.1
        have hnonneg' := h'.1.1
        omega
      exact ⟨by rw [hvalue], hrest⟩

/-! ## Unsigned integer types -/

/-- An unsigned integer type of `n` bytes: a copy of `[0, 256^n)`. -/
class BeInt (α : Type) (n : outParam Nat) where
  toNat : α → Nat
  ofNat : Nat → α
  toNat_lt : ∀ x, toNat x < 256 ^ n
  ofNat_toNat : ∀ x, ofNat (toNat x) = x
  toNat_ofNat : ∀ m, m < 256 ^ n → toNat (ofNat m) = m

instance : BeInt UInt16 2 where
  toNat := UInt16.toNat
  ofNat := UInt16.ofNat
  toNat_lt x := x.toNat_lt
  ofNat_toNat x := UInt16.ofNat_toNat
  toNat_ofNat m h := by rw [UInt16.toNat_ofNat']; exact Nat.mod_eq_of_lt h

instance : BeInt UInt32 4 where
  toNat := UInt32.toNat
  ofNat := UInt32.ofNat
  toNat_lt x := x.toNat_lt
  ofNat_toNat x := UInt32.ofNat_toNat
  toNat_ofNat m h := by rw [UInt32.toNat_ofNat']; exact Nat.mod_eq_of_lt h

instance : BeInt UInt64 8 where
  toNat := UInt64.toNat
  ofNat := UInt64.ofNat
  toNat_lt x := x.toNat_lt
  ofNat_toNat x := UInt64.ofNat_toNat
  toNat_ofNat m h := by rw [UInt64.toNat_ofNat']; exact Nat.mod_eq_of_lt h

/-- Rust `u128`. -/
abbrev U128 := BitVec 128

instance : BeInt U128 16 where
  toNat := BitVec.toNat
  ofNat := BitVec.ofNat 128
  toNat_lt x := x.isLt
  ofNat_toNat x := by simp
  toNat_ofNat m h := by rw [BitVec.toNat_ofNat]; exact Nat.mod_eq_of_lt h

section
variable {α : Type} {n : Nat} [BeInt α n]

/-- `to_be_bytes` -/
def toBeBytes (x : α) : Bytes n := ⟨toBe n (BeInt.toNat x), toBe_length n _⟩

/-- `from_be_bytes` -/
def fromBeBytes (v : Bytes n) : α := BeInt.ofNat (ofBe v.toList)

@[simp] theorem toList_toBeBytes (x : α) : (toBeBytes x).toList = toBe n (BeInt.toNat x) := rfl

@[simp] theorem fromBeBytes_toBeBytes (x : α) : fromBeBytes (toBeBytes x) = x := by
  unfold fromBeBytes
  rw [toList_toBeBytes, ofBe_toBe, Nat.mod_eq_of_lt (BeInt.toNat_lt x), BeInt.ofNat_toNat]

@[simp] theorem toBeBytes_fromBeBytes (v : Bytes n) : toBeBytes (fromBeBytes v : α) = v := by
  have hlen := v.length_toList
  have hlt : ofBe v.toList < 256 ^ n := by simpa only [hlen] using ofBe_lt v.toList
  apply Bytes.ext
  unfold fromBeBytes
  rw [toList_toBeBytes, BeInt.toNat_ofNat _ hlt]
  simpa only [hlen] using toBe_ofBe v.toList

theorem fromBeBytes_eq_iff (v : Bytes n) (x : α) :
    fromBeBytes v = x ↔ ofBe v.toList = BeInt.toNat x := by
  have hlt : ofBe v.toList < 256 ^ n := by simpa only [v.length_toList] using ofBe_lt v.toList
  refine ⟨fun h => ?_, fun h => ?_⟩
  · subst h
    exact (BeInt.toNat_ofNat _ hlt).symm
  · unfold fromBeBytes
    rw [h, BeInt.ofNat_toNat]

end

end Zrm.BigEndian
