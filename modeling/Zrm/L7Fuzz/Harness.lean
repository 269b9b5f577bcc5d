import Zrm.L1Types.Opaque
import Zrm.L1Types.Scalar

/-!
# What the fuzz targets share (`fuzz/fuzz_targets`)

A target is a total function of arbitrary bytes with the value `Option Unit`: `some ()` if it
ends, `none` if it panics or never ends. A failed assertion is a panic, so the assertions of
a target are steps of the function (`assertThat`), and that a target never panics is a
statement about every byte string. Bytes that do not spell an input end the target at once.

What the host answers (allocations, the digest) is a parameter of each target. Every
allocation that can be refused has a reply of its own, indexed by its place in the run;
those that abort on refusal (`vec!`, `clone`, `to_vec`) are left out.

Results:
* `readInt_eq_some`, `exists_readInt`: which integers are read at an offset.
* `nonzero_eq`: an id of equal nonzero bytes exists.
* `forM_eq_some`: a loop of assertions ends if and only if all of them hold.
-/
namespace Zrm.L7.Harness

open Zrm.BigEndian L1.Ids

/-- `assert!(condition)` -/
def assertThat (condition : Bool) : Option Unit := if condition then some () else none

/-- `data.get(start..stop)` -/
def getRange (data : List UInt8) (start stop : Nat) : Option (List UInt8) :=
  if start ≤ stop ∧ stop ≤ data.length then some ((data.drop start).take (stop - start)) else none

/-- `<[u8; n]>::try_from(bytes).ok()` -/
def arrayOf (n : Nat) (bytes : List UInt8) : Option (Bytes n) :=
  if h : bytes.length = n then some ⟨bytes, h⟩ else none

/-- `T::try_from(bytes).ok()` -/
def opaqueOf {name : OpaqueName} (bytes : Bytes 32) : Option (Opaque name) :=
  (Opaque.tryFrom bytes).toOption

/-- mirrors fuzz/fuzz_targets/policy_resource_dimensions_v1.rs:24-29 -/
def nonzero {name : OpaqueName} (byte : UInt8) : Option (Opaque name) :=
  opaqueOf (Bytes.replicate 32 byte)

/-- The integer of `n` bytes at an offset. -/
def readInt {α : Type} {n : Nat} [BeInt α n] (data : List UInt8) (offset : Nat) : Option α := do
  let bytes ← getRange data offset (offset + n)
  let array ← arrayOf n bytes
  return fromBeBytes array

/-- mirrors fuzz/fuzz_targets/resource_roles_v1.rs:32-36 -/
def readU16 (data : List UInt8) (offset : Nat) : Option UInt16 := readInt data offset

/-- mirrors crates/zrm-policy/src/cost/fuzz_assertions.rs:19-23 -/
def readU64 (data : List UInt8) (offset : Nat) : Option UInt64 := readInt data offset

/-- mirrors fuzz/fuzz_targets/policy_resource_dimensions_v1.rs:18-22 -/
def readU128 (data : List UInt8) (offset : Nat) : Option U128 := readInt data offset

section
variable {α : Type} {n : Nat} [BeInt α n]

/-- An integer is read if and only if its bytes stand at the offset. -/
theorem readInt_eq_some {data : List UInt8} {offset : Nat} {x : α} : readInt data offset = some x ↔
    offset + n ≤ data.length ∧ (data.drop offset).take n = (toBeBytes x).toList := by
  rw [readInt, getRange]
  by_cases hrange : offset + n ≤ data.length
  · have hslice : ((data.drop offset).take n).length = n := by
      rw [List.length_take, List.length_drop]
      omega
    rw [if_pos ⟨Nat.le_add_right offset n, hrange⟩, Nat.add_sub_cancel_left]
    simp only [Option.bind_eq_bind, Option.bind_some, arrayOf, dif_pos hslice, Option.pure_def,
      Option.some.injEq, hrange, true_and]
    refine ⟨fun h => ?_, fun h => ?_⟩
    · rw [← h, toBeBytes_fromBeBytes]
    · have harray : (⟨(data.drop offset).take n, hslice⟩ : Bytes n) = toBeBytes x := Bytes.ext h
      rw [harray, fromBeBytes_toBeBytes]
  · rw [if_neg fun h => hrange h.2]
    simp [hrange]

theorem readInt_iff_drop (hn : 0 < n) {data : List UInt8} {offset : Nat} {x : α} :
    readInt data offset = some x ↔ data.drop offset = (toBeBytes x).toList ++ data.drop (offset + n) := by
  rw [readInt_eq_some, ← List.drop_drop]
  refine ⟨fun h => ?_, fun h => ?_⟩
  · rw [← h.2, List.take_append_drop]
  · have hlength := congrArg List.length h
    rw [List.length_append, Bytes.length_toList, List.length_drop, List.length_drop, List.length_drop] at hlength
    have htake : (data.drop offset).take n = (toBeBytes x).toList := by
      rw [h, List.take_left' (Bytes.length_toList _)]
    exact ⟨by omega, htake⟩

end

theorem nonzero_eq {name : OpaqueName} {byte : UInt8} (h : byte ≠ 0) :
    (nonzero byte : Option (Opaque name)) = some (.repeated byte) := by
  cases hid : (Opaque.tryFrom (.replicate 32 byte) : Except _ (Opaque name)) with
  | error e =>
    have hzero := allZero_iff.mp (Opaque.tryFrom_eq_error.mp hid)
    exact absurd ((List.replicate_inj.mp (congrArg Bytes.toList hzero)).2.resolve_left (by decide)) h
  | ok id =>
    have hrepeated : (Opaque.repeated byte : Opaque name) = id := by
      rw [Opaque.repeated, hid]
      rfl
    rw [nonzero, opaqueOf, hid, hrepeated]
    rfl

/-- Integers are there to be read as far as the bytes go. -/
theorem exists_readInt {α : Type} {n : Nat} [BeInt α n] {data : List UInt8} {offset : Nat}
    (h : offset + n ≤ data.length) : ∃ x : α, readInt data offset = some x := by
  have hslice : ((data.drop offset).take n).length = n := by
    rw [List.length_take, List.length_drop]
    omega
  refine ⟨fromBeBytes ⟨_, hslice⟩, readInt_eq_some.mpr ⟨h, ?_⟩⟩
  rw [toBeBytes_fromBeBytes]

theorem eq_none_iff {x : Option Unit} : x = none ↔ ¬ x = some () := by
  cases x <;> simp

@[simp] theorem assertThat_eq_some {condition : Bool} {u : Unit} :
    assertThat condition = some u ↔ condition = true := by
  cases condition <;> simp [assertThat]

@[simp] theorem assertThat_true : assertThat true = some () := rfl

@[simp] theorem assertThat_eq_none {condition : Bool} :
    assertThat condition = none ↔ condition = false := by
  cases condition <;> simp [assertThat]

/-- A loop of assertions ends if and only if all of them hold. -/
theorem forM_eq_some {α : Type} {f : α → Option Unit} {l : List α} :
    forM l f = some () ↔ ∀ a ∈ l, f a = some () := by
  induction l with
  | nil => simp
  | cons a l ih =>
    rw [List.forM_cons, List.forall_mem_cons, ← ih]
    cases f a <;> simp

end Zrm.L7.Harness
