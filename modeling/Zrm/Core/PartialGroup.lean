import Mathlib.Algebra.Group.Basic
import Mathlib.Logic.Basic

/-!
# Addition without the identity

The nonzero elements of a group with the sum as a partial operation: it is refused
when it is zero. The two ways to add up three elements agree when both are defined,
but one can be refused on the way where the other is not.

* `value_eq`: both ways give the same value.
* `leftFirst_ne_rightFirst`: when one of them is refused and the other is not.
-/
namespace Zrm.PartialGroup

variable {G : Type} [AddGroup G] [DecidableEq G]

/-- The sum, unless it is zero. -/
def add? (a b : G) : Option G := if a + b = 0 then none else some (a + b)

def leftFirst (a b c : G) : Option G := (add? a b).bind fun x => add? x c

def rightFirst (a b c : G) : Option G := (add? b c).bind fun y => add? a y

theorem add?_eq_none {a b : G} : add? a b = none ↔ a + b = 0 := by
  unfold add?
  split <;> simp [*]

theorem add?_eq_some {a b x : G} : add? a b = some x ↔ a + b ≠ 0 ∧ a + b = x := by
  unfold add?
  split <;> simp [*]

theorem leftFirst_eq_some {a b c x : G} :
    leftFirst a b c = some x ↔ a + b ≠ 0 ∧ a + b + c ≠ 0 ∧ a + b + c = x := by
  simp only [leftFirst, Option.bind_eq_some_iff, add?_eq_some]
  refine ⟨fun h => ?_, fun h => ⟨a + b, ⟨h.1, rfl⟩, h.2⟩⟩
  obtain ⟨_, ⟨hab, rfl⟩, habc⟩ := h
  exact ⟨hab, habc⟩

theorem rightFirst_eq_some {a b c x : G} :
    rightFirst a b c = some x ↔ b + c ≠ 0 ∧ a + b + c ≠ 0 ∧ a + b + c = x := by
  simp only [rightFirst, Option.bind_eq_some_iff, add?_eq_some, add_assoc]
  refine ⟨fun h => ?_, fun h => ⟨b + c, ⟨h.1, rfl⟩, h.2⟩⟩
  obtain ⟨_, ⟨hbc, rfl⟩, habc⟩ := h
  exact ⟨hbc, habc⟩

theorem leftFirst_eq_none {a b : G} (h : a + b = 0) (c : G) : leftFirst a b c = none := by
  rw [leftFirst, add?_eq_none.mpr h]
  rfl

theorem rightFirst_eq_none {b c : G} (h : b + c = 0) (a : G) : rightFirst a b c = none := by
  rw [rightFirst, add?_eq_none.mpr h]
  rfl

/-- Where both ways are defined they agree. -/
theorem value_eq {a b c x y : G} (hx : leftFirst a b c = some x) (hy : rightFirst a b c = some y) :
    x = y := by
  obtain ⟨-, -, rfl⟩ := leftFirst_eq_some.mp hx
  obtain ⟨-, -, rfl⟩ := rightFirst_eq_some.mp hy
  rfl

/-- On nonzero elements the two ways differ when one of the inner sums is zero and the other
is not: the sum of all three is then the outer element, which is not zero. -/
theorem leftFirst_ne_rightFirst {a b c : G} (ha : a ≠ 0) (hc : c ≠ 0) :
    leftFirst a b c ≠ rightFirst a b c ↔ Xor (a + b = 0) (b + c = 0) := by
  by_cases hab : a + b = 0
  · have hleft := leftFirst_eq_none hab c
    by_cases hbc : b + c = 0
    · have hright := rightFirst_eq_none hbc a
      simp [hleft, hright, hab, hbc, Xor]
    · have hsum : a + b + c = c := by rw [hab, zero_add]
      have hright : rightFirst a b c = some c :=
        rightFirst_eq_some.mpr ⟨hbc, hsum.symm ▸ hc, hsum⟩
      simp [hleft, hright, hab, hbc, Xor]
  · by_cases hbc : b + c = 0
    · have hsum : a + b + c = a := by rw [add_assoc, hbc, add_zero]
      have hleft : leftFirst a b c = some a :=
        leftFirst_eq_some.mpr ⟨hab, hsum.symm ▸ ha, hsum⟩
      have hright := rightFirst_eq_none hbc a
      simp [hleft, hright, hab, hbc, Xor]
    · have hsame : leftFirst a b c = rightFirst a b c := by
        refine Option.ext fun x => ?_
        rw [leftFirst_eq_some, rightFirst_eq_some]
        exact and_congr_left fun _ => iff_of_true hab hbc
      simp [hsame, hab, hbc, Xor]

end Zrm.PartialGroup
