import Mathlib.Algebra.Module.Basic
import Mathlib.Data.Finsupp.SMul
import Zrm.Core.FreeModule
import Zrm.L5Reference.LinearPoint

/-!
# Points as a free module (`arm_zrm_frontier_v1.py`)

Points are the integer functions on the symbols with finite support, and `add` and
`scale` are the operations of that module, so its laws are the laws of points.

* `LinearPoint.add_eq`, `LinearPoint.scale_eq`: what the operations are.
* `linear_point_module`: the laws, and equality by coefficients.
-/
namespace Zrm.L5.Frontier
open Zrm Zrm.Result Zrm.FormalSum

namespace LinearPoint

/-- mirrors reference_models/arm_zrm_frontier_v1.py:49-51 -/
def zero : Except FrontierError LinearPoint := tryNew []

/-! ## Points as functions -/

def rowsEquiv : LinearPoint ≃ {l : List (String × Int) // Normal l} where
  toFun p := ⟨p.coefficients, p.normal⟩
  invFun l := ⟨l.1, l.2⟩

/-- The functions on the symbols with finite support. -/
noncomputable def pointEquiv : LinearPoint ≃ (String →₀ Int) := rowsEquiv.trans normalEquiv

theorem pointEquiv_apply (p : LinearPoint) (x : String) : pointEquiv p x = p.coefficient x :=
  (p.coefficient_eq x).symm

/-- The point of a function, known by its coefficients. -/
theorem eq_point {p : LinearPoint} {f : String →₀ Int} (h : ∀ x, p.coefficient x = f x) :
    p = pointEquiv.symm f := by
  rw [Equiv.eq_symm_apply]
  exact Finsupp.ext fun x => (pointEquiv_apply p x).trans (h x)

theorem add_eq (p q : LinearPoint) :
    p.add q = .ok (pointEquiv.symm (pointEquiv p + pointEquiv q)) := by
  obtain ⟨r, hr, hcoeff⟩ := add_ok p q
  have hpoint : r = pointEquiv.symm (pointEquiv p + pointEquiv q) := eq_point fun x => by
    rw [hcoeff, Finsupp.add_apply, pointEquiv_apply, pointEquiv_apply]
  rw [hr, hpoint]

theorem scale_eq (p : LinearPoint) (scalar : Int) :
    p.scale scalar = .ok (pointEquiv.symm (scalar • pointEquiv p)) := by
  obtain ⟨r, hr, hcoeff⟩ := scale_ok p scalar
  have hpoint : r = pointEquiv.symm (scalar • pointEquiv p) := eq_point fun x => by
    rw [hcoeff, Finsupp.smul_apply, pointEquiv_apply, smul_eq_mul, Int.mul_comm]
  rw [hr, hpoint]

theorem zero_eq : zero = .ok (pointEquiv.symm 0) := by
  have hnormal : Normal ([] : List (String × Int)) := ⟨.nil, nofun⟩
  have hpoint : ⟨[], hnormal⟩ = pointEquiv.symm 0 := eq_point fun x => by
    rw [coefficient_eq]
    rfl
  rw [zero, tryNew_of_normal hnormal, hpoint]

theorem coefficient_symm (f : String →₀ Int) (x : String) :
    (pointEquiv.symm f).coefficient x = f x := by
  rw [← pointEquiv_apply, Equiv.apply_symm_apply]

end LinearPoint

/-! ## Main result -/

/-- **The module of points.** `add` and `scale` always return, a point in normal form with
the coefficients in question. They obey the laws of a module with `zero`, every function with
finite support is the coefficients of a point, and of one only. -/
theorem linear_point_module :
    (∀ p q : LinearPoint, ∃ r, p.add q = .ok r ∧ Normal r.coefficients ∧
      ∀ x, r.coefficient x = p.coefficient x + q.coefficient x) ∧
    (∀ (p : LinearPoint) s, ∃ r, p.scale s = .ok r ∧ Normal r.coefficients ∧
      ∀ x, r.coefficient x = p.coefficient x * s) ∧
    (∀ p q r : LinearPoint, (p.add q >>= fun a => a.add r) = (q.add r >>= fun b => p.add b)) ∧
    (∀ p q : LinearPoint, p.add q = q.add p) ∧
    (∃ zero, LinearPoint.zero = .ok zero ∧
      (∀ p : LinearPoint, p.add zero = .ok p ∧ zero.add p = .ok p) ∧
      ∀ p : LinearPoint, (p.scale (-1) >>= fun n => p.add n) = .ok zero) ∧
    (∀ (p q : LinearPoint) s, (p.add q >>= fun a => a.scale s) =
      (p.scale s >>= fun a => q.scale s >>= fun b => a.add b)) ∧
    (∀ (p : LinearPoint) s t, p.scale (s + t) =
      (p.scale s >>= fun a => p.scale t >>= fun b => a.add b)) ∧
    (∀ (p : LinearPoint) s t, (p.scale s >>= fun a => a.scale t) = p.scale (s * t)) ∧
    (∀ p q : LinearPoint, p.coefficients = q.coefficients ↔
      ∀ x, p.coefficient x = q.coefficient x) ∧
    ∀ f : String →₀ Int, ∃! p : LinearPoint, ∀ x, p.coefficient x = f x := by
  simp only [LinearPoint.add_eq, LinearPoint.scale_eq, LinearPoint.zero_eq, ok_bind,
    Equiv.apply_symm_apply]
  refine ⟨fun p q => ?_, fun p s => ?_, fun p q r => ?_, fun p q => ?_, ?_, fun p q s => ?_,
    fun p s t => ?_, fun p s t => ?_, fun p q => ?_, fun f => ?_⟩
  · refine ⟨_, rfl, LinearPoint.normal _, fun x => ?_⟩
    rw [LinearPoint.coefficient_symm, Finsupp.add_apply, LinearPoint.pointEquiv_apply,
      LinearPoint.pointEquiv_apply]
  · refine ⟨_, rfl, LinearPoint.normal _, fun x => ?_⟩
    rw [LinearPoint.coefficient_symm, Finsupp.smul_apply, LinearPoint.pointEquiv_apply,
      smul_eq_mul, Int.mul_comm]
  · rw [add_assoc]
  · rw [add_comm]
  · refine ⟨_, rfl, fun p => ⟨?_, ?_⟩, fun p => ?_⟩
    · rw [Equiv.apply_symm_apply, add_zero, Equiv.symm_apply_apply]
    · rw [Equiv.apply_symm_apply, zero_add, Equiv.symm_apply_apply]
    · rw [neg_one_smul, add_neg_cancel]
  · rw [smul_add]
  · rw [add_smul]
  · rw [smul_smul, Int.mul_comm]
  · refine ⟨fun h x => ?_, fun h => congrArg _ (LinearPoint.ext_coefficient h)⟩
    rw [LinearPoint.coefficient_eq, LinearPoint.coefficient_eq, h]
  · exact ⟨_, LinearPoint.coefficient_symm f, fun p hp => LinearPoint.eq_point hp⟩

end Zrm.L5.Frontier
