import Mathlib.Algebra.Order.Ring.Int
import Mathlib.Data.String.Basic
import Zrm.Core.FormalSum
import Zrm.Core.Result
import Zrm.L5Reference.CanonicalJson

/-!
# Formal points (`arm_zrm_frontier_v1.py`)

A point is a formal linear combination of symbols, in normal form. Every
constructor goes through the checks of the class; `from_mapping`, `basis`,
`add` and `scale` always pass them, and the point they return is the one with
the coefficients in question.

* `LinearPoint.ext_coefficient`: points with the same coefficients are equal.
* `fromMapping_ok`, `basis_ok`, `add_ok`, `scale_ok`: what the operations return.
* `isKnownGeneratorMultiple_iff`: only the generator has a coefficient.
-/
namespace Zrm.L5.Frontier

open Zrm Zrm.Result Zrm.FormalSum Zrm.L5.CanonicalJson

/-- mirrors reference_models/arm_zrm_frontier_v1.py:17 -/
def GENERATOR : String := "G"

/-- mirrors reference_models/arm_zrm_frontier_v1.py:20-21 -/
structure FrontierError where
  text : String
  deriving DecidableEq, Repr

/-- mirrors reference_models/arm_zrm_frontier_v1.py:24-32 -/
structure LinearPoint where
  coefficients : List (String × Int)
  normal : Normal coefficients
  deriving DecidableEq

namespace LinearPoint

/-- mirrors reference_models/arm_zrm_frontier_v1.py:34-39 -/
def tryNew (coefficients : List (String × Int)) : Except FrontierError LinearPoint :=
  if hunique : ((normalRows coefficients).map Prod.fst).Nodup then
    if hnormal : normalRows coefficients = coefficients then
      .ok ⟨coefficients, normalRows_iff.mp ⟨hnormal, hnormal ▸ hunique⟩⟩
    else .error ⟨"linear point must be normalized and sorted"⟩
  else .error ⟨"duplicate formal-basis symbol"⟩

/-- mirrors reference_models/arm_zrm_frontier_v1.py:41-43 -/
def fromMapping (values : Dict String Int) : Except FrontierError LinearPoint :=
  tryNew (normalRows values.items)

/-- mirrors reference_models/arm_zrm_frontier_v1.py:45-47 -/
def basis (symbol : String) (coefficient : Int) : Except FrontierError LinearPoint :=
  fromMapping (.ofItems [(symbol, coefficient)])

/-- mirrors reference_models/arm_zrm_frontier_v1.py:53-54 -/
def asMapping (p : LinearPoint) : Dict String Int := .ofItems p.coefficients

/-- mirrors reference_models/arm_zrm_frontier_v1.py:56-60 -/
def add (p other : LinearPoint) : Except FrontierError LinearPoint :=
  fromMapping (accumulate p.asMapping other.coefficients)

/-- mirrors reference_models/arm_zrm_frontier_v1.py:62-65 -/
def scale (p : LinearPoint) (scalar : Int) : Except FrontierError LinearPoint :=
  fromMapping (.ofItems (p.coefficients.map fun x => (x.1, x.2 * scalar)))

/-- mirrors reference_models/arm_zrm_frontier_v1.py:67-68 -/
def coefficient (p : LinearPoint) (symbol : String) : Int := (p.asMapping.get? symbol).getD 0

/-- mirrors reference_models/arm_zrm_frontier_v1.py:70-72 -/
def isKnownGeneratorMultiple (p : LinearPoint) : Bool :=
  p.coefficients.all fun x => x.1 == GENERATOR

/-- mirrors reference_models/arm_zrm_frontier_v1.py:74-75 -/
def knownGeneratorScalar (p : LinearPoint) : Option Int :=
  if p.isKnownGeneratorMultiple then some (p.coefficient GENERATOR) else none

/-- mirrors reference_models/arm_zrm_frontier_v1.py:77-78 -/
def canonical (p : LinearPoint) : Payload :=
  .list (p.coefficients.map fun x => .list [.str x.1, .int x.2])

/-! ## Coefficients determine a point -/

theorem asMapping_items (p : LinearPoint) : p.asMapping.items = p.coefficients :=
  Dict.ofItems_items p.normal.nodup

theorem coefficient_eq (p : LinearPoint) (x : String) :
    p.coefficient x = coeff p.coefficients x := by
  unfold coefficient Dict.get?
  rw [asMapping_items]
  rfl

theorem ext_coefficient {p q : LinearPoint} (h : ∀ x, p.coefficient x = q.coefficient x) :
    p = q := by
  have hrows : p.coefficients = q.coefficients := by
    refine ext_coeff p.normal q.normal fun x => ?_
    rw [← coefficient_eq, ← coefficient_eq, h]
  cases p
  cases q
  cases hrows
  rfl

/-! ## The operations -/

theorem tryNew_of_normal {coefficients : List (String × Int)} (h : Normal coefficients) :
    tryNew coefficients = .ok ⟨coefficients, h⟩ := by
  have heq := h.normalRows_eq
  unfold tryNew
  rw [dif_pos (heq.symm ▸ h.nodup), dif_pos heq]

theorem fromMapping_ok (values : Dict String Int) :
    ∃ p, fromMapping values = .ok p ∧ ∀ x, p.coefficient x = coeff values.items x := by
  refine ⟨_, tryNew_of_normal (normal_normalRows values.nodup), fun x => ?_⟩
  rw [coefficient_eq]
  exact coeff_normalRows values.nodup x

theorem basis_ok (symbol : String) (c : Int) :
    ∃ p, basis symbol c = .ok p ∧ ∀ x, p.coefficient x = if x = symbol then c else 0 := by
  obtain ⟨p, hp, hcoeff⟩ := fromMapping_ok (.ofItems [(symbol, c)])
  refine ⟨p, hp, fun x => ?_⟩
  rw [hcoeff, Dict.ofItems_items (l := [(symbol, c)]) (List.nodup_singleton symbol), coeff_cons,
    coeff_nil]

theorem add_ok (p q : LinearPoint) :
    ∃ r, p.add q = .ok r ∧ ∀ x, r.coefficient x = p.coefficient x + q.coefficient x := by
  obtain ⟨r, hr, hcoeff⟩ := fromMapping_ok (accumulate p.asMapping q.coefficients)
  refine ⟨r, hr, fun x => ?_⟩
  rw [hcoeff, coeff_accumulate, sum_map_ite q.normal.nodup, asMapping_items, coefficient_eq,
    coefficient_eq]

theorem scale_ok (p : LinearPoint) (scalar : Int) :
    ∃ r, p.scale scalar = .ok r ∧ ∀ x, r.coefficient x = p.coefficient x * scalar := by
  obtain ⟨r, hr, hcoeff⟩ :=
    fromMapping_ok (.ofItems (p.coefficients.map fun x => (x.1, x.2 * scalar)))
  have hkeys : ((p.coefficients.map fun x => (x.1, x.2 * scalar)).map Prod.fst).Nodup := by
    rw [List.map_map]
    exact p.normal.nodup
  refine ⟨r, hr, fun x => ?_⟩
  rw [hcoeff, Dict.ofItems_items hkeys, coefficient_eq]
  exact coeff_map (f := (· * scalar)) (Int.zero_mul scalar) p.coefficients x

/-! ## Known multiples of the generator -/

theorem isKnownGeneratorMultiple_iff {p : LinearPoint} :
    p.isKnownGeneratorMultiple = true ↔ ∀ x, x ≠ GENERATOR → p.coefficient x = 0 := by
  unfold isKnownGeneratorMultiple
  rw [List.all_eq_true]
  refine ⟨fun h => ?_, fun h => ?_⟩
  · intro x hx
    rw [coefficient_eq]
    by_contra hne
    exact hx (eq_of_beq (h _ (mem_of_coeff p.normal.nodup hne)))
  · intro row hrow
    obtain ⟨hcoeff, hne⟩ := p.normal.mem_iff.mp hrow
    by_contra hx
    exact hne (hcoeff.symm.trans ((coefficient_eq p row.1).symm.trans (h row.1 (by simpa using hx))))

theorem knownGeneratorScalar_eq_some {p : LinearPoint} {scalar : Int} :
    p.knownGeneratorScalar = some scalar ↔
      (∀ x, x ≠ GENERATOR → p.coefficient x = 0) ∧ p.coefficient GENERATOR = scalar := by
  rw [← isKnownGeneratorMultiple_iff]
  unfold knownGeneratorScalar
  split <;> simp_all

end LinearPoint

end Zrm.L5.Frontier
