import Mathlib.Data.Finsupp.Defs
import Zrm.Core.FormalSum

/-!
# Normal forms as finitely supported functions

A normal form lists the symbols of a finitely supported function with their values, so
the normal forms are these functions in another notation.

* `exists_normal`: every such function has a normal form.
* `normalEquiv`: the bijection, by coefficients.
-/
namespace Zrm.FormalSum

variable {κ ν : Type} [LinearOrder κ] [LinearOrder ν] [Zero ν]

/-- The coefficients, zero but for the symbols of the rows. -/
noncomputable def coeffs (l : List (κ × ν)) : κ →₀ ν :=
  Finsupp.onFinset (l.map Prod.fst).toFinset (coeff l) fun k hk => by
    rw [List.mem_toFinset]
    by_contra hmem
    exact hk (coeff_of_not_mem hmem)

theorem exists_normal (f : κ →₀ ν) : ∃ l, Normal l ∧ ∀ k, coeff l k = f k := by
  have hkeys : ((f.support.toList.map fun k => (k, f k)).map Prod.fst) = f.support.toList := by
    rw [List.map_map]
    exact List.map_id _
  have hnodup : ((f.support.toList.map fun k => (k, f k)).map Prod.fst).Nodup := by
    rw [hkeys]
    exact f.support.nodup_toList
  refine ⟨_, normal_normalRows hnodup, fun k => ?_⟩
  rw [coeff_normalRows hnodup]
  by_cases hk : k ∈ f.support
  · have hrow : (k, f k) ∈ f.support.toList.map fun k => (k, f k) :=
      List.mem_map_of_mem (Finset.mem_toList.mpr hk)
    exact coeff_of_mem hnodup hrow
  · rw [Finsupp.notMem_support_iff.mp hk, coeff_of_not_mem]
    rw [hkeys, Finset.mem_toList]
    exact hk

/-- Normal forms are the finitely supported functions. -/
noncomputable def normalEquiv : {l : List (κ × ν) // Normal l} ≃ (κ →₀ ν) :=
  Equiv.ofBijective (fun l => coeffs l.1) <| by
    refine ⟨fun l l' h => ?_, fun f => ?_⟩
    · exact Subtype.ext (ext_coeff l.2 l'.2 fun k => DFunLike.congr_fun h k)
    · obtain ⟨l, hl, hcoeff⟩ := exists_normal f
      exact ⟨⟨l, hl⟩, Finsupp.ext hcoeff⟩

end Zrm.FormalSum
