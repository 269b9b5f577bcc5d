import Mathlib.Data.Int.Range
import Mathlib.Data.ZMod.Basic
import Zrm.Core.PartialGroup
import Zrm.L5Reference.SemanticSummary

/-!
# Partial scalars (`arm_zrm_frontier_v1.py`)

The nonzero residues compose by addition, which is refused when the sum is zero:
the partial addition of `ZMod`, so both ways to compose three scalars agree where
they are defined.

* `partialParenthesizations_ok`: the two ways, as those of the group.
* `find_ok`, `find_small`: the search, for every modulus.
* `partial_scalar_associativity`: when the ways differ, and the first difference.
-/
namespace Zrm.L5.Frontier
open Zrm Zrm.Result Zrm.PartialGroup

/-- mirrors reference_models/arm_zrm_frontier_v1.py:245-252 -/
def composeNonzeroScalar (left right modulus : Int) : Except FrontierError (Option Int) := do
  raiseIf (modulus ≤ 1) "modulus must exceed one"
  raiseIf (¬ ((0 < left ∧ left < modulus) ∧ 0 < right ∧ right < modulus))
    "partial carrier accepts only nonzero residues"
  let result := (left + right) % modulus
  return if result = 0 then none else some result

/-- `None if value is None else f(value)` -/
def ifSome (value : Option Int) (f : Int → Except FrontierError (Option Int)) :
    Except FrontierError (Option Int) :=
  match value with
  | none => .ok none
  | some x => f x

/-- mirrors reference_models/arm_zrm_frontier_v1.py:263-268 -/
def partialParenthesizations (a b c modulus : Int) :
    Except FrontierError (Option Int × Option Int) := do
  let leftFirst ← composeNonzeroScalar a b modulus
  let left ← ifSome leftFirst fun x => composeNonzeroScalar x c modulus
  let rightFirst ← composeNonzeroScalar b c modulus
  let right ← ifSome rightFirst fun x => composeNonzeroScalar a x modulus
  return (left, right)

abbrev Counterexample : Type := Int × Int × Int × Option Int × Option Int

/-- The body of the loops: the triple, if its two sides differ. -/
def differingSides (modulus a b c : Int) : Except FrontierError (Option Counterexample) := do
  let (left, right) ← partialParenthesizations a b c modulus
  return if left ≠ right then some (a, b, c, left, right) else none

/-- mirrors reference_models/arm_zrm_frontier_v1.py:271-278 -/
def findPartialAssociativityCounterexample (modulus : Int) : Except FrontierError Counterexample := do
  let found ← (Int.range 1 modulus).findSomeM? fun a =>
    (Int.range 1 modulus).findSomeM? fun b =>
      (Int.range 1 modulus).findSomeM? fun c => differingSides modulus a b c
  match found with
  | some counterexample => return counterexample
  | none => throw ⟨"no counterexample in selected modulus"⟩

/-! ## Scalars as residues -/

/-- The nonzero residues, as Python integers. -/
def IsScalar (modulus x : Int) : Prop := 0 < x ∧ x < modulus

/-- The element of the group. -/
def residue (modulus x : Int) : ZMod modulus.toNat := (x : ZMod modulus.toNat)

theorem composeNonzeroScalar_eq {m a b : Int} (ha : IsScalar m a) (hb : IsScalar m b) :
    composeNonzeroScalar a b m =
      .ok (if (a + b) % m = 0 then none else some ((a + b) % m)) := by
  have hm : ¬ m ≤ 1 := by
    obtain ⟨hpos, hlt⟩ := ha
    omega
  unfold composeNonzeroScalar raiseIf
  rw [if_neg hm, ok_bind, if_neg (not_not.mpr ⟨ha, hb⟩), ok_bind]
  rfl

section Residues

variable {m : Int} (hm : 2 ≤ m)
include hm

theorem residue_eq_iff {x y : Int} : residue m x = residue m y ↔ x % m = y % m := by
  unfold residue
  rw [ZMod.intCast_eq_intCast_iff', Int.toNat_of_nonneg (by omega)]

theorem residue_emod (x : Int) : residue m (x % m) = residue m x := by
  rw [residue_eq_iff hm, Int.emod_emod_of_dvd x (Int.dvd_refl m)]

theorem residue_eq_zero {x : Int} : residue m x = 0 ↔ x % m = 0 := by
  have hzero : residue m 0 = 0 := Int.cast_zero
  rw [← hzero, residue_eq_iff hm, Int.zero_emod]

theorem IsScalar.residue_ne_zero {x : Int} (hx : IsScalar m x) : residue m x ≠ 0 := by
  obtain ⟨hpos, hlt⟩ := hx
  rw [Ne, residue_eq_zero hm, Int.emod_eq_of_lt hpos.le hlt]
  exact hpos.ne'

theorem residue_injOn {x y : Int} (hx : IsScalar m x) (hy : IsScalar m y)
    (h : residue m x = residue m y) : x = y := by
  obtain ⟨hx0, hx1⟩ := hx
  obtain ⟨hy0, hy1⟩ := hy
  rwa [residue_eq_iff hm, Int.emod_eq_of_lt hx0.le hx1, Int.emod_eq_of_lt hy0.le hy1] at h

/-- `value` holds the scalar of a group element, or both are missing. -/
structure Represents (modulus : Int) (value : Option Int) (element : Option (ZMod modulus.toNat)) :
    Prop where
  map_eq : value.map (residue modulus) = element
  scalar : ∀ x, value = some x → IsScalar modulus x

theorem Represents.eq_iff {value value' : Option Int} {element element' : Option (ZMod m.toNat)}
    (h : Represents m value element) (h' : Represents m value' element') :
    value = value' ↔ element = element' := by
  rw [← h.map_eq, ← h'.map_eq]
  refine ⟨congrArg _, fun heq => ?_⟩
  cases value with
  | none => exact (Option.map_eq_none_iff.mp heq.symm).symm
  | some x =>
    obtain ⟨y, rfl, hxy⟩ := Option.map_eq_some_iff.mp heq.symm
    exact congrArg some (residue_injOn hm (h.scalar x rfl) (h'.scalar y rfl) hxy.symm)

/-- One composition is one partial addition. -/
theorem composeNonzeroScalar_ok {a b : Int} (ha : IsScalar m a) (hb : IsScalar m b) :
    ∃ value, composeNonzeroScalar a b m = .ok value ∧
      Represents m value (add? (residue m a) (residue m b)) := by
  have hadd : residue m (a + b) = residue m a + residue m b := Int.cast_add a b
  have hzero : residue m a + residue m b = 0 ↔ (a + b) % m = 0 := by
    rw [← hadd, residue_eq_zero hm]
  refine ⟨_, composeNonzeroScalar_eq ha hb, ?_, fun x hx => ?_⟩
  · unfold add?
    by_cases h : (a + b) % m = 0
    · rw [if_pos h, if_pos (hzero.mpr h)]
      rfl
    · rw [if_neg h, if_neg (hzero.not.mpr h), Option.map_some, residue_emod hm, hadd]
  · split at hx
    · cases hx
    · rename_i h
      cases hx
      have hnonneg := Int.emod_nonneg (a + b) (show m ≠ 0 by omega)
      exact ⟨by omega, Int.emod_lt_of_pos _ (by omega)⟩

omit hm in
/-- A second composition, if the first one has a value. -/
theorem ifSome_ok {value : Option Int} {element : Option (ZMod m.toNat)}
    (h : Represents m value element) {f : Int → Except FrontierError (Option Int)}
    {g : ZMod m.toNat → Option (ZMod m.toNat)}
    (hf : ∀ x, IsScalar m x → ∃ value', f x = .ok value' ∧ Represents m value' (g (residue m x))) :
    ∃ value', ifSome value f = .ok value' ∧ Represents m value' (element.bind g) := by
  obtain ⟨rfl, hscalar⟩ := h
  cases value with
  | none => exact ⟨none, rfl, rfl, nofun⟩
  | some x => exact hf x (hscalar x rfl)

/-- The two ways to compose three scalars are those of the group. -/
theorem partialParenthesizations_ok {a b c : Int} (ha : IsScalar m a) (hb : IsScalar m b)
    (hc : IsScalar m c) :
    ∃ left right, partialParenthesizations a b c m = .ok (left, right) ∧
      Represents m left (leftFirst (residue m a) (residue m b) (residue m c)) ∧
      Represents m right (rightFirst (residue m a) (residue m b) (residue m c)) := by
  obtain ⟨first, hfirst, hab⟩ := composeNonzeroScalar_ok hm ha hb
  obtain ⟨left, hleft, hleftRep⟩ := ifSome_ok (f := fun x => composeNonzeroScalar x c m)
    (g := fun x => add? x (residue m c)) hab fun x hx => composeNonzeroScalar_ok hm hx hc
  obtain ⟨second, hsecond, hbc⟩ := composeNonzeroScalar_ok hm hb hc
  obtain ⟨right, hright, hrightRep⟩ := ifSome_ok (f := fun x => composeNonzeroScalar a x m)
    (g := fun x => add? (residue m a) x) hbc fun x hx => composeNonzeroScalar_ok hm ha hx
  refine ⟨left, right, ?_, hleftRep, hrightRep⟩
  rw [partialParenthesizations, hfirst, ok_bind, hleft, ok_bind, hsecond, ok_bind, hright, ok_bind]
  rfl

/-- The sides agree where they are defined, and differ when one inner sum is zero. -/
theorem partialParenthesizations_sides {a b c : Int} (ha : IsScalar m a) (hb : IsScalar m b)
    (hc : IsScalar m c) :
    ∃ left right, partialParenthesizations a b c m = .ok (left, right) ∧
      (∀ x y, left = some x → right = some y → x = y) ∧
      (left ≠ right ↔ Xor ((a + b) % m = 0) ((b + c) % m = 0)) := by
  obtain ⟨left, right, hsides, hleft, hright⟩ := partialParenthesizations_ok hm ha hb hc
  refine ⟨left, right, hsides, fun x y hx hy => ?_, ?_⟩
  · subst hx
    subst hy
    have hvalue := value_eq hleft.map_eq.symm hright.map_eq.symm
    exact residue_injOn hm (hleft.scalar x rfl) (hright.scalar y rfl) hvalue
  · have hsum (x y : Int) : residue m x + residue m y = 0 ↔ (x + y) % m = 0 := by
      rw [← residue_eq_zero hm, residue, residue, residue, Int.cast_add]
    rw [Ne, hleft.eq_iff hm hright, ← Ne,
      leftFirst_ne_rightFirst (ha.residue_ne_zero hm) (hc.residue_ne_zero hm), hsum, hsum]

end Residues

/-! ## The search -/

theorem range_cons {start stop : Int} (h : start < stop) :
    Int.range start stop = start :: Int.range (start + 1) stop := by
  unfold Int.range
  obtain ⟨n, hn⟩ : ∃ n, (stop - start).toNat = n + 1 := ⟨(stop - start).toNat - 1, by omega⟩
  have hrest : (stop - (start + 1)).toNat = n := by omega
  rw [hn, hrest, List.range_succ_eq_map, List.map_cons, List.map_map]
  congr 1
  · omega
  · refine List.map_congr_left fun i _ => ?_
    simp only [Function.comp_apply, Nat.succ_eq_add_one]
    omega

theorem range_concat {start stop : Int} (h : start ≤ stop) :
    Int.range start (stop + 1) = Int.range start stop ++ [stop] := by
  unfold Int.range
  have hn : (stop + 1 - start).toNat = (stop - start).toNat + 1 := by omega
  rw [hn, List.range_succ, List.map_append, List.map_singleton]
  congr 2
  omega

/-- Triples without a difference are passed over. -/
theorem differingSides_none {m a b c : Int} (hm : 2 ≤ m) (ha : IsScalar m a) (hb : IsScalar m b)
    (hc : IsScalar m c) (h : ¬ Xor ((a + b) % m = 0) ((b + c) % m = 0)) :
    differingSides m a b c = .ok none := by
  obtain ⟨left, right, hsides, -, hdiffer⟩ := partialParenthesizations_sides hm ha hb hc
  have hsame : ¬ left ≠ right := fun hne => h (hdiffer.mp hne)
  rw [differingSides, hsides, ok_bind]
  simp only [if_neg hsame]
  rfl

/-- The difference at `(1, 1, m - 1)`. -/
theorem differingSides_hit {m : Int} (hm : 3 ≤ m) :
    differingSides m 1 1 (m - 1) = .ok (some (1, 1, m - 1, some 1, none)) := by
  have hscalar1 : IsScalar m 1 := ⟨by omega, by omega⟩
  have hscalar2 : IsScalar m 2 := ⟨by omega, by omega⟩
  have hscalar3 : IsScalar m (m - 1) := ⟨by omega, by omega⟩
  have htwo : (1 + 1) % m = 2 := Int.emod_eq_of_lt (by omega) (by omega)
  have hone : (2 + (m - 1)) % m = 1 := by
    rw [show 2 + (m - 1) = 1 + m by omega, Int.add_emod_right]
    exact Int.emod_eq_of_lt (by omega) (by omega)
  have hzero : (1 + (m - 1)) % m = 0 := by
    rw [show 1 + (m - 1) = m by omega, Int.emod_self]
  have hab : composeNonzeroScalar 1 1 m = .ok (some 2) := by
    rw [composeNonzeroScalar_eq hscalar1 hscalar1, htwo]
    rfl
  have habc : composeNonzeroScalar 2 (m - 1) m = .ok (some 1) := by
    rw [composeNonzeroScalar_eq hscalar2 hscalar3, hone]
    rfl
  have hbc : composeNonzeroScalar 1 (m - 1) m = .ok none := by
    rw [composeNonzeroScalar_eq hscalar1 hscalar3, hzero]
    rfl
  rw [differingSides, partialParenthesizations, hab, ok_bind, ifSome, habc, ok_bind, hbc, ok_bind]
  rfl

/-- With `1` and `1`, the first difference is at the negative of `1`. -/
theorem find_third {m : Int} (hm : 3 ≤ m) :
    (Int.range 1 m).findSomeM? (fun c => differingSides m 1 1 c) =
      .ok (some (1, 1, m - 1, some 1, none)) := by
  have hrange : Int.range 1 m = Int.range 1 (m - 1) ++ [m - 1] := by
    have hle : 1 ≤ m - 1 := by omega
    have hconcat := range_concat hle
    rwa [Int.sub_add_cancel] at hconcat
  have hbefore : ∀ c ∈ Int.range 1 (m - 1), differingSides m 1 1 c = .ok none := by
    intro c hc
    rw [Int.mem_range_iff] at hc
    have htwo : (1 + 1) % m = 2 := Int.emod_eq_of_lt (by omega) (by omega)
    have hthree : (1 + c) % m = 1 + c := Int.emod_eq_of_lt (by omega) (by omega)
    refine differingSides_none (by omega) ⟨by omega, by omega⟩ ⟨by omega, by omega⟩
      ⟨by omega, by omega⟩ ?_
    rw [htwo, hthree, Xor]
    omega
  rw [hrange, findSomeM?_append hbefore]
  exact findSomeM?_cons_some (differingSides_hit hm) []

/-- A search that succeeds at `1` ends there. -/
theorem findSomeM?_range {m : Int} (hm : 1 < m) {f : Int → Except FrontierError (Option Counterexample)}
    {r : Counterexample} (h : f 1 = .ok (some r)) : (Int.range 1 m).findSomeM? f = .ok (some r) := by
  rw [range_cons hm]
  exact findSomeM?_cons_some h _

theorem find_ok {m : Int} (hm : 3 ≤ m) :
    findPartialAssociativityCounterexample m = .ok (1, 1, m - 1, some 1, none) := by
  have hsecond := findSomeM?_range (m := m) (f := fun b =>
    (Int.range 1 m).findSomeM? fun c => differingSides m 1 b c) (by omega) (find_third hm)
  have hfirst := findSomeM?_range (m := m) (f := fun a => (Int.range 1 m).findSomeM? fun b =>
    (Int.range 1 m).findSomeM? fun c => differingSides m a b c) (by omega) hsecond
  rw [findPartialAssociativityCounterexample, hfirst]
  rfl

theorem find_small {m : Int} (hm : m ≤ 2) :
    findPartialAssociativityCounterexample m =
      .error ⟨"no counterexample in selected modulus"⟩ := by
  by_cases htwo : m = 2
  · subst htwo
    rfl
  · have hempty : Int.range 1 m = [] := by
      rw [List.eq_nil_iff_forall_not_mem]
      intro x hx
      rw [Int.mem_range_iff] at hx
      omega
    rw [findPartialAssociativityCounterexample, hempty]
    rfl

/-! ## Main result -/

/-- **Partial scalars.** For every modulus the two ways to compose three nonzero residues
agree where both are defined and differ when exactly one inner sum vanishes. The search finds
`(1, 1, m - 1)` for every modulus from three on, and nothing below. -/
theorem partial_scalar_associativity :
    (∀ m a b c : Int, 2 ≤ m → 0 < a ∧ a < m → 0 < b ∧ b < m → 0 < c ∧ c < m →
      ∃ left right, partialParenthesizations a b c m = .ok (left, right) ∧
        (∀ x y, left = some x → right = some y → x = y) ∧
        (left ≠ right ↔ Xor (a + b ≡ 0 [ZMOD m]) (b + c ≡ 0 [ZMOD m]))) ∧
    (∀ m, 3 ≤ m → findPartialAssociativityCounterexample m = .ok (1, 1, m - 1, some 1, none)) ∧
    (∀ m, m ≤ 2 → ∃ e, findPartialAssociativityCounterexample m = .error e) := by
  refine ⟨fun m a b c hm ha hb hc => ?_, fun m hm => find_ok hm, fun m hm => ⟨_, find_small hm⟩⟩
  exact partialParenthesizations_sides hm ha hb hc

theorem partial_scalar_associativity_seven :
    (∃ left right, partialParenthesizations 3 4 5 7 = .ok (left, right) ∧ left ≠ right) ∧
      findPartialAssociativityCounterexample 7 = .ok (1, 1, 6, some 1, none) ∧
      ∃ e, findPartialAssociativityCounterexample (-1) = .error e := by
  obtain ⟨hsides, hfind, hsmall⟩ := partial_scalar_associativity
  obtain ⟨left, right, heq, -, hdiffer⟩ :=
    hsides 7 3 4 5 (by decide) (by decide) (by decide) (by decide)
  exact ⟨⟨left, right, heq, hdiffer.mpr (by decide)⟩, hfind 7 (by decide), hsmall (-1) (by decide)⟩

end Zrm.L5.Frontier
