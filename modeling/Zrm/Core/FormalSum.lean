import Mathlib.Algebra.BigOperators.Group.List.Basic
import Mathlib.Algebra.Ring.Nat
import Mathlib.Data.List.Sort
import Mathlib.Data.Prod.Lex
import Zrm.Core.Dict

/-!
# Formal sums in normal form

A formal sum is a list of rows, a symbol with its coefficient, no symbol twice.
Its normal form is sorted, by symbols and then coefficients, and has no zero row.

* `normalRows_iff`: the rows that are their own normal form.
* `ext_coeff`: a normal form is determined by its coefficients.
* `coeff_normalRows`, `coeff_accumulate`, `coeff_map`: the coefficients of a
  normal form, of a sum and of a multiple.
-/
namespace Zrm.FormalSum

open Zrm

variable {κ ν : Type}

/-! ## Coefficients -/

section Coefficients

variable [DecidableEq κ] [Zero ν]

/-- The coefficient of a symbol, zero if no row has it. -/
def coeff (l : List (κ × ν)) (k : κ) : ν := (l.lookup k).getD 0

@[simp] theorem coeff_nil (k : κ) : coeff ([] : List (κ × ν)) k = 0 := rfl

theorem coeff_cons (k : κ) (x : κ × ν) (l : List (κ × ν)) :
    coeff (x :: l) k = if k = x.1 then x.2 else coeff l k := by
  obtain ⟨a, b⟩ := x
  rw [coeff, Dict.lookup_cons_ite]
  split <;> rfl

theorem coeff_of_mem {l : List (κ × ν)} (h : (l.map Prod.fst).Nodup) {x : κ × ν} (hx : x ∈ l) :
    coeff l x.1 = x.2 := by
  rw [coeff, (Dict.lookup_eq_some_iff h).mpr hx]
  rfl

theorem coeff_of_not_mem {l : List (κ × ν)} {k : κ} (h : k ∉ l.map Prod.fst) : coeff l k = 0 := by
  induction l with
  | nil => rfl
  | cons x l ih =>
    rw [List.map_cons, List.mem_cons, not_or] at h
    rw [coeff_cons, if_neg h.1, ih h.2]

/-- A nonzero coefficient stands in a row. -/
theorem mem_of_coeff {l : List (κ × ν)} (h : (l.map Prod.fst).Nodup) {k : κ}
    (hk : coeff l k ≠ 0) : (k, coeff l k) ∈ l := by
  by_cases hmem : k ∈ l.map Prod.fst
  · obtain ⟨x, hx, rfl⟩ := List.mem_map.mp hmem
    rw [coeff_of_mem h hx]
    exact hx
  · exact absurd (coeff_of_not_mem hmem) hk

theorem coeff_map {f : ν → ν} (hf : f 0 = 0) (l : List (κ × ν)) (k : κ) :
    coeff (l.map fun x => (x.1, f x.2)) k = f (coeff l k) := by
  induction l with
  | nil => exact hf.symm
  | cons x l ih =>
    rw [List.map_cons, coeff_cons, coeff_cons, ih]
    split <;> rfl

end Coefficients

/-! ## Sums -/

section Sums

variable [DecidableEq κ] [AddCommMonoid ν]

/-- `for k, v in rows: d[k] = d.get(k, 0) + v` -/
def accumulate (d : Dict κ ν) (rows : List (κ × ν)) : Dict κ ν :=
  rows.foldl (fun d x => d.set x.1 ((d.get? x.1).getD 0 + x.2)) d

theorem coeff_set (d : Dict κ ν) (k k' : κ) (v : ν) :
    coeff (d.set k v).items k' = if k' = k then v else coeff d.items k' := by
  have hget := d.get?_set k k' v
  unfold Dict.get? at hget
  unfold coeff
  rw [hget]
  split <;> rfl

theorem coeff_set_add (d : Dict κ ν) (x : κ × ν) (k : κ) :
    coeff (d.set x.1 ((d.get? x.1).getD 0 + x.2)).items k =
      coeff d.items k + if k = x.1 then x.2 else 0 := by
  rw [coeff_set]
  by_cases hk : k = x.1
  · rw [if_pos hk, if_pos hk, hk]
    rfl
  · rw [if_neg hk, if_neg hk, add_zero]

/-- Accumulated rows add up, symbol by symbol. -/
theorem coeff_accumulate (d : Dict κ ν) (rows : List (κ × ν)) (k : κ) :
    coeff (accumulate d rows).items k =
      coeff d.items k + (rows.map fun x => if k = x.1 then x.2 else 0).sum := by
  unfold accumulate
  induction rows generalizing d with
  | nil => exact (add_zero _).symm
  | cons x rows ih =>
    rw [List.foldl_cons, ih, coeff_set_add, add_assoc, List.map_cons, List.sum_cons]

/-- The rows of one symbol add up to its coefficient. -/
theorem sum_map_ite {rows : List (κ × ν)} (h : (rows.map Prod.fst).Nodup) (k : κ) :
    (rows.map fun x => if k = x.1 then x.2 else 0).sum = coeff rows k := by
  induction rows with
  | nil => rfl
  | cons x rows ih =>
    rw [List.map_cons, List.nodup_cons] at h
    rw [List.map_cons, List.sum_cons, ih h.2, coeff_cons]
    by_cases hk : k = x.1
    · have habsent : k ∉ rows.map Prod.fst := hk ▸ h.1
      rw [if_pos hk, if_pos hk, coeff_of_not_mem habsent, add_zero]
    · rw [if_neg hk, if_neg hk, zero_add]

end Sums

/-! ## Sorting rows -/

section Sorting

variable [LinearOrder κ] [LinearOrder ν]

/-- Rows are compared as pairs. -/
def RowLe (x y : κ × ν) : Prop := toLex x ≤ toLex y

instance rowLeDecidable : DecidableRel (RowLe (κ := κ) (ν := ν)) := fun x y =>
  inferInstanceAs (Decidable (toLex x ≤ toLex y))

instance rowLeTotal : Std.Total (RowLe (κ := κ) (ν := ν)) :=
  ⟨fun x y => le_total (toLex x) (toLex y)⟩

instance rowLeTrans : IsTrans (κ × ν) RowLe := ⟨fun _ _ _ => le_trans (α := κ ×ₗ ν)⟩

theorem rowLe_antisymm {x y : κ × ν} (h : RowLe x y) (h' : RowLe y x) : x = y :=
  toLex.injective (le_antisymm h h')

def sortRows (l : List (κ × ν)) : List (κ × ν) := l.insertionSort RowLe

theorem sortRows_perm (l : List (κ × ν)) : (sortRows l).Perm l := List.perm_insertionSort _ l

theorem sortRows_eq_of_perm {l l' : List (κ × ν)} (h : l.Perm l') : sortRows l = sortRows l' :=
  (((sortRows_perm l).trans h).trans (sortRows_perm l').symm).eq_of_pairwise
    (fun _ _ _ _ => rowLe_antisymm) (List.pairwise_insertionSort _ l)
    (List.pairwise_insertionSort _ l')

/-- With distinct symbols, sorted rows have ascending symbols. -/
theorem sortRows_ascending {l : List (κ × ν)} (h : (l.map Prod.fst).Nodup) :
    (sortRows l).Pairwise fun x y => x.1 < y.1 := by
  have hnodup : (sortRows l).Pairwise fun x y => x.1 ≠ y.1 :=
    List.pairwise_map.mp (((sortRows_perm l).map Prod.fst).nodup_iff.mpr h)
  refine (List.pairwise_insertionSort RowLe l).imp₂ (fun x y hle hne => ?_) hnodup
  exact (Prod.Lex.le_iff.mp hle).resolve_right fun heq => hne heq.1

end Sorting

/-! ## Normal forms -/

structure Normal [LinearOrder κ] [Zero ν] (l : List (κ × ν)) : Prop where
  ascending : l.Pairwise fun x y => x.1 < y.1
  nonzero : ∀ x ∈ l, x.2 ≠ 0

theorem Normal.nodup [LinearOrder κ] [Zero ν] {l : List (κ × ν)} (h : Normal l) :
    (l.map Prod.fst).Nodup :=
  List.pairwise_map.mpr (h.ascending.imp fun hlt => ne_of_lt hlt)

section NormalForm

variable [LinearOrder κ] [LinearOrder ν] [Zero ν]

/-- `sorted((k, v) for k, v in rows if v != 0)` -/
def normalRows (l : List (κ × ν)) : List (κ × ν) := sortRows (l.filter fun x => x.2 ≠ 0)

theorem mem_normalRows {l : List (κ × ν)} {x : κ × ν} :
    x ∈ normalRows l ↔ x ∈ l ∧ x.2 ≠ 0 := by
  rw [normalRows, (sortRows_perm _).mem_iff, List.mem_filter, decide_eq_true_iff]

/-- A sum over the rows of a normal form, if zero rows count nothing. -/
theorem sum_map_normalRows {M : Type} [AddCommMonoid M] {f : κ × ν → M}
    (hf : ∀ x, x.2 = 0 → f x = 0) (l : List (κ × ν)) :
    ((normalRows l).map f).sum = (l.map f).sum := by
  have hfilter : ((l.filter fun x => x.2 ≠ 0).map f).sum = (l.map f).sum := by
    induction l with
    | nil => rfl
    | cons x l ih =>
      rw [List.map_cons, List.sum_cons, ← ih, List.filter_cons]
      by_cases hx : x.2 = 0
      · rw [if_neg (by simpa using hx), hf x hx, zero_add]
      · rw [if_pos (by simpa using hx), List.map_cons, List.sum_cons]
  rw [normalRows, ((sortRows_perm _).map f).sum_eq, hfilter]

theorem normal_normalRows {l : List (κ × ν)} (h : (l.map Prod.fst).Nodup) :
    Normal (normalRows l) where
  ascending := sortRows_ascending (h.sublist (List.filter_sublist.map Prod.fst))
  nonzero := fun _ hx => (mem_normalRows.mp hx).2

theorem Normal.normalRows_eq {l : List (κ × ν)} (h : Normal l) : normalRows l = l := by
  have hfilter : l.filter (fun x => x.2 ≠ 0) = l :=
    List.filter_eq_self.mpr fun x hx => decide_eq_true (h.nonzero x hx)
  have hsorted : l.Pairwise RowLe :=
    h.ascending.imp fun hlt => Prod.Lex.le_iff.mpr (.inl hlt)
  rw [normalRows, hfilter]
  exact hsorted.insertionSort_eq

/-- The check of a normal form: no row changes, and no symbol is there twice. -/
theorem normalRows_iff {l : List (κ × ν)} :
    normalRows l = l ∧ (l.map Prod.fst).Nodup ↔ Normal l := by
  refine ⟨fun h => ?_, fun h => ?_⟩
  · obtain ⟨heq, hnodup⟩ := h
    exact heq ▸ normal_normalRows hnodup
  · exact ⟨h.normalRows_eq, h.nodup⟩

variable [DecidableEq κ]

omit [LinearOrder ν] in
theorem Normal.mem_iff {l : List (κ × ν)} (h : Normal l) {x : κ × ν} :
    x ∈ l ↔ coeff l x.1 = x.2 ∧ x.2 ≠ 0 := by
  refine ⟨fun hx => ?_, fun h' => ?_⟩
  · exact ⟨coeff_of_mem h.nodup hx, h.nonzero x hx⟩
  · obtain ⟨hcoeff, hx⟩ := h'
    have hmem := mem_of_coeff h.nodup (k := x.1) (hcoeff ▸ hx)
    rwa [hcoeff] at hmem

omit [LinearOrder ν] in
/-- The row of a symbol is there exactly when its coefficient is not zero. -/
theorem Normal.mem_keys_iff {l : List (κ × ν)} (h : Normal l) (k : κ) :
    k ∈ l.map Prod.fst ↔ coeff l k ≠ 0 := by
  refine ⟨fun hk => ?_, fun hne => List.mem_map_of_mem (mem_of_coeff h.nodup hne)⟩
  obtain ⟨row, hrow, rfl⟩ := List.mem_map.mp hk
  rw [coeff_of_mem h.nodup hrow]
  exact h.nonzero row hrow

/-- A normal form is determined by its coefficients. -/
theorem ext_coeff {l l' : List (κ × ν)} (h : Normal l) (h' : Normal l')
    (heq : ∀ k, coeff l k = coeff l' k) : l = l' := by
  have hperm : l.Perm l' := by
    refine (List.perm_ext_iff_of_nodup h.nodup.of_map h'.nodup.of_map).mpr fun x => ?_
    rw [h.mem_iff, h'.mem_iff, heq]
  rw [← h.normalRows_eq, ← h'.normalRows_eq]
  exact sortRows_eq_of_perm (hperm.filter _)

theorem coeff_normalRows {l : List (κ × ν)} (h : (l.map Prod.fst).Nodup) (k : κ) :
    coeff (normalRows l) k = coeff l k := by
  have hnormal := normal_normalRows h
  by_cases hk : coeff l k = 0
  · rw [hk]
    by_contra hne
    have hmem := (mem_normalRows.mp (mem_of_coeff hnormal.nodup hne)).1
    exact hne ((coeff_of_mem h hmem).symm.trans hk)
  · exact coeff_of_mem hnormal.nodup (mem_normalRows.mpr ⟨mem_of_coeff h hk, hk⟩)

end NormalForm

end Zrm.FormalSum
