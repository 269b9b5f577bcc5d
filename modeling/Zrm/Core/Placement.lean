import Mathlib.Algebra.Ring.Nat
import Mathlib.Data.List.Dedup
import Mathlib.Data.List.Sort

/-!
# Sorting by insertion after the smaller elements

`place l a` inserts `a` before the first element above it. Placing the
elements of a list one by one, from the left, sorts it: `foldl_place`. A set is listed by
sorting its elements: `sortedSet_eq_iff`.
-/
namespace Zrm.Placement

variable {α : Type} [LinearOrder α]

def place (l : List α) (a : α) : List α := l.insertIdx (l.findIdx (a < ·)) a

theorem place_cons_of_lt {a b : α} (l : List α) (h : a < b) : place (b :: l) a = a :: b :: l := by
  simp [place, List.findIdx_cons, h]

theorem place_cons_of_le {a b : α} (l : List α) (h : b ≤ a) :
    place (b :: l) a = b :: place l a := by
  simp [place, List.findIdx_cons, not_lt.mpr h]

theorem place_perm (l : List α) (a : α) : (place l a).Perm (a :: l) :=
  List.perm_insertIdx a l List.findIdx_le_length

theorem place_sorted {l : List α} (a : α) (h : l.Pairwise (· ≤ ·)) :
    (place l a).Pairwise (· ≤ ·) := by
  induction l with
  | nil => exact List.pairwise_singleton _ a
  | cons b l ih =>
    obtain ⟨hb, hl⟩ := List.pairwise_cons.mp h
    rcases lt_or_ge a b with hab | hab
    · rw [place_cons_of_lt l hab]
      refine List.pairwise_cons.mpr ⟨?_, h⟩
      intro c hmem
      rcases List.mem_cons.mp hmem with rfl | hc
      · exact hab.le
      · exact hab.le.trans (hb c hc)
    · rw [place_cons_of_le l hab]
      refine List.pairwise_cons.mpr ⟨fun c hc => ?_, ih hl⟩
      rcases List.mem_cons.mp ((place_perm l a).mem_iff.mp hc) with rfl | hc
      · exact hab
      · exact hb c hc

/-- Two sorted lists with the same elements are equal. -/
theorem eq_of_perm_of_sorted {l l' : List α} (h : l.Perm l') (hl : l.Pairwise (· ≤ ·))
    (hl' : l'.Pairwise (· ≤ ·)) : l = l' :=
  h.eq_of_pairwise (fun _ _ _ _ => le_antisymm) hl hl'

/-- A strictly ascending list is determined by its elements. -/
theorem eq_of_mem_iff_of_ascending {l l' : List α} (hl : l.Pairwise (· < ·))
    (hl' : l'.Pairwise (· < ·)) (h : ∀ a, a ∈ l ↔ a ∈ l') : l = l' :=
  eq_of_perm_of_sorted
    ((List.perm_ext_iff_of_nodup (hl.imp ne_of_lt) (hl'.imp ne_of_lt)).mpr h)
    (hl.imp le_of_lt) (hl'.imp le_of_lt)

theorem foldl_place_perm (l acc : List α) : (l.foldl place acc).Perm (acc ++ l) := by
  induction l generalizing acc with
  | nil => rw [List.append_nil]; exact .refl acc
  | cons a l ih =>
    refine (ih (place acc a)).trans ?_
    exact ((place_perm acc a).append_right l).trans List.perm_middle.symm

theorem foldl_place_sorted (l : List α) {acc : List α} (h : acc.Pairwise (· ≤ ·)) :
    (l.foldl place acc).Pairwise (· ≤ ·) := by
  induction l generalizing acc with
  | nil => exact h
  | cons a l ih => exact ih (place_sorted a h)

/-- Placing one by one is insertion sort. -/
theorem foldl_place (l : List α) : l.foldl place [] = l.insertionSort (· ≤ ·) :=
  eq_of_perm_of_sorted ((foldl_place_perm l []).trans (List.perm_insertionSort _ l).symm)
    (foldl_place_sorted l .nil) (List.pairwise_insertionSort _ l)

/-- Sorting forgets the order, and only the order. -/
theorem insertionSort_eq_iff_perm {l l' : List α} :
    l.insertionSort (· ≤ ·) = l'.insertionSort (· ≤ ·) ↔ l.Perm l' := by
  refine ⟨fun h => ?_, fun h => ?_⟩
  · exact (List.perm_insertionSort _ l).symm.trans (h ▸ List.perm_insertionSort _ l')
  · exact eq_of_perm_of_sorted
      (((List.perm_insertionSort _ l).trans h).trans (List.perm_insertionSort _ l').symm)
      (List.pairwise_insertionSort _ l) (List.pairwise_insertionSort _ l')

/-- Without duplicates the sorted list ascends strictly. -/
theorem insertionSort_strict {l : List α} (h : l.Nodup) :
    (l.insertionSort (· ≤ ·)).Pairwise (· < ·) := by
  have hnodup : (l.insertionSort (· ≤ ·)).Nodup := (List.perm_insertionSort _ l).nodup_iff.mpr h
  exact (List.pairwise_insertionSort _ l).imp₂ (fun _ _ hle hne => lt_of_le_of_ne hle hne) hnodup

/-- The check of a strictly ascending list: sorting changes nothing, nothing is there twice. -/
theorem eq_insertionSort_iff {l : List α} :
    l = l.insertionSort (· ≤ ·) ∧ l.Nodup ↔ l.Pairwise (· < ·) := by
  refine ⟨fun h => ?_, fun h => ?_⟩
  · obtain ⟨hsorted, hnodup⟩ := h
    rw [hsorted]
    exact insertionSort_strict hnodup
  · exact ⟨(h.imp le_of_lt).insertionSort_eq.symm, h.imp ne_of_lt⟩

/-- In a strictly ascending list, an element stands behind the smaller ones. -/
theorem idxOf_eq_countP [BEq α] [LawfulBEq α] {l : List α} (h : l.Pairwise (· < ·)) {a : α}
    (ha : a ∈ l) : l.idxOf a = l.countP (· < a) := by
  induction l with
  | nil => cases ha
  | cons b l ih =>
    obtain ⟨hb, hl⟩ := List.pairwise_cons.mp h
    rcases List.mem_cons.mp ha with rfl | ha
    · have hnone : l.countP (· < a) = 0 := List.countP_eq_zero.mpr fun c hc => by
        simpa using (hb c hc).le
      rw [List.idxOf_cons_self, List.countP_cons_of_neg (by simp), hnone]
    · have hba := hb a ha
      rw [List.idxOf_cons_ne l hba.ne, ih hl ha, List.countP_cons_of_pos (by simpa using hba)]

/-! ## Sorting by a key -/

section Key

variable {β : Type} {key : β → α}

theorem insertionSort_key_strict {l : List β} (h : (l.map key).Nodup) :
    (l.insertionSort fun a b => key a ≤ key b).Pairwise fun a b => key a < key b := by
  have htotal : Std.Total fun a b : β => key a ≤ key b := ⟨fun a b => le_total (key a) (key b)⟩
  have htrans : IsTrans β fun a b => key a ≤ key b := ⟨fun _ _ _ => le_trans⟩
  have hnodup : ((l.insertionSort fun a b => key a ≤ key b).map key).Nodup :=
    ((List.perm_insertionSort _ l).map key).nodup_iff.mpr h
  rw [List.Nodup, List.pairwise_map] at hnodup
  exact (List.pairwise_insertionSort _ l).imp₂ (fun _ _ hle hne => lt_of_le_of_ne hle hne) hnodup

theorem eq_of_perm_of_key {l l' : List β} (h : l.Perm l') (hl : l.Pairwise fun a b => key a < key b)
    (hl' : l'.Pairwise fun a b => key a < key b) : l = l' :=
  h.eq_of_pairwise (fun _ _ _ _ hab hba => absurd hba hab.asymm) hl hl'

/-- With distinct keys, sorting by the key forgets the order. -/
theorem insertionSort_key_eq {l l' : List β} (hnodup : (l.map key).Nodup) (h : l.Perm l') :
    (l.insertionSort fun a b => key a ≤ key b) = l'.insertionSort fun a b => key a ≤ key b := by
  have hnodup' : (l'.map key).Nodup := (h.map key).nodup_iff.mp hnodup
  apply eq_of_perm_of_key _ (insertionSort_key_strict hnodup) (insertionSort_key_strict hnodup')
  exact ((List.perm_insertionSort _ l).trans h).trans (List.perm_insertionSort _ l').symm

end Key

theorem perm_of_insertionSort_eq {β : Type} {l l' : List β} {r : β → β → Prop} [DecidableRel r]
    (h : l.insertionSort r = l'.insertionSort r) : l.Perm l' :=
  (List.perm_insertionSort r l).symm.trans (h ▸ List.perm_insertionSort r l')

/-- Permuted lists with the same distinct keys in the same order are equal. -/
theorem eq_of_perm_of_keys {β κ : Type} {key : β → κ} {l l' : List β} (h : l.Perm l')
    (hkeys : l.map key = l'.map key) (hnodup : (l.map key).Nodup) : l = l' := by
  induction l generalizing l' with
  | nil => exact h.nil_eq
  | cons a t ih =>
    cases l' with
    | nil => exact absurd h.length_eq (by simp)
    | cons b t' =>
      rw [List.map_cons, List.map_cons, List.cons.injEq] at hkeys
      rw [List.map_cons, List.nodup_cons, hkeys.2] at hnodup
      have hab : a = b := by
        rcases List.mem_cons.mp (h.mem_iff.mp List.mem_cons_self) with hab | hmem
        · exact hab
        · exact absurd (List.mem_map_of_mem hmem) hnodup.1
      subst hab
      rw [ih h.cons_inv hkeys.2 (hkeys.2 ▸ hnodup.2)]

/-! ## Sets as sorted lists -/

/-- `sorted(set(l))` -/
def sortedSet (l : List α) : List α := l.dedup.insertionSort (· ≤ ·)

@[simp] theorem mem_sortedSet {l : List α} {a : α} : a ∈ sortedSet l ↔ a ∈ l := by
  rw [sortedSet, List.mem_insertionSort, List.mem_dedup]

theorem sortedSet_ascending (l : List α) : (sortedSet l).Pairwise (· < ·) :=
  insertionSort_strict (List.nodup_dedup l)

/-- Two lists have one sorted set if and only if they have the same elements. -/
theorem sortedSet_eq_iff {l l' : List α} : sortedSet l = sortedSet l' ↔ ∀ a, a ∈ l ↔ a ∈ l' := by
  refine ⟨fun h a => ?_, fun h => ?_⟩
  · rw [← mem_sortedSet, h, mem_sortedSet]
  · refine eq_of_mem_iff_of_ascending (sortedSet_ascending l) (sortedSet_ascending l') fun a => ?_
    rw [mem_sortedSet, mem_sortedSet, h a]

end Zrm.Placement
