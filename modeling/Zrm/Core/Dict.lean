import Mathlib.Algebra.Ring.Nat
import Mathlib.Data.List.Nodup

/-!
# Insertion-ordered dictionaries

A Python `dict`: its items in the order in which their keys were first set, no
key twice. Setting a key that is there replaces its value in place.

* `get?_set`: one assignment, seen by lookups.
* `ofItems_items`: the dictionary of a list of items with distinct keys.
* `foldlM_insertNew`: a loop that raises on a key it has seen.
-/
namespace Zrm

variable {κ ν : Type}

structure Dict (κ ν : Type) where
  items : List (κ × ν)
  nodup : (items.map Prod.fst).Nodup
  deriving DecidableEq

namespace Dict

def keys (d : Dict κ ν) : List κ := d.items.map Prod.fst

def empty : Dict κ ν := ⟨[], .nil⟩

theorem ext {d d' : Dict κ ν} (h : d.items = d'.items) : d = d' := by
  cases d
  cases h
  rfl

/-! ## Assignment -/

variable [DecidableEq κ]

/-- `d[k] = v` on the items -/
def setItem (k : κ) (v : ν) : List (κ × ν) → List (κ × ν)
  | [] => [(k, v)]
  | (k', v') :: l => if k' = k then (k, v) :: l else (k', v') :: setItem k v l

theorem map_fst_setItem (k : κ) (v : ν) (l : List (κ × ν)) :
    (setItem k v l).map Prod.fst =
      if k ∈ l.map Prod.fst then l.map Prod.fst else l.map Prod.fst ++ [k] := by
  induction l with
  | nil => rfl
  | cons x l ih =>
    obtain ⟨k', v'⟩ := x
    rw [setItem]
    by_cases hk : k' = k
    · simp [hk]
    · have hk' : ¬ k = k' := fun h => hk h.symm
      rw [if_neg hk, List.map_cons, ih]
      simp only [List.map_cons, List.mem_cons, hk', false_or]
      split <;> rfl

/-- `d[k] = v` -/
def set (d : Dict κ ν) (k : κ) (v : ν) : Dict κ ν where
  items := setItem k v d.items
  nodup := by
    rw [map_fst_setItem]
    split
    · exact d.nodup
    · rename_i hk
      refine List.nodup_append.mpr ⟨d.nodup, List.nodup_singleton k, fun a ha b hb hab => hk ?_⟩
      obtain rfl := List.mem_singleton.mp hb
      exact hab ▸ ha

/-- `d.get(k)` -/
def get? (d : Dict κ ν) (k : κ) : Option ν := d.items.lookup k

/-- `dict(items)`, or a comprehension over `items` -/
def ofItems (l : List (κ × ν)) : Dict κ ν := l.foldl (fun d x => d.set x.1 x.2) empty

/-! ## Lookup -/

theorem lookup_cons_ite (k a : κ) (b : ν) (l : List (κ × ν)) :
    ((a, b) :: l).lookup k = if k = a then some b else l.lookup k := by
  rw [List.lookup_cons]
  by_cases hk : k = a
  · simp [hk]
  · rw [beq_false_of_ne hk, if_neg hk]

theorem lookup_setItem (k k' : κ) (v : ν) (l : List (κ × ν)) :
    (setItem k v l).lookup k' = if k' = k then some v else l.lookup k' := by
  induction l with
  | nil => rw [setItem, lookup_cons_ite]
  | cons x l ih =>
    obtain ⟨a, b⟩ := x
    rw [setItem]
    by_cases ha : a = k
    · subst ha
      rw [if_pos rfl, lookup_cons_ite, lookup_cons_ite]
      by_cases hk : k' = a <;> simp [hk]
    · rw [if_neg ha, lookup_cons_ite, ih, lookup_cons_ite]
      by_cases hk : k' = k
      · subst hk
        rw [if_neg (Ne.symm ha), if_pos rfl, if_pos rfl]
      · simp only [if_neg hk]

/-- To set what is there changes nothing. -/
theorem setItem_eq_self {k : κ} {v : ν} {l : List (κ × ν)} (h : l.lookup k = some v) : setItem k v l = l := by
  induction l with
  | nil => cases h
  | cons x l ih =>
    obtain ⟨a, b⟩ := x
    rw [lookup_cons_ite] at h
    rw [setItem]
    by_cases ha : a = k
    · rw [if_pos ha.symm, Option.some.injEq] at h
      rw [if_pos ha, h, ha]
    · rw [if_neg (Ne.symm ha)] at h
      rw [if_neg ha, ih h]

/-- Without the entries of `k`, every other key is looked up as before. -/
theorem lookup_filter_ne (k k' : κ) (l : List (κ × ν)) (hk : k' ≠ k) :
    (l.filter fun x => decide (x.1 ≠ k)).lookup k' = l.lookup k' := by
  induction l with
  | nil => rfl
  | cons x l ih =>
    obtain ⟨a, b⟩ := x
    rw [lookup_cons_ite, List.filter_cons]
    by_cases ha : a = k
    · have hne : ¬ k' = a := fun h => hk (h.trans ha)
      have hdropped : ¬ decide (a ≠ k) = true := by simp [ha]
      rw [if_neg hdropped, if_neg hne, ih]
    · have hkept : decide (a ≠ k) = true := by simp [ha]
      rw [if_pos hkept, lookup_cons_ite, ih]

theorem get?_set (d : Dict κ ν) (k k' : κ) (v : ν) :
    (d.set k v).get? k' = if k' = k then some v else d.get? k' :=
  lookup_setItem k k' v d.items

theorem lookup_eq_some_iff {l : List (κ × ν)} (h : (l.map Prod.fst).Nodup) {k : κ} {v : ν} :
    l.lookup k = some v ↔ (k, v) ∈ l := by
  induction l with
  | nil => simp
  | cons x l ih =>
    obtain ⟨a, b⟩ := x
    rw [List.map_cons, List.nodup_cons] at h
    rw [lookup_cons_ite, List.mem_cons]
    by_cases hk : k = a
    · subst hk
      have hnot : (k, v) ∉ l := fun hm => h.1 (List.mem_map.mpr ⟨(k, v), hm, rfl⟩)
      simp [hnot, eq_comm]
    · simp [hk, ih h.2]

theorem get?_eq_some {d : Dict κ ν} {k : κ} {v : ν} : d.get? k = some v ↔ (k, v) ∈ d.items :=
  lookup_eq_some_iff d.nodup

/-! ## Dictionaries from lists -/

theorem setItem_append {k : κ} (v : ν) {l : List (κ × ν)} (h : k ∉ l.map Prod.fst) :
    setItem k v l = l ++ [(k, v)] := by
  induction l with
  | nil => rfl
  | cons x l ih =>
    obtain ⟨a, b⟩ := x
    rw [List.map_cons, List.mem_cons, not_or] at h
    rw [setItem, if_neg (Ne.symm h.1), ih h.2, List.cons_append]

theorem foldl_set_items {l : List (κ × ν)} {d : Dict κ ν}
    (h : (d.keys ++ l.map Prod.fst).Nodup) :
    (l.foldl (fun d x => d.set x.1 x.2) d).items = d.items ++ l := by
  induction l generalizing d with
  | nil => simp
  | cons x l ih =>
    have hx : x.1 ∉ d.keys := fun hm =>
      (List.nodup_append.mp h).2.2 _ hm x.1 (by simp) rfl
    have hset : (d.set x.1 x.2).items = d.items ++ [x] := setItem_append x.2 hx
    have hkeys : (d.set x.1 x.2).keys ++ l.map Prod.fst = d.keys ++ (x :: l).map Prod.fst := by
      rw [keys, hset, keys]
      simp
    rw [List.foldl_cons, ih (hkeys ▸ h), hset, List.append_assoc, List.singleton_append]

/-- Items with distinct keys are kept as they are. -/
theorem ofItems_items {l : List (κ × ν)} (h : (l.map Prod.fst).Nodup) : (ofItems l).items = l := by
  have hitems := foldl_set_items (l := l) (d := empty) (by simpa [keys, empty] using h)
  rw [ofItems, hitems]
  rfl

/-! ## Filling without overwriting -/

/-- `if k in d: raise ...` and then `d[k] = v` -/
def insertNew {ε : Type} (raise : κ → ε) (d : Dict κ ν) (x : κ × ν) : Except ε (Dict κ ν) :=
  if x.1 ∈ d.keys then .error (raise x.1) else .ok (d.set x.1 x.2)

theorem mem_keys_iff {d : Dict κ ν} {k : κ} : k ∈ d.keys ↔ ∃ v, d.get? k = some v := by
  rw [keys, List.mem_map]
  refine ⟨fun h => ?_, fun h => ?_⟩
  · obtain ⟨x, hx, rfl⟩ := h
    exact ⟨x.2, get?_eq_some.mpr hx⟩
  · obtain ⟨v, hv⟩ := h
    exact ⟨(k, v), get?_eq_some.mp hv, rfl⟩

/-- Filling succeeds if and only if no key comes twice, and keeps the items in order. -/
theorem foldlM_insertNew {ε : Type} {raise : κ → ε} {l : List (κ × ν)} {d d' : Dict κ ν} :
    l.foldlM (insertNew raise) d = .ok d' ↔
      (d.keys ++ l.map Prod.fst).Nodup ∧ d'.items = d.items ++ l := by
  induction l generalizing d with
  | nil =>
    have hnodup : (d.keys ++ ([] : List (κ × ν)).map Prod.fst).Nodup := by
      rw [List.map_nil, List.append_nil]
      exact d.nodup
    rw [List.foldlM_nil, List.append_nil]
    refine ⟨fun h => ⟨hnodup, ?_⟩, fun h => ?_⟩
    · cases h
      rfl
    · exact congrArg Except.ok (ext h.2.symm)
  | cons x l ih =>
    rw [List.foldlM_cons, insertNew]
    by_cases hx : x.1 ∈ d.keys
    · rw [if_pos hx]
      refine ⟨fun h => ?_, fun h => ?_⟩
      · cases h
      · exact absurd rfl ((List.nodup_append.mp h.1).2.2 _ hx x.1 (by simp))
    · have hset : (d.set x.1 x.2).items = d.items ++ [x] := setItem_append x.2 hx
      have hkeys : (d.set x.1 x.2).keys = d.keys ++ [x.1] := by
        rw [keys, hset, List.map_append]
        rfl
      have hstep : (Except.ok (d.set x.1 x.2) >>= fun d => l.foldlM (insertNew raise) d) =
          l.foldlM (insertNew raise) (d.set x.1 x.2) := rfl
      rw [if_neg hx, hstep, ih, hset, hkeys, List.append_assoc, List.append_assoc]
      rfl

end Dict

end Zrm
