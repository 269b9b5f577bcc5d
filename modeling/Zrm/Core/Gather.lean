import Mathlib.Data.Set.Insert
import Zrm.Core.Dict

/-!
# Records gathered by key

A loop reads rows and keeps one record for each key, a summary of the rows with that key.
`Gathers` says so with no reference to the order of the rows.

* `Gathers.set`: one row more.
* `Gathers.items_perm`: the set of the rows determines the records.
-/
namespace Zrm

variable {κ α β : Type}

/-- The rows of a key. -/
def rowsOf (key : α → κ) (rows : List α) (k : κ) : Set α := {row | row ∈ rows ∧ key row = k}

theorem mem_rowsOf {key : α → κ} {rows : List α} {k : κ} {row : α} :
    row ∈ rowsOf key rows k ↔ row ∈ rows ∧ key row = k := Iff.rfl

theorem rowsOf_append_of_ne {key : α → κ} {rows : List α} {k : κ} {row : α} (h : key row ≠ k) :
    rowsOf key (rows ++ [row]) k = rowsOf key rows k := by
  ext other
  rw [mem_rowsOf, mem_rowsOf, List.mem_append, List.mem_singleton]
  refine ⟨fun hother => ?_, fun hother => ⟨.inl hother.1, hother.2⟩⟩
  rcases hother.1 with hmem | rfl
  · exact ⟨hmem, hother.2⟩
  · exact absurd hother.2 h

theorem rowsOf_append_self {key : α → κ} {rows : List α} {row : α} :
    rowsOf key (rows ++ [row]) (key row) = insert row (rowsOf key rows (key row)) := by
  ext other
  rw [mem_rowsOf, Set.mem_insert_iff, mem_rowsOf, List.mem_append, List.mem_singleton]
  refine ⟨fun hother => ?_, fun hother => ?_⟩
  · rcases hother.1 with hmem | rfl
    · exact .inr ⟨hmem, hother.2⟩
    · exact .inl rfl
  · rcases hother with rfl | hother
    · exact ⟨.inr rfl, rfl⟩
    · exact ⟨.inl hother.1, hother.2⟩

theorem rowsOf_congr {key : α → κ} {rows rows' : List α} (h : ∀ row, row ∈ rows ↔ row ∈ rows') (k : κ) :
    rowsOf key rows k = rowsOf key rows' k := by
  ext row
  rw [mem_rowsOf, mem_rowsOf, h row]

variable [DecidableEq κ]

/-- The dictionary has a record for each key of the rows, and no other. -/
structure Gathers (key : α → κ) (Summary : Set α → β → Prop) (rows : List α) (d : Dict κ β) : Prop where
  complete : ∀ row ∈ rows, ∃ b, d.get? (key row) = some b
  present : ∀ k b, d.get? k = some b → ∃ row ∈ rows, key row = k
  summary : ∀ k b, d.get? k = some b → Summary (rowsOf key rows k) b

namespace Gathers

variable {key : α → κ} {Summary : Set α → β → Prop} {rows rows' : List α} {d d' : Dict κ β}

theorem empty : Gathers key Summary [] (Dict.empty : Dict κ β) where
  complete := nofun
  present _ _ h := by cases h
  summary _ _ h := by cases h

theorem set (h : Gathers key Summary rows d) {row : α} {b : β}
    (hb : Summary (insert row (rowsOf key rows (key row))) b) :
    Gathers key Summary (rows ++ [row]) (d.set (key row) b) where
  complete other hother := by
    rw [Dict.get?_set]
    split
    · exact ⟨b, rfl⟩
    · rename_i hne
      rcases List.mem_append.mp hother with hmem | hmem
      · exact h.complete other hmem
      · exact absurd (congrArg key (List.mem_singleton.mp hmem)) hne
  present k c hc := by
    rw [Dict.get?_set] at hc
    split at hc
    · rename_i hk
      exact ⟨row, List.mem_append.mpr (.inr (List.mem_singleton.mpr rfl)), hk.symm⟩
    · obtain ⟨other, hother, hk⟩ := h.present k c hc
      exact ⟨other, List.mem_append.mpr (.inl hother), hk⟩
  summary k c hc := by
    rw [Dict.get?_set] at hc
    split at hc
    · rename_i hk
      cases hc
      rw [hk, rowsOf_append_self]
      exact hb
    · rename_i hk
      rw [rowsOf_append_of_ne fun heq => hk heq.symm]
      exact h.summary k c hc

theorem get?_of_mem_iff (hunique : ∀ S b b', Summary S b → Summary S b' → b = b')
    (h : Gathers key Summary rows d) (h' : Gathers key Summary rows' d')
    (hrows : ∀ row, row ∈ rows ↔ row ∈ rows') {k : κ} {b : β} (hb : d.get? k = some b) :
    d'.get? k = some b := by
  obtain ⟨row, hrow, rfl⟩ := h.present k b hb
  obtain ⟨b', hb'⟩ := h'.complete row ((hrows row).mp hrow)
  have hsummary := h'.summary _ _ hb'
  rw [← rowsOf_congr hrows] at hsummary
  rw [hb', hunique _ _ _ (h.summary _ _ hb) hsummary]

/-- If a summary is determined by its rows, the rows determine the records. -/
theorem items_perm (hunique : ∀ S b b', Summary S b → Summary S b' → b = b')
    (h : Gathers key Summary rows d) (h' : Gathers key Summary rows' d')
    (hrows : ∀ row, row ∈ rows ↔ row ∈ rows') : d.items.Perm d'.items := by
  apply (List.perm_ext_iff_of_nodup (.of_map _ d.nodup) (.of_map _ d'.nodup)).mpr
  intro x
  have hrows' : ∀ row, row ∈ rows' ↔ row ∈ rows := fun row => (hrows row).symm
  refine ⟨fun hx => ?_, fun hx => ?_⟩
  · exact Dict.get?_eq_some.mp (get?_of_mem_iff hunique h h' hrows (Dict.get?_eq_some.mpr hx))
  · exact Dict.get?_eq_some.mp (get?_of_mem_iff hunique h' h hrows' (Dict.get?_eq_some.mpr hx))

end Gathers

end Zrm
