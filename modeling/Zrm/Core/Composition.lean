import Mathlib.Algebra.BigOperators.Group.List.Basic
import Mathlib.Algebra.Group.Basic
import Mathlib.Data.Multiset.Defs
import Zrm.Core.Result

/-!
# Composing with an operation that may fail, along a tree

`Lawful` says of an operation that it is defined on compatible operands, that
being compatible with a result is being compatible with both operands, and that
a result keeps the key of its operands and adds up their values. Then neither
the shape of a tree nor the order of its leaves matters:

* `Lawful.combine_defined`: a tree composes iff its leaves are pairwise compatible.
* `Lawful.combine_perm`: trees over permuted leaves have the same result.
* `Lawful.topology_free`: both, over all trees with given leaves.
-/
namespace Zrm.Composition

open Zrm.Result

variable {ε α : Type}

/-! ## Trees -/

inductive OpTree (α : Type)
  | leaf (a : α)
  | node (left right : OpTree α)

namespace OpTree

def leaves : OpTree α → List α
  | leaf a => [a]
  | node left right => left.leaves ++ right.leaves

def combine (op : α → α → Except ε α) : OpTree α → Except ε α
  | leaf a => .ok a
  | node left right => do
    let a ← left.combine op
    let b ← right.combine op
    op a b

theorem leaves_ne_nil (t : OpTree α) : t.leaves ≠ [] := by
  induction t with
  | leaf a => exact List.cons_ne_nil a []
  | node left right ih _ => exact fun h => ih (List.append_eq_nil_iff.mp h).1

theorem combine_node {op : α → α → Except ε α} {left right : OpTree α} {c : α} :
    (node left right).combine op = .ok c ↔
      ∃ a b, left.combine op = .ok a ∧ right.combine op = .ok b ∧ op a b = .ok c := by
  rw [combine]
  simp only [bind_eq_ok, exists_and_left]

end OpTree

/-! ## Lawful operations -/

structure Lawful {K M : Type} [AddCommMonoid M] (op : α → α → Except ε α)
    (Compat : α → α → Prop) (key : α → K) (value : α → M) : Prop where
  symm : ∀ {a b}, Compat a b → Compat b a
  key_eq : ∀ {a b}, Compat a b → key a = key b
  defined : ∀ {a b}, (∃ c, op a b = .ok c) ↔ Compat a b
  compat : ∀ {a b c}, op a b = .ok c → ∀ d, Compat c d ↔ Compat a d ∧ Compat b d
  key_op : ∀ {a b c}, op a b = .ok c → key c = key a
  value_op : ∀ {a b c}, op a b = .ok c → value c = value a + value b
  ext : ∀ {a b}, key a = key b → value a = value b → a = b

namespace Lawful

variable {K M : Type} [AddCommMonoid M] {op : α → α → Except ε α} {Compat : α → α → Prop}
  {key : α → K} {value : α → M}

/-- A result is compatible with what all leaves are compatible with. -/
theorem combine_compat (h : Lawful op Compat key value) {t : OpTree α} {c : α}
    (hc : t.combine op = .ok c) (d : α) : Compat c d ↔ ∀ a ∈ t.leaves, Compat a d := by
  induction t generalizing c with
  | leaf a =>
    cases hc
    simp [OpTree.leaves]
  | node left right ihl ihr =>
    obtain ⟨a, b, ha, hb, hop⟩ := OpTree.combine_node.mp hc
    rw [h.compat hop, ihl ha, ihr hb, OpTree.leaves, List.forall_mem_append]

theorem combine_defined (h : Lawful op Compat key value) {t : OpTree α} :
    (∃ c, t.combine op = .ok c) ↔ t.leaves.Pairwise Compat := by
  induction t with
  | leaf a => simp [OpTree.combine, OpTree.leaves]
  | node left right ihl ihr =>
    rw [OpTree.leaves, List.pairwise_append, ← ihl, ← ihr]
    refine ⟨fun h' => ?_, fun h' => ?_⟩
    · obtain ⟨c, hc⟩ := h'
      obtain ⟨a, b, ha, hb, hop⟩ := OpTree.combine_node.mp hc
      refine ⟨⟨a, ha⟩, ⟨b, hb⟩, fun x hx y hy => ?_⟩
      -- from the operands down to their leaves, one side after the other
      have hxb := (h.combine_compat ha b).mp (h.defined.mp ⟨c, hop⟩) x hx
      exact h.symm ((h.combine_compat hb x).mp (h.symm hxb) y hy)
    · obtain ⟨⟨a, ha⟩, ⟨b, hb⟩, hcross⟩ := h'
      have hab : Compat a b := by
        refine (h.combine_compat ha b).mpr fun x hx => h.symm ?_
        exact (h.combine_compat hb x).mpr fun y hy => h.symm (hcross x hx y hy)
      obtain ⟨c, hop⟩ := h.defined.mpr hab
      exact ⟨c, OpTree.combine_node.mpr ⟨a, b, ha, hb, hop⟩⟩

theorem combine_key (h : Lawful op Compat key value) {t : OpTree α} {c : α}
    (hc : t.combine op = .ok c) : ∀ a ∈ t.leaves, key a = key c := by
  induction t generalizing c with
  | leaf a =>
    cases hc
    simp [OpTree.leaves]
  | node left right ihl ihr =>
    obtain ⟨a, b, ha, hb, hop⟩ := OpTree.combine_node.mp hc
    have hab := h.key_eq (h.defined.mp ⟨c, hop⟩)
    rw [OpTree.leaves, List.forall_mem_append, h.key_op hop]
    exact ⟨ihl ha, fun x hx => (ihr hb x hx).trans hab.symm⟩

theorem combine_value (h : Lawful op Compat key value) {t : OpTree α} {c : α}
    (hc : t.combine op = .ok c) : value c = (t.leaves.map value).sum := by
  induction t generalizing c with
  | leaf a =>
    cases hc
    simp [OpTree.leaves]
  | node left right ihl ihr =>
    obtain ⟨a, b, ha, hb, hop⟩ := OpTree.combine_node.mp hc
    rw [h.value_op hop, ihl ha, ihr hb, OpTree.leaves, List.map_append, List.sum_append]

theorem combine_perm (h : Lawful op Compat key value) {t t' : OpTree α}
    (hperm : t.leaves.Perm t'.leaves) {c : α} (hc : t.combine op = .ok c) :
    t'.combine op = .ok c := by
  have hpairwise := (hperm.pairwise_iff fun {_ _} => h.symm).mp (h.combine_defined.mp ⟨c, hc⟩)
  obtain ⟨c', hc'⟩ := h.combine_defined.mpr hpairwise
  obtain ⟨a, ha⟩ := List.exists_mem_of_ne_nil _ t.leaves_ne_nil
  have hkey : key c' = key c :=
    (h.combine_key hc' a (hperm.mem_iff.mp ha)).symm.trans (h.combine_key hc a ha)
  have hvalue : value c' = value c := by
    rw [h.combine_value hc', h.combine_value hc, (hperm.map value).sum_eq]
  rw [hc', h.ext hkey hvalue]

/-- Over given leaves, every tree fails or every tree has the same result; it has one iff
the leaves are pairwise compatible. -/
theorem topology_free (h : Lawful op Compat key value) (leaves : Multiset α) :
    ((∀ t : OpTree α, (t.leaves : Multiset α) = leaves → ∃ e, t.combine op = .error e) ∨
      ∃ c, ∀ t : OpTree α, (t.leaves : Multiset α) = leaves → t.combine op = .ok c) ∧
    ∀ t : OpTree α, (t.leaves : Multiset α) = leaves →
      ((∃ c, t.combine op = .ok c) ↔ leaves.Pairwise Compat) := by
  constructor
  · by_cases hok : ∃ t : OpTree α, (t.leaves : Multiset α) = leaves ∧ ∃ c, t.combine op = .ok c
    · obtain ⟨t, rfl, c, hc⟩ := hok
      exact .inr ⟨c, fun t' ht' => h.combine_perm (Multiset.coe_eq_coe.mp ht'.symm) hc⟩
    · refine .inl fun t ht => ?_
      rcases ok_or_error (t.combine op) with hc | he
      · exact absurd ⟨t, ht, hc⟩ hok
      · exact he
  · intro t ht
    subst ht
    rw [h.combine_defined]
    have hsymm : Std.Symm Compat := ⟨fun _ _ => h.symm⟩
    exact Multiset.pairwise_coe_iff_pairwise.symm

end Lawful

end Zrm.Composition
