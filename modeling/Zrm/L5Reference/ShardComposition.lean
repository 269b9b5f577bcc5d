import Mathlib.Algebra.Group.Pi.Basic
import Mathlib.Algebra.Group.Prod
import Mathlib.Algebra.Order.Group.Multiset
import Zrm.Core.Composition
import Zrm.L5Reference.SemanticSummary

/-!
# Shard composition along a tree (`arm_zrm_frontier_v1.py`)

A summary is its bindings and its content: what it lists, as multisets, and the
coefficients of its delta. `compose` keeps the bindings and adds up the
contents, also where rows cancel and are dropped, so it is a lawful partial
operation and the shape of a composition does not matter.

* `compose_lawful`: the laws.
* `shard_composition_topology_free`: all trees over the same leaves agree.
-/
namespace Zrm.L5.Frontier

open Zrm Zrm.FormalSum Zrm.Placement Zrm.Composition

/-! ## Content -/

/-- What every shard of a composition agrees on. -/
def SemanticSummary.bindings (s : SemanticSummary) : String × String × String :=
  (s.fields.contextHash, s.fields.basisRoot, s.fields.profileId)

abbrev Content : Type :=
  Multiset String × Multiset String × Multiset String × Multiset String × (String → Int)

/-- What a composition adds up. -/
def SemanticSummary.content (s : SemanticSummary) : Content :=
  (s.fields.actionIds, s.fields.consumedTags, s.fields.createdTags, s.fields.factTags,
    coeff s.fields.deltaRows)

theorem coe_merged (left right : List String) :
    (((left ++ right).insertionSort (· ≤ ·) : List String) : Multiset String) =
      (left : Multiset String) + (right : Multiset String) := by
  rw [Multiset.coe_add]
  exact Multiset.coe_eq_coe.mpr (merged_perm left right)

theorem coeff_merged {left right : List (String × Int)} (hleft : Normal left)
    (hright : Normal right) :
    coeff (normalRows (accumulate (.ofItems left) right).items) = coeff left + coeff right := by
  funext kind
  rw [coeff_normalRows (Dict.nodup _), coeff_accumulate, sum_map_ite hright.nodup,
    Dict.ofItems_items hleft.nodup]
  rfl

theorem compose_content {s other result : SemanticSummary} (h : s.compose other = .ok result) :
    result.content = s.content + other.content := by
  have hfields := (compose_eq_ok.mp h).2
  unfold SemanticSummary.content
  rw [hfields]
  unfold SummaryFields.merge
  simp only [coe_merged, coeff_merged s.wellFormed.deltaRows other.wellFormed.deltaRows]
  rfl

theorem eq_of_coe_eq {left right : List String} (hleft : left.Pairwise (· < ·))
    (hright : right.Pairwise (· < ·)) (h : (left : Multiset String) = right) : left = right :=
  eq_of_perm_of_sorted (Multiset.coe_eq_coe.mp h) (hleft.imp le_of_lt) (hright.imp le_of_lt)

/-- Nothing else is in a summary. -/
theorem SemanticSummary.ext_content {s other : SemanticSummary}
    (hbindings : s.bindings = other.bindings) (hcontent : s.content = other.content) :
    s = other := by
  have hs := s.wellFormed
  have hother := other.wellFormed
  simp only [bindings, Prod.mk.injEq] at hbindings
  simp only [content, Prod.mk.injEq] at hcontent
  obtain ⟨context, basis, profile⟩ := hbindings
  obtain ⟨actions, consumed, created, facts, rows⟩ := hcontent
  have hactions := eq_of_coe_eq hs.actionIds hother.actionIds actions
  have hconsumed := eq_of_coe_eq hs.consumedTags hother.consumedTags consumed
  have hcreated := eq_of_coe_eq hs.createdTags hother.createdTags created
  have hfacts := eq_of_coe_eq hs.factTags hother.factTags facts
  have hrows := ext_coeff hs.deltaRows hother.deltaRows (congrFun rows)
  exact SemanticSummary.ext
    (SummaryFields.ext context basis profile hactions hconsumed hcreated hfacts hrows)

/-! ## The laws -/

theorem disjoint_of_perm_append {names left right other : List String}
    (h : names.Perm (left ++ right)) :
    names.Disjoint other ↔ left.Disjoint other ∧ right.Disjoint other := by
  rw [← List.disjoint_append_left]
  exact ⟨fun hd _ hm => hd (h.mem_iff.mpr hm), fun hd _ hm => hd (h.mem_iff.mp hm)⟩

/-- A result is composable with what both operands are composable with. -/
theorem composable_result {s other result : SemanticSummary} (h : s.compose other = .ok result)
    (third : SemanticSummary) :
    Composable result third ↔ Composable s third ∧ Composable other third := by
  obtain ⟨hboth, hfields⟩ := compose_eq_ok.mp h
  have hactions : result.fields.actionIds.Perm (s.fields.actionIds ++ other.fields.actionIds) := by
    rw [hfields]
    exact merged_perm _ _
  have htags : result.fields.tags.Perm (s.fields.tags ++ other.fields.tags) := by
    rw [hfields]
    exact merge_tags_perm _ _
  have hcontext : result.fields.contextHash = s.fields.contextHash := by rw [hfields]; rfl
  have hbasis : result.fields.basisRoot = s.fields.basisRoot := by rw [hfields]; rfl
  have hprofile : result.fields.profileId = s.fields.profileId := by rw [hfields]; rfl
  refine ⟨fun hr => ?_, fun h' => ?_⟩
  · obtain ⟨hsa, hoa⟩ := (disjoint_of_perm_append hactions).mp hr.actionIds
    obtain ⟨hst, hot⟩ := (disjoint_of_perm_append htags).mp hr.tags
    have hs : Composable s third := ⟨hcontext.symm.trans hr.contextHash,
      hbasis.symm.trans hr.basisRoot, hprofile.symm.trans hr.profileId, hsa, hst⟩
    exact ⟨hs, hboth.contextHash.symm.trans hs.contextHash,
      hboth.basisRoot.symm.trans hs.basisRoot, hboth.profileId.symm.trans hs.profileId, hoa, hot⟩
  · obtain ⟨hs, hother⟩ := h'
    exact ⟨hcontext.trans hs.contextHash, hbasis.trans hs.basisRoot,
      hprofile.trans hs.profileId,
      (disjoint_of_perm_append hactions).mpr ⟨hs.actionIds, hother.actionIds⟩,
      (disjoint_of_perm_append htags).mpr ⟨hs.tags, hother.tags⟩⟩

theorem compose_lawful :
    Lawful SemanticSummary.compose Composable SemanticSummary.bindings SemanticSummary.content where
  symm := Composable.symm
  key_eq h := by
    rw [SemanticSummary.bindings, h.contextHash, h.basisRoot, h.profileId]
    rfl
  defined := compose_defined
  compat := composable_result
  key_op h := by
    rw [SemanticSummary.bindings, (compose_eq_ok.mp h).2]
    rfl
  value_op := compose_content
  ext := SemanticSummary.ext_content

/-- **Shard composition does not depend on topology.** -/
theorem shard_composition_topology_free (leaves : Multiset SemanticSummary) :
    ((∀ tree : OpTree SemanticSummary, (tree.leaves : Multiset SemanticSummary) = leaves →
        ∃ e, tree.combine SemanticSummary.compose = .error e) ∨
      ∃ s, ∀ tree : OpTree SemanticSummary, (tree.leaves : Multiset SemanticSummary) = leaves →
        tree.combine SemanticSummary.compose = .ok s) ∧
    ∀ tree : OpTree SemanticSummary, (tree.leaves : Multiset SemanticSummary) = leaves →
      ((∃ s, tree.combine SemanticSummary.compose = .ok s) ↔ leaves.Pairwise Composable) :=
  compose_lawful.topology_free leaves

end Zrm.L5.Frontier
