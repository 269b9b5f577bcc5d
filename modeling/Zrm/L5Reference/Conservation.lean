import Zrm.L5Reference.ShardComposition

/-!
# What a composition conserves (`arm_zrm_frontier_v1.py`)

The checks of `compose` imply those of the class, so a composition that passes them
returns, and its lists are the disjoint unions of the operands'.

* `compose_checked`: the constructor does not fail after the checks.
* `compose_conserves`: the lists and the delta of the result.
-/
namespace Zrm.L5.Frontier
open Zrm Zrm.Result Zrm.FormalSum Zrm.Placement

/-- `names` lists what two lists without a common name hold, sorted and once each. -/
structure DisjointUnion (left right names : List String) : Prop where
  ascending : names.Pairwise (· < ·)
  disjoint : left.Disjoint right
  perm : names.Perm (left ++ right)

theorem merged_disjointUnion {left right : List String} (hleft : left.Pairwise (· < ·))
    (hright : right.Pairwise (· < ·)) (hdisjoint : left.Disjoint right) :
    DisjointUnion left right ((left ++ right).insertionSort (· ≤ ·)) :=
  ⟨merged_ascending hleft hright hdisjoint, hdisjoint, merged_perm left right⟩

/-- After the checks of `compose`, those of the class pass. -/
theorem compose_checked {s other : SemanticSummary}
    (h : s.fields.checkCompose other.fields = .ok ()) :
    (s.fields.merge other.fields).check = .ok () :=
  SummaryFields.check_eq_ok.mpr (merge_wellFormed (checkCompose_eq_ok.mp h))

/-- **Composition conserves content.** If two summaries pass the checks of `compose`, the
constructor accepts the merged fields. Every list of the result is the disjoint union of
the operands', the facts are those of the consumed and the created tags, and the delta of
every kind is the sum, with a row unless the sum is zero. -/
theorem compose_conserves (s other : SemanticSummary)
    (h : s.fields.checkCompose other.fields = .ok ()) :
    (s.fields.merge other.fields).check = .ok () ∧
    ∃ result, s.compose other = .ok result ∧
      DisjointUnion s.fields.actionIds other.fields.actionIds result.fields.actionIds ∧
      DisjointUnion s.fields.consumedTags other.fields.consumedTags result.fields.consumedTags ∧
      DisjointUnion s.fields.createdTags other.fields.createdTags result.fields.createdTags ∧
      DisjointUnion s.fields.factTags other.fields.factTags result.fields.factTags ∧
      DisjointUnion result.fields.consumedTags result.fields.createdTags result.fields.factTags ∧
      ∀ kind,
        coeff result.fields.deltaRows kind =
          coeff s.fields.deltaRows kind + coeff other.fields.deltaRows kind ∧
        (kind ∈ result.fields.deltaRows.map Prod.fst ↔
          coeff s.fields.deltaRows kind + coeff other.fields.deltaRows kind ≠ 0) := by
  have hcompose := checkCompose_eq_ok.mp h
  have hs := s.wellFormed
  have hother := other.wellFormed
  refine ⟨compose_checked h, ⟨_, compose_checked h⟩, compose_eq_ok.mpr ⟨hcompose, rfl⟩, ?_⟩
  have hmerged := merge_wellFormed hcompose
  refine ⟨merged_disjointUnion hs.actionIds hother.actionIds hcompose.actionIds,
    merged_disjointUnion hs.consumedTags hother.consumedTags hcompose.consumedTags,
    merged_disjointUnion hs.createdTags hother.createdTags hcompose.createdTags,
    merged_disjointUnion hs.factTags hother.factTags hcompose.factTags,
    ⟨hmerged.factTags, hmerged.disjoint, hmerged.coverage⟩, fun kind => ?_⟩
  have hsum : coeff (s.fields.merge other.fields).deltaRows kind =
      coeff s.fields.deltaRows kind + coeff other.fields.deltaRows kind :=
    congrFun (coeff_merged hs.deltaRows hother.deltaRows) kind
  exact ⟨hsum, hsum ▸ hmerged.deltaRows.mem_keys_iff kind⟩

/-- A leaf of the repository's exploration (`arm_zrm_frontier_explorer.py`). -/
def exploredLeaf (action consumed created : String) (quantity : Int) : SummaryFields where
  contextHash := "ctx"
  basisRoot := "basis"
  profileId := "shielded-v1"
  actionIds := [action]
  consumedTags := [consumed]
  createdTags := [created]
  factTags := [created, consumed]
  deltaRows := [("asset-a", quantity)]

theorem compose_conserves_cancelling :
    ∃ s other result : SemanticSummary, s.compose other = .ok result ∧
      s.fields = exploredLeaf "a" "nf-a" "cm-a" 1 ∧ other.fields = exploredLeaf "b" "nf-b" "cm-b" (-1) ∧
      "asset-a" ∉ result.fields.deltaRows.map Prod.fst := by
  let s : SemanticSummary := ⟨exploredLeaf "a" "nf-a" "cm-a" 1, by decide +kernel⟩
  let other : SemanticSummary := ⟨exploredLeaf "b" "nf-b" "cm-b" (-1), by decide +kernel⟩
  obtain ⟨-, result, hresult, -, -, -, -, -, hdelta⟩ :=
    compose_conserves s other (by decide +kernel)
  refine ⟨s, other, result, hresult, rfl, rfl, fun hrow => ?_⟩
  exact (hdelta "asset-a").2.mp hrow (by decide +kernel)

end Zrm.L5.Frontier
