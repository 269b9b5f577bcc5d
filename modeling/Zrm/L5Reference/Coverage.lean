import Zrm.L5Reference.KindBasis

/-!
# Exact logic-fact coverage (`arm_zrm_frontier_v1.py`)

Counting and set difference together decide whether the facts are a permutation of
the required tags; each verdict comes with the complete list of its witnesses.

* `repeated_lists`, `sortedSet_filter_lists`: the lists that the verdicts carry.
* `coverage_decides`: which verdict, with which list, in whatever order.
-/
namespace Zrm.L5.Frontier
open Zrm Zrm.FormalSum Zrm.Placement

/-! ## The check -/

/-- mirrors reference_models/arm_zrm_frontier_v1.py:207-211 -/
inductive CoverageDecision
  | accept | duplicate | missing | extra
  deriving DecidableEq, Repr

/-- mirrors reference_models/arm_zrm_frontier_v1.py:214-219 -/
structure CoverageResult where
  decision : CoverageDecision
  missing : List String
  extra : List String
  duplicates : List String
  deriving DecidableEq

/-- `counts` of `exact_logic_coverage`: how often each tag occurs. -/
def countTags (tags : List String) : Dict String Nat :=
  accumulate .empty (tags.map fun tag => (tag, 1))

/-- mirrors reference_models/arm_zrm_frontier_v1.py:222-242 -/
def exactLogicCoverage (requiredTags factTags : List String) :
    Except FrontierError CoverageResult :=
  if ¬ requiredTags.Nodup then .error ⟨"required resource tags must already be unique"⟩
  else
    let repeated := (countTags factTags).items.filter fun x => 1 < x.2
    let duplicates := (repeated.map Prod.fst).insertionSort (· ≤ ·)
    if duplicates ≠ [] then .ok ⟨.duplicate, [], [], duplicates⟩
    else
      let missing := sortedSet (requiredTags.filter fun tag => tag ∉ factTags)
      if missing ≠ [] then .ok ⟨.missing, missing, [], []⟩
      else
        let extra := sortedSet (factTags.filter fun tag => tag ∉ requiredTags)
        if extra ≠ [] then .ok ⟨.extra, [], extra, []⟩
        else .ok ⟨.accept, [], [], []⟩

/-! ## The lists of the check -/

theorem coeff_countTags (tags : List String) (tag : String) :
    coeff (countTags tags).items tag = tags.count tag := by
  rw [countTags, coeff_accumulate, List.map_map]
  have hempty : coeff (Dict.empty : Dict String Nat).items tag = 0 := rfl
  rw [hempty, Nat.zero_add]
  induction tags with
  | nil => rfl
  | cons t tags ih =>
    rw [List.map_cons, List.sum_cons, ih, List.count_cons, Nat.add_comm]
    by_cases htag : tag = t
    · simp [htag]
    · simp [htag, Ne.symm htag]

theorem mem_countTags {tags : List String} {x : String × Nat} (hx : x.2 ≠ 0) :
    x ∈ (countTags tags).items ↔ x.2 = tags.count x.1 := by
  rw [← coeff_countTags]
  refine ⟨fun hmem => ?_, fun hcount => ?_⟩
  · exact (coeff_of_mem (countTags tags).nodup hmem).symm
  · have hmem := mem_of_coeff (countTags tags).nodup (k := x.1) (hcount ▸ hx)
    rwa [← hcount] at hmem

theorem insertionSort_eq_nil {names : List String} :
    names.insertionSort (· ≤ ·) = [] ↔ names = [] := by
  rw [← List.length_eq_zero_iff, List.length_insertionSort, List.length_eq_zero_iff]

theorem mem_sortedSet {names : List String} {name : String} :
    name ∈ sortedSet names ↔ name ∈ names := by
  rw [sortedSet, List.mem_insertionSort, List.mem_dedup]

theorem sortedSet_filter_eq_nil {names other : List String} :
    sortedSet (names.filter fun name => name ∉ other) = [] ↔ names ⊆ other := by
  rw [List.eq_nil_iff_forall_not_mem]
  simp only [mem_sortedSet, List.mem_filter, decide_eq_true_eq, not_and, not_not]
  rfl

/-- No tag is reported as repeated when there is none. -/
theorem repeated_eq_nil {tags : List String} :
    (((countTags tags).items.filter fun x => 1 < x.2).map Prod.fst).insertionSort (· ≤ ·) = [] ↔
      tags.Nodup := by
  rw [insertionSort_eq_nil, List.map_eq_nil_iff, List.filter_eq_nil_iff, List.nodup_iff_count_le_one]
  refine ⟨fun h => ?_, fun h => ?_⟩
  · intro tag
    by_contra hcount
    have hmem : (tag, tags.count tag) ∈ (countTags tags).items :=
      (mem_countTags (by simp only; omega)).mpr rfl
    exact h _ hmem (by simp only [decide_eq_true_eq]; omega)
  · intro x hx
    have hcount := h x.1
    by_cases hzero : x.2 = 0
    · simp [hzero]
    · rw [← (mem_countTags hzero).mp hx] at hcount
      simpa using hcount

/-! ## Witness lists -/

/-- `tags` lists what has the property, sorted and once each. -/
structure Lists (tags : List String) (P : String → Prop) : Prop where
  ascending : tags.Pairwise (· < ·)
  mem_iff : ∀ tag, tag ∈ tags ↔ P tag

theorem Lists.unique {tags tags' : List String} {P P' : String → Prop} (h : Lists tags P)
    (h' : Lists tags' P') (hP : ∀ tag, P tag ↔ P' tag) : tags = tags' :=
  eq_of_mem_iff_of_ascending h.ascending h'.ascending fun tag =>
    (h.mem_iff tag).trans ((hP tag).trans (h'.mem_iff tag).symm)

/-- The repeated tags of the counting loop. -/
theorem repeated_lists (factTags : List String) :
    Lists ((((countTags factTags).items.filter fun x => 1 < x.2).map Prod.fst).insertionSort (· ≤ ·))
      fun tag => 1 < factTags.count tag where
  ascending :=
    insertionSort_strict ((countTags factTags).nodup.sublist (List.filter_sublist.map Prod.fst))
  mem_iff tag := by
    rw [List.mem_insertionSort, List.mem_map]
    refine ⟨fun h => ?_, fun hcount => ?_⟩
    · obtain ⟨x, hx, rfl⟩ := h
      rw [List.mem_filter, decide_eq_true_iff] at hx
      obtain ⟨hmem, hrepeated⟩ := hx
      rwa [← (mem_countTags (by omega)).mp hmem]
    · have hmem : (tag, factTags.count tag) ∈ (countTags factTags).items :=
        (mem_countTags (by simp only; omega)).mpr rfl
      exact ⟨_, List.mem_filter.mpr ⟨hmem, decide_eq_true hcount⟩, rfl⟩

/-- A sorted set difference. -/
theorem sortedSet_filter_lists (names other : List String) :
    Lists (sortedSet (names.filter fun name => name ∉ other)) fun tag => tag ∈ names ∧ tag ∉ other where
  ascending := insertionSort_strict (List.nodup_dedup _)
  mem_iff tag := by rw [mem_sortedSet, List.mem_filter, decide_eq_true_iff]

/-! ## Verdicts -/

section Verdict

variable {requiredTags factTags : List String} (hrequired : requiredTags.Nodup)
include hrequired

theorem coverage_duplicate (hfacts : ¬ factTags.Nodup) :
    ∃ tags, Lists tags (fun tag => 1 < factTags.count tag) ∧
      exactLogicCoverage requiredTags factTags = .ok ⟨.duplicate, [], [], tags⟩ := by
  refine ⟨_, repeated_lists factTags, ?_⟩
  unfold exactLogicCoverage
  rw [if_neg (not_not.mpr hrequired), if_pos]
  rwa [ne_eq, repeated_eq_nil]

theorem coverage_missing (hfacts : factTags.Nodup) (hmissing : ¬ requiredTags ⊆ factTags) :
    ∃ tags, Lists tags (fun tag => tag ∈ requiredTags ∧ tag ∉ factTags) ∧
      exactLogicCoverage requiredTags factTags = .ok ⟨.missing, tags, [], []⟩ := by
  refine ⟨_, sortedSet_filter_lists requiredTags factTags, ?_⟩
  unfold exactLogicCoverage
  rw [if_neg (not_not.mpr hrequired), if_neg, if_pos]
  · rwa [ne_eq, sortedSet_filter_eq_nil]
  · rwa [not_not, repeated_eq_nil]

theorem coverage_extra (hfacts : factTags.Nodup) (hmissing : requiredTags ⊆ factTags)
    (hextra : ¬ factTags ⊆ requiredTags) :
    ∃ tags, Lists tags (fun tag => tag ∈ factTags ∧ tag ∉ requiredTags) ∧
      exactLogicCoverage requiredTags factTags = .ok ⟨.extra, [], tags, []⟩ := by
  refine ⟨_, sortedSet_filter_lists factTags requiredTags, ?_⟩
  unfold exactLogicCoverage
  rw [if_neg (not_not.mpr hrequired), if_neg, if_neg, if_pos]
  · rwa [ne_eq, sortedSet_filter_eq_nil]
  · rwa [not_not, sortedSet_filter_eq_nil]
  · rwa [not_not, repeated_eq_nil]

theorem coverage_accept (hperm : factTags.Perm requiredTags) :
    exactLogicCoverage requiredTags factTags = .ok ⟨.accept, [], [], []⟩ := by
  have hfacts := hperm.nodup_iff.mpr hrequired
  unfold exactLogicCoverage
  rw [if_neg (not_not.mpr hrequired), if_neg, if_neg, if_neg]
  · rw [not_not, sortedSet_filter_eq_nil]
    exact hperm.subset
  · rw [not_not, sortedSet_filter_eq_nil]
    exact hperm.symm.subset
  · rwa [not_not, repeated_eq_nil]

end Verdict

/-- Neither order matters. -/
theorem coverage_congr {requiredTags requiredTags' factTags factTags' : List String}
    (hrequired : requiredTags'.Perm requiredTags) (hfacts : factTags'.Perm factTags) :
    exactLogicCoverage requiredTags' factTags' = exactLogicCoverage requiredTags factTags := by
  have hrepeated := (repeated_lists factTags').unique (repeated_lists factTags)
    fun tag => by rw [hfacts.count_eq]
  have hmissing := (sortedSet_filter_lists requiredTags' factTags').unique
    (sortedSet_filter_lists requiredTags factTags)
    fun tag => by rw [hrequired.mem_iff, hfacts.mem_iff]
  have hextra := (sortedSet_filter_lists factTags' requiredTags').unique
    (sortedSet_filter_lists factTags requiredTags)
    fun tag => by rw [hrequired.mem_iff, hfacts.mem_iff]
  unfold exactLogicCoverage
  simp only [hrepeated, hmissing, hextra, hrequired.nodup_iff]

/-! ## Main results -/

theorem perm_of_subset {left right : List String} (hleft : left.Nodup) (hright : right.Nodup)
    (h : left ⊆ right) (h' : right ⊆ left) : left.Perm right :=
  (List.perm_ext_iff_of_nodup hleft hright).mpr fun _ => ⟨fun hm => h hm, fun hm => h' hm⟩

/-- Coverage accepts the facts that list every required tag once, and nothing else. -/
theorem exactLogicCoverage_accepts {requiredTags factTags : List String} :
    (∃ result, exactLogicCoverage requiredTags factTags = .ok result ∧
      result.decision = .accept) ↔ requiredTags.Nodup ∧ factTags.Perm requiredTags := by
  refine ⟨fun h => ?_, fun h => ⟨_, coverage_accept h.1 h.2, rfl⟩⟩
  obtain ⟨result, hresult, haccept⟩ := h
  have hother : ∀ verdict missing extra duplicates, verdict ≠ .accept →
      exactLogicCoverage requiredTags factTags ≠ .ok ⟨verdict, missing, extra, duplicates⟩ := by
    intro verdict missing extra duplicates hverdict heq
    obtain rfl := Except.ok.inj (heq.symm.trans hresult)
    exact hverdict haccept
  by_cases hrequired : requiredTags.Nodup
  swap
  · rw [exactLogicCoverage, if_pos hrequired] at hresult
    cases hresult
  refine ⟨hrequired, ?_⟩
  by_cases hfacts : factTags.Nodup
  swap
  · obtain ⟨tags, -, heq⟩ := coverage_duplicate hrequired hfacts
    exact absurd heq (hother _ _ _ _ (by decide))
  by_cases hmissing : requiredTags ⊆ factTags
  swap
  · obtain ⟨tags, -, heq⟩ := coverage_missing hrequired hfacts hmissing
    exact absurd heq (hother _ _ _ _ (by decide))
  by_cases hextra : factTags ⊆ requiredTags
  swap
  · obtain ⟨tags, -, heq⟩ := coverage_extra hrequired hfacts hmissing hextra
    exact absurd heq (hother _ _ _ _ (by decide))
  exact perm_of_subset hfacts hrequired hextra hmissing

/-- **Coverage decides permutation.** For required tags without repeats it accepts the
permutations; otherwise the first of repeated, missing and extra tags is reported,
complete and sorted. Neither order matters, and repeated required tags are refused. -/
theorem coverage_decides (requiredTags factTags : List String) :
    (requiredTags.Nodup →
      ((∃ result, exactLogicCoverage requiredTags factTags = .ok result ∧
        result.decision = .accept) ↔ factTags.Perm requiredTags) ∧
      (factTags.Perm requiredTags →
        exactLogicCoverage requiredTags factTags = .ok ⟨.accept, [], [], []⟩) ∧
      (¬ factTags.Nodup → ∃ tags, Lists tags (fun tag => 1 < factTags.count tag) ∧
        exactLogicCoverage requiredTags factTags = .ok ⟨.duplicate, [], [], tags⟩) ∧
      (factTags.Nodup → ¬ requiredTags ⊆ factTags →
        ∃ tags, Lists tags (fun tag => tag ∈ requiredTags ∧ tag ∉ factTags) ∧
          exactLogicCoverage requiredTags factTags = .ok ⟨.missing, tags, [], []⟩) ∧
      (factTags.Nodup → requiredTags ⊆ factTags → ¬ factTags ⊆ requiredTags →
        ∃ tags, Lists tags (fun tag => tag ∈ factTags ∧ tag ∉ requiredTags) ∧
          exactLogicCoverage requiredTags factTags = .ok ⟨.extra, [], tags, []⟩)) ∧
    (∀ requiredTags' factTags', requiredTags'.Perm requiredTags → factTags'.Perm factTags →
      exactLogicCoverage requiredTags' factTags' = exactLogicCoverage requiredTags factTags) ∧
    (¬ requiredTags.Nodup → exactLogicCoverage requiredTags factTags =
      .error ⟨"required resource tags must already be unique"⟩) := by
  refine ⟨fun hrequired => ⟨?_, coverage_accept hrequired, coverage_duplicate hrequired,
    coverage_missing hrequired, coverage_extra hrequired⟩, fun _ _ => coverage_congr, fun h => ?_⟩
  · rw [exactLogicCoverage_accepts]
    exact and_iff_right hrequired
  · rw [exactLogicCoverage, if_pos h]

theorem coverage_decides_repeated :
    ∃ tags, Lists tags (fun tag => 1 < ["c", "a", "c"].count tag) ∧
      exactLogicCoverage ["b", "a"] ["c", "a", "c"] = .ok ⟨.duplicate, [], [], tags⟩ := by
  obtain ⟨hverdicts, -, -⟩ := coverage_decides ["b", "a"] ["c", "a", "c"]
  obtain ⟨-, -, hduplicate, -, -⟩ := hverdicts (by decide)
  exact hduplicate (by decide)

end Zrm.L5.Frontier
