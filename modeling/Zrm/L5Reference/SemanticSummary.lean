import Zrm.L5Reference.Coverage

/-!
# Semantic summaries (`arm_zrm_frontier_v1.py`)

A summary is a record of fields that passed `__post_init__`; `compose` merges
two of them and goes through the same checks again.

* `SummaryFields.check_eq_ok`: what the checks ask, as a conjunction.
* `SemanticSummary.singleton_defined`: which leaves can be made.
* `compose_eq_ok`: `compose` succeeds on composable operands, with the merged fields.
-/
namespace Zrm.L5.Frontier

open Zrm Zrm.BigEndian Zrm.Result Zrm.FormalSum Zrm.Placement Zrm.L5.CanonicalJson

/-! ## Summaries -/

/-- The arguments of the class.
mirrors reference_models/arm_zrm_frontier_v1.py:281-292 -/
@[ext] structure SummaryFields where
  contextHash : String
  basisRoot : String
  profileId : String
  actionIds : List String
  consumedTags : List String
  createdTags : List String
  factTags : List String
  deltaRows : List (String × Int)
  deriving DecidableEq

/-- `set(left) & set(right)` is not empty. -/
def shareName (left right : List String) : Bool := ∃ name ∈ left, name ∈ right

/-- `if condition: raise FrontierError(text)` -/
def raiseIf (condition : Prop) [Decidable condition] (text : String) :
    Except FrontierError Unit :=
  if condition then .error ⟨text⟩ else .ok ()

/-- The two checks of a list of names. -/
def checkNames (label : String) (values : List String) : Except FrontierError Unit := do
  raiseIf (values ≠ values.insertionSort (· ≤ ·)) (label ++ " must be sorted")
  raiseIf (¬ values.Nodup) (label ++ " must be unique")

/-- mirrors reference_models/arm_zrm_frontier_v1.py:294-316 -/
def SummaryFields.check (s : SummaryFields) : Except FrontierError Unit := do
  checkNames "action_ids" s.actionIds
  checkNames "consumed_tags" s.consumedTags
  checkNames "created_tags" s.createdTags
  checkNames "fact_tags" s.factTags
  raiseIf (s.deltaRows ≠ normalRows s.deltaRows) "delta rows must be sorted, unique, and nonzero"
  raiseIf (¬ (s.deltaRows.map Prod.fst).Nodup) "duplicate delta row"
  raiseIf (shareName s.consumedTags s.createdTags) "consumed and created tags collide"
  let coverage ← exactLogicCoverage (s.consumedTags ++ s.createdTags) s.factTags
  raiseIf (coverage.decision ≠ .accept) "summary lacks exact logic-fact coverage"
  raiseIf (s.contextHash = "") "summary authority bindings must be nonempty"
  raiseIf (s.basisRoot = "") "summary authority bindings must be nonempty"
  raiseIf (s.profileId = "") "summary authority bindings must be nonempty"

/-- A summary; the class checks its fields. -/
@[ext] structure SemanticSummary where
  fields : SummaryFields
  valid : fields.check = .ok ()
  deriving DecidableEq

namespace SemanticSummary

def tryNew (fields : SummaryFields) : Except FrontierError SemanticSummary := do
  let checked ← attach fields.check
  return ⟨fields, checked.2⟩

/-- mirrors reference_models/arm_zrm_frontier_v1.py:318-342 -/
def singleton (contextHash basisRoot profileId actionId : String)
    (consumedTags createdTags : List String) (deltaRows : Dict String Int) :
    Except FrontierError SemanticSummary :=
  let consumed := consumedTags.insertionSort (· ≤ ·)
  let created := createdTags.insertionSort (· ≤ ·)
  let facts := (consumed ++ created).insertionSort (· ≤ ·)
  tryNew {
    contextHash
    basisRoot
    profileId
    actionIds := [actionId]
    consumedTags := consumed
    createdTags := created
    factTags := facts
    deltaRows := normalRows deltaRows.items }

/-- mirrors reference_models/arm_zrm_frontier_v1.py:344-354 -/
def canonicalPayload (s : SemanticSummary) : Payload :=
  .dict [("context_hash", .str s.fields.contextHash),
    ("basis_root", .str s.fields.basisRoot),
    ("profile_id", .str s.fields.profileId),
    ("action_ids", .list (s.fields.actionIds.map .str)),
    ("consumed_tags", .list (s.fields.consumedTags.map .str)),
    ("created_tags", .list (s.fields.createdTags.map .str)),
    ("fact_tags", .list (s.fields.factTags.map .str)),
    ("delta_rows", .list (s.fields.deltaRows.map fun row => .list [.str row.1, .int row.2]))]

/-- mirrors reference_models/arm_zrm_frontier_v1.py:356-360 -/
def semanticRoot (sha256 : List UInt8 → Bytes 32) (s : SemanticSummary) : String :=
  payloadRoot sha256 "ZRM-MODEL-SEMANTIC-SUMMARY-V1" s.canonicalPayload

end SemanticSummary

/-- The fields that `compose` builds. -/
def SummaryFields.merge (s other : SummaryFields) : SummaryFields where
  contextHash := s.contextHash
  basisRoot := s.basisRoot
  profileId := s.profileId
  actionIds := (s.actionIds ++ other.actionIds).insertionSort (· ≤ ·)
  consumedTags := (s.consumedTags ++ other.consumedTags).insertionSort (· ≤ ·)
  createdTags := (s.createdTags ++ other.createdTags).insertionSort (· ≤ ·)
  factTags := (s.factTags ++ other.factTags).insertionSort (· ≤ ·)
  deltaRows := normalRows (accumulate (.ofItems s.deltaRows) other.deltaRows).items

/-- The checks of `compose` before it builds the summary. -/
def SummaryFields.checkCompose (s other : SummaryFields) : Except FrontierError Unit := do
  raiseIf (s.contextHash ≠ other.contextHash) "context mismatch"
  raiseIf (s.basisRoot ≠ other.basisRoot) "kind-basis mismatch"
  raiseIf (s.profileId ≠ other.profileId) "profile mismatch"
  raiseIf (shareName s.actionIds other.actionIds) "duplicate action"
  raiseIf (shareName s.consumedTags other.consumedTags) "duplicate consumption"
  raiseIf (shareName s.createdTags other.createdTags) "duplicate creation"
  raiseIf (shareName s.factTags other.factTags) "duplicate fact"
  raiseIf (shareName (s.consumedTags ++ s.createdTags) (other.consumedTags ++ other.createdTags))
    "cross-summary resource-tag collision"

/-- mirrors reference_models/arm_zrm_frontier_v1.py:362-394 -/
def SemanticSummary.compose (s other : SemanticSummary) : Except FrontierError SemanticSummary := do
  s.fields.checkCompose other.fields
  tryNew (s.fields.merge other.fields)

/-! ## Valid fields -/

/-- What the class asks of its fields. -/
structure SummaryFields.WellFormed (s : SummaryFields) : Prop where
  actionIds : s.actionIds.Pairwise (· < ·)
  consumedTags : s.consumedTags.Pairwise (· < ·)
  createdTags : s.createdTags.Pairwise (· < ·)
  factTags : s.factTags.Pairwise (· < ·)
  deltaRows : Normal s.deltaRows
  disjoint : s.consumedTags.Disjoint s.createdTags
  coverage : s.factTags.Perm (s.consumedTags ++ s.createdTags)
  contextHash : s.contextHash ≠ ""
  basisRoot : s.basisRoot ≠ ""
  profileId : s.profileId ≠ ""

theorem nodup_of_ascending {names : List String} (h : names.Pairwise (· < ·)) : names.Nodup :=
  h.imp fun hlt => ne_of_lt hlt

@[simp] theorem raiseIf_eq_ok {condition : Prop} [Decidable condition] {text : String} :
    raiseIf condition text = .ok () ↔ ¬ condition := by
  unfold raiseIf
  split <;> simp [*]

theorem shareName_iff {left right : List String} :
    ¬ shareName left right = true ↔ left.Disjoint right := by
  simp only [shareName, decide_eq_true_eq, not_exists, not_and]
  rfl

theorem checkNames_eq_ok {label : String} {values : List String} :
    checkNames label values = .ok () ↔ values.Pairwise (· < ·) := by
  simp only [checkNames, unit_bind_eq_ok, raiseIf_eq_ok, ne_eq, not_not]
  exact eq_insertionSort_iff

theorem coverage_bind_eq_ok {requiredTags factTags : List String} {text : String}
    {rest : Except FrontierError Unit} :
    (exactLogicCoverage requiredTags factTags >>= fun coverage => do
      raiseIf (coverage.decision ≠ .accept) text
      rest) = .ok () ↔ (requiredTags.Nodup ∧ factTags.Perm requiredTags) ∧ rest = .ok () := by
  rw [bind_eq_ok, ← exactLogicCoverage_accepts]
  refine ⟨fun h' => ?_, fun h => ?_⟩
  · obtain ⟨result, hresult, h⟩ := h'
    rw [unit_bind_eq_ok, raiseIf_eq_ok, not_not] at h
    exact ⟨⟨result, hresult, h.1⟩, h.2⟩
  · obtain ⟨⟨result, hresult, haccept⟩, hrest⟩ := h
    refine ⟨result, hresult, ?_⟩
    rw [unit_bind_eq_ok, raiseIf_eq_ok, not_not]
    exact ⟨haccept, hrest⟩

theorem SummaryFields.check_eq_ok {s : SummaryFields} : s.check = .ok () ↔ s.WellFormed := by
  simp only [SummaryFields.check, unit_bind_eq_ok, checkNames_eq_ok, coverage_bind_eq_ok,
    raiseIf_eq_ok, shareName_iff, ne_eq, not_not]
  refine ⟨fun h => ?_, fun h => ?_⟩
  · obtain ⟨actions, consumed, created, facts, rows, unique, disjoint, ⟨-, coverage⟩, context,
      basis, profile⟩ := h
    exact ⟨actions, consumed, created, facts, normalRows_iff.mp ⟨rows.symm, unique⟩, disjoint,
      coverage, context, basis, profile⟩
  · obtain ⟨actions, consumed, created, facts, rows, disjoint, coverage, context, basis,
      profile⟩ := h
    have hnodup : (s.consumedTags ++ s.createdTags).Nodup :=
      List.nodup_append'.mpr ⟨nodup_of_ascending consumed, nodup_of_ascending created, disjoint⟩
    exact ⟨actions, consumed, created, facts, rows.normalRows_eq.symm, rows.nodup, disjoint,
      ⟨hnodup, coverage⟩, context, basis, profile⟩

theorem SemanticSummary.wellFormed (s : SemanticSummary) : s.fields.WellFormed :=
  SummaryFields.check_eq_ok.mp s.valid

theorem SemanticSummary.tryNew_eq_ok {fields : SummaryFields} {s : SemanticSummary} :
    tryNew fields = .ok s ↔ s.fields = fields := by
  unfold tryNew
  refine ⟨fun h => ?_, fun h => ?_⟩
  · obtain ⟨checked, -, h⟩ := bind_eq_ok.mp h
    cases h
    rfl
  · obtain rfl := h
    rw [attach_eq_ok ⟨(), s.valid⟩]
    rfl

/-- A leaf is made unless a tag is listed twice or a binding is empty. -/
theorem SemanticSummary.singleton_defined {contextHash basisRoot profileId actionId : String}
    {consumedTags createdTags : List String} {deltaRows : Dict String Int} :
    (∃ s, singleton contextHash basisRoot profileId actionId consumedTags createdTags deltaRows =
        .ok s) ↔
      (consumedTags ++ createdTags).Nodup ∧ contextHash ≠ "" ∧ basisRoot ≠ "" ∧
        profileId ≠ "" := by
  have hperm := (List.perm_insertionSort (· ≤ ·) consumedTags).append
    (List.perm_insertionSort (· ≤ ·) createdTags)
  unfold singleton
  simp only [tryNew_eq_ok]
  refine ⟨fun h => ?_, fun h => ?_⟩
  · obtain ⟨s, hs⟩ := h
    have hfields := hs ▸ s.wellFormed
    have hnodup := List.nodup_append'.mpr ⟨nodup_of_ascending hfields.consumedTags,
      nodup_of_ascending hfields.createdTags, hfields.disjoint⟩
    exact ⟨hperm.nodup_iff.mp hnodup, hfields.contextHash, hfields.basisRoot, hfields.profileId⟩
  · obtain ⟨hnodup, context, basis, profile⟩ := h
    have hsorted := hperm.nodup_iff.mpr hnodup
    have hdisjoint := (List.nodup_append'.mp hsorted).2.2
    rw [List.nodup_append'] at hnodup
    refine ⟨⟨_, SummaryFields.check_eq_ok.mpr ?_⟩, rfl⟩
    exact {
      actionIds := List.pairwise_singleton _ actionId
      consumedTags := insertionSort_strict hnodup.1
      createdTags := insertionSort_strict hnodup.2.1
      factTags := insertionSort_strict hsorted
      deltaRows := normal_normalRows deltaRows.nodup
      disjoint := hdisjoint
      coverage := List.perm_insertionSort _ _
      contextHash := context
      basisRoot := basis
      profileId := profile }

/-- The payload of a summary holds all of it. -/
theorem SemanticSummary.canonicalPayload_injective :
    Function.Injective SemanticSummary.canonicalPayload := by
  intro s other h
  have hstr : Function.Injective Payload.str := fun _ _ heq => Payload.str.inj heq
  have hrow : Function.Injective fun row : String × Int =>
      Payload.list [.str row.1, .int row.2] := by
    intro row row' heq
    simpa [Prod.ext_iff] using heq
  simp only [canonicalPayload, Payload.dict.injEq, List.cons.injEq, Prod.mk.injEq,
    Payload.str.injEq, Payload.list.injEq, (List.map_injective_iff.mpr hstr).eq_iff,
    (List.map_injective_iff.mpr hrow).eq_iff, true_and, and_true] at h
  obtain ⟨context, basis, profile, actions, consumed, created, facts, rows⟩ := h
  exact SemanticSummary.ext
    (SummaryFields.ext context basis profile actions consumed created facts rows)

/-! ## Composition -/

/-- The resource tags of a summary. -/
def SummaryFields.tags (s : SummaryFields) : List String := s.consumedTags ++ s.createdTags

/-- What two summaries must agree on, and what they must not share. -/
structure Composable (s other : SemanticSummary) : Prop where
  contextHash : s.fields.contextHash = other.fields.contextHash
  basisRoot : s.fields.basisRoot = other.fields.basisRoot
  profileId : s.fields.profileId = other.fields.profileId
  actionIds : s.fields.actionIds.Disjoint other.fields.actionIds
  tags : s.fields.tags.Disjoint other.fields.tags

theorem Composable.symm {s other : SemanticSummary} (h : Composable s other) :
    Composable other s :=
  ⟨h.contextHash.symm, h.basisRoot.symm, h.profileId.symm, h.actionIds.symm, h.tags.symm⟩

theorem SemanticSummary.mem_factTags (s : SemanticSummary) {tag : String} :
    tag ∈ s.fields.factTags ↔ tag ∈ s.fields.tags :=
  s.wellFormed.coverage.mem_iff

theorem SemanticSummary.tags_nodup (s : SemanticSummary) : s.fields.tags.Nodup :=
  s.wellFormed.coverage.nodup_iff.mp (nodup_of_ascending s.wellFormed.factTags)

theorem Composable.consumedTags {s other : SemanticSummary} (h : Composable s other) :
    s.fields.consumedTags.Disjoint other.fields.consumedTags := fun _ hs hother =>
  h.tags (List.mem_append_left _ hs) (List.mem_append_left _ hother)

theorem Composable.createdTags {s other : SemanticSummary} (h : Composable s other) :
    s.fields.createdTags.Disjoint other.fields.createdTags := fun _ hs hother =>
  h.tags (List.mem_append_right _ hs) (List.mem_append_right _ hother)

theorem Composable.factTags {s other : SemanticSummary} (h : Composable s other) :
    s.fields.factTags.Disjoint other.fields.factTags := fun _ hs hother =>
  h.tags (s.mem_factTags.mp hs) (other.mem_factTags.mp hother)

/-- The checks of `compose` ask that the operands be composable. -/
theorem checkCompose_eq_ok {s other : SemanticSummary} :
    s.fields.checkCompose other.fields = .ok () ↔ Composable s other := by
  simp only [SummaryFields.checkCompose, unit_bind_eq_ok, raiseIf_eq_ok, shareName_iff, ne_eq,
    not_not]
  refine ⟨fun h => ?_, fun h => ?_⟩
  · obtain ⟨context, basis, profile, actions, -, -, -, tags⟩ := h
    exact ⟨context, basis, profile, actions, tags⟩
  · exact ⟨h.contextHash, h.basisRoot, h.profileId, h.actionIds, h.consumedTags, h.createdTags,
      h.factTags, h.tags⟩

/-- The merged names, of operands that share none. -/
theorem merged_ascending {left right : List String} (hleft : left.Pairwise (· < ·))
    (hright : right.Pairwise (· < ·)) (hdisjoint : left.Disjoint right) :
    ((left ++ right).insertionSort (· ≤ ·)).Pairwise (· < ·) :=
  insertionSort_strict (List.nodup_append'.mpr
    ⟨nodup_of_ascending hleft, nodup_of_ascending hright, hdisjoint⟩)

theorem merged_perm (left right : List String) :
    ((left ++ right).insertionSort (· ≤ ·)).Perm (left ++ right) :=
  List.perm_insertionSort _ _

/-- The tags of merged fields are those of both. -/
theorem merge_tags_perm (s other : SummaryFields) :
    (s.merge other).tags.Perm (s.tags ++ other.tags) := by
  have hboth := (merged_perm s.consumedTags other.consumedTags).append
    (merged_perm s.createdTags other.createdTags)
  refine hboth.trans ?_
  unfold SummaryFields.tags
  rw [List.append_assoc, List.append_assoc]
  refine (List.Perm.refl _).append ?_
  rw [← List.append_assoc, ← List.append_assoc]
  exact (List.perm_append_comm).append (List.Perm.refl _)

/-- Merged fields pass the checks of the class. -/
theorem merge_wellFormed {s other : SemanticSummary} (h : Composable s other) :
    (s.fields.merge other.fields).WellFormed := by
  have hs := s.wellFormed
  have hother := other.wellFormed
  have hnodup : (s.fields.merge other.fields).tags.Nodup :=
    (merge_tags_perm _ _).nodup_iff.mpr
      (List.nodup_append'.mpr ⟨s.tags_nodup, other.tags_nodup, h.tags⟩)
  constructor
  · exact merged_ascending hs.actionIds hother.actionIds h.actionIds
  · exact merged_ascending hs.consumedTags hother.consumedTags h.consumedTags
  · exact merged_ascending hs.createdTags hother.createdTags h.createdTags
  · exact merged_ascending hs.factTags hother.factTags h.factTags
  · exact normal_normalRows (Dict.nodup _)
  · exact (List.nodup_append'.mp hnodup).2.2
  · exact (merged_perm _ _).trans
      ((hs.coverage.append hother.coverage).trans (merge_tags_perm _ _).symm)
  · exact hs.contextHash
  · exact hs.basisRoot
  · exact hs.profileId

/-- `compose` succeeds on composable summaries, and only on them, with the merged fields. -/
theorem compose_eq_ok {s other result : SemanticSummary} :
    s.compose other = .ok result ↔
      Composable s other ∧ result.fields = s.fields.merge other.fields := by
  unfold SemanticSummary.compose
  rw [unit_bind_eq_ok, checkCompose_eq_ok, SemanticSummary.tryNew_eq_ok]

theorem compose_defined {s other : SemanticSummary} :
    (∃ result, s.compose other = .ok result) ↔ Composable s other := by
  refine ⟨fun h' => ?_, fun h => ?_⟩
  · obtain ⟨result, h⟩ := h'
    exact (compose_eq_ok.mp h).1
  · exact ⟨⟨_, SummaryFields.check_eq_ok.mpr (merge_wellFormed h)⟩, compose_eq_ok.mpr ⟨h, rfl⟩⟩

end Zrm.L5.Frontier
