import Zrm.Core.Gather
import Zrm.L6Tools.Sbom

/-!
# Merged components

`_merge_component` sees the candidates of the snapshots one after the other. Under each
reference it keeps their union, and it fails as soon as two of them disagree.

* `mergeRows_run`: what the merged dictionary holds after any number of candidates.
* `exists_mergeRows`: candidates that agree are merged.
-/
namespace Zrm.L6.Bom

open Placement Result Value

/-! ## Unions -/

/-- What `_merge_component` requires to agree. -/
def Component.shared (c : Component) : Identity × Option String × Option String :=
  (c.toIdentity, c.checksumSha256, c.licenseDeclared)

/-- The sets that `_merge_component` unites. -/
def unionFields : List (Component → List String) :=
  [fun c => c.activatedFeatures, fun c => c.targetKinds, fun c => c.scopes,
    fun c => c.workspaceMemberScopes]

/-- The candidate that a snapshot has for a package. -/
structure Row where
  scope : String
  id : String
  candidate : Component
  scopes : candidate.scopes = [scope]
  ascending : ∀ field ∈ unionFields, (field candidate).Pairwise (· < ·)

def Row.ref (row : Row) : String := row.candidate.bomRef

/-- The component unites the rows, which agree in everything else. -/
structure IsUnion (rows : Set Row) (c : Component) : Prop where
  nonempty : rows.Nonempty
  shared : ∀ row ∈ rows, row.candidate.shared = c.shared
  ascending : ∀ field ∈ unionFields, (field c).Pairwise (· < ·)
  union : ∀ field ∈ unionFields, ∀ x, x ∈ field c ↔ ∃ row ∈ rows, x ∈ field row.candidate

theorem Component.eq_of_shared {c c' : Component} (h : c.shared = c'.shared)
    (hfields : ∀ field ∈ unionFields, field c = field c') : c = c' := by
  simp only [Component.shared, Prod.mk.injEq] at h
  simp only [unionFields, List.forall_mem_cons] at hfields
  obtain ⟨hidentity, hchecksum, hlicense⟩ := h
  obtain ⟨hfeatures, hkinds, hscopes, hmembers, -⟩ := hfields
  cases c
  cases c'
  simp only [Component.mk.injEq]
  exact ⟨hidentity, hchecksum, hlicense, hfeatures, hkinds, hscopes, hmembers⟩

theorem IsUnion.unique (rows : Set Row) (c c' : Component) (h : IsUnion rows c) (h' : IsUnion rows c') :
    c = c' := by
  obtain ⟨row, hrow⟩ := h.nonempty
  apply Component.eq_of_shared ((h.shared row hrow).symm.trans (h'.shared row hrow))
  intro field hfield
  apply eq_of_mem_iff_of_ascending (h.ascending field hfield) (h'.ascending field hfield)
  intro x
  rw [h.union field hfield, h'.union field hfield]

theorem IsUnion.single (row : Row) : IsUnion {row} row.candidate where
  nonempty := ⟨row, rfl⟩
  shared other hother := by rw [Set.mem_singleton_iff.mp hother]
  ascending := row.ascending
  union field _ x := by simp

theorem field_joinComponents {existing : Component} {row : Row} {field : Component → List String}
    (h : field ∈ unionFields) :
    field (joinComponents existing row.candidate row.scope) =
      sortedSet (field existing ++ field row.candidate) := by
  simp only [unionFields, List.mem_cons, List.not_mem_nil, or_false] at h
  rcases h with rfl | rfl | rfl | rfl
  · rfl
  · rfl
  · simp only [row.scopes, joinComponents]
  · rfl

/-- One row more. -/
theorem IsUnion.join {rows : Set Row} {existing : Component} {row : Row} (h : IsUnion rows existing)
    (hshared : existing.shared = row.candidate.shared) :
    IsUnion (insert row rows) (joinComponents existing row.candidate row.scope) where
  nonempty := ⟨row, Set.mem_insert row rows⟩
  shared other hother := by
    rcases Set.mem_insert_iff.mp hother with rfl | hold
    · exact hshared.symm
    · exact h.shared other hold
  ascending field hfield := by
    rw [field_joinComponents hfield]
    exact sortedSet_ascending _
  union field hfield x := by
    rw [field_joinComponents hfield, mem_sortedSet, List.mem_append, h.union field hfield]
    refine ⟨fun hx => ?_, fun hx => ?_⟩
    · rcases hx with ⟨other, hother, hx⟩ | hx
      · exact ⟨other, Set.mem_insert_of_mem row hother, hx⟩
      · exact ⟨row, Set.mem_insert row rows, hx⟩
    · obtain ⟨other, hother, hx⟩ := hx
      rcases Set.mem_insert_iff.mp hother with rfl | hold
      · exact .inr hx
      · exact .inl ⟨other, hold, hx⟩

/-! ## One merge -/

theorem compared_iff {c c' : Component} (href : c.bomRef = c'.bomRef) :
    (∀ field ∈ comparedFields, field.2 c = field.2 c') ↔ c.shared = c'.shared := by
  cases c with
  | mk identity =>
    cases c' with
    | mk identity' =>
      cases identity
      cases identity'
      obtain rfl : _ = _ := href
      simp [comparedFields, Component.shared, and_assoc]

theorem mergeComponent_none {d : Dict String Component} {c : Component} {scope : String}
    (h : d.get? c.bomRef = none) : mergeComponent d c scope = .ok (d.set c.bomRef c) := by
  rw [mergeComponent, h]

theorem mergeComponent_some {d d' : Dict String Component} {existing c : Component} {scope : String}
    (h : d.get? c.bomRef = some existing) :
    mergeComponent d c scope = .ok d' ↔ (∀ field ∈ comparedFields, field.2 existing = field.2 c) ∧
      d' = d.set c.bomRef (joinComponents existing c scope) := by
  rw [mergeComponent, h]
  simp only [unit_bind_eq_ok, pure_eq, Except.ok.injEq]
  have hforM : (comparedFields.forM fun field => require (field.2 existing == field.2 c)
      (bomError ("inconsistent component metadata for " ++ c.bomRef ++ ": " ++ field.1) [])) = .ok () ↔
      ∀ field ∈ comparedFields, field.2 existing = field.2 c := by
    apply forM_eq_ok.trans
    simp only [require_eq_ok, beq_iff_eq]
  rw [hforM, eq_comm (a := d')]

/-- The step of the loop over all candidates. -/
def mergeRow (components : Dict String Component) (row : Row) : Except Raised (Dict String Component) :=
  mergeComponent components row.candidate row.scope

/-- Rows with one reference agree. -/
def Coherent (rows : List Row) : Prop :=
  ∀ row ∈ rows, ∀ other ∈ rows, row.ref = other.ref → row.candidate.shared = other.candidate.shared

/-- The dictionary holds the union of the rows of each reference. -/
abbrev Merged (rows : List Row) (d : Dict String Component) : Prop := Gathers Row.ref IsUnion rows d

/-! ## All merges -/

theorem Merged.bomRef {rows : List Row} {d : Dict String Component} (h : Merged rows d) {ref : String}
    {c : Component} (hc : d.get? ref = some c) : c.bomRef = ref := by
  obtain ⟨row, hrow, rfl⟩ := h.present ref c hc
  have hshared := (h.summary _ c hc).shared row ⟨hrow, rfl⟩
  exact congrArg (fun shared => shared.1.bomRef) hshared.symm

/-- What is merged agrees with a row if and only if all rows under its reference do. -/
theorem Merged.agrees_iff {rows : List Row} {d : Dict String Component} (h : Merged rows d)
    {ref : String} {c : Component} (hc : d.get? ref = some c)
    {shared : Identity × Option String × Option String} :
    c.shared = shared ↔ ∀ row ∈ rows, row.ref = ref → row.candidate.shared = shared := by
  have hsummary := h.summary ref c hc
  refine ⟨fun hshared row hrow href => ?_, fun hall => ?_⟩
  · exact (hsummary.shared row ⟨hrow, href⟩).trans hshared
  · obtain ⟨row, hrow, href⟩ := h.present ref c hc
    exact (hsummary.shared row ⟨hrow, href⟩).symm.trans (hall row hrow href)

theorem rowsOf_eq_empty {rows : List Row} {ref : String} (h : ∀ row ∈ rows, row.ref ≠ ref) :
    rowsOf Row.ref rows ref = ∅ := by
  apply Set.eq_empty_of_forall_notMem
  intro row hrow
  exact h row hrow.1 hrow.2

/-- One merge succeeds if and only if the row agrees with those before it. -/
theorem Merged.step {rows : List Row} {d : Dict String Component} {row : Row} (h : Merged rows d) :
    (∀ d', mergeRow d row = .ok d' → Merged (rows ++ [row]) d' ∧
      ∀ other ∈ rows, other.ref = row.ref → other.candidate.shared = row.candidate.shared) ∧
    ((∀ other ∈ rows, other.ref = row.ref → other.candidate.shared = row.candidate.shared) →
      ∃ d', mergeRow d row = .ok d') := by
  cases hfound : d.get? row.ref with
  | none =>
    have hfresh : ∀ other ∈ rows, other.ref ≠ row.ref := by
      intro other hother href
      obtain ⟨c, hc⟩ := h.complete other hother
      rw [href, hfound] at hc
      cases hc
    have hmerge : mergeRow d row = .ok (d.set row.ref row.candidate) := mergeComponent_none hfound
    refine ⟨fun d' hok => ?_, fun _ => ⟨_, hmerge⟩⟩
    rw [hmerge] at hok
    cases hok
    refine ⟨h.set ?_, fun other hother href => absurd href (hfresh other hother)⟩
    rw [rowsOf_eq_empty hfresh, insert_empty_eq]
    exact IsUnion.single row
  | some existing =>
    have hmerge := fun d' => @mergeComponent_some d d' existing row.candidate row.scope hfound
    have hcompared := @compared_iff existing row.candidate (h.bomRef hfound)
    refine ⟨fun d' hok => ?_, fun hagree => ?_⟩
    · obtain ⟨hfields, rfl⟩ := (hmerge d').mp hok
      have hshared := hcompared.mp hfields
      exact ⟨h.set ((h.summary _ _ hfound).join hshared), (h.agrees_iff hfound).mp hshared⟩
    · exact ⟨_, (hmerge _).mpr ⟨hcompared.mpr ((h.agrees_iff hfound).mpr hagree), rfl⟩⟩

theorem coherent_append_single {rows : List Row} {row : Row} :
    Coherent (rows ++ [row]) ↔ Coherent rows ∧
      ∀ other ∈ rows, other.ref = row.ref → other.candidate.shared = row.candidate.shared := by
  refine ⟨fun h => ⟨fun first hfirst second hsecond => ?_, fun other hother => ?_⟩, fun h => ?_⟩
  · exact h first (List.mem_append_left _ hfirst) second (List.mem_append_left _ hsecond)
  · exact h other (List.mem_append_left _ hother) row (List.mem_append_right _ (List.mem_singleton.mpr rfl))
  · obtain ⟨hrows, hrow⟩ := h
    intro first hfirst second hsecond href
    rcases List.mem_append.mp hfirst with hfirst' | hfirst'
    · rcases List.mem_append.mp hsecond with hsecond' | hsecond'
      · exact hrows first hfirst' second hsecond' href
      · obtain rfl := List.mem_singleton.mp hsecond'
        exact hrow first hfirst' href
    · obtain rfl := List.mem_singleton.mp hfirst'
      rcases List.mem_append.mp hsecond with hsecond' | hsecond'
      · exact (hrow second hsecond' href.symm).symm
      · rw [List.mem_singleton.mp hsecond']

theorem Coherent.of_append {rows more : List Row} (h : Coherent (rows ++ more)) : Coherent rows :=
  fun row hrow other hother => h row (List.mem_append_left _ hrow) other (List.mem_append_left _ hother)

/-- A run of merges ends with the union of all rows, which agree. -/
theorem mergeRows_run {done todo : List Row} {d d' : Dict String Component} (h : Merged done d)
    (hdone : Coherent done) (hok : todo.foldlM mergeRow d = .ok d') :
    Merged (done ++ todo) d' ∧ Coherent (done ++ todo) := by
  induction todo generalizing done d with
  | nil =>
    cases hok
    rw [List.append_nil]
    exact ⟨h, hdone⟩
  | cons row todo ih =>
    rw [List.foldlM_cons] at hok
    obtain ⟨d₁, hfirst, hrest⟩ := bind_eq_ok.mp hok
    obtain ⟨hmerged, hagree⟩ := h.step.1 _ hfirst
    have hnext := ih hmerged (coherent_append_single.mpr ⟨hdone, hagree⟩) hrest
    rw [List.append_assoc] at hnext
    exact hnext

theorem exists_mergeRows {done todo : List Row} {d : Dict String Component} (h : Merged done d)
    (hall : Coherent (done ++ todo)) : ∃ d', todo.foldlM mergeRow d = .ok d' := by
  induction todo generalizing done d with
  | nil => exact ⟨d, rfl⟩
  | cons row todo ih =>
    have hsplit : done ++ row :: todo = (done ++ [row]) ++ todo := by rw [List.append_assoc]; rfl
    rw [hsplit] at hall
    obtain ⟨d₁, hfirst⟩ := h.step.2 (coherent_append_single.mp hall.of_append).2
    obtain ⟨d', hrest⟩ := ih (h.step.1 _ hfirst).1 hall
    refine ⟨d', ?_⟩
    rw [List.foldlM_cons, hfirst, ok_bind, hrest]

end Zrm.L6.Bom
