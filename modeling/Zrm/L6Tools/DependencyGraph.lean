import Zrm.Core.DepthFirst
import Zrm.Core.Dict
import Zrm.L6Tools.Value
import Mathlib.Data.List.Sort

/-!
# Dependency validation of tasks and of obligations

`validate_graph` of the delegation plan and `validate_dependency_graph` of the
conformance matrix are one function on rows of an identifier and its
dependencies: local checks that also fill a dictionary, then the depth-first
search of `Zrm.DepthFirst` over it. `none` is a recursion deeper than `depth`.

* `fillGraph_eq_ok`: the local checks in closed form.
* `validateRows_decides`: the validator returns, and accepts exactly the closed
  acyclic graphs.
* `dependency_validation_exact`: the same for both validators, in every order of
  the rows and of their dependencies.
-/
namespace Zrm.L6.DependencyGraph

open Result Value

/-! ## The graph of a list of rows -/

/-- An identifier and the identifiers it depends on. -/
abbrev Row := String × List String

def ids (rows : List Row) : List String := rows.map Prod.fst

/-- `a` lists `b` as a dependency. -/
def DependsOn (rows : List Row) (a b : String) : Prop := ∃ deps, (a, deps) ∈ rows ∧ b ∈ deps

/-- Every dependency names a row. -/
def Closed (rows : List Row) : Prop := ∀ a b, DependsOn rows a b → b ∈ ids rows

/-- No chain of dependencies comes back to its start. -/
def NoCycle (rows : List Row) : Prop := ∀ a, ¬ Relation.TransGen (DependsOn rows) a a

/-! ## The validator -/

/-- `sorted(set(dependencies) - identifiers)` -/
def unknownDependencies (identifiers deps : List String) : List String :=
  ((deps.filter fun d => !identifiers.contains d).dedup).insertionSort (· ≤ ·)

/-- The two `require`s of the loop body -/
def checkRow (identifiers : List String) (row : Row) : Except Raised Unit := do
  require (!row.2.contains row.1) (failed s!"{row.1} cannot depend on itself")
  let unknown := unknownDependencies identifiers row.2
  require unknown.isEmpty ⟨.checkFailed, s!"{row.1} has unknown dependencies: ", unknown⟩

/-- The loop that fills `graph` -/
def fillGraph (rows : List Row) : Except Raised (Dict String (List String)) :=
  rows.foldlM (fun graph row => checkRow (ids rows) row >>= fun _ => pure (graph.set row.1 row.2))
    Dict.empty

/-- `graph[identifier]`; all identifiers searched are keys (`successors_keys`). -/
def successors (graph : Dict String (List String)) (identifier : String) : List String :=
  (graph.get? identifier).getD []

def validateRows (cycle : String → String) (depth : Nat) (rows : List Row) : Run Raised Unit :=
  returned (fillGraph rows) >>= fun graph =>
  ExceptT.adapt (fun c => failed (cycle c))
    (DepthFirst.search (successors graph) depth graph.keys) >>= fun _ =>
  pure ()

structure Task where
  id : String
  deps : List String
  deriving DecidableEq

structure Obligation where
  id : String
  blockingDependencies : List String
  deriving DecidableEq

def Task.row (t : Task) : Row := (t.id, t.deps)

def Obligation.row (o : Obligation) : Row := (o.id, o.blockingDependencies)

/-- mirrors tools/delegation_plan_model.py:96-122 -/
def validateGraph (depth : Nat) (tasks : List Task) : Run Raised Unit :=
  validateRows (fun c => s!"task dependency cycle reaches {c}") depth (tasks.map Task.row)

/-- mirrors tools/check_conformance.py:144-171 -/
def validateDependencyGraph (depth : Nat) (obligations : List Obligation) : Run Raised Unit :=
  validateRows (fun c => s!"CBC dependency cycle reaches {c}") depth
    (obligations.map Obligation.row)

/-! ## The local checks -/

theorem unknownDependencies_isEmpty {identifiers deps : List String} :
    (unknownDependencies identifiers deps).isEmpty = true ↔ ∀ d ∈ deps, d ∈ identifiers := by
  unfold unknownDependencies
  rw [List.isEmpty_iff, List.eq_nil_iff_forall_not_mem]
  simp only [List.mem_insertionSort, List.mem_dedup, List.mem_filter, Bool.not_eq_true',
    List.contains_eq_mem, decide_eq_false_iff_not, not_and, not_not]

theorem checkRow_eq_ok {identifiers : List String} {row : Row} :
    checkRow identifiers row = .ok () ↔ row.1 ∉ row.2 ∧ ∀ d ∈ row.2, d ∈ identifiers := by
  unfold checkRow
  rw [unit_bind_eq_ok, require_eq_ok, require_eq_ok, unknownDependencies_isEmpty]
  simp

theorem foldlM_set_eq_ok {check : Row → Except Raised Unit} {rows : List Row}
    {graph graph' : Dict String (List String)} :
    rows.foldlM (fun graph row => check row >>= fun _ => pure (graph.set row.1 row.2)) graph =
        .ok graph' ↔
      (∀ row ∈ rows, check row = .ok ()) ∧
        graph' = rows.foldl (fun graph row => graph.set row.1 row.2) graph := by
  induction rows generalizing graph with
  | nil => simp [eq_comm]
  | cons row rows ih =>
    rw [List.foldlM_cons, List.foldl_cons, List.forall_mem_cons]
    cases hrow : check row with
    | error e => simp
    | ok u =>
      show rows.foldlM _ (graph.set row.1 row.2) = Except.ok graph' ↔ _
      rw [ih]
      simp

/-- The local checks, and the dictionary of the rows. -/
theorem fillGraph_eq_ok {rows : List Row} {graph : Dict String (List String)} :
    fillGraph rows = .ok graph ↔
      (∀ row ∈ rows, row.1 ∉ row.2 ∧ ∀ d ∈ row.2, d ∈ ids rows) ∧ graph = Dict.ofItems rows := by
  unfold fillGraph
  rw [foldlM_set_eq_ok]
  simp only [checkRow_eq_ok]
  rfl

/-! ## The dictionary and the rows -/

theorem mem_successors {rows : List Row} (h : (ids rows).Nodup) {a b : String} :
    b ∈ successors (Dict.ofItems rows) a ↔ DependsOn rows a b := by
  unfold successors DependsOn
  have hget : ∀ deps, (Dict.ofItems rows).get? a = some deps ↔ (a, deps) ∈ rows := by
    intro deps
    rw [Dict.get?_eq_some, Dict.ofItems_items h]
  cases hd : (Dict.ofItems rows).get? a with
  | none => simp [← hget, hd]
  | some deps => simp [← hget, hd]

theorem keys_ofItems {rows : List Row} (h : (ids rows).Nodup) :
    (Dict.ofItems rows).keys = ids rows := by
  rw [Dict.keys, Dict.ofItems_items h, ids]

theorem path_iff {rows : List Row} (h : (ids rows).Nodup) {a b : String} :
    DepthFirst.Path (successors (Dict.ofItems rows)) a b ↔
      Relation.TransGen (DependsOn rows) a b := by
  have hrel : (fun a b => b ∈ successors (Dict.ofItems rows) a) = DependsOn rows := by
    funext a b
    exact propext (mem_successors h)
  rw [DepthFirst.Path, hrel]

theorem mem_ids_of_dependsOn {rows : List Row} {a b : String} (h : DependsOn rows a b) :
    a ∈ ids rows := by
  obtain ⟨deps, hmem, _⟩ := h
  exact List.mem_map_of_mem (f := Prod.fst) hmem

/-- The search goes from keys to keys only. -/
theorem successors_keys {rows : List Row} (h : (ids rows).Nodup) (hc : Closed rows) :
    ∀ v ∈ (Dict.ofItems rows).keys, ∀ d ∈ successors (Dict.ofItems rows) v,
      d ∈ (Dict.ofItems rows).keys := by
  rw [keys_ofItems h]
  intro v _ d hd
  exact hc v d ((mem_successors h).mp hd)

/-! ## The verdict -/

/-- With enough recursion depth the calls return one result, and it is an
acceptance iff `accept` holds. -/
def Decides (call : Nat → Run Raised Unit) (accept : Prop) : Prop :=
  ∃ bound verdict, (∀ depth, bound < depth → call depth = returned verdict) ∧
    (verdict = .ok () ↔ accept)

theorem Decides.congr {call : Nat → Run Raised Unit} {P Q : Prop} (h : Decides call P)
    (hPQ : P ↔ Q) : Decides call Q := by
  obtain ⟨bound, verdict, hcall, hok⟩ := h
  exact ⟨bound, verdict, hcall, hok.trans hPQ⟩

/-- A row that fails its local checks has an unknown dependency or a self-loop. -/
theorem checks_of_closed {rows : List Row} (hc : Closed rows) (hn : NoCycle rows) :
    ∀ row ∈ rows, row.1 ∉ row.2 ∧ ∀ d ∈ row.2, d ∈ ids rows := by
  intro row hrow
  refine ⟨fun hself => ?_, fun d hd => hc row.1 d ⟨row.2, hrow, hd⟩⟩
  exact hn row.1 (.single ⟨row.2, hrow, hself⟩)

/-- The validator's result after a search with result `r`. -/
def searchVerdict (cycle : String → String) :
    Except String (DepthFirst.Search String) → Except Raised Unit
  | .ok _ => .ok ()
  | .error c => .error (failed (cycle c))

theorem searchVerdict_eq_ok {cycle : String → String}
    {r : Except String (DepthFirst.Search String)} :
    searchVerdict cycle r = .ok () ↔ ∃ s, r = .ok s := by
  cases r <;> simp [searchVerdict]

theorem validateRows_eq {cycle : String → String} {depth : Nat} {rows : List Row}
    {graph : Dict String (List String)} {r : Except String (DepthFirst.Search String)}
    (hfill : fillGraph rows = .ok graph)
    (hr : DepthFirst.search (successors graph) depth graph.keys = returned r) :
    validateRows cycle depth rows = returned (searchVerdict cycle r) := by
  rw [validateRows, hfill, returned_ok_bind, hr]
  cases r <;> rfl

theorem validateRows_decides (cycle : String → String) {rows : List Row}
    (h : (ids rows).Nodup) :
    Decides (fun depth => validateRows cycle depth rows) (Closed rows ∧ NoCycle rows) := by
  cases hfill : fillGraph rows with
  | error e =>
    refine ⟨0, .error e, fun depth _ => ?_, fun hok => ?_, fun hgraph => ?_⟩
    · show validateRows cycle depth rows = _
      rw [validateRows, hfill]
      rfl
    · cases hok
    · rw [fillGraph_eq_ok.mpr ⟨checks_of_closed hgraph.1 hgraph.2, rfl⟩] at hfill
      cases hfill
  | ok graph =>
    obtain ⟨hrows, rfl⟩ := fillGraph_eq_ok.mp hfill
    have hc : Closed rows := by
      intro a b hdepends
      obtain ⟨deps, hmem, hb⟩ := hdepends
      exact (hrows _ hmem).2 b hb
    have hall : ∀ v d, d ∈ successors (Dict.ofItems rows) v → v ∈ (Dict.ofItems rows).keys := by
      intro v d hd
      rw [keys_ofItems h]
      exact mem_ids_of_dependsOn ((mem_successors h).mp hd)
    obtain ⟨r, hr, hok⟩ := DepthFirst.search_exact (successors_keys h hc) hall
    have hacyclic : DepthFirst.Acyclic (successors (Dict.ofItems rows)) ↔ NoCycle rows := by
      simp only [DepthFirst.Acyclic, NoCycle, path_iff h]
    refine ⟨_, searchVerdict cycle r, fun depth hd => validateRows_eq hfill (hr depth hd), ?_⟩
    rw [searchVerdict_eq_ok, hok, hacyclic]
    simp [hc]

/-- An acceptance at any depth is the verdict. -/
theorem validateRows_ok {cycle : String → String} {depth : Nat} {rows : List Row}
    (h : (ids rows).Nodup) (hok : validateRows cycle depth rows = returned (.ok ())) :
    Closed rows ∧ NoCycle rows := by
  obtain ⟨graph, hfill, hok⟩ := run_bind_eq_ok.mp hok
  obtain ⟨hrows, rfl⟩ := fillGraph_eq_ok.mp (returned_inj.mp hfill)
  refine ⟨?_, fun a ha => ?_⟩
  · intro a b hdepends
    obtain ⟨deps, hmem, hb⟩ := hdepends
    exact (hrows _ hmem).2 b hb
  · match hs : DepthFirst.search (successors (Dict.ofItems rows)) depth (Dict.ofItems rows).keys with
    | some (.ok s) =>
      have hpath := (path_iff h).mpr ha
      obtain ⟨d, hd⟩ := hpath.head_mem
      refine (DepthFirst.search_ok hs a ?_).not_path hpath
      rw [keys_ofItems h]
      exact mem_ids_of_dependsOn ((mem_successors h).mp hd)
    | some (.error c) =>
      rw [hs] at hok
      cases hok
    | none =>
      rw [hs] at hok
      cases hok

/-! ## The order of the rows -/

/-- The rows in another order, each with its dependencies in another order. -/
def Reordered (rows rows' : List Row) : Prop :=
  ∃ mid, rows.Perm mid ∧ List.Forall₂ (fun r r' => r.1 = r'.1 ∧ r.2.Perm r'.2) mid rows'

theorem ids_of_forall₂ {rows rows' : List Row}
    (h : List.Forall₂ (fun r r' => r.1 = r'.1 ∧ r.2.Perm r'.2) rows rows') :
    ids rows = ids rows' := by
  induction h with
  | nil => rfl
  | cons hr _ ih => exact congrArg₂ List.cons hr.1 ih

theorem dependsOn_of_forall₂ {rows rows' : List Row}
    (h : List.Forall₂ (fun r r' => r.1 = r'.1 ∧ r.2.Perm r'.2) rows rows') (a b : String) :
    DependsOn rows a b ↔ DependsOn rows' a b := by
  induction h with
  | nil => simp [DependsOn]
  | @cons r r' l l' hr _ ih =>
    have hsplit : ∀ (r : Row) (l : List Row),
        DependsOn (r :: l) a b ↔ (a = r.1 ∧ b ∈ r.2) ∨ DependsOn l a b := by
      intro r l
      simp [DependsOn, List.mem_cons, Prod.ext_iff, or_and_right, exists_or, and_assoc]
    rw [hsplit, hsplit, ih, hr.1, hr.2.mem_iff]

theorem Reordered.ids_perm {rows rows' : List Row} (h : Reordered rows rows') :
    (ids rows).Perm (ids rows') := by
  obtain ⟨mid, hperm, hmid⟩ := h
  rw [← ids_of_forall₂ hmid]
  exact hperm.map Prod.fst

theorem Reordered.dependsOn {rows rows' : List Row} (h : Reordered rows rows') :
    DependsOn rows = DependsOn rows' := by
  obtain ⟨mid, hperm, hmid⟩ := h
  funext a b
  rw [← propext (dependsOn_of_forall₂ hmid a b)]
  simp only [DependsOn, hperm.mem_iff]

theorem Reordered.accepts_iff {rows rows' : List Row} (h : Reordered rows rows') :
    Closed rows' ∧ NoCycle rows' ↔ Closed rows ∧ NoCycle rows := by
  simp only [Closed, NoCycle, h.dependsOn, h.ids_perm.mem_iff]

/-! ## Both validators -/

/-- **Dependency validation is exact.** On tasks with distinct identifiers, and
on obligations with the same graph, both validators return; each accepts iff
every dependency is listed and no chain of dependencies is a cycle; and no
reordering of rows or dependencies changes that. -/
theorem dependency_validation_exact (tasks : List Task) (obligations : List Obligation)
    (hids : (tasks.map Task.id).Nodup)
    (hsame : obligations.map Obligation.row = tasks.map Task.row) :
    Decides (fun depth => validateGraph depth tasks)
        (Closed (tasks.map Task.row) ∧ NoCycle (tasks.map Task.row)) ∧
      Decides (fun depth => validateDependencyGraph depth obligations)
        (Closed (tasks.map Task.row) ∧ NoCycle (tasks.map Task.row)) ∧
      (∀ tasks' : List Task, Reordered (tasks.map Task.row) (tasks'.map Task.row) →
        Decides (fun depth => validateGraph depth tasks')
          (Closed (tasks.map Task.row) ∧ NoCycle (tasks.map Task.row))) ∧
      (∀ obligations' : List Obligation,
        Reordered (tasks.map Task.row) (obligations'.map Obligation.row) →
        Decides (fun depth => validateDependencyGraph depth obligations')
          (Closed (tasks.map Task.row) ∧ NoCycle (tasks.map Task.row))) := by
  have hnodup : (ids (tasks.map Task.row)).Nodup := by
    rw [ids, List.map_map]
    exact hids
  have hreorder : ∀ (cycle : String → String) (rows : List Row),
      Reordered (tasks.map Task.row) rows →
      Decides (fun depth => validateRows cycle depth rows)
        (Closed (tasks.map Task.row) ∧ NoCycle (tasks.map Task.row)) := by
    intro cycle rows hrows
    exact (validateRows_decides cycle (hrows.ids_perm.nodup_iff.mp hnodup)).congr hrows.accepts_iff
  refine ⟨validateRows_decides _ hnodup, ?_, fun tasks' h => hreorder _ _ h,
    fun obligations' h => hreorder _ _ h⟩
  unfold validateDependencyGraph
  rw [hsame]
  exact validateRows_decides _ hnodup

theorem dependency_validation_exact_chain :
    Decides (fun depth => validateGraph depth [⟨"B", ["A"]⟩, ⟨"A", []⟩])
      (Closed [("B", ["A"]), ("A", [])] ∧ NoCycle [("B", ["A"]), ("A", [])]) :=
  (dependency_validation_exact [⟨"B", ["A"]⟩, ⟨"A", []⟩] [⟨"B", ["A"]⟩, ⟨"A", []⟩]
    (by decide) rfl).1

example : validateGraph 3 [⟨"B", ["A"]⟩, ⟨"A", ["B"]⟩] =
    returned (.error (failed "task dependency cycle reaches B")) := by rfl

end Zrm.L6.DependencyGraph
