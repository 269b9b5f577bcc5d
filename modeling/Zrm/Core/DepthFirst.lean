import Mathlib.Data.Finset.Card
import Mathlib.Logic.Relation
import Zrm.Core.Result

/-!
# Depth-first search for cycles

The recursive search with a set of visited and a set of active vertices, over a
graph given by its successor lists. It fails at a vertex that is still active.
Recursion is cut at a depth: `none` when it is too small.

* `visit_ok`, `visit_error`: what one call guarantees, by induction on the depth.
* `visit_returns`: in a finite closed set of vertices the depth needed is its size.
* `search_exact`: the search of all vertices succeeds iff no path returns to its start.
-/
namespace Zrm.DepthFirst

open Result

variable {α : Type}

/-! ## Paths -/

/-- A path of at least one edge. -/
def Path (graph : α → List α) : α → α → Prop := Relation.TransGen fun a b => b ∈ graph a

def Acyclic (graph : α → List α) : Prop := ∀ v, ¬ Path graph v v

/-- All paths from `v` end: induction along the edges below `v` is sound. -/
def Explored (graph : α → List α) (v : α) : Prop := Acc (fun b a => b ∈ graph a) v

variable {graph : α → List α}

theorem Path.edge {a b : α} (h : b ∈ graph a) : Path graph a b := .single h

theorem Path.tail {a b c : α} (h : Path graph a b) (hc : c ∈ graph b) : Path graph a c :=
  Relation.TransGen.tail h hc

/-- A cycle through `v` is also one through its next vertex, and so never ends. -/
theorem Explored.not_path {v : α} (h : Explored graph v) : ¬ Path graph v v := by
  induction h with
  | intro v _ ih =>
    intro hp
    obtain ⟨c, hc, hcv⟩ := Relation.TransGen.head'_iff.mp hp
    exact ih c hc (Relation.TransGen.tail' hcv hc)

/-- A path starts at a vertex with successors. -/
theorem Path.head_mem {a b : α} (h : Path graph a b) : ∃ c, c ∈ graph a := by
  obtain ⟨c, hc, _⟩ := Relation.TransGen.head'_iff.mp h
  exact ⟨c, hc⟩

/-! ## States of the search -/

structure Search (α : Type) where
  visited : Finset α
  active : Finset α
  deriving DecidableEq

/-- No vertex visited yet -/
def Search.start : Search α := ⟨∅, ∅⟩

/-- What calls that succeed do to the state: the active set is as before, and a
state that visited only explored vertices still does. -/
structure Advances (graph : α → List α) (s s' : Search α) : Prop where
  active : s'.active = s.active
  visited : s.visited ⊆ s'.visited
  explored : (∀ v ∈ s.visited, Explored graph v) → ∀ v ∈ s'.visited, Explored graph v

theorem Advances.refl (s : Search α) : Advances graph s s :=
  ⟨rfl, Finset.Subset.refl _, id⟩

theorem Advances.trans {s t u : Search α} (h : Advances graph s t) (h' : Advances graph t u) :
    Advances graph s u :=
  ⟨h'.active.trans h.active, h.visited.trans h'.visited, fun hs => h'.explored (h.explored hs)⟩

theorem foldlM_ok {f : Search α → α → Run α (Search α)}
    (hf : ∀ s v s', f s v = returned (.ok s') → Advances graph s s' ∧ v ∈ s'.visited)
    {vs : List α} {s s' : Search α} (h : vs.foldlM f s = returned (.ok s')) :
    Advances graph s s' ∧ ∀ v ∈ vs, v ∈ s'.visited := by
  induction vs generalizing s with
  | nil =>
    obtain rfl : s = s' := by simpa using h
    exact ⟨.refl s, by simp⟩
  | cons v vs ih =>
    rw [List.foldlM_cons, run_bind_eq_ok] at h
    obtain ⟨t, ht, hvs⟩ := h
    obtain ⟨hst, hv⟩ := hf s v t ht
    obtain ⟨hts, hrest⟩ := ih hvs
    refine ⟨hst.trans hts, fun w hw => ?_⟩
    rcases List.mem_cons.mp hw with rfl | hw
    · exact hts.visited hv
    · exact hrest w hw

theorem foldlM_mono {f g : Search α → α → Run α (Search α)}
    (hfg : ∀ s v r, f s v = returned r → g s v = returned r) {vs : List α} {s : Search α}
    {r : Except α (Search α)} (h : vs.foldlM f s = returned r) : vs.foldlM g s = returned r := by
  induction vs generalizing s with
  | nil => exact h
  | cons v vs ih =>
    rw [List.foldlM_cons] at h ⊢
    match hv : f s v with
    | some (.ok t) =>
      rw [show f s v = returned (.ok t) from hv] at h
      rw [hfg s v _ hv]
      exact ih h
    | some (.error c) =>
      rw [show f s v = returned (.error c) from hv] at h
      rw [hfg s v _ hv]
      exact h
    | none =>
      rw [hv] at h
      cases h

/-! ## The search -/

variable [DecidableEq α]

def Search.enter (s : Search α) (v : α) : Search α := { s with active := insert v s.active }

def Search.leave (s : Search α) (v : α) : Search α :=
  { visited := insert v s.visited, active := s.active.erase v }

/-- One recursive call; the error is the active vertex it came back to. -/
def visit (graph : α → List α) : Nat → Search α → α → Run α (Search α)
  | 0, _, _ => awaiting none
  | depth + 1, s, v =>
    if v ∈ s.active then returned (.error v)
    else if v ∈ s.visited then returned (.ok s)
    else (graph v).foldlM (visit graph depth) (s.enter v) >>= fun s' => pure (s'.leave v)

/-- The calls for each of `vs` in turn. -/
def search (graph : α → List α) (depth : Nat) (vs : List α) : Run α (Search α) :=
  vs.foldlM (visit graph depth) Search.start

theorem visit_fresh {depth : Nat} {s : Search α} {v : α} (ha : v ∉ s.active)
    (hv : v ∉ s.visited) :
    visit graph (depth + 1) s v =
      ((graph v).foldlM (visit graph depth) (s.enter v) >>= fun s' => pure (s'.leave v)) := by
  rw [visit, if_neg ha, if_neg hv]

/-! ## A call that succeeds -/

/-- Leaving `v` after all its successors were visited. -/
theorem Advances.leave {s s' : Search α} {v : α} (ha : v ∉ s.active)
    (h : Advances graph (s.enter v) s') (hsucc : ∀ d ∈ graph v, d ∈ s'.visited) :
    Advances graph s (s'.leave v) where
  active := by simp [Search.leave, h.active, Search.enter, Finset.erase_insert ha]
  visited := h.visited.trans (Finset.subset_insert _ _)
  explored := by
    intro hs w hw
    have hs' : ∀ w ∈ s'.visited, Explored graph w := h.explored hs
    rcases Finset.mem_insert.mp hw with rfl | hw
    · exact Acc.intro _ fun d hd => hs' d (hsucc d hd)
    · exact hs' w hw

theorem visit_ok (depth : Nat) (s : Search α) (v : α) (s' : Search α)
    (h : visit graph depth s v = returned (.ok s')) : Advances graph s s' ∧ v ∈ s'.visited := by
  induction depth generalizing s v s' with
  | zero => cases h
  | succ depth ih =>
    by_cases ha : v ∈ s.active
    · rw [visit, if_pos ha] at h
      cases h
    by_cases hv : v ∈ s.visited
    · rw [visit, if_neg ha, if_pos hv] at h
      cases h
      exact ⟨.refl s, hv⟩
    rw [visit_fresh ha hv, run_bind_eq_ok] at h
    obtain ⟨t, ht, hs'⟩ := h
    cases hs'
    obtain ⟨hadv, hsucc⟩ := foldlM_ok ih ht
    exact ⟨hadv.leave ha hsucc, Finset.mem_insert_self _ _⟩

/-! ## A call that fails -/

/-- The active vertices lead to `v`. -/
def Reaching (graph : α → List α) (s : Search α) (v : α) : Prop :=
  ∀ a ∈ s.active, Path graph a v

theorem Reaching.enter {s : Search α} {v d : α} (h : Reaching graph s v) (hd : d ∈ graph v) :
    Reaching graph (s.enter v) d := by
  intro a ha
  rcases Finset.mem_insert.mp ha with rfl | ha
  · exact .edge hd
  · exact (h a ha).tail hd

theorem foldlM_error {depth : Nat} {c : α}
    (hf : ∀ s v, visit graph depth s v = returned (.error c) → Reaching graph s v →
      Path graph c c)
    {vs : List α} {s : Search α} (h : vs.foldlM (visit graph depth) s = returned (.error c))
    (hs : ∀ v ∈ vs, Reaching graph s v) : Path graph c c := by
  induction vs generalizing s with
  | nil => cases h
  | cons v vs ih =>
    rw [List.foldlM_cons, run_bind_eq_error] at h
    rcases h with h | ⟨t, ht, hvs⟩
    · exact hf s v h (hs v List.mem_cons_self)
    · refine ih hvs fun w hw a ha => ?_
      -- the call on `v` left the active set as it was
      rw [(visit_ok depth s v t ht).1.active] at ha
      exact hs w (List.mem_cons_of_mem _ hw) a ha

theorem visit_error (depth : Nat) (s : Search α) (v c : α)
    (h : visit graph depth s v = returned (.error c)) (hs : Reaching graph s v) :
    Path graph c c := by
  induction depth generalizing s v with
  | zero => cases h
  | succ depth ih =>
    by_cases ha : v ∈ s.active
    · rw [visit, if_pos ha] at h
      obtain rfl : v = c := by simpa using h
      exact hs v ha
    by_cases hv : v ∈ s.visited
    · rw [visit, if_neg ha, if_pos hv] at h
      cases h
    rw [visit_fresh ha hv, run_bind_eq_error] at h
    rcases h with h | ⟨t, _, h⟩
    · exact foldlM_error ih h fun d hd => hs.enter hd
    · cases h

/-! ## Enough depth -/

theorem foldlM_returns {depth : Nat} {P : Search α → Prop} {vs : List α}
    (hret : ∀ s, P s → ∀ v ∈ vs, ∃ r, visit graph depth s v = returned r)
    (hP : ∀ s s', P s → Advances graph s s' → P s') {s : Search α} (hs : P s) :
    ∃ r, vs.foldlM (visit graph depth) s = returned r := by
  induction vs generalizing s with
  | nil => exact ⟨.ok s, rfl⟩
  | cons v vs ih =>
    obtain ⟨r, hr⟩ := hret s hs v List.mem_cons_self
    rw [List.foldlM_cons, hr]
    cases r with
    | error c => exact ⟨.error c, rfl⟩
    | ok t =>
      exact ih (fun s hs w hw => hret s hs w (List.mem_cons_of_mem _ hw))
        (hP s t hs (visit_ok depth s v t hr).1)

/-- Every call makes one more vertex of the finite closed set `V` active. -/
theorem visit_returns {V : Finset α} (hV : ∀ v ∈ V, ∀ d ∈ graph v, d ∈ V) (depth : Nat)
    (s : Search α) (v : α) (hv : v ∈ V) (hd : (V \ s.active).card < depth) :
    ∃ r, visit graph depth s v = returned r := by
  induction depth generalizing s v with
  | zero => exact absurd hd (Nat.not_lt_zero _)
  | succ depth ih =>
    by_cases ha : v ∈ s.active
    · exact ⟨.error v, by rw [visit, if_pos ha]⟩
    by_cases hvis : v ∈ s.visited
    · exact ⟨.ok s, by rw [visit, if_neg ha, if_pos hvis]⟩
    have hlt : (V \ (s.enter v).active).card < depth := by
      have hsub : V \ (s.enter v).active ⊂ V \ s.active := by
        refine Finset.ssubset_iff_subset_ne.mpr ⟨?_, fun h => ?_⟩
        · exact Finset.sdiff_subset_sdiff (Finset.Subset.refl _) (Finset.subset_insert _ _)
        · have hmem : v ∈ V \ (s.enter v).active := h ▸ Finset.mem_sdiff.mpr ⟨hv, ha⟩
          exact (Finset.mem_sdiff.mp hmem).2 (Finset.mem_insert_self _ _)
      have := Finset.card_lt_card hsub
      omega
    obtain ⟨r, hr⟩ := foldlM_returns (P := fun t => (V \ t.active).card < depth)
      (fun t ht d hd => ih t d (hV v hv d hd) ht) (fun t t' ht h => by rwa [h.active]) hlt
    rw [visit_fresh ha hvis, hr]
    cases r with
    | error c => exact ⟨.error c, rfl⟩
    | ok t => exact ⟨.ok (t.leave v), rfl⟩

/-! ## More depth changes nothing -/

theorem visit_succ (depth : Nat) (s : Search α) (v : α) (r : Except α (Search α))
    (h : visit graph depth s v = returned r) : visit graph (depth + 1) s v = returned r := by
  induction depth generalizing s v r with
  | zero => cases h
  | succ depth ih =>
    by_cases ha : v ∈ s.active
    · rwa [visit, if_pos ha] at h ⊢
    by_cases hv : v ∈ s.visited
    · rwa [visit, if_neg ha, if_pos hv] at h ⊢
    rw [visit_fresh ha hv] at h ⊢
    match ht : (graph v).foldlM (visit graph depth) (s.enter v) with
    | some t =>
      rw [foldlM_mono ih ht]
      rwa [show _ = returned t from ht] at h
    | none =>
      rw [ht] at h
      cases h

theorem search_mono {n m : Nat} (hnm : n ≤ m) {vs : List α} {r : Except α (Search α)}
    (h : search graph n vs = returned r) : search graph m vs = returned r := by
  induction m, hnm using Nat.le_induction with
  | base => exact h
  | succ m _ ih => exact foldlM_mono (visit_succ m) ih

/-! ## The whole search -/

theorem search_ok {depth : Nat} {vs : List α} {s : Search α}
    (h : search graph depth vs = returned (.ok s)) : ∀ v ∈ vs, Explored graph v := by
  obtain ⟨hadv, hvs⟩ := foldlM_ok (visit_ok depth) h
  have hstart : ∀ v ∈ (Search.start : Search α).visited, Explored graph v := by
    simp [Search.start]
  exact fun v hv => hadv.explored hstart v (hvs v hv)

theorem search_error {depth : Nat} {vs : List α} {c : α}
    (h : search graph depth vs = returned (.error c)) : Path graph c c :=
  foldlM_error (fun s v => visit_error depth s v c) h (by simp [Reaching, Search.start])

theorem search_returns {vs : List α} (hvs : ∀ v ∈ vs, ∀ d ∈ graph v, d ∈ vs) {depth : Nat}
    (hd : vs.length < depth) : ∃ r, search graph depth vs = returned r := by
  have hV : ∀ v ∈ vs.toFinset, ∀ d ∈ graph v, d ∈ vs.toFinset := by simpa using hvs
  refine foldlM_returns (P := fun s => s.active = ∅) (fun s hs v hv => ?_)
    (fun s s' hs h => h.active.trans hs) rfl
  have hcard := vs.toFinset_card_le
  exact visit_returns hV depth s v (by simpa using hv) (by rw [hs, Finset.sdiff_empty]; omega)

/-- **The search decides acyclicity.** On a list of vertices closed under
successors and that holds every vertex with successors, the search returns one
result at every depth above their number, a success iff there is no cycle. -/
theorem search_exact {vs : List α} (hvs : ∀ v ∈ vs, ∀ d ∈ graph v, d ∈ vs)
    (hall : ∀ v d, d ∈ graph v → v ∈ vs) :
    ∃ r, (∀ depth, vs.length < depth → search graph depth vs = returned r) ∧
      ((∃ s, r = .ok s) ↔ Acyclic graph) := by
  obtain ⟨r, hr⟩ := search_returns hvs (Nat.lt_succ_self _)
  refine ⟨r, fun depth hd => search_mono hd hr, ?_⟩
  cases r with
  | ok s =>
    refine ⟨fun _ v hp => ?_, fun _ => ⟨s, rfl⟩⟩
    obtain ⟨d, hd⟩ := hp.head_mem
    exact (search_ok hr v (hall v d hd)).not_path hp
  | error c =>
    refine ⟨fun h => ?_, fun h => ?_⟩
    · obtain ⟨s, hs⟩ := h
      cases hs
    · exact absurd (search_error hr) (h c)

end Zrm.DepthFirst
