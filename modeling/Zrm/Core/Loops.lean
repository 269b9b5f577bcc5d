import Mathlib.Data.List.Forall2
import Zrm.Core.Dict
import Zrm.Core.Result

/-!
# Loops that may raise

A loop over a list that stops at the first error: what it returned, item by item, and
loops over two lists whose items correspond.

* `mapM_eq_ok`: the results of a comprehension.
* `foldlM_forall₂`: two loops whose steps agree.
* `foldlM_entries`: loops that fill a dictionary.
* `foldlM_distinct`: loops that refuse a second item of one key.
* `foldlM_grows`: loops that append what is allowed after the items before.
* `Collects.foldlM`: loops, one inside the other, that add to a set what they have not seen.
-/
namespace Zrm.Result

variable {ε α β σ : Type}

/-! ## Corresponding lists -/

theorem exists_of_mem_left {R : α → β → Prop} {l : List α} {l' : List β} (h : List.Forall₂ R l l')
    {a : α} (ha : a ∈ l) : ∃ b ∈ l', R a b := by
  induction h with
  | nil => cases ha
  | @cons c d _ _ hcd _ ih =>
    rcases List.mem_cons.mp ha with rfl | hrest
    · exact ⟨d, List.mem_cons_self, hcd⟩
    · obtain ⟨b, hb, hab⟩ := ih hrest
      exact ⟨b, List.mem_cons_of_mem d hb, hab⟩

theorem exists_of_mem_right {R : α → β → Prop} {l : List α} {l' : List β} (h : List.Forall₂ R l l')
    {b : β} (hb : b ∈ l') : ∃ a ∈ l, R a b :=
  exists_of_mem_left h.flip hb

theorem forall₂_and_right {R : α → β → Prop} {P : β → Prop} {l : List α} {l' : List β} :
    List.Forall₂ (fun a b => R a b ∧ P b) l l' ↔ List.Forall₂ R l l' ∧ ∀ b ∈ l', P b := by
  refine ⟨fun h => ?_, fun h => ?_⟩
  · refine ⟨h.imp fun _ _ hab => hab.1, fun b hb => ?_⟩
    obtain ⟨a, -, -, hP⟩ := exists_of_mem_right h hb
    exact hP
  · obtain ⟨hR, hP⟩ := h
    induction hR with
    | nil => exact .nil
    | cons hab _ ih =>
      rw [List.forall_mem_cons] at hP
      exact .cons ⟨hab, hP.1⟩ (ih hP.2)

/-- What is found item by item in one list is found in the other. -/
theorem forall₂_transfer {γ δ : Type} {R : α → β → Prop} {P : α → γ → Prop} {Q : β → δ → Prop}
    {S : γ → δ → Prop} {l : List α} {l' : List β} (h : List.Forall₂ R l l')
    (hstep : ∀ a b c, R a b → P a c → ∃ d, Q b d ∧ S c d) {found : List γ} (hfound : List.Forall₂ P l found) :
    ∃ found', List.Forall₂ Q l' found' ∧ List.Forall₂ S found found' := by
  induction h generalizing found with
  | nil =>
    cases hfound
    exact ⟨[], .nil, .nil⟩
  | cons hab _ ih =>
    cases hfound with
    | cons hc hrest =>
      obtain ⟨d, hd, hcd⟩ := hstep _ _ _ hab hc
      obtain ⟨rest, hQ, hS⟩ := ih hrest
      exact ⟨d :: rest, .cons hd hQ, .cons hcd hS⟩

/-! ## Loops -/

theorem mapM_eq_ok {f : α → Except ε β} {l : List α} {results : List β} :
    l.mapM f = .ok results ↔ List.Forall₂ (fun a b => f a = .ok b) l results := by
  induction l generalizing results with
  | nil =>
    rw [List.forall₂_nil_left_iff]
    refine ⟨fun h => ?_, fun h => ?_⟩
    · cases h
      rfl
    · rw [h]
      rfl
  | cons a l ih =>
    rw [List.mapM_cons, bind_eq_ok]
    refine ⟨fun h => ?_, fun h => ?_⟩
    · obtain ⟨b, hb, h⟩ := h
      obtain ⟨rest, hrest, h⟩ := bind_eq_ok.mp h
      cases h
      exact .cons hb (ih.mp hrest)
    · cases h with
      | cons hb hrest => exact ⟨_, hb, by rw [ih.mpr hrest, ok_bind, pure_eq]⟩

/-- What holds pair by pair of two lists is a list of rows. -/
theorem exists_rows {γ : Type} {f : γ → α} {g : γ → β} {Q : γ → Prop} {l : List α} {l' : List β}
    (h : List.Forall₂ (fun a b => ∃ row, f row = a ∧ g row = b ∧ Q row) l l') :
    ∃ rows : List γ, rows.map f = l ∧ rows.map g = l' ∧ ∀ row ∈ rows, Q row := by
  induction h with
  | nil => exact ⟨[], rfl, rfl, nofun⟩
  | cons hab _ ih =>
    obtain ⟨row, rfl, rfl, hrow⟩ := hab
    obtain ⟨rows, rfl, rfl, hrows⟩ := ih
    exact ⟨row :: rows, rfl, rfl, List.forall_mem_cons.mpr ⟨hrow, hrows⟩⟩

theorem exists_mapM {f : α → Except ε β} {l : List α} (h : ∀ a ∈ l, ∃ b, f a = .ok b) :
    ∃ results, l.mapM f = .ok results := by
  induction l with
  | nil => exact ⟨[], rfl⟩
  | cons a l ih =>
    obtain ⟨⟨b, hb⟩, hrest⟩ := List.forall_mem_cons.mp h
    obtain ⟨results, hresults⟩ := ih hrest
    exact ⟨b :: results, by rw [List.mapM_cons, hb, ok_bind, hresults, ok_bind, pure_eq]⟩

/-- The results of a comprehension whose items may have none. -/
theorem mapM_eq_some {f : α → Option β} {P : α → Prop} {g : α → β}
    (h : ∀ a b, f a = some b ↔ P a ∧ b = g a) {l : List α} {results : List β} :
    l.mapM f = some results ↔ (∀ a ∈ l, P a) ∧ results = l.map g := by
  induction l generalizing results with
  | nil => simp [eq_comm]
  | cons a l ih =>
    simp only [List.mapM_cons, Option.bind_eq_bind, Option.bind_eq_some_iff, h, ih, Option.pure_def,
      Option.some.injEq, List.forall_mem_cons, List.map_cons]
    refine ⟨fun hrun => ?_, fun hrun => ?_⟩
    · obtain ⟨_, ⟨ha, rfl⟩, _, ⟨hl, rfl⟩, rfl⟩ := hrun
      exact ⟨⟨ha, hl⟩, rfl⟩
    · obtain ⟨⟨ha, hl⟩, rfl⟩ := hrun
      exact ⟨_, ⟨ha, rfl⟩, _, ⟨hl, rfl⟩, rfl⟩

theorem foldlM_forall₂ {R : α → β → Prop} {f : σ → α → Except ε σ} {g : σ → β → Except ε σ}
    {l : List α} {l' : List β} (h : List.Forall₂ R l l') (hstep : ∀ s a b, R a b → f s a = g s b)
    (s : σ) : l.foldlM f s = l'.foldlM g s := by
  induction h generalizing s with
  | nil => rfl
  | cons hab _ ih =>
    rw [List.foldlM_cons, List.foldlM_cons, hstep s _ _ hab]
    congr 1
    funext t
    exact ih t

theorem foldlM_flatMap {f : σ → β → Except ε σ} (items : α → List β) (l : List α) (s : σ) :
    (l.flatMap items).foldlM f s = l.foldlM (fun s a => (items a).foldlM f s) s := by
  induction l generalizing s with
  | nil => rfl
  | cons a l ih =>
    rw [List.flatMap_cons, List.foldlM_append, List.foldlM_cons]
    congr 1
    funext t
    exact ih t

/-- A loop whose steps check an item and add its entries to a dictionary, each under a new key. -/
theorem foldlM_entries {κ ν : Type} [DecidableEq κ] {R : α → β → Prop}
    {f : Dict κ ν → α → Except ε (Dict κ ν)} {P : β → Prop} {entries : β → List (κ × ν)}
    {raise : κ → ε} {l : List α} {l' : List β} (h : List.Forall₂ R l l')
    (hstep : ∀ d a b d', R a b →
      (f d a = .ok d' ↔ P b ∧ (entries b).foldlM (Dict.insertNew raise) d = .ok d'))
    (d d' : Dict κ ν) :
    l.foldlM f d = .ok d' ↔ (∀ b ∈ l', P b) ∧
      (d.keys ++ (l'.flatMap entries).map Prod.fst).Nodup ∧ d'.items = d.items ++ l'.flatMap entries := by
  induction h generalizing d with
  | nil =>
    have hnil : ([] : List β).flatMap entries = [] := rfl
    rw [hnil, ← @Dict.foldlM_insertNew κ ν _ ε raise]
    refine ⟨fun h => ⟨nofun, h⟩, fun h => h.2⟩
  | @cons a b l l' hab _ ih =>
    rw [List.foldlM_cons, bind_eq_ok, List.flatMap_cons, List.forall_mem_cons]
    refine ⟨fun h => ?_, fun h => ?_⟩
    · obtain ⟨d₁, hfirst, hrest⟩ := h
      obtain ⟨hb, hentries⟩ := (hstep d a b d₁ hab).mp hfirst
      obtain ⟨hall, hnodup, hitems⟩ := (ih d₁).mp hrest
      have hitems₁ := (Dict.foldlM_insertNew.mp hentries).2
      have hkeys : d₁.keys = d.keys ++ (entries b).map Prod.fst := by
        rw [Dict.keys, hitems₁, List.map_append, Dict.keys]
      refine ⟨⟨hb, hall⟩, ?_, ?_⟩
      · rw [List.map_append, ← List.append_assoc, ← hkeys]
        exact hnodup
      · rw [hitems, hitems₁, List.append_assoc]
    · obtain ⟨⟨hb, hall⟩, hnodup, hitems⟩ := h
      rw [List.map_append, ← List.append_assoc] at hnodup
      have hfirst := (List.nodup_append.mp hnodup).1
      obtain ⟨d₁, hd₁⟩ : ∃ d₁ : Dict κ ν, d₁.items = d.items ++ entries b :=
        ⟨⟨d.items ++ entries b, by rw [List.map_append]; exact hfirst⟩, rfl⟩
      have hkeys : d₁.keys = d.keys ++ (entries b).map Prod.fst := by
        rw [Dict.keys, hd₁, List.map_append, Dict.keys]
      refine ⟨d₁, (hstep d a b d₁ hab).mpr ⟨hb, Dict.foldlM_insertNew.mpr ⟨hfirst, hd₁⟩⟩,
        (ih d₁).mpr ⟨hall, hkeys ▸ hnodup, ?_⟩⟩
      rw [hitems, hd₁, List.append_assoc]

/-- A loop that reads an item and then uses it, as two loops. -/
theorem foldlM_read {read : α → Except ε β} {step : σ → β → Except ε σ} {l : List α} {s s' : σ} :
    l.foldlM (fun s a => read a >>= fun b => step s b) s = .ok s' ↔
      ∃ items, l.mapM read = .ok items ∧ items.foldlM step s = .ok s' := by
  simp only [mapM_eq_ok]
  induction l generalizing s with
  | nil =>
    refine ⟨fun h => ⟨[], .nil, h⟩, fun h => ?_⟩
    obtain ⟨items, hitems, h⟩ := h
    cases hitems
    exact h
  | cons a l ih =>
    rw [List.foldlM_cons, bind_eq_ok]
    refine ⟨fun h => ?_, fun h => ?_⟩
    · obtain ⟨middle, hfirst, hrest⟩ := h
      obtain ⟨b, hread, hstep⟩ := bind_eq_ok.mp hfirst
      obtain ⟨items, hitems, hrun⟩ := ih.mp hrest
      exact ⟨b :: items, .cons hread hitems, by rw [List.foldlM_cons, hstep, ok_bind, hrun]⟩
    · obtain ⟨items, hitems, hrun⟩ := h
      cases hitems with
      | cons hread hitems =>
        rw [List.foldlM_cons] at hrun
        obtain ⟨middle, hstep, hrest⟩ := bind_eq_ok.mp hrun
        exact ⟨middle, by rw [hread, ok_bind, hstep], ih.mpr ⟨_, hitems, hrest⟩⟩

/-- A loop that accepts items one by one, each under a key it has not seen. -/
theorem foldlM_distinct {κ : Type} {R : α → β → Prop} {key : β → κ}
    {body : List κ → α → Except ε (List κ)}
    (hstep : ∀ seen a seen', body seen a = .ok seen' ↔
      ∃ b, R a b ∧ key b ∉ seen ∧ seen' = seen ++ [key b])
    {l : List α} {seen seen' : List κ} (hseen : seen.Nodup) :
    l.foldlM body seen = .ok seen' ↔ ∃ found, List.Forall₂ R l found ∧
      (seen ++ found.map key).Nodup ∧ seen' = seen ++ found.map key := by
  induction l generalizing seen with
  | nil =>
    rw [List.foldlM_nil]
    refine ⟨fun h => ?_, fun h => ?_⟩
    · cases h
      exact ⟨[], .nil, by simpa using hseen, by simp⟩
    · obtain ⟨found, hfound, -, rfl⟩ := h
      cases hfound
      simp
  | cons a l ih =>
    have hsplit : ∀ b (found : List β), seen ++ (b :: found).map key =
        (seen ++ [key b]) ++ found.map key := by
      intro b found
      rw [List.map_cons, List.append_assoc]
      rfl
    rw [List.foldlM_cons, bind_eq_ok]
    refine ⟨fun h => ?_, fun h => ?_⟩
    · obtain ⟨middle, hfirst, hrest⟩ := h
      obtain ⟨b, hab, hnew, rfl⟩ := (hstep _ _ _).mp hfirst
      have hmiddle : (seen ++ [key b]).Nodup := by
        rw [List.nodup_append]
        refine ⟨hseen, List.nodup_singleton _, fun x hx y hy hxy => ?_⟩
        exact hnew (List.mem_singleton.mp hy ▸ hxy ▸ hx)
      obtain ⟨found, hfound, hnodup, rfl⟩ := (ih hmiddle).mp hrest
      exact ⟨b :: found, .cons hab hfound, hsplit b found ▸ hnodup, (hsplit b found).symm⟩
    · obtain ⟨found, hfound, hnodup, rfl⟩ := h
      cases hfound with
      | @cons _ b _ found hab hfound =>
        rw [hsplit b found] at hnodup
        have hmiddle := (List.nodup_append.mp hnodup).1
        have hnew : key b ∉ seen := fun hmem =>
          (List.nodup_append.mp hmiddle).2.2 _ hmem (key b) List.mem_cons_self rfl
        exact ⟨_, (hstep _ _ _).mpr ⟨b, hab, hnew, rfl⟩, (ih hmiddle).mpr ⟨found, hfound, hnodup, hsplit b found⟩⟩

/-- A loop that appends one item after the other, each allowed after those before. -/
theorem foldlM_grows {R : α → β → Prop} {P : List β → Prop} {body : List β → α → Except ε (List β)}
    (hstep : ∀ seen a seen', P seen → (body seen a = .ok seen' ↔
      ∃ b, R a b ∧ P (seen ++ [b]) ∧ seen' = seen ++ [b]))
    (hshorter : ∀ first rest, P (first ++ rest) → P first) {l : List α} {seen seen' : List β} (hseen : P seen) :
    l.foldlM body seen = .ok seen' ↔
      ∃ found, List.Forall₂ R l found ∧ P (seen ++ found) ∧ seen' = seen ++ found := by
  induction l generalizing seen with
  | nil =>
    rw [List.foldlM_nil]
    refine ⟨fun h => ?_, fun h => ?_⟩
    · cases h
      exact ⟨[], .nil, by rwa [List.append_nil], (List.append_nil _).symm⟩
    · obtain ⟨found, hfound, -, rfl⟩ := h
      cases hfound
      exact congrArg Except.ok (List.append_nil _).symm
  | cons a l ih =>
    rw [List.foldlM_cons, bind_eq_ok]
    refine ⟨fun h => ?_, fun h => ?_⟩
    · obtain ⟨middle, hfirst, hrest⟩ := h
      obtain ⟨b, hab, hmiddle, rfl⟩ := (hstep _ _ _ hseen).mp hfirst
      obtain ⟨found, hfound, hall, rfl⟩ := (ih hmiddle).mp hrest
      rw [List.append_assoc, List.singleton_append] at hall ⊢
      exact ⟨b :: found, .cons hab hfound, hall, rfl⟩
    · obtain ⟨found, hfound, hall, rfl⟩ := h
      cases hfound with
      | @cons _ b _ found hab hfound =>
        have hsplit : seen ++ b :: found = (seen ++ [b]) ++ found := by
          rw [List.append_assoc, List.singleton_append]
        rw [hsplit] at hall
        have hmiddle := hshorter _ _ hall
        exact ⟨_, (hstep _ _ _ hseen).mpr ⟨b, hab, hmiddle, rfl⟩,
          (ih hmiddle).mpr ⟨found, hfound, hall, hsplit⟩⟩

/-! ## Loops that collect -/

/-- What a loop collects, piece by piece. -/
def collect (read : α → Except ε (List β)) (l : List α) : Except ε (List β) := do
  let pieces ← l.mapM read
  pure pieces.flatten

theorem collect_eq_ok {read : α → Except ε (List β)} {l : List α} {found : List β} :
    collect read l = .ok found ↔ ∃ pieces, l.mapM read = .ok pieces ∧ found = pieces.flatten := by
  rw [collect, bind_eq_ok]
  refine ⟨fun h => ?_, fun h => ?_⟩
  · obtain ⟨pieces, hpieces, h⟩ := h
    cases h
    exact ⟨pieces, hpieces, rfl⟩
  · obtain ⟨pieces, hpieces, rfl⟩ := h
    exact ⟨pieces, hpieces, rfl⟩

theorem collect_cons_eq_ok {read : α → Except ε (List β)} {a : α} {l : List α} {found : List β} :
    collect read (a :: l) = .ok found ↔
      ∃ first rest, read a = .ok first ∧ collect read l = .ok rest ∧ found = first ++ rest := by
  simp only [collect_eq_ok, mapM_eq_ok, List.forall₂_cons_left_iff]
  refine ⟨fun h => ?_, fun h => ?_⟩
  · obtain ⟨_, ⟨first, pieces, hfirst, hpieces, rfl⟩, rfl⟩ := h
    exact ⟨first, pieces.flatten, hfirst, ⟨pieces, hpieces, rfl⟩, List.flatten_cons⟩
  · obtain ⟨first, _, hfirst, ⟨pieces, hpieces, rfl⟩, rfl⟩ := h
    exact ⟨first :: pieces, ⟨first, pieces, hfirst, hpieces, rfl⟩, List.flatten_cons.symm⟩

theorem exists_of_collect {read : α → Except ε (List β)} {l : List α} {found : List β}
    (h : collect read l = .ok found) {a : α} (ha : a ∈ l) : ∃ piece, read a = .ok piece := by
  obtain ⟨pieces, hpieces, -⟩ := collect_eq_ok.mp h
  obtain ⟨piece, -, hpiece⟩ := exists_of_mem_left (mapM_eq_ok.mp hpieces) ha
  exact ⟨piece, hpiece⟩

theorem mem_collect {read : α → Except ε (List β)} {l : List α} {found : List β}
    (h : collect read l = .ok found) {b : β} :
    b ∈ found ↔ ∃ a ∈ l, ∃ piece, read a = .ok piece ∧ b ∈ piece := by
  obtain ⟨pieces, hpieces, rfl⟩ := collect_eq_ok.mp h
  rw [mapM_eq_ok] at hpieces
  rw [List.mem_flatten]
  refine ⟨fun h => ?_, fun h => ?_⟩
  · obtain ⟨piece, hpiece, hb⟩ := h
    obtain ⟨a, ha, hread⟩ := exists_of_mem_right hpieces hpiece
    exact ⟨a, ha, piece, hread, hb⟩
  · obtain ⟨a, ha, piece, hread, hb⟩ := h
    obtain ⟨piece', hpiece, hread'⟩ := exists_of_mem_left hpieces ha
    rw [hread] at hread'
    cases hread'
    exact ⟨piece, hpiece, hb⟩

/-- What is found is new, and nothing is found twice. -/
def Fresh (seen found : List β) : Prop := found.Nodup ∧ seen.Disjoint found

theorem fresh_nil (seen : List β) : Fresh seen [] := ⟨.nil, List.disjoint_nil_right seen⟩

theorem fresh_append {seen first rest : List β} :
    Fresh seen (first ++ rest) ↔ Fresh seen first ∧ Fresh (seen ++ first) rest := by
  simp only [Fresh, List.nodup_append', List.disjoint_append_right, List.disjoint_append_left]
  refine ⟨fun h => ?_, fun h => ?_⟩
  · obtain ⟨⟨hfirst, hrest, hapart⟩, hseen, hseen'⟩ := h
    exact ⟨⟨hfirst, hseen⟩, hrest, hseen', hapart⟩
  · obtain ⟨⟨hfirst, hseen⟩, hrest, hseen', hapart⟩ := h
    exact ⟨⟨hfirst, hrest, hapart⟩, hseen, hseen'⟩

/-- A step that adds to a set what it reads of an item, and fails on an element it has seen. -/
def Collects (body : List β → α → Except ε (List β)) (read : α → Except ε (List β)) : Prop :=
  ∀ seen a seen', body seen a = .ok seen' ↔
    ∃ found, read a = .ok found ∧ Fresh seen found ∧ seen' = seen ++ found

/-- The loop over such steps is one itself. -/
theorem Collects.foldlM {body : List β → α → Except ε (List β)} {read : α → Except ε (List β)}
    (h : Collects body read) : Collects (fun seen l => l.foldlM body seen) (collect read) := by
  intro seen l
  induction l generalizing seen with
  | nil =>
    intro seen'
    show ([] : List α).foldlM body seen = .ok seen' ↔ _
    rw [List.foldlM_nil]
    refine ⟨fun h => ?_, fun h => ?_⟩
    · cases h
      exact ⟨[], rfl, fresh_nil seen, (List.append_nil seen).symm⟩
    · obtain ⟨found, hfound, -, rfl⟩ := h
      cases hfound
      exact congrArg Except.ok (List.append_nil seen).symm
  | cons a l ih =>
    intro seen'
    show (a :: l).foldlM body seen = .ok seen' ↔ _
    rw [List.foldlM_cons, bind_eq_ok]
    refine ⟨fun hrun => ?_, fun hrun => ?_⟩
    · obtain ⟨middle, hfirst, hrest⟩ := hrun
      obtain ⟨first, hread, hfresh, rfl⟩ := (h _ _ _).mp hfirst
      obtain ⟨rest, hcollect, hfresh', rfl⟩ := (ih _ _).mp hrest
      exact ⟨first ++ rest, collect_cons_eq_ok.mpr ⟨first, rest, hread, hcollect, rfl⟩,
        fresh_append.mpr ⟨hfresh, hfresh'⟩, List.append_assoc _ _ _⟩
    · obtain ⟨found, hcollect, hfresh, rfl⟩ := hrun
      obtain ⟨first, rest, hread, hrest, rfl⟩ := collect_cons_eq_ok.mp hcollect
      obtain ⟨hfirst, hrestFresh⟩ := fresh_append.mp hfresh
      refine ⟨seen ++ first, (h _ _ _).mpr ⟨first, hread, hfirst, rfl⟩,
        (ih _ _).mpr ⟨rest, hrest, hrestFresh, ?_⟩⟩
      rw [List.append_assoc]

/-- A step that first looks at the item. -/
theorem Collects.bind {γ : Type} {body : List β → γ → Except ε (List β)} {read : γ → Except ε (List β)}
    (h : Collects body read) (first : α → Except ε γ) :
    Collects (fun seen a => first a >>= fun c => body seen c) fun a => first a >>= read := by
  intro seen a seen'
  simp only [bind_eq_ok]
  refine ⟨fun hrun => ?_, fun hrun => ?_⟩
  · obtain ⟨c, hc, hbody⟩ := hrun
    obtain ⟨found, hread, hfound⟩ := (h seen c seen').mp hbody
    exact ⟨found, ⟨c, hc, hread⟩, hfound⟩
  · obtain ⟨found, ⟨c, hc, hread⟩, hfound⟩ := hrun
    exact ⟨c, hc, (h seen c seen').mpr ⟨found, hread, hfound⟩⟩

end Zrm.Result
