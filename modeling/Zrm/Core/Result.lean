import Mathlib.Algebra.Ring.Nat
import Mathlib.Data.List.Basic

/-!
# Results of Rust calls

A Rust `Result` is `Except`. A call that may also never return (it loops, or
it panics) is a `Run`: `none` when it never returns, else its result.
-/
namespace Zrm.Result

variable {ε α β : Type}

@[simp] theorem ok_bind (a : α) (f : α → Except ε β) : (Except.ok a >>= f) = f a := rfl

@[simp] theorem error_bind (e : ε) (f : α → Except ε β) : (Except.error e >>= f) = .error e := rfl

@[simp] theorem throw_eq (e : ε) : (throw e : Except ε α) = .error e := rfl

@[simp] theorem pure_eq (a : α) : (pure a : Except ε α) = .ok a := rfl

theorem bind_eq_ok {x : Except ε α} {f : α → Except ε β} {b : β} :
    (x >>= f) = .ok b ↔ ∃ a, x = .ok a ∧ f a = .ok b := by
  cases x <;> simp

theorem unit_bind_eq_ok {x : Except ε Unit} {f : Unit → Except ε β} {b : β} :
    (x >>= f) = .ok b ↔ x = .ok () ∧ f () = .ok b := by
  cases x <;> simp

theorem mapError_eq_ok {ε' : Type} {x : Except ε α} {f : ε → ε'} {a : α} :
    x.mapError f = .ok a ↔ x = .ok a := by
  cases x <;> simp [Except.mapError]

theorem toOption_eq_some {x : Except ε α} {a : α} : x.toOption = some a ↔ x = .ok a := by
  cases x <;> simp [Except.toOption]

/-- A failing branch returns only through the other one. -/
theorem guard_eq_ok {P : Prop} [Decidable P] {e : ε} {x : Except ε α} {a : α} :
    (if P then .error e else x) = .ok a ↔ ¬ P ∧ x = .ok a := by
  split <;> simp_all

theorem forM_eq_ok {ι : Type} {f : ι → Except ε Unit} {items : List ι} :
    forM items f = .ok () ↔ ∀ i ∈ items, f i = .ok () := by
  induction items with
  | nil => simp
  | cons i items ih =>
    rw [List.forM_cons, List.forall_mem_cons, ← ih]
    cases f i <;> simp

/-- A comprehension of named results, over items that all have one. -/
theorem exists_mapM_named {ι κ : Type} (name : ι → κ) {f : ι → Except ε α} {items : List ι}
    (h : ∀ i ∈ items, ∃ a, f i = .ok a) :
    ∃ results, items.mapM (fun i => f i >>= fun a => pure (name i, a)) = .ok results ∧
      results.map Prod.fst = items.map name ∧
      ∀ r ∈ results, ∃ i ∈ items, name i = r.1 ∧ f i = .ok r.2 := by
  induction items with
  | nil => exact ⟨[], rfl, rfl, nofun⟩
  | cons i items ih =>
    rw [List.forall_mem_cons] at h
    obtain ⟨⟨a, ha⟩, hrest⟩ := h
    obtain ⟨results, hresults, hnames, hall⟩ := ih hrest
    refine ⟨(name i, a) :: results, ?_, ?_, ?_⟩
    · rw [List.mapM_cons, ha, ok_bind, pure_eq, ok_bind, hresults, ok_bind, pure_eq]
    · rw [List.map_cons, List.map_cons, hnames]
    · rw [List.forall_mem_cons]
      refine ⟨⟨i, List.mem_cons_self, rfl, ha⟩, fun r hr => ?_⟩
      obtain ⟨j, hj, hjr⟩ := hall r hr
      exact ⟨j, List.mem_cons_of_mem i hj, hjr⟩

/-- A search passes over the items that give nothing. -/
theorem findSomeM?_append {ι : Type} {f : ι → Except ε (Option α)} {before : List ι}
    (h : ∀ i ∈ before, f i = .ok none) (items : List ι) :
    (before ++ items).findSomeM? f = items.findSomeM? f := by
  induction before with
  | nil => rfl
  | cons i before ih =>
    rw [List.forall_mem_cons] at h
    rw [List.cons_append, List.findSomeM?_cons, h.1, ok_bind, ih h.2]

theorem findSomeM?_cons_some {ι : Type} {f : ι → Except ε (Option α)} {i : ι} {a : α}
    (h : f i = .ok (some a)) (items : List ι) : (i :: items).findSomeM? f = .ok (some a) := by
  rw [List.findSomeM?_cons, h]
  rfl

/-- The error of a result, if it is one. -/
def err? : Except ε α → Option ε
  | .ok _ => none
  | .error e => some e

theorem err?_eq_none {x : Except ε α} : err? x = none ↔ ∃ a, x = .ok a := by
  cases x <;> simp [err?]

theorem err?_eq_some {x : Except ε α} {e : ε} : err? x = some e ↔ x = .error e := by
  cases x <;> simp [err?]

/-- A sequence of checks fails as the first bad item does. -/
theorem err?_forM_guard {ι : Type} {P : ι → Prop} [DecidablePred P] {err : ι → ε} (items : List ι) :
    err? (forM items fun i => if P i then (.error (err i) : Except ε Unit) else .ok ()) =
      (items.find? fun i => P i).map err := by
  induction items with
  | nil => rfl
  | cons i items ih =>
    rw [List.forM_cons, List.find?_cons]
    by_cases hi : P i
    · rw [if_pos hi, decide_eq_true hi]
      rfl
    · rw [if_neg hi, decide_eq_false hi, ← ih]
      rfl

/-- The results of a comprehension are those of its items. -/
theorem mem_of_mapM_eq_ok {ι : Type} {f : ι → Except ε α} {items : List ι} {results : List α}
    (h : items.mapM f = .ok results) : ∀ a ∈ results, ∃ i ∈ items, f i = .ok a := by
  induction items generalizing results with
  | nil =>
    cases h
    nofun
  | cons i items ih =>
    rw [List.mapM_cons] at h
    obtain ⟨a, ha, h⟩ := bind_eq_ok.mp h
    obtain ⟨rest, hrest, h⟩ := bind_eq_ok.mp h
    cases h
    rw [List.forall_mem_cons]
    refine ⟨⟨i, List.mem_cons_self, ha⟩, fun b hb => ?_⟩
    obtain ⟨j, hj, hfj⟩ := ih hrest b hb
    exact ⟨j, List.mem_cons_of_mem i hj, hfj⟩

@[simp] theorem findSome?_id_cons (first : Option ε) (rest : List (Option ε)) :
    (first :: rest).findSome? id = first.or (rest.findSome? id) := by
  cases first <;> rfl

/-- A call and then another one: the failures of the first come first. -/
theorem err?_bind_append {x : Except ε α} {f : α → Except ε β} {first rest : List (Option ε)}
    (hx : err? x = first.findSome? id) (hf : ∀ a, err? (f a) = rest.findSome? id) :
    err? (x >>= f) = (first ++ rest).findSome? id := by
  rw [List.findSome?_append, ← hx]
  cases x with
  | ok a => exact hf a
  | error e => rfl

theorem err?_bind_cons {x : Except ε α} {f : α → Except ε β} {first : Option ε}
    {rest : List (Option ε)} (hx : err? x = first) (hf : ∀ a, err? (f a) = rest.findSome? id) :
    err? (x >>= f) = (first :: rest).findSome? id := by
  rw [findSome?_id_cons, ← hx]
  cases x with
  | ok a => exact hf a
  | error e => rfl

theorem err?_inj {x y : Except ε Unit} : err? x = err? y ↔ x = y := by
  cases x <;> cases y <;> simp [err?]

/-- A failing branch and then the rest: the first fault that applies decides. -/
theorem err?_guard {P : Prop} [Decidable P] {x : Except ε α} {e : ε} {rest : List ε}
    {applies : ε → Bool} (hP : applies e = true ↔ P) (hx : err? x = rest.find? applies) :
    err? (if P then .error e else x) = (e :: rest).find? applies := by
  by_cases h : P
  · rw [if_pos h, List.find?_cons_of_pos (hP.mpr h)]
    rfl
  · rw [if_neg h, List.find?_cons_of_neg (fun ha => h (hP.mp ha)), hx]

theorem ok_or_error (x : Except ε α) : (∃ a, x = .ok a) ∨ ∃ e, x = .error e := by
  cases x <;> simp

/-- A result with the proof that it is the result of `x`. -/
def attach (x : Except ε α) : Except ε {a : α // x = .ok a} :=
  match x with
  | .ok a => .ok ⟨a, rfl⟩
  | .error e => .error e

theorem attach_eq_ok {x : Except ε α} (a : {a : α // x = .ok a}) : attach x = .ok a := by
  obtain ⟨a, rfl⟩ := a
  rfl

/-- An attached call and then another one fail as the calls do, the first one first. -/
theorem err?_attach_bind {x : Except ε α} {f : {a : α // x = .ok a} → Except ε β}
    {after : Option ε} (hf : ∀ a, err? (f a) = after) :
    err? (attach x >>= f) = (err? x).or after := by
  cases x with
  | ok a => exact hf ⟨a, rfl⟩
  | error e => rfl

/-! ## Calls that may not return -/

/-- A call that may never return: `none` if it loops or panics. -/
abbrev Run (ε α : Type) := ExceptT ε Option α

/-- A call that returns. -/
def returned (x : Except ε α) : Run ε α := ExceptT.mk (some x)

/-- A loop or a panicking operation inside a call; it has no error of its own. -/
def awaiting (x : Option α) : Run ε α := ExceptT.lift x

@[simp] theorem returned_ok_bind (a : α) (f : α → Run ε β) : (returned (.ok a) >>= f) = f a := rfl

@[simp] theorem returned_error_bind (e : ε) (f : α → Run ε β) :
    (returned (.error e) >>= f) = returned (.error e) := rfl

@[simp] theorem awaiting_some_bind (a : α) (f : α → Run ε β) : (awaiting (some a) >>= f) = f a := rfl

@[simp] theorem run_pure_eq (a : α) : (pure a : Run ε α) = returned (.ok a) := rfl

@[simp] theorem returned_inj {x y : Except ε α} : (returned x : Run ε α) = returned y ↔ x = y :=
  ⟨Option.some.inj, congrArg returned⟩

theorem run_bind_eq_ok {x : Run ε α} {f : α → Run ε β} {b : β} :
    (x >>= f) = returned (.ok b) ↔ ∃ a, x = returned (.ok a) ∧ f a = returned (.ok b) := by
  refine ⟨fun h => ?_, fun h' => ?_⟩
  · match x, h with
    | some (.ok a), h => exact ⟨a, rfl, h⟩
    | some (.error _), h => cases h
    | none, h => cases h
  · obtain ⟨a, rfl, h⟩ := h'
    exact h

theorem run_bind_eq_error {x : Run ε α} {f : α → Run ε β} {e : ε} :
    (x >>= f) = returned (.error e) ↔
      x = returned (.error e) ∨ ∃ a, x = returned (.ok a) ∧ f a = returned (.error e) := by
  refine ⟨fun h => ?_, fun h => ?_⟩
  · match x, h with
    | some (.ok a), h => exact .inr ⟨a, rfl, h⟩
    | some (.error _), h => cases h; exact .inl rfl
    | none, h => cases h
  · rcases h with rfl | ⟨a, rfl, h⟩
    · rfl
    · exact h

theorem run_guard_eq_ok {P : Prop} [Decidable P] {e : ε} {x : Run ε α} {a : α} :
    (if P then returned (.error e) else x) = returned (.ok a) ↔ ¬ P ∧ x = returned (.ok a) := by
  split <;> simp_all

theorem awaiting_eq_ok {x : Option α} {a : α} :
    (awaiting x : Run ε α) = returned (.ok a) ↔ x = some a := by
  cases x with
  | none => exact ⟨nofun, nofun⟩
  | some b =>
    have hsome : (awaiting (some b) : Run ε α) = returned (.ok b) := rfl
    rw [hsome, returned_inj, Except.ok.injEq, Option.some.injEq]

/-- The call returns a result with `p`. -/
def returns (p : α → Bool) : Run ε α → Bool
  | some (.ok a) => p a
  | _ => false

theorem exists_of_returns {p : α → Bool} {x : Run ε α} (h : returns p x = true) :
    ∃ a, x = returned (.ok a) ∧ p a = true := by
  match x, h with
  | some (.ok a), h => exact ⟨a, rfl, h⟩

/-- A chain of checks, in order; the first bad item decides. -/
def checks {ι : Type} (bad : ι → Bool) (err : ι → ε) (items : List ι) (k : Run ε α) : Run ε α :=
  items.foldr (fun i k => returned (if bad i then .error (err i) else .ok ()) >>= fun _ => k) k

theorem checks_eq {ι : Type} (bad : ι → Bool) (err : ι → ε) (items : List ι) (k : Run ε α) :
    checks bad err items k =
      match items.find? bad with
      | some i => returned (.error (err i))
      | none => k := by
  induction items with
  | nil => rfl
  | cons i items ih =>
    unfold checks at ih ⊢
    rw [List.foldr_cons, List.find?_cons]
    cases hi : bad i
    · exact ih
    · rfl

end Zrm.Result
