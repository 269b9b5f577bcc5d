import Zrm.Core.Result

/-!
# Calls with a log

A call that also keeps what it hands to the helpers under observation, also when it
fails later. Without the log it is the call itself.

* `result_bind`, `result_foldlM`: leaving out the log commutes with sequencing.
* `mem_log_bind`, `mem_log_foldlM`: where an entry of the log comes from.
-/
namespace Zrm.Logging
open Zrm.Result

variable {ρ ε α β σ : Type}

structure Logged (ρ ε α : Type) where
  log : List ρ
  result : Run ε α

/-- A call that hands nothing on. -/
def silent (x : Run ε α) : Logged ρ ε α := ⟨[], x⟩

/-- A helper's call, with what it received. -/
def received (r : ρ) (x : Run ε α) : Logged ρ ε α := ⟨[r], x⟩

/-- What comes after `x`, if it returns. -/
def andThen (x : Logged ρ ε α) (f : α → Logged ρ ε β) : Logged ρ ε β :=
  match x.result with
  | some (.ok a) => ⟨x.log ++ (f a).log, (f a).result⟩
  | some (.error e) => ⟨x.log, returned (.error e)⟩
  | none => ⟨x.log, none⟩

instance loggedMonad : Monad (Logged ρ ε) where
  pure a := silent (returned (.ok a))
  bind := andThen

@[simp] theorem result_silent (x : Run ε α) : (silent x : Logged ρ ε α).result = x := rfl

@[simp] theorem result_received (r : ρ) (x : Run ε α) : (received r x).result = x := rfl

@[simp] theorem log_silent (x : Run ε α) : (silent x : Logged ρ ε α).log = [] := rfl

@[simp] theorem log_received (r : ρ) (x : Run ε α) : (received r x).log = [r] := rfl

@[simp] theorem result_pure (a : α) : (pure a : Logged ρ ε α).result = returned (.ok a) := rfl

@[simp] theorem log_pure (a : α) : (pure a : Logged ρ ε α).log = [] := rfl

theorem result_bind (x : Logged ρ ε α) (f : α → Logged ρ ε β) :
    (x >>= f).result = x.result >>= fun a => (f a).result := by
  obtain ⟨log, result⟩ := x
  match result with
  | some (.ok a) => rfl
  | some (.error e) => rfl
  | none => rfl

/-- An entry comes from the first call, or from the second after the first returned. -/
theorem mem_log_bind {x : Logged ρ ε α} {f : α → Logged ρ ε β} {r : ρ} (h : r ∈ (x >>= f).log) :
    r ∈ x.log ∨ ∃ a, x.result = returned (.ok a) ∧ r ∈ (f a).log := by
  obtain ⟨log, result⟩ := x
  match result, h with
  | some (.ok a), h =>
    rcases List.mem_append.mp h with hlog | hlog
    · exact .inl hlog
    · exact .inr ⟨a, rfl, hlog⟩
  | some (.error e), h => exact .inl h
  | none, h => exact .inl h

/-! ## Loops -/

theorem result_foldlM {f : σ → α → Logged ρ ε σ} {g : σ → α → Run ε σ}
    (h : ∀ s a, (f s a).result = g s a) (items : List α) (s : σ) :
    (items.foldlM f s).result = items.foldlM g s := by
  induction items generalizing s with
  | nil => rfl
  | cons a items ih =>
    rw [List.foldlM_cons, List.foldlM_cons, result_bind, h]
    congr 1
    funext s'
    exact ih s'

/-- An entry of a loop comes from one turn, in a state that the turns before it return. -/
theorem mem_log_foldlM {f : σ → α → Logged ρ ε σ} {r : ρ} {items : List α} {s : σ}
    (h : r ∈ (items.foldlM f s).log) :
    ∃ before a after s', items = before ++ a :: after ∧
      (before.foldlM f s).result = returned (.ok s') ∧ r ∈ (f s' a).log := by
  induction items generalizing s with
  | nil => cases h
  | cons a items ih =>
    rw [List.foldlM_cons] at h
    rcases mem_log_bind h with hfirst | ⟨s', hs', hrest⟩
    · exact ⟨[], a, items, s, rfl, rfl, hfirst⟩
    · obtain ⟨before, b, after, t, rfl, ht, hlog⟩ := ih hrest
      refine ⟨a :: before, b, after, t, rfl, ?_, hlog⟩
      rw [List.foldlM_cons, result_bind, hs', returned_ok_bind, ht]

end Zrm.Logging
