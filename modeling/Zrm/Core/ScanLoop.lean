import Mathlib.Algebra.Ring.Nat
import Mathlib.Data.List.Basic

/-!
# Index loops with a saturating `u16` counter

The loop `while let Some(x) = xs.get(p) { if stop(x) { break } p = p.saturating_add(1) }`
with `p: u16`, as a step on the counter.

* `scan_eq`: on a list of at most 65535 elements it leaves at the first
  element where `stop` holds, or at the end.
* `run_mono`: more turns never change the result.
* `run_scanStep_never`: on a longer list without such an element it never leaves.
-/
namespace Zrm.ScanLoop

/-! ## Loops -/

variable {σ ρ α : Type}

/-- A loop, for at most `fuel` turns: each goes on from a new state or leaves
with a result. `none`: it has not left yet. -/
def run (step : σ → σ ⊕ ρ) : Nat → σ → Option ρ
  | 0, _ => none
  | fuel + 1, s =>
    match step s with
    | .inl s' => run step fuel s'
    | .inr r => some r

variable {step : σ → σ ⊕ ρ} {fuel : Nat} {s s' : σ} {r : ρ}

theorem run_of_inl (h : step s = .inl s') : run step (fuel + 1) s = run step fuel s' := by
  simp only [run, h]

theorem run_of_inr (h : step s = .inr r) : run step (fuel + 1) s = some r := by
  simp only [run, h]

theorem run_mono {n m : Nat} (h : run step n s = some r) (hnm : n ≤ m) : run step m s = some r := by
  induction n generalizing m s with
  | zero => cases h
  | succ n ih =>
    obtain ⟨m, rfl⟩ : ∃ k, m = k + 1 := ⟨m - 1, by omega⟩
    cases hs : step s with
    | inl s' =>
      rw [run_of_inl hs] at h ⊢
      exact ih h (by omega)
    | inr r' => rw [run_of_inr hs] at h ⊢; exact h

/-! ## The counter -/

/-- `saturating_add(1)` on `u16` -/
def saturatingSucc (p : UInt16) : UInt16 := if p = 65535 then 65535 else p + 1

theorem toNat_saturatingSucc {p : UInt16} (h : p.toNat < 65535) :
    (saturatingSucc p).toNat = p.toNat + 1 := by
  have hp : p ≠ 65535 := by
    intro heq
    subst heq
    exact absurd h (by decide)
  unfold saturatingSucc
  rw [if_neg hp, UInt16.toNat_add, UInt16.toNat_one]
  omega

/-- One turn; the result is the counter and the element it stopped at, if any. -/
def scanStep (xs : List α) (stop : α → Bool) (p : UInt16) : UInt16 ⊕ (UInt16 × Option α) :=
  match xs[p.toNat]? with
  | none => .inr (p, none)
  | some x => if stop x then .inr (p, some x) else .inl (saturatingSucc p)

/-- More turns than the counter has values: a run this long repeats a state. -/
def TURNS : Nat := 2 ^ 16 + 1

/-- The loop from `p = 0`; `none` if it never leaves. -/
def scan (xs : List α) (stop : α → Bool) : Option (UInt16 × Option α) :=
  run (scanStep xs stop) TURNS 0

variable {xs : List α} {stop : α → Bool}

theorem scanStep_before {p : UInt16} (h : p.toNat < xs.findIdx stop) :
    scanStep xs stop p = .inl (saturatingSucc p) := by
  have hlen : p.toNat < xs.length := Nat.lt_of_lt_of_le h List.findIdx_le_length
  have hstop : stop xs[p.toNat] = false := List.not_of_lt_findIdx h
  unfold scanStep
  rw [List.getElem?_eq_getElem hlen]
  simp [hstop]

theorem scanStep_at {p : UInt16} (h : p.toNat = xs.findIdx stop) :
    scanStep xs stop p = .inr (p, xs.find? stop) := by
  have hfind : xs.find? stop = xs[p.toNat]? := by rw [List.find?_eq_getElem?_findIdx, h]
  unfold scanStep
  rw [hfind]
  cases hx : xs[p.toNat]? with
  | none => rfl
  | some x =>
    rw [h] at hx
    simp only [List.findIdx_of_getElem?_eq_some hx, if_true]

/-- The counter reaches the index after as many turns as remain. -/
theorem run_scanStep (hlen : xs.length < 2 ^ 16) (k : Nat) :
    ∀ p : UInt16, p.toNat + k = xs.findIdx stop →
      run (scanStep xs stop) (k + 1) p = some (UInt16.ofNat (xs.findIdx stop), xs.find? stop) := by
  induction k with
  | zero =>
    intro p hp
    rw [Nat.add_zero] at hp
    rw [run_of_inr (scanStep_at hp), ← hp, UInt16.ofNat_toNat]
  | succ k ih =>
    intro p hp
    have hle : xs.findIdx stop ≤ xs.length := List.findIdx_le_length
    rw [run_of_inl (scanStep_before (by omega))]
    exact ih _ (by rw [toNat_saturatingSucc (by omega)]; omega)

theorem run_scanStep_zero (hlen : xs.length < 2 ^ 16) :
    run (scanStep xs stop) (xs.findIdx stop + 1) 0 =
      some (UInt16.ofNat (xs.findIdx stop), xs.find? stop) :=
  run_scanStep hlen _ 0 (Nat.zero_add _)

/-- On a list whose indices fit the counter, the loop finds the first index. -/
theorem scan_eq (hlen : xs.length < 2 ^ 16) :
    scan xs stop = some (UInt16.ofNat (xs.findIdx stop), xs.find? stop) := by
  have hle : xs.findIdx stop ≤ xs.length := List.findIdx_le_length
  exact run_mono (run_scanStep_zero hlen) (by unfold TURNS; omega)

/-- The turns that suffice: one for each element, and one to leave. -/
theorem run_scanStep_length (hlen : xs.length < 2 ^ 16) :
    run (scanStep xs stop) (xs.length + 1) 0 =
      some (UInt16.ofNat (xs.findIdx stop), xs.find? stop) :=
  run_mono (run_scanStep_zero hlen) (Nat.succ_le_succ List.findIdx_le_length)

/-! ## Longer lists -/

/-- The counter stays below the length, so a turn that does not stop is not the last one. -/
theorem scanStep_never (hlen : 2 ^ 16 ≤ xs.length) (hstop : ∀ x ∈ xs, stop x = false) (p : UInt16) :
    scanStep xs stop p = .inl (saturatingSucc p) := by
  have hp : p.toNat < xs.length := Nat.lt_of_lt_of_le p.toNat_lt hlen
  unfold scanStep
  rw [List.getElem?_eq_getElem hp]
  simp only [hstop _ (List.getElem_mem hp), Bool.false_eq_true, if_false]

theorem run_scanStep_never (hlen : 2 ^ 16 ≤ xs.length) (hstop : ∀ x ∈ xs, stop x = false) (turns : Nat)
    (p : UInt16) : run (scanStep xs stop) turns p = none := by
  induction turns generalizing p with
  | zero => rfl
  | succ turns ih => rw [run_of_inl (scanStep_never hlen hstop p), ih]

end Zrm.ScanLoop
