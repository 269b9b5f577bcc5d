import Mathlib.Order.Lattice
import Mathlib.Data.List.TakeWhile

/-!
# A stack cut down by levels

Time passes in steps, each with a level. Some steps are marked and pushed; after a step,
what stands on the stack above its level is popped, from the top and while the top is.

* `opened_top`: the top of the stack is the last marked step that no later level undercut.
-/
namespace Zrm.LevelStack

variable {α : Type} [LinearOrder α] (level : Nat → α) (mark : Nat → Bool)

/-- A marked step whose level was kept in the steps from it up to `n`, without `n`. -/
def Live (n h : Nat) : Prop := mark h = true ∧ h ≤ n ∧ ∀ j, h ≤ j → j < n → level h ≤ level j

/-- `while active and level < active[-1]: active.pop()`, with the top first -/
def cut (bound : α) (stack : List Nat) : List Nat := stack.dropWhile fun h => bound < level h

/-- The stack before step `n`. -/
def before : Nat → List Nat
  | 0 => []
  | n + 1 => cut level (level n) (if mark n then n :: before n else before n)

/-- The stack in step `n`, its mark pushed. -/
def opened (n : Nat) : List Nat := if mark n then n :: before level mark n else before level mark n

/-- The steps pushed up to `n`: the live ones are on the stack, and what is not live lies
below a lower level. -/
structure Inv (n bound : Nat) (stack : List Nat) : Prop where
  sorted : stack.Pairwise (· > ·)
  marked : ∀ h ∈ stack, mark h = true ∧ h < bound
  complete : ∀ h, h < bound → Live level mark n h → h ∈ stack
  covered : ∀ e ∈ stack, Live level mark n e ∨ ∃ h ∈ stack, e < h ∧ level h < level e

variable {level mark} {n : Nat} {stack : List Nat}

theorem Inv.push (h : Inv level mark n n stack) :
    Inv level mark n (n + 1) (if mark n then n :: stack else stack) := by
  cases hmark : mark n with
  | false =>
    refine ⟨h.sorted, fun e he => ?_, fun e he hlive => ?_, h.covered⟩
    · obtain ⟨hm, hlt⟩ := h.marked e he
      exact ⟨hm, by omega⟩
    · have hne : e ≠ n := by
        intro heq
        rw [heq] at hlive
        rw [hlive.1] at hmark
        cases hmark
      exact h.complete e (by omega) hlive
  | true =>
    refine ⟨List.pairwise_cons.mpr ⟨fun e he => (h.marked e he).2, h.sorted⟩, fun e he => ?_,
      fun e he hlive => ?_, fun e he => ?_⟩
    · rcases List.mem_cons.mp he with rfl | hrest
      · exact ⟨hmark, Nat.lt_succ_self e⟩
      · obtain ⟨hm, hlt⟩ := h.marked e hrest
        exact ⟨hm, by omega⟩
    · rcases Nat.lt_or_ge e n with hlt | hge
      · exact List.mem_cons_of_mem n (h.complete e hlt hlive)
      · obtain rfl : e = n := by omega
        exact List.mem_cons_self
    · rcases List.mem_cons.mp he with rfl | hrest
      · exact .inl ⟨hmark, Nat.le_refl e, fun j hj hlt => by omega⟩
      · rcases h.covered e hrest with hlive | ⟨c, hc, hlt⟩
        · exact .inl hlive
        · exact .inr ⟨c, List.mem_cons_of_mem n hc, hlt⟩

theorem live_succ {e : Nat} :
    Live level mark (n + 1) e ∧ e ≤ n ↔ Live level mark n e ∧ level e ≤ level n := by
  refine ⟨fun h => ?_, fun h => ?_⟩
  · obtain ⟨⟨hmark, -, hlevel⟩, hle⟩ := h
    exact ⟨⟨hmark, hle, fun j hj hlt => hlevel j hj (by omega)⟩, hlevel n hle (Nat.lt_succ_self n)⟩
  · obtain ⟨⟨hmark, hle, hlevel⟩, hn⟩ := h
    refine ⟨⟨hmark, by omega, fun j hj hlt => ?_⟩, hle⟩
    rcases Nat.lt_or_ge j n with hlt' | hge
    · exact hlevel j hj hlt'
    · obtain rfl : j = n := by omega
      exact hn

/-- The first element that a cut keeps is at the bound or below it. -/
theorem cut_cons {bound : α} {top : Nat} {rest : List Nat} (h : cut level bound stack = top :: rest) :
    level top ≤ bound := by
  have hhead := List.head?_dropWhile_not (fun h => decide (bound < level h)) stack
  rw [cut] at h
  rw [h] at hhead
  simpa using hhead

/-- What a cut pops was above the bound. -/
theorem mem_cut_or (bound : α) {e : Nat} (he : e ∈ stack) :
    e ∈ cut level bound stack ∨ bound < level e := by
  rw [← List.takeWhile_append_dropWhile (p := fun h => decide (bound < level h)) (l := stack)] at he
  rcases List.mem_append.mp he with hpopped | hkept
  · have hlt := List.mem_takeWhile_imp hpopped
    exact .inr (of_decide_eq_true hlt)
  · exact .inl hkept

theorem Inv.cut (h : Inv level mark n (n + 1) stack) :
    Inv level mark (n + 1) (n + 1) (cut level (level n) stack) := by
  have hsublist : (LevelStack.cut level (level n) stack).Sublist stack := List.dropWhile_sublist _
  have hsorted := h.sorted.sublist hsublist
  refine ⟨hsorted, fun e he => h.marked e (hsublist.subset he), fun e he hlive => ?_, fun e he => ?_⟩
  · -- a step that stays live is not popped
    obtain ⟨hlive, hlevel⟩ := live_succ.mp ⟨hlive, by omega⟩
    rcases mem_cut_or (level n) (h.complete e he hlive) with hkept | hpopped
    · exact hkept
    · exact absurd hlevel (not_le.mpr hpopped)
  · cases hcut : LevelStack.cut level (level n) stack with
    | nil =>
      rw [hcut] at he
      cases he
    | cons top rest =>
      have htop := cut_cons hcut
      rw [hcut] at he hsorted
      have habove : e ≠ top → e < top := by
        intro hne
        rcases List.mem_cons.mp he with heq | hrest
        · exact absurd heq hne
        · exact (List.pairwise_cons.mp hsorted).1 e hrest
      by_cases hlevel : level e ≤ level n
      · rcases h.covered e (hsublist.subset (hcut ▸ he)) with hlive | ⟨c, hc, hlt, hlower⟩
        · exact .inl (live_succ.mpr ⟨hlive, hlevel⟩).1
        · -- if what covered it was popped, it would be above the bound itself
          rcases mem_cut_or (level n) hc with hkept | hpopped
          · rw [hcut] at hkept
            exact .inr ⟨c, hkept, hlt, hlower⟩
          · exact absurd (lt_trans hpopped hlower) (not_lt.mpr hlevel)
      · have hlt : level top < level e := lt_of_le_of_lt htop (not_le.mp hlevel)
        refine .inr ⟨top, List.mem_cons_self, habove ?_, hlt⟩
        intro heq
        rw [heq] at hlt
        exact absurd hlt (lt_irrefl _)

theorem inv_before (n : Nat) : Inv level mark n n (before level mark n) := by
  induction n with
  | zero => exact ⟨.nil, nofun, fun h hlt => by omega, nofun⟩
  | succ n ih => exact ih.push.cut

/-- **The top of the stack.** It is the last live step. -/
theorem opened_top (n h : Nat) :
    (opened level mark n).head? = some h ↔
      Live level mark n h ∧ ∀ h', Live level mark n h' → h' ≤ h := by
  have hinv : Inv level mark n (n + 1) (opened level mark n) := (inv_before n).push
  have hlatest : ∀ top rest, opened level mark n = top :: rest →
      Live level mark n top ∧ ∀ h', Live level mark n h' → h' ≤ top := by
    intro top rest hopened
    rw [hopened] at hinv
    have hbelow := (List.pairwise_cons.mp hinv.sorted).1
    refine ⟨?_, fun h' hlive => ?_⟩
    · rcases hinv.covered top List.mem_cons_self with hlive | ⟨c, hc, hlt, -⟩
      · exact hlive
      · rcases List.mem_cons.mp hc with rfl | hrest
        · omega
        · have := hbelow c hrest
          omega
    · rcases List.mem_cons.mp (hinv.complete h' (by have := hlive.2.1; omega) hlive) with rfl | hrest
      · exact Nat.le_refl _
      · exact Nat.le_of_lt (hbelow h' hrest)
  refine ⟨fun hhead => ?_, fun hlive => ?_⟩
  · obtain ⟨rest, hrest⟩ := List.head?_eq_some_iff.mp hhead
    exact hlatest h rest hrest
  · cases hopened : opened level mark n with
    | nil =>
      have hmem := hinv.complete h (by have := hlive.1.2.1; omega) hlive.1
      rw [hopened] at hmem
      cases hmem
    | cons top rest =>
      obtain ⟨htop, hmax⟩ := hlatest top rest hopened
      have h1 := hmax h hlive.1
      have h2 := hlive.2 top htop
      rw [List.head?_cons]
      congr 1
      omega

theorem Live.of_le {h m : Nat} (hlive : Live level mark n h) (hm : h ≤ m) (hmn : m ≤ n) :
    Live level mark m h :=
  ⟨hlive.1, hm, fun j hj hlt => hlive.2.2 j hj (by omega)⟩

/-- While a step is live, the stack has a top. -/
theorem exists_opened_top {h : Nat} (hlive : Live level mark n h) :
    ∃ top, (opened level mark n).head? = some top := by
  have hinv : Inv level mark n (n + 1) (opened level mark n) := (inv_before n).push
  have hle := hlive.2.1
  have hmem := hinv.complete h (by omega) hlive
  obtain ⟨top, rest, hopened⟩ := List.exists_cons_of_ne_nil (List.ne_nil_of_mem hmem)
  exact ⟨top, by rw [hopened, List.head?_cons]⟩

end Zrm.LevelStack
