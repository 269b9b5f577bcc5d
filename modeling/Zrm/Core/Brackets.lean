import Mathlib.Data.Int.Basic
import Mathlib.Tactic.Ring
import Mathlib.Algebra.BigOperators.Group.List.Basic

/-!
# Nested brackets

Sequences of brackets of several kinds, among symbols that are no brackets. `Nested` is
the Dyck language of all kinds; `Matched` relates an opening bracket to the end of its own
span, and `Nesting` says that a map pairs the brackets up as spans that never cross.

* `Matched.right_unique`, `Matched.left_unique`: a bracket has one partner.
* `Pending.closing`: a stack of open brackets finds it.
* `Nesting.nested`, `Nesting.unique`: spans that never cross come from a nested sequence,
  and there is one way to choose them.
-/
namespace Zrm.Brackets

variable {κ : Type}

inductive Symbol (κ : Type)
  | opening (k : κ)
  | closing (k : κ)
  | other
  deriving DecidableEq

/-- The sequences that are nested across all kinds. -/
inductive Nested : List (Symbol κ) → Prop
  | nil : Nested []
  | other {rest : List (Symbol κ)} : Nested rest → Nested (.other :: rest)
  | span (k : κ) {inner rest : List (Symbol κ)} : Nested inner → Nested rest →
      Nested (.opening k :: (inner ++ .closing k :: rest))

theorem Nested.append {a b : List (Symbol κ)} (ha : Nested a) (hb : Nested b) : Nested (a ++ b) := by
  induction ha with
  | nil => exact hb
  | other _ ih => exact ih.other
  | span k hinner _ _ ih =>
    rw [List.cons_append, List.append_assoc, List.cons_append]
    exact .span k hinner ih

theorem Nested.of_opening {k : κ} {l : List (Symbol κ)} (h : Nested (.opening k :: l)) :
    ∃ inner rest, l = inner ++ .closing k :: rest ∧ Nested inner ∧ Nested rest := by
  cases h with
  | span _ hinner hrest => exact ⟨_, _, rfl, hinner, hrest⟩

/-- A span around a nested sequence, after another one. -/
theorem Nested.snoc_span {a inner : List (Symbol κ)} (k : κ) (ha : Nested a) (hinner : Nested inner) :
    Nested (a ++ .opening k :: (inner ++ [.closing k])) :=
  ha.append (.span k hinner .nil)

/-! ## Heights -/

def weight : Symbol κ → Int
  | .opening _ => 1
  | .closing _ => -1
  | .other => 0

/-- The opening brackets less the closing ones. -/
def height (l : List (Symbol κ)) : Int := (l.map weight).sum

@[simp] theorem height_nil : height ([] : List (Symbol κ)) = 0 := rfl

@[simp] theorem height_cons (s : Symbol κ) (l : List (Symbol κ)) :
    height (s :: l) = weight s + height l := by
  simp [height]

@[simp] theorem height_append (a b : List (Symbol κ)) : height (a ++ b) = height a + height b := by
  simp [height]

theorem Nested.height_eq {l : List (Symbol κ)} (h : Nested l) : height l = 0 := by
  induction h with
  | nil => rfl
  | other _ ih => simp [ih, weight]
  | span k _ _ ihInner ih => simp [ihInner, ih, weight]

theorem Nested.height_take {l : List (Symbol κ)} (h : Nested l) (n : Nat) : 0 ≤ height (l.take n) := by
  induction h generalizing n with
  | nil => simp
  | other _ ih =>
    cases n with
    | zero => simp
    | succ n => simpa [weight] using ih n
  | @span k inner rest hinner _ ihInner ih =>
    cases n with
    | zero => simp
    | succ n =>
      rw [List.take_succ_cons, List.take_append, height_cons, height_append]
      have hfirst := ihInner n
      rcases Nat.lt_or_ge inner.length n with hlt | hge
      · obtain ⟨m, hm⟩ : ∃ m, n - inner.length = m + 1 := ⟨n - inner.length - 1, by omega⟩
        have hrest := ih m
        rw [List.take_of_length_le hlt.le, hinner.height_eq, hm, List.take_succ_cons, height_cons]
        simp only [weight]
        omega
      · rw [Nat.sub_eq_zero_of_le hge, List.take_zero, height_nil]
        simp only [weight]
        omega

/-- No prefix of a nested sequence closes more than it opens. -/
theorem Nested.height_prefix {a b : List (Symbol κ)} (h : Nested (a ++ b)) : 0 ≤ height a := by
  have htake := h.height_take a.length
  rwa [List.take_left] at htake

/-! ## Intervals -/

/-- The symbols at the positions from `i` up to `j`, without `j`. -/
def between (l : List (Symbol κ)) (i j : Nat) : List (Symbol κ) := (l.drop i).take (j - i)

variable {l : List (Symbol κ)} {i j n : Nat}

@[simp] theorem between_self (l : List (Symbol κ)) (i : Nat) : between l i i = [] := by
  simp [between]

@[simp] theorem between_zero (l : List (Symbol κ)) (n : Nat) : between l 0 n = l.take n := by
  simp [between]

theorem between_append {m : Nat} (him : i ≤ m) (hmj : m ≤ j) :
    between l i j = between l i m ++ between l m j := by
  have hdrop : l.drop m = (l.drop i).drop (m - i) := by
    rw [List.drop_drop]
    congr 1
    omega
  have hlength : j - i = (m - i) + (j - m) := by omega
  rw [between, between, between, hdrop, hlength, List.take_add]

theorem between_cons {s : Symbol κ} (hs : l[i]? = some s) (hij : i < j) :
    between l i j = s :: between l (i + 1) j := by
  obtain ⟨hlt, rfl⟩ := List.getElem?_eq_some_iff.mp hs
  obtain ⟨m, hm⟩ : ∃ m, j - i = m + 1 := ⟨j - i - 1, by omega⟩
  have hrest : j - (i + 1) = m := by omega
  rw [between, between, hm, hrest, List.drop_eq_getElem_cons hlt, List.take_succ_cons]

theorem between_snoc {s : Symbol κ} (hs : l[j]? = some s) (hij : i ≤ j) :
    between l i (j + 1) = between l i j ++ [s] := by
  rw [between_append hij (Nat.le_succ j), between_cons hs (Nat.lt_succ_self j), between_self]

/-! ## Partners -/

/-- An opening bracket at `i` and a closing one of its kind at `j`. -/
def Ends (l : List (Symbol κ)) (i j : Nat) : Prop :=
  ∃ k, l[i]? = some (.opening k) ∧ l[j]? = some (.closing k)

/-- The bracket at `j` closes the one at `i`. -/
structure Matched (l : List (Symbol κ)) (i j : Nat) : Prop where
  lt : i < j
  ends : Ends l i j
  inner : Nested (between l (i + 1) j)

/-- The brackets around a nested sequence are partners. -/
theorem matched_span {k : κ} {before inner : List (Symbol κ)} (hinner : Nested inner)
    (after : List (Symbol κ)) :
    Matched (before ++ .opening k :: (inner ++ .closing k :: after)) before.length
      (before.length + 1 + inner.length) where
  lt := by omega
  ends := by
    refine ⟨k, by simp, ?_⟩
    have hindex : before.length + 1 + inner.length - before.length = inner.length + 1 := by omega
    rw [List.getElem?_append_right (by omega), hindex, List.getElem?_cons_succ]
    simp
  inner := by
    have hlength : before.length + 1 + inner.length - (before.length + 1) = inner.length := by omega
    have hdrop : before.length + 1 - before.length = 1 := by omega
    rw [between, hlength, List.drop_append, hdrop, List.drop_eq_nil_of_le (by omega)]
    simpa using hinner

theorem Matched.right_le {j' : Nat} (h : Matched l i j) (h' : Matched l i j') : j ≤ j' := by
  by_contra hlt
  obtain ⟨k, -, hclosing⟩ := h'.ends
  have hinner := h.inner
  rw [between_append (Nat.succ_le_of_lt h'.lt) (by omega : j' ≤ j),
    between_cons hclosing (by omega), ← List.singleton_append, ← List.append_assoc] at hinner
  have hheight := hinner.height_prefix
  rw [height_append, h'.inner.height_eq] at hheight
  exact absurd hheight (by simp [weight])

theorem Matched.right_unique {j' : Nat} (h : Matched l i j) (h' : Matched l i j') : j = j' :=
  Nat.le_antisymm (h.right_le h') (h'.right_le h)

theorem Matched.left_le {i' : Nat} (h : Matched l i j) (h' : Matched l i' j) : i' ≤ i := by
  by_contra hlt
  obtain ⟨k, hopening, -⟩ := h'.ends
  have hinner := h.inner
  rw [between_append (by omega : i + 1 ≤ i') h'.lt.le, between_cons hopening h'.lt] at hinner
  have htotal := hinner.height_eq
  have hfirst := hinner.height_prefix
  rw [height_append, height_cons, h'.inner.height_eq] at htotal
  simp only [weight] at htotal
  omega

theorem Matched.left_unique {i' : Nat} (h : Matched l i j) (h' : Matched l i' j) : i = i' :=
  Nat.le_antisymm (h'.left_le h) (h.left_le h')

/-- In a nested sequence every opening bracket is closed. -/
theorem Nested.split_opening {k : κ} {l : List (Symbol κ)} (h : Nested l) {before rest : List (Symbol κ)}
    (hl : l = before ++ .opening k :: rest) : ∃ inner after, rest = inner ++ .closing k :: after ∧ Nested inner := by
  induction h generalizing before rest with
  | nil => exact absurd hl (by simp)
  | other _ ih =>
    cases before with
    | nil => cases hl
    | cons s before => exact ih (List.cons.inj hl).2
  | @span k' inner after hinner _ ihInner ih =>
    cases before with
    | nil =>
      rw [List.nil_append, List.cons.injEq, Symbol.opening.injEq] at hl
      obtain ⟨rfl, rfl⟩ := hl
      exact ⟨inner, after, rfl, hinner⟩
    | cons s before =>
      rcases List.append_eq_append_iff.mp (List.cons.inj hl).2 with ⟨c, hbefore, hc⟩ | ⟨c, hsplit, hc⟩
      · cases c with
        | nil => cases hc
        | cons s c => exact ih (List.cons.inj hc).2
      · cases c with
        | nil => cases hc
        | cons s c =>
          rw [List.cons_append, List.cons.injEq] at hc
          obtain ⟨rfl, rfl⟩ := hc
          obtain ⟨inner', after', rfl, hnested⟩ := ihInner hsplit
          exact ⟨inner', after' ++ .closing k' :: after, by simp, hnested⟩

theorem Nested.exists_matched {k : κ} (h : Nested l) (hi : l[i]? = some (.opening k)) :
    ∃ j, Matched l i j := by
  obtain ⟨hlt, hget⟩ := List.getElem?_eq_some_iff.mp hi
  have hsplit : l = l.take i ++ .opening k :: l.drop (i + 1) := by
    rw [← hget, ← List.drop_eq_getElem_cons hlt, List.take_append_drop]
  obtain ⟨inner, after, hrest, hinner⟩ := h.split_opening hsplit
  have hmatched := @matched_span _ k (l.take i) _ hinner after
  rw [← hrest, ← hsplit, List.length_take, Nat.min_eq_left (Nat.le_of_lt hlt)] at hmatched
  exact ⟨_, hmatched⟩

/-! ## A stack of open brackets -/

/-- After `n` symbols, the positions on the stack are those of the brackets still open,
the last one on top. -/
inductive Pending (l : List (Symbol κ)) : Nat → List Nat → Prop
  | bottom {n : Nat} : Nested (l.take n) → Pending l n []
  | push {n i : Nat} {k : κ} {stack : List Nat} : i < n → l[i]? = some (.opening k) → Nested (between l (i + 1) n) →
      Pending l i stack → Pending l n (i :: stack)

variable {stack : List Nat} {k : κ}

theorem Pending.other (h : Pending l n stack) (hn : l[n]? = some .other) :
    Pending l (n + 1) stack := by
  cases h with
  | bottom hnested =>
    refine .bottom ?_
    rw [← between_zero, between_snoc hn (Nat.zero_le n), between_zero]
    exact hnested.append (.other .nil)
  | push hlt hopening hnested hrest =>
    refine .push (by omega) hopening ?_ hrest
    rw [between_snoc hn hlt]
    exact hnested.append (.other .nil)

theorem Pending.opening (h : Pending l n stack) (hn : l[n]? = some (.opening k)) :
    Pending l (n + 1) (n :: stack) :=
  .push (Nat.lt_succ_self n) hn (by rw [between_self]; exact .nil) h

/-- A span that just ended joins what is nested below it. -/
theorem Pending.close (h : Pending l i stack) (hm : Matched l i n) : Pending l (n + 1) stack := by
  have hlt := hm.lt
  obtain ⟨k, hopening, hclosing⟩ := hm.ends
  have hspan : ∀ a, a ≤ i → between l a (n + 1) =
      between l a i ++ .opening k :: (between l (i + 1) n ++ [.closing k]) := by
    intro a ha
    rw [between_append ha (by omega : i ≤ n + 1), between_cons hopening (by omega),
      between_snoc hclosing hlt]
  cases h with
  | bottom hnested =>
    refine .bottom ?_
    rw [← between_zero, hspan 0 (Nat.zero_le i), between_zero]
    exact hnested.snoc_span k hm.inner
  | push hlt' hopening' hnested hrest =>
    refine .push (by omega) hopening' ?_ hrest
    rw [hspan _ hlt']
    exact hnested.snoc_span k hm.inner

/-- A closing bracket of the kind on top ends the span that starts there. -/
theorem Pending.closing (h : Pending l n (i :: stack)) (hi : l[i]? = some (.opening k))
    (hn : l[n]? = some (.closing k)) : Matched l i n ∧ Pending l (n + 1) stack := by
  cases h with
  | push hlt hopening hnested hrest =>
    have hm : Matched l i n := ⟨hlt, ⟨k, hi, hn⟩, hnested⟩
    exact ⟨hm, hrest.close hm⟩

theorem Pending.mem (h : Pending l n stack) (hi : i ∈ stack) :
    i < n ∧ ∃ k, l[i]? = some (.opening k) := by
  induction h with
  | bottom => cases hi
  | push hlt hopening _ _ ih =>
    rcases List.mem_cons.mp hi with rfl | hrest
    · exact ⟨hlt, _, hopening⟩
    · obtain ⟨hlt', hopening'⟩ := ih hrest
      exact ⟨by omega, hopening'⟩

/-- The stack is as high as the sequence read so far. -/
theorem Pending.height_eq (h : Pending l n stack) : height (l.take n) = stack.length := by
  induction h with
  | bottom hnested => rw [hnested.height_eq]; rfl
  | @push n i k stack hlt hopening hnested _ ih =>
    rw [← between_zero, between_append (Nat.zero_le i) hlt.le, between_cons hopening hlt,
      between_zero, height_append, ih, height_cons, hnested.height_eq, List.length_cons]
    simp only [weight]
    omega

/-- Where a nested sequence closes a bracket, one is open. -/
theorem Pending.ne_nil (h : Pending l n stack) (hl : Nested l) (hn : l[n]? = some (.closing k)) :
    stack ≠ [] := by
  intro hempty
  subst hempty
  have hheight := hl.height_take (n + 1)
  rw [← between_zero, between_snoc hn (Nat.zero_le n), between_zero, height_append, h.height_eq]
    at hheight
  exact absurd hheight (by simp [weight])

theorem Pending.end_iff (h : Pending l l.length stack) : stack = [] ↔ Nested l := by
  refine ⟨fun hempty => ?_, fun hl => ?_⟩
  · subst hempty
    cases h with
    | bottom hnested => rwa [List.take_length] at hnested
  · have hheight := h.height_eq
    rw [List.take_length, hl.height_eq] at hheight
    exact List.length_eq_zero_iff.mp (by omega)

/-! ## One kind alone -/

variable [DecidableEq κ]

/-- The brackets of the other kinds are no brackets. -/
def only (k : κ) : Symbol κ → Symbol κ
  | .opening k' => if k' = k then .opening k' else .other
  | .closing k' => if k' = k then .closing k' else .other
  | .other => .other

theorem only_eq_opening {k k' : κ} {s : Symbol κ} :
    only k s = .opening k' ↔ k' = k ∧ s = .opening k' := by
  cases s with
  | opening a => simp only [only]; split <;> grind
  | closing a => simp only [only]; split <;> simp
  | other => simp [only]

theorem only_eq_closing {k k' : κ} {s : Symbol κ} :
    only k s = .closing k' ↔ k' = k ∧ s = .closing k' := by
  cases s with
  | opening a => simp only [only]; split <;> simp
  | closing a => simp only [only]; split <;> grind
  | other => simp [only]

/-- A nested sequence is nested in each kind. -/
theorem Nested.only {l : List (Symbol κ)} (h : Nested l) (k : κ) : Nested (l.map (only k)) := by
  induction h with
  | nil => exact .nil
  | other _ ih => exact .other ih
  | span k' _ _ ihInner ih =>
    rw [List.map_cons, List.map_append, List.map_cons]
    by_cases hk : k' = k
    · simp only [Brackets.only, if_pos hk]
      exact .span k' ihInner ih
    · simp only [Brackets.only, if_neg hk]
      exact .other (ihInner.append (.other ih))

theorem getElem?_only_opening {k k' : κ} :
    (l.map (only k))[i]? = some (.opening k') ↔ k' = k ∧ l[i]? = some (.opening k') := by
  simp only [List.getElem?_map, Option.map_eq_some_iff, only_eq_opening]
  grind

theorem getElem?_only_closing {k k' : κ} :
    (l.map (only k))[i]? = some (.closing k') ↔ k' = k ∧ l[i]? = some (.closing k') := by
  simp only [List.getElem?_map, Option.map_eq_some_iff, only_eq_closing]
  grind

/-- The bracket at `j` closes the one at `i` when the other kinds are left out. -/
def MatchedAlone (l : List (Symbol κ)) (i j : Nat) : Prop := ∃ k, Matched (l.map (only k)) i j

theorem MatchedAlone.lt (h : MatchedAlone l i j) : i < j := by
  obtain ⟨k, hm⟩ := h
  exact hm.lt

theorem matched_only_iff {k : κ} :
    Matched (l.map (only k)) i j ↔ MatchedAlone l i j ∧ l[i]? = some (.opening k) ∧
      l[j]? = some (.closing k) := by
  have hends : ∀ k, Matched (l.map (only k)) i j →
      l[i]? = some (.opening k) ∧ l[j]? = some (.closing k) := by
    intro k hm
    obtain ⟨k', hopening, hclosing⟩ := hm.ends
    obtain ⟨rfl, hopening'⟩ := getElem?_only_opening.mp hopening
    exact ⟨hopening', (getElem?_only_closing.mp hclosing).2⟩
  refine ⟨fun hm => ⟨⟨k, hm⟩, hends k hm⟩, fun h => ?_⟩
  obtain ⟨⟨k', hm⟩, hopening, -⟩ := h
  obtain ⟨hopening', -⟩ := hends k' hm
  rw [hopening] at hopening'
  cases hopening'
  exact hm

theorem MatchedAlone.ends (h : MatchedAlone l i j) : Ends l i j := by
  obtain ⟨k, hm⟩ := h
  exact ⟨k, (matched_only_iff.mp hm).2⟩

theorem MatchedAlone.right_unique {j' : Nat} (h : MatchedAlone l i j) (h' : MatchedAlone l i j') :
    j = j' := by
  obtain ⟨k, hopening, hclosing⟩ := h.ends
  obtain ⟨k', hopening', hclosing'⟩ := h'.ends
  obtain rfl : k = k' := by rw [hopening] at hopening'; cases hopening'; rfl
  exact (matched_only_iff.mpr ⟨h, hopening, hclosing⟩).right_unique
    (matched_only_iff.mpr ⟨h', hopening', hclosing'⟩)

theorem MatchedAlone.left_unique {i' : Nat} (h : MatchedAlone l i j) (h' : MatchedAlone l i' j) :
    i = i' := by
  obtain ⟨k, hopening, hclosing⟩ := h.ends
  obtain ⟨k', hopening', hclosing'⟩ := h'.ends
  obtain rfl : k = k' := by rw [hclosing] at hclosing'; cases hclosing'; rfl
  exact (matched_only_iff.mpr ⟨h, hopening, hclosing⟩).left_unique
    (matched_only_iff.mpr ⟨h', hopening', hclosing'⟩)

/-- Two spans, each found with the other kinds left out, cross. -/
def Crossing (l : List (Symbol κ)) : Prop :=
  ∃ i j i' j', MatchedAlone l i j ∧ MatchedAlone l i' j' ∧ i < i' ∧ i' < j ∧ j < j'

omit [DecidableEq κ]

/-! ## Spans that never cross -/

/-- The map pairs all brackets, each opening one with a later closing one of its kind, and
two spans are disjoint or one contains the other. -/
structure Nesting (l : List (Symbol κ)) (m : Nat → Option Nat) : Prop where
  total : ∀ i k, l[i]? = some (.opening k) ∨ l[i]? = some (.closing k) → ∃ j, m i = some j
  involutive : ∀ i j, m i = some j → m j = some i
  ends : ∀ i j, m i = some j → i < j ∧ Ends l i j ∨ j < i ∧ Ends l j i
  laminar : ∀ i j i' j', m i = some j → m i' = some j' → i < j → i' < j' → i < i' →
    j < i' ∨ j' < j

variable {m : Nat → Option Nat}

theorem Nesting.ends_of_lt (h : Nesting l m) (hij : m i = some j) (hlt : i < j) : Ends l i j := by
  rcases h.ends i j hij with ⟨-, hends⟩ | ⟨hgt, -⟩
  · exact hends
  · omega

theorem Nesting.ne (h : Nesting l m) (hij : m i = some j) : i ≠ j := by
  rcases h.ends i j hij with ⟨hlt, -⟩ | ⟨hlt, -⟩ <;> omega

/-- A bracket inside a span has its partner inside. -/
theorem Nesting.inside (h : Nesting l m) {a c : Nat} (hac : m a = some c) (hlt : a < c) (hij : m i = some j)
    (hai : a < i) (hic : i < c) : a < j ∧ j < c := by
  have hca := h.involutive a c hac
  have hji := h.involutive i j hij
  have hja : j ≠ a := by
    intro heq
    rw [heq, hac] at hji
    cases hji
    omega
  have hjc : j ≠ c := by
    intro heq
    rw [heq, hca] at hji
    cases hji
    omega
  have hne := h.ne hij
  rcases Nat.lt_or_ge i j with hlt' | hge
  · have hapart := h.laminar a c i j hac hij hlt hlt' hai
    omega
  · refine ⟨?_, by omega⟩
    by_contra hja'
    have hapart := h.laminar j i a c hji hac (by omega) hlt (by omega)
    omega

/-- A bracket behind a span has its partner before the span or behind it. -/
theorem Nesting.outside (h : Nesting l m) {a c : Nat} (hac : m a = some c) (hlt : a < c) (hij : m i = some j)
    (hci : c < i) (haj : a ≤ j) : c < j := by
  have hji := h.involutive i j hij
  by_contra hjc
  rcases Nat.eq_or_lt_of_le haj with rfl | haj'
  · rw [hac] at hji
    cases hji
    omega
  · rcases Nat.eq_or_lt_of_le (by omega : j ≤ c) with rfl | hjc'
    · rw [h.involutive a j hac] at hji
      cases hji
      omega
    · obtain ⟨-, hic⟩ := h.inside hac hlt hji haj' hjc'
      omega

/-- An interval that holds the partners of its brackets is nested. -/
theorem Nesting.nested_between (h : Nesting l m) (a b : Nat) (hb : b ≤ l.length)
    (hclosed : ∀ i j, m i = some j → a ≤ i → i < b → a ≤ j ∧ j < b) : Nested (between l a b) := by
  induction hd : b - a using Nat.strongRecOn generalizing a b with
  | ind d ih =>
    rcases Nat.lt_or_ge a b with hab | hba
    · obtain ⟨s, hget⟩ : ∃ s, l[a]? = some s := ⟨_, List.getElem?_eq_getElem (by omega)⟩
      cases s with
      | other =>
        rw [between_cons hget hab]
        refine .other (ih (b - (a + 1)) (by omega) (a + 1) b hb ?_ rfl)
        intro i j hij hai hib
        obtain ⟨haj, hjb⟩ := hclosed i j hij (by omega) hib
        -- the partner is not `a`, which is no bracket
        have hne : j ≠ a := by
          intro heq
          subst heq
          rcases h.ends i j hij with ⟨-, k, -, hclosing⟩ | ⟨-, k, hopening, -⟩
          · rw [hget] at hclosing; cases hclosing
          · rw [hget] at hopening; cases hopening
        exact ⟨by omega, hjb⟩
      | closing k =>
        obtain ⟨j, hj⟩ := h.total a k (.inr hget)
        obtain ⟨haj, -⟩ := hclosed a j hj (Nat.le_refl a) hab
        rcases h.ends a j hj with ⟨-, k', hopening, -⟩ | ⟨hlt, -⟩
        · rw [hget] at hopening; cases hopening
        · omega
      | opening k =>
        obtain ⟨c, hc⟩ := h.total a k (.inl hget)
        obtain ⟨hac, hcb⟩ := hclosed a c hc (Nat.le_refl a) hab
        have hne := h.ne hc
        have hlt : a < c := by omega
        obtain ⟨k', hopening, hclosing⟩ := h.ends_of_lt hc hlt
        obtain rfl : k = k' := by rw [hget] at hopening; cases hopening; rfl
        have hspan : between l a b =
            .opening k :: (between l (a + 1) c ++ .closing k :: between l (c + 1) b) := by
          rw [between_cons hget hab, between_append (by omega : a + 1 ≤ c) hcb.le,
            between_cons hclosing hcb]
        rw [hspan]
        refine .span k (ih (c - (a + 1)) (by omega) (a + 1) c (by omega) ?_ rfl)
          (ih (b - (c + 1)) (by omega) (c + 1) b hb ?_ rfl)
        · intro i j hij hai hic
          obtain ⟨haj, hjc⟩ := h.inside hc hlt hij (by omega) hic
          exact ⟨by omega, hjc⟩
        · intro i j hij hci hib
          obtain ⟨haj, hjb⟩ := hclosed i j hij (by omega) hib
          exact ⟨h.outside hc hlt hij (by omega) haj, hjb⟩
    · rw [between, Nat.sub_eq_zero_of_le hba, List.take_zero]
      exact .nil

theorem Nesting.lt_length (h : Nesting l m) (hij : m i = some j) : i < l.length := by
  rcases h.ends i j hij with ⟨-, k, hopening, -⟩ | ⟨-, k, -, hclosing⟩
  · exact (List.getElem?_eq_some_iff.mp hopening).1
  · exact (List.getElem?_eq_some_iff.mp hclosing).1

theorem Nesting.nested (h : Nesting l m) : Nested l := by
  have hwhole := h.nested_between 0 l.length (Nat.le_refl _) fun i j hij _ _ =>
    ⟨Nat.zero_le j, h.lt_length (h.involutive i j hij)⟩
  rwa [between_zero, List.take_length] at hwhole

/-- The pairs are those of the sequence itself. -/
theorem Nesting.matched (h : Nesting l m) (hij : m i = some j) (hlt : i < j) : Matched l i j := by
  have hj := h.lt_length (h.involutive i j hij)
  refine ⟨hlt, h.ends_of_lt hij hlt, h.nested_between (i + 1) j hj.le fun a b hab hia haj => ?_⟩
  have hba := h.involutive a b hab
  have hbi : b ≠ i := by
    intro heq
    subst heq
    have haj' := hba.symm.trans hij
    cases haj'
    omega
  have hbj : b ≠ j := by
    intro heq
    subst heq
    have hai := hba.symm.trans (h.involutive i b hij)
    cases hai
    omega
  rcases h.ends a b hab with ⟨hlt', -⟩ | ⟨hlt', -⟩
  · have hcross := h.laminar i j a b hij hab hlt hlt' (by omega)
    omega
  · rcases Nat.lt_or_ge b i with hbi' | hbi'
    · have hcross := h.laminar b a i j hba hij hlt' hlt hbi'
      omega
    · omega

/-- There is at most one way to pair the brackets up. -/
theorem Nesting.unique {m' : Nat → Option Nat} (h : Nesting l m) (h' : Nesting l m') : m = m' := by
  have hle : ∀ {m m' : Nat → Option Nat}, Nesting l m → Nesting l m' →
      ∀ i j, m i = some j → m' i = some j := by
    intro m m' h h' i j hij
    have hother : ∃ j', m' i = some j' := by
      rcases h.ends i j hij with ⟨-, k, hopening, -⟩ | ⟨-, k, -, hclosing⟩
      · exact h'.total i k (.inl hopening)
      · exact h'.total i k (.inr hclosing)
    obtain ⟨j', hij'⟩ := hother
    rw [hij']
    congr 1
    rcases h.ends i j hij with ⟨hlt, k, hopening, -⟩ | ⟨hlt, k, -, hclosing⟩
    · rcases h'.ends i j' hij' with ⟨hlt', -⟩ | ⟨-, k', -, hclosing'⟩
      · exact ((h.matched hij hlt).right_unique (h'.matched hij' hlt')).symm
      · rw [hopening] at hclosing'; cases hclosing'
    · rcases h'.ends i j' hij' with ⟨-, k', hopening', -⟩ | ⟨hlt', -⟩
      · rw [hclosing] at hopening'; cases hopening'
      · exact ((h.matched (h.involutive i j hij) hlt).left_unique
          (h'.matched (h'.involutive i j' hij') hlt')).symm
  funext i
  cases hi : m i with
  | some j => exact (hle h h' i j hi).symm
  | none =>
    cases hi' : m' i with
    | none => rfl
    | some j =>
      rw [hle h' h i j hi'] at hi
      cases hi

/-! ## Reading with a stack -/

section Reading

variable {ι : Type} [DecidableEq ι]

/-- Reading a sequence with the kinds of the open brackets on a stack. -/
def closes : List ι → List (Symbol ι) → Bool
  | stack, [] => stack.isEmpty
  | stack, .other :: l => closes stack l
  | stack, .opening k :: l => closes (k :: stack) l
  | [], .closing _ :: _ => false
  | k :: stack, .closing k' :: l => k == k' && closes stack l

/-- The sequences that close the brackets on a stack. -/
inductive Below : List ι → List (Symbol ι) → Prop
  | bottom {l : List (Symbol ι)} : Nested l → Below [] l
  | closing {stack : List ι} {inner rest : List (Symbol ι)} (k : ι) : Nested inner →
      Below stack rest → Below (k :: stack) (inner ++ .closing k :: rest)

theorem Nested.closes_append {a : List (Symbol ι)} (h : Nested a) (stack : List ι)
    (r : List (Symbol ι)) : closes stack (a ++ r) = closes stack r := by
  induction h generalizing stack r with
  | nil => rfl
  | other _ ih =>
    rw [List.cons_append, closes]
    exact ih stack r
  | span k _ _ ihinner ihrest =>
    rw [List.cons_append, closes, List.append_assoc, ihinner, List.cons_append, closes,
      BEq.rfl, Bool.true_and, ihrest]

omit [DecidableEq ι] in
theorem Below.append_left {a l : List (Symbol ι)} {stack : List ι} (ha : Nested a)
    (h : Below stack l) : Below stack (a ++ l) := by
  cases h with
  | bottom hl => exact .bottom (ha.append hl)
  | closing k hinner hrest =>
    rw [← List.append_assoc]
    exact .closing k (ha.append hinner) hrest

theorem below_of_closes {stack : List ι} {l : List (Symbol ι)} (h : closes stack l = true) :
    Below stack l := by
  fun_induction closes stack l with
  | case1 stack =>
    obtain rfl := List.isEmpty_iff.mp h
    exact .bottom .nil
  | case2 stack l ih => exact Below.append_left (.other .nil) (ih h)
  | case3 stack k l ih =>
    cases ih h with
    | closing k hinner hrest =>
      cases hrest with
      | bottom hl => exact .bottom (.span k hinner hl)
      | closing k' hinner' hrest' =>
        have hspan := Below.closing k' (.span k hinner hinner') hrest'
        rwa [List.cons_append, List.append_assoc, List.cons_append] at hspan
  | case4 => cases h
  | case5 k stack k' l ih =>
    rw [Bool.and_eq_true, beq_iff_eq] at h
    obtain ⟨rfl, hl⟩ := h
    exact .closing k .nil (ih hl)

/-- A sequence is nested when it can be read with a stack. -/
theorem nested_iff_closes {l : List (Symbol ι)} : Nested l ↔ closes [] l = true := by
  refine ⟨fun h => ?_, fun h => ?_⟩
  · have hread := h.closes_append [] []
    rw [List.append_nil] at hread
    exact hread
  · cases below_of_closes h with
    | bottom hl => exact hl

def Symbol.isBracket : Symbol ι → Bool
  | .other => false
  | _ => true

theorem closes_filter (stack : List ι) (l : List (Symbol ι)) :
    closes stack (l.filter Symbol.isBracket) = closes stack l := by
  fun_induction closes stack l with
  | case1 stack => rfl
  | case2 stack l ih => exact ih
  | case3 stack k l ih => exact ih
  | case4 k l => rfl
  | case5 k stack k' l ih =>
    rw [List.filter_cons_of_pos rfl, closes, ih]

/-- Only the brackets decide whether a sequence is nested. -/
theorem nested_congr {l l' : List (Symbol ι)}
    (h : l.filter Symbol.isBracket = l'.filter Symbol.isBracket) : Nested l ↔ Nested l' := by
  rw [nested_iff_closes, nested_iff_closes, ← closes_filter, h, closes_filter]

theorem filter_map_only (k : ι) (l : List (Symbol ι)) :
    (l.map (only k)).filter Symbol.isBracket =
      ((l.filter Symbol.isBracket).map (only k)).filter Symbol.isBracket := by
  induction l with
  | nil => rfl
  | cons s l ih =>
    cases s with
    | other => exact ih
    | opening k' =>
      rw [List.map_cons, List.filter_cons, ih, List.filter_cons_of_pos rfl, List.map_cons,
        List.filter_cons]
    | closing k' =>
      rw [List.map_cons, List.filter_cons, ih, List.filter_cons_of_pos rfl, List.map_cons,
        List.filter_cons]

/-- So do those of one kind alone. -/
theorem nested_only_congr {l l' : List (Symbol ι)}
    (h : l.filter Symbol.isBracket = l'.filter Symbol.isBracket) (k : ι) :
    Nested (l.map (only k)) ↔ Nested (l'.map (only k)) :=
  nested_congr (by rw [filter_map_only, h, ← filter_map_only])

end Reading

end Zrm.Brackets
