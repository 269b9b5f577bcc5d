import Zrm.Core.Brackets
import Zrm.Core.Dict
import Zrm.L6Tools.RustLexer

/-!
# Delimiter matching (`tools/rust_complexity.py`)

`_delimiter_pairs` keeps one stack for each kind of delimiter. So it accepts the token
sequences that are balanced in each kind alone, and a sequence whose spans of different
kinds cross passes.

* `delimiterPairs_eq_ok`: what it accepts, and the pairs it returns.
* `delimiterPairs_exact`: where that is the nesting across all kinds.
-/
namespace Zrm.L6.RustComplexity

open Result Brackets

/-- mirrors tools/rust_complexity.py:70-76 -/
structure Token where
  value : String
  offset : Nat
  line : Nat
  isIdentifier : Bool
  deriving DecidableEq

inductive Delimiter
  | round | square | brace
  deriving DecidableEq

/-- The keys of `stacks` and of `opening_for`. -/
def symbolOf (value : String) : Symbol Delimiter :=
  if value = "(" then .opening .round
  else if value = "[" then .opening .square
  else if value = "\x7b" then .opening .brace
  else if value = ")" then .closing .round
  else if value = "]" then .closing .square
  else if value = "\x7d" then .closing .brace
  else .other

/-- The delimiters among the tokens. -/
def symbols (tokens : List Token) : List (Symbol Delimiter) :=
  tokens.map fun token => symbolOf token.value

/-- The local variables: a stack of indices for each kind, its top first, and the result. -/
structure Matcher where
  stackOf : Delimiter → List Nat
  pairs : Dict Nat Nat

def Matcher.start : Matcher := ⟨fun _ => [], Dict.empty⟩

/-- `stacks[k] = stack` -/
def Matcher.setStack (s : Matcher) (k : Delimiter) (stack : List Nat) : Matcher :=
  { s with stackOf := Function.update s.stackOf k stack }

/-- `pairs[i] = j` and `pairs[j] = i` -/
def Matcher.pair (s : Matcher) (i j : Nat) : Matcher :=
  { s with pairs := (s.pairs.set i j).set j i }

@[simp] theorem setStack_self (s : Matcher) (k : Delimiter) (stack : List Nat) :
    (s.setStack k stack).stackOf k = stack := by
  simp [Matcher.setStack]

theorem setStack_ne (s : Matcher) {k k' : Delimiter} (h : k' ≠ k) (stack : List Nat) :
    (s.setStack k stack).stackOf k' = s.stackOf k' := by
  simp [Matcher.setStack, h]

@[simp] theorem setStack_pairs (s : Matcher) (k : Delimiter) (stack : List Nat) :
    (s.setStack k stack).pairs = s.pairs := rfl

@[simp] theorem pair_stackOf (s : Matcher) (i j : Nat) : (s.pair i j).stackOf = s.stackOf := rfl

theorem pair_get? (s : Matcher) (i j a : Nat) : (s.pair i j).pairs.get? a =
    if a = j then some i else if a = i then some j else s.pairs.get? a := by
  rw [Matcher.pair, Dict.get?_set, Dict.get?_set]

/-- `f"{problem} Rust delimiter {value!r} at line {line}"` -/
def delimiterError (problem : String) (token : Token) : ComplexityError :=
  ⟨problem ++ " Rust delimiter '" ++ token.value ++ "' at line " ++ toString token.line⟩

/-- The loop body of `_delimiter_pairs`. -/
def matchToken (s : Matcher) (index : Nat) (token : Token) : Except ComplexityError Matcher :=
  match symbolOf token.value with
  | .opening k => .ok (s.setStack k (index :: s.stackOf k))
  | .closing k =>
    match s.stackOf k with
    | [] => .error (delimiterError "unmatched" token)
    | openingIndex :: stack => .ok ((s.setStack k stack).pair openingIndex index)
  | .other => .ok s

/-- The loop of `_delimiter_pairs`. -/
def matchTokens : Nat → List Token → Matcher → Except ComplexityError Matcher
  | _, [], s => .ok s
  | index, token :: tokens, s => do
    let s ← matchToken s index token
    matchTokens (index + 1) tokens s

/-- `[tokens[index] for stack in stacks.values() for index in stack]` -/
def unclosed (tokens : List Token) (stackOf : Delimiter → List Nat) : List Token :=
  [Delimiter.round, .square, .brace].flatMap fun k =>
    (stackOf k).reverse.filterMap fun index => tokens[index]?

/-- `min(first :: rest, key=lambda token: token.offset)` -/
def minByOffset (first : Token) (rest : List Token) : Token :=
  rest.foldl (fun best token => if token.offset < best.offset then token else best) first

/-- mirrors tools/rust_complexity.py:339-359 -/
def delimiterPairs (tokens : List Token) : Except ComplexityError (Dict Nat Nat) := do
  let s ← matchTokens 0 tokens .start
  match unclosed tokens s.stackOf with
  | [] => return s.pairs
  | first :: rest => .error (delimiterError "unclosed" (minByOffset first rest))

/-! ## What the loop keeps -/

/-- After `n` tokens: each stack holds what is open in its kind alone, and the pairs are
the spans that ended. -/
structure Matching (l : List (Symbol Delimiter)) (n : Nat) (s : Matcher) : Prop where
  pending : ∀ k, Pending (l.map (only k)) n (s.stackOf k)
  pairs : ∀ i j, s.pairs.get? i = some j ↔
    MatchedAlone l i j ∧ j < n ∨ MatchedAlone l j i ∧ i < n
  opened : ∀ i k, i < n → l[i]? = some (.opening k) →
    i ∈ s.stackOf k ∨ ∃ j, j < n ∧ MatchedAlone l i j
  closed : ∀ j k, j < n → l[j]? = some (.closing k) → ∃ i, MatchedAlone l i j

variable {l : List (Symbol Delimiter)} {n : Nat} {s s' : Matcher} {token : Token}

theorem matching_start (l : List (Symbol Delimiter)) : Matching l 0 .start where
  pending k := .bottom .nil
  pairs i j := by simp [Matcher.start, Dict.get?, Dict.empty]
  opened i k hi := by omega
  closed j k hj := by omega

/-- No span ends where no bracket closes. -/
theorem matchedAlone_lt_succ (hn : ∀ k, l[n]? ≠ some (.closing k)) {i j : Nat} :
    MatchedAlone l i j ∧ j < n + 1 ↔ MatchedAlone l i j ∧ j < n := by
  apply and_congr_right
  intro hm
  have hne : j ≠ n := by
    intro heq
    obtain ⟨k, -, hclosing⟩ := hm.ends
    exact hn k (heq ▸ hclosing)
  omega

/-- Where a bracket closes, one span ends. -/
theorem matchedAlone_lt_succ_of_span {i : Nat} (h : MatchedAlone l i n) {a b : Nat} :
    MatchedAlone l a b ∧ b < n + 1 ↔ MatchedAlone l a b ∧ b < n ∨ a = i ∧ b = n := by
  refine ⟨fun hm => ?_, fun hm => ?_⟩
  · obtain ⟨hm, hb⟩ := hm
    rcases Nat.lt_or_ge b n with hlt | hge
    · exact .inl ⟨hm, hlt⟩
    · obtain rfl : b = n := by omega
      exact .inr ⟨hm.left_unique h, rfl⟩
  · rcases hm with ⟨hm, hb⟩ | ⟨rfl, rfl⟩
    · exact ⟨hm, by omega⟩
    · exact ⟨h, by omega⟩

/-- Other symbols stand elsewhere. -/
theorem lt_of_lt_succ {i : Nat} {x y : Symbol Delimiter} (hn : l[n]? = some x) (hi : l[i]? = some y)
    (hxy : x ≠ y) (hlt : i < n + 1) : i < n := by
  have hne : i ≠ n := by
    intro heq
    rw [heq, hn, Option.some.injEq] at hi
    exact hxy hi
  omega

theorem Matching.other (h : Matching l n s) (hn : l[n]? = some .other) : Matching l (n + 1) s where
  pending k := (h.pending k).other (by rw [List.getElem?_map, hn]; rfl)
  pairs i j := by
    have hclosing : ∀ k, l[n]? ≠ some (.closing k) := by simp [hn]
    rw [h.pairs, matchedAlone_lt_succ hclosing, matchedAlone_lt_succ hclosing]
  opened i k hi hopening := by
    rcases h.opened i k (lt_of_lt_succ hn hopening nofun hi) hopening with hmem | ⟨j, hj, hm⟩
    · exact .inl hmem
    · exact .inr ⟨j, by omega, hm⟩
  closed j k hj hclosing := h.closed j k (lt_of_lt_succ hn hclosing nofun hj) hclosing

/-- A bracket of one kind is no bracket of another. -/
theorem Matching.pending_ne {k k' : Delimiter} (h : Matching l n s)
    (hn : l[n]? = some (.opening k) ∨ l[n]? = some (.closing k)) (hk : k' ≠ k) :
    Pending (l.map (only k')) (n + 1) (s.stackOf k') := by
  refine (h.pending k').other ?_
  rcases hn with hn | hn <;> rw [List.getElem?_map, hn, Option.map_some, only, if_neg (Ne.symm hk)]

theorem Matching.opening {k : Delimiter} (h : Matching l n s) (hn : l[n]? = some (.opening k)) :
    Matching l (n + 1) (s.setStack k (n :: s.stackOf k)) where
  pending k' := by
    by_cases hk : k' = k
    · subst hk
      rw [setStack_self]
      exact (h.pending k').opening (getElem?_only_opening.mpr ⟨rfl, hn⟩)
    · rw [setStack_ne s hk]
      exact h.pending_ne (.inl hn) hk
  pairs i j := by
    have hclosing : ∀ k, l[n]? ≠ some (.closing k) := by simp [hn]
    rw [setStack_pairs, h.pairs, matchedAlone_lt_succ hclosing, matchedAlone_lt_succ hclosing]
  opened i k' hi hopening := by
    by_cases hin : i = n
    · rw [hin, hn] at hopening
      cases hopening
      rw [setStack_self, hin]
      exact .inl List.mem_cons_self
    · rcases h.opened i k' (by omega) hopening with hmem | ⟨j, hj, hm⟩
      · left
        by_cases hk : k' = k
        · subst hk
          rw [setStack_self]
          exact List.mem_cons_of_mem n hmem
        · rwa [setStack_ne s hk]
      · exact .inr ⟨j, by omega, hm⟩
  closed j k' hj hclosing := h.closed j k' (lt_of_lt_succ hn hclosing nofun hj) hclosing

/-- The span that ends at a closing bracket begins on top of the stack. -/
theorem Matching.span {k : Delimiter} {i : Nat} {stack : List Nat} (h : Matching l n s)
    (hn : l[n]? = some (.closing k)) (hstack : s.stackOf k = i :: stack) :
    l[i]? = some (.opening k) ∧ MatchedAlone l i n ∧ Pending (l.map (only k)) (n + 1) stack := by
  have hpending := h.pending k
  rw [hstack] at hpending
  obtain ⟨-, k', honly⟩ := hpending.mem List.mem_cons_self
  obtain ⟨rfl, hopening⟩ := getElem?_only_opening.mp honly
  obtain ⟨hmatched, hrest⟩ := hpending.closing (getElem?_only_opening.mpr ⟨rfl, hopening⟩)
    (getElem?_only_closing.mpr ⟨rfl, hn⟩)
  exact ⟨hopening, ⟨k', hmatched⟩, hrest⟩

/-- The pairs after a span ended. -/
theorem Matching.pair_iff {k : Delimiter} {i : Nat} {stack : List Nat} (h : Matching l n s)
    (hopening : l[i]? = some (.opening k)) (hspan : MatchedAlone l i n) (a b : Nat) :
    ((s.setStack k stack).pair i n).pairs.get? a = some b ↔
      MatchedAlone l a b ∧ b < n + 1 ∨ MatchedAlone l b a ∧ a < n + 1 := by
  have hlt := hspan.lt
  rw [matchedAlone_lt_succ_of_span hspan, matchedAlone_lt_succ_of_span hspan, pair_get?, setStack_pairs]
  by_cases han : a = n
  · have hnone : ¬ (MatchedAlone l b a ∧ a < n) := fun hm => by omega
    have hnone' : ¬ (MatchedAlone l a b ∧ b < n) := fun hm => by
      have hab := hm.1.lt
      omega
    rw [if_pos han]
    grind
  · rw [if_neg han]
    by_cases hai : a = i
    · have hnone : ¬ (MatchedAlone l a b ∧ b < n) := fun hm => by
        have hbn := (hai ▸ hm.1).right_unique hspan
        omega
      have hnone' : ¬ (MatchedAlone l b a ∧ a < n) := fun hm => by
        obtain ⟨k, -, hclose⟩ := hm.1.ends
        rw [hai, hopening] at hclose
        cases hclose
      rw [if_pos hai]
      grind
    · rw [if_neg hai, h.pairs]
      grind

theorem Matching.closing {k : Delimiter} {i : Nat} {stack : List Nat} (h : Matching l n s)
    (hn : l[n]? = some (.closing k)) (hstack : s.stackOf k = i :: stack) :
    Matching l (n + 1) ((s.setStack k stack).pair i n) := by
  obtain ⟨hopening, hspan, hrest⟩ := h.span hn hstack
  refine ⟨fun k' => ?_, h.pair_iff hopening hspan, fun a k' ha hopen => ?_, fun b k' hb hclose => ?_⟩
  · by_cases hk : k' = k
    · subst hk
      rwa [pair_stackOf, setStack_self]
    · rw [pair_stackOf, setStack_ne s hk]
      exact h.pending_ne (.inr hn) hk
  · rcases h.opened a k' (lt_of_lt_succ hn hopen nofun ha) hopen with hmem | ⟨j, hj, hm⟩
    · by_cases hk : k' = k
      · subst hk
        rw [pair_stackOf, setStack_self]
        rw [hstack] at hmem
        rcases List.mem_cons.mp hmem with rfl | hmem
        · exact .inr ⟨n, by omega, hspan⟩
        · exact .inl hmem
      · rw [pair_stackOf, setStack_ne s hk]
        exact .inl hmem
    · exact .inr ⟨j, by omega, hm⟩
  · rcases Nat.lt_or_ge b n with hlt | hge
    · exact h.closed b k' hlt hclose
    · obtain rfl : b = n := by omega
      exact ⟨i, hspan⟩

/-! ## Runs -/

/-- One turn: it keeps the invariant, and it raises only where a kind is not nested. -/
theorem matchToken_spec (h : Matching l n s) (hn : l[n]? = some (symbolOf token.value)) :
    (∀ s', matchToken s n token = .ok s' → Matching l (n + 1) s') ∧
    ((∀ k, Nested (l.map (only k))) → ∃ s', matchToken s n token = .ok s') := by
  unfold matchToken
  cases hsymbol : symbolOf token.value with
  | other =>
    rw [hsymbol] at hn
    refine ⟨fun s' hs' => ?_, fun _ => ⟨s, rfl⟩⟩
    cases hs'
    exact h.other hn
  | opening k =>
    rw [hsymbol] at hn
    refine ⟨fun s' hs' => ?_, fun _ => ⟨_, rfl⟩⟩
    cases hs'
    exact h.opening hn
  | closing k =>
    rw [hsymbol] at hn
    simp only
    cases hstack : s.stackOf k with
    | nil =>
      refine ⟨nofun, fun hnested => ?_⟩
      have hclosing : (l.map (only k))[n]? = some (.closing k) := getElem?_only_closing.mpr ⟨rfl, hn⟩
      exact absurd hstack ((h.pending k).ne_nil (hnested k) hclosing)
    | cons i stack =>
      refine ⟨fun s' hs' => ?_, fun _ => ⟨_, rfl⟩⟩
      cases hs'
      exact h.closing hn hstack

theorem matchTokens_spec (tokens : List Token) {before rest : List Token}
    (htokens : tokens = before ++ rest) (h : Matching (symbols tokens) before.length s) :
    (∀ s', matchTokens before.length rest s = .ok s' →
      Matching (symbols tokens) (symbols tokens).length s') ∧
    ((∀ k, Nested ((symbols tokens).map (only k))) →
      ∃ s', matchTokens before.length rest s = .ok s') := by
  induction rest generalizing before s with
  | nil =>
    refine ⟨fun s' hs' => ?_, fun _ => ⟨s, rfl⟩⟩
    cases hs'
    have hlength : (symbols tokens).length = before.length := by simp [symbols, htokens]
    rwa [hlength]
  | cons token rest ih =>
    have hn : (symbols tokens)[before.length]? = some (symbolOf token.value) := by
      simp [symbols, htokens]
    obtain ⟨hkeep, hreturn⟩ := matchToken_spec h hn
    have hnext : ∀ s', matchToken s before.length token = .ok s' → _ := fun s' hs' =>
      @ih _ (before ++ [token]) (by simp [htokens])
        (by rw [List.length_append, List.length_singleton]; exact hkeep s' hs')
    simp only [List.length_append, List.length_singleton] at hnext
    refine ⟨fun s' hs' => ?_, fun hnested => ?_⟩
    · obtain ⟨t, ht, hrest⟩ := bind_eq_ok.mp hs'
      exact (hnext t ht).1 s' hrest
    · obtain ⟨t, ht⟩ := hreturn hnested
      obtain ⟨s', hs'⟩ := (hnext t ht).2 hnested
      exact ⟨s', bind_eq_ok.mpr ⟨t, ht, hs'⟩⟩

theorem unclosed_eq_nil {tokens : List Token}
    (h : Matching (symbols tokens) (symbols tokens).length s) :
    unclosed tokens s.stackOf = [] ↔ ∀ k, s.stackOf k = [] := by
  have hlength : (symbols tokens).length = tokens.length := by simp [symbols]
  have hnone : ∀ k, ((s.stackOf k).reverse.filterMap fun index => tokens[index]?) = [] ↔
      s.stackOf k = [] := by
    intro k
    refine ⟨fun hempty => ?_, fun hempty => by rw [hempty]; rfl⟩
    rw [List.filterMap_eq_nil_iff] at hempty
    refine List.eq_nil_iff_forall_not_mem.mpr fun i hi => ?_
    obtain ⟨hlt, -⟩ := (h.pending k).mem hi
    have hget := hempty i (List.mem_reverse.mpr hi)
    rw [List.getElem?_eq_none_iff] at hget
    omega
  unfold unclosed
  rw [List.flatMap_eq_nil_iff]
  refine ⟨fun hall k => (hnone k).mp (hall k (by cases k <;> decide)), fun hall k _ => ?_⟩
  exact (hnone k).mpr (hall k)

/-- At the end, nothing of a kind is open if and only if the kind is nested. -/
theorem Matching.stack_eq_nil_iff (h : Matching l l.length s) (k : Delimiter) :
    s.stackOf k = [] ↔ Nested (l.map (only k)) := by
  have hpending := h.pending k
  rw [← List.length_map (only k)] at hpending
  exact hpending.end_iff

/-- A run that returns ends with nothing open. -/
theorem exists_matching_of_ok {tokens : List Token} {pairs : Dict Nat Nat} (h : delimiterPairs tokens = .ok pairs) :
    ∃ s, Matching (symbols tokens) (symbols tokens).length s ∧ (∀ k, s.stackOf k = []) ∧ s.pairs = pairs := by
  obtain ⟨hkeep, -⟩ := @matchTokens_spec .start tokens [] _ rfl (matching_start _)
  obtain ⟨s, hs, hrest⟩ := bind_eq_ok.mp h
  have hmatching := hkeep s hs
  cases hunclosed : unclosed tokens s.stackOf with
  | nil =>
    rw [hunclosed] at hrest
    cases hrest
    exact ⟨s, hmatching, (unclosed_eq_nil hmatching).mp hunclosed, rfl⟩
  | cons first rest =>
    rw [hunclosed] at hrest
    cases hrest

/-- A run over tokens whose kinds are all nested returns. -/
theorem exists_ok_of_nested {tokens : List Token} (h : ∀ k, Nested ((symbols tokens).map (only k))) :
    ∃ pairs, delimiterPairs tokens = .ok pairs := by
  obtain ⟨hkeep, hreturn⟩ := @matchTokens_spec .start tokens [] _ rfl (matching_start _)
  obtain ⟨s, hs⟩ := hreturn h
  have hmatching := hkeep s hs
  refine ⟨s.pairs, bind_eq_ok.mpr ⟨s, hs, ?_⟩⟩
  rw [(unclosed_eq_nil hmatching).mpr fun k => (hmatching.stack_eq_nil_iff k).mpr (h k)]
  rfl

theorem Matching.pairs_end (h : Matching l l.length s) (i j : Nat) :
    s.pairs.get? i = some j ↔ MatchedAlone l i j ∨ MatchedAlone l j i := by
  have hlt : ∀ {i j}, MatchedAlone l i j → j < l.length := by
    intro i j hm
    obtain ⟨k, -, hclosing⟩ := hm.ends
    exact (List.getElem?_eq_some_iff.mp hclosing).1
  rw [h.pairs]
  refine ⟨fun hm => hm.imp And.left And.left, fun hm => ?_⟩
  exact hm.imp (fun hm => ⟨hm, hlt hm⟩) fun hm => ⟨hm, hlt hm⟩

/-- With nothing open, every bracket has its partner. -/
theorem Matching.total (h : Matching l l.length s) (hempty : ∀ k, s.stackOf k = []) {i : Nat} {k : Delimiter}
    (hi : l[i]? = some (.opening k) ∨ l[i]? = some (.closing k)) : ∃ j, s.pairs.get? i = some j := by
  rcases hi with hopening | hclosing
  · have hlt := (List.getElem?_eq_some_iff.mp hopening).1
    rcases h.opened i k hlt hopening with hmem | ⟨j, hj, hm⟩
    · rw [hempty k] at hmem
      cases hmem
    · exact ⟨j, (h.pairs i j).mpr (.inl ⟨hm, hj⟩)⟩
  · have hlt := (List.getElem?_eq_some_iff.mp hclosing).1
    obtain ⟨j, hm⟩ := h.closed i k hlt hclosing
    exact ⟨j, (h.pairs i j).mpr (.inr ⟨hm, hlt⟩)⟩

/-- What `_delimiter_pairs` accepts, and what it returns. -/
theorem delimiterPairs_eq_ok (tokens : List Token) :
    ((∃ pairs, delimiterPairs tokens = .ok pairs) ↔
      ∀ k, Nested ((symbols tokens).map (only k))) ∧
    ∀ pairs, delimiterPairs tokens = .ok pairs →
      (∀ i j, pairs.get? i = some j ↔
        MatchedAlone (symbols tokens) i j ∨ MatchedAlone (symbols tokens) j i) ∧
      ∀ i k, (symbols tokens)[i]? = some (.opening k) ∨ (symbols tokens)[i]? = some (.closing k) →
        ∃ j, pairs.get? i = some j := by
  refine ⟨⟨fun h k => ?_, exists_ok_of_nested⟩, fun pairs hpairs => ?_⟩
  · obtain ⟨pairs, hpairs⟩ := h
    obtain ⟨s, hmatching, hempty, -⟩ := exists_matching_of_ok hpairs
    exact (hmatching.stack_eq_nil_iff k).mp (hempty k)
  · obtain ⟨s, hmatching, hempty, rfl⟩ := exists_matching_of_ok hpairs
    exact ⟨hmatching.pairs_end, fun i k hi => hmatching.total hempty hi⟩

/-! ## Nesting across all kinds -/

/-- Delimiters are accepted exactly where they nest, and paired up the one way there is. -/
def NestsExactly (tokens : List Token) : Prop :=
  ((∃ pairs, delimiterPairs tokens = .ok pairs) ↔ Nested (symbols tokens)) ∧
  ∀ pairs, delimiterPairs tokens = .ok pairs →
    Nesting (symbols tokens) pairs.get? ∧ ∀ m, Nesting (symbols tokens) m → m = pairs.get?

theorem nesting_of_not_crossing {tokens : List Token} {pairs : Dict Nat Nat}
    (hpairs : delimiterPairs tokens = .ok pairs) (h : ¬ Crossing (symbols tokens)) :
    Nesting (symbols tokens) pairs.get? := by
  obtain ⟨hget, htotal⟩ := (delimiterPairs_eq_ok tokens).2 pairs hpairs
  have hforward : ∀ i j, pairs.get? i = some j → i < j → MatchedAlone (symbols tokens) i j := by
    intro i j hij hlt
    rcases (hget i j).mp hij with hm | hm
    · exact hm
    · exact absurd hm.lt (by omega)
  refine ⟨htotal, fun i j hij => ?_, fun i j hij => ?_, fun i j i' j' hij hij' hlt hlt' hii' => ?_⟩
  · exact (hget j i).mpr ((hget i j).mp hij).symm
  · rcases (hget i j).mp hij with hm | hm
    · exact .inl ⟨hm.lt, hm.ends⟩
    · exact .inr ⟨hm.lt, hm.ends⟩
  · have hm := hforward i j hij hlt
    have hm' := hforward i' j' hij' hlt'
    have hne : j ≠ i' := by
      intro heq
      obtain ⟨k, -, hclosing⟩ := hm.ends
      obtain ⟨k', hopening, -⟩ := hm'.ends
      rw [heq, hopening] at hclosing
      cases hclosing
    have hne' : j ≠ j' := by
      intro heq
      exact absurd (hm.left_unique (heq ▸ hm')) (by omega)
    by_contra hnot
    exact h ⟨i, j, i', j', hm, hm', hii', by omega, by omega⟩

/-- **Delimiter matching.** It is the nesting across all kinds, unless each kind is
balanced alone while two spans cross. -/
theorem delimiterPairs_exact (tokens : List Token) :
    NestsExactly tokens ↔
      ((∀ k, Nested ((symbols tokens).map (only k))) → ¬ Crossing (symbols tokens)) := by
  obtain ⟨haccept, hreturned⟩ := delimiterPairs_eq_ok tokens
  refine ⟨fun hclaim hnested hcrossing => ?_, fun h => ⟨⟨fun hok => ?_, fun hnested => ?_⟩, ?_⟩⟩
  · obtain ⟨pairs, hpairs⟩ := haccept.mpr hnested
    obtain ⟨hnesting, -⟩ := hclaim.2 pairs hpairs
    obtain ⟨hget, -⟩ := hreturned pairs hpairs
    obtain ⟨i, j, i', j', hm, hm', hii', hi'j, hjj'⟩ := hcrossing
    have hlaminar := hnesting.laminar i j i' j' ((hget i j).mpr (.inl hm))
      ((hget i' j').mpr (.inl hm')) hm.lt hm'.lt hii'
    omega
  · obtain ⟨pairs, hpairs⟩ := hok
    exact (nesting_of_not_crossing hpairs (h (haccept.mp ⟨pairs, hpairs⟩))).nested
  · exact haccept.mpr hnested.only
  · intro pairs hpairs
    have hnesting := nesting_of_not_crossing hpairs (h (haccept.mp ⟨pairs, hpairs⟩))
    exact ⟨hnesting, fun m hm => hm.unique hnesting⟩

/-- `( [ ) ]` -/
def interleaved : List Token :=
  [⟨"(", 0, 1, false⟩, ⟨"[", 1, 1, false⟩, ⟨")", 2, 1, false⟩, ⟨"]", 3, 1, false⟩]

/-- The interleaved brackets are accepted, though they do not nest. -/
theorem delimiterPairs_interleaved :
    (∃ pairs, delimiterPairs interleaved = .ok pairs) ∧ ¬ Nested (symbols interleaved) ∧
      ¬ NestsExactly interleaved := by
  have hok : ∃ pairs, delimiterPairs interleaved = .ok pairs := ⟨_, rfl⟩
  have hnot : ¬ Nested (symbols interleaved) := by
    intro h
    obtain ⟨inner, rest, hsplit, hinner, -⟩ := h.of_opening
    -- only the third symbol is a `)`
    match inner, hsplit with
    | [], hsplit => cases hsplit
    | [s], hsplit =>
      cases hsplit
      exact absurd hinner.height_eq (by decide)
    | [s, s'], hsplit => cases hsplit
    | s :: s' :: t :: inner, hsplit => simp [symbolOf] at hsplit
  exact ⟨hok, hnot, fun hclaim => hnot (hclaim.1.mp hok)⟩

end Zrm.L6.RustComplexity
