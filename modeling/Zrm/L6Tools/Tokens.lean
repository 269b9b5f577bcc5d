import Mathlib.Tactic.SplitIfs
import Zrm.Core.Regex
import Zrm.L6Tools.Delimiters

/-!
# Tokens (`tools/rust_complexity.py`)

`_tokens` runs one pattern over a cleaned source and reports what it matches, with offsets
and line numbers. What the pattern does not match is skipped.

* `matchAt_token`: the pattern matches the lexemes, each as long as it can.
* `tokens_exact`: the tokens are the lexemes from left to right.
* `symbols_tokens`: no bracket is skipped, and none hides in a longer token.
-/
namespace Zrm.L6.RustComplexity

open Brackets Regex Text

/-! ## The pattern -/

/-- `[A-Za-z_]` -/
def isIdentStart (c : Char) : Bool := c.isAlpha || c == '_'

/-- `[A-Za-z0-9_]` -/
def isIdentPart (c : Char) : Bool := c.isAlphanum || c == '_'

/-- `[0-9A-Fa-f_]` -/
def isHexPart (c : Char) : Bool :=
  c.isDigit || ('A' ≤ c && c ≤ 'F') || ('a' ≤ c && c ≤ 'f') || c == '_'

/-- `[0-9_]` -/
def isDecimalPart (c : Char) : Bool := c.isDigit || c == '_'

/-- `[xob]` -/
def isRadix (c : Char) : Bool := ['x', 'o', 'b'].contains c

/-- The class of single marks. -/
def isMark (c : Char) : Bool := "\x7b\x7d()[]<>;,!:&*=+-/?".toList.contains c

/-- `[A-Za-z_][A-Za-z0-9_]*` -/
def identRe : Re := .seq (.set isIdentStart) (.star (.set isIdentPart))

/-- `r#[A-Za-z_][A-Za-z0-9_]*` -/
def rawIdentRe : Re := .seq (.set (· == 'r')) (.seq (.set (· == '#')) identRe)

/-- `0[xob][0-9A-Fa-f_]+` -/
def radixRe : Re := .seq (.set (· == '0')) (.seq (.set isRadix) (.some isHexPart))

/-- `[0-9][0-9_]*` -/
def decimalRe : Re := .seq (.set Char.isDigit) (.star (.set isDecimalPart))

/-- `::|->|=>|&&|\|\|`: a mark of two characters -/
def pairRe : Char × Char → Re := fun c => .seq (.set (· == c.1)) (.seq (.set (· == c.2)) .eps)

def markPairs : List (Char × Char) := [(':', ':'), ('-', '>'), ('=', '>'), ('&', '&'), ('|', '|')]

/-- mirrors tools/rust_complexity.py:58-62 -/
def tokenPattern : Re :=
  .alt rawIdentRe <| .alt identRe <| .alt radixRe <| .alt decimalRe <|
    markPairs.foldr (fun c r => .alt (pairRe c) r) (.set isMark)

/-- `re.fullmatch(r"(?:r#)?[A-Za-z_][A-Za-z0-9_]*", value)` -/
def isIdentifierText (value : Str) : Bool := fullmatch value (.alt rawIdentRe identRe)

/-- The loop of `_tokens`. -/
def tokensFrom (cleanedSource : Str) : List Match → Nat → Nat → List Token
  | [], _, _ => []
  | m :: rest, previousEnd, line =>
    let line := line + (substring cleanedSource (previousEnd, m.start)).count '\n'
    let value := substring cleanedSource m.span
    { value := String.ofList value
      offset := m.start
      line
      isIdentifier := isIdentifierText value } :: tokensFrom cleanedSource rest m.stop line

/-- mirrors tools/rust_complexity.py:318-336 -/
def tokens (cleanedSource : Str) : List Token :=
  tokensFrom cleanedSource (scan cleanedSource tokenPattern) 0 1

example : (tokens "fn f(a: &r#type) -> 0x1Fu8\n\x7b\x7d".toList).map (fun t => (t.value, t.line)) =
    [("fn", 1), ("f", 1), ("(", 1), ("a", 1), (":", 1), ("&", 1), ("r#type", 1), (")", 1),
      ("->", 1), ("0x1F", 1), ("u8", 1), ("\x7b", 2), ("\x7d", 2)] := by
  decide +kernel

/-! ## Lexemes -/

variable {source : Str} {i j : Nat}

/-- `r#` and an identifier -/
def RawStart (source : Str) (i : Nat) : Prop :=
  source[i]? = some 'r' ∧ source[i + 1]? = some '#' ∧ (source[i + 2]?).any isIdentStart = true

/-- `0`, a radix and a digit -/
def RadixStart (source : Str) (i : Nat) : Prop :=
  source[i]? = some '0' ∧ (source[i + 1]?).any isRadix = true ∧ (source[i + 2]?).any isHexPart = true

def PairAt (source : Str) (i : Nat) : Prop :=
  ∃ c ∈ markPairs, source[i]? = some c.1 ∧ source[i + 1]? = some c.2

/-- The lexemes: what may stand from `i` up to `j`, and goes on as far as it can. -/
inductive TokenSpan (source : Str) (i : Nat) : Nat → Prop
  | raw {j : Nat} : RawStart source i → Stretch source isIdentPart (i + 3) j → TokenSpan source i j
  | ident {j : Nat} : ¬ RawStart source i → (source[i]?).any isIdentStart = true →
      Stretch source isIdentPart (i + 1) j → TokenSpan source i j
  | radix {j : Nat} : RadixStart source i → Stretch source isHexPart (i + 3) j → TokenSpan source i j
  | decimal {j : Nat} : ¬ RadixStart source i → (source[i]?).any Char.isDigit = true →
      Stretch source isDecimalPart (i + 1) j → TokenSpan source i j
  | pair : PairAt source i → TokenSpan source i (i + 2)
  | mark : ¬ PairAt source i → (source[i]?).any isMark = true → TokenSpan source i (i + 1)

theorem any_eq {c : Char} {o : Option Char} : o.any (· == c) = true ↔ o = some c := by
  cases o <;> simp

section First

variable {s e : State}

theorem identRe_some : (ends source identRe s).head? = some e ↔
    (source[s.pos]?).any isIdentStart = true ∧ Stretch source isIdentPart (s.pos + 1) e.pos ∧
      e.group = s.group := by
  rw [identRe, head?_seq_set_eq_some, head?_many_eq_some]

theorem identRe_none : (ends source identRe s).head? = none ↔
    ¬ (source[s.pos]?).any isIdentStart = true := by
  rw [identRe, head?_seq_set_eq_none]
  simp only [head?_many_ne_none, imp_false]

theorem rawIdentRe_some : (ends source rawIdentRe s).head? = some e ↔
    RawStart source s.pos ∧ Stretch source isIdentPart (s.pos + 3) e.pos ∧ e.group = s.group := by
  rw [rawIdentRe, head?_seq_set_eq_some, head?_seq_set_eq_some, identRe_some, any_eq, any_eq,
    RawStart, and_assoc, and_assoc]

theorem rawIdentRe_none : (ends source rawIdentRe s).head? = none ↔ ¬ RawStart source s.pos := by
  rw [rawIdentRe, head?_seq_set_eq_none, head?_seq_set_eq_none, identRe_none, any_eq, any_eq,
    RawStart, not_and, not_and]

theorem radixRe_some : (ends source radixRe s).head? = some e ↔
    RadixStart source s.pos ∧ Stretch source isHexPart (s.pos + 3) e.pos ∧ e.group = s.group := by
  rw [radixRe, Re.some, head?_seq_set_eq_some, head?_seq_set_eq_some, head?_seq_set_eq_some,
    head?_many_eq_some, any_eq, RadixStart, and_assoc, and_assoc]

theorem radixRe_none : (ends source radixRe s).head? = none ↔ ¬ RadixStart source s.pos := by
  rw [radixRe, Re.some, head?_seq_set_eq_none, head?_seq_set_eq_none, head?_seq_set_eq_none, any_eq,
    RadixStart, not_and, not_and]
  simp only [head?_many_ne_none, imp_false]

theorem decimalRe_some : (ends source decimalRe s).head? = some e ↔
    (source[s.pos]?).any Char.isDigit = true ∧ Stretch source isDecimalPart (s.pos + 1) e.pos ∧
      e.group = s.group := by
  rw [decimalRe, head?_seq_set_eq_some, head?_many_eq_some]

theorem decimalRe_none : (ends source decimalRe s).head? = none ↔
    ¬ (source[s.pos]?).any Char.isDigit = true := by
  rw [decimalRe, head?_seq_set_eq_none]
  simp only [head?_many_ne_none, imp_false]

theorem first_of_two {P Q E R : Prop} :
    P ∧ E ∨ ¬ P ∧ (Q ∧ E ∨ ¬ Q ∧ R) ↔ (P ∨ Q) ∧ E ∨ ¬ (P ∨ Q) ∧ R := by
  by_cases hP : P <;> by_cases hQ : Q <;> simp [hP, hQ]

/-- The marks of two characters come before those of one. -/
theorem pairs_some {t : Re} (l : List (Char × Char)) :
    (ends source (l.foldr (fun c r => .alt (pairRe c) r) t) s).head? = some e ↔
      (∃ c ∈ l, source[s.pos]? = some c.1 ∧ source[s.pos + 1]? = some c.2) ∧
          e = { s with pos := s.pos + 2 } ∨
        (¬ ∃ c ∈ l, source[s.pos]? = some c.1 ∧ source[s.pos + 1]? = some c.2) ∧
          (ends source t s).head? = some e := by
  induction l with
  | nil => simp
  | cons c l ih =>
    have hpair : (ends source (pairRe c) s).head? = some e ↔
        (source[s.pos]? = some c.1 ∧ source[s.pos + 1]? = some c.2) ∧
          e = { s with pos := s.pos + 2 } := by
      rw [pairRe, head?_seq_set_eq_some, head?_seq_set_eq_some, any_eq, any_eq, ends, and_assoc]
      simp [eq_comm]
    have hnone : (ends source (pairRe c) s).head? = none ↔
        ¬ (source[s.pos]? = some c.1 ∧ source[s.pos + 1]? = some c.2) := by
      rw [pairRe, head?_seq_set_eq_none, head?_seq_set_eq_none, any_eq, any_eq, ends]
      simp
    rw [List.foldr_cons, head?_alt, Option.or_eq_some_iff, hpair, hnone, ih]
    rw [List.exists_mem_cons_iff]
    exact first_of_two

theorem mark_some {p : Char → Bool} : (ends source (.set p) s).head? = some e ↔
    (source[s.pos]?).any p = true ∧ e = { s with pos := s.pos + 1 } := by
  rw [ends]
  by_cases hp : (source[s.pos]?).any p = true
  · rw [if_pos hp, List.head?_cons, Option.some.injEq, and_iff_right hp, eq_comm]
  · rw [if_neg hp, List.head?_nil]
    simp [hp]

end First

/-! ## Which alternative matches -/

theorem isMark_spec {c : Char} (h : isMark c = true) :
    isIdentStart c = false ∧ c.isDigit = false ∧ c ≠ '|' := by
  have hall : ("\x7b\x7d()[]<>;,!:&*=+-/?".toList.all fun c =>
      decide (isIdentStart c = false ∧ c.isDigit = false ∧ c ≠ '|')) = true := by decide +kernel
  exact of_decide_eq_true (List.all_eq_true.mp hall c (List.contains_iff_mem.mp h))

theorem isAlpha_iff {c : Char} : c.isAlpha = true ↔
    ('A'.val ≤ c.val ∧ c.val ≤ 'Z'.val) ∨ ('a'.val ≤ c.val ∧ c.val ≤ 'z'.val) := by
  have halpha : c.isAlpha = (decide ('A'.val ≤ c.val ∧ c.val ≤ 'Z'.val) ||
      (decide ('a'.val ≤ c.val) && decide (c.val ≤ 'z'.val))) := rfl
  simp only [halpha, Bool.or_eq_true, Bool.and_eq_true, decide_eq_true_eq]

theorem isDigit_spec {c : Char} (h : c.isDigit = true) : isIdentStart c = false := by
  have hne : c ≠ '_' := by
    intro hc
    rw [hc] at h
    exact absurd h (by decide)
  have halpha : ¬ c.isAlpha = true := by
    rw [isAlpha_iff]
    simp only [Char.isDigit] at h
    grind
  simp only [isIdentStart, Bool.or_eq_false_iff, Bool.not_eq_true] at halpha ⊢
  exact ⟨halpha, by simpa using hne⟩

theorem pairAt_spec (h : PairAt source i) :
    ∃ c, source[i]? = some c ∧ isIdentStart c = false ∧ c.isDigit = false := by
  have hall : ∀ c ∈ markPairs, isIdentStart c.1 = false ∧ c.1.isDigit = false := by decide
  obtain ⟨c, hc, hfirst, -⟩ := h
  exact ⟨c.1, hfirst, hall c hc⟩

/-- Where no letter stands, no identifier starts. -/
theorem not_identStart {c : Char} (h : source[i]? = some c) (hc : isIdentStart c = false) :
    ¬ RawStart source i ∧ ¬ (source[i]?).any isIdentStart = true := by
  refine ⟨fun hraw => ?_, by simp [h, hc]⟩
  rw [hraw.1, Option.some.injEq] at h
  rw [← h] at hc
  exact absurd hc (by decide)

theorem not_digitStart {c : Char} (h : source[i]? = some c) (hc : c.isDigit = false) :
    ¬ RadixStart source i ∧ ¬ (source[i]?).any Char.isDigit = true := by
  refine ⟨fun hradix => ?_, by simp [h, hc]⟩
  rw [hradix.1, Option.some.injEq] at h
  rw [← h] at hc
  exact absurd hc (by decide)

/-- The first match at a position is the token that stands there. -/
theorem first_token {s e : State} : (ends source tokenPattern s).head? = some e ↔
    TokenSpan source s.pos e.pos ∧ e.group = s.group := by
  have hends : ∀ k, e = { s with pos := s.pos + k } ↔ e.pos = s.pos + k ∧ e.group = s.group := by
    intro k
    cases e
    simp
  rw [tokenPattern, head?_alt, head?_alt, head?_alt, head?_alt, Option.or_eq_some_iff,
    Option.or_eq_some_iff, Option.or_eq_some_iff, Option.or_eq_some_iff, rawIdentRe_some,
    rawIdentRe_none, identRe_some, identRe_none, radixRe_some, radixRe_none, decimalRe_some,
    decimalRe_none, pairs_some, mark_some, hends, hends]
  refine ⟨fun h => ?_, fun h => ?_⟩
  · rcases h with ⟨hraw, hto, hg⟩ | ⟨hraw, ⟨hident, hto, hg⟩ | ⟨-, ⟨hradix, hto, hg⟩ |
      ⟨hradix, ⟨hdigit, hto, hg⟩ | ⟨-, ⟨hpair, hto, hg⟩ | ⟨hpair, hmark, hto, hg⟩⟩⟩⟩⟩
    · exact ⟨.raw hraw hto, hg⟩
    · exact ⟨.ident hraw hident hto, hg⟩
    · exact ⟨.radix hradix hto, hg⟩
    · exact ⟨.decimal hradix hdigit hto, hg⟩
    · exact ⟨hto ▸ .pair hpair, hg⟩
    · exact ⟨hto ▸ .mark hpair hmark, hg⟩
  · obtain ⟨hspan, hg⟩ := h
    generalize hto : e.pos = stop at hspan
    cases hspan with
    | raw hraw hstretch => exact .inl ⟨hraw, hstretch, hg⟩
    | ident hraw hident hstretch => exact .inr ⟨hraw, .inl ⟨hident, hstretch, hg⟩⟩
    | radix hradix hstretch =>
      obtain ⟨hraw, hident⟩ := not_identStart hradix.1 (by decide)
      exact .inr ⟨hraw, .inr ⟨hident, .inl ⟨hradix, hstretch, hg⟩⟩⟩
    | decimal hradix hdigit hstretch =>
      obtain ⟨c, hc, hdigit'⟩ := (Option.any_eq_true _ _).mp hdigit
      obtain ⟨hraw, hident⟩ := not_identStart hc (isDigit_spec hdigit')
      exact .inr ⟨hraw, .inr ⟨hident, .inr ⟨hradix, .inl ⟨hdigit, hstretch, hg⟩⟩⟩⟩
    | pair hpair =>
      obtain ⟨c, hc, hident, hdigit⟩ := pairAt_spec hpair
      obtain ⟨hraw, hident⟩ := not_identStart hc hident
      obtain ⟨hradix, hdigit⟩ := not_digitStart hc hdigit
      exact .inr ⟨hraw, .inr ⟨hident, .inr ⟨hradix, .inr ⟨hdigit, .inl ⟨hpair, rfl, hg⟩⟩⟩⟩⟩
    | mark hpair hmark =>
      obtain ⟨c, hc, hmark'⟩ := (Option.any_eq_true _ _).mp hmark
      obtain ⟨hident, hdigit, -⟩ := isMark_spec hmark'
      obtain ⟨hraw, hident⟩ := not_identStart hc hident
      obtain ⟨hradix, hdigit⟩ := not_digitStart hc hdigit
      exact .inr ⟨hraw, .inr ⟨hident, .inr ⟨hradix, .inr ⟨hdigit,
        .inr ⟨hpair, hmark, rfl, hg⟩⟩⟩⟩⟩

theorem matchAt_token {m : Match} : matchAt source tokenPattern i = some m ↔
    m.start = i ∧ TokenSpan source i m.stop ∧ m.group = none := by
  rw [matchAt, Option.map_eq_some_iff]
  refine ⟨fun h => ?_, fun h => ?_⟩
  · obtain ⟨e, he, rfl⟩ := h
    exact ⟨rfl, first_token.mp he⟩
  · obtain ⟨rfl, hspan, hgroup⟩ := h
    refine ⟨⟨m.stop, none⟩, first_token.mpr ⟨hspan, rfl⟩, ?_⟩
    cases m
    simp_all

theorem TokenSpan.matchAt (h : TokenSpan source i j) :
    matchAt source tokenPattern i = some ⟨i, j, none⟩ :=
  matchAt_token.mpr ⟨rfl, h, rfl⟩

theorem TokenSpan.lt (h : TokenSpan source i j) : i < j := by
  cases h with
  | raw _ hstretch => exact Nat.lt_of_lt_of_le (by omega) hstretch.1.1
  | ident _ _ hstretch => exact hstretch.1.1
  | radix _ hstretch => exact Nat.lt_of_lt_of_le (by omega) hstretch.1.1
  | decimal _ _ hstretch => exact hstretch.1.1
  | pair _ => omega
  | mark _ _ => omega

/-! ## The characters of a token -/

/-- A character of a token that is not a single mark. -/
def isPlain (c : Char) : Bool := isIdentPart c || ['#', ':', '-', '>', '=', '&', '|'].contains c

theorem isIdentPart_of_start {c : Char} (h : isIdentStart c = true) : isIdentPart c = true := by
  simp only [isIdentStart, isIdentPart, Char.isAlphanum] at *
  grind

theorem isIdentPart_of_hex {c : Char} (h : isHexPart c = true) : isIdentPart c = true := by
  simp only [isHexPart, isIdentPart, Char.isAlphanum, isAlpha_iff,
    Bool.or_eq_true, Bool.and_eq_true, decide_eq_true_eq] at *
  rcases h with ((h | h) | h) | h
  · exact .inl (.inr h)
  · have hupper : c ≤ 'Z' := Char.le_trans h.2 (by decide)
    exact .inl (.inl (.inl ⟨h.1, hupper⟩))
  · have hlower : c ≤ 'z' := Char.le_trans h.2 (by decide)
    exact .inl (.inl (.inr ⟨h.1, hlower⟩))
  · exact .inr h

theorem isIdentPart_of_decimal {c : Char} (h : isDecimalPart c = true) : isIdentPart c = true := by
  simp only [isDecimalPart, isIdentPart, Char.isAlphanum] at *
  grind

theorem isPlain_of_part {c : Char} (h : isIdentPart c = true) : isPlain c = true := by
  rw [isPlain, h, Bool.true_or]

theorem any_mono {p q : Char → Bool} (hpq : ∀ c, p c = true → q c = true) {o : Option Char}
    (h : o.any p = true) : o.any q = true := by
  cases o with
  | none => exact h
  | some c => exact hpq c h

/-- A token is a single mark, or plain throughout. -/
theorem TokenSpan.chars (h : TokenSpan source i j) :
    j = i + 1 ∧ (source[i]?).any isMark = true ∨ Run source isPlain i j := by
  have hrun : ∀ {p : Char → Bool} {k : Nat}, (∀ c, p c = true → isIdentPart c = true) →
      Run source p k j → Run source isPlain k j := fun hp hrun =>
    ⟨hrun.1, fun a ha hlt => any_mono (fun c hc => isPlain_of_part (hp c hc)) (hrun.2 a ha hlt)⟩
  have hcons : ∀ {k : Nat}, (source[k]?).any isPlain = true → Run source isPlain (k + 1) j →
      Run source isPlain k j := by
    intro k hk hrest
    refine ⟨by have := hrest.1; omega, fun a ha hlt => ?_⟩
    rcases Nat.eq_or_lt_of_le ha with rfl | hgt
    · exact hk
    · exact hrest.2 a hgt hlt
  cases h with
  | raw hraw hstretch =>
    obtain ⟨hr, hhash, hstart⟩ := hraw
    refine .inr (hcons (by rw [hr]; rfl) (hcons (by rw [hhash]; rfl) (hcons ?_ ?_)))
    · exact any_mono (fun c hc => isPlain_of_part (isIdentPart_of_start hc)) hstart
    · exact hrun (fun _ hc => hc) hstretch.1
  | ident _ hstart hstretch =>
    refine .inr (hcons ?_ (hrun (fun _ hc => hc) hstretch.1))
    exact any_mono (fun c hc => isPlain_of_part (isIdentPart_of_start hc)) hstart
  | radix hradix hstretch =>
    obtain ⟨hzero, hx, hhex⟩ := hradix
    refine .inr (hcons (by rw [hzero]; rfl) (hcons ?_ (hcons ?_ ?_)))
    · refine any_mono (fun c hc => ?_) hx
      have hall : (['x', 'o', 'b'].all isPlain) = true := by decide
      exact List.all_eq_true.mp hall c (List.contains_iff_mem.mp hc)
    · exact any_mono (fun c hc => isPlain_of_part (isIdentPart_of_hex hc)) hhex
    · exact hrun (fun _ => isIdentPart_of_hex) hstretch.1
  | decimal _ hdigit hstretch =>
    refine .inr (hcons ?_ (hrun (fun _ => isIdentPart_of_decimal) hstretch.1))
    refine any_mono (fun c hc => isPlain_of_part ?_) hdigit
    exact isIdentPart_of_decimal (by rw [isDecimalPart, hc, Bool.true_or])
  | pair hpair =>
    obtain ⟨c, hc, hfirst, hsecond⟩ := hpair
    have hall : ∀ c ∈ markPairs, isPlain c.1 = true ∧ isPlain c.2 = true := by decide
    refine .inr (hcons ?_ (hcons ?_ (.refl source isPlain (i + 2))))
    · rw [hfirst]
      exact (hall c hc).1
    · rw [hsecond]
      exact (hall c hc).2
  | mark _ hmark => exact .inl ⟨rfl, hmark⟩

/-! ## The token list -/

/-- The token of a match, with its line counted from the start. -/
def tokenOf (source : Str) (m : Match) : Token where
  value := String.ofList (substring source m.span)
  offset := m.start
  line := 1 + (source.take m.start).count '\n'
  isIdentifier := isIdentifierText (substring source m.span)

theorem count_substring {i j : Nat} (h : i ≤ j) (c : Char) :
    (source.take i).count c + (substring source (i, j)).count c = (source.take j).count c := by
  have hsplit : source.take j = source.take i ++ substring source (i, j) := by
    have happend := List.take_append_drop i (source.take j)
    rw [List.take_take, Nat.min_eq_left h] at happend
    exact happend.symm
  rw [hsplit, List.count_append]

theorem mem_substring {c : Char} (h : c ∈ substring source (i, j)) :
    ∃ k, i ≤ k ∧ k < j ∧ source[k]? = some c := by
  obtain ⟨n, hn⟩ := List.mem_iff_getElem?.mp h
  rw [substring, List.getElem?_drop, List.getElem?_take] at hn
  split at hn
  · exact ⟨i + n, by omega, by omega, hn⟩
  · cases hn

/-- No line ends in a token. -/
theorem TokenSpan.count_newline (h : TokenSpan source i j) :
    (substring source (i, j)).count '\n' = 0 := by
  refine List.count_eq_zero.mpr fun hmem => ?_
  obtain ⟨k, hik, hkj, hk⟩ := mem_substring hmem
  rcases h.chars with ⟨rfl, hmark⟩ | hrun
  · obtain rfl : k = i := by omega
    rw [hk] at hmark
    exact absurd hmark (by decide)
  · have hplain := hrun.2 k hik hkj
    rw [hk] at hplain
    exact absurd hplain (by decide)

/-- The running line number is the number of line ends so far. -/
theorem tokensFrom_eq {matches_ : List Match} {previousEnd line : Nat}
    (hspans : ∀ m ∈ matches_, previousEnd ≤ m.start ∧ TokenSpan source m.start m.stop)
    (hsorted : matches_.Pairwise fun m m' => m.stop ≤ m'.start)
    (hline : line = 1 + (source.take previousEnd).count '\n') :
    tokensFrom source matches_ previousEnd line = matches_.map (tokenOf source) := by
  induction matches_ generalizing previousEnd line with
  | nil => rfl
  | cons m rest ih =>
    rw [List.forall_mem_cons] at hspans
    rw [List.pairwise_cons] at hsorted
    obtain ⟨⟨hle, hspan⟩, hrest⟩ := hspans
    have hstart : line + (substring source (previousEnd, m.start)).count '\n' =
        1 + (source.take m.start).count '\n' := by
      rw [hline, Nat.add_assoc, count_substring hle]
    have hstop : 1 + (source.take m.start).count '\n' = 1 + (source.take m.stop).count '\n' := by
      rw [← count_substring (Nat.le_of_lt hspan.lt), hspan.count_newline, Nat.add_zero]
    rw [tokensFrom, hstart, ih (fun m' hm' => ⟨hsorted.1 m' hm', (hrest m' hm').2⟩) hsorted.2 hstop]
    rfl

/-- A reported match is a token. -/
theorem tokenSpan_of_mem {m : Match} {pos : Nat} (h : m ∈ scanFrom source tokenPattern pos) :
    TokenSpan source m.start m.stop :=
  (matchAt_token.mp (scanFrom_sound h).2).2.1

theorem tokens_eq (source : Str) :
    tokens source = (scan source tokenPattern).map (tokenOf source) :=
  tokensFrom_eq (fun _ hm => ⟨Nat.zero_le _, tokenSpan_of_mem hm⟩) scanFrom_disjoint rfl

theorem TokenSpan.le_length (h : TokenSpan source i j) : j ≤ source.length := by
  have hpos := pos_of_mem_ends (matchAt_eq_some h.matchAt).2
  have hlt := h.lt
  simp only at hpos
  omega

/-! ## Identifiers -/

theorem getElem?_substring {k : Nat} (h : i + k < j) :
    (substring source (i, j))[k]? = source[i + k]? := by
  rw [substring, List.getElem?_drop, List.getElem?_take, if_pos h]

theorem length_substring (h : j ≤ source.length) : (substring source (i, j)).length = j - i := by
  rw [substring, List.length_drop, List.length_take, Nat.min_eq_left h]

theorem run_substring {p : Char → Bool} {k : Nat} (hk : i + k ≤ j) (h : Run source p (i + k) j) :
    Run (substring source (i, j)) p k (j - i) := by
  refine ⟨by omega, fun a ha hlt => ?_⟩
  rw [getElem?_substring (by omega)]
  exact h.2 (i + a) (by omega) (by omega)

theorem fullmatch_of_mem {value : Str} {r : Re} {e : State} (h : e ∈ ends value r ⟨0, none⟩)
    (hpos : e.pos = value.length) : fullmatch value r = true :=
  List.any_eq_true.mpr ⟨e, h, beq_iff_eq.mpr hpos⟩

/-- The whole of an identifier is matched by the pattern of one. -/
theorem mem_ends_identRe {value : Str} {k : Nat} (hstart : (value[k]?).any isIdentStart = true)
    (hrun : Run value isIdentPart (k + 1) value.length) :
    ⟨value.length, none⟩ ∈ ends value identRe ⟨k, none⟩ := by
  obtain ⟨c, hc, hp⟩ := (Option.any_eq_true _ _).mp hstart
  exact mem_ends_seq.mpr ⟨_, mem_ends_set.mpr ⟨⟨c, hc, hp⟩, rfl⟩, mem_ends_many.mpr ⟨hrun, rfl⟩⟩

theorem mem_ends_rawIdentRe {value : Str} (hraw : RawStart value 0)
    (hrun : Run value isIdentPart 3 value.length) :
    ⟨value.length, none⟩ ∈ ends value rawIdentRe ⟨0, none⟩ := by
  obtain ⟨hr, hhash, hstart⟩ := hraw
  refine mem_ends_seq.mpr ⟨_, mem_ends_set.mpr ⟨⟨'r', hr, rfl⟩, rfl⟩, ?_⟩
  exact mem_ends_seq.mpr ⟨_, mem_ends_set.mpr ⟨⟨'#', hhash, rfl⟩, rfl⟩, mem_ends_identRe hstart hrun⟩

/-- A token is an identifier when it starts like one. -/
theorem TokenSpan.isIdentifierText (h : TokenSpan source i j) :
    isIdentifierText (substring source (i, j)) = true ↔ (source[i]?).any isIdentStart = true := by
  have hlt := h.lt
  have hlength := length_substring (i := i) h.le_length
  have hget : ∀ k, i + k < j → (substring source (i, j))[k]? = source[i + k]? := fun k hk =>
    getElem?_substring hk
  refine ⟨fun hfull => ?_, fun hstart => ?_⟩
  · obtain ⟨e, he, -⟩ := List.any_eq_true.mp hfull
    have hfirst : ((substring source (i, j))[0]?).any isIdentStart = true := by
      rcases mem_ends_alt.mp he with hraw | hident
      · obtain ⟨m, hm, -⟩ := mem_ends_seq.mp hraw
        obtain ⟨⟨c, hc, heq⟩, -⟩ := mem_ends_set.mp hm
        rw [hc, eq_of_beq heq]
        rfl
      · obtain ⟨m, hm, -⟩ := mem_ends_seq.mp hident
        obtain ⟨⟨c, hc, hp⟩, -⟩ := mem_ends_set.mp hm
        rw [hc]
        exact hp
    rwa [hget 0 (by omega)] at hfirst
  · cases h with
    | raw hraw hstretch =>
      have hle := hstretch.1.1
      refine fullmatch_of_mem (mem_ends_alt.mpr (.inl (mem_ends_rawIdentRe ?_ ?_))) rfl
      · refine ⟨?_, ?_, ?_⟩
        · rw [hget 0 (by omega)]; exact hraw.1
        · rw [hget 1 (by omega)]; exact hraw.2.1
        · rw [hget 2 (by omega)]; exact hraw.2.2
      · rw [hlength]
        exact run_substring hle hstretch.1
    | ident _ hident hstretch =>
      have hle := hstretch.1.1
      refine fullmatch_of_mem (mem_ends_alt.mpr (.inr (mem_ends_identRe ?_ ?_))) rfl
      · rw [hget 0 (by omega)]; exact hident
      · rw [hlength]
        exact run_substring hle hstretch.1
    | radix hradix _ => exact absurd hstart (not_identStart hradix.1 (by decide)).2
    | decimal _ hdigit _ =>
      obtain ⟨c, hc, hp⟩ := (Option.any_eq_true _ _).mp hdigit
      exact absurd hstart (not_identStart hc (isDigit_spec hp)).2
    | pair hpair =>
      obtain ⟨c, hc, hp, -⟩ := pairAt_spec hpair
      exact absurd hstart (not_identStart hc hp).2
    | mark _ hmark =>
      obtain ⟨c, hc, hp⟩ := (Option.any_eq_true _ _).mp hmark
      exact absurd hstart (not_identStart hc (isMark_spec hp).1).2

/-- **The tokens of a source.** They stand one behind the other; each is a lexeme that goes on
as far as it can, with its text, its line and whether it starts like an identifier; and where a
lexeme starts a token stands. -/
theorem tokens_exact (source : Str) :
    (tokens source).Pairwise (fun a b => a.offset + a.value.length ≤ b.offset) ∧
    (∀ token ∈ tokens source,
      TokenSpan source token.offset (token.offset + token.value.length) ∧
      token.value.toList = substring source (token.offset, token.offset + token.value.length) ∧
      token.line = 1 + (source.take token.offset).count '\n' ∧
      (token.isIdentifier = true ↔ (source[token.offset]?).any isIdentStart = true)) ∧
    ∀ i j, TokenSpan source i j → ∃ token ∈ tokens source,
      token.offset ≤ i ∧ i < token.offset + token.value.length := by
  have hstop : ∀ {m : Match}, TokenSpan source m.start m.stop →
      (tokenOf source m).offset + (tokenOf source m).value.length = m.stop := by
    intro m hm
    have hlt := hm.lt
    rw [tokenOf, String.length_ofList, Match.span, length_substring hm.le_length]
    simp only
    omega
  rw [tokens_eq]
  refine ⟨?_, fun token htoken => ?_, fun i j h => ?_⟩
  · refine List.pairwise_map.mpr (scanFrom_disjoint.imp_of_mem fun {a b} ha hb hab => ?_)
    rw [hstop (tokenSpan_of_mem ha)]
    exact hab
  · obtain ⟨m, hm, rfl⟩ := List.mem_map.mp htoken
    have hspan := tokenSpan_of_mem hm
    rw [hstop hspan]
    exact ⟨hspan, String.toList_ofList, rfl, hspan.isIdentifierText⟩
  · have hi : i ≤ source.length := Nat.le_trans (Nat.le_of_lt h.lt) h.le_length
    obtain ⟨m', hm', hle, hcover⟩ := scanFrom_covers h.matchAt (Nat.zero_le i) hi
    have hspan := tokenSpan_of_mem hm'
    refine ⟨_, List.mem_map_of_mem hm', hle, ?_⟩
    rw [hstop hspan]
    have hlt := hspan.lt
    omega

/-! ## Brackets -/

def charSymbol (c : Char) : Symbol Delimiter := symbolOf (String.singleton c)

theorem symbolOf_bracket {value : String} (h : (symbolOf value).isBracket = true) :
    ∃ c, value.toList = [c] ∧ isMark c = true ∧ isPlain c = false := by
  unfold symbolOf at h
  split_ifs at h with h1 h2 h3 h4 h5 h6
  · exact ⟨'(', h1 ▸ rfl, by decide, by decide⟩
  · exact ⟨'[', h2 ▸ rfl, by decide, by decide⟩
  · exact ⟨'\x7b', h3 ▸ rfl, by decide, by decide⟩
  · exact ⟨')', h4 ▸ rfl, by decide, by decide⟩
  · exact ⟨']', h5 ▸ rfl, by decide, by decide⟩
  · exact ⟨'\x7d', h6 ▸ rfl, by decide, by decide⟩
  · cases h

/-- A plain text is no bracket. -/
theorem symbolOf_text {text : Str} (h : ∀ c ∈ text, isPlain c = true) :
    (symbolOf (String.ofList text)).isBracket = false := by
  by_contra hne
  obtain ⟨c, htext, -, hc⟩ := symbolOf_bracket (by simpa using hne)
  rw [String.toList_ofList] at htext
  rw [h c (htext ▸ List.mem_singleton_self c)] at hc
  cases hc

theorem charSymbol_eq (c : Char) : charSymbol c = symbolOf (String.ofList [c]) := by
  rw [charSymbol, String.singleton_eq_ofList]

theorem isMark_of_bracket {c : Char} (h : (charSymbol c).isBracket = true) : isMark c = true := by
  rw [charSymbol_eq] at h
  obtain ⟨d, hd, hmark, -⟩ := symbolOf_bracket h
  rw [String.toList_ofList, List.cons.injEq] at hd
  rw [hd.1]
  exact hmark

/-- The brackets in a token are the bracket that it is. -/
theorem TokenSpan.brackets (h : TokenSpan source i j) :
    ((substring source (i, j)).map charSymbol).filter Symbol.isBracket =
      [symbolOf (String.ofList (substring source (i, j)))].filter Symbol.isBracket := by
  rcases h.chars with ⟨rfl, hmark⟩ | hrun
  · obtain ⟨c, hc, -⟩ := (Option.any_eq_true _ _).mp hmark
    have htext : substring source (i, i + 1) = [c] := by
      obtain ⟨hlt, rfl⟩ := List.getElem?_eq_some_iff.mp hc
      rw [substring, List.take_succ_eq_append_getElem hlt, List.drop_append_of_le_length (by simp; omega)]
      simp
    rw [htext, List.map_singleton, charSymbol_eq]
  · have hplain : ∀ c ∈ substring source (i, j), isPlain c = true := by
      intro c hc
      obtain ⟨k, hik, hkj, hk⟩ := mem_substring hc
      have hany := hrun.2 k hik hkj
      rw [hk] at hany
      exact hany
    have hnone : ∀ s ∈ (substring source (i, j)).map charSymbol, ¬ Symbol.isBracket s = true := by
      intro s hs
      obtain ⟨c, hc, rfl⟩ := List.mem_map.mp hs
      rw [charSymbol_eq, symbolOf_text (by simpa using hplain c hc)]
      exact Bool.false_ne_true
    rw [List.filter_eq_nil_iff.mpr hnone, List.filter_cons_of_neg, List.filter_nil]
    rw [symbolOf_text hplain]
    exact Bool.false_ne_true

/-- From `pos` on, the brackets among the tokens are those of the source. -/
theorem symbols_scanFrom (source : Str) (pos : Nat) :
    ((scanFrom source tokenPattern pos).map fun m =>
        symbolOf (tokenOf source m).value).filter Symbol.isBracket =
      ((source.drop pos).map charSymbol).filter Symbol.isBracket := by
  fun_induction scanFrom source tokenPattern pos with
  | case1 pos hle m hm ih =>
    obtain ⟨rfl, hspan, -⟩ := matchAt_token.mp hm
    have hlt := hspan.lt
    have hmax : max m.stop (m.start + 1) = m.stop := by omega
    have hsplit : source.drop m.start = substring source m.span ++ source.drop m.stop := by
      have happend := List.take_append_drop (m.stop - m.start) (source.drop m.start)
      rw [List.drop_drop, Nat.add_sub_cancel' (Nat.le_of_lt hlt), List.take_drop,
        Nat.add_sub_cancel' (Nat.le_of_lt hlt)] at happend
      exact happend.symm
    rw [hmax] at ih
    rw [List.map_cons, ← List.singleton_append, List.filter_append, hmax, ih, hsplit, List.map_append,
      List.filter_append, Match.span, hspan.brackets]
    rfl
  | case2 pos hle hnone ih =>
    rw [ih]
    cases hget : source[pos]? with
    | none =>
      rw [List.getElem?_eq_none_iff] at hget
      rw [List.drop_eq_nil_of_le hget, List.drop_eq_nil_of_le (by omega)]
    | some c =>
      -- a bracket here would be a token
      have hother : ¬ (charSymbol c).isBracket = true := by
        intro hbracket
        have hmark : (source[pos]?).any isMark = true := by
          rw [hget]
          exact isMark_of_bracket hbracket
        by_cases hpair : PairAt source pos
        · rw [(TokenSpan.pair hpair).matchAt] at hnone
          cases hnone
        · rw [(TokenSpan.mark hpair hmark).matchAt] at hnone
          cases hnone
      obtain ⟨hlt, rfl⟩ := List.getElem?_eq_some_iff.mp hget
      rw [List.drop_eq_getElem_cons hlt, List.map_cons, List.filter_cons_of_neg hother]
  | case3 pos hgt => rw [List.drop_eq_nil_of_le (by omega)]; rfl

/-- The brackets among the tokens are the brackets of the source. -/
theorem symbols_tokens (source : Str) :
    (symbols (tokens source)).filter Symbol.isBracket =
      (source.map charSymbol).filter Symbol.isBracket := by
  rw [symbols, tokens_eq, List.map_map]
  exact symbols_scanFrom source 0

/-- **The characters decide.** Delimiters are accepted when the brackets of each kind are nested
in the source, read character by character. -/
theorem delimiters_decided_by_characters (source : Str) :
    (∃ pairs, delimiterPairs (tokens source) = .ok pairs) ↔
      ∀ k, Nested ((source.map charSymbol).map (only k)) := by
  rw [(delimiterPairs_eq_ok (tokens source)).1]
  exact forall_congr' fun k => nested_only_congr (symbols_tokens source) k

end Zrm.L6.RustComplexity
