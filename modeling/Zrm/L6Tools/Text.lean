import Mathlib.Algebra.Ring.Int.Defs
import Zrm.L6Tools.Value

/-!
# Python strings

A `str` as its characters, and the methods that the Rust scanners use. A position
is an index, as in Python.
-/
namespace Zrm.L6.Text

abbrev Str := List Char

/-- `source.startswith(literal, start)` -/
def startsWith (source literal : Str) (start : Nat) : Bool := literal.isPrefixOf (source.drop start)

/-- `source.find(literal, start)`, for a nonempty literal -/
def find (source literal : Str) (start : Nat) : Option Nat :=
  (List.range' start (source.length - start)).find? fun i => startsWith source literal i

theorem getElem?_of_startsWith {source literal : Str} {start i : Nat}
    (h : startsWith source literal start = true) (hi : i < literal.length) :
    source[start + i]? = literal[i]? := by
  obtain ⟨rest, hrest⟩ := List.isPrefixOf_iff_prefix.mp h
  rw [← List.getElem?_drop, ← hrest, List.getElem?_append_left hi]

theorem startsWith_le {source literal : Str} {start : Nat} (h : startsWith source literal start = true)
    (hne : literal ≠ []) : start + literal.length ≤ source.length := by
  have hlength := (List.isPrefixOf_iff_prefix.mp h).length_le
  have hpos : 0 < literal.length := List.length_pos_iff.mpr hne
  rw [List.length_drop] at hlength
  omega

theorem startsWith_pair {source : Str} {a b : Char} {start : Nat} :
    startsWith source [a, b] start = true ↔
      source[start]? = some a ∧ source[start + 1]? = some b := by
  refine ⟨fun h => ⟨?_, ?_⟩, fun h => ?_⟩
  · exact getElem?_of_startsWith h (i := 0) (by simp)
  · exact getElem?_of_startsWith h (i := 1) (by simp)
  · obtain ⟨ha, hb⟩ := h
    obtain ⟨hlt, rfl⟩ := List.getElem?_eq_some_iff.mp ha
    obtain ⟨hlt', rfl⟩ := List.getElem?_eq_some_iff.mp hb
    refine List.isPrefixOf_iff_prefix.mpr ⟨source.drop (start + 2), ?_⟩
    rw [List.drop_eq_getElem_cons hlt, List.drop_eq_getElem_cons hlt']
    rfl

theorem find_spec {source literal : Str} {start i : Nat} (h : find source literal start = some i) :
    start ≤ i ∧ i < source.length ∧ startsWith source literal i = true := by
  have hmem := List.mem_range'_1.mp (List.mem_of_find?_eq_some h)
  exact ⟨hmem.1, by omega, List.find?_some h⟩

/-! ## Lines -/

/-- The characters that end a line for `str.splitlines()`; a `\r\n` ends one. -/
def isLineBreak (c : Char) : Bool :=
  let n := c.toNat
  (10 ≤ n && n ≤ 13) || (28 ≤ n && n ≤ 30) || n == 0x85 || n == 0x2028 || n == 0x2029

/-- The lines of what is left of a source at `pos`, the current one from `start` on, as spans
without their ends. -/
def lineSpansFrom : Str → Nat → Nat → List (Nat × Nat)
  | [], start, pos => if start < pos then [(start, pos)] else []
  | '\r' :: '\n' :: rest, start, pos => (start, pos) :: lineSpansFrom rest (pos + 2) (pos + 2)
  | c :: rest, start, pos =>
    if isLineBreak c then (start, pos) :: lineSpansFrom rest (pos + 1) (pos + 1)
    else lineSpansFrom rest start (pos + 1)

def lineSpans (source : Str) : List (Nat × Nat) := lineSpansFrom source 0 0

/-- `source[start:stop]` -/
def substring (source : Str) (span : Nat × Nat) : Str := (source.take span.2).drop span.1

/-- `source.splitlines()` -/
def splitlines (source : Str) : List Str := (lineSpans source).map (substring source)

example : splitlines "a\r\nb\n\nc".toList = ["a".toList, "b".toList, [], "c".toList] := by decide

/-- Spans from `pos` on, one after the other, with line ends between them. -/
def Tiled (source : Str) : Nat → List (Nat × Nat) → Prop
  | _, [] => True
  | pos, span :: spans =>
    span.1 = pos ∧ span.1 ≤ span.2 ∧ ∃ next, span.2 ≤ next ∧
      (∀ i, span.2 ≤ i → i < next → (source[i]?).any isLineBreak = true) ∧ Tiled source next spans

theorem tiled_lineSpansFrom (source : Str) {rest : Str} {start pos : Nat} (hle : start ≤ pos)
    (hrest : source.drop pos = rest) : Tiled source start (lineSpansFrom rest start pos) := by
  have hget : ∀ {c : Char} {tail : Str} {i : Nat}, source.drop i = c :: tail →
      source[i]? = some c ∧ source.drop (i + 1) = tail := by
    intro c tail i hdrop
    refine ⟨?_, ?_⟩
    · rw [← Nat.add_zero i, ← List.getElem?_drop, hdrop]
      rfl
    · rw [← List.drop_drop, hdrop]
      rfl
  fun_induction lineSpansFrom rest start pos with
  | case1 start pos hlt => exact ⟨rfl, hle, pos, Nat.le_refl _, fun i h h' => by omega, trivial⟩
  | case2 start pos hge => trivial
  | case3 rest start pos ih =>
    obtain ⟨hr, hrest'⟩ := hget hrest
    obtain ⟨hn, hrest''⟩ := hget hrest'
    refine ⟨rfl, hle, pos + 2, by omega, fun i hi hlt => ?_, ih (Nat.le_refl _) hrest''⟩
    obtain rfl | rfl : i = pos ∨ i = pos + 1 := by omega
    · rw [hr]
      decide
    · rw [hn]
      decide
  | case4 c rest start pos _ hbreak ih =>
    obtain ⟨hc, hrest'⟩ := hget hrest
    refine ⟨rfl, hle, pos + 1, by omega, fun i hi hlt => ?_, ih (Nat.le_refl _) hrest'⟩
    obtain rfl : i = pos := by omega
    rw [hc]
    exact hbreak
  | case5 c rest start pos _ _ ih =>
    exact ih (by omega) (hget hrest).2

theorem tiled_lineSpans (source : Str) : Tiled source 0 (lineSpans source) :=
  tiled_lineSpansFrom source (Nat.le_refl 0) rfl

section Tiled

variable {source : Str} {spans : List (Nat × Nat)} {pos j l : Nat} {span span' : Nat × Nat}

theorem Tiled.le (h : Tiled source pos spans) (hspan : spans[l]? = some span) :
    pos ≤ span.1 ∧ span.1 ≤ span.2 := by
  induction spans generalizing pos l with
  | nil => cases hspan
  | cons first spans ih =>
    obtain ⟨hfirst, hle, next, hnext, -, hrest⟩ := h
    cases l with
    | zero =>
      cases hspan
      omega
    | succ l =>
      have hspan := ih hrest hspan
      omega

theorem Tiled.lt (h : Tiled source pos spans) (hspan : spans[j]? = some span)
    (hspan' : spans[l]? = some span') (hlt : j < l) : span.2 ≤ span'.1 := by
  induction spans generalizing pos j l with
  | nil => cases hspan
  | cons first spans ih =>
    obtain ⟨-, -, next, hnext, -, hrest⟩ := h
    obtain ⟨l, rfl⟩ : ∃ k, l = k + 1 := ⟨l - 1, by omega⟩
    cases j with
    | zero =>
      cases hspan
      have hle := (hrest.le (l := l) hspan').1
      omega
    | succ j => exact ih hrest hspan hspan' (by omega)

/-- A position before a line is in an earlier line, or ends one. -/
theorem Tiled.line_of_lt (h : Tiled source pos spans) (hspan : spans[l]? = some span) {q : Nat}
    (hq : pos ≤ q) (hlt : q < span.1) :
    (∃ j span', j < l ∧ spans[j]? = some span' ∧ span'.1 ≤ q ∧ q < span'.2) ∨
      (source[q]?).any isLineBreak = true := by
  induction spans generalizing pos l with
  | nil => cases hspan
  | cons first spans ih =>
    obtain ⟨hfirst, -, next, -, hbreak, hrest⟩ := h
    cases l with
    | zero =>
      cases hspan
      omega
    | succ l =>
      rcases Nat.lt_or_ge q first.2 with hin | hout
      · exact .inl ⟨0, first, Nat.succ_pos l, rfl, by omega, hin⟩
      · rcases Nat.lt_or_ge q next with hgap | hlater
        · exact .inr (hbreak q hout hgap)
        · rcases ih hrest hspan hlater with ⟨j, span', hj, hspan', hle, hlt'⟩ | hends
          · exact .inl ⟨j + 1, span', by omega, hspan', hle, hlt'⟩
          · exact .inr hends

/-- What no line end changes grows by what the lines add to it. -/
theorem Tiled.sum (h : Tiled source pos spans) {f : Nat → Int}
    (hf : ∀ i, (source[i]?).any isLineBreak = true → f (i + 1) = f i) (hspan : spans[l]? = some span) :
    f span.2 = f pos + ((spans.take (l + 1)).map fun span => f span.2 - f span.1).sum := by
  have hgap : ∀ a b, a ≤ b → (∀ i, a ≤ i → i < b → (source[i]?).any isLineBreak = true) → f b = f a := by
    intro a b hab hbreak
    induction b, hab using Nat.le_induction with
    | base => rfl
    | succ b hab ih =>
      rw [hf b (hbreak b hab (Nat.lt_succ_self b)), ih fun i h h' => hbreak i h (by omega)]
  induction spans generalizing pos l with
  | nil => cases hspan
  | cons first spans ih =>
    obtain ⟨hfirst, -, next, hnext, hbreak, hrest⟩ := h
    cases l with
    | zero =>
      cases hspan
      rw [List.take_succ_cons, List.take_zero, List.map_singleton, List.sum_singleton, hfirst]
      omega
    | succ l =>
      rw [ih hrest hspan, hgap _ _ hnext hbreak, List.take_succ_cons, List.map_cons, List.sum_cons,
        hfirst]
      omega

end Tiled

end Zrm.L6.Text
