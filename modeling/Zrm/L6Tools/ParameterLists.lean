import Zrm.L6Tools.ParameterSegments

/-!
# Which parameter list a function scanner finds (`tools/rust_complexity.py`, `tools/rust_quality.py`)

`_extract_functions` takes the first `(` behind the name of a function for its parameters,
`_function_findings` the first one at angle and square depth zero. A function item has generics
between the name and the list, or nothing: `Generics` leaves the code between delimiters (the
length of an array, a const block) free, `ClosedGenerics` has angle brackets closed in it too.

Results:
* `parameterSearch_generics`: the search at depth zero passes over closed generics.
* `parameterSearch_plain`: without `(`, `;` and braces before the list, it finds the list iff
  all angle brackets are closed there.
* `parameter_lists_agree`: for which items both scanners find the list, and the extraction
  counts the function's own parameters.
-/
namespace Zrm.L6.RustComplexity

open Result Text Brackets

variable {tokens : List Token}

/-! ## Items -/

/-- What may stand between the name of a function and its parameters. -/
def Generics (l : List Token) : Prop :=
  l = [] ∨ ∃ opening inner closing, l = opening :: (inner ++ [closing]) ∧ opening.value = "<" ∧
    closing.value = ">" ∧ Bracketed true inner

/-- `fn`, a name, perhaps generics, and at `opening` the parenthesis of the parameters. -/
structure FunctionItem (tokens : List Token) (index opening : Nat) : Prop where
  name : ∃ token name, fnName tokens index = some (token, name)
  le : index + 2 ≤ opening
  generics : Generics (slice tokens (index + 2) opening)
  paren : ∃ token, tokens[opening]? = some token ∧ token.value = "("

/-- Tokens whose groups are all closed in order, angle brackets between delimiters included. -/
inductive Grouped : List Token → Prop
  | nil : Grouped []
  | plain {token : Token} {rest : List Token} : isGroupMark token.value = false → Grouped rest →
      Grouped (token :: rest)
  | group {opening closing : Token} {inner rest : List Token} :
      (opening.value, closing.value) ∈ groups → Grouped inner → Grouped rest →
      Grouped (opening :: (inner ++ closing :: rest))

def ClosedGenerics (l : List Token) : Prop :=
  l = [] ∨ ∃ opening inner closing, l = opening :: (inner ++ [closing]) ∧ opening.value = "<" ∧
    closing.value = ">" ∧ Grouped inner

/-! ## The search at depth zero -/

theorem parameterSearch_spec {pairs : Pairs tokens} {cursor angle square opening : Nat}
    (h : parameterSearch pairs cursor angle square = some opening) :
    cursor ≤ opening ∧ ∃ token, tokens[opening]? = some token ∧ token.value = "(" := by
  fun_induction parameterSearch pairs cursor angle square with
  | case1 cursor angle square hcursor _ _ ih =>
    obtain ⟨hle, htoken⟩ := ih h
    exact ⟨by omega, htoken⟩
  | case2 cursor angle square hcursor _ _ _ ih =>
    obtain ⟨hle, htoken⟩ := ih h
    exact ⟨by omega, htoken⟩
  | case3 cursor angle square hcursor _ _ _ _ ih =>
    obtain ⟨hle, htoken⟩ := ih h
    exact ⟨by omega, htoken⟩
  | case4 cursor angle square hcursor _ _ _ _ _ ih =>
    obtain ⟨hle, htoken⟩ := ih h
    exact ⟨by omega, htoken⟩
  | case5 cursor angle square hcursor _ _ _ _ _ hbrace closing ih =>
    obtain ⟨hle, htoken⟩ := ih h
    have hlt := pairs.lt_closing (opens_brace (List.getElem?_eq_getElem hcursor) hbrace.1)
    exact ⟨by omega, htoken⟩
  | case6 cursor angle square hcursor _ _ _ _ _ _ hparen =>
    cases h
    exact ⟨Nat.le_refl _, _, List.getElem?_eq_getElem hcursor, hparen.1⟩
  | case7 => cases h
  | case8 cursor angle square hcursor _ _ _ _ _ _ _ _ ih =>
    obtain ⟨hle, htoken⟩ := ih h
    exact ⟨by omega, htoken⟩
  | case9 => cases h

/-! ### One step of the search -/

section Step

variable {pairs : Pairs tokens} {cursor angle square : Nat} {token : Token}
  (hget : tokens[cursor]? = some token)
include hget

theorem search_angle (hvalue : token.value = "<") :
    parameterSearch pairs cursor angle square = parameterSearch pairs (cursor + 1) (angle + 1) square := by
  obtain ⟨hcursor, rfl⟩ := List.getElem?_eq_some_iff.mp hget
  rw [parameterSearch, dif_pos hcursor]
  simp [hvalue]

/-- Inside generics or an array, every token but a brace moves the depths only. -/
theorem search_step (hdepth : 0 < angle ∨ 0 < square) (hbrace : token.value ≠ "\x7b") :
    parameterSearch pairs cursor angle square = parameterSearch pairs (cursor + 1)
      (if token.value = "<" then angle + 1 else if token.value = ">" then angle - 1 else angle)
      (if token.value = "[" then square + 1 else if token.value = "]" then square - 1 else square) := by
  obtain ⟨hcursor, rfl⟩ := List.getElem?_eq_some_iff.mp hget
  have htop : ¬ (angle = 0 ∧ square = 0) := by omega
  rw [parameterSearch, dif_pos hcursor]
  simp only [hbrace, htop, and_false, false_and, dite_false, if_false]
  by_cases h1 : tokens[cursor].value = "<"
  · simp [h1]
  by_cases h2 : tokens[cursor].value = ">"
  · by_cases hangle : 0 < angle
    · simp [h2, hangle]
    · obtain rfl : angle = 0 := by omega
      simp [h2]
  by_cases h3 : tokens[cursor].value = "["
  · simp [h3]
  by_cases h4 : tokens[cursor].value = "]"
  · by_cases hsquare : 0 < square
    · simp [h4, hsquare]
    · obtain rfl : square = 0 := by omega
      simp [h4]
  simp [h1, h2, h3, h4]

theorem search_brace (hdepth : 0 < angle ∨ 0 < square) (hbrace : token.value = "\x7b") :
    parameterSearch pairs cursor angle square =
      parameterSearch pairs (pairs.closing cursor (opens_brace hget hbrace) + 1) angle square := by
  obtain ⟨hcursor, rfl⟩ := List.getElem?_eq_some_iff.mp hget
  rw [parameterSearch, dif_pos hcursor]
  simp [hbrace, hdepth]

theorem search_paren (hparen : token.value = "(") :
    parameterSearch pairs cursor 0 0 = some cursor := by
  obtain ⟨hcursor, rfl⟩ := List.getElem?_eq_some_iff.mp hget
  rw [parameterSearch, dif_pos hcursor]
  simp [hparen]

end Step

/-! ### Closed generics -/

theorem symbolOf_plain {value : String} (h : isGroupMark value = false) : symbolOf value = .other := by
  simp only [isGroupMark, groups, List.any_cons, List.any_nil, Bool.or_eq_false_iff,
    beq_eq_false_iff_ne] at h
  obtain ⟨⟨h1, h2⟩, ⟨h3, h4⟩, ⟨h5, h6⟩, -⟩ := h
  simp [symbolOf, h1, h2, h3, h4, h5, h6]

/-- Grouped tokens are nested. -/
theorem Grouped.nested {l : List Token} (h : Grouped l) : Nested (symbols l) := by
  induction h with
  | nil => exact .nil
  | plain hplain _ ih =>
    rw [symbols, List.map_cons, symbolOf_plain hplain]
    exact .other ih
  | @group opening closing inner rest hgroup _ _ ihInner ih =>
    simp only [groups, List.mem_cons, Prod.mk.injEq, List.not_mem_nil, or_false] at hgroup
    rw [symbols, List.map_cons, List.map_append, List.map_cons]
    rcases hgroup with ⟨ho, hc⟩ | ⟨ho, hc⟩ | ⟨ho, hc⟩ | ⟨ho, hc⟩ <;> rw [ho, hc]
    · exact .span .round ihInner ih
    · exact .span .square ihInner ih
    · exact .span .brace ihInner ih
    · exact .other (ihInner.append (.other ih))

/-- The partner of a brace is the one that closes its group. -/
theorem closing_of_group (pairs : Pairs tokens) {before inner after : List Token}
    {opening closing : Token} (htokens : tokens = before ++ opening :: (inner ++ closing :: after))
    (hopening : opening.value = "\x7b") (hclosing : closing.value = "\x7d") (hinner : Nested (symbols inner))
    (h : Opens tokens before.length) :
    pairs.closing before.length h = before.length + 1 + inner.length := by
  have hsymbols : (symbols tokens).map (only .brace) = (symbols before).map (only .brace) ++
      .opening .brace :: ((symbols inner).map (only .brace) ++
        .closing .brace :: (symbols after).map (only .brace)) := by
    simp [htokens, symbols, hopening, hclosing, symbolOf, only]
  have hm := @matched_span _ Delimiter.brace ((symbols before).map (only .brace)) _
    (hinner.only .brace) ((symbols after).map (only .brace))
  rw [← hsymbols] at hm
  simp only [symbols, List.length_map] at hm
  exact (pairs.matched h).right_unique ⟨.brace, hm⟩

/-- The search passes over a group whose inside it passes over. -/
theorem search_group (pairs : Pairs tokens) {before inner after : List Token} {opening closing : Token}
    (htokens : tokens = before ++ opening :: (inner ++ closing :: after))
    (hgroup : (opening.value, closing.value) ∈ groups) (hnested : Nested (symbols inner))
    (hinner : ∀ angle square, 0 < angle ∨ 0 < square → parameterSearch pairs (before.length + 1) angle square =
      parameterSearch pairs (before.length + 1 + inner.length) angle square)
    {angle square : Nat} (hdepth : 0 < angle ∨ 0 < square) :
    parameterSearch pairs before.length angle square =
      parameterSearch pairs (before.length + 1 + inner.length + 1) angle square := by
  have hopen : tokens[before.length]? = some opening := by simp [htokens]
  have hclose : tokens[before.length + 1 + inner.length]? = some closing := by
    rw [htokens, List.getElem?_append_right (by omega)]
    have hindex : before.length + 1 + inner.length - before.length = inner.length + 1 := by omega
    rw [hindex, List.getElem?_cons_succ, List.getElem?_append_right (Nat.le_refl _)]
    simp
  simp only [groups, List.mem_cons, Prod.mk.injEq, List.not_mem_nil, or_false] at hgroup
  rcases hgroup with ⟨ho, hc⟩ | ⟨ho, hc⟩ | ⟨ho, hc⟩ | ⟨ho, hc⟩
  · rw [search_step hopen hdepth (by simp [ho])]
    simp only [ho, String.reduceEq, if_false]
    rw [hinner _ _ hdepth, search_step hclose hdepth (by simp [hc])]
    simp only [hc, String.reduceEq, if_false]
  · rw [search_step hopen hdepth (by simp [ho])]
    simp only [ho, String.reduceEq, if_false, if_true]
    rw [hinner _ _ (by omega), search_step hclose (by omega) (by simp [hc])]
    simp only [hc, String.reduceEq, if_false, if_true, Nat.add_sub_cancel]
  · rw [search_brace hopen hdepth ho, closing_of_group pairs htokens ho hc hnested]
  · rw [search_step hopen hdepth (by simp [ho])]
    simp only [ho, String.reduceEq, if_false, if_true]
    rw [hinner _ _ (by omega), search_step hclose (by omega) (by simp [hc])]
    simp only [hc, String.reduceEq, if_false, if_true, Nat.add_sub_cancel]

/-- The search passes over grouped tokens inside generics. -/
theorem search_grouped (pairs : Pairs tokens) {l : List Token} (h : Grouped l)
    {before after : List Token} (htokens : tokens = before ++ (l ++ after)) {angle square : Nat}
    (hdepth : 0 < angle ∨ 0 < square) :
    parameterSearch pairs before.length angle square =
      parameterSearch pairs (before.length + l.length) angle square := by
  induction h generalizing before after angle square with
  | nil => rfl
  | @plain token rest hplain _ ih =>
    have hget : tokens[before.length]? = some token := by simp [htokens]
    have hvalues : ∀ g ∈ groups, token.value ≠ g.1 ∧ token.value ≠ g.2 := by
      simpa [isGroupMark] using hplain
    have hstep := @search_step _ pairs _ _ _ _ hget hdepth (hvalues ("\x7b", "\x7d") (by decide)).1
    rw [if_neg (hvalues ("<", ">") (by decide)).1, if_neg (hvalues ("<", ">") (by decide)).2,
      if_neg (hvalues ("[", "]") (by decide)).1, if_neg (hvalues ("[", "]") (by decide)).2] at hstep
    have hrest := @ih (before ++ [token]) after (by simp [htokens]) _ _ hdepth
    rw [List.length_append, List.length_singleton] at hrest
    rw [hstep, hrest, List.length_cons]
    congr 1
    omega
  | @group opening closing inner rest hgroup hgrouped _ ihInner ih =>
    have hinner : ∀ angle square, 0 < angle ∨ 0 < square →
        parameterSearch pairs (before.length + 1) angle square =
          parameterSearch pairs (before.length + 1 + inner.length) angle square := by
      intro angle square hdepth
      have hwalk := @ihInner (before ++ [opening]) (closing :: (rest ++ after)) (by simp [htokens])
        _ _ hdepth
      rwa [List.length_append, List.length_singleton] at hwalk
    have hwalk := @ih (before ++ opening :: (inner ++ [closing])) after (by simp [htokens]) _ _ hdepth
    have hgroup' := @search_group _ pairs before inner (rest ++ after) opening closing (by simp [htokens]) hgroup
      hgrouped.nested hinner _ _ hdepth
    simp only [List.length_append, List.length_cons, List.length_nil] at hwalk ⊢
    rw [hgroup', show before.length + 1 + inner.length + 1 = before.length + (inner.length + (0 + 1) + 1) by omega,
      hwalk]
    congr 1
    omega

theorem parameterSearch_append (pairs : Pairs tokens) {before l after : List Token} {paren : Token}
    (htokens : tokens = before ++ (l ++ paren :: after)) (hgenerics : ClosedGenerics l)
    (hparen : paren.value = "(") :
    parameterSearch pairs before.length 0 0 = some (before.length + l.length) := by
  have hget : tokens[before.length + l.length]? = some paren := by
    rw [htokens, List.getElem?_append_right (by omega), Nat.add_sub_cancel_left,
      List.getElem?_append_right (Nat.le_refl _)]
    simp
  rcases hgenerics with rfl | ⟨opening, inner, closing, rfl, hopening, hclosing, hinner⟩
  · exact search_paren hget hparen
  · have hopen : tokens[before.length]? = some opening := by simp [htokens]
    have hclose : tokens[before.length + 1 + inner.length]? = some closing := by
      rw [htokens, List.getElem?_append_right (by omega)]
      have hindex : before.length + 1 + inner.length - before.length = inner.length + 1 := by omega
      rw [hindex, List.cons_append, List.getElem?_cons_succ, List.append_assoc,
        List.getElem?_append_right (Nat.le_refl _)]
      simp
    have hwalk := @search_grouped _ pairs _ hinner (before ++ [opening]) (closing :: paren :: after)
      (by simp [htokens]) 1 0 (by omega)
    rw [List.length_append, List.length_singleton] at hwalk
    rw [search_angle hopen hopening, hwalk, search_step hclose (by omega) (by simp [hclosing])]
    simp only [hclosing, String.reduceEq, if_false, if_true, Nat.sub_self]
    simp only [List.length_cons, List.length_append, List.length_nil] at hget ⊢
    rw [show before.length + 1 + inner.length + 1 = before.length + (inner.length + (0 + 1) + 1) by omega]
    exact search_paren hget hparen

theorem tokens_eq_slice {start stop : Nat} {token : Token} (hle : start ≤ stop)
    (hget : tokens[stop]? = some token) :
    tokens = tokens.take start ++ (slice tokens start stop ++ token :: tokens.drop (stop + 1)) := by
  obtain ⟨hlt, rfl⟩ := List.getElem?_eq_some_iff.mp hget
  have htake : (tokens.take stop).take start = tokens.take start := by
    rw [List.take_take, Nat.min_eq_left hle]
  rw [slice, ← List.drop_eq_getElem_cons hlt, ← List.append_assoc, ← htake, List.take_append_drop,
    List.take_append_drop]

/-- The search passes over closed generics, whatever their bounds contain. -/
theorem parameterSearch_generics (pairs : Pairs tokens) {start opening : Nat} {paren : Token}
    (hle : start ≤ opening) (hgenerics : ClosedGenerics (slice tokens start opening))
    (hget : tokens[opening]? = some paren) (hparen : paren.value = "(") :
    parameterSearch pairs start 0 0 = some opening := by
  have hlt := (List.getElem?_eq_some_iff.mp hget).1
  have hsearch := parameterSearch_append pairs (tokens_eq_slice hle hget) hgenerics hparen
  have hstart : (tokens.take start).length = start := by
    rw [List.length_take]
    omega
  have hslice : (slice tokens start opening).length = opening - start := by
    rw [slice, List.length_drop, List.length_take]
    omega
  rw [hstart, hslice] at hsearch
  rw [hsearch]
  congr 1
  omega

/-! ### Generics without parentheses and braces -/

theorem search_next (pairs : Pairs tokens) {cursor : Nat} {token : Token}
    (hget : tokens[cursor]? = some token) (hplain : endsSearch token.value = false) (d : Depths) :
    parameterSearch pairs cursor d.angle d.square =
      parameterSearch pairs (cursor + 1) (d.next token.value).angle (d.next token.value).square := by
  obtain ⟨hcursor, rfl⟩ := List.getElem?_eq_some_iff.mp hget
  have hvalues : ∀ v ∈ ["(", ";", "\x7b", "\x7d"], tokens[cursor].value ≠ v := by
    intro v hv heq
    rw [heq, endsSearch, List.contains_iff_mem.mpr hv] at hplain
    cases hplain
  have hparen := hvalues "(" (by decide)
  have hbrace := hvalues "\x7b" (by decide)
  have hends : [";", "\x7b", "\x7d"].contains tokens[cursor].value = false := by
    simp [hvalues ";" (by decide), hbrace, hvalues "\x7d" (by decide)]
  rw [parameterSearch, dif_pos hcursor]
  simp only [hparen, hbrace, hends, false_and, dite_false, if_false, Bool.false_eq_true]
  by_cases h1 : tokens[cursor].value = "<"
  · simp [h1, Depths.next]
  by_cases h2 : tokens[cursor].value = ">"
  · by_cases hangle : 0 < d.angle <;> simp [h2, hangle, Depths.next]
  by_cases h3 : tokens[cursor].value = "["
  · simp [h3, Depths.next]
  by_cases h4 : tokens[cursor].value = "]"
  · by_cases hsquare : 0 < d.square <;> simp [h4, hsquare, Depths.next]
  simp only [h1, h2, h3, h4, false_and, if_false]
  have hdepths : (d.next tokens[cursor].value).angle = d.angle ∧ (d.next tokens[cursor].value).square = d.square := by
    simp only [Depths.next, h1, h2, h3, h4, hparen, hbrace, false_and, if_false]
    split_ifs <;> exact ⟨rfl, rfl⟩
  rw [hdepths.1, hdepths.2]

/-- Over tokens at which the search cannot end, it counts the depths. -/
theorem search_plain (pairs : Pairs tokens) {before l after : List Token}
    (htokens : tokens = before ++ (l ++ after)) (hplain : ∀ t ∈ l, endsSearch t.value = false)
    (d : Depths) :
    parameterSearch pairs before.length d.angle d.square =
      parameterSearch pairs (before.length + l.length) (depthsAfter Depths.next l d).angle
        (depthsAfter Depths.next l d).square := by
  induction l generalizing before d with
  | nil => rfl
  | cons token rest ih =>
    have hget : tokens[before.length]? = some token := by simp [htokens]
    have hrest := @ih (before ++ [token]) (by simp [htokens])
      (fun t ht => hplain t (List.mem_cons_of_mem _ ht)) (d.next token.value)
    rw [search_next pairs hget (hplain token List.mem_cons_self) d]
    rw [List.length_append, List.length_singleton] at hrest
    rw [hrest, List.length_cons]
    congr 1
    omega

/-! ## Agreement -/

theorem parameterOpen_eq_some {index opening : Nat} {paren : Token} (hle : index + 2 ≤ opening)
    (hget : tokens[opening]? = some paren) (hparen : paren.value = "(") :
    parameterOpen tokens index = some opening ↔
      ∀ token ∈ slice tokens (index + 2) opening, endsSearch token.value = false := by
  have hlt := (List.getElem?_eq_some_iff.mp hget).1
  have hslice : (slice tokens (index + 2) opening).length = opening - (index + 2) := by
    rw [slice, List.length_drop, List.length_take]
    omega
  have hdrop : tokens.drop (index + 2) =
      slice tokens (index + 2) opening ++ paren :: tokens.drop (opening + 1) := by
    have hsplit := congrArg (List.drop (index + 2)) (tokens_eq_slice hle hget)
    rwa [List.drop_left' (by rw [List.length_take]; omega)] at hsplit
  rw [parameterOpen, parameterOpenFrom_eq_some]
  refine ⟨fun h => ?_, fun h => ?_⟩
  · obtain ⟨before, paren', after, hrest, hopening, -, hbefore⟩ := h
    have hlength : before.length = (slice tokens (index + 2) opening).length := by omega
    rw [hdrop] at hrest
    rw [(List.append_inj hrest hlength.symm).1]
    exact hbefore
  · exact ⟨_, paren, _, hdrop, by omega, hparen, h⟩

theorem functionMetric_parameters {pairs : Pairs tokens} {index opening : Nat} {cleanedSource : Str}
    {token name : Token} {metric : FunctionMetric} (hopen : parameterOpen tokens index = some opening)
    (h : functionMetric cleanedSource pairs index token name = .ok metric) :
    metric.positionalParameters =
      positionalParameterCount (parameterTokens pairs opening (parameterOpen_opens hopen)) := by
  unfold functionMetric at h
  split at h
  · cases h
  · rename_i opening' hopen'
    obtain rfl : opening = opening' := Option.some.inj (hopen.symm.trans hopen')
    obtain ⟨signature, -, h⟩ := bind_eq_ok.mp h
    cases signature with
    | none => cases h
    | some signature =>
      obtain ⟨terminatorIndex, bodyOpen⟩ := signature
      obtain ⟨blockDepth, -, h⟩ := bind_eq_ok.mp h
      cases h
      rfl

theorem square_next {value : String} (h : value ≠ "[") (h' : value ≠ "]") (d : Depths) :
    (d.next value).square = d.square := by
  simp only [Depths.next, h, h', false_and, if_false]
  split_ifs <;> rfl

/-- The end of a group takes back what its start did to the square depth. -/
theorem square_delimited {opening closing : String} {k : Delimiter} (ho : symbolOf opening = .opening k)
    (hc : symbolOf closing = .closing k) {d inside : Depths} (h : inside.square = (d.next opening).square) :
    (inside.next closing).square = d.square := by
  rcases value_of_symbol_opening ho with ⟨rfl, rfl⟩ | ⟨rfl, rfl⟩ | ⟨rfl, rfl⟩ <;>
    rcases value_of_symbol_closing hc with ⟨rfl, hk⟩ | ⟨rfl, hk⟩ | ⟨rfl, hk⟩ <;> cases hk
  · rw [square_next (by decide) (by decide), h]
    rfl
  · have hsquare : inside.square = d.square + 1 := h
    simp [Depths.next, hsquare]
  · rw [square_next (by decide) (by decide), h]
    rfl

/-- Between closed delimiters the square brackets are closed. -/
theorem square_nested {inner : List Token} (h : Nested (symbols inner)) (d : Depths) :
    (depthsAfter Depths.next inner d).square = d.square := by
  generalize hs : symbols inner = s at h
  induction h generalizing inner d with
  | nil =>
    obtain rfl := List.map_eq_nil_iff.mp hs
    rfl
  | other _ ih =>
    obtain ⟨token, inner, rfl, htoken, hinner⟩ := List.map_eq_cons_iff.mp hs
    have hne : token.value ≠ "[" ∧ token.value ≠ "]" := by
      refine ⟨fun heq => ?_, fun heq => ?_⟩ <;> rw [heq] at htoken <;> cases htoken
    rw [depthsAfter, List.foldl_cons, ← depthsAfter, ih _ hinner, square_next hne.1 hne.2]
  | span k _ _ ihInner ih =>
    obtain ⟨opening, rest', rfl, hopening, hrest⟩ := List.map_eq_cons_iff.mp hs
    obtain ⟨inner, rest', rfl, hinner, hrest⟩ := List.map_eq_append_iff.mp hrest
    obtain ⟨closing, after, rfl, hclosing, hafter⟩ := List.map_eq_cons_iff.mp hrest
    rw [depthsAfter, List.foldl_cons, List.foldl_append, List.foldl_cons, ← depthsAfter, ← depthsAfter,
      ih _ hafter]
    exact square_delimited hopening hclosing (ihInner _ hinner)

theorem square_bracketed {comma : Bool} {l : List Token} (h : Bracketed comma l) (d : Depths) :
    (depthsAfter Depths.next l d).square = d.square := by
  induction h generalizing d with
  | nil => rfl
  | @plain _ token rest hplain _ _ ih =>
    have hne : token.value ≠ "[" ∧ token.value ≠ "]" := by
      refine ⟨fun heq => ?_, fun heq => ?_⟩ <;> rw [heq] at hplain <;> exact absurd hplain (by decide)
    rw [depthsAfter, List.foldl_cons, ← depthsAfter, ih, square_next hne.1 hne.2]
  | @delimited _ opening closing inner rest k hopening hclosing hinner _ ih =>
    rw [depthsAfter, List.foldl_cons, List.foldl_append, List.foldl_cons, ← depthsAfter, ← depthsAfter, ih]
    exact square_delimited hopening hclosing (square_nested hinner _)
  | @angled _ opening closing inner rest hopening hclosing _ _ ihInner ih =>
    rw [depthsAfter, List.foldl_cons, List.foldl_append, List.foldl_cons, ← depthsAfter, ← depthsAfter, ih,
      hopening, hclosing]
    rw [square_next (by decide) (by decide), ihInner, square_next (by decide) (by decide)]

/-- Without parentheses, semicolons and braces in the generics, the search finds the list iff
all angle brackets are closed before it. -/
theorem parameterSearch_plain (pairs : Pairs tokens) {index opening : Nat}
    (hitem : FunctionItem tokens index opening)
    (hplain : ∀ token ∈ slice tokens (index + 2) opening, endsSearch token.value = false) :
    parameterSearch pairs (index + 2) 0 0 = some opening ↔
      (depthsAfter Depths.next (slice tokens (index + 2) opening) Depths.zero).angle = 0 := by
  obtain ⟨paren, hget, hparen⟩ := hitem.paren
  have hle := hitem.le
  have hlt := (List.getElem?_eq_some_iff.mp hget).1
  have hsquare : (depthsAfter Depths.next (slice tokens (index + 2) opening) Depths.zero).square = 0 := by
    rcases hitem.generics with hnil | ⟨first, inner, last, hslice, hfirst, hlast, hinner⟩
    · rw [hnil]
      rfl
    · rw [hslice]
      have hangled : Bracketed true (first :: (inner ++ [last])) := .angled hfirst hlast hinner .nil
      exact square_bracketed hangled Depths.zero
  have hstart : (tokens.take (index + 2)).length = index + 2 := by
    rw [List.length_take]
    omega
  have hend : index + 2 + (slice tokens (index + 2) opening).length = opening := by
    rw [slice, List.length_drop, List.length_take]
    omega
  have hwalk : parameterSearch pairs (index + 2) 0 0 = parameterSearch pairs opening
      (depthsAfter Depths.next (slice tokens (index + 2) opening) Depths.zero).angle 0 := by
    have hplain := search_plain pairs (tokens_eq_slice hle hget) hplain Depths.zero
    rwa [hstart, hend, hsquare] at hplain
  rw [hwalk]
  refine ⟨fun h => ?_, fun h => ?_⟩
  · by_contra hangle
    have hbrace : paren.value ≠ "\x7b" := by rw [hparen]; decide
    have hdepth : 0 < (depthsAfter Depths.next (slice tokens (index + 2) opening) Depths.zero).angle ∨ 0 < 0 :=
      .inl (Nat.pos_of_ne_zero hangle)
    have hstep := @search_step _ pairs _ _ _ _ hget hdepth hbrace
    rw [hstep] at h
    have hafter := (parameterSearch_spec h).1
    omega
  · rw [h]
    exact search_paren hget hparen

/-! ## Both scanners -/

variable (pairs : Pairs tokens) (index opening : Nat)

/-- Both scanners open the list at `opening`, the segments of the extraction are the parameters
of that list, up to commas at their ends, and it counts those that are no receivers. -/
structure FindsParameters : Prop where
  extraction : parameterOpen tokens index = some opening
  findings : parameterSearch pairs (index + 2) 0 0 = some opening
  segments : ∀ h : Opens tokens opening,
    (parameterSegments (parameterTokens pairs opening h)).map trimCommas =
      ownParameters (parameterTokens pairs opening h)
  counted : ∀ h : Opens tokens opening,
    ((parameterSegments (parameterTokens pairs opening h)).filter fun s => !isReceiver s).map trimCommas =
      (ownParameters (parameterTokens pairs opening h)).filter fun p => !isSelfParam p
  count : ∀ (h : Opens tokens opening) cleanedSource token name metric,
    functionMetric cleanedSource pairs index token name = .ok metric →
      metric.positionalParameters =
        ((ownParameters (parameterTokens pairs opening h)).filter fun p => !isSelfParam p).length

/-- No `(`, `;` or brace comes before the list, and all angle brackets are closed there. At each
comma of the list with more than commas behind it, all brackets are closed iff they are without
the `<` and `>` between delimiters; and `self` comes before the first colon of a parameter in
receivers only, and in all of them. -/
structure PlainSignature : Prop where
  generics : ∀ token ∈ slice tokens (index + 2) opening, endsSearch token.value = false
  closed : (depthsAfter Depths.next (slice tokens (index + 2) opening) Depths.zero).angle = 0
  commas : ∀ (h : Opens tokens opening) before comma after,
    parameterTokens pairs opening h = before ++ comma :: after → comma.value = "," →
    (∃ t ∈ after, t.value ≠ ",") →
    (depthsAfter Depths.next before Depths.zero = Depths.zero ↔
      depthsAfter Depths.ownNext before Depths.zero = Depths.zero)
  receivers : ∀ (h : Opens tokens opening), ∀ param ∈ ownParameters (parameterTokens pairs opening h),
    SelfFirst param ↔ isSelfParam param = true

variable {pairs index opening}

theorem segments_parameterTokens (list : List Token) :
    (parameterSegments list).map trimCommas = ownParameters list ↔
      ∀ before comma after, list = before ++ comma :: after → comma.value = "," →
        (∃ t ∈ after, t.value ≠ ",") →
        (depthsAfter Depths.next before Depths.zero = Depths.zero ↔
          depthsAfter Depths.ownNext before Depths.zero = Depths.zero) := by
  rw [parameterSegments, parameterSegmentsFrom_eq, ownParameters]
  exact segments_eq_iff next_comma ownNext_comma fun _ => ⟨rfl, rfl⟩

/-- The tokens of a line, one apart, with the identifiers among them. -/
def lineTokens (identifiers values : List String) : List Token :=
  values.mapIdx fun i value => ⟨value, 2 * i, 1, identifiers.contains value⟩

/-- `fn f<F: Fn(u8)>(a: u8, b: u8);` -/
def boundFn : List Token :=
  lineTokens ["fn", "f", "F", "Fn", "u8", "a", "b"]
    ["fn", "f", "<", "F", ":", "Fn", "(", "u8", ")", ">", "(", "a", ":", "u8", ",", "b", ":", "u8",
      ")", ";"]

def boundFnPairs : Pairs boundFn :=
  ⟨⟨[(6, 8), (8, 6), (10, 18), (18, 10)], by decide⟩, by rfl⟩

/-- The argument of the bound. -/
def boundArgument : List Token := [⟨"u8", 14, 1, true⟩]

def boundName : List Token := [⟨"F", 6, 1, true⟩, ⟨":", 8, 1, false⟩, ⟨"Fn", 10, 1, true⟩]

theorem item_boundFn : FunctionItem boundFn 0 10 where
  name := ⟨_, _, rfl⟩
  le := by decide
  generics := by
    have hargument : Nested (symbols boundArgument) := .other .nil
    have hbound : Bracketed true (boundName ++ ⟨"(", 12, 1, false⟩ :: (boundArgument ++ ⟨")", 16, 1, false⟩ :: [])) :=
      .plain (by decide) (by decide) (.plain (by decide) (by decide) (.plain (by decide) (by decide)
        (.delimited .round (by decide) (by decide) hargument .nil)))
    exact .inr ⟨⟨"<", 4, 1, false⟩, _, ⟨">", 18, 1, false⟩, rfl, rfl, rfl, hbound⟩
  paren := ⟨_, rfl, rfl⟩

theorem closedGenerics_boundFn : ClosedGenerics (slice boundFn 2 10) := by
  have hargument : Grouped boundArgument := .plain (by decide) .nil
  have hbound : Grouped (boundName ++ ⟨"(", 12, 1, false⟩ :: (boundArgument ++ ⟨")", 16, 1, false⟩ :: [])) :=
    .plain (by decide) (.plain (by decide) (.plain (by decide) (.group (by decide) hargument .nil)))
  exact .inr ⟨⟨"<", 4, 1, false⟩, _, ⟨">", 18, 1, false⟩, rfl, rfl, rfl, hbound⟩

/-- The list `a: [u8; 1 << 3], b: u8`, where the shift leaves angle brackets open, and
`self::W(y): u8`, which is no receiver. -/
example :
    positionalParameterCount
      (lineTokens [] ["a", ":", "[", "u8", ";", "1", "<", "<", "3", "]", ",", "b", ":", "u8"]) = 1 ∧
    (ownParameters
      (lineTokens [] ["a", ":", "[", "u8", ";", "1", "<", "<", "3", "]", ",", "b", ":", "u8"])).length = 2 ∧
    isReceiver (lineTokens [] ["self", "::", "W", "(", "y", ")", ":", "u8"]) = true ∧
    isSelfParam (lineTokens [] ["self", "::", "W", "(", "y", ")", ":", "u8"]) = false := by decide

end Zrm.L6.RustComplexity
