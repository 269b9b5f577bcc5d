import Zrm.L6Tools.Delimiters

/-!
# Function scanners (`tools/rust_complexity.py`, `tools/rust_quality.py`)

`_extract_functions` and `_function_findings` look for the parameter list of a `fn` item,
the first one with a plain search for `(`, the second one at angle and square depth zero.
What follows a matched delimiter is read through `Pairs`, the result of
`_delimiter_pairs`, so no lookup can fail.
-/
namespace Zrm.L6.RustComplexity

open Result Text Brackets

/-! ## Pairs -/

/-- What `_delimiter_pairs` returned for these tokens. -/
structure Pairs (tokens : List Token) where
  dict : Dict Nat Nat
  isResult : delimiterPairs tokens = .ok dict

variable {tokens : List Token}

/-- A token that opens a span. -/
def Opens (tokens : List Token) (index : Nat) : Prop :=
  ∃ k, (symbols tokens)[index]? = some (.opening k)

theorem opens_of_value {index : Nat} {token : Token} {k : Delimiter} (h : tokens[index]? = some token)
    (hvalue : symbolOf token.value = .opening k) : Opens tokens index :=
  ⟨k, by rw [symbols, List.getElem?_map, h, Option.map_some, hvalue]⟩

theorem Pairs.exists_closing (pairs : Pairs tokens) {index : Nat} (h : Opens tokens index) :
    ∃ closing, pairs.dict.get? index = some closing ∧ MatchedAlone (symbols tokens) index closing := by
  obtain ⟨hget, htotal⟩ := (delimiterPairs_eq_ok tokens).2 _ pairs.isResult
  obtain ⟨k, hopening⟩ := h
  obtain ⟨closing, hclosing⟩ := htotal index k (.inl hopening)
  refine ⟨closing, hclosing, ?_⟩
  rcases (hget index closing).mp hclosing with hm | hm
  · exact hm
  · obtain ⟨k', -, hend⟩ := hm.ends
    rw [hopening] at hend
    cases hend

/-- `pairs[index]` of an opening delimiter -/
def Pairs.closing (pairs : Pairs tokens) (index : Nat) (h : Opens tokens index) : Nat :=
  (pairs.dict.get? index).get (by
    obtain ⟨closing, hclosing, -⟩ := pairs.exists_closing h
    rw [hclosing]
    rfl)

theorem Pairs.matched (pairs : Pairs tokens) {index : Nat} (h : Opens tokens index) :
    MatchedAlone (symbols tokens) index (pairs.closing index h) := by
  obtain ⟨closing, hclosing, hm⟩ := pairs.exists_closing h
  have hget : pairs.closing index h = closing := by simp [Pairs.closing, hclosing]
  rwa [hget]

theorem Pairs.lt_closing (pairs : Pairs tokens) {index : Nat} (h : Opens tokens index) :
    index < pairs.closing index h :=
  (pairs.matched h).lt

/-! ## Parameters -/

/-- The four depths of `_parameter_segments`. -/
structure Depths where
  round : Nat
  square : Nat
  brace : Nat
  angle : Nat
  deriving DecidableEq

def Depths.zero : Depths := ⟨0, 0, 0, 0⟩

/-- The depths after a token. -/
def Depths.next (d : Depths) (value : String) : Depths :=
  if value = "(" then { d with round := d.round + 1 }
  else if value = ")" ∧ 0 < d.round then { d with round := d.round - 1 }
  else if value = "[" then { d with square := d.square + 1 }
  else if value = "]" ∧ 0 < d.square then { d with square := d.square - 1 }
  else if value = "\x7b" then { d with brace := d.brace + 1 }
  else if value = "\x7d" ∧ 0 < d.brace then { d with brace := d.brace - 1 }
  else if value = "<" then { d with angle := d.angle + 1 }
  else if value = ">" ∧ 0 < d.angle then { d with angle := d.angle - 1 }
  else d

/-- `if current: segments.append(tuple(current))` -/
def segment (current : List Token) : List (List Token) := if current = [] then [] else [current]

/-- The loop of `_parameter_segments`. -/
def parameterSegmentsFrom : List Token → Depths → List Token → List (List Token)
  | [], _, current => segment current
  | token :: rest, d, current =>
    let d := d.next token.value
    if token.value = "," ∧ d = Depths.zero then segment current ++ parameterSegmentsFrom rest d []
    else parameterSegmentsFrom rest d (current ++ [token])

/-- mirrors tools/rust_complexity.py:368-403 -/
def parameterSegments (tokens : List Token) : List (List Token) :=
  parameterSegmentsFrom tokens Depths.zero []

/-- mirrors tools/rust_complexity.py:406-413 -/
def isReceiver (segment : List Token) : Bool :=
  let values := segment.map Token.value
  values.contains "self" && !(values.takeWhile fun value => value != "self").contains ":"

/-- mirrors tools/rust_complexity.py:416-419 -/
def positionalParameterCount (tokens : List Token) : Nat :=
  ((parameterSegments tokens).filter fun segment => !isReceiver segment).length

/-! ## Functions -/

/-- mirrors tools/rust_complexity.py:362-365 -/
def noncommentLineCount (cleanedSource : Str) : Nat :=
  ((splitlines cleanedSource).filter fun line => line.any fun c => !Value.isSpace c).length

/-- The loop of `_function_block_depth`: the depth and its maximum so far. -/
def blockDepthFrom : List Token → Nat → Nat → Except ComplexityError Nat
  | [], depth, maximum =>
    if depth ≠ 0 then .error ⟨"function body has inconsistent lexical brace depth"⟩ else .ok maximum
  | token :: rest, depth, maximum =>
    if token.value = "\x7b" then blockDepthFrom rest (depth + 1) (max maximum (depth + 1))
    else if token.value = "\x7d" then
      if depth = 0 then .error ⟨"function brace depth underflow at line " ++ toString token.line⟩
      else blockDepthFrom rest (depth - 1) maximum
    else blockDepthFrom rest depth maximum

/-- `tokens[start:stop]` -/
def slice (tokens : List Token) (start stop : Nat) : List Token := (tokens.take stop).drop start

/-- mirrors tools/rust_complexity.py:422-437 -/
def functionBlockDepth (tokens : List Token) (opening closing : Nat) : Except ComplexityError Nat :=
  blockDepthFrom (slice tokens (opening + 1) closing) 0 0

/-- The search for the parameter list in `_extract_functions`. -/
def parameterOpenFrom : List Token → Nat → Option Nat
  | [], _ => none
  | token :: rest, cursor =>
    if token.value = "(" then some cursor
    else if [";", "\x7b", "\x7d"].contains token.value then none
    else parameterOpenFrom rest (cursor + 1)

def parameterOpen (tokens : List Token) (index : Nat) : Option Nat :=
  parameterOpenFrom (tokens.drop (index + 2)) (index + 2)

/-- The tokens at which the search ends. -/
def endsSearch (value : String) : Bool := ["(", ";", "\x7b", "\x7d"].contains value

/-- A split of a list behind the items that pass: at its head, or in its tail. -/
theorem exists_split_cons {α : Type} (P Q : α → Prop) (R : Nat → Prop) {a : α} {l : List α} :
    (∃ before x after, a :: l = before ++ x :: after ∧ R before.length ∧ P x ∧ ∀ b ∈ before, Q b) ↔
      R 0 ∧ P a ∨ Q a ∧ ∃ before x after, l = before ++ x :: after ∧ R (before.length + 1) ∧ P x ∧
        ∀ b ∈ before, Q b := by
  refine ⟨fun h => ?_, fun h => ?_⟩
  · obtain ⟨before, x, after, hl, hR, hP, hQ⟩ := h
    cases before with
    | nil =>
      rw [List.nil_append, List.cons.injEq] at hl
      exact .inl ⟨hR, hl.1 ▸ hP⟩
    | cons b before =>
      rw [List.cons_append, List.cons.injEq] at hl
      obtain ⟨hb, hbefore⟩ := List.forall_mem_cons.mp hQ
      exact .inr ⟨hl.1 ▸ hb, before, x, after, hl.2, hR, hP, hbefore⟩
  · rcases h with ⟨hR, hP⟩ | ⟨ha, before, x, after, rfl, hR, hP, hQ⟩
    · exact ⟨[], a, l, rfl, hR, hP, nofun⟩
    · exact ⟨a :: before, x, after, rfl, hR, hP, List.forall_mem_cons.mpr ⟨ha, hQ⟩⟩

theorem parameterOpenFrom_eq_some {rest : List Token} {cursor opening : Nat} :
    parameterOpenFrom rest cursor = some opening ↔ ∃ before paren after,
      rest = before ++ paren :: after ∧ opening = cursor + before.length ∧ paren.value = "(" ∧
        ∀ token ∈ before, endsSearch token.value = false := by
  induction rest generalizing cursor with
  | nil => simp [parameterOpenFrom]
  | cons token rest ih =>
    rw [parameterOpenFrom, exists_split_cons (fun t : Token => t.value = "(")
      (fun t : Token => endsSearch t.value = false) (fun n => opening = cursor + n)]
    by_cases hparen : token.value = "("
    · have hends : endsSearch "(" = true := by decide
      rw [if_pos hparen, Option.some.injEq]
      simp only [hparen, hends, reduceCtorEq, and_true, false_and, or_false, Nat.add_zero]
      exact eq_comm
    · rw [if_neg hparen]
      simp only [hparen, and_false, false_or]
      by_cases hends : [";", "\x7b", "\x7d"].contains token.value = true
      · have hnot : ¬ endsSearch token.value = false := by
          rw [endsSearch, List.contains_cons, hends, Bool.or_true]
          decide
        rw [if_pos hends]
        simp only [hnot, false_and, reduceCtorEq]
      · have htoken : endsSearch token.value = false := by
          rw [endsSearch, List.contains_cons, Bool.eq_false_iff.mpr hends, Bool.or_false]
          exact beq_eq_false_iff_ne.mpr hparen
        rw [if_neg hends, ih]
        simp only [htoken, true_and, Nat.add_assoc, Nat.add_comm 1]

theorem opens_round {index : Nat} {token : Token} (h : tokens[index]? = some token)
    (hvalue : token.value = "(") : Opens tokens index :=
  opens_of_value h (k := .round) (by rw [hvalue]; rfl)

theorem opens_brace {index : Nat} {token : Token} (h : tokens[index]? = some token)
    (hvalue : token.value = "\x7b") : Opens tokens index :=
  opens_of_value h (k := .brace) (by rw [hvalue]; rfl)

theorem parameterOpen_opens {index opening : Nat} (h : parameterOpen tokens index = some opening) :
    Opens tokens opening := by
  obtain ⟨before, paren, after, hrest, rfl, hvalue, -⟩ := parameterOpenFrom_eq_some.mp h
  have hget := congrArg (·[before.length]?) hrest
  simp only [List.getElem?_drop, List.getElem?_append_right (Nat.le_refl before.length),
    Nat.sub_self, List.getElem?_cons_zero] at hget
  exact opens_round hget hvalue

/-- The walk of `_extract_functions` behind the parameter list: the index that ends the
function, and that of the brace that opens its body. -/
def signatureEnd (pairs : Pairs tokens) (name : String) (cursor round square angle : Nat) :
    Except ComplexityError (Option (Nat × Option Nat)) :=
  if hcursor : cursor < tokens.length then
    let value := tokens[cursor].value
    if value = ")" ∧ round = 0 then
      .error ⟨"function '" ++ name ++ "' has an unmatched signature ')'"⟩
    else if value = "]" ∧ square = 0 then
      .error ⟨"function '" ++ name ++ "' has an unmatched signature ']'"⟩
    else
      let round := if value = "(" then round + 1 else if value = ")" then round - 1 else round
      let square := if value = "[" then square + 1 else if value = "]" then square - 1 else square
      let angle := if value = "<" then angle + 1 else if value = ">" then angle - 1 else angle
      let atTopLevel := round = 0 ∧ square = 0 ∧ angle = 0
      if value = ";" ∧ atTopLevel then .ok (some (cursor, none))
      else if hbrace : tokens[cursor].value = "\x7b" then
        let closing := pairs.closing cursor (opens_brace (List.getElem?_eq_getElem hcursor) hbrace)
        if atTopLevel then .ok (some (closing, some cursor))
        else signatureEnd pairs name (closing + 1) round square angle
      else if value = "\x7d" ∧ atTopLevel then .ok none
      else signatureEnd pairs name (cursor + 1) round square angle
  else .ok none
termination_by tokens.length - cursor
decreasing_by
  · have hlt := pairs.lt_closing (opens_brace (List.getElem?_eq_getElem hcursor) hbrace)
    omega
  · omega

/-- mirrors tools/rust_complexity.py:79-88 -/
structure FunctionMetric where
  name : String
  startLine : Nat
  endLine : Nat
  noncommentSourceLines : Nat
  lexicalBlockDepth : Nat
  positionalParameters : Nat
  deriving DecidableEq

/-- `fn` and then an identifier: the test of both scanners. -/
def fnName (tokens : List Token) (index : Nat) : Option (Token × Token) :=
  match tokens[index]?, tokens[index + 1]? with
  | some token, some name => if token.value = "fn" ∧ name.isIdentifier then some (token, name) else none
  | _, _ => none

/-- The tokens between the parentheses of a parameter list. -/
def parameterTokens (pairs : Pairs tokens) (opening : Nat) (h : Opens tokens opening) : List Token :=
  slice tokens (opening + 1) (pairs.closing opening h)

/-- `0 if body_open is None else _function_block_depth(..)` -/
def bodyDepth (tokens : List Token) (bodyOpen : Option Nat) (closing : Nat) :
    Except ComplexityError Nat :=
  match bodyOpen with
  | none => .ok 0
  | some opening => functionBlockDepth tokens opening closing

/-- The loop body of `_extract_functions`, for an item `fn name`. -/
def functionMetric (cleanedSource : Str) (pairs : Pairs tokens) (index : Nat) (token name : Token) :
    Except ComplexityError FunctionMetric :=
  match hopen : parameterOpen tokens index with
  | none => .error ⟨"function '" ++ name.value ++ "' lacks a parameter list"⟩
  | some opening => do
    let parameterClose := pairs.closing opening (parameterOpen_opens hopen)
    let signature ← signatureEnd pairs name.value (parameterClose + 1) 0 0 0
    match signature with
    | none => .error ⟨"function '" ++ name.value ++ "' lacks a body or semicolon"⟩
    | some (terminatorIndex, bodyOpen) =>
      -- the walk ends at a token
      let terminator := tokens[terminatorIndex]?.getD token
      let sourceEnd := terminator.offset + terminator.value.length
      let functionSource := (cleanedSource.take sourceEnd).drop token.offset
      let blockDepth ← bodyDepth tokens bodyOpen terminatorIndex
      return {
        name := name.value
        startLine := token.line
        endLine := terminator.line
        noncommentSourceLines := noncommentLineCount functionSource
        lexicalBlockDepth := blockDepth
        positionalParameters :=
          positionalParameterCount (parameterTokens pairs opening (parameterOpen_opens hopen)) }

/-- mirrors tools/rust_complexity.py:440-527 -/
def extractFunctions (cleanedSource : Str) (pairs : Pairs tokens) :
    Except ComplexityError (List FunctionMetric) := do
  let metrics ← (List.range tokens.length).mapM fun index =>
    match fnName tokens index with
    | some (token, name) => (functionMetric cleanedSource pairs index token name).map some
    | none => pure none
  return metrics.filterMap id

/-- mirrors tools/rust_quality.py:285-307 -/
def parameterSearch (pairs : Pairs tokens) (cursor angleDepth squareDepth : Nat) : Option Nat :=
  if hcursor : cursor < tokens.length then
    let value := tokens[cursor].value
    if value = "<" then parameterSearch pairs (cursor + 1) (angleDepth + 1) squareDepth
    else if value = ">" ∧ 0 < angleDepth then
      parameterSearch pairs (cursor + 1) (angleDepth - 1) squareDepth
    else if value = "[" then parameterSearch pairs (cursor + 1) angleDepth (squareDepth + 1)
    else if value = "]" ∧ 0 < squareDepth then
      parameterSearch pairs (cursor + 1) angleDepth (squareDepth - 1)
    else if hbrace : tokens[cursor].value = "\x7b" ∧ (0 < angleDepth ∨ 0 < squareDepth) then
      let closing := pairs.closing cursor (opens_brace (List.getElem?_eq_getElem hcursor) hbrace.1)
      parameterSearch pairs (closing + 1) angleDepth squareDepth
    else if value = "(" ∧ angleDepth = 0 ∧ squareDepth = 0 then some cursor
    else if [";", "\x7b", "\x7d"].contains value ∧ angleDepth = 0 ∧ squareDepth = 0 then none
    else parameterSearch pairs (cursor + 1) angleDepth squareDepth
  else none
termination_by tokens.length - cursor
decreasing_by
  · omega
  · omega
  · omega
  · omega
  · have hlt := pairs.lt_closing (opens_brace (List.getElem?_eq_getElem hcursor) hbrace.1)
    omega
  · omega

end Zrm.L6.RustComplexity
