import Zrm.L6Tools.Text

/-!
# The two Rust scanners (`tools/rust_complexity.py`)

`_strip_non_code` blanks comments and literals, `strip_rust_comments` comments only. Both
walk the source with a cursor; the two bodies are kept apart as in the source, and one
`lexeme` says what either finds at the cursor. Whether a character continues a word
(`str.isalnum`) is the parameter `isAlnum`.
-/
namespace Zrm.L6.RustComplexity

open Result Text

/-- mirrors tools/rust_complexity.py:65-66 -/
structure ComplexityError where
  text : String
  deriving DecidableEq

/-- mirrors tools/rust_complexity.py:140-145 -/
def blankNonNewlines (output source : Str) (start stop : Nat) : Str :=
  output.mapIdx fun index c =>
    if start ≤ index ∧ index < stop ∧ source[index]? ≠ some '\n' then ' ' else c

/-! ## The ends of literals -/

/-- mirrors tools/rust_complexity.py:148-169 -/
def rawStringEnd (isAlnum : Char → Bool) (source : Str) (start : Nat) :
    Except ComplexityError (Option Nat) :=
  if 0 < start ∧ (source[start - 1]?.any fun c => isAlnum c || c == '_') then .ok none
  else
    let word : Option Nat :=
      if startsWith source ['b', 'r'] start || startsWith source ['c', 'r'] start then some 2
      else if startsWith source ['r'] start then some 1
      else none
    match word with
    | none => .ok none
    | some length =>
      let hashStart := start + length
      let hashCount := ((source.drop hashStart).takeWhile (· == '#')).length
      let cursor := hashStart + hashCount
      if source[cursor]? ≠ some '"' then .ok none
      else
        let terminator := '"' :: List.replicate hashCount '#'
        match find source terminator (cursor + 1) with
        | none => .error ⟨"unterminated Rust raw string"⟩
        | some endStart => .ok (some (endStart + terminator.length))

/-- The loop of `_quoted_string_end`, over what is left of the source at the cursor. -/
def quotedStringFrom : Str → Nat → Bool → Except ComplexityError Nat
  | [], _, _ => .error ⟨"unterminated Rust string literal"⟩
  | character :: rest, cursor, escaped =>
    if escaped then quotedStringFrom rest (cursor + 1) false
    else if character = '\\' then quotedStringFrom rest (cursor + 1) true
    else if character = '"' then .ok (cursor + 1)
    else quotedStringFrom rest (cursor + 1) false

/-- mirrors tools/rust_complexity.py:172-186 -/
def quotedStringEnd (source : Str) (start : Nat) : Except ComplexityError Nat :=
  quotedStringFrom (source.drop (start + 1)) (start + 1) false

/-- The closing quote of a character literal, if it is there. -/
def closingQuote (source : Str) (closingIndex : Nat) : Option Nat :=
  if source[closingIndex]? = some '\'' then some (closingIndex + 1) else none

/-- mirrors tools/rust_complexity.py:189-215 -/
def characterLiteralEnd (source : Str) (start : Nat) : Option Nat :=
  let valueIndex := start + 1
  match source[valueIndex]? with
  | none => none
  | some value =>
    if value = '\r' ∨ value = '\n' ∨ value = '\'' then none
    else if value ≠ '\\' then closingQuote source (valueIndex + 1)
    else
      let escapeIndex := valueIndex + 1
      match source[escapeIndex]? with
      | none => none
      | some escape =>
        if escape = 'x' then closingQuote source (escapeIndex + 3)
        else if escape = 'u' ∧ startsWith source ['{'] (escapeIndex + 1) then
          match find source ['}'] (escapeIndex + 2) with
          | none => none
          | some closingBrace =>
            if '\n' ∈ (source.take closingBrace).drop escapeIndex then none
            else closingQuote source (closingBrace + 1)
        else closingQuote source (escapeIndex + 1)

/-! ## The ends of comments -/

/-- The end of a line comment at `start`; both scanners compute it so. -/
def lineCommentEnd (source : Str) (start : Nat) : Nat :=
  (find source ['\n'] (start + 2)).getD source.length

/-- The `while end < len(source) and depth > 0` of both scanners: the last `end` and `depth`. -/
def blockCommentLoop (source : Str) (stop depth : Nat) : Nat × Nat :=
  if stop < source.length ∧ 0 < depth then
    if startsWith source ['/', '*'] stop then blockCommentLoop source (stop + 2) (depth + 1)
    else if startsWith source ['*', '/'] stop then blockCommentLoop source (stop + 2) (depth - 1)
    else blockCommentLoop source (stop + 1) depth
  else (stop, depth)
termination_by source.length - stop

theorem le_blockCommentLoop (source : Str) (stop depth : Nat) :
    stop ≤ (blockCommentLoop source stop depth).1 := by
  fun_induction blockCommentLoop source stop depth with
  | case1 stop depth _ _ ih => omega
  | case2 stop depth _ _ _ ih => omega
  | case3 stop depth _ _ _ ih => omega
  | case4 stop depth _ => exact Nat.le_refl _

theorem blockCommentLoop_le (source : Str) (stop depth : Nat) (h : stop ≤ source.length) :
    (blockCommentLoop source stop depth).1 ≤ source.length := by
  fun_induction blockCommentLoop source stop depth with
  | case1 stop depth _ hstart ih => exact ih (startsWith_le hstart (by simp))
  | case2 stop depth _ _ hstart ih => exact ih (startsWith_le hstart (by simp))
  | case3 stop depth hloop _ _ ih => exact ih hloop.1
  | case4 stop depth _ => exact h

theorem lineCommentEnd_spec {source : Str} {start : Nat}
    (h : startsWith source ['/', '/'] start = true) :
    start < lineCommentEnd source start ∧ lineCommentEnd source start ≤ source.length := by
  have hle : start + 2 ≤ source.length := startsWith_le h (by simp)
  unfold lineCommentEnd
  cases hfind : find source ['\n'] (start + 2) with
  | none => exact ⟨by rw [Option.getD_none]; omega, Nat.le_refl _⟩
  | some i =>
    obtain ⟨hge, hlt, -⟩ := find_spec hfind
    exact ⟨by rw [Option.getD_some]; omega, hlt.le⟩

/-! ### A literal ends after its start, within the source -/

theorem rawStringEnd_spec {isAlnum : Char → Bool} {source : Str} {start stop : Nat}
    (h : rawStringEnd isAlnum source start = .ok (some stop)) :
    start < stop ∧ stop ≤ source.length := by
  unfold rawStringEnd at h
  split at h
  · cases h
  · simp only at h
    split at h
    · cases h
    · split at h
      · cases h
      · split at h
        · cases h
        · rename_i endStart hfind
          cases h
          obtain ⟨hge, -, hstart⟩ := find_spec hfind
          have hle := startsWith_le hstart (by simp)
          exact ⟨by omega, hle⟩

theorem quotedStringFrom_spec {rest : Str} {cursor stop : Nat} {escaped : Bool}
    (h : quotedStringFrom rest cursor escaped = .ok stop) :
    cursor < stop ∧ stop ≤ cursor + rest.length := by
  fun_induction quotedStringFrom rest cursor escaped with
  | case1 => cases h
  | case2 cursor character rest ih =>
    have hrest := ih h
    rw [List.length_cons]
    omega
  | case3 cursor escaped rest _ ih =>
    have hrest := ih h
    rw [List.length_cons]
    omega
  | case4 cursor escaped rest _ _ =>
    cases h
    rw [List.length_cons]
    omega
  | case5 cursor escaped character rest _ _ _ ih =>
    have hrest := ih h
    rw [List.length_cons]
    omega

theorem quotedStringEnd_spec {source : Str} {start stop : Nat} (hlt : start < source.length)
    (h : quotedStringEnd source start = .ok stop) : start < stop ∧ stop ≤ source.length := by
  have hspec := quotedStringFrom_spec h
  rw [List.length_drop] at hspec
  omega

theorem closingQuote_spec {source : Str} {closingIndex stop : Nat}
    (h : closingQuote source closingIndex = some stop) :
    closingIndex < stop ∧ stop ≤ source.length := by
  unfold closingQuote at h
  split at h
  · rename_i hquote
    cases h
    exact ⟨Nat.lt_succ_self _, (List.getElem?_eq_some_iff.mp hquote).1⟩
  · cases h

theorem characterLiteralEnd_spec {source : Str} {start stop : Nat}
    (h : characterLiteralEnd source start = some stop) : start < stop ∧ stop ≤ source.length := by
  have hquote : ∀ {i}, start < i → closingQuote source i = some stop →
      start < stop ∧ stop ≤ source.length := by
    intro i hi hi'
    have hspec := closingQuote_spec hi'
    omega
  unfold characterLiteralEnd at h
  simp only at h
  split at h
  · cases h
  · split at h
    · cases h
    · split at h
      · exact hquote (by omega) h
      · split at h
        · cases h
        · split at h
          · exact hquote (by omega) h
          · split at h
            · split at h
              · cases h
              · rename_i closingBrace hfind
                split at h
                · cases h
                · have hge := (find_spec hfind).1
                  exact hquote (by omega) h
            · exact hquote (by omega) h

/-! ## The two scanners -/

/-- The loop of `_strip_non_code`. -/
def stripNonCodeFrom (isAlnum : Char → Bool) (source : Str) (cursor : Nat) (output : Str) :
    Except ComplexityError Str :=
  if hcursor : cursor < source.length then
    if hline : startsWith source ['/', '/'] cursor then
      let stop := lineCommentEnd source cursor
      stripNonCodeFrom isAlnum source stop (blankNonNewlines output source cursor stop)
    else if startsWith source ['/', '*'] cursor then
      let block := blockCommentLoop source (cursor + 2) 1
      if block.2 ≠ 0 then .error ⟨"unterminated Rust block comment"⟩
      else stripNonCodeFrom isAlnum source block.1 (blankNonNewlines output source cursor block.1)
    else
      match hraw : rawStringEnd isAlnum source cursor with
      | .error e => .error e
      | .ok (some rawEnd) =>
        stripNonCodeFrom isAlnum source rawEnd (blankNonNewlines output source cursor rawEnd)
      | .ok none =>
        if source[cursor] = '"' then
          match hquoted : quotedStringEnd source cursor with
          | .error e => .error e
          | .ok stop =>
            stripNonCodeFrom isAlnum source stop (blankNonNewlines output source cursor stop)
        else
          match hchar : if source[cursor] = '\'' then characterLiteralEnd source cursor else none with
          | some stop =>
            stripNonCodeFrom isAlnum source stop (blankNonNewlines output source cursor stop)
          | none => stripNonCodeFrom isAlnum source (cursor + 1) output
  else .ok output
termination_by source.length - cursor
decreasing_by
  · have hstop := (lineCommentEnd_spec hline).1
    omega
  · have hstop := le_blockCommentLoop source (cursor + 2) 1
    omega
  · have hstop := (rawStringEnd_spec hraw).1
    omega
  · have hstop := (quotedStringEnd_spec hcursor hquoted).1
    omega
  · have hstop : cursor < stop := by
      split at hchar
      · exact (characterLiteralEnd_spec hchar).1
      · cases hchar
    omega
  · omega

/-- mirrors tools/rust_complexity.py:218-270 -/
def stripRustNonCode (isAlnum : Char → Bool) (source : Str) : Except ComplexityError Str :=
  stripNonCodeFrom isAlnum source 0 source

/-- The loop of `strip_rust_comments`. -/
def stripCommentsFrom (isAlnum : Char → Bool) (source : Str) (cursor : Nat) (output : Str) :
    Except ComplexityError Str :=
  if hcursor : cursor < source.length then
    if hline : startsWith source ['/', '/'] cursor then
      let stop := lineCommentEnd source cursor
      stripCommentsFrom isAlnum source stop (blankNonNewlines output source cursor stop)
    else if startsWith source ['/', '*'] cursor then
      let block := blockCommentLoop source (cursor + 2) 1
      if block.2 ≠ 0 then .error ⟨"unterminated Rust block comment"⟩
      else stripCommentsFrom isAlnum source block.1 (blankNonNewlines output source cursor block.1)
    else
      match hraw : rawStringEnd isAlnum source cursor with
      | .error e => .error e
      | .ok (some rawEnd) => stripCommentsFrom isAlnum source rawEnd output
      | .ok none =>
        if source[cursor] = '"' then
          match hquoted : quotedStringEnd source cursor with
          | .error e => .error e
          | .ok stop => stripCommentsFrom isAlnum source stop output
        else
          match hchar : if source[cursor] = '\'' then characterLiteralEnd source cursor else none with
          | some stop => stripCommentsFrom isAlnum source stop output
          | none => stripCommentsFrom isAlnum source (cursor + 1) output
  else .ok output
termination_by source.length - cursor
decreasing_by
  · have hstop := (lineCommentEnd_spec hline).1
    omega
  · have hstop := le_blockCommentLoop source (cursor + 2) 1
    omega
  · have hstop := (rawStringEnd_spec hraw).1
    omega
  · have hstop := (quotedStringEnd_spec hcursor hquoted).1
    omega
  · have hstop : cursor < stop := by
      split at hchar
      · exact (characterLiteralEnd_spec hchar).1
      · cases hchar
    omega
  · omega

/-- mirrors tools/rust_complexity.py:273-315 -/
def stripRustComments (isAlnum : Char → Bool) (source : Str) : Except ComplexityError Str :=
  stripCommentsFrom isAlnum source 0 source

end Zrm.L6.RustComplexity
