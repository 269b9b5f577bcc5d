import Zrm.L6Tools.RustLexer

/-!
# The scanners agree

At every cursor both scanners see the same lexeme, so they stay in step and fail together.

* `stripNonCodeFrom_eq`, `stripCommentsFrom_eq`: the loops, as walks over lexemes.
* `InStep`: what holds of the two outputs at every cursor.
* `scanners_agree`: the outputs of both on every source.
-/
namespace Zrm.L6.RustComplexity

open Result Text

/-! ## Lexemes -/

/-- What starts at the cursor, and where it ends. -/
inductive Lexeme
  | comment (stop : Nat)
  | literal (stop : Nat)
  | code

def lexeme (isAlnum : Char → Bool) (source : Str) (cursor : Nat) : Except ComplexityError Lexeme :=
  if startsWith source ['/', '/'] cursor then .ok (.comment (lineCommentEnd source cursor))
  else if startsWith source ['/', '*'] cursor then
    if (blockCommentLoop source (cursor + 2) 1).2 ≠ 0 then .error ⟨"unterminated Rust block comment"⟩
    else .ok (.comment (blockCommentLoop source (cursor + 2) 1).1)
  else
    match rawStringEnd isAlnum source cursor with
    | .error e => .error e
    | .ok (some rawEnd) => .ok (.literal rawEnd)
    | .ok none =>
      if source[cursor]? = some '"' then (quotedStringEnd source cursor).map .literal
      else if source[cursor]? = some '\'' then
        match characterLiteralEnd source cursor with
        | some stop => .ok (.literal stop)
        | none => .ok .code
      else .ok .code

variable {isAlnum : Char → Bool} {source : Str} {cursor : Nat}

/-- The tests of a turn, in the order in which both loops make them, find the lexeme. -/
theorem turn_eq_lexeme (hcursor : cursor < source.length)
    (onComment onLiteral : Nat → Except ComplexityError Str) (onCode : Except ComplexityError Str) :
    (if _hline : startsWith source ['/', '/'] cursor then onComment (lineCommentEnd source cursor)
    else if startsWith source ['/', '*'] cursor then
      if (blockCommentLoop source (cursor + 2) 1).2 ≠ 0 then .error ⟨"unterminated Rust block comment"⟩
      else onComment (blockCommentLoop source (cursor + 2) 1).1
    else
      match _hraw : rawStringEnd isAlnum source cursor with
      | .error e => .error e
      | .ok (some rawEnd) => onLiteral rawEnd
      | .ok none =>
        if source[cursor] = '"' then
          match _hquoted : quotedStringEnd source cursor with
          | .error e => .error e
          | .ok stop => onLiteral stop
        else
          match _hchar : if source[cursor] = '\'' then characterLiteralEnd source cursor else none with
          | some stop => onLiteral stop
          | none => onCode) =
      match lexeme isAlnum source cursor with
      | .error e => .error e
      | .ok (.comment stop) => onComment stop
      | .ok (.literal stop) => onLiteral stop
      | .ok .code => onCode := by
  have hget : ∀ c, source[cursor]? = some c ↔ source[cursor] = c := fun c => by
    rw [List.getElem?_eq_getElem hcursor, Option.some.injEq]
  unfold lexeme
  simp only [hget]
  split
  · rfl
  · split
    · split
      · rfl
      · rfl
    · split
      · rename_i e hraw
        rw [hraw]
      · rename_i rawEnd hraw
        rw [hraw]
      · rename_i hraw
        rw [hraw]
        simp only
        split
        · split
          · rename_i e hquoted
            rw [hquoted]
            rfl
          · rename_i stop hquoted
            rw [hquoted]
            rfl
        · split
          · rename_i stop hchar
            split at hchar
            · rename_i htick
              rw [if_pos htick, hchar]
            · cases hchar
          · rename_i hchar
            split at hchar
            · rename_i htick
              rw [if_pos htick, hchar]
            · rename_i htick
              rw [if_neg htick]

theorem stripNonCodeFrom_eq (hcursor : cursor < source.length) (output : Str) :
    stripNonCodeFrom isAlnum source cursor output =
      match lexeme isAlnum source cursor with
      | .error e => .error e
      | .ok (.comment stop) | .ok (.literal stop) =>
        stripNonCodeFrom isAlnum source stop (blankNonNewlines output source cursor stop)
      | .ok .code => stripNonCodeFrom isAlnum source (cursor + 1) output := by
  rw [stripNonCodeFrom, dif_pos hcursor]
  exact turn_eq_lexeme hcursor
    (fun stop => stripNonCodeFrom isAlnum source stop (blankNonNewlines output source cursor stop))
    (fun stop => stripNonCodeFrom isAlnum source stop (blankNonNewlines output source cursor stop)) _

theorem stripCommentsFrom_eq (hcursor : cursor < source.length) (output : Str) :
    stripCommentsFrom isAlnum source cursor output =
      match lexeme isAlnum source cursor with
      | .error e => .error e
      | .ok (.comment stop) =>
        stripCommentsFrom isAlnum source stop (blankNonNewlines output source cursor stop)
      | .ok (.literal stop) => stripCommentsFrom isAlnum source stop output
      | .ok .code => stripCommentsFrom isAlnum source (cursor + 1) output := by
  rw [stripCommentsFrom, dif_pos hcursor]
  exact turn_eq_lexeme hcursor
    (fun stop => stripCommentsFrom isAlnum source stop (blankNonNewlines output source cursor stop))
    (fun stop => stripCommentsFrom isAlnum source stop output) _

theorem stripNonCodeFrom_end (h : source.length ≤ cursor) (output : Str) :
    stripNonCodeFrom isAlnum source cursor output = .ok output := by
  rw [stripNonCodeFrom, dif_neg (by omega)]

theorem stripCommentsFrom_end (h : source.length ≤ cursor) (output : Str) :
    stripCommentsFrom isAlnum source cursor output = .ok output := by
  rw [stripCommentsFrom, dif_neg (by omega)]

theorem lexeme_comment {stop : Nat} (h : lexeme isAlnum source cursor = .ok (.comment stop)) :
    cursor < stop ∧ stop ≤ source.length := by
  unfold lexeme at h
  split at h
  · rename_i hline
    cases h
    exact lineCommentEnd_spec hline
  · split at h
    · rename_i hblock
      split at h
      · cases h
      · cases h
        have hstart := startsWith_le hblock (by simp)
        have hge := le_blockCommentLoop source (cursor + 2) 1
        exact ⟨by omega, blockCommentLoop_le source (cursor + 2) 1 hstart⟩
    · split at h
      · cases h
      · cases h
      · split at h
        · cases hquoted : quotedStringEnd source cursor <;> rw [hquoted] at h <;> cases h
        · split at h
          · split at h <;> cases h
          · cases h

theorem lexeme_literal {stop : Nat} (hcursor : cursor < source.length)
    (h : lexeme isAlnum source cursor = .ok (.literal stop)) :
    cursor < stop ∧ stop ≤ source.length := by
  unfold lexeme at h
  split at h
  · cases h
  · split at h
    · split at h <;> cases h
    · split at h
      · cases h
      · rename_i hraw
        cases h
        exact rawStringEnd_spec hraw
      · split at h
        · cases hquoted : quotedStringEnd source cursor with
          | error e =>
            rw [hquoted] at h
            cases h
          | ok stop =>
            rw [hquoted] at h
            cases h
            exact quotedStringEnd_spec hcursor hquoted
        · split at h
          · split at h
            · rename_i hchar
              cases h
              exact characterLiteralEnd_spec hchar
            · cases h
          · cases h

/-- What a scanner leaves as code starts neither a string nor a comment. -/
theorem lexeme_code (h : lexeme isAlnum source cursor = .ok .code) :
    source[cursor]? ≠ some '"' ∧ startsWith source ['/', '/'] cursor = false ∧
      startsWith source ['/', '*'] cursor = false := by
  unfold lexeme at h
  split at h
  · cases h
  · rename_i hline
    split at h
    · split at h <;> cases h
    · rename_i hblock
      split at h
      · cases h
      · cases h
      · split at h
        · cases hquoted : quotedStringEnd source cursor <;> rw [hquoted] at h <;> cases h
        · rename_i hquote
          exact ⟨hquote, Bool.eq_false_iff.mpr hline, Bool.eq_false_iff.mpr hblock⟩

/-! ## What the loops keep -/

/-- Some characters of the source, none of them a newline, became spaces. -/
structure Blanking (source output : Str) : Prop where
  length_eq : output.length = source.length
  char : ∀ i : Nat, output[i]? = source[i]? ∨ output[i]? = some ' ' ∧ source[i]? ≠ some '\n'

variable {output : Str} {start stop i : Nat}

theorem getElem?_blankNonNewlines (output source : Str) (start stop i : Nat) :
    (blankNonNewlines output source start stop)[i]? =
      output[i]?.map fun c => if start ≤ i ∧ i < stop ∧ source[i]? ≠ some '\n' then ' ' else c := by
  rw [blankNonNewlines, List.getElem?_mapIdx]

theorem blank_outside (h : i < start ∨ stop ≤ i) :
    (blankNonNewlines output source start stop)[i]? = output[i]? := by
  rw [getElem?_blankNonNewlines]
  cases output[i]? with
  | none => rfl
  | some c =>
    rw [Option.map_some, if_neg]
    omega

/-- In the interval, what is not a newline is a space. -/
theorem blank_inside (h : Blanking source output) (hstart : start ≤ i) (hstop : i < stop)
    (hlt : i < source.length) :
    (blankNonNewlines output source start stop)[i]? = some ' ' ∧ source[i]? ≠ some '\n' ∨
      (blankNonNewlines output source start stop)[i]? = some '\n' ∧ source[i]? = some '\n' := by
  obtain ⟨c, hget⟩ : ∃ c, output[i]? = some c :=
    ⟨_, List.getElem?_eq_getElem (h.length_eq.symm ▸ hlt)⟩
  rw [getElem?_blankNonNewlines]
  by_cases hnewline : source[i]? = some '\n'
  · right
    rcases h.char i with hsame | ⟨-, hne⟩
    · rw [hsame, hnewline]
      simp
    · exact absurd hnewline hne
  · left
    rw [hget, Option.map_some, if_pos ⟨hstart, hstop, hnewline⟩]
    exact ⟨rfl, hnewline⟩

theorem Blanking.blank (h : Blanking source output) (start stop : Nat) :
    Blanking source (blankNonNewlines output source start stop) where
  length_eq := by rw [blankNonNewlines, List.length_mapIdx, h.length_eq]
  char i := by
    rcases Nat.lt_or_ge i start with hlt | hge
    · rw [blank_outside (.inl hlt)]
      exact h.char i
    · rcases Nat.lt_or_ge i stop with hlt | hge'
      · rcases Nat.lt_or_ge i source.length with hin | hout
        · rcases blank_inside h hge hlt hin with hspace | ⟨hnewline, hsource⟩
          · exact .inr hspace
          · exact .inl (hnewline.trans hsource.symm)
        · left
          rw [List.getElem?_eq_none hout, List.getElem?_eq_none]
          rw [blankNonNewlines, List.length_mapIdx, h.length_eq]
          exact hout
      · rw [blank_outside (.inr hge')]
        exact h.char i

/-- Both outputs at a cursor: they are blanked alike outside literals, and what is behind
the cursor in the first one is code. -/
structure InStep (source : Str) (cursor : Nat) (nonCode comments : Str) : Prop where
  nonCode_blanking : Blanking source nonCode
  comments_blanking : Blanking source comments
  blanked : ∀ i : Nat, comments[i]? ≠ source[i]? → nonCode[i]? = some ' '
  quote : ∀ i < cursor, nonCode[i]? ≠ some '"'
  slash : ∀ i < cursor, nonCode[i]? = some '/' → source[i + 1]? ≠ some '/' ∧ source[i + 1]? ≠ some '*'

variable {nonCode comments : Str}

theorem inStep_start (source : Str) : InStep source 0 source source where
  nonCode_blanking := ⟨rfl, fun _ => .inl rfl⟩
  comments_blanking := ⟨rfl, fun _ => .inl rfl⟩
  blanked i h := absurd rfl h
  quote i hi := by omega
  slash i hi := by omega

/-- Blanked characters are no quotes and no slashes. -/
theorem InStep.blank_nonCode (h : InStep source cursor nonCode comments) (hstop : stop ≤ source.length) :
    InStep source stop (blankNonNewlines nonCode source cursor stop) comments := by
  have hinside : ∀ {i : Nat}, cursor ≤ i → i < stop →
      (blankNonNewlines nonCode source cursor stop)[i]? = some ' ' ∨
        (blankNonNewlines nonCode source cursor stop)[i]? = some '\n' := by
    intro i hge hlt
    rcases blank_inside h.nonCode_blanking hge hlt (by omega) with ⟨hspace, -⟩ | ⟨hnewline, -⟩
    · exact .inl hspace
    · exact .inr hnewline
  refine ⟨h.nonCode_blanking.blank cursor stop, h.comments_blanking, fun i hi => ?_, fun i hi => ?_,
    fun i hi => ?_⟩
  · rcases Nat.lt_or_ge i cursor with hlt | hge
    · rw [blank_outside (.inl hlt)]
      exact h.blanked i hi
    · rcases Nat.lt_or_ge i stop with hlt | hge'
      · rcases blank_inside h.nonCode_blanking hge hlt (by omega) with ⟨hspace, -⟩ | ⟨-, hsource⟩
        · exact hspace
        · -- a newline of the source is still there in both outputs
          rcases h.comments_blanking.char i with hsame | ⟨-, hne⟩
          · exact absurd hsame hi
          · exact absurd hsource hne
      · rw [blank_outside (.inr hge')]
        exact h.blanked i hi
  · rcases Nat.lt_or_ge i cursor with hlt | hge
    · rw [blank_outside (.inl hlt)]
      exact h.quote i hlt
    · rcases hinside hge hi with hc | hc <;> rw [hc] <;> decide
  · rcases Nat.lt_or_ge i cursor with hlt | hge
    · rw [blank_outside (.inl hlt)]
      exact h.slash i hlt
    · intro hslash
      rcases hinside hge hi with hc | hc <;> rw [hc] at hslash <;> cases hslash

theorem InStep.blank_comments (h : InStep source stop nonCode comments)
    (hnonCode : ∀ i, cursor ≤ i → i < stop → nonCode[i]? = some ' ' ∨ source[i]? = some '\n') :
    InStep source stop nonCode (blankNonNewlines comments source cursor stop) := by
  refine ⟨h.nonCode_blanking, h.comments_blanking.blank cursor stop, fun i hi => ?_, h.quote, h.slash⟩
  by_cases hin : cursor ≤ i ∧ i < stop
  · rcases hnonCode i hin.1 hin.2 with hspace | hnewline
    · exact hspace
    · rcases (h.comments_blanking.blank cursor stop).char i with hsame | ⟨-, hne⟩
      · exact absurd hsame hi
      · exact absurd hnewline hne
  · rw [blank_outside (by omega)] at hi
    exact h.blanked i hi

theorem InStep.comment (h : InStep source cursor nonCode comments) (hstop : stop ≤ source.length) :
    InStep source stop (blankNonNewlines nonCode source cursor stop)
      (blankNonNewlines comments source cursor stop) := by
  refine (h.blank_nonCode hstop).blank_comments fun i hge hlt => ?_
  rcases blank_inside h.nonCode_blanking hge hlt (by omega) with ⟨hspace, -⟩ | ⟨-, hnewline⟩
  · exact .inl hspace
  · exact .inr hnewline

theorem InStep.code (h : InStep source cursor nonCode comments)
    (hcode : lexeme isAlnum source cursor = .ok .code) :
    InStep source (cursor + 1) nonCode comments := by
  obtain ⟨hquote, hline, hblock⟩ := lexeme_code hcode
  refine ⟨h.nonCode_blanking, h.comments_blanking, h.blanked, fun i hi => ?_, fun i hi hslash => ?_⟩
  · rcases Nat.lt_or_ge i cursor with hlt | hge
    · exact h.quote i hlt
    · obtain rfl : i = cursor := by omega
      rcases h.nonCode_blanking.char i with hsame | ⟨hspace, -⟩
      · rwa [hsame]
      · rw [hspace]
        decide
  · rcases Nat.lt_or_ge i cursor with hlt | hge
    · exact h.slash i hlt hslash
    · obtain rfl : i = cursor := by omega
      rcases h.nonCode_blanking.char i with hsame | ⟨hspace, -⟩
      · rw [hsame] at hslash
        refine ⟨fun hnext => ?_, fun hnext => ?_⟩
        · rw [startsWith_pair.mpr ⟨hslash, hnext⟩] at hline
          cases hline
        · rw [startsWith_pair.mpr ⟨hslash, hnext⟩] at hblock
          cases hblock
      · rw [hspace] at hslash
        cases hslash

/-! ## Whole sources -/

/-- From outputs in step, both loops fail alike or end in step. -/
theorem loops_agree (h : InStep source cursor nonCode comments) :
    (∃ e, stripNonCodeFrom isAlnum source cursor nonCode = .error e ∧
      stripCommentsFrom isAlnum source cursor comments = .error e) ∨
    ∃ nonCode' comments', stripNonCodeFrom isAlnum source cursor nonCode = .ok nonCode' ∧
      stripCommentsFrom isAlnum source cursor comments = .ok comments' ∧
      ∃ stop, source.length ≤ stop ∧ InStep source stop nonCode' comments' := by
  induction hd : source.length - cursor using Nat.strongRecOn generalizing cursor nonCode comments with
  | ind d ih =>
    rcases Nat.lt_or_ge cursor source.length with hcursor | hend
    · rw [stripNonCodeFrom_eq hcursor, stripCommentsFrom_eq hcursor]
      cases hlexeme : lexeme isAlnum source cursor with
      | error e => exact .inl ⟨e, rfl, rfl⟩
      | ok lexeme =>
        cases lexeme with
        | comment stop =>
          obtain ⟨hlt, hle⟩ := lexeme_comment hlexeme
          exact ih _ (by omega) (h.comment hle) rfl
        | literal stop =>
          obtain ⟨hlt, hle⟩ := lexeme_literal hcursor hlexeme
          exact ih _ (by omega) (h.blank_nonCode hle) rfl
        | code => exact ih _ (by omega) (h.code hlexeme) rfl
    · rw [stripNonCodeFrom_end hend, stripCommentsFrom_end hend]
      exact .inr ⟨_, _, rfl, rfl, cursor, hend, h⟩

theorem stripRustNonCode_blanking {nonCode : Str} (h : stripRustNonCode isAlnum source = .ok nonCode) :
    Blanking source nonCode := by
  rcases @loops_agree isAlnum _ _ _ _ (inStep_start source) with ⟨e, herror, -⟩ | hok
  · rw [stripRustNonCode, herror] at h
    cases h
  · obtain ⟨nonCode', _, hnonCode, -, stop, -, hinStep⟩ := hok
    rw [stripRustNonCode, hnonCode] at h
    cases h
    exact hinStep.nonCode_blanking

theorem Blanking.char_or_space (h : Blanking source output) {c : Char} (hc : source[i]? = some c) :
    output[i]? = some c ∨ output[i]? = some ' ' := by
  rcases h.char i with hsame | ⟨hspace, -⟩
  · exact .inl (hsame.trans hc)
  · exact .inr hspace

theorem Blanking.newline (h : Blanking source output) (hi : source[i]? = some '\n') :
    output[i]? = some '\n' := by
  rcases h.char i with hsame | ⟨-, hne⟩
  · exact hsame.trans hi
  · exact absurd hi hne

theorem InStep.slash_next (h : InStep source stop nonCode comments) (hstop : source.length ≤ stop)
    {c : Char} (hc : c = '/' ∨ c = '*') (i : Nat) : startsWith nonCode ['/', c] i = false := by
  rw [Bool.eq_false_iff]
  intro hstart
  obtain ⟨hslash, hnext⟩ := startsWith_pair.mp hstart
  have hlt := (List.getElem?_eq_some_iff.mp hslash).1
  rw [h.nonCode_blanking.length_eq] at hlt
  obtain ⟨hline, hblock⟩ := h.slash i (by omega) hslash
  rcases h.nonCode_blanking.char (i + 1) with hsame | ⟨hspace, -⟩
  · rw [hsame] at hnext
    rcases hc with rfl | rfl
    · exact hline hnext
    · exact hblock hnext
  · rw [hspace] at hnext
    rcases hc with rfl | rfl <;> cases hnext

/-- **The scanners agree.** Both raise, with the same text, or both return: each keeps the
length and the newlines and blanks other characters only, what the second one blanks the
first one blanks too, and no string or comment is left in the first output. -/
theorem scanners_agree (isAlnum : Char → Bool) (source : Str) :
    (∃ e, stripRustNonCode isAlnum source = .error e ∧ stripRustComments isAlnum source = .error e) ∨
    ∃ nonCode comments, stripRustNonCode isAlnum source = .ok nonCode ∧
      stripRustComments isAlnum source = .ok comments ∧
      (∀ output ∈ [nonCode, comments], output.length = source.length ∧
        (∀ i : Nat, source[i]? = some '\n' → output[i]? = some '\n') ∧
        ∀ (i : Nat) c, source[i]? = some c → output[i]? = some c ∨ output[i]? = some ' ') ∧
      (∀ i : Nat, comments[i]? ≠ source[i]? → nonCode[i]? = some ' ') ∧
      '"' ∉ nonCode ∧
      ∀ i, startsWith nonCode ['/', '/'] i = false ∧ startsWith nonCode ['/', '*'] i = false := by
  rcases @loops_agree isAlnum _ _ _ _ (inStep_start source) with herror | hok
  · exact .inl herror
  · obtain ⟨nonCode, comments, hnonCode, hcomments, stop, hstop, h⟩ := hok
    refine .inr ⟨nonCode, comments, hnonCode, hcomments, fun output houtput => ?_, h.blanked,
      fun hmem => ?_, fun i => ⟨h.slash_next hstop (.inl rfl) i, h.slash_next hstop (.inr rfl) i⟩⟩
    · have hblanking : Blanking source output := by
        rcases List.mem_pair.mp houtput with rfl | rfl
        · exact h.nonCode_blanking
        · exact h.comments_blanking
      exact ⟨hblanking.length_eq, fun i hi => hblanking.newline hi,
        fun i c hc => hblanking.char_or_space hc⟩
    · obtain ⟨i, hi⟩ := List.mem_iff_getElem?.mp hmem
      have hlt := (List.getElem?_eq_some_iff.mp hi).1
      rw [h.nonCode_blanking.length_eq] at hlt
      exact h.quote i (by omega) hi

end Zrm.L6.RustComplexity
