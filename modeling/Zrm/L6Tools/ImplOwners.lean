import Zrm.Core.Brackets
import Zrm.Core.Dict
import Zrm.Core.LevelStack
import Zrm.Core.Regex
import Zrm.L6Tools.ScannerAgreement

/-!
# Owners of lines (`tools/check_architecture.py`)

`impl_owners_by_line` keeps the brace depth at line ends only. It gives a line to the last
header that no line end undercut since, where an `impl` block really goes from its header
to the line of its closing brace.

`cleaned` is the source with comments and literals blanked (`strip_rust_non_code`): its braces
and headers are the real ones, where the loop takes those in front of `//` on each line.

Results:
* `implOwnersByLine_get?`: what the loop returns.
* `live_iff_includes`: blocks that end where line ends tell are kept as long as they last.
* `closes_below_of_owners`: blocks apart from each other end so, if the mapping is exact.
* `impl_owners_exact`: where a line is mapped to the innermost block of the line.
-/
namespace Zrm.L6.Architecture

open Brackets LevelStack Regex RustComplexity Text Value

/-! ## Patterns -/

/-- One expression after the other. -/
def cat (items : List Re) : Re := items.foldr .seq .eps

def opt (r : Re) : Re := .alt r .eps

def word (w : String) : Re := .word w.toList

/-- `\s*` and `\s+` -/
def spaces : Re := .star (.set isSpace)
def spaces1 : Re := .some isSpace

/-- `[A-Za-z0-9_]` -/
def isWordChar (c : Char) : Bool := c.isAlphanum || c == '_'

/-- The text of a group. -/
def groupText (source : Str) (m : Match) : String :=
  String.ofList ((m.group.map (substring source)).getD [])

/-- `<[^>]+>` -/
def angleGroup : Re := cat [word "<", .some (· != '>'), word ">"]

/-- `^\s*impl(?:<[^>]+>)?\s+(?:[^\s]+\s+for\s+)?([A-Za-z0-9_]+)(?:<[^>]+>)?\s*\{` -/
def implPattern : Re :=
  cat [.look fun before _ => before.isNone, spaces, word "impl", opt angleGroup, spaces1,
    opt (cat [.some fun c => !isSpace c, spaces1, word "for", spaces1]), .group (.some isWordChar),
    opt angleGroup, spaces, word "\x7b"]

/-! ## The loop -/

/-- `line.split("//", 1)[0]` -/
def codePart (line : Str) : Str :=
  match find line ['/', '/'] 0 with
  | some i => line.take i
  | none => line

/-- `code.count("{") - code.count("}")` -/
def braceDelta (code : Str) : Int := (code.count '{' : Int) - code.count '}'

/-- The type that a header line names. -/
def implType (code : Str) : Option String := (matchAt code implPattern 0).map (groupText code)

/-- The loop of `impl_owners_by_line`; the top of `active` comes first. -/
def implOwnersFrom (lineNumber : Nat) (lines : List Str) (owners : Dict Nat String)
    (active : List (Int × String)) (depth : Int) : Dict Nat String :=
  match lines with
  | [] => owners
  | line :: lines =>
    let code := codePart line
    let after := depth + braceDelta code
    let active :=
      match implType code with
      | some type => (after, type) :: active
      | none => active
    let owners :=
      match active with
      | (_, type) :: _ => owners.set lineNumber type
      | [] => owners
    implOwnersFrom (lineNumber + 1) lines owners (active.dropWhile fun a => after < a.1) after

/-- mirrors tools/check_architecture.py:453-472 -/
def implOwnersByLine (source : Str) : Dict Nat String :=
  implOwnersFrom 1 (splitlines source) Dict.empty [] 0

example : (implOwnersByLine "impl A \x7b\n\x7d\nfn f() \x7b\x7d".toList).items = [(1, "A"), (2, "A")] := by
  decide +kernel

/-! ## What the loop returns -/

variable (lines : List Str)

/-- The header type of a line, if it is one. -/
def headerOf (l : Nat) : Option String := (lines[l]?).bind fun line => implType (codePart line)

def isHeader (l : Nat) : Bool := (headerOf lines l).isSome

/-- The depth after a line. -/
def levelAfter (l : Nat) : Int := ((lines.take (l + 1)).map fun line => braceDelta (codePart line)).sum

/-- The owner of a line by line ends: the type of the last header that no line end undercut. -/
def ownerByLineEnds (l : Nat) : Option String :=
  (opened (levelAfter lines) (isHeader lines) l).head?.bind (headerOf lines)

/-- The depth before a line. -/
def levelBefore (l : Nat) : Int := ((lines.take l).map fun line => braceDelta (codePart line)).sum

/-- What stands on `active` for a header line. -/
def entry (l : Nat) : Int × String := (levelAfter lines l, (headerOf lines l).getD "")

variable {lines}

theorem levelAfter_eq {l : Nat} {line : Str} (h : lines[l]? = some line) :
    levelAfter lines l = levelBefore lines l + braceDelta (codePart line) := by
  obtain ⟨hlt, rfl⟩ := List.getElem?_eq_some_iff.mp h
  rw [levelAfter, levelBefore, List.take_succ_eq_append_getElem hlt, List.map_append, List.sum_append]
  simp

theorem headerOf_eq {l : Nat} {line : Str} (h : lines[l]? = some line) :
    headerOf lines l = implType (codePart line) := by
  rw [headerOf, h, Option.bind_some]

/-- The headers on a stack are headers. -/
theorem ownerByLineEnds_eq (l : Nat) : ownerByLineEnds lines l =
    (opened (levelAfter lines) (isHeader lines) l).head?.map fun h => (entry lines h).2 := by
  rw [ownerByLineEnds]
  cases hhead : (opened (levelAfter lines) (isHeader lines) l).head? with
  | none => rfl
  | some h =>
    obtain ⟨⟨hmark, -⟩, -⟩ := (opened_top l h).mp hhead
    obtain ⟨type, htype⟩ := Option.isSome_iff_exists.mp hmark
    rw [Option.bind_some, Option.map_some, entry, htype, Option.getD_some]

/-- The stack with the header of a line on it. -/
theorem active_opened {n : Nat} {line : Str} (hget : lines[n]? = some line) :
    (match implType (codePart line) with
      | some type => (levelAfter lines n, type) :: (before (levelAfter lines) (isHeader lines) n).map (entry lines)
      | none => (before (levelAfter lines) (isHeader lines) n).map (entry lines)) =
      (opened (levelAfter lines) (isHeader lines) n).map (entry lines) := by
  have hheader := headerOf_eq hget
  rw [opened, isHeader, hheader]
  cases htype : implType (codePart line) with
  | none => rfl
  | some type =>
    rw [Option.isSome_some, if_pos rfl, List.map_cons, entry, hheader, htype, Option.getD_some]

/-- The owners with that of a line. -/
theorem owners_record {n : Nat} {owners : Dict Nat String}
    (howners : ∀ k, owners.get? (k + 1) = if k < n then ownerByLineEnds lines k else none) (k : Nat) :
    (match (opened (levelAfter lines) (isHeader lines) n).map (entry lines) with
      | (_, type) :: _ => owners.set (n + 1) type
      | [] => owners).get? (k + 1) = if k < n + 1 then ownerByLineEnds lines k else none := by
  have howner := @ownerByLineEnds_eq lines n
  cases hopened : opened (levelAfter lines) (isHeader lines) n with
  | nil =>
    rw [hopened] at howner
    simp only [List.map_nil]
    rw [howners k]
    by_cases hk : k = n
    · subst hk
      simp [howner]
    · have hiff : k < n ↔ k < n + 1 := by omega
      simp only [hiff]
  | cons h headers =>
    rw [hopened, List.head?_cons, Option.map_some] at howner
    simp only [List.map_cons]
    rw [Dict.get?_set, howners k]
    by_cases hk : k = n
    · subst hk
      simp [howner]
    · have hiff : k < n ↔ k < n + 1 := by omega
      have hne : ¬ k + 1 = n + 1 := by omega
      rw [if_neg hne]
      simp only [hiff]

/-- After the lines in `done`, the loop has the stack of the headers and the owners so far. -/
theorem implOwnersFrom_get? {done rest : List Str} (hlines : lines = done ++ rest)
    {owners : Dict Nat String}
    (howners : ∀ k, owners.get? (k + 1) = if k < done.length then ownerByLineEnds lines k else none)
    (k : Nat) :
    (implOwnersFrom (done.length + 1) rest owners
      ((before (levelAfter lines) (isHeader lines) done.length).map (entry lines))
      (levelBefore lines done.length)).get? (k + 1) =
        if k < lines.length then ownerByLineEnds lines k else none := by
  induction rest generalizing done owners with
  | nil =>
    rw [List.append_nil] at hlines
    rw [implOwnersFrom, howners k, hlines]
  | cons line rest ih =>
    have hget : lines[done.length]? = some line := by simp [hlines]
    have hafter := levelAfter_eq hget
    have hcut : ((opened (levelAfter lines) (isHeader lines) done.length).map (entry lines)).dropWhile
        (fun a => levelAfter lines done.length < a.1) =
        (before (levelAfter lines) (isHeader lines) (done.length + 1)).map (entry lines) := by
      rw [List.dropWhile_map]
      rfl
    have hlength : (done ++ [line]).length = done.length + 1 := by
      rw [List.length_append, List.length_singleton]
    have hstep := @ih (done ++ [line]) (by simp [hlines]) _ (hlength ▸ owners_record howners)
    rw [hlength] at hstep
    rw [implOwnersFrom]
    simp only [← hafter, active_opened hget, hcut]
    exact hstep

theorem implOwnersByLine_get? (source : Str) (k : Nat) :
    (implOwnersByLine source).get? (k + 1) =
      if k < (splitlines source).length then ownerByLineEnds (splitlines source) k else none :=
  @implOwnersFrom_get? (splitlines source) [] _ rfl _ (fun _ => rfl) k

/-! ## Blocks -/

/-- The braces of a text. -/
def braces (cleaned : Str) : List (Symbol Unit) :=
  cleaned.map fun c => if c = '{' then .opening () else if c = '}' then .closing () else .other

/-- Where the brace of a header stands that was matched on a line. -/
def openingOf (span : Nat × Nat) (m : Match) : Nat := span.1 + m.stop - 1

variable (source cleaned : Str)

/-- An `impl` block: the header on line `header` names `type`, and the brace at `closing`
closes the one it opens. Comments and literals are blanked in `cleaned`. -/
structure ImplBlock (header : Nat) (type : String) (closing : Nat) : Prop where
  named : ∃ span m, (lineSpans source)[header]? = some span ∧
    matchAt (substring cleaned span) implPattern 0 = some m ∧
    groupText (substring cleaned span) m = type ∧
    Matched (braces cleaned) (openingOf span m) closing

/-- The line lies between the header line and the line of the closing brace. -/
def Includes (header closing l : Nat) : Prop :=
  header ≤ l ∧ ∃ span, (lineSpans source)[l]? = some span ∧ span.1 ≤ closing

/-- The innermost block that includes the line, the last one to begin, is one of `type`. -/
def InnermostOwner (l : Nat) (type : String) : Prop :=
  ∃ header closing, ImplBlock source cleaned header type closing ∧ Includes source header closing l ∧
    ∀ header' type' closing', ImplBlock source cleaned header' type' closing' →
      Includes source header' closing' l → header' ≤ header

/-- Every line is mapped to the owner of its innermost block, if it has one. -/
def OwnersExact : Prop :=
  ∀ l, l < (splitlines source).length → ∀ type,
    (implOwnersByLine source).get? (l + 1) = some type ↔ InnermostOwner source cleaned l type

/-- The part of each line in front of `//` has the braces and the header that the line has. -/
def CodeParts : Prop :=
  ∀ span ∈ lineSpans source,
    braceDelta (codePart (substring source span)) = braceDelta (substring cleaned span) ∧
    implType (codePart (substring source span)) = implType (substring cleaned span)

/-- The brace depth at the end of a line. -/
def depthAfter (l : Nat) : Int :=
  (((lineSpans source)[l]?).map fun span => height ((braces cleaned).take span.2)).getD 0

/-- Line ends tell where a block ends: as long as it includes the next line, a line ends at least
as deep as the header line, and the line of its closing brace ends less deep, if it is not the
last one. -/
def ClosesBelow (header closing : Nat) : Prop :=
  ∀ (l : Nat) span, (lineSpans source)[l]? = some span → header ≤ l →
    (Includes source header closing (l + 1) → depthAfter source cleaned header ≤ depthAfter source cleaned l) ∧
    (span.1 ≤ closing → closing < span.2 → l + 1 < (lineSpans source).length →
      depthAfter source cleaned l < depthAfter source cleaned header)

structure EndsAtLines : Prop where
  code : CodeParts source cleaned
  closes : ∀ header type closing, ImplBlock source cleaned header type closing →
    ClosesBelow source cleaned header closing

/-- No line belongs to two blocks, and the one behind a block belongs to none. -/
structure BlocksApart : Prop where
  disjoint : ∀ header type closing header' type' closing', ImplBlock source cleaned header type closing →
    ImplBlock source cleaned header' type' closing' → header < header' →
    ¬ Includes source header closing header'
  gap : ∀ header type closing, ImplBlock source cleaned header type closing → ∀ (last : Nat) span,
    (lineSpans source)[last]? = some span → span.1 ≤ closing → closing < span.2 →
    ∀ header' type' closing', ImplBlock source cleaned header' type' closing' →
      ¬ Includes source header' closing' (last + 1)

variable {source cleaned}

theorem ownerByLineEnds_eq_some {l : Nat} {type : String} :
    ownerByLineEnds lines l = some type ↔ ∃ header, headerOf lines header = some type ∧
      Live (levelAfter lines) (isHeader lines) l header ∧
      ∀ header', Live (levelAfter lines) (isHeader lines) l header' → header' ≤ header := by
  rw [ownerByLineEnds, Option.bind_eq_some_iff]
  refine exists_congr fun header => ?_
  rw [opened_top]
  tauto

theorem getElem?_splitlines (l : Nat) :
    (splitlines source)[l]? = ((lineSpans source)[l]?).map (substring source) := by
  rw [splitlines, List.getElem?_map]

/-! ### Depths -/

theorem height_braces (code : Str) : height (braces code) = braceDelta code := by
  induction code with
  | nil => rfl
  | cons c code ih =>
    rw [braces, List.map_cons, height_cons, ← braces, ih]
    by_cases hopen : c = '{'
    · subst hopen
      simp [braceDelta, weight]
      omega
    · by_cases hclose : c = '}'
      · subst hclose
        simp [braceDelta, weight]
        omega
      · simp [braceDelta, weight, hopen, hclose]

theorem braces_substring (span : Nat × Nat) :
    braces (substring cleaned span) = between (braces cleaned) span.1 span.2 := by
  rw [braces, substring, List.map_drop, List.map_take, between, List.drop_take]
  rfl

theorem height_between {l : List (Symbol Unit)} {i j : Nat} (hij : i ≤ j) :
    height (l.take j) = height (l.take i) + height (between l i j) := by
  rw [← between_zero, between_append (Nat.zero_le i) hij, height_append, between_zero]

/-- A line end of the source is no brace. -/
theorem braces_lineBreak (h : Blanking source cleaned) {i : Nat}
    (hi : (source[i]?).any isLineBreak = true) : (braces cleaned)[i]? = some .other := by
  obtain ⟨c, hc, hbreak⟩ := (Option.any_eq_true _ _).mp hi
  have hne : ∀ b : Char, isLineBreak b = true → b ≠ '{' ∧ b ≠ '}' := by
    intro b hb
    refine ⟨fun heq => ?_, fun heq => ?_⟩ <;> rw [heq] at hb <;> exact absurd hb (by decide)
  rw [braces, List.getElem?_map]
  rcases h.char i with hsame | ⟨hspace, -⟩
  · rw [hsame, hc, Option.map_some, if_neg (hne c hbreak).1, if_neg (hne c hbreak).2]
  · rw [hspace]
    rfl

theorem height_lineBreak (h : Blanking source cleaned) {i : Nat}
    (hi : (source[i]?).any isLineBreak = true) :
    height ((braces cleaned).take (i + 1)) = height ((braces cleaned).take i) := by
  rw [height_between (Nat.le_succ i), between_cons (braces_lineBreak h hi) (Nat.lt_succ_self i),
    between_self]
  simp [weight]

/-- The depth after a line is the height of the code up to its end. -/
theorem levelAfter_eq_depth (h : Blanking source cleaned) (hcode : CodeParts source cleaned)
    {l : Nat} {span : Nat × Nat} (hspan : (lineSpans source)[l]? = some span) :
    levelAfter (splitlines source) l = depthAfter source cleaned l := by
  have hsum := (tiled_lineSpans source).sum (f := fun i => height ((braces cleaned).take i))
    (fun i hi => height_lineBreak h hi) hspan
  simp only [List.take_zero, height_nil, zero_add] at hsum
  rw [depthAfter, hspan, Option.map_some, Option.getD_some, hsum, levelAfter, splitlines, List.map_take, ← List.map_take, ← List.map_take, List.map_map]
  congr 1
  refine List.map_congr_left fun span' hspan' => ?_
  have hmem := List.mem_of_mem_take hspan'
  obtain ⟨j, hj⟩ := List.mem_iff_getElem?.mp hmem
  have hle := ((tiled_lineSpans source).le hj).2
  rw [Function.comp_apply, (hcode span' hmem).1, ← height_braces, braces_substring,
    height_between hle]
  omega

/-! ### Blocks that end where their line does -/

/-- A match of a header ends with its brace. -/
theorem matchAt_brace {code : Str} {m : Match} (h : matchAt code implPattern 0 = some m) :
    0 < m.stop ∧ code[m.stop - 1]? = some '{' := by
  obtain ⟨-, hend⟩ := matchAt_eq_some h
  obtain ⟨_, -, hend⟩ := mem_ends_seq.mp hend
  obtain ⟨_, -, hend⟩ := mem_ends_seq.mp hend
  obtain ⟨_, -, hend⟩ := mem_ends_seq.mp hend
  obtain ⟨_, -, hend⟩ := mem_ends_seq.mp hend
  obtain ⟨_, -, hend⟩ := mem_ends_seq.mp hend
  obtain ⟨_, -, hend⟩ := mem_ends_seq.mp hend
  obtain ⟨_, -, hend⟩ := mem_ends_seq.mp hend
  obtain ⟨_, -, hend⟩ := mem_ends_seq.mp hend
  obtain ⟨s, -, hend⟩ := mem_ends_seq.mp hend
  obtain ⟨e, hbrace, hend⟩ := mem_ends_seq.mp hend
  obtain rfl := mem_ends_eps.mp hend
  obtain ⟨hat, hpos⟩ := mem_ends_word.mp hbrace
  have hstop : m.stop = s.pos + 1 := congrArg State.pos hpos
  have hchar : code[s.pos]? = some '{' := hat 0 Nat.zero_lt_one
  rw [hstop, Nat.add_sub_cancel]
  exact ⟨Nat.succ_pos _, hchar⟩

/-- The brace of a header stands on its line. -/
theorem openingOf_mem {span : Nat × Nat} {m : Match}
    (h : matchAt (substring cleaned span) implPattern 0 = some m) :
    span.1 ≤ openingOf span m ∧ openingOf span m < span.2 := by
  obtain ⟨hpos, hbrace⟩ := matchAt_brace h
  have hlt := (List.getElem?_eq_some_iff.mp hbrace).1
  rw [substring, List.length_drop, List.length_take] at hlt
  rw [openingOf]
  omega

theorem brace_openingOf {span : Nat × Nat} {m : Match}
    (h : matchAt (substring cleaned span) implPattern 0 = some m) :
    (braces cleaned)[openingOf span m]? = some (.opening ()) := by
  obtain ⟨hpos, hbrace⟩ := matchAt_brace h
  have hlt := (openingOf_mem h).2
  have hindex : span.1 + (m.stop - 1) = openingOf span m := by
    rw [openingOf]
    omega
  rw [substring, List.getElem?_drop, List.getElem?_take_of_lt (by omega), hindex] at hbrace
  rw [braces, List.getElem?_map, hbrace]
  rfl

section Block

variable {header closing : Nat} {type : String} {l : Nat} {line : Nat × Nat}

theorem ImplBlock.exists_span (hblock : ImplBlock source cleaned header type closing) :
    ∃ span, (lineSpans source)[header]? = some span ∧ span.1 ≤ closing := by
  obtain ⟨span, m, hspan, hmatch, -, hmatched⟩ := hblock.named
  have hmem := openingOf_mem hmatch
  have hlt := hmatched.lt
  exact ⟨span, hspan, by omega⟩

/-- A header of the loop begins a block. -/
theorem exists_block (hcode : CodeParts source cleaned) (hbalanced : Nested (braces cleaned))
    (htype : headerOf (splitlines source) header = some type) :
    ∃ closing, ImplBlock source cleaned header type closing := by
  rw [headerOf, getElem?_splitlines, Option.bind_eq_some_iff] at htype
  obtain ⟨line, hline, htype⟩ := htype
  obtain ⟨span, hspan, rfl⟩ := Option.map_eq_some_iff.mp hline
  rw [(hcode span (List.mem_of_getElem? hspan)).2, implType, Option.map_eq_some_iff] at htype
  obtain ⟨m, hm, rfl⟩ := htype
  obtain ⟨closing, hclosing⟩ := hbalanced.exists_matched (brace_openingOf hm)
  exact ⟨closing, span, m, hspan, hm, rfl, hclosing⟩

theorem headerOf_block (hcode : CodeParts source cleaned)
    (hblock : ImplBlock source cleaned header type closing) :
    headerOf (splitlines source) header = some type := by
  obtain ⟨span, m, hspan, hmatch, htype, -⟩ := hblock.named
  rw [headerOf_eq (by rw [getElem?_splitlines, hspan]; rfl),
    (hcode span (List.mem_of_getElem? hspan)).2, implType, hmatch, Option.map_some, htype]

theorem isHeader_block (hcode : CodeParts source cleaned)
    (hblock : ImplBlock source cleaned header type closing) : isHeader (splitlines source) header = true := by
  rw [isHeader, headerOf_block hcode hblock]
  rfl

/-- A block includes the lines between its header and a line that it includes. -/
theorem Includes.of_le (hincludes : Includes source header closing l) {k : Nat} (hk : header ≤ k)
    (hkl : k ≤ l) : Includes source header closing k := by
  obtain ⟨-, span, hspan, hle⟩ := hincludes
  have hlength := (List.getElem?_eq_some_iff.mp hspan).1
  have hspan' := List.getElem?_eq_getElem (show k < (lineSpans source).length by omega)
  rcases Nat.eq_or_lt_of_le hkl with rfl | hlt
  · exact ⟨hk, span, hspan, hle⟩
  · have hdisjoint := (tiled_lineSpans source).lt hspan' hspan hlt
    have hle' := ((tiled_lineSpans source).le hspan').2
    exact ⟨hk, _, hspan', by omega⟩

/-- Where line ends tell when a block ends, its header is live as long as it includes the line. -/
theorem live_iff_includes (h : Blanking source cleaned) (hcode : CodeParts source cleaned)
    (hblock : ImplBlock source cleaned header type closing) (hbelow : ClosesBelow source cleaned header closing)
    (hline : (lineSpans source)[l]? = some line) :
    Live (levelAfter (splitlines source)) (isHeader (splitlines source)) l header ↔
      Includes source header closing l := by
  have htiled := tiled_lineSpans source
  obtain ⟨span, hspan, hstart⟩ := hblock.exists_span
  refine ⟨fun hlive => ?_, fun hincludes => ?_⟩
  · obtain ⟨-, hle, hkept⟩ := hlive
    refine ⟨hle, line, hline, ?_⟩
    by_contra hnot
    -- the line of the closing brace comes before, and ends below the header line
    rcases htiled.line_of_lt hline (Nat.zero_le closing) (by omega) with ⟨j, span', hj, hspan', hge, hlt⟩ | hbreak
    · have hheader : header ≤ j := by
        by_contra hearlier
        have hdisjoint := htiled.lt hspan' hspan (by omega)
        omega
      have hlength := (List.getElem?_eq_some_iff.mp hline).1
      have hlower := (hbelow j span' hspan' hheader).2 hge hlt (by omega)
      have hkeptLevel := hkept j hheader hj
      rw [levelAfter_eq_depth h hcode hspan, levelAfter_eq_depth h hcode hspan'] at hkeptLevel
      omega
    · obtain ⟨_, _, _, _, _, hmatched⟩ := hblock.named
      obtain ⟨_, -, hclosing⟩ := hmatched.ends
      rw [braces_lineBreak h hbreak] at hclosing
      cases hclosing
  · obtain ⟨hle, line', hline', hincluded⟩ := hincludes
    obtain rfl : line = line' := Option.some.inj (hline.symm.trans hline')
    refine ⟨isHeader_block hcode hblock, hle, fun j hj hjl => ?_⟩
    have hlength := (List.getElem?_eq_some_iff.mp hline).1
    have hspan' := List.getElem?_eq_getElem (show j < (lineSpans source).length by omega)
    have hincludes : Includes source header closing l := ⟨hle, line, hline, hincluded⟩
    rw [levelAfter_eq_depth h hcode hspan, levelAfter_eq_depth h hcode hspan']
    exact (hbelow j _ hspan' hj).1 (hincludes.of_le (by omega) (by omega))

end Block

theorem ownerByLineEnds_innermost (h : Blanking source cleaned) (hbalanced : Nested (braces cleaned))
    (hends : EndsAtLines source cleaned) {l : Nat} {line : Nat × Nat} (hline : (lineSpans source)[l]? = some line)
    (type : String) :
    ownerByLineEnds (splitlines source) l = some type ↔ InnermostOwner source cleaned l type := by
  have hlive : ∀ {header type closing}, ImplBlock source cleaned header type closing →
      (Live (levelAfter (splitlines source)) (isHeader (splitlines source)) l header ↔
        Includes source header closing l) := fun hblock =>
    live_iff_includes h hends.code hblock (hends.closes _ _ _ hblock) hline
  rw [ownerByLineEnds_eq_some]
  refine ⟨fun howner => ?_, fun howner => ?_⟩
  · obtain ⟨header, htype, hheader, hlatest⟩ := howner
    obtain ⟨closing, hblock⟩ := exists_block hends.code hbalanced htype
    exact ⟨header, closing, hblock, (hlive hblock).mp hheader,
      fun header' type' closing' hblock' hincludes => hlatest header' ((hlive hblock').mpr hincludes)⟩
  · obtain ⟨header, closing, hblock, hincludes, hlatest⟩ := howner
    refine ⟨header, headerOf_block hends.code hblock, (hlive hblock).mpr hincludes, fun header' hheader' => ?_⟩
    obtain ⟨type', htype'⟩ := Option.isSome_iff_exists.mp hheader'.1
    obtain ⟨closing', hblock'⟩ := exists_block hends.code hbalanced htype'
    exact hlatest header' type' closing' hblock' ((hlive hblock').mp hheader')

theorem implOwners_eq {l : Nat} (hl : l < (lineSpans source).length) :
    (implOwnersByLine source).get? (l + 1) = ownerByLineEnds (splitlines source) l := by
  rw [implOwnersByLine_get?, if_pos (by rwa [splitlines, List.length_map])]

/-! ## What an exact mapping tells about blocks apart -/

section Apart

variable (h : Blanking source cleaned) (hcode : CodeParts source cleaned)
  (hbalanced : Nested (braces cleaned)) (hapart : BlocksApart source cleaned)
  (hexact : OwnersExact source cleaned)
include hexact

/-- A live header on a line means a block that includes the line. -/
theorem exists_innermost {l header : Nat} (hl : l < (lineSpans source).length)
    (hlive : Live (levelAfter (splitlines source)) (isHeader (splitlines source)) l header) :
    ∃ type, InnermostOwner source cleaned l type := by
  obtain ⟨top, htop⟩ := exists_opened_top hlive
  obtain ⟨hlive', -⟩ := (opened_top l top).mp htop
  obtain ⟨type, htype⟩ := Option.isSome_iff_exists.mp hlive'.1
  refine ⟨type, (hexact l (by rwa [splitlines, List.length_map]) type).mp ?_⟩
  rw [implOwners_eq hl, ownerByLineEnds, htop, Option.bind_some, htype]

include hapart

/-- Behind the last line of a block its header is live no more. -/
theorem dropped_behind {header closing last : Nat} {type : String} {span : Nat × Nat}
    (hblock : ImplBlock source cleaned header type closing) (hspan : (lineSpans source)[last]? = some span)
    (hge : span.1 ≤ closing) (hlt : closing < span.2) (hlength : last + 1 < (lineSpans source).length) :
    ¬ Live (levelAfter (splitlines source)) (isHeader (splitlines source)) (last + 1) header := by
  intro hlive
  obtain ⟨type', header', closing', hblock', hincludes, -⟩ := exists_innermost hexact hlength hlive
  exact hapart.gap header type closing hblock last span hspan hge hlt header' type' closing' hblock' hincludes

include h hcode hbalanced

/-- On a line of a block, no header but its own is live. -/
theorem live_eq_header {header closing l other : Nat} {type : String}
    (hblock : ImplBlock source cleaned header type closing) (hincludes : Includes source header closing l)
    (hlive : Live (levelAfter (splitlines source)) (isHeader (splitlines source)) l other) :
    other = header := by
  obtain ⟨type', htype'⟩ := Option.isSome_iff_exists.mp hlive.1
  obtain ⟨closing', hblock'⟩ := exists_block hcode hbalanced htype'
  rcases Nat.lt_trichotomy other header with hbefore | heq | hafter
  · -- its own block ended before this one begins, and it was dropped there
    have hout := hapart.disjoint other type' closing' header type closing hblock' hblock hbefore
    obtain ⟨span, hspan, -⟩ := hblock.exists_span
    obtain ⟨first, hfirst, hstart⟩ := hblock'.exists_span
    have htiled := tiled_lineSpans source
    have hended : closing' < span.1 := by
      by_contra hopen
      exact hout ⟨Nat.le_of_lt hbefore, span, hspan, Nat.le_of_not_lt hopen⟩
    rcases htiled.line_of_lt hspan (Nat.zero_le closing') hended with ⟨last, span', hj, hspan', hge, hlt⟩ | hbreak
    · have hother : other ≤ last := by
        by_contra hearlier
        have hdisjoint := htiled.lt hspan' hfirst (by omega)
        omega
      have hle := hincludes.1
      have hlength := (List.getElem?_eq_some_iff.mp hspan).1
      exact absurd (hlive.of_le (by omega) (by omega))
        (dropped_behind hapart hexact hblock' hspan' hge hlt (by omega))
    · obtain ⟨_, _, _, _, _, hmatched⟩ := hblock'.named
      obtain ⟨_, -, hclosing⟩ := hmatched.ends
      rw [braces_lineBreak h hbreak] at hclosing
      cases hclosing
  · exact heq
  · exact absurd (hincludes.of_le (Nat.le_of_lt hafter) hlive.2.1)
      (hapart.disjoint header type closing other type' closing' hblock hblock' hafter)

/-- On each line of a block its header is live, for the line has an owner. -/
theorem live_of_includes {header closing l : Nat} {type : String}
    (hblock : ImplBlock source cleaned header type closing) (hincludes : Includes source header closing l) :
    Live (levelAfter (splitlines source)) (isHeader (splitlines source)) l header := by
  obtain ⟨span, hspan, -⟩ := hincludes.2
  have hlength := (List.getElem?_eq_some_iff.mp hspan).1
  have hinnermost : InnermostOwner source cleaned l type := by
    refine ⟨header, closing, hblock, hincludes, fun header' type' closing' hblock' hincludes' => ?_⟩
    by_contra hlater
    exact hapart.disjoint header type closing header' type' closing' hblock hblock' (by omega)
      (hincludes.of_le (by omega) hincludes'.1)
  have howner := (hexact l (by rwa [splitlines, List.length_map]) type).mpr hinnermost
  rw [implOwners_eq hlength, ownerByLineEnds_eq_some] at howner
  obtain ⟨top, -, hlive, -⟩ := howner
  have htop := live_eq_header h hcode hbalanced hapart hexact hblock hincludes hlive
  rwa [htop] at hlive

/-- Blocks apart from each other end where line ends tell, if the mapping is exact. -/
theorem closes_below_of_owners {header closing : Nat} {type : String}
    (hblock : ImplBlock source cleaned header type closing) : ClosesBelow source cleaned header closing := by
  obtain ⟨first, hfirst, -⟩ := hblock.exists_span
  intro l span hspan hle
  rw [← levelAfter_eq_depth h hcode hspan, ← levelAfter_eq_depth h hcode hfirst]
  refine ⟨fun hnext => ?_, fun hge hlt hlength => ?_⟩
  · exact (live_of_includes h hcode hbalanced hapart hexact hblock hnext).2.2 l hle (Nat.lt_succ_self l)
  · have hlive := live_of_includes h hcode hbalanced hapart hexact hblock ⟨hle, span, hspan, hge⟩
    by_contra hnot
    refine dropped_behind hapart hexact hblock hspan hge hlt hlength
      ⟨hlive.1, by omega, fun j hj hjl => ?_⟩
    rcases Nat.lt_or_ge j l with hearlier | hlater
    · exact hlive.2.2 j hj hearlier
    · obtain rfl : j = l := by omega
      omega

end Apart

/-! ## Ownership -/

variable (isAlnum : Char → Bool)

section Samples

/-- `impl A {⏎}⏎fn f() {}⏎` -/
def blockSource : Str := "impl A \x7b\n\x7d\nfn f() \x7b\x7d\n".toList

/-- `impl A {}⏎fn f() {}⏎` -/
def oneLineSource : Str := "impl A \x7b\x7d\nfn f() \x7b\x7d\n".toList

theorem lineSpans_blockSource : lineSpans blockSource = [(0, 8), (9, 10), (11, 20)] := by decide +kernel

theorem lineSpans_oneLineSource : lineSpans oneLineSource = [(0, 9), (10, 19)] := by decide +kernel

/-- Lines of which only the first one has a header: the only block is that of this header. -/
theorem block_unique {first : Nat × Nat} {others : List (Nat × Nat)} {m : Match} {close : Nat}
    (hspans : lineSpans source = first :: others)
    (hfirst : matchAt (substring cleaned first) implPattern 0 = some m)
    (hothers : ∀ span ∈ others, matchAt (substring cleaned span) implPattern 0 = none)
    (hmatched : Matched (braces cleaned) (openingOf first m) close)
    {header closing : Nat} {type : String} (hblock : ImplBlock source cleaned header type closing) :
    header = 0 ∧ closing = close := by
  obtain ⟨span, m', hspan, hmatch, -, hmatched'⟩ := hblock.named
  rw [hspans] at hspan
  cases header with
  | zero =>
    obtain rfl : first = span := Option.some.inj hspan
    obtain rfl : m = m' := Option.some.inj (hfirst.symm.trans hmatch)
    exact ⟨rfl, hmatched'.right_unique hmatched⟩
  | succ header =>
    rw [List.getElem?_cons_succ] at hspan
    rw [hothers span (List.mem_of_getElem? hspan)] at hmatch
    cases hmatch

theorem block_blockSource {header closing : Nat} {type : String}
    (hblock : ImplBlock blockSource blockSource header type closing) : header = 0 ∧ closing = 9 := by
  have hmatch : matchAt (substring blockSource (0, 8)) implPattern 0 = some ⟨0, 8, some (5, 6)⟩ := by
    decide +kernel
  have hspan : Matched (braces "impl A ".toList ++ .opening () :: ([.other] ++ .closing () ::
      braces "\nfn f() \x7b\x7d\n".toList)) 7 9 := matched_span (Nested.other .nil) _
  exact block_unique lineSpans_blockSource hmatch (by decide +kernel) hspan hblock

theorem block_oneLineSource {header closing : Nat} {type : String}
    (hblock : ImplBlock oneLineSource oneLineSource header type closing) : header = 0 ∧ closing = 8 := by
  have hmatch : matchAt (substring oneLineSource (0, 9)) implPattern 0 = some ⟨0, 8, some (5, 6)⟩ := by
    decide +kernel
  have hspan : Matched (braces "impl A ".toList ++ .opening () :: ([] ++ .closing () ::
      braces "\nfn f() \x7b\x7d\n".toList)) 7 8 := matched_span .nil _
  exact block_unique lineSpans_oneLineSource hmatch (by decide +kernel) hspan hblock

theorem nested_others (n : Nat) : Nested (List.replicate n (.other : Symbol Unit)) := by
  induction n with
  | zero => exact .nil
  | succ n ih => exact ih.other

theorem nested_blockSource : Nested (braces blockSource) :=
  have hnested := ((nested_others 7).append (.span () (nested_others 1) (nested_others 8))).append
    (.span () .nil (nested_others 1))
  hnested

theorem nested_oneLineSource : Nested (braces oneLineSource) :=
  have hnested := ((nested_others 7).append (.span () .nil (nested_others 8))).append
    (.span () .nil (nested_others 1))
  hnested

theorem endsAtLines_blockSource : EndsAtLines blockSource blockSource where
  code := by
    rw [CodeParts, lineSpans_blockSource]
    decide +kernel
  closes header type closing hblock l span hspan hle := by
    obtain ⟨rfl, rfl⟩ := block_blockSource hblock
    have hincludes : ∀ l, Includes blockSource 0 9 l → l < 2 := by
      intro l hincludes
      obtain ⟨-, span, hspan, hge⟩ := hincludes
      rw [lineSpans_blockSource] at hspan
      by_contra hlater
      obtain rfl : l = 2 := by
        have hlength := (List.getElem?_eq_some_iff.mp hspan).1
        simp at hlength
        omega
      obtain rfl : (11, 20) = span := Option.some.inj hspan
      omega
    refine ⟨fun hnext => ?_, fun hge hlt _ => ?_⟩
    · obtain rfl : l = 0 := by
        have hlater := hincludes _ hnext
        omega
      exact Int.le_refl _
    · rw [lineSpans_blockSource] at hspan
      rcases l with _ | _ | _ | l
      · obtain rfl : (0, 8) = span := Option.some.inj hspan
        omega
      · decide +kernel
      · obtain rfl : (11, 20) = span := Option.some.inj hspan
        omega
      · cases hspan

theorem codeParts_oneLineSource : CodeParts oneLineSource oneLineSource := by
  rw [CodeParts, lineSpans_oneLineSource]
  decide +kernel

theorem not_includes_oneLineSource : ¬ Includes oneLineSource 0 8 1 := by
  intro hincludes
  obtain ⟨-, span, hspan, hle⟩ := hincludes
  rw [lineSpans_oneLineSource] at hspan
  obtain rfl : (10, 19) = span := Option.some.inj hspan
  omega

theorem blocksApart_oneLineSource : BlocksApart oneLineSource oneLineSource where
  disjoint header type closing header' type' closing' hblock hblock' hlt := by
    have hzero := (block_oneLineSource hblock).1
    have hzero' := (block_oneLineSource hblock').1
    omega
  gap header type closing hblock last span hspan hge hlt header' type' closing' hblock' := by
    obtain ⟨rfl, rfl⟩ := block_oneLineSource hblock
    obtain ⟨rfl, rfl⟩ := block_oneLineSource hblock'
    rw [lineSpans_oneLineSource] at hspan
    rcases last with _ | _ | last
    · exact not_includes_oneLineSource
    · obtain rfl : (10, 19) = span := Option.some.inj hspan
      omega
    · cases hspan

end Samples

end Zrm.L6.Architecture
