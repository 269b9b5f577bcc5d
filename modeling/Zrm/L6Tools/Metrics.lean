import Zrm.L6Tools.RustFunctions
import Zrm.L6Tools.Tokens

/-!
# Metrics of function and trait bodies (`tools/rust_complexity.py`)

A body is what stands between two braces that `_delimiter_pairs` matched. The loops over it
count braces up and down; the counts are those of its blocks.

* `BlockDepth`, `DirectFunctions`: the two metrics, read off the blocks of a body.
* `searchToken_eq_some`: what a search along the tokens finds.
* `metrics_structural`: what the loops return; no brace count goes wrong behind matched
  braces.
-/
namespace Zrm.L6.RustComplexity

open Result Text Brackets

/-! ## Public traits -/

/-- mirrors tools/rust_complexity.py:91-98 -/
structure PublicTraitMetric where
  name : String
  startLine : Nat
  endLine : Nat
  methodCount : Nat
  deriving DecidableEq

/-- A search for `target` that gives up at one of `stops`. -/
def searchFrom (target : String) (stops : List String) : List Token → Nat → Option Nat
  | [], _ => none
  | token :: rest, cursor =>
    if token.value = target then some cursor
    else if stops.contains token.value then none
    else searchFrom target stops rest (cursor + 1)

/-- The search from `start` on in a token list. -/
def searchToken (tokens : List Token) (target : String) (stops : List String) (start : Nat) :
    Option Nat :=
  searchFrom target stops (tokens.drop start) start

/-- The first `target` from `start` on stands at `found`, and no stop before it. -/
def FirstToken (tokens : List Token) (target : String) (stops : List String) (start found : Nat) :
    Prop :=
  ∃ before token rest, tokens.drop start = before ++ token :: rest ∧
    found = start + before.length ∧ token.value = target ∧
    ∀ t ∈ before, t.value ≠ target ∧ t.value ∉ stops

theorem searchFrom_eq_some {target : String} {stops : List String} {rest : List Token}
    {cursor found : Nat} : searchFrom target stops rest cursor = some found ↔
      ∃ before token after, rest = before ++ token :: after ∧ found = cursor + before.length ∧
        token.value = target ∧ ∀ t ∈ before, t.value ≠ target ∧ t.value ∉ stops := by
  refine ⟨fun h => ?_, ?_⟩
  · fun_induction searchFrom target stops rest cursor with
    | case1 => cases h
    | case2 token rest cursor hvalue =>
      cases h
      exact ⟨[], token, rest, rfl, rfl, hvalue, by simp⟩
    | case3 => cases h
    | case4 token rest cursor hvalue hstop ih =>
      obtain ⟨before, found', after, rfl, hfound, hlast, hbefore⟩ := ih h
      refine ⟨token :: before, found', after, rfl, ?_, hlast, ?_⟩
      · rw [hfound, List.length_cons]
        omega
      · simp only [List.contains_iff_mem] at hstop
        simpa using ⟨⟨hvalue, hstop⟩, hbefore⟩
  · intro ⟨before, token, after, hrest, hfound, hvalue, hbefore⟩
    subst hrest hfound
    induction before generalizing cursor with
    | nil => rw [List.nil_append, searchFrom, if_pos hvalue]; rfl
    | cons t before ih =>
      obtain ⟨ht, hstop⟩ := hbefore t List.mem_cons_self
      rw [List.cons_append, searchFrom, if_neg ht, if_neg (by simpa using hstop),
        ih fun t' ht' => hbefore t' (List.mem_cons_of_mem _ ht'), List.length_cons]
      congr 1
      omega

theorem searchToken_eq_some {tokens : List Token} {target : String} {stops : List String}
    {start found : Nat} :
    searchToken tokens target stops start = some found ↔ FirstToken tokens target stops start found :=
  searchFrom_eq_some

theorem searchToken_spec {tokens : List Token} {target : String} {stops : List String}
    {start found : Nat} (h : searchToken tokens target stops start = some found) :
    ∃ token, tokens[found]? = some token ∧ token.value = target := by
  obtain ⟨before, token, rest, hdrop, rfl, hvalue, -⟩ := searchToken_eq_some.mp h
  refine ⟨token, ?_, hvalue⟩
  rw [← List.getElem?_drop, hdrop, List.getElem?_append_right (Nat.le_refl _), Nat.sub_self]
  rfl

/-- The loop over a trait body: the `fn` items at depth zero. -/
def methodCountFrom : List Token → Int → Nat → Nat
  | [], _, count => count
  | token :: rest, depth, count =>
    if token.value = "\x7b" then methodCountFrom rest (depth + 1) count
    else if token.value = "\x7d" then methodCountFrom rest (depth - 1) count
    else if token.value = "fn" ∧ depth = 0 then methodCountFrom rest depth (count + 1)
    else methodCountFrom rest depth count

variable {tokens : List Token}

theorem searchToken_opens {stops : List String} {start found : Nat}
    (h : searchToken tokens "\x7b" stops start = some found) : Opens tokens found := by
  obtain ⟨token, htoken, hvalue⟩ := searchToken_spec h
  exact opens_brace htoken hvalue

/-- The loop body of `_extract_public_traits`, for a token `pub`. -/
def publicTrait (pairs : Pairs tokens) (index : Nat) (token : Token) :
    Except ComplexityError (Option PublicTraitMetric) :=
  match searchToken tokens "trait" [";", "\x7b", "\x7d"] (index + 1) with
  | none => .ok none
  | some traitIndex =>
    match tokens[traitIndex + 1]? with
    | none => .ok none
    | some name =>
      if name.isIdentifier = false then
        .error ⟨"public trait at line " ++ toString token.line ++ " lacks an identifier"⟩
      else
        match hbody : searchToken tokens "\x7b" [";", "\x7d"] (traitIndex + 2) with
        | none => .error ⟨"public trait '" ++ name.value ++ "' lacks a body"⟩
        | some bodyOpen =>
          let bodyClose := pairs.closing bodyOpen (searchToken_opens hbody)
          .ok (some {
            name := name.value
            startLine := token.line
            endLine := (tokens[bodyClose]?.getD token).line
            methodCount := methodCountFrom (slice tokens (bodyOpen + 1) bodyClose) 0 0 })

/-- mirrors tools/rust_complexity.py:530-583 -/
def extractPublicTraits (pairs : Pairs tokens) : Except ComplexityError (List PublicTraitMetric) := do
  let metrics ← (List.range tokens.length).mapM fun index =>
    match tokens[index]? with
    | some token => if token.value = "pub" then publicTrait pairs index token else pure none
    | none => pure none
  return metrics.filterMap id

/-! ## Blocks -/

/-- The deepest nesting of blocks, none of them left open. -/
inductive BlockDepth : List Token → Nat → Prop
  | nil : BlockDepth [] 0
  | plain {token : Token} {rest : List Token} {d : Nat} : token.value ≠ "\x7b" →
      token.value ≠ "\x7d" → BlockDepth rest d → BlockDepth (token :: rest) d
  | block {opening closing : Token} {inner rest : List Token} {d e : Nat} :
      opening.value = "\x7b" → closing.value = "\x7d" → BlockDepth inner d → BlockDepth rest e →
      BlockDepth (opening :: (inner ++ closing :: rest)) (max (d + 1) e)

/-- The `fn` tokens outside of all blocks. -/
inductive DirectFunctions : List Token → Nat → Prop
  | nil : DirectFunctions [] 0
  | fn {token : Token} {rest : List Token} {n : Nat} : token.value = "fn" →
      DirectFunctions rest n → DirectFunctions (token :: rest) (n + 1)
  | plain {token : Token} {rest : List Token} {n : Nat} : token.value ≠ "\x7b" →
      token.value ≠ "\x7d" → token.value ≠ "fn" → DirectFunctions rest n →
      DirectFunctions (token :: rest) n
  | block {opening closing : Token} {inner rest : List Token} {d n : Nat} :
      opening.value = "\x7b" → closing.value = "\x7d" → BlockDepth inner d →
      DirectFunctions rest n → DirectFunctions (opening :: (inner ++ closing :: rest)) n

theorem brace_ne : "\x7d" ≠ "\x7b" := by decide

/-- Over a balanced part, the loop keeps its depth and sees the deepest block. -/
theorem blockDepthFrom_append {body : List Token} {d : Nat} (h : BlockDepth body d)
    (rest : List Token) (depth maximum : Nat) :
    blockDepthFrom (body ++ rest) depth maximum =
      blockDepthFrom rest depth (if d = 0 then maximum else max maximum (depth + d)) := by
  induction h generalizing rest depth maximum with
  | nil => rfl
  | plain hopening hclosing _ ih =>
    rw [List.cons_append, blockDepthFrom, if_neg hopening, if_neg hclosing, ih]
  | @block opening closing inner after d e hopening hclosing _ _ ihinner ihafter =>
    have hdepth : depth + 1 ≠ 0 := by omega
    have hmax : max (d + 1) e ≠ 0 := by omega
    rw [List.cons_append, List.append_assoc, blockDepthFrom, if_pos hopening, ihinner, List.cons_append,
      blockDepthFrom, hclosing, if_neg brace_ne, if_pos rfl, if_neg hdepth, ihafter,
      Nat.add_sub_cancel, if_neg hmax]
    congr 1
    split <;> split <;> omega

theorem blockDepthFrom_eq {body : List Token} {d : Nat} (h : BlockDepth body d) :
    blockDepthFrom body 0 0 = .ok d := by
  have hloop := blockDepthFrom_append h [] 0 0
  rw [List.append_nil, blockDepthFrom, if_neg (not_not.mpr rfl)] at hloop
  rw [hloop]
  split <;> simp_all

/-- Inside a block the loop counts nothing, and leaves with the depth it came with. -/
theorem methodCountFrom_block {body : List Token} {d : Nat} (h : BlockDepth body d)
    (rest : List Token) {depth : Int} (hdepth : 0 < depth) (count : Nat) :
    methodCountFrom (body ++ rest) depth count = methodCountFrom rest depth count := by
  induction h generalizing rest depth with
  | nil => rfl
  | @plain token body d hopening hclosing _ ih =>
    have hnot : ¬ (token.value = "fn" ∧ depth = 0) := fun hfn => by omega
    rw [List.cons_append, methodCountFrom, if_neg hopening, if_neg hclosing, if_neg hnot,
      ih rest hdepth]
  | @block opening closing inner after d e hopening hclosing _ _ ihinner ihafter =>
    rw [List.cons_append, List.append_assoc, methodCountFrom, if_pos hopening, ihinner _ (by omega),
      List.cons_append, methodCountFrom, hclosing, if_neg brace_ne, if_pos rfl, Int.add_sub_cancel,
      ihafter rest hdepth]

theorem methodCountFrom_eq {body : List Token} {n : Nat} (h : DirectFunctions body n) (count : Nat) :
    methodCountFrom body 0 count = count + n := by
  induction h generalizing count with
  | nil => rfl
  | @fn token rest n hvalue _ ih =>
    have hopening : token.value ≠ "\x7b" := by rw [hvalue]; decide
    have hclosing : token.value ≠ "\x7d" := by rw [hvalue]; decide
    rw [methodCountFrom, if_neg hopening, if_neg hclosing, if_pos ⟨hvalue, rfl⟩, ih]
    omega
  | plain hopening hclosing hfn _ ih =>
    rw [methodCountFrom, if_neg hopening, if_neg hclosing, if_neg fun h => hfn h.1, ih]
  | @block opening closing inner rest d n hopening hclosing hinner _ ih =>
    rw [methodCountFrom, if_pos hopening, methodCountFrom_block hinner _ (by omega), methodCountFrom,
      hclosing, if_neg brace_ne, if_pos rfl, Int.add_sub_cancel, ih]

/-! ## Bodies -/

/-- The brace that a token is, the other delimiters left out. -/
def braceOf (token : Token) : Symbol Delimiter := only .brace (symbolOf token.value)

def braces (tokens : List Token) : List (Symbol Delimiter) := tokens.map braceOf

theorem braces_eq (tokens : List Token) : braces tokens = (symbols tokens).map (only .brace) := by
  rw [braces, symbols, List.map_map]
  rfl

theorem value_of_opening {token : Token} {k : Delimiter} (h : braceOf token = .opening k) :
    token.value = "\x7b" := by
  unfold braceOf symbolOf at h
  split_ifs at h <;> simp_all [only]

theorem value_of_closing {token : Token} {k : Delimiter} (h : braceOf token = .closing k) :
    token.value = "\x7d" := by
  unfold braceOf symbolOf at h
  split_ifs at h <;> simp_all [only]

theorem braceOf_opening {token : Token} (h : token.value = "\x7b") :
    braceOf token = .opening .brace := by
  rw [braceOf, h]
  rfl

theorem braceOf_closing {token : Token} (h : token.value = "\x7d") :
    braceOf token = .closing .brace := by
  rw [braceOf, h]
  rfl

/-- Tokens with nested braces are made of blocks. -/
theorem exists_blocks {body : List Token} (h : Nested (braces body)) :
    (∃ d, BlockDepth body d) ∧ ∃ n, DirectFunctions body n := by
  generalize hs : braces body = s at h
  induction h generalizing body with
  | nil =>
    obtain rfl := List.map_eq_nil_iff.mp hs
    exact ⟨⟨0, .nil⟩, 0, .nil⟩
  | other _ ih =>
    obtain ⟨token, rest, rfl, htoken, hrest⟩ := List.map_eq_cons_iff.mp hs
    obtain ⟨⟨d, hd⟩, n, hn⟩ := ih hrest
    have hopening : token.value ≠ "\x7b" := fun heq => by
      rw [braceOf_opening heq] at htoken
      cases htoken
    have hclosing : token.value ≠ "\x7d" := fun heq => by
      rw [braceOf_closing heq] at htoken
      cases htoken
    refine ⟨⟨d, .plain hopening hclosing hd⟩, ?_⟩
    by_cases hfn : token.value = "fn"
    · exact ⟨n + 1, .fn hfn hn⟩
    · exact ⟨n, .plain hopening hclosing hfn hn⟩
  | span k _ _ ihinner ihrest =>
    obtain ⟨opening, rest, rfl, hopening, hrest⟩ := List.map_eq_cons_iff.mp hs
    obtain ⟨inner, rest, rfl, hinner, hrest⟩ := List.map_eq_append_iff.mp hrest
    obtain ⟨closing, rest, rfl, hclosing, hrest⟩ := List.map_eq_cons_iff.mp hrest
    obtain ⟨⟨d, hd⟩, -⟩ := ihinner hinner
    obtain ⟨⟨e, he⟩, n, hn⟩ := ihrest hrest
    have hopening := value_of_opening hopening
    have hclosing := value_of_closing hclosing
    exact ⟨⟨_, .block hopening hclosing hd he⟩, n, .block hopening hclosing hd hn⟩

/-- What stands between matched braces. -/
def bodyTokens (pairs : Pairs tokens) (opening : Nat) (h : Opens tokens opening) : List Token :=
  slice tokens (opening + 1) (pairs.closing opening h)

/-- Between matched braces the braces are nested. -/
theorem nested_body (pairs : Pairs tokens) {opening : Nat} {token : Token}
    (h : tokens[opening]? = some token) (hvalue : token.value = "\x7b") :
    Nested (braces (bodyTokens pairs opening (opens_brace h hvalue))) := by
  have halone := pairs.matched (opens_brace h hvalue)
  have hopening : (symbols tokens)[opening]? = some (.opening .brace) := by
    rw [symbols, List.getElem?_map, h, Option.map_some, hvalue]
    rfl
  obtain ⟨k, hk, hclosing⟩ := halone.ends
  obtain rfl : k = .brace := by
    rw [hopening] at hk
    cases hk
    rfl
  have hinner := (matched_only_iff.mpr ⟨halone, hopening, hclosing⟩).inner
  rw [← braces_eq, between] at hinner
  rwa [bodyTokens, slice, braces, List.map_drop, List.map_take, List.drop_take]

/-- Where a signature ends in a body, its brace is matched with the end. -/
theorem signatureEnd_spec {pairs : Pairs tokens} {name : String} {cursor round square angle : Nat}
    {terminator bodyOpen : Nat}
    (h : signatureEnd pairs name cursor round square angle = .ok (some (terminator, some bodyOpen))) :
    ∃ token, ∃ htoken : tokens[bodyOpen]? = some token, ∃ hvalue : token.value = "\x7b",
      terminator = pairs.closing bodyOpen (opens_brace htoken hvalue) := by
  fun_induction signatureEnd pairs name cursor round square angle with
  | case1 => cases h
  | case2 => cases h
  | case3 => cases h
  | case4 cursor _ _ _ hcursor _ _ _ _ _ _ _ _ hbrace =>
    simp only [Except.ok.injEq, Option.some.injEq, Prod.mk.injEq] at h
    obtain ⟨hclosing, rfl⟩ := h
    exact ⟨tokens[cursor], List.getElem?_eq_getElem hcursor, hbrace, hclosing.symm⟩
  | case5 =>
    rename_i ih
    exact ih h
  | case6 => cases h
  | case7 =>
    rename_i ih
    exact ih h
  | case8 => cases h

/-- The metrics of a body are those of its blocks, and its braces raise no error. -/
theorem body_blocks (pairs : Pairs tokens) {opening : Nat} {token : Token}
    (h : tokens[opening]? = some token) (hvalue : token.value = "\x7b") :
    ∃ depth count, BlockDepth (bodyTokens pairs opening (opens_brace h hvalue)) depth ∧
      functionBlockDepth tokens opening (pairs.closing opening (opens_brace h hvalue)) = .ok depth ∧
      DirectFunctions (bodyTokens pairs opening (opens_brace h hvalue)) count ∧
      methodCountFrom (bodyTokens pairs opening (opens_brace h hvalue)) 0 0 = count := by
  obtain ⟨⟨depth, hdepth⟩, count, hcount⟩ := exists_blocks (nested_body pairs h hvalue)
  refine ⟨depth, count, hdepth, blockDepthFrom_eq hdepth, hcount, ?_⟩
  rw [methodCountFrom_eq hcount, Nat.zero_add]

/-! ## Items -/

/-- The depth of a function: that of its body, if it has one. -/
def HasDepth (pairs : Pairs tokens) : Option Nat → Nat → Prop
  | none, depth => depth = 0
  | some bodyOpen, depth => ∃ h : Opens tokens bodyOpen, BlockDepth (bodyTokens pairs bodyOpen h) depth

theorem bodyDepth_ok {pairs : Pairs tokens} {name : String} {cursor round square angle : Nat}
    {terminator : Nat} {bodyOpen : Option Nat}
    (h : signatureEnd pairs name cursor round square angle = .ok (some (terminator, bodyOpen))) :
    ∃ depth, bodyDepth tokens bodyOpen terminator = .ok depth ∧ HasDepth pairs bodyOpen depth := by
  cases bodyOpen with
  | none => exact ⟨0, rfl, rfl⟩
  | some bodyOpen =>
    obtain ⟨token, htoken, hvalue, rfl⟩ := signatureEnd_spec h
    obtain ⟨depth, -, hdepth, hresult, -⟩ := body_blocks pairs htoken hvalue
    exact ⟨depth, hresult, _, hdepth⟩

/-- A function with a parameter list and an end of its signature has a metric. -/
theorem functionMetric_ok {cleanedSource : Str} {pairs : Pairs tokens} {index opening : Nat}
    {token name : Token} (hopen : parameterOpen tokens index = some opening) {terminator : Nat}
    {bodyOpen : Option Nat}
    (h : signatureEnd pairs name.value (pairs.closing opening (parameterOpen_opens hopen) + 1) 0 0 0 =
      .ok (some (terminator, bodyOpen))) :
    ∃ m, functionMetric cleanedSource pairs index token name = .ok m ∧
      HasDepth pairs bodyOpen m.lexicalBlockDepth := by
  obtain ⟨depth, hdepth, hspec⟩ := bodyDepth_ok h
  unfold functionMetric
  split
  · rename_i hnone
    rw [hopen] at hnone
    cases hnone
  · rename_i found hfound
    obtain rfl : opening = found := by
      rw [hopen] at hfound
      exact Option.some.inj hfound
    simp only [h, hdepth, ok_bind]
    exact ⟨_, rfl, hspec⟩

/-- Where the body of the trait `name` opens, for the token `pub` at `index`: `trait` is the first
such word behind `pub`, the name follows it, and the brace is the first one behind the name. -/
def TraitBody (tokens : List Token) (index : Nat) (name : String) (bodyOpen : Nat) : Prop :=
  ∃ traitIndex token, FirstToken tokens "trait" [";", "\x7b", "\x7d"] (index + 1) traitIndex ∧
    tokens[traitIndex + 1]? = some token ∧ token.isIdentifier = true ∧ token.value = name ∧
    FirstToken tokens "\x7b" [";", "\x7d"] (traitIndex + 2) bodyOpen

theorem publicTrait_methods {pairs : Pairs tokens} {index : Nat} {token : Token}
    {trait : PublicTraitMetric} (h : publicTrait pairs index token = .ok (some trait)) :
    ∃ bodyOpen, ∃ hopens : Opens tokens bodyOpen, TraitBody tokens index trait.name bodyOpen ∧
      DirectFunctions (bodyTokens pairs bodyOpen hopens) trait.methodCount := by
  unfold publicTrait at h
  split at h
  · cases h
  rename_i traitIndex htrait
  split at h
  · cases h
  rename_i name hname
  split at h
  · cases h
  rename_i hidentifier
  split at h
  · cases h
  · rename_i bodyOpen hbody
    simp only [Except.ok.injEq, Option.some.injEq] at h
    obtain ⟨body, htoken, hvalue⟩ := searchToken_spec hbody
    obtain ⟨-, count, -, -, hcount, hresult⟩ := body_blocks pairs htoken hvalue
    subst h
    refine ⟨bodyOpen, searchToken_opens hbody, ⟨traitIndex, name, searchToken_eq_some.mp htrait, hname,
      Bool.eq_true_of_not_eq_false hidentifier, rfl, searchToken_eq_some.mp hbody⟩, ?_⟩
    rw [← hresult] at hcount
    exact hcount

/-- **The metrics are structural.** Behind matched delimiters no brace count goes wrong: a
function with a parameter list and an end of its signature has a metric, whose depth is the
deepest nesting of blocks in its body, and a trait that is reported counts the `fn` tokens that
stand outside of all blocks of its body, which opens at the first brace behind its name. -/
theorem metrics_structural (cleanedSource : Str) (pairs : Pairs tokens) :
    (∀ index opening, ∀ hopen : parameterOpen tokens index = some opening,
      ∀ (token name : Token) terminator bodyOpen,
        signatureEnd pairs name.value (pairs.closing opening (parameterOpen_opens hopen) + 1) 0 0 0 =
          .ok (some (terminator, bodyOpen)) →
        ∃ m, functionMetric cleanedSource pairs index token name = .ok m ∧
          HasDepth pairs bodyOpen m.lexicalBlockDepth) ∧
    ∀ index token trait, publicTrait pairs index token = .ok (some trait) →
      ∃ bodyOpen, ∃ hopens : Opens tokens bodyOpen, TraitBody tokens index trait.name bodyOpen ∧
        DirectFunctions (bodyTokens pairs bodyOpen hopens) trait.methodCount :=
  ⟨fun _ _ hopen _ _ _ _ h => functionMetric_ok hopen h, fun _ _ _ h => publicTrait_methods h⟩

/-- The tokens of `pub trait T { fn f() { } }` -/
def traitTokens : List Token :=
  [⟨"pub", 0, 1, true⟩, ⟨"trait", 4, 1, true⟩, ⟨"T", 10, 1, true⟩, ⟨"\x7b", 12, 1, false⟩,
    ⟨"fn", 14, 1, true⟩, ⟨"f", 17, 1, true⟩, ⟨"(", 18, 1, false⟩, ⟨")", 19, 1, false⟩,
    ⟨"\x7b", 21, 1, false⟩, ⟨"\x7d", 23, 1, false⟩, ⟨"\x7d", 25, 1, false⟩]

theorem metrics_structural_trait :
    ∃ pairs : Pairs traitTokens, ∃ bodyOpen, ∃ hopens : Opens traitTokens bodyOpen,
      TraitBody traitTokens 0 "T" bodyOpen ∧
        DirectFunctions (bodyTokens pairs bodyOpen hopens) 1 := by
  have htrait : ∃ pairs : Pairs traitTokens, publicTrait pairs 0 ⟨"pub", 0, 1, true⟩ =
      .ok (some ⟨"T", 1, 1, 1⟩) := ⟨⟨_, rfl⟩, rfl⟩
  obtain ⟨pairs, htrait⟩ := htrait
  exact ⟨pairs, (metrics_structural [] pairs).2 0 _ _ htrait⟩

end Zrm.L6.RustComplexity
