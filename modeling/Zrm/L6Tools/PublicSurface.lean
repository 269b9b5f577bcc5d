import Mathlib.Data.Multiset.AddSub
import Mathlib.Data.List.Dedup
import Mathlib.Data.List.Sort
import Zrm.L6Tools.ImplOwners
import Zrm.L6Tools.SurfacePolicy

/-!
# The public surface gate (`tools/check_architecture.py`)

`public_authority_api_failures` extracts the public functions, types, modules, values and
re-exports of the reviewed policy modules by patterns, and compares what it found with the
allowlists. A `Counter` is the list of what was counted.

* `publicFunctions_perm`: without a failure, the function names are those of the allowlist.
* `not_quarantined`: nor is a quarantined method among them.
-/
namespace Zrm.L6.Architecture

open Regex RustComplexity Text Value

/-- A line of the report, up to the list that Python prints at its end. -/
structure Failure where
  text : String
  listed : List String
  deriving DecidableEq

/-! ## Text -/

/-- `source.split(sep)`, for a nonempty `sep`; what is left of a found `sep` is skipped. -/
def splitFrom (sep : Str) : Nat → Str → Str → List Str
  | _, [], piece => [piece.reverse]
  | skip + 1, _ :: rest, piece => splitFrom sep skip rest piece
  | 0, c :: rest, piece =>
    if sep.isPrefixOf (c :: rest) then piece.reverse :: splitFrom sep (sep.length - 1) rest []
    else splitFrom sep 0 rest (c :: piece)

def split (source sep : Str) : List Str := splitFrom sep 0 source []

/-- `source.strip()` -/
def strip (source : Str) : Str := ((source.dropWhile isSpace).reverse.dropWhile isSpace).reverse

/-- `" ".join(source.split())` -/
def joinWords (source : Str) : Str :=
  ([' '] : Str).intercalate ((source.splitOnP isSpace).filter fun w => !w.isEmpty)

/-- `source.split(sep)[-1]` -/
def lastPiece (source sep : Str) : Str := (split source sep).getLast?.getD []

/-- `source.rsplit(sep, 1)[-1]` -/
def afterLast (source sep : Str) : Str :=
  match (List.range (source.length + 1)).reverse.find? fun i => startsWith source sep i with
  | some i => source.drop (i + sep.length)
  | none => source

/-- `source.rsplit(sep, 1)[0]` -/
def beforeLast (source sep : Str) : Str :=
  match (List.range (source.length + 1)).reverse.find? fun i => startsWith source sep i with
  | some i => source.take i
  | none => source

example : lastPiece "a::b as c".toList " as ".toList = "c".toList ∧
    afterLast "x::y::z".toList "::".toList = "z".toList ∧
    joinWords " pub \n fn f() ".toList = "pub fn f()".toList := by decide

/-! ## Patterns -/

/-- `^` under `re.MULTILINE` -/
def lineStart : Re := .look fun before _ => before.all (· == '\n')

/-- `\b`; letters and digits are those of Unicode. -/
def wordBoundary (isAlnum : Char → Bool) : Re :=
  .look fun before after =>
    before.any (fun c => isAlnum c || c == '_') != after.any fun c => isAlnum c || c == '_'

/-- `[^...]*` -/
def allBut (c : Char) : Re := .star (.set (· != c))

/-- `(?:(?:const|async|unsafe)\s+|extern(?:\s+"[^"]+")?\s+)` -/
def qualifier : Re :=
  .alt (cat [.alt (word "const") (.alt (word "async") (word "unsafe")), spaces1])
    (cat [word "extern", opt (cat [spaces1, word "\"", .some (· != '"'), word "\""]), spaces1])

/-- `pub\s+(?:...)*fn\s+` -/
def functionHeader : Re := cat [word "pub", spaces1, .star qualifier, word "fn", spaces1]

/-- mirrors tools/check_architecture.py:272-275 -/
def publicFunction : Re :=
  cat [lineStart, spaces, functionHeader, .group (.some isWordChar), spaces, word "("]

/-- mirrors tools/check_architecture.py:416-419 -/
def publicFunctionSignature : Re :=
  cat [lineStart, spaces, functionHeader, .some isWordChar, spaces, word "("]

/-- mirrors tools/check_architecture.py:276-279 -/
def publicType (isAlnum : Char → Bool) : Re :=
  cat [lineStart, spaces, word "pub", spaces1,
    .alt (word "struct") (.alt (word "enum") (.alt (word "union") (.alt (word "type") (word "trait")))),
    spaces1, .group (.some isWordChar), wordBoundary isAlnum]

/-- mirrors tools/check_architecture.py:280-280 -/
def publicModule (isAlnum : Char → Bool) : Re :=
  cat [wordBoundary isAlnum, word "pub", spaces1, opt (cat [word "unsafe", spaces1]), word "mod",
    spaces1, .group (.some isWordChar), wordBoundary isAlnum]

/-- mirrors tools/check_architecture.py:439-442 -/
def publicValue : Re :=
  cat [lineStart, spaces, word "pub", spaces1,
    .alt (word "const") (cat [word "static", opt (cat [spaces1, word "mut"])]), spaces1,
    .some isWordChar, spaces, word ":", .some (· != ';'), word ";"]

/-- mirrors tools/check_architecture.py:400-400 -/
def publicUse : Re :=
  cat [lineStart, spaces, word "pub", spaces1, word "use", spaces1, .group (.some (· != ';')), word ";"]

/-- `#\s*!?\s*\[\s*(?:r#)?` -/
def attributeStart : Re :=
  cat [word "#", spaces, opt (word "!"), spaces, word "[", spaces, opt (word "r#")]

/-- mirrors tools/check_architecture.py:356-358 -/
def cfgPattern : Re :=
  cat [attributeStart, word "cfg", spaces, word "(", .group (allBut ']'), word ")", spaces, word "]"]

/-- mirrors tools/check_architecture.py:366-366 -/
def cfgAttrPattern : Re := cat [attributeStart, word "cfg_attr", spaces, word "("]

/-- mirrors tools/check_architecture.py:370-370 -/
def includePattern (isAlnum : Char → Bool) : Re :=
  cat [wordBoundary isAlnum, opt (word "r#"), word "include", spaces, word "!", spaces, word "("]

/-- mirrors tools/check_architecture.py:372-372 -/
def macroPattern (isAlnum : Char → Bool) : Re :=
  .alt (cat [wordBoundary isAlnum, word "macro_rules", spaces, word "!"])
    (cat [wordBoundary isAlnum, word "macro", spaces1, opt (word "r#"),
      .set fun c => c.isAlpha || c == '_'])

def fuzzAssertionName : String := "fuzz_assert_untrusted_candidate_cost_invariants"

/-- mirrors tools/check_architecture.py:485-485 -/
def fuzzSinkPattern : Re :=
  cat [lineStart, word "pub", spaces1, word "fn", spaces1, word fuzzAssertionName, spaces, word "(",
    spaces, word "data:", spaces, word "&[u8]", spaces, word ")", spaces, word "\x7b"]

/-- mirrors tools/check_architecture.py:498-498 -/
def fuzzUsePattern (isAlnum : Char → Bool) : Re :=
  cat [word "#[cfg(fuzzing)]", spaces, opt (cat [word "#[doc(hidden)]", spaces]), word "pub", spaces1,
    word "use", spaces1, allBut ';', wordBoundary isAlnum, word fuzzAssertionName,
    wordBoundary isAlnum, allBut ';', word ";"]

/-- `pattern.findall(source)`, for a pattern with one group -/
def findall (r : Re) (source : Str) : List String := (scan source r).map (groupText source)

/-! ## Extraction -/

/-- The line of a position, from 1: `source.count("\n", 0, start) + 1` -/
def lineNumber (source : Str) (start : Nat) : Nat := (source.take start).count '\n' + 1

/-- `owners.get(line_number, "<module>")` -/
def ownerAt (source : Str) (start : Nat) : String :=
  ((implOwnersByLine source).get? (lineNumber source start)).getD "<module>"

/-- What a match of `public_function_signatures` counts. -/
def functionSignature (source : Str) (start : Nat) : String :=
  match (find source ['{'] start).orElse fun _ => find source [';'] start with
  | some stop =>
    ownerAt source start ++ "::" ++ String.ofList (joinWords (substring source (start, stop)))
  | none => "<unterminated-public-function>"

/-- mirrors tools/check_architecture.py:413-433 -/
def publicFunctionSignatures (source : Str) : List String :=
  (scan source publicFunctionSignature).map fun m => functionSignature source m.start

/-- mirrors tools/check_architecture.py:436-450 -/
def publicValueSignatures (source : Str) : List String :=
  (scan source publicValue).map fun m =>
    ownerAt source m.start ++ "::" ++ String.ofList (joinWords (substring source m.span))

/-- The names that a `pub use` statement exports. -/
def exportedNames (statement : Str) : List Str :=
  match find statement ['{'] 0 with
  | some i =>
    (split (beforeLast (statement.drop (i + 1)) ['}']) [',']).filterMap fun part =>
      if strip part = [] then none else some (lastPiece (strip part) " as ".toList)
  | none => [afterLast (lastPiece (strip statement) " as ".toList) "::".toList]

/-- mirrors tools/check_architecture.py:397-410 -/
def publicReexportNames (source : Str) : List String :=
  (findall publicUse source).flatMap fun statement => (exportedNames statement.toList).map String.ofList

/-! ## The gate -/

/-- mirrors tools/check_architecture.py:378-394 -/
def exactSurfaceFailures (path kind : String) (actual expected : List String) : List Failure :=
  let unexpected := actual.diff expected
  let missing := expected.diff actual
  (if unexpected = [] then []
    else [⟨path ++ " has unreviewed " ++ kind ++ " ", unexpected.insertionSort (· ≤ ·)⟩]) ++
  (if missing = [] then []
    else [⟨path ++ " is missing reviewed " ++ kind ++ " ", missing.insertionSort (· ≤ ·)⟩])

/-- mirrors tools/check_architecture.py:349-375 -/
def authorityCfgFailures (isAlnum : Char → Bool) (path : String) (source : Str) : List Failure :=
  match stripRustNonCode isAlnum source with
  | .error error => [⟨path ++ " cannot be lexed for conditional compilation: " ++ error.text, []⟩]
  | .ok structural =>
    ((findall cfgPattern structural).filterMap fun expression =>
      let normalized := String.ofList (expression.toList.filter fun c => !isSpace c)
      if normalized ∈ allowedAuthorityCfgExpressions then none
      else some ⟨path ++ " uses unreviewed conditional-compilation profile " ++ normalized, []⟩) ++
    (if search structural cfgAttrPattern then
      [⟨path ++ " uses unreviewed cfg_attr conditional compilation", []⟩] else []) ++
    (if search structural (includePattern isAlnum) then
      [⟨path ++ " uses unreviewed source inclusion", []⟩] else []) ++
    (if search structural (macroPattern isAlnum) then
      [⟨path ++ " uses an unreviewed macro definition", []⟩] else [])

abbrev Sources := List (String × Str)

/-- `Path(path).name` -/
def fileName (path : String) : String := (Path.ofString path).names.getLast?.getD ""

/-- The source of the first path with this name. -/
def sourceNamed (sources : Sources) (name : String) : Option Str :=
  (sources.find? fun s => fileName s.1 == name).map Prod.snd

/-- mirrors tools/check_architecture.py:475-503 -/
def fuzzAssertionSurfaceFailures (isAlnum : Char → Bool) (sources : Sources) : List Failure :=
  (match sourceNamed sources "fuzz_assertions.rs" with
    | some source => if search source fuzzSinkPattern then [] else
        [⟨"fuzz_assertions.rs must expose exactly a &[u8] assertion sink with implicit unit return", []⟩]
    | none => []) ++
  ["cost.rs", "lib.rs"].flatMap fun role =>
    match sourceNamed sources role with
    | some source => if search source (fuzzUsePattern isAlnum) then [] else
        [⟨role ++ " must re-export the assertion sink only under cfg(fuzzing)", []⟩]
    | none => []

/-- The names in `set(names) & quarantined`, in the order in which they were counted; a set
has none. -/
def quarantinedAmong (names quarantined : List String) : List String :=
  names.dedup.filter fun name => quarantined.contains name

/-- The loop body of `public_authority_api_failures` for a reviewed module. -/
def moduleFailures (isAlnum : Char → Bool) (path : String) (role : Role) (source : Str) :
    List Failure :=
  let functions := findall publicFunction source
  let types := findall (publicType isAlnum) source
  let reexports := publicReexportNames source
  authorityCfgFailures isAlnum path source ++
  exactSurfaceFailures path "public functions" functions (publicFunctionAllowlist role) ++
  exactSurfaceFailures path "public function signatures" (publicFunctionSignatures source)
    (publicFunctionSignatureAllowlist role) ++
  exactSurfaceFailures path "public types" types (publicTypeAllowlist role) ++
  exactSurfaceFailures path "public modules" (findall (publicModule isAlnum) source)
    (publicModuleAllowlist role) ++
  exactSurfaceFailures path "public const/static values" (publicValueSignatures source)
    (publicValueAllowlist role) ++
  exactSurfaceFailures path "public re-exports" reexports (publicReexportAllowlist role) ++
  (quarantinedAmong functions quarantinedAuthorityMethods).map (fun name =>
    ⟨path ++ " publicly exposes quarantined method " ++ name, []⟩) ++
  (quarantinedAmong types quarantinedAuthorityTypes).map (fun name =>
    ⟨path ++ " publicly exposes quarantined type " ++ name, []⟩) ++
  (quarantinedAmong reexports quarantinedAuthorityTypes).map fun name =>
    ⟨path ++ " publicly re-exports quarantined type " ++ name, []⟩

/-- mirrors tools/check_architecture.py:268-346 -/
def publicAuthorityApiFailures (isAlnum : Char → Bool) (sources : Sources) : List Failure :=
  (sources.flatMap fun s =>
    match Role.ofFileName (fileName s.1) with
    | some role => moduleFailures isAlnum s.1 role s.2
    | none => [⟨s.1 ++ " has no reviewed authority API allowlist", []⟩]) ++
  fuzzAssertionSurfaceFailures isAlnum sources

/-! ## An empty report -/

theorem le_of_diff_eq_nil {l l' : List String} (h : l.diff l' = []) :
    (l : Multiset String) ≤ (l' : Multiset String) := by
  refine Multiset.le_iff_count.mpr fun a => ?_
  have hcount := congrArg (Multiset.count a) (Multiset.coe_sub l l')
  rw [Multiset.count_sub, h, Multiset.coe_nil, Multiset.count_zero] at hcount
  omega

theorem exactSurfaceFailures_eq_nil {path kind : String} {actual expected : List String}
    (h : exactSurfaceFailures path kind actual expected = []) : actual.Perm expected := by
  obtain ⟨hunexpected, hmissing⟩ := List.append_eq_nil_iff.mp h
  refine Multiset.coe_eq_coe.mp (le_antisymm (le_of_diff_eq_nil ?_) (le_of_diff_eq_nil ?_))
  · by_contra hne
    rw [if_neg hne] at hunexpected
    cases hunexpected
  · by_contra hne
    rw [if_neg hne] at hmissing
    cases hmissing

section Empty

variable {isAlnum : Char → Bool} {path : String} {role : Role} {source : Str}

theorem publicFunctions_perm (h : moduleFailures isAlnum path role source = []) :
    (findall publicFunction source).Perm (publicFunctionAllowlist role) := by
  simp only [moduleFailures, List.append_eq_nil_iff] at h
  exact exactSurfaceFailures_eq_nil h.1.1.1.1.1.1.1.1.2

theorem not_quarantined (h : moduleFailures isAlnum path role source = []) {name : String}
    (hname : name ∈ findall publicFunction source) : name ∉ quarantinedAuthorityMethods := by
  simp only [moduleFailures, List.append_eq_nil_iff, List.map_eq_nil_iff] at h
  intro hquarantined
  have hmem : name ∈ quarantinedAmong (findall publicFunction source) quarantinedAuthorityMethods :=
    List.mem_filter.mpr ⟨List.mem_dedup.mpr hname, List.contains_iff_mem.mpr hquarantined⟩
  rw [h.1.1.2] at hmem
  cases hmem

theorem moduleFailures_eq_nil {sources : Sources}
    (h : publicAuthorityApiFailures isAlnum sources = []) (hmem : (path, source) ∈ sources)
    (hrole : Role.ofFileName (fileName path) = some role) :
    moduleFailures isAlnum path role source = [] := by
  have hall := List.flatMap_eq_nil_iff.mp (List.append_eq_nil_iff.mp h).1 _ hmem
  rw [hrole] at hall
  exact hall

end Empty

end Zrm.L6.Architecture
