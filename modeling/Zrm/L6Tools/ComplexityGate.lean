import Zrm.Core.Frame
import Zrm.Core.Loops
import Zrm.L6Tools.Findings

/-!
# The complexity gate (`tools/check_complexity.py`)

`build_report` measures every Rust source, lists the metrics over their limits as findings
and compares those over their review trigger with the approvals in the exception registry.
The report passes if nothing is left unapproved. What is approved is one finding of one text
of one file: a changed file needs a new approval.

The host is a `Runtime` (`Findings.lean`): `sha256`, `str.isalnum` of a character, `repr` of
a text and `is_file` below the root are arbitrary functions, and no property of them is
assumed; a statement that rests on the digest names the two byte strings that would have to
collide. `sources` is the mapping of paths to texts after the files were read, `registry`
the decoded JSON of the exception file. `_source_fingerprint` raises `OverflowError` where a
path or a text does not fit its length prefix; there `buildReport` has no result, which
`FitsFrame` states on the input. The report keeps the members that depend on the sources;
the fixed ones (schema, metric contract, budgets, non-claims) and the JSON text of the whole
are left out.

Results:
* `validateExceptionRegistry_eq_ok`: a registry is accepted iff it is well formed and each of
  its approvals is of a finding that needs review (`Records`, `Approval.Valid`).
* `buildReport_eq_ok`: the report in terms of the analyses and the approvals.
* `gate_passes_iff`: a report passes iff the approved findings are those over their trigger,
  no more and no less.
* `approval_is_for_one_text`: an identifier that is approved in two reports names the same
  metric of the same text of the same file, up to a collision.
* `report_order_independent`: neither the order of the files nor that of the registry, nor
  who approved a finding, matters.
* `fingerprint_decides_report`: the length prefixes can be read back, so one fingerprint
  stands for one report, up to a collision.
-/
namespace Zrm.L6.ComplexityGate

open BigEndian Zrm.Frame Placement Result Text Value RustComplexity L5.CanonicalJson
open L5.Frontier (Collision)

/-! ## Exceptions -/

/-- mirrors tools/check_complexity.py:52-57 -/
structure ExceptionEvaluation where
  approvedFindingIds : List String
  unapprovedFindingIds : List String
  deriving DecidableEq

def exceptionSchema : String := "zrm/complexity-exceptions/v1"

/-- mirrors tools/check_complexity.py:60-65 -/
def requireNonemptyString (value : Json) (field : String) : Except ComplexityError String :=
  (Bom.requireString value ("exception field " ++ field)).mapError fun raised => ⟨raised.text⟩

/-- mirrors tools/check_complexity.py:68-75 -/
def requireStringList (value : Json) (field : String) : Except ComplexityError (List String) :=
  (Bom.requireStringList value ("exception field " ++ field)).mapError fun raised => ⟨raised.text⟩

/-- `[0-9a-f]{n}` as a full match -/
def isHex (n : Nat) (text : Str) : Bool :=
  text.length == n && text.all fun c => c.isDigit || ('a' ≤ c && c ≤ 'f')

/-- `REVISION_PATTERN.fullmatch(text) is not None` -/
def isRevision (text : String) : Bool := isHex 40 text.toList

/-- `FINDING_ID_PATTERN.fullmatch(text) is not None` -/
def isFindingId (text : String) : Bool :=
  let stem := "zrm-complexity:".toList
  stem.isPrefixOf text.toList && isHex 64 (text.toList.drop stem.length)

/-- `{finding.finding_id for finding in findings if finding.level == "review_required"}` -/
def reviewIds (findings : List Finding) : List String :=
  (findings.filter fun f => f.level = .reviewRequired).map Finding.findingId

def requiredFields : List String :=
  ["finding_id", "status", "reviewer", "reviewed_revision", "rationale",
    "decomposition_alternatives", "focused_tests"]

/-- The loop body over `focused_tests`. -/
def focusedTest (rt : Runtime) (testPath : String) : Except ComplexityError Unit := do
  let path ← validateRelativePath rt testPath
  if ¬ rt.isFile path then
    .error ⟨"complexity exception references missing focused test: " ++ path⟩
  else .ok ()

/-- The loop body over the exceptions. -/
def approve (rt : Runtime) (reviewIds approved : List String) (exception : Json) :
    Except ComplexityError (List String) :=
  match exception with
  | .dict d =>
    if ¬ keysAre d requiredFields then
      .error ⟨"each complexity exception must contain the exact v1 fields"⟩
    else do
      let findingId ← requireNonemptyString (get d "finding_id") "finding_id"
      if ¬ isFindingId findingId then
        .error ⟨"invalid complexity finding ID: " ++ rt.repr findingId⟩
      else if findingId ∈ approved then
        .error ⟨"duplicate complexity exception: " ++ findingId⟩
      else if findingId ∉ reviewIds then
        .error ⟨"stale complexity exception: " ++ findingId⟩
      else if ¬ (get d "status").eqStr "approved" then
        .error ⟨"complexity exception is not approved: " ++ findingId⟩
      else do
        let _ ← requireNonemptyString (get d "reviewer") "reviewer"
        let revision ← requireNonemptyString (get d "reviewed_revision") "reviewed_revision"
        if ¬ isRevision revision then
          .error ⟨"reviewed_revision must be a lowercase forty-hex Git revision"⟩
        else do
          let _ ← requireNonemptyString (get d "rationale") "rationale"
          let _ ← requireStringList (get d "decomposition_alternatives") "decomposition_alternatives"
          let focusedTests ← requireStringList (get d "focused_tests") "focused_tests"
          forM focusedTests (focusedTest rt)
          .ok (approved ++ [findingId])
  | _ => .error ⟨"each complexity exception must contain the exact v1 fields"⟩

/-- mirrors tools/check_complexity.py:78-132 -/
def validateExceptionRegistry (rt : Runtime) (registry : Json) (findings : List Finding) :
    Except ComplexityError ExceptionEvaluation :=
  match registry with
  | .dict d =>
    if ¬ keysAre d ["schema", "exceptions"] then
      .error ⟨"exception registry must contain exactly schema and exceptions"⟩
    else if ¬ (get d "schema").eqStr exceptionSchema then
      .error ⟨"unexpected complexity exception schema"⟩
    else
      match get d "exceptions" with
      | .list exceptions => do
        let approved ← exceptions.foldlM (approve rt (reviewIds findings)) []
        return {
          approvedFindingIds := sortedSet approved
          unapprovedFindingIds := sortedSet ((reviewIds findings).filter (· ∉ approved)) }
      | _ => .error ⟨"complexity exceptions must be a list"⟩
  | _ => .error ⟨"exception registry must contain exactly schema and exceptions"⟩

/-! ## Reports -/

/-- `n.to_bytes(k, "big")`; nothing where it raises `OverflowError` -/
def toBytes (k n : Nat) : Option (List UInt8) := if n < 256 ^ k then some (toBe k n) else none

/-- `text.encode("utf-8")` of characters -/
def encodeUtf8 (text : Str) : List UInt8 := Bom.utf8 (String.ofList text)

/-- What the loop body of `_source_fingerprint` hashes. -/
def sourceFrame (file : String × Str) : Option (List UInt8) := do
  let pathBytes := Bom.utf8 file.1
  let sourceBytes := encodeUtf8 file.2
  let pathLength ← toBytes 4 pathBytes.length
  let sourceLength ← toBytes 8 sourceBytes.length
  return pathLength ++ pathBytes ++ (sourceLength ++ sourceBytes)

/-- `sorted(sources.items())` -/
def sortedItems (sources : Dict String Str) : List (String × Str) :=
  sources.items.insertionSort fun a b => a.1 ≤ b.1

/-- What `_source_fingerprint` hashes. -/
def snapshotBytes (sources : Dict String Str) : Option (List UInt8) :=
  ((sortedItems sources).mapM sourceFrame).map List.flatten

/-- mirrors tools/check_complexity.py:135-146 -/
def sourceFingerprint (rt : Runtime) (sources : Dict String Str) : Option String :=
  (snapshotBytes sources).map fun bytes => hexText (rt.sha256 bytes)

inductive Status
  | pass | reviewNeeded
  deriving DecidableEq

/-- The counts of a report. -/
structure Summary where
  approvedExceptionCount : Nat
  fileCount : Nat
  functionCount : Nat
  publicTraitCount : Nat
  reviewRequiredCount : Nat
  unapprovedReviewCount : Nat
  warningCount : Nat
  deriving DecidableEq

/-- The members of a report that depend on the sources. -/
structure Report where
  status : Status
  sourceFingerprintSha256 : String
  files : List SourceAnalysis
  findings : List Finding
  exceptions : ExceptionEvaluation
  summary : Summary
  deriving DecidableEq

def summarize (analyses : List SourceAnalysis) (findings : List Finding)
    (evaluation : ExceptionEvaluation) : Summary where
  approvedExceptionCount := evaluation.approvedFindingIds.length
  fileCount := analyses.length
  functionCount := (analyses.map fun a => a.functions.length).sum
  publicTraitCount := (analyses.map fun a => a.publicTraits.length).sum
  reviewRequiredCount := findings.countP fun f => f.level = .reviewRequired
  unapprovedReviewCount := evaluation.unapprovedFindingIds.length
  warningCount := findings.countP fun f => f.level = .warning

/-- The loop body over `sources.items()`. -/
def normalizeSource (rt : Runtime) (normalized : Dict String Str) (file : String × Str) :
    Except ComplexityError (Dict String Str) := do
  let path ← validateRelativePath rt file.1
  Dict.insertNew (fun path => ⟨"duplicate source path: " ++ path⟩) normalized (path, file.2)

/-- The payload of `build_report`. -/
def makeReport (rt : Runtime) (analyses : List SourceAnalysis) (evaluation : ExceptionEvaluation)
    (fingerprint : String) : Report :=
  let findings := classifyFindings rt.sha256 analyses
  { status := if evaluation.unapprovedFindingIds = [] then .pass else .reviewNeeded
    sourceFingerprintSha256 := fingerprint
    files := analyses
    findings
    exceptions := evaluation
    summary := summarize analyses findings evaluation }

/-- mirrors tools/check_complexity.py:191-251 -/
def buildReport (rt : Runtime) (sources : Dict String Str) (registry : Json) :
    Run ComplexityError Report := do
  let normalized ← returned (sources.items.foldlM (normalizeSource rt) Dict.empty)
  if normalized.items = [] then
    returned (.error ⟨"complexity report requires at least one Rust source"⟩)
  else do
    let analyses ← returned ((sortedItems normalized).mapM fun file => analyzeRustSource rt file.1 file.2)
    let evaluation ← returned (validateExceptionRegistry rt registry (classifyFindings rt.sha256 analyses))
    let fingerprint ← awaiting (sourceFingerprint rt normalized)
    returned (.ok (makeReport rt analyses evaluation fingerprint))

/-! ## What the registry records -/

/-- An approved exception. -/
structure Approval where
  findingId : String
  reviewer : String
  reviewedRevision : String
  rationale : String
  decompositionAlternatives : List String
  focusedTests : List String

/-- A normalized path below the root. -/
def IsRelativePath (text : String) : Prop :=
  (text ≠ "" ∧ '\\' ∉ text.toList) ∧ ¬ (Path.ofString text).absolute ∧
    ".." ∉ (Path.ofString text).names ∧ Bom.relativeText (Path.ofString text) = text

/-- The members of the dictionary of an approval. -/
structure Approval.RecordedAs (approval : Approval) (d : JsonDict) : Prop where
  fields : keysAre d requiredFields = true
  findingId : get d "finding_id" = .str approval.findingId
  status : get d "status" = .str "approved"
  reviewer : get d "reviewer" = .str approval.reviewer
  reviewedRevision : get d "reviewed_revision" = .str approval.reviewedRevision
  rationale : get d "rationale" = .str approval.rationale
  decompositionAlternatives : get d "decomposition_alternatives" =
    .list (approval.decompositionAlternatives.map .str)
  focusedTests : get d "focused_tests" = .list (approval.focusedTests.map .str)

/-- A nonempty list of texts. -/
def IsTextList (texts : List String) : Prop := texts ≠ [] ∧ texts.all hasText = true

/-- What is asked of an approval, whatever the findings are. -/
structure Approval.Valid (rt : Runtime) (approval : Approval) : Prop where
  findingId : hasText approval.findingId = true ∧ isFindingId approval.findingId = true
  reviewer : hasText approval.reviewer = true
  reviewedRevision : hasText approval.reviewedRevision = true ∧
    isRevision approval.reviewedRevision = true
  rationale : hasText approval.rationale = true
  decompositionAlternatives : IsTextList approval.decompositionAlternatives
  focusedTests : IsTextList approval.focusedTests
  focusedTestFiles : ∀ path ∈ approval.focusedTests, IsRelativePath path ∧ rt.isFile path = true

/-- The approvals in a list of exceptions. -/
def Approves (rt : Runtime) (exception : Json) (approval : Approval) : Prop :=
  ∃ d, exception = .dict d ∧ approval.RecordedAs d ∧ approval.Valid rt

/-- The registry is well formed and records these approvals. -/
structure Records (rt : Runtime) (registry : Json) (approvals : List Approval) : Prop where
  exceptions : ∃ d exceptions, registry = .dict d ∧ keysAre d ["schema", "exceptions"] = true ∧
    get d "schema" = .str exceptionSchema ∧ get d "exceptions" = .list exceptions ∧
    List.Forall₂ (Approves rt) exceptions approvals
  distinct : (approvals.map Approval.findingId).Nodup

variable {rt : Runtime}

theorem requireNonemptyString_eq_ok {value : Json} {field s : String} :
    requireNonemptyString value field = .ok s ↔ value = .str s ∧ hasText s = true :=
  mapError_eq_ok.trans Bom.requireString_eq_ok

theorem requireStringList_eq_ok {value : Json} {field : String} {l : List String} :
    requireStringList value field = .ok l ↔ value = .list (l.map .str) ∧ IsTextList l :=
  mapError_eq_ok.trans Bom.requireStringList_eq_ok

theorem validateRelativePath_eq_ok {text path : String} :
    validateRelativePath rt text = .ok path ↔ IsRelativePath text ∧ path = text := by
  rw [validateRelativePath, guard_eq_ok, guard_eq_ok, Except.ok.injEq, IsRelativePath]
  simp only [not_or, not_not, Bool.not_eq_true, @eq_comm _ text path, and_assoc]

theorem focusedTest_eq_ok {path : String} :
    focusedTest rt path = .ok () ↔ IsRelativePath path ∧ rt.isFile path = true := by
  simp only [focusedTest, bind_eq_ok, validateRelativePath_eq_ok, guard_eq_ok, not_not, and_true]
  refine ⟨fun h => ?_, fun h => ⟨path, ⟨h.1, rfl⟩, h.2⟩⟩
  obtain ⟨_, ⟨hpath, rfl⟩, hfile⟩ := h
  exact ⟨hpath, hfile⟩

/-- One exception: a new approval of a finding that needs review. -/
theorem approve_eq_ok {reviewIds approved approved' : List String} {exception : Json} :
    approve rt reviewIds approved exception = .ok approved' ↔
      ∃ approval, (Approves rt exception approval ∧ approval.findingId ∈ reviewIds) ∧
        approval.findingId ∉ approved ∧ approved' = approved ++ [approval.findingId] := by
  cases exception with
  | dict d =>
    simp only [approve, guard_eq_ok, bind_eq_ok, requireNonemptyString_eq_ok,
      requireStringList_eq_ok, eqStr_iff, not_not, Except.ok.injEq]
    refine ⟨fun h => ?_, fun h => ?_⟩
    · obtain ⟨hfields, findingId, ⟨hfindingId, hidText⟩, hid, hnew, hreview, hstatus, reviewer,
        ⟨hreviewer, hreviewerText⟩, revision, ⟨hrevision, hrevisionText⟩, hhex, rationale,
        ⟨hrationale, hrationaleText⟩, alternatives, ⟨halternatives, halternativesText⟩, tests,
        ⟨htests, htestsText⟩, _, hfiles, rfl⟩ := h
      refine ⟨⟨findingId, reviewer, revision, rationale, alternatives, tests⟩, ⟨⟨d, rfl, ?_, ?_⟩, hreview⟩,
        hnew, rfl⟩
      · exact ⟨hfields, hfindingId, hstatus, hreviewer, hrevision, hrationale, halternatives, htests⟩
      · refine ⟨⟨hidText, hid⟩, hreviewerText, ⟨hrevisionText, hhex⟩, hrationaleText,
          halternativesText, htestsText, fun path hpath => ?_⟩
        exact focusedTest_eq_ok.mp (forM_eq_ok.mp hfiles path hpath)
    · obtain ⟨approval, ⟨⟨_, hd, hrecorded, hvalid⟩, hreview⟩, hnew, rfl⟩ := h
      cases hd
      refine ⟨hrecorded.fields, approval.findingId, ⟨hrecorded.findingId, hvalid.findingId.1⟩,
        hvalid.findingId.2, hnew, hreview, hrecorded.status, approval.reviewer,
        ⟨hrecorded.reviewer, hvalid.reviewer⟩, approval.reviewedRevision,
        ⟨hrecorded.reviewedRevision, hvalid.reviewedRevision.1⟩, hvalid.reviewedRevision.2,
        approval.rationale, ⟨hrecorded.rationale, hvalid.rationale⟩,
        approval.decompositionAlternatives,
        ⟨hrecorded.decompositionAlternatives, hvalid.decompositionAlternatives⟩,
        approval.focusedTests, ⟨hrecorded.focusedTests, hvalid.focusedTests⟩, (), ?_, rfl⟩
      exact forM_eq_ok.mpr fun path hpath => focusedTest_eq_ok.mpr (hvalid.focusedTestFiles path hpath)
  | _ =>
    refine ⟨fun h => ?_, fun h => ?_⟩
    · cases h
    · obtain ⟨_, ⟨⟨_, hd, -, -⟩, -⟩, -, -⟩ := h
      cases hd

/-- What an accepted registry amounts to. -/
def evaluate (approvals : List Approval) (findings : List Finding) : ExceptionEvaluation where
  approvedFindingIds := sortedSet (approvals.map Approval.findingId)
  unapprovedFindingIds :=
    sortedSet ((reviewIds findings).filter (· ∉ approvals.map Approval.findingId))

/-- A registry is accepted iff its approvals are of findings that need review. -/
theorem validateExceptionRegistry_eq_ok {registry : Json} {findings : List Finding}
    {evaluation : ExceptionEvaluation} :
    validateExceptionRegistry rt registry findings = .ok evaluation ↔
      ∃ approvals, Records rt registry approvals ∧
        (∀ approval ∈ approvals, approval.findingId ∈ reviewIds findings) ∧
        evaluation = evaluate approvals findings := by
  have hloop := fun exceptions found => @foldlM_distinct _ _ _ _ _ _ _
    (fun seen exception seen' => @approve_eq_ok rt (reviewIds findings) seen seen' exception)
    exceptions [] found .nil
  simp only [List.nil_append, forall₂_and_right] at hloop
  cases registry with
  | dict d =>
    simp only [validateExceptionRegistry, guard_eq_ok, eqStr_iff, not_not]
    refine ⟨fun h => ?_, fun h => ?_⟩
    · obtain ⟨hfields, hschema, h⟩ := h
      split at h
      · rename_i exceptions hexceptions
        obtain ⟨found, hfound, h⟩ := bind_eq_ok.mp h
        obtain ⟨approvals, ⟨hrecorded, hreview⟩, hnodup, rfl⟩ := (hloop exceptions found).mp hfound
        cases h
        exact ⟨approvals, ⟨⟨d, exceptions, rfl, hfields, hschema, hexceptions, hrecorded⟩, hnodup⟩,
          hreview, rfl⟩
      · cases h
    · obtain ⟨approvals, ⟨⟨_, exceptions, hd, hfields, hschema, hexceptions, hrecorded⟩, hnodup⟩,
        hreview, rfl⟩ := h
      cases hd
      refine ⟨hfields, hschema, ?_⟩
      rw [hexceptions]
      exact bind_eq_ok.mpr ⟨_, (hloop exceptions _).mpr ⟨approvals, ⟨hrecorded, hreview⟩, hnodup, rfl⟩, rfl⟩
  | _ =>
    refine ⟨fun h => ?_, fun h => ?_⟩
    · cases h
    · obtain ⟨_, ⟨⟨_, _, hd, -⟩, -⟩, -⟩ := h
      cases hd

/-! ## What the report is made of -/

variable {sources sources' : Dict String Str} {registry registry' : Json} {report report' : Report}

theorem mem_sortedItems {file : String × Str} : file ∈ sortedItems sources ↔ file ∈ sources.items :=
  List.mem_insertionSort _

theorem analyzeRustSource_path {path : String} {source : Str} {a : SourceAnalysis}
    (hrun : analyzeRustSource rt path source = .ok a) :
    IsRelativePath path ∧ a.path = path ∧ a.sourceSha256 = sourceSha256 rt source := by
  obtain ⟨normalized, hpath, h⟩ := bind_eq_ok.mp hrun
  obtain ⟨cleaned, -, h⟩ := bind_eq_ok.mp h
  obtain ⟨pairs, -, h⟩ := bind_eq_ok.mp h
  obtain ⟨functions, -, h⟩ := bind_eq_ok.mp h
  obtain ⟨traits, -, h⟩ := bind_eq_ok.mp h
  obtain ⟨hrelative, hnormalized⟩ := validateRelativePath_eq_ok.mp hpath
  subst hnormalized
  cases h
  exact ⟨hrelative, rfl, rfl⟩

/-- Normalizing changes nothing: it succeeds on normalized paths only. -/
theorem normalizeSources_eq_ok {normalized : Dict String Str} :
    sources.items.foldlM (normalizeSource rt) Dict.empty = .ok normalized ↔
      (∀ file ∈ sources.items, IsRelativePath file.1) ∧ normalized = sources := by
  have hstep : ∀ (d : Dict String Str) (a b : String × Str) d', a = b →
      (normalizeSource rt d a = .ok d' ↔ IsRelativePath b.1 ∧
        [b].foldlM (Dict.insertNew fun path => (⟨"duplicate source path: " ++ path⟩ : ComplexityError)) d =
          .ok d') := by
    intro d a b d' hab
    subst hab
    simp only [normalizeSource, bind_eq_ok, validateRelativePath_eq_ok, List.foldlM_cons,
      List.foldlM_nil, pure_eq, Except.ok.injEq, exists_eq_right]
    refine ⟨fun h => ?_, fun h => ⟨_, ⟨h.1, rfl⟩, h.2⟩⟩
    obtain ⟨_, ⟨hpath, rfl⟩, hinsert⟩ := h
    exact ⟨hpath, hinsert⟩
  rw [foldlM_entries (List.forall₂_same.mpr fun _ _ => rfl) hstep, List.flatMap_singleton']
  refine and_congr_right fun _ => ⟨fun h => Dict.ext h.2, fun h => ?_⟩
  subst h
  exact ⟨normalized.nodup, rfl⟩

/-- What the length prefixes of the fingerprint can hold. -/
def FitsFrame (file : String × Str) : Prop :=
  (Bom.utf8 file.1).length < 256 ^ 4 ∧ (encodeUtf8 file.2).length < 256 ^ 8

/-- The frame of a file: both parts behind their lengths. -/
def frameBytes (file : String × Str) : List UInt8 :=
  lengthPrefixed 4 (Bom.utf8 file.1) ++ lengthPrefixed 8 (encodeUtf8 file.2)

theorem toBytes_eq_some {k n : Nat} {bytes : List UInt8} :
    toBytes k n = some bytes ↔ n < 256 ^ k ∧ bytes = toBe k n := by
  unfold toBytes
  split <;> simp_all [eq_comm]

theorem sourceFrame_eq_some {file : String × Str} {bytes : List UInt8} :
    sourceFrame file = some bytes ↔ FitsFrame file ∧ bytes = frameBytes file := by
  simp only [sourceFrame, Option.bind_eq_bind, Option.bind_eq_some_iff, toBytes_eq_some,
    Option.pure_def, Option.some.injEq, FitsFrame]
  refine ⟨fun h => ?_, fun h => ?_⟩
  · obtain ⟨_, ⟨hpath, rfl⟩, _, ⟨hsource, rfl⟩, rfl⟩ := h
    exact ⟨⟨hpath, hsource⟩, rfl⟩
  · obtain ⟨⟨hpath, hsource⟩, rfl⟩ := h
    exact ⟨_, ⟨hpath, rfl⟩, _, ⟨hsource, rfl⟩, rfl⟩

theorem snapshotBytes_eq_some {bytes : List UInt8} : snapshotBytes sources = some bytes ↔
    (∀ file ∈ sources.items, FitsFrame file) ∧ bytes = (sortedItems sources).flatMap frameBytes := by
  rw [snapshotBytes, Option.map_eq_some_iff]
  simp only [mapM_eq_some fun file bytes => @sourceFrame_eq_some file bytes, mem_sortedItems]
  refine ⟨fun h => ?_, fun h => ⟨_, ⟨h.1, rfl⟩, h.2.symm⟩⟩
  obtain ⟨_, ⟨hfits, rfl⟩, rfl⟩ := h
  exact ⟨hfits, rfl⟩

/-- The analyses of the sorted sources. -/
def Analyzed (rt : Runtime) (sources : Dict String Str) (analyses : List SourceAnalysis) : Prop :=
  List.Forall₂ (fun file a => analyzeRustSource rt file.1 file.2 = .ok a) (sortedItems sources) analyses

/-- A report is made from the analyses, the approvals and the bytes of its sources. -/
theorem buildReport_eq_ok : buildReport rt sources registry = returned (.ok report) ↔
    sources.items ≠ [] ∧ (∀ file ∈ sources.items, FitsFrame file) ∧
      ∃ analyses approvals, Analyzed rt sources analyses ∧ Records rt registry approvals ∧
        (∀ approval ∈ approvals, approval.findingId ∈ reviewIds (classifyFindings rt.sha256 analyses)) ∧
        report = makeReport rt analyses (evaluate approvals (classifyFindings rt.sha256 analyses))
          (hexText (rt.sha256 ((sortedItems sources).flatMap frameBytes))) := by
  simp only [buildReport, run_bind_eq_ok, run_guard_eq_ok, awaiting_eq_ok, returned_inj,
    normalizeSources_eq_ok, mapM_eq_ok, validateExceptionRegistry_eq_ok, sourceFingerprint,
    Option.map_eq_some_iff, snapshotBytes_eq_some, Except.ok.injEq]
  refine ⟨fun h => ?_, fun h => ?_⟩
  · obtain ⟨_, ⟨-, rfl⟩, hne, analyses, hanalyses, _, ⟨approvals, hrecords, hreview, rfl⟩, _,
      ⟨_, ⟨hfits, rfl⟩, rfl⟩, rfl⟩ := h
    exact ⟨hne, hfits, analyses, approvals, hanalyses, hrecords, hreview, rfl⟩
  · obtain ⟨hne, hfits, analyses, approvals, hanalyses, hrecords, hreview, rfl⟩ := h
    have hpaths : ∀ file ∈ sources.items, IsRelativePath file.1 := by
      intro file hfile
      obtain ⟨a, -, ha⟩ := exists_of_mem_left hanalyses (mem_sortedItems.mpr hfile)
      exact (analyzeRustSource_path ha).1
    exact ⟨sources, ⟨hpaths, rfl⟩, hne, analyses, hanalyses, _, ⟨approvals, hrecords, hreview, rfl⟩, _,
      ⟨_, ⟨hfits, rfl⟩, rfl⟩, rfl⟩

/-! ## What has to be approved -/

/-- A metric of a file over its review trigger. -/
def NeedsReview (rt : Runtime) (file : String × Str) (item : Item) : Prop :=
  item.metric.reviewTrigger < item.measured ∧
    ∃ a, analyzeRustSource rt file.1 file.2 = .ok a ∧ item ∈ items a

theorem mem_reviewIds {analyses : List SourceAnalysis} {id : String} :
    id ∈ reviewIds (classifyFindings rt.sha256 analyses) ↔ ∃ a ∈ analyses, ∃ item ∈ items a,
      item.metric.reviewTrigger < item.measured ∧ item.findingId rt.sha256 = id := by
  simp only [reviewIds, List.mem_map, List.mem_filter, mem_classifyFindings, decide_eq_true_eq]
  refine ⟨fun h => ?_, fun h => ?_⟩
  · obtain ⟨f, ⟨⟨a, ha, item, hitem, hf⟩, hlevel⟩, rfl⟩ := h
    obtain ⟨hid, -, htrigger⟩ := finding_eq_some hf
    exact ⟨a, ha, item, hitem, htrigger.mp hlevel, hid.symm⟩
  · obtain ⟨a, ha, item, hitem, hover, rfl⟩ := h
    have hf : finding rt.sha256 item ≠ none := by
      rw [finding, if_neg (Nat.not_le.mpr (Nat.lt_trans (preferredMax_lt item.metric) hover))]
      exact Option.some_ne_none _
    obtain ⟨f, hf⟩ := Option.ne_none_iff_exists'.mp hf
    obtain ⟨hid, -, htrigger⟩ := finding_eq_some hf
    exact ⟨f, ⟨⟨a, ha, item, hitem, hf⟩, htrigger.mpr hover⟩, hid⟩

theorem Analyzed.mem_reviewIds {analyses : List SourceAnalysis} (h : Analyzed rt sources analyses)
    {id : String} : id ∈ reviewIds (classifyFindings rt.sha256 analyses) ↔
      ∃ file ∈ sources.items, ∃ item, NeedsReview rt file item ∧ item.findingId rt.sha256 = id := by
  rw [ComplexityGate.mem_reviewIds]
  refine ⟨fun hid => ?_, fun hid => ?_⟩
  · obtain ⟨a, ha, item, hitem, hover, hid⟩ := hid
    obtain ⟨file, hfile, hrun⟩ := exists_of_mem_right h ha
    exact ⟨file, mem_sortedItems.mp hfile, item, ⟨hover, a, hrun, hitem⟩, hid⟩
  · obtain ⟨file, hfile, item, ⟨hover, a, hrun, hitem⟩, hid⟩ := hid
    obtain ⟨a', ha', hrun'⟩ := exists_of_mem_left h (mem_sortedItems.mpr hfile)
    rw [hrun, Except.ok.injEq] at hrun'
    exact ⟨a', ha', item, hrun' ▸ hitem, hover, hid⟩

theorem evaluate_unapproved {approvals : List Approval} {findings : List Finding} :
    (evaluate approvals findings).unapprovedFindingIds = [] ↔
      ∀ id ∈ reviewIds findings, id ∈ approvals.map Approval.findingId := by
  simp only [evaluate, List.eq_nil_iff_forall_not_mem, mem_sortedSet, List.mem_filter,
    decide_eq_true_eq, not_and, not_not]

theorem makeReport_status {analyses : List SourceAnalysis} {evaluation : ExceptionEvaluation}
    {fingerprint : String} : (makeReport rt analyses evaluation fingerprint).status = .pass ↔
      evaluation.unapprovedFindingIds = [] := by
  unfold makeReport
  split <;> simp_all

/-- **The gate.** A report passes iff there are sources, all of them can be measured, and the
registry is well formed and approves exactly the metrics over their review trigger. -/
theorem gate_passes_iff (rt : Runtime) (sources : Dict String Str) (registry : Json) :
    (∃ report, buildReport rt sources registry = returned (.ok report) ∧ report.status = .pass) ↔
      sources.items ≠ [] ∧ (∀ file ∈ sources.items, FitsFrame file ∧
        ∃ a, analyzeRustSource rt file.1 file.2 = .ok a) ∧
      ∃ approvals, Records rt registry approvals ∧
        ∀ id, id ∈ approvals.map Approval.findingId ↔ ∃ file ∈ sources.items, ∃ item,
          NeedsReview rt file item ∧ item.findingId rt.sha256 = id := by
  simp only [buildReport_eq_ok]
  refine ⟨fun h => ?_, fun h => ?_⟩
  · obtain ⟨_, ⟨hne, hfits, analyses, approvals, hanalyses, hrecords, hreview, rfl⟩, hpass⟩ := h
    rw [makeReport_status, evaluate_unapproved] at hpass
    refine ⟨hne, fun file hfile => ⟨hfits file hfile, ?_⟩, approvals, hrecords, fun id => ?_⟩
    · obtain ⟨a, -, ha⟩ := exists_of_mem_left hanalyses (mem_sortedItems.mpr hfile)
      exact ⟨a, ha⟩
    · rw [← hanalyses.mem_reviewIds]
      refine ⟨fun hid => ?_, hpass id⟩
      obtain ⟨approval, happroval, rfl⟩ := List.mem_map.mp hid
      exact hreview approval happroval
  · obtain ⟨hne, hfiles, approvals, hrecords, hexact⟩ := h
    have hrun : ∀ file ∈ sortedItems sources, ∃ a, analyzeRustSource rt file.1 file.2 = .ok a :=
      fun file hfile => (hfiles file (mem_sortedItems.mp hfile)).2
    obtain ⟨analyses, hanalyses⟩ := exists_mapM hrun
    rw [mapM_eq_ok] at hanalyses
    have hanalyses : Analyzed rt sources analyses := hanalyses
    simp only [← hanalyses.mem_reviewIds] at hexact
    refine ⟨_, ⟨hne, fun file hfile => (hfiles file hfile).1, analyses, approvals, hanalyses, hrecords,
      fun approval happroval => (hexact _).mp (List.mem_map_of_mem happroval), rfl⟩, ?_⟩
    rw [makeReport_status, evaluate_unapproved]
    exact fun id hid => (hexact id).mpr hid

/-! ## Approvals of changed files -/

theorem item_of_file {a : SourceAnalysis} {item : Item} (h : item ∈ items a) :
    item.path = a.path ∧ item.sourceSha256 = a.sourceSha256 := by
  simp only [items, List.mem_cons, List.mem_append, List.mem_flatMap, List.mem_map] at h
  rcases h with rfl | ⟨f, -, hitem⟩ | ⟨t, -, rfl⟩
  · exact ⟨rfl, rfl⟩
  · simp only [functionItems, List.mem_cons, List.not_mem_nil, or_false] at hitem
    rcases hitem with rfl | rfl | rfl <;> exact ⟨rfl, rfl⟩
  · exact ⟨rfl, rfl⟩

theorem encodeUtf8_injective : Function.Injective encodeUtf8 := fun _ _ h =>
  String.ofList_injective (Bom.utf8_injective h)

theorem NeedsReview.file {file : String × Str} {item : Item} (h : NeedsReview rt file item) :
    item.path = file.1 ∧ item.sourceSha256 = sourceSha256 rt file.2 := by
  obtain ⟨-, a, hrun, hitem⟩ := h
  obtain ⟨-, hpath, hsource⟩ := analyzeRustSource_path hrun
  obtain ⟨hitemPath, hitemSource⟩ := item_of_file hitem
  exact ⟨hitemPath.trans hpath, hitemSource.trans hsource⟩

/-- Items with one identifier are of one text of one file, up to a collision. -/
theorem file_of_findingId {file file' : String × Str} {item item' : Item}
    (h : NeedsReview rt file item) (h' : NeedsReview rt file' item')
    (hid : item.findingId rt.sha256 = item'.findingId rt.sha256) :
    (file = file' ∧ item = item') ∨ Collision rt.sha256 item.bytes item'.bytes ∨
      Collision rt.sha256 (encodeUtf8 file.2) (encodeUtf8 file'.2) := by
  rcases Item.findingId_eq_iff.mp hid with hitem | hcollision
  · have hsource : sourceSha256 rt file.2 = sourceSha256 rt file'.2 := by
      rw [← h.file.2, ← h'.file.2, hitem]
    rcases Collision.or_eq.mp (hexText_injective hsource) with htext | hcollision
    · have hpath : file.1 = file'.1 := by rw [← h.file.1, ← h'.file.1, hitem]
      exact .inl ⟨Prod.ext hpath (encodeUtf8_injective htext), hitem⟩
    · exact .inr (.inr hcollision)
  · exact .inr (.inl hcollision)

theorem approved_needs_review (h : buildReport rt sources registry = returned (.ok report)) {id : String}
    (hid : id ∈ report.exceptions.approvedFindingIds) :
    ∃ file ∈ sources.items, ∃ item, NeedsReview rt file item ∧ item.findingId rt.sha256 = id := by
  obtain ⟨-, -, analyses, approvals, hanalyses, -, hreview, rfl⟩ := buildReport_eq_ok.mp h
  obtain ⟨approval, happroval, rfl⟩ := List.mem_map.mp (mem_sortedSet.mp hid)
  exact hanalyses.mem_reviewIds.mp (hreview approval happroval)

/-- **An approval is for one text.** An identifier that two reports both accept as approved names
a metric in each, and it is the same metric of the same file with the same text, or there is a
collision. -/
theorem approval_is_for_one_text (h : buildReport rt sources registry = returned (.ok report))
    (h' : buildReport rt sources' registry' = returned (.ok report')) {id : String}
    (hid : id ∈ report.exceptions.approvedFindingIds)
    (hid' : id ∈ report'.exceptions.approvedFindingIds) :
    ∃ file ∈ sources.items, ∃ file' ∈ sources'.items, ∃ item item',
      (NeedsReview rt file item ∧ item.findingId rt.sha256 = id) ∧
        (NeedsReview rt file' item' ∧ item'.findingId rt.sha256 = id) ∧
        ((file = file' ∧ item = item') ∨ Collision rt.sha256 item.bytes item'.bytes ∨
          Collision rt.sha256 (encodeUtf8 file.2) (encodeUtf8 file'.2)) := by
  obtain ⟨file, hfile, item, hitem, hitemId⟩ := approved_needs_review h hid
  obtain ⟨file', hfile', item', hitem', hitemId'⟩ := approved_needs_review h' hid'
  exact ⟨file, hfile, file', hfile', item, item', ⟨hitem, hitemId⟩, ⟨hitem', hitemId'⟩,
    file_of_findingId hitem hitem' (hitemId.trans hitemId'.symm)⟩

/-- A host under whose hash everything collides. -/
def collidingRuntime : Runtime where
  sha256 _ := Bytes.replicate 32 0
  isAlnum := Char.isAlphanum
  repr text := text
  isFile _ := true

/-- A function whose blocks are five deep. -/
def nestedText : String := "fn f() \x7b \x7b\x7b\x7b\x7b\x7b\x7d\x7d\x7d\x7d\x7d \x7d"

def nestedSource (behind : String) : Dict String Str :=
  ⟨[("a.rs", (nestedText ++ behind).toList)], by simp⟩

def nestedId : String := "zrm-complexity:" ++ hexText (Bytes.replicate 32 0)

def revision : String := "0000000000000000000000000000000000000000"

/-- The registry in which a reviewer approves it. -/
def nestedRegistry (reviewer : String) : Json :=
  .dict [("schema", .str exceptionSchema), ("exceptions", .list [.dict [("finding_id", .str nestedId),
    ("status", .str "approved"), ("reviewer", .str reviewer), ("reviewed_revision", .str revision),
    ("rationale", .str "nesting"), ("decomposition_alternatives", .list [.str "none"]),
    ("focused_tests", .list [.str "test.rs"])]])]

/-- One registry approves two texts only where their digests collide. -/
theorem approval_is_for_one_text_colliding :
    ∃ file ∈ (nestedSource "").items, ∃ file' ∈ (nestedSource " ").items, ∃ item item',
      (NeedsReview collidingRuntime file item ∧ item.findingId collidingRuntime.sha256 = nestedId) ∧
        (NeedsReview collidingRuntime file' item' ∧
          item'.findingId collidingRuntime.sha256 = nestedId) ∧
        ((file = file' ∧ item = item') ∨ Collision collidingRuntime.sha256 item.bytes item'.bytes ∨
          Collision collidingRuntime.sha256 (encodeUtf8 file.2) (encodeUtf8 file'.2)) := by
  have hrun : ∀ behind ∈ ["", " "],
      returns (fun report : Report => report.exceptions.approvedFindingIds.contains nestedId)
        (buildReport collidingRuntime (nestedSource behind) (nestedRegistry "reviewer")) = true := by
    decide +kernel
  obtain ⟨_, h, hid⟩ := exists_of_returns (hrun "" (by simp))
  obtain ⟨_, h', hid'⟩ := exists_of_returns (hrun " " (by simp))
  exact approval_is_for_one_text h h' (List.contains_iff_mem.mp hid) (List.contains_iff_mem.mp hid')

/-! ## Order and fingerprint -/

theorem strs_injective : Function.Injective fun texts : List String => texts.map Json.str :=
  List.map_injective_iff.mpr fun _ _ h => Json.str.inj h

theorem Approves.unique {exception : Json} {approval approval' : Approval}
    (h : Approves rt exception approval) (h' : Approves rt exception approval') :
    approval = approval' := by
  obtain ⟨d, rfl, hd, -⟩ := h
  obtain ⟨_, hdict, hd', -⟩ := h'
  cases hdict
  have htexts := fun {texts texts' : List String} (heq : Json.list (texts.map .str) = .list (texts'.map .str)) =>
    strs_injective (Json.list.inj heq)
  have h1 := Json.str.inj (hd.findingId.symm.trans hd'.findingId)
  have h2 := Json.str.inj (hd.reviewer.symm.trans hd'.reviewer)
  have h3 := Json.str.inj (hd.reviewedRevision.symm.trans hd'.reviewedRevision)
  have h4 := Json.str.inj (hd.rationale.symm.trans hd'.rationale)
  have h5 := htexts (hd.decompositionAlternatives.symm.trans hd'.decompositionAlternatives)
  have h6 := htexts (hd.focusedTests.symm.trans hd'.focusedTests)
  cases approval
  cases approval'
  simp_all

theorem Records.unique {approvals approvals' : List Approval} (h : Records rt registry approvals)
    (h' : Records rt registry approvals') : approvals = approvals' := by
  obtain ⟨⟨d, exceptions, rfl, -, -, hexceptions, hall⟩, -⟩ := h
  obtain ⟨⟨_, _, hdict, -, -, hexceptions', hall'⟩, -⟩ := h'
  cases hdict
  rw [hexceptions, Json.list.injEq] at hexceptions'
  subst hexceptions'
  exact @List.right_unique_forall₂' _ _ (Approves rt) (fun _ _ _ ha hb => ha.unique hb) _ _ _ hall hall'

/-- The registries approve the same findings. -/
def SameApprovals (rt : Runtime) (registry registry' : Json) : Prop :=
  ∃ approvals approvals', Records rt registry approvals ∧ Records rt registry' approvals' ∧
    ∀ id, id ∈ approvals.map Approval.findingId ↔ id ∈ approvals'.map Approval.findingId

theorem sortedItems_perm (h : sources.items.Perm sources'.items) :
    sortedItems sources = sortedItems sources' :=
  insertionSort_key_eq sources.nodup h

theorem buildReport_congr (hfiles : sources.items.Perm sources'.items)
    (hregistry : SameApprovals rt registry registry')
    (h : buildReport rt sources registry = returned (.ok report)) :
    buildReport rt sources' registry' = returned (.ok report) := by
  obtain ⟨approvals, approvals', hrecords, hrecords', hids⟩ := hregistry
  obtain ⟨hne, hfits, analyses, found, hanalyses, hfound, hreview, rfl⟩ := buildReport_eq_ok.mp h
  obtain rfl := hrecords.unique hfound
  have hsorted := sortedItems_perm hfiles
  refine buildReport_eq_ok.mpr ⟨fun hnil => hne ?_, fun file hfile => hfits file (hfiles.mem_iff.mpr hfile),
    analyses, approvals', ?_, hrecords', fun approval happroval => ?_, ?_⟩
  · exact List.Perm.eq_nil (hnil ▸ hfiles)
  · rw [Analyzed, ← hsorted]
    exact hanalyses
  · obtain ⟨approval', happroval', hid⟩ :=
      List.mem_map.mp ((hids _).mpr (List.mem_map_of_mem happroval))
    exact hid ▸ hreview approval' happroval'
  · have hevaluate : ∀ findings, evaluate approvals findings = evaluate approvals' findings := by
      intro findings
      simp only [evaluate, hids, sortedSet_eq_iff.mpr hids]
    rw [hsorted, hevaluate]

theorem SameApprovals.symm (h : SameApprovals rt registry registry') :
    SameApprovals rt registry' registry := by
  obtain ⟨approvals, approvals', hrecords, hrecords', hids⟩ := h
  exact ⟨approvals', approvals, hrecords', hrecords, fun id => (hids id).symm⟩

/-- **Order is irrelevant.** A report depends neither on the order of the sources nor on that of
the exceptions, nor on anything of an exception but its identifier. -/
theorem report_order_independent (hfiles : sources.items.Perm sources'.items)
    (hregistry : SameApprovals rt registry registry') (report : Report) :
    buildReport rt sources registry = returned (.ok report) ↔
      buildReport rt sources' registry' = returned (.ok report) :=
  ⟨buildReport_congr hfiles hregistry, buildReport_congr hfiles.symm hregistry.symm⟩

/-- The approval in `nestedRegistry`. -/
def nestedApproval (reviewer : String) : Approval :=
  ⟨nestedId, reviewer, revision, "nesting", ["none"], ["test.rs"]⟩

theorem nestedRegistry_records {reviewer : String} (h : hasText reviewer = true) :
    Records collidingRuntime (nestedRegistry reviewer) [nestedApproval reviewer] := by
  have hpath : IsRelativePath "test.rs" :=
    (@validateRelativePath_eq_ok collidingRuntime _ "test.rs").mp (by decide +kernel) |>.1
  have hid : hasText nestedId = true ∧ isFindingId nestedId = true := by decide +kernel
  have hrevision : hasText revision = true ∧ isRevision revision = true := by decide +kernel
  have hrationale : hasText "nesting" = true := by decide +kernel
  have hlists : IsTextList ["none"] ∧ IsTextList ["test.rs"] :=
    ⟨⟨by simp, by decide +kernel⟩, by simp, by decide +kernel⟩
  refine ⟨⟨_, _, rfl, by rfl, by rfl, by rfl, .cons ⟨_, rfl, ?_, ?_⟩ .nil⟩, by simp⟩
  · exact ⟨by rfl, rfl, rfl, rfl, rfl, rfl, rfl, rfl⟩
  · refine ⟨hid, h, hrevision, hrationale, hlists.1, hlists.2, fun path hmem => ?_⟩
    obtain rfl : path = "test.rs" := by simpa [nestedApproval] using hmem
    exact ⟨hpath, rfl⟩

/-- Who approved a finding does not matter. -/
theorem nestedRegistry_same {reviewer reviewer' : String} (h : hasText reviewer = true)
    (h' : hasText reviewer' = true) :
    SameApprovals collidingRuntime (nestedRegistry reviewer) (nestedRegistry reviewer') :=
  ⟨_, _, nestedRegistry_records h, nestedRegistry_records h', fun _ => Iff.rfl⟩

/-- A file with an approved finding and an empty file, in one order and in the other. -/
def nestedFiles : Dict String Str :=
  ⟨[("a.rs", nestedText.toList), ("b.rs", [])], by simp⟩

def nestedFilesReversed : Dict String Str :=
  ⟨[("b.rs", []), ("a.rs", nestedText.toList)], by simp⟩

/-- The files in the other order, under the registry of another reviewer. -/
theorem report_order_independent_two : ∃ report,
    buildReport collidingRuntime nestedFiles (nestedRegistry "first") = returned (.ok report) ∧
      buildReport collidingRuntime nestedFilesReversed (nestedRegistry "second") =
        returned (.ok report) ∧ report.exceptions.approvedFindingIds = [nestedId] := by
  obtain ⟨report, h, hids⟩ : ∃ report,
      buildReport collidingRuntime nestedFiles (nestedRegistry "first") = returned (.ok report) ∧
        decide (report.exceptions.approvedFindingIds = [nestedId]) = true :=
    exists_of_returns (by decide +kernel)
  have hfiles : nestedFiles.items.Perm nestedFilesReversed.items := List.Perm.swap _ _ _
  have hregistry := @nestedRegistry_same "first" "second" (by decide +kernel) (by decide +kernel)
  exact ⟨report, h, (report_order_independent hfiles hregistry report).mp h, of_decide_eq_true hids⟩

def emptyRegistry : Json := .dict [("schema", .str exceptionSchema), ("exceptions", .list [])]

theorem emptyRegistry_same : SameApprovals rt emptyRegistry emptyRegistry := by
  have h : Records rt emptyRegistry [] := ⟨⟨_, [], rfl, by decide, by rfl, by rfl, .nil⟩, .nil⟩
  exact ⟨[], [], h, h, fun _ => Iff.rfl⟩

def twoFiles : Dict String Str := ⟨[("a.rs", "fn f() \x7b\x7d".toList), ("b.rs", [])], by simp⟩

theorem twoFiles_report :
    ∃ report, buildReport collidingRuntime twoFiles emptyRegistry = returned (.ok report) ∧
      decide (report.summary.fileCount = 2) = true :=
  exists_of_returns (by decide +kernel)


/-- What is hashed for the fingerprint of a report. -/
def fingerprintBytes (sources : Dict String Str) : List UInt8 :=
  (sortedItems sources).flatMap frameBytes

theorem fingerprintBytes_eq_iff (h : ∀ file ∈ sources.items, FitsFrame file)
    (h' : ∀ file ∈ sources'.items, FitsFrame file) :
    fingerprintBytes sources = fingerprintBytes sources' ↔ sources.items.Perm sources'.items := by
  refine ⟨fun heq => ?_, fun hperm => by rw [fingerprintBytes, fingerprintBytes, sortedItems_perm hperm]⟩
  have hparts : Function.Injective fun file : String × Str => (Bom.utf8 file.1, encodeUtf8 file.2) := by
    intro file file' hfile
    rw [Prod.mk.injEq] at hfile
    exact Prod.ext (Bom.utf8_injective hfile.1) (encodeUtf8_injective hfile.2)
  have hbytes : ∀ files : List (String × Str), files.flatMap frameBytes =
      (files.map fun file => (Bom.utf8 file.1, encodeUtf8 file.2)).flatMap fun parts =>
        lengthPrefixed 4 parts.1 ++ lengthPrefixed 8 parts.2 := by
    intro files
    rw [List.flatMap_map]
    rfl
  rw [fingerprintBytes, fingerprintBytes, hbytes, hbytes] at heq
  have hlengths : ∀ sources : Dict String Str, (∀ file ∈ sources.items, FitsFrame file) →
      ∀ parts ∈ (sortedItems sources).map fun file => (Bom.utf8 file.1, encodeUtf8 file.2),
        parts.1.length < 256 ^ 4 ∧ parts.2.length < 256 ^ 8 := by
    intro sources hfits parts hmem
    obtain ⟨file, hfile, rfl⟩ := List.mem_map.mp hmem
    exact hfits file (mem_sortedItems.mp hfile)
  have hsorted := (readPair_exact 4 8).flatMap_inj (fun parts => by simp [lengthPrefixed, toBe])
    (hlengths sources h) (hlengths sources' h') heq
  exact perm_of_insertionSort_eq (List.map_injective_iff.mpr hparts hsorted)

theorem fingerprint_of_report (h : buildReport rt sources registry = returned (.ok report)) :
    report.sourceFingerprintSha256 = hexText (rt.sha256 (fingerprintBytes sources)) := by
  obtain ⟨-, -, analyses, approvals, -, -, -, rfl⟩ := buildReport_eq_ok.mp h
  rfl

/-- **A fingerprint stands for one report.** Under registries that approve the same findings,
two reports have one fingerprint iff they are equal or what is hashed for it collides. -/
theorem fingerprint_decides_report (h : buildReport rt sources registry = returned (.ok report))
    (h' : buildReport rt sources' registry' = returned (.ok report'))
    (hregistry : SameApprovals rt registry registry') :
    report.sourceFingerprintSha256 = report'.sourceFingerprintSha256 ↔
      report = report' ∨ Collision rt.sha256 (fingerprintBytes sources) (fingerprintBytes sources') := by
  have hfits := (buildReport_eq_ok.mp h).2.1
  have hfits' := (buildReport_eq_ok.mp h').2.1
  refine ⟨fun heq => ?_, fun heq => ?_⟩
  · rw [fingerprint_of_report h, fingerprint_of_report h'] at heq
    rcases Collision.or_eq.mp (hexText_injective heq) with hbytes | hcollision
    · have hfiles := (fingerprintBytes_eq_iff hfits hfits').mp hbytes
      have hsame := buildReport_congr hfiles hregistry h
      rw [h', returned_inj, Except.ok.injEq] at hsame
      exact .inl hsame.symm
    · exact .inr hcollision
  · rcases heq with rfl | hcollision
    · rfl
    · rw [fingerprint_of_report h, fingerprint_of_report h', hcollision.2]

theorem fingerprint_decides_report_two :
    Collision collidingRuntime.sha256 (fingerprintBytes twoFiles)
      (fingerprintBytes ⟨[("b.rs", [])], by simp⟩) := by
  obtain ⟨report, h, hcount⟩ := twoFiles_report
  obtain ⟨report', h', hcount'⟩ : ∃ report,
      buildReport collidingRuntime ⟨[("b.rs", [])], by simp⟩ emptyRegistry = returned (.ok report) ∧
        decide (report.summary.fileCount = 1) = true :=
    exists_of_returns (by decide +kernel)
  have hdecides := fingerprint_decides_report h h' emptyRegistry_same
  refine (hdecides.mp ?_).resolve_left fun heq => ?_
  · rw [fingerprint_of_report h, fingerprint_of_report h']
    rfl
  · rw [heq, decide_eq_true_eq] at hcount
    rw [decide_eq_true_eq, hcount] at hcount'
    exact absurd hcount' (by decide)

end Zrm.L6.ComplexityGate
