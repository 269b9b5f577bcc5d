import Mathlib.Data.Prod.Lex
import Zrm.L5Reference.RootBinding
import Zrm.L6Tools.BomCommon
import Zrm.L6Tools.Metrics

/-!
# Findings (`tools/rust_complexity.py`)

Every metric of a source file over its preferred limit is a finding, named by a digest of
what it says. The list is sorted twice, so only the files themselves matter. A path is a
text with a UTF-8 encoding, as a source must have one to be hashed: two paths that differ
in surrogate code points can have one JSON, and so one identifier.

* `mem_classifyFindings`: what is reported.
* `classifyFindings_perm`: the order of the files is irrelevant.
* `finding_id_binds`: an identifier stands for one finding, up to a collision.
-/
namespace Zrm.L6.RustComplexity

open BigEndian Placement Result Text L5.CanonicalJson

/-- What the host and the standard library answer. -/
structure Runtime where
  /-- `hashlib.sha256(data).digest()` -/
  sha256 : List UInt8 → Bytes 32
  /-- `str.isalnum` of one character -/
  isAlnum : Char → Bool
  /-- `repr(text)` -/
  repr : String → String
  /-- `(ROOT / path).is_file()` -/
  isFile : String → Bool

/-! ## Metrics -/

inductive Metric
  | functionLines | blockDepth | parameters | traitMethods | moduleLines
  deriving DecidableEq

def Metric.name : Metric → String
  | functionLines => "function_noncomment_source_lines"
  | blockDepth => "lexical_block_depth"
  | parameters => "positional_parameters"
  | traitMethods => "public_trait_methods"
  | moduleLines => "module_noncomment_source_lines"

/-- mirrors tools/rust_complexity.py:17-48 -/
def Metric.preferredMax : Metric → Nat
  | functionLines => 40
  | blockDepth => 3
  | parameters => 4
  | traitMethods => 7
  | moduleLines => 400

/-- mirrors tools/rust_complexity.py:17-48 -/
def Metric.reviewTrigger : Metric → Nat
  | functionLines => 60
  | blockDepth => 4
  | parameters => 6
  | traitMethods => 10
  | moduleLines => 700

theorem preferredMax_lt (metric : Metric) : metric.preferredMax < metric.reviewTrigger := by
  cases metric <;> decide

inductive Level
  | warning | reviewRequired
  deriving DecidableEq

/-! ## Analyses -/

/-- mirrors tools/rust_complexity.py:101-109 -/
structure SourceAnalysis where
  path : String
  sourceSha256 : String
  noncommentSourceLines : Nat
  functions : List FunctionMetric
  publicTraits : List PublicTraitMetric
  deriving DecidableEq

/-- mirrors tools/rust_complexity.py:129-137 -/
def validateRelativePath (rt : Runtime) (pathText : String) : Except ComplexityError String :=
  if pathText = "" ∨ '\\' ∈ pathText.toList then
    .error ⟨"source paths must be nonempty repository-relative POSIX paths"⟩
  else
    let path := Value.Path.ofString pathText
    if path.absolute ∨ ".." ∈ path.names ∨ Bom.relativeText path ≠ pathText then
      .error ⟨"path is not normalized and repository-relative: " ++ rt.repr pathText⟩
    else .ok pathText

/-- `hashlib.sha256(source.encode("utf-8")).hexdigest()` -/
def sourceSha256 (rt : Runtime) (source : Str) : String :=
  hexText (rt.sha256 (Bom.utf8 (String.ofList source)))

/-- mirrors tools/rust_complexity.py:586-606 -/
def analyzeRustSource (rt : Runtime) (path : String) (source : Str) :
    Except ComplexityError SourceAnalysis := do
  let normalizedPath ← validateRelativePath rt path
  let cleaned ← stripRustNonCode rt.isAlnum source
  let tokens := tokens cleaned
  let pairs ← attach (delimiterPairs tokens)
  let pairs : Pairs tokens := ⟨pairs.1, pairs.2⟩
  let functions ← extractFunctions cleaned pairs
  let publicTraits ← extractPublicTraits pairs
  return {
    path := normalizedPath
    sourceSha256 := sourceSha256 rt source
    noncommentSourceLines := noncommentLineCount cleaned
    functions
    publicTraits }

/-! ## Findings -/

/-- mirrors tools/rust_complexity.py:112-126 -/
structure Finding where
  findingId : String
  level : Level
  path : String
  itemKind : String
  itemName : String
  startLine : Nat
  metric : Metric
  measured : Nat
  preferredMax : Nat
  reviewTrigger : Nat
  sourceSha256 : String
  deriving DecidableEq

/-- What a finding is about: its arguments without the level. -/
structure Item where
  path : String
  itemKind : String
  itemName : String
  startLine : Nat
  metric : Metric
  measured : Nat
  sourceSha256 : String
  deriving DecidableEq

/-- The dictionary `identity` of `_finding`, of texts that have a UTF-8 encoding (`Payload`). -/
def Item.identity (item : Item) : Payload :=
  .dict [("item_kind", .str item.itemKind),
    ("item_name", .str item.itemName),
    ("measured", .int item.measured),
    ("metric", .str item.metric.name),
    ("path", .str item.path),
    ("review_trigger", .int item.metric.reviewTrigger),
    ("source_sha256", .str item.sourceSha256),
    ("start_line", .int item.startLine)]

/-- What is hashed for the identifier of a finding. -/
def Item.bytes (item : Item) : List UInt8 := encodeAscii item.identity.dumps

def Item.findingId (sha256 : List UInt8 → Bytes 32) (item : Item) : String :=
  "zrm-complexity:" ++ hexText (sha256 item.bytes)

/-- mirrors tools/rust_complexity.py:609-651 -/
def finding (sha256 : List UInt8 → Bytes 32) (item : Item) : Option Finding :=
  if item.measured ≤ item.metric.preferredMax then none
  else some {
    findingId := item.findingId sha256
    level := if item.metric.reviewTrigger < item.measured then .reviewRequired else .warning
    path := item.path
    itemKind := item.itemKind
    itemName := item.itemName
    startLine := item.startLine
    metric := item.metric
    measured := item.measured
    preferredMax := item.metric.preferredMax
    reviewTrigger := item.metric.reviewTrigger
    sourceSha256 := item.sourceSha256 }

/-- The three findings of a function, before they are compared with their limits. -/
def functionItems (a : SourceAnalysis) (f : FunctionMetric) : List Item :=
  [⟨a.path, "function", f.name, f.startLine, .functionLines, f.noncommentSourceLines, a.sourceSha256⟩,
    ⟨a.path, "function", f.name, f.startLine, .blockDepth, f.lexicalBlockDepth, a.sourceSha256⟩,
    ⟨a.path, "function", f.name, f.startLine, .parameters, f.positionalParameters, a.sourceSha256⟩]

def traitItem (a : SourceAnalysis) (t : PublicTraitMetric) : Item :=
  ⟨a.path, "public_trait", t.name, t.startLine, .traitMethods, t.methodCount, a.sourceSha256⟩

/-- The candidates of a file. -/
def items (a : SourceAnalysis) : List Item :=
  ⟨a.path, "module", a.path, 1, .moduleLines, a.noncommentSourceLines, a.sourceSha256⟩ ::
    (a.functions.flatMap (functionItems a) ++ a.publicTraits.map (traitItem a))

/-- `(item.path, item.start_line, item.item_kind, item.item_name, item.metric)` -/
def Finding.key (f : Finding) : String ×ₗ Nat ×ₗ String ×ₗ String ×ₗ String :=
  toLex (f.path, toLex (f.startLine, toLex (f.itemKind, toLex (f.itemName, f.metric.name))))

/-- mirrors tools/rust_complexity.py:654-718 -/
def classifyFindings (sha256 : List UInt8 → Bytes 32) (analyses : List SourceAnalysis) :
    List Finding :=
  ((analyses.insertionSort fun a b => a.path ≤ b.path).flatMap fun a =>
    (items a).filterMap (finding sha256)).insertionSort fun f g => f.key ≤ g.key

variable {sha256 : List UInt8 → Bytes 32} {analyses analyses' : List SourceAnalysis}

/-- What is reported: the metrics over their preferred limits. -/
theorem mem_classifyFindings {f : Finding} : f ∈ classifyFindings sha256 analyses ↔
    ∃ a ∈ analyses, ∃ item ∈ items a, finding sha256 item = some f := by
  rw [classifyFindings, List.mem_insertionSort, List.mem_flatMap]
  simp only [List.mem_insertionSort, List.mem_filterMap]

/-- The order of the files is irrelevant. -/
theorem classifyFindings_perm (h : analyses.Perm analyses')
    (hpaths : (analyses.map SourceAnalysis.path).Nodup) :
    classifyFindings sha256 analyses = classifyFindings sha256 analyses' := by
  rw [classifyFindings, insertionSort_key_eq hpaths h, classifyFindings]

theorem finding_eq_some {item : Item} {f : Finding} (h : finding sha256 item = some f) :
    f.findingId = item.findingId sha256 ∧ item.metric.preferredMax < item.measured ∧
      (f.level = .reviewRequired ↔ item.metric.reviewTrigger < item.measured) := by
  unfold finding at h
  split at h
  · cases h
  · rename_i hover
    cases h
    refine ⟨rfl, Nat.lt_of_not_le hover, ?_⟩
    simp only
    split <;> simp_all

/-! ## Identifiers -/

theorem Metric.name_injective : Function.Injective Metric.name := by
  intro m m' h
  cases m <;> cases m' <;> first | rfl | exact absurd h (by decide)

/-- The identity of a finding holds all of it. -/
theorem Item.identity_injective {item item' : Item} (h : item.identity.normal = item'.identity.normal) :
    item = item' := by
  unfold Item.identity at h
  have hmembers := Payload.members_eq (by rfl) (by simp) (by simp [Payload.normal])
    (by simp [Payload.normal]) h
  simp only [List.cons.injEq, Prod.mk.injEq, Payload.str.injEq, Payload.int.injEq, Nat.cast_inj,
    true_and, and_true] at hmembers
  obtain ⟨hkind, hname, hmeasured, hmetric, hpath, -, hsource, hline⟩ := hmembers
  cases item
  cases item'
  simp_all [Metric.name_injective.eq_iff]

theorem Item.bytes_injective : Function.Injective Item.bytes := fun item item' h =>
  identity_injective (Payload.dumps_eq_iff.mp
    (encodeAscii_inj item.identity.dumps_ascii item'.identity.dumps_ascii h))

theorem Item.findingId_eq_iff {item item' : Item} : item.findingId sha256 = item'.findingId sha256 ↔
    item = item' ∨ L5.Frontier.Collision sha256 item.bytes item'.bytes := by
  rw [findingId, findingId, String.append_right_inj, hexText_injective.eq_iff,
    L5.Frontier.Collision.or_eq, bytes_injective.eq_iff]

/-- What a finding is about. -/
def Finding.item (f : Finding) : Item :=
  ⟨f.path, f.itemKind, f.itemName, f.startLine, f.metric, f.measured, f.sourceSha256⟩

theorem item_of_finding {item : Item} {f : Finding} (h : finding sha256 item = some f) :
    f.item = item := by
  unfold finding at h
  split at h
  · cases h
  · cases h
    rfl

/-- A reported finding is the one of its item. -/
theorem finding_of_mem {f : Finding} (h : f ∈ classifyFindings sha256 analyses) :
    finding sha256 f.item = some f := by
  obtain ⟨a, -, item, -, hf⟩ := mem_classifyFindings.mp h
  rw [item_of_finding hf, hf]

/-- **An identifier stands for one finding.** Findings of any two runs have one identifier iff
they agree in everything, the digest of the source included, or what is hashed for them
collides. -/
theorem finding_id_binds {f g : Finding} (hf : f ∈ classifyFindings sha256 analyses)
    (hg : g ∈ classifyFindings sha256 analyses') : f.findingId = g.findingId ↔
      f = g ∨ L5.Frontier.Collision sha256 f.item.bytes g.item.bytes := by
  have hf := finding_of_mem hf
  have hg := finding_of_mem hg
  rw [(finding_eq_some hf).1, (finding_eq_some hg).1, Item.findingId_eq_iff]
  refine or_congr_left ⟨fun h => ?_, fun h => congrArg Finding.item h⟩
  rw [h, hg, Option.some.injEq] at hf
  exact hf.symm

/-- A file over the preferred limit of a module. -/
def longModule (lines : Nat) : SourceAnalysis := ⟨"a.rs", "", lines, [], []⟩

/-- The finding of a long module under a hash with one value. -/
def longFinding (lines : Nat) : Finding :=
  ⟨"zrm-complexity:" ++ hexText (Bytes.replicate 32 0), .warning, "a.rs", "module", "a.rs", 1,
    .moduleLines, lines, 400, 700, ""⟩

theorem mem_longFinding {lines : Nat} (h : 400 < lines) (h' : lines ≤ 700) :
    longFinding lines ∈ classifyFindings (fun _ => Bytes.replicate 32 0) [longModule lines] := by
  refine mem_classifyFindings.mpr ⟨_, List.mem_singleton_self _, _, List.mem_cons_self, ?_⟩
  have hover : ¬ lines ≤ Metric.preferredMax .moduleLines := Nat.not_le.mpr h
  have hbelow : ¬ Metric.reviewTrigger .moduleLines < lines := Nat.not_lt.mpr h'
  rw [longModule, finding, if_neg hover, if_neg hbelow]
  rfl

theorem finding_id_binds_long : L5.Frontier.Collision (fun _ => Bytes.replicate 32 0)
    (longFinding 401).item.bytes (longFinding 402).item.bytes := by
  have h := (finding_id_binds (@mem_longFinding 401 (by decide) (by decide))
    (@mem_longFinding 402 (by decide) (by decide))).mp rfl
  exact h.resolve_left (by decide)

end Zrm.L6.RustComplexity
