import Zrm.L6Tools.DependencyGraph

/-!
# The delegation plan checker

`validate_plan` of `tools/check_delegation_plan.py` with what it calls:
`validate_task`, `validate_graph`, `validate_states`, `validate_summaries`. The
files of the repository are a parameter (`Repository`). A validated task carries
its fields with the proofs that its dictionary holds them.

* `statesOk_of_validateStates`, `summariesOk_of_validateSummaries`: what each
  pass guarantees.
* `complete_below`: completion of direct dependencies is completion below.
* `accepted_plan`: the invariant of every accepted plan.
-/
namespace Zrm.L6.DelegationPlan

open Result Value DependencyGraph

/-! ## Enumerations -/

inductive TaskState | architectRequired | blocked | delegable | complete | humanOnly
  deriving DecidableEq

def TaskState.spelling : TaskState → String
  | .architectRequired => "architect_required"
  | .blocked => "blocked"
  | .delegable => "delegable"
  | .complete => "complete"
  | .humanOnly => "human_only"

/-- mirrors tools/delegation_plan_model.py:12 -/
def VALID_STATES : List TaskState :=
  [.architectRequired, .blocked, .delegable, .complete, .humanOnly]

inductive Tier | architect | boundedImplementer | mechanicalEvidence | humanOrExternal
  deriving DecidableEq

def Tier.spelling : Tier → String
  | .architect => "architect"
  | .boundedImplementer => "bounded_implementer"
  | .mechanicalEvidence => "mechanical_evidence"
  | .humanOrExternal => "human_or_external"

/-- mirrors tools/delegation_plan_model.py:13 -/
def VALID_TIERS : List Tier :=
  [.architect, .boundedImplementer, .mechanicalEvidence, .humanOrExternal]

inductive OracleStatus | planned | available
  deriving DecidableEq

def OracleStatus.spelling : OracleStatus → String
  | .planned => "planned"
  | .available => "available"

/-- mirrors tools/delegation_plan_model.py:17 -/
def VALID_ORACLE_STATUSES : List OracleStatus := [.planned, .available]

/-- mirrors tools/delegation_plan_model.py:14-16; nothing later reads these. -/
def VALID_CLASSES : List String := ["A", "B", "C", "D", "E"]

def VALID_PHASES : List String :=
  ["architectural_closure", "bounded_implementation", "safe_now", "release_and_review"]

def VALID_ORACLE_KINDS : List String :=
  ["executable_reference", "golden_vectors", "state_machine", "evidence_replay"]

/-! ## Identifier patterns -/

/-- The zeros of the decimal digits; each is followed by its nine successors. The table is that of
Unicode 15, which Python 3.12 uses; Unicode 14 lacks the zeros `U+11F50` and `U+1E4F0`. -/
def DIGIT_ZEROS : List Nat :=
  [0x30, 0x660, 0x6F0, 0x7C0, 0x966, 0x9E6, 0xA66, 0xAE6, 0xB66, 0xBE6, 0xC66, 0xCE6, 0xD66,
    0xDE6, 0xE50, 0xED0, 0xF20, 0x1040, 0x1090, 0x17E0, 0x1810, 0x1946, 0x19D0, 0x1A80, 0x1A90,
    0x1B50, 0x1BB0, 0x1C40, 0x1C50, 0xA620, 0xA8D0, 0xA900, 0xA9D0, 0xA9F0, 0xAA50, 0xABF0,
    0xFF10, 0x104A0, 0x10D30, 0x11066, 0x110F0, 0x11136, 0x111D0, 0x112F0, 0x11450, 0x114D0,
    0x11650, 0x116C0, 0x11730, 0x118E0, 0x11950, 0x11C50, 0x11D50, 0x11DA0, 0x11F50, 0x16A60,
    0x16AC0, 0x16B50, 0x1D7CE, 0x1D7D8, 0x1D7E2, 0x1D7EC, 0x1D7F6, 0x1E140, 0x1E2F0, 0x1E4F0,
    0x1E950, 0x1FBF0]

/-- `\d` of a text pattern -/
def isDecimal (c : Char) : Bool := DIGIT_ZEROS.any fun z => z ≤ c.toNat && c.toNat < z + 10

/-- `fullmatch` of `stem` followed by three decimals -/
def numbered (stem : String) (s : String) : Bool :=
  stem.toList.isPrefixOf s.toList &&
    (s.toList.drop stem.toList.length).length == 3 &&
    (s.toList.drop stem.toList.length).all isDecimal

/-- mirrors tools/delegation_plan_model.py:18-21 -/
def TASK_ID_RE : String → Bool := numbered "ZRM-TASK-"

def CBC_ID_RE : String → Bool := numbered "ZRM-CBC-"

def SC_ID_RE : String → Bool := numbered "ZRM-SC-"

def WORK_PACKAGE_RE (s : String) : Bool :=
  ["WP0", "WP1", "WP2", "WP3", "WP4", "WP5", "WP6", "WP7", "WP8", "WP9", "WP10", "WP11", "WP12",
    "WP13"].contains s

/-- The decimal of `n`, padded with zeros to three characters. -/
def pad3 (n : Nat) : List Char :=
  List.replicate (3 - (Nat.toDigits 10 n).length) '0' ++ Nat.toDigits 10 n

/-- `f"ZRM-TASK-{index:03d}"` -/
def expectedId (index : Nat) : String := String.ofList ("ZRM-TASK-".toList ++ pad3 index)

/-! ## The repository -/

/-- The files that the checker reads. -/
structure Repository where
  /-- `resolved.is_relative_to(resolved_root)`, on the names of a relative path -/
  resolvesInside : List String → Bool
  isFile : List String → Bool
  /-- `CONFORMANCE_MATRIX.json`, or why it cannot be loaded -/
  conformanceMatrix : Except Raised Json
  /-- the stems of `contracts/ZRM-SC-*.md`; `none`: there is no such directory -/
  contractStems : Option (List String)

/-- mirrors tools/delegation_plan_model.py:61-67 -/
def requireFile (repo : Repository) (value label : String) : Except Raised Unit := do
  let path ← safePath value label
  require (repo.resolvesInside path.names) (failed s!"{label} escapes the repository")
  let posix := "/".intercalate path.names
  require (repo.isFile path.names) (failed s!"{label} references missing file {posix}")

/-- `item.get("id")` of the items that are dictionaries; a set of them needs
hashable values. -/
def matrixId : Json → Except Raised (Option Json)
  | .dict item =>
    match get item "id" with
    | .list _ => .error ⟨.typeError, "unhashable type: 'list'", []⟩
    | .dict _ => .error ⟨.typeError, "unhashable type: 'dict'", []⟩
    | value => .ok (some value)
  | _ => .ok none

/-- mirrors tools/delegation_plan_model.py:70-80 -/
def knownCbcIds (repo : Repository) : Except Raised (List String) := do
  let data ← repo.conformanceMatrix
  let data ← asDict data ⟨.attributeError, "get", []⟩
  match get data.1 "obligations" with
  | .list obligations =>
    let identifiers := (← obligations.mapM matrixId).filterMap id
    match strings identifiers with
    | some l => pure l.1
    | none => throw (failed "conformance matrix has invalid IDs")
  | _ => throw (failed "conformance obligations must be a list")

/-- mirrors tools/delegation_plan_model.py:83-93 -/
def knownScIds (repo : Repository) : Except Raised (List String) :=
  match repo.contractStems with
  | none => .error (failed "contracts directory is missing")
  | some stems => do
    let identifiers := stems.filter SC_ID_RE
    require (!identifiers.isEmpty) (failed "no semantic contracts were found")
    pure identifiers

/-! ## Tasks -/

/-- A dictionary accepted by `validate_task`, with the fields read after it. -/
structure Task where
  raw : JsonDict
  id : String
  deps : List String
  state : TaskState
  tier : Tier
  decision : String
  unresolved : Option String
  evidence : List String
  oracle : JsonDict
  oraclePath : String
  oracleStatus : OracleStatus
  id_eq : get raw "id" = .str id
  deps_eq : get raw "deps" = .list (deps.map .str)
  state_eq : get raw "state" = .str state.spelling
  tier_eq : get raw "tier" = .str tier.spelling
  decision_eq : get raw "decision" = .str decision
  unresolved_eq : get raw "unresolved" = (unresolved.map Json.str).getD .null
  evidence_eq : get raw "evidence" = .list (evidence.map .str)
  oracle_eq : get raw "oracle" = .dict oracle
  oraclePath_eq : get oracle "path" = .str oraclePath
  oracleStatus_eq : get oracle "status" = .str oracleStatus.spelling

def Task.row (t : Task) : Row := (t.id, t.deps)

theorem some_str (s : String) : Json.str s = ((some s).map Json.str).getD .null := rfl

/-- `unresolved is None or` a nonempty string -/
def unresolvedDecision (value : Json) (label : String) :
    Except Raised {o : Option String // value = (o.map Json.str).getD .null} :=
  match value with
  | .str s =>
    if hasText s then .ok ⟨some s, some_str s⟩
    else .error (failed s!"{label} must be null or a nonempty string")
  | .null => .ok ⟨none, rfl⟩
  | _ => .error (failed s!"{label} must be null or a nonempty string")

/-- A nonempty string without a comma -/
def oneBoundary : Json → Bool
  | .str boundary => boundary != "" && !boundary.toList.contains ','
  | _ => false

/-- The references of a task that must be known. -/
def knownReferences (task : JsonDict) (taskId key : String) (pattern : String → Bool)
    (invalid unknownText : String) (known : List String) : Except Raised Unit := do
  let references ← stringList (get task key) s!"{taskId}.{key}" false
  require (references.1.all pattern) (failed s!"{taskId} {invalid}")
  let unknown := (references.1.filter fun r => !known.contains r).insertionSort (· ≤ ·)
  require unknown.isEmpty ⟨.checkFailed, s!"{taskId} {unknownText}: ", unknown⟩

/-- The state rules at the end of `validate_task` -/
def checkStateTier (taskId : String) (state : TaskState) (tier : Tier)
    (unresolved : Option String) (evidence : List String) : Except Raised Unit :=
  match state with
  | .architectRequired => do
    require (tier == .architect) (failed s!"{taskId} architect work needs architect tier")
    require unresolved.isSome (failed s!"{taskId} architect work needs an unresolved decision")
  | .humanOnly =>
    require (tier == .humanOrExternal) (failed s!"{taskId} human-only work needs human tier")
  | .blocked | .delegable => do
    let spelled := state.spelling
    require (tier == .boundedImplementer || tier == .mechanicalEvidence)
      (failed s!"{taskId} {spelled} work needs bounded or mechanical tier")
  | .complete => do
    require unresolved.isNone
      (failed s!"{taskId} complete work cannot retain an unresolved decision")
    require (!evidence.isEmpty) (failed s!"{taskId} complete work needs evidence")

/-- mirrors tools/delegation_plan_model.py:125-214 -/
def validateTask (raw : JsonDict) (expected : String) (cbcIds scIds : List String) :
    Except Raised {t : Task // t.raw = raw ∧ t.id = expected} := do
  let ⟨taskId, hid⟩ ← nonempty (get raw "id") "task.id"
  let ⟨hexpected⟩ ← requireThat (taskId = expected)
    (failed s!"task identifiers must be sequential; expected {expected}")
  let _ ← nonempty (get raw "title") s!"{taskId}.title"
  let _ ← memberOf VALID_PHASES id (get raw "phase") (failed s!"{taskId}.phase is invalid")
  let ⟨state, hstate⟩ ← memberOf VALID_STATES TaskState.spelling (get raw "state")
    (failed s!"{taskId}.state is invalid")
  let ⟨tier, htier⟩ ← memberOf VALID_TIERS Tier.spelling (get raw "tier")
    (failed s!"{taskId}.tier is invalid")
  let _ ← memberOf VALID_CLASSES id (get raw "class") (failed s!"{taskId}.class is invalid")
  require (oneBoundary (get raw "boundary"))
    (failed s!"{taskId}.boundary must name exactly one authority boundary")
  let workPackages ← stringList (get raw "wp") s!"{taskId}.wp" false
  require (workPackages.1.all WORK_PACKAGE_RE)
    (failed s!"{taskId} contains an invalid work package")
  let ⟨deps, hdeps⟩ ← stringList (get raw "deps") s!"{taskId}.deps" true
  require (deps.all TASK_ID_RE) (failed s!"{taskId} contains an invalid dependency ID")
  knownReferences raw taskId "cbc" CBC_ID_RE "contains an invalid CBC ID"
    "references unknown CBC IDs" cbcIds
  knownReferences raw taskId "sc" SC_ID_RE "contains an invalid semantic-contract ID"
    "references unknown contracts" scIds
  let ⟨decision, hdecision⟩ ← nonempty (get raw "decision") s!"{taskId}.decision"
  let ⟨scope, _⟩ ← nonempty (get raw "scope") s!"{taskId}.scope"
  forM ["command", "target", "non_goal"] fun field => do
    let _ ← nonempty (get raw field) s!"{taskId}.{field}"
  let _ ← safePath decision s!"{taskId}.decision"
  let _ ← safePath scope s!"{taskId}.scope"
  let ⟨unresolved, hunresolved⟩ ← unresolvedDecision (get raw "unresolved") s!"{taskId}.unresolved"
  let _ ← stringList (get raw "negatives") s!"{taskId}.negatives" false
  let ⟨evidence, hevidence⟩ ← stringList (get raw "evidence") s!"{taskId}.evidence" true
  forM evidence.zipIdx fun (reference, index) => do
    let _ ← safePath reference s!"{taskId}.evidence[{index}]"
  let ⟨oracle, horacle⟩ ← asDict (get raw "oracle") (failed s!"{taskId}.oracle must be an object")
  require (keysAre oracle ["kind", "path", "status"])
    (failed s!"{taskId}.oracle must contain exactly kind, path, and status")
  let _ ← memberOf VALID_ORACLE_KINDS id (get oracle "kind")
    (failed s!"{taskId}.oracle.kind is invalid")
  let ⟨status, hstatus⟩ ← memberOf VALID_ORACLE_STATUSES OracleStatus.spelling
    (get oracle "status") (failed s!"{taskId}.oracle.status is invalid")
  let ⟨path, hpath⟩ ← nonempty (get oracle "path") s!"{taskId}.oracle.path"
  let _ ← safePath path s!"{taskId}.oracle.path"
  checkStateTier taskId state tier unresolved evidence
  pure ⟨⟨raw, taskId, deps, state, tier, decision, unresolved, evidence, oracle, path, status,
    hid, hdeps, hstate, htier, hdecision, hunresolved, hevidence, horacle, hpath, hstatus⟩,
    rfl, hexpected⟩

/-- The loop of `validate_plan` over its tasks, from `index` on -/
def validateTasks (cbcIds scIds : List String) : Nat → List JsonDict → Except Raised (List Task)
  | _, [] => .ok []
  | index, raw :: raws => do
    let task ← validateTask raw (expectedId index) cbcIds scIds
    let tasks ← validateTasks cbcIds scIds (index + 1) raws
    pure (task.1 :: tasks)

/-! ## States and summaries -/

/-- `{task["id"]: task for task in tasks}` -/
def byId (tasks : List Task) : Dict String Task := Dict.ofItems (tasks.map fun t => (t.id, t))

/-- `by_id[identifier]` -/
def taskOf (tasks : List Task) (identifier : String) : Except Raised Task :=
  match (byId tasks).get? identifier with
  | some task => .ok task
  | none => .error ⟨.keyError, identifier, []⟩

/-- `[dep for dep in deps if by_id[dep]["state"] != "complete"]` -/
def incompleteDeps (tasks : List Task) : List String → Except Raised (List String)
  | [] => .ok []
  | dep :: deps => do
    let task ← taskOf tasks dep
    let incomplete ← incompleteDeps tasks deps
    pure (if task.state = .complete then incomplete else dep :: incomplete)

/-- The rules of `validate_states` for each state -/
def checkStateRules (repo : Repository) (task : Task) (incomplete : List String) :
    Except Raised Unit :=
  let taskId := task.id
  match task.state with
  | .blocked =>
    if incomplete.isEmpty then do
      let unresolved ← subscript task.raw "unresolved"
      require (!unresolved.isNull)
        (failed s!"{taskId} blocked state needs an incomplete dependency or unresolved decision")
    else pure ()
  | .delegable => do
    require incomplete.isEmpty (failed s!"{taskId} is delegable before dependencies complete")
    let unresolved ← subscript task.raw "unresolved"
    require unresolved.isNull (failed s!"{taskId} is delegable with unresolved behavior")
    require (task.oracleStatus == .available) (failed s!"{taskId} needs an available oracle")
    requireFile repo task.decision s!"{taskId}.decision"
    requireFile repo task.oraclePath s!"{taskId}.oracle.path"
  | .complete => do
    require incomplete.isEmpty (failed s!"{taskId} is complete before dependencies complete")
    forM task.evidence.zipIdx fun (reference, index) =>
      requireFile repo reference s!"{taskId}.evidence[{index}]"
  | _ => pure ()

/-- The loop body of `validate_states` -/
def checkState (repo : Repository) (tasks : List Task) (task : Task) : Except Raised Unit := do
  let taskId := task.id
  let incomplete ← incompleteDeps tasks task.deps
  checkStateRules repo task incomplete
  if task.oracleStatus = .available then
    requireFile repo task.oraclePath s!"{taskId}.oracle.path"

/-- mirrors tools/check_delegation_plan.py:23-47 -/
def validateStates (repo : Repository) (tasks : List Task) : Except Raised Unit :=
  forM tasks (checkState repo tasks)

/-- `all(by_id[identifier]["state"] == "complete" for identifier in required)`;
it stops at the first that is not. -/
def allComplete (tasks : List Task) : List String → Except Raised Bool
  | [] => .ok true
  | identifier :: required => do
    let task ← taskOf tasks identifier
    if task.state = .complete then allComplete tasks required else pure false

/-- `[task["id"] for task in tasks if task["state"] == "delegable"]` -/
def delegable (tasks : List Task) : List String :=
  (tasks.filter fun t => t.state = .delegable).map Task.id

/-- mirrors tools/check_delegation_plan.py:50-72 -/
def validateSummaries (data : JsonDict) (tasks : List Task) : Except Raised Unit := do
  let ⟨handoff, _⟩ ← asDict (get data "handoff") (failed "handoff must be an object")
  let ⟨ready, _⟩ ← asBool (get handoff "ready") (failed "handoff.ready must be boolean")
  let ⟨required, _⟩ ← stringList (get handoff "required") "handoff.required" false
  let unknown := (required.filter fun i => !(byId tasks).keys.contains i).insertionSort (· ≤ ·)
  require unknown.isEmpty ⟨.checkFailed, "handoff references unknown tasks: ", unknown⟩
  let actuallyReady ← allComplete tasks required
  require (ready == actuallyReady) (failed "handoff readiness disagrees with closure-task completion")
  let ⟨posture, _⟩ ← asDict (get data "posture") (failed "posture must be an object")
  require (match get posture "production_ready" with | .bool b => !b | _ => false)
    (failed "plan v1 cannot claim production")
  require ((get posture "blanket_delegation_ready").eqBool ready)
    (failed "blanket delegation posture disagrees with handoff")
  let ⟨safeNow, _⟩ ← stringList (get posture "safe_now") "posture.safe_now" true
  require (safeNow == delegable tasks) (failed "safe-now list does not match delegable tasks")

/-! ## The plan -/

/-- `value == {...}` for the exact review policy -/
def isReviewPolicy : Json → Bool
  | .dict d =>
    d.length == 4 &&
      (get d "class_c_e_merge").eqStr "human_only" &&
      (get d "class_c_e_independent").eqBool true &&
      (get d "class_d_e_authority_review").eqBool true &&
      (get d "oracle").eqStr "implementation_independent"
  | _ => false

/-- The checks of `validate_plan` before the tasks -/
def validateHeader (data : JsonDict) : Except Raised Unit := do
  require ((get data "schema").eqStr "zrm/completion-delegation-plan/v1")
    (failed "unexpected plan schema")
  require ((get data "version").eqInt 1) (failed "unexpected plan version")
  forM ["date", "author", "drafting_assistance", "status"] fun field => do
    let _ ← nonempty (get data field) field
  require (isReviewPolicy (get data "review_policy"))
    (failed "review policy must preserve the exact human and independent boundary")
  let ⟨contract, _⟩ ← asDict (get data "task_contract") (failed "task_contract must be an object")
  require (keysAre contract ["entry", "stop"])
    (failed "task_contract must contain entry and stop")
  let _ ← stringList (get contract "entry") "task_contract.entry" false
  let _ ← stringList (get contract "stop") "task_contract.stop" false

/-- The checks of `validate_plan` on each task alone -/
def validateEach (repo : Repository) (data : JsonDict) (raws : List JsonDict) :
    Except Raised (List Task) := do
  validateHeader data
  require (!raws.isEmpty) (failed "tasks must be nonempty")
  let cbcIds ← knownCbcIds repo
  let scIds ← knownScIds repo
  validateTasks cbcIds scIds 1 raws

/-- mirrors tools/check_delegation_plan.py:98-134; `none`: the graph search
recursed deeper than `depth` -/
def validatePlan (repo : Repository) (depth : Nat) (data : JsonDict) (raws : List JsonDict) :
    Run Raised Unit :=
  returned (validateEach repo data raws) >>= fun tasks =>
  validateGraph depth (tasks.map fun t => ⟨t.id, t.deps⟩) >>= fun _ =>
  returned (validateStates repo tasks) >>= fun _ =>
  returned (validateSummaries data tasks)

/-! ## Task identifiers -/

theorem expectedId_injective : Function.Injective expectedId := by
  have hpad : ∀ n, Nat.ofDigitChars 10 (pad3 n) 0 = n := by
    intro n
    rw [pad3, Nat.ofDigitChars_append, Nat.ofDigitChars_replicate_zero, Nat.mul_zero,
      Nat.ofDigitChars_ten_toDigits]
  intro n m h
  have hchars : pad3 n = pad3 m := List.append_cancel_left (String.ofList_injective h)
  rw [← hpad n, hchars, hpad]

theorem validateTasks_ok {cbcIds scIds : List String} {index : Nat} {raws : List JsonDict}
    {tasks : List Task} (h : validateTasks cbcIds scIds index raws = .ok tasks) :
    tasks.map Task.raw = raws ∧
      tasks.map Task.id = (List.range' index raws.length).map expectedId := by
  induction raws generalizing index tasks with
  | nil =>
    cases h
    exact ⟨rfl, rfl⟩
  | cons raw raws ih =>
    obtain ⟨task, _, h⟩ := bind_eq_ok.mp h
    obtain ⟨rest, hrest, h⟩ := bind_eq_ok.mp h
    cases h
    obtain ⟨hraw, hid⟩ := task.2
    obtain ⟨hraws, hids⟩ := ih hrest
    rw [List.map_cons, List.map_cons, hraw, hid, hraws, hids]
    exact ⟨rfl, rfl⟩

theorem validateTasks_nodup {cbcIds scIds : List String} {index : Nat} {raws : List JsonDict}
    {tasks : List Task} (h : validateTasks cbcIds scIds index raws = .ok tasks) :
    (tasks.map Task.id).Nodup := by
  rw [(validateTasks_ok h).2]
  exact (List.nodup_range').map expectedId_injective

/-! ## Lookups among tasks with distinct identifiers -/

/-- The task named `identifier` is complete. -/
def CompleteTask (tasks : List Task) (identifier : String) : Prop :=
  ∃ t ∈ tasks, t.id = identifier ∧ t.state = .complete

section Lookup

variable {tasks : List Task} (hids : (tasks.map Task.id).Nodup)
include hids

theorem byId_items : (byId tasks).items = tasks.map fun t => (t.id, t) := by
  refine Dict.ofItems_items ?_
  rw [List.map_map]
  exact hids

theorem taskOf_eq_ok {identifier : String} {t : Task} :
    taskOf tasks identifier = .ok t ↔ t ∈ tasks ∧ t.id = identifier := by
  have hget : (byId tasks).get? identifier = some t ↔ t ∈ tasks ∧ t.id = identifier := by
    rw [Dict.get?_eq_some, byId_items hids]
    simp [and_comm]
  rw [← hget]
  unfold taskOf
  cases (byId tasks).get? identifier <;> simp

theorem eq_of_id {t u : Task} (ht : t ∈ tasks) (hu : u ∈ tasks) (h : t.id = u.id) : t = u :=
  List.inj_on_of_nodup_map hids ht hu h

theorem completeTask_iff {t : Task} (ht : t ∈ tasks) :
    CompleteTask tasks t.id ↔ t.state = .complete := by
  refine ⟨fun ⟨u, hu, hid, hstate⟩ => ?_, fun h => ⟨t, ht, rfl, h⟩⟩
  rw [← eq_of_id hids hu ht hid]
  exact hstate

theorem incompleteDeps_ok {deps incomplete : List String}
    (h : incompleteDeps tasks deps = .ok incomplete) :
    (∀ d ∈ deps, CompleteTask tasks d ∨ d ∈ incomplete) ∧
      ∀ d ∈ incomplete, d ∈ deps ∧ ∃ t ∈ tasks, t.id = d ∧ t.state ≠ .complete := by
  induction deps generalizing incomplete with
  | nil =>
    cases h
    simp
  | cons d deps ih =>
    obtain ⟨t, ht, h⟩ := bind_eq_ok.mp h
    obtain ⟨rest, hrest, h⟩ := bind_eq_ok.mp h
    obtain ⟨hmem, hid⟩ := (taskOf_eq_ok hids).mp ht
    obtain ⟨hdeps, hinc⟩ := ih hrest
    cases h
    by_cases hstate : t.state = .complete
    · rw [if_pos hstate]
      refine ⟨List.forall_mem_cons.mpr ⟨.inl ⟨t, hmem, hid, hstate⟩, hdeps⟩, fun e he => ?_⟩
      obtain ⟨he', ht'⟩ := hinc e he
      exact ⟨List.mem_cons_of_mem _ he', ht'⟩
    · rw [if_neg hstate]
      refine ⟨List.forall_mem_cons.mpr ⟨.inr List.mem_cons_self, fun e he => ?_⟩, ?_⟩
      · exact (hdeps e he).imp_right (List.mem_cons_of_mem _)
      · refine List.forall_mem_cons.mpr ⟨⟨List.mem_cons_self, t, hmem, hid, hstate⟩, fun e he => ?_⟩
        obtain ⟨he', ht'⟩ := hinc e he
        exact ⟨List.mem_cons_of_mem _ he', ht'⟩

theorem allComplete_ok {required : List String} {b : Bool}
    (h : allComplete tasks required = .ok b) :
    b = true ↔ ∀ i ∈ required, CompleteTask tasks i := by
  induction required with
  | nil =>
    cases h
    simp
  | cons i required ih =>
    obtain ⟨t, ht, hrest⟩ := bind_eq_ok.mp h
    obtain ⟨hmem, rfl⟩ := (taskOf_eq_ok hids).mp ht
    rw [List.forall_mem_cons, completeTask_iff hids hmem]
    by_cases hstate : t.state = .complete
    · rw [if_pos hstate] at hrest
      simp [ih hrest, hstate]
    · rw [if_neg hstate] at hrest
      cases hrest
      simp [hstate]

end Lookup

/-! ## The passes over the tasks -/

/-- What `validate_states` guarantees of one task, about its direct dependencies. -/
structure StateOk (tasks : List Task) (t : Task) : Prop where
  settled : t.state = .complete ∨ t.state = .delegable → ∀ d ∈ t.deps, CompleteTask tasks d
  blocked : t.state = .blocked →
    (∃ u ∈ tasks, u.id ∈ t.deps ∧ u.state ≠ .complete) ∨ t.unresolved.isSome

/-- A value of `unresolved` that is not `None` is an unresolved decision. -/
theorem unresolved_isSome {t : Task} {value : Json} (h : subscript t.raw "unresolved" = .ok value)
    (hvalue : value.isNull = false) : t.unresolved.isSome := by
  have hget := (get_of_subscript h).symm.trans t.unresolved_eq
  cases hu : t.unresolved with
  | some s => rfl
  | none =>
    rw [hu] at hget
    subst hget
    cases hvalue

theorem stateOk_of_checkState {repo : Repository} {tasks : List Task}
    (hids : (tasks.map Task.id).Nodup) {t : Task} (h : checkState repo tasks t = .ok ()) :
    StateOk tasks t := by
  obtain ⟨incomplete, hinc, h⟩ := bind_eq_ok.mp h
  obtain ⟨hrules, _⟩ := unit_bind_eq_ok.mp h
  obtain ⟨hdeps, hopen⟩ := incompleteDeps_ok hids hinc
  have hempty : incomplete.isEmpty = true → ∀ d ∈ t.deps, CompleteTask tasks d := by
    intro hnil d hd
    rw [List.isEmpty_iff.mp hnil] at hdeps
    exact (hdeps d hd).resolve_right List.not_mem_nil
  unfold checkStateRules at hrules
  refine ⟨fun hstate => ?_, fun hstate => ?_⟩
  · rcases hstate with hstate | hstate
    · simp only [hstate] at hrules
      exact hempty (require_eq_ok.mp (unit_bind_eq_ok.mp hrules).1)
    · simp only [hstate] at hrules
      exact hempty (require_eq_ok.mp (unit_bind_eq_ok.mp hrules).1)
  · simp only [hstate] at hrules
    cases hnil : incomplete with
    | nil =>
      rw [hnil, List.isEmpty_nil, if_pos rfl] at hrules
      obtain ⟨value, hvalue, hnull⟩ := bind_eq_ok.mp hrules
      exact .inr (unresolved_isSome hvalue (by simpa using require_eq_ok.mp hnull))
    | cons d rest =>
      obtain ⟨hd, u, hu, rfl, hstate⟩ := hopen d (by simp [hnil])
      exact .inl ⟨u, hu, hd, hstate⟩

theorem statesOk_of_validateStates {repo : Repository} {tasks : List Task}
    (hids : (tasks.map Task.id).Nodup) (h : validateStates repo tasks = .ok ()) :
    ∀ t ∈ tasks, StateOk tasks t :=
  fun t ht => stateOk_of_checkState hids (forM_eq_ok.mp h t ht)

/-- `data["handoff"]["ready"]` and `data["handoff"]["required"]` -/
def HandoffIs (data : JsonDict) (ready : Bool) (required : List String) : Prop :=
  ∃ handoff, get data "handoff" = .dict handoff ∧ get handoff "ready" = .bool ready ∧
    get handoff "required" = .list (required.map .str)

/-- `data["posture"]["safe_now"]` -/
def SafeNowIs (data : JsonDict) (identifiers : List String) : Prop :=
  ∃ posture, get data "posture" = .dict posture ∧
    get posture "safe_now" = .list (identifiers.map .str)

/-- What `validate_summaries` guarantees of the summaries. -/
structure SummariesOk (data : JsonDict) (tasks : List Task) : Prop where
  handoff : ∃ ready required, HandoffIs data ready required ∧
    (ready = true ↔ ∀ i ∈ required, CompleteTask tasks i)
  safe_now : SafeNowIs data (delegable tasks)

theorem summariesOk_of_validateSummaries {data : JsonDict} {tasks : List Task}
    (hids : (tasks.map Task.id).Nodup) (h : validateSummaries data tasks = .ok ()) :
    SummariesOk data tasks := by
  obtain ⟨⟨handoff, hhandoff⟩, _, h⟩ := bind_eq_ok.mp h
  obtain ⟨⟨ready, hready⟩, _, h⟩ := bind_eq_ok.mp h
  obtain ⟨⟨required, hrequired⟩, _, h⟩ := bind_eq_ok.mp h
  obtain ⟨_, h⟩ := unit_bind_eq_ok.mp h
  obtain ⟨actual, hactual, h⟩ := bind_eq_ok.mp h
  obtain ⟨hsame, h⟩ := unit_bind_eq_ok.mp h
  obtain ⟨⟨posture, hposture⟩, _, h⟩ := bind_eq_ok.mp h
  obtain ⟨_, h⟩ := unit_bind_eq_ok.mp h
  obtain ⟨_, h⟩ := unit_bind_eq_ok.mp h
  obtain ⟨⟨safeNow, hsafe⟩, _, h⟩ := bind_eq_ok.mp h
  have hready' : ready = actual := eq_of_beq (require_eq_ok.mp hsame)
  have hsafe' : safeNow = delegable tasks := eq_of_beq (require_eq_ok.mp h)
  constructor
  · refine ⟨ready, required, ⟨handoff, hhandoff, hready, hrequired⟩, ?_⟩
    rw [hready']
    exact allComplete_ok hids hactual
  · exact ⟨posture, hposture, by rw [hsafe, hsafe']⟩

/-! ## Chains of dependencies -/

/-- `b` is reached from `a` by a chain of dependencies. -/
def Below (tasks : List Task) : String → String → Prop :=
  Relation.TransGen (DependsOn (tasks.map Task.row))

theorem dependsOn_id {tasks : List Task} (hids : (tasks.map Task.id).Nodup) {t : Task}
    (ht : t ∈ tasks) {b : String} : DependsOn (tasks.map Task.row) t.id b ↔ b ∈ t.deps := by
  refine ⟨fun h => ?_, fun hb => ?_⟩
  · obtain ⟨deps, hmem, hb⟩ := h
    obtain ⟨u, hu, hrow⟩ := List.mem_map.mp hmem
    obtain ⟨hid, rfl⟩ := Prod.mk.inj hrow
    rwa [← eq_of_id hids hu ht hid]
  · exact ⟨t.deps, List.mem_map_of_mem (f := Task.row) ht, hb⟩

/-- A complete task has complete dependencies, so a chain never leaves the
complete tasks. -/
theorem complete_below {tasks : List Task} (hids : (tasks.map Task.id).Nodup)
    (hstates : ∀ t ∈ tasks, StateOk tasks t) {t : Task} (ht : t ∈ tasks)
    (hstate : t.state = .complete ∨ t.state = .delegable) {b : String}
    (h : Below tasks t.id b) : CompleteTask tasks b := by
  induction h with
  | single hb => exact (hstates t ht).settled hstate _ ((dependsOn_id hids ht).mp hb)
  | tail _ hbc ih =>
    obtain ⟨u, hu, rfl, hcomplete⟩ := ih
    exact (hstates u hu).settled (.inl hcomplete) _ ((dependsOn_id hids hu).mp hbc)

/-! ## Accepted plans -/

/-- What holds of the tasks of an accepted plan and of its summaries. -/
structure PlanInvariant (data : JsonDict) (tasks : List Task) : Prop where
  ids_nodup : (tasks.map Task.id).Nodup
  acyclic : NoCycle (tasks.map Task.row)
  below : ∀ t ∈ tasks, t.state = .complete ∨ t.state = .delegable →
    ∀ b, Below tasks t.id b → CompleteTask tasks b
  handoff : ∃ ready required, HandoffIs data ready required ∧
    (ready = true ↔
      ∀ i ∈ required, CompleteTask tasks i ∧ ∀ b, Below tasks i b → CompleteTask tasks b)
  safe_now : SafeNowIs data (delegable tasks)
  blocked : ∀ t ∈ tasks, t.state = .blocked →
    (∃ u ∈ tasks, u.id ∈ t.deps ∧ u.state ≠ .complete) ∨
      ∃ s, get t.raw "unresolved" = .str s

theorem planInvariant_of_passes {data : JsonDict} {tasks : List Task}
    (hids : (tasks.map Task.id).Nodup) (hacyclic : NoCycle (tasks.map Task.row))
    (hstates : ∀ t ∈ tasks, StateOk tasks t) (hsum : SummariesOk data tasks) :
    PlanInvariant data tasks where
  ids_nodup := hids
  acyclic := hacyclic
  below := fun t ht hstate b hb => complete_below hids hstates ht hstate hb
  handoff := by
    obtain ⟨ready, required, hhandoff, hiff⟩ := hsum.handoff
    refine ⟨ready, required, hhandoff, hiff.trans ?_⟩
    refine ⟨fun h i hi => ⟨h i hi, fun b hb => ?_⟩, fun h i hi => (h i hi).1⟩
    obtain ⟨t, ht, rfl, hstate⟩ := h i hi
    exact complete_below hids hstates ht (.inl hstate) hb
  safe_now := hsum.safe_now
  blocked := by
    intro t ht hstate
    refine ((hstates t ht).blocked hstate).imp_right fun hsome => ?_
    obtain ⟨s, hs⟩ := Option.isSome_iff_exists.mp hsome
    exact ⟨s, by rw [t.unresolved_eq, hs]; rfl⟩

/-- **Completion is downward closed in every accepted plan**: whatever the
repository holds, the tasks of an accepted plan satisfy `PlanInvariant`. -/
theorem accepted_plan (repo : Repository) (depth : Nat) (data : JsonDict)
    (raws : List JsonDict) (h : validatePlan repo depth data raws = returned (.ok ())) :
    ∃ tasks : List Task, tasks.map Task.raw = raws ∧ PlanInvariant data tasks := by
  obtain ⟨tasks, heach, h⟩ := run_bind_eq_ok.mp h
  obtain ⟨_, hgraph, h⟩ := run_bind_eq_ok.mp h
  obtain ⟨_, hstates, hsum⟩ := run_bind_eq_ok.mp h
  have heach := returned_inj.mp heach
  obtain ⟨_, heach⟩ := unit_bind_eq_ok.mp heach
  obtain ⟨_, heach⟩ := unit_bind_eq_ok.mp heach
  obtain ⟨cbcIds, _, heach⟩ := bind_eq_ok.mp heach
  obtain ⟨scIds, _, htasks⟩ := bind_eq_ok.mp heach
  have hids := validateTasks_nodup htasks
  refine ⟨tasks, (validateTasks_ok htasks).1, planInvariant_of_passes hids ?_
    (statesOk_of_validateStates hids (returned_inj.mp hstates))
    (summariesOk_of_validateSummaries hids (returned_inj.mp hsum))⟩
  have hrows : (tasks.map fun t => (⟨t.id, t.deps⟩ : DependencyGraph.Task)).map
      DependencyGraph.Task.row = tasks.map Task.row := by
    rw [List.map_map]
    rfl
  have hnodup : (DependencyGraph.ids (tasks.map Task.row)).Nodup := by
    rw [DependencyGraph.ids, List.map_map]
    exact hids
  rw [← hrows] at hnodup ⊢
  exact (validateRows_ok hnodup hgraph).2

/-! ## A plan of a complete and a delegable task -/

def sampleRepository : Repository where
  resolvesInside := fun _ => true
  isFile := fun _ => true
  conformanceMatrix := .ok (.dict [("obligations", .list [.dict [("id", .str "ZRM-CBC-001")]])])
  contractStems := some ["ZRM-SC-001"]

def sampleTask (identifier state tier : String) (deps : List Json) : JsonDict :=
  [("id", .str identifier), ("title", .str "title"), ("phase", .str "safe_now"),
    ("state", .str state), ("tier", .str tier), ("class", .str "A"), ("wp", .list [.str "WP0"]),
    ("boundary", .str "codec"), ("deps", .list deps), ("cbc", .list [.str "ZRM-CBC-001"]),
    ("sc", .list [.str "ZRM-SC-001"]), ("decision", .str "README.md"), ("unresolved", .null),
    ("scope", .str "docs"), ("command", .str "make"), ("target", .str "packet"),
    ("oracle", .dict [("kind", .str "golden_vectors"), ("path", .str "vectors"),
      ("status", .str "available")]),
    ("negatives", .list [.str "missing"]), ("non_goal", .str "none"),
    ("evidence", .list [.str "README.md"])]

def sampleTasks : List JsonDict :=
  [sampleTask "ZRM-TASK-001" "complete" "architect" [],
    sampleTask "ZRM-TASK-002" "delegable" "mechanical_evidence" [.str "ZRM-TASK-001"]]

def samplePlan : JsonDict :=
  [("schema", .str "zrm/completion-delegation-plan/v1"), ("version", .int 1),
    ("date", .str "day"), ("author", .str "author"), ("drafting_assistance", .str "none"),
    ("status", .str "candidate"),
    ("posture", .dict [("production_ready", .bool false), ("blanket_delegation_ready", .bool true),
      ("safe_now", .list [.str "ZRM-TASK-002"])]),
    ("handoff", .dict [("ready", .bool true), ("required", .list [.str "ZRM-TASK-001"])]),
    ("review_policy", .dict [("class_c_e_merge", .str "human_only"),
      ("class_c_e_independent", .bool true), ("class_d_e_authority_review", .bool true),
      ("oracle", .str "implementation_independent")]),
    ("task_contract", .dict [("entry", .list [.str "read"]), ("stop", .list [.str "doubt"])])]

theorem accepted_plan_sample :
    ∃ tasks : List Task, tasks.map Task.raw = sampleTasks ∧ PlanInvariant samplePlan tasks :=
  accepted_plan sampleRepository 3 samplePlan sampleTasks rfl

end Zrm.L6.DelegationPlan
