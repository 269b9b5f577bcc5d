import Mathlib.Data.Prod.Lex
import Zrm.Core.Dict
import Zrm.L6Tools.BomCommon

/-!
# The source inventory (`tools/bom_sbom.py`)

`build_sbom` reads the locked Cargo graphs of the workspaces, one snapshot after the other
in the order of their scopes, and merges the packages that several of them contain. This
module is the model of it; what is proved about it stands in the modules that import it.

A snapshot (`WorkspaceSnapshot`) is what the caller has read: the JSON of `cargo metadata`
and the bytes of the lockfile. Metadata is untyped (`Json`), and every access to it is a
check that may raise. The host is a parameter (`Host`, `BomCommon.lean`): `tomllib.loads`,
the two JSON printers, the digest and the file system are arbitrary functions. Raised errors
keep their kind and text (`Raised`), with what Python prints of a value as a list.

* `lockChecksums`: the checksums of the locked packages (`_lock_checksums`).
* `snapshotPackages`: the packages and the resolve nodes by their ID (`_snapshot_packages`).
* `mergeComponent`: a package that was seen before (`_merge_component`).
* `addDependencyEdges`: the edges of a snapshot (`_add_dependency_edges`).
* `buildSbom`: the whole report. It is independent of every order that Cargo leaves open
  (`SbomOrder.lean`), lists exactly what the metadata contains (`SbomComplete.lean`), and
  fails with a `BomError` only (`SbomErrors.lean`).
-/
namespace Zrm.L6.Bom

open Placement Result Value

/-- mirrors tools/bom_common.py:23-31 -/
structure WorkspaceSnapshot where
  scope : String
  manifestPath : String
  lockfilePath : String
  metadata : Json
  lockfileBytes : List UInt8

/-! ## Packages -/

/-- `REGISTRY_CHECKSUM.fullmatch(checksum) is not None` -/
def isChecksum (checksum : String) : Bool :=
  checksum.toList.length == 64 && checksum.toList.all fun c => c.isDigit || ('a' ≤ c && c ≤ 'f')

/-- Name, version and source of a locked package. -/
abbrev LockKey := String × String × String

def duplicateLock (key : LockKey) : Raised :=
  bomError ("duplicate locked package identity: " ++ key.1 ++ " " ++ key.2.1 ++ " " ++ key.2.2) []

/-- The loop body of `_lock_checksums`. -/
def lockPackage (scope : String) (checksums : Dict LockKey String) (package : Json) :
    Except Raised (Dict LockKey String) :=
  match package with
  | .dict d =>
    match get d "source" with
    | .null => .ok checksums
    | source => do
      let name ← requireString (get d "name") "lock package name"
      let version ← requireString (get d "version") "lock package version"
      let sourceText ← requireString source "lock package source"
      let unchecked := bomError ("locked external package " ++ name ++ " " ++ version ++ " lacks a SHA-256 checksum") []
      match get d "checksum" with
      | .str checksum => do
        require (isChecksum checksum) unchecked
        Dict.insertNew duplicateLock checksums ((name, version, sourceText), checksum)
      | _ => .error unchecked
  | _ => .error (bomError (scope ++ " lock package must be an object") [])

/-- mirrors tools/bom_sbom.py:46-75 -/
def lockChecksums (host : Host) (s : WorkspaceSnapshot) : Except Raised (Dict LockKey String) := do
  require (decide (s.lockfileBytes.length ≤ maxInputBytes))
    (bomError (s.scope ++ " lockfile is absent or exceeds the input ceiling") [])
  match host.tomlLoads s.lockfileBytes with
  | none => .error (bomError ("cannot decode " ++ s.scope ++ " Cargo lockfile") [])
  | some lock =>
    match get lock "package" with
    | .list packages => packages.foldlM (lockPackage s.scope) Dict.empty
    | _ => .error (bomError (s.scope ++ " Cargo lockfile has no package list") [])

/-- The sanitized identity of a package. -/
structure Identity where
  name : String
  version : String
  source : String
  sourceKind : String
  repositoryPath : Option String
  bomRef : String
  deriving DecidableEq

def optionalText : Option String → Json
  | some s => .str s
  | none => .null

/-- `"zrm-component:" + hashlib.sha256(identity_bytes).hexdigest()` -/
def componentRef (host : Host) (name version source sourceKind : String) (repositoryPath : Option String) :
    String :=
  "zrm-component:" ++ host.sha256 (utf8 (host.compactJson (.dict [("name", .str name),
    ("source", .str source), ("source_kind", .str sourceKind), ("version", .str version),
    ("repository_path", optionalText repositoryPath)])))

/-- mirrors tools/bom_sbom.py:78-118 -/
def componentIdentity (host : Host) (package : JsonDict) (checksum : Option String) :
    Except Raised Identity := do
  let name ← requireString (get package "name") "metadata package name"
  let version ← requireString (get package "version") "metadata package version"
  match get package "source" with
  | .null =>
    match get package "manifest_path" with
    | .str manifestPath =>
      let path := host.repositoryPath manifestPath
      .ok ⟨name, version, "repository", "repository", path,
        componentRef host name version "repository" "repository" path⟩
    | _ => .error (bomError ("repository package " ++ name ++ " " ++ version ++ " lacks a manifest path") [])
  | source => do
    let sourceText ← requireString source "metadata package source"
    require ("registry+".toList.isPrefixOf sourceText.toList)
      (bomError ("unsupported unlocked external package source: " ++ sourceText) [])
    let value := String.ofList (sourceText.toList.drop "registry+".toList.length)
    require checksum.isSome
      (bomError ("registry package " ++ name ++ " " ++ version ++ " has no matching lock checksum") [])
    .ok ⟨name, version, value, "registry", none, componentRef host name version value "registry" none⟩

/-- The kinds of one target. -/
def kindsOfTarget (target : Json) : Except Raised (List String) :=
  let malformed := bomError "metadata target lacks a kind list" []
  match target with
  | .dict t =>
    match get t "kind" with
    | .list kinds => kinds.mapM fun kind => requireString kind "metadata target kind"
    | _ => .error malformed
  | _ => .error malformed

/-- mirrors tools/bom_sbom.py:121-133 -/
def targetKinds (package : JsonDict) : Except Raised (List String) :=
  match get package "targets" with
  | .list [] => .error (bomError "metadata package has no targets" [])
  | .list targets => do
    let kinds ← targets.mapM kindsOfTarget
    pure (sortedSet kinds.flatten)
  | _ => .error (bomError "metadata package has no targets" [])

/-! ## One snapshot -/

/-- The maps of packages and of resolve nodes by package ID, and the workspace members. -/
structure SnapshotPackages where
  packageMap : Dict String JsonDict
  nodeMap : Dict String JsonDict
  members : List String

/-- An object with its `id`. -/
def withId (value : Json) (what field : String) : Except Raised (String × JsonDict) :=
  match value with
  | .dict d => do
    let id ← requireString (get d "id") field
    pure (id, d)
  | _ => .error (bomError (what ++ " must be an object") [])

def packageEntry (value : Json) : Except Raised (String × JsonDict) :=
  withId value "metadata package" "metadata package ID"

def nodeEntry (value : Json) : Except Raised (String × JsonDict) :=
  withId value "metadata resolve node" "metadata resolve node ID"

/-- The lists of `metadata`: its packages, its members and its resolve nodes. -/
def metadataLists (s : WorkspaceSnapshot) : Except Raised (List Json × List Json × List Json) :=
  match s.metadata with
  | .dict metadata =>
    match get metadata "packages" with
    | .list (package :: packages) =>
      match get metadata "workspace_members" with
      | .list (member :: members) =>
        let noGraph := bomError (s.scope ++ " Cargo metadata has no resolve graph") []
        match get metadata "resolve" with
        | .dict resolve =>
          match get resolve "nodes" with
          | .list nodes => .ok (package :: packages, member :: members, nodes)
          | _ => .error noGraph
        | _ => .error noGraph
      | _ => .error (bomError (s.scope ++ " Cargo metadata has no workspace members") [])
    | _ => .error (bomError (s.scope ++ " Cargo metadata has no packages") [])
  | _ => .error (bomError (s.scope ++ " Cargo metadata must be an object") [])

/-- mirrors tools/bom_sbom.py:136-178 -/
def snapshotPackages (s : WorkspaceSnapshot) : Except Raised SnapshotPackages := do
  require (s.scope == "root" || s.scope == "fuzz") (bomError "unsupported workspace scope: " [s.scope])
  let _ ← normalizePath s.manifestPath
  let _ ← normalizePath s.lockfilePath
  let lists ← metadataLists s
  let packageMap ← lists.1.foldlM (fun map package => do
    let entry ← packageEntry package
    Dict.insertNew (fun id => bomError ("duplicate metadata package ID: " ++ id) []) map entry) Dict.empty
  let nodeMap ← lists.2.2.foldlM (fun map node => do
    let entry ← nodeEntry node
    Dict.insertNew (fun id => bomError ("duplicate metadata resolve node: " ++ id) []) map entry) Dict.empty
  require (packageMap.keys.all nodeMap.keys.contains && nodeMap.keys.all packageMap.keys.contains)
    (bomError (s.scope ++ " package and resolve-node coverage differ") [])
  let members ← lists.2.1.mapM fun member => requireString member "workspace member ID"
  require (members.all packageMap.keys.contains)
    (bomError (s.scope ++ " workspace member is absent from package metadata") [])
  pure ⟨packageMap, nodeMap, members.dedup⟩

/-! ## Components -/

structure Component extends Identity where
  checksumSha256 : Option String
  licenseDeclared : Option String
  activatedFeatures : List String
  targetKinds : List String
  scopes : List String
  workspaceMemberScopes : List String
  deriving DecidableEq

/-- The fields that `_merge_component` compares, with their names. -/
def comparedFields : List (String × (Component → Option String)) :=
  [("name", fun c => some c.name), ("version", fun c => some c.version), ("source", fun c => some c.source),
    ("source_kind", fun c => some c.sourceKind), ("repository_path", fun c => c.repositoryPath),
    ("checksum_sha256", fun c => c.checksumSha256), ("license_declared", fun c => c.licenseDeclared)]

/-- The component with the sets of a candidate added to its own. -/
def joinComponents (existing candidate : Component) (scope : String) : Component :=
  { existing with
    activatedFeatures := sortedSet (existing.activatedFeatures ++ candidate.activatedFeatures)
    targetKinds := sortedSet (existing.targetKinds ++ candidate.targetKinds)
    scopes := sortedSet (existing.scopes ++ [scope])
    workspaceMemberScopes := sortedSet (existing.workspaceMemberScopes ++ candidate.workspaceMemberScopes) }

/-- mirrors tools/bom_sbom.py:181-210 -/
def mergeComponent (components : Dict String Component) (candidate : Component) (scope : String) :
    Except Raised (Dict String Component) :=
  match components.get? candidate.bomRef with
  | none => .ok (components.set candidate.bomRef candidate)
  | some existing => do
    comparedFields.forM fun field => require (field.2 existing == field.2 candidate)
      (bomError ("inconsistent component metadata for " ++ candidate.bomRef ++ ": " ++ field.1) [])
    pure (components.set candidate.bomRef (joinComponents existing candidate scope))

/-- `d[key]` -/
def lookupKey {ν : Type} (d : Dict String ν) (key : String) : Except Raised ν :=
  match d.get? key with
  | some value => .ok value
  | none => .error ⟨.keyError, key, []⟩

/-- The features of a resolve node. -/
def nodeFeatures (packageId : String) (node : JsonDict) : Except Raised (List String) :=
  let malformed := bomError ("metadata node features are malformed: " ++ packageId) []
  match get node "features" with
  | .list items =>
    match stringItems items with
    | some features => .ok features
    | none => .error malformed
  | _ => .error malformed

def packageLicense (packageId : String) (package : JsonDict) : Except Raised (Option String) :=
  match get package "license" with
  | .null => .ok none
  | .str license => .ok (some license)
  | _ => .error (bomError ("metadata package license is malformed: " ++ packageId) [])

/-- The checksum that the lockfile has for a package. -/
def packageChecksum (checksums : Dict LockKey String) (package : JsonDict) :
    Except Raised (Option String) := do
  let name ← requireString (get package "name") "metadata package name"
  let version ← requireString (get package "version") "metadata package version"
  match get package "source" with
  | .null => .ok none
  | source => do
    let sourceText ← requireString source "metadata package source"
    pure (checksums.get? (name, version, sourceText))

/-- The candidate for a package, from its identity and checksum on. -/
def candidateOf (s : WorkspaceSnapshot) (packages : SnapshotPackages) (entry : String × JsonDict)
    (checksum : Option String) (identity : Identity) : Except Raised Component := do
  let node ← lookupKey packages.nodeMap entry.1
  let features ← nodeFeatures entry.1 node
  let license ← packageLicense entry.1 entry.2
  let kinds ← targetKinds entry.2
  pure
    { identity with
      checksumSha256 := checksum
      licenseDeclared := license
      activatedFeatures := sortedSet features
      targetKinds := kinds
      scopes := [s.scope]
      workspaceMemberScopes := if packages.members.contains entry.1 then [s.scope] else [] }

/-- What the loop over the packages of a snapshot keeps. -/
structure Registration where
  components : Dict String Component
  packageRefOwners : Dict String String
  packageRefs : Dict String String

/-- The loop body of `build_sbom` for a package. -/
def registerPackage (host : Host) (s : WorkspaceSnapshot) (checksums : Dict LockKey String)
    (packages : SnapshotPackages) (r : Registration) (entry : String × JsonDict) :
    Except Raised Registration := do
  let checksum ← packageChecksum checksums entry.2
  let identity ← componentIdentity host entry.2 checksum
  require (r.packageRefOwners.get? identity.bomRef == none ||
      r.packageRefOwners.get? identity.bomRef == some entry.1)
    (bomError "distinct Cargo package IDs collapse to one sanitized component identity" [])
  let candidate ← candidateOf s packages entry checksum identity
  let components ← mergeComponent r.components candidate s.scope
  pure ⟨components, r.packageRefOwners.set identity.bomRef entry.1, r.packageRefs.set entry.1 identity.bomRef⟩

/-! ## Edges -/

/-- An edge, ordered as a tuple. -/
abbrev Edge := String ×ₗ String ×ₗ String ×ₗ String ×ₗ String ×ₗ String

def edgeOf (scope source target name kind condition : String) : Edge :=
  toLex (scope, toLex (source, toLex (target, toLex (name, toLex (kind, condition)))))

/-- The fields of an edge: scope, both references, name, kind and target condition. -/
def Edge.fields (edge : Edge) : String × String × String × String × String × String :=
  let (scope, edge) := ofLex edge
  let (source, edge) := ofLex edge
  let (target, edge) := ofLex edge
  let (name, edge) := ofLex edge
  (scope, source, target, name, ofLex edge)

/-- What Python prints of an edge. -/
def Edge.listed (edge : Edge) : List String :=
  let (scope, source, target, name, kind, condition) := edge.fields
  [scope, source, target, name, kind, condition]

def dependencyKinds : List String := ["normal", "build", "dev"]

/-- `"normal" if kind is None else require_string(kind, ...)` -/
def normalizedKind (kind : Json) : Except Raised String :=
  match kind with
  | .null => .ok "normal"
  | kind => requireString kind "metadata dependency kind"

/-- The target condition, an absent one as `""`. -/
def targetCondition (target : Json) : Except Raised String :=
  match target with
  | .null => .ok ""
  | .str target => .ok target
  | _ => .error (bomError "metadata dependency target condition must be a string or null" [])

/-- The kind and the target condition of a dependency kind. -/
def dependencyKind (value : Json) : Except Raised (String × String) :=
  match value with
  | .dict d => do
    let kind ← normalizedKind (get d "kind")
    require (dependencyKinds.contains kind) (bomError ("unsupported Cargo dependency kind: " ++ kind) [])
    let condition ← targetCondition (get d "target")
    pure (kind, condition)
  | _ => .error (bomError "metadata dependency kind must be an object" [])

def addEdge (dependencies : List Edge) (edge : Edge) : Except Raised (List Edge) :=
  if edge ∈ dependencies then .error (bomError "duplicate dependency edge: " edge.listed)
  else .ok (dependencies ++ [edge])

/-- Name, package ID and kinds of a dependency. -/
def dependencyFields (packageRefs : Dict String String) (dependency : Json) :
    Except Raised (String × String × List Json) :=
  match dependency with
  | .dict d => do
    let name ← requireString (get d "name") "metadata dependency name"
    let id ← requireString (get d "pkg") "metadata dependency package ID"
    require (packageRefs.keys.contains id)
      (bomError ("dependency edge references unknown package: " ++ id) [])
    match get d "dep_kinds" with
    | .list (kind :: kinds) => pure (name, id, kind :: kinds)
    | _ => .error (bomError "metadata dependency edge has no dependency kinds" [])
  | _ => .error (bomError "metadata dependency edge must be an object" [])

/-- The edge of a dependency kind. -/
def kindEdge (s : WorkspaceSnapshot) (packageRefs : Dict String String) (nodeId name id : String)
    (value : Json) : Except Raised Edge := do
  let kind ← dependencyKind value
  let source ← lookupKey packageRefs nodeId
  let target ← lookupKey packageRefs id
  pure (edgeOf s.scope source target name kind.1 kind.2)

/-- The loop body of `_add_dependency_edges` for a dependency of a node. -/
def addDependency (s : WorkspaceSnapshot) (packageRefs : Dict String String) (nodeId : String)
    (dependencies : List Edge) (dependency : Json) : Except Raised (List Edge) := do
  let fields ← dependencyFields packageRefs dependency
  fields.2.2.foldlM (fun dependencies value => do
    let edge ← kindEdge s packageRefs nodeId fields.1 fields.2.1 value
    addEdge dependencies edge) dependencies

/-- The list of dependencies of a node. -/
def nodeDependencies (entry : String × JsonDict) : Except Raised (List Json) :=
  match get entry.2 "deps" with
  | .list deps => .ok deps
  | _ => .error (bomError ("metadata resolve dependencies are malformed: " ++ entry.1) [])

/-- mirrors tools/bom_sbom.py:276-322 -/
def addDependencyEdges (s : WorkspaceSnapshot) (nodeMap : Dict String JsonDict)
    (packageRefs : Dict String String) (dependencies : List Edge) : Except Raised (List Edge) :=
  nodeMap.items.foldlM (fun dependencies entry => do
    let deps ← nodeDependencies entry
    deps.foldlM (addDependency s packageRefs entry.1) dependencies) dependencies

/-! ## The report -/

structure WorkspaceReport where
  scope : String
  manifestPath : String
  lockfilePath : String
  lockfileSha256 : String
  workspaceComponentRefs : List String
  deriving DecidableEq

/-- An entry of the dependency list. -/
structure Dependency where
  scope : String
  fromComponentRef : String
  toComponentRef : String
  dependencyName : String
  dependencyKind : String
  targetCondition : Option String
  deriving DecidableEq

/-- `edge[5] or None` and the other fields -/
def Edge.dependency (edge : Edge) : Dependency :=
  let (scope, source, target, name, kind, condition) := edge.fields
  ⟨scope, source, target, name, kind, if condition = "" then none else some condition⟩

structure Sbom where
  components : List Component
  dependencies : List Dependency
  workspaces : List WorkspaceReport
  buildScriptComponents : List String
  procMacroComponents : List String
  inventorySha256 : String
  deriving DecidableEq

def texts (items : List String) : Json := .list (items.map .str)

def Component.json (c : Component) : Json :=
  .dict [("name", .str c.name), ("source", .str c.source), ("source_kind", .str c.sourceKind),
    ("version", .str c.version), ("repository_path", optionalText c.repositoryPath),
    ("bom_ref", .str c.bomRef), ("checksum_sha256", optionalText c.checksumSha256),
    ("license_declared", optionalText c.licenseDeclared), ("activated_features", texts c.activatedFeatures),
    ("target_kinds", texts c.targetKinds), ("scopes", texts c.scopes),
    ("workspace_member_scopes", texts c.workspaceMemberScopes)]

def Dependency.json (d : Dependency) : Json :=
  .dict [("scope", .str d.scope), ("from_component_ref", .str d.fromComponentRef),
    ("to_component_ref", .str d.toComponentRef), ("dependency_name", .str d.dependencyName),
    ("dependency_kind", .str d.dependencyKind), ("target_condition", optionalText d.targetCondition)]

def WorkspaceReport.json (w : WorkspaceReport) : Json :=
  .dict [("scope", .str w.scope), ("manifest_path", .str w.manifestPath),
    ("lockfile_path", .str w.lockfilePath), ("lockfile_sha256", .str w.lockfileSha256),
    ("workspace_component_refs", texts w.workspaceComponentRefs)]

def nonClaims : List String :=
  ["this ZRM-native source inventory does not claim SPDX or CycloneDX conformance",
    "registry checksums do not prove source review, maintainer identity, or benign behavior",
    "compiled artifacts, linker inputs, operating-system packages, and deployment images are outside this report",
    "this report is not signed provenance, a vulnerability scan, or a reproducible-build receipt"]

/-- The payload without its fingerprint. -/
def Sbom.payload (r : Sbom) : Json :=
  .dict [("schema", .str sbomSchema),
    ("inventory_kind", .str "ZRM-native Cargo source software bill of materials"),
    ("components", .list (r.components.map Component.json)),
    ("dependencies", .list (r.dependencies.map Dependency.json)),
    ("workspaces", .list (r.workspaces.map WorkspaceReport.json)),
    ("build_script_components", texts r.buildScriptComponents),
    ("proc_macro_components", texts r.procMacroComponents),
    ("summary", .dict [("component_count", .int r.components.length),
      ("dependency_edge_count", .int r.dependencies.length), ("workspace_count", .int r.workspaces.length)]),
    ("non_claims", texts nonClaims)]

/-- `sorted(component["bom_ref"] for component in component_list if kind in ...)` -/
def refsWithKind (components : List Component) (kind : String) : List String :=
  ((components.filter fun c => c.targetKinds.contains kind).map fun c => c.bomRef).insertionSort (· ≤ ·)

/-- mirrors tools/bom_sbom.py:325-373 -/
def sbomReport (host : Host) (components : Dict String Component) (dependencies : List Edge)
    (workspaceReports : List WorkspaceReport) : Sbom :=
  let componentList := (components.items.map Prod.snd).insertionSort fun c c' => c.bomRef ≤ c'.bomRef
  let report : Sbom :=
    { components := componentList
      dependencies := (dependencies.insertionSort (· ≤ ·)).map Edge.dependency
      workspaces := workspaceReports
      buildScriptComponents := refsWithKind componentList "custom-build"
      procMacroComponents := refsWithKind componentList "proc-macro"
      inventorySha256 := "" }
  { report with inventorySha256 := host.fingerprint report.payload }

/-! ## The loop over the snapshots -/

structure Inventory where
  components : Dict String Component
  dependencies : List Edge
  workspaceReports : List WorkspaceReport

/-- The loop body of `build_sbom` for a snapshot. -/
def addSnapshot (host : Host) (inventory : Inventory) (s : WorkspaceSnapshot) : Except Raised Inventory := do
  let checksums ← lockChecksums host s
  let packages ← snapshotPackages s
  let r ← packages.packageMap.items.foldlM (registerPackage host s checksums packages)
    ⟨inventory.components, Dict.empty, Dict.empty⟩
  let dependencies ← addDependencyEdges s packages.nodeMap r.packageRefs inventory.dependencies
  let manifestPath ← normalizePath s.manifestPath
  let lockfilePath ← normalizePath s.lockfilePath
  let refs ← packages.members.mapM (lookupKey r.packageRefs)
  pure ⟨r.components, dependencies, inventory.workspaceReports ++
    [⟨s.scope, manifestPath, lockfilePath, host.sha256 s.lockfileBytes, refs.insertionSort (· ≤ ·)⟩]⟩

/-- mirrors tools/bom_sbom.py:213-273 -/
def buildSbom (host : Host) (workspaces : List WorkspaceSnapshot) : Except Raised Sbom := do
  require (!workspaces.isEmpty) (bomError "SBOM generation requires at least one workspace snapshot" [])
  require (decide (workspaces.map WorkspaceSnapshot.scope).Nodup) (bomError "duplicate workspace scope" [])
  let inventory ← (workspaces.insertionSort fun s s' => s.scope ≤ s'.scope).foldlM (addSnapshot host)
    ⟨Dict.empty, [], []⟩
  pure (sbomReport host inventory.components inventory.dependencies inventory.workspaceReports)

end Zrm.L6.Bom
