import Mathlib.Data.Prod.Lex
import Zrm.Core.Dict
import Zrm.Core.Loops
import Zrm.L6Tools.BomCommon

/-!
# The reviewed build surface (`tools/bom_sbom.py`)

`apply_build_surface_policy` collects the build scripts and the procedural macros of an
inventory, and the records of a review policy, and accepts only a match of the two.

* `discoveredBuildSurface_eq_ok`, `declaredBuildSurface_eq_ok`: the two maps in closed form.
* `build_surface_exact`: what is accepted, and the result.
-/
namespace Zrm.L6.Bom

open Placement Result Value

/-! ## The discovered surface -/

/-- `(name, version, target_kind)`, ordered as a tuple -/
abbrev Key := String ×ₗ String ×ₗ String

def surfaceKey (name version kind : String) : Key := toLex (name, toLex (version, kind))

/-- What Python prints of a key. -/
def Key.listed (key : Key) : List String := [(ofLex key).1, (ofLex (ofLex key).2).1, (ofLex (ofLex key).2).2]

def executableKinds : List String := ["custom-build", "proc-macro"]

def isScope (scope : String) : Bool := scope == "root" || scope == "fuzz"

/-- `all(scope in {"root", "fuzz"} for scope in scopes)`, with the strings if so. A list or a
dictionary is not hashable. -/
def scopeStrings : List Json → Except Raised (Option (List String))
  | [] => .ok (some [])
  | .str s :: scopes => if isScope s then (scopeStrings scopes).map (Option.map (s :: ·)) else .ok none
  | .list _ :: _ => .error ⟨.typeError, "unhashable type: 'list'", []⟩
  | .dict _ :: _ => .error ⟨.typeError, "unhashable type: 'dict'", []⟩
  | _ :: _ => .ok none

def componentScopes (value : Json) (name version : String) : Except Raised (List String) :=
  let malformed := bomError ("SBOM component scopes are malformed: " ++ name ++ " " ++ version) []
  match value with
  | .list items => do
    match ← scopeStrings items with
    | some scopes => pure scopes
    | none => .error malformed
  | _ => .error malformed

def componentKinds (value : Json) (name version : String) : Except Raised (List Json) :=
  match value with
  | .list kinds => .ok kinds
  | _ => .error (bomError ("SBOM component target kinds are malformed: " ++ name ++ " " ++ version) [])

def ambiguous (key : Key) : Raised :=
  bomError "ambiguous executable build component identity: " key.listed

/-- The loop body of `_discovered_build_surface`. -/
def discoverComponent (discovered : Dict Key (String × List String)) (component : Json) :
    Except Raised (Dict Key (String × List String)) :=
  match component with
  | .dict d => do
    let name ← requireString (get d "name") "SBOM component name"
    let version ← requireString (get d "version") "SBOM component version"
    let bomRef ← requireString (get d "bom_ref") "SBOM component reference"
    let scopes ← componentScopes (get d "scopes") name version
    let kinds ← componentKinds (get d "target_kinds") name version
    let executable := executableKinds.filter fun kind => kinds.any (·.eqStr kind)
    (executable.map fun kind => (surfaceKey name version kind, (bomRef, sortedSet scopes))).foldlM
      (Dict.insertNew ambiguous) discovered
  | _ => .error (bomError "SBOM component must be an object" [])

/-- mirrors tools/bom_sbom.py:416-440 -/
def discoveredBuildSurface (components : List Json) : Except Raised (Dict Key (String × List String)) :=
  components.foldlM discoverComponent Dict.empty

/-! ## The declared surface -/

structure Record where
  name : String
  version : String
  targetKind : String
  scopes : List String
  reviewRefs : List String
  rationale : String
  deriving DecidableEq

def Record.key (r : Record) : Key := surfaceKey r.name r.version r.targetKind

def requiredFields : List String :=
  ["name", "version", "target_kind", "scopes", "review_refs", "rationale"]

/-- The loop body of `_declared_build_surface`. -/
def declareComponent (host : Host) (declared : Dict Key Record) (component : Json) :
    Except Raised (Dict Key Record) :=
  let inexact := bomError "each build-surface component must contain the exact v1 fields" []
  match component with
  | .dict d => do
    require (keysAre d requiredFields) inexact
    let name ← requireString (get d "name") "build-surface package name"
    let version ← requireString (get d "version") "build-surface package version"
    let targetKind ← requireString (get d "target_kind") "build-surface target kind"
    require (executableKinds.contains targetKind)
      (bomError ("unsupported executable build target kind: " ++ targetKind) [])
    let key := surfaceKey name version targetKind
    require (decide (key ∉ declared.keys)) (bomError "duplicate build-surface policy component: " key.listed)
    let scopes ← requireStringList (get d "scopes") "build-surface scopes"
    require (scopes.all isScope && decide scopes.Nodup)
      (bomError "invalid or duplicate build-surface scopes: " key.listed)
    let references ← requireStringList (get d "review_refs") "build-surface review_refs"
    let reviewRefs ← validateReferences host references "build-surface review_refs"
    let rationale ← requireString (get d "rationale") "build-surface rationale"
    pure (declared.set key
      ⟨name, version, targetKind, scopes.insertionSort (· ≤ ·), reviewRefs, rationale⟩)
  | _ => .error inexact

/-- mirrors tools/bom_sbom.py:443-487 -/
def declaredBuildSurface (host : Host) (components : Json) : Except Raised (Dict Key Record) :=
  match components with
  | .list items => items.foldlM (declareComponent host) Dict.empty
  | _ => .error (bomError "build-surface policy components must be a list" [])

/-! ## The policy applied -/

/-- `{**record, "component_ref": bom_ref}` -/
def Record.bound (r : Record) (bomRef : String) : Json :=
  .dict [("name", .str r.name), ("version", .str r.version), ("target_kind", .str r.targetKind),
    ("scopes", .list (r.scopes.map .str)), ("review_refs", .list (r.reviewRefs.map .str)),
    ("rationale", .str r.rationale), ("component_ref", .str bomRef)]

/-- The loop body of `apply_build_surface_policy`. -/
def reviewKey (discovered : Dict Key (String × List String)) (declared : Dict Key Record) (key : Key) :
    Except Raised Json :=
  match discovered.get? key, declared.get? key with
  | some (bomRef, scopes), some record =>
    if record.scopes = scopes then .ok (record.bound bomRef)
    else .error (bomError "build-surface scope mismatch for " (key.listed ++ record.scopes ++ scopes))
  | _, _ => .error ⟨.keyError, "", key.listed⟩

/-- The payload with the reviewed surface and its two fingerprints. -/
def sealPayload (host : Host) (sbom : JsonDict) (policy : Json) (normalized : List Json) : JsonDict :=
  let unsealed := sbom.filter fun x => decide (x.1 ≠ "inventory_sha256")
  let reviewed := Dict.setItem "reviewed_build_surface" (.list normalized) unsealed
  let payload := Dict.setItem "build_surface_policy_sha256" (.str (host.fingerprint policy)) reviewed
  Dict.setItem "inventory_sha256" (.str (host.fingerprint (.dict payload))) payload

/-- mirrors tools/bom_sbom.py:376-413 -/
def applyBuildSurfacePolicy (host : Host) (sbom : JsonDict) (policy : Json) : Except Raised JsonDict :=
  let invalid := bomError "build-surface validation requires a valid ZRM source SBOM" []
  let inexact := bomError "build-surface policy must contain exactly schema and components" []
  match get sbom "components", policy with
  | .list components, .dict p => do
    require ((get sbom "schema").eqStr sbomSchema) invalid
    require (keysAre p ["schema", "components"]) inexact
    require ((get p "schema").eqStr buildSurfacePolicySchema)
      (bomError "unexpected build-surface policy schema" [])
    let discovered ← discoveredBuildSurface components
    let declared ← declaredBuildSurface host (get p "components")
    let missing := discovered.keys.filter fun key => !declared.keys.contains key
    let stale := declared.keys.filter fun key => !discovered.keys.contains key
    require missing.isEmpty (bomError "unreviewed executable build components: "
      ((missing.insertionSort (· ≤ ·)).flatMap Key.listed))
    require stale.isEmpty (bomError "stale executable build component approvals: "
      ((stale.insertionSort (· ≤ ·)).flatMap Key.listed))
    let normalized ← (discovered.keys.insertionSort (· ≤ ·)).mapM (reviewKey discovered declared)
    pure (sealPayload host sbom policy normalized)
  | .list _, _ =>
    .error (if (get sbom "schema").eqStr sbomSchema then inexact else invalid)
  | _, _ => .error invalid

/-! ## Well-formed inputs -/

/-- What a component of an inventory holds. -/
structure SurfaceComponent where
  name : String
  version : String
  bomRef : String
  scopes : List String
  targetKinds : List Json

/-- The component of a well-formed inventory that the value is. -/
structure SurfaceComponent.Describes (c : SurfaceComponent) (value : Json) : Prop where
  fields : ∃ d, value = .dict d ∧ get d "name" = .str c.name ∧ get d "version" = .str c.version ∧
    get d "bom_ref" = .str c.bomRef ∧ get d "scopes" = .list (c.scopes.map .str) ∧
    get d "target_kinds" = .list c.targetKinds
  texts : hasText c.name = true ∧ hasText c.version = true ∧ hasText c.bomRef = true
  scopes : ∀ scope ∈ c.scopes, isScope scope = true

/-- The executable kinds of a component. -/
def SurfaceComponent.executable (c : SurfaceComponent) : List String :=
  executableKinds.filter fun kind => c.targetKinds.any (·.eqStr kind)

def SurfaceComponent.key (c : SurfaceComponent) (kind : String) : Key := surfaceKey c.name c.version kind

/-- The record of a policy that the value is, its scopes and references as they are written. -/
structure Record.Describes (host : Host) (r : Record) (value : Json) : Prop where
  fields : ∃ d, value = .dict d ∧ keysAre d requiredFields = true ∧ get d "name" = .str r.name ∧
    get d "version" = .str r.version ∧ get d "target_kind" = .str r.targetKind ∧
    get d "scopes" = .list (r.scopes.map .str) ∧ get d "review_refs" = .list (r.reviewRefs.map .str) ∧
    get d "rationale" = .str r.rationale
  texts : hasText r.name = true ∧ hasText r.version = true ∧ hasText r.targetKind = true ∧
    hasText r.rationale = true
  kind : r.targetKind ∈ executableKinds
  scopes : r.scopes ≠ [] ∧ r.scopes.all hasText = true
  references : r.reviewRefs ≠ [] ∧ r.reviewRefs.all hasText = true ∧ r.reviewRefs.Nodup
  present : ∀ path ∈ r.reviewRefs,
    normalizePath path = .ok path ∧ host.isFile path = true ∧ host.isSymlink path = false

/-- The record as the map keeps it. -/
def Record.normalized (r : Record) : Record :=
  { r with scopes := r.scopes.insertionSort (· ≤ ·), reviewRefs := r.reviewRefs.insertionSort (· ≤ ·) }

/-- An inventory and a policy of the required shape. -/
structure WellFormed (host : Host) (sbom : JsonDict) (policy : Json) (components : List SurfaceComponent)
    (records : List Record) : Prop where
  schema : get sbom "schema" = .str sbomSchema
  components : ∃ items, get sbom "components" = .list items ∧
    List.Forall₂ (fun value c => c.Describes value) items components
  policy : ∃ p items, policy = .dict p ∧ keysAre p ["schema", "components"] = true ∧
    get p "schema" = .str buildSurfacePolicySchema ∧ get p "components" = .list items ∧
    List.Forall₂ (fun value r => r.Describes host value) items records

/-! ## The discovered map -/

variable {host : Host}

theorem scopeStrings_map {scopes : List String} (h : ∀ scope ∈ scopes, isScope scope = true) :
    scopeStrings (scopes.map .str) = .ok (some scopes) := by
  induction scopes with
  | nil => rfl
  | cons s scopes ih =>
    obtain ⟨hs, hrest⟩ := List.forall_mem_cons.mp h
    rw [List.map_cons, scopeStrings, if_pos hs, ih hrest]
    rfl

/-- What a component adds to the map. -/
def SurfaceComponent.entries (c : SurfaceComponent) : List (Key × (String × List String)) :=
  c.executable.map fun kind => (c.key kind, (c.bomRef, sortedSet c.scopes))

theorem discoverComponent_eq {c : SurfaceComponent} {value : Json} (h : c.Describes value)
    (discovered : Dict Key (String × List String)) :
    discoverComponent discovered value = c.entries.foldlM (Dict.insertNew ambiguous) discovered := by
  obtain ⟨d, rfl, hname, hversion, href, hscopes, hkinds⟩ := h.fields
  obtain ⟨tname, tversion, tref⟩ := h.texts
  simp only [discoverComponent, hname, hversion, href, hscopes, hkinds,
    requireString_eq_ok.mpr ⟨rfl, tname⟩, requireString_eq_ok.mpr ⟨rfl, tversion⟩,
    requireString_eq_ok.mpr ⟨rfl, tref⟩, ok_bind, componentScopes, scopeStrings_map h.scopes,
    componentKinds, pure_eq]
  rfl

/-- The discovered keys are those of the executable targets, none of them twice. -/
theorem discoveredBuildSurface_eq_ok {items : List Json} {components : List SurfaceComponent}
    (h : List.Forall₂ (fun value c => c.Describes value) items components)
    {discovered : Dict Key (String × List String)} :
    discoveredBuildSurface items = .ok discovered ↔
      ((components.flatMap SurfaceComponent.entries).map Prod.fst).Nodup ∧
      discovered.items = components.flatMap SurfaceComponent.entries := by
  rw [discoveredBuildSurface, foldlM_forall₂ h fun s _ _ hc => discoverComponent_eq hc s,
    ← foldlM_flatMap, Dict.foldlM_insertNew]
  rfl

/-! ## The declared map -/

/-- The scopes of a record that are accepted. -/
def Record.ValidScopes (r : Record) : Prop := (∀ scope ∈ r.scopes, isScope scope = true) ∧ r.scopes.Nodup

theorem validateReferences_eq {references : List String} {field : String} (hnodup : references.Nodup)
    (h : ∀ path ∈ references,
      normalizePath path = .ok path ∧ host.isFile path = true ∧ host.isSymlink path = false) :
    validateReferences host references field = .ok (references.insertionSort (· ≤ ·)) := by
  have hall : references.mapM (validateReference host field) = .ok references := by
    rw [mapM_eq_ok, List.forall₂_same]
    intro path hpath
    obtain ⟨hnormal, hfile, hlink⟩ := h path hpath
    rw [validateReference, hnormal, ok_bind, hfile, hlink]
    rfl
  rw [validateReferences, hall, ok_bind, decide_eq_true hnodup]
  rfl

theorem declareComponent_eq_ok {r : Record} {value : Json} (h : r.Describes host value)
    (declared declared' : Dict Key Record) :
    declareComponent host declared value = .ok declared' ↔ r.ValidScopes ∧
      [(r.key, r.normalized)].foldlM (Dict.insertNew ambiguous) declared = .ok declared' := by
  obtain ⟨d, rfl, hkeys, hname, hversion, hkind, hscopes, hrefs, hrationale⟩ := h.fields
  obtain ⟨tname, tversion, tkind, trationale⟩ := h.texts
  have hexecutable : executableKinds.contains r.targetKind = true := List.contains_iff_mem.mpr h.kind
  have hinsert : [(r.key, r.normalized)].foldlM (Dict.insertNew ambiguous) declared = .ok declared' ↔
      r.key ∉ declared.keys ∧ declared.set r.key r.normalized = declared' := by
    rw [List.foldlM_cons, bind_eq_ok]
    simp only [Dict.insertNew, guard_eq_ok, List.foldlM_nil, pure_eq, Except.ok.injEq, and_assoc]
    simp
  rw [hinsert]
  simp only [declareComponent, hkeys, hname, hversion, hkind, hscopes, hrefs, hrationale, hexecutable,
    requireString_eq_ok.mpr ⟨rfl, tname⟩, requireString_eq_ok.mpr ⟨rfl, tversion⟩,
    requireString_eq_ok.mpr ⟨rfl, tkind⟩, requireString_eq_ok.mpr ⟨rfl, trationale⟩,
    requireStringList_eq_ok.mpr ⟨rfl, h.scopes.1, h.scopes.2⟩,
    requireStringList_eq_ok.mpr ⟨rfl, h.references.1, h.references.2.1⟩,
    validateReferences_eq h.references.2.2 h.present, ok_bind, pure_eq, unit_bind_eq_ok, require_eq_ok,
    decide_eq_true_eq, Bool.and_eq_true, List.all_eq_true, Except.ok.injEq, true_and]
  refine ⟨fun hok => ?_, fun hok => ?_⟩
  · obtain ⟨hnew, hvalid, hset⟩ := hok
    exact ⟨hvalid, hnew, hset⟩
  · obtain ⟨hvalid, hnew, hset⟩ := hok
    exact ⟨hnew, hvalid, hset⟩

/-- The declared keys are those of the records, none of them twice, with valid scopes. -/
theorem declaredBuildSurface_eq_ok {items : List Json} {records : List Record}
    (h : List.Forall₂ (fun value r => r.Describes host value) items records)
    {declared : Dict Key Record} :
    declaredBuildSurface host (.list items) = .ok declared ↔
      (∀ r ∈ records, r.ValidScopes) ∧ (records.map Record.key).Nodup ∧
      declared.items = records.map fun r => (r.key, r.normalized) := by
  have hentries : records.flatMap (fun r => [(r.key, r.normalized)]) =
      records.map fun r => (r.key, r.normalized) := List.map_eq_flatMap.symm
  rw [declaredBuildSurface,
    foldlM_entries h fun d value r d' hr => declareComponent_eq_ok hr d d', hentries, List.map_map]
  rfl

/-! ## The match of both -/

/-- The keys of all executable targets. -/
def discoveredKeys (components : List SurfaceComponent) : List Key :=
  components.flatMap fun c => c.executable.map c.key

/-- Every executable target is reviewed, once and in its scopes, and nothing else is. -/
structure Reviewed (components : List SurfaceComponent) (records : List Record) : Prop where
  discovered : (discoveredKeys components).Nodup
  declared : (records.map Record.key).Nodup
  same : ∀ key, key ∈ discoveredKeys components ↔ key ∈ records.map Record.key
  scopes : ∀ c ∈ components, ∀ kind ∈ c.executable, ∀ r ∈ records, r.key = c.key kind →
    (∀ scope, scope ∈ r.scopes ↔ scope ∈ c.scopes) ∧ r.scopes.Nodup

/-- A reviewed target: its key, the reference of its component, its record. -/
structure SurfaceRow where
  key : Key
  bomRef : String
  record : Record

section Match

variable {components : List SurfaceComponent} {records : List Record}
  {discovered : Dict Key (String × List String)} {declared : Dict Key Record}

theorem map_fst_entries :
    (components.flatMap SurfaceComponent.entries).map Prod.fst = discoveredKeys components := by
  rw [discoveredKeys, List.map_flatMap]
  congr 1
  funext c
  rw [SurfaceComponent.entries, List.map_map]
  rfl

theorem mem_entries {key : Key} {bomRef : String} {scopes : List String} :
    (key, (bomRef, scopes)) ∈ components.flatMap SurfaceComponent.entries ↔
      ∃ c ∈ components, ∃ kind ∈ c.executable,
        c.key kind = key ∧ c.bomRef = bomRef ∧ sortedSet c.scopes = scopes := by
  rw [List.mem_flatMap]
  refine exists_congr fun c => and_congr_right fun _ => ?_
  rw [SurfaceComponent.entries, List.mem_map]
  simp only [Prod.mk.injEq]

/-- The scopes of a record are those of a component if and only if the sorted ones are. -/
theorem sorted_scopes_iff {r : Record} {c : SurfaceComponent} (h : r.scopes.Nodup) :
    r.normalized.scopes = sortedSet c.scopes ↔ ∀ scope, scope ∈ r.scopes ↔ scope ∈ c.scopes := by
  have hsorted : r.normalized.scopes = sortedSet r.scopes := by
    rw [sortedSet, List.dedup_eq_self.mpr h]
    rfl
  rw [hsorted, sortedSet_eq_iff]

theorem reviewKey_eq_ok {key : Key} {json : Json} :
    reviewKey discovered declared key = .ok json ↔ ∃ row : SurfaceRow, row.key = key ∧
      row.record.bound row.bomRef = json ∧
      ∃ scopes, (row.key, (row.bomRef, scopes)) ∈ discovered.items ∧
        (row.key, row.record) ∈ declared.items ∧ row.record.scopes = scopes := by
  rw [reviewKey]
  refine ⟨fun h => ?_, fun h => ?_⟩
  · split at h
    · rename_i bomRef scopes record hdiscovered hdeclared
      split at h
      · rename_i hscopes
        cases h
        exact ⟨⟨key, bomRef, record⟩, rfl, rfl, scopes, Dict.get?_eq_some.mp hdiscovered,
          Dict.get?_eq_some.mp hdeclared, hscopes⟩
      · cases h
    · cases h
  · obtain ⟨row, rfl, rfl, scopes, hdiscovered, hdeclared, hscopes⟩ := h
    rw [Dict.get?_eq_some.mpr hdiscovered, Dict.get?_eq_some.mpr hdeclared]
    exact if_pos hscopes

theorem filter_not_contains_isEmpty {l l' : List Key} :
    (l.filter fun key => !l'.contains key).isEmpty = true ↔ ∀ key ∈ l, key ∈ l' := by
  rw [List.isEmpty_iff, List.filter_eq_nil_iff]
  refine forall_congr' fun key => forall_congr' fun _ => ?_
  rw [Bool.not_eq_true', Bool.not_eq_false, List.contains_iff_mem]

/-- What the checks before the loop let through, and the loop. -/
theorem applyBuildSurfacePolicy_eq_ok {sbom result : JsonDict} {policy : Json}
    (h : WellFormed host sbom policy components records) :
    applyBuildSurfacePolicy host sbom policy = .ok result ↔
      ∃ (discovered : Dict Key (String × List String)) (declared : Dict Key Record) (normalized : List Json),
        ((discoveredKeys components).Nodup ∧
          discovered.items = components.flatMap SurfaceComponent.entries) ∧
        ((∀ r ∈ records, r.ValidScopes) ∧ (records.map Record.key).Nodup ∧
          declared.items = records.map fun r => (r.key, r.normalized)) ∧
        (∀ key ∈ discovered.keys, key ∈ declared.keys) ∧ (∀ key ∈ declared.keys, key ∈ discovered.keys) ∧
        (discovered.keys.insertionSort (· ≤ ·)).mapM (reviewKey discovered declared) = .ok normalized ∧
        sealPayload host sbom policy normalized = result := by
  obtain ⟨items, hitems, hcomponents⟩ := h.components
  obtain ⟨p, recordItems, rfl, hkeys, hschema, hrecordItems, hrecords⟩ := h.policy
  have hstr : ∀ s, (Json.str s).eqStr s = true := fun s => by simp [Json.eqStr]
  simp only [applyBuildSurfacePolicy, hitems]
  simp only [hkeys, hschema, hrecordItems, h.schema, hstr, ↓unit_bind_eq_ok, require_eq_ok,
    true_and, bind_eq_ok, filter_not_contains_isEmpty, pure_eq, Except.ok.injEq,
    discoveredBuildSurface_eq_ok hcomponents, declaredBuildSurface_eq_ok hrecords, map_fst_entries]
  refine ⟨fun hok => ?_, fun hok => ?_⟩
  · obtain ⟨discovered, hd, declared, hr, hmissing, hstale, normalized, hnormalized, hseal⟩ := hok
    exact ⟨discovered, declared, normalized, hd, hr, hmissing, hstale, hnormalized, hseal⟩
  · obtain ⟨discovered, declared, normalized, hd, hr, hmissing, hstale, hnormalized, hseal⟩ := hok
    exact ⟨discovered, hd, declared, hr, hmissing, hstale, normalized, hnormalized, hseal⟩

theorem keys_discovered (h : discovered.items = components.flatMap SurfaceComponent.entries) :
    discovered.keys = discoveredKeys components := by
  rw [Dict.keys, h, map_fst_entries]

theorem keys_declared (h : declared.items = records.map fun r => (r.key, r.normalized)) :
    declared.keys = records.map Record.key := by
  rw [Dict.keys, h, List.map_map]
  rfl

theorem mem_declared {key : Key} {record : Record}
    (h : declared.items = records.map fun r => (r.key, r.normalized)) :
    (key, record) ∈ declared.items ↔ ∃ r ∈ records, r.key = key ∧ r.normalized = record := by
  rw [h, List.mem_map]
  simp only [Prod.mk.injEq]

/-- If everything is reviewed, the policy is accepted. -/
theorem Reviewed.accepted {sbom : JsonDict} {policy : Json}
    (hshape : WellFormed host sbom policy components records) (h : Reviewed components records) :
    ∃ result, applyBuildSurfacePolicy host sbom policy = .ok result := by
  have hnodup : ((components.flatMap SurfaceComponent.entries).map Prod.fst).Nodup := by
    rw [map_fst_entries]
    exact h.discovered
  have hnodup' : ((records.map fun r => (r.key, r.normalized)).map Prod.fst).Nodup := by
    rw [List.map_map]
    exact h.declared
  obtain ⟨discovered, hdiscovered⟩ : ∃ d : Dict Key (String × List String),
      d.items = components.flatMap SurfaceComponent.entries := ⟨⟨_, hnodup⟩, rfl⟩
  obtain ⟨declared, hdeclared⟩ : ∃ d : Dict Key Record,
      d.items = records.map fun r => (r.key, r.normalized) := ⟨⟨_, hnodup'⟩, rfl⟩
  have hcomponents : ∀ r ∈ records, ∃ c ∈ components, ∃ kind ∈ c.executable, c.key kind = r.key := by
    intro r hr
    obtain ⟨c, hc, hkey⟩ := List.mem_flatMap.mp ((h.same r.key).mpr (List.mem_map_of_mem hr))
    obtain ⟨kind, hkind, hkey⟩ := List.mem_map.mp hkey
    exact ⟨c, hc, kind, hkind, hkey⟩
  have hvalid : ∀ r ∈ records, r.ValidScopes := by
    intro r hr
    obtain ⟨c, hc, kind, hkind, hkey⟩ := hcomponents r hr
    obtain ⟨hscopes, hnodup⟩ := h.scopes c hc kind hkind r hr hkey.symm
    obtain ⟨items, -, hdescribes⟩ := hshape.components
    obtain ⟨value, -, hvalue⟩ := exists_of_mem_right hdescribes hc
    exact ⟨fun scope hscope => hvalue.scopes scope ((hscopes scope).mp hscope), hnodup⟩
  have hloop : ∀ key ∈ discovered.keys.insertionSort (· ≤ ·),
      ∃ json, reviewKey discovered declared key = .ok json := by
    intro key hkey
    rw [List.mem_insertionSort, keys_discovered hdiscovered] at hkey
    obtain ⟨r, hr, hrkey⟩ := List.mem_map.mp ((h.same key).mp hkey)
    obtain ⟨c, hc, hckey⟩ := List.mem_flatMap.mp hkey
    obtain ⟨kind, hkind, hckey⟩ := List.mem_map.mp hckey
    obtain ⟨hscopes, hnodup⟩ := h.scopes c hc kind hkind r hr (hrkey.trans hckey.symm)
    refine ⟨_, reviewKey_eq_ok.mpr ⟨⟨key, c.bomRef, r.normalized⟩, rfl, rfl, sortedSet c.scopes, ?_, ?_,
      (sorted_scopes_iff hnodup).mpr hscopes⟩⟩
    · rw [hdiscovered, mem_entries]
      exact ⟨c, hc, kind, hkind, hckey, rfl, rfl⟩
    · rw [mem_declared hdeclared]
      exact ⟨r, hr, hrkey, rfl⟩
  obtain ⟨normalized, hnormalized⟩ := exists_mapM hloop
  have hsame := h.same
  rw [← keys_discovered hdiscovered, ← keys_declared hdeclared] at hsame
  exact ⟨_, (applyBuildSurfacePolicy_eq_ok hshape).mpr ⟨discovered, declared, normalized,
    ⟨h.discovered, hdiscovered⟩, ⟨hvalid, h.declared, hdeclared⟩, fun key => (hsame key).mp,
    fun key => (hsame key).mpr, hnormalized, rfl⟩⟩

/-- The rows of an accepted surface. -/
structure Surface (components : List SurfaceComponent) (records : List Record) (rows : List SurfaceRow) :
    Prop where
  ascending : (rows.map SurfaceRow.key).Pairwise (· < ·)
  targets : ∀ key bomRef, (∃ row ∈ rows, row.key = key ∧ row.bomRef = bomRef) ↔
    ∃ c ∈ components, ∃ kind ∈ c.executable, c.key kind = key ∧ c.bomRef = bomRef
  records : ∀ row ∈ rows, ∃ r ∈ records, r.key = row.key ∧ r.normalized = row.record

/-- The loop over the sorted keys. -/
theorem surface_of_loop (hkeys : (discoveredKeys components).Nodup)
    (hdiscovered : discovered.items = components.flatMap SurfaceComponent.entries)
    (hdeclared : declared.items = records.map fun r => (r.key, r.normalized)) {normalized : List Json}
    (h : (discovered.keys.insertionSort (· ≤ ·)).mapM (reviewKey discovered declared) = .ok normalized) :
    ∃ rows, Surface components records rows ∧ normalized = rows.map (fun row => row.record.bound row.bomRef) ∧
      ∀ row ∈ rows, ∃ scopes, (row.key, (row.bomRef, scopes)) ∈ discovered.items ∧
        (row.key, row.record) ∈ declared.items ∧ row.record.scopes = scopes := by
  obtain ⟨rows, hrowKeys, hjson, hrows⟩ :=
    exists_rows ((mapM_eq_ok.mp h).imp fun _ _ hrow => reviewKey_eq_ok.mp hrow)
  rw [keys_discovered hdiscovered] at hrowKeys
  refine ⟨rows, ⟨?_, fun key bomRef => ⟨fun hrow => ?_, fun hc => ?_⟩, fun row hrow => ?_⟩,
    hjson.symm, hrows⟩
  · rw [hrowKeys]
    exact insertionSort_strict hkeys
  · obtain ⟨row, hrow, rfl, rfl⟩ := hrow
    obtain ⟨scopes, hmem, -⟩ := hrows row hrow
    rw [hdiscovered, mem_entries] at hmem
    obtain ⟨c, hc, kind, hkind, hkey, href, -⟩ := hmem
    exact ⟨c, hc, kind, hkind, hkey, href⟩
  · obtain ⟨c, hc, kind, hkind, hkey, href⟩ := hc
    have hmem : (key, (bomRef, sortedSet c.scopes)) ∈ discovered.items := by
      rw [hdiscovered, mem_entries]
      exact ⟨c, hc, kind, hkind, hkey, href, rfl⟩
    have hsorted : key ∈ rows.map SurfaceRow.key := by
      rw [hrowKeys, List.mem_insertionSort, ← keys_discovered hdiscovered]
      exact List.mem_map.mpr ⟨_, hmem, rfl⟩
    obtain ⟨row, hrow, hrowKey⟩ := List.mem_map.mp hsorted
    obtain ⟨scopes, hmem', -⟩ := hrows row hrow
    rw [hrowKey, ← Dict.get?_eq_some, Dict.get?_eq_some.mpr hmem] at hmem'
    cases hmem'
    exact ⟨row, hrow, hrowKey, rfl⟩
  · obtain ⟨scopes, -, hmem, -⟩ := hrows row hrow
    exact (mem_declared hdeclared).mp hmem

/-- What is accepted is reviewed. -/
theorem reviewed_of_accepted {sbom result : JsonDict} {policy : Json}
    (hshape : WellFormed host sbom policy components records)
    (h : applyBuildSurfacePolicy host sbom policy = .ok result) : Reviewed components records := by
  obtain ⟨discovered, declared, normalized, ⟨hkeys, hdiscovered⟩, ⟨hvalid, hkeys', hdeclared⟩, hmissing,
    hstale, hloop, -⟩ := (applyBuildSurfacePolicy_eq_ok hshape).mp h
  obtain ⟨rows, hsurface, -, hrows⟩ := surface_of_loop hkeys hdiscovered hdeclared hloop
  rw [keys_discovered hdiscovered, keys_declared hdeclared] at hmissing hstale
  refine ⟨hkeys, hkeys', fun key => ⟨hmissing key, hstale key⟩, fun c hc kind hkind r hr hkey => ?_⟩
  have hnodup := (hvalid r hr).2
  refine ⟨(sorted_scopes_iff hnodup).mp ?_, hnodup⟩
  obtain ⟨row, hrow, hrowKey, -⟩ := (hsurface.targets (c.key kind) c.bomRef).mpr ⟨c, hc, kind, hkind, rfl, rfl⟩
  obtain ⟨scopes, hmem, hmem', hscopes⟩ := hrows row hrow
  rw [hrowKey, ← Dict.get?_eq_some] at hmem hmem'
  have hfound : discovered.get? (c.key kind) = some (c.bomRef, sortedSet c.scopes) := by
    rw [Dict.get?_eq_some, hdiscovered, mem_entries]
    exact ⟨c, hc, kind, hkind, rfl, rfl, rfl⟩
  have hfound' : declared.get? (c.key kind) = some r.normalized := by
    rw [Dict.get?_eq_some, mem_declared hdeclared]
    exact ⟨r, hr, hkey, rfl⟩
  rw [hfound] at hmem
  rw [hfound'] at hmem'
  have hpair := congrArg Prod.snd (Option.some.inj hmem)
  rw [Option.some.inj hmem', hscopes]
  exact hpair.symm

/-- The fields of an inventory that the policy sets. -/
def sealedFields : List String :=
  ["reviewed_build_surface", "build_surface_policy_sha256", "inventory_sha256"]

theorem lookup_sealPayload {sbom : JsonDict} {policy : Json} {normalized : List Json} {field : String}
    (h : field ∉ sealedFields) :
    (sealPayload host sbom policy normalized).lookup field = sbom.lookup field := by
  simp only [sealedFields, List.mem_cons, List.not_mem_nil, or_false, not_or] at h
  obtain ⟨hreviewed, hpolicy, hinventory⟩ := h
  rw [sealPayload, Dict.lookup_setItem, if_neg hinventory, Dict.lookup_setItem, if_neg hpolicy,
    Dict.lookup_setItem, if_neg hreviewed, Dict.lookup_filter_ne _ _ _ hinventory]

theorem get_sealPayload (sbom : JsonDict) (policy : Json) (normalized : List Json) :
    get (sealPayload host sbom policy normalized) "reviewed_build_surface" = .list normalized := by
  rw [Value.get, sealPayload, Dict.lookup_setItem, if_neg (by decide), Dict.lookup_setItem,
    if_neg (by decide), Dict.lookup_setItem, if_pos rfl]
  rfl

end Match

/-- **Exact review coverage.** On an inventory and a policy of the required shape, the policy
is accepted if and only if every executable target is reviewed, once and in its scopes, and
nothing else is. The result lists each target once, in the order of the keys, under the
reference of its component, and keeps every other field. -/
theorem build_surface_exact {sbom : JsonDict} {policy : Json} {components : List SurfaceComponent}
    {records : List Record} (h : WellFormed host sbom policy components records) :
    ((∃ result, applyBuildSurfacePolicy host sbom policy = .ok result) ↔ Reviewed components records) ∧
    ∀ result, applyBuildSurfacePolicy host sbom policy = .ok result →
      (∃ rows, Surface components records rows ∧
        get result "reviewed_build_surface" = .list (rows.map fun row => row.record.bound row.bomRef)) ∧
      ∀ field, field ∉ sealedFields → result.lookup field = sbom.lookup field := by
  refine ⟨⟨fun hok => ?_, fun hreviewed => hreviewed.accepted h⟩, fun result hok => ?_⟩
  · obtain ⟨result, hok⟩ := hok
    exact reviewed_of_accepted h hok
  · obtain ⟨discovered, declared, normalized, ⟨hkeys, hdiscovered⟩, ⟨-, -, hdeclared⟩, -, -, hloop, rfl⟩ :=
      (applyBuildSurfacePolicy_eq_ok h).mp hok
    obtain ⟨rows, hsurface, rfl, -⟩ := surface_of_loop hkeys hdiscovered hdeclared hloop
    exact ⟨⟨rows, hsurface, get_sealPayload sbom policy _⟩, fun field hfield => lookup_sealPayload hfield⟩

section Samples

/-- A host that has one review document. -/
def reviewHost : Host where
  canonicalJson _ := ""
  compactJson _ := ""
  sha256 _ := ""
  tomlLoads _ := none
  repositoryPath _ := none
  isFile path := path == "docs/helper.md"
  isSymlink _ := false

def SurfaceComponent.json (c : SurfaceComponent) : Json :=
  .dict [("name", .str c.name), ("version", .str c.version), ("bom_ref", .str c.bomRef),
    ("scopes", .list (c.scopes.map .str)), ("target_kinds", .list c.targetKinds)]

theorem SurfaceComponent.describes_json {c : SurfaceComponent}
    (htexts : hasText c.name = true ∧ hasText c.version = true ∧ hasText c.bomRef = true)
    (hscopes : ∀ scope ∈ c.scopes, isScope scope = true) : c.Describes c.json :=
  ⟨⟨_, rfl, rfl, rfl, rfl, rfl, rfl⟩, htexts, hscopes⟩

def Record.json (r : Record) : Json :=
  .dict [("name", .str r.name), ("version", .str r.version), ("target_kind", .str r.targetKind),
    ("scopes", .list (r.scopes.map .str)), ("review_refs", .list (r.reviewRefs.map .str)),
    ("rationale", .str r.rationale)]

theorem Record.describes_json {r : Record}
    (htexts : hasText r.name = true ∧ hasText r.version = true ∧ hasText r.targetKind = true ∧
      hasText r.rationale = true) (hkind : r.targetKind ∈ executableKinds)
    (hscopes : r.scopes ≠ [] ∧ r.scopes.all hasText = true)
    (hreferences : r.reviewRefs ≠ [] ∧ r.reviewRefs.all hasText = true ∧ r.reviewRefs.Nodup)
    (hpresent : ∀ path ∈ r.reviewRefs,
      normalizePath path = .ok path ∧ host.isFile path = true ∧ host.isSymlink path = false) :
    r.Describes host r.json :=
  ⟨⟨_, rfl, rfl, rfl, rfl, rfl, rfl, rfl, rfl⟩, htexts, hkind, hscopes, hreferences, hpresent⟩

def macrosComponent : SurfaceComponent :=
  ⟨"macros", "2.0.0", "zrm-component:macros", ["root"], [.str "proc-macro"]⟩

def helperComponent : SurfaceComponent :=
  ⟨"helper", "1.0.0", "zrm-component:helper", ["fuzz", "root"], [.str "custom-build", .str "lib"]⟩

def helperRecord : Record :=
  ⟨"helper", "1.0.0", "custom-build", ["root", "fuzz"], ["docs/helper.md"], "Builds a table."⟩

def macrosRecord : Record :=
  ⟨"macros", "2.0.0", "proc-macro", ["root"], ["docs/helper.md"], "Derives a codec."⟩

/-- The components are not in the order of their keys, and the records in another order. -/
def helperSbom : JsonDict :=
  [("schema", .str sbomSchema), ("components", .list [macrosComponent.json, helperComponent.json])]

def helperPolicy : Json :=
  .dict [("schema", .str buildSurfacePolicySchema),
    ("components", .list [helperRecord.json, macrosRecord.json])]

theorem helper_wellFormed : WellFormed reviewHost helperSbom helperPolicy
    [macrosComponent, helperComponent] [helperRecord, macrosRecord] where
  schema := rfl
  components := by
    refine ⟨_, rfl, .cons ?_ (.cons ?_ .nil)⟩
    · exact SurfaceComponent.describes_json (by decide) (by decide)
    · exact SurfaceComponent.describes_json (by decide) (by decide)
  policy := by
    refine ⟨_, _, rfl, by decide, rfl, rfl, .cons ?_ (.cons ?_ .nil)⟩
    · exact Record.describes_json (by decide) (by decide) (by decide) (by decide) (by decide +kernel)
    · exact Record.describes_json (by decide) (by decide) (by decide) (by decide) (by decide +kernel)

theorem helper_reviewed :
    Reviewed [macrosComponent, helperComponent] [helperRecord, macrosRecord] where
  discovered := by decide
  declared := by decide
  same key := by
    show key ∈ [macrosComponent.key "proc-macro", helperComponent.key "custom-build"] ↔
      key ∈ [helperComponent.key "custom-build", macrosComponent.key "proc-macro"]
    rw [List.mem_pair, List.mem_pair, or_comm]
  scopes c hc kind hkind r hr hkey := by
    have hnames : r.name = c.name := congrArg (fun key => (ofLex key).1) hkey
    rcases List.mem_pair.mp hc with rfl | rfl <;> rcases List.mem_pair.mp hr with rfl | rfl
    · exact absurd hnames (by decide)
    · exact ⟨fun scope => Iff.rfl, by decide⟩
    · refine ⟨fun scope => ?_, by decide⟩
      show scope ∈ ["root", "fuzz"] ↔ scope ∈ ["fuzz", "root"]
      rw [List.mem_pair, List.mem_pair, or_comm]
    · exact absurd hnames (by decide)

/-- Two reviewed targets: both are listed, in the order of their keys. -/
theorem build_surface_exact_helper :
    ∃ result, applyBuildSurfacePolicy reviewHost helperSbom helperPolicy = .ok result ∧
      ∃ rows, Surface [macrosComponent, helperComponent] [helperRecord, macrosRecord] rows ∧
        get result "reviewed_build_surface" = .list (rows.map fun row => row.record.bound row.bomRef) := by
  obtain ⟨hiff, hresult⟩ := build_surface_exact helper_wellFormed
  obtain ⟨result, hok⟩ := hiff.mpr helper_reviewed
  exact ⟨result, hok, (hresult result hok).1⟩

end Samples

end Zrm.L6.Bom
