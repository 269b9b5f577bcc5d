import Mathlib.Data.Prod.Lex
import Zrm.Core.Dict
import Zrm.Core.Loops
import Zrm.Core.Regex
import Zrm.L6Tools.BuildSurface
import Zrm.L6Tools.Sbom

/-!
# The cryptographic inventory (`tools/bom_cbom.py`)

`build_cbom` reads a registry of cryptographic components and binds each implementation that
it names to the one package of the source inventory with that name and version.

* `buildCbom_eq_ok`: which registries are accepted for an inventory, and the report.
-/
namespace Zrm.L6.Bom

open Regex Result Value

/-! ## Names -/

def cryptographyRegistrySchema : String := "zrm/cryptography-registry/v1"
def cbomSchema : String := "zrm/cbom/v1"

def isDigit (c : Char) : Bool := '0' ≤ c && c ≤ '9'

/-- `CRYPTO_COMPONENT_ID.fullmatch(text) is not None` -/
def isCryptoId (text : String) : Bool :=
  let stem := "ZRM-CRYPTO-".toList
  stem.isPrefixOf text.toList && (text.toList.drop stem.length).length == 3 &&
    (text.toList.drop stem.length).all isDigit

/-- The words of the pattern, and whether digits may follow. -/
def cryptoWords : List (String × Bool) :=
  [("aead", false), ("blake", true), ("cipher", false), ("crypto", false), ("digest", false),
    ("ed25519", false), ("k256", false), ("keccak", false), ("openssl", false), ("p256", false),
    ("ring", false), ("rustls", false), ("secp", true), ("sha", true), ("signature", false)]

def isSeparator (c : Char) : Bool := c == '-' || c == '_'

/-- `(?:^|[-_])` -/
def wordStart : Re := .alt (.look fun before _ => before.isNone) (.set isSeparator)

def textEnd : Re := .look fun _ after => after.isNone

/-- `(?:$|[-_])`; `$` is the end of the text, or what is before its last newline. -/
def wordEnd : Re := .alt (.alt textEnd (.seq (.set (· == '\n')) textEnd)) (.set isSeparator)

def cryptoWord : String × Bool → Re
  | (word, false) => .word word.toList
  | (word, true) => .seq (.word word.toList) (.star (.set isDigit))

/-- A choice that matches nothing where there is none. -/
def anyOf (choices : List Re) : Re := choices.foldr .alt (.set fun _ => false)

/-- mirrors tools/bom_cbom.py:38-41 -/
def cryptoPackageName : Re := .seq wordStart (.seq (anyOf (cryptoWords.map cryptoWord)) wordEnd)

/-- `CRYPTO_PACKAGE_NAME.search(name) is not None` -/
def isCryptoName (name : String) : Bool := search name.toList cryptoPackageName

/-! ## Packages -/

/-- `(name, version)`, ordered as a tuple -/
abbrev PackageKey := String ×ₗ String

/-- What Python prints of a key. -/
def PackageKey.listed (key : PackageKey) : List String := [(ofLex key).1, (ofLex key).2]

/-- What the index keeps of a component of the source inventory. -/
structure Package where
  name : String
  version : String
  bomRef : String
  deriving DecidableEq

def Package.key (p : Package) : PackageKey := toLex (p.name, p.version)

/-- The loop body of `_sbom_index`. -/
def readPackage (component : Json) : Except Raised Package :=
  match component with
  | .dict d => do
    let name ← requireString (get d "name") "SBOM component name"
    let version ← requireString (get d "version") "SBOM component version"
    let bomRef ← requireString (get d "bom_ref") "SBOM component reference"
    pure ⟨name, version, bomRef⟩
  | _ => .error (bomError "SBOM component must be an object" [])

/-- The packages; those of one key, in their order, are what the index has under it.
mirrors tools/bom_cbom.py:111-122 -/
def sbomIndex (components : List Json) : Except Raised (List Package) := components.mapM readPackage

/-- The loop body of `_bind_implementations`. The packages that are bound are its `seen`, its
`normalized`, its `implementation_refs` and what it adds to `covered_packages`. -/
def bindImplementation (packages bound : List Package) (implementation : Json) :
    Except Raised (List Package) :=
  let inexact := bomError "cryptography implementation package needs exact name and version" []
  match implementation with
  | .dict d => do
    require (keysAre d ["name", "version"]) inexact
    let name ← requireString (get d "name") "implementation package name"
    let version ← requireString (get d "version") "implementation package version"
    let key : PackageKey := toLex (name, version)
    require (decide (key ∉ bound.map Package.key))
      (bomError "duplicate cryptography implementation package: " key.listed)
    match packages.filter fun p => p.key = key with
    | [package] => pure (bound ++ [package])
    | found => .error (bomError ("cryptography implementation " ++ name ++ " " ++ version ++ " has " ++
        toString found.length ++ " SBOM matches") [])
  | _ => .error inexact

/-- mirrors tools/bom_cbom.py:204-231 -/
def bindImplementations (packages : List Package) (implementations : List Json) :
    Except Raised (List Package) :=
  implementations.foldlM (bindImplementation packages) []

/-! ## Components -/

structure CryptoComponent where
  id : String
  status : String
  primitiveType : String
  algorithm : String
  parameterSet : String
  implementations : List Package
  protocolDomains : List String
  purposes : List String
  sourceRefs : List String
  testRefs : List String
  claimedProperties : List String
  nonClaims : List String
  deriving DecidableEq

def cryptoFields : List String :=
  ["id", "status", "primitive_type", "algorithm", "parameter_set", "implementation_packages",
    "protocol_domains", "purposes", "source_refs", "test_refs", "claimed_properties", "non_claims"]

def supportedStatuses : List String := ["implemented-reference", "implemented-tooling"]

def nonemptyList (value : Json) (raised : Raised) : Except Raised (List Json) :=
  match value with
  | .list [] => .error raised
  | .list items => .ok items
  | _ => .error raised

/-- The loop over the domains of one component. -/
def addDomain (seen : List String) (domain : String) : Except Raised (List String) :=
  if domain ∈ seen then .error (bomError ("duplicate cryptography protocol domain: " ++ domain) [])
  else .ok (seen ++ [domain])

/-- The loop body of `build_cbom`: `seen_ids`, `seen_domains` and `covered_packages` are those of
the components before.
mirrors tools/bom_cbom.py:125-201 -/
def normalizeComponent (host : Host) (packages : List Package) (seen : List CryptoComponent)
    (component : Json) : Except Raised (List CryptoComponent) :=
  let inexact := bomError "each cryptography component must contain the exact v1 fields" []
  match component with
  | .dict d => do
    require (keysAre d cryptoFields) inexact
    let id ← requireString (get d "id") "cryptography component ID"
    require (isCryptoId id) (bomError "invalid cryptography component ID: " [id])
    require (decide (id ∉ seen.map CryptoComponent.id))
      (bomError ("duplicate cryptography component ID: " ++ id) [])
    let status ← requireString (get d "status") "cryptography component status"
    require (supportedStatuses.contains status)
      (bomError ("unsupported cryptography component status: " ++ status) [])
    let implementations ← nonemptyList (get d "implementation_packages")
      (bomError "cryptography implementation_packages must be a nonempty list" [])
    let bound ← bindImplementations packages implementations
    let domains ← requireStringList (get d "protocol_domains") "cryptography protocol_domains"
    let _ ← domains.foldlM addDomain (seen.flatMap CryptoComponent.protocolDomains)
    let primitiveType ← requireString (get d "primitive_type") "cryptography primitive_type"
    let algorithm ← requireString (get d "algorithm") "cryptography algorithm"
    let parameterSet ← requireString (get d "parameter_set") "cryptography parameter_set"
    let purposes ← requireStringList (get d "purposes") "cryptography purposes"
    let sources ← requireStringList (get d "source_refs") "cryptography source_refs"
    let sourceRefs ← validateReferences host sources "cryptography source_refs"
    let tests ← requireStringList (get d "test_refs") "cryptography test_refs"
    let testRefs ← validateReferences host tests "cryptography test_refs"
    let claimedProperties ← requireStringList (get d "claimed_properties") "cryptography claimed_properties"
    let nonClaims ← requireStringList (get d "non_claims") "cryptography non_claims"
    pure (seen ++ [⟨id, status, primitiveType, algorithm, parameterSet, bound, domains, purposes, sourceRefs,
      testRefs, claimedProperties, nonClaims⟩])
  | _ => .error inexact

/-- A component of the report; its lists are sorted. -/
def CryptoComponent.json (c : CryptoComponent) : Json :=
  .dict [("id", .str c.id), ("status", .str c.status), ("primitive_type", .str c.primitiveType),
    ("algorithm", .str c.algorithm), ("parameter_set", .str c.parameterSet),
    ("implementation_packages", .list (((c.implementations.map Package.key).insertionSort (· ≤ ·)).map
      fun key => .dict [("name", .str (ofLex key).1), ("version", .str (ofLex key).2)])),
    ("implementation_component_refs", texts ((c.implementations.map Package.bomRef).insertionSort (· ≤ ·))),
    ("protocol_domains", texts (c.protocolDomains.insertionSort (· ≤ ·))),
    ("purposes", texts (c.purposes.insertionSort (· ≤ ·))), ("source_refs", texts c.sourceRefs),
    ("test_refs", texts c.testRefs),
    ("claimed_properties", texts (c.claimedProperties.insertionSort (· ≤ ·))),
    ("non_claims", texts (c.nonClaims.insertionSort (· ≤ ·)))]

/-! ## The report -/

def cbomNonClaims : List String :=
  ["registry completeness is bounded to recognizable Cargo packages and reviewed records",
    "the CBOM does not establish implementation correctness, key management, or side-channel resistance",
    "future proof systems, signatures, TLS, hardware, and operating-system cryptography need new records",
    "this report is not signed provenance, a security audit, or production authority"]

/-- `covered_packages` -/
def coveredPackages (components : List CryptoComponent) : List PackageKey :=
  (components.flatMap fun c => c.implementations.map Package.key).dedup

/-- mirrors tools/bom_cbom.py:83-108 -/
def cbomReport (host : Host) (registry : Json) (fingerprint : String) (components : List CryptoComponent) :
    JsonDict :=
  let payload : JsonDict :=
    [("schema", .str cbomSchema), ("inventory_kind", .str "ZRM-native cryptographic bill of materials"),
      ("source_sbom_inventory_sha256", .str fingerprint),
      ("components", .list ((components.insertionSort fun c c' => c.id ≤ c'.id).map CryptoComponent.json)),
      ("summary", .dict [("component_count", .int components.length),
        ("implementation_package_count", .int (coveredPackages components).length),
        ("protocol_domain_count", .int (components.flatMap CryptoComponent.protocolDomains).length)]),
      ("non_claims", texts cbomNonClaims),
      ("cryptography_registry_sha256", .str (host.fingerprint registry))]
  payload ++ [("inventory_sha256", .str (host.fingerprint (.dict payload)))]

/-- mirrors tools/bom_cbom.py:44-108 -/
def buildCbom (host : Host) (registry : Json) (sbom : JsonDict) : Except Raised JsonDict :=
  let inexact := bomError "cryptography registry must contain exactly schema and components" []
  match registry with
  | .dict r => do
    require (keysAre r ["schema", "components"]) inexact
    require ((get r "schema").eqStr cryptographyRegistrySchema)
      (bomError "unexpected cryptography registry schema" [])
    match get sbom "components" with
    | .list sbomComponents => do
      require ((get sbom "schema").eqStr sbomSchema) (bomError "CBOM generation requires a valid ZRM source SBOM" [])
      let packages ← sbomIndex sbomComponents
      let registryComponents ← nonemptyList (get r "components")
        (bomError "cryptography registry must contain at least one component" [])
      let components ← registryComponents.foldlM (normalizeComponent host packages) []
      let recognizable := (packages.filter fun p => isCryptoName p.name).map Package.key
      let uncovered := recognizable.filter fun key => !(coveredPackages components).contains key
      require uncovered.isEmpty (bomError "cryptography-named SBOM packages lack CBOM ownership: "
        ((uncovered.dedup.insertionSort (· ≤ ·)).flatMap PackageKey.listed))
      let fingerprint ← requireString (get sbom "inventory_sha256") "source SBOM inventory fingerprint"
      pure (cbomReport host registry fingerprint components)
    | _ => .error (bomError "CBOM generation requires a valid ZRM source SBOM" [])
  | _ => .error inexact

/-! ## What is read -/

variable {host : Host}

/-- The component of an inventory is this package. -/
def Package.Describes (p : Package) (value : Json) : Prop :=
  ∃ d, value = .dict d ∧ (get d "name" = .str p.name ∧ hasText p.name = true) ∧
    (get d "version" = .str p.version ∧ hasText p.version = true) ∧
    get d "bom_ref" = .str p.bomRef ∧ hasText p.bomRef = true

theorem readPackage_eq_ok {value : Json} {p : Package} : readPackage value = .ok p ↔ p.Describes value := by
  cases value with
  | dict d =>
    simp only [readPackage, bind_eq_ok, requireString_eq_ok, pure_eq, Except.ok.injEq]
    refine ⟨fun h => ?_, fun h => ?_⟩
    · obtain ⟨name, hname, version, hversion, bomRef, hbomRef, rfl⟩ := h
      exact ⟨d, rfl, hname, hversion, hbomRef⟩
    · obtain ⟨_, hd, hname, hversion, hbomRef⟩ := h
      cases hd
      exact ⟨p.name, hname, p.version, hversion, p.bomRef, hbomRef, rfl⟩
  | _ =>
    refine ⟨fun h => ?_, fun h => ?_⟩
    · cases h
    · obtain ⟨_, hd, -⟩ := h
      cases hd

/-- The value names this package, and the inventory has one of its name and version. -/
def Binds (packages : List Package) (value : Json) (p : Package) : Prop :=
  ∃ d, value = .dict d ∧ keysAre d ["name", "version"] = true ∧
    (get d "name" = .str p.name ∧ hasText p.name = true) ∧
    (get d "version" = .str p.version ∧ hasText p.version = true) ∧
    packages.filter (fun q => q.key = p.key) = [p]

theorem bindImplementation_eq_ok {packages bound bound' : List Package} {value : Json} :
    bindImplementation packages bound value = .ok bound' ↔
      ∃ p, Binds packages value p ∧ p.key ∉ bound.map Package.key ∧ bound' = bound ++ [p] := by
  cases value with
  | dict d =>
    rw [bindImplementation, unit_bind_eq_ok, require_eq_ok]
    simp only [bind_eq_ok, requireString_eq_ok]
    refine ⟨fun h => ?_, fun h => ?_⟩
    · obtain ⟨hkeys, name, hname, version, hversion, _, hnew, h⟩ := h
      rw [require_eq_ok, decide_eq_true_eq] at hnew
      split at h
      · rename_i p hfound
        cases h
        have hmem : p ∈ packages.filter fun q => q.key = toLex (name, version) := by
          rw [hfound]
          exact List.mem_cons_self
        have hkey : p.key = toLex (name, version) := of_decide_eq_true (List.mem_filter.mp hmem).2
        obtain ⟨rfl, rfl⟩ := Prod.mk.inj (toLex.injective hkey)
        exact ⟨p, ⟨d, rfl, hkeys, hname, hversion, hfound⟩, hnew, rfl⟩
      · cases h
    · obtain ⟨p, ⟨_, hd, hkeys, hname, hversion, hfound⟩, hnew, rfl⟩ := h
      cases hd
      refine ⟨hkeys, p.name, hname, p.version, hversion, (), require_eq_ok.mpr (decide_eq_true hnew), ?_⟩
      rw [Package.key] at hfound
      rw [hfound]
      rfl
  | _ =>
    refine ⟨fun h => ?_, fun h => ?_⟩
    · cases h
    · obtain ⟨_, ⟨_, hd, -⟩, -⟩ := h
      cases hd

theorem nodup_map_append_singleton {α κ : Type} {f : α → κ} {l : List α} {a : α} (h : (l.map f).Nodup) :
    ((l ++ [a]).map f).Nodup ↔ f a ∉ l.map f := by
  rw [List.map_append, List.map_singleton, ← List.concat_eq_append, List.nodup_concat]
  exact and_iff_left h

theorem bindImplementations_eq_ok {packages bound : List Package} {items : List Json} :
    bindImplementations packages items = .ok bound ↔
      List.Forall₂ (Binds packages) items bound ∧ (bound.map Package.key).Nodup := by
  have hrun : items.foldlM (bindImplementation packages) [] = .ok bound ↔ ∃ found,
      List.Forall₂ (Binds packages) items found ∧ (([] ++ found).map Package.key).Nodup ∧ bound = [] ++ found :=
    foldlM_grows (P := fun l => (l.map Package.key).Nodup)
      (fun seen value seen' hseen => by simp only [bindImplementation_eq_ok, nodup_map_append_singleton hseen])
      (fun first rest h => (List.nodup_append.mp (List.map_append ▸ h)).1) .nil
  rw [bindImplementations, hrun]
  simp

theorem addDomains_eq_ok {seen domains seen' : List String} (h : seen.Nodup) :
    domains.foldlM addDomain seen = .ok seen' ↔ (seen ++ domains).Nodup ∧ seen' = seen ++ domains := by
  have hrun : domains.foldlM addDomain seen = .ok seen' ↔ ∃ found,
      List.Forall₂ (fun a b => a = b) domains found ∧ (seen ++ found).Nodup ∧ seen' = seen ++ found :=
    foldlM_grows
      (fun seen domain seen' hseen => by
        have hnew := nodup_map_append_singleton (f := id) (a := domain) (by rwa [List.map_id])
        rw [List.map_id, List.map_id] at hnew
        rw [addDomain]
        split <;> simp_all [eq_comm])
      (fun first rest h => (List.nodup_append.mp h).1) h
  rw [hrun]
  simp [List.forall₂_eq_eq_eq]

/-- References as the check wants them. -/
def References (host : Host) (references : List String) : Prop :=
  references.Nodup ∧ ∀ path ∈ references,
    normalizePath path = .ok path ∧ host.isFile path = true ∧ host.isSymlink path = false

theorem normalizePath_eq {path path' : String} (h : normalizePath path = .ok path') : path' = path := by
  rw [normalizePath] at h
  split at h
  · cases h
  · dsimp only at h
    split at h
    · cases h
    · exact (Except.ok.inj h).symm

theorem validateReference_eq_ok {field path path' : String} : validateReference host field path = .ok path' ↔
    (normalizePath path = .ok path ∧ host.isFile path = true ∧ host.isSymlink path = false) ∧ path' = path := by
  rw [validateReference, bind_eq_ok]
  simp only [unit_bind_eq_ok, require_eq_ok, Bool.not_eq_true', pure_eq, Except.ok.injEq]
  refine ⟨fun h => ?_, fun h => ?_⟩
  · obtain ⟨_, hnormal, hfile, hlink, rfl⟩ := h
    obtain rfl := normalizePath_eq hnormal
    exact ⟨⟨hnormal, hfile, hlink⟩, rfl⟩
  · obtain ⟨⟨hnormal, hfile, hlink⟩, rfl⟩ := h
    exact ⟨_, hnormal, hfile, hlink, rfl⟩

theorem validateReferences_eq_ok {references result : List String} {field : String} :
    validateReferences host references field = .ok result ↔
      References host references ∧ result = references.insertionSort (· ≤ ·) := by
  refine ⟨fun h => ?_, fun h => ?_⟩
  · rw [validateReferences, bind_eq_ok] at h
    obtain ⟨normalized, hnormalized, h⟩ := h
    have hall := mapM_eq_ok.mp hnormalized
    obtain rfl : references = normalized := by
      rw [← List.forall₂_eq_eq_eq]
      exact hall.imp fun _ _ hpath => (validateReference_eq_ok.mp hpath).2.symm
    rw [unit_bind_eq_ok, require_eq_ok, decide_eq_true_eq] at h
    obtain ⟨hnodup, hresult⟩ := h
    refine ⟨⟨hnodup, fun path hpath => ?_⟩, (Except.ok.inj hresult).symm⟩
    exact (validateReference_eq_ok.mp (List.forall₂_same.mp hall path hpath)).1
  · obtain ⟨⟨hnodup, hpresent⟩, rfl⟩ := h
    exact validateReferences_eq hnodup hpresent

theorem nonemptyList_eq_ok {value : Json} {raised : Raised} {items : List Json} :
    nonemptyList value raised = .ok items ↔ value = .list items ∧ items ≠ [] := by
  cases value with
  | list l =>
    cases l with
    | nil =>
      refine ⟨fun h => ?_, fun h => ?_⟩
      · cases h
      · exact absurd (Json.list.inj h.1).symm h.2
    | cons item l =>
      refine ⟨fun h => ?_, fun h => ?_⟩
      · cases h
        exact ⟨rfl, List.cons_ne_nil _ _⟩
      · cases h.1
        rfl
  | _ =>
    refine ⟨fun h => ?_, fun h => ?_⟩
    · cases h
    · cases h.1

/-! ## A component of the registry -/

/-- A nonempty list of texts. -/
def AreTexts (l : List String) : Prop := l ≠ [] ∧ l.all hasText = true

/-- The members of the record of a component. -/
structure CryptoComponent.RecordedAs (packages : List Package) (c : CryptoComponent) (d : JsonDict) : Prop where
  fields : keysAre d cryptoFields = true
  id : get d "id" = .str c.id
  status : get d "status" = .str c.status
  primitiveType : get d "primitive_type" = .str c.primitiveType
  algorithm : get d "algorithm" = .str c.algorithm
  parameterSet : get d "parameter_set" = .str c.parameterSet
  implementations : ∃ items, get d "implementation_packages" = .list items ∧ items ≠ [] ∧
    List.Forall₂ (Binds packages) items c.implementations
  protocolDomains : get d "protocol_domains" = .list (c.protocolDomains.map .str)
  purposes : get d "purposes" = .list (c.purposes.map .str)
  sourceRefs : get d "source_refs" = .list (c.sourceRefs.map .str)
  testRefs : get d "test_refs" = .list (c.testRefs.map .str)
  claimedProperties : get d "claimed_properties" = .list (c.claimedProperties.map .str)
  nonClaims : get d "non_claims" = .list (c.nonClaims.map .str)

/-- What is asked of a component by itself. -/
structure CryptoComponent.Valid (host : Host) (c : CryptoComponent) : Prop where
  id : hasText c.id = true ∧ isCryptoId c.id = true
  status : hasText c.status = true ∧ c.status ∈ supportedStatuses
  texts : hasText c.primitiveType = true ∧ hasText c.algorithm = true ∧ hasText c.parameterSet = true
  implementations : (c.implementations.map Package.key).Nodup
  lists : AreTexts c.protocolDomains ∧ AreTexts c.purposes ∧ AreTexts c.claimedProperties ∧ AreTexts c.nonClaims
  sourceRefs : AreTexts c.sourceRefs ∧ References host c.sourceRefs
  testRefs : AreTexts c.testRefs ∧ References host c.testRefs

/-- The component as the report keeps it. -/
def CryptoComponent.normalized (c : CryptoComponent) : CryptoComponent :=
  { c with sourceRefs := c.sourceRefs.insertionSort (· ≤ ·), testRefs := c.testRefs.insertionSort (· ≤ ·) }

/-- The value records a valid component, which the report keeps as `kept`. -/
def Records (host : Host) (packages : List Package) (value : Json) (kept : CryptoComponent) : Prop :=
  ∃ (c : CryptoComponent) (d : JsonDict), value = .dict d ∧ c.RecordedAs packages d ∧ c.Valid host ∧ kept = c.normalized

/-- No id and no domain is given twice. -/
def Apart (components : List CryptoComponent) : Prop :=
  (components.map CryptoComponent.id).Nodup ∧ (components.flatMap CryptoComponent.protocolDomains).Nodup

theorem apart_nil : Apart [] := ⟨List.nodup_nil, List.nodup_nil⟩

theorem normalizeComponent_eq_ok {packages : List Package} {seen seen' : List CryptoComponent} {value : Json}
    (hseen : Apart seen) : normalizeComponent host packages seen value = .ok seen' ↔
      ∃ kept, Records host packages value kept ∧ Apart (seen ++ [kept]) ∧ seen' = seen ++ [kept] := by
  have hapart : ∀ kept, Apart (seen ++ [kept]) ↔ kept.id ∉ seen.map CryptoComponent.id ∧
      (seen.flatMap CryptoComponent.protocolDomains ++ kept.protocolDomains).Nodup := by
    intro kept
    rw [Apart, nodup_map_append_singleton hseen.1, List.flatMap_append, List.flatMap_singleton]
  cases value with
  | dict d =>
    simp only [normalizeComponent, bind_eq_ok, requireString_eq_ok, nonemptyList_eq_ok,
      bindImplementations_eq_ok, requireStringList_eq_ok, addDomains_eq_ok hseen.2, validateReferences_eq_ok,
      pure_eq, Except.ok.injEq, hapart]
    refine ⟨fun h => ?_, fun h => ?_⟩
    · obtain ⟨_, hfields, id, hid, _, hidForm, _, hnew, status, hstatus, _, hsupported, items, hitems, bound,
        hbound, domains, hdomains, _, hdomainsNew, primitiveType, hprimitive, algorithm, halgorithm, parameterSet,
        hparameter, purposes, hpurposes, sources, hsources, _, hsourceRefs, tests, htests, _, htestRefs, claimed,
        hclaimed, nonClaims, hnonClaims, rfl⟩ := h
      rw [require_eq_ok] at hfields hidForm hnew hsupported
      refine ⟨_, ⟨⟨id, status, primitiveType, algorithm, parameterSet, bound, domains, purposes, sources, tests,
        claimed, nonClaims⟩, d, rfl, ?_, ?_, rfl⟩, ⟨of_decide_eq_true hnew, hdomainsNew.1⟩, ?_⟩
      · exact ⟨hfields, hid.1, hstatus.1, hprimitive.1, halgorithm.1, hparameter.1, ⟨items, hitems.1, hitems.2,
          hbound.1⟩, hdomains.1, hpurposes.1, hsources.1, htests.1, hclaimed.1, hnonClaims.1⟩
      · exact ⟨⟨hid.2, hidForm⟩, ⟨hstatus.2, List.contains_iff_mem.mp hsupported⟩,
          ⟨hprimitive.2, halgorithm.2, hparameter.2⟩, hbound.2,
          ⟨hdomains.2, hpurposes.2, hclaimed.2, hnonClaims.2⟩, ⟨hsources.2, hsourceRefs.1⟩,
          ⟨htests.2, htestRefs.1⟩⟩
      · rw [CryptoComponent.normalized, hsourceRefs.2, htestRefs.2]
    · obtain ⟨_, ⟨c, _, hd, hrecorded, hvalid, rfl⟩, ⟨hnew, hdomainsNew⟩, rfl⟩ := h
      cases hd
      obtain ⟨items, hitems, hne, hbound⟩ := hrecorded.implementations
      refine ⟨(), require_eq_ok.mpr hrecorded.fields, c.id, ⟨hrecorded.id, hvalid.id.1⟩, (),
        require_eq_ok.mpr hvalid.id.2, (), require_eq_ok.mpr (decide_eq_true hnew), c.status,
        ⟨hrecorded.status, hvalid.status.1⟩, (), require_eq_ok.mpr (List.contains_iff_mem.mpr hvalid.status.2),
        items, ⟨hitems, hne⟩, c.implementations, ⟨hbound, hvalid.implementations⟩, c.protocolDomains,
        ⟨hrecorded.protocolDomains, hvalid.lists.1⟩, _, ⟨hdomainsNew, rfl⟩, c.primitiveType,
        ⟨hrecorded.primitiveType, hvalid.texts.1⟩, c.algorithm, ⟨hrecorded.algorithm, hvalid.texts.2.1⟩,
        c.parameterSet, ⟨hrecorded.parameterSet, hvalid.texts.2.2⟩, c.purposes,
        ⟨hrecorded.purposes, hvalid.lists.2.1⟩, c.sourceRefs, ⟨hrecorded.sourceRefs, hvalid.sourceRefs.1⟩, _,
        ⟨hvalid.sourceRefs.2, rfl⟩, c.testRefs, ⟨hrecorded.testRefs, hvalid.testRefs.1⟩, _,
        ⟨hvalid.testRefs.2, rfl⟩, c.claimedProperties,
        ⟨hrecorded.claimedProperties, hvalid.lists.2.2.1⟩, c.nonClaims,
        ⟨hrecorded.nonClaims, hvalid.lists.2.2.2⟩, rfl⟩
  | _ =>
    refine ⟨fun h => ?_, fun h => ?_⟩
    · cases h
    · obtain ⟨_, ⟨_, _, hd, -⟩, -⟩ := h
      cases hd

/-! ## The registry as a whole -/

/-- The inventory has these packages and this fingerprint. -/
structure InventoryOf (sbom : JsonDict) (packages : List Package) (fingerprint : String) : Prop where
  schema : get sbom "schema" = .str sbomSchema
  components : ∃ items, get sbom "components" = .list items ∧
    List.Forall₂ (fun value (p : Package) => p.Describes value) items packages
  fingerprint : get sbom "inventory_sha256" = .str fingerprint ∧ hasText fingerprint = true

/-- The registry records these components. -/
def RegistryOf (host : Host) (packages : List Package) (registry : Json) (components : List CryptoComponent) :
    Prop :=
  ∃ r items, registry = .dict r ∧ keysAre r ["schema", "components"] = true ∧
    get r "schema" = .str cryptographyRegistrySchema ∧ get r "components" = .list items ∧ items ≠ [] ∧
    List.Forall₂ (Records host packages) items components

/-- Every package whose name tells of cryptography implements a component. -/
def Owned (packages : List Package) (components : List CryptoComponent) : Prop :=
  ∀ p ∈ packages, isCryptoName p.name = true →
    ∃ c ∈ components, p.key ∈ c.implementations.map Package.key

theorem normalizeComponents_eq_ok {packages : List Package} {items : List Json}
    {components : List CryptoComponent} : items.foldlM (normalizeComponent host packages) [] = .ok components ↔
      List.Forall₂ (Records host packages) items components ∧ Apart components := by
  have hrun : items.foldlM (normalizeComponent host packages) [] = .ok components ↔ ∃ found,
      List.Forall₂ (Records host packages) items found ∧ Apart ([] ++ found) ∧ components = [] ++ found :=
    foldlM_grows (R := Records host packages) (P := Apart) (fun _ _ _ hseen => normalizeComponent_eq_ok hseen)
      (fun first rest h => by
        rw [Apart, List.map_append, List.flatMap_append] at h
        exact ⟨(List.nodup_append.mp h.1).1, (List.nodup_append.mp h.2).1⟩)
      apart_nil
  rw [hrun]
  simp

theorem owned_iff {packages : List Package} {components : List CryptoComponent} :
    ((((packages.filter fun p => isCryptoName p.name).map Package.key).filter fun key =>
      !(coveredPackages components).contains key).isEmpty = true) ↔ Owned packages components := by
  simp only [List.isEmpty_iff, List.filter_eq_nil_iff, List.forall_mem_map, List.mem_filter, Bool.not_eq_true',
    Bool.not_eq_false, List.contains_iff_mem, coveredPackages, List.mem_dedup, List.mem_flatMap, and_imp]
  rfl

/-- The report is made if and only if the inventory and the registry are well formed, no id and
no domain is given twice, and every package named after cryptography is owned. -/
theorem buildCbom_eq_ok {registry : Json} {sbom report : JsonDict} : buildCbom host registry sbom = .ok report ↔
    ∃ packages components fingerprint, InventoryOf sbom packages fingerprint ∧
      RegistryOf host packages registry components ∧ Apart components ∧ Owned packages components ∧
      report = cbomReport host registry fingerprint components := by
  cases registry with
  | dict r =>
    rw [buildCbom, unit_bind_eq_ok, require_eq_ok, unit_bind_eq_ok, require_eq_ok, eqStr_iff]
    cases hcomponents : get sbom "components" with
    | list sbomItems =>
      simp only [unit_bind_eq_ok, require_eq_ok, eqStr_iff]
      rw [bind_eq_ok]
      simp only [sbomIndex, mapM_eq_ok, readPackage_eq_ok, bind_eq_ok, nonemptyList_eq_ok,
        normalizeComponents_eq_ok, requireString_eq_ok, pure_eq, Except.ok.injEq]
      refine ⟨fun h => ?_, fun h => ?_⟩
      · obtain ⟨hkeys, hschema, hsbom, packages, hpackages, items, ⟨hitems, hne⟩, components,
          ⟨hrecords, hapart⟩, _, hcovered, fingerprint, hfingerprint, rfl⟩ := h
        rw [require_eq_ok, owned_iff] at hcovered
        exact ⟨packages, components, fingerprint, ⟨hsbom, ⟨sbomItems, hcomponents, hpackages⟩, hfingerprint⟩,
          ⟨r, items, rfl, hkeys, hschema, hitems, hne, hrecords⟩, hapart, hcovered, rfl⟩
      · obtain ⟨packages, components, fingerprint, hinventory, ⟨_, items, hr, hkeys, hschema, hitems, hne,
          hrecords⟩, hapart, howned, rfl⟩ := h
        cases hr
        obtain ⟨hsbom, ⟨sbomItems', hsbomItems, hpackages⟩, hfingerprint⟩ := hinventory
        obtain rfl := Json.list.inj (hcomponents.symm.trans hsbomItems)
        exact ⟨hkeys, hschema, hsbom, packages, hpackages, items, ⟨hitems, hne⟩, components,
          ⟨hrecords, hapart⟩, (), require_eq_ok.mpr (owned_iff.mpr howned), fingerprint, hfingerprint, rfl⟩
    | _ =>
      refine iff_of_false (fun h => ?_) fun h => ?_
      · cases h.2.2
      · obtain ⟨_, _, _, hinventory, -⟩ := h
        obtain ⟨items, hitems, -⟩ := hinventory.components
        rw [hcomponents] at hitems
        cases hitems
  | _ =>
    refine iff_of_false (fun h => ?_) fun h => ?_
    · cases h
    · obtain ⟨_, _, _, -, ⟨_, _, hr, -⟩, -⟩ := h
      cases hr

end Zrm.L6.Bom
