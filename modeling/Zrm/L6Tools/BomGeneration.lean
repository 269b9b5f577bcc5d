import Mathlib.Data.List.Pairwise
import Zrm.L6Tools.Cbom
import Zrm.L6Tools.SbomComplete

/-!
# The two inventories together (`tools/generate_bom.py`)

`main` builds the source inventory, applies the review of its build surface and binds the
registry of cryptographic components to the result.

* `generated_reports_close`: the references of the reports lead to the locked packages, and no
  package named after cryptography is left out.
-/
namespace Zrm.L6.Bom

open Result Value

/-- The inventory as `build_sbom` returns it, with its fingerprint. -/
def Sbom.document (r : Sbom) : JsonDict :=
  match r.payload with
  | .dict payload => payload ++ [("inventory_sha256", .str r.inventorySha256)]
  | _ => []

/-- What `main` writes, where it writes.
mirrors tools/generate_bom.py:126-150 -/
def generateBom (host : Host) (workspaces : List WorkspaceSnapshot) (buildSurface registry : Json) :
    Except Raised (JsonDict × JsonDict) := do
  let inventory ← buildSbom host workspaces
  let sbom ← applyBuildSurfacePolicy host inventory.document buildSurface
  let cbom ← buildCbom host registry sbom
  pure (sbom, cbom)

variable {host : Host}

theorem Sbom.get_components (r : Sbom) : get r.document "components" = .list (r.components.map Component.json) :=
  rfl

/-- The policy keeps the components. -/
theorem get_components_of_policy {sbom result : JsonDict} {policy : Json}
    (h : applyBuildSurfacePolicy host sbom policy = .ok result) :
    get result "components" = get sbom "components" := by
  unfold applyBuildSurfacePolicy at h
  dsimp only at h
  split at h
  · simp only [bind_eq_ok] at h
    obtain ⟨_, _, _, _, _, _, discovered, -, declared, -, _, -, _, -, normalized, -, h⟩ := h
    cases h
    rw [Value.get, Value.get, lookup_sealPayload (by decide)]
  · cases h
  · cases h

/-- The package that a component is. -/
def Component.package (c : Component) : Package := ⟨c.name, c.version, c.bomRef⟩

theorem eq_package_of_describes {c : Component} {p : Package} (h : p.Describes c.json) : p = c.package := by
  obtain ⟨d, hd, ⟨hname, -⟩, ⟨hversion, -⟩, hbomRef, -⟩ := h
  cases hd
  cases p
  cases Json.str.inj hname
  cases Json.str.inj hversion
  cases Json.str.inj hbomRef
  rfl

/-- What is read back from a document are the packages of its components. -/
theorem packages_eq {components : List Component} {packages : List Package}
    (h : List.Forall₂ (fun value (p : Package) => p.Describes value) (components.map Component.json) packages) :
    packages = components.map Component.package := by
  rw [List.forall₂_map_left_iff] at h
  induction h with
  | nil => rfl
  | cons hp _ ih => rw [List.map_cons, ← ih, ← eq_package_of_describes hp]

/-- An implementation is a package of the inventory, the only one of its key. -/
theorem RegistryOf.binds {packages : List Package} {registry : Json} {components : List CryptoComponent}
    (h : RegistryOf host packages registry components) {c : CryptoComponent} (hc : c ∈ components) {p : Package}
    (hp : p ∈ c.implementations) : packages.filter (fun q => q.key = p.key) = [p] := by
  obtain ⟨_, items, -, -, -, -, -, hrecords⟩ := h
  obtain ⟨_, -, c', _, -, hrecorded, -, rfl⟩ := exists_of_mem_right hrecords hc
  obtain ⟨_, -, -, hbound⟩ := hrecorded.implementations
  obtain ⟨_, -, _, -, -, -, -, hfound⟩ := exists_of_mem_right hbound hp
  exact hfound

theorem eq_of_common_domain {components : List CryptoComponent} (h : Apart components) {c c' : CryptoComponent}
    (hc : c ∈ components) (hc' : c' ∈ components) {domain : String} (hdomain : domain ∈ c.protocolDomains)
    (hdomain' : domain ∈ c'.protocolDomains) : c = c' := by
  have hsymm : Std.Symm (Function.onFun List.Disjoint CryptoComponent.protocolDomains) :=
    ⟨fun _ _ hdisjoint => hdisjoint.symm⟩
  by_contra hne
  exact (List.nodup_flatMap.mp h.2).2.forall hc hc' hne hdomain hdomain'

/-- **No reference hangs, no cryptography is left out.** Where both reports are made, each
implementation of a component is the one identity of its name and version among the packages
of the locked graphs, under the reference of that identity. Every package of a graph whose name
tells of cryptography implements a component, and a protocol domain belongs to one component. -/
theorem generated_reports_close {workspaces : List WorkspaceSnapshot} {buildSurface registry : Json}
    {sbom cbom : JsonDict} (h : generateBom host workspaces buildSurface registry = .ok (sbom, cbom)) :
    ∃ components fingerprint, get sbom "inventory_sha256" = .str fingerprint ∧
      cbom = cbomReport host registry fingerprint components ∧
      (∀ c ∈ components, ∀ p ∈ c.implementations,
        ∃ identity, (∃ s ∈ workspaces, ∃ id package node, Occurs host s identity id package node) ∧
          identity.name = p.name ∧ identity.version = p.version ∧ identity.bomRef = p.bomRef ∧
          ∀ identity', (∃ s ∈ workspaces, ∃ id package node, Occurs host s identity' id package node) →
            identity'.name = p.name → identity'.version = p.version → identity' = identity) ∧
      (∀ s ∈ workspaces, ∀ identity id package node, Occurs host s identity id package node →
        isCryptoName identity.name = true →
          ∃ c ∈ components, ∃ p ∈ c.implementations, p.bomRef = identity.bomRef) ∧
      ∀ c ∈ components, ∀ c' ∈ components, ∀ domain, domain ∈ c.protocolDomains →
        domain ∈ c'.protocolDomains → c = c' := by
  rw [generateBom, bind_eq_ok] at h
  obtain ⟨inventory, hinventory, h⟩ := h
  obtain ⟨reviewed, hreviewed, h⟩ := bind_eq_ok.mp h
  obtain ⟨report, hreport, h⟩ := bind_eq_ok.mp h
  cases h
  obtain ⟨-, -, cs, hcs, hamounts⟩ := buildSbom_eq_ok.mp hinventory
  have hcomplete := hamounts.complete (allRead hcs)
  obtain ⟨packages, components, fingerprint, hof, hregistry, hapart, howned, rfl⟩ := buildCbom_eq_ok.mp hreport
  obtain ⟨items, hitems, hpackages⟩ := hof.components
  rw [get_components_of_policy hreviewed, Sbom.get_components, Json.list.injEq] at hitems
  subst hitems
  obtain rfl := packages_eq hpackages
  refine ⟨components, fingerprint, hof.fingerprint.1, rfl, fun c hc p hp => ?_, ?_, fun c hc c' hc' domain =>
    eq_of_common_domain hapart hc hc'⟩
  · have hfound := hregistry.binds hc hp
    rw [List.filter_map, List.map_eq_singleton_iff] at hfound
    obtain ⟨component, hcomponent, rfl⟩ := hfound
    have hmem : component ∈ inventory.components.filter _ := hcomponent ▸ List.mem_singleton_self component
    refine ⟨component.toIdentity, (hcomplete.identities _).mp ⟨component, (List.mem_filter.mp hmem).1, rfl⟩, rfl,
      rfl, rfl, fun identity' hoccurs hname hversion => ?_⟩
    obtain ⟨component', hcomponent', rfl⟩ := (hcomplete.identities identity').mpr hoccurs
    have hmem' : component' ∈ [component] := by
      rw [← hcomponent, List.mem_filter]
      refine ⟨hcomponent', decide_eq_true ?_⟩
      show toLex (component'.name, component'.version) = toLex (component.name, component.version)
      rw [hname, hversion]
      rfl
    rw [List.mem_singleton.mp hmem']
  · intro s hs identity id package node hoccurs hcrypto
    obtain ⟨component, hcomponent, rfl⟩ := (hcomplete.identities identity).mpr ⟨s, hs, id, package, node, hoccurs⟩
    have hpackage : component.package ∈ inventory.components.map Component.package :=
      List.mem_map_of_mem hcomponent
    obtain ⟨c, hc, hkey⟩ := howned component.package hpackage hcrypto
    obtain ⟨p, hp, hkey⟩ := List.mem_map.mp hkey
    have hmem : component.package ∈ [p] := by
      rw [← hregistry.binds hc hp, List.mem_filter]
      exact ⟨hpackage, decide_eq_true hkey.symm⟩
    refine ⟨c, hc, p, hp, ?_⟩
    rw [← List.mem_singleton.mp hmem]
    rfl

section Samples

/-- A host whose files are all there. -/
def reviewedHost : Host := { cargoHost with canonicalJson := fun _ => "\x7b\x7d\n", isFile := fun _ => true }

def emptySurface : Json := .dict [("schema", .str buildSurfacePolicySchema), ("components", .list [])]

def sha2Record : Json :=
  .dict [("id", .str "ZRM-CRYPTO-001"), ("status", .str "implemented-reference"), ("primitive_type", .str "hash"),
    ("algorithm", .str "SHA-256"), ("parameter_set", .str "256-bit digest"),
    ("implementation_packages", .list [.dict [("name", .str "sha2"), ("version", .str "0.10.9")]]),
    ("protocol_domains", texts ["zrm.resource.v1"]), ("purposes", texts ["Derive identifiers."]),
    ("source_refs", texts ["Cargo.toml"]), ("test_refs", texts ["tests/vectors.rs"]),
    ("claimed_properties", texts ["Deterministic."]), ("non_claims", texts ["No privacy."])]

def sha2Registry : Json :=
  .dict [("schema", .str cryptographyRegistrySchema), ("components", .list [sha2Record])]

theorem samples_generated :
    err? (generateBom reviewedHost [rootSnapshot, fuzzSnapshot] emptySurface sha2Registry) = none := by
  decide +kernel

theorem generated_reports_close_sha2 : ∃ sbom cbom components fingerprint,
    generateBom reviewedHost [rootSnapshot, fuzzSnapshot] emptySurface sha2Registry = .ok (sbom, cbom) ∧
    cbom = cbomReport reviewedHost sha2Registry fingerprint components ∧
    ∀ s ∈ [rootSnapshot, fuzzSnapshot], ∀ identity id package node,
      Occurs reviewedHost s identity id package node → isCryptoName identity.name = true →
        ∃ c ∈ components, ∃ p ∈ c.implementations, p.bomRef = identity.bomRef := by
  obtain ⟨⟨sbom, cbom⟩, hgenerated⟩ := err?_eq_none.mp samples_generated
  obtain ⟨components, fingerprint, -, hcbom, -, howned, -⟩ := generated_reports_close hgenerated
  exact ⟨sbom, cbom, components, fingerprint, hgenerated, hcbom, howned⟩

end Samples

end Zrm.L6.Bom
