import Zrm.L6Tools.SbomReading

/-!
# The errors of the inventory

`build_sbom` subscripts dictionaries whose keys it has compared before, so that whatever it
raises is a `BomError`.

* `buildSbom_checked`: no call ends with another exception.
-/
namespace Zrm.L6.Bom

open Placement Result Value

/-- A call that raises nothing but a `BomError`. -/
def Checked {α : Type} (x : Except Raised α) : Prop := ∀ e, x = .error e → e.type = .checkFailed

section Rules

variable {α β σ : Type}

theorem checked_ok (a : α) : Checked (.ok a) := nofun

theorem checked_bomError (text : String) (listed : List String) :
    Checked (.error (bomError text listed) : Except Raised α) := by
  intro e h
  cases h
  rfl

theorem checked_require (condition : Bool) (text : String) (listed : List String) :
    Checked (require condition (bomError text listed)) := by
  cases condition with
  | true => exact checked_ok ()
  | false => exact checked_bomError text listed

/-- The second call is only made on what the first one returned. -/
theorem Checked.bind {x : Except Raised α} {f : α → Except Raised β} (hx : Checked x)
    (hf : ∀ a, x = .ok a → Checked (f a)) : Checked (x >>= f) := by
  cases x with
  | ok a => exact hf a rfl
  | error e =>
    intro e' h
    cases h
    exact hx e rfl

theorem checked_mapM {f : α → Except Raised β} {l : List α} (h : ∀ a ∈ l, Checked (f a)) :
    Checked (l.mapM f) := by
  induction l with
  | nil => exact checked_ok []
  | cons a l ih =>
    obtain ⟨ha, hl⟩ := List.forall_mem_cons.mp h
    rw [List.mapM_cons]
    exact ha.bind fun _ _ => (ih hl).bind fun _ _ => checked_ok _

theorem checked_foldlM {f : σ → α → Except Raised σ} {l : List α} (h : ∀ a ∈ l, ∀ s, Checked (f s a)) (s : σ) :
    Checked (l.foldlM f s) := by
  induction l generalizing s with
  | nil => exact checked_ok s
  | cons a l ih =>
    obtain ⟨ha, hl⟩ := List.forall_mem_cons.mp h
    rw [List.foldlM_cons]
    exact (ha s).bind fun t _ => ih hl t

theorem checked_forM {f : α → Except Raised Unit} {l : List α} (h : ∀ a, Checked (f a)) : Checked (l.forM f) := by
  induction l with
  | nil => exact checked_ok ()
  | cons a l ih => exact (h a).bind fun _ _ => ih

end Rules

/-! ## The checks -/

theorem checked_normalizePath (path : String) : Checked (normalizePath path) := by
  unfold normalizePath
  split
  · exact checked_bomError _ _
  · dsimp only
    split
    · exact checked_bomError _ _
    · exact checked_ok path

theorem checked_requireString (value : Json) (field : String) : Checked (requireString value field) := by
  cases value with
  | str s =>
    rw [requireString]
    split
    · exact checked_ok s
    · exact checked_bomError _ _
  | _ => exact checked_bomError _ _

theorem checked_insertNew {κ ν : Type} [DecidableEq κ] {raise : κ → Raised} (h : ∀ k, (raise k).type = .checkFailed)
    (d : Dict κ ν) (x : κ × ν) : Checked (Dict.insertNew raise d x) := by
  rw [Dict.insertNew]
  split
  · intro e he
    cases he
    exact h x.1
  · exact checked_ok _

theorem checked_withId (value : Json) (what field : String) : Checked (withId value what field) := by
  cases value with
  | dict d => exact (checked_requireString _ _).bind fun _ _ => checked_ok _
  | _ => exact checked_bomError _ _

variable {host : Host} {s : WorkspaceSnapshot}

theorem checked_lockPackage (scope : String) (checksums : Dict LockKey String) (package : Json) :
    Checked (lockPackage scope checksums package) := by
  cases package with
  | dict d =>
    simp only [lockPackage]
    split
    · exact checked_ok checksums
    · refine (checked_requireString _ _).bind fun _ _ => (checked_requireString _ _).bind fun _ _ =>
        (checked_requireString _ _).bind fun _ _ => ?_
      split
      · exact (checked_require _ _ _).bind fun _ _ => checked_insertNew (fun _ => rfl) _ _
      · exact checked_bomError _ _
  | _ => exact checked_bomError _ _

theorem checked_lockChecksums : Checked (lockChecksums host s) := by
  refine (checked_require _ _ _).bind fun _ _ => ?_
  split
  · exact checked_bomError _ _
  · split
    · exact checked_foldlM (fun package _ checksums => checked_lockPackage s.scope checksums package) _
    · exact checked_bomError _ _

theorem checked_metadataLists : Checked (metadataLists s) := by
  rw [metadataLists]
  split
  · split
    · split
      · split
        · split
          · exact checked_ok _
          · exact checked_bomError _ _
        · exact checked_bomError _ _
      · exact checked_bomError _ _
    · exact checked_bomError _ _
  · exact checked_bomError _ _

theorem checked_snapshotPackages : Checked (snapshotPackages s) := by
  have hfill : ∀ (read : Json → Except Raised (String × JsonDict)) (what : String) (values : List Json),
      (∀ value, Checked (read value)) → Checked (values.foldlM (fun map value => do
        let entry ← read value
        Dict.insertNew (fun id => bomError (what ++ id) []) map entry) (Dict.empty : Dict String JsonDict)) := by
    intro read what values hread
    apply checked_foldlM
    intro value _ map
    exact (hread value).bind fun _ _ => checked_insertNew (fun _ => rfl) _ _
  rw [snapshotPackages]
  refine (checked_require _ _ _).bind fun _ _ => (checked_normalizePath _).bind fun _ _ =>
    (checked_normalizePath _).bind fun _ _ => checked_metadataLists.bind fun lists _ => ?_
  refine (hfill packageEntry _ _ fun _ => checked_withId _ _ _).bind fun packageMap _ => ?_
  refine (hfill nodeEntry _ _ fun _ => checked_withId _ _ _).bind fun nodeMap _ => ?_
  refine (checked_require _ _ _).bind fun _ _ => ?_
  refine (checked_mapM fun _ _ => checked_requireString _ _).bind fun members _ => ?_
  exact (checked_require _ _ _).bind fun _ _ => checked_ok _

/-! ## The packages -/

theorem checked_packageChecksum (checksums : Dict LockKey String) (package : JsonDict) :
    Checked (packageChecksum checksums package) := by
  refine (checked_requireString _ _).bind fun _ _ => (checked_requireString _ _).bind fun _ _ => ?_
  split
  · exact checked_ok none
  · exact (checked_requireString _ _).bind fun _ _ => checked_ok _

theorem checked_componentIdentity (package : JsonDict) (checksum : Option String) :
    Checked (componentIdentity host package checksum) := by
  refine (checked_requireString _ _).bind fun _ _ => (checked_requireString _ _).bind fun _ _ => ?_
  split
  · split
    · exact checked_ok _
    · exact checked_bomError _ _
  · exact (checked_requireString _ _).bind fun _ _ => (checked_require _ _ _).bind fun _ _ =>
      (checked_require _ _ _).bind fun _ _ => checked_ok _

theorem checked_nodeFeatures (id : String) (node : JsonDict) : Checked (nodeFeatures id node) := by
  rw [nodeFeatures]
  split
  · split
    · exact checked_ok _
    · exact checked_bomError _ _
  · exact checked_bomError _ _

theorem checked_packageLicense (id : String) (package : JsonDict) : Checked (packageLicense id package) := by
  rw [packageLicense]
  split
  · exact checked_ok none
  · exact checked_ok _
  · exact checked_bomError _ _

theorem checked_kindsOfTarget (target : Json) : Checked (kindsOfTarget target) := by
  cases target with
  | dict t =>
    simp only [kindsOfTarget]
    split
    · exact checked_mapM fun _ _ => checked_requireString _ _
    · exact checked_bomError _ _
  | _ => exact checked_bomError _ _

theorem checked_targetKinds (package : JsonDict) : Checked (targetKinds package) := by
  rw [targetKinds]
  split
  · exact checked_bomError _ _
  · exact (checked_mapM fun target _ => checked_kindsOfTarget target).bind fun _ _ => checked_ok _
  · exact checked_bomError _ _

theorem checked_lookupKey {ν : Type} {d : Dict String ν} {key : String} (h : key ∈ d.keys) :
    Checked (lookupKey d key) := by
  obtain ⟨value, hvalue⟩ := Dict.mem_keys_iff.mp h
  rw [lookupKey_eq_ok.mpr hvalue]
  exact checked_ok value

theorem checked_mergeComponent (components : Dict String Component) (c : Component) (scope : String) :
    Checked (mergeComponent components c scope) := by
  rw [mergeComponent]
  split
  · exact checked_ok _
  · exact (checked_forM fun _ => checked_require _ _ _).bind fun _ _ => checked_ok _

theorem checked_registerPackage {checksums : Dict LockKey String} {packages : SnapshotPackages}
    {entry : String × JsonDict} (h : entry.1 ∈ packages.nodeMap.keys) (r : Registration) :
    Checked (registerPackage host s checksums packages r entry) := by
  have hcandidate : ∀ checksum identity, Checked (candidateOf s packages entry checksum identity) := by
    intro checksum identity
    exact (checked_lookupKey h).bind fun _ _ => (checked_nodeFeatures _ _).bind fun _ _ =>
      (checked_packageLicense _ _).bind fun _ _ => (checked_targetKinds _).bind fun _ _ => checked_ok _
  exact (checked_packageChecksum _ _).bind fun _ _ => (checked_componentIdentity _ _).bind fun _ _ =>
    (checked_require _ _ _).bind fun _ _ => (hcandidate _ _).bind fun _ _ =>
    (checked_mergeComponent _ _ _).bind fun _ _ => checked_ok _

/-! ## The edges -/

theorem checked_dependencyKind (value : Json) : Checked (dependencyKind value) := by
  have hkind : ∀ kind, Checked (normalizedKind kind) := by
    intro kind
    unfold normalizedKind
    split
    · exact checked_ok _
    · exact checked_requireString _ _
  have hcondition : ∀ target, Checked (targetCondition target) := by
    intro target
    cases target with
    | null => exact checked_ok _
    | str text => exact checked_ok text
    | _ => exact checked_bomError _ _
  cases value with
  | dict d =>
    exact (hkind _).bind fun _ _ => (checked_require _ _ _).bind fun _ _ =>
      (hcondition _).bind fun _ _ => checked_ok _
  | _ => exact checked_bomError _ _

theorem checked_dependencyFields (packageRefs : Dict String String) (dependency : Json) :
    Checked (dependencyFields packageRefs dependency) := by
  cases dependency with
  | dict d =>
    refine (checked_requireString _ _).bind fun _ _ => (checked_requireString _ _).bind fun _ _ =>
      (checked_require _ _ _).bind fun _ _ => ?_
    split
    · exact checked_ok _
    · exact checked_bomError _ _
  | _ => exact checked_bomError _ _

theorem checked_addDependency {packageRefs : Dict String String} {nodeId : String}
    (h : nodeId ∈ packageRefs.keys) (dependencies : List Edge) (dependency : Json) :
    Checked (addDependency s packageRefs nodeId dependencies dependency) := by
  refine (checked_dependencyFields _ _).bind fun fields hfields => ?_
  obtain ⟨name, id, kinds⟩ := fields
  obtain ⟨-, -, -, -, hknown, -⟩ := dependencyFields_eq_ok.mp hfields
  apply checked_foldlM
  intro value _ dependencies
  have hedge : Checked (kindEdge s packageRefs nodeId name id value) :=
    (checked_dependencyKind value).bind fun _ _ => (checked_lookupKey h).bind fun _ _ =>
      (checked_lookupKey hknown).bind fun _ _ => checked_ok _
  refine hedge.bind fun edge _ => ?_
  rw [addEdge]
  split
  · exact checked_bomError _ _
  · exact checked_ok _

theorem checked_addDependencyEdges {nodeMap : Dict String JsonDict} {packageRefs : Dict String String}
    (h : ∀ id ∈ nodeMap.keys, id ∈ packageRefs.keys) (dependencies : List Edge) :
    Checked (addDependencyEdges s nodeMap packageRefs dependencies) := by
  apply checked_foldlM
  intro entry hentry dependencies
  have hknown := h entry.1 (List.mem_map_of_mem hentry)
  have hdeps : Checked (nodeDependencies entry) := by
    rw [nodeDependencies]
    split
    · exact checked_ok _
    · exact checked_bomError _ _
  exact hdeps.bind fun deps _ => checked_foldlM (fun dependency _ dependencies =>
    checked_addDependency hknown dependencies dependency) dependencies

/-! ## The whole call -/

theorem checked_addSnapshot (inventory : Inventory) : Checked (addSnapshot host inventory s) := by
  refine checked_lockChecksums.bind fun checksums _ => checked_snapshotPackages.bind fun packages hpackages => ?_
  obtain ⟨-, lists, -, hp⟩ := snapshotPackages_eq_ok.mp hpackages
  have hregister : ∀ entry ∈ packages.packageMap.items, ∀ r,
      Checked (registerPackage host s checksums packages r entry) := fun entry hentry r =>
    checked_registerPackage ((hp.covered entry.1).mp (List.mem_map_of_mem hentry)) r
  refine (checked_foldlM hregister _).bind fun r hloop => ?_
  -- every package has its reference after the loop
  have hrefs : ∀ id ∈ packages.packageMap.keys, id ∈ r.packageRefs.keys := by
    intro id hid
    have hstart : Registered [] ⟨inventory.components, Dict.empty, Dict.empty⟩ := ⟨rfl, rfl⟩
    obtain ⟨rows, hrows, -, -, hr⟩ := (register_run hstart packages.packageMap.nodup).mp hloop
    obtain ⟨entry, hentry, rfl⟩ := List.mem_map.mp hid
    obtain ⟨row, hrow, hrowOf⟩ := exists_of_mem_left hrows hentry
    have hmem : (row.id, row.ref) ∈ r.packageRefs.items := hr.refs ▸ List.mem_map_of_mem hrow
    rw [← hrowOf.id]
    exact List.mem_map_of_mem hmem
  have hnodes : ∀ id ∈ packages.nodeMap.keys, id ∈ r.packageRefs.keys := fun id hid =>
    hrefs id ((hp.covered id).mpr hid)
  refine (checked_addDependencyEdges hnodes _).bind fun _ _ => (checked_normalizePath _).bind fun _ _ =>
    (checked_normalizePath _).bind fun _ _ => ?_
  exact (checked_mapM fun member hmember => checked_lookupKey (hrefs member (hp.known member hmember))).bind
    fun _ _ => checked_ok _

/-- **Only `BomError`.** Whatever the snapshots hold, a call that fails raises a `BomError`. -/
theorem buildSbom_checked (workspaces : List WorkspaceSnapshot) : Checked (buildSbom host workspaces) :=
  (checked_require _ _ _).bind fun _ _ => (checked_require _ _ _).bind fun _ _ =>
    (checked_foldlM (fun _ _ inventory => checked_addSnapshot inventory) _).bind fun _ _ => checked_ok _

end Zrm.L6.Bom
