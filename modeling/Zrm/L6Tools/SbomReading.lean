import Zrm.Core.Shuffle
import Zrm.L6Tools.SbomMerge

/-!
# Snapshots read on their own

The loops of `build_sbom` interleave what a snapshot says with what was merged before. Here
a snapshot is read on its own, and the whole call is put together from the readings.

* `addSnapshot_eq_ok`: one snapshot, as its reading and one run of merges.
* `buildSbom_eq_ok`: the report is made from the readings of the sorted snapshots.
-/
namespace Zrm.L6.Bom

open Placement Result Value

variable {host : Host} {s : WorkspaceSnapshot}

/-! ## What the checks accept -/

theorem mapM_requireString_eq_ok {items : List Json} {field : String} {l : List String} :
    (items.mapM fun item => requireString item field) = .ok l ↔
      items = l.map .str ∧ ∀ s ∈ l, hasText s = true := by
  simp only [mapM_eq_ok, requireString_eq_ok]
  induction items generalizing l with
  | nil =>
    cases l with
    | nil => simp
    | cons s l => simp
  | cons item items ih =>
    cases l with
    | nil => simp
    | cons s l =>
      rw [List.forall₂_cons, ih, List.map_cons, List.cons.injEq, List.forall_mem_cons]
      refine ⟨fun h => ?_, fun h => ?_⟩
      · obtain ⟨⟨hitem, hs⟩, hitems, hl⟩ := h
        exact ⟨⟨hitem, hitems⟩, hs, hl⟩
      · obtain ⟨⟨hitem, hitems⟩, hs, hl⟩ := h
        exact ⟨⟨hitem, hs⟩, hitems, hl⟩

theorem withId_eq_ok {value : Json} {what field : String} {entry : String × JsonDict} :
    withId value what field = .ok entry ↔
      value = .dict entry.2 ∧ get entry.2 "id" = .str entry.1 ∧ hasText entry.1 = true := by
  cases value with
  | dict d =>
    simp only [withId, bind_eq_ok, requireString_eq_ok, pure_eq, Except.ok.injEq, Json.dict.injEq]
    refine ⟨fun h => ?_, fun h => ?_⟩
    · obtain ⟨id, hid, rfl⟩ := h
      exact ⟨rfl, hid⟩
    · obtain ⟨rfl, hid⟩ := h
      exact ⟨entry.1, hid, rfl⟩
  | _ => simp [withId]

theorem metadataLists_eq_ok {lists : List Json × List Json × List Json} :
    metadataLists s = .ok lists ↔ ∃ metadata resolve, s.metadata = .dict metadata ∧
      (get metadata "packages" = .list lists.1 ∧ lists.1 ≠ []) ∧
      (get metadata "workspace_members" = .list lists.2.1 ∧ lists.2.1 ≠ []) ∧
      get metadata "resolve" = .dict resolve ∧ get resolve "nodes" = .list lists.2.2 := by
  rw [metadataLists]
  refine ⟨fun h => ?_, fun h => ?_⟩
  · split at h
    · rename_i metadata hmetadata
      split at h
      · rename_i package packages hpackages
        split at h
        · rename_i member members hmembers
          split at h
          · rename_i resolve hresolve
            split at h
            · rename_i nodes hnodes
              cases h
              exact ⟨metadata, resolve, hmetadata, ⟨hpackages, nofun⟩, ⟨hmembers, nofun⟩, hresolve, hnodes⟩
            · cases h
          · cases h
        · cases h
      · cases h
    · cases h
  · obtain ⟨metadata, resolve, hmetadata, ⟨hpackages, hne⟩, ⟨hmembers, hne'⟩, hresolve, hnodes⟩ := h
    obtain ⟨packages, members, nodes⟩ := lists
    obtain ⟨package, packages, rfl⟩ := List.exists_cons_of_ne_nil hne
    obtain ⟨member, members, rfl⟩ := List.exists_cons_of_ne_nil hne'
    simp only [hmetadata, hpackages, hmembers, hresolve, hnodes]

theorem nodeFeatures_eq_ok {id : String} {node : JsonDict} {features : List String} :
    nodeFeatures id node = .ok features ↔ get node "features" = .list (features.map .str) := by
  rw [nodeFeatures]
  refine ⟨fun h => ?_, fun h => ?_⟩
  · split at h
    · rename_i items hitems
      split at h
      · rename_i found hfound
        cases h
        rw [hitems, stringItems_eq_some.mp hfound]
      · cases h
    · cases h
  · rw [h]
    simp only [stringItems_eq_some.mpr rfl]

theorem targetKinds_eq_ok {package : JsonDict} {kinds : List String} :
    targetKinds package = .ok kinds ↔ ∃ targets found, get package "targets" = .list targets ∧ targets ≠ [] ∧
      collect kindsOfTarget targets = .ok found ∧ kinds = sortedSet found := by
  rw [targetKinds]
  refine ⟨fun h => ?_, fun h => ?_⟩
  · split at h
    · cases h
    · rename_i targets hne htargets
      obtain ⟨found, hfound, h⟩ := bind_eq_ok.mp h
      cases h
      exact ⟨targets, found.flatten, htargets, hne, collect_eq_ok.mpr ⟨found, hfound, rfl⟩, rfl⟩
    · cases h
  · obtain ⟨targets, _, htargets, hne, hcollect, rfl⟩ := h
    obtain ⟨found, hfound, rfl⟩ := collect_eq_ok.mp hcollect
    obtain ⟨target, targets, rfl⟩ := List.exists_cons_of_ne_nil hne
    rw [htargets]
    simp only [hfound, ok_bind, pure_eq]

theorem kindsOfTarget_eq_ok {target : Json} {kinds : List String} :
    kindsOfTarget target = .ok kinds ↔ ∃ t, target = .dict t ∧ get t "kind" = .list (kinds.map .str) ∧
      ∀ kind ∈ kinds, hasText kind = true := by
  cases target with
  | dict t =>
    simp only [kindsOfTarget, Json.dict.injEq]
    split
    · rename_i items hitems
      rw [mapM_requireString_eq_ok]
      refine ⟨fun h => ?_, fun h => ?_⟩
      · obtain ⟨rfl, htext⟩ := h
        exact ⟨t, rfl, hitems, htext⟩
      · obtain ⟨_, rfl, hkinds, htext⟩ := h
        rw [hitems, Json.list.injEq] at hkinds
        exact ⟨hkinds, htext⟩
    · rename_i hother
      refine ⟨fun h => ?_, fun h => ?_⟩
      · cases h
      · obtain ⟨_, rfl, hkinds, -⟩ := h
        exact absurd hkinds (hother _)
  | _ => simp [kindsOfTarget]

theorem nodeDependencies_eq_ok {entry : String × JsonDict} {deps : List Json} :
    nodeDependencies entry = .ok deps ↔ get entry.2 "deps" = .list deps := by
  rw [nodeDependencies]
  split
  · rename_i found hfound
    rw [hfound, Except.ok.injEq, Json.list.injEq]
  · rename_i hother
    refine ⟨fun h => ?_, fun h => absurd h (hother deps)⟩
    cases h

theorem dependencyFields_eq_ok {packageRefs : Dict String String} {dependency : Json} {name id : String}
    {kinds : List Json} :
    dependencyFields packageRefs dependency = .ok (name, id, kinds) ↔ ∃ d, dependency = .dict d ∧
      (get d "name" = .str name ∧ hasText name = true) ∧ (get d "pkg" = .str id ∧ hasText id = true) ∧
      id ∈ packageRefs.keys ∧ get d "dep_kinds" = .list kinds ∧ kinds ≠ [] := by
  cases dependency with
  | dict d =>
    simp only [dependencyFields]
    simp only [↓unit_bind_eq_ok, bind_eq_ok, requireString_eq_ok, require_eq_ok, Json.dict.injEq,
      List.contains_iff_mem]
    refine ⟨fun h => ?_, fun h => ?_⟩
    · obtain ⟨name', hname, id', hid, hknown, h⟩ := h
      split at h
      · rename_i kind rest hkinds
        cases h
        exact ⟨d, rfl, hname, hid, hknown, hkinds, nofun⟩
      · cases h
    · obtain ⟨_, rfl, hname, hid, hknown, hkinds, hne⟩ := h
      obtain ⟨kind, rest, rfl⟩ := List.exists_cons_of_ne_nil hne
      refine ⟨name, hname, id, hid, hknown, ?_⟩
      rw [hkinds]
      rfl
  | _ => simp [dependencyFields]

/-- A kind that is `text`; no kind is a normal one. -/
def IsKind (value : Json) (text : String) : Prop := value = .null ∧ text = "normal" ∨ value = .str text

/-- A target condition that is `text`; no condition is the empty one. -/
def IsCondition (value : Json) (text : String) : Prop := value = .null ∧ text = "" ∨ value = .str text

theorem hasText_of_dependencyKind {kind : String} (h : kind ∈ dependencyKinds) : hasText kind = true := by
  simp only [dependencyKinds, List.mem_cons, List.not_mem_nil, or_false] at h
  rcases h with rfl | rfl | rfl <;> decide

theorem targetCondition_eq_ok {target : Json} {condition : String} :
    targetCondition target = .ok condition ↔ IsCondition target condition := by
  cases target with
  | null => simp [targetCondition, IsCondition, eq_comm]
  | str text => simp [targetCondition, IsCondition]
  | _ => simp [targetCondition, IsCondition]

theorem normalizedKind_eq_ok {value : Json} {kind : String} (h : kind ∈ dependencyKinds) :
    normalizedKind value = .ok kind ↔ IsKind value kind := by
  cases value with
  | null => simp [normalizedKind, IsKind, eq_comm]
  | str text =>
    simp only [normalizedKind, requireString_eq_ok, IsKind, hasText_of_dependencyKind h, and_true, reduceCtorEq,
      false_and, false_or]
  | _ => simp [normalizedKind, requireString, IsKind]

/-- The kind and the target condition of a well-formed dependency kind. -/
theorem dependencyKind_eq_ok {value : Json} {kind condition : String} :
    dependencyKind value = .ok (kind, condition) ↔ ∃ d, value = .dict d ∧ IsKind (get d "kind") kind ∧
      kind ∈ dependencyKinds ∧ IsCondition (get d "target") condition := by
  cases value with
  | dict d =>
    simp only [dependencyKind]
    simp only [↓unit_bind_eq_ok, bind_eq_ok, require_eq_ok, Json.dict.injEq, List.contains_iff_mem,
      targetCondition_eq_ok, pure_eq, Except.ok.injEq, Prod.mk.injEq]
    refine ⟨fun h => ?_, fun h => ?_⟩
    · obtain ⟨_, hkind, hmem, _, hcondition, rfl, rfl⟩ := h
      exact ⟨d, rfl, (normalizedKind_eq_ok hmem).mp hkind, hmem, hcondition⟩
    · obtain ⟨_, rfl, hkind, hmem, hcondition⟩ := h
      exact ⟨kind, (normalizedKind_eq_ok hmem).mpr hkind, hmem, condition, hcondition, rfl, rfl⟩
  | _ => simp [dependencyKind]

/-! ## The packages of a snapshot -/

theorem lookupKey_eq_ok {ν : Type} {d : Dict String ν} {key : String} {value : ν} :
    lookupKey d key = .ok value ↔ d.get? key = some value := by
  rw [lookupKey]
  cases d.get? key with
  | none => simp
  | some found => simp

/-- A loop that fills a map of a snapshot. -/
theorem fill_eq_ok {read : Json → Except Raised (String × JsonDict)} {raise : String → Raised}
    {values : List Json} {map : Dict String JsonDict} :
    (values.foldlM (fun map value => do
      let entry ← read value
      Dict.insertNew raise map entry) Dict.empty) = .ok map ↔ values.mapM read = .ok map.items := by
  rw [foldlM_read]
  simp only [Dict.foldlM_insertNew]
  refine ⟨fun h => ?_, fun h => ?_⟩
  · obtain ⟨entries, hentries, -, hitems⟩ := h
    rw [hitems]
    exact hentries
  · exact ⟨map.items, h, map.nodup, rfl⟩

/-- `set(keys) == set(others)` -/
theorem all_contains_iff {keys others : List String} :
    (keys.all others.contains && others.all keys.contains) = true ↔ ∀ key, key ∈ keys ↔ key ∈ others := by
  rw [Bool.and_eq_true_iff, List.all_eq_true, List.all_eq_true]
  simp only [List.contains_iff_mem]
  exact ⟨fun h key => ⟨h.1 key, h.2 key⟩, fun h => ⟨fun key => (h key).mp, fun key => (h key).mpr⟩⟩

/-- The maps and members that the lists of a snapshot give. -/
structure PackagesOf (lists : List Json × List Json × List Json) (p : SnapshotPackages) : Prop where
  packages : lists.1.mapM packageEntry = .ok p.packageMap.items
  nodes : lists.2.2.mapM nodeEntry = .ok p.nodeMap.items
  covered : ∀ id, id ∈ p.packageMap.keys ↔ id ∈ p.nodeMap.keys
  members : ∃ members, lists.2.1.mapM (fun member => requireString member "workspace member ID") = .ok members ∧
    p.members = members.dedup
  known : ∀ id ∈ p.members, id ∈ p.packageMap.keys

/-- The checks of `_snapshot_packages` that precede the metadata. -/
def Addressed (s : WorkspaceSnapshot) : Prop :=
  (s.scope == "root" || s.scope == "fuzz") = true ∧
    (∃ path, normalizePath s.manifestPath = .ok path) ∧ ∃ path, normalizePath s.lockfilePath = .ok path

theorem snapshotPackages_eq_ok {p : SnapshotPackages} :
    snapshotPackages s = .ok p ↔ Addressed s ∧ ∃ lists, metadataLists s = .ok lists ∧ PackagesOf lists p := by
  rw [snapshotPackages]
  simp only [↓unit_bind_eq_ok, bind_eq_ok, fill_eq_ok, require_eq_ok, pure_eq, Except.ok.injEq]
  refine ⟨fun h => ?_, fun h => ?_⟩
  · obtain ⟨hscope, _, hmanifest, _, hlockfile, lists, hlists, packageMap, hpackages, nodeMap, hnodes, hcovered,
      members, hmembers, hknown, rfl⟩ := h
    refine ⟨⟨hscope, ⟨_, hmanifest⟩, ⟨_, hlockfile⟩⟩, lists, hlists, hpackages, hnodes,
      all_contains_iff.mp hcovered, ⟨members, hmembers, rfl⟩, fun id hid => ?_⟩
    rw [List.all_eq_true] at hknown
    exact List.contains_iff_mem.mp (hknown id (List.mem_dedup.mp hid))
  · obtain ⟨⟨hscope, ⟨_, hmanifest⟩, ⟨_, hlockfile⟩⟩, lists, hlists, hp⟩ := h
    obtain ⟨members, hmembers, hdedup⟩ := hp.members
    have hknown : members.all p.packageMap.keys.contains = true := by
      rw [List.all_eq_true]
      intro id hid
      apply List.contains_iff_mem.mpr
      apply hp.known
      rw [hdedup]
      exact List.mem_dedup.mpr hid
    refine ⟨hscope, _, hmanifest, _, hlockfile, lists, hlists, p.packageMap, hp.packages, p.nodeMap, hp.nodes,
      all_contains_iff.mpr hp.covered, members, hmembers, hknown, ?_⟩
    rw [← hdedup]

/-! ## The rows of a snapshot -/

/-- The row of a package. -/
structure RowOf (host : Host) (s : WorkspaceSnapshot) (checksums : Dict LockKey String)
    (packages : SnapshotPackages) (entry : String × JsonDict) (row : Row) : Prop where
  scope : row.scope = s.scope
  id : row.id = entry.1
  candidate : ∃ checksum identity, packageChecksum checksums entry.2 = .ok checksum ∧
    componentIdentity host entry.2 checksum = .ok identity ∧
    candidateOf s packages entry checksum identity = .ok row.candidate

/-- What a candidate is made of. -/
theorem candidateOf_eq_ok {packages : SnapshotPackages} {entry : String × JsonDict}
    {checksum : Option String} {identity : Identity} {c : Component} :
    candidateOf s packages entry checksum identity = .ok c ↔
      ∃ node features license kinds, packages.nodeMap.get? entry.1 = some node ∧
        nodeFeatures entry.1 node = .ok features ∧ packageLicense entry.1 entry.2 = .ok license ∧
        targetKinds entry.2 = .ok kinds ∧
        c = ⟨identity, checksum, license, sortedSet features, kinds, [s.scope],
          if packages.members.contains entry.1 then [s.scope] else []⟩ := by
  rw [candidateOf]
  simp only [bind_eq_ok, lookupKey_eq_ok, pure_eq, Except.ok.injEq]
  refine ⟨fun h => ?_, fun h => ?_⟩
  · obtain ⟨node, hnode, features, hfeatures, license, hlicense, kinds, hkinds, rfl⟩ := h
    exact ⟨node, features, license, kinds, hnode, hfeatures, hlicense, hkinds, rfl⟩
  · obtain ⟨node, features, license, kinds, hnode, hfeatures, hlicense, hkinds, rfl⟩ := h
    exact ⟨node, hnode, features, hfeatures, license, hlicense, kinds, hkinds, rfl⟩

theorem targetKinds_ascending {package : JsonDict} {kinds : List String}
    (h : targetKinds package = .ok kinds) : kinds.Pairwise (· < ·) := by
  rw [targetKinds] at h
  split at h
  · cases h
  · obtain ⟨found, -, h⟩ := bind_eq_ok.mp h
    cases h
    exact sortedSet_ascending _
  · cases h

/-- Every candidate makes a row. -/
theorem exists_row {packages : SnapshotPackages} {entry : String × JsonDict} {checksum : Option String}
    {identity : Identity} {c : Component} (h : candidateOf s packages entry checksum identity = .ok c) :
    ∃ row : Row, row.scope = s.scope ∧ row.id = entry.1 ∧ row.candidate = c := by
  obtain ⟨node, features, license, kinds, -, -, -, hkinds, rfl⟩ := candidateOf_eq_ok.mp h
  refine ⟨⟨s.scope, entry.1, _, rfl, fun field hfield => ?_⟩, rfl, rfl, rfl⟩
  simp only [unionFields, List.mem_cons, List.not_mem_nil, or_false] at hfield
  rcases hfield with rfl | rfl | rfl | rfl
  · exact sortedSet_ascending features
  · exact targetKinds_ascending hkinds
  · exact List.pairwise_singleton _ s.scope
  · show (if packages.members.contains entry.1 then [s.scope] else []).Pairwise (· < ·)
    split
    · exact List.pairwise_singleton _ s.scope
    · exact .nil

theorem candidateOf_bomRef {packages : SnapshotPackages} {entry : String × JsonDict}
    {checksum : Option String} {identity : Identity} {c : Component}
    (h : candidateOf s packages entry checksum identity = .ok c) : c.toIdentity = identity := by
  obtain ⟨node, features, license, kinds, -, -, -, -, rfl⟩ := candidateOf_eq_ok.mp h
  rfl

/-- `prior_owner is not None and prior_owner != package_id` does not hold. -/
theorem owner_iff {owner : Option String} {id : String} :
    (owner == none || owner == some id) = true ↔ ∀ other, owner = some other → other = id := by
  cases owner <;> simp

variable {checksums : Dict LockKey String} {packages : SnapshotPackages}

/-- One turn of the loop over the packages. -/
theorem registerPackage_eq_ok {r r' : Registration} {entry : String × JsonDict} :
    registerPackage host s checksums packages r entry = .ok r' ↔
      ∃ row, RowOf host s checksums packages entry row ∧
        (∀ owner, r.packageRefOwners.get? row.ref = some owner → owner = row.id) ∧
        mergeRow r.components row = .ok r'.components ∧
        r'.packageRefOwners = r.packageRefOwners.set row.ref row.id ∧
        r'.packageRefs = r.packageRefs.set row.id row.ref := by
  rw [registerPackage]
  simp only [↓unit_bind_eq_ok, bind_eq_ok, require_eq_ok, owner_iff, pure_eq, Except.ok.injEq]
  refine ⟨fun h => ?_, fun h => ?_⟩
  · obtain ⟨checksum, hchecksum, identity, hidentity, howner, c, hc, components, hmerge, rfl⟩ := h
    obtain ⟨row, hscope, hid, rfl⟩ := exists_row hc
    have href : row.ref = identity.bomRef := by rw [Row.ref, candidateOf_bomRef hc]
    refine ⟨row, ⟨hscope, hid, checksum, identity, hchecksum, hidentity, hc⟩, ?_, ?_, ?_, ?_⟩
    · rw [href, hid]
      exact howner
    · rw [mergeRow, hscope]
      exact hmerge
    · rw [href, hid]
    · rw [href, hid]
  · obtain ⟨row, ⟨hscope, hid, checksum, identity, hchecksum, hidentity, hc⟩, howner, hmerge, howners,
      hrefs⟩ := h
    have href : row.ref = identity.bomRef := by rw [Row.ref, candidateOf_bomRef hc]
    rw [href, hid] at howner howners hrefs
    rw [mergeRow, hscope] at hmerge
    refine ⟨checksum, hchecksum, identity, hidentity, howner, row.candidate, hc, r'.components, hmerge, ?_⟩
    rw [← howners, ← hrefs]

/-- The maps between the packages of a snapshot and their references, after some rows. -/
structure Registered (rows : List Row) (r : Registration) : Prop where
  owners : r.packageRefOwners.items = rows.map fun row => (row.ref, row.id)
  refs : r.packageRefs.items = rows.map fun row => (row.id, row.ref)

theorem Registered.refs_nodup {rows : List Row} {r : Registration} (h : Registered rows r) :
    (rows.map Row.ref).Nodup := by
  have hnodup := r.packageRefOwners.nodup
  rw [h.owners, List.map_map] at hnodup
  exact hnodup

/-- A new package takes its reference if and only if no other package has it. -/
theorem Registered.owner_iff {rows : List Row} {r : Registration} (h : Registered rows r) {row : Row}
    (hid : row.id ∉ rows.map Row.id) :
    (∀ owner, r.packageRefOwners.get? row.ref = some owner → owner = row.id) ↔
      row.ref ∉ rows.map Row.ref := by
  refine ⟨fun hall hmem => ?_, fun hmem owner howner => ?_⟩
  · obtain ⟨other, hother, href⟩ := List.mem_map.mp hmem
    have howner : r.packageRefOwners.get? row.ref = some other.id := by
      rw [Dict.get?_eq_some, h.owners, ← href]
      exact List.mem_map_of_mem hother
    exact hid (hall _ howner ▸ List.mem_map_of_mem hother)
  · rw [Dict.get?_eq_some, h.owners] at howner
    obtain ⟨other, hother, hpair⟩ := List.mem_map.mp howner
    exact absurd (List.mem_map.mpr ⟨other, hother, congrArg Prod.fst hpair⟩) hmem

/-- Registering a new package. -/
theorem Registered.step {rows : List Row} {r r' : Registration} (h : Registered rows r) {row : Row}
    (hid : row.id ∉ rows.map Row.id) (href : row.ref ∉ rows.map Row.ref) :
    (r'.packageRefOwners = r.packageRefOwners.set row.ref row.id ∧
      r'.packageRefs = r.packageRefs.set row.id row.ref) ↔ Registered (rows ++ [row]) r' := by
  have howners : (r.packageRefOwners.set row.ref row.id).items =
      (rows ++ [row]).map fun row => (row.ref, row.id) := by
    have hnew : row.ref ∉ r.packageRefOwners.items.map Prod.fst := by
      rw [h.owners, List.map_map]
      exact href
    rw [List.map_append, ← h.owners]
    exact Dict.setItem_append row.id hnew
  have hrefs : (r.packageRefs.set row.id row.ref).items =
      (rows ++ [row]).map fun row => (row.id, row.ref) := by
    have hnew : row.id ∉ r.packageRefs.items.map Prod.fst := by
      rw [h.refs, List.map_map]
      exact hid
    rw [List.map_append, ← h.refs]
    exact Dict.setItem_append row.ref hnew
  refine ⟨fun hset => ⟨?_, ?_⟩, fun hr' => ⟨?_, ?_⟩⟩
  · rw [hset.1, howners]
  · rw [hset.2, hrefs]
  · exact Dict.ext (hr'.owners.trans howners.symm)
  · exact Dict.ext (hr'.refs.trans hrefs.symm)

theorem Registered.unique {rows : List Row} {r r' : Registration} (h : Registered rows r)
    (h' : Registered rows r') (hcomponents : r.components = r'.components) : r = r' := by
  have howners := Dict.ext (h.owners.trans h'.owners.symm)
  have hrefs := Dict.ext (h.refs.trans h'.refs.symm)
  cases r
  cases r'
  simp only [Registration.mk.injEq]
  exact ⟨hcomponents, howners, hrefs⟩

/-- One turn of the loop over the packages, at a package ID that is new. -/
theorem registerPackage_registered {entry : String × JsonDict} {done : List Row} {r r' : Registration}
    (h : Registered done r) (hnew : entry.1 ∉ done.map Row.id) :
    registerPackage host s checksums packages r entry = .ok r' ↔
      ∃ row, RowOf host s checksums packages entry row ∧ row.ref ∉ done.map Row.ref ∧
        mergeRow r.components row = .ok r'.components ∧ Registered (done ++ [row]) r' := by
  rw [registerPackage_eq_ok]
  refine ⟨fun hok => ?_, fun hrow => ?_⟩
  · obtain ⟨row, hrow, howner, hmerge, hset⟩ := hok
    have hid : row.id ∉ done.map Row.id := by
      rw [hrow.id]
      exact hnew
    have href := (h.owner_iff hid).mp howner
    exact ⟨row, hrow, href, hmerge, (h.step hid href).mp hset⟩
  · obtain ⟨row, hrow, href, hmerge, hr'⟩ := hrow
    have hid : row.id ∉ done.map Row.id := by
      rw [hrow.id]
      exact hnew
    exact ⟨row, hrow, (h.owner_iff hid).mpr href, hmerge, (h.step hid href).mpr hr'⟩

/-- Every row has its ID and its reference, in some registration. -/
theorem exists_registered {rows : List Row} (hids : (rows.map Row.id).Nodup)
    (hrefs : (rows.map Row.ref).Nodup) (components : Dict String Component) :
    ∃ r : Registration, r.components = components ∧ Registered rows r := by
  have howners : ((rows.map fun row => (row.ref, row.id)).map Prod.fst).Nodup := by
    rw [List.map_map]
    exact hrefs
  have hpackages : ((rows.map fun row => (row.id, row.ref)).map Prod.fst).Nodup := by
    rw [List.map_map]
    exact hids
  exact ⟨⟨components, ⟨_, howners⟩, ⟨_, hpackages⟩⟩, rfl, ⟨rfl, rfl⟩⟩

/-- The loop over the packages: their rows, under references of their own, are merged. -/
theorem register_run {items : List (String × JsonDict)} {done : List Row} {r r' : Registration}
    (h : Registered done r) (hids : (done.map Row.id ++ items.map Prod.fst).Nodup) :
    items.foldlM (registerPackage host s checksums packages) r = .ok r' ↔
      ∃ rows, List.Forall₂ (RowOf host s checksums packages) items rows ∧
        ((done ++ rows).map Row.ref).Nodup ∧ rows.foldlM mergeRow r.components = .ok r'.components ∧
        Registered (done ++ rows) r' := by
  induction items generalizing done r with
  | nil =>
    rw [List.foldlM_nil]
    refine ⟨fun hok => ?_, fun hrows => ?_⟩
    · cases hok
      refine ⟨[], .nil, ?_, rfl, ?_⟩
      · rw [List.append_nil]
        exact h.refs_nodup
      · rw [List.append_nil]
        exact h
    · obtain ⟨rows, hrows, -, hmerge, hr'⟩ := hrows
      cases hrows
      rw [List.append_nil] at hr'
      have hcomponents : r.components = r'.components := Except.ok.inj hmerge
      exact congrArg Except.ok (h.unique hr' hcomponents)
  | cons entry items ih =>
    rw [List.foldlM_cons, bind_eq_ok]
    have hnew : entry.1 ∉ done.map Row.id := by
      intro hmem
      exact (List.nodup_append.mp hids).2.2 _ hmem entry.1 (by simp) rfl
    have hids' : ∀ row : Row, row.id = entry.1 → ((done ++ [row]).map Row.id ++ items.map Prod.fst).Nodup := by
      intro row hid
      rw [List.map_append, List.map_singleton, hid, List.append_assoc]
      exact hids
    refine ⟨fun hok => ?_, fun hrows => ?_⟩
    · obtain ⟨r₁, hfirst, hrest⟩ := hok
      obtain ⟨row, hrow, -, hmerge, hr₁⟩ := (registerPackage_registered h hnew).mp hfirst
      obtain ⟨rows, hrows, hnodup, hmerges, hr'⟩ := (ih hr₁ (hids' row hrow.id)).mp hrest
      rw [List.append_assoc] at hnodup hr'
      refine ⟨row :: rows, .cons hrow hrows, hnodup, ?_, hr'⟩
      rw [List.foldlM_cons, hmerge, ok_bind, hmerges]
    · obtain ⟨_, hrows, hnodup, hmerges, hr'⟩ := hrows
      cases hrows with
      | @cons _ row _ rows hrow hrows =>
        rw [List.append_cons] at hnodup hr'
        rw [List.foldlM_cons] at hmerges
        obtain ⟨components, hmerge, hmerges⟩ := bind_eq_ok.mp hmerges
        have hids₁ := (List.nodup_append.mp (hids' row hrow.id)).1
        rw [List.map_append] at hnodup
        have hrefs₁ := (List.nodup_append.mp hnodup).1
        obtain ⟨r₁, rfl, hr₁⟩ := exists_registered hids₁ hrefs₁ components
        rw [List.map_append, List.nodup_append] at hrefs₁
        have href : row.ref ∉ done.map Row.ref := fun hmem => hrefs₁.2.2 _ hmem row.ref (by simp) rfl
        rw [← List.map_append] at hnodup
        exact ⟨r₁, (registerPackage_registered h hnew).mpr ⟨row, hrow, href, hmerge, hr₁⟩,
          (ih hr₁ (hids' row hrow.id)).mpr ⟨rows, hrows, hnodup, hmerges, hr'⟩⟩

/-! ## The edges of a snapshot -/

/-- The edges of a dependency. -/
def dependencyEdges (s : WorkspaceSnapshot) (packageRefs : Dict String String) (nodeId : String)
    (dependency : Json) : Except Raised (List Edge) := do
  let fields ← dependencyFields packageRefs dependency
  collect (fun value => (kindEdge s packageRefs nodeId fields.1 fields.2.1 value).map fun edge => [edge])
    fields.2.2

/-- The edges of a resolve node. -/
def nodeEdges (s : WorkspaceSnapshot) (packageRefs : Dict String String) (entry : String × JsonDict) :
    Except Raised (List Edge) := do
  let deps ← nodeDependencies entry
  collect (dependencyEdges s packageRefs entry.1) deps

theorem map_eq_ok {ε α β : Type} {x : Except ε α} {f : α → β} {b : β} :
    x.map f = .ok b ↔ ∃ a, x = .ok a ∧ f a = b := by
  cases x <;> simp [Except.map]

theorem kindEdge_collects (packageRefs : Dict String String) (nodeId name id : String) :
    Collects
      (fun dependencies value => do
        let edge ← kindEdge s packageRefs nodeId name id value
        addEdge dependencies edge)
      fun value => (kindEdge s packageRefs nodeId name id value).map fun edge => [edge] := by
  intro seen value seen'
  simp only [bind_eq_ok, map_eq_ok, addEdge, guard_eq_ok, Except.ok.injEq]
  refine ⟨fun h => ?_, fun h => ?_⟩
  · obtain ⟨edge, hedge, hnew, rfl⟩ := h
    exact ⟨[edge], ⟨edge, hedge, rfl⟩, ⟨List.nodup_singleton edge, List.disjoint_singleton.mpr hnew⟩, rfl⟩
  · obtain ⟨_, ⟨edge, hedge, rfl⟩, ⟨-, hdisjoint⟩, rfl⟩ := h
    exact ⟨edge, hedge, List.disjoint_singleton.mp hdisjoint, rfl⟩

theorem addDependency_collects (packageRefs : Dict String String) (nodeId : String) :
    Collects (addDependency s packageRefs nodeId) (dependencyEdges s packageRefs nodeId) := by
  apply Collects.bind _ (dependencyFields packageRefs)
  intro seen fields
  exact (kindEdge_collects packageRefs nodeId fields.1 fields.2.1).foldlM seen fields.2.2

/-- The loop over the nodes collects their edges, none of them known before. -/
theorem addDependencyEdges_eq_ok {nodeMap : Dict String JsonDict} {packageRefs : Dict String String}
    {dependencies dependencies' : List Edge} :
    addDependencyEdges s nodeMap packageRefs dependencies = .ok dependencies' ↔
      ∃ edges, collect (nodeEdges s packageRefs) nodeMap.items = .ok edges ∧ Fresh dependencies edges ∧
        dependencies' = dependencies ++ edges := by
  have hnode : Collects
      (fun dependencies entry => do
        let deps ← nodeDependencies entry
        deps.foldlM (addDependency s packageRefs entry.1) dependencies)
      (nodeEdges s packageRefs) := by
    intro seen entry
    have hdeps := (addDependency_collects (s := s) packageRefs entry.1).foldlM
    exact hdeps.bind (fun _ : Unit => nodeDependencies entry) seen ()
  exact hnode.foldlM dependencies nodeMap.items dependencies'

/-! ## The readings -/

/-- What a snapshot says. -/
structure Reading where
  checksums : Dict LockKey String
  packages : SnapshotPackages
  rows : List Row
  packageRefs : Dict String String
  edges : List Edge
  report : WorkspaceReport

/-- The report of a snapshot, from its members and references. -/
def ReportOf (host : Host) (s : WorkspaceSnapshot) (members : List String) (packageRefs : Dict String String)
    (report : WorkspaceReport) : Prop :=
  ∃ manifestPath lockfilePath refs, normalizePath s.manifestPath = .ok manifestPath ∧
    normalizePath s.lockfilePath = .ok lockfilePath ∧ members.mapM (lookupKey packageRefs) = .ok refs ∧
    report = ⟨s.scope, manifestPath, lockfilePath, host.sha256 s.lockfileBytes, refs.insertionSort (· ≤ ·)⟩

/-- The snapshot is well formed and says so. -/
structure Reads (host : Host) (s : WorkspaceSnapshot) (c : Reading) : Prop where
  checksums : lockChecksums host s = .ok c.checksums
  packages : snapshotPackages s = .ok c.packages
  rows : List.Forall₂ (RowOf host s c.checksums c.packages) c.packages.packageMap.items c.rows
  distinct : (c.rows.map Row.ref).Nodup
  packageRefs : c.packageRefs.items = c.rows.map fun row => (row.id, row.ref)
  edges : collect (nodeEdges s c.packageRefs) c.packages.nodeMap.items = .ok c.edges
  report : ReportOf host s c.packages.members c.packageRefs c.report

/-- One turn of the loop over the snapshots. -/
theorem addSnapshot_eq_ok {inventory inventory' : Inventory} :
    addSnapshot host inventory s = .ok inventory' ↔
      ∃ c, Reads host s c ∧ c.rows.foldlM mergeRow inventory.components = .ok inventory'.components ∧
        Fresh inventory.dependencies c.edges ∧
        inventory'.dependencies = inventory.dependencies ++ c.edges ∧
        inventory'.workspaceReports = inventory.workspaceReports ++ [c.report] := by
  have hstart : ∀ components, Registered [] ⟨components, Dict.empty, Dict.empty⟩ := fun _ => ⟨rfl, rfl⟩
  rw [addSnapshot]
  simp only [bind_eq_ok, addDependencyEdges_eq_ok, pure_eq, Except.ok.injEq]
  refine ⟨fun h => ?_, fun h => ?_⟩
  · obtain ⟨checksums, hchecksums, packages, hpackages, r, hloop, dependencies,
      ⟨edges, hedges, hfresh, rfl⟩, manifestPath, hmanifest, lockfilePath, hlockfile, refs, hrefs,
      rfl⟩ := h
    obtain ⟨rows, hrows, hdistinct, hmerge, hr⟩ :=
      (register_run (hstart _) packages.packageMap.nodup).mp hloop
    exact ⟨⟨checksums, packages, rows, r.packageRefs, edges, _⟩, ⟨hchecksums, hpackages, hrows, hdistinct,
      hr.refs, hedges, ⟨manifestPath, lockfilePath, refs, hmanifest, hlockfile, hrefs, rfl⟩⟩, hmerge,
      hfresh, rfl, rfl⟩
  · obtain ⟨c, hc, hmerge, hfresh, hdependencies, hreports⟩ := h
    obtain ⟨manifestPath, lockfilePath, refs, hmanifest, hlockfile, hrefs, hreport⟩ := hc.report
    have howners : ((c.rows.map fun row => (row.ref, row.id)).map Prod.fst).Nodup := by
      rw [List.map_map]
      exact hc.distinct
    let r : Registration :=
      ⟨inventory'.components, ⟨c.rows.map fun row => (row.ref, row.id), howners⟩, c.packageRefs⟩
    have hloop : c.packages.packageMap.items.foldlM (registerPackage host s c.checksums c.packages)
        ⟨inventory.components, Dict.empty, Dict.empty⟩ = .ok r :=
      (register_run (hstart _) c.packages.packageMap.nodup).mpr
        ⟨c.rows, hc.rows, hc.distinct, hmerge, ⟨rfl, hc.packageRefs⟩⟩
    refine ⟨c.checksums, hc.checksums, c.packages, hc.packages, r, hloop, inventory'.dependencies,
      ⟨c.edges, hc.edges, hfresh, hdependencies⟩, manifestPath, hmanifest, lockfilePath, hlockfile,
      refs, hrefs, ?_⟩
    rw [← hreport, ← hreports]

/-- The loop over the snapshots: every one is read, and the rows of all of them are merged. -/
theorem addSnapshots_eq_ok {snapshots : List WorkspaceSnapshot} {inventory inventory' : Inventory} :
    snapshots.foldlM (addSnapshot host) inventory = .ok inventory' ↔
      ∃ cs, List.Forall₂ (Reads host) snapshots cs ∧
        (cs.flatMap Reading.rows).foldlM mergeRow inventory.components = .ok inventory'.components ∧
        Fresh inventory.dependencies (cs.flatMap Reading.edges) ∧
        inventory'.dependencies = inventory.dependencies ++ cs.flatMap Reading.edges ∧
        inventory'.workspaceReports = inventory.workspaceReports ++ cs.map Reading.report := by
  induction snapshots generalizing inventory with
  | nil =>
    rw [List.foldlM_nil]
    refine ⟨fun h => ?_, fun h => ?_⟩
    · cases h
      exact ⟨[], .nil, rfl, fresh_nil _, (List.append_nil _).symm, (List.append_nil _).symm⟩
    · obtain ⟨cs, hcs, hmerge, -, hdependencies, hreports⟩ := h
      cases hcs
      have hcomponents : inventory.components = inventory'.components := Except.ok.inj hmerge
      cases inventory
      cases inventory'
      simp only [List.flatMap_nil, List.map_nil, List.append_nil] at hcomponents hdependencies hreports
      rw [hcomponents, hdependencies, hreports]
      rfl
  | cons s snapshots ih =>
    rw [List.foldlM_cons, bind_eq_ok]
    refine ⟨fun h => ?_, fun h => ?_⟩
    · obtain ⟨middle, hfirst, hrest⟩ := h
      obtain ⟨c, hc, hmerge, hfresh, hdependencies, hreports⟩ := addSnapshot_eq_ok.mp hfirst
      obtain ⟨cs, hcs, hmerges, hfreshes, hdependencies', hreports'⟩ := ih.mp hrest
      rw [hdependencies] at hfreshes hdependencies'
      rw [hreports] at hreports'
      refine ⟨c :: cs, .cons hc hcs, ?_, fresh_append.mpr ⟨hfresh, hfreshes⟩, ?_, ?_⟩
      · rw [List.flatMap_cons, List.foldlM_append, hmerge, ok_bind, hmerges]
      · rw [hdependencies', List.append_assoc, List.flatMap_cons]
      · rw [hreports', List.append_assoc, List.map_cons, List.singleton_append]
    · obtain ⟨_, hcs, hmerges, hfresh, hdependencies, hreports⟩ := h
      cases hcs with
      | @cons _ c _ cs hc hcs =>
        rw [List.flatMap_cons, List.foldlM_append] at hmerges
        obtain ⟨components, hmerge, hmerges⟩ := bind_eq_ok.mp hmerges
        rw [List.flatMap_cons, ← List.append_assoc] at hdependencies
        rw [List.map_cons, List.append_cons] at hreports
        obtain ⟨hfirst, hrest⟩ := fresh_append.mp hfresh
        exact ⟨⟨components, inventory.dependencies ++ c.edges, inventory.workspaceReports ++ [c.report]⟩,
          addSnapshot_eq_ok.mpr ⟨c, hc, hmerge, hfirst, rfl, rfl⟩,
          ih.mpr ⟨cs, hcs, hmerges, hrest, hdependencies, hreports⟩⟩

/-! ## The whole call -/

theorem Merged.bomRefs {rows : List Row} {d : Dict String Component} (h : Merged rows d) :
    (d.items.map Prod.snd).map (fun c => c.bomRef) = d.keys := by
  rw [List.map_map]
  apply List.map_congr_left
  intro x hx
  exact h.bomRef (Dict.get?_eq_some.mpr hx)

/-- The report depends on the rows and the edges, not on their order. -/
theorem sbomReport_eq {rows rows' : List Row} {d d' : Dict String Component} {edges edges' : List Edge}
    (h : Merged rows d) (h' : Merged rows' d') (hrows : ∀ row, row ∈ rows ↔ row ∈ rows')
    (hedges : edges.Perm edges') (reports : List WorkspaceReport) :
    sbomReport host d edges reports = sbomReport host d' edges' reports := by
  have hitems := (h.items_perm IsUnion.unique h' hrows).map Prod.snd
  have hnodup : ((d.items.map Prod.snd).map fun c => c.bomRef).Nodup := by
    rw [h.bomRefs]
    exact d.nodup
  rw [sbomReport, insertionSort_key_eq hnodup hitems, insertionSort_eq_iff_perm.mpr hedges]
  rfl

/-- The snapshots in the order of their scopes. -/
def sortedSnapshots (workspaces : List WorkspaceSnapshot) : List WorkspaceSnapshot :=
  workspaces.insertionSort fun s s' => s.scope ≤ s'.scope

/-- What the readings of all snapshots amount to. -/
structure Amounts (host : Host) (cs : List Reading) (r : Sbom) : Prop where
  coherent : Coherent (cs.flatMap Reading.rows)
  edges : (cs.flatMap Reading.edges).Nodup
  report : ∃ components, Merged (cs.flatMap Reading.rows) components ∧
    r = sbomReport host components (cs.flatMap Reading.edges) (cs.map Reading.report)

theorem buildSbom_eq_ok {workspaces : List WorkspaceSnapshot} {r : Sbom} :
    buildSbom host workspaces = .ok r ↔
      workspaces ≠ [] ∧ (workspaces.map WorkspaceSnapshot.scope).Nodup ∧
        ∃ cs, List.Forall₂ (Reads host) (sortedSnapshots workspaces) cs ∧ Amounts host cs r := by
  have hnonempty : (!workspaces.isEmpty) = true ↔ workspaces ≠ [] := by cases workspaces <;> simp
  have hcoherent : Coherent [] := fun _ h => nomatch h
  rw [buildSbom]
  simp only [↓unit_bind_eq_ok, bind_eq_ok, require_eq_ok, hnonempty, decide_eq_true_iff, addSnapshots_eq_ok,
    pure_eq, Except.ok.injEq]
  apply and_congr_right
  intro _
  apply and_congr_right
  intro _
  refine ⟨fun h => ?_, fun h => ?_⟩
  · obtain ⟨inventory, ⟨cs, hcs, hmerge, hfresh, hdependencies, hreports⟩, rfl⟩ := h
    obtain ⟨hmerged, hrows⟩ := mergeRows_run Gathers.empty hcoherent hmerge
    refine ⟨cs, hcs, hrows, hfresh.1, inventory.components, hmerged, ?_⟩
    rw [hdependencies, hreports]
    rfl
  · obtain ⟨cs, hcs, hcs', hedges, components, hcomponents, rfl⟩ := h
    obtain ⟨merged, hmerge⟩ := @exists_mergeRows [] _ _ Gathers.empty hcs'
    have hmerged := (mergeRows_run Gathers.empty hcoherent hmerge).1
    refine ⟨⟨merged, cs.flatMap Reading.edges, cs.map Reading.report⟩,
      ⟨cs, hcs, hmerge, ⟨hedges, List.disjoint_nil_left _⟩, rfl, rfl⟩, ?_⟩
    exact sbomReport_eq hmerged hcomponents (fun _ => Iff.rfl) (.refl _) _

end Zrm.L6.Bom
