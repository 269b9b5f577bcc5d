import Zrm.L6Tools.SbomErrors
import Zrm.L6Tools.SbomOrder

/-!
# The contents of the inventory

What a report lists, told from the metadata alone: the packages, the sets that the
components unite, and the edges.

* `Reads.row`, `Reads.exists_row`: the rows of a snapshot are its packages.
* `Reads.edgeIn`, `Reads.exists_edge`: the edges of a snapshot.
* `sbom_order_independent_complete`: order independence and completeness.
-/
namespace Zrm.L6.Bom

open Placement Result Value

/-! ## The metadata of a snapshot -/

/-- The package and the resolve node with an ID. -/
structure PackageIn (s : WorkspaceSnapshot) (id : String) (package node : JsonDict) : Prop where
  package : ∃ metadata packages, s.metadata = .dict metadata ∧ get metadata "packages" = .list packages ∧
    .dict package ∈ packages ∧ get package "id" = .str id
  node : ∃ metadata resolve nodes, s.metadata = .dict metadata ∧ get metadata "resolve" = .dict resolve ∧
    get resolve "nodes" = .list nodes ∧ .dict node ∈ nodes ∧ get node "id" = .str id

def MemberIn (s : WorkspaceSnapshot) (id : String) : Prop :=
  ∃ metadata members, s.metadata = .dict metadata ∧ get metadata "workspace_members" = .list members ∧
    .str id ∈ members

def FeatureOf (node : JsonDict) (feature : String) : Prop :=
  ∃ features, get node "features" = .list features ∧ .str feature ∈ features

def KindOf (package : JsonDict) (kind : String) : Prop :=
  ∃ targets target kinds, get package "targets" = .list targets ∧ .dict target ∈ targets ∧
    get target "kind" = .list kinds ∧ .str kind ∈ kinds

/-- The identity does not depend on the checksum, only whether there is one does. -/
def HasIdentity (host : Host) (package : JsonDict) (identity : Identity) : Prop :=
  ∃ checksum, componentIdentity host package checksum = .ok identity

/-- A snapshot contains a package with the identity. -/
structure Occurs (host : Host) (s : WorkspaceSnapshot) (identity : Identity) (id : String)
    (package node : JsonDict) : Prop where
  present : PackageIn s id package node
  identified : HasIdentity host package identity

/-- A target condition in the metadata and in the report; an empty one is none. -/
def IsTarget (value : Json) : Option String → Prop
  | none => value = .null ∨ value = .str ""
  | some condition => condition ≠ "" ∧ value = .str condition

/-- An edge of a resolve node, one for each dependency kind. -/
def NodeEdge (node : JsonDict) (name id kind : String) (condition : Option String) : Prop :=
  ∃ deps dependency kinds value, get node "deps" = .list deps ∧ .dict dependency ∈ deps ∧
    get dependency "name" = .str name ∧ get dependency "pkg" = .str id ∧
    get dependency "dep_kinds" = .list kinds ∧ .dict value ∈ kinds ∧ IsKind (get value "kind") kind ∧
    IsTarget (get value "target") condition

/-- The reference of the package with an ID. -/
def RefIn (host : Host) (s : WorkspaceSnapshot) (id ref : String) : Prop :=
  ∃ identity package node, Occurs host s identity id package node ∧ identity.bomRef = ref

/-- An edge of a snapshot. -/
def EdgeIn (host : Host) (s : WorkspaceSnapshot) (d : Dependency) : Prop :=
  d.scope = s.scope ∧ ∃ id target package node, PackageIn s id package node ∧
    RefIn host s id d.fromComponentRef ∧ RefIn host s target d.toComponentRef ∧
    NodeEdge node d.dependencyName target d.dependencyKind d.targetCondition

/-! ## The rows of a snapshot -/

variable {host : Host} {s : WorkspaceSnapshot}

theorem mem_entries_iff {what field : String} {values : List Json} {items : List (String × JsonDict)}
    (h : (values.mapM fun value => withId value what field) = .ok items) {id : String} {d : JsonDict} :
    (id, d) ∈ items ↔ .dict d ∈ values ∧ get d "id" = .str id := by
  rw [mapM_eq_ok] at h
  refine ⟨fun hmem => ?_, fun hmem => ?_⟩
  · obtain ⟨value, hvalue, hok⟩ := exists_of_mem_right h hmem
    obtain ⟨rfl, hid, -⟩ := withId_eq_ok.mp hok
    exact ⟨hvalue, hid⟩
  · obtain ⟨⟨id', d'⟩, hentry, hok⟩ := exists_of_mem_left h hmem.1
    obtain ⟨heq, hid, -⟩ := withId_eq_ok.mp hok
    cases heq
    rw [hmem.2] at hid
    cases hid
    exact hentry

/-- The maps of a snapshot hold the packages and nodes of its metadata. -/
theorem packageIn_iff {p : SnapshotPackages} (h : snapshotPackages s = .ok p) {id : String}
    {package node : JsonDict} :
    PackageIn s id package node ↔ p.packageMap.get? id = some package ∧ p.nodeMap.get? id = some node := by
  obtain ⟨-, lists, hlists, hp⟩ := snapshotPackages_eq_ok.mp h
  obtain ⟨metadata, resolve, hmetadata, ⟨hpackages, -⟩, -, hresolve, hnodes⟩ := metadataLists_eq_ok.mp hlists
  have hpackage := @mem_entries_iff _ _ _ _ hp.packages id package
  have hnode := @mem_entries_iff _ _ _ _ hp.nodes id node
  rw [Dict.get?_eq_some, Dict.get?_eq_some, hpackage, hnode]
  refine ⟨fun hin => ⟨?_, ?_⟩, fun hmem => ⟨?_, ?_⟩⟩
  · obtain ⟨metadata', packages', hmetadata', hpackages', hmem, hid⟩ := hin.package
    rw [hmetadata] at hmetadata'
    cases hmetadata'
    rw [hpackages] at hpackages'
    cases hpackages'
    exact ⟨hmem, hid⟩
  · obtain ⟨metadata', resolve', nodes', hmetadata', hresolve', hnodes', hmem, hid⟩ := hin.node
    rw [hmetadata] at hmetadata'
    cases hmetadata'
    rw [hresolve] at hresolve'
    cases hresolve'
    rw [hnodes] at hnodes'
    cases hnodes'
    exact ⟨hmem, hid⟩
  · exact ⟨metadata, lists.1, hmetadata, hpackages, hmem.1⟩
  · exact ⟨metadata, resolve, lists.2.2, hmetadata, hresolve, hnodes, hmem.2⟩

theorem memberIn_iff {p : SnapshotPackages} (h : snapshotPackages s = .ok p) {id : String} :
    MemberIn s id ↔ id ∈ p.members := by
  obtain ⟨-, lists, hlists, hp⟩ := snapshotPackages_eq_ok.mp h
  obtain ⟨metadata, resolve, hmetadata, -, ⟨hmembers, -⟩, -, -⟩ := metadataLists_eq_ok.mp hlists
  obtain ⟨members, hread, hdedup⟩ := hp.members
  obtain ⟨hitems, -⟩ := mapM_requireString_eq_ok.mp hread
  rw [hdedup, List.mem_dedup]
  refine ⟨fun hin => ?_, fun hmem => ?_⟩
  · obtain ⟨metadata', members', hmetadata', hmembers', hmem⟩ := hin
    rw [hmetadata] at hmetadata'
    cases hmetadata'
    rw [hmembers] at hmembers'
    cases hmembers'
    rw [hitems] at hmem
    obtain ⟨member, hmember, heq⟩ := List.mem_map.mp hmem
    cases heq
    exact hmember
  · refine ⟨metadata, lists.2.1, hmetadata, hmembers, ?_⟩
    rw [hitems]
    exact List.mem_map_of_mem hmem

theorem featureOf_iff {id : String} {node : JsonDict} {features : List String}
    (h : nodeFeatures id node = .ok features) {feature : String} : FeatureOf node feature ↔ feature ∈ features := by
  have hget := nodeFeatures_eq_ok.mp h
  refine ⟨fun hfeature => ?_, fun hmem => ⟨_, hget, List.mem_map_of_mem hmem⟩⟩
  obtain ⟨items, hitems, hmem⟩ := hfeature
  rw [hget] at hitems
  cases hitems
  obtain ⟨other, hother, heq⟩ := List.mem_map.mp hmem
  cases heq
  exact hother

theorem kindOf_iff {package : JsonDict} {kinds : List String} (h : targetKinds package = .ok kinds)
    {kind : String} : KindOf package kind ↔ kind ∈ kinds := by
  obtain ⟨targets, found, htargets, -, hcollect, rfl⟩ := targetKinds_eq_ok.mp h
  rw [mem_sortedSet, mem_collect hcollect]
  refine ⟨fun hkind => ?_, fun hmem => ?_⟩
  · obtain ⟨targets', target, items, htargets', htarget, hitems, hmem⟩ := hkind
    rw [htargets] at htargets'
    cases htargets'
    obtain ⟨piece, hpiece⟩ := exists_of_collect hcollect htarget
    refine ⟨.dict target, htarget, piece, hpiece, ?_⟩
    obtain ⟨_, heq, hget, -⟩ := kindsOfTarget_eq_ok.mp hpiece
    cases heq
    rw [hitems] at hget
    cases hget
    obtain ⟨other, hother, heq⟩ := List.mem_map.mp hmem
    cases heq
    exact hother
  · obtain ⟨target, htarget, piece, hpiece, hmem⟩ := hmem
    obtain ⟨t, rfl, hget, -⟩ := kindsOfTarget_eq_ok.mp hpiece
    exact ⟨targets, t, _, htargets, htarget, hget, List.mem_map_of_mem hmem⟩

theorem HasIdentity.unique {package : JsonDict} {identity identity' : Identity}
    (h : HasIdentity host package identity) (h' : HasIdentity host package identity') : identity = identity' := by
  obtain ⟨checksum, h⟩ := h
  obtain ⟨checksum', h'⟩ := h'
  rw [componentIdentity] at h h'
  obtain ⟨name, hname, h⟩ := bind_eq_ok.mp h
  obtain ⟨version, hversion, h⟩ := bind_eq_ok.mp h
  rw [hname, ok_bind, hversion, ok_bind] at h'
  cases hsource : get package "source" with
  | null =>
    rw [hsource] at h h'
    exact Except.ok.inj (h.symm.trans h')
  | str text =>
    rw [hsource] at h h'
    obtain ⟨sourceText, hsourceText, h⟩ := bind_eq_ok.mp h
    obtain ⟨sourceText', hsourceText', h'⟩ := bind_eq_ok.mp h'
    obtain rfl : sourceText = sourceText' := Except.ok.inj (hsourceText.symm.trans hsourceText')
    -- the two calls differ only in the checksum, which they test and drop
    have hcore := (unit_bind_eq_ok.mp (unit_bind_eq_ok.mp h).2).2
    have hcore' := (unit_bind_eq_ok.mp (unit_bind_eq_ok.mp h').2).2
    exact Except.ok.inj (hcore.symm.trans hcore')
  | _ =>
    rw [hsource] at h
    cases h

/-- The row is that of the package. -/
structure RowAt (host : Host) (s : WorkspaceSnapshot) (package node : JsonDict) (row : Row) : Prop where
  occurs : Occurs host s row.candidate.toIdentity row.id package node
  scope : row.scope = s.scope
  features : ∀ x, x ∈ row.candidate.activatedFeatures ↔ FeatureOf node x
  kinds : ∀ x, x ∈ row.candidate.targetKinds ↔ KindOf package x
  members : ∀ x, x ∈ row.candidate.workspaceMemberScopes ↔ x = s.scope ∧ MemberIn s row.id

theorem rowAt_of_rowOf {checksums : Dict LockKey String} {p : SnapshotPackages}
    (hp : snapshotPackages s = .ok p) {id : String} {package : JsonDict}
    (hpackage : p.packageMap.get? id = some package) {row : Row}
    (h : RowOf host s checksums p (id, package) row) : ∃ node, RowAt host s package node row := by
  obtain ⟨checksum, identity, hchecksum, hidentity, hc⟩ := h.candidate
  obtain ⟨node, features, license, kinds, hnode, hfeatures, hlicense, hkinds, hcandidate⟩ :=
    candidateOf_eq_ok.mp hc
  have hid : row.id = id := h.id
  refine ⟨node, ⟨?_, ⟨checksum, ?_⟩⟩, h.scope, fun x => ?_, fun x => ?_, fun x => ?_⟩
  · rw [hid]
    exact (packageIn_iff hp).mpr ⟨hpackage, hnode⟩
  · rw [hcandidate]
    exact hidentity
  · rw [hcandidate, featureOf_iff hfeatures]
    exact mem_sortedSet
  · rw [hcandidate, kindOf_iff hkinds]
  · rw [hcandidate, memberIn_iff hp, hid]
    show x ∈ (if p.members.contains id then [s.scope] else []) ↔ _
    by_cases hmember : id ∈ p.members
    · rw [if_pos (List.contains_iff_mem.mpr hmember), List.mem_singleton]
      exact (and_iff_left hmember).symm
    · rw [if_neg fun hcontains => hmember (List.contains_iff_mem.mp hcontains)]
      refine ⟨fun hx => ?_, fun hx => absurd hx.2 hmember⟩
      cases hx

/-- Each row of a snapshot is that of a package of its metadata. -/
theorem Reads.row {c : Reading} (hc : Reads host s c) {row : Row} (hrow : row ∈ c.rows) :
    ∃ package node, RowAt host s package node row := by
  obtain ⟨⟨id, package⟩, hentry, hrowOf⟩ := exists_of_mem_right hc.rows hrow
  exact ⟨package, rowAt_of_rowOf hc.packages (Dict.get?_eq_some.mpr hentry) hrowOf⟩

/-- Each package of the metadata has its row. -/
theorem Reads.exists_row {c : Reading} (hc : Reads host s c) {id : String} {package node : JsonDict}
    (h : PackageIn s id package node) : ∃ row ∈ c.rows, row.id = id ∧ RowAt host s package node row := by
  obtain ⟨hpackage, hnode⟩ := (packageIn_iff hc.packages).mp h
  obtain ⟨row, hrow, hrowOf⟩ := exists_of_mem_left hc.rows (Dict.get?_eq_some.mp hpackage)
  obtain ⟨node', hat⟩ := rowAt_of_rowOf hc.packages hpackage hrowOf
  have hid : row.id = id := hrowOf.id
  have hnode' := ((packageIn_iff hc.packages).mp hat.occurs.present).2
  rw [hid, hnode] at hnode'
  cases hnode'
  exact ⟨row, hrow, hid, hat⟩

theorem Reads.get?_packageRefs {c : Reading} (hc : Reads host s c) {id ref : String} :
    c.packageRefs.get? id = some ref ↔ RefIn host s id ref := by
  rw [Dict.get?_eq_some, hc.packageRefs, List.mem_map]
  refine ⟨fun h => ?_, fun h => ?_⟩
  · obtain ⟨row, hrow, heq⟩ := h
    cases heq
    obtain ⟨package, node, hat⟩ := hc.row hrow
    exact ⟨row.candidate.toIdentity, package, node, hat.occurs, rfl⟩
  · obtain ⟨identity, package, node, hoccurs, rfl⟩ := h
    obtain ⟨row, hrow, rfl, hat⟩ := hc.exists_row hoccurs.present
    refine ⟨row, hrow, ?_⟩
    rw [hoccurs.identified.unique hat.occurs.identified]
    rfl

/-! ## The edges of a snapshot -/

/-- The target condition of the report. -/
def reported (condition : String) : Option String := if condition = "" then none else some condition

theorem isTarget_reported {value : Json} {condition : String} :
    IsTarget value (reported condition) ↔ IsCondition value condition := by
  rw [reported]
  split
  · rename_i hempty
    simp [IsTarget, IsCondition, hempty]
  · rename_i hne
    simp [IsTarget, IsCondition, hne]

theorem exists_reported {value : Json} {condition : Option String} (h : IsTarget value condition) :
    ∃ text, reported text = condition ∧ IsCondition value text := by
  cases condition with
  | none =>
    refine ⟨"", rfl, ?_⟩
    rw [← isTarget_reported]
    exact h
  | some text => exact ⟨text, if_neg h.1, .inr h.2⟩

theorem IsKind.unique {value : Json} {kind kind' : String} (h : IsKind value kind) (h' : IsKind value kind') :
    kind = kind' := by
  rcases h with ⟨hnull, rfl⟩ | hstr
  · rcases h' with ⟨-, rfl⟩ | hstr
    · rfl
    · rw [hnull] at hstr
      cases hstr
  · rcases h' with ⟨hnull, -⟩ | hstr'
    · rw [hnull] at hstr
      cases hstr
    · exact Json.str.inj (hstr.symm.trans hstr')

theorem IsCondition.unique {value : Json} {condition condition' : String} (h : IsCondition value condition)
    (h' : IsCondition value condition') : condition = condition' := by
  have hok := targetCondition_eq_ok.mpr h
  rw [targetCondition_eq_ok.mpr h'] at hok
  exact (Except.ok.inj hok).symm

variable {packageRefs : Dict String String}

theorem kindEdge_eq_ok {nodeId name id : String} {value : Json} {edge : Edge} :
    kindEdge s packageRefs nodeId name id value = .ok edge ↔
      ∃ kind condition source target, dependencyKind value = .ok (kind, condition) ∧
        packageRefs.get? nodeId = some source ∧ packageRefs.get? id = some target ∧
        edge = edgeOf s.scope source target name kind condition := by
  rw [kindEdge]
  simp only [bind_eq_ok, lookupKey_eq_ok, pure_eq, Except.ok.injEq]
  refine ⟨fun h => ?_, fun h => ?_⟩
  · obtain ⟨⟨kind, condition⟩, hkind, source, hsource, target, htarget, rfl⟩ := h
    exact ⟨kind, condition, source, target, hkind, hsource, htarget, rfl⟩
  · obtain ⟨kind, condition, source, target, hkind, hsource, htarget, rfl⟩ := h
    exact ⟨(kind, condition), hkind, source, hsource, target, htarget, rfl⟩

/-- An edge of a dependency kind. -/
def KindEdgeAt (s : WorkspaceSnapshot) (packageRefs : Dict String String) (nodeId name id : String)
    (value : JsonDict) (edge : Edge) : Prop :=
  ∃ source target kind condition, packageRefs.get? nodeId = some source ∧ packageRefs.get? id = some target ∧
    IsKind (get value "kind") kind ∧ IsCondition (get value "target") condition ∧
    edge = edgeOf s.scope source target name kind condition

theorem KindEdgeAt.unique {nodeId name id : String} {value : JsonDict} {edge edge' : Edge}
    (h : KindEdgeAt s packageRefs nodeId name id value edge)
    (h' : KindEdgeAt s packageRefs nodeId name id value edge') : edge = edge' := by
  obtain ⟨source, target, kind, condition, hsource, htarget, hkind, hcondition, rfl⟩ := h
  obtain ⟨source', target', kind', condition', hsource', htarget', hkind', hcondition', rfl⟩ := h'
  rw [hsource, Option.some.injEq] at hsource'
  rw [htarget, Option.some.injEq] at htarget'
  rw [hsource', htarget', hkind.unique hkind', hcondition.unique hcondition']

theorem kindEdgeAt_of_ok {nodeId name id : String} {value : Json} {edge : Edge}
    (h : kindEdge s packageRefs nodeId name id value = .ok edge) :
    ∃ v, value = .dict v ∧ KindEdgeAt s packageRefs nodeId name id v edge := by
  obtain ⟨kind, condition, source, target, hread, hsource, htarget, rfl⟩ := kindEdge_eq_ok.mp h
  obtain ⟨v, rfl, hkind, -, hcondition⟩ := dependencyKind_eq_ok.mp hread
  exact ⟨v, rfl, source, target, kind, condition, hsource, htarget, hkind, hcondition, rfl⟩

/-- The edges of a dependency are those of its kinds. -/
theorem mem_dependencyEdges {nodeId : String} {dependency : JsonDict} {edges : List Edge}
    (h : dependencyEdges s packageRefs nodeId (.dict dependency) = .ok edges) {edge : Edge} :
    edge ∈ edges ↔ ∃ name id kinds value, get dependency "name" = .str name ∧ get dependency "pkg" = .str id ∧
      get dependency "dep_kinds" = .list kinds ∧ .dict value ∈ kinds ∧
      KindEdgeAt s packageRefs nodeId name id value edge := by
  obtain ⟨⟨name, id, kinds⟩, hfields, hcollect⟩ := bind_eq_ok.mp h
  obtain ⟨_, heq, hname, hid, -, hkinds, -⟩ := dependencyFields_eq_ok.mp hfields
  cases heq
  rw [mem_collect hcollect]
  refine ⟨fun hmem => ?_, fun hat => ?_⟩
  · obtain ⟨value, hvalue, piece, hpiece, hedge⟩ := hmem
    obtain ⟨found, hfound, rfl⟩ := map_eq_ok.mp hpiece
    obtain rfl := List.mem_singleton.mp hedge
    obtain ⟨v, rfl, hat⟩ := kindEdgeAt_of_ok hfound
    exact ⟨name, id, kinds, v, hname.1, hid.1, hkinds, hvalue, hat⟩
  · obtain ⟨name', id', kinds', value, hname', hid', hkinds', hvalue, hat⟩ := hat
    obtain rfl : name = name' := Json.str.inj (hname.1.symm.trans hname')
    obtain rfl : id = id' := Json.str.inj (hid.1.symm.trans hid')
    obtain rfl : kinds = kinds' := Json.list.inj (hkinds.symm.trans hkinds')
    obtain ⟨piece, hpiece⟩ := exists_of_collect hcollect hvalue
    refine ⟨.dict value, hvalue, piece, hpiece, ?_⟩
    obtain ⟨found, hfound, rfl⟩ := map_eq_ok.mp hpiece
    obtain ⟨_, heq, hfoundAt⟩ := kindEdgeAt_of_ok hfound
    cases heq
    exact List.mem_singleton.mpr (hat.unique hfoundAt)

/-- An edge of a resolve node, between the references of its packages. -/
def EdgeAt (s : WorkspaceSnapshot) (packageRefs : Dict String String) (nodeId : String) (node : JsonDict)
    (edge : Edge) : Prop :=
  ∃ source target name id kind condition, packageRefs.get? nodeId = some source ∧
    packageRefs.get? id = some target ∧ NodeEdge node name id kind (reported condition) ∧
    edge = edgeOf s.scope source target name kind condition

theorem mem_nodeEdges {nodeId : String} {node : JsonDict} {edges : List Edge}
    (h : nodeEdges s packageRefs (nodeId, node) = .ok edges) {edge : Edge} :
    edge ∈ edges ↔ EdgeAt s packageRefs nodeId node edge := by
  obtain ⟨deps, hdeps, hcollect⟩ := bind_eq_ok.mp h
  rw [nodeDependencies_eq_ok] at hdeps
  rw [mem_collect hcollect]
  refine ⟨fun hmem => ?_, fun hat => ?_⟩
  · obtain ⟨dependency, hdependency, found, hfound, hedge⟩ := hmem
    obtain ⟨fields, hfields, -⟩ := bind_eq_ok.mp hfound
    obtain ⟨d, rfl, -⟩ := dependencyFields_eq_ok.mp hfields
    obtain ⟨name, id, kinds, value, hname, hid, hkinds, hvalue, hat⟩ := (mem_dependencyEdges hfound).mp hedge
    obtain ⟨source, target, kind, condition, hsource, htarget, hkind, hcondition, rfl⟩ := hat
    exact ⟨source, target, name, id, kind, condition, hsource, htarget, ⟨deps, d, kinds, value, hdeps,
      hdependency, hname, hid, hkinds, hvalue, hkind, isTarget_reported.mpr hcondition⟩, rfl⟩
  · obtain ⟨source, target, name, id, kind, condition, hsource, htarget, hnode, rfl⟩ := hat
    obtain ⟨deps', d, kinds, value, hdeps', hdependency, hname, hid, hkinds, hvalue, hkind, hcondition⟩ := hnode
    obtain rfl : deps = deps' := Json.list.inj (hdeps.symm.trans hdeps')
    obtain ⟨found, hfound⟩ := exists_of_collect hcollect hdependency
    refine ⟨.dict d, hdependency, found, hfound, ?_⟩
    exact (mem_dependencyEdges hfound).mpr ⟨name, id, kinds, value, hname, hid, hkinds, hvalue, source, target,
      kind, condition, hsource, htarget, hkind, isTarget_reported.mp hcondition, rfl⟩

/-- Every edge of a snapshot comes from its metadata. -/
theorem Reads.edgeIn {c : Reading} (hc : Reads host s c) {edge : Edge} (h : edge ∈ c.edges) :
    EdgeIn host s edge.dependency := by
  obtain ⟨⟨id, node⟩, hentry, edges, hedges, hmem⟩ := (mem_collect hc.edges).mp h
  obtain ⟨source, target, name, id', kind, condition, hsource, htarget, hnode, rfl⟩ := (mem_nodeEdges hedges).mp hmem
  obtain ⟨identity, package, node', hoccurs, href⟩ := hc.get?_packageRefs.mp hsource
  obtain ⟨-, hnode'⟩ := (packageIn_iff hc.packages).mp hoccurs.present
  rw [Dict.get?_eq_some.mpr hentry] at hnode'
  cases hnode'
  exact ⟨rfl, id, id', package, node, hoccurs.present, ⟨identity, package, node, hoccurs, href⟩,
    hc.get?_packageRefs.mp htarget, hnode⟩

/-- Every edge of the metadata is one of the snapshot. -/
theorem Reads.exists_edge {c : Reading} (hc : Reads host s c) {d : Dependency} (h : EdgeIn host s d) :
    ∃ edge ∈ c.edges, edge.dependency = d := by
  obtain ⟨hscope, id, id', package, node, hpackage, hsource, htarget, hnode⟩ := h
  obtain ⟨scope, source, target, name, kind, condition⟩ := d
  obtain ⟨-, hentry⟩ := (packageIn_iff hc.packages).mp hpackage
  obtain rfl : scope = s.scope := hscope
  obtain ⟨deps, dependency, kinds, value, hdeps, hdependency, hname, hid, hget, hvalue, hkind, hcondition⟩ := hnode
  obtain ⟨text, rfl, htext⟩ := exists_reported hcondition
  obtain ⟨edges, hedges⟩ := exists_of_collect hc.edges (Dict.get?_eq_some.mp hentry)
  refine ⟨edgeOf s.scope source target name kind text, (mem_collect hc.edges).mpr ⟨(id, node),
    Dict.get?_eq_some.mp hentry, edges, hedges, (mem_nodeEdges hedges).mpr ⟨source, target, name, id', kind, text,
      hc.get?_packageRefs.mpr hsource, hc.get?_packageRefs.mpr htarget, ⟨deps, dependency, kinds, value, hdeps,
        hdependency, hname, hid, hget, hvalue, hkind, hcondition⟩, rfl⟩⟩, rfl⟩

theorem reported_injective {condition condition' : String} (h : reported condition = reported condition') :
    condition = condition' := by
  have hcondition := isTarget_reported.mpr (.inr rfl : IsCondition (.str condition) condition)
  rw [h, isTarget_reported] at hcondition
  exact IsCondition.unique (.inr rfl) hcondition

theorem dependency_injective {edge edge' : Edge} (h : edge.dependency = edge'.dependency) : edge = edge' := by
  obtain ⟨scope, source, target, name, kind, condition⟩ := edge
  obtain ⟨scope', source', target', name', kind', condition'⟩ := edge'
  have hfields : Dependency.mk scope source target name kind (reported condition) =
      Dependency.mk scope' source' target' name' kind' (reported condition') := h
  obtain ⟨rfl, rfl, rfl, rfl, rfl, hcondition⟩ := Dependency.mk.inj hfields
  rw [reported_injective hcondition]

/-! ## The contents of the report -/

/-- The component unites the packages with its identity. -/
structure Unites (host : Host) (workspaces : List WorkspaceSnapshot) (c : Component) : Prop where
  ascending : ∀ field ∈ unionFields, (field c).Pairwise (· < ·)
  scopes : ∀ x, x ∈ c.scopes ↔
    ∃ s ∈ workspaces, ∃ id package node, Occurs host s c.toIdentity id package node ∧ x = s.scope
  features : ∀ x, x ∈ c.activatedFeatures ↔
    ∃ s ∈ workspaces, ∃ id package node, Occurs host s c.toIdentity id package node ∧ FeatureOf node x
  kinds : ∀ x, x ∈ c.targetKinds ↔
    ∃ s ∈ workspaces, ∃ id package node, Occurs host s c.toIdentity id package node ∧ KindOf package x
  members : ∀ x, x ∈ c.workspaceMemberScopes ↔
    ∃ s ∈ workspaces, ∃ id package node, Occurs host s c.toIdentity id package node ∧ x = s.scope ∧ MemberIn s id

/-- The report lists what the snapshots contain, each thing once. -/
structure Complete (host : Host) (workspaces : List WorkspaceSnapshot) (r : Sbom) : Prop where
  once : (r.components.map fun c => c.toIdentity).Nodup
  identities : ∀ identity, (∃ c ∈ r.components, c.toIdentity = identity) ↔
    ∃ s ∈ workspaces, ∃ id package node, Occurs host s identity id package node
  components : ∀ c ∈ r.components, Unites host workspaces c
  dependenciesOnce : r.dependencies.Nodup
  dependencies : ∀ d, d ∈ r.dependencies ↔ ∃ s ∈ workspaces, EdgeIn host s d

/-- The readings of all snapshots of a call. -/
structure AllRead (host : Host) (workspaces : List WorkspaceSnapshot) (cs : List Reading) : Prop where
  read : ∀ s ∈ workspaces, ∃ c ∈ cs, Reads host s c
  only : ∀ c ∈ cs, ∃ s ∈ workspaces, Reads host s c

theorem allRead {workspaces : List WorkspaceSnapshot} {cs : List Reading}
    (h : List.Forall₂ (Reads host) (sortedSnapshots workspaces) cs) : AllRead host workspaces cs where
  read s hs := exists_of_mem_left h ((List.mem_insertionSort _).mpr hs)
  only c hc := by
    obtain ⟨s, hs, hread⟩ := exists_of_mem_right h hc
    exact ⟨s, (List.mem_insertionSort _).mp hs, hread⟩

section Report

variable {workspaces : List WorkspaceSnapshot} {cs : List Reading}

theorem AllRead.row (h : AllRead host workspaces cs) {row : Row} (hrow : row ∈ cs.flatMap Reading.rows) :
    ∃ s ∈ workspaces, ∃ package node, RowAt host s package node row := by
  obtain ⟨c, hc, hrow⟩ := List.mem_flatMap.mp hrow
  obtain ⟨s, hs, hread⟩ := h.only c hc
  exact ⟨s, hs, hread.row hrow⟩

theorem AllRead.exists_row (h : AllRead host workspaces cs) (hs : s ∈ workspaces) {identity : Identity}
    {id : String} {package node : JsonDict} (hoccurs : Occurs host s identity id package node) :
    ∃ row ∈ cs.flatMap Reading.rows, row.id = id ∧ row.candidate.toIdentity = identity ∧
      RowAt host s package node row := by
  obtain ⟨c, hc, hread⟩ := h.read s hs
  obtain ⟨row, hrow, hid, hat⟩ := hread.exists_row hoccurs.present
  exact ⟨row, List.mem_flatMap.mpr ⟨c, hc, hrow⟩, hid, hat.occurs.identified.unique hoccurs.identified, hat⟩

/-- The rows of one reference are those of one identity. -/
theorem ref_eq_iff {components : Dict String Component} (h : Merged (cs.flatMap Reading.rows) components)
    {c : Component} (hc : components.get? c.bomRef = some c) {row : Row} (hrow : row ∈ cs.flatMap Reading.rows) :
    row.ref = c.bomRef ↔ row.candidate.toIdentity = c.toIdentity := by
  refine ⟨fun href => ?_, fun hidentity => congrArg Identity.bomRef hidentity⟩
  exact congrArg Prod.fst ((h.summary _ c hc).shared row ⟨hrow, href⟩)

/-- What a component has in a set is what the packages with its identity have in it. -/
theorem mem_field_iff (hread : AllRead host workspaces cs) {components : Dict String Component}
    (h : Merged (cs.flatMap Reading.rows) components) {c : Component}
    (hc : components.get? c.bomRef = some c) (field : Component → List String) (hfield : field ∈ unionFields)
    {P : WorkspaceSnapshot → String → JsonDict → JsonDict → String → Prop}
    (hP : ∀ s package node row, RowAt host s package node row →
      ∀ x, x ∈ field row.candidate ↔ P s row.id package node x) (x : String) :
    x ∈ field c ↔
      ∃ s ∈ workspaces, ∃ id package node, Occurs host s c.toIdentity id package node ∧ P s id package node x := by
  rw [(h.summary _ c hc).union field hfield]
  refine ⟨fun hx => ?_, fun hx => ?_⟩
  · obtain ⟨row, ⟨hrow, href⟩, hx⟩ := hx
    obtain ⟨s, hs, package, node, hat⟩ := hread.row hrow
    have hoccurs := hat.occurs
    rw [(ref_eq_iff h hc hrow).mp href] at hoccurs
    exact ⟨s, hs, row.id, package, node, hoccurs, (hP s package node row hat x).mp hx⟩
  · obtain ⟨s, hs, id, package, node, hoccurs, hx⟩ := hx
    obtain ⟨row, hrow, rfl, hidentity, hat⟩ := hread.exists_row hs hoccurs
    exact ⟨row, ⟨hrow, (ref_eq_iff h hc hrow).mpr hidentity⟩, (hP s package node row hat x).mpr hx⟩

theorem unites_of_merged (hread : AllRead host workspaces cs) {components : Dict String Component}
    (h : Merged (cs.flatMap Reading.rows) components) {c : Component}
    (hc : components.get? c.bomRef = some c) : Unites host workspaces c where
  ascending := (h.summary _ c hc).ascending
  scopes := by
    apply mem_field_iff hread h hc (fun c => c.scopes) (by simp [unionFields])
    intro s package node row hat x
    rw [row.scopes, List.mem_singleton, hat.scope]
  features := by
    apply mem_field_iff hread h hc (fun c => c.activatedFeatures) (by simp [unionFields])
    exact fun s package node row hat => hat.features
  kinds := by
    apply mem_field_iff hread h hc (fun c => c.targetKinds) (by simp [unionFields])
    exact fun s package node row hat => hat.kinds
  members := by
    apply mem_field_iff hread h hc (fun c => c.workspaceMemberScopes) (by simp [unionFields])
    exact fun s package node row hat => hat.members

theorem mem_components {components : Dict String Component} (h : Merged (cs.flatMap Reading.rows) components)
    {edges : List Edge} {reports : List WorkspaceReport} {c : Component} :
    c ∈ (sbomReport host components edges reports).components ↔ components.get? c.bomRef = some c := by
  show c ∈ (components.items.map Prod.snd).insertionSort _ ↔ _
  rw [List.mem_insertionSort, List.mem_map]
  refine ⟨fun hmem => ?_, fun hc => ⟨(c.bomRef, c), Dict.get?_eq_some.mp hc, rfl⟩⟩
  obtain ⟨⟨ref, _⟩, hitem, rfl⟩ := hmem
  have hc := Dict.get?_eq_some.mpr hitem
  rw [h.bomRef hc]
  exact hc

/-- The identities of the components are those of the rows. -/
theorem exists_component_iff (hread : AllRead host workspaces cs) {components : Dict String Component}
    (h : Merged (cs.flatMap Reading.rows) components) {identity : Identity} :
    (∃ c : Component, components.get? c.bomRef = some c ∧ c.toIdentity = identity) ↔
      ∃ s ∈ workspaces, ∃ id package node, Occurs host s identity id package node := by
  refine ⟨fun hcomponent => ?_, fun hoccurs => ?_⟩
  · obtain ⟨c, hc, rfl⟩ := hcomponent
    obtain ⟨row, hrow, href⟩ := h.present _ c hc
    obtain ⟨s, hs, package, node, hat⟩ := hread.row hrow
    have hoccurs := hat.occurs
    rw [(ref_eq_iff h hc hrow).mp href] at hoccurs
    exact ⟨s, hs, row.id, package, node, hoccurs⟩
  · obtain ⟨s, hs, id, package, node, hoccurs⟩ := hoccurs
    obtain ⟨row, hrow, -, rfl, -⟩ := hread.exists_row hs hoccurs
    obtain ⟨c, hc⟩ := h.complete row hrow
    have href : c.bomRef = row.ref := h.bomRef hc
    rw [← href] at hc
    exact ⟨c, hc, ((ref_eq_iff h hc hrow).mp href.symm).symm⟩

/-- What is reported is complete. -/
theorem Amounts.complete {r : Sbom} (hread : AllRead host workspaces cs) (hr : Amounts host cs r) :
    Complete host workspaces r := by
  obtain ⟨components, h, rfl⟩ := hr.report
  have hsorted := List.perm_insertionSort (fun edge edge' : Edge => edge ≤ edge') (cs.flatMap Reading.edges)
  refine ⟨?_, fun identity => ?_, fun c hc => unites_of_merged hread h ((mem_components h).mp hc), ?_,
    fun d => ?_⟩
  · have hrefs : ((components.items.map Prod.snd).map fun c => c.bomRef).Nodup := by
      rw [h.bomRefs]
      exact components.nodup
    have hperm := List.perm_insertionSort (fun c c' : Component => c.bomRef ≤ c'.bomRef)
      (components.items.map Prod.snd)
    apply List.Nodup.of_map Identity.bomRef
    rw [List.map_map]
    exact (hperm.map _).nodup_iff.mpr hrefs
  · rw [← exists_component_iff hread h]
    simp only [mem_components h]
  · exact (hsorted.nodup_iff.mpr hr.edges).map fun _ _ => dependency_injective
  · show d ∈ ((cs.flatMap Reading.edges).insertionSort _).map Edge.dependency ↔ _
    rw [(hsorted.map Edge.dependency).mem_iff, List.mem_map]
    refine ⟨fun hd => ?_, fun hd => ?_⟩
    · obtain ⟨edge, hedge, rfl⟩ := hd
      obtain ⟨c, hc, hedge⟩ := List.mem_flatMap.mp hedge
      obtain ⟨s, hs, hreads⟩ := hread.only c hc
      exact ⟨s, hs, hreads.edgeIn hedge⟩
    · obtain ⟨s, hs, hd⟩ := hd
      obtain ⟨c, hc, hreads⟩ := hread.read s hs
      obtain ⟨edge, hedge, rfl⟩ := hreads.exists_edge hd
      exact ⟨edge, List.mem_flatMap.mpr ⟨c, hc, hedge⟩, rfl⟩

end Report

/-! ## Order independence and completeness -/

/-- The call ends with a `BomError`. -/
def Rejected (x : Except Raised Sbom) : Prop := ∃ e, x = .error e ∧ e.type = .checkFailed

/-- **Order independence and completeness.** In whatever order the snapshots and the lists of
their metadata come, `build_sbom` raises a `BomError` or returns the same report. A report has
each package identity once, with the exact unions over the packages that have it, and each
edge once. -/
theorem sbom_order_independent_complete (host : Host) (workspaces : List WorkspaceSnapshot) :
    (∀ workspaces', Rearranged workspaces workspaces' →
      (Rejected (buildSbom host workspaces) ∧ Rejected (buildSbom host workspaces')) ∨
        ∃ r, buildSbom host workspaces = .ok r ∧ buildSbom host workspaces' = .ok r) ∧
    ∀ r, buildSbom host workspaces = .ok r → Complete host workspaces r := by
  refine ⟨fun workspaces' h => ?_, fun r hok => ?_⟩
  · rcases ok_or_error (buildSbom host workspaces) with ⟨r, hr⟩ | ⟨e, he⟩
    · exact .inr ⟨r, hr, buildSbom_transfer h hr⟩
    · rcases ok_or_error (buildSbom host workspaces') with ⟨r, hr⟩ | ⟨e', he'⟩
      · exact .inr ⟨r, buildSbom_transfer h.symm hr, hr⟩
      · exact .inl ⟨⟨e, he, buildSbom_checked _ e he⟩, ⟨e', he', buildSbom_checked _ e' he'⟩⟩
  · obtain ⟨-, -, cs, hcs, hr⟩ := buildSbom_eq_ok.mp hok
    exact hr.complete (allRead hcs)

section Samples

/-- Name and version, as one text. -/
def nameAndVersion : Json → String
  | .dict d =>
    match get d "name", get d "version" with
    | .str name, .str version => name ++ "@" ++ version
    | _, _ => ""
  | _ => ""

/-- A lockfile with one package. -/
def lockText : String :=
  "version = 4\n\n[[package]]\nname = \"sha2\"\nversion = \"0.10.9\"\n" ++
    "source = \"registry+index\"\n" ++
    "checksum = \"0123456789abcdef0123456789abcdef0123456789abcdef0123456789abcdef\"\n"

/-- A host that decodes this lockfile, and whose digests are the texts themselves. -/
def cargoHost : Host where
  canonicalJson _ := ""
  compactJson := nameAndVersion
  sha256 bytes := String.ofList (bytes.map fun b => Char.ofNat b.toNat)
  tomlLoads bytes :=
    if bytes = utf8 lockText then
      some [("version", .int 4), ("package", .list [.dict [("name", .str "sha2"),
        ("version", .str "0.10.9"), ("source", .str "registry+index"),
        ("checksum", .str "0123456789abcdef0123456789abcdef0123456789abcdef0123456789abcdef")]])]
    else none
  repositoryPath path := some path
  isFile _ := false
  isSymlink _ := false

def cargoPackage (name version : String) (source : Json) : Json :=
  .dict [("id", .str name), ("name", .str name), ("version", .str version), ("source", source),
    ("manifest_path", .str (name ++ "/Cargo.toml")), ("targets", .list [.dict [("kind", texts ["lib"])]])]

def sha2Package : Json := cargoPackage "sha2" "0.10.9" (.str "registry+index")

def cargoNode (name : String) (features : List String) (deps : List Json) : Json :=
  .dict [("id", .str name), ("features", texts features), ("deps", .list deps)]

def sha2Dependency (kinds : List Json) : Json :=
  .dict [("name", .str "sha2"), ("pkg", .str "sha2"), ("dep_kinds", .list kinds)]

def normalKind : Json := .dict []

def devKind : Json := .dict [("kind", .str "dev"), ("target", .str "cfg(unix)")]

def cargoSnapshot (scope : String) (packages nodes : List Json) (members : List String) : WorkspaceSnapshot where
  scope := scope
  manifestPath := "Cargo.toml"
  lockfilePath := "Cargo.lock"
  metadata := .dict [("packages", .list packages), ("workspace_members", texts members),
    ("resolve", .dict [("nodes", .list nodes)])]
  lockfileBytes := utf8 lockText

def rootSnapshot : WorkspaceSnapshot :=
  cargoSnapshot "root" [cargoPackage "zrm" "0.1.0" .null, sha2Package]
    [cargoNode "zrm" [] [sha2Dependency [normalKind, devKind]], cargoNode "sha2" ["std", "alloc"] []] ["zrm"]

/-- The same, in another order. -/
def rootSnapshot' : WorkspaceSnapshot :=
  cargoSnapshot "root" [sha2Package, cargoPackage "zrm" "0.1.0" .null]
    [cargoNode "sha2" ["alloc", "std"] [], cargoNode "zrm" [] [sha2Dependency [devKind, normalKind]]] ["zrm"]

def fuzzSnapshot : WorkspaceSnapshot :=
  cargoSnapshot "fuzz" [cargoPackage "fuzz" "0.0.0" .null, sha2Package]
    [cargoNode "fuzz" [] [sha2Dependency [normalKind]], cargoNode "sha2" ["default"] []] ["fuzz"]

theorem sha2Dependency_altered :
    (Tolerance.altered dependencyDifferences).Rel (sha2Dependency [normalKind, devKind])
      (sha2Dependency [devKind, normalKind]) :=
  .inr ⟨_, _, rfl, rfl, .of_forall₂ (.cons ⟨rfl, rfl⟩ (.cons ⟨rfl, rfl⟩ (.cons ⟨rfl,
    .inr ⟨_, _, rfl, rfl, .of_perm (.swap _ _ _)⟩⟩ .nil)))⟩

theorem zrmNode_altered :
    (Tolerance.altered nodeDifferences).Rel (cargoNode "zrm" [] [sha2Dependency [normalKind, devKind]])
      (cargoNode "zrm" [] [sha2Dependency [devKind, normalKind]]) :=
  .inr ⟨_, _, rfl, rfl, .of_forall₂ (.cons ⟨rfl, rfl⟩ (.cons ⟨rfl, .inl rfl⟩ (.cons ⟨rfl,
    .inr ⟨_, _, rfl, rfl, _, .refl _, .cons sha2Dependency_altered .nil⟩⟩ .nil)))⟩

theorem sha2Node_altered :
    (Tolerance.altered nodeDifferences).Rel (cargoNode "sha2" ["std", "alloc"] [])
      (cargoNode "sha2" ["alloc", "std"] []) :=
  .inr ⟨_, _, rfl, rfl, .of_forall₂ (.cons ⟨rfl, rfl⟩ (.cons ⟨rfl,
    .inr ⟨_, _, rfl, rfl, .of_perm (.swap _ _ _)⟩⟩ (.cons ⟨rfl, .inl rfl⟩ .nil)))⟩

theorem rootSnapshot_same : SameSnapshot rootSnapshot rootSnapshot' where
  scope := rfl
  manifestPath := rfl
  lockfilePath := rfl
  lockfileBytes := rfl
  metadata := by
    refine .inr ⟨_, _, rfl, rfl, .of_forall₂ (.cons ⟨rfl, .inr ⟨_, _, rfl, rfl, ?_⟩⟩ (.cons ⟨rfl, .inl rfl⟩
      (.cons ⟨rfl, .inr ⟨_, _, rfl, rfl, .of_forall₂ (.cons ⟨rfl, .inr ⟨_, _, rfl, rfl, ?_⟩⟩ .nil)⟩⟩ .nil)))⟩
    · exact ⟨_, .swap _ _ _, .cons (.inl rfl) (.cons (.inl rfl) .nil)⟩
    · exact ⟨_, .swap _ _ _, .cons sha2Node_altered (.cons zrmNode_altered .nil)⟩

theorem samples_rearranged : Rearranged [rootSnapshot, fuzzSnapshot] [fuzzSnapshot, rootSnapshot'] :=
  ⟨_, .swap _ _ _, .cons ⟨rfl, rfl, rfl, rfl, .inl rfl⟩ (.cons rootSnapshot_same .nil)⟩

theorem samples_accepted : err? (buildSbom cargoHost [rootSnapshot, fuzzSnapshot]) = none := by decide +kernel

theorem sbom_order_independent_complete_shared :
    ∃ r, buildSbom cargoHost [fuzzSnapshot, rootSnapshot'] = .ok r ∧
      Complete cargoHost [rootSnapshot, fuzzSnapshot] r := by
  obtain ⟨horder, hcomplete⟩ := sbom_order_independent_complete cargoHost [rootSnapshot, fuzzSnapshot]
  obtain ⟨r, hr⟩ := err?_eq_none.mp samples_accepted
  rcases horder _ samples_rearranged with ⟨hrejected, -⟩ | ⟨r', hr', hrearranged⟩
  · obtain ⟨e, he, -⟩ := hrejected
    rw [hr] at he
    cases he
  · exact ⟨r', hrearranged, hcomplete r' hr'⟩

end Samples

end Zrm.L6.Bom
