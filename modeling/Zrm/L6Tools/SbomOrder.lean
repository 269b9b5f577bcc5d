import Zrm.L6Tools.SbomReading

/-!
# The order of the inputs

Cargo fixes no order for the lists of its metadata. `Rearranged` relates two sequences of
snapshots that differ in the order of the snapshots, and in their metadata in the order of
the lists; the reports made from them are equal.

* `Reads.transfer`: what a rearranged snapshot says.
* `buildSbom_transfer`: the report of rearranged snapshots.
-/
namespace Zrm.L6.Bom

open Placement Result Value

/-! ## Rearranged values -/

/-- A relation between values that may replace each other. -/
structure Tolerance where
  Rel : Json → Json → Prop
  refl : ∀ a, Rel a a
  symm : ∀ a b, Rel a b → Rel b a

def Tolerance.equal : Tolerance := ⟨Eq, fun _ => rfl, fun _ _ h => h.symm⟩

/-- Two lists with related items in another order, or one value. -/
def Tolerance.permuted (R : Tolerance) : Tolerance where
  Rel a b := a = b ∨ ∃ l l', a = .list l ∧ b = .list l' ∧ Shuffle R.Rel l l'
  refl _ := .inl rfl
  symm a b hab := by
    rcases hab with rfl | ⟨l, l', rfl, rfl, hl⟩
    · exact .inl rfl
    · exact .inr ⟨l', l, rfl, rfl, hl.symm R.symm⟩

/-- Fields that may differ, with how. -/
abbrev Differences := List (String × Tolerance)

def Differences.at (differences : Differences) (key : String) : Tolerance :=
  (differences.lookup key).getD .equal

/-- Two objects that differ only in some of their fields. -/
def SameBut (differences : Differences) (d d' : JsonDict) : Prop :=
  ∀ key, (differences.at key).Rel (get d key) (get d' key)

/-- Two such objects, or one value. -/
def Tolerance.altered (differences : Differences) : Tolerance where
  Rel a b := a = b ∨ ∃ d d', a = .dict d ∧ b = .dict d' ∧ SameBut differences d d'
  refl _ := .inl rfl
  symm a b hab := by
    rcases hab with rfl | ⟨d, d', rfl, rfl, hd⟩
    · exact .inl rfl
    · exact .inr ⟨d', d, rfl, rfl, fun key => (differences.at key).symm _ _ (hd key)⟩

theorem Tolerance.permuted_list {R : Tolerance} {l : List Json} {b : Json} (h : R.permuted.Rel (.list l) b) :
    ∃ l', b = .list l' ∧ Shuffle R.Rel l l' := by
  rcases h with rfl | ⟨l₁, l', heq, rfl, hl⟩
  · exact ⟨l, rfl, .refl R.refl l⟩
  · cases heq
    exact ⟨l', rfl, hl⟩

theorem Tolerance.altered_dict {differences : Differences} {d : JsonDict} {b : Json}
    (h : (altered differences).Rel (.dict d) b) : ∃ d', b = .dict d' ∧ SameBut differences d d' := by
  rcases h with rfl | ⟨d₁, d', heq, rfl, hd⟩
  · exact ⟨d, rfl, fun key => (differences.at key).refl _⟩
  · cases heq
    exact ⟨d', rfl, hd⟩

theorem SameBut.get_eq {differences : Differences} {d d' : JsonDict} (h : SameBut differences d d')
    (key : String) (hkey : differences.lookup key = none) : get d key = get d' key := by
  have hget := h key
  rw [Differences.at, hkey] at hget
  exact hget

theorem SameBut.list {differences : Differences} {d d' : JsonDict} (h : SameBut differences d d')
    {key : String} {R : Tolerance} (hkey : differences.lookup key = some R.permuted) {l : List Json}
    (hl : get d key = .list l) : ∃ l', get d' key = .list l' ∧ Shuffle R.Rel l l' := by
  have hget := h key
  rw [Differences.at, hkey, hl] at hget
  exact Tolerance.permuted_list hget

/-- Objects with the same keys, field by field. -/
theorem SameBut.of_forall₂ {differences : Differences} {d d' : JsonDict}
    (h : List.Forall₂ (fun x y => x.1 = y.1 ∧ (differences.at x.1).Rel x.2 y.2) d d') :
    SameBut differences d d' := by
  intro key
  induction h with
  | nil => exact (differences.at key).refl _
  | @cons x y d d' hxy _ ih =>
    obtain ⟨k, v⟩ := x
    obtain ⟨k', v'⟩ := y
    obtain ⟨rfl, hv⟩ := hxy
    rw [Value.get, Value.get, Dict.lookup_cons_ite, Dict.lookup_cons_ite]
    by_cases hkey : key = k
    · rw [if_pos hkey, if_pos hkey, hkey]
      exact hv
    · rw [if_neg hkey, if_neg hkey]
      exact ih

/-! ## Rearranged snapshots -/

def packageDifferences : Differences := [("targets", .permuted .equal)]

def dependencyDifferences : Differences := [("dep_kinds", .permuted .equal)]

def nodeDifferences : Differences :=
  [("features", .permuted .equal), ("deps", .permuted (.altered dependencyDifferences))]

def resolveDifferences : Differences := [("nodes", .permuted (.altered nodeDifferences))]

def metadataDifferences : Differences :=
  [("packages", .permuted (.altered packageDifferences)), ("workspace_members", .permuted .equal),
    ("resolve", .altered resolveDifferences)]

/-- The metadata of the two snapshots differs in the order of its lists. -/
structure SameSnapshot (s s' : WorkspaceSnapshot) : Prop where
  scope : s.scope = s'.scope
  manifestPath : s.manifestPath = s'.manifestPath
  lockfilePath : s.lockfilePath = s'.lockfilePath
  lockfileBytes : s.lockfileBytes = s'.lockfileBytes
  metadata : (Tolerance.altered metadataDifferences).Rel s.metadata s'.metadata

/-- The snapshots of the one sequence are those of the other, in any order. -/
def Rearranged (workspaces workspaces' : List WorkspaceSnapshot) : Prop :=
  Shuffle SameSnapshot workspaces workspaces'

theorem SameSnapshot.symm {s s' : WorkspaceSnapshot} (h : SameSnapshot s s') : SameSnapshot s' s where
  scope := h.scope.symm
  manifestPath := h.manifestPath.symm
  lockfilePath := h.lockfilePath.symm
  lockfileBytes := h.lockfileBytes.symm
  metadata := Tolerance.symm _ _ _ h.metadata

theorem Rearranged.symm {workspaces workspaces' : List WorkspaceSnapshot}
    (h : Rearranged workspaces workspaces') : Rearranged workspaces' workspaces :=
  Shuffle.symm h fun _ _ hs => hs.symm

/-! ## The packages of a rearranged snapshot -/

variable {host : Host} {s s' : WorkspaceSnapshot}

theorem lockChecksums_eq (h : SameSnapshot s s') : lockChecksums host s = lockChecksums host s' := by
  rw [lockChecksums, lockChecksums, h.scope, h.lockfileBytes]

/-- Entries of one key whose objects differ only in some of their fields. -/
def SameEntry (differences : Differences) (entry entry' : String × JsonDict) : Prop :=
  entry.1 = entry'.1 ∧ SameBut differences entry.2 entry'.2

theorem withId_transfer {differences : Differences} (hid : differences.lookup "id" = none) {value value' : Json}
    (h : (Tolerance.altered differences).Rel value value') {what field : String} {entry : String × JsonDict}
    (hok : withId value what field = .ok entry) :
    ∃ entry', withId value' what field = .ok entry' ∧ SameEntry differences entry entry' := by
  obtain ⟨rfl, hget, htext⟩ := withId_eq_ok.mp hok
  obtain ⟨d', rfl, hd'⟩ := Tolerance.altered_dict h
  rw [hd'.get_eq "id" hid] at hget
  exact ⟨(entry.1, d'), withId_eq_ok.mpr ⟨rfl, hget, htext⟩, rfl, hd'⟩

/-- A map of a snapshot, filled from a rearranged list. -/
theorem map_transfer {differences : Differences} {read : Json → Except Raised (String × JsonDict)}
    (hread : ∀ value value' entry, (Tolerance.altered differences).Rel value value' → read value = .ok entry →
      ∃ entry', read value' = .ok entry' ∧ SameEntry differences entry entry')
    {values values' : List Json} (h : Shuffle (Tolerance.altered differences).Rel values values')
    {map : Dict String JsonDict} (hok : values.mapM read = .ok map.items) :
    ∃ map' : Dict String JsonDict, values'.mapM read = .ok map'.items ∧
      Shuffle (SameEntry differences) map.items map'.items := by
  obtain ⟨items', hok', hitems⟩ := h.mapM hread hok
  have hkeys : (map.items.map Prod.fst).Perm (items'.map Prod.fst) := hitems.map_perm fun _ _ hentry => hentry.1
  exact ⟨⟨items', hkeys.nodup_iff.mp map.nodup⟩, hok', hitems⟩

/-- The packages of two rearranged snapshots. -/
structure SamePackages (p p' : SnapshotPackages) : Prop where
  packages : Shuffle (SameEntry packageDifferences) p.packageMap.items p'.packageMap.items
  nodes : Shuffle (SameEntry nodeDifferences) p.nodeMap.items p'.nodeMap.items
  members : p.members.Perm p'.members

theorem keys_perm {differences : Differences} {map map' : Dict String JsonDict}
    (h : Shuffle (SameEntry differences) map.items map'.items) : map.keys.Perm map'.keys :=
  h.map_perm fun _ _ hentry => hentry.1

/-- The lists of two rearranged snapshots. -/
structure SameLists (lists lists' : List Json × List Json × List Json) : Prop where
  packages : Shuffle (Tolerance.altered packageDifferences).Rel lists.1 lists'.1
  members : Shuffle Eq lists.2.1 lists'.2.1
  nodes : Shuffle (Tolerance.altered nodeDifferences).Rel lists.2.2 lists'.2.2

theorem metadataLists_transfer (h : SameSnapshot s s') {lists : List Json × List Json × List Json}
    (hok : metadataLists s = .ok lists) : ∃ lists', metadataLists s' = .ok lists' ∧ SameLists lists lists' := by
  obtain ⟨metadata, resolve, hmetadata, ⟨hpackages, hne⟩, ⟨hmembers, hne'⟩, hresolve, hnodes⟩ :=
    metadataLists_eq_ok.mp hok
  have hsame := h.metadata
  rw [hmetadata] at hsame
  obtain ⟨metadata', hmetadata', hsame⟩ := Tolerance.altered_dict hsame
  obtain ⟨packages', hpackages', hpackagesSame⟩ := hsame.list rfl hpackages
  obtain ⟨members', hmembers', hmembersSame⟩ := hsame.list rfl hmembers
  have hresolveSame := hsame "resolve"
  rw [hresolve] at hresolveSame
  obtain ⟨resolve', hresolve', hresolveSame⟩ := Tolerance.altered_dict hresolveSame
  obtain ⟨nodes', hnodes', hnodesSame⟩ := hresolveSame.list rfl hnodes
  have hne₁ : packages' ≠ [] := List.ne_nil_of_length_pos (hpackagesSame.length_eq ▸ List.length_pos_iff.mpr hne)
  have hne₂ : members' ≠ [] := List.ne_nil_of_length_pos (hmembersSame.length_eq ▸ List.length_pos_iff.mpr hne')
  exact ⟨(packages', members', nodes'), metadataLists_eq_ok.mpr ⟨metadata', resolve', hmetadata',
    ⟨hpackages', hne₁⟩, ⟨hmembers', hne₂⟩, hresolve', hnodes'⟩, hpackagesSame, hmembersSame, hnodesSame⟩

theorem snapshotPackages_transfer (h : SameSnapshot s s') {p : SnapshotPackages}
    (hok : snapshotPackages s = .ok p) : ∃ p', snapshotPackages s' = .ok p' ∧ SamePackages p p' := by
  obtain ⟨haddressed, lists, hlists, hp⟩ := snapshotPackages_eq_ok.mp hok
  obtain ⟨lists', hlists', hsame⟩ := metadataLists_transfer h hlists
  have hread : ∀ value value' entry, (Tolerance.altered packageDifferences).Rel value value' →
      packageEntry value = .ok entry →
      ∃ entry', packageEntry value' = .ok entry' ∧ SameEntry packageDifferences entry entry' :=
    fun _ _ _ hvalue hentry => withId_transfer rfl hvalue hentry
  have hread' : ∀ value value' entry, (Tolerance.altered nodeDifferences).Rel value value' →
      nodeEntry value = .ok entry →
      ∃ entry', nodeEntry value' = .ok entry' ∧ SameEntry nodeDifferences entry entry' :=
    fun _ _ _ hvalue hentry => withId_transfer rfl hvalue hentry
  obtain ⟨packageMap', hpackages', hpackages⟩ := map_transfer hread hsame.packages hp.packages
  obtain ⟨nodeMap', hnodes', hnodes⟩ := map_transfer hread' hsame.nodes hp.nodes
  obtain ⟨members, hmembers, hdedup⟩ := hp.members
  obtain ⟨members', hmembers', hperm⟩ := hsame.members.mapM (S := Eq)
    (fun a b c hab hc => ⟨c, hab ▸ hc, rfl⟩) hmembers
  have hmembersPerm : p.members.Perm members'.dedup := hdedup ▸ hperm.perm.dedup
  refine ⟨⟨packageMap', nodeMap', members'.dedup⟩, snapshotPackages_eq_ok.mpr ⟨?_, lists', hlists', hpackages',
    hnodes', fun id => ?_, ⟨members', hmembers', rfl⟩, fun id hid => ?_⟩, hpackages, hnodes, hmembersPerm⟩
  · rw [Addressed, ← h.scope, ← h.manifestPath, ← h.lockfilePath]
    exact haddressed
  · rw [← (keys_perm hpackages).mem_iff, ← (keys_perm hnodes).mem_iff]
    exact hp.covered id
  · rw [← (keys_perm hpackages).mem_iff]
    exact hp.known id (hmembersPerm.mem_iff.mpr hid)

/-! ## The rows of a rearranged snapshot -/

theorem packageChecksum_eq {package package' : JsonDict} (h : SameBut packageDifferences package package')
    (checksums : Dict LockKey String) :
    packageChecksum checksums package = packageChecksum checksums package' := by
  rw [packageChecksum, packageChecksum, h.get_eq "name" rfl, h.get_eq "version" rfl,
    h.get_eq "source" rfl]

theorem componentIdentity_eq {package package' : JsonDict} (h : SameBut packageDifferences package package')
    (checksum : Option String) :
    componentIdentity host package checksum = componentIdentity host package' checksum := by
  rw [componentIdentity, componentIdentity, h.get_eq "name" rfl, h.get_eq "version" rfl,
    h.get_eq "source" rfl, h.get_eq "manifest_path" rfl]

theorem packageLicense_eq {package package' : JsonDict} (h : SameBut packageDifferences package package')
    (id : String) : packageLicense id package = packageLicense id package' := by
  rw [packageLicense, packageLicense, h.get_eq "license" rfl]

theorem sortedSet_perm {l l' : List String} (h : l.Perm l') : sortedSet l = sortedSet l' :=
  sortedSet_eq_iff.mpr fun _ => h.mem_iff

theorem targetKinds_transfer {package package' : JsonDict} (h : SameBut packageDifferences package package')
    {kinds : List String} (hok : targetKinds package = .ok kinds) : targetKinds package' = .ok kinds := by
  obtain ⟨targets, found, htargets, hne, hcollect, rfl⟩ := targetKinds_eq_ok.mp hok
  obtain ⟨targets', htargets', hsame⟩ := h.list rfl htargets
  obtain ⟨found', hcollect', hperm⟩ := hsame.collect (g := kindsOfTarget)
    (fun a b c hab hc => ⟨c, hab ▸ hc, .refl c⟩) hcollect
  have hne' : targets' ≠ [] := List.ne_nil_of_length_pos (hsame.length_eq ▸ List.length_pos_iff.mpr hne)
  exact targetKinds_eq_ok.mpr ⟨targets', found', htargets', hne', hcollect', sortedSet_perm hperm⟩

theorem nodeFeatures_transfer {node node' : JsonDict} (h : SameBut nodeDifferences node node') {id : String}
    {features : List String} (hok : nodeFeatures id node = .ok features) :
    ∃ features', nodeFeatures id node' = .ok features' ∧ features.Perm features' := by
  obtain ⟨items', hitems', hsame⟩ := h.list rfl (nodeFeatures_eq_ok.mp hok)
  have hmap := congrFun (congrFun (List.eq_map_comp_perm Json.str) items') features
  obtain ⟨features', rfl, hperm⟩ := hmap.mpr hsame.perm.symm
  exact ⟨features', nodeFeatures_eq_ok.mpr hitems', hperm.symm⟩

/-- A package and its node make the same row in both snapshots. -/
theorem RowOf.transfer (h : SameSnapshot s s') {checksums : Dict LockKey String} {p p' : SnapshotPackages}
    (hp : SamePackages p p') {entry entry' : String × JsonDict} (hentry : SameEntry packageDifferences entry entry')
    {row : Row} (hrow : RowOf host s checksums p entry row) : RowOf host s' checksums p' entry' row := by
  obtain ⟨hid, hpackage⟩ := hentry
  obtain ⟨checksum, identity, hchecksum, hidentity, hc⟩ := hrow.candidate
  obtain ⟨node, features, license, kinds, hnode, hfeatures, hlicense, hkinds, hcandidate⟩ :=
    candidateOf_eq_ok.mp hc
  obtain ⟨node', hnode', hsame⟩ := hp.nodes.lookup p.nodeMap.nodup p'.nodeMap.nodup hnode
  obtain ⟨features', hfeatures', hperm⟩ := nodeFeatures_transfer hsame hfeatures
  rw [packageChecksum_eq hpackage] at hchecksum
  rw [componentIdentity_eq hpackage] at hidentity
  rw [packageLicense_eq hpackage, hid] at hlicense
  rw [hid] at hnode' hfeatures'
  refine ⟨hrow.scope.trans h.scope, hrow.id.trans hid, checksum, identity, hchecksum, hidentity,
    candidateOf_eq_ok.mpr ⟨node', features', license, kinds, hnode', hfeatures', hlicense,
      targetKinds_transfer hpackage hkinds, ?_⟩⟩
  have hmember : p.members.contains entry.1 = p'.members.contains entry'.1 := by
    rw [hid, Bool.eq_iff_iff, List.contains_iff_mem, List.contains_iff_mem]
    exact hp.members.mem_iff
  rw [hcandidate, sortedSet_perm hperm, h.scope, hmember]

/-! ## The edges of a rearranged snapshot -/

variable {packageRefs packageRefs' : Dict String String}

theorem lookupKey_eq (hrefs : ∀ id, packageRefs.get? id = packageRefs'.get? id) (id : String) :
    lookupKey packageRefs id = lookupKey packageRefs' id := by
  rw [lookupKey, lookupKey, hrefs id]

theorem kindEdge_eq (h : SameSnapshot s s') (hrefs : ∀ id, packageRefs.get? id = packageRefs'.get? id)
    (nodeId name id : String) (value : Json) :
    kindEdge s packageRefs nodeId name id value = kindEdge s' packageRefs' nodeId name id value := by
  rw [kindEdge, kindEdge, h.scope, lookupKey_eq hrefs, lookupKey_eq hrefs]

theorem dependencyFields_transfer (hrefs : ∀ id, packageRefs.get? id = packageRefs'.get? id)
    {dependency dependency' : Json} (h : (Tolerance.altered dependencyDifferences).Rel dependency dependency')
    {name id : String} {kinds : List Json}
    (hok : dependencyFields packageRefs dependency = .ok (name, id, kinds)) :
    ∃ kinds', dependencyFields packageRefs' dependency' = .ok (name, id, kinds') ∧ Shuffle Eq kinds kinds' := by
  obtain ⟨d, rfl, hname, hid, hknown, hkinds, hne⟩ := dependencyFields_eq_ok.mp hok
  obtain ⟨d', rfl, hsame⟩ := Tolerance.altered_dict h
  obtain ⟨kinds', hkinds', hshuffle⟩ := hsame.list rfl hkinds
  rw [hsame.get_eq "name" rfl] at hname
  rw [hsame.get_eq "pkg" rfl] at hid
  rw [Dict.mem_keys_iff, hrefs id, ← Dict.mem_keys_iff] at hknown
  have hne' : kinds' ≠ [] := List.ne_nil_of_length_pos (hshuffle.length_eq ▸ List.length_pos_iff.mpr hne)
  exact ⟨kinds', dependencyFields_eq_ok.mpr ⟨d', rfl, hname, hid, hknown, hkinds', hne'⟩, hshuffle⟩

theorem dependencyEdges_transfer (h : SameSnapshot s s')
    (hrefs : ∀ id, packageRefs.get? id = packageRefs'.get? id) {dependency dependency' : Json}
    (hdependency : (Tolerance.altered dependencyDifferences).Rel dependency dependency') {nodeId : String}
    {edges : List Edge} (hok : dependencyEdges s packageRefs nodeId dependency = .ok edges) :
    ∃ edges', dependencyEdges s' packageRefs' nodeId dependency' = .ok edges' ∧ edges.Perm edges' := by
  obtain ⟨⟨name, id, kinds⟩, hfields, hcollect⟩ := bind_eq_ok.mp hok
  obtain ⟨kinds', hfields', hshuffle⟩ := dependencyFields_transfer hrefs hdependency hfields
  simp only [kindEdge_eq h hrefs] at hcollect
  obtain ⟨edges', hcollect', hperm⟩ := hshuffle.collect (fun a b c hab hc => ⟨c, hab ▸ hc, .refl c⟩) hcollect
  exact ⟨edges', bind_eq_ok.mpr ⟨(name, id, kinds'), hfields', hcollect'⟩, hperm⟩

theorem nodeEdges_transfer (h : SameSnapshot s s') (hrefs : ∀ id, packageRefs.get? id = packageRefs'.get? id)
    {entry entry' : String × JsonDict} (hentry : SameEntry nodeDifferences entry entry') {edges : List Edge}
    (hok : nodeEdges s packageRefs entry = .ok edges) :
    ∃ edges', nodeEdges s' packageRefs' entry' = .ok edges' ∧ edges.Perm edges' := by
  obtain ⟨deps, hdeps, hcollect⟩ := bind_eq_ok.mp hok
  obtain ⟨deps', hdeps', hshuffle⟩ := hentry.2.list rfl (nodeDependencies_eq_ok.mp hdeps)
  rw [hentry.1] at hcollect
  obtain ⟨edges', hcollect', hperm⟩ :=
    hshuffle.collect (fun _ _ _ hdependency => dependencyEdges_transfer h hrefs hdependency) hcollect
  exact ⟨edges', bind_eq_ok.mpr ⟨deps', nodeDependencies_eq_ok.mpr hdeps', hcollect'⟩, hperm⟩

theorem ReportOf.transfer (h : SameSnapshot s s') (hrefs : ∀ id, packageRefs.get? id = packageRefs'.get? id)
    {members members' : List String} (hmembers : members.Perm members') {report : WorkspaceReport}
    (hreport : ReportOf host s members packageRefs report) : ReportOf host s' members' packageRefs' report := by
  obtain ⟨manifestPath, lockfilePath, refs, hmanifest, hlockfile, hrefsOk, rfl⟩ := hreport
  obtain ⟨refs', hrefsOk', hperm⟩ := (Shuffle.of_perm hmembers).mapM (g := lookupKey packageRefs') (S := Eq)
    (fun a b c hab hc => ⟨c, by rw [← lookupKey_eq hrefs, ← hab, hc], rfl⟩) hrefsOk
  rw [h.manifestPath] at hmanifest
  rw [h.lockfilePath] at hlockfile
  refine ⟨manifestPath, lockfilePath, refs', hmanifest, hlockfile, hrefsOk', ?_⟩
  rw [h.scope, h.lockfileBytes, insertionSort_eq_iff_perm.mpr hperm.perm]

/-! ## The reports of rearranged snapshots -/

/-- Two readings of one snapshot. -/
structure SameReading (c c' : Reading) : Prop where
  rows : c.rows.Perm c'.rows
  edges : c.edges.Perm c'.edges
  report : c.report = c'.report

/-- References of the same rows, found under the same package IDs. -/
theorem get?_eq_of_perm {refs refs' : Dict String String} (h : refs.items.Perm refs'.items) (id : String) :
    refs.get? id = refs'.get? id := by
  apply Option.ext
  intro ref
  rw [Dict.get?_eq_some, Dict.get?_eq_some]
  exact h.mem_iff

/-- A rearranged snapshot is read as the snapshot is. -/
theorem Reads.transfer (h : SameSnapshot s s') {c : Reading} (hc : Reads host s c) :
    ∃ c', Reads host s' c' ∧ SameReading c c' := by
  obtain ⟨p', hpackages', hp⟩ := snapshotPackages_transfer h hc.packages
  obtain ⟨rows', hrows', hshuffle⟩ := hp.packages.forall₂ (Q := RowOf host s' c.checksums p') (S := Eq)
    (fun _ _ row hentry hrow => ⟨row, hrow.transfer h hp hentry, rfl⟩) hc.rows
  have hperm := hshuffle.perm
  have hrefsPerm := hperm.map fun row => (row.id, row.ref)
  rw [← hc.packageRefs] at hrefsPerm
  let packageRefs' : Dict String String :=
    ⟨rows'.map fun row => (row.id, row.ref), (hrefsPerm.map Prod.fst).nodup_iff.mp c.packageRefs.nodup⟩
  have hrefs : ∀ id, c.packageRefs.get? id = packageRefs'.get? id := get?_eq_of_perm hrefsPerm
  obtain ⟨edges', hedges', hedgesPerm⟩ :=
    hp.nodes.collect (fun _ _ _ hentry => nodeEdges_transfer h hrefs hentry) hc.edges
  exact ⟨⟨c.checksums, p', rows', packageRefs', edges', c.report⟩,
    ⟨lockChecksums_eq h ▸ hc.checksums, hpackages', hrows', (hperm.map Row.ref).nodup_iff.mp hc.distinct, rfl,
      hedges', hc.report.transfer h hrefs hp.members⟩, hperm, hedgesPerm, rfl⟩

theorem flatMap_perm {β : Type} {cs cs' : List Reading} (h : List.Forall₂ SameReading cs cs')
    {items : Reading → List β} (hitems : ∀ c c', SameReading c c' → (items c).Perm (items c')) :
    (cs.flatMap items).Perm (cs'.flatMap items) := by
  induction h with
  | nil => exact .refl _
  | cons hc _ ih => exact (hitems _ _ hc).append ih

theorem map_report {cs cs' : List Reading} (h : List.Forall₂ SameReading cs cs') :
    cs.map Reading.report = cs'.map Reading.report := by
  induction h with
  | nil => rfl
  | cons hc _ ih => rw [List.map_cons, List.map_cons, hc.report, ih]

/-- What the readings amount to does not depend on their order. -/
theorem Amounts.transfer {cs cs' : List Reading} (h : List.Forall₂ SameReading cs cs') {r : Sbom}
    (hr : Amounts host cs r) : Amounts host cs' r := by
  have hrows := flatMap_perm h fun _ _ hc => hc.rows
  have hedges := flatMap_perm h fun _ _ hc => hc.edges
  obtain ⟨components, hmerged, rfl⟩ := hr.report
  have hcoherent : Coherent (cs'.flatMap Reading.rows) := fun row hrow other hother =>
    hr.coherent row (hrows.mem_iff.mpr hrow) other (hrows.mem_iff.mpr hother)
  obtain ⟨components', hmerge⟩ := @exists_mergeRows [] _ _ Gathers.empty hcoherent
  have hmerged' := (mergeRows_run Gathers.empty (fun _ h => nomatch h) hmerge).1
  refine ⟨hcoherent, hedges.nodup_iff.mp hr.edges, components', hmerged', ?_⟩
  rw [map_report h]
  exact sbomReport_eq hmerged hmerged' (fun _ => hrows.mem_iff) hedges _

/-- Rearranged snapshots have the same report. -/
theorem buildSbom_transfer {workspaces workspaces' : List WorkspaceSnapshot}
    (h : Rearranged workspaces workspaces') {r : Sbom} (hok : buildSbom host workspaces = .ok r) :
    buildSbom host workspaces' = .ok r := by
  obtain ⟨hne, hscopes, cs, hcs, hr⟩ := buildSbom_eq_ok.mp hok
  have hne' : workspaces' ≠ [] := List.ne_nil_of_length_pos (h.length_eq ▸ List.length_pos_iff.mpr hne)
  have hperm : (workspaces.map WorkspaceSnapshot.scope).Perm (workspaces'.map WorkspaceSnapshot.scope) :=
    h.map_perm fun _ _ hs => hs.scope
  have hsorted : List.Forall₂ SameSnapshot (sortedSnapshots workspaces) (sortedSnapshots workspaces') :=
    h.insertionSort (fun _ _ hs => hs.scope) hscopes
  obtain ⟨cs', hcs', hsame⟩ := forall₂_transfer hsorted (fun _ _ _ hs hc => hc.transfer hs) hcs
  exact buildSbom_eq_ok.mpr ⟨hne', hperm.nodup_iff.mp hscopes, cs', hcs', hr.transfer hsame⟩

end Zrm.L6.Bom
