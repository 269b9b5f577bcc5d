import Zrm.Core.Dict
import Zrm.Core.Loops
import Zrm.L5Reference.CanonicalJson
import Zrm.L5Reference.RootBinding
import Zrm.L6Tools.BomCommon

/-!
# The package manifest (`tools/update_package_manifest.py`, `tools/check_package_manifest.py`)

Two programs on one repository. The first writes the sizes and digests of the listed files
into the manifest, with their number; the second refuses a manifest that is stale. The
manifest is itself a file of the repository, so a list that names it is of another file after
the update than before.

A `Repository` resolves a path to a file and a file holds bytes, so two paths may name one
file. The standard library is a parameter (`Library`): `json.loads`, `json.dumps` and
`sha256` are arbitrary. What is assumed of them is stated where it is used, as `hjson`: the
manifest that an update prints is read back as the value it was printed from. No property of
the digest is assumed; an entry that holds for other bytes than its own names a collision
(`Alike`).

What the check looks at falls into what maintainers decide (`Inventory`: the schema and a
list of nonempty, bytewise sorted, distinct paths) and what the update derives (`Sealed`).

Results:
* `check_eq_ok`: the check passes iff both hold of the manifest.
* `update_then_check`: after an update the check fails for what maintainers decide only, or
  for a list that names the manifest.
* `update_settles`: an update changes the derived fields of one file, and a second changes
  nothing.
* `manifest_binds`: a manifest that passes holds for the same files only, up to a collision.
-/
namespace Zrm.L6.PackageManifest

open BigEndian Result Value Bom Dict L5.CanonicalJson
open L5.Frontier (Collision)

/-- Paths are resolved to regular files, and a file holds bytes. -/
structure Repository (ν : Type) where
  /-- The file at `ROOT / path`, if there is one. -/
  resolve : String → Option ν
  bytes : ν → List UInt8

/-- The standard library. -/
structure Library where
  /-- `json.loads` of bytes that are decoded as UTF-8; `none` for a `ValueError` -/
  loads : List UInt8 → Option Json
  /-- `json.dumps(value, indent=2)` -/
  dumps : Json → String
  /-- `hashlib.sha256(payload).digest()` -/
  sha256 : List UInt8 → Bytes 32

variable {ν : Type} {lib : Library} {repo repo' : Repository ν}

/-- `hashlib.sha256(payload).hexdigest()` -/
def Library.hexdigest (lib : Library) (payload : List UInt8) : String := hexText (lib.sha256 payload)

/-- `json.dumps(data, indent=2) + "\n"`, encoded -/
def Library.printed (lib : Library) (data : Json) : List UInt8 := utf8 (lib.dumps data ++ "\n")

/-- `(ROOT / path).read_bytes()` of a regular file -/
def Repository.read (repo : Repository ν) (path : String) : Option (List UInt8) :=
  (repo.resolve path).map repo.bytes

/-- `write_bytes` -/
def Repository.write [DecidableEq ν] (repo : Repository ν) (node : ν) (bytes : List UInt8) : Repository ν :=
  { repo with bytes := fun n => if n = node then bytes else repo.bytes n }

def MANIFEST_PATH : String := "PACKAGE_MANIFEST.json"

def typeError : Raised := ⟨.typeError, "", []⟩

/-- `json.loads(MANIFEST_PATH.read_text(encoding="utf-8"))` -/
def loadManifest (lib : Library) (repo : Repository ν) : Except Raised Json :=
  match repo.read MANIFEST_PATH with
  | none => .error ⟨.osError, MANIFEST_PATH, []⟩
  | some bytes =>
    match lib.loads bytes with
    | none => .error (failed "JSONDecodeError")
    | some data => .ok data

/-! ## The update -/

/-- What `entry` becomes for one payload. -/
def resealed (lib : Library) (entry : JsonDict) (payload : List UInt8) : JsonDict :=
  setItem "sha256" (.str (lib.hexdigest payload)) (setItem "bytes" (.int payload.length) entry)

/-- mirrors tools/update_package_manifest.py:20-22 -/
def updateEntry (lib : Library) (repo : Repository ν) (entry : Json) : Except Raised Json :=
  match entry with
  | .dict d => do
    match ← subscript d "path" with
    | .str path =>
      match repo.read path with
      | some payload => .ok (.dict (resealed lib d payload))
      | none => .error ⟨.osError, path, []⟩
    | _ => .error typeError
  | _ => .error typeError

/-- What `for entry in files` goes through. -/
def iterate : Json → Except Raised (List Json)
  | .list items => .ok items
  | .dict d => .ok (d.map fun item => .str item.1)
  | .str s => .ok (s.toList.map fun c => .str (String.singleton c))
  | _ => .error typeError

/-- The list itself is changed; of any other value only the empty one gets here. -/
def withEntries (files : Json) (entries : List Json) : Json :=
  match files with
  | .list _ => .list entries
  | _ => files

/-- `data["file_count"] = ...; data["total_file_count_including_manifest"] = ...` -/
def counted (count : Nat) (data : JsonDict) : JsonDict :=
  setItem "total_file_count_including_manifest" (.int (count + 1))
    (setItem "file_count" (.int count) data)

/-- mirrors tools/update_package_manifest.py:18-24 -/
def updateManifest (lib : Library) (repo : Repository ν) (data : Json) : Except Raised JsonDict :=
  match data with
  | .dict d => do
    let files ← subscript d "files"
    let items ← iterate files
    let entries ← items.mapM (updateEntry lib repo)
    return counted entries.length (setItem "files" (withEntries files entries) d)
  | _ => .error typeError

/-- mirrors tools/update_package_manifest.py:15-27 -/
def update [DecidableEq ν] (lib : Library) (repo : Repository ν) : Except Raised (Repository ν) := do
  let data ← loadManifest lib repo
  let updated ← updateManifest lib repo data
  match repo.resolve MANIFEST_PATH with
  | some node => return repo.write node (lib.printed (.dict updated))
  | none => .error ⟨.osError, MANIFEST_PATH, []⟩

/-! ## The check -/

/-- Bytewise order of UTF-8 -/
def BytesLe (path path' : String) : Prop := List.instLE.le (utf8 path) (utf8 path')

instance : DecidableRel BytesLe := fun path path' =>
  inferInstanceAs (Decidable (List.instLE.le (utf8 path) (utf8 path')))

instance : Std.Total BytesLe where
  total path path' := List.le_total (utf8 path) (utf8 path')

instance : IsTrans String BytesLe where
  trans _ _ _ h h' := List.le_trans (α := UInt8) h h'

/-- `isinstance(path, str) and path` -/
def pathText : Json → Option String
  | .str path => if path = "" then none else some path
  | _ => none

/-- `entry.get("path")` of an object -/
def entryPath : Json → Option Json
  | .dict d => some (get d "path")
  | _ => none

/-- mirrors tools/check_package_manifest.py:48-54 -/
def checkEntry (lib : Library) (repo : Repository ν) (entry : Json) (path : String) : Except Raised Unit :=
  match entry with
  | .dict d =>
    match repo.read path with
    | none => .error (failed ("missing payload file: " ++ path))
    | some payload => do
      require ((get d "bytes").eqInt payload.length) (failed ("stale byte count: " ++ path))
      require ((get d "sha256").eqStr (lib.hexdigest payload)) (failed ("stale SHA-256: " ++ path))
  | _ => .error ⟨.attributeError, "", []⟩

def asList (value : Json) (raised : Raised) : Except Raised (List Json) :=
  match value with
  | .list items => .ok items
  | _ => .error raised

/-- mirrors tools/check_package_manifest.py:27-54 -/
def validateManifest (lib : Library) (repo : Repository ν) (data : JsonDict) : Except Raised Unit := do
  require ((get data "schema").eqStr "zrm/specification-package-manifest/v1")
    (failed "unexpected manifest schema")
  let files ← asList (get data "files") (failed "files must be a list")
  require ((get data "file_count").eqInt files.length) (failed "file_count is stale")
  require ((get data "total_file_count_including_manifest").eqInt (files.length + 1))
    (failed "total file count is stale")
  let values := files.filterMap entryPath
  require (decide (values.length = files.length)) (failed "every file entry must be an object")
  match values.mapM pathText with
  | none => .error (failed "invalid payload path")
  | some paths => do
    require (decide (paths = paths.insertionSort BytesLe)) (failed "payload paths are not bytewise sorted")
    require (decide paths.Nodup) (failed "duplicate payload path")
    forM (files.zip paths) fun row => checkEntry lib repo row.1 row.2

/-- `main` returns 0.
mirrors tools/check_package_manifest.py:57-68 -/
def check (lib : Library) (repo : Repository ν) : Except Raised Unit := do
  let data ← loadManifest lib repo
  match data with
  | .dict d => validateManifest lib repo d
  | _ => .error (failed "manifest root must be an object")

/-! ## What the check accepts -/

/-- An entry of the list and the path it names. -/
structure Row where
  entry : JsonDict
  path : String

/-- The list of the manifest. -/
structure Lists (data : JsonDict) (rows : List Row) : Prop where
  files : get data "files" = .list (rows.map fun row => .dict row.entry)
  paths : ∀ row ∈ rows, get row.entry "path" = .str row.path

/-- What maintainers decide. -/
structure Inventory (data : JsonDict) (rows : List Row) : Prop extends Lists data rows where
  schema : (get data "schema").eqStr "zrm/specification-package-manifest/v1" = true
  nonempty : ∀ row ∈ rows, row.path ≠ ""
  ascending : (rows.map Row.path).Pairwise BytesLe
  distinct : (rows.map Row.path).Nodup

/-- The entry is up to date for the payload. -/
def Seals (lib : Library) (entry : JsonDict) (payload : List UInt8) : Prop :=
  (get entry "bytes").eqInt payload.length = true ∧
    (get entry "sha256").eqStr (lib.hexdigest payload) = true

/-- What an update derives is up to date. -/
structure Sealed (lib : Library) (repo : Repository ν) (data : JsonDict) (rows : List Row) : Prop where
  count : (get data "file_count").eqInt rows.length = true
  total : (get data "total_file_count_including_manifest").eqInt (rows.length + 1) = true
  entries : ∀ row ∈ rows, ∃ payload, repo.read row.path = some payload ∧ Seals lib row.entry payload

theorem pathText_eq_some {value : Json} {path : String} :
    pathText value = some path ↔ value = .str path ∧ path ≠ "" := by
  cases value with
  | str s =>
    rw [pathText]
    split
    · rename_i hempty
      refine iff_of_false nofun fun h => h.2 ?_
      cases h.1
      exact hempty
    · rename_i hne
      refine ⟨fun h => ?_, fun h => ?_⟩
      · cases h
        exact ⟨rfl, hne⟩
      · cases h.1
        rfl
  | _ => exact iff_of_false nofun fun h => nomatch h.1

theorem entryPaths_eq_some {files : List Json} {paths : List String} :
    (files.filterMap entryPath).length = files.length ∧
      (files.filterMap entryPath).mapM pathText = some paths ↔
    ∃ rows : List Row, files = rows.map (fun row => .dict row.entry) ∧ paths = rows.map Row.path ∧
      ∀ row ∈ rows, get row.entry "path" = .str row.path ∧ row.path ≠ "" := by
  induction files generalizing paths with
  | nil =>
    refine ⟨fun h => ⟨[], rfl, ?_, nofun⟩, fun h => ?_⟩
    · cases h.2
      rfl
    · obtain ⟨rows, hrows, rfl, -⟩ := h
      obtain rfl := List.map_eq_nil_iff.mp hrows.symm
      exact ⟨rfl, rfl⟩
  | cons file files ih =>
    have hle := List.length_filterMap_le entryPath files
    refine ⟨fun h => ?_, fun h => ?_⟩
    · obtain ⟨hlength, hpaths⟩ := h
      cases file with
      | dict d =>
        simp only [List.filterMap_cons, entryPath, List.length_cons, Nat.succ.injEq] at hlength
        simp only [List.filterMap_cons, entryPath, List.mapM_cons, Option.bind_eq_bind,
          Option.bind_eq_some_iff, Option.pure_def, Option.some.injEq] at hpaths
        obtain ⟨path, hpath, rest, hrest, rfl⟩ := hpaths
        obtain ⟨rows, rfl, rfl, hrows⟩ := ih.mp ⟨hlength, hrest⟩
        exact ⟨⟨d, path⟩ :: rows, rfl, rfl,
          List.forall_mem_cons.mpr ⟨pathText_eq_some.mp hpath, hrows⟩⟩
      | _ =>
        simp only [List.filterMap_cons, entryPath, List.length_cons] at hlength
        omega
    · obtain ⟨rows, hfiles, rfl, hrows⟩ := h
      obtain ⟨row, rows, rfl, rfl, rfl⟩ := List.map_eq_cons_iff.mp hfiles.symm
      rw [List.forall_mem_cons] at hrows
      obtain ⟨hlength, hrest⟩ := ih.mpr ⟨rows, rfl, rfl, hrows.2⟩
      refine ⟨?_, ?_⟩
      · simpa only [List.filterMap_cons, entryPath, List.length_cons, Nat.succ.injEq] using hlength
      · simp only [List.filterMap_cons, entryPath, List.mapM_cons, Option.bind_eq_bind,
          pathText_eq_some.mpr hrows.1, Option.bind_some, hrest, Option.pure_def, List.map_cons]

theorem checkEntry_eq_ok {entry : JsonDict} {path : String} :
    checkEntry lib repo (.dict entry) path = .ok () ↔
      ∃ payload, repo.read path = some payload ∧ Seals lib entry payload := by
  rw [checkEntry]
  cases repo.read path with
  | none => exact iff_of_false nofun fun h => nomatch h
  | some payload => simp [unit_bind_eq_ok, require_eq_ok, Seals]

theorem sorted_iff {paths : List String} : paths = paths.insertionSort BytesLe ↔ paths.Pairwise BytesLe :=
  ⟨fun h => h ▸ List.pairwise_insertionSort BytesLe paths, fun h => h.insertionSort_eq.symm⟩

theorem validateManifest_eq_ok {data : JsonDict} : validateManifest lib repo data = .ok () ↔
    ∃ rows, Inventory data rows ∧ Sealed lib repo data rows := by
  rw [validateManifest, unit_bind_eq_ok, require_eq_ok, bind_eq_ok]
  simp only [unit_bind_eq_ok, require_eq_ok, decide_eq_true_eq]
  refine ⟨fun h => ?_, fun h => ?_⟩
  · obtain ⟨hschema, files, hfiles, hcount, htotal, hobjects, h⟩ := h
    have hlist : get data "files" = .list files := by
      cases hget : get data "files" <;> rw [hget] at hfiles <;> cases hfiles
      rfl
    cases hpaths : (files.filterMap entryPath).mapM pathText with
    | none =>
      rw [hpaths] at h
      cases h
    | some paths =>
      rw [hpaths] at h
      simp only [unit_bind_eq_ok, require_eq_ok, decide_eq_true_eq, forM_eq_ok] at h
      obtain ⟨hsorted, hdistinct, hentries⟩ := h
      obtain ⟨rows, rfl, rfl, hrows⟩ := entryPaths_eq_some.mp ⟨hobjects, hpaths⟩
      rw [List.length_map] at hcount htotal
      refine ⟨rows, ⟨⟨hlist, fun row hrow => (hrows row hrow).1⟩, hschema, fun row hrow => (hrows row hrow).2,
        sorted_iff.mp hsorted, hdistinct⟩, hcount, htotal, fun row hrow => ?_⟩
      refine checkEntry_eq_ok.mp (hentries (.dict row.entry, row.path) ?_)
      rw [List.zip_map']
      exact List.mem_map_of_mem hrow
  · obtain ⟨rows, hinventory, hsealed⟩ := h
    obtain ⟨hobjects, hpaths⟩ := entryPaths_eq_some.mpr ⟨rows, rfl, rfl, fun row hrow =>
      ⟨hinventory.paths row hrow, hinventory.nonempty row hrow⟩⟩
    refine ⟨hinventory.schema, rows.map fun row => .dict row.entry, ?_, ?_, ?_, hobjects, ?_⟩
    · rw [hinventory.files]
      rfl
    · rw [List.length_map]
      exact hsealed.count
    · rw [List.length_map]
      exact hsealed.total
    · rw [hpaths]
      simp only [unit_bind_eq_ok, require_eq_ok, decide_eq_true_eq, forM_eq_ok]
      refine ⟨sorted_iff.mpr hinventory.ascending, hinventory.distinct, fun pair hpair => ?_⟩
      rw [List.zip_map'] at hpair
      obtain ⟨row, hrow, rfl⟩ := List.mem_map.mp hpair
      exact checkEntry_eq_ok.mpr (hsealed.entries row hrow)

theorem check_eq_ok : check lib repo = .ok () ↔ ∃ data rows,
    loadManifest lib repo = .ok (.dict data) ∧ Inventory data rows ∧ Sealed lib repo data rows := by
  rw [check, bind_eq_ok]
  refine ⟨fun h => ?_, fun h => ?_⟩
  · obtain ⟨data, hdata, h⟩ := h
    cases data with
    | dict d =>
      obtain ⟨rows, hrows⟩ := validateManifest_eq_ok.mp h
      exact ⟨d, rows, hdata, hrows⟩
    | _ => cases h
  · obtain ⟨data, rows, hdata, hrows⟩ := h
    exact ⟨.dict data, hdata, validateManifest_eq_ok.mpr ⟨rows, hrows⟩⟩

/-! ## What the update makes -/

/-- The row for the file as it is. -/
def refreshed (lib : Library) (repo : Repository ν) (row : Row) : Row :=
  ⟨resealed lib row.entry ((repo.read row.path).getD []), row.path⟩

def refreshedManifest (lib : Library) (repo : Repository ν) (data : JsonDict) (rows : List Row) : JsonDict :=
  counted rows.length
    (setItem "files" (.list (rows.map fun row => .dict (refreshed lib repo row).entry)) data)

theorem get_setItem {key key' : String} {value : Json} {d : JsonDict} :
    get (setItem key value d) key' = if key' = key then value else get d key' := by
  unfold Value.get
  rw [lookup_setItem]
  split <;> rfl

theorem subscript_eq_ok {d : JsonDict} {key : String} {value : Json} (h : value.isNull = false) :
    subscript d key = .ok value ↔ get d key = value := by
  refine ⟨get_of_subscript, fun hget => ?_⟩
  rw [Value.get] at hget
  rw [subscript]
  cases hlookup : d.lookup key with
  | none =>
    rw [hlookup] at hget
    obtain rfl : value = .null := hget.symm
    cases h
  | some found =>
    rw [hlookup] at hget
    exact congrArg Except.ok hget

theorem updateEntry_eq_ok {entry entry' : Json} : updateEntry lib repo entry = .ok entry' ↔
    ∃ row : Row, Json.dict row.entry = entry ∧ Json.dict (refreshed lib repo row).entry = entry' ∧
      get row.entry "path" = .str row.path ∧ (repo.read row.path).isSome := by
  cases entry with
  | dict d =>
    rw [updateEntry, bind_eq_ok]
    refine ⟨fun h => ?_, fun h => ?_⟩
    · obtain ⟨value, hvalue, h⟩ := h
      cases value with
      | str path =>
        dsimp only at h
        cases hread : repo.read path with
        | none =>
          rw [hread] at h
          cases h
        | some payload =>
          rw [hread] at h
          cases h
          refine ⟨⟨d, path⟩, rfl, ?_, get_of_subscript hvalue, ?_⟩
          · rw [refreshed, hread, Option.getD_some]
          · rw [hread, Option.isSome_some]
      | _ => cases h
    · obtain ⟨row, hrow, rfl, hpath, hread⟩ := h
      obtain rfl := Json.dict.inj hrow
      obtain ⟨payload, hpayload⟩ := Option.isSome_iff_exists.mp hread
      refine ⟨.str row.path, (subscript_eq_ok rfl).mpr hpath, ?_⟩
      dsimp only
      rw [refreshed, hpayload, Option.getD_some]
  | _ => exact iff_of_false nofun fun h => by obtain ⟨row, hrow, -⟩ := h; cases hrow

theorem updateEntries_eq_ok {items entries : List Json} : items.mapM (updateEntry lib repo) = .ok entries ↔
    ∃ rows : List Row, rows.map (fun row => .dict row.entry) = items ∧
      rows.map (fun row => .dict (refreshed lib repo row).entry) = entries ∧
      ∀ row ∈ rows, get row.entry "path" = .str row.path ∧ (repo.read row.path).isSome := by
  rw [mapM_eq_ok]
  refine ⟨fun h => exists_rows (h.imp fun _ _ => updateEntry_eq_ok.mp), fun h => ?_⟩
  obtain ⟨rows, rfl, rfl, hrows⟩ := h
  rw [List.forall₂_map_left_iff, List.forall₂_map_right_iff, List.forall₂_same]
  exact fun row hrow => updateEntry_eq_ok.mpr ⟨row, rfl, rfl, hrows row hrow⟩

/-- An update of a list whose files are there. -/
theorem updateManifest_of_lists {data : JsonDict} {rows : List Row} (h : Lists data rows)
    (hread : ∀ row ∈ rows, (repo.read row.path).isSome) :
    updateManifest lib repo (.dict data) = .ok (refreshedManifest lib repo data rows) := by
  rw [updateManifest, (subscript_eq_ok rfl).mpr h.files, ok_bind, iterate, ok_bind,
    updateEntries_eq_ok.mpr ⟨rows, rfl, rfl, fun row hrow => ⟨h.paths row hrow, hread row hrow⟩⟩, ok_bind,
    pure_eq, withEntries, List.length_map, refreshedManifest]

/-- An update that ends had a list whose files are there, or no list before and after. -/
theorem exists_lists_of_updateManifest {data : Json} {data' : JsonDict}
    (h : updateManifest lib repo data = .ok data') :
    ∃ d, data = .dict d ∧
      ((∃ rows, Lists d rows ∧ (∀ row ∈ rows, (repo.read row.path).isSome) ∧
        data' = refreshedManifest lib repo d rows) ∨ ∀ rows, ¬ Lists d rows ∧ ¬ Lists data' rows) := by
  cases data with
  | dict d =>
    rw [updateManifest, bind_eq_ok] at h
    obtain ⟨files, hfiles, h⟩ := h
    obtain ⟨items, hitems, h⟩ := bind_eq_ok.mp h
    obtain ⟨entries, hentries, h⟩ := bind_eq_ok.mp h
    cases h
    refine ⟨d, rfl, ?_⟩
    have hget := get_of_subscript hfiles
    cases files with
    | list l =>
      cases hitems
      obtain ⟨rows, rfl, rfl, hrows⟩ := updateEntries_eq_ok.mp hentries
      refine .inl ⟨rows, ⟨hget, fun row hrow => (hrows row hrow).1⟩, fun row hrow => (hrows row hrow).2, ?_⟩
      rw [withEntries, List.length_map, refreshedManifest]
    | _ =>
      refine .inr fun rows => ⟨fun hlists => ?_, fun hlists => ?_⟩
      · rw [hlists.files] at hget
        cases hget
      · have hlist := hlists.files
        simp [counted, get_setItem, withEntries] at hlist
  | _ => cases h

/-! ## Entries after an update -/

/-- What a size and a digest cannot tell apart. -/
def Alike (lib : Library) (payload payload' : List UInt8) : Prop :=
  payload = payload' ∨ payload.length = payload'.length ∧ Collision lib.sha256 payload payload'

theorem alike_iff {payload payload' : List UInt8} : Alike lib payload payload' ↔
    payload.length = payload'.length ∧ lib.sha256 payload = lib.sha256 payload' := by
  rw [Alike, Collision.or_eq, and_or_left]
  refine ⟨fun h => ?_, fun h => ?_⟩
  · rcases h with rfl | h
    · exact .inl ⟨rfl, rfl⟩
    · exact .inr h
  · rcases h with h | h
    · exact .inl h.2
    · exact .inr h

theorem eqInt_int {m n : Int} : (Json.int m).eqInt n = true ↔ m = n := by
  simp [Json.eqInt, Json.number?]

theorem eqInt_inj {value : Json} {m n : Int} (hm : value.eqInt m = true) (hn : value.eqInt n = true) :
    m = n := by
  simp only [Json.eqInt, beq_iff_eq] at hm hn
  rw [hm, Option.some.injEq] at hn
  exact_mod_cast hn

theorem seals_resealed {entry : JsonDict} {payload payload' : List UInt8} :
    Seals lib (resealed lib entry payload) payload' ↔ Alike lib payload payload' := by
  have hbytes : get (resealed lib entry payload) "bytes" = .int payload.length := by
    simp [resealed, get_setItem]
  have hsha256 : get (resealed lib entry payload) "sha256" = .str (lib.hexdigest payload) := by
    simp [resealed, get_setItem]
  rw [Seals, hbytes, hsha256, eqInt_int, eqStr_iff, Json.str.injEq, alike_iff, Int.natCast_inj]
  exact and_congr_right fun _ => hexText_injective.eq_iff

/-- An entry is up to date for alike payloads only. -/
theorem Seals.iff_alike {entry : JsonDict} {payload payload' : List UInt8} (h : Seals lib entry payload) :
    Seals lib entry payload' ↔ Alike lib payload payload' := by
  obtain ⟨hbytes, hsha256⟩ := h
  rw [eqStr_iff] at hsha256
  rw [alike_iff, Seals, eqStr_iff, hsha256, Json.str.injEq]
  refine and_congr ⟨fun h => ?_, fun h => ?_⟩ hexText_injective.eq_iff
  · exact Int.natCast_inj.mp (eqInt_inj hbytes h)
  · rw [← h]
    exact hbytes

theorem Lists.unique {data : JsonDict} {rows rows' : List Row} (h : Lists data rows)
    (h' : Lists data rows') : rows = rows' := by
  have hfiles := h.files.symm.trans h'.files
  obtain ⟨-, hpaths⟩ := h
  obtain ⟨-, hpaths'⟩ := h'
  rw [Json.list.injEq] at hfiles
  induction rows generalizing rows' with
  | nil => exact (List.map_eq_nil_iff.mp hfiles.symm).symm
  | cons row rows ih =>
    obtain ⟨row', rows', rfl, hentry, hrest⟩ := List.map_eq_cons_iff.mp hfiles.symm
    rw [List.forall_mem_cons] at hpaths hpaths'
    have hpath : Json.str row.path = .str row'.path := by
      rw [← hpaths.1, ← hpaths'.1, Json.dict.inj hentry]
    rw [ih hrest.symm hpaths.2 hpaths'.2]
    cases row
    cases row'
    cases Json.dict.inj hentry
    cases Json.str.inj hpath
    rfl

section
variable {data : JsonDict} {rows : List Row}

theorem map_path_refreshed : (rows.map (refreshed lib repo)).map Row.path = rows.map Row.path := by
  rw [List.map_map]
  rfl

theorem get_refreshedManifest {key : String} (hfiles : key ≠ "files") (hcount : key ≠ "file_count")
    (htotal : key ≠ "total_file_count_including_manifest") :
    get (refreshedManifest lib repo data rows) key = get data key := by
  rw [refreshedManifest, counted, get_setItem, if_neg htotal, get_setItem, if_neg hcount, get_setItem,
    if_neg hfiles]

theorem get_resealed {entry : JsonDict} {payload : List UInt8} {key : String} (hbytes : key ≠ "bytes")
    (hsha256 : key ≠ "sha256") : get (resealed lib entry payload) key = get entry key := by
  rw [resealed, get_setItem, if_neg hsha256, get_setItem, if_neg hbytes]

theorem lists_refreshed (h : Lists data rows) :
    Lists (refreshedManifest lib repo data rows) (rows.map (refreshed lib repo)) := by
  refine ⟨?_, fun row' hrow' => ?_⟩
  · simp [refreshedManifest, counted, get_setItem]
  · obtain ⟨row, hrow, rfl⟩ := List.mem_map.mp hrow'
    exact (get_resealed (by decide) (by decide)).trans (h.paths row hrow)

theorem inventory_refreshed (h : Lists data rows) :
    Inventory (refreshedManifest lib repo data rows) (rows.map (refreshed lib repo)) ↔
      Inventory data rows := by
  have hschema : get (refreshedManifest lib repo data rows) "schema" = get data "schema" :=
    get_refreshedManifest (by decide) (by decide) (by decide)
  refine ⟨fun hinventory => ⟨h, ?_, fun row hrow => ?_, ?_, ?_⟩,
    fun hinventory => ⟨lists_refreshed h, ?_, fun row' hrow' => ?_, ?_, ?_⟩⟩
  · rw [← hschema]
    exact hinventory.schema
  · exact hinventory.nonempty (refreshed lib repo row) (List.mem_map_of_mem hrow)
  · exact map_path_refreshed ▸ hinventory.ascending
  · exact map_path_refreshed ▸ hinventory.distinct
  · rw [hschema]
    exact hinventory.schema
  · obtain ⟨row, hrow, rfl⟩ := List.mem_map.mp hrow'
    exact hinventory.nonempty row hrow
  · rw [map_path_refreshed]
    exact hinventory.ascending
  · rw [map_path_refreshed]
    exact hinventory.distinct

/-- The update in a repository, checked in another. -/
theorem sealed_refreshed (hread : ∀ row ∈ rows, (repo.read row.path).isSome) :
    Sealed lib repo' (refreshedManifest lib repo data rows) (rows.map (refreshed lib repo)) ↔
      ∀ row ∈ rows, ∃ payload payload', repo.read row.path = some payload ∧
        repo'.read row.path = some payload' ∧ Alike lib payload payload' := by
  refine ⟨fun h row hrow => ?_, fun h => ⟨?_, ?_, fun row' hrow' => ?_⟩⟩
  · obtain ⟨payload, hpayload⟩ := Option.isSome_iff_exists.mp (hread row hrow)
    obtain ⟨payload', hpayload', hseals⟩ := h.entries (refreshed lib repo row) (List.mem_map_of_mem hrow)
    rw [refreshed, hpayload, Option.getD_some, seals_resealed] at hseals
    exact ⟨payload, payload', hpayload, hpayload', hseals⟩
  · simp [refreshedManifest, counted, get_setItem, eqInt_int]
  · simp [refreshedManifest, counted, get_setItem, eqInt_int]
  · obtain ⟨row, hrow, rfl⟩ := List.mem_map.mp hrow'
    obtain ⟨payload, payload', hpayload, hpayload', halike⟩ := h row hrow
    refine ⟨payload', hpayload', ?_⟩
    rw [refreshed, hpayload, Option.getD_some]
    exact seals_resealed.mpr halike

end

theorem resealed_resealed {entry : JsonDict} {payload : List UInt8} :
    resealed lib (resealed lib entry payload) payload = resealed lib entry payload := by
  rw [resealed, setItem_eq_self , setItem_eq_self] <;>
    simp [resealed, lookup_setItem]

/-- A second update of the same files writes the manifest that is there. -/
theorem refreshedManifest_refreshed {data : JsonDict} {rows : List Row}
    (hread : ∀ row ∈ rows, repo'.read row.path = repo.read row.path) :
    refreshedManifest lib repo' (refreshedManifest lib repo data rows) (rows.map (refreshed lib repo)) =
      refreshedManifest lib repo data rows := by
  have hentries : ((rows.map (refreshed lib repo)).map fun row => Json.dict (refreshed lib repo' row).entry) =
      rows.map fun row => .dict (refreshed lib repo row).entry := by
    rw [List.map_map]
    refine List.map_congr_left fun row hrow => ?_
    simp only [Function.comp_apply, refreshed, hread row hrow, resealed_resealed]
  rw [refreshedManifest, hentries, List.length_map, counted, setItem_eq_self ,
    setItem_eq_self , setItem_eq_self] <;>
    simp [refreshedManifest, counted, lookup_setItem]

/-! ## A manifest that is stale -/

/-- The files of a small repository: an empty notice, a readme of one zero byte, the manifest. -/
inductive PackageFile
  | notice | readme | manifest
  deriving DecidableEq

/-- The SHA-256 of no bytes. -/
def emptyDigest : Bytes 32 := ⟨toBe 32 0xe3b0c44298fc1c149afbf4c8996fb92427ae41e4649b934ca495991b7852b855, rfl⟩

/-- The SHA-256 of one zero byte. -/
def zeroByteDigest : Bytes 32 := ⟨toBe 32 0x6e340b9cffb37a989ca544e6bb780a2c78901d3fb33738768511a30617afa01d, rfl⟩

def staleRow (path : String) : Row := ⟨[("path", .str path)], path⟩

def staleRows : List Row := [staleRow "NOTICE.md", staleRow "README.md"]

def staleData : JsonDict :=
  [("schema", .str "zrm/specification-package-manifest/v1"),
    ("files", .list (staleRows.map fun row => .dict row.entry))]

def freshEntry (path : String) (length : Nat) (digest : Bytes 32) : JsonDict :=
  [("path", .str path), ("bytes", .int length), ("sha256", .str (hexText digest))]

def freshData : JsonDict :=
  [("schema", .str "zrm/specification-package-manifest/v1"),
    ("files", .list [.dict (freshEntry "NOTICE.md" 0 emptyDigest),
      .dict (freshEntry "README.md" 1 zeroByteDigest)]),
    ("file_count", .int 2), ("total_file_count_including_manifest", .int 3)]

def staleText : String :=
  "\x7b\"schema\": \"zrm/specification-package-manifest/v1\", " ++
  "\"files\": [\x7b\"path\": \"NOTICE.md\"\x7d, \x7b\"path\": \"README.md\"\x7d]\x7d"

def freshHead : String :=
  "\x7b\n  \"schema\": \"zrm/specification-package-manifest/v1\",\n  \"files\": [\n    \x7b\n" ++
  "      \"path\": \"NOTICE.md\",\n      \"bytes\": 0,\n      \"sha256\": \""

def freshText : String :=
  freshHead ++ (hexText emptyDigest ++
  ("\"\n    \x7d,\n    \x7b\n" ++
  "      \"path\": \"README.md\",\n      \"bytes\": 1,\n      \"sha256\": \"" ++ hexText zeroByteDigest ++
  "\"\n    \x7d\n  ],\n  \"file_count\": 2,\n  \"total_file_count_including_manifest\": 3\n\x7d"))

def noticeLibrary : Library where
  loads bytes :=
    if bytes = utf8 staleText then some (.dict staleData)
    else if bytes = utf8 (freshText ++ "\n") then some (.dict freshData)
    else none
  dumps _ := freshText
  sha256 payload := if payload = [] then emptyDigest else zeroByteDigest

def noticeRepository : Repository PackageFile where
  resolve path :=
    if path = "NOTICE.md" then some .notice
    else if path = "README.md" then some .readme
    else if path = MANIFEST_PATH then some .manifest
    else none
  bytes
    | .notice => []
    | .readme => [0]
    | .manifest => utf8 staleText

/-! ## The two programs -/

/-- The same for the check, though the bytes may be others. -/
def Unchanged (lib : Library) (repo repo' : Repository ν) (path : String) : Prop :=
  ∃ payload payload', repo.read path = some payload ∧ repo'.read path = some payload' ∧
    Alike lib payload payload'

theorem unchanged_of_eq {path : String} (h : repo'.read path = repo.read path)
    (hread : (repo.read path).isSome) : Unchanged lib repo repo' path := by
  obtain ⟨payload, hpayload⟩ := Option.isSome_iff_exists.mp hread
  exact ⟨payload, payload, hpayload, h.trans hpayload, .inl rfl⟩

theorem read_eq_of_resolve {path path' : String} (h : repo.resolve path = repo.resolve path') :
    repo.read path = repo.read path' := by
  rw [Repository.read, h, Repository.read]

theorem loadManifest_congr (h : repo'.read MANIFEST_PATH = repo.read MANIFEST_PATH) :
    loadManifest lib repo' = loadManifest lib repo := by
  rw [loadManifest, h, loadManifest]

theorem exists_node {data : Json} (h : loadManifest lib repo = .ok data) :
    ∃ node, repo.resolve MANIFEST_PATH = some node := by
  rw [loadManifest, Repository.read] at h
  cases hnode : repo.resolve MANIFEST_PATH with
  | none =>
    rw [hnode] at h
    cases h
  | some node => exact ⟨node, rfl⟩

section
variable [DecidableEq ν] {node : ν} {bytes : List UInt8}

theorem read_write {path : String} : (repo.write node bytes).read path =
    if repo.resolve path = some node then some bytes else repo.read path := by
  unfold Repository.read Repository.write
  cases repo.resolve path with
  | none => rfl
  | some n =>
    by_cases h : n = node <;> simp [h]

theorem write_write : (repo.write node bytes).write node bytes = repo.write node bytes := by
  unfold Repository.write
  congr 1
  funext n
  by_cases h : n = node <;> simp [h]

theorem update_eq_ok {data : Json} {data' : JsonDict} (hload : loadManifest lib repo = .ok data)
    (hupdate : updateManifest lib repo data = .ok data') (hnode : repo.resolve MANIFEST_PATH = some node) :
    update lib repo = .ok (repo.write node (lib.printed (.dict data'))) := by
  rw [update, hload, ok_bind, hupdate, ok_bind, hnode]
  rfl

theorem loadManifest_write {data : JsonDict} (hnode : repo.resolve MANIFEST_PATH = some node)
    (hjson : lib.loads (lib.printed (.dict data)) = some (.dict data)) :
    loadManifest lib (repo.write node (lib.printed (.dict data))) = .ok (.dict data) := by
  rw [loadManifest, read_write, if_pos hnode]
  dsimp only
  rw [hjson]

theorem loads_freshText : noticeLibrary.loads (noticeLibrary.printed (.dict freshData)) = some (.dict freshData) := by
  have hne : utf8 (freshText ++ "\n") ≠ utf8 staleText := fun h => by
    have hlength := congrArg String.length (utf8_injective h)
    have hlonger : staleText.length < freshHead.length := by decide +kernel
    simp only [freshText, String.length_append] at hlength
    omega
  exact (if_neg hne).trans (if_pos rfl)

theorem load_staleText : loadManifest noticeLibrary noticeRepository = .ok (.dict staleData) := by
  have hloads : noticeLibrary.loads (utf8 staleText) = some (.dict staleData) := if_pos rfl
  have hread : noticeRepository.read MANIFEST_PATH = some (utf8 staleText) := rfl
  rw [loadManifest, hread]
  dsimp only
  rw [hloads]

theorem lists_staleData : Lists staleData staleRows :=
  ⟨rfl, by simp [staleRows, staleRow, Value.get]⟩

theorem refreshed_staleData :
    refreshedManifest noticeLibrary noticeRepository staleData staleRows = freshData := rfl

theorem inventory_staleData : Inventory staleData staleRows :=
  ⟨lists_staleData, rfl, by decide, by decide +kernel, by decide⟩

theorem update_staleData : updateManifest noticeLibrary noticeRepository (.dict staleData) = .ok freshData :=
  updateManifest_of_lists lists_staleData (by decide)

/-- **An update settles.** It writes one file, in it the derived fields only, and a second
one changes nothing, if the list does not name the manifest. -/
theorem update_settles {data : JsonDict} {rows : List Row}
    (hload : loadManifest lib repo = .ok (.dict data)) (hlists : Lists data rows)
    (hread : ∀ row ∈ rows, (repo.read row.path).isSome)
    (hself : ∀ row ∈ rows, repo.resolve row.path ≠ repo.resolve MANIFEST_PATH)
    (hjson : lib.loads (lib.printed (.dict (refreshedManifest lib repo data rows))) =
      some (.dict (refreshedManifest lib repo data rows))) :
    ∃ repo' data' rows', update lib repo = .ok repo' ∧ update lib repo' = .ok repo' ∧
      (∀ path, repo.resolve path ≠ repo.resolve MANIFEST_PATH → repo'.read path = repo.read path) ∧
      loadManifest lib repo' = .ok (.dict data') ∧ Lists data' rows' ∧
      (∀ key, key ≠ "files" → key ≠ "file_count" → key ≠ "total_file_count_including_manifest" →
        get data' key = get data key) ∧
      List.Forall₂ (fun row row' => row'.path = row.path ∧ ∀ key, key ≠ "bytes" → key ≠ "sha256" →
        get row'.entry key = get row.entry key) rows rows' := by
  obtain ⟨node, hnode⟩ := exists_node hload
  have hfirst := update_eq_ok hload (updateManifest_of_lists hlists hread) hnode
  have hloaded := loadManifest_write hnode hjson
  have hframe : ∀ path, repo.resolve path ≠ repo.resolve MANIFEST_PATH →
      (repo.write node (lib.printed (.dict (refreshedManifest lib repo data rows)))).read path = repo.read path :=
    fun path hne => by rw [read_write, if_neg (hnode ▸ hne)]
  have hlists' : Lists (refreshedManifest lib repo data rows) (rows.map (refreshed lib repo)) :=
    lists_refreshed hlists
  refine ⟨_, _, _, hfirst, ?_, hframe, hloaded, hlists', fun key hfiles hcount htotal =>
    get_refreshedManifest hfiles hcount htotal, ?_⟩
  · have hread' : ∀ row' ∈ rows.map (refreshed lib repo),
        ((repo.write node (lib.printed (.dict (refreshedManifest lib repo data rows)))).read row'.path).isSome := by
      intro row' hrow'
      obtain ⟨row, hrow, rfl⟩ := List.mem_map.mp hrow'
      exact (hframe row.path (hself row hrow)) ▸ hread row hrow
    rw [update_eq_ok hloaded (updateManifest_of_lists hlists' hread') hnode,
      refreshedManifest_refreshed fun row hrow => hframe row.path (hself row hrow), write_write]
  · rw [List.forall₂_map_right_iff, List.forall₂_same]
    exact fun row _ => ⟨rfl, fun key hbytes hsha256 => get_resealed hbytes hsha256⟩

theorem update_settles_notice : ∃ repo' : Repository PackageFile,
    update noticeLibrary noticeRepository = .ok repo' ∧ update noticeLibrary repo' = .ok repo' ∧
      repo'.read "NOTICE.md" = some [] ∧ repo'.read "README.md" = some [0] := by
  obtain ⟨repo', -, -, hfirst, hsecond, hframe, -⟩ := update_settles load_staleText lists_staleData
    (by decide) (by decide) (refreshed_staleData ▸ loads_freshText)
  exact ⟨repo', hfirst, hsecond, hframe "NOTICE.md" (by decide), hframe "README.md" (by decide)⟩

end

/-- **What passes the check holds for these files only.** A repository with the same manifest
passes if and only if every listed file is there and the same, or its bytes and those of
before are of one length and collide. -/
theorem manifest_binds (h : check lib repo = .ok ())
    (hsame : loadManifest lib repo' = loadManifest lib repo) :
    ∃ data rows, loadManifest lib repo = .ok (.dict data) ∧ Inventory data rows ∧
      (check lib repo' = .ok () ↔ ∀ row ∈ rows, Unchanged lib repo repo' row.path) := by
  obtain ⟨data, rows, hload, hinventory, hsealed⟩ := check_eq_ok.mp h
  refine ⟨data, rows, hload, hinventory, ?_⟩
  rw [check_eq_ok, hsame, hload]
  refine ⟨fun h' row hrow => ?_, fun h' => ⟨data, rows, rfl, hinventory, hsealed.count, hsealed.total,
    fun row hrow => ?_⟩⟩
  · obtain ⟨data', rows', hdata, hinventory', hsealed'⟩ := h'
    obtain rfl := Json.dict.inj (Except.ok.inj hdata)
    obtain rfl := hinventory.toLists.unique hinventory'.toLists
    obtain ⟨payload, hpayload, hseals⟩ := hsealed.entries row hrow
    obtain ⟨payload', hpayload', hseals'⟩ := hsealed'.entries row hrow
    exact ⟨payload, payload', hpayload, hpayload', hseals.iff_alike.mp hseals'⟩
  · obtain ⟨payload, payload', hpayload, hpayload', halike⟩ := h' row hrow
    obtain ⟨found, hfound, hseals⟩ := hsealed.entries row hrow
    obtain rfl := Option.some.inj (hpayload.symm.trans hfound)
    exact ⟨payload', hpayload', hseals.iff_alike.mpr halike⟩

def freshRepository : Repository PackageFile :=
  noticeRepository.write .manifest (noticeLibrary.printed (.dict freshData))

def freshRows : List Row := staleRows.map (refreshed noticeLibrary noticeRepository)

theorem inventory_freshData : Inventory freshData freshRows := by
  rw [← refreshed_staleData]
  exact (inventory_refreshed lists_staleData).mpr inventory_staleData

theorem sealed_freshData : Sealed noticeLibrary freshRepository freshData freshRows := by
  rw [← refreshed_staleData]
  refine (sealed_refreshed (by decide)).mpr fun row hrow => ?_
  rcases List.mem_pair.mp hrow with rfl | rfl
  · exact ⟨[], [], rfl, rfl, .inl rfl⟩
  · exact ⟨[0], [0], rfl, rfl, .inl rfl⟩

/-- The notice replaced by one zero byte: the readme is the same, the check fails. -/
theorem manifest_binds_notice : check noticeLibrary (freshRepository.write .notice [0]) ≠ .ok () := by
  have hload : loadManifest noticeLibrary freshRepository = .ok (.dict freshData) :=
    loadManifest_write rfl loads_freshText
  have hframe : (freshRepository.write .notice [0]).read MANIFEST_PATH =
      freshRepository.read MANIFEST_PATH := by
    rw [read_write, if_neg (by decide)]
  obtain ⟨data, rows, hdata, hinventory, hcheck⟩ := manifest_binds
    (check_eq_ok.mpr ⟨freshData, _, hload, inventory_freshData, sealed_freshData⟩)
    (loadManifest_congr hframe)
  obtain rfl := Json.dict.inj (Except.ok.inj (hload.symm.trans hdata))
  obtain rfl := inventory_freshData.unique hinventory.toLists
  rw [ne_eq, hcheck]
  intro h
  obtain ⟨payload, payload', hread, hread', halike⟩ := h _ List.mem_cons_self
  obtain rfl : [] = payload := Option.some.inj hread
  obtain rfl : [0] = payload' := Option.some.inj hread'
  exact absurd (alike_iff.mp halike).1 (by decide)

end Zrm.L6.PackageManifest
