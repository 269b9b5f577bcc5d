import Zrm.Core.Placement
import Zrm.L6Tools.Value

/-!
# Checks of the inventory tools (`tools/bom_common.py`)

What `bom_sbom.py` shares with the other inventory tools: the error, the checks of paths
and strings, and the references to review documents. What the host and the standard
library answer is a parameter.
-/
namespace Zrm.L6.Bom

open Placement Result Value

/-- The answers of the host: text of JSON values, digests, files. -/
structure Host where
  /-- `canonical_json` -/
  canonicalJson : Json → String
  /-- `json.dumps` with `ensure_ascii=True, sort_keys=True, separators=(",", ":")` -/
  compactJson : Json → String
  /-- `hashlib.sha256(data).hexdigest()` -/
  sha256 : List UInt8 → String
  /-- `tomllib.loads` of decoded bytes; a date or a time is a number, `none` an error. -/
  tomlLoads : List UInt8 → Option JsonDict
  /-- `Path(p).resolve().relative_to(ROOT.resolve()).as_posix()`, `none` for a `ValueError` -/
  repositoryPath : String → Option String
  /-- `(repository_root / p).is_file()` -/
  isFile : String → Bool
  /-- `(repository_root / p).is_symlink()` -/
  isSymlink : String → Bool

/-- `text.encode("utf-8")` -/
def utf8 (text : String) : List UInt8 := text.toUTF8.toList

theorem byteArray_toList_loop (bytes : ByteArray) (i : Nat) (r : List UInt8) :
    ByteArray.toList.loop bytes i r = r.reverse ++ bytes.data.toList.drop i := by
  fun_induction ByteArray.toList.loop bytes i r with
  | case1 i r hi ih =>
    have hlength : i < bytes.data.toList.length := by simpa using hi
    rw [ih, List.reverse_cons, List.append_assoc, List.drop_eq_getElem_cons hlength]
    simp [ByteArray.get!, getElem!_pos, hi]
  | case2 i r hi =>
    have hlength : bytes.data.toList.length ≤ i := by simpa using hi
    rw [List.drop_eq_nil_of_le hlength, List.append_nil]

theorem utf8_injective : Function.Injective utf8 := by
  intro text text' h
  have hlist : ∀ bytes : ByteArray, bytes.toList = bytes.data.toList := fun bytes =>
    byteArray_toList_loop bytes 0 []
  rw [utf8, utf8, hlist, hlist, Array.toList_inj] at h
  exact String.toByteArray_inj.mp (ByteArray.ext h)

/-- `hashlib.sha256(canonical_json(value).encode("utf-8")).hexdigest()` -/
def Host.fingerprint (host : Host) (value : Json) : String := host.sha256 (utf8 (host.canonicalJson value))

/-- `raise BomError(text)`; what Python prints in the text is listed. -/
def bomError (text : String) (listed : List String) : Raised := ⟨.checkFailed, text, listed⟩

def maxInputBytes : Nat := 1048576
def sbomSchema : String := "zrm/source-sbom/v1"
def buildSurfacePolicySchema : String := "zrm/build-surface-policy/v1"

/-- `str(path)` of a relative path -/
def relativeText (path : Path) : String :=
  if path.names = [] then "." else "/".intercalate path.names

/-- mirrors tools/bom_common.py:40-48 -/
def normalizePath (pathText : String) : Except Raised String :=
  if pathText = "" ∨ '\\' ∈ pathText.toList then
    .error (bomError "BOM paths must be nonempty repository-relative POSIX paths" [])
  else
    let path := Path.ofString pathText
    if path.absolute ∨ ".." ∈ path.names ∨ relativeText path ≠ pathText then
      .error (bomError "BOM path is not normalized and repository-relative: " [pathText])
    else .ok pathText

/-- mirrors tools/bom_common.py:51-56 -/
def requireString (value : Json) (field : String) : Except Raised String :=
  match value with
  | .str s =>
    if hasText s then .ok s else .error (bomError (field ++ " must be a nonempty string") [])
  | _ => .error (bomError (field ++ " must be a nonempty string") [])

/-- The items as strings, if all are. -/
def stringItems (items : List Json) : Option (List String) := (strings items).map Subtype.val

/-- mirrors tools/bom_common.py:59-66 -/
def requireStringList (value : Json) (field : String) : Except Raised (List String) :=
  match value with
  | .list [] => .error (bomError (field ++ " must be a nonempty list") [])
  | .list items =>
    match stringItems items with
    | some l =>
      if l.all hasText then .ok l
      else .error (bomError (field ++ " contains an empty or non-string value") [])
    | none => .error (bomError (field ++ " contains an empty or non-string value") [])
  | _ => .error (bomError (field ++ " must be a nonempty list") [])

/-- The loop body of `validate_references`. -/
def validateReference (host : Host) (field reference : String) : Except Raised String := do
  let pathText ← normalizePath reference
  require (host.isFile pathText) (bomError (field ++ " references missing file: " ++ pathText) [])
  require (!host.isSymlink pathText) (bomError (field ++ " references a symlink: " ++ pathText) [])
  pure pathText

/-- mirrors tools/bom_common.py:83-99 -/
def validateReferences (host : Host) (references : List String) (field : String) :
    Except Raised (List String) := do
  let normalized ← references.mapM (validateReference host field)
  require normalized.Nodup (bomError (field ++ " contains duplicate references") [])
  pure (normalized.insertionSort (· ≤ ·))

/-! ## What the checks accept -/

theorem requireString_eq_ok {value : Json} {field s : String} :
    requireString value field = .ok s ↔ value = .str s ∧ hasText s = true := by
  cases value with
  | str t =>
    rw [requireString]
    split
    · rename_i htext
      refine ⟨fun h => ?_, fun h => ?_⟩
      · cases h
        exact ⟨rfl, htext⟩
      · cases h.1
        rfl
    · rename_i htext
      refine ⟨fun h => ?_, fun h => ?_⟩
      · cases h
      · cases h.1
        exact absurd h.2 htext
  | _ =>
    refine ⟨fun h => ?_, fun h => ?_⟩
    · cases h
    · cases h.1

theorem stringItems_eq_some {items : List Json} {l : List String} :
    stringItems items = some l ↔ items = l.map .str := by
  rw [stringItems]
  refine ⟨fun h => ?_, fun h => ?_⟩
  · obtain ⟨found, -, rfl⟩ := Option.map_eq_some_iff.mp h
    exact found.2
  · rw [h]
    clear h
    induction l with
    | nil => rfl
    | cons s l ih =>
      obtain ⟨found, hfound, hval⟩ := Option.map_eq_some_iff.mp ih
      rw [List.map_cons, strings, hfound]
      simp [hval]

theorem requireStringList_eq_ok {value : Json} {field : String} {l : List String} :
    requireStringList value field = .ok l ↔
      value = .list (l.map .str) ∧ l ≠ [] ∧ l.all hasText = true := by
  cases value with
  | list items =>
    rw [Json.list.injEq, ← stringItems_eq_some]
    cases items with
    | nil =>
      refine ⟨fun h => ?_, fun h => ?_⟩
      · cases h
      · obtain ⟨hnil, hne, -⟩ := h
        exact absurd (Option.some.inj hnil).symm hne
    | cons item items =>
      simp only [requireStringList]
      cases hstrings : stringItems (item :: items) with
      | none =>
        refine ⟨fun h => ?_, fun h => ?_⟩
        · cases h
        · cases h.1
      | some found =>
        have hne : found ≠ [] := by
          intro hnil
          rw [hnil, stringItems_eq_some] at hstrings
          cases hstrings
        simp only [Option.some.injEq]
        by_cases htext : found.all hasText = true
        · rw [if_pos htext]
          refine ⟨fun h => ?_, fun h => congrArg Except.ok h.1⟩
          cases h
          exact ⟨rfl, hne, htext⟩
        · rw [if_neg htext]
          refine ⟨fun h => ?_, fun h => ?_⟩
          · cases h
          · exact absurd (h.1 ▸ h.2.2) htext
  | _ =>
    refine ⟨fun h => ?_, fun h => ?_⟩
    · cases h
    · cases h.1

end Zrm.L6.Bom
