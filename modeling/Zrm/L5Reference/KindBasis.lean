import Mathlib.Data.List.Dedup
import Zrm.Core.Placement
import Zrm.L5Reference.LinearPoint

/-!
# Kind bases and transaction deltas (`arm_zrm_frontier_v1.py`)

* `DeltaEquation.point_ok`: the coefficients of a delta over a basis.
* `certified_entries`: a certified basis gives each kind a symbol of its own.
* `certified_unforgeable`: over it, only a balanced delta has a known key.
-/
namespace Zrm.L5.Frontier

open Zrm Zrm.BigEndian Zrm.Result Zrm.Placement Zrm.FormalSum Zrm.L5.CanonicalJson

/-- `sorted(set(names))` -/
def sortedSet (names : List String) : List String := names.dedup.insertionSort (· ≤ ·)

/-! ## Kind bases -/

/-- mirrors reference_models/arm_zrm_frontier_v1.py:81-87 -/
structure KindBasis where
  profileId : String
  entries : List (String × LinearPoint)
  authenticated : Bool
  profile_nonempty : profileId ≠ ""
  ascending : (entries.map Prod.fst).Pairwise (· < ·)

namespace KindBasis

/-- mirrors reference_models/arm_zrm_frontier_v1.py:89-96 -/
def tryNew (profileId : String) (entries : List (String × LinearPoint)) (authenticated : Bool) :
    Except FrontierError KindBasis :=
  if hprofile : profileId = "" then .error ⟨"basis profile must be nonempty"⟩
  else if hsorted : entries.map Prod.fst = (entries.map Prod.fst).insertionSort (· ≤ ·) then
    if hunique : (entries.map Prod.fst).Nodup then
      .ok ⟨profileId, entries, authenticated, hprofile,
        eq_insertionSort_iff.mp ⟨hsorted, hunique⟩⟩
    else .error ⟨"kind-basis entries must be unique"⟩
  else .error ⟨"kind-basis entries must be sorted"⟩

/-- mirrors reference_models/arm_zrm_frontier_v1.py:98-105 -/
def honest (kinds : List String) (profileId : String) : Except FrontierError KindBasis := do
  let entries ← (sortedSet kinds).mapM fun kind => do
    let point ← LinearPoint.basis ("K:" ++ kind) 1
    return (kind, point)
  tryNew profileId entries true

/-- mirrors reference_models/arm_zrm_frontier_v1.py:107-121 -/
def maliciousKnownScalars (knownScalars : Dict String Int) (profileId : String) :
    Except FrontierError KindBasis := do
  let entries ← (sortRows knownScalars.items).mapM fun item => do
    let point ← LinearPoint.basis GENERATOR item.2
    return (item.1, point)
  tryNew profileId entries false

/-- mirrors reference_models/arm_zrm_frontier_v1.py:123-133 -/
def maliciousRelation (kinds : List String) (sharedSymbol profileId : String) :
    Except FrontierError KindBasis := do
  let entries ← (sortedSet kinds).mapM fun kind => do
    let point ← LinearPoint.basis sharedSymbol 1
    return (kind, point)
  tryNew profileId entries false

/-- mirrors reference_models/arm_zrm_frontier_v1.py:135-139 -/
def point (basis : KindBasis) (kind : String) : Except FrontierError LinearPoint :=
  match basis.entries.find? fun entry => entry.1 == kind with
  | some entry => .ok entry.2
  | none => .error ⟨"unknown kind: " ++ kind⟩

/-- mirrors reference_models/arm_zrm_frontier_v1.py:141-145 -/
def canonicalPayload (basis : KindBasis) : Payload :=
  .dict [("profile_id", .str basis.profileId),
    ("entries", .list (basis.entries.map fun entry => .list [.str entry.1, entry.2.canonical]))]

/-- mirrors reference_models/arm_zrm_frontier_v1.py:147-151 -/
def root (sha256 : List UInt8 → Bytes 32) (basis : KindBasis) : String :=
  payloadRoot sha256 "ZRM-MODEL-KIND-BASIS-V1" basis.canonicalPayload

/-- mirrors reference_models/arm_zrm_frontier_v1.py:153-155 -/
def matchesCanonicalHashToCurve (basis : KindBasis) : Except FrontierError Bool := do
  let expected ← honest (basis.entries.map Prod.fst) basis.profileId
  return basis.authenticated && basis.entries == expected.entries

end KindBasis

/-- mirrors reference_models/arm_zrm_frontier_v1.py:189-195 -/
structure KindBasisCertificate where
  basisRoot : String
  profileId : String
  derivationProofId : String
  deriving DecidableEq

/-- mirrors reference_models/arm_zrm_frontier_v1.py:198-204 -/
def certifyKindBasis (sha256 : List UInt8 → Bytes 32) (basis : KindBasis) (proofId : String) :
    Except FrontierError KindBasisCertificate := do
  if proofId = "" then throw ⟨"basis derivation proof identifier is required"⟩
  if !(← basis.matchesCanonicalHashToCurve) then
    throw ⟨"untrusted or noncanonical kind basis"⟩
  return ⟨basis.root sha256, basis.profileId, proofId⟩

/-! ## Deltas -/

/-- mirrors reference_models/arm_zrm_frontier_v1.py:158-163 -/
structure DeltaEquation where
  netQuantityByKind : List (String × Int)
  blinding : Int
  deriving DecidableEq

namespace DeltaEquation

/-- mirrors reference_models/arm_zrm_frontier_v1.py:165-170 -/
def fromMapping (quantities : Dict String Int) (blinding : Int) : DeltaEquation :=
  ⟨normalRows quantities.items, blinding⟩

/-- One turn of the loop of `point`. -/
def addRow (basis : KindBasis) (result : LinearPoint) (row : String × Int) :
    Except FrontierError LinearPoint := do
  let kindPoint ← basis.point row.1
  let scaled ← kindPoint.scale row.2
  result.add scaled

/-- mirrors reference_models/arm_zrm_frontier_v1.py:172-176 -/
def point (equation : DeltaEquation) (basis : KindBasis) : Except FrontierError LinearPoint := do
  let start ← LinearPoint.basis GENERATOR equation.blinding
  equation.netQuantityByKind.foldlM (addRow basis) start

/-- mirrors reference_models/arm_zrm_frontier_v1.py:178-179 -/
def isBalanced (equation : DeltaEquation) : Bool := equation.netQuantityByKind.isEmpty

/-- mirrors reference_models/arm_zrm_frontier_v1.py:181-183 -/
def knownBindingKey (equation : DeltaEquation) (basis : KindBasis) :
    Except FrontierError (Option Int) := do
  let point ← equation.point basis
  return point.knownGeneratorScalar

/-- mirrors reference_models/arm_zrm_frontier_v1.py:185-186 -/
def admitsForgedBindingSignature (equation : DeltaEquation) (basis : KindBasis) :
    Except FrontierError Bool := do
  if equation.isBalanced then return false
  let key ← equation.knownBindingKey basis
  return key.isSome

end DeltaEquation

/-! ## The coefficients of a delta -/

/-- The coefficient of a symbol in the point of a kind. -/
def KindBasis.weight (basis : KindBasis) (kind symbol : String) : Int :=
  match basis.point kind with
  | .ok point => point.coefficient symbol
  | .error _ => 0

theorem KindBasis.point_ok {basis : KindBasis} {kind : String}
    (h : kind ∈ basis.entries.map Prod.fst) :
    ∃ point, basis.point kind = .ok point ∧ (kind, point) ∈ basis.entries := by
  obtain ⟨entry, hentry, rfl⟩ := List.mem_map.mp h
  unfold KindBasis.point
  cases hfind : basis.entries.find? fun e => e.1 == entry.1 with
  | none => exact absurd (List.find?_eq_none.mp hfind entry hentry) (by simp)
  | some found =>
    have hkind : found.1 = entry.1 := by
      simpa using List.find?_some (p := fun e : String × LinearPoint => e.1 == entry.1) hfind
    exact ⟨found.2, rfl, hkind ▸ List.mem_of_find?_eq_some hfind⟩

theorem DeltaEquation.addRow_ok {basis : KindBasis} {row : String × Int}
    (h : row.1 ∈ basis.entries.map Prod.fst) (p : LinearPoint) :
    ∃ q, addRow basis p row = .ok q ∧
      ∀ x, q.coefficient x = p.coefficient x + basis.weight row.1 x * row.2 := by
  obtain ⟨point, hpoint, -⟩ := KindBasis.point_ok h
  obtain ⟨scaled, hscaled, hcoeff⟩ := point.scale_ok row.2
  obtain ⟨q, hq, hsum⟩ := p.add_ok scaled
  refine ⟨q, ?_, fun x => ?_⟩
  · rw [addRow, hpoint, ok_bind, hscaled, ok_bind, hq]
  · rw [hsum, hcoeff, KindBasis.weight, hpoint]

theorem DeltaEquation.foldlM_addRow {basis : KindBasis} {rows : List (String × Int)}
    (h : ∀ row ∈ rows, row.1 ∈ basis.entries.map Prod.fst) (p : LinearPoint) :
    ∃ q, rows.foldlM (addRow basis) p = .ok q ∧
      ∀ x, q.coefficient x =
        p.coefficient x + (rows.map fun row => basis.weight row.1 x * row.2).sum := by
  induction rows generalizing p with
  | nil => exact ⟨p, rfl, fun x => (Int.add_zero _).symm⟩
  | cons row rows ih =>
    rw [List.forall_mem_cons] at h
    obtain ⟨q, hq, hrow⟩ := addRow_ok h.1 p
    obtain ⟨r, hr, hrows⟩ := ih h.2 q
    refine ⟨r, ?_, fun x => ?_⟩
    · rw [List.foldlM_cons, hq, ok_bind, hr]
    · rw [hrows, hrow, List.map_cons, List.sum_cons, Int.add_assoc]

/-- A delta over kinds of the basis has a point, with these coefficients. -/
theorem DeltaEquation.point_ok {basis : KindBasis} {equation : DeltaEquation}
    (h : ∀ row ∈ equation.netQuantityByKind, row.1 ∈ basis.entries.map Prod.fst) :
    ∃ p, equation.point basis = .ok p ∧ ∀ x, p.coefficient x =
      (if x = GENERATOR then equation.blinding else 0) +
        (equation.netQuantityByKind.map fun row => basis.weight row.1 x * row.2).sum := by
  obtain ⟨start, hstart, hblinding⟩ := LinearPoint.basis_ok GENERATOR equation.blinding
  obtain ⟨p, hp, hcoeff⟩ := foldlM_addRow h start
  refine ⟨p, ?_, fun x => ?_⟩
  · rw [DeltaEquation.point, hstart, ok_bind, hp]
  · rw [hcoeff, hblinding]

/-- The weights of a kind whose point is a multiple of one symbol. -/
theorem KindBasis.weight_of_basis {basis : KindBasis} {kind : String}
    (hkind : kind ∈ basis.entries.map Prod.fst) :
    ∃ point, (kind, point) ∈ basis.entries ∧ ∀ {symbol scalar},
      LinearPoint.basis symbol scalar = .ok point →
        ∀ x, basis.weight kind x = if x = symbol then scalar else 0 := by
  obtain ⟨point, hpoint, hmem⟩ := KindBasis.point_ok hkind
  refine ⟨point, hmem, fun {symbol scalar} hbasis x => ?_⟩
  obtain ⟨p, hp, hcoeff⟩ := LinearPoint.basis_ok symbol scalar
  have hsame : point = p := Except.ok.inj (hbasis.symm.trans hp)
  rw [KindBasis.weight, hpoint, hsame]
  exact hcoeff x

/-! ## Certified bases -/

theorem symbol_injective {kind kind' : String} (h : "K:" ++ kind = "K:" ++ kind') :
    kind = kind' :=
  (String.append_right_inj "K:").mp h

theorem symbol_ne_generator (kind : String) : "K:" ++ kind ≠ GENERATOR := by
  intro h
  have hchars := congrArg String.toList h
  rw [String.toList_append] at hchars
  have hhead : 'K' = 'G' := (List.cons.inj hchars).1
  exact absurd hhead (by decide)

theorem KindBasis.tryNew_entries {profileId : String} {entries : List (String × LinearPoint)}
    {authenticated : Bool} {basis : KindBasis}
    (h : tryNew profileId entries authenticated = .ok basis) : basis.entries = entries := by
  unfold tryNew at h
  split at h
  · cases h
  split at h
  · split at h <;> cases h
    rfl
  · cases h

theorem KindBasis.honest_entries {kinds : List String} {profileId : String} {basis : KindBasis}
    (h : honest kinds profileId = .ok basis) :
    ∀ entry ∈ basis.entries, LinearPoint.basis ("K:" ++ entry.1) 1 = .ok entry.2 := by
  obtain ⟨entries, hentries, hnew⟩ := bind_eq_ok.mp h
  rw [tryNew_entries hnew]
  intro entry hentry
  obtain ⟨kind, -, hkind⟩ := mem_of_mapM_eq_ok hentries entry hentry
  obtain ⟨point, hpoint, hpair⟩ := bind_eq_ok.mp hkind
  cases hpair
  exact hpoint

/-- The certificate is given only to the honest entries. -/
theorem certified_entries {sha256 : List UInt8 → Bytes 32} {basis : KindBasis} {proofId : String}
    {certificate : KindBasisCertificate}
    (h : certifyKindBasis sha256 basis proofId = .ok certificate) :
    ∀ entry ∈ basis.entries, LinearPoint.basis ("K:" ++ entry.1) 1 = .ok entry.2 := by
  unfold certifyKindBasis at h
  split at h
  · cases h
  obtain ⟨-, -, h⟩ := bind_eq_ok.mp h
  obtain ⟨verdict, hverdict, h⟩ := bind_eq_ok.mp h
  cases verdict with
  | false => cases h
  | true =>
    obtain ⟨expected, hexpected, hsame⟩ := bind_eq_ok.mp hverdict
    rw [pure_eq, Except.ok.injEq, Bool.and_eq_true, beq_iff_eq] at hsame
    rw [hsame.2]
    exact KindBasis.honest_entries hexpected

theorem certified_weight {sha256 : List UInt8 → Bytes 32} {basis : KindBasis} {proofId : String}
    {certificate : KindBasisCertificate}
    (h : certifyKindBasis sha256 basis proofId = .ok certificate) {kind : String}
    (hkind : kind ∈ basis.entries.map Prod.fst) (x : String) :
    basis.weight kind x = if x = "K:" ++ kind then 1 else 0 := by
  obtain ⟨point, hmem, hweight⟩ := KindBasis.weight_of_basis hkind
  exact hweight (certified_entries h _ hmem) x

/-- Over a certified basis the symbol of a kind has the kind's quantity as coefficient. -/
theorem certified_coefficient {sha256 : List UInt8 → Bytes 32} {basis : KindBasis}
    {proofId : String} {certificate : KindBasisCertificate}
    (h : certifyKindBasis sha256 basis proofId = .ok certificate) {rows : List (String × Int)}
    (hrows : ∀ row ∈ rows, row.1 ∈ basis.entries.map Prod.fst) (hnodup : (rows.map Prod.fst).Nodup)
    (kind : String) :
    (rows.map fun row => basis.weight row.1 ("K:" ++ kind) * row.2).sum = coeff rows kind := by
  rw [← sum_map_ite hnodup kind]
  congr 1
  refine List.map_congr_left fun row hrow => ?_
  rw [certified_weight h (hrows row hrow)]
  by_cases hkind : kind = row.1
  · rw [if_pos (congrArg _ hkind), if_pos hkind, Int.one_mul]
  · rw [if_neg fun heq => hkind (symbol_injective heq), if_neg hkind, Int.zero_mul]

/-- The known key of a delta over a certified basis: the blinding of a balanced one. -/
theorem certified_knownBindingKey {sha256 : List UInt8 → Bytes 32} {basis : KindBasis}
    {proofId : String} {certificate : KindBasisCertificate}
    (h : certifyKindBasis sha256 basis proofId = .ok certificate) {equation : DeltaEquation}
    (hnormal : Normal equation.netQuantityByKind)
    (hkinds : ∀ row ∈ equation.netQuantityByKind, row.1 ∈ basis.entries.map Prod.fst) :
    equation.knownBindingKey basis =
      .ok (if equation.isBalanced then some equation.blinding else none) := by
  obtain ⟨p, hp, hcoeff⟩ := DeltaEquation.point_ok hkinds
  rw [DeltaEquation.knownBindingKey, hp, ok_bind, pure_eq]
  congr 1
  unfold DeltaEquation.isBalanced
  cases hrows : equation.netQuantityByKind with
  | nil =>
    rw [hrows] at hcoeff
    rw [List.isEmpty_nil, if_pos rfl, LinearPoint.knownGeneratorScalar_eq_some]
    refine ⟨fun x hx => ?_, ?_⟩
    · rw [hcoeff, if_neg hx]
      rfl
    · rw [hcoeff, if_pos rfl]
      exact Int.add_zero _
  | cons row rows =>
    -- the symbol of the first row is unknown, and has a coefficient
    have hrow : row ∈ equation.netQuantityByKind := hrows ▸ List.mem_cons_self
    rw [List.isEmpty_cons, if_neg Bool.false_ne_true, Option.eq_none_iff_forall_ne_some]
    intro scalar hscalar
    have hzero := (LinearPoint.knownGeneratorScalar_eq_some.mp hscalar).1 ("K:" ++ row.1)
      (symbol_ne_generator row.1)
    rw [hcoeff, if_neg (symbol_ne_generator row.1),
      certified_coefficient h hkinds hnormal.nodup, coeff_of_mem hnormal.nodup hrow,
      Int.zero_add] at hzero
    exact hnormal.nonzero row hrow hzero

theorem fromMapping_isBalanced {quantities : Dict String Int} {blinding : Int} :
    (DeltaEquation.fromMapping quantities blinding).isBalanced = true ↔
      ∀ x ∈ quantities.items, x.2 = 0 := by
  unfold DeltaEquation.isBalanced DeltaEquation.fromMapping
  rw [List.isEmpty_iff, List.eq_nil_iff_forall_not_mem]
  refine ⟨fun hempty => ?_, fun hzero => ?_⟩
  · intro x hx
    by_contra hne
    exact hempty x (mem_normalRows.mpr ⟨hx, hne⟩)
  · intro x hx
    obtain ⟨hmem, hne⟩ := mem_normalRows.mp hx
    exact hne (hzero x hmem)

/-- **A certified basis admits no forged balance.** Over its kinds a delta has a known key iff
it is balanced; the key is then the blinding. -/
theorem certified_unforgeable (sha256 : List UInt8 → Bytes 32) {basis : KindBasis}
    {proofId : String} {certificate : KindBasisCertificate}
    (h : certifyKindBasis sha256 basis proofId = .ok certificate) (quantities : Dict String Int)
    (hkinds : ∀ kind ∈ quantities.keys, kind ∈ basis.entries.map Prod.fst) (blinding : Int) :
    (∃ key, (DeltaEquation.fromMapping quantities blinding).knownBindingKey basis = .ok key ∧
      (key ≠ none ↔ (DeltaEquation.fromMapping quantities blinding).isBalanced = true) ∧
      ((DeltaEquation.fromMapping quantities blinding).isBalanced = true →
        key = some blinding)) ∧
    ((DeltaEquation.fromMapping quantities blinding).isBalanced = true ↔
      ∀ x ∈ quantities.items, x.2 = 0) ∧
    (DeltaEquation.fromMapping quantities blinding).admitsForgedBindingSignature basis =
      .ok false := by
  have hrows : ∀ row ∈ (DeltaEquation.fromMapping quantities blinding).netQuantityByKind,
      row.1 ∈ basis.entries.map Prod.fst := fun row hrow =>
    hkinds row.1 (List.mem_map_of_mem (mem_normalRows.mp hrow).1)
  have hkey := certified_knownBindingKey h (normal_normalRows quantities.nodup) hrows
  refine ⟨⟨_, hkey, ?_, fun hbalanced => ?_⟩, fromMapping_isBalanced, ?_⟩
  · split <;> simp_all
  · rw [if_pos hbalanced]
    rfl
  · unfold DeltaEquation.admitsForgedBindingSignature
    cases hbalanced : (DeltaEquation.fromMapping quantities blinding).isBalanced with
    | true => rfl
    | false =>
      rw [hkey, hbalanced]
      rfl

/-- The honest basis of two kinds, one of them named like the generator. -/
def generatorNamedBasis : KindBasis where
  profileId := "h2c-v1"
  entries := [("G", ⟨[("K:G", 1)], ⟨by simp, by simp⟩⟩),
    ("asset-a", ⟨[("K:asset-a", 1)], ⟨by simp, by simp⟩⟩)]
  authenticated := true
  profile_nonempty := by decide
  ascending := by decide

theorem certify_generatorNamedBasis :
    certifyKindBasis (fun _ => .replicate 32 1) generatorNamedBasis "proof" =
      .ok ⟨generatorNamedBasis.root fun _ => .replicate 32 1, "h2c-v1", "proof"⟩ := by
  have hmatches : generatorNamedBasis.matchesCanonicalHashToCurve = .ok true := by decide +kernel
  unfold certifyKindBasis
  rw [hmatches]
  rfl

theorem certified_unforgeable_generatorNamed :
    (DeltaEquation.fromMapping (.ofItems [("G", 3), ("asset-a", -2)]) 7).admitsForgedBindingSignature
      generatorNamedBasis = .ok false :=
  (certified_unforgeable (fun _ => .replicate 32 1) certify_generatorNamedBasis
    (.ofItems [("G", 3), ("asset-a", -2)]) (by decide) 7).2.2

end Zrm.L5.Frontier
