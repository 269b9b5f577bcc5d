import Mathlib.Algebra.BigOperators.Ring.List
import Zrm.L5Reference.KindBasis

/-!
# Forged balances (`arm_zrm_frontier_v1.py`)

Over any basis, an unbalanced delta has a known key exactly when the points of its
kinds, weighted with its quantities, leave nothing but the generator.

* `forgeable_iff`: the condition, symbol by symbol, and the key.
* `maliciousKnownScalars_ok`, `maliciousRelation_ok`: the tables of the two attacks.
* `forgeability_exact`: both attacks as cases of the condition.
-/
namespace Zrm.L5.Frontier
open Zrm Zrm.Result Zrm.Placement Zrm.FormalSum

/-! ## The condition -/

/-- The coefficient of a symbol in the sum of the kinds' points, each as often as its
quantity says. -/
def KindBasis.combination (basis : KindBasis) (quantities : Dict String Int) (symbol : String) : Int :=
  (quantities.items.map fun x => x.2 * basis.weight x.1 symbol).sum

section Condition

variable {basis : KindBasis} {quantities : Dict String Int}
  (hkinds : ∀ kind ∈ quantities.keys, kind ∈ basis.entries.map Prod.fst) (blinding : Int)
include hkinds

theorem fromMapping_point :
    ∃ p, (DeltaEquation.fromMapping quantities blinding).point basis = .ok p ∧
      ∀ x, p.coefficient x =
        (if x = GENERATOR then blinding else 0) + basis.combination quantities x := by
  have hrows : ∀ row ∈ (DeltaEquation.fromMapping quantities blinding).netQuantityByKind,
      row.1 ∈ basis.entries.map Prod.fst := fun row hrow =>
    hkinds row.1 (List.mem_map_of_mem (mem_normalRows.mp hrow).1)
  obtain ⟨p, hp, hcoeff⟩ := DeltaEquation.point_ok hrows
  refine ⟨p, hp, fun x => ?_⟩
  have hsum := sum_map_normalRows (f := fun row => basis.weight row.1 x * row.2)
    (fun row hrow => by rw [hrow, Int.mul_zero]) quantities.items
  rw [hcoeff, KindBasis.combination]
  simp only [Int.mul_comm _ (basis.weight _ x)]
  exact congrArg _ hsum

/-- The key of a delta is known when the other symbols cancel. -/
theorem fromMapping_knownBindingKey :
    ∃ key, (DeltaEquation.fromMapping quantities blinding).knownBindingKey basis = .ok key ∧
      ∀ scalar, key = some scalar ↔
        (∀ symbol, symbol ≠ GENERATOR → basis.combination quantities symbol = 0) ∧
          blinding + basis.combination quantities GENERATOR = scalar := by
  obtain ⟨p, hp, hcoeff⟩ := fromMapping_point hkinds blinding
  refine ⟨p.knownGeneratorScalar, ?_, fun scalar => ?_⟩
  · rw [DeltaEquation.knownBindingKey, hp, ok_bind, pure_eq]
  · rw [LinearPoint.knownGeneratorScalar_eq_some, hcoeff GENERATOR, if_pos rfl]
    refine and_congr_left fun _ => forall_congr' fun symbol => ?_
    refine forall_congr' fun hsymbol => ?_
    rw [hcoeff, if_neg hsymbol, Int.zero_add]

/-- A delta over the kinds of a basis is forgeable when
some quantity is nonzero and every symbol but the generator cancels. -/
theorem forgeable_iff :
    ∃ forged key,
      (DeltaEquation.fromMapping quantities blinding).admitsForgedBindingSignature basis =
        .ok forged ∧
      (DeltaEquation.fromMapping quantities blinding).knownBindingKey basis = .ok key ∧
      (forged = true ↔ (∃ x ∈ quantities.items, x.2 ≠ 0) ∧
        ∀ symbol, symbol ≠ GENERATOR → basis.combination quantities symbol = 0) ∧
      (forged = true → key = some (blinding + basis.combination quantities GENERATOR)) := by
  obtain ⟨key, hkey, hknown⟩ := fromMapping_knownBindingKey hkinds blinding
  have hunbalanced : (∃ x ∈ quantities.items, x.2 ≠ 0) ↔
      ¬ (DeltaEquation.fromMapping quantities blinding).isBalanced = true := by
    rw [fromMapping_isBalanced]
    simp only [not_forall, exists_prop, ne_eq]
  cases hverdict : (DeltaEquation.fromMapping quantities blinding).isBalanced with
  | true =>
    refine ⟨false, key, ?_, hkey, ⟨nofun, fun h => ?_⟩, nofun⟩
    · rw [DeltaEquation.admitsForgedBindingSignature, if_pos hverdict]
      rfl
    · exact absurd hverdict (hunbalanced.mp h.1)
  | false =>
    have hnonzero := hunbalanced.mpr (hverdict ▸ Bool.false_ne_true)
    refine ⟨key.isSome, key, ?_, hkey, ⟨fun h => ⟨hnonzero, ?_⟩, fun h => ?_⟩, fun h => ?_⟩
    · rw [DeltaEquation.admitsForgedBindingSignature, hverdict, hkey]
      rfl
    · obtain ⟨scalar, hscalar⟩ := Option.isSome_iff_exists.mp h
      exact ((hknown scalar).mp hscalar).1
    · exact Option.isSome_iff_exists.mpr ⟨_, (hknown _).mpr ⟨h.2, rfl⟩⟩
    · obtain ⟨scalar, hscalar⟩ := Option.isSome_iff_exists.mp h
      rw [((hknown scalar).mp hscalar).2, hscalar]

end Condition

/-! ## The two attacks -/

theorem KindBasis.tryNew_ok {profileId : String} (hprofile : profileId ≠ "")
    {entries : List (String × LinearPoint)} (h : (entries.map Prod.fst).Pairwise (· < ·))
    (authenticated : Bool) :
    ∃ basis, tryNew profileId entries authenticated = .ok basis ∧ basis.entries = entries := by
  obtain ⟨hsorted, hunique⟩ := eq_insertionSort_iff.mpr h
  unfold tryNew
  rw [dif_neg hprofile, dif_pos hsorted, dif_pos hunique]
  exact ⟨_, rfl, rfl⟩

/-- A basis of listed kinds, each with a point of its own. -/
theorem KindBasis.table_ok {ι : Type} {items : List ι} (kind : ι → String)
    {point : ι → Except FrontierError LinearPoint} (hpoint : ∀ i ∈ items, ∃ p, point i = .ok p)
    (hkinds : (items.map kind).Pairwise (· < ·)) {profileId : String} (hprofile : profileId ≠ "") :
    ∃ basis, (items.mapM (fun i => point i >>= fun p => pure (kind i, p)) >>=
        fun entries => tryNew profileId entries false) = .ok basis ∧
      basis.entries.map Prod.fst = items.map kind ∧
      ∀ entry ∈ basis.entries, ∃ i ∈ items, kind i = entry.1 ∧ point i = .ok entry.2 := by
  obtain ⟨entries, hentries, hnames, hall⟩ := exists_mapM_named kind hpoint
  obtain ⟨basis, hbasis, rfl⟩ := tryNew_ok hprofile (hnames ▸ hkinds) false
  refine ⟨basis, ?_, hnames, hall⟩
  rw [hentries, ok_bind, hbasis]

/-- A caller's table of known scalars: every point is a multiple of the generator. -/
theorem KindBasis.maliciousKnownScalars_ok (knownScalars : Dict String Int) {profileId : String}
    (hprofile : profileId ≠ "") :
    ∃ basis, maliciousKnownScalars knownScalars profileId = .ok basis ∧
      (∀ kind, kind ∈ basis.entries.map Prod.fst ↔ kind ∈ knownScalars.keys) ∧
      ∀ kind ∈ knownScalars.keys, ∀ symbol, symbol ≠ GENERATOR → basis.weight kind symbol = 0 := by
  have hpoint : ∀ item ∈ sortRows knownScalars.items, ∃ p, LinearPoint.basis GENERATOR item.2 = .ok p := by
    intro item _
    obtain ⟨p, hp, -⟩ := LinearPoint.basis_ok GENERATOR item.2
    exact ⟨p, hp⟩
  have hkinds : ((sortRows knownScalars.items).map Prod.fst).Pairwise (· < ·) :=
    List.pairwise_map.mpr (sortRows_ascending knownScalars.nodup)
  obtain ⟨basis, hbasis, hnames, hentries⟩ := table_ok Prod.fst hpoint hkinds hprofile
  have hmem : ∀ kind, kind ∈ basis.entries.map Prod.fst ↔ kind ∈ knownScalars.keys := fun kind => by
    rw [hnames]
    exact ((sortRows_perm knownScalars.items).map Prod.fst).mem_iff
  refine ⟨basis, hbasis, hmem, fun kind hkind symbol hsymbol => ?_⟩
  obtain ⟨point, hentry, hscalar⟩ := weight_of_basis ((hmem kind).mpr hkind)
  obtain ⟨item, -, -, hitem⟩ := hentries _ hentry
  rw [hscalar hitem, if_neg hsymbol]

/-- A caller's table of one shared symbol. -/
theorem KindBasis.maliciousRelation_ok (kinds : List String) (sharedSymbol : String)
    {profileId : String} (hprofile : profileId ≠ "") :
    ∃ basis, maliciousRelation kinds sharedSymbol profileId = .ok basis ∧
      (∀ kind, kind ∈ basis.entries.map Prod.fst ↔ kind ∈ kinds) ∧
      ∀ kind ∈ kinds, ∀ symbol,
        basis.weight kind symbol = if symbol = sharedSymbol then 1 else 0 := by
  obtain ⟨p, hp, -⟩ := LinearPoint.basis_ok sharedSymbol 1
  have hkinds : ((sortedSet kinds).map id).Pairwise (· < ·) := by
    rw [List.map_id]
    exact insertionSort_strict (List.nodup_dedup kinds)
  obtain ⟨basis, hbasis, hnames, hentries⟩ :=
    table_ok id (fun _ (_ : _ ∈ sortedSet kinds) => ⟨p, hp⟩) hkinds hprofile
  have hmem : ∀ kind, kind ∈ basis.entries.map Prod.fst ↔ kind ∈ kinds := fun kind => by
    rw [hnames, List.map_id, sortedSet, List.mem_insertionSort, List.mem_dedup]
  refine ⟨basis, hbasis, hmem, fun kind hkind symbol => ?_⟩
  obtain ⟨point, hentry, hscalar⟩ := weight_of_basis ((hmem kind).mpr hkind)
  obtain ⟨-, -, -, hshared⟩ := hentries _ hentry
  exact hscalar hshared symbol

/-- What a weight does to the combination, if the weights of the kinds agree. -/
theorem KindBasis.combination_of_weight {basis : KindBasis} {quantities : Dict String Int}
    {symbol : String} {w : Int} (h : ∀ kind ∈ quantities.keys, basis.weight kind symbol = w) :
    basis.combination quantities symbol = (quantities.items.map Prod.snd).sum * w := by
  have hrow : ∀ x ∈ quantities.items, x.2 * basis.weight x.1 symbol = x.2 * w := fun x hx => by
    rw [h x.1 (List.mem_map_of_mem hx)]
  rw [KindBasis.combination, List.map_congr_left hrow, List.sum_map_mul_right]

/-! ## Main result -/

/-- **Forged balances.** Over any basis a delta is forgeable when it is unbalanced and every
symbol but the generator cancels, and then the key is the blinding plus the generator's
coefficient. So a table of known scalars lets every unbalanced delta be forged, and a table
of one shared symbol those whose quantities add up to zero. -/
theorem forgeability_exact :
    (∀ (basis : KindBasis) (quantities : Dict String Int),
      (∀ kind ∈ quantities.keys, kind ∈ basis.entries.map Prod.fst) → ∀ blinding,
      ∃ forged key,
        (DeltaEquation.fromMapping quantities blinding).admitsForgedBindingSignature basis =
          .ok forged ∧
        (DeltaEquation.fromMapping quantities blinding).knownBindingKey basis = .ok key ∧
        (forged = true ↔ (∃ x ∈ quantities.items, x.2 ≠ 0) ∧
          ∀ symbol, symbol ≠ GENERATOR → basis.combination quantities symbol = 0) ∧
        (forged = true → key = some (blinding + basis.combination quantities GENERATOR))) ∧
    (∀ (knownScalars : Dict String Int) (profileId : String), profileId ≠ "" →
      ∃ basis, KindBasis.maliciousKnownScalars knownScalars profileId = .ok basis ∧
        (∀ kind, kind ∈ basis.entries.map Prod.fst ↔ kind ∈ knownScalars.keys) ∧
        ∀ quantities : Dict String Int, (∀ kind ∈ quantities.keys, kind ∈ knownScalars.keys) →
          (∃ x ∈ quantities.items, x.2 ≠ 0) → ∀ blinding,
          (DeltaEquation.fromMapping quantities blinding).admitsForgedBindingSignature basis =
            .ok true) ∧
    (∀ (kinds : List String) (profileId : String), profileId ≠ "" →
      ∃ basis, KindBasis.maliciousRelation kinds "K:shared" profileId = .ok basis ∧
        (∀ kind, kind ∈ basis.entries.map Prod.fst ↔ kind ∈ kinds) ∧
        ∀ quantities : Dict String Int, (∀ kind ∈ quantities.keys, kind ∈ kinds) →
          (∃ x ∈ quantities.items, x.2 ≠ 0) → ∀ blinding,
          ((DeltaEquation.fromMapping quantities blinding).admitsForgedBindingSignature basis =
            .ok true ↔ (quantities.items.map Prod.snd).sum = 0)) := by
  refine ⟨fun basis quantities hkinds blinding => forgeable_iff hkinds blinding, ?_, ?_⟩
  · intro knownScalars profileId hprofile
    obtain ⟨basis, hbasis, hmem, hweight⟩ :=
      KindBasis.maliciousKnownScalars_ok knownScalars hprofile
    refine ⟨basis, hbasis, hmem, fun quantities hkeys hnonzero blinding => ?_⟩
    obtain ⟨forged, -, hforged, -, hiff, -⟩ :=
      forgeable_iff (fun kind hkind => (hmem kind).mpr (hkeys kind hkind)) blinding
    have hcancel : ∀ symbol, symbol ≠ GENERATOR → basis.combination quantities symbol = 0 := by
      intro symbol hsymbol
      rw [KindBasis.combination_of_weight fun kind hkind =>
        hweight kind (hkeys kind hkind) symbol hsymbol, Int.mul_zero]
    rw [hforged, hiff.mpr ⟨hnonzero, hcancel⟩]
  · intro kinds profileId hprofile
    obtain ⟨basis, hbasis, hmem, hweight⟩ :=
      KindBasis.maliciousRelation_ok kinds "K:shared" hprofile
    refine ⟨basis, hbasis, hmem, fun quantities hkeys hnonzero blinding => ?_⟩
    obtain ⟨forged, -, hforged, -, hiff, -⟩ :=
      forgeable_iff (fun kind hkind => (hmem kind).mpr (hkeys kind hkind)) blinding
    have hcombination : ∀ symbol, basis.combination quantities symbol =
        (quantities.items.map Prod.snd).sum * if symbol = "K:shared" then 1 else 0 := fun symbol =>
      KindBasis.combination_of_weight fun kind hkind => hweight kind (hkeys kind hkind) symbol
    rw [hforged, Except.ok.injEq, hiff]
    refine ⟨fun h => ?_, fun hsum => ⟨hnonzero, fun symbol _ => ?_⟩⟩
    · have hshared := h.2 "K:shared" (symbol_ne_generator "shared")
      rwa [hcombination, if_pos rfl, Int.mul_one] at hshared
    · rw [hcombination, hsum, Int.zero_mul]

theorem forgeability_exact_related :
    ∃ basis, KindBasis.maliciousRelation ["asset-a", "asset-b"] "K:shared" "caller-related-table" =
      .ok basis ∧
      (DeltaEquation.fromMapping (.ofItems [("asset-a", 2), ("asset-b", -2)])
        5).admitsForgedBindingSignature basis = .ok true := by
  obtain ⟨-, -, hrelated⟩ := forgeability_exact
  obtain ⟨basis, hbasis, -, hiff⟩ := hrelated ["asset-a", "asset-b"] "caller-related-table" (by decide)
  exact ⟨basis, hbasis, (hiff (.ofItems [("asset-a", 2), ("asset-b", -2)]) (by decide)
    ⟨("asset-a", 2), by decide, by decide⟩ 5).mpr (by decide)⟩

end Zrm.L5.Frontier
