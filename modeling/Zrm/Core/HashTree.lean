import Zrm.Core.Composition

/-!
# Digests of a tree

A leaf is hashed from its own bytes, a node from the digests of its two sides. Nothing is
assumed of the hash: where two trees share a digest and differ, two of the byte strings
that were hashed collide.

* `digest_binds`: a digest determines the tree, or there is a collision.
-/
namespace Zrm.HashTree

open Zrm.Composition

variable {α β δ : Type} (hash : List β → δ) (leafBytes : α → List β)
  (nodeBytes : δ → δ → List β)

def digest : OpTree α → δ
  | .leaf a => hash (leafBytes a)
  | .node left right => hash (nodeBytes (digest left) (digest right))

/-- Everything that is hashed for the digest of a tree. -/
def preimages : OpTree α → List (List β)
  | .leaf a => [leafBytes a]
  | .node left right =>
    nodeBytes (digest hash leafBytes nodeBytes left) (digest hash leafBytes nodeBytes right) ::
      (preimages left ++ preimages right)

/-- Two byte strings, one of each list, with one hash. -/
def Collides (l l' : List (List β)) : Prop := ∃ m ∈ l, ∃ m' ∈ l', m ≠ m' ∧ hash m = hash m'

variable {hash leafBytes nodeBytes}

theorem Collides.mono {k k' l l' : List (List β)} (h : Collides hash k k') (hl : k ⊆ l)
    (hl' : k' ⊆ l') : Collides hash l l' := by
  obtain ⟨m, hm, m', hm', hne, heq⟩ := h
  exact ⟨m, hl hm, m', hl' hm', hne, heq⟩

theorem collides_or_eq {m m' : List β} {l l' : List (List β)} (hm : m ∈ l) (hm' : m' ∈ l')
    (h : hash m = hash m') : m = m' ∨ Collides hash l l' := by
  by_cases heq : m = m'
  · exact .inl heq
  · exact .inr ⟨m, hm, m', hm', heq, h⟩

/-- A digest determines its tree, or two of the byte strings behind it collide. -/
theorem digest_binds (hleaf : Function.Injective leafBytes)
    (hnode : ∀ {d e d' e'}, nodeBytes d e = nodeBytes d' e' → d = d' ∧ e = e')
    (hapart : ∀ a d e, leafBytes a ≠ nodeBytes d e) {t t' : OpTree α}
    (h : digest hash leafBytes nodeBytes t = digest hash leafBytes nodeBytes t') :
    t = t' ∨ Collides hash (preimages hash leafBytes nodeBytes t)
      (preimages hash leafBytes nodeBytes t') := by
  induction t generalizing t' with
  | leaf a =>
    cases t' with
    | leaf b =>
      rcases collides_or_eq List.mem_cons_self List.mem_cons_self h with heq | hcollides
      · exact .inl (congrArg _ (hleaf heq))
      · exact .inr hcollides
    | node left' right' =>
      rcases collides_or_eq List.mem_cons_self List.mem_cons_self h with heq | hcollides
      · exact absurd heq (hapart a _ _)
      · exact .inr hcollides
  | node left right ihl ihr =>
    cases t' with
    | leaf b =>
      rcases collides_or_eq List.mem_cons_self List.mem_cons_self h with heq | hcollides
      · exact absurd heq.symm (hapart b _ _)
      · exact .inr hcollides
    | node left' right' =>
      rcases collides_or_eq List.mem_cons_self List.mem_cons_self h with heq | hcollides
      · -- the digests of the sides agree, so each side is decided by itself
        obtain ⟨hl, hr⟩ := hnode heq
        rcases ihl hl with rfl | hcollides
        · rcases ihr hr with rfl | hcollides
          · exact .inl rfl
          · refine .inr (hcollides.mono ?_ ?_) <;> simp [preimages]
        · refine .inr (hcollides.mono ?_ ?_) <;> simp [preimages]
      · exact .inr hcollides

end Zrm.HashTree
