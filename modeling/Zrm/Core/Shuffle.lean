import Mathlib.Data.List.Perm.Basic
import Zrm.Core.Loops
import Zrm.Core.Placement

/-!
# Lists in another order

`Shuffle R l l'`: the items of `l`, taken in another order, are related one by one to those
of `l'`. What loops over two such lists return is shuffled in the same way.

* `Shuffle.mapM`: a comprehension.
* `Shuffle.collect`: a loop that collects pieces.
* `Shuffle.insertionSort`: sorting by distinct keys.
* `Shuffle.lookup`: a search among entries with distinct keys.
-/
namespace Zrm

open Placement Result

variable {ε α β γ δ : Type}

def Shuffle (R : α → β → Prop) (l : List α) (l' : List β) : Prop :=
  ∃ m, l.Perm m ∧ List.Forall₂ R m l'

namespace Shuffle

variable {R : α → β → Prop} {l : List α} {l' : List β}

theorem of_perm {l l' : List α} (h : l.Perm l') : Shuffle Eq l l' :=
  ⟨l', h, List.forall₂_same.mpr fun _ _ => rfl⟩

theorem perm {l l' : List α} (h : Shuffle Eq l l') : l.Perm l' := by
  obtain ⟨m, hperm, hrel⟩ := h
  rw [List.forall₂_eq_eq_eq] at hrel
  exact hrel ▸ hperm

theorem refl {R : α → α → Prop} (h : ∀ a, R a a) (l : List α) : Shuffle R l l :=
  ⟨l, .refl l, List.forall₂_same.mpr fun a _ => h a⟩

theorem symm {S : β → α → Prop} (h : Shuffle R l l') (hrel : ∀ a b, R a b → S b a) : Shuffle S l' l := by
  obtain ⟨m, hperm, hm⟩ := h
  obtain ⟨m', hm', hperm'⟩ := List.perm_comp_forall₂ hperm hm
  exact ⟨m', hperm'.symm, hm'.flip.imp fun b a hab => hrel a b hab⟩

theorem length_eq (h : Shuffle R l l') : l.length = l'.length := by
  obtain ⟨m, hperm, hm⟩ := h
  exact hperm.length_eq.trans hm.length_eq

theorem map_perm {f : α → γ} {g : β → γ} (h : Shuffle R l l') (hmap : ∀ a b, R a b → f a = g b) :
    (l.map f).Perm (l'.map g) := by
  obtain ⟨m, hperm, hm⟩ := h
  have hmaps : m.map f = l'.map g := by
    induction hm generalizing l with
    | nil => rfl
    | cons hab _ ih => rw [List.map_cons, List.map_cons, hmap _ _ hab, ih (.refl _)]
  exact hmaps ▸ hperm.map f

theorem exists_of_mem (h : Shuffle R l l') {a : α} (ha : a ∈ l) : ∃ b ∈ l', R a b := by
  obtain ⟨m, hperm, hm⟩ := h
  exact exists_of_mem_left hm (hperm.mem_iff.mp ha)

theorem flatten {l l' : List (List α)} (h : Shuffle List.Perm l l') : l.flatten.Perm l'.flatten := by
  obtain ⟨m, hperm, hm⟩ := h
  exact hperm.flatten.trans (List.Perm.flatten_congr hm)

/-! ## Loops -/

/-- What is found item by item is found in the other order. -/
theorem forall₂ {P : α → γ → Prop} {Q : β → δ → Prop} {S : γ → δ → Prop} (h : Shuffle R l l')
    (hstep : ∀ a b c, R a b → P a c → ∃ d, Q b d ∧ S c d) {results : List γ}
    (hresults : List.Forall₂ P l results) : ∃ results', List.Forall₂ Q l' results' ∧ Shuffle S results results' := by
  obtain ⟨m, hperm, hm⟩ := h
  obtain ⟨found, hfound, hperm'⟩ := List.perm_comp_forall₂ hperm.symm hresults
  obtain ⟨found', hQ, hS⟩ := forall₂_transfer hm hstep hfound
  exact ⟨found', hQ, found, hperm'.symm, hS⟩

/-- Two comprehensions whose steps correspond. -/
theorem mapM {S : γ → δ → Prop} {f : α → Except ε γ} {g : β → Except ε δ} (h : Shuffle R l l')
    (hstep : ∀ a b c, R a b → f a = .ok c → ∃ d, g b = .ok d ∧ S c d) {results : List γ}
    (hok : l.mapM f = .ok results) : ∃ results', l'.mapM g = .ok results' ∧ Shuffle S results results' := by
  obtain ⟨results', hresults', hshuffle⟩ := h.forall₂ hstep (mapM_eq_ok.mp hok)
  exact ⟨results', mapM_eq_ok.mpr hresults', hshuffle⟩

theorem collect {f : α → Except ε (List γ)} {g : β → Except ε (List γ)} (h : Shuffle R l l')
    (hstep : ∀ a b c, R a b → f a = .ok c → ∃ d, g b = .ok d ∧ c.Perm d) {found : List γ}
    (hok : collect f l = .ok found) : ∃ found', Result.collect g l' = .ok found' ∧ found.Perm found' := by
  obtain ⟨pieces, hpieces, rfl⟩ := collect_eq_ok.mp hok
  obtain ⟨pieces', hpieces', hshuffle⟩ := h.mapM hstep hpieces
  exact ⟨pieces'.flatten, collect_eq_ok.mpr ⟨pieces', hpieces', rfl⟩, hshuffle.flatten⟩

/-- Sorted by distinct keys, the lists correspond one by one. -/
theorem insertionSort {κ : Type} [LinearOrder κ] {key : α → κ} {key' : β → κ} (h : Shuffle R l l')
    (hkey : ∀ a b, R a b → key a = key' b) (hnodup : (l.map key).Nodup) :
    List.Forall₂ R (l.insertionSort fun a b => key a ≤ key b) (l'.insertionSort fun a b => key' a ≤ key' b) := by
  have hnodup' : (l'.map key').Nodup := (h.map_perm hkey).nodup_iff.mp hnodup
  obtain ⟨m, hperm, hm⟩ := h
  obtain ⟨sorted, hsorted, hperm'⟩ :=
    List.perm_comp_forall₂ ((List.perm_insertionSort (fun a b => key a ≤ key b) l).trans hperm) hm
  have hkeys : (l.insertionSort fun a b => key a ≤ key b).map key = sorted.map key' := by
    rw [← List.forall₂_eq_eq_eq, List.forall₂_map_left_iff, List.forall₂_map_right_iff]
    exact hsorted.imp hkey
  have hstrict := List.pairwise_map.mpr (insertionSort_key_strict hnodup)
  rw [hkeys, List.pairwise_map] at hstrict
  have heq := eq_of_perm_of_key (hperm'.trans (List.perm_insertionSort _ l').symm) hstrict
    (insertionSort_key_strict hnodup')
  exact heq ▸ hsorted

/-- Among entries with distinct keys, the entry of a key has its counterpart under the key. -/
theorem lookup {κ : Type} [DecidableEq κ] {l : List (κ × α)} {l' : List (κ × β)}
    (h : Shuffle (fun x y => x.1 = y.1 ∧ R x.2 y.2) l l') (hl : (l.map Prod.fst).Nodup)
    (hl' : (l'.map Prod.fst).Nodup) {k : κ} {a : α} (ha : l.lookup k = some a) :
    ∃ b, l'.lookup k = some b ∧ R a b := by
  obtain ⟨⟨k', b⟩, hmem, rfl, hab⟩ := h.exists_of_mem ((Dict.lookup_eq_some_iff hl).mp ha)
  exact ⟨b, (Dict.lookup_eq_some_iff hl').mpr hmem, hab⟩

end Shuffle

end Zrm
