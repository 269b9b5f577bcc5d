import Zrm.Core.HashTree
import Zrm.L5Reference.CanonicalText
import Zrm.L5Reference.KindBasis
import Zrm.L5Reference.SemanticSummary

/-!
# What the roots bind (`arm_zrm_frontier_v1.py`)

The roots of summaries and of kind bases are digests of canonical JSON texts. No property
of the hash is assumed; where a root stands for two values, the byte strings hashed for
them collide. The texts in a summary or a basis are free of surrogate code points
(`Payload`): with them two texts can have one JSON.

* `rootBytes_inj`: the domain and the payload can be read off what is hashed.
* `roots_bind`: a root determines its summary or its basis, up to a collision.
-/
namespace Zrm.L5.CanonicalJson

open Zrm.BigEndian Zrm.PrefixCode

/-! ## Bytes of a root -/

theorem encodeAscii_inj {text text' : String} (h : ∀ c ∈ text.toList, c.toNat < 128)
    (h' : ∀ c ∈ text'.toList, c.toNat < 128) (heq : encodeAscii text = encodeAscii text') :
    text = text' := by
  have hback : ∀ l : List Char, (∀ c ∈ l, c.toNat < 128) →
      (l.map fun c => UInt8.ofNat c.toNat).map (fun b => Char.ofNat b.toNat) = l := by
    intro l hl
    rw [List.map_map]
    refine (List.map_congr_left fun c hc => ?_).trans (List.map_id l)
    have hlt : c.toNat < 256 := Nat.lt_trans (hl c hc) (by decide)
    rw [Function.comp_apply, UInt8.toNat_ofNat_of_lt' hlt, Char.ofNat_toNat, id]
  rw [← String.toList_inj, ← hback _ h, ← hback _ h']
  exact congrArg _ heq

theorem Payload.dumps_ascii (p : Payload) : ∀ c ∈ p.dumps.toList, c.toNat < 128 := by
  rw [dumps_toList]
  exact p.normal.chars_ascii

/-- What is hashed for a root: `domain + b"\0" + payload` -/
def rootBytes (domain : String) (payload : Payload) : List UInt8 :=
  encodeAscii domain ++ 0 :: encodeAscii payload.dumps

/-- A domain name: ASCII without a zero byte. -/
def IsDomain (domain : String) : Prop :=
  (∀ c ∈ domain.toList, c.toNat < 128) ∧ ∀ b ∈ encodeAscii domain, b ≠ 0

theorem isDomain_of_all {domain : String}
    (h : (domain.toList.all fun c => 0 < c.toNat && c.toNat < 128) = true) : IsDomain domain := by
  simp only [List.all_eq_true, Bool.and_eq_true, decide_eq_true_eq] at h
  refine ⟨fun c hc => (h c hc).2, fun b hb => ?_⟩
  obtain ⟨c, hc, rfl⟩ := List.mem_map.mp hb
  obtain ⟨hpos, hlt⟩ := h c hc
  have hbyte : (UInt8.ofNat c.toNat).toNat = c.toNat := UInt8.toNat_ofNat_of_lt' (Nat.lt_trans hlt (by decide))
  intro hzero
  rw [hzero] at hbyte
  exact absurd hbyte (Nat.ne_of_lt hpos)

/-- What stands before the first zero byte. -/
theorem domain_unique {domain domain' : String} (h : IsDomain domain) (h' : IsDomain domain')
    {rest rest' : List UInt8}
    (heq : encodeAscii domain ++ 0 :: rest = encodeAscii domain' ++ 0 :: rest') :
    domain = domain' ∧ rest = rest' := by
  obtain ⟨hdomain, hrest⟩ := run_unique h.2 h'.2 (by simp) (by simp) heq
  exact ⟨encodeAscii_inj h.1 h'.1 hdomain, (List.cons.inj hrest).2⟩

theorem rootBytes_inj {domain domain' : String} (h : IsDomain domain) (h' : IsDomain domain')
    {p q : Payload} (heq : rootBytes domain p = rootBytes domain' q) :
    domain = domain' ∧ p.normal = q.normal := by
  obtain ⟨hdomain, htext⟩ := domain_unique h h' heq
  exact ⟨hdomain, Payload.dumps_eq_iff.mp (encodeAscii_inj p.dumps_ascii q.dumps_ascii htext)⟩

/-! ## Hexadecimal digests -/

/-- `_PyLong_DigitValue[c]`, if it is below 16 -/
def hexDigitValue (c : Char) : Option Nat :=
  if '0' ≤ c ∧ c ≤ '9' then some (c.toNat - 48)
  else if 'a' ≤ c ∧ c ≤ 'f' then some (c.toNat - 87)
  else if 'A' ≤ c ∧ c ≤ 'F' then some (c.toNat - 55)
  else none

def isAsciiSpace (c : Char) : Bool := [' ', '\t', '\n', '\x0b', '\x0c', '\r'].contains c

/-- `bytes.fromhex` on characters: spaces between the pairs are skipped. -/
def fromHexChars : List Char → Option (List UInt8)
  | [] => some []
  | [c] => if isAsciiSpace c then some [] else none
  | c :: d :: rest =>
    if isAsciiSpace c then fromHexChars (d :: rest)
    else do
      let high ← hexDigitValue c
      let low ← hexDigitValue d
      let bytes ← fromHexChars rest
      return UInt8.ofNat (high * 16 + low) :: bytes

/-- `bytes.fromhex(text)`; nothing where it raises `ValueError` -/
def fromHex (text : String) : Option (List UInt8) := fromHexChars text.toList

theorem hexDigit_read (n : Nat) :
    isAsciiSpace (hexDigit n) = false ∧ hexDigitValue (hexDigit n) = some (n % 16) := by
  have h : ∀ k < 16, isAsciiSpace ("0123456789abcdef".toList.getD k '0') = false ∧
      hexDigitValue ("0123456789abcdef".toList.getD k '0') = some k := by decide
  exact h (n % 16) (Nat.mod_lt n (by decide))

theorem fromHexChars_byte (b : UInt8) (rest : List Char) :
    fromHexChars (hexDigit (b.toNat / 16) :: hexDigit b.toNat :: rest) =
      (fromHexChars rest).map fun bytes => b :: bytes := by
  obtain ⟨hspace, hhigh⟩ := hexDigit_read (b.toNat / 16)
  have hbyte : UInt8.ofNat (b.toNat / 16 % 16 * 16 + b.toNat % 16) = b := by
    have hlt := b.toNat_lt
    have hsum : b.toNat / 16 % 16 * 16 + b.toNat % 16 = b.toNat := by omega
    rw [hsum, UInt8.ofNat_toNat]
  rw [fromHexChars, hspace, if_neg Bool.false_ne_true, hhigh, (hexDigit_read b.toNat).2]
  cases fromHexChars rest with
  | none => rfl
  | some bytes => exact congrArg (fun x => some (x :: bytes)) hbyte

/-- `bytes.fromhex(digest.hex())` is the digest. -/
theorem fromHex_hexText (digest : Bytes 32) : fromHex (hexText digest) = some digest.toList := by
  rw [fromHex, hexText, String.toList_ofList]
  induction digest.toList with
  | nil => rfl
  | cons b l ih =>
    rw [List.flatMap_cons, List.cons_append, List.cons_append, List.nil_append, fromHexChars_byte,
      ih, Option.map_some]

theorem hexText_injective : Function.Injective hexText := by
  intro d d' h
  have hbytes := fromHex_hexText d
  rw [h, fromHex_hexText, Option.some.injEq] at hbytes
  exact (Bytes.ext hbytes).symm

theorem payloadRoot_inj {sha256 : List UInt8 → Bytes 32} {domain domain' : String}
    {p q : Payload} : payloadRoot sha256 domain p = payloadRoot sha256 domain' q ↔
      sha256 (rootBytes domain p) = sha256 (rootBytes domain' q) :=
  hexText_injective.eq_iff

end Zrm.L5.CanonicalJson

namespace Zrm.L5.Frontier

open Zrm Zrm.BigEndian Zrm.Composition Zrm.HashTree Zrm.L5.CanonicalJson

/-! ## Summaries and bases -/

/-- Different byte strings with one hash. -/
def Collision (sha256 : List UInt8 → Bytes 32) (m m' : List UInt8) : Prop :=
  m ≠ m' ∧ sha256 m = sha256 m'

theorem Collision.or_eq {sha256 : List UInt8 → Bytes 32} {m m' : List UInt8} :
    sha256 m = sha256 m' ↔ m = m' ∨ Collision sha256 m m' := by
  refine ⟨fun h => ?_, fun h => ?_⟩
  · by_cases heq : m = m'
    · exact .inl heq
    · exact .inr ⟨heq, h⟩
  · rcases h with rfl | h
    · rfl
    · exact h.2

/-- What is hashed for the root of a summary. -/
def SemanticSummary.rootBytes (s : SemanticSummary) : List UInt8 :=
  CanonicalJson.rootBytes "ZRM-MODEL-SEMANTIC-SUMMARY-V1" s.canonicalPayload

/-- What is hashed for the root of a basis. -/
def KindBasis.rootBytes (basis : KindBasis) : List UInt8 :=
  CanonicalJson.rootBytes "ZRM-MODEL-KIND-BASIS-V1" basis.canonicalPayload

theorem summary_domain : IsDomain "ZRM-MODEL-SEMANTIC-SUMMARY-V1" :=
  isDomain_of_all (by decide +kernel)

theorem basis_domain : IsDomain "ZRM-MODEL-KIND-BASIS-V1" :=
  isDomain_of_all (by decide +kernel)

theorem normal_rows (rows : List (String × Int)) :
    (Payload.list (rows.map fun row => .list [.str row.1, .int row.2])).normal =
      .list (rows.map fun row => .list [.str row.1, .int row.2]) := by
  simp [Payload.normal, Function.comp_def]

/-- The lists of a summary are normal as they stand; only its members are sorted. -/
theorem SemanticSummary.payload_eq_of_normal {s t : SemanticSummary}
    (h : s.canonicalPayload.normal = t.canonicalPayload.normal) : s = t := by
  refine canonicalPayload_injective ?_
  unfold canonicalPayload at h ⊢
  refine congrArg _ (Payload.members_eq (by rfl) (by simp) ?_ ?_ h) <;>
    simp [Payload.normal, Function.comp_def]

theorem LinearPoint.canonical_normal (p : LinearPoint) : p.canonical.normal = p.canonical :=
  normal_rows p.coefficients

theorem LinearPoint.canonical_injective : Function.Injective LinearPoint.canonical := by
  intro p q h
  have hrow : Function.Injective fun x : String × Int => Payload.list [.str x.1, .int x.2] := by
    intro x y hxy
    simpa [Prod.ext_iff] using hxy
  rw [canonical, canonical, Payload.list.injEq, (List.map_injective_iff.mpr hrow).eq_iff] at h
  cases p
  cases q
  cases h
  rfl

/-- The root of a basis does not cover the mark of authenticity. -/
theorem KindBasis.payload_eq_of_normal {basis other : KindBasis} :
    basis.canonicalPayload.normal = other.canonicalPayload.normal ↔
      basis.profileId = other.profileId ∧ basis.entries = other.entries := by
  have hentry : Function.Injective fun entry : String × LinearPoint =>
      Payload.list [.str entry.1, entry.2.canonical] := by
    intro x y hxy
    simpa [Prod.ext_iff, LinearPoint.canonical_injective.eq_iff] using hxy
  refine ⟨fun h => ?_, fun h => ?_⟩
  · unfold canonicalPayload at h
    have hmembers := Payload.members_eq (by rfl) (by simp)
      (by simp [Payload.normal, LinearPoint.canonical_normal, Function.comp_def])
      (by simp [Payload.normal, LinearPoint.canonical_normal, Function.comp_def]) h
    simpa [(List.map_injective_iff.mpr hentry).eq_iff] using hmembers
  · rw [canonicalPayload, canonicalPayload, h.1, h.2]

theorem SemanticSummary.rootBytes_injective : Function.Injective SemanticSummary.rootBytes :=
  fun _ _ h => payload_eq_of_normal (rootBytes_inj summary_domain summary_domain h).2

theorem KindBasis.rootBytes_eq_iff {basis other : KindBasis} :
    basis.rootBytes = other.rootBytes ↔
      basis.profileId = other.profileId ∧ basis.entries = other.entries := by
  rw [← payload_eq_of_normal]
  refine ⟨fun h => (rootBytes_inj basis_domain basis_domain h).2, fun h => ?_⟩
  rw [rootBytes, rootBytes, CanonicalJson.rootBytes, CanonicalJson.rootBytes, Payload.dumps_eq_iff.mpr h]

theorem rootBytes_apart (s : SemanticSummary) (basis : KindBasis) :
    s.rootBytes ≠ basis.rootBytes := fun h =>
  absurd (rootBytes_inj summary_domain basis_domain h).1 (by decide)

theorem KindBasis.root_eq_iff {sha256 : List UInt8 → Bytes 32} {basis other : KindBasis} :
    basis.root sha256 = other.root sha256 ↔
      (basis.profileId = other.profileId ∧ basis.entries = other.entries) ∨
        Collision sha256 basis.rootBytes other.rootBytes := by
  rw [← rootBytes_eq_iff]
  exact payloadRoot_inj.trans Collision.or_eq

/-- **The roots bind what they are roots of.** Two summaries have one root iff they are equal or
what is hashed for them collides; for bases, their profile and entries take the place of
equality. A summary and a basis share a root only by a collision. -/
theorem roots_bind (sha256 : List UInt8 → Bytes 32) :
    (∀ s t : SemanticSummary, s.semanticRoot sha256 = t.semanticRoot sha256 ↔
      s = t ∨ Collision sha256 s.rootBytes t.rootBytes) ∧
    (∀ basis other : KindBasis, basis.root sha256 = other.root sha256 ↔
      (basis.profileId = other.profileId ∧ basis.entries = other.entries) ∨
        Collision sha256 basis.rootBytes other.rootBytes) ∧
    ∀ (s : SemanticSummary) (basis : KindBasis), s.semanticRoot sha256 = basis.root sha256 ↔
      Collision sha256 s.rootBytes basis.rootBytes := by
  refine ⟨fun s t => ?_, fun basis other => KindBasis.root_eq_iff, fun s basis => ?_⟩
  · rw [← SemanticSummary.rootBytes_injective.eq_iff]
    exact payloadRoot_inj.trans Collision.or_eq
  · refine payloadRoot_inj.trans (Collision.or_eq.trans ?_)
    exact or_iff_right (rootBytes_apart s basis)

end Zrm.L5.Frontier
