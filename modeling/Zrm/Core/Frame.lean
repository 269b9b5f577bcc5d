import Zrm.Core.BigEndian
import Zrm.Core.Reader

/-!
# Length-prefixed frames

`frame domain payload` is the injective encoding of a pair of byte strings
that hash constructions use: a two-byte length and the domain, a four-byte
length and the payload.

* `parseFrame_frame`, `frame_inj`: a frame within its widths has one reading.
-/
namespace Zrm.Frame
open Zrm.BigEndian Zrm.Reading

/-- `u_(8k) length ‖ bytes` -/
def lengthPrefixed (k : Nat) (bytes : List UInt8) : List UInt8 := toBe k bytes.length ++ bytes

/-- A length of `k` bytes, then that many bytes. -/
def readPrefixed (k : Nat) : Reader Unit UInt8 (List UInt8) := do
  let length ← takeN () k
  takeN () (ofBe length)

theorem readPrefixed_exact (k : Nat) :
    ExactOn (readPrefixed k) (fun bytes => bytes.length < 256 ^ k) (lengthPrefixed k) := by
  refine (takeN_exact () k).bindOn (fun bytes : List UInt8 => toBe k bytes.length) (fun length hlength => ?_)
    fun bytes _ => toBe_length k _
  refine (takeN_exact () (ofBe length)).congr (fun bytes => ?_) fun _ _ => rfl
  refine ⟨fun h => ?_, fun h => ?_⟩
  · obtain ⟨hlt, rfl⟩ := h
    rw [ofBe_toBe, Nat.mod_eq_of_lt hlt]
  · subst hlength
    rw [h, toBe_ofBe]
    exact ⟨ofBe_lt length, rfl⟩

/-- Two parts, with lengths of `j` and of `k` bytes. -/
def readPair (j k : Nat) : Reader Unit UInt8 (List UInt8 × List UInt8) := do
  let first ← readPrefixed j
  let second ← readPrefixed k
  return (first, second)

theorem readPair_exact (j k : Nat) : ExactOn (readPair j k)
    (fun parts => parts.1.length < 256 ^ j ∧ parts.2.length < 256 ^ k)
    (fun parts => lengthPrefixed j parts.1 ++ lengthPrefixed k parts.2) := by
  have h : ExactOn (readPair j k)
      (fun parts => parts.1.length < 256 ^ j ∧ parts.2.length < 256 ^ k)
      (fun parts => lengthPrefixed j parts.1 ++ (lengthPrefixed k parts.2 ++ [])) := by
    refine (readPrefixed_exact j).bindOn Prod.fst (fun first hfirst => ?_) fun _ hfits => hfits.1
    refine (readPrefixed_exact k).bindOn Prod.snd (fun second hsecond => ?_) fun _ h => h.1.2
    refine ExactOn.pure fun parts => ?_
    refine ⟨fun h => ?_, fun h => ?_⟩
    · obtain ⟨⟨-, rfl⟩, rfl⟩ := h
      rfl
    · subst h
      exact ⟨⟨⟨hfirst, hsecond⟩, rfl⟩, rfl⟩
  exact h.congr (fun _ => Iff.rfl) fun _ _ => by rw [List.append_nil]

/-- `u16 |domain| ‖ domain ‖ u32 |payload| ‖ payload` -/
def frame (domain payload : List UInt8) : List UInt8 :=
  lengthPrefixed 2 domain ++ lengthPrefixed 4 payload

/-- Lengths that fit their prefixes. -/
def Fits (domain payload : List UInt8) : Prop := domain.length < 256 ^ 2 ∧ payload.length < 256 ^ 4

def readFrame : Reader Unit UInt8 (List UInt8 × List UInt8) := do
  let domain ← readPrefixed 2
  let payload ← readPrefixed 4
  return (domain, payload)

/-- The two parts of a byte string that is exactly one frame. -/
def parseFrame (bytes : List UInt8) : Option (List UInt8 × List UInt8) :=
  match readFrame.run bytes with
  | .ok (parts, []) => some parts
  | _ => none

theorem readFrame_exact :
    ExactOn readFrame (fun parts => Fits parts.1 parts.2) (fun parts => frame parts.1 parts.2) :=
  readPair_exact 2 4

theorem parseFrame_frame {domain payload : List UInt8} (h : Fits domain payload) :
    parseFrame (frame domain payload) = some (domain, payload) := by
  have hrun := (readFrame_exact (frame domain payload ++ []) (domain, payload) []).mpr ⟨h, rfl⟩
  rw [List.append_nil] at hrun
  unfold parseFrame
  rw [hrun]

theorem frame_inj {domain domain' payload payload' : List UInt8} (h : Fits domain payload)
    (h' : Fits domain' payload') (heq : frame domain payload = frame domain' payload') :
    domain = domain' ∧ payload = payload' := by
  have hparse := parseFrame_frame h
  rw [heq, parseFrame_frame h', Option.some.injEq, Prod.mk.injEq] at hparse
  exact ⟨hparse.1.symm, hparse.2.symm⟩

theorem lengthPrefixed_inj {k : Nat} {bytes bytes' : List UInt8} (h : bytes.length < 256 ^ k)
    (h' : bytes'.length < 256 ^ k) (heq : lengthPrefixed k bytes = lengthPrefixed k bytes') :
    bytes = bytes' := by
  have happend : lengthPrefixed k bytes ++ [] = lengthPrefixed k bytes' ++ [] := by rw [heq]
  exact ((readPrefixed_exact k).inj h h' happend).1

end Zrm.Frame
