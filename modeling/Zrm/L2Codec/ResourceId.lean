import Zrm.Core.Frame
import Zrm.L2Codec.RoundTrip
import Zrm.L2Crypto.Hash

/-!
# Resource identifiers (`derive_resource_id` in `zrm-codec/src/resource_wire_v1.rs`)

* `resourceHasher_eq`: the hasher is fed one frame around the length-prefixed
  canonical bytes.
* `deriveResourceId_eq`: an identifier is the digest of that frame; the length
  errors cannot occur.
-/
namespace Zrm.L2.ResourceWire
open Zrm.BigEndian Zrm.Result Zrm.Frame Zrm.L1.Ids Zrm.L1.Scalar Zrm.L2.Hash

/-! mirrors crates/zrm-codec/src/resource_wire_v1.rs:18-19 -/

def RESOURCE_V1_DOMAIN : List UInt8 := ascii "zrm.resource.v1"
def INNER_LENGTH_BYTES : UInt32 := 4

/-- mirrors crates/zrm-codec/src/error.rs:60-67 -/
inductive ResourceIdDerivationError
  | encode (error : ResourceWireEncodeError)
  | hashFrameLengthOverflow
  | allZeroDigest
  deriving DecidableEq

/-- mirrors crates/zrm-codec/src/resource_wire_v1.rs:168-180 -/
def checkedResourceHashFrameLengths (wireLength domainLength : Nat) :
    Except ResourceIdDerivationError (UInt32 × UInt32 × UInt16) :=
  match u32TryFrom wireLength with
  | none => .error .hashFrameLengthOverflow
  | some wireLength =>
    match u32CheckedAdd wireLength INNER_LENGTH_BYTES with
    | none => .error .hashFrameLengthOverflow
    | some payloadLength =>
      match u16TryFrom domainLength with
      | none => .error .hashFrameLengthOverflow
      | some domainLength => .ok (wireLength, payloadLength, domainLength)

/-- The hasher of `derive_resource_id` when it is finished.
mirrors crates/zrm-codec/src/resource_wire_v1.rs:153-164 -/
def resourceHasher (alloc : Nat → Bool) (resource : ResourceWireV1) :
    Except ResourceIdDerivationError Hasher := do
  let canonicalWire ← (resource.encode alloc).mapError .encode
  let (wireLength, payloadLength, domainLength) ←
    checkedResourceHashFrameLengths canonicalWire.length RESOURCE_V1_DOMAIN.length
  let hasher := Hasher.new.update (toBeBytes domainLength).toList
  let hasher := hasher.update RESOURCE_V1_DOMAIN
  let hasher := hasher.update (toBeBytes payloadLength).toList
  let hasher := hasher.update (toBeBytes wireLength).toList
  return hasher.update canonicalWire

/-- mirrors crates/zrm-codec/src/resource_wire_v1.rs:186-188 -/
def mapAllZeroResourceId (_ : ZeroValueError) : ResourceIdDerivationError := .allZeroDigest

/-- mirrors crates/zrm-codec/src/resource_wire_v1.rs:182-184 -/
def resourceIdFromDigest (digest : Bytes 32) : Except ResourceIdDerivationError ResourceId :=
  (Opaque.tryFrom digest).mapError mapAllZeroResourceId

/-- mirrors crates/zrm-codec/src/resource_wire_v1.rs:152-166 -/
def deriveResourceId (sha256 : List UInt8 → Bytes 32) (alloc : Nat → Bool) (resource : ResourceWireV1) :
    Except ResourceIdDerivationError ResourceId := do
  let hasher ← resourceHasher alloc resource
  resourceIdFromDigest (sha256 hasher.fed)

/-- mirrors crates/zrm-codec/src/resource_wire_v1.rs:147-149 -/
def ResourceWireV1.resourceId (sha256 : List UInt8 → Bytes 32) (alloc : Nat → Bool)
    (w : ResourceWireV1) : Except ResourceIdDerivationError ResourceId :=
  deriveResourceId sha256 alloc w

/-! ## The bytes fed to the hash -/

/-- The inner payload: the wire with its own length. -/
def resourcePayload (w : ResourceWireV1) : List UInt8 := lengthPrefixed 4 (wireBytes w)

/-- The framed canonical bytes. -/
def resourcePreimage (w : ResourceWireV1) : List UInt8 := frame RESOURCE_V1_DOMAIN (resourcePayload w)

theorem checkedResourceHashFrameLengths_wire (w : ResourceWireV1) :
    checkedResourceHashFrameLengths (wireBytes w).length RESOURCE_V1_DOMAIN.length =
      .ok (UInt32.ofNat (wireBytes w).length, UInt32.ofNat (resourcePayload w).length,
        UInt16.ofNat RESOURCE_V1_DOMAIN.length) := by
  unfold resourcePayload lengthPrefixed
  rw [List.length_append, toBe_length, wireBytes_length]
  rcases encodedLength_eq w with ⟨h, -⟩ | ⟨h, -⟩ <;> rw [h] <;> rfl

theorem wireBytes_length_lt (w : ResourceWireV1) : (wireBytes w).length < 256 ^ 4 :=
  Nat.lt_of_le_of_lt (wireBytes_length_le w) (by decide)

theorem resourcePayload_length_lt (w : ResourceWireV1) : (resourcePayload w).length < 256 ^ 4 := by
  have hle := wireBytes_length_le w
  unfold resourcePayload lengthPrefixed
  rw [List.length_append, toBe_length]
  unfold MAX_RESOURCE_BYTES at hle
  omega

theorem resourceHasher_eq (alloc : Nat → Bool) (w : ResourceWireV1) :
    resourceHasher alloc w =
      if alloc w.encodedLength then .ok ⟨resourcePreimage w⟩
      else .error (.encode .allocationFailed) := by
  unfold resourceHasher
  rw [encode_eq]
  split
  · simp only [Except.mapError, ok_bind, checkedResourceHashFrameLengths_wire, pure_eq]
    rw [Except.ok.injEq, Hasher.mk.injEq]
    simp only [Hasher.fed_update, Hasher.fed_new, List.nil_append, List.append_assoc,
      toBeBytes_u32 (wireBytes_length_lt w), toBeBytes_u32 (resourcePayload_length_lt w),
      toBeBytes_u16 (n := RESOURCE_V1_DOMAIN.length) (by decide)]
    simp only [resourcePreimage, frame, lengthPrefixed, resourcePayload, List.append_assoc]
  · rfl

/-- The frame lengths never overflow: only allocation or a zero digest fails. -/
theorem deriveResourceId_eq (sha256 : List UInt8 → Bytes 32) (alloc : Nat → Bool)
    (w : ResourceWireV1) :
    deriveResourceId sha256 alloc w =
      if alloc w.encodedLength then resourceIdFromDigest (sha256 (resourcePreimage w))
      else .error (.encode .allocationFailed) := by
  unfold deriveResourceId
  rw [resourceHasher_eq]
  split <;> rfl

theorem wireBytes_injective : Function.Injective wireBytes := by
  intro w w' h
  have hdecode := (decode_eq_ok (wireBytes w) w).mpr rfl
  rw [(decode_eq_ok (wireBytes w) w').mpr h] at hdecode
  exact (Except.ok.inj hdecode).symm

theorem resourcePreimage_fits (w : ResourceWireV1) : Fits RESOURCE_V1_DOMAIN (resourcePayload w) :=
  ⟨by decide, resourcePayload_length_lt w⟩

theorem resourcePreimage_injective : Function.Injective resourcePreimage := by
  intro w w' h
  obtain ⟨-, hpayload⟩ := frame_inj (resourcePreimage_fits w) (resourcePreimage_fits w') h
  exact wireBytes_injective
    (lengthPrefixed_inj (wireBytes_length_lt w) (wireBytes_length_lt w') hpayload)

end Zrm.L2.ResourceWire
