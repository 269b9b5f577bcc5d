import Zrm.L1Types.Opaque
import Zrm.L1Types.Scalar

/-!
# Framed hash operations (`zrm-crypto/src/lib.rs`)

An incremental hasher is the bytes it was fed. SHA-256 itself (the `sha2`
crate) is the parameter `sha256`, applied to all of them when finished.
-/
namespace Zrm.L2.Hash
open Zrm.BigEndian Zrm.Result Zrm.L1.Ids Zrm.L1.Scalar

/-- `sha2::Sha256` before it is finalized. -/
structure Hasher where
  fed : List UInt8
  deriving DecidableEq

/-- `Sha256::new` -/
def Hasher.new : Hasher := ⟨[]⟩

/-- `Digest::update` -/
def Hasher.update (hasher : Hasher) (bytes : List UInt8) : Hasher := ⟨hasher.fed ++ bytes⟩

@[simp] theorem Hasher.fed_new : Hasher.new.fed = [] := rfl

@[simp] theorem Hasher.fed_update (hasher : Hasher) (bytes : List UInt8) :
    (hasher.update bytes).fed = hasher.fed ++ bytes := rfl

/-- The bytes of an ASCII literal. -/
def ascii (s : String) : List UInt8 := s.toList.map fun c => UInt8.ofNat c.toNat

/-! mirrors crates/zrm-crypto/src/lib.rs:26-28 -/

def SHA256_SUITE_DOMAIN : List UInt8 := ascii "zrm.crypto_suite.sha256.v1"
def TRANSPARENT_NULLIFIER_V1_DOMAIN : List UInt8 := ascii "zrm.nullifier.transparent.v1"
def TRANSPARENT_NULLIFIER_PAYLOAD_BYTES : UInt32 := 96

/-- mirrors crates/zrm-crypto/src/lib.rs:31-34 -/
def SHA256_REFERENCE_V1_ID_BYTES : Bytes 32 where
  toList :=
    [0x99, 0xf6, 0xdd, 0x08, 0x23, 0xf8, 0x5c, 0xa7, 0x0e, 0xd6, 0xd9, 0x1b, 0xd0, 0x0f, 0x50, 0xdc,
      0x63, 0xfd, 0xb5, 0xde, 0xc3, 0xd9, 0xfc, 0x72, 0x12, 0xb9, 0xef, 0xf2, 0x7e, 0x3b, 0x13, 0x91]
  length_toList := rfl

/-- mirrors crates/zrm-crypto/src/lib.rs:38-43 -/
inductive HashConstructionError
  | lengthOverflow
  | allZeroDigest
  deriving DecidableEq, Repr

/-- mirrors crates/zrm-crypto/src/lib.rs:58-66 -/
def startFramedHash (domain : List UInt8) (payloadLength : UInt32) :
    Except HashConstructionError Hasher :=
  match u16TryFrom domain.length with
  | none => .error .lengthOverflow
  | some domainLength =>
    .ok (((Hasher.new.update (toBeBytes domainLength).toList).update domain).update
      (toBeBytes payloadLength).toList)

/-- mirrors crates/zrm-crypto/src/lib.rs:68-70 -/
def finishHash (sha256 : List UInt8 → Bytes 32) (hasher : Hasher) : Bytes 32 := sha256 hasher.fed

/-- mirrors crates/zrm-crypto/src/lib.rs:72-74 -/
def mapZeroDigest (_ : ZeroValueError) : HashConstructionError := .allZeroDigest

/-- The hasher of `sha256_reference_suite_id` when it is finished.
mirrors crates/zrm-crypto/src/lib.rs:83 -/
def suiteHasher : Except HashConstructionError Hasher := startFramedHash SHA256_SUITE_DOMAIN 0

/-- mirrors crates/zrm-crypto/src/lib.rs:82-85 -/
def sha256ReferenceSuiteId (sha256 : List UInt8 → Bytes 32) :
    Except HashConstructionError CryptoSuiteId := do
  let hasher ← suiteHasher
  (Opaque.tryFrom (finishHash sha256 hasher)).mapError mapZeroDigest

/-- The hasher of `derive_transparent_nullifier_v1` when it is finished.
mirrors crates/zrm-crypto/src/lib.rs:99-105 -/
def nullifierHasher (machineId : MachineId) (domainId : DomainId) (resourceId : ResourceId) :
    Except HashConstructionError Hasher := do
  let hasher ← startFramedHash TRANSPARENT_NULLIFIER_V1_DOMAIN TRANSPARENT_NULLIFIER_PAYLOAD_BYTES
  let hasher := hasher.update machineId.asBytes.toList
  let hasher := hasher.update domainId.asBytes.toList
  return hasher.update resourceId.asBytes.toList

/-- mirrors crates/zrm-crypto/src/lib.rs:94-107 -/
def deriveTransparentNullifierV1 (sha256 : List UInt8 → Bytes 32) (machineId : MachineId)
    (domainId : DomainId) (resourceId : ResourceId) : Except HashConstructionError Nullifier := do
  let hasher ← nullifierHasher machineId domainId resourceId
  (Opaque.tryFrom (finishHash sha256 hasher)).mapError mapZeroDigest

end Zrm.L2.Hash
