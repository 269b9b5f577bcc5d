import Zrm.L2Codec.Cursor
import Zrm.L1Types.Opaque

/-!
# The resource wire format (`zrm-codec/src/resource_wire_v1.rs`)

`encode` and `decodeResourceWireV1` as the source computes them: two separately
written sequences over the eighteen fields. The encoder appends to an output
vector whose capacity is reserved first; whether the allocator grants the
reservation is the parameter `alloc`, asked with the number of bytes.
-/
namespace Zrm.L2.ResourceWire
open Zrm.BigEndian Zrm.Reading Zrm.L1.Reject Zrm.L1.Reject.RejectCodeV1 Zrm.L1.Scalar Zrm.L2.Cursor

/-! mirrors crates/zrm-types/src/lib.rs:43-49 -/

def MAX_RESOURCE_BYTES : Nat := 16384
def RESOURCE_WIRE_V1_ABSENT_EXPIRY_BYTES : Nat := 595
def RESOURCE_WIRE_V1_PRESENT_EXPIRY_BYTES : Nat := 603

/-! mirrors crates/zrm-codec/src/resource_wire_v1.rs:13-17 -/

/-- `*b"ZRM1"` -/
def MAGIC : Bytes 4 := ⟨[0x5a, 0x52, 0x4d, 0x31], rfl⟩
def SCHEMA_VERSION : UInt16 := 1
def OBJECT_TAG : UInt16 := 1
def FIELD_COUNT : UInt16 := 18
def HEADER_BYTES : Nat := 10

/-- mirrors crates/zrm-codec/src/resource_wire_v1.rs:35-72 -/
@[ext] structure ResourceWireV1 where
  machineId : Bytes 32
  domainId : Bytes 32
  applicationId : Bytes 32
  resourceKindId : Bytes 32
  resourceLogicId : Bytes 32
  logicProfileId : Bytes 32
  resourceKindPolicyId : Bytes 32
  unitId : Bytes 32
  quantityAtoms : U128
  labelRoot : Bytes 32
  valueRoot : Bytes 32
  controllerRoot : Bytes 32
  policyRoot : Bytes 32
  provenanceRoot : Bytes 32
  nonce : Bytes 32
  createdEpoch : UInt64
  expiryEpoch : Option UInt64
  flags : UInt32
  deriving DecidableEq

/-- mirrors crates/zrm-codec/src/error.rs:40-45 -/
inductive ResourceWireEncodeError
  | allocationFailed
  | lengthOverflow
  deriving DecidableEq

/-! ## Encoding -/

/-- mirrors crates/zrm-codec/src/resource_wire_v1.rs:334-339 -/
def appendHeader (output : List UInt8) : List UInt8 :=
  output ++ MAGIC.toList ++ (toBeBytes SCHEMA_VERSION).toList ++ (toBeBytes OBJECT_TAG).toList ++
    (toBeBytes FIELD_COUNT).toList

/-- mirrors crates/zrm-codec/src/resource_wire_v1.rs:341-351 -/
def appendFixedField {LENGTH : Nat} (output : List UInt8) (tag : UInt16) (value : Bytes LENGTH) :
    Except ResourceWireEncodeError (List UInt8) :=
  match u32TryFrom LENGTH with
  | none => .error .lengthOverflow
  | some length =>
    .ok (output ++ (toBeBytes tag).toList ++ (toBeBytes length).toList ++ value.toList)

/-- mirrors crates/zrm-codec/src/resource_wire_v1.rs:353-366 -/
def appendExpiryField (output : List UInt8) (expiryEpoch : Option UInt64) : List UInt8 :=
  let output := output ++ (toBeBytes (0x0011 : UInt16)).toList
  match expiryEpoch with
  | none => output ++ (toBeBytes (1 : UInt32)).toList ++ [0]
  | some epoch => output ++ (toBeBytes (9 : UInt32)).toList ++ [1] ++ (toBeBytes epoch).toList

/-- The capacity `encode` reserves.
mirrors crates/zrm-codec/src/resource_wire_v1.rs:108-112 -/
def ResourceWireV1.encodedLength (w : ResourceWireV1) : Nat :=
  if w.expiryEpoch.isSome then RESOURCE_WIRE_V1_PRESENT_EXPIRY_BYTES
  else RESOURCE_WIRE_V1_ABSENT_EXPIRY_BYTES

/-- `Vec::new` and `try_reserve_exact(capacity)`; the vector starts empty. -/
def tryReserveExact (alloc : Nat → Bool) (capacity : Nat) : Except ResourceWireEncodeError (List UInt8) :=
  if alloc capacity then .ok [] else .error .allocationFailed

/-- mirrors crates/zrm-codec/src/resource_wire_v1.rs:107-137 -/
def ResourceWireV1.encode (alloc : Nat → Bool) (w : ResourceWireV1) :
    Except ResourceWireEncodeError (List UInt8) := do
  let output ← tryReserveExact alloc w.encodedLength
  let output := appendHeader output
  let output ← appendFixedField output 0x0001 w.machineId
  let output ← appendFixedField output 0x0002 w.domainId
  let output ← appendFixedField output 0x0003 w.applicationId
  let output ← appendFixedField output 0x0004 w.resourceKindId
  let output ← appendFixedField output 0x0005 w.resourceLogicId
  let output ← appendFixedField output 0x0006 w.logicProfileId
  let output ← appendFixedField output 0x0007 w.resourceKindPolicyId
  let output ← appendFixedField output 0x0008 w.unitId
  let output ← appendFixedField output 0x0009 (toBeBytes w.quantityAtoms)
  let output ← appendFixedField output 0x000a w.labelRoot
  let output ← appendFixedField output 0x000b w.valueRoot
  let output ← appendFixedField output 0x000c w.controllerRoot
  let output ← appendFixedField output 0x000d w.policyRoot
  let output ← appendFixedField output 0x000e w.provenanceRoot
  let output ← appendFixedField output 0x000f w.nonce
  let output ← appendFixedField output 0x0010 (toBeBytes w.createdEpoch)
  let output := appendExpiryField output w.expiryEpoch
  appendFixedField output 0x0012 (toBeBytes w.flags)

/-! ## Decoding -/

/-- mirrors crates/zrm-codec/src/resource_wire_v1.rs:235-247 -/
def validateIngressAndHeader (bytes : List UInt8) : Except ResourceWireDecodeError Unit :=
  if bytes.length > MAX_RESOURCE_BYTES then .error ⟨RESOURCE_WIRE_BYTES⟩
  else if bytes.length < HEADER_BYTES then .error ⟨RESOURCE_WIRE_HEADER⟩
  else .ok ()

/-- mirrors crates/zrm-codec/src/resource_wire_v1.rs:249-272 -/
def parseHeader : CursorM Unit := do
  let magic ← takeArray 4 RESOURCE_WIRE_HEADER
  if magic ≠ MAGIC then throw ⟨RESOURCE_WIRE_MAGIC⟩ else do
  let version ← takeU16 RESOURCE_WIRE_HEADER
  if version ≠ SCHEMA_VERSION then throw ⟨RESOURCE_WIRE_VERSION⟩ else do
  let object ← takeU16 RESOURCE_WIRE_HEADER
  if object ≠ OBJECT_TAG then throw ⟨RESOURCE_WIRE_OBJECT⟩ else do
  let count ← takeU16 RESOURCE_WIRE_HEADER
  if count ≠ FIELD_COUNT then throw ⟨RESOURCE_WIRE_FIELD_COUNT⟩ else pure ()

/-- mirrors crates/zrm-codec/src/resource_wire_v1.rs:274-286 -/
def readFieldHeader (expectedTag : UInt16) : CursorM UInt32 := do
  let tag ← takeU16 RESOURCE_WIRE_FIELD_HEADER
  let length ← takeU32 RESOURCE_WIRE_FIELD_HEADER
  if tag ≠ expectedTag then throw ⟨RESOURCE_WIRE_FIELD_TAG⟩ else pure length

/-- mirrors crates/zrm-codec/src/resource_wire_v1.rs:288-301 -/
def readFixedField (LENGTH : Nat) (expectedTag : UInt16) : CursorM (Bytes LENGTH) := do
  let declaredLength ← readFieldHeader expectedTag
  match u32TryFrom LENGTH with
  | none => throw ⟨RESOURCE_WIRE_FIELD_LENGTH⟩
  | some expectedLength =>
    if declaredLength ≠ expectedLength then throw ⟨RESOURCE_WIRE_FIELD_LENGTH⟩
    else takeArray LENGTH RESOURCE_WIRE_FIELD_VALUE

/-- The match on the value bytes of the expiry field.
mirrors crates/zrm-codec/src/resource_wire_v1.rs:313-331 -/
def expiryOfBytes (value : List UInt8) : Except ResourceWireDecodeError (Option UInt64) :=
  match value with
  | [0] => .ok none
  | [1, b0, b1, b2, b3, b4, b5, b6, b7] =>
    .ok (some (fromBeBytes ⟨[b0, b1, b2, b3, b4, b5, b6, b7], rfl⟩))
  | _ => .error ⟨RESOURCE_WIRE_OPTION_TAG⟩

/-- mirrors crates/zrm-codec/src/resource_wire_v1.rs:303-332 -/
def readExpiryField : CursorM (Option UInt64) := do
  let declaredLength ← readFieldHeader 0x0011
  if declaredLength ≠ 1 ∧ declaredLength ≠ 9 then throw ⟨RESOURCE_WIRE_FIELD_LENGTH⟩ else do
  let value ← take declaredLength.toNat RESOURCE_WIRE_FIELD_VALUE
  liftM (expiryOfBytes value)

/-- The struct literal of `decode_resource_wire_v1`, its fields read in order.
mirrors crates/zrm-codec/src/resource_wire_v1.rs:205-224 -/
def readFields : CursorM ResourceWireV1 := do
  let machineId ← readFixedField 32 0x0001
  let domainId ← readFixedField 32 0x0002
  let applicationId ← readFixedField 32 0x0003
  let resourceKindId ← readFixedField 32 0x0004
  let resourceLogicId ← readFixedField 32 0x0005
  let logicProfileId ← readFixedField 32 0x0006
  let resourceKindPolicyId ← readFixedField 32 0x0007
  let unitId ← readFixedField 32 0x0008
  let quantityAtoms ← fromBeBytes <$> readFixedField 16 0x0009
  let labelRoot ← readFixedField 32 0x000a
  let valueRoot ← readFixedField 32 0x000b
  let controllerRoot ← readFixedField 32 0x000c
  let policyRoot ← readFixedField 32 0x000d
  let provenanceRoot ← readFixedField 32 0x000e
  let nonce ← readFixedField 32 0x000f
  let createdEpoch ← fromBeBytes <$> readFixedField 8 0x0010
  let expiryEpoch ← readExpiryField
  let flags ← fromBeBytes <$> readFixedField 4 0x0012
  return {
    machineId, domainId, applicationId, resourceKindId, resourceLogicId, logicProfileId,
    resourceKindPolicyId, unitId, quantityAtoms, labelRoot, valueRoot, controllerRoot, policyRoot,
    provenanceRoot, nonce, createdEpoch, expiryEpoch, flags }

/-- mirrors crates/zrm-codec/src/resource_wire_v1.rs:200-233 -/
def decodeResourceWireV1 (bytes : List UInt8) : Except ResourceWireDecodeError ResourceWireV1 := do
  validateIngressAndHeader bytes
  let ((), cursor) ← parseHeader.run bytes
  let (resource, cursor) ← readFields.run cursor
  if !cursor.isEmpty then throw ⟨RESOURCE_WIRE_TRAILING⟩ else return resource

end Zrm.L2.ResourceWire
