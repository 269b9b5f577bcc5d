import Mathlib.Tactic.Common

/-!
# Reject codes (`zrm-types/src/reject.rs`)

A code is a stage and a nonzero reason; its `u32` form is `stage || reason`.
-/
namespace Zrm.L1.Reject

/-- mirrors crates/zrm-types/src/reject.rs:5-34 -/
inductive RejectStageV1
  | ingressBounds | canonicalDecode | trustedContext | transitionStructure | stateMembership
  | freshness | resourcePolicy | authentication | statementBinding | accounting | conflict
  | admission | commit | internal
  deriving DecidableEq, Repr

/-- mirrors crates/zrm-types/src/reject.rs:39-56 -/
def RejectStageV1.tag : RejectStageV1 → UInt16
  | .ingressBounds => 0x0001
  | .canonicalDecode => 0x0002
  | .trustedContext => 0x0003
  | .transitionStructure => 0x0004
  | .stateMembership => 0x0005
  | .freshness => 0x0006
  | .resourcePolicy => 0x0007
  | .authentication => 0x0008
  | .statementBinding => 0x0009
  | .accounting => 0x000a
  | .conflict => 0x000b
  | .admission => 0x000c
  | .commit => 0x000d
  | .internal => 0x00ff

/-- mirrors crates/zrm-types/src/reject.rs:107-110; `reason` is never zero
(`try_new` refuses it and every constant below has one). -/
structure RejectCodeV1 where
  stage : RejectStageV1
  reason : UInt16
  reason_ne_zero : reason ≠ 0
  deriving DecidableEq

namespace RejectCodeV1

/-- mirrors crates/zrm-types/src/reject.rs:140-142 -/
def known (stage : RejectStageV1) (reason : UInt16) (h : reason ≠ 0 := by decide) : RejectCodeV1 :=
  ⟨stage, reason, h⟩

/-! mirrors crates/zrm-types/src/reject.rs:113-138 -/

def RESOURCE_WIRE_BYTES : RejectCodeV1 := known .ingressBounds 0x0001
def RESOURCE_WIRE_HEADER : RejectCodeV1 := known .canonicalDecode 0x0001
def RESOURCE_WIRE_MAGIC : RejectCodeV1 := known .canonicalDecode 0x0002
def RESOURCE_WIRE_VERSION : RejectCodeV1 := known .canonicalDecode 0x0003
def RESOURCE_WIRE_OBJECT : RejectCodeV1 := known .canonicalDecode 0x0004
def RESOURCE_WIRE_FIELD_COUNT : RejectCodeV1 := known .canonicalDecode 0x0005
def RESOURCE_WIRE_FIELD_HEADER : RejectCodeV1 := known .canonicalDecode 0x0006
def RESOURCE_WIRE_FIELD_TAG : RejectCodeV1 := known .canonicalDecode 0x0007
def RESOURCE_WIRE_FIELD_LENGTH : RejectCodeV1 := known .canonicalDecode 0x0008
def RESOURCE_WIRE_FIELD_VALUE : RejectCodeV1 := known .canonicalDecode 0x0009
def RESOURCE_WIRE_OPTION_TAG : RejectCodeV1 := known .canonicalDecode 0x000a
def RESOURCE_WIRE_TRAILING : RejectCodeV1 := known .canonicalDecode 0x000b

/-- mirrors crates/zrm-types/src/reject.rs:171-173 -/
def value (code : RejectCodeV1) : UInt32 := (code.stage.tag.toUInt32 <<< 16) ||| code.reason.toUInt32

/-- mirrors crates/zrm-types/src/reject.rs:177-193 -/
def resourceWireLabel (code : RejectCodeV1) : Option String :=
  match code.value.toNat with
  | 0x00010001 => some "zrm.bounds.resource_wire_bytes"
  | 0x00020001 => some "zrm.malformed.resource_wire_header"
  | 0x00020002 => some "zrm.malformed.resource_wire_magic"
  | 0x00020003 => some "zrm.malformed.resource_wire_version"
  | 0x00020004 => some "zrm.malformed.resource_wire_object"
  | 0x00020005 => some "zrm.malformed.resource_wire_field_count"
  | 0x00020006 => some "zrm.malformed.resource_wire_field_header"
  | 0x00020007 => some "zrm.canonical.resource_wire_field_tag"
  | 0x00020008 => some "zrm.canonical.resource_wire_field_length"
  | 0x00020009 => some "zrm.malformed.resource_wire_field_value"
  | 0x0002000a => some "zrm.canonical.resource_wire_option_tag"
  | 0x0002000b => some "zrm.canonical.resource_wire_trailing"
  | _ => none

end RejectCodeV1

end Zrm.L1.Reject
