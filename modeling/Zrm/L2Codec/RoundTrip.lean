import Zrm.L2Codec.ResourceWire

/-!
# Encoder and decoder are inverse

Both sides are compared with one description of the format, `wireBytes`: the
ten header bytes and the eighteen fields, each `tag ‖ length ‖ value`.

* `encode_eq`: once the reservation is granted, the encoder writes `wireBytes`.
* `decode_eq_ok`: the decoder accepts `b` with value `w` iff `b = wireBytes w`.
-/
namespace Zrm.L2.ResourceWire
open Zrm.BigEndian Zrm.Result Zrm.Reading Zrm.L1.Reject Zrm.L1.Scalar Zrm.L2.Cursor

/-! ## The format -/

/-- A field with a fixed-width value. -/
def fixedField {n : Nat} (tag : UInt16) (value : Bytes n) : List UInt8 :=
  (toBeBytes tag).toList ++ ((toBeBytes (UInt32.ofNat n)).toList ++ value.toList)

/-- The value bytes of the expiry field. -/
def expiryBytes : Option UInt64 → List UInt8
  | none => [0]
  | some epoch => 1 :: (toBeBytes epoch).toList

def expiryField (expiryEpoch : Option UInt64) : List UInt8 :=
  (toBeBytes (0x0011 : UInt16)).toList ++
    ((toBeBytes (UInt32.ofNat (expiryBytes expiryEpoch).length)).toList ++ expiryBytes expiryEpoch)

def wireHeader : List UInt8 :=
  MAGIC.toList ++ ((toBeBytes SCHEMA_VERSION).toList ++ ((toBeBytes OBJECT_TAG).toList ++
    (toBeBytes FIELD_COUNT).toList))

/-- The eighteen fields of a value, in wire order. -/
def wireFields (w : ResourceWireV1) : List (List UInt8) :=
  [fixedField 0x0001 w.machineId, fixedField 0x0002 w.domainId, fixedField 0x0003 w.applicationId,
    fixedField 0x0004 w.resourceKindId, fixedField 0x0005 w.resourceLogicId,
    fixedField 0x0006 w.logicProfileId, fixedField 0x0007 w.resourceKindPolicyId,
    fixedField 0x0008 w.unitId, fixedField 0x0009 (toBeBytes w.quantityAtoms),
    fixedField 0x000a w.labelRoot, fixedField 0x000b w.valueRoot, fixedField 0x000c w.controllerRoot,
    fixedField 0x000d w.policyRoot, fixedField 0x000e w.provenanceRoot, fixedField 0x000f w.nonce,
    fixedField 0x0010 (toBeBytes w.createdEpoch), expiryField w.expiryEpoch,
    fixedField 0x0012 (toBeBytes w.flags)]

/-- The canonical bytes of a value. -/
def wireBytes (w : ResourceWireV1) : List UInt8 := wireHeader ++ (wireFields w).flatten

@[simp] theorem fixedField_length {n : Nat} (tag : UInt16) (value : Bytes n) :
    (fixedField tag value).length = 6 + n := by
  simp [fixedField]; omega

@[simp] theorem wireHeader_length : wireHeader.length = HEADER_BYTES := by decide

theorem expiryBytes_length (e : Option UInt64) :
    (expiryBytes e).length = if e.isSome then 9 else 1 := by
  cases e <;> simp [expiryBytes]

@[simp] theorem expiryField_length (e : Option UInt64) :
    (expiryField e).length = 6 + if e.isSome then 9 else 1 := by
  simp [expiryField, expiryBytes_length]; omega

theorem wireBytes_length (w : ResourceWireV1) : (wireBytes w).length = w.encodedLength := by
  simp only [wireBytes, wireFields, List.flatten_cons, List.flatten_nil, List.length_append,
    fixedField_length, expiryField_length, wireHeader_length, List.length_nil,
    ResourceWireV1.encodedLength, HEADER_BYTES, RESOURCE_WIRE_V1_PRESENT_EXPIRY_BYTES,
    RESOURCE_WIRE_V1_ABSENT_EXPIRY_BYTES]
  split <;> rfl

theorem encodedLength_eq (w : ResourceWireV1) :
    w.encodedLength = 595 ∧ w.expiryEpoch = none ∨ w.encodedLength = 603 ∧ w.expiryEpoch ≠ none := by
  unfold ResourceWireV1.encodedLength
  cases w.expiryEpoch
  · exact Or.inl ⟨rfl, rfl⟩
  · exact Or.inr ⟨rfl, by simp⟩

theorem wireBytes_length_le (w : ResourceWireV1) : (wireBytes w).length ≤ MAX_RESOURCE_BYTES := by
  rw [wireBytes_length]
  rcases encodedLength_eq w with ⟨h, -⟩ | ⟨h, -⟩ <;> rw [h] <;> decide

/-! ## The encoder writes the format -/

theorem appendFixedField_eq {n : Nat} (hn : n < 2 ^ 32) (output : List UInt8) (tag : UInt16)
    (value : Bytes n) : appendFixedField output tag value = .ok (output ++ fixedField tag value) := by
  unfold appendFixedField
  rw [u32TryFrom_of_lt hn]
  simp [fixedField, List.append_assoc]

theorem appendExpiryField_eq (output : List UInt8) (e : Option UInt64) :
    appendExpiryField output e = output ++ expiryField e := by
  cases e <;> simp [appendExpiryField, expiryField, expiryBytes, List.append_assoc]

theorem appendHeader_eq (output : List UInt8) : appendHeader output = output ++ wireHeader := by
  simp [appendHeader, wireHeader, List.append_assoc]

theorem encode_eq (alloc : Nat → Bool) (w : ResourceWireV1) :
    w.encode alloc = if alloc w.encodedLength then .ok (wireBytes w) else .error .allocationFailed := by
  unfold ResourceWireV1.encode tryReserveExact
  split
  · simp only [ok_bind, appendHeader_eq, appendExpiryField_eq, List.nil_append,
      appendFixedField_eq (n := 32) (by decide), appendFixedField_eq (n := 16) (by decide),
      appendFixedField_eq (n := 8) (by decide), appendFixedField_eq (n := 4) (by decide)]
    simp only [wireBytes, wireFields, List.flatten_cons, List.flatten_nil, List.append_nil,
      List.append_assoc]
  · rfl

theorem encode_eq_ok {alloc : Nat → Bool} {w : ResourceWireV1} {e : List UInt8}
    (h : w.encode alloc = .ok e) : e = wireBytes w := by
  rw [encode_eq] at h
  split at h
  · exact (Except.ok.inj h).symm
  · cases h

/-! ## The decoder reads the format -/

theorem parseHeader_exact : Exact parseHeader (fun _ => wireHeader) := by
  have hend : ExactOn (pure () : CursorM Unit) (fun _ => True) (fun _ => []) :=
    ExactOn.pure fun c => by simp
  have hcount := ExactOn.expect (e := ⟨.RESOURCE_WIRE_FIELD_COUNT⟩)
    (takeU16_exact .RESOURCE_WIRE_HEADER) FIELD_COUNT hend
  have hobject := ExactOn.expect (e := ⟨.RESOURCE_WIRE_OBJECT⟩)
    (takeU16_exact .RESOURCE_WIRE_HEADER) OBJECT_TAG hcount
  have hversion := ExactOn.expect (e := ⟨.RESOURCE_WIRE_VERSION⟩)
    (takeU16_exact .RESOURCE_WIRE_HEADER) SCHEMA_VERSION hobject
  have hmagic := ExactOn.expect (e := ⟨.RESOURCE_WIRE_MAGIC⟩)
    (takeArray_exact 4 .RESOURCE_WIRE_HEADER) MAGIC hversion
  exact hmagic.congr (fun _ => Iff.rfl) fun _ _ => by rw [List.append_nil]; rfl

theorem readFieldHeader_exact (tag : UInt16) : Exact (readFieldHeader tag)
    (fun length => (toBeBytes tag).toList ++ (toBeBytes length).toList) := by
  have h : ExactOn (readFieldHeader tag) (fun _ => True)
      (fun length => (toBeBytes tag).toList ++ ((toBeBytes length).toList ++ [])) := by
    refine ExactOn.bind (takeU16_exact _) (fun _ => tag) fun t => ?_
    refine ExactOn.bind (takeU32_exact _) id fun length => ?_
    refine (ExactOn.guard (Q := fun c => c = length) fun _ => ExactOn.pure fun _ => Iff.rfl).congr
      (fun c => ?_) fun _ _ => rfl
    rw [not_not, true_and, id_eq, eq_comm (a := tag), and_comm]
  exact h.congr (fun _ => Iff.rfl) fun _ _ => by rw [List.append_nil]

theorem readFixedField_exact {n : Nat} (hn : n < 2 ^ 32) (tag : UInt16) :
    Exact (readFixedField n tag) (fixedField tag) := by
  have h : ExactOn (readFixedField n tag) (fun _ => True)
      (fun value => ((toBeBytes tag).toList ++ (toBeBytes (UInt32.ofNat n)).toList) ++ value.toList) := by
    unfold readFixedField
    rw [u32TryFrom_of_lt hn]
    exact ExactOn.expect (readFieldHeader_exact tag) (UInt32.ofNat n) (takeArray_exact n _)
  exact h.congr (fun _ => Iff.rfl) fun _ _ => by rw [List.append_assoc]; rfl

theorem expiryOfBytes_eq_ok (value : List UInt8) (e : Option UInt64) :
    expiryOfBytes value = .ok e ↔ expiryBytes e = value := by
  refine ⟨fun h => ?_, fun h' => ?_⟩
  · unfold expiryOfBytes at h
    split at h <;> simp only [Except.ok.injEq, reduceCtorEq] at h
    · subst h; rfl
    · subst h; simp [expiryBytes]
  · obtain rfl := h'
    cases e with
    | none => rfl
    | some epoch =>
      show expiryOfBytes (1 :: toBe 8 epoch.toNat) = .ok (some epoch)
      have h : (fromBeBytes (toBeBytes epoch) : UInt64) = epoch := fromBeBytes_toBeBytes epoch
      exact congrArg (fun x => Except.ok (some x)) h

/-- The two admissible lengths are those of the two forms. -/
theorem expiryBytes_length_iff (n : UInt32) (e : Option UInt64)
    (h : UInt32.ofNat (expiryBytes e).length = n) : (n = 1 ∨ n = 9) ∧ (expiryBytes e).length = n.toNat := by
  subst h
  cases e with
  | none => decide
  | some epoch => rw [expiryBytes_length]; exact ⟨Or.inr rfl, rfl⟩

theorem readExpiryField_exact : Exact readExpiryField expiryField := by
  have h : ExactOn readExpiryField (fun _ => True) (fun e => ((toBeBytes (0x0011 : UInt16)).toList ++
      (toBeBytes (UInt32.ofNat (expiryBytes e).length)).toList) ++ (expiryBytes e ++ [])) := by
    refine ExactOn.bind (readFieldHeader_exact 0x0011)
      (fun e => UInt32.ofNat (expiryBytes e).length) fun n => ?_
    refine (ExactOn.guard (Q := fun e => (expiryBytes e).length = n.toNat) fun hn => ?_).congr
      (fun e => ?_) fun _ _ => rfl
    · refine (take_exact n.toNat _).bindOn expiryBytes (fun value hv => ?_) fun e he => he
      refine ExactOn.lift fun e => ?_
      rw [expiryOfBytes_eq_ok]
      exact ⟨fun h => ⟨by rw [h, hv], h⟩, fun h => h.2⟩
    · refine ⟨fun h' => ?_, fun h' => ?_⟩
      · obtain ⟨-, hn⟩ := h'
        obtain ⟨h19, hlen⟩ := expiryBytes_length_iff n e hn
        refine ⟨hlen, fun hneither => ?_⟩
        obtain ⟨h1, h9⟩ := hneither
        exact h19.elim h1 h9
      · obtain ⟨hlen, -⟩ := h'
        rw [hlen]; exact ⟨trivial, UInt32.ofNat_toNat⟩
  exact h.congr (fun _ => Iff.rfl) fun _ _ => by
    rw [List.append_nil, List.append_assoc]; rfl

/-- The eighteen fields: each reader supplies the component of its field. -/
theorem readFields_exact : Exact readFields (fun w => (wireFields w).flatten) := by
  have field32 := readFixedField_exact (n := 32) (by decide)
  refine ExactOn.bind (field32 _) ResourceWireV1.machineId fun _ => ?_
  refine ExactOn.bind (field32 _) ResourceWireV1.domainId fun _ => ?_
  refine ExactOn.bind (field32 _) ResourceWireV1.applicationId fun _ => ?_
  refine ExactOn.bind (field32 _) ResourceWireV1.resourceKindId fun _ => ?_
  refine ExactOn.bind (field32 _) ResourceWireV1.resourceLogicId fun _ => ?_
  refine ExactOn.bind (field32 _) ResourceWireV1.logicProfileId fun _ => ?_
  refine ExactOn.bind (field32 _) ResourceWireV1.resourceKindPolicyId fun _ => ?_
  refine ExactOn.bind (field32 _) ResourceWireV1.unitId fun _ => ?_
  refine ExactOn.bind ((readFixedField_exact (n := 16) (by decide) _).map fromBeBytes_toBeBytes
    toBeBytes_fromBeBytes) ResourceWireV1.quantityAtoms fun _ => ?_
  refine ExactOn.bind (field32 _) ResourceWireV1.labelRoot fun _ => ?_
  refine ExactOn.bind (field32 _) ResourceWireV1.valueRoot fun _ => ?_
  refine ExactOn.bind (field32 _) ResourceWireV1.controllerRoot fun _ => ?_
  refine ExactOn.bind (field32 _) ResourceWireV1.policyRoot fun _ => ?_
  refine ExactOn.bind (field32 _) ResourceWireV1.provenanceRoot fun _ => ?_
  refine ExactOn.bind (field32 _) ResourceWireV1.nonce fun _ => ?_
  refine ExactOn.bind ((readFixedField_exact (n := 8) (by decide) _).map fromBeBytes_toBeBytes
    toBeBytes_fromBeBytes) ResourceWireV1.createdEpoch fun _ => ?_
  refine ExactOn.bind readExpiryField_exact ResourceWireV1.expiryEpoch fun _ => ?_
  refine ExactOn.bind ((readFixedField_exact (n := 4) (by decide) _).map fromBeBytes_toBeBytes
    toBeBytes_fromBeBytes) ResourceWireV1.flags fun _ => ?_
  refine ExactOn.pure fun w => ?_
  simp only [ResourceWireV1.ext_iff, true_and, and_assoc]

theorem validateIngressAndHeader_eq_ok (b : List UInt8) :
    validateIngressAndHeader b = .ok () ↔ b.length ≤ MAX_RESOURCE_BYTES ∧ HEADER_BYTES ≤ b.length := by
  unfold validateIngressAndHeader
  split
  · simp only [reduceCtorEq, false_iff]; omega
  · split
    · simp only [reduceCtorEq, false_iff]; omega
    · simp only [true_iff]; omega

theorem validateIngressAndHeader_wireBytes (w : ResourceWireV1) :
    validateIngressAndHeader (wireBytes w) = .ok () := by
  rw [validateIngressAndHeader_eq_ok]
  refine ⟨wireBytes_length_le w, ?_⟩
  rw [wireBytes_length]
  rcases encodedLength_eq w with ⟨h, -⟩ | ⟨h, -⟩ <;> rw [h] <;> decide

/-- **The accepted language.** The decoder accepts exactly the canonical bytes. -/
theorem decode_eq_ok (b : List UInt8) (w : ResourceWireV1) :
    decodeResourceWireV1 b = .ok w ↔ b = wireBytes w := by
  unfold decodeResourceWireV1
  refine ⟨fun h => ?_, fun h => ?_⟩
  · obtain ⟨-, -, hparse⟩ := bind_eq_ok.mp h
    obtain ⟨⟨⟨⟩, s⟩, hheader, hread⟩ := bind_eq_ok.mp hparse
    obtain ⟨⟨w', t⟩, hfields, hend⟩ := bind_eq_ok.mp hread
    obtain ⟨hempty, hw⟩ := guard_eq_ok.mp hend
    obtain ⟨-, hs⟩ := (readFields_exact s w' t).mp hfields
    obtain ⟨-, hb⟩ := (parseHeader_exact b () s).mp hheader
    rw [Bool.not_eq_true, Bool.not_eq_false', List.isEmpty_iff] at hempty
    cases hw
    rw [hb, hs, hempty, List.append_nil, wireBytes]
  · obtain rfl := h
    have hfields := readFields_exact.run w []
    rw [List.append_nil] at hfields
    have hheader := parseHeader_exact.run () (wireFields w).flatten
    rw [validateIngressAndHeader_wireBytes, ok_bind, wireBytes, hheader, ok_bind]
    simp only [hfields, ok_bind]
    rfl

/-! ## Main results -/

/-- **Round trip.** Every value is encoded, in exactly the bytes reserved for
it, and decoding gives it back. -/
theorem decode_encode (alloc : Nat → Bool) (w : ResourceWireV1) :
    w.encode alloc ≠ .error .lengthOverflow ∧
    (alloc w.encodedLength = true →
      ∃ b, w.encode alloc = .ok b ∧ b.length = w.encodedLength ∧
        b.length = (if w.expiryEpoch = none then 595 else 603) ∧
        decodeResourceWireV1 b = .ok w) := by
  rw [encode_eq]
  constructor
  · split <;> simp
  · intro h
    refine ⟨wireBytes w, if_pos h, wireBytes_length w, ?_, (decode_eq_ok _ w).mpr rfl⟩
    rw [wireBytes_length]
    rcases encodedLength_eq w with ⟨hlen, he⟩ | ⟨hlen, he⟩
    · rw [hlen, if_pos he]
    · rw [hlen, if_neg he]

/-- The resource of the repository's test vectors (`vectors/resource_wire_v1.json`). -/
def vectorResource (expiryEpoch : Option UInt64) : ResourceWireV1 where
  machineId := .replicate 32 1
  domainId := .replicate 32 2
  applicationId := .replicate 32 3
  resourceKindId := .replicate 32 4
  resourceLogicId := .replicate 32 5
  logicProfileId := .replicate 32 6
  resourceKindPolicyId := .replicate 32 7
  unitId := .replicate 32 8
  quantityAtoms := 0x0102030405060708090a0b0c0d0e0f10#128
  labelRoot := .replicate 32 0x0a
  valueRoot := .replicate 32 0x0b
  controllerRoot := .replicate 32 0x0c
  policyRoot := .replicate 32 0x0d
  provenanceRoot := .replicate 32 0x0e
  nonce := .replicate 32 0x0f
  createdEpoch := 0x0102030405060708
  expiryEpoch
  flags := 0

theorem decode_encode_vector :
    ∃ b, (vectorResource (some 0x1112131415161718)).encode (· ≤ 603) = .ok b ∧ b.length = 603 ∧
      decodeResourceWireV1 b = .ok (vectorResource (some 0x1112131415161718)) := by
  obtain ⟨b, hencode, -, hlength, hdecode⟩ :=
    (decode_encode (· ≤ 603) (vectorResource (some 0x1112131415161718))).2 (by decide)
  exact ⟨b, hencode, hlength, hdecode⟩

/-- **Canonicity.** The accepted strings are the encodings, and a value has one. -/
theorem encode_decode (alloc : Nat → Bool)
    (halloc : ∀ w : ResourceWireV1, alloc w.encodedLength = true) :
    (∀ b w, decodeResourceWireV1 b = .ok w → w.encode alloc = .ok b) ∧
    (∀ b, (∃ w, decodeResourceWireV1 b = .ok w) ↔ ∃ w : ResourceWireV1, w.encode alloc = .ok b) ∧
    (∀ b b' w, decodeResourceWireV1 b = .ok w → decodeResourceWireV1 b' = .ok w → b = b') := by
  have hencode : ∀ b w, decodeResourceWireV1 b = .ok w ↔ w.encode alloc = .ok b := by
    intro b w
    rw [decode_eq_ok, encode_eq, if_pos (halloc w), Except.ok.injEq, eq_comm]
  refine ⟨fun b w => (hencode b w).mp, fun b => exists_congr (hencode b), ?_⟩
  intro b b' w hb hb'
  rw [decode_eq_ok] at hb hb'
  rw [hb, hb']

theorem encode_decode_vector :
    (vectorResource none).encode (fun _ => true) = .ok (wireBytes (vectorResource none)) ∧
    (∀ b, decodeResourceWireV1 b = .ok (vectorResource none) → b = wireBytes (vectorResource none)) := by
  have haccept : decodeResourceWireV1 (wireBytes (vectorResource none)) = .ok (vectorResource none) :=
    (decode_eq_ok _ _).mpr rfl
  obtain ⟨hencode, -, hunique⟩ := encode_decode (fun _ => true) fun _ => rfl
  exact ⟨hencode _ _ haccept, fun b hb => hunique b _ _ hb haccept⟩

end Zrm.L2.ResourceWire
