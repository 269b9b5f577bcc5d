import Zrm.L2Codec.Truncation

/-!
# One changed byte

Behind its frame (tag, length, option tag) a field can hold any bytes, so the
strings of the format are the header and eighteen fields that the table admits
(`exists_wireFields`). The frame itself is settled by the length of the field
(`frame_eq`), and the lengths of the fields by the length of the string.

* `decode_framing`: a changed header or frame byte is rejected.
* `decode_value`: a changed value byte changes one component.
* `single_byte_change`: every place is one or the other.
-/
namespace Zrm.L2.ResourceWire
open Zrm.BigEndian Zrm.Result Zrm.L1.Reject Zrm.L1.Scalar

/-! ## Places and components -/

/-- The bytes of a field that are not its value: the tag, the length and the expiry's
option tag. -/
def frameBytes (i : Nat) : Nat := if i = 16 then 7 else 6

/-- A byte of the header, or of the frame of a field. -/
def IsFraming (w : ResourceWireV1) (k : Nat) : Prop :=
  k < HEADER_BYTES ∨ ∃ i < 18, fieldOffset w i ≤ k ∧ k < fieldOffset w i + frameBytes i

/-- A byte of the value of a field; an absent expiry has none. -/
def InValue (w : ResourceWireV1) (i k : Nat) : Prop :=
  fieldOffset w i + frameBytes i ≤ k ∧ k < fieldOffset w (i + 1)

/-- The components in which two values agree, in wire order. -/
def agreement (w w' : ResourceWireV1) : List Bool :=
  [w.machineId = w'.machineId, w.domainId = w'.domainId, w.applicationId = w'.applicationId,
    w.resourceKindId = w'.resourceKindId, w.resourceLogicId = w'.resourceLogicId,
    w.logicProfileId = w'.logicProfileId, w.resourceKindPolicyId = w'.resourceKindPolicyId,
    w.unitId = w'.unitId, w.quantityAtoms = w'.quantityAtoms, w.labelRoot = w'.labelRoot,
    w.valueRoot = w'.valueRoot, w.controllerRoot = w'.controllerRoot, w.policyRoot = w'.policyRoot,
    w.provenanceRoot = w'.provenanceRoot, w.nonce = w'.nonce, w.createdEpoch = w'.createdEpoch,
    w.expiryEpoch = w'.expiryEpoch, w.flags = w'.flags]

/-- The values differ in one component and agree in the seventeen others. -/
def DiffersOnlyIn (w w' : ResourceWireV1) (i : Nat) : Prop :=
  agreement w w' = (List.replicate 18 true).set i false

theorem toBeBytes_inj {α : Type} {n : Nat} [BeInt α n] {x y : α} :
    toBeBytes x = toBeBytes y ↔ x = y := by
  refine ⟨fun h => ?_, fun h => h ▸ rfl⟩
  have hback := congrArg (fromBeBytes (α := α)) h
  rwa [fromBeBytes_toBeBytes, fromBeBytes_toBeBytes] at hback

theorem fixedField_inj {n : Nat} {tag : UInt16} {value value' : Bytes n} :
    fixedField tag value = fixedField tag value' ↔ value = value' := by
  unfold fixedField
  rw [List.append_cancel_left_eq, List.append_cancel_left_eq, Bytes.ext_iff]

theorem expiryField_inj {e e' : Option UInt64} : expiryField e = expiryField e' ↔ e = e' := by
  refine ⟨fun h => ?_, fun h => h ▸ rfl⟩
  have hrun := readExpiryField_exact.run e []
  rw [h, readExpiryField_exact.run e' []] at hrun
  exact (Prod.mk.inj (Except.ok.inj hrun)).1.symm

/-- Values agree in a component when they agree in its field. -/
theorem agreement_eq (w w' : ResourceWireV1) :
    agreement w w' =
      List.zipWith (fun field field' => decide (field = field')) (wireFields w) (wireFields w') := by
  simp only [agreement, wireFields, List.zipWith_cons_cons, List.zipWith_nil_left, fixedField_inj,
    expiryField_inj, toBeBytes_inj]

theorem differsOnlyIn_of_set {w w' : ResourceWireV1} {i : Nat} {field : List UInt8}
    (hi : i < (wireFields w).length) (hne : field ≠ (wireFields w)[i])
    (h : wireFields w' = (wireFields w).set i field) : DiffersOnlyIn w w' i := by
  unfold DiffersOnlyIn
  rw [agreement_eq, h]
  refine List.ext_getElem (by simp [wireFields]) fun n hn _ => ?_
  rw [List.getElem_zipWith, List.getElem_set, List.getElem_set, List.getElem_replicate]
  by_cases hni : i = n
  · subst hni
    rw [if_pos rfl, if_pos rfl]
    exact decide_eq_false hne.symm
  · rw [if_neg hni, if_neg hni]
    exact decide_eq_true rfl

/-! ## The frame of a field -/

def FieldWidth.frame : FieldWidth → Nat
  | .fixed _ => 6
  | .expiry => 7

theorem frameBytes_eq {i : Nat} {row : FieldRow} (h : FIELD_TABLE[i]? = some row) :
    frameBytes i = row.width.frame := by
  have hrows : ∀ i (hi : i < FIELD_TABLE.length), frameBytes i = FIELD_TABLE[i].width.frame := by
    decide
  obtain ⟨hi, rfl⟩ := List.getElem?_eq_some_iff.mp h
  exact hrows i hi

theorem FieldRow.Describes.take {row : FieldRow} {value field : List UInt8}
    (h : row.Describes value field) (r : Nat) :
    field.take (6 + r) = toBe 2 row.tag ++ (toBe 4 value.length ++ value.take r) := by
  have hframe : (toBe 2 row.tag ++ toBe 4 value.length).length = 6 := by
    rw [List.length_append, toBe_length, toBe_length]
  rw [h.bytes, ← List.append_assoc, ← List.append_assoc, ← hframe, List.take_length_add_append]

/-- The option tag follows from the length. -/
theorem FieldRow.Describes.optionTag {row : FieldRow} {value field : List UInt8}
    (h : row.Describes value field) (hexpiry : row.width = .expiry) :
    value.take 1 = if value.length = 1 then [0] else [1] := by
  rcases h.option_tag hexpiry with ⟨htag, hlen⟩ | ⟨htag, hlen⟩
  · rw [if_pos hlen]
    exact htag
  · rw [if_neg (by omega)]
    exact htag

theorem FieldRow.Describes.frame_le {row : FieldRow} {value field : List UInt8}
    (h : row.Describes value field) : row.width.frame ≤ field.length := by
  have hadmits := h.admits
  rw [h.length_eq]
  cases hwidth : row.width with
  | fixed n => exact Nat.le_add_right 6 _
  | expiry =>
    rw [hwidth] at hadmits
    rcases hadmits with h1 | h9
    · rw [h1, FieldWidth.frame]
    · rw [h9, FieldWidth.frame]
      omega

/-- Fields of one row and one length have one frame. -/
theorem FieldRow.Describes.frame_eq {row : FieldRow} {value value' field field' : List UInt8}
    (h : row.Describes value field) (h' : row.Describes value' field')
    (hlen : field'.length = field.length) :
    field'.take row.width.frame = field.take row.width.frame := by
  have hvalue : value'.length = value.length := by
    have hlength := h.length_eq
    have hlength' := h'.length_eq
    omega
  cases hwidth : row.width with
  | fixed n =>
    have htake := h.take 0
    have htake' := h'.take 0
    rw [hvalue, List.take_zero] at htake'
    exact htake'.trans htake.symm
  | expiry =>
    have htake := h.take 1
    have htake' := h'.take 1
    rw [hvalue, h'.optionTag hwidth, hvalue, ← h.optionTag hwidth] at htake'
    exact htake'.trans htake.symm

/-- Behind the frame, any byte can be changed. -/
theorem FieldRow.Describes.set {row : FieldRow} {value field : List UInt8}
    (h : row.Describes value field) {k : Nat} (hk : row.width.frame ≤ k) (x : UInt8) :
    row.Describes (value.set (k - 6) x) (field.set k x) := by
  have hframe : 6 ≤ row.width.frame := by
    cases row.width with
    | fixed n => exact Nat.le_refl 6
    | expiry => exact Nat.le_succ 6
  refine ⟨?_, h.tag_lt, ?_, ?_, fun hexpiry => ?_⟩
  · rw [h.bytes, List.set_append_right _ _ (by rw [toBe_length]; omega),
      List.set_append_right _ _ (by rw [toBe_length, toBe_length]; omega), toBe_length, toBe_length,
      List.length_set, Nat.sub_sub]
  · rw [List.length_set]
    exact h.length_lt
  · rw [List.length_set]
    exact h.admits
  · rw [hexpiry] at hk
    have h7 : 7 ≤ k := hk
    have hslice : slice (value.set (k - 6) x) 0 1 = slice value 0 1 := by
      unfold slice
      rw [List.drop_zero, List.drop_zero, List.take_set_of_le (by omega)]
    have htag := h.option_tag hexpiry
    unfold OptionTagOk at htag ⊢
    rwa [hslice, List.length_set]

/-! ## Strings of the format -/

theorem forall₂_set {α β : Type} {R : α → β → Prop} {as : List α} {bs : List β}
    (h : List.Forall₂ R as bs) {i : Nat} {a : α} (ha : as[i]? = some a) {b : β} (hab : R a b) :
    List.Forall₂ R as (bs.set i b) := by
  induction h generalizing i with
  | nil => exact .nil
  | cons hhead htail ih =>
    cases i with
    | zero =>
      cases ha
      exact .cons hab htail
    | succ i => exact .cons hhead (ih ha)

theorem scanFields_whole {rows : List FieldRow} {fields : List (List UInt8)}
    (h : List.Forall₂ FieldRow.Admits rows fields) {b rest : List UInt8} {off : Nat}
    (hb : b.drop off = fields.flatten ++ rest) :
    scanFields b rows off = .ok (off + fields.flatten.length) := by
  induction h generalizing off with
  | nil => rfl
  | @cons row field rows fields hfield _ ih =>
    obtain ⟨value, hvalue⟩ := hfield
    rw [List.flatten_cons, List.append_assoc] at hb
    have hdrop : b.drop (off + field.length) = fields.flatten ++ rest := by
      rw [← List.drop_drop, hb, List.drop_left' rfl]
    unfold scanFields
    rw [scanField_whole hvalue hb, ok_bind, ih hdrop, List.flatten_cons, List.length_append,
      Nat.add_assoc]

/-- A string is cut into fields in one way. -/
theorem fields_unique {rows : List FieldRow} {fields fields' : List (List UInt8)}
    (h : List.Forall₂ FieldRow.Admits rows fields) (h' : List.Forall₂ FieldRow.Admits rows fields')
    (heq : fields.flatten = fields'.flatten) : fields = fields' := by
  induction h generalizing fields' with
  | nil => cases h'; rfl
  | @cons row field rows fields hfield _ ih =>
    obtain _ | ⟨hfield', hrest'⟩ := h'
    rename_i field' fields'
    obtain ⟨value, hvalue⟩ := hfield
    obtain ⟨value', hvalue'⟩ := hfield'
    rw [List.flatten_cons, List.flatten_cons] at heq
    -- the length is read at the same place in both
    have hdeclared : value.length = value'.length := by
      have hdrop : (field ++ fields.flatten).drop 0 = field ++ fields.flatten := List.drop_zero
      obtain ⟨-, -, hlength, -⟩ := hvalue.header_whole hdrop
      obtain ⟨-, -, hlength', -⟩ := hvalue'.header_whole (hdrop.trans heq)
      exact hlength.symm.trans hlength'
    have hlen : field.length = field'.length := by
      rw [hvalue.length_eq, hvalue'.length_eq, hdeclared]
    obtain ⟨hhead, htail⟩ := List.append_inj heq hlen
    rw [hhead, ih hrest' htail]

/-- Eighteen admitted fields are the fields of a value, which the decoder returns. -/
theorem exists_wireFields {fields : List (List UInt8)}
    (h : List.Forall₂ FieldRow.Admits FIELD_TABLE fields)
    (hlen : (wireHeader ++ fields.flatten).length ≤ 16384) :
    ∃ w, decodeResourceWireV1 (wireHeader ++ fields.flatten) = .ok w ∧ wireFields w = fields := by
  have hdrop : (wireHeader ++ fields.flatten).drop 10 = fields.flatten ++ [] := by
    rw [List.append_nil]
    exact List.drop_left' wireHeader_length
  have hscan := scanFields_whole h hdrop
  rw [show 10 + fields.flatten.length = (wireHeader ++ fields.flatten).length by
    rw [List.length_append, wireHeader_length, HEADER_BYTES]] at hscan
  obtain ⟨w, hw⟩ := (decode_reject _).2.mpr ((rejectCode_header hlen).2 hscan)
  refine ⟨w, hw, fields_unique (wireFields_admitted w) h ?_⟩
  exact (List.append_cancel_left ((decode_eq_ok _ w).mp hw)).symm

/-! ## Encodings of one length -/

/-- The row of a field. -/
theorem wireFields_describes (w : ResourceWireV1) {i : Nat} (hi : i < (wireFields w).length) :
    ∃ row value, FIELD_TABLE[i]? = some row ∧ row.Describes value (wireFields w)[i] := by
  obtain ⟨value, hvalue⟩ := (List.forall₂_iff_get.mp (wireFields_admitted w)).2 i hi hi
  exact ⟨_, value, List.getElem?_eq_getElem _, hvalue⟩

theorem wireFields_map_length (w : ResourceWireV1) :
    (wireFields w).map List.length = [38, 38, 38, 38, 38, 38, 38, 38, 22, 38, 38, 38, 38, 38, 38, 14,
      6 + (if w.expiryEpoch.isSome then 9 else 1), 10] := by
  simp only [wireFields, List.map_cons, List.map_nil, fixedField_length, expiryField_length]

/-- The length of an encoding settles the lengths of its fields. -/
theorem map_length_eq {w w' : ResourceWireV1} (h : (wireBytes w').length = (wireBytes w).length) :
    (wireFields w').map List.length = (wireFields w).map List.length := by
  rw [wireFields_map_length, wireFields_map_length]
  rw [wireBytes_length, wireBytes_length] at h
  unfold ResourceWireV1.encodedLength RESOURCE_WIRE_V1_PRESENT_EXPIRY_BYTES
    RESOURCE_WIRE_V1_ABSENT_EXPIRY_BYTES at h
  split at h <;> split at h <;> simp_all

theorem field_length_eq {w w' : ResourceWireV1} {i : Nat}
    (h : (wireFields w').map List.length = (wireFields w).map List.length)
    (hi : i < (wireFields w).length) (hi' : i < (wireFields w').length) :
    (wireFields w')[i].length = (wireFields w)[i].length := by
  have hget := congrArg (fun l => l[i]?) h
  rwa [List.getElem?_map, List.getElem?_map, List.getElem?_eq_getElem hi,
    List.getElem?_eq_getElem hi', Option.map_some, Option.map_some, Option.some.injEq] at hget

theorem fieldOffset_congr {w w' : ResourceWireV1}
    (h : (wireFields w').map List.length = (wireFields w).map List.length) (i : Nat) :
    fieldOffset w' i = fieldOffset w i := by
  unfold fieldOffset
  rw [List.length_flatten, List.length_flatten, List.map_take, List.map_take, h]

/-- A byte of an encoding, found in its field. -/
theorem wireBytes_getElem? (w : ResourceWireV1) {i j : Nat} (hi : i < (wireFields w).length)
    (hj : j < (wireFields w)[i].length) :
    (wireBytes w)[fieldOffset w i + j]? = (wireFields w)[i][j]? := by
  rw [wireBytes_split w hi, ← fieldOffset_eq, List.getElem?_append_right (Nat.le_add_right _ _),
    Nat.add_sub_cancel_left, List.getElem?_append_left hj]

/-- A changed byte of an encoding is a changed byte of a field. -/
theorem wireBytes_set (w : ResourceWireV1) {i j : Nat} (hi : i < (wireFields w).length)
    (hj : j < (wireFields w)[i].length) (x : UInt8) :
    (wireBytes w).set (fieldOffset w i + j) x =
      wireHeader ++ ((wireFields w).set i ((wireFields w)[i].set j x)).flatten := by
  rw [wireBytes_split w hi, ← fieldOffset_eq, List.set_append_right _ _ (Nat.le_add_right _ _),
    Nat.add_sub_cancel_left, List.set_append_left _ _ hj, List.append_assoc,
    List.set_eq_take_append_cons_drop (l := wireFields w), if_pos hi, List.flatten_append,
    List.flatten_cons]

/-- Encodings of one length agree in the framing bytes. -/
theorem framing_getElem? {w w' : ResourceWireV1}
    (h : (wireBytes w').length = (wireBytes w).length) {k : Nat} (hk : IsFraming w k) :
    (wireBytes w')[k]? = (wireBytes w)[k]? := by
  rcases hk with hheader | ⟨i, hi, hstart, hstop⟩
  · rw [← wireHeader_length] at hheader
    unfold wireBytes
    rw [List.getElem?_append_left hheader, List.getElem?_append_left hheader]
  · obtain ⟨j, rfl⟩ := Nat.exists_eq_add_of_le hstart
    have hj : j < frameBytes i := by omega
    have hiw : i < (wireFields w).length := hi
    have hiw' : i < (wireFields w').length := hi
    obtain ⟨row, value, hrow, hvalue⟩ := wireFields_describes w hiw
    obtain ⟨row', value', hrow', hvalue'⟩ := wireFields_describes w' hiw'
    obtain rfl : row = row' := Option.some.inj (hrow.symm.trans hrow')
    have hlengths := map_length_eq h
    have hfield := field_length_eq hlengths hiw hiw'
    have hframe := hvalue.frame_eq hvalue' hfield
    have hle := hvalue.frame_le
    rw [← frameBytes_eq hrow] at hframe hle
    rw [← fieldOffset_congr hlengths, wireBytes_getElem? w' hiw' (by omega),
      fieldOffset_congr hlengths, wireBytes_getElem? w hiw (by omega),
      ← List.getElem?_take_of_lt hj, hframe, List.getElem?_take_of_lt hj]

/-! ## Main results -/

/-- A changed framing byte is rejected: a string of the same length would have the old one. -/
theorem decode_framing (w : ResourceWireV1) {k : Nat} (hk : k < (wireBytes w).length)
    (hframing : IsFraming w k) {x : UInt8} (hx : x ≠ (wireBytes w)[k]) :
    ∃ e, decodeResourceWireV1 ((wireBytes w).set k x) = .error e := by
  rcases ok_or_error (decodeResourceWireV1 ((wireBytes w).set k x)) with ⟨w', hw'⟩ | herror
  · have hset := (decode_eq_ok _ w').mp hw'
    have hlen : (wireBytes w').length = (wireBytes w).length := by rw [← hset, List.length_set]
    have hbyte := framing_getElem? hlen hframing
    rw [← hset, List.getElem?_set_self hk, List.getElem?_eq_getElem hk, Option.some.injEq] at hbyte
    exact absurd hbyte hx
  · exact herror

/-- A changed value byte changes the component of its field. -/
theorem decode_value (w : ResourceWireV1) {i k : Nat} (hi : i < 18) (hvalue : InValue w i k)
    (hk : k < (wireBytes w).length) {x : UInt8} (hx : x ≠ (wireBytes w)[k]) :
    ∃ w', decodeResourceWireV1 ((wireBytes w).set k x) = .ok w' ∧ DiffersOnlyIn w w' i := by
  have hiw : i < (wireFields w).length := hi
  obtain ⟨hstart, hstop⟩ := hvalue
  obtain ⟨j, rfl⟩ := Nat.exists_eq_add_of_le ((Nat.le_add_right _ _).trans hstart)
  rw [fieldOffset_succ w hiw] at hstop
  have hj : j < (wireFields w)[i].length := by omega
  obtain ⟨row, value, hrow, hdescribes⟩ := wireFields_describes w hiw
  have hframe : row.width.frame ≤ j := by
    rw [← frameBytes_eq hrow]
    omega
  have hadmitted : List.Forall₂ FieldRow.Admits FIELD_TABLE
      ((wireFields w).set i ((wireFields w)[i].set j x)) :=
    forall₂_set (wireFields_admitted w) hrow ⟨_, hdescribes.set hframe x⟩
  have hlen := congrArg List.length (wireBytes_set w hiw hj x)
  rw [List.length_set] at hlen
  have hle := wireBytes_length_le w
  rw [hlen] at hle
  obtain ⟨w', hdecode, hfields⟩ := exists_wireFields hadmitted hle
  rw [wireBytes_set w hiw hj]
  refine ⟨w', hdecode, differsOnlyIn_of_set hiw (fun heq => hx ?_) hfields⟩
  have hbyte := wireBytes_getElem? w hiw hj
  rw [← heq, List.getElem?_set_self hj, List.getElem?_eq_getElem hk] at hbyte
  exact (Option.some.inj hbyte).symm

/-- **One changed byte.** Every place of an encoding is a framing byte or lies in the
value of one field. With another byte in a framing place the string is rejected; with
another byte in a value it decodes to a value that differs in that component only. -/
theorem single_byte_change (alloc : Nat → Bool) (w : ResourceWireV1) (e : List UInt8)
    (h : w.encode alloc = .ok e) (k : Nat) (hk : k < e.length) (x : UInt8) (hx : x ≠ e[k]) :
    (IsFraming w k ∨ ∃ i < 18, InValue w i k) ∧
    (IsFraming w k → ∃ err, decodeResourceWireV1 (e.set k x) = .error err) ∧
    (∀ i < 18, InValue w i k →
      ∃ w', decodeResourceWireV1 (e.set k x) = .ok w' ∧ DiffersOnlyIn w w' i) := by
  have he := encode_eq_ok h
  subst he
  refine ⟨?_, fun hframing => decode_framing w hk hframing hx,
    fun i hi hvalue => decode_value w hi hvalue hk hx⟩
  rcases Nat.lt_or_ge k 10 with h10 | h10
  · exact .inl (.inl h10)
  · obtain ⟨i, hi, hstart, hstop⟩ := exists_field w h10 hk
    rcases Nat.lt_or_ge k (fieldOffset w i + frameBytes i) with hlt | hge
    · exact .inl (.inr ⟨i, hi, hstart, hlt⟩)
    · exact .inr ⟨i, hi, hge, hstop⟩

theorem single_byte_change_vector :
    ∃ w', decodeResourceWireV1 ((wireBytes (vectorResource none)).set 16 0) = .ok w' ∧
      DiffersOnlyIn (vectorResource none) w' 0 := by
  have hencode : (vectorResource none).encode (fun _ => true) =
      .ok (wireBytes (vectorResource none)) := encode_eq _ _
  have hbyte : ∃ hk : 16 < (wireBytes (vectorResource none)).length,
      (wireBytes (vectorResource none))[16] = 1 := List.getElem?_eq_some_iff.mp rfl
  obtain ⟨hk, h1⟩ := hbyte
  obtain ⟨-, -, hvalue⟩ := single_byte_change _ _ _ hencode 16 hk 0 (h1 ▸ by decide)
  exact hvalue 0 (by decide) ⟨by decide, by decide⟩

end Zrm.L2.ResourceWire
