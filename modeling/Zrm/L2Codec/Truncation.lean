import Zrm.L2Codec.Precedence
import Zrm.L2Codec.RoundTrip

/-!
# Cut and extended encodings

The fields of an encoding are laid out as the rows of the table say
(`wireFields_admitted`), so the scan passes over whole fields and stops in the
field where the input is cut.

* `scanFields_cut`: the defect of an input that ends inside a field.
* `decode_append`: the defect of an encoding with bytes after it.
* `truncation_extension`: both, for every cut and every suffix.
-/
namespace Zrm.L2.ResourceWire
open Zrm.BigEndian Zrm.Result Zrm.Reading Zrm.L1.Reject Zrm.L1.Reject.RejectCodeV1 Zrm.L1.Scalar
  Zrm.L2.Cursor

/-! ## Fields as the table lays them out -/

/-- `field` is a tag, a length and a value that the row admits. -/
structure FieldRow.Describes (row : FieldRow) (value field : List UInt8) : Prop where
  bytes : field = toBe 2 row.tag ++ (toBe 4 value.length ++ value)
  tag_lt : row.tag < 2 ^ 16
  length_lt : value.length < 2 ^ 32
  admits : row.width.Admits value.length
  option_tag : row.width = .expiry → OptionTagOk value 0 value.length

theorem FieldRow.Describes.length_eq {row : FieldRow} {value field : List UInt8}
    (h : row.Describes value field) : field.length = 6 + value.length := by
  rw [h.bytes]
  simp only [List.length_append, toBe_length]
  omega

theorem beAt_of_drop {b t : List UInt8} {off n x : Nat} (h : b.drop off = toBe n x ++ t)
    (hx : x < 256 ^ n) : beAt b off n = x := by
  unfold beAt slice
  rw [h, List.take_left' (toBe_length n x), ofBe_toBe, Nat.mod_eq_of_lt hx]

theorem slice_append {b : List UInt8} (t : List UInt8) {off n : Nat} (h : off + n ≤ b.length) :
    slice (b ++ t) off n = slice b off n := by
  unfold slice
  rw [List.drop_append_of_le_length (by omega),
    List.take_append_of_le_length (by rw [List.length_drop]; omega)]

section Field

variable {row : FieldRow} {value field : List UInt8} (h : row.Describes value field)
  {b rest : List UInt8} {off : Nat}
include h

/-- The header of a field, wherever the value behind it ends. -/
theorem FieldRow.Describes.header (hb : b.drop off = toBe 2 row.tag ++ (toBe 4 value.length ++ rest)) :
    b.length - off = 6 + rest.length ∧ beAt b off 2 = row.tag ∧
      beAt b (off + 2) 4 = value.length ∧ b.drop (off + 6) = rest := by
  have hlen := congrArg List.length hb
  simp only [List.length_drop, List.length_append, toBe_length] at hlen
  have hlength : b.drop (off + 2) = toBe 4 value.length ++ rest := by
    rw [← List.drop_drop, hb, List.drop_left' (toBe_length 2 _)]
  have hvalue : b.drop (off + 6) = rest := by
    rw [show off + 6 = off + 2 + 4 from rfl, ← List.drop_drop, hlength,
      List.drop_left' (toBe_length 4 _)]
  exact ⟨by omega, beAt_of_drop hb h.tag_lt, beAt_of_drop hlength h.length_lt, hvalue⟩

theorem FieldRow.Describes.header_whole (hb : b.drop off = field ++ rest) :
    b.length - off = 6 + (value ++ rest).length ∧ beAt b off 2 = row.tag ∧
      beAt b (off + 2) 4 = value.length ∧ b.drop (off + 6) = value ++ rest := by
  rw [h.bytes, List.append_assoc, List.append_assoc] at hb
  exact h.header hb

/-- The scan passes over a whole field. -/
theorem scanField_whole (hb : b.drop off = field ++ rest) :
    scanField b row off = .ok (off + field.length) := by
  obtain ⟨hlen, htag, hdeclared, hvalue⟩ := h.header_whole hb
  rw [List.length_append] at hlen
  have hoption : ¬ (row.width = .expiry ∧ ¬ OptionTagOk b (off + 6) value.length) := by
    intro hbad
    obtain ⟨hexpiry, hnot⟩ := hbad
    have hone : 1 ≤ value.length := by
      have hadmits := h.admits
      rw [hexpiry] at hadmits
      rcases hadmits with h1 | h9
      · omega
      · omega
    have hslice : slice b (off + 6) 1 = slice value 0 1 := by
      unfold slice
      rw [hvalue, List.drop_zero, List.take_append_of_le_length hone]
    apply hnot
    unfold OptionTagOk
    rw [hslice]
    exact h.option_tag hexpiry
  unfold scanField
  rw [hdeclared, htag, if_neg (by omega), if_neg (not_not.mpr rfl),
    if_neg (not_not.mpr h.admits), if_neg (by omega), if_neg hoption, h.length_eq, Nat.add_assoc]

/-- A field cut in its header or in its value. -/
theorem scanField_cut {k : Nat} (hk : k < field.length) (hb : b.drop off = field.take k) :
    scanField b row off =
      .error ⟨if k < 6 then RESOURCE_WIRE_FIELD_HEADER else RESOURCE_WIRE_FIELD_VALUE⟩ := by
  have hlength := h.length_eq
  unfold scanField
  by_cases h6 : k < 6
  · have hlen := congrArg List.length hb
    rw [List.length_drop, List.length_take_of_le (by omega)] at hlen
    rw [if_pos h6, if_pos (by omega)]
  · have hb' : b.drop off =
        toBe 2 row.tag ++ (toBe 4 value.length ++ value.take (k - 6)) := by
      rw [hb, h.bytes, List.take_append, List.take_append, toBe_length, toBe_length,
        List.take_of_length_le (by rw [toBe_length]; omega),
        List.take_of_length_le (by rw [toBe_length]; omega), Nat.sub_sub]
    obtain ⟨hlen, htag, hdeclared, -⟩ := h.header hb'
    rw [List.length_take_of_le (by omega)] at hlen
    rw [if_neg h6, hdeclared, htag, if_neg (by omega), if_neg (not_not.mpr rfl),
      if_neg (not_not.mpr h.admits), if_pos (by omega)]

end Field

/-! ## The eighteen fields -/

/-- `field` is a field of the row. -/
def FieldRow.Admits (row : FieldRow) (field : List UInt8) : Prop :=
  ∃ value, row.Describes value field

theorem fixedField_admitted {n : Nat} (hn : n < 2 ^ 32) (tag : UInt16) (value : Bytes n) :
    FieldRow.Admits ⟨tag.toNat, .fixed n⟩ (fixedField tag value) := by
  have hlen := value.length_toList
  refine ⟨value.toList, ?_, tag.toNat_lt, hlen.symm ▸ hn, hlen, fun h => nomatch h⟩
  rw [hlen, ← toBeBytes_u32 hn]
  rfl

theorem expiryField_admitted (e : Option UInt64) :
    FieldRow.Admits ⟨(0x0011 : UInt16).toNat, .expiry⟩ (expiryField e) := by
  have hlength : (expiryBytes e).length = 1 ∨ (expiryBytes e).length = 9 := by
    rw [expiryBytes_length]
    cases e with
    | none => exact .inl rfl
    | some epoch => exact .inr rfl
  have hlt : (expiryBytes e).length < 2 ^ 32 := by omega
  refine ⟨expiryBytes e, ?_, by decide, hlt, hlength, fun _ => ?_⟩
  · rw [← toBeBytes_u32 hlt]
    rfl
  · cases e with
    | none => exact .inl ⟨rfl, rfl⟩
    | some epoch => exact .inr ⟨rfl, expiryBytes_length (some epoch)⟩

theorem wireFields_admitted (w : ResourceWireV1) :
    List.Forall₂ FieldRow.Admits FIELD_TABLE (wireFields w) := by
  have field32 := fixedField_admitted (n := 32) (by decide)
  refine .cons (field32 0x0001 _) (.cons (field32 0x0002 _) (.cons (field32 0x0003 _) ?_))
  refine .cons (field32 0x0004 _) (.cons (field32 0x0005 _) (.cons (field32 0x0006 _) ?_))
  refine .cons (field32 0x0007 _) (.cons (field32 0x0008 _) ?_)
  refine .cons (fixedField_admitted (n := 16) (by decide) 0x0009 _) ?_
  refine .cons (field32 0x000a _) (.cons (field32 0x000b _) (.cons (field32 0x000c _) ?_))
  refine .cons (field32 0x000d _) (.cons (field32 0x000e _) (.cons (field32 0x000f _) ?_))
  refine .cons (fixedField_admitted (n := 8) (by decide) 0x0010 _) ?_
  refine .cons (expiryField_admitted w.expiryEpoch) ?_
  exact .cons (fixedField_admitted (n := 4) (by decide) 0x0012 _) .nil

/-- The scan of an input that ends inside a field stops there. -/
theorem scanFields_cut {rows : List FieldRow} {fields : List (List UInt8)}
    (h : List.Forall₂ FieldRow.Admits rows fields) {b : List UInt8} {off i k : Nat}
    (hi : i < fields.length) (hk : k < fields[i].length)
    (hb : b.drop off = (fields.take i).flatten ++ fields[i].take k) :
    scanFields b rows off =
      .error ⟨if k < 6 then RESOURCE_WIRE_FIELD_HEADER else RESOURCE_WIRE_FIELD_VALUE⟩ := by
  induction h generalizing off i with
  | nil => exact absurd hi (Nat.not_lt_zero i)
  | @cons row field rows fields hfield _ ih =>
    obtain ⟨value, hvalue⟩ := hfield
    unfold scanFields
    cases i with
    | zero => rw [scanField_cut hvalue hk hb, error_bind]
    | succ i =>
      rw [List.take_succ_cons, List.flatten_cons, List.append_assoc] at hb
      rw [scanField_whole hvalue hb, ok_bind]
      refine ih (Nat.lt_of_succ_lt_succ hi) hk ?_
      rw [← List.drop_drop, hb, List.drop_left' rfl]
      rfl

/-! ## Inputs that start with the header -/

theorem wireHeader_items (t : List UInt8) :
    slice (wireHeader ++ t) 0 4 = [0x5a, 0x52, 0x4d, 0x31] ∧ beAt (wireHeader ++ t) 4 2 = 1 ∧
      beAt (wireHeader ++ t) 6 2 = 1 ∧ beAt (wireHeader ++ t) 8 2 = 18 := by
  have hslice : ∀ off n, off + n ≤ 10 → slice (wireHeader ++ t) off n = slice wireHeader off n :=
    fun off n hle => slice_append t hle
  unfold beAt
  rw [hslice 0 4 (by decide), hslice 4 2 (by decide), hslice 6 2 (by decide), hslice 8 2 (by decide)]
  decide

/-- Behind a whole header, the scan of the fields decides. -/
theorem rejectCode_header {t : List UInt8} (h : (wireHeader ++ t).length ≤ 16384) :
    (∀ e, scanFields (wireHeader ++ t) FIELD_TABLE 10 = .error e →
      rejectCode (wireHeader ++ t) = some e.code) ∧
    (scanFields (wireHeader ++ t) FIELD_TABLE 10 = .ok (wireHeader ++ t).length →
      rejectCode (wireHeader ++ t) = none) := by
  have hlen : ¬ (wireHeader ++ t).length < 10 := by
    rw [List.length_append, wireHeader_length, HEADER_BYTES]
    omega
  obtain ⟨hmagic, hversion, hobject, hcount⟩ := wireHeader_items t
  unfold rejectCode
  rw [if_neg (by omega), if_neg hlen, if_neg (not_not.mpr hmagic), if_neg (not_not.mpr hversion),
    if_neg (not_not.mpr hobject), if_neg (not_not.mpr hcount)]
  refine ⟨fun e hscan => ?_, fun hscan => ?_⟩
  · rw [hscan]
  · rw [hscan]
    exact if_neg (Nat.lt_irrefl _)

/-- Where the field of an index starts in an encoding. -/
def fieldOffset (w : ResourceWireV1) (i : Nat) : Nat :=
  HEADER_BYTES + ((wireFields w).take i).flatten.length

theorem fieldOffset_succ (w : ResourceWireV1) {i : Nat} (hi : i < (wireFields w).length) :
    fieldOffset w (i + 1) = fieldOffset w i + (wireFields w)[i].length := by
  unfold fieldOffset
  rw [List.take_succ_eq_append_getElem hi, List.flatten_append, List.length_append,
    List.flatten_singleton, Nat.add_assoc]

theorem fieldOffset_end (w : ResourceWireV1) : fieldOffset w 18 = (wireBytes w).length := by
  unfold fieldOffset wireBytes
  rw [List.length_append, wireHeader_length, List.take_of_length_le (Nat.le_refl 18)]

/-- An encoding around one of its fields. -/
theorem wireBytes_split (w : ResourceWireV1) {i : Nat} (hi : i < (wireFields w).length) :
    wireBytes w = (wireHeader ++ ((wireFields w).take i).flatten) ++
      ((wireFields w)[i] ++ ((wireFields w).drop (i + 1)).flatten) := by
  have hfields : (wireFields w).flatten = ((wireFields w).take i).flatten ++
      ((wireFields w)[i] ++ ((wireFields w).drop (i + 1)).flatten) := by
    rw [← List.flatten_cons, ← List.drop_eq_getElem_cons hi, ← List.flatten_append,
      List.take_append_drop]
  rw [wireBytes, hfields, List.append_assoc]

theorem fieldOffset_eq (w : ResourceWireV1) (i : Nat) :
    (wireHeader ++ ((wireFields w).take i).flatten).length = fieldOffset w i := by
  unfold fieldOffset
  rw [List.length_append, wireHeader_length]

/-- The bytes before a place in a field. -/
theorem wireBytes_take (w : ResourceWireV1) {i k : Nat} (hi : i < (wireFields w).length)
    (hk : k ≤ (wireFields w)[i].length) : (wireBytes w).take (fieldOffset w i + k) =
      wireHeader ++ (((wireFields w).take i).flatten ++ (wireFields w)[i].take k) := by
  rw [wireBytes_split w hi, ← fieldOffset_eq, List.take_length_add_append,
    List.take_append_of_le_length hk, List.append_assoc]

/-- Every place behind the header is in one of the fields. -/
theorem exists_field (w : ResourceWireV1) {k : Nat} (h10 : 10 ≤ k) (hk : k < (wireBytes w).length) :
    ∃ i, i < 18 ∧ fieldOffset w i ≤ k ∧ k < fieldOffset w (i + 1) := by
  have hstep : ∀ n, k < fieldOffset w n → ∃ i, i < n ∧ fieldOffset w i ≤ k ∧
      k < fieldOffset w (i + 1) := by
    intro n hn
    induction n with
    | zero => exact absurd hn (Nat.not_lt.mpr h10)
    | succ n ih =>
      rcases Nat.lt_or_ge k (fieldOffset w n) with hlt | hge
      · obtain ⟨i, hi, hplace⟩ := ih hlt
        exact ⟨i, Nat.lt_succ_of_lt hi, hplace⟩
      · exact ⟨n, Nat.lt_succ_self n, hge, hn⟩
  rw [← fieldOffset_end] at hk
  exact hstep 18 hk

/-! ## Main results -/

theorem decode_short {b : List UInt8} (h : b.length < 10) :
    decodeResourceWireV1 b = .error ⟨RESOURCE_WIRE_HEADER⟩ := by
  rw [decode_eq_error]
  unfold rejectCode
  rw [if_neg (by omega), if_pos h]

/-- An encoding cut inside a field. -/
theorem decode_cut (w : ResourceWireV1) {i k : Nat} (hi : i < 18) (hstart : fieldOffset w i ≤ k)
    (hstop : k < fieldOffset w (i + 1)) :
    decodeResourceWireV1 ((wireBytes w).take k) =
      .error ⟨if k < fieldOffset w i + 6 then RESOURCE_WIRE_FIELD_HEADER
        else RESOURCE_WIRE_FIELD_VALUE⟩ := by
  obtain ⟨j, rfl⟩ := Nat.exists_eq_add_of_le hstart
  have hi' : i < (wireFields w).length := hi
  rw [fieldOffset_succ w hi'] at hstop
  have hj : j < (wireFields w)[i].length := by omega
  have hle : ((wireBytes w).take (fieldOffset w i + j)).length ≤ 16384 :=
    (List.length_take_le' _ _).trans (wireBytes_length_le w)
  rw [wireBytes_take w hi' hj.le] at hle ⊢
  have hdrop (t : List UInt8) : (wireHeader ++ t).drop 10 = t := List.drop_left' wireHeader_length
  have hscan := scanFields_cut (wireFields_admitted w) hi' hj (hdrop _)
  rw [decode_eq_error, (rejectCode_header hle).1 _ hscan]
  simp only [Nat.add_lt_add_iff_left]

/-- An encoding with bytes after it. -/
theorem decode_append (w : ResourceWireV1) {s : List UInt8} (hs : s ≠ []) :
    decodeResourceWireV1 (wireBytes w ++ s) =
      .error ⟨if (wireBytes w ++ s).length ≤ 16384 then RESOURCE_WIRE_TRAILING
        else RESOURCE_WIRE_BYTES⟩ := by
  by_cases hle : (wireBytes w ++ s).length ≤ 16384
  · have hingress : validateIngressAndHeader (wireBytes w ++ s) = .ok () := by
      rw [validateIngressAndHeader_eq_ok]
      refine ⟨hle, ?_⟩
      rw [wireBytes, List.append_assoc, List.length_append, wireHeader_length]
      exact Nat.le_add_right _ _
    have hheader := parseHeader_exact.run () ((wireFields w).flatten ++ s)
    have hempty : (!s.isEmpty) = true := by
      rw [Bool.not_eq_true', List.isEmpty_eq_false_iff]
      exact hs
    rw [if_pos hle]
    unfold decodeResourceWireV1
    rw [hingress, ok_bind, wireBytes, List.append_assoc, hheader, ok_bind]
    simp only [readFields_exact.run w s, ok_bind, hempty]
    rfl
  · rw [if_neg hle, decode_eq_error]
    exact if_pos (Nat.lt_of_not_le hle)

/-- **Cut and extended encodings.** A proper prefix of an encoding is rejected: as a
short header, or in the field where it ends. So is an encoding with any bytes after it;
no accepted string opens another one. -/
theorem truncation_extension (alloc : Nat → Bool) (w : ResourceWireV1) (e : List UInt8)
    (h : w.encode alloc = .ok e) :
    (∀ k < e.length,
      (k < 10 ∧ decodeResourceWireV1 (e.take k) = .error ⟨RESOURCE_WIRE_HEADER⟩) ∨
      ∃ i < 18, fieldOffset w i ≤ k ∧ k < fieldOffset w (i + 1) ∧
        decodeResourceWireV1 (e.take k) =
          .error ⟨if k < fieldOffset w i + 6 then RESOURCE_WIRE_FIELD_HEADER
            else RESOURCE_WIRE_FIELD_VALUE⟩) ∧
    (∀ s, s ≠ [] → decodeResourceWireV1 (e ++ s) =
      .error ⟨if (e ++ s).length ≤ 16384 then RESOURCE_WIRE_TRAILING else RESOURCE_WIRE_BYTES⟩) ∧
    ∀ b b', (∃ v, decodeResourceWireV1 b = .ok v) → (∃ v, decodeResourceWireV1 b' = .ok v) →
      b <+: b' → b = b' := by
  have he := encode_eq_ok h
  subst he
  refine ⟨fun k hk => ?_, fun s hs => decode_append w hs, ?_⟩
  · rcases Nat.lt_or_ge k 10 with h10 | h10
    · have hlen := List.length_take_le k (wireBytes w)
      exact .inl ⟨h10, decode_short (by omega)⟩
    · obtain ⟨i, hi, hstart, hstop⟩ := exists_field w h10 hk
      exact .inr ⟨i, hi, hstart, hstop, decode_cut w hi hstart hstop⟩
  · intro b b' hb hb' hprefix
    obtain ⟨v, hv⟩ := hb
    obtain ⟨v', hv'⟩ := hb'
    obtain ⟨s, rfl⟩ := hprefix
    by_contra hne
    have hs : s ≠ [] := fun hs => hne (by rw [hs, List.append_nil])
    rw [(decode_eq_ok b v).mp hv, decode_append v hs] at hv'
    cases hv'

theorem truncation_extension_vector :
    decodeResourceWireV1 (wireBytes (vectorResource none) ++ [0]) =
      .error ⟨RESOURCE_WIRE_TRAILING⟩ := by
  have hencode : (vectorResource none).encode (fun _ => true) =
      .ok (wireBytes (vectorResource none)) := encode_eq _ _
  obtain ⟨-, happend, -⟩ := truncation_extension _ _ _ hencode
  have hlen : (wireBytes (vectorResource none) ++ [0]).length ≤ 16384 := by
    rw [List.length_append, wireBytes_length]
    decide
  rw [happend [0] (by simp), if_pos hlen]

end Zrm.L2.ResourceWire
