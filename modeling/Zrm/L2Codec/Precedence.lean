import Mathlib.Data.List.Nodup
import Zrm.L2Codec.ResourceWire

/-!
# Reject precedence of the decoder

`rejectCode` is the reject rule as the format's table states it: offsets into
the input, no cursor. The fields are scanned in order, each from the offset
where the one before ended; only the expiry field moves the offsets after it.

* `readFields_traces`: the eighteen readers move as the scan does.
* `decode_reject`: the decoder fails with exactly the code of `rejectCode`.
-/
namespace Zrm.L2.ResourceWire
open Zrm.BigEndian Zrm.Result Zrm.Reading Zrm.L1.Reject Zrm.L1.Reject.RejectCodeV1 Zrm.L1.Scalar
  Zrm.L2.Cursor

/-! ## The reference -/

/-- The length column of the table: one length, or the two of an option. -/
inductive FieldWidth
  | fixed (n : Nat)
  | expiry
  deriving DecidableEq

def FieldWidth.Admits : FieldWidth → Nat → Prop
  | .fixed n, declared => declared = n
  | .expiry, declared => declared = 1 ∨ declared = 9

instance (width : FieldWidth) (declared : Nat) : Decidable (width.Admits declared) :=
  match width with
  | .fixed n => inferInstanceAs (Decidable (declared = n))
  | .expiry => inferInstanceAs (Decidable (declared = 1 ∨ declared = 9))

structure FieldRow where
  tag : Nat
  width : FieldWidth

/-- The table of SPECIFICATION.md, section 13.6. -/
def FIELD_TABLE : List FieldRow :=
  [⟨0x0001, .fixed 32⟩, ⟨0x0002, .fixed 32⟩, ⟨0x0003, .fixed 32⟩, ⟨0x0004, .fixed 32⟩,
    ⟨0x0005, .fixed 32⟩, ⟨0x0006, .fixed 32⟩, ⟨0x0007, .fixed 32⟩, ⟨0x0008, .fixed 32⟩,
    ⟨0x0009, .fixed 16⟩, ⟨0x000a, .fixed 32⟩, ⟨0x000b, .fixed 32⟩, ⟨0x000c, .fixed 32⟩,
    ⟨0x000d, .fixed 32⟩, ⟨0x000e, .fixed 32⟩, ⟨0x000f, .fixed 32⟩, ⟨0x0010, .fixed 8⟩,
    ⟨0x0011, .expiry⟩, ⟨0x0012, .fixed 4⟩]

/-- The `n` bytes at an offset. -/
def slice (b : List UInt8) (off n : Nat) : List UInt8 := (b.drop off).take n

/-- The big-endian number in the `n` bytes at an offset. -/
def beAt (b : List UInt8) (off n : Nat) : Nat := ofBe (slice b off n)

/-- An option tag that its declared length allows. -/
def OptionTagOk (b : List UInt8) (off declared : Nat) : Prop :=
  slice b off 1 = [0] ∧ declared = 1 ∨ slice b off 1 = [1] ∧ declared = 9

instance (b : List UInt8) (off declared : Nat) : Decidable (OptionTagOk b off declared) :=
  inferInstanceAs (Decidable (_ ∨ _))

/-- The defect of the field that starts at `off`, or the offset after it. -/
def scanField (b : List UInt8) (row : FieldRow) (off : Nat) : Except ResourceWireDecodeError Nat :=
  if b.length - off < 6 then .error ⟨RESOURCE_WIRE_FIELD_HEADER⟩
  else if beAt b off 2 ≠ row.tag then .error ⟨RESOURCE_WIRE_FIELD_TAG⟩
  else if ¬ row.width.Admits (beAt b (off + 2) 4) then .error ⟨RESOURCE_WIRE_FIELD_LENGTH⟩
  else if b.length - off - 6 < beAt b (off + 2) 4 then .error ⟨RESOURCE_WIRE_FIELD_VALUE⟩
  else if row.width = .expiry ∧ ¬ OptionTagOk b (off + 6) (beAt b (off + 2) 4) then
    .error ⟨RESOURCE_WIRE_OPTION_TAG⟩
  else .ok (off + 6 + beAt b (off + 2) 4)

/-- The first defect of the rows in order, or the offset after the last. -/
def scanFields (b : List UInt8) : List FieldRow → Nat → Except ResourceWireDecodeError Nat
  | [], off => .ok off
  | row :: rows, off => scanField b row off >>= scanFields b rows

/-- The reject code of an input; `none` if no rule fires. -/
def rejectCode (b : List UInt8) : Option RejectCodeV1 :=
  if b.length > 16384 then some RESOURCE_WIRE_BYTES
  else if b.length < 10 then some RESOURCE_WIRE_HEADER
  else if slice b 0 4 ≠ [0x5a, 0x52, 0x4d, 0x31] then some RESOURCE_WIRE_MAGIC
  else if beAt b 4 2 ≠ 1 then some RESOURCE_WIRE_VERSION
  else if beAt b 6 2 ≠ 1 then some RESOURCE_WIRE_OBJECT
  else if beAt b 8 2 ≠ 18 then some RESOURCE_WIRE_FIELD_COUNT
  else match scanFields b FIELD_TABLE 10 with
    | .error e => some e.code
    | .ok off => if off < b.length then some RESOURCE_WIRE_TRAILING else none

/-! ## The header -/

theorem u16_eq_iff {l : List UInt8} (h : l.length = 2) (x : UInt16) :
    UInt16.ofNat (ofBe l) = x ↔ ofBe l = x.toNat :=
  fromBeBytes_eq_iff (⟨l, h⟩ : Bytes 2) x

theorem u32_toNat {l : List UInt8} (h : l.length = 4) : (UInt32.ofNat (ofBe l)).toNat = ofBe l := by
  have hlt := ofBe_lt l
  rw [h] at hlt
  exact toNat_u32 hlt

theorem slice_length (b : List UInt8) (off n : Nat) (h : n ≤ b.length - off) :
    (slice b off n).length = n :=
  List.length_take_of_le (by rwa [List.length_drop])

/-- One two-byte header item against its constant. -/
theorem takeU16_ne_run {α : Type} {s : List UInt8} (h : 2 ≤ s.length) (code : RejectCodeV1)
    (expected : UInt16) (e : ResourceWireDecodeError) (k : CursorM α) :
    (takeU16 code >>= fun x => if x ≠ expected then throw e else k).run s =
      if ofBe (s.take 2) ≠ expected.toNat then .error e else k.run (s.drop 2) := by
  rw [StateT.run_bind, takeU16_of_le h, ok_bind]
  simp only [ne_eq, u16_eq_iff (List.length_take_of_le h)]
  split <;> rfl

theorem parseHeader_run {b : List UInt8} (h : 10 ≤ b.length) :
    parseHeader.run b =
      if slice b 0 4 ≠ [0x5a, 0x52, 0x4d, 0x31] then .error ⟨RESOURCE_WIRE_MAGIC⟩
      else if beAt b 4 2 ≠ 1 then .error ⟨RESOURCE_WIRE_VERSION⟩
      else if beAt b 6 2 ≠ 1 then .error ⟨RESOURCE_WIRE_OBJECT⟩
      else if beAt b 8 2 ≠ 18 then .error ⟨RESOURCE_WIRE_FIELD_COUNT⟩
      else .ok ((), b.drop 10) := by
  have hmagic : ∀ h4 : (b.take 4).length = 4,
      (⟨b.take 4, h4⟩ : Bytes 4) ≠ MAGIC ↔ slice b 0 4 ≠ [0x5a, 0x52, 0x4d, 0x31] := by
    intro h4
    rw [ne_eq, Bytes.ext_iff]; rfl
  unfold parseHeader
  rw [StateT.run_bind, takeArray_of_le (by omega), ok_bind]
  simp only [hmagic]
  split
  · rfl
  · rw [takeU16_ne_run (by rw [List.length_drop]; omega),
      takeU16_ne_run (by rw [List.drop_drop, List.length_drop]; omega),
      takeU16_ne_run (by rw [List.drop_drop, List.drop_drop, List.length_drop]; omega)]
    simp only [List.drop_drop, Nat.reduceAdd]
    rfl

/-! ## One field -/

/-- `readFieldHeader` on the suffix at `off`: the whole header is read before
its tag is compared. -/
theorem readFieldHeader_run (b : List UInt8) (off : Nat) (expectedTag : UInt16) :
    (readFieldHeader expectedTag).run (b.drop off) =
      if b.length - off < 6 then .error ⟨RESOURCE_WIRE_FIELD_HEADER⟩
      else if beAt b off 2 ≠ expectedTag.toNat then .error ⟨RESOURCE_WIRE_FIELD_TAG⟩
      else .ok (UInt32.ofNat (beAt b (off + 2) 4), b.drop (off + 6)) := by
  unfold readFieldHeader
  rw [StateT.run_bind]
  by_cases h2 : b.length - off < 2
  · rw [takeU16_of_lt (by rwa [List.length_drop]), error_bind, if_pos (by omega)]
  · rw [takeU16_of_le (by rw [List.length_drop]; omega), ok_bind, List.drop_drop, StateT.run_bind]
    by_cases h6 : b.length - off < 6
    · rw [takeU32_of_lt (by rw [List.length_drop]; omega), error_bind, if_pos h6]
    · have htag := u16_eq_iff (slice_length b off 2 (by omega)) expectedTag
      rw [takeU32_of_le (by rw [List.length_drop]; omega), ok_bind, List.drop_drop, if_neg h6]
      unfold beAt slice at *
      simp only [ne_eq, htag]
      split <;> rfl

theorem declared_eq_iff {b : List UInt8} {off n : Nat} (h : ¬ b.length - off < 6) (hn : n < 2 ^ 32) :
    UInt32.ofNat (beAt b (off + 2) 4) = UInt32.ofNat n ↔ beAt b (off + 2) 4 = n := by
  have hlen := u32_toNat (slice_length b (off + 2) 4 (by omega))
  rw [← UInt32.toNat_inj, toNat_u32 hn]
  unfold beAt
  rw [hlen]

theorem readFixedField_traces {n : Nat} (hn : n < 2 ^ 32) (b : List UInt8) (tag : UInt16) :
    Traces (readFixedField n tag) b (scanField b ⟨tag.toNat, .fixed n⟩) := by
  intro off
  unfold readFixedField scanField
  rw [StateT.run_bind, readFieldHeader_run, u32TryFrom_of_lt hn]
  split
  · rfl
  · rename_i h6
    split
    · rfl
    · simp only [ok_bind, ne_eq, declared_eq_iff h6 hn, FieldWidth.Admits]
      split
      · rfl
      · rename_i hdeclared
        have hwidth : ¬ (FieldWidth.fixed n = .expiry ∧ ¬ OptionTagOk b (off + 6) n) :=
          fun h => nomatch h.1
        rw [not_not] at hdeclared
        rw [hdeclared, if_neg hwidth]
        split
        · rw [takeArray_of_lt (by rw [List.length_drop]; omega)]; rfl
        · rw [takeArray_of_le (by rw [List.length_drop]; omega), List.drop_drop]; rfl

/-- The match on the value bytes fails exactly on a wrong option tag. -/
theorem expiryOfBytes_map {α : Type} {value : List UInt8} (h : value.length = 1 ∨ value.length = 9)
    (a : α) : (expiryOfBytes value).map (fun _ => a) =
      if value.take 1 = [0] ∧ value.length = 1 ∨ value.take 1 = [1] ∧ value.length = 9 then .ok a
      else .error ⟨RESOURCE_WIRE_OPTION_TAG⟩ := by
  unfold expiryOfBytes
  split
  · rfl
  · rfl
  · rename_i h0 h1
    rw [if_neg]
    · rfl
    · intro hform
      rcases hform with ⟨htag, hlen⟩ | ⟨htag, hlen⟩
      · rw [List.take_of_length_le (by omega)] at htag
        exact h0 htag
      · match value, hlen, htag with
        | [_, b0, b1, b2, b3, b4, b5, b6, b7], _, htag =>
          rw [List.take_succ_cons, List.take_zero, List.singleton_inj] at htag
          exact h1 b0 b1 b2 b3 b4 b5 b6 b7 (by rw [htag])

theorem expiryValue_traces {n : Nat} (hn : n = 1 ∨ n = 9) (b : List UInt8) :
    Traces (take n RESOURCE_WIRE_FIELD_VALUE >>= fun value => liftM (expiryOfBytes value)) b
      (fun off => if b.length - off < n then .error ⟨RESOURCE_WIRE_FIELD_VALUE⟩
        else if ¬ OptionTagOk b off n then .error ⟨RESOURCE_WIRE_OPTION_TAG⟩ else .ok (off + n)) := by
  intro off
  beta_reduce
  rw [StateT.run_bind]
  by_cases hleft : b.length - off < n
  · rw [take_of_lt (by rwa [List.length_drop]), if_pos hleft]; rfl
  · have hlen : (slice b off n).length = n := slice_length b off n (by omega)
    have htag : (slice b off n).take 1 = slice b off 1 := by
      unfold slice
      rw [List.take_take, Nat.min_eq_left (by omega)]
    have hmap : (expiryOfBytes (slice b off n)).map (fun _ => (b.drop off).drop n) =
        if OptionTagOk b off n then .ok ((b.drop off).drop n)
        else .error ⟨RESOURCE_WIRE_OPTION_TAG⟩ := by
      have h := expiryOfBytes_map (by rwa [hlen]) ((b.drop off).drop n)
      rw [hlen, htag] at h
      exact h
    rw [take_of_le (by rw [List.length_drop]; omega), ok_bind, if_neg hleft]
    have hlift : ∀ (x : Except ResourceWireDecodeError (Option UInt64)) (s : List UInt8),
        Except.map Prod.snd ((liftM x : CursorM (Option UInt64)).run s) = x.map fun _ => s := by
      intro x s; cases x <;> rfl
    refine (hlift _ _).trans (hmap.trans ?_)
    rw [ite_not, List.drop_drop]
    split <;> rfl

theorem readExpiryField_traces (b : List UInt8) :
    Traces readExpiryField b (scanField b ⟨(0x0011 : UInt16).toNat, .expiry⟩) := by
  intro off
  unfold readExpiryField scanField
  rw [StateT.run_bind, readFieldHeader_run]
  split
  · rfl
  · rename_i h6
    split
    · rfl
    · have h1 : UInt32.ofNat (beAt b (off + 2) 4) = 1 ↔ beAt b (off + 2) 4 = 1 :=
        declared_eq_iff h6 (by decide)
      have h9 : UInt32.ofNat (beAt b (off + 2) 4) = 9 ↔ beAt b (off + 2) 4 = 9 :=
        declared_eq_iff h6 (by decide)
      simp only [ok_bind, ne_eq, h1, h9, FieldWidth.Admits, not_or, true_and]
      split
      · rfl
      · rename_i hadmits
        have hadmits : beAt b (off + 2) 4 = 1 ∨ beAt b (off + 2) 4 = 9 := by tauto
        have hsmall : (UInt32.ofNat (beAt b (off + 2) 4)).toNat = beAt b (off + 2) 4 :=
          toNat_u32 (by omega)
        have hleft : b.length - off - 6 = b.length - (off + 6) := by omega
        rw [hsmall, hleft]
        exact expiryValue_traces hadmits b (off + 6)

/-! ## The whole input -/

/-- One row of the table, read and then the rest. -/
theorem Traces.row {α β : Type} {p : CursorM α} {f : α → CursorM β} {b : List UInt8} {row : FieldRow}
    {rows : List FieldRow} (hp : Traces p b (scanField b row))
    (hf : ∀ a, Traces (f a) b (scanFields b rows)) : Traces (p >>= f) b (scanFields b (row :: rows)) :=
  hp.bind hf

theorem readFields_traces (b : List UInt8) : Traces readFields b (scanFields b FIELD_TABLE) := by
  have field32 := readFixedField_traces (n := 32) (by decide) b
  refine Traces.row (field32 0x0001) fun _ => ?_
  refine Traces.row (field32 0x0002) fun _ => ?_
  refine Traces.row (field32 0x0003) fun _ => ?_
  refine Traces.row (field32 0x0004) fun _ => ?_
  refine Traces.row (field32 0x0005) fun _ => ?_
  refine Traces.row (field32 0x0006) fun _ => ?_
  refine Traces.row (field32 0x0007) fun _ => ?_
  refine Traces.row (field32 0x0008) fun _ => ?_
  refine Traces.row ((readFixedField_traces (n := 16) (by decide) b 0x0009).map _) fun _ => ?_
  refine Traces.row (field32 0x000a) fun _ => ?_
  refine Traces.row (field32 0x000b) fun _ => ?_
  refine Traces.row (field32 0x000c) fun _ => ?_
  refine Traces.row (field32 0x000d) fun _ => ?_
  refine Traces.row (field32 0x000e) fun _ => ?_
  refine Traces.row (field32 0x000f) fun _ => ?_
  refine Traces.row ((readFixedField_traces (n := 8) (by decide) b 0x0010).map _) fun _ => ?_
  refine Traces.row (readExpiryField_traces b) fun _ => ?_
  refine Traces.row ((readFixedField_traces (n := 4) (by decide) b 0x0012).map _) fun _ => ?_
  exact Traces.pure _ b

/-- What remains after the fields: the scan's offset decides. -/
theorem readFields_reject (b : List UInt8) :
    (err? (do
      let (resource, cursor) ← readFields.run (b.drop 10)
      if !cursor.isEmpty then throw ⟨RESOURCE_WIRE_TRAILING⟩ else return resource)).map
        ResourceWireDecodeError.code =
      match scanFields b FIELD_TABLE 10 with
      | .error e => some e.code
      | .ok off => if off < b.length then some RESOURCE_WIRE_TRAILING else none := by
  have htraces := readFields_traces b 10
  cases hrun : readFields.run (b.drop 10) with
  | error e =>
    cases hscan : scanFields b FIELD_TABLE 10 with
    | error e' =>
      rw [hrun, hscan] at htraces
      cases htraces; rfl
    | ok off => rw [hrun, hscan] at htraces; cases htraces
  | ok r =>
    obtain ⟨w, rest⟩ := r
    cases hscan : scanFields b FIELD_TABLE 10 with
    | error e' => rw [hrun, hscan] at htraces; cases htraces
    | ok off =>
      rw [hrun, hscan] at htraces
      have hrest : rest = b.drop off := Except.ok.inj htraces
      have hempty : (!rest.isEmpty) = true ↔ off < b.length := by
        rw [hrest, Bool.not_eq_true', ← Bool.not_eq_true, List.isEmpty_iff, List.drop_eq_nil_iff]
        omega
      simp only [ok_bind, hempty]
      split <;> rfl

theorem err?_decode (b : List UInt8) :
    (err? (decodeResourceWireV1 b)).map ResourceWireDecodeError.code = rejectCode b := by
  unfold decodeResourceWireV1 validateIngressAndHeader rejectCode MAX_RESOURCE_BYTES HEADER_BYTES
  by_cases hbytes : b.length > 16384
  · rw [if_pos hbytes, if_pos hbytes]; rfl
  · rw [if_neg hbytes, if_neg hbytes]
    by_cases hheader : b.length < 10
    · rw [if_pos hheader, if_pos hheader]; rfl
    · rw [if_neg hheader, if_neg hheader, ok_bind, parseHeader_run (by omega)]
      split
      · rfl
      · split
        · rfl
        · split
          · rfl
          · split
            · rfl
            · exact readFields_reject b

theorem decode_eq_error {b : List UInt8} {code : RejectCodeV1} :
    decodeResourceWireV1 b = .error ⟨code⟩ ↔ rejectCode b = some code := by
  rw [← err?_decode, Option.map_eq_some_iff]
  refine ⟨fun h => ⟨_, err?_eq_some.mpr h, rfl⟩, fun h => ?_⟩
  obtain ⟨e, he, rfl⟩ := h
  exact err?_eq_some.mp he

/-- **Reject precedence.** The decoder fails with the code of the first rule
that fires, and succeeds iff none does. -/
theorem decode_reject (b : List UInt8) :
    (∀ code, (∃ e, decodeResourceWireV1 b = .error e ∧ e.code = code) ↔ rejectCode b = some code) ∧
    ((∃ w, decodeResourceWireV1 b = .ok w) ↔ rejectCode b = none) := by
  rw [← err?_decode]
  constructor
  · intro code
    rw [Option.map_eq_some_iff]
    exact exists_congr fun e => and_congr_left fun _ => err?_eq_some.symm
  · rw [Option.map_eq_none_iff, err?_eq_none]

/-! ## The codes as a whole -/

/-- The codes the format knows, in the order of their rules. -/
def RESOURCE_WIRE_CODES : List RejectCodeV1 :=
  [RESOURCE_WIRE_BYTES, RESOURCE_WIRE_HEADER, RESOURCE_WIRE_MAGIC, RESOURCE_WIRE_VERSION,
    RESOURCE_WIRE_OBJECT, RESOURCE_WIRE_FIELD_COUNT, RESOURCE_WIRE_FIELD_HEADER,
    RESOURCE_WIRE_FIELD_TAG, RESOURCE_WIRE_FIELD_LENGTH, RESOURCE_WIRE_FIELD_VALUE,
    RESOURCE_WIRE_OPTION_TAG, RESOURCE_WIRE_TRAILING]

/-- The codes of a field. -/
def FIELD_CODES : List RejectCodeV1 :=
  [RESOURCE_WIRE_FIELD_HEADER, RESOURCE_WIRE_FIELD_TAG, RESOURCE_WIRE_FIELD_LENGTH,
    RESOURCE_WIRE_FIELD_VALUE, RESOURCE_WIRE_OPTION_TAG]

theorem scanField_code {b : List UInt8} {row : FieldRow} {off : Nat} {e : ResourceWireDecodeError}
    (h : scanField b row off = .error e) : e.code ∈ FIELD_CODES := by
  unfold scanField at h
  repeat' split at h
  all_goals cases h
  all_goals decide

theorem scanFields_code {b : List UInt8} {rows : List FieldRow} {off : Nat}
    {e : ResourceWireDecodeError} (h : scanFields b rows off = .error e) :
    e.code ∈ FIELD_CODES := by
  induction rows generalizing off with
  | nil => cases h
  | cons row rows ih =>
    unfold scanFields at h
    cases hfield : scanField b row off with
    | error e' =>
      rw [hfield] at h
      cases h
      exact scanField_code hfield
    | ok off' =>
      rw [hfield] at h
      exact ih h

theorem rejectCode_mem {b : List UInt8} {code : RejectCodeV1} (h : rejectCode b = some code) :
    code ∈ RESOURCE_WIRE_CODES := by
  unfold rejectCode at h
  repeat' split at h
  all_goals cases h
  case h_1 e hscan =>
    have hfields : ∀ code ∈ FIELD_CODES, code ∈ RESOURCE_WIRE_CODES := by decide
    exact hfields e.code (scanFields_code hscan)
  all_goals decide

/-- The byte bound is refused for the length alone, and for every string beyond it. -/
theorem decode_bytes {b : List UInt8} :
    decodeResourceWireV1 b = .error ⟨RESOURCE_WIRE_BYTES⟩ ↔ MAX_RESOURCE_BYTES < b.length := by
  rw [decode_eq_error]
  refine ⟨fun h => ?_, fun h => if_pos h⟩
  by_contra hle
  have hle : ¬ b.length > 16384 := hle
  unfold rejectCode at h
  rw [if_neg hle] at h
  repeat' split at h
  case h_1 e hscan =>
    have hfields : RESOURCE_WIRE_BYTES ∉ FIELD_CODES := by decide
    exact hfields (Option.some.inj h ▸ scanFields_code hscan)
  all_goals cases h

/-- Every rejection has its own public label; the fallback is never shown. -/
theorem decode_error_label {b : List UInt8} {e : ResourceWireDecodeError}
    (h : decodeResourceWireV1 b = .error e) :
    e.code ∈ RESOURCE_WIRE_CODES ∧ e.code.resourceWireLabel = some e.label := by
  have hcode : rejectCode b = some e.code := by rw [← err?_decode, h]; rfl
  have hlabel : ∀ code ∈ RESOURCE_WIRE_CODES,
      code.resourceWireLabel = some (ResourceWireDecodeError.label ⟨code⟩) := by decide
  exact ⟨rejectCode_mem hcode, hlabel e.code (rejectCode_mem hcode)⟩

/-- No two codes share a label. -/
theorem label_injOn {code code' : RejectCodeV1} (h : code ∈ RESOURCE_WIRE_CODES)
    (h' : code' ∈ RESOURCE_WIRE_CODES) (heq : code.resourceWireLabel = code'.resourceWireLabel) :
    code = code' := by
  have hnodup : (RESOURCE_WIRE_CODES.map resourceWireLabel).Nodup := by decide +kernel
  exact List.inj_on_of_nodup_map hnodup h h' heq

end Zrm.L2.ResourceWire
