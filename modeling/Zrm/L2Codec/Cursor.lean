import Zrm.Core.Reader
import Zrm.L1Types.Reject
import Zrm.L1Types.Scalar

/-!
# The decoder's cursor (`zrm-codec/src/cursor.rs`)

`Cursor` holds the unread bytes; each `take` splits off a prefix or fails with
the caller's reject code. `take_run` and its relatives give every method in
closed form.
-/
namespace Zrm.L2.Cursor
open Zrm.BigEndian Zrm.Result Zrm.Reading Zrm.L1.Reject

/-- mirrors crates/zrm-codec/src/error.rs:7-9 -/
structure ResourceWireDecodeError where
  code : RejectCodeV1
  deriving DecidableEq

/-- mirrors crates/zrm-codec/src/error.rs:24-29 -/
def ResourceWireDecodeError.label (e : ResourceWireDecodeError) : String :=
  match e.code.resourceWireLabel with
  | some label => label
  | none => "zrm.internal.unknown_resource_wire_reject"

/-- A computation on `&mut Cursor`; the state is the field `remaining`.
mirrors crates/zrm-codec/src/cursor.rs:5-7 -/
abbrev CursorM (α : Type) := Reader ResourceWireDecodeError UInt8 α

/-- mirrors crates/zrm-codec/src/cursor.rs:14-24 -/
def take (length : Nat) (rejectCode : RejectCodeV1) : CursorM (List UInt8) :=
  takeN ⟨rejectCode⟩ length

/-- mirrors crates/zrm-codec/src/cursor.rs:26-32 -/
def takeArray (LENGTH : Nat) (rejectCode : RejectCodeV1) : CursorM (Bytes LENGTH) := do
  let bytes ← take LENGTH rejectCode
  if h : bytes.length = LENGTH then return ⟨bytes, h⟩ else throw ⟨rejectCode⟩

/-- mirrors crates/zrm-codec/src/cursor.rs:34-39 -/
def takeU16 (rejectCode : RejectCodeV1) : CursorM UInt16 := fromBeBytes <$> takeArray 2 rejectCode

/-- mirrors crates/zrm-codec/src/cursor.rs:41-46 -/
def takeU32 (rejectCode : RejectCodeV1) : CursorM UInt32 := fromBeBytes <$> takeArray 4 rejectCode

variable {n : Nat} {code : RejectCodeV1} {s : List UInt8}

theorem take_of_le (h : n ≤ s.length) : (take n code).run s = .ok (s.take n, s.drop n) :=
  takeN_of_le h

theorem take_of_lt (h : s.length < n) : (take n code).run s = .error ⟨code⟩ := takeN_of_lt h

theorem takeArray_of_le (h : n ≤ s.length) :
    (takeArray n code).run s = .ok (⟨s.take n, List.length_take_of_le h⟩, s.drop n) := by
  unfold takeArray
  rw [StateT.run_bind, take_of_le h, ok_bind, dif_pos (List.length_take_of_le h)]
  rfl

theorem takeArray_of_lt (h : s.length < n) : (takeArray n code).run s = .error ⟨code⟩ := by
  unfold takeArray
  rw [StateT.run_bind, take_of_lt h, error_bind]

theorem takeU16_of_le (h : 2 ≤ s.length) :
    (takeU16 code).run s = .ok (UInt16.ofNat (ofBe (s.take 2)), s.drop 2) := by
  unfold takeU16
  rw [StateT.run_map, takeArray_of_le h]; rfl

theorem takeU16_of_lt (h : s.length < 2) : (takeU16 code).run s = .error ⟨code⟩ := by
  unfold takeU16
  rw [StateT.run_map, takeArray_of_lt h]; rfl

theorem takeU32_of_le (h : 4 ≤ s.length) :
    (takeU32 code).run s = .ok (UInt32.ofNat (ofBe (s.take 4)), s.drop 4) := by
  unfold takeU32
  rw [StateT.run_map, takeArray_of_le h]; rfl

theorem takeU32_of_lt (h : s.length < 4) : (takeU32 code).run s = .error ⟨code⟩ := by
  unfold takeU32
  rw [StateT.run_map, takeArray_of_lt h]; rfl

/-! ## Exactness -/

theorem take_exact (n : Nat) (code : RejectCodeV1) :
    ExactOn (take n code) (fun a => a.length = n) id := takeN_exact _ n

theorem takeArray_exact (n : Nat) (code : RejectCodeV1) :
    Exact (takeArray n code) Bytes.toList := by
  intro s v t
  by_cases h : n ≤ s.length
  · rw [takeArray_of_le h, Except.ok.injEq, Prod.mk.injEq]
    refine ⟨fun h' => ?_, fun h' => ?_⟩
    · obtain ⟨rfl, rfl⟩ := h'
      exact ⟨trivial, (List.take_append_drop n s).symm⟩
    · obtain ⟨-, rfl⟩ := h'
      exact ⟨Bytes.ext (List.take_left' v.length_toList), List.drop_left' v.length_toList⟩
  · rw [takeArray_of_lt (Nat.lt_of_not_le h)]
    simp only [reduceCtorEq, false_iff, not_and]
    intro _ hs
    subst hs
    simp only [List.length_append, Bytes.length_toList] at h
    omega

theorem takeU16_exact (code : RejectCodeV1) : Exact (takeU16 code) (fun x => (toBeBytes x).toList) :=
  (takeArray_exact 2 code).map fromBeBytes_toBeBytes toBeBytes_fromBeBytes

theorem takeU32_exact (code : RejectCodeV1) : Exact (takeU32 code) (fun x => (toBeBytes x).toList) :=
  (takeArray_exact 4 code).map fromBeBytes_toBeBytes toBeBytes_fromBeBytes

end Zrm.L2.Cursor
