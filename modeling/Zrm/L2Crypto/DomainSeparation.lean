import Mathlib.Data.Set.Function
import Zrm.L2Codec.ResourceId

/-!
# Domain separation of the hash operations

The three operations that reach SHA-256, as one type, with the frame each of
them hashes.

* `HashOp.feeds`: every operation feeds exactly its frame.
* `HashOp.preimage_injective`: a preimage determines the operation and all
  its inputs.
* `domain_separation`: where SHA-256 has no collision and no zero digest, an
  identifier does too.
-/
namespace Zrm.L2.Hash
open Zrm.BigEndian Zrm.Result Zrm.Reading Zrm.Frame Zrm.L1.Ids Zrm.L1.Scalar Zrm.L2.ResourceWire

/-- A hash operation of the protocol with its inputs. -/
inductive HashOp
  | suite
  | nullifier (machineId : MachineId) (domainId : DomainId) (resourceId : ResourceId)
  | resource (wire : ResourceWireV1)
  deriving DecidableEq

namespace HashOp

def domain : HashOp → List UInt8
  | suite => SHA256_SUITE_DOMAIN
  | nullifier .. => TRANSPARENT_NULLIFIER_V1_DOMAIN
  | resource _ => RESOURCE_V1_DOMAIN

def payload : HashOp → List UInt8
  | suite => []
  | nullifier m d r => m.asBytes.toList ++ (d.asBytes.toList ++ r.asBytes.toList)
  | resource w => resourcePayload w

/-- The framed bytes of an operation. -/
def preimage (op : HashOp) : List UInt8 := frame op.domain op.payload

/-- The host grants what the operation allocates. -/
def granted (alloc : Nat → Bool) : HashOp → Bool
  | resource w => alloc w.encodedLength
  | suite | nullifier .. => true

/-- The code's operation finishes a hasher that was fed `bytes`. -/
def Feeds (alloc : Nat → Bool) (op : HashOp) (bytes : List UInt8) : Prop :=
  match op with
  | suite => suiteHasher = .ok ⟨bytes⟩
  | nullifier m d r => nullifierHasher m d r = .ok ⟨bytes⟩
  | resource w => resourceHasher alloc w = .ok ⟨bytes⟩

/-- The bytes of the identifier the code's operation returns, if it does. -/
def identifier (sha256 : List UInt8 → Bytes 32) (alloc : Nat → Bool) : HashOp → Option (Bytes 32)
  | suite => (sha256ReferenceSuiteId sha256).toOption.map Opaque.asBytes
  | nullifier m d r => (deriveTransparentNullifierV1 sha256 m d r).toOption.map Opaque.asBytes
  | resource w => (w.resourceId sha256 alloc).toOption.map Opaque.asBytes

/-! ## Preimages -/

theorem suiteHasher_eq : suiteHasher = .ok ⟨preimage suite⟩ := by decide

theorem nullifierHasher_eq (m : MachineId) (d : DomainId) (r : ResourceId) :
    nullifierHasher m d r = .ok ⟨preimage (nullifier m d r)⟩ := by
  have hlength : (payload (nullifier m d r)).length = 96 := by
    simp only [payload, List.length_append, Bytes.length_toList, DIGEST_BYTES]
  have hprefix : (toBeBytes TRANSPARENT_NULLIFIER_PAYLOAD_BYTES).toList = toBe 4 96 := rfl
  unfold nullifierHasher startFramedHash
  rw [u16TryFrom_of_lt (by decide)]
  simp only [ok_bind, pure_eq, preimage, frame, lengthPrefixed, hlength]
  rw [Except.ok.injEq, Hasher.mk.injEq]
  simp only [Hasher.fed_update, Hasher.fed_new, List.nil_append, List.append_assoc, payload, domain,
    toBeBytes_u16 (n := TRANSPARENT_NULLIFIER_V1_DOMAIN.length) (by decide), hprefix]

theorem feeds {alloc : Nat → Bool} {op : HashOp} (hgranted : op.granted alloc = true) :
    op.Feeds alloc op.preimage := by
  cases op with
  | suite => exact suiteHasher_eq
  | nullifier m d r => exact nullifierHasher_eq m d r
  | resource w => exact (resourceHasher_eq alloc w).trans (if_pos hgranted)

theorem fits (op : HashOp) : Fits op.domain op.payload := by
  cases op with
  | suite => exact ⟨by decide, by decide⟩
  | nullifier m d r =>
    refine ⟨by show TRANSPARENT_NULLIFIER_V1_DOMAIN.length < 256 ^ 2; decide, ?_⟩
    simp only [payload, List.length_append, Bytes.length_toList]; decide
  | resource w => exact resourcePreimage_fits w

theorem nullifier_payload_inj {m m' : MachineId} {d d' : DomainId} {r r' : ResourceId}
    (h : payload (nullifier m d r) = payload (nullifier m' d' r')) :
    nullifier m d r = nullifier m' d' r' := by
  have hlength : ∀ a b : Bytes 32, a.toList.length = b.toList.length := fun a b => by
    rw [a.length_toList, b.length_toList]
  obtain ⟨hm, hrest⟩ := List.append_inj h (hlength _ _)
  obtain ⟨hd, hr⟩ := List.append_inj hrest (hlength _ _)
  rw [Opaque.ext (Bytes.ext hm), Opaque.ext (Bytes.ext hd), Opaque.ext (Bytes.ext hr)]

/-- The domains tell the operations apart, the payloads their inputs. -/
theorem preimage_injective : Function.Injective preimage := by
  intro op op' h
  obtain ⟨hdomain, hpayload⟩ := frame_inj (fits op) (fits op') h
  cases op <;> cases op'
  case suite.suite => rfl
  case nullifier.nullifier => exact nullifier_payload_inj hpayload
  case resource.resource w w' => rw [resourcePreimage_injective h]
  all_goals exact absurd hdomain (by simp only [domain]; decide)

/-! ## Identifiers -/

theorem tryFrom_mapError {name : OpaqueName} {ε : Type} {digest : Bytes 32} (f : ZeroValueError → ε)
    (h : allZero digest = false) :
    (((Opaque.tryFrom digest : Except _ (Opaque name)).mapError f).toOption.map Opaque.asBytes) =
      some digest := by
  cases hid : (Opaque.tryFrom digest : Except _ (Opaque name)) with
  | error e => rw [Opaque.tryFrom_eq_error.mp hid] at h; cases h
  | ok id => exact congrArg some (Opaque.tryFrom_eq_ok.mp hid)

/-- A nonzero digest is the identifier. -/
theorem identifier_eq {sha256 : List UInt8 → Bytes 32} {alloc : Nat → Bool} {op : HashOp}
    (hgranted : op.granted alloc = true) (h : allZero (sha256 op.preimage) = false) :
    op.identifier sha256 alloc = some (sha256 op.preimage) := by
  cases op with
  | suite =>
    simp only [identifier, sha256ReferenceSuiteId, suiteHasher_eq, ok_bind]
    exact tryFrom_mapError _ h
  | nullifier m d r =>
    simp only [identifier, deriveTransparentNullifierV1, nullifierHasher_eq, ok_bind]
    exact tryFrom_mapError _ h
  | resource w =>
    have halloc : alloc w.encodedLength = true := hgranted
    simp only [identifier, ResourceWireV1.resourceId, deriveResourceId_eq, halloc, if_true]
    exact tryFrom_mapError _ h

end HashOp

theorem mapError_tryFrom_ne {name : OpaqueName} {ε : Type} {digest : Bytes 32} {f : ZeroValueError → ε}
    {e : ε} (h : ∀ z, f z ≠ e) :
    (Opaque.tryFrom digest : Except _ (Opaque name)).mapError f ≠ .error e := by
  cases (Opaque.tryFrom digest : Except _ (Opaque name)) with
  | error z => exact fun heq => h z (Except.error.inj heq)
  | ok id => exact fun heq => nomatch heq

/-- **Domain separation.** Every operation hashes one frame with true lengths,
no length error can occur, and a preimage determines the operation and its
inputs. So on any set of operations on which SHA-256 is injective and never
zero, each operation returns an identifier and no two of them the same. -/
theorem domain_separation (sha256 : List UInt8 → Bytes 32) (alloc : Nat → Bool) :
    (∀ op : HashOp, (op.granted alloc = true → op.Feeds alloc op.preimage) ∧
      parseFrame op.preimage = some (op.domain, op.payload)) ∧
    (∀ w : ResourceWireV1,
      (alloc w.encodedLength = true → w.encode alloc = .ok (wireBytes w)) ∧
      (readPrefixed 4).run (HashOp.resource w).payload = .ok (wireBytes w, [])) ∧
    sha256ReferenceSuiteId sha256 ≠ .error .lengthOverflow ∧
    (∀ m d r, deriveTransparentNullifierV1 sha256 m d r ≠ .error .lengthOverflow) ∧
    (∀ w : ResourceWireV1, w.resourceId sha256 alloc ≠ .error .hashFrameLengthOverflow ∧
      w.resourceId sha256 alloc ≠ .error (.encode .lengthOverflow)) ∧
    Function.Injective HashOp.preimage ∧
    (∀ S : Set HashOp, (∀ op ∈ S, op.granted alloc = true) →
      Set.InjOn sha256 (HashOp.preimage '' S) →
      (∀ op ∈ S, allZero (sha256 op.preimage) = false) →
      (∀ op ∈ S, ∃ id, op.identifier sha256 alloc = some id) ∧
        Set.InjOn (HashOp.identifier sha256 alloc) S) := by
  refine ⟨fun op => ⟨HashOp.feeds, parseFrame_frame (HashOp.fits op)⟩, fun w => ⟨fun halloc => ?_, ?_⟩,
    ?_, ?_, ?_, HashOp.preimage_injective, fun S hgranted hinj hnonzero => ⟨fun op hop => ?_, ?_⟩⟩
  · exact (encode_eq alloc w).trans (if_pos halloc)
  · have hread := (readPrefixed_exact 4 (resourcePayload w ++ []) (wireBytes w) []).mpr
      ⟨wireBytes_length_lt w, rfl⟩
    rwa [List.append_nil] at hread
  · simp only [sha256ReferenceSuiteId, HashOp.suiteHasher_eq, ok_bind]
    exact mapError_tryFrom_ne nofun
  · intro m d r
    simp only [deriveTransparentNullifierV1, HashOp.nullifierHasher_eq, ok_bind]
    exact mapError_tryFrom_ne nofun
  · intro w
    rw [ResourceWireV1.resourceId, deriveResourceId_eq]
    split
    · exact ⟨mapError_tryFrom_ne nofun, mapError_tryFrom_ne nofun⟩
    · exact ⟨nofun, nofun⟩
  · exact ⟨_, HashOp.identifier_eq (hgranted op hop) (hnonzero op hop)⟩
  · intro op hop op' hop' heq
    rw [HashOp.identifier_eq (hgranted op hop) (hnonzero op hop),
      HashOp.identifier_eq (hgranted op' hop') (hnonzero op' hop'), Option.some.injEq] at heq
    exact HashOp.preimage_injective
      (hinj (Set.mem_image_of_mem _ hop) (Set.mem_image_of_mem _ hop') heq)

/-! ## The repository's test vectors (`vectors/resource_wire_v1.json`) -/

/-- `resource_id_absent_expiry` -/
def vectorAbsentId : ResourceId :=
  ⟨⟨⟨toBe 32 0x4194236e9f6bf4b27f2e06218aa69b8c4a58a2d69bfac5daeb7257402086e8c5, rfl⟩, by decide⟩⟩

/-- `resource_id_present_expiry` -/
def vectorPresentId : ResourceId :=
  ⟨⟨⟨toBe 32 0x83586e470f245999da4163f753410cf46606afe4fc3a15b2c20a6159d13f57b8, rfl⟩, by decide⟩⟩

/-- The operations of the vectors and their digests. -/
def vectorDigests : List (HashOp × Bytes 32) :=
  [(.suite, ⟨toBe 32 0x99f6dd0823f85ca70ed6d91bd00f50dc63fdb5dec3d9fc7212b9eff27e3b1391, rfl⟩),
    (.nullifier (.repeated 1) (.repeated 2) vectorAbsentId,
      ⟨toBe 32 0xa22a2e079372869e9d5e140b7f670b300e640f6a6b463c8093d2a81597fbbe66, rfl⟩),
    (.resource (vectorResource none), vectorAbsentId.asBytes),
    (.resource (vectorResource (some 0x1112131415161718)), vectorPresentId.asBytes)]

/-- SHA-256 on the preimages of the test vectors. -/
def vectorSha256 (bytes : List UInt8) : Bytes 32 :=
  match vectorDigests.find? fun entry => entry.1.preimage == bytes with
  | some entry => entry.2
  | none => .replicate 32 0xff

theorem vectorSha256_vectors :
    (∀ entry ∈ vectorDigests, ∀ entry' ∈ vectorDigests,
      vectorSha256 entry.1.preimage = vectorSha256 entry'.1.preimage →
        entry.1.preimage = entry'.1.preimage) ∧
    ∀ entry ∈ vectorDigests, allZero (vectorSha256 entry.1.preimage) = false := by
  decide +kernel

theorem domain_separation_vectors :
    (∀ entry ∈ vectorDigests, ∃ id, entry.1.identifier vectorSha256 (fun _ => true) = some id) ∧
    Set.InjOn (HashOp.identifier vectorSha256 fun _ => true) {op | ∃ entry ∈ vectorDigests, entry.1 = op} := by
  obtain ⟨-, -, -, -, -, -, hseparated⟩ := domain_separation vectorSha256 fun _ => true
  have hgranted : ∀ op ∈ {op | ∃ entry ∈ vectorDigests, entry.1 = op},
      op.granted (fun _ => true) = true := by
    intro op _
    cases op <;> rfl
  have hsha256 : Set.InjOn vectorSha256
      (HashOp.preimage '' {op | ∃ entry ∈ vectorDigests, entry.1 = op}) := by
    intro x hx y hy h
    obtain ⟨_, ⟨entry, hentry, rfl⟩, rfl⟩ := hx
    obtain ⟨_, ⟨entry', hentry', rfl⟩, rfl⟩ := hy
    exact vectorSha256_vectors.1 entry hentry entry' hentry' h
  obtain ⟨hsome, hinj⟩ := hseparated _ hgranted hsha256 (by
    intro op hop
    obtain ⟨entry, hentry, rfl⟩ := hop
    exact vectorSha256_vectors.2 entry hentry)
  exact ⟨fun entry hentry => hsome _ ⟨entry, hentry, rfl⟩, hinj⟩

end Zrm.L2.Hash
