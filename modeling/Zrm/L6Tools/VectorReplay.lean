import Mathlib.Data.Option.Basic
import Zrm.Core.Dict
import Zrm.Core.Loops
import Zrm.L2Crypto.DomainSeparation
import Zrm.L5Reference.CanonicalJson
import Zrm.L6Tools.Value

/-!
# The replay of the test vectors (`vectors/independent_python/replay_resource_wire_v1.py`)

A second encoder of one fixture, in Python: its numbers have any size, and `struct.pack`
raises where one does not fit. It shares no code with the crates. `main` computes the six
binary vectors and a manifest of their sizes and digests, and compares them with the files of
`vectors/`; `none` stands for a raised error.

What the script gets from outside are parameters: the files by their names below `vectors/`
(an absent file is `none`), `sha256`, and `json.loads` of the bytes of the manifest (`none`
for a `ValueError`). Nothing is assumed of the last. Of the hash, `replay_exact` assumes that
the crates derive an identifier for the first resource under it, since the script hashes that
identifier into the nullifier and the crates refuse the all-zero one.

Results:
* `encodeResource_eq_some`: the expiries that the script encodes, and their encodings.
* `python_encoder_agrees`: it encodes what the codec encodes, and frames what the crates frame.
* `manifest_crateArtifacts`: the manifest of the bytes of the crates.
* `replay_exact`: the committed vectors pass if and only if they are the bytes of the crates,
  and the decoded manifest is the one of these bytes.
-/
namespace Zrm.L2.VectorReplay

open Zrm.BigEndian Zrm.Result Zrm.Reading Zrm.Frame Zrm.L1.Ids Zrm.L1.Scalar Zrm.L2.ResourceWire Zrm.L2.Hash
open L5.CanonicalJson L6.Value

/-! mirrors vectors/independent_python/replay_resource_wire_v1.py:16-18 -/

def SUITE_DOMAIN : List UInt8 := ascii "zrm.crypto_suite.sha256.v1"
def RESOURCE_DOMAIN : List UInt8 := ascii "zrm.resource.v1"
def NULLIFIER_DOMAIN : List UInt8 := ascii "zrm.nullifier.transparent.v1"

/-- mirrors vectors/independent_python/replay_resource_wire_v1.py:21-24 -/
def framedHashPreimage (domain payload : List UInt8) : Option (List UInt8) := do
  let domainLength ← packBe 2 domain.length
  let payloadLength ← packBe 4 payload.length
  return domainLength ++ domain ++ payloadLength ++ payload

/-- mirrors vectors/independent_python/replay_resource_wire_v1.py:27-30 -/
def taggedField (tag : Int) (value : List UInt8) : Option (List UInt8) := do
  let tagBytes ← packBe 2 tag
  let lengthBytes ← packBe 4 value.length
  return tagBytes ++ lengthBytes ++ value

/-- `(tag, bytes([tag]) * 32)` -/
def digestField (tag : Nat) : Int × List UInt8 := (tag, List.replicate 32 (UInt8.ofNat tag))

/-- The value of the expiry field. -/
def expiryValue : Option Int → Option (List UInt8)
  | none => some [0]
  | some epoch => (packBe 8 epoch).map fun bytes => [1] ++ bytes

/-- mirrors vectors/independent_python/replay_resource_wire_v1.py:33-43 -/
def fixtureFields (expiryEpoch : Option Int) : Option (List (Int × List UInt8)) := do
  let expiry ← expiryValue expiryEpoch
  let flags ← packBe 4 0
  return (List.range' 1 8).map digestField ++ [(0x0009, [1, 2, 3, 4, 5, 6, 7, 8, 9, 10, 11, 12, 13, 14, 15, 16])] ++
    (List.range' 0x000A 6).map digestField ++
    [(0x0010, [1, 2, 3, 4, 5, 6, 7, 8]), (0x0011, expiry), (0x0012, flags)]

/-- mirrors vectors/independent_python/replay_resource_wire_v1.py:46-50 -/
def encodeResource (expiryEpoch : Option Int) : Option (List UInt8) := do
  let numbers ← [1, 1, 18].mapM (packBe 2)
  let header := ascii "ZRM1" ++ numbers.flatten
  let fields ← fixtureFields expiryEpoch
  let encoded ← fields.mapM fun field => taggedField field.1 field.2
  return header ++ encoded.flatten

/-- mirrors vectors/independent_python/replay_resource_wire_v1.py:53-57 -/
def resourceIdPreimage (wire : List UInt8) : Option (List UInt8) := do
  let length ← packBe 4 wire.length
  framedHashPreimage RESOURCE_DOMAIN (length ++ wire)

/-- mirrors vectors/independent_python/replay_resource_wire_v1.py:60-78 -/
def artifactBytes (sha256 : List UInt8 → Bytes 32) : Option (List (String × List UInt8)) := do
  let absent ← encodeResource none
  let present ← encodeResource (some 0x1112131415161718)
  let absentPreimage ← resourceIdPreimage absent
  let presentPreimage ← resourceIdPreimage present
  let suitePreimage ← framedHashPreimage SUITE_DOMAIN []
  let absentId := sha256 absentPreimage
  let nullifierPayload := List.replicate 32 1 ++ List.replicate 32 2 ++ absentId.toList
  let nullifierPreimage ← framedHashPreimage NULLIFIER_DOMAIN nullifierPayload
  return [("resource_wire_v1_absent.bin", absent), ("resource_wire_v1_present.bin", present),
    ("resource_wire_v1_absent_preimage.bin", absentPreimage),
    ("resource_wire_v1_present_preimage.bin", presentPreimage),
    ("sha256_reference_suite_id_preimage.bin", suitePreimage),
    ("transparent_nullifier_v1_preimage.bin", nullifierPreimage)]

/-- `hashlib.sha256(data).hexdigest()` -/
def hexdigest (sha256 : List UInt8 → Bytes 32) (data : List UInt8) : Json := .str (hexText (sha256 data))

/-- `{"bytes": len(data), "sha256": hashlib.sha256(data).hexdigest()}` -/
def artifactRecord (sha256 : List UInt8 → Bytes 32) (data : List UInt8) : Json :=
  .dict [("bytes", .int data.length), ("sha256", hexdigest sha256 data)]

/-- The members of the manifest around its digests. -/
def manifestWith (vectors artifacts : JsonDict) : Json :=
  .dict [("schema", .str "zrm/resource-wire-v1-vectors/v1"),
    ("specification_version", .str "0.1.0-draft.2"),
    ("generated_by", .str "vectors/independent_python/replay_resource_wire_v1.py"),
    ("vectors", .dict vectors),
    ("artifacts", .dict artifacts),
    ("non_claims", .list [
      .str "independent vector replay is not a proof of cryptographic or semantic correctness",
      .str "ResourceWireV1 vectors are syntactic and do not establish ResourceV1 validity"])]

/-- `{name: {...} for name, data in sorted(artifacts.items())}` -/
def artifactRecords (sha256 : List UInt8 → Bytes 32) (artifacts : List (String × List UInt8)) : JsonDict :=
  (artifacts.insertionSort fun a b => a.1 ≤ b.1).map fun artifact =>
    (artifact.1, artifactRecord sha256 artifact.2)

/-- mirrors vectors/independent_python/replay_resource_wire_v1.py:81-106 -/
def manifest (sha256 : List UInt8 → Bytes 32) (artifacts : List (String × List UInt8)) : Option Json := do
  let absentPreimage ← artifacts.lookup "resource_wire_v1_absent_preimage.bin"
  let presentPreimage ← artifacts.lookup "resource_wire_v1_present_preimage.bin"
  let suitePreimage ← artifacts.lookup "sha256_reference_suite_id_preimage.bin"
  let nullifierPreimage ← artifacts.lookup "transparent_nullifier_v1_preimage.bin"
  return manifestWith
    [("sha256_reference_suite_id", hexdigest sha256 suitePreimage),
      ("resource_id_absent_expiry", hexdigest sha256 absentPreimage),
      ("resource_id_present_expiry", hexdigest sha256 presentPreimage),
      ("transparent_nullifier_absent_expiry", hexdigest sha256 nullifierPreimage)]
    (artifactRecords sha256 artifacts)

def MANIFEST_NAME : String := "resource_wire_v1.json"

/-- The names that `check_vectors` reports, in the order of its loop; nothing where `json.loads`
raises.
mirrors vectors/independent_python/replay_resource_wire_v1.py:121-134 -/
def checkFailures (loads : List UInt8 → Option Json) (files : String → Option (List UInt8))
    (artifacts : List (String × List UInt8)) (expectedManifest : Json) : Option (List String) :=
  let failures := (artifacts.filter fun artifact => files artifact.1 ≠ some artifact.2).map Prod.fst
  match files MANIFEST_NAME with
  | none => some (failures ++ [MANIFEST_NAME])
  | some bytes => do
    let actualManifest ← loads bytes
    if actualManifest.equals expectedManifest then some failures
    else some (failures ++ [MANIFEST_NAME])

/-- `--check` returns 0.
mirrors vectors/independent_python/replay_resource_wire_v1.py:142-156 -/
def replay (sha256 : List UInt8 → Bytes 32) (loads : List UInt8 → Option Json)
    (files : String → Option (List UInt8)) : Option Bool := do
  let artifacts ← artifactBytes sha256
  let expectedManifest ← manifest sha256 artifacts
  let failures ← checkFailures loads files artifacts expectedManifest
  return failures.isEmpty

/-! ## Frames -/

/-- The domains of the crates. -/
theorem domains_eq : SUITE_DOMAIN = SHA256_SUITE_DOMAIN ∧ RESOURCE_DOMAIN = RESOURCE_V1_DOMAIN ∧
    NULLIFIER_DOMAIN = TRANSPARENT_NULLIFIER_V1_DOMAIN := ⟨rfl, rfl, rfl⟩

theorem framedHashPreimage_eq_some {domain payload bytes : List UInt8} :
    framedHashPreimage domain payload = some bytes ↔ Fits domain payload ∧ bytes = frame domain payload := by
  simp only [framedHashPreimage, Option.bind_eq_bind, Option.bind_eq_some_iff, packBe_eq_some, fitsBe_natCast,
    Option.pure_def, Option.some.injEq, Fits, frame, lengthPrefixed, Int.toNat_natCast, List.append_assoc]
  refine ⟨fun h => ?_, fun h => ?_⟩
  · obtain ⟨_, ⟨hdomain, rfl⟩, _, ⟨hpayload, rfl⟩, rfl⟩ := h
    exact ⟨⟨hdomain, hpayload⟩, rfl⟩
  · obtain ⟨⟨hdomain, hpayload⟩, rfl⟩ := h
    exact ⟨_, ⟨hdomain, rfl⟩, _, ⟨hpayload, rfl⟩, rfl⟩

theorem framedHashPreimage_of_fits {domain payload : List UInt8} (h : Fits domain payload) :
    framedHashPreimage domain payload = some (frame domain payload) :=
  framedHashPreimage_eq_some.mpr ⟨h, rfl⟩

theorem resourceIdPreimage_wireBytes (w : ResourceWireV1) :
    resourceIdPreimage (wireBytes w) = some (HashOp.preimage (.resource w)) := by
  have hlength : packBe 4 (wireBytes w).length = some (toBe 4 (wireBytes w).length) :=
    packBe_eq_some.mpr ⟨fitsBe_natCast.mpr (wireBytes_length_lt w), rfl⟩
  rw [resourceIdPreimage, hlength, domains_eq.2.1, Option.bind_eq_bind, Option.bind_some, ← lengthPrefixed,
    ← resourcePayload, framedHashPreimage_of_fits (resourcePreimage_fits w)]
  rfl

theorem framed_suite : framedHashPreimage SUITE_DOMAIN [] = some (HashOp.preimage .suite) := by
  rw [domains_eq.1]
  exact framedHashPreimage_of_fits (HashOp.fits .suite)

theorem framed_nullifier (m : MachineId) (d : DomainId) (r : ResourceId) :
    framedHashPreimage NULLIFIER_DOMAIN (m.asBytes.toList ++ d.asBytes.toList ++ r.asBytes.toList) =
      some (HashOp.preimage (.nullifier m d r)) := by
  rw [domains_eq.2.2, List.append_assoc]
  exact framedHashPreimage_of_fits (HashOp.fits (.nullifier m d r))

/-! ## The encoder -/

/-- A field that fits, as bytes. -/
def fieldBytes (field : Int × List UInt8) : List UInt8 :=
  toBe 2 field.1.toNat ++ toBe 4 field.2.length ++ field.2

theorem taggedField_eq_some (field : Int × List UInt8) (bytes : List UInt8) :
    taggedField field.1 field.2 = some bytes ↔
      (FitsBe 2 field.1 ∧ field.2.length < 256 ^ 4) ∧ bytes = fieldBytes field := by
  simp only [taggedField, Option.bind_eq_bind, Option.bind_eq_some_iff, packBe_eq_some, fitsBe_natCast,
    Option.pure_def, Option.some.injEq, Int.toNat_natCast]
  refine ⟨fun h => ?_, fun h => ?_⟩
  · obtain ⟨_, ⟨htag, rfl⟩, _, ⟨hlength, rfl⟩, rfl⟩ := h
    exact ⟨⟨htag, hlength⟩, rfl⟩
  · obtain ⟨⟨htag, hlength⟩, rfl⟩ := h
    exact ⟨_, ⟨htag, rfl⟩, _, ⟨hlength, rfl⟩, rfl⟩

theorem expiryValue_eq_some {expiry : Option Int} {bytes : List UInt8} : expiryValue expiry = some bytes ↔
    ∃ epoch : Option UInt64, expiry = epoch.map (fun e => (e.toNat : Int)) ∧ bytes = expiryBytes epoch := by
  cases expiry with
  | none =>
    refine ⟨fun h => ⟨none, rfl, (Option.some.inj h).symm⟩, fun h => ?_⟩
    obtain ⟨epoch, hepoch, rfl⟩ := h
    obtain rfl := Option.map_eq_none_iff.mp hepoch.symm
    rfl
  | some value =>
    simp only [expiryValue, Option.map_eq_some_iff, packBe_eq_some]
    refine ⟨fun h => ?_, fun h => ?_⟩
    · obtain ⟨_, ⟨hfits, rfl⟩, rfl⟩ := h
      refine ⟨some (UInt64.ofNat value.toNat), ?_, ?_⟩
      · rw [Option.map_some, UInt64.toNat_ofNat_of_lt' hfits.toNat_lt, Int.toNat_of_nonneg hfits.1]
      · show 1 :: toBe 8 _ = 1 :: toBe 8 (UInt64.toNat _)
        rw [UInt64.toNat_ofNat_of_lt' hfits.toNat_lt]
    · obtain ⟨epoch, hepoch, rfl⟩ := h
      obtain ⟨e, rfl, rfl⟩ := Option.map_eq_some_iff.mp hepoch.symm
      exact ⟨_, ⟨fitsBe_natCast.mpr e.toNat_lt, rfl⟩, rfl⟩

/-- The fields of the fixture around its expiry. -/
def fixtureWith (expiry : List UInt8) : List (Int × List UInt8) :=
  (List.range' 1 8).map digestField ++ [(0x0009, [1, 2, 3, 4, 5, 6, 7, 8, 9, 10, 11, 12, 13, 14, 15, 16])] ++
    (List.range' 0x000A 6).map digestField ++
    [(0x0010, [1, 2, 3, 4, 5, 6, 7, 8]), (0x0011, expiry), (0x0012, toBe 4 0)]

theorem fixtureFields_eq (expiry : Option Int) : fixtureFields expiry = (expiryValue expiry).map fixtureWith := by
  have hflags : packBe 4 0 = some (toBe 4 0) := packBe_eq_some.mpr ⟨by decide, rfl⟩
  cases h : expiryValue expiry <;> simp [fixtureFields, h, hflags, fixtureWith]

theorem fixtureWith_fits {expiry : List UInt8} (h : expiry.length < 256 ^ 4) :
    ∀ field ∈ fixtureWith expiry, FitsBe 2 field.1 ∧ field.2.length < 256 ^ 4 := by
  have hdigest : ∀ tag : Nat, tag < 16 → FitsBe 2 (digestField tag).1 ∧ (digestField tag).2.length < 256 ^ 4 := by
    intro tag htag
    refine ⟨fitsBe_natCast.mpr (by omega), ?_⟩
    rw [digestField, List.length_replicate]
    decide
  intro field hfield
  simp only [fixtureWith, List.mem_append, List.mem_map, List.mem_range'_1, List.mem_cons,
    List.not_mem_nil, or_false] at hfield
  rcases hfield with ((htags | rfl) | htags) | rfl | rfl | rfl
  · obtain ⟨tag, htag, rfl⟩ := htags
    exact hdigest tag (by omega)
  · exact ⟨by decide, by decide⟩
  · obtain ⟨tag, htag, rfl⟩ := htags
    exact hdigest tag (by omega)
  · exact ⟨by decide, by decide⟩
  · exact ⟨show FitsBe 2 0x0011 by decide, h⟩
  · exact ⟨by decide, by decide⟩

theorem expiryBytes_length_lt (epoch : Option UInt64) : (expiryBytes epoch).length < 256 ^ 4 := by
  rw [expiryBytes_length]
  split <;> decide

theorem fieldBytes_expiry (epoch : Option UInt64) :
    fieldBytes (0x0011, expiryBytes epoch) = expiryField epoch := by
  rw [expiryField, toBeBytes_u32 (expiryBytes_length_lt epoch)]
  exact List.append_assoc _ _ _

/-- The same fields in the same order. -/
theorem fixtureWith_bytes (epoch : Option UInt64) :
    (fixtureWith (expiryBytes epoch)).map fieldBytes = wireFields (vectorResource epoch) := by
  have hbefore : ((List.range' 1 8).map digestField ++
      [(0x0009, [1, 2, 3, 4, 5, 6, 7, 8, 9, 10, 11, 12, 13, 14, 15, 16])] ++
      (List.range' 0x000A 6).map digestField ++ [(0x0010, [1, 2, 3, 4, 5, 6, 7, 8])]).map fieldBytes =
      (wireFields (vectorResource none)).take 16 := by decide
  have hflags : fieldBytes (0x0012, toBe 4 0) = fixedField 0x0012 (toBeBytes (0 : UInt32)) := by decide
  have hfields : wireFields (vectorResource epoch) = (wireFields (vectorResource none)).take 16 ++
      [expiryField epoch, fixedField 0x0012 (toBeBytes (0 : UInt32))] := rfl
  rw [hfields, ← hbefore, ← fieldBytes_expiry, ← hflags]
  simp [fixtureWith]

theorem encodeResource_eq_some {expiry : Option Int} {bytes : List UInt8} : encodeResource expiry = some bytes ↔
    ∃ epoch : Option UInt64, expiry = epoch.map (fun e => (e.toNat : Int)) ∧
      bytes = wireBytes (vectorResource epoch) := by
  have hheader : [1, 1, 18].mapM (packBe 2) = some [toBe 2 1, toBe 2 1, toBe 2 18] := by decide
  have hmagic : ascii "ZRM1" ++ [toBe 2 1, toBe 2 1, toBe 2 18].flatten = wireHeader := by decide
  have hencoded : ∀ epoch : Option UInt64,
      (fixtureWith (expiryBytes epoch)).mapM (fun field => taggedField field.1 field.2) =
        some (wireFields (vectorResource epoch)) := fun epoch =>
    (mapM_eq_some taggedField_eq_some).mpr
      ⟨fixtureWith_fits (expiryBytes_length_lt epoch), (fixtureWith_bytes epoch).symm⟩
  simp only [encodeResource, hheader, Option.bind_eq_bind, Option.bind_some, hmagic, fixtureFields_eq,
    Option.bind_eq_some_iff, Option.map_eq_some_iff, expiryValue_eq_some, Option.pure_def, Option.some.injEq]
  refine ⟨fun h => ?_, fun h => ?_⟩
  · obtain ⟨_, ⟨_, ⟨epoch, rfl, rfl⟩, rfl⟩, _, hfields, rfl⟩ := h
    rw [hencoded, Option.some.injEq] at hfields
    exact ⟨epoch, rfl, by rw [wireBytes, hfields]⟩
  · obtain ⟨epoch, rfl, rfl⟩ := h
    exact ⟨_, ⟨_, ⟨epoch, rfl, rfl⟩, rfl⟩, _, hencoded epoch, rfl⟩

theorem encodeResource_of_epoch (epoch : Option UInt64) :
    encodeResource (epoch.map fun e => (e.toNat : Int)) = some (wireBytes (vectorResource epoch)) :=
  encodeResource_eq_some.mpr ⟨epoch, rfl, rfl⟩

/-- **Two encoders, one format.** For whatever expiry the script encodes something if and only
if the codec decodes it to the fixture with that expiry. What it frames is what the crates
frame, with the same lengths that do not fit. -/
theorem python_encoder_agrees :
    (∀ expiry bytes, encodeResource expiry = some bytes ↔
      ∃ epoch : Option UInt64, expiry = epoch.map (fun e => (e.toNat : Int)) ∧
        decodeResourceWireV1 bytes = .ok (vectorResource epoch)) ∧
    (∀ domain payload bytes, framedHashPreimage domain payload = some bytes ↔
      Fits domain payload ∧ bytes = frame domain payload) ∧
    (∀ w : ResourceWireV1, resourceIdPreimage (wireBytes w) = some (HashOp.preimage (.resource w))) ∧
    framedHashPreimage SUITE_DOMAIN [] = some (HashOp.preimage .suite) ∧
    ∀ (m : MachineId) (d : DomainId) (r : ResourceId),
      framedHashPreimage NULLIFIER_DOMAIN (m.asBytes.toList ++ d.asBytes.toList ++ r.asBytes.toList) =
        some (HashOp.preimage (.nullifier m d r)) := by
  refine ⟨fun expiry bytes => ?_, fun _ _ _ => framedHashPreimage_eq_some, resourceIdPreimage_wireBytes,
    framed_suite, framed_nullifier⟩
  simp only [encodeResource_eq_some, decode_eq_ok]

/-! ## The committed vectors -/

/-- What the crates compute for the vectors, where the first resource has the identifier. -/
def crateArtifacts (absentId : ResourceId) : List (String × List UInt8) :=
  [("resource_wire_v1_absent.bin", wireBytes (vectorResource none)),
    ("resource_wire_v1_present.bin", wireBytes (vectorResource (some 0x1112131415161718))),
    ("resource_wire_v1_absent_preimage.bin", HashOp.preimage (.resource (vectorResource none))),
    ("resource_wire_v1_present_preimage.bin",
      HashOp.preimage (.resource (vectorResource (some 0x1112131415161718)))),
    ("sha256_reference_suite_id_preimage.bin", HashOp.preimage .suite),
    ("transparent_nullifier_v1_preimage.bin",
      HashOp.preimage (.nullifier (.repeated 1) (.repeated 2) absentId))]

/-- The identifier that the crates derive is the digest. -/
theorem sha256_of_resourceId {sha256 : List UInt8 → Bytes 32} {alloc : Nat → Bool} {absentId : ResourceId}
    (h : (vectorResource none).resourceId sha256 alloc = .ok absentId) :
    sha256 (HashOp.preimage (.resource (vectorResource none))) = absentId.asBytes := by
  rw [ResourceWireV1.resourceId, deriveResourceId_eq] at h
  split at h
  · exact (Opaque.tryFrom_eq_ok.mp (mapError_eq_ok.mp h)).symm
  · cases h

theorem artifactBytes_eq {sha256 : List UInt8 → Bytes 32} {alloc : Nat → Bool} {absentId : ResourceId}
    (h : (vectorResource none).resourceId sha256 alloc = .ok absentId) :
    artifactBytes sha256 = some (crateArtifacts absentId) := by
  have habsent : encodeResource none = some (wireBytes (vectorResource none)) := encodeResource_of_epoch none
  have hepoch : (some (0x1112131415161718 : UInt64)).map (fun e => (e.toNat : Int)) = some 0x1112131415161718 := by
    decide
  have hpresent := encodeResource_of_epoch (some 0x1112131415161718)
  rw [hepoch] at hpresent
  have hnullifier : framedHashPreimage NULLIFIER_DOMAIN (List.replicate 32 1 ++ List.replicate 32 2 ++
      absentId.asBytes.toList) = some (HashOp.preimage (.nullifier (.repeated 1) (.repeated 2) absentId)) :=
    framed_nullifier (.repeated 1) (.repeated 2) absentId
  rw [artifactBytes, habsent, Option.bind_eq_bind, Option.bind_some, hpresent, Option.bind_some,
    resourceIdPreimage_wireBytes, Option.bind_some, resourceIdPreimage_wireBytes, Option.bind_some, framed_suite,
    Option.bind_some, sha256_of_resourceId h]
  dsimp only
  rw [hnullifier, Option.bind_some, Option.pure_def, crateArtifacts]

/-- The manifest of the bytes of the crates; the digest of the first resource is its identifier. -/
def crateManifest (sha256 : List UInt8 → Bytes 32) (absentId : ResourceId) : Json :=
  manifestWith
    [("sha256_reference_suite_id", hexdigest sha256 (HashOp.preimage .suite)),
      ("resource_id_absent_expiry", .str (hexText absentId.asBytes)),
      ("resource_id_present_expiry",
        hexdigest sha256 (HashOp.preimage (.resource (vectorResource (some 0x1112131415161718))))),
      ("transparent_nullifier_absent_expiry",
        hexdigest sha256 (HashOp.preimage (.nullifier (.repeated 1) (.repeated 2) absentId)))]
    (artifactRecords sha256 (crateArtifacts absentId))

theorem manifest_crateArtifacts {sha256 : List UInt8 → Bytes 32} {alloc : Nat → Bool} {absentId : ResourceId}
    (h : (vectorResource none).resourceId sha256 alloc = .ok absentId) :
    manifest sha256 (crateArtifacts absentId) = some (crateManifest sha256 absentId) := by
  rw [crateManifest, ← sha256_of_resourceId h]
  rfl

theorem checkFailures_eq_nil {loads : List UInt8 → Option Json} {files : String → Option (List UInt8)}
    {artifacts : List (String × List UInt8)} {expectedManifest : Json} :
    checkFailures loads files artifacts expectedManifest = some [] ↔
      (∀ artifact ∈ artifacts, files artifact.1 = some artifact.2) ∧
        ∃ bytes actual, files MANIFEST_NAME = some bytes ∧ loads bytes = some actual ∧
          actual.equals expectedManifest = true := by
  have hfailures : (artifacts.filter fun artifact => files artifact.1 ≠ some artifact.2).map Prod.fst = [] ↔
      ∀ artifact ∈ artifacts, files artifact.1 = some artifact.2 := by
    simp [List.filter_eq_nil_iff]
  rw [checkFailures, ← hfailures]
  cases files MANIFEST_NAME with
  | none => simp
  | some bytes =>
    cases hloads : loads bytes with
    | none => simp [hloads]
    | some actual =>
      cases hequal : actual.equals expectedManifest <;> simp [hloads, hequal]

/-- **The vectors pass if and only if they are the bytes of the crates.** The manifest passes
where it decodes to what equals the sizes and digests of these bytes. -/
theorem replay_exact {sha256 : List UInt8 → Bytes 32} {alloc : Nat → Bool} {absentId : ResourceId}
    (h : (vectorResource none).resourceId sha256 alloc = .ok absentId)
    (loads : List UInt8 → Option Json) (files : String → Option (List UInt8)) :
    replay sha256 loads files = some true ↔
      (∀ artifact ∈ crateArtifacts absentId, files artifact.1 = some artifact.2) ∧
        ∃ bytes actual, files MANIFEST_NAME = some bytes ∧ loads bytes = some actual ∧
          actual.equals (crateManifest sha256 absentId) = true := by
  rw [← checkFailures_eq_nil, replay, artifactBytes_eq h]
  simp only [Option.bind_eq_bind, Option.bind_some, manifest_crateArtifacts h]
  cases checkFailures loads files (crateArtifacts absentId) (crateManifest sha256 absentId) with
  | none => simp
  | some failures => simp [List.isEmpty_iff]

/-- An entry of the committed manifest: name, size and digest. -/
abbrev CommittedArtifact := String × Nat × String

def committedArtifacts : List CommittedArtifact :=
  [("resource_wire_v1_absent.bin", 595, "b5f39396f1db7198204f7a18c76a67c79a690b592293422cb33552f767c0b870"),
    ("resource_wire_v1_absent_preimage.bin", 620,
      "4194236e9f6bf4b27f2e06218aa69b8c4a58a2d69bfac5daeb7257402086e8c5"),
    ("resource_wire_v1_present.bin", 603,
      "393c56820a615783a099255bf5f190c7c523958ff59b52993eaf3a0a7ce4d134"),
    ("resource_wire_v1_present_preimage.bin", 628,
      "83586e470f245999da4163f753410cf46606afe4fc3a15b2c20a6159d13f57b8"),
    ("sha256_reference_suite_id_preimage.bin", 32,
      "99f6dd0823f85ca70ed6d91bd00f50dc63fdb5dec3d9fc7212b9eff27e3b1391"),
    ("transparent_nullifier_v1_preimage.bin", 130,
      "a22a2e079372869e9d5e140b7f670b300e640f6a6b463c8093d2a81597fbbe66")]

def committedVectors : List (String × String) :=
  [("resource_id_absent_expiry", "4194236e9f6bf4b27f2e06218aa69b8c4a58a2d69bfac5daeb7257402086e8c5"),
    ("resource_id_present_expiry", "83586e470f245999da4163f753410cf46606afe4fc3a15b2c20a6159d13f57b8"),
    ("sha256_reference_suite_id", "99f6dd0823f85ca70ed6d91bd00f50dc63fdb5dec3d9fc7212b9eff27e3b1391"),
    ("transparent_nullifier_absent_expiry",
      "a22a2e079372869e9d5e140b7f670b300e640f6a6b463c8093d2a81597fbbe66")]

/-- `vectors/resource_wire_v1.json`, decoded; its keys are sorted. -/
def committedManifest : Json :=
  .dict [("artifacts", .dict (committedArtifacts.map fun artifact =>
      (artifact.1, .dict [("bytes", .int artifact.2.1), ("sha256", .str artifact.2.2)]))),
    ("generated_by", .str "vectors/independent_python/replay_resource_wire_v1.py"),
    ("non_claims", .list [
      .str "independent vector replay is not a proof of cryptographic or semantic correctness",
      .str "ResourceWireV1 vectors are syntactic and do not establish ResourceV1 validity"]),
    ("schema", .str "zrm/resource-wire-v1-vectors/v1"),
    ("specification_version", .str "0.1.0-draft.2"),
    ("vectors", .dict (committedVectors.map fun vector => (vector.1, .str vector.2)))]

/-- The text of `vectors/resource_wire_v1.json`. -/
def committedText : String :=
  "\x7b\n  \"artifacts\": \x7b\n" ++
  ",\n".intercalate (committedArtifacts.map fun artifact =>
    "    \"" ++ artifact.1 ++ "\": \x7b\n      \"bytes\": " ++ toString artifact.2.1 ++
    ",\n      \"sha256\": \"" ++ artifact.2.2 ++ "\"\n    \x7d") ++
  "\n  \x7d,\n  \"generated_by\": \"vectors/independent_python/replay_resource_wire_v1.py\",\n" ++
  "  \"non_claims\": [\n" ++
  "    \"independent vector replay is not a proof of cryptographic or semantic correctness\",\n" ++
  "    \"ResourceWireV1 vectors are syntactic and do not establish ResourceV1 validity\"\n  ],\n" ++
  "  \"schema\": \"zrm/resource-wire-v1-vectors/v1\",\n" ++
  "  \"specification_version\": \"0.1.0-draft.2\",\n  \"vectors\": \x7b\n" ++
  ",\n".intercalate (committedVectors.map fun vector =>
    "    \"" ++ vector.1 ++ "\": \"" ++ vector.2 ++ "\"") ++
  "\n  \x7d\n\x7d\n"

/-- SHA-256 on the two encodings and on the preimages of the test vectors. -/
def replaySha256 (bytes : List UInt8) : Bytes 32 :=
  if bytes = wireBytes (vectorResource none) then
    ⟨toBe 32 0xb5f39396f1db7198204f7a18c76a67c79a690b592293422cb33552f767c0b870, rfl⟩
  else if bytes = wireBytes (vectorResource (some 0x1112131415161718)) then
    ⟨toBe 32 0x393c56820a615783a099255bf5f190c7c523958ff59b52993eaf3a0a7ce4d134, rfl⟩
  else vectorSha256 bytes

theorem vectorAbsentId_derived :
    (vectorResource none).resourceId replaySha256 (fun _ => true) = .ok vectorAbsentId := by
  decide +kernel

/-- `json.loads` of the committed manifest -/
def committedLoads (bytes : List UInt8) : Option Json :=
  if bytes = committedText.toUTF8.toList then some committedManifest else none

/-- The files below `vectors/`. -/
def committedFiles (name : String) : Option (List UInt8) :=
  if name = MANIFEST_NAME then some committedText.toUTF8.toList
  else (crateArtifacts vectorAbsentId).lookup name

/-- The members of the committed manifest stand in another order than those of the script. -/
theorem committedManifest_equals :
    committedManifest.equals (crateManifest replaySha256 vectorAbsentId) = true := by
  decide +kernel

theorem replay_exact_vectors : replay replaySha256 committedLoads committedFiles = some true := by
  have hnames : ((crateArtifacts vectorAbsentId).map Prod.fst).Nodup := by decide
  have hmanifest : MANIFEST_NAME ∉ (crateArtifacts vectorAbsentId).map Prod.fst := by decide
  have hothers : ∀ artifact ∈ crateArtifacts vectorAbsentId, artifact.1 ≠ MANIFEST_NAME :=
    fun artifact hartifact hname => hmanifest (hname ▸ List.mem_map_of_mem hartifact)
  refine (replay_exact vectorAbsentId_derived _ _).mpr ⟨fun artifact hartifact => ?_,
    _, _, if_pos rfl, if_pos rfl, committedManifest_equals⟩
  rw [committedFiles, if_neg (hothers artifact hartifact)]
  exact (Dict.lookup_eq_some_iff hnames).mpr hartifact

end Zrm.L2.VectorReplay
