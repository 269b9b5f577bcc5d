import Mathlib.Data.Option.Basic
import Zrm.Core.Loops
import Zrm.L7Fuzz.ResourceRoles

/-!
# The corpus of the resource-role target (`fuzz/generate_corpus.py`)

The generator is Python and writes integers of any size, where `struct.pack` and `to_bytes`
raise on what does not fit (`none`); the target is Rust and reads machine integers and ids.
Both sides are compared with one description of the bytes, `inputBytes`: six numbers of two
bytes, then the ids of the three lists.

`reserve` answers the target's three allocations, as in `ResourceRoles.lean`. An input that the
target takes is one within its ceilings, with strict limits but for those of the roles
(`Takes`).

Results:
* `parseInput_ok`, `parseInput_inputBytes`: the target reads an input from its bytes only.
* `resourceRolesSeed_eq_some`, `resourceRolesSeed_inj`: the seeds of the generator, and that
  one seed has one list of arguments.
* `roles_seed_exact`: what the target reads is what the generator writes, in both directions.
-/
namespace Zrm.L7.RolesCorpus

open Zrm.BigEndian Zrm.Result L1.Ids L1.Scalar L3.Limits L4.Roles Harness ResourceRoles

/-! ## The generator -/

/-- The arguments of `resource_roles_seed`. -/
structure RolesSeed where
  limits : Int × Int × Int
  consumed : List Int
  referenced : List Int
  created : List Int

/-- mirrors fuzz/generate_corpus.py:31-34; an integer that does not fit is an `OverflowError`. -/
def resourceId (value : Int) : Option (List UInt8) := packBe 32 value

/-- mirrors fuzz/generate_corpus.py:37-54; a number that does not fit is a `struct.error`. -/
def resourceRolesSeed (args : RolesSeed) : Option (List UInt8) := do
  let header ← [args.limits.1, args.limits.2.1, args.limits.2.2, (args.consumed.length : Int),
    (args.referenced.length : Int), (args.created.length : Int)].mapM (packBe 2)
  let values := args.consumed ++ args.referenced ++ args.created
  let identifiers ← values.mapM resourceId
  return header.flatten ++ identifiers.flatten

/-! ## What an input spells -/

/-- The integer of an id. -/
def idValue (id : ResourceId) : Int := ofBe id.asBytes.toList

/-- The arguments that spell an input. -/
def spelled (input : ResourceRolesFuzzInput) : RolesSeed where
  limits := (input.limits.maxConsumedResources.toNat, input.limits.maxReferencedResources.toNat,
    input.limits.maxCreatedResources.toNat)
  consumed := input.consumed.map idValue
  referenced := input.referenced.map idValue
  created := input.created.map idValue

/-- The inputs that the target takes: strict limits but for the three of the roles. -/
structure Takes (reserve : ResourceRoleV1 → Nat → Bool) (input : ResourceRolesFuzzInput) : Prop where
  strict : input.limits.asCandidate = { PolicyLimitsV1.strictDefault.asCandidate with
    maxConsumedResources := input.limits.maxConsumedResources
    maxReferencedResources := input.limits.maxReferencedResources
    maxCreatedResources := input.limits.maxCreatedResources }
  bounded : ∀ role, (input.candidate.list role).length ≤ MAX_ROLE_INPUTS
  reserved : ∀ role, reserve role (input.candidate.list role).length = true

/-- The bytes of a list of ids. -/
def idBytes (ids : List ResourceId) : List UInt8 := ids.flatMap fun id => id.asBytes.toList

/-- The bytes of the header. -/
def headerBytes (numbers : List UInt16) : List UInt8 := numbers.flatMap fun x => (toBeBytes x).toList

/-! ## Reading ids -/

theorem chunksExact_nil (size : Nat) : chunksExact size [] = [] := by
  rw [chunksExact, List.length_nil, Nat.zero_div]
  rfl

theorem chunksExact_append {size : Nat} {chunk bytes : List UInt8} (hsize : 0 < size)
    (hchunk : chunk.length = size) :
    chunksExact size (chunk ++ bytes) = chunk :: chunksExact size bytes := by
  have hcount : (chunk ++ bytes).length / size = bytes.length / size + 1 := by
    rw [List.length_append, hchunk, Nat.add_comm, Nat.add_div_right _ hsize]
  rw [chunksExact, hcount, List.range_succ_eq_map, List.map_cons, List.map_map, Nat.zero_mul,
    List.drop_zero, List.take_left' hchunk, chunksExact]
  congr 1
  refine List.map_congr_left fun i _ => ?_
  have hoffset : (i + 1) * size = size + i * size := by rw [Nat.succ_mul, Nat.add_comm]
  show ((chunk ++ bytes).drop ((i + 1) * size)).take size = _
  rw [hoffset, ← List.drop_drop, List.drop_left' hchunk]

/-- One chunk read as an id. -/
def readId (chunk : List UInt8) : Option ResourceId := do
  let candidate ← arrayOf 32 chunk
  opaqueOf candidate

theorem readId_eq_some {chunk : List UInt8} {id : ResourceId} :
    readId chunk = some id ↔ chunk = id.asBytes.toList := by
  unfold readId arrayOf
  by_cases hlength : chunk.length = 32
  · rw [dif_pos hlength]
    show opaqueOf _ = _ ↔ _
    rw [opaqueOf, toOption_eq_some, Opaque.tryFrom_eq_ok, Bytes.ext_iff, eq_comm]
  · rw [dif_neg hlength]
    refine iff_of_false (Option.some_ne_none id).symm fun h => ?_
    exact hlength (by rw [h, Bytes.length_toList])

theorem readIds_eq_some {count : Nat} {bytes : List UInt8} {ids : List ResourceId}
    (hbytes : bytes.length = count * 32) :
    (chunksExact 32 bytes).mapM readId = some ids ↔ ids.length = count ∧ bytes = idBytes ids := by
  induction count generalizing bytes ids with
  | zero =>
    obtain rfl : bytes = [] := List.length_eq_zero_iff.mp (by omega)
    rw [chunksExact_nil, List.mapM_nil]
    cases ids with
    | nil => simp [idBytes]
    | cons id ids => simp
  | succ count ih =>
    have hchunk : (bytes.take 32).length = 32 := by rw [List.length_take]; omega
    have hrest : (bytes.drop 32).length = count * 32 := by rw [List.length_drop]; omega
    rw [← List.take_append_drop 32 bytes, chunksExact_append (by decide) hchunk, List.mapM_cons]
    simp only [Option.bind_eq_bind, Option.bind_eq_some_iff, readId_eq_some, ih hrest, Option.pure_def,
      Option.some.injEq]
    cases ids with
    | nil => simp
    | cons first later =>
      refine ⟨fun h => ?_, fun h => ?_⟩
      · obtain ⟨id, hid, ids', ⟨hlength, hids⟩, heq⟩ := h
        obtain ⟨rfl, rfl⟩ := List.cons.inj heq
        exact ⟨by rw [List.length_cons, hlength], by rw [hid, hids]; rfl⟩
      · obtain ⟨hlength, hbytes'⟩ := h
        have hsplit : bytes.take 32 ++ bytes.drop 32 = first.asBytes.toList ++ idBytes later := hbytes'
        obtain ⟨hid, hids⟩ := List.append_inj hsplit (by rw [hchunk, Bytes.length_toList])
        exact ⟨first, hid, later, ⟨Nat.succ.inj hlength, hids⟩, rfl⟩

@[simp] theorem idBytes_length (ids : List ResourceId) : (idBytes ids).length = ids.length * 32 := by
  induction ids with
  | nil => rfl
  | cons id ids ih =>
    show (id.asBytes.toList ++ idBytes ids).length = _
    rw [List.length_append, ih, Bytes.length_toList, List.length_cons, Nat.succ_mul, Nat.add_comm]

theorem parseIds_eq_some {reserve : Nat → Bool} {remaining rest : List UInt8} {count : Nat}
    {ids : List ResourceId} : parseIds reserve remaining count = some (ids, rest) ↔
      reserve count = true ∧ ids.length = count ∧ remaining = idBytes ids ++ rest := by
  have hrun : parseIds reserve remaining count = (do
      let taken ← takePrefix remaining (count * 32)
      guard (reserve count)
      let identifiers ← (chunksExact 32 taken.1).mapM readId
      return (identifiers, taken.2)) := rfl
  rw [hrun, takePrefix]
  by_cases hle : count * 32 ≤ remaining.length
  · have htaken : (remaining.take (count * 32)).length = count * 32 := List.length_take_of_le hle
    rw [if_pos hle]
    simp only [Option.bind_eq_bind, Option.bind_some, Option.bind_eq_some_iff, Option.guard_eq_some',
      readIds_eq_some htaken, Option.pure_def, Option.some.injEq, Prod.mk.injEq]
    refine ⟨fun h => ?_, fun h => ?_⟩
    · obtain ⟨-, hreserve, _, ⟨hlength, hids⟩, rfl, rfl⟩ := h
      exact ⟨hreserve, hlength, by rw [← hids, List.take_append_drop]⟩
    · obtain ⟨hreserve, hlength, rfl⟩ := h
      have hbytes : (idBytes ids).length = count * 32 := by rw [idBytes_length, hlength]
      exact ⟨(), hreserve, ids, ⟨hlength, List.take_left' hbytes⟩, rfl, List.drop_left' hbytes⟩
  · rw [if_neg hle]
    refine iff_of_false (Option.some_ne_none _).symm fun h => ?_
    obtain ⟨-, hlength, rfl⟩ := h
    rw [List.length_append, idBytes_length, hlength] at hle
    omega

/-! ## Reading an input -/

/-- The six numbers in front of the ids. -/
def headerNumbers (input : ResourceRolesFuzzInput) : List UInt16 :=
  [input.limits.maxConsumedResources, input.limits.maxReferencedResources,
    input.limits.maxCreatedResources, UInt16.ofNat input.consumed.length,
    UInt16.ofNat input.referenced.length, UInt16.ofNat input.created.length]

/-- The bytes of an input. -/
def inputBytes (input : ResourceRolesFuzzInput) : List UInt8 :=
  headerBytes (headerNumbers input) ++
    (idBytes input.consumed ++ (idBytes input.referenced ++ idBytes input.created))

theorem readU16_eq_some {data : List UInt8} {offset : Nat} {x : UInt16} : readU16 data offset = some x ↔
    data.drop offset = (toBeBytes x).toList ++ data.drop (offset + 2) :=
  readInt_iff_drop (by decide)

theorem parseInput_ok {reserve : ResourceRoleV1 → Nat → Bool} {data : List UInt8} {input : ResourceRolesFuzzInput}
    (h : parseInput reserve data = some input) : Takes reserve input ∧ data = inputBytes input := by
  simp only [parseInput, Option.bind_eq_bind, Option.bind_eq_some_iff, Option.guard_eq_some',
    readU16_eq_some, toOption_eq_some, PolicyLimitsV1.tryFrom_eq_ok] at h
  obtain ⟨a, ha, b, hb, c, hc, d, hd, e, he, f, hf, -, hcounts, -, -, limits, hlimits, ⟨consumed, afterC⟩,
    hconsumed, ⟨referenced, afterR⟩, hreferenced, ⟨created, rest⟩, hcreated, -, hrest, hinput⟩ := h
  obtain rfl := Option.some.inj hinput
  dsimp only at hreferenced hcreated hrest ⊢
  subst hrest
  obtain ⟨hreserveC, hlengthC, hbytesC⟩ := parseIds_eq_some.mp hconsumed
  obtain ⟨hreserveR, hlengthR, hbytesR⟩ := parseIds_eq_some.mp hreferenced
  obtain ⟨hreserveO, hlengthO, hbytesO⟩ := parseIds_eq_some.mp hcreated
  obtain rfl : limits.maxConsumedResources = a := congrArg PolicyLimitsCandidateV1.maxConsumedResources hlimits
  obtain rfl : limits.maxReferencedResources = b := congrArg PolicyLimitsCandidateV1.maxReferencedResources hlimits
  obtain rfl : limits.maxCreatedResources = c := congrArg PolicyLimitsCandidateV1.maxCreatedResources hlimits
  simp only [List.all_cons, List.all_nil, Bool.and_eq_true, decide_eq_true_eq, and_true,
    ← hlengthC, ← hlengthR, ← hlengthO] at hcounts
  refine ⟨⟨hlimits, fun role => ?_, fun role => ?_⟩, ?_⟩
  · cases role
    · exact hcounts.1
    · exact hcounts.2.1
    · exact hcounts.2.2
  · cases role
    · exact hlengthC ▸ hreserveC
    · exact hlengthR ▸ hreserveR
    · exact hlengthO ▸ hreserveO
  · have hheader : headerNumbers ⟨limits, consumed, referenced, created⟩ =
        [limits.maxConsumedResources, limits.maxReferencedResources, limits.maxCreatedResources, d, e, f] := by
      rw [headerNumbers, hlengthC, hlengthR, hlengthO, UInt16.ofNat_toNat, UInt16.ofNat_toNat,
        UInt16.ofNat_toNat]
    have hids : data.drop 12 = idBytes consumed ++ (idBytes referenced ++ idBytes created) := by
      rw [← List.append_nil (idBytes created), ← hbytesO, ← hbytesR]
      exact hbytesC
    rw [hb, hc, hd, he, hf] at ha
    rw [inputBytes, hheader, ← hids]
    refine ha.trans ?_
    simp only [headerBytes, List.flatMap_cons, List.flatMap_nil, List.append_nil, List.append_assoc,
      Nat.reduceAdd]

@[simp] theorem headerBytes_length (numbers : List UInt16) : (headerBytes numbers).length = 2 * numbers.length := by
  induction numbers with
  | nil => rfl
  | cons x numbers ih =>
    show ((toBeBytes x).toList ++ headerBytes numbers).length = _
    rw [List.length_append, ih, Bytes.length_toList, List.length_cons]
    omega

theorem headerBytes_append (before after : List UInt16) :
    headerBytes (before ++ after) = headerBytes before ++ headerBytes after := List.flatMap_append

/-- Each number of a header is read at its place. -/
theorem readU16_headerBytes (before after : List UInt16) (x : UInt16) (rest : List UInt8) :
    readU16 (headerBytes (before ++ x :: after) ++ rest) (2 * before.length) = some x := by
  have hsplit : headerBytes (before ++ x :: after) ++ rest =
      headerBytes before ++ ((toBeBytes x).toList ++ (headerBytes after ++ rest)) := by
    rw [headerBytes_append, List.append_assoc]
    show _ ++ (((toBeBytes x).toList ++ headerBytes after) ++ rest) = _
    rw [List.append_assoc]
  have hbefore := headerBytes_length before
  rw [readU16_eq_some, ← List.drop_drop, hsplit, List.drop_left' hbefore, List.drop_left' (Bytes.length_toList _)]

theorem readU16_inputBytes {input : ResourceRolesFuzzInput} {k : Nat} {x : UInt16}
    (h : (headerNumbers input)[k]? = some x) : readU16 (inputBytes input) (2 * k) = some x := by
  obtain ⟨hlt, hx⟩ := List.getElem?_eq_some_iff.mp h
  have hsplit : headerNumbers input = (headerNumbers input).take k ++ x :: (headerNumbers input).drop (k + 1) := by
    rw [← hx, List.cons_getElem_drop_succ, List.take_append_drop]
  have hlength : ((headerNumbers input).take k).length = k := List.length_take_of_le hlt.le
  have hread := readU16_headerBytes ((headerNumbers input).take k) ((headerNumbers input).drop (k + 1)) x
    (idBytes input.consumed ++ (idBytes input.referenced ++ idBytes input.created))
  rwa [hlength, ← hsplit] at hread

theorem toNat_count {reserve : ResourceRoleV1 → Nat → Bool} {input : ResourceRolesFuzzInput} (h : Takes reserve input)
    (role : ResourceRoleV1) : (UInt16.ofNat (input.candidate.list role).length).toNat =
      (input.candidate.list role).length :=
  toNat_u16 (Nat.lt_of_le_of_lt (h.bounded role) (by decide))

theorem parseInput_inputBytes {reserve : ResourceRoleV1 → Nat → Bool} {input : ResourceRolesFuzzInput} (h : Takes reserve input) :
    parseInput reserve (inputBytes input) = some input := by
  have hcounts : ([input.consumed.length, input.referenced.length, input.created.length].all
      fun count => decide (count ≤ MAX_ROLE_INPUTS)) = true := by
    have hC := h.bounded .consumed
    have hR := h.bounded .referenced
    have hO := h.bounded .created
    simpa using ⟨hC, hR, hO⟩
  have hC : (UInt16.ofNat input.consumed.length).toNat = input.consumed.length := toNat_count h .consumed
  have hR : (UInt16.ofNat input.referenced.length).toNat = input.referenced.length := toNat_count h .referenced
  have hO : (UInt16.ofNat input.created.length).toNat = input.created.length := toNat_count h .created
  have hids : (inputBytes input).drop HEADER_BYTES =
      idBytes input.consumed ++ (idBytes input.referenced ++ (idBytes input.created ++ [])) := by
    have hheader : (headerBytes (headerNumbers input)).length = HEADER_BYTES := headerBytes_length _
    rw [inputBytes, List.drop_left' hheader, List.append_nil]
  have hlength : (inputBytes input).length = HEADER_BYTES +
      [input.consumed.length, input.referenced.length, input.created.length].sum * RESOURCE_ID_BYTES := by
    simp only [inputBytes, List.length_append, headerBytes_length, idBytes_length, headerNumbers,
      List.length_cons, List.length_nil, List.sum_cons, List.sum_nil, HEADER_BYTES, RESOURCE_ID_BYTES]
    omega
  have hlimits := PolicyLimitsV1.tryFrom_eq_ok.mpr h.strict
  have hconsumed : ∀ rest, parseIds (reserve .consumed) (idBytes input.consumed ++ rest) input.consumed.length =
      some (input.consumed, rest) := fun _ => parseIds_eq_some.mpr ⟨h.reserved .consumed, rfl, rfl⟩
  have hreferenced : ∀ rest, parseIds (reserve .referenced) (idBytes input.referenced ++ rest) input.referenced.length =
      some (input.referenced, rest) := fun _ => parseIds_eq_some.mpr ⟨h.reserved .referenced, rfl, rfl⟩
  have hcreated : ∀ rest, parseIds (reserve .created) (idBytes input.created ++ rest) input.created.length =
      some (input.created, rest) := fun _ => parseIds_eq_some.mpr ⟨h.reserved .created, rfl, rfl⟩
  rw [parseInput, show readU16 _ 0 = _ from @readU16_inputBytes input 0 _ rfl,
    show readU16 _ 2 = _ from @readU16_inputBytes input 1 _ rfl,
    show readU16 _ 4 = _ from @readU16_inputBytes input 2 _ rfl,
    show readU16 _ 6 = _ from @readU16_inputBytes input 3 _ rfl,
    show readU16 _ 8 = _ from @readU16_inputBytes input 4 _ rfl,
    show readU16 _ 10 = _ from @readU16_inputBytes input 5 _ rfl, hids]
  simp only [Option.bind_eq_bind, Option.bind_some, Option.pure_def, hC, hR, hO, hcounts, hlength, guard_true,
    hlimits, Except.toOption, hconsumed, hreferenced, hcreated]

/-! ## The generator writes an input -/

/-- The six numbers that the generator packs. -/
def RolesSeed.header (args : RolesSeed) : List Int :=
  [args.limits.1, args.limits.2.1, args.limits.2.2, args.consumed.length, args.referenced.length,
    args.created.length]

/-- The ids behind them. -/
def RolesSeed.values (args : RolesSeed) : List Int := args.consumed ++ args.referenced ++ args.created

theorem resourceRolesSeed_eq_some {args : RolesSeed} {data : List UInt8} :
    resourceRolesSeed args = some data ↔ (∀ number ∈ args.header, FitsBe 2 number) ∧
      (∀ value ∈ args.values, FitsBe 32 value) ∧ data = packed 2 args.header ++ packed 32 args.values := by
  have hheader := @mapM_eq_some _ _ (packBe 2) (FitsBe 2) (fun number => toBe 2 number.toNat)
    fun _ _ => packBe_eq_some
  have hvalues := @mapM_eq_some _ _ resourceId (FitsBe 32) (fun value => toBe 32 value.toNat)
    fun _ _ => packBe_eq_some
  have hrun : resourceRolesSeed args = (do
      let header ← args.header.mapM (packBe 2)
      let identifiers ← args.values.mapM resourceId
      return header.flatten ++ identifiers.flatten) := rfl
  simp only [hrun, Option.bind_eq_bind, Option.bind_eq_some_iff, hheader, hvalues, Option.pure_def,
    Option.some.injEq, packed, List.flatMap]
  refine ⟨fun h => ?_, fun h => ?_⟩
  · obtain ⟨_, ⟨hnumbers, rfl⟩, _, ⟨hids, rfl⟩, rfl⟩ := h
    exact ⟨hnumbers, hids, rfl⟩
  · obtain ⟨hnumbers, hids, rfl⟩ := h
    exact ⟨_, ⟨hnumbers, rfl⟩, _, ⟨hids, rfl⟩, rfl⟩

/-- An argument list has at most one seed, and a seed comes from one argument list. -/
theorem resourceRolesSeed_inj {args args' : RolesSeed} {data : List UInt8}
    (h : resourceRolesSeed args = some data) (h' : resourceRolesSeed args' = some data) : args = args' := by
  obtain ⟨hnumbers, hvalues, hdata⟩ := resourceRolesSeed_eq_some.mp h
  obtain ⟨hnumbers', hvalues', hdata'⟩ := resourceRolesSeed_eq_some.mp h'
  obtain ⟨hheader, hrest⟩ := @packed_inj 2 args.header args'.header _ _ rfl hnumbers hnumbers'
    (hdata.symm.trans hdata')
  simp only [RolesSeed.header, List.cons.injEq, Int.ofNat_inj, and_true] at hheader
  obtain ⟨hlimit, hlimit', hlimit'', hconsumed, hreferenced, hcreated⟩ := hheader
  have hcount : args.values.length = args'.values.length := by
    simp only [RolesSeed.values, List.length_append, hconsumed, hreferenced, hcreated]
  obtain ⟨hids, -⟩ := @packed_inj 32 args.values args'.values [] [] hcount hvalues hvalues'
    (by rw [List.append_nil, List.append_nil, hrest])
  obtain ⟨hleft, hcreatedIds⟩ := List.append_inj hids (by
    rw [List.length_append, List.length_append, hconsumed, hreferenced])
  obtain ⟨hconsumedIds, hreferencedIds⟩ := List.append_inj hleft hconsumed
  cases args
  cases args'
  simp only [RolesSeed.mk.injEq, Prod.ext_iff]
  exact ⟨⟨hlimit, hlimit', hlimit''⟩, hconsumedIds, hreferencedIds, hcreatedIds⟩

theorem idValue_toNat (id : ResourceId) : toBe 32 (idValue id).toNat = id.asBytes.toList := by
  show toBe 32 (ofBe id.asBytes.toList) = _
  simpa only [id.asBytes.length_toList] using toBe_ofBe id.asBytes.toList

theorem idValue_fits (id : ResourceId) : FitsBe 32 (idValue id) := by
  have hlt := ofBe_lt id.asBytes.toList
  rw [id.asBytes.length_toList] at hlt
  exact fitsBe_natCast.mpr hlt

theorem packed_ids (ids : List ResourceId) : packed 32 (ids.map idValue) = idBytes ids := by
  simp only [packed, idBytes, List.flatMap_map, idValue_toNat]

theorem toNat_fits (x : UInt16) : FitsBe 2 (x.toNat : Int) := fitsBe_natCast.mpr x.toNat_lt

theorem toNat_bytes (x : UInt16) : toBe 2 (x.toNat : Int).toNat = (toBeBytes x).toList := rfl

theorem header_spelled {reserve : ResourceRoleV1 → Nat → Bool} {input : ResourceRolesFuzzInput} (h : Takes reserve input) :
    (spelled input).header = (headerNumbers input).map fun x => (x.toNat : Int) := by
  have hC : (UInt16.ofNat input.consumed.length).toNat = input.consumed.length := toNat_count h .consumed
  have hR : (UInt16.ofNat input.referenced.length).toNat = input.referenced.length := toNat_count h .referenced
  have hO : (UInt16.ofNat input.created.length).toNat = input.created.length := toNat_count h .created
  simp only [RolesSeed.header, spelled, headerNumbers, List.map_cons, List.map_nil, List.length_map, hC, hR, hO]

theorem values_spelled (input : ResourceRolesFuzzInput) :
    (spelled input).values = (input.consumed ++ input.referenced ++ input.created).map idValue := by
  simp only [RolesSeed.values, spelled, List.map_append]

/-- The arguments that spell an input have its bytes as their seed. -/
theorem resourceRolesSeed_spelled {reserve : ResourceRoleV1 → Nat → Bool} {input : ResourceRolesFuzzInput}
    (h : Takes reserve input) : resourceRolesSeed (spelled input) = some (inputBytes input) := by
  rw [resourceRolesSeed_eq_some, header_spelled h, values_spelled, packed_ids]
  refine ⟨fun number hnumber => ?_, fun value hvalue => ?_, ?_⟩
  · obtain ⟨x, -, rfl⟩ := List.mem_map.mp hnumber
    exact toNat_fits x
  · obtain ⟨id, -, rfl⟩ := List.mem_map.mp hvalue
    exact idValue_fits id
  · simp only [inputBytes, headerBytes, packed, List.flatMap_map, toNat_bytes, idBytes, List.flatMap_append,
      List.append_assoc]

theorem parseInput_eq_some {reserve : ResourceRoleV1 → Nat → Bool} {data : List UInt8} {input : ResourceRolesFuzzInput} :
    parseInput reserve data = some input ↔
      Takes reserve input ∧ resourceRolesSeed (spelled input) = some data := by
  refine ⟨fun h => ?_, fun h => ?_⟩
  · obtain ⟨htakes, rfl⟩ := parseInput_ok h
    exact ⟨htakes, resourceRolesSeed_spelled htakes⟩
  · obtain ⟨htakes, hseed⟩ := h
    rw [resourceRolesSeed_spelled htakes] at hseed
    rw [← Option.some.inj hseed, parseInput_inputBytes htakes]

/-- **What the target reads is what the generator writes.** A byte string is an input if and
only if it is the seed of the arguments that spell the input, and a seed of any other
arguments is not. -/
theorem roles_seed_exact (reserve : ResourceRoleV1 → Nat → Bool) (input : ResourceRolesFuzzInput) :
    (∀ data, parseInput reserve data = some input ↔
      Takes reserve input ∧ resourceRolesSeed (spelled input) = some data) ∧
    (∀ args, (resourceRolesSeed args).bind (parseInput reserve) = some input ↔
      Takes reserve input ∧ args = spelled input) := by
  refine ⟨fun data => parseInput_eq_some, fun args => ?_⟩
  rw [Option.bind_eq_some_iff]
  refine ⟨fun h => ?_, fun h => ?_⟩
  · obtain ⟨data, hargs, hparse⟩ := h
    obtain ⟨htakes, hseed⟩ := parseInput_eq_some.mp hparse
    exact ⟨htakes, resourceRolesSeed_inj hargs hseed⟩
  · obtain ⟨htakes, rfl⟩ := h
    exact ⟨inputBytes input, resourceRolesSeed_spelled htakes, parseInput_inputBytes htakes⟩

end Zrm.L7.RolesCorpus
