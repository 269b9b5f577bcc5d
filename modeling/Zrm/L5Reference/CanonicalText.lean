import Mathlib.Tactic.SplitIfs
import Zrm.Core.PrefixCode
import Zrm.Core.Placement
import Zrm.L5Reference.CanonicalJson

/-!
# What canonical JSON text says (`arm_zrm_frontier_v1.py`)

`json.dumps` sorts the members of every object; apart from that order, the text has
one reading.

* `Payload.dumps_toList`: the text of a payload is the plain text of its normal form,
  the payload with every object sorted.
* `Payload.readsBack`: plain text has one reading.
* `Payload.dumps_eq_iff`: two payloads have one text iff they have one normal form.
-/
namespace Zrm.L5.CanonicalJson

open Zrm.PrefixCode Zrm.Placement

/-! ## Characters -/

def hexValue (c : Char) : Nat := if c.isDigit then c.toNat - 48 else c.toNat - 87

def readHex : List Char → Option (Nat × List Char)
  | a :: b :: c :: d :: rest =>
    some (hexValue a * 4096 + hexValue b * 256 + hexValue c * 16 + hexValue d, rest)
  | _ => none

/-- `\\u`, and the second half of a pair behind its own backslash -/
def readUnicode (rest : List Char) : Option (Char × List Char) := do
  let (n, rest) ← readHex rest
  if n < 0xd800 ∨ 0xdfff < n then return (.ofNat n, rest)
  let (m, rest) ← readHex (rest.drop 2)
  return (.ofNat (0x10000 + (n - 0xd800) * 1024 + (m - 0xdc00)), rest)

/-- The character that a backslash and `c` stand for. -/
def shortEscape (c : Char) : Char :=
  if c = 'b' then '\x08' else if c = 'f' then '\x0c' else if c = 'n' then '\n'
  else if c = 'r' then '\r' else if c = 't' then '\t' else c

/-- One character of a string literal, and what follows it. -/
def unescape : List Char → Option (Char × List Char)
  | [] => none
  | c :: rest =>
    if c ≠ '\\' then some (c, rest)
    else if rest.head? = some 'u' then readUnicode rest.tail
    else rest.head?.map fun c => (shortEscape c, rest.tail)

theorem hexValue_hexDigit (n : Nat) : hexValue (hexDigit n) = n % 16 := by
  have h : ∀ k < 16, hexValue ("0123456789abcdef".toList.getD k '0') = k := by decide
  exact h (n % 16) (Nat.mod_lt n (by decide))

theorem unicodeEscape_toList (n : Nat) :
    (unicodeEscape n).toList = '\\' :: 'u' ::
      [hexDigit (n / 4096), hexDigit (n / 256), hexDigit (n / 16), hexDigit n] := by
  simp [unicodeEscape]

theorem readHex_digits {n : Nat} (h : n < 0x10000) (rest : List Char) :
    readHex (hexDigit (n / 4096) :: hexDigit (n / 256) :: hexDigit (n / 16) :: hexDigit n :: rest) =
      some (n, rest) := by
  simp only [readHex, hexValue_hexDigit, Option.some.injEq, Prod.mk.injEq, and_true]
  omega

theorem toNat_ranges (c : Char) :
    c.toNat < 0xd800 ∨ 0xdfff < c.toNat ∧ c.toNat < 0x110000 := c.valid

theorem eq_of_toNat {c : Char} {n : Nat} (h : c.toNat = n) : c = .ofNat n := by
  rw [← h, Char.ofNat_toNat]

theorem unescape_unicodeEscape (n : Nat) (rest : List Char) :
    unescape ((unicodeEscape n).toList ++ rest) =
      readUnicode (hexDigit (n / 4096) :: hexDigit (n / 256) :: hexDigit (n / 16) ::
        hexDigit n :: rest) := by
  rw [unicodeEscape_toList, List.cons_append, unescape, if_neg (not_not.mpr rfl)]
  exact if_pos rfl

theorem readUnicode_one {n : Nat} (hrange : n < 0xd800 ∨ 0xdfff < n) (h : n < 0x10000)
    (rest : List Char) :
    unescape ((unicodeEscape n).toList ++ rest) = some (.ofNat n, rest) := by
  simp only [unescape_unicodeEscape, readUnicode, readHex_digits h, Option.bind_eq_bind,
    Option.bind_some, if_pos hrange]
  rfl

theorem readUnicode_pair {high low : Nat} (hhigh : 0xd800 ≤ high) (hhigh' : high ≤ 0xdfff)
    (hlow : low < 0x10000) (rest : List Char) :
    unescape ((unicodeEscape high ++ unicodeEscape low).toList ++ rest) =
      some (.ofNat (0x10000 + (high - 0xd800) * 1024 + (low - 0xdc00)), rest) := by
  have hrange : ¬ (high < 0xd800 ∨ 0xdfff < high) := by omega
  have hhex : high < 0x10000 := by omega
  rw [String.toList_append, List.append_assoc, unescape_unicodeEscape, unicodeEscape_toList low]
  simp only [readUnicode, readHex_digits hhex, Option.bind_eq_bind, Option.bind_some,
    if_neg hrange, List.cons_append, List.nil_append, List.drop_succ_cons, List.drop_zero,
    readHex_digits hlow]
  rfl

/-- An escape is a backslash and a letter, the character itself, or one or two `\\u`. -/
theorem escapeChar_cases (c : Char) :
    (∃ d, (escapeChar c).toList = ['\\', d] ∧ d ≠ 'u' ∧ shortEscape d = c ∧ d.toNat < 128) ∨
    ((escapeChar c).toList = [c] ∧ c ≠ '\\' ∧ c ≠ '"' ∧ c.toNat < 128) ∨
    (escapeChar c = unicodeEscape c.toNat ∧ c.toNat < 0x10000) ∨
    (escapeChar c = unicodeEscape (0xd800 + (c.toNat - 0x10000) / 1024) ++
      unicodeEscape (0xdc00 + (c.toNat - 0x10000) % 1024) ∧ 0x10000 ≤ c.toNat) := by
  unfold escapeChar
  dsimp only
  split_ifs with h1 h2 h3 h4 h5 h6 h7 h8 h9
  · exact .inl ⟨'\\', rfl, by decide, (eq_of_toNat h1).symm, by decide⟩
  · exact .inl ⟨'"', rfl, by decide, (eq_of_toNat h2).symm, by decide⟩
  · exact .inl ⟨'b', rfl, by decide, (eq_of_toNat h3).symm, by decide⟩
  · exact .inl ⟨'f', rfl, by decide, (eq_of_toNat h4).symm, by decide⟩
  · exact .inl ⟨'n', rfl, by decide, (eq_of_toNat h5).symm, by decide⟩
  · exact .inl ⟨'r', rfl, by decide, (eq_of_toNat h6).symm, by decide⟩
  · exact .inl ⟨'t', rfl, by decide, (eq_of_toNat h7).symm, by decide⟩
  · refine .inr (.inl ⟨String.toList_ofList, ?_, ?_, by omega⟩)
    · exact fun hc => h1 (congrArg Char.toNat hc)
    · exact fun hc => h2 (congrArg Char.toNat hc)
  · exact .inr (.inr (.inl ⟨rfl, h9⟩))
  · exact .inr (.inr (.inr ⟨rfl, Nat.le_of_not_lt h9⟩))

/-- Every escape is read as the character it stands for. -/
theorem unescape_escapeChar (c : Char) (rest : List Char) :
    unescape ((escapeChar c).toList ++ rest) = some (c, rest) := by
  have hvalid := toNat_ranges c
  rcases escapeChar_cases c with ⟨d, h, hd, rfl, -⟩ | ⟨h, hc, -⟩ | ⟨h, hc⟩ | ⟨h, hc⟩
  · rw [h, List.cons_append, unescape, if_neg (not_not.mpr rfl)]
    simp [hd]
  · rw [h, List.singleton_append, unescape, if_pos hc]
  · rw [h, readUnicode_one (by omega) hc, Char.ofNat_toNat]
  · rw [h, readUnicode_pair (by omega) (by omega) (by omega), Nat.add_sub_cancel_left,
      Nat.add_sub_cancel_left, Nat.add_assoc, Nat.div_add_mod', Nat.add_sub_cancel' hc,
      Char.ofNat_toNat]

theorem escapeChar_readsBack (c : Char) :
    ReadsBack Anything (fun c => (escapeChar c).toList) c :=
  readsBack_of_read unescape_escapeChar c

/-- No escape opens with a quotation mark. -/
theorem escapeChar_avoids : Avoids (fun c => (escapeChar c).toList) '"' := by
  intro c
  rcases escapeChar_cases c with ⟨d, h, -⟩ | ⟨h, -, hc, -⟩ | ⟨h, -⟩ | ⟨h, -⟩
  · exact ⟨'\\', [d], h, by decide⟩
  · exact ⟨c, [], h, hc⟩
  · exact ⟨'\\', _, h ▸ unicodeEscape_toList c.toNat, by decide⟩
  · dsimp only
    rw [h, String.toList_append, unicodeEscape_toList]
    exact ⟨'\\', _, rfl, by decide⟩

/-! ## Payloads -/

/-- Induction over a payload: the items of a list and the values of an object come first. -/
theorem Payload.induct {motive : Payload → Prop} (str : ∀ s, motive (.str s))
    (int : ∀ n, motive (.int n))
    (list : ∀ items, (∀ item ∈ items, motive item) → motive (.list items))
    (dict : ∀ items, (∀ item ∈ items, motive item.2) → motive (.dict items)) (p : Payload) :
    motive p :=
  @Payload.rec motive (fun items => ∀ item ∈ items, motive item)
    (fun items => ∀ item ∈ items, motive item.2) (fun item => motive item.2)
    str int list dict (by simp) (fun _ _ h hs => List.forall_mem_cons.mpr ⟨h, hs⟩) (by simp)
    (fun _ _ h hs => List.forall_mem_cons.mpr ⟨h, hs⟩) (fun _ _ h => h) p

/-- A string literal -/
def quoted (s : String) : List Char :=
  '"' :: terminated (fun c => (escapeChar c).toList) '"' s.toList

mutual

/-- The text of a payload, its objects as they stand. -/
def Payload.chars : Payload → List Char
  | .str s => quoted s
  | .int n => (toString n).toList
  | .list items => '[' :: separated id ',' ']' (itemsChars items)
  | .dict items => '\x7b' :: separated id ',' '\x7d' (membersChars items)

def itemsChars : List Payload → List (List Char)
  | [] => []
  | item :: items => item.chars :: itemsChars items

def membersChars : List (String × Payload) → List (List Char)
  | [] => []
  | (key, value) :: items => (quoted key ++ ':' :: value.chars) :: membersChars items

end

mutual

/-- Every object sorted by its keys. -/
def Payload.normal : Payload → Payload
  | .str s => .str s
  | .int n => .int n
  | .list items => .list (normalItems items)
  | .dict items => .dict ((normalMembers items).insertionSort fun x y => x.1 ≤ y.1)

def normalItems : List Payload → List Payload
  | [] => []
  | item :: items => item.normal :: normalItems items

def normalMembers : List (String × Payload) → List (String × Payload)
  | [] => []
  | (key, value) :: items => (key, value.normal) :: normalMembers items

end

def memberChars (member : String × Payload) : List Char :=
  quoted member.1 ++ ':' :: member.2.chars

@[simp] theorem itemsChars_eq (items : List Payload) : itemsChars items = items.map Payload.chars := by
  induction items with
  | nil => rfl
  | cons item items ih => rw [itemsChars, ih, List.map_cons]

@[simp] theorem membersChars_eq (items : List (String × Payload)) :
    membersChars items = items.map memberChars := by
  induction items with
  | nil => rfl
  | cons item items ih => rw [membersChars, ih, List.map_cons, memberChars]

@[simp] theorem normalItems_eq (items : List Payload) :
    normalItems items = items.map Payload.normal := by
  induction items with
  | nil => rfl
  | cons item items ih => rw [normalItems, ih, List.map_cons]

@[simp] theorem normalMembers_eq (items : List (String × Payload)) :
    normalMembers items = items.map fun x => (x.1, x.2.normal) := by
  induction items with
  | nil => rfl
  | cons item items ih => rw [normalMembers, ih, List.map_cons]

@[simp] theorem dumpsItems_eq (items : List Payload) : dumpsItems items = items.map Payload.dumps := by
  induction items with
  | nil => rfl
  | cons item items ih => rw [dumpsItems, ih, List.map_cons]

@[simp] theorem dumpsMembers_eq (items : List (String × Payload)) :
    dumpsMembers items = items.map fun x => (x.1, x.2.dumps) := by
  induction items with
  | nil => rfl
  | cons item items ih => rw [dumpsMembers, ih, List.map_cons]

/-! ## The text of a payload -/

theorem toList_intercalate (sep stop : Char) (l : List String) :
    ((String.singleton sep).intercalate l).toList ++ [stop] =
      separated id sep stop (l.map String.toList) := by
  induction l with
  | nil => rw [String.intercalate_nil]; rfl
  | cons s l ih =>
    cases l with
    | nil => rw [String.intercalate_singleton]; rfl
    | cons s' l =>
      rw [String.intercalate_cons_cons, String.toList_append, String.toList_append,
        String.toList_singleton, List.append_assoc, List.append_assoc, ih]
      simp [separated, terminated]

theorem dumpsStr_toList (s : String) : (dumpsStr s).toList = quoted s := by
  have hjoin : ∀ l : List Char, (String.join (l.map escapeChar)).toList =
      l.flatMap fun c => (escapeChar c).toList := by
    intro l
    rw [String.toList_join, List.flatMap_map]
  rw [dumpsStr, String.toList_append, String.toList_append, hjoin]
  rfl

/-- Sorting members by their keys does not look at their values. -/
theorem insertionSort_members {α β : Type} (f : α → β) (members : List (String × α)) :
    (members.map fun x => (x.1, f x.2)).insertionSort (fun x y => x.1 ≤ y.1) =
      (members.insertionSort fun x y => x.1 ≤ y.1).map fun x => (x.1, f x.2) :=
  (List.map_insertionSort (fun x y : String × α => x.1 ≤ y.1) (fun x y : String × β => x.1 ≤ y.1)
    _ members fun _ _ _ _ => Iff.rfl).symm

theorem mem_insertionSort_members {α : Type} {members : List (String × α)} {member : String × α}
    (h : member ∈ members.insertionSort fun x y => x.1 ≤ y.1) : member ∈ members :=
  (List.perm_insertionSort _ members).mem_iff.mp h

/-- `json.dumps` writes the normal form. -/
theorem Payload.dumps_toList (p : Payload) : p.dumps.toList = p.normal.chars := by
  induction p using Payload.induct with
  | str s => exact dumpsStr_toList s
  | int n => rfl
  | list items ih =>
    have hitems : (items.map Payload.dumps).map String.toList =
        (items.map Payload.normal).map Payload.chars := by
      rw [List.map_map, List.map_map]
      exact List.map_congr_left ih
    simp only [Payload.dumps, Payload.normal, Payload.chars, String.toList_append, dumpsItems_eq,
      normalItems_eq, itemsChars_eq, ← hitems, ← toList_intercalate]
    rfl
  | dict items ih =>
    have hmembers : ((items.insertionSort fun x y => x.1 ≤ y.1).map fun x =>
          dumpsStr x.1 ++ ":" ++ x.2.dumps).map String.toList =
        (items.insertionSort fun x y => x.1 ≤ y.1).map
          (memberChars ∘ fun x => (x.1, x.2.normal)) := by
      rw [List.map_map]
      refine List.map_congr_left fun item hitem => ?_
      rw [Function.comp_apply, String.toList_append, String.toList_append, dumpsStr_toList,
        ih item (mem_insertionSort_members hitem), List.append_assoc]
      rfl
    simp only [Payload.dumps, Payload.normal, Payload.chars, String.toList_append, dumpsMembers_eq,
      normalMembers_eq, membersChars_eq, insertionSort_members]
    rw [List.map_map, List.map_map, ← hmembers, ← toList_intercalate]
    rfl

/-! ## One reading -/

/-- A character of a decimal numeral -/
def Numeral (c : Char) : Prop := c.isDigit = true ∨ c = '-'

theorem toDigits_injective : Function.Injective (Nat.toDigits 10) := by
  intro m n h
  rw [← Nat.ofDigitChars_ten_toDigits (n := m), h, Nat.ofDigitChars_ten_toDigits]

theorem int_toList (n : Int) :
    (toString n).toList = (if 0 ≤ n then [] else ['-']) ++ Nat.toDigits 10 n.natAbs := by
  rw [Int.toString_eq_repr, Int.repr_eq_if]
  split_ifs with hn
  · have hnat : n.toNat = n.natAbs := by omega
    rw [Nat.toList_repr, List.nil_append, hnat]
  · have hnat : (-n).toNat = n.natAbs := by omega
    rw [String.toList_append, Nat.toList_repr, hnat]
    rfl

theorem int_numeral (n : Int) : ∀ c ∈ (toString n).toList, Numeral c := by
  intro c hc
  rw [int_toList, List.mem_append] at hc
  rcases hc with hc | hc
  · split_ifs at hc <;> simp_all [Numeral]
  · exact .inl (Nat.isDigit_of_mem_toDigits (by decide) (by decide) hc)

theorem minus_not_mem_toDigits (n : Nat) : '-' ∉ Nat.toDigits 10 n := fun h =>
  absurd (Nat.isDigit_of_mem_toDigits (by decide) (by decide) h) (by decide)

theorem int_injective : Function.Injective fun n : Int => (toString n).toList := by
  intro m n h
  dsimp only at h
  rw [int_toList, int_toList] at h
  split_ifs at h with hm hn hn
  · have habs := toDigits_injective h
    omega
  · have hminus : '-' ∈ Nat.toDigits 10 m.natAbs := by
      rw [List.nil_append] at h
      rw [h]
      exact List.mem_cons_self
    exact absurd hminus (minus_not_mem_toDigits m.natAbs)
  · have hminus : '-' ∈ Nat.toDigits 10 n.natAbs := by
      rw [List.nil_append] at h
      rw [← h]
      exact List.mem_cons_self
    exact absurd hminus (minus_not_mem_toDigits n.natAbs)
  · have habs := toDigits_injective (List.append_cancel_left h)
    omega

theorem quoted_readsBack (s : String) : ReadsBack Anything quoted s := by
  have hchars : ReadsBack Anything (terminated (fun c => (escapeChar c).toList) '"') s.toList :=
    ReadsBack.terminated (fun c _ => escapeChar_readsBack c) escapeChar_avoids fun _ _ => trivial
  exact (hchars.cons '"').comap fun _ _ => String.toList_inj.mp

/-- The characters that a payload can open with. -/
def Payload.Opens : Payload → Char → Prop
  | .str _, c => c = '"'
  | .int _, c => Numeral c
  | .list _, c => c = '['
  | .dict _, c => c = '\x7b'

theorem Payload.chars_opens (p : Payload) : ∃ c t, p.chars = c :: t ∧ p.Opens c := by
  cases p with
  | str s => exact ⟨'"', _, rfl, rfl⟩
  | int n =>
    have hne : (toString n).toList ≠ [] := by
      rw [int_toList]
      simp [Nat.toDigits_ne_nil]
    obtain ⟨c, t, h⟩ := List.exists_cons_of_ne_nil hne
    exact ⟨c, t, h, int_numeral n c (h ▸ List.mem_cons_self)⟩
  | list items => exact ⟨'[', _, rfl, rfl⟩
  | dict items => exact ⟨'\x7b', _, rfl, rfl⟩

theorem Payload.opens_of_eq {p q : Payload} {r s : List Char} (h : p.chars ++ r = q.chars ++ s) :
    ∃ c, p.Opens c ∧ q.Opens c := by
  obtain ⟨c, t, hp, hc⟩ := p.chars_opens
  obtain ⟨d, u, hq, hd⟩ := q.chars_opens
  rw [hp, hq, List.cons_append, List.cons_append, List.cons.injEq] at h
  exact ⟨c, hc, h.1 ▸ hd⟩

theorem Payload.chars_list (items : List Payload) :
    (Payload.list items).chars = '[' :: separated Payload.chars ',' ']' items := by
  rw [Payload.chars, itemsChars_eq, separated_map]
  rfl

theorem Payload.chars_dict (items : List (String × Payload)) :
    (Payload.dict items).chars = '\x7b' :: separated memberChars ',' '\x7d' items := by
  rw [Payload.chars, membersChars_eq, separated_map]
  rfl

/-- No payload opens with a character that closes a list. -/
theorem Payload.chars_avoids : Avoids Payload.chars ']' := by
  intro p
  obtain ⟨c, t, hp, hc⟩ := p.chars_opens
  refine ⟨c, t, hp, ?_⟩
  rintro rfl
  cases p <;> simp [Payload.Opens, Numeral] at hc

/-- Plain text has one reading, whatever stands behind it but more of a numeral. -/
theorem Payload.readsBack (p : Payload) : ReadsBack (Stops Numeral) Payload.chars p := by
  induction p using Payload.induct with
  | str s =>
    intro q r r' hr hr' heq
    cases q with
    | str s' =>
      obtain ⟨rfl, hrest⟩ := quoted_readsBack s s' r r' trivial trivial heq
      exact ⟨rfl, hrest⟩
    | _ =>
      obtain ⟨c, rfl, hc⟩ := opens_of_eq heq
      simp [Payload.Opens, Numeral] at hc
  | int n =>
    intro q r r' hr hr' heq
    cases q with
    | int n' =>
      obtain ⟨rfl, hrest⟩ := readsBack_of_run int_numeral int_injective n n' r r' hr hr' heq
      exact ⟨rfl, hrest⟩
    | _ =>
      obtain ⟨c, hc, rfl⟩ := opens_of_eq heq
      simp [Payload.Opens, Numeral] at hc
  | list items ih =>
    intro q r r' hr hr' heq
    cases q with
    | list items' =>
      rw [chars_list, chars_list] at heq
      obtain ⟨rfl, hrest⟩ := (ReadsBack.separated ih chars_avoids (by decide) (by simp [Numeral])
        (by simp [Numeral])) items' r r' trivial trivial (List.cons.inj heq).2
      exact ⟨rfl, hrest⟩
    | _ =>
      obtain ⟨c, rfl, hc⟩ := opens_of_eq heq
      simp [Payload.Opens, Numeral] at hc
  | dict items ih =>
    have hmember : ∀ item ∈ items, ReadsBack (Stops Numeral) memberChars item := by
      intro item hitem
      exact (quoted_readsBack item.1).pair ((ih item hitem).cons ':') fun _ _ _ => trivial
    have havoid : Avoids memberChars '\x7d' := fun item => ⟨'"', _, rfl, by decide⟩
    intro q r r' hr hr' heq
    cases q with
    | dict items' =>
      rw [chars_dict, chars_dict] at heq
      obtain ⟨rfl, hrest⟩ := (ReadsBack.separated hmember havoid (by decide) (by simp [Numeral])
        (by simp [Numeral])) items' r r' trivial trivial (List.cons.inj heq).2
      exact ⟨rfl, hrest⟩
    | _ =>
      obtain ⟨c, rfl, hc⟩ := opens_of_eq heq
      simp [Payload.Opens, Numeral] at hc

theorem Payload.chars_injective : Function.Injective Payload.chars :=
  injective_of_readsBack Payload.readsBack (stops_nil Numeral)

/-- Two payloads have one text iff they are one payload up to the order in objects. -/
theorem Payload.dumps_eq_iff {p q : Payload} : p.dumps = q.dumps ↔ p.normal = q.normal := by
  rw [← String.toList_inj, dumps_toList, dumps_toList, chars_injective.eq_iff]

/-- Objects with the same keys in the same order, and normal values, have one text only if
they are equal. -/
theorem Payload.members_eq {items items' : List (String × Payload)}
    (hkeys : items.map Prod.fst = items'.map Prod.fst) (hnodup : (items.map Prod.fst).Nodup)
    (hvalues : ∀ item ∈ items, item.2.normal = item.2)
    (hvalues' : ∀ item ∈ items', item.2.normal = item.2)
    (h : (Payload.dict items).normal = (Payload.dict items').normal) : items = items' := by
  have hid : ∀ l : List (String × Payload), (∀ item ∈ l, item.2.normal = item.2) →
      (l.map fun x => (x.1, x.2.normal)) = l := by
    intro l hl
    refine Eq.trans ?_ (List.map_id l)
    exact List.map_congr_left fun item hitem => Prod.ext rfl (hl item hitem)
  simp only [Payload.normal, normalMembers_eq, Payload.dict.injEq, hid items hvalues,
    hid items' hvalues'] at h
  exact eq_of_perm_of_keys (perm_of_insertionSort_eq h) hkeys hnodup

/-! ## Only ASCII -/

theorem hexDigit_ascii (n : Nat) : (hexDigit n).toNat < 128 := by
  have h : ∀ k < 16, ("0123456789abcdef".toList.getD k '0').toNat < 128 := by decide
  exact h (n % 16) (Nat.mod_lt n (by decide))

theorem unicodeEscape_ascii (n : Nat) : ∀ c ∈ (unicodeEscape n).toList, c.toNat < 128 := by
  intro c hc
  simp only [unicodeEscape_toList, List.mem_cons, List.not_mem_nil, or_false] at hc
  rcases hc with rfl | rfl | rfl | rfl | rfl | rfl
  · decide
  · decide
  all_goals exact hexDigit_ascii _

theorem escapeChar_ascii (c : Char) : ∀ d ∈ (escapeChar c).toList, d.toNat < 128 := by
  rcases escapeChar_cases c with ⟨d, h, -, -, hd⟩ | ⟨h, -, -, hc⟩ | ⟨h, -⟩ | ⟨h, -⟩ <;> rw [h]
  · exact List.forall_mem_cons.mpr ⟨by decide, List.forall_mem_singleton.mpr hd⟩
  · exact List.forall_mem_singleton.mpr hc
  · exact unicodeEscape_ascii _
  · rw [String.toList_append, List.forall_mem_append]
    exact ⟨unicodeEscape_ascii _, unicodeEscape_ascii _⟩

theorem quoted_ascii (s : String) : ∀ c ∈ quoted s, c.toNat < 128 := by
  intro c hc
  simp only [quoted, terminated, List.mem_cons, List.mem_append, List.mem_flatMap,
    List.not_mem_nil, or_false] at hc
  rcases hc with rfl | ⟨d, -, hd⟩ | rfl
  · decide
  · exact escapeChar_ascii d c hd
  · decide

theorem numeral_ascii {c : Char} (h : Numeral c) : c.toNat < 128 := by
  rcases h with h | rfl
  · have hrange : 48 ≤ c.toNat ∧ c.toNat ≤ 57 := by simpa [Char.isDigit, UInt32.le_iff_toNat_le] using h
    omega
  · decide

theorem Payload.chars_ascii (p : Payload) : ∀ c ∈ p.chars, c.toNat < 128 := by
  induction p using Payload.induct with
  | str s => exact quoted_ascii s
  | int n => exact fun c hc => numeral_ascii (int_numeral n c hc)
  | list items ih =>
    rw [chars_list, List.forall_mem_cons]
    refine ⟨by decide, fun c hc => ?_⟩
    rcases mem_separated hc with rfl | rfl | ⟨item, hitem, hc⟩
    · decide
    · decide
    · exact ih item hitem c hc
  | dict items ih =>
    rw [chars_dict, List.forall_mem_cons]
    refine ⟨by decide, fun c hc => ?_⟩
    rcases mem_separated hc with rfl | rfl | ⟨item, hitem, hc⟩
    · decide
    · decide
    · rw [memberChars, List.mem_append, List.mem_cons] at hc
      rcases hc with hc | rfl | hc
      · exact quoted_ascii item.1 c hc
      · decide
      · exact ih item hitem c hc

end Zrm.L5.CanonicalJson
