import Mathlib.Data.List.Forall2
import Mathlib.Logic.Relation

/-!
# Backtracking regular expressions

Regular expressions as Python's `re` runs them: `ends` lists where a match may end, in the
order in which the matcher tries, the first one is the match. One group is kept.

* `mem_ends_star`, `mem_ends_many`, `mem_ends_word`: what the ends are, without the order.
* `scanFrom_covers`, `scanFrom_disjoint`: the matches that `finditer` reports.
* `countP_scanFrom`: when one match has a property.
* `spans_erase`: a group changes no match.
-/
namespace Zrm.Regex

inductive Re
  | eps
  | set (p : Char → Bool)
  /-- An assertion on the characters before and after the position. -/
  | look (p : Option Char → Option Char → Bool)
  | seq (r t : Re)
  | alt (r t : Re)
  | star (r : Re)
  | group (r : Re)

/-- A position of the matcher, with what the group last matched. -/
structure State where
  pos : Nat
  group : Option (Nat × Nat)
  deriving DecidableEq

/-! ## The matcher -/

/-- Greedy repetition; a turn that does not move ends it. -/
def iterate (step : State → List State) : Nat → State → List State
  | 0, s => [s]
  | n + 1, s => ((step s).filter fun e => s.pos < e.pos).flatMap (iterate step n) ++ [s]

variable (source : List Char)

def charBefore (pos : Nat) : Option Char := if pos = 0 then none else source[pos - 1]?

def ends : Re → State → List State
  | .eps, s => [s]
  | .set p, s => if (source[s.pos]?).any p then [{ s with pos := s.pos + 1 }] else []
  | .look p, s => if p (charBefore source s.pos) source[s.pos]? then [s] else []
  | .seq r t, s => (ends r s).flatMap (ends t)
  | .alt r t, s => ends r s ++ ends t s
  | .star r, s => iterate (ends r) (source.length + 1 - s.pos) s
  | .group r, s => (ends r s).map fun e => { e with group := some (s.pos, e.pos) }

/-- A reported match: its span and its group. -/
structure Match where
  start : Nat
  stop : Nat
  group : Option (Nat × Nat)
  deriving DecidableEq

/-- `pattern.match(source, start)` -/
def matchAt (r : Re) (start : Nat) : Option Match :=
  (ends source r ⟨start, none⟩).head?.map fun e => ⟨start, e.pos, e.group⟩

/-- `pattern.finditer(source, pos)`, for a pattern that matches no empty text -/
def scanFrom (r : Re) (pos : Nat) : List Match :=
  if pos ≤ source.length then
    match matchAt source r pos with
    | some m => m :: scanFrom r (max m.stop (pos + 1))
    | none => scanFrom r (pos + 1)
  else []
termination_by source.length + 1 - pos

def scan (r : Re) : List Match := scanFrom source r 0

/-- `pattern.search(source) is not None` -/
def search (r : Re) : Bool :=
  (List.range (source.length + 1)).any fun start => (matchAt source r start).isSome

variable {source} {r t : Re} {s e : State}

/-! ## Ends -/

@[simp] theorem mem_ends_eps : e ∈ ends source .eps s ↔ e = s := List.mem_singleton

theorem mem_ends_set {p : Char → Bool} :
    e ∈ ends source (.set p) s ↔
      (∃ c, source[s.pos]? = some c ∧ p c = true) ∧ e = { s with pos := s.pos + 1 } := by
  rw [ends]
  cases source[s.pos]? with
  | none => simp
  | some c =>
    cases hc : p c <;> simp [hc]

theorem mem_ends_look {p : Option Char → Option Char → Bool} :
    e ∈ ends source (.look p) s ↔ p (charBefore source s.pos) source[s.pos]? = true ∧ e = s := by
  rw [ends]
  split <;> simp_all

theorem mem_ends_seq : e ∈ ends source (.seq r t) s ↔ ∃ m ∈ ends source r s, e ∈ ends source t m := by
  rw [ends, List.mem_flatMap]

theorem mem_ends_alt : e ∈ ends source (.alt r t) s ↔ e ∈ ends source r s ∨ e ∈ ends source t s := by
  rw [ends, List.mem_append]

theorem mem_ends_group : e ∈ ends source (.group r) s ↔
    ∃ m ∈ ends source r s, e = { m with group := some (s.pos, m.pos) } := by
  rw [ends, List.mem_map]
  exact exists_congr fun m => and_congr_right fun _ => eq_comm

/-- A turn of a repetition. -/
def Turn (source : List Char) (r : Re) (s e : State) : Prop := e ∈ ends source r s ∧ s.pos < e.pos

theorem mem_iterate_succ {step : State → List State} {n : Nat} :
    e ∈ iterate step (n + 1) s ↔ (∃ m ∈ step s, s.pos < m.pos ∧ e ∈ iterate step n m) ∨ e = s := by
  rw [iterate, List.mem_append, List.mem_flatMap, List.mem_singleton]
  simp only [List.mem_filter, decide_eq_true_eq, and_assoc]

theorem turns_of_mem_iterate {n : Nat} (h : e ∈ iterate (ends source r) n s) :
    Relation.ReflTransGen (Turn source r) s e := by
  induction n generalizing s with
  | zero =>
    obtain rfl := List.mem_singleton.mp h
    exact .refl
  | succ n ih =>
    rcases mem_iterate_succ.mp h with ⟨m, hm, hlt, hrest⟩ | rfl
    · exact .head ⟨hm, hlt⟩ (ih hrest)
    · exact .refl

/-- The matcher does not leave the source. -/
theorem pos_of_mem_ends (h : e ∈ ends source r s) :
    s.pos ≤ e.pos ∧ e.pos ≤ max s.pos source.length := by
  induction r generalizing s e with
  | eps =>
    obtain rfl := mem_ends_eps.mp h
    omega
  | set p =>
    obtain ⟨⟨c, hc, -⟩, rfl⟩ := mem_ends_set.mp h
    have hlt := (List.getElem?_eq_some_iff.mp hc).1
    simp only
    omega
  | look p =>
    obtain ⟨-, rfl⟩ := mem_ends_look.mp h
    omega
  | seq r t ihr iht =>
    obtain ⟨m, hm, he⟩ := mem_ends_seq.mp h
    have h1 := ihr hm
    have h2 := iht he
    omega
  | alt r t ihr iht =>
    rcases mem_ends_alt.mp h with hr | ht
    · exact ihr hr
    · exact iht ht
  | star r ih =>
    have hturns := turns_of_mem_iterate h
    clear h
    induction hturns with
    | refl => omega
    | tail _ hturn ihturns =>
      have h1 := ih hturn.1
      omega
  | group r ih =>
    obtain ⟨m, hm, rfl⟩ := mem_ends_group.mp h
    have hspan := ih hm
    exact hspan

theorem mem_iterate_of_turns (h : Relation.ReflTransGen (Turn source r) s e) :
    ∀ n, source.length < s.pos + n → e ∈ iterate (ends source r) n s := by
  induction h using Relation.ReflTransGen.head_induction_on with
  | refl =>
    intro n _
    cases n with
    | zero => exact List.mem_singleton_self e
    | succ n => exact mem_iterate_succ.mpr (.inr rfl)
  | head hturn _ ih =>
    intro n hn
    obtain ⟨hm, hlt⟩ := hturn
    have hle := (pos_of_mem_ends hm).2
    obtain ⟨n, rfl⟩ : ∃ k, n = k + 1 := ⟨n - 1, by omega⟩
    exact mem_iterate_succ.mpr (.inl ⟨_, hm, hlt, ih n (by omega)⟩)

theorem mem_ends_star :
    e ∈ ends source (.star r) s ↔ Relation.ReflTransGen (Turn source r) s e := by
  rw [ends]
  exact ⟨turns_of_mem_iterate, fun h => mem_iterate_of_turns h _ (by omega)⟩

/-! ## Repeated characters and words -/

/-- `p` holds of every character from `i` up to `j`. -/
def Run (source : List Char) (p : Char → Bool) (i j : Nat) : Prop :=
  i ≤ j ∧ ∀ k, i ≤ k → k < j → (source[k]?).any p = true

instance (source : List Char) (p : Char → Bool) (i j : Nat) : Decidable (Run source p i j) :=
  decidable_of_iff (i ≤ j ∧ ∀ k, k < j → i ≤ k → (source[k]?).any p = true)
    ⟨fun h => ⟨h.1, fun k hk hlt => h.2 k hlt hk⟩, fun h => ⟨h.1, fun k hlt hk => h.2 k hk hlt⟩⟩

theorem Run.refl (source : List Char) (p : Char → Bool) (i : Nat) : Run source p i i :=
  ⟨Nat.le_refl i, fun k _ _ => by omega⟩

theorem Run.get {p : Char → Bool} {i j k : Nat} (h : Run source p i j) (hik : i ≤ k) (hkj : k < j) :
    ∃ c, source[k]? = some c ∧ p c = true := by
  have hk := h.2 k hik hkj
  cases hc : source[k]? with
  | none =>
    rw [hc] at hk
    cases hk
  | some c =>
    rw [hc] at hk
    exact ⟨c, rfl, hk⟩

/-- Where a run stops for good is one place. -/
theorem Run.stop_unique {p : Char → Bool} {i j j' : Nat} (h : Run source p i j)
    (h' : Run source p i j') (hj : (source[j]?).any p = false) (hj' : (source[j']?).any p = false) :
    j = j' := by
  rcases Nat.lt_trichotomy j j' with hlt | heq | hgt
  · rw [h'.2 j h.1 hlt] at hj
    cases hj
  · exact heq
  · rw [h.2 j' h'.1 hgt] at hj'
    cases hj'

theorem turn_set {p : Char → Bool} :
    Turn source (.set p) s e ↔ (source[s.pos]?).any p = true ∧ e = { s with pos := s.pos + 1 } := by
  rw [Turn, mem_ends_set, Option.any_eq_true]
  refine ⟨fun h => h.1, fun h => ⟨h, ?_⟩⟩
  rw [h.2]
  exact Nat.lt_succ_self _

/-- `[..]*` -/
theorem mem_ends_many {p : Char → Bool} :
    e ∈ ends source (.star (.set p)) s ↔ Run source p s.pos e.pos ∧ e.group = s.group := by
  rw [mem_ends_star]
  refine ⟨fun h => ?_, fun h => ?_⟩
  · induction h with
    | refl => exact ⟨.refl source p _, rfl⟩
    | tail _ hturn ih =>
      obtain ⟨hany, rfl⟩ := turn_set.mp hturn
      obtain ⟨⟨hle, hrun⟩, hgroup⟩ := ih
      refine ⟨⟨by simp only; omega, fun k hk hlt => ?_⟩, hgroup⟩
      rcases Nat.lt_or_ge k _ with hlt' | hge
      · exact hrun k hk hlt'
      · obtain rfl := Nat.le_antisymm (Nat.lt_succ_iff.mp hlt) hge
        exact hany
  · obtain ⟨⟨hle, hrun⟩, hgroup⟩ := h
    obtain ⟨d, hd⟩ : ∃ d, e.pos = s.pos + d := ⟨e.pos - s.pos, by omega⟩
    clear hle
    induction d generalizing e with
    | zero =>
      have he : e = s := by
        cases e
        cases s
        simp_all
      rw [he]
    | succ d ih =>
      have hrest := ih (e := { e with pos := s.pos + d }) hgroup
        (fun k hk hlt => hrun k hk (by simp only at hlt; omega)) rfl
      refine .tail hrest (turn_set.mpr ⟨hrun (s.pos + d) (by omega) (by omega), ?_⟩)
      cases e
      simp_all
      omega

/-- `[..]+` -/
def Re.some (p : Char → Bool) : Re := .seq (.set p) (.star (.set p))

theorem mem_ends_some {p : Char → Bool} :
    e ∈ ends source (.some p) s ↔
      Run source p s.pos e.pos ∧ s.pos < e.pos ∧ e.group = s.group := by
  rw [Re.some, mem_ends_seq]
  refine ⟨fun h => ?_, fun h => ?_⟩
  · obtain ⟨m, hm, he⟩ := h
    obtain ⟨⟨c, hc, hp⟩, rfl⟩ := mem_ends_set.mp hm
    obtain ⟨⟨hle, hrun⟩, hgroup⟩ := mem_ends_many.mp he
    simp only at hle hrun hgroup
    refine ⟨⟨by omega, fun k hk hlt => ?_⟩, by omega, hgroup⟩
    rcases Nat.eq_or_lt_of_le hk with rfl | hlt'
    · rw [hc]
      exact hp
    · exact hrun k hlt' hlt
  · obtain ⟨hrun, hlt, hgroup⟩ := h
    refine ⟨_, mem_ends_set.mpr ⟨hrun.get (Nat.le_refl _) hlt, rfl⟩, mem_ends_many.mpr ⟨⟨hlt, ?_⟩, hgroup⟩⟩
    intro k hk hke
    exact hrun.2 k (by simp only at hk; omega) hke

/-- The characters of a word, one after the other. -/
def Re.word : List Char → Re
  | [] => .eps
  | c :: rest => .seq (.set (· == c)) (.word rest)

theorem mem_ends_word {w : List Char} :
    e ∈ ends source (.word w) s ↔
      (∀ k, k < w.length → source[s.pos + k]? = w[k]?) ∧ e = { s with pos := s.pos + w.length } := by
  induction w generalizing s with
  | nil => simp [Re.word]
  | cons c rest ih =>
    rw [Re.word, mem_ends_seq]
    refine ⟨fun h => ?_, fun h => ?_⟩
    · obtain ⟨m, hm, he⟩ := h
      obtain ⟨⟨c', hc', heq⟩, rfl⟩ := mem_ends_set.mp hm
      obtain ⟨hrest, rfl⟩ := ih.mp he
      obtain rfl := eq_of_beq heq
      refine ⟨fun k hk => ?_, ?_⟩
      · cases k with
        | zero => exact hc'
        | succ k =>
          have hnext := hrest k (by simpa using hk)
          simp only at hnext
          rw [List.getElem?_cons_succ, ← hnext]
          congr 1
          omega
      · simp only [List.length_cons]
        congr 1
        omega
    · obtain ⟨hall, rfl⟩ := h
      refine ⟨_, mem_ends_set.mpr ⟨⟨c, hall 0 (by simp), beq_self_eq_true c⟩, rfl⟩, ih.mpr ⟨fun k hk => ?_, ?_⟩⟩
      · have hnext := hall (k + 1) (by simpa using hk)
        rw [List.getElem?_cons_succ] at hnext
        rw [← hnext]
        simp only
        congr 1
        omega
      · simp only [List.length_cons]
        congr 1
        omega

/-! ## The first end -/

theorem head?_alt : (ends source (.alt r t) s).head? =
    (ends source r s).head?.or (ends source t s).head? := by
  rw [ends, List.head?_append]

theorem head?_seq_set {p : Char → Bool} : (ends source (.seq (.set p) r) s).head? =
    if (source[s.pos]?).any p then (ends source r { s with pos := s.pos + 1 }).head? else none := by
  rw [ends, ends]
  split <;> simp

theorem head?_seq_set_eq_some {p : Char → Bool} : (ends source (.seq (.set p) r) s).head? = some e ↔
    (source[s.pos]?).any p = true ∧ (ends source r { s with pos := s.pos + 1 }).head? = some e := by
  rw [head?_seq_set]
  split <;> simp_all

theorem head?_seq_set_eq_none {p : Char → Bool} : (ends source (.seq (.set p) r) s).head? = none ↔
    ((source[s.pos]?).any p = true → (ends source r { s with pos := s.pos + 1 }).head? = none) := by
  rw [head?_seq_set]
  split <;> simp_all

/-- A run that stops for good: no longer one starts at `i`. -/
def Stretch (source : List Char) (p : Char → Bool) (i j : Nat) : Prop :=
  Run source p i j ∧ (source[j]?).any p = false

theorem Stretch.unique {p : Char → Bool} {i j j' : Nat} (h : Stretch source p i j)
    (h' : Stretch source p i j') : j = j' :=
  h.1.stop_unique h'.1 h.2 h'.2

/-- A repetition takes all it can. -/
theorem head?_many {p : Char → Bool} : ∃ e, (ends source (.star (.set p)) s).head? = some e ∧
    Stretch source p s.pos e.pos ∧ e.group = s.group := by
  have hlong : ∀ n (s : State), source.length < s.pos + n →
      ∃ e, (iterate (ends source (.set p)) n s).head? = some e ∧ (source[e.pos]?).any p = false := by
    intro n
    induction n with
    | zero =>
      intro s hn
      refine ⟨s, rfl, ?_⟩
      rw [List.getElem?_eq_none (by omega)]
      rfl
    | succ n ih =>
      intro s hn
      rw [iterate, List.head?_append, ends]
      by_cases hp : (source[s.pos]?).any p = true
      · obtain ⟨e, he, hstop⟩ := ih { s with pos := s.pos + 1 } (by simp only; omega)
        refine ⟨e, ?_, hstop⟩
        rw [if_pos hp]
        simp [he]
      · refine ⟨s, ?_, by simpa using hp⟩
        rw [if_neg hp]
        simp
  obtain ⟨e, he, hstop⟩ := hlong (source.length + 1 - s.pos) s (by omega)
  have hmem : e ∈ ends source (.star (.set p)) s := List.mem_of_head? he
  obtain ⟨hrun, hgroup⟩ := mem_ends_many.mp hmem
  exact ⟨e, he, ⟨hrun, hstop⟩, hgroup⟩

theorem head?_many_eq_some {p : Char → Bool} : (ends source (.star (.set p)) s).head? = some e ↔
    Stretch source p s.pos e.pos ∧ e.group = s.group := by
  obtain ⟨m, hm, hstretch, hgroup⟩ := @head?_many source s p
  rw [hm, Option.some.injEq]
  refine ⟨fun h => h ▸ ⟨hstretch, hgroup⟩, fun h => ?_⟩
  obtain ⟨hpos, hgroup'⟩ := h
  have hends := hstretch.unique hpos
  cases m
  cases e
  simp_all

theorem head?_many_ne_none {p : Char → Bool} : (ends source (.star (.set p)) s).head? ≠ none := by
  obtain ⟨e, he, -⟩ := @head?_many source s p
  rw [he]
  exact nofun

/-- `re.fullmatch(pattern, source)` -/
def fullmatch (source : List Char) (r : Re) : Bool :=
  (ends source r ⟨0, none⟩).any fun e => e.pos == source.length

/-! ## Reported matches -/

variable {m m' : Match} {i pos : Nat}

theorem matchAt_eq_some (h : matchAt source r i = some m) :
    m.start = i ∧ ⟨m.stop, m.group⟩ ∈ ends source r ⟨i, none⟩ := by
  obtain ⟨e, he, rfl⟩ := Option.map_eq_some_iff.mp h
  exact ⟨rfl, List.mem_of_head? he⟩

theorem exists_matchAt (h : e ∈ ends source r ⟨i, none⟩) : ∃ m, matchAt source r i = some m := by
  rw [matchAt]
  cases hends : ends source r ⟨i, none⟩ with
  | nil =>
    rw [hends] at h
    cases h
  | cons first rest => exact ⟨_, rfl⟩

theorem scanFrom_sound (h : m ∈ scanFrom source r pos) :
    pos ≤ m.start ∧ matchAt source r m.start = some m := by
  fun_induction scanFrom source r pos with
  | case1 pos hpos first hfirst ih =>
    rcases List.mem_cons.mp h with rfl | hrest
    · have hstart := (matchAt_eq_some hfirst).1
      exact ⟨Nat.le_of_eq hstart.symm, hstart.symm ▸ hfirst⟩
    · obtain ⟨hle, hm⟩ := ih hrest
      exact ⟨by omega, hm⟩
  | case2 pos hpos hnone ih =>
    obtain ⟨hle, hm⟩ := ih h
    exact ⟨by omega, hm⟩
  | case3 => cases h

/-- Where the pattern matches, a match is reported, unless an earlier one covers the place. -/
theorem scanFrom_covers (h : matchAt source r i = some m) (hpos : pos ≤ i) (hi : i ≤ source.length) :
    ∃ m' ∈ scanFrom source r pos, m'.start ≤ i ∧ (i < m'.stop ∨ i = m'.start) := by
  fun_induction scanFrom source r pos with
  | case1 pos hle first hfirst ih =>
    have hstart := (matchAt_eq_some hfirst).1
    rcases Nat.lt_or_ge i (max first.stop (pos + 1)) with hlt | hge
    · exact ⟨first, List.mem_cons_self, by omega, by omega⟩
    · obtain ⟨m', hm', hspan⟩ := ih hge
      exact ⟨m', List.mem_cons_of_mem first hm', hspan⟩
  | case2 pos hle hnone ih =>
    have hne : pos ≠ i := by
      intro heq
      rw [heq, h] at hnone
      cases hnone
    exact ih (by omega)
  | case3 pos hgt => omega

theorem scanFrom_disjoint : (scanFrom source r pos).Pairwise fun m m' => m.stop ≤ m'.start := by
  fun_induction scanFrom source r pos with
  | case1 pos hle first hfirst ih =>
    refine List.pairwise_cons.mpr ⟨fun m' hm' => ?_, ih⟩
    have hstart := (scanFrom_sound hm').1
    omega
  | case2 pos hle hnone ih => exact ih
  | case3 => exact .nil

/-- Two reported matches that overlap are one. -/
theorem eq_of_overlap (hm : m ∈ scanFrom source r pos) (hm' : m' ∈ scanFrom source r pos)
    (h : m.start < m'.stop) (h' : m'.start < m.stop) : m = m' := by
  have hdisjoint := @scanFrom_disjoint source r pos
  by_contra hne
  have hall := List.pairwise_iff_getElem.mp hdisjoint
  obtain ⟨a, ha, rfl⟩ := List.mem_iff_getElem.mp hm
  obtain ⟨b, hb, rfl⟩ := List.mem_iff_getElem.mp hm'
  rcases Nat.lt_trichotomy a b with hlt | heq | hgt
  · have := hall a b ha hb hlt
    omega
  · subst heq
    exact hne rfl
  · have := hall b a hb ha hgt
    omega

theorem scanFrom_starts : (scanFrom source r pos).Pairwise fun m m' => m.start < m'.start := by
  fun_induction scanFrom source r pos with
  | case1 pos hle first hfirst ih =>
    refine List.pairwise_cons.mpr ⟨fun m' hm' => ?_, ih⟩
    have hlater := (scanFrom_sound hm').1
    have hstart := (matchAt_eq_some hfirst).1
    omega
  | case2 pos hle hnone ih => exact ih
  | case3 => exact .nil

/-- A property that two matches share only if they overlap, and that one match has, is that of
one match. -/
theorem countP_scanFrom {q : Match → Bool} (hm : m ∈ scanFrom source r pos) (hq : q m = true)
    (hoverlap : ∀ a b : Match, a ∈ scanFrom source r pos → b ∈ scanFrom source r pos → q a = true →
      q b = true → a.start < b.stop) : (scanFrom source r pos).countP q = 1 := by
  have hnodup : ((scanFrom source r pos).filter q).Nodup :=
    ((@scanFrom_starts source r pos).imp fun {a b} hlt heq => by
      rw [heq] at hlt
      exact absurd hlt (Nat.lt_irrefl _)).filter q
  have hall : ∀ a ∈ (scanFrom source r pos).filter q, a = m := by
    intro a ha
    obtain ⟨hmem, hqa⟩ := List.mem_filter.mp ha
    exact eq_of_overlap hmem hm (hoverlap a m hmem hm hqa hq) (hoverlap m a hm hmem hq hqa)
  rw [List.countP_eq_length_filter, List.eq_replicate_of_mem hall, List.length_replicate]
  have hreplicate := List.eq_replicate_of_mem hall
  rw [hreplicate, List.nodup_replicate] at hnodup
  have hpos : 0 < ((scanFrom source r pos).filter q).length :=
    List.length_pos_of_mem (List.mem_filter.mpr ⟨hm, hq⟩)
  omega

/-! ## Without the group -/

def Re.erase : Re → Re
  | .seq r t => .seq r.erase t.erase
  | .alt r t => .alt r.erase t.erase
  | .star r => .star r.erase
  | .group r => r.erase
  | r => r

/-- The same positions, in the same order. -/
def SamePos (l l' : List State) : Prop := List.Forall₂ (fun a b => a.pos = b.pos) l l'

theorem samePos_iterate {step step' : State → List State}
    (hstep : ∀ s s' : State, s.pos = s'.pos → SamePos (step s) (step' s')) (n : Nat) :
    ∀ s s' : State, s.pos = s'.pos → SamePos (iterate step n s) (iterate step' n s') := by
  induction n with
  | zero =>
    intro s s' h
    exact .cons h .nil
  | succ n ih =>
    intro s s' h
    have hfilter : SamePos ((step s).filter fun e => s.pos < e.pos)
        ((step' s').filter fun e => s'.pos < e.pos) :=
      List.rel_filter (fun {a b} hab => by simp [h, hab]) (hstep s s' h)
    exact List.rel_append (List.rel_flatMap hfilter fun {a b} hab => ih a b hab) (.cons h .nil)

theorem samePos_erase (r : Re) (s s' : State) (h : s.pos = s'.pos) :
    SamePos (ends source r s) (ends source r.erase s') := by
  induction r generalizing s s' with
  | eps => exact .cons h .nil
  | set p =>
    simp only [Re.erase, ends, ← h]
    split
    · exact .cons rfl .nil
    · exact .nil
  | look p =>
    simp only [Re.erase, ends, ← h]
    split
    · exact .cons h .nil
    · exact .nil
  | seq r t ihr iht => exact List.rel_flatMap (ihr s s' h) fun {a b} hab => iht a b hab
  | alt r t ihr iht => exact List.rel_append (ihr s s' h) (iht s s' h)
  | star r ih =>
    simp only [Re.erase, ends, ← h]
    exact samePos_iterate ih _ s s' h
  | group r ih =>
    rw [ends, SamePos, List.forall₂_map_left_iff]
    exact ih s s' h

/-- The span of a match. -/
def Match.span (m : Match) : Nat × Nat := (m.start, m.stop)

theorem matchAt_erase (r : Re) (i : Nat) :
    (matchAt source r.erase i).map Match.span = (matchAt source r i).map Match.span := by
  have hsame := @samePos_erase source r ⟨i, none⟩ ⟨i, none⟩ rfl
  rw [matchAt, matchAt]
  generalize ends source r.erase ⟨i, none⟩ = erased at hsame
  generalize ends source r ⟨i, none⟩ = original at hsame
  cases hsame with
  | nil => rfl
  | cons hpos _ => simp [Match.span, hpos]

theorem spans_erase (r : Re) (pos : Nat) :
    (scanFrom source r.erase pos).map Match.span = (scanFrom source r pos).map Match.span := by
  fun_induction scanFrom source r pos with
  | case1 pos hle first hfirst ih =>
    have hspan := @matchAt_erase source r pos
    rw [hfirst, Option.map_some, Option.map_eq_some_iff] at hspan
    obtain ⟨m, hm, hspan⟩ := hspan
    have hstop : m.stop = first.stop := congrArg Prod.snd hspan
    rw [scanFrom, if_pos hle, hm]
    simp only [List.map_cons, hspan, hstop, ih]
  | case2 pos hle hnone ih =>
    have hspan := @matchAt_erase source r pos
    rw [hnone, Option.map_none, Option.map_eq_none_iff] at hspan
    rw [scanFrom, if_pos hle, hspan]
    exact ih
  | case3 pos hgt => rw [scanFrom, if_neg hgt]

end Zrm.Regex
