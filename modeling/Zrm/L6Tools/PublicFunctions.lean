import Zrm.L6Tools.PublicSurface

/-!
# Public functions and the gate (`tools/check_architecture.py`)

A public function item is read in the code of a source, what `strip_rust_non_code` leaves of it:
comments and literals are blanks there, so that an item is words with white space between them.
The two patterns of the gate look at the source itself, comments and literals included.

Assumption: `isAlnum` is `str.isalnum` for a character; it decides about raw strings only.

Results:
* `mem_ends_publicFunction`: the pattern matches the texts of `HeaderText`.
* `outermost_iff`: the scan reports those that no earlier report runs over.
* `counted_iff`: an item is counted once iff such a text has its name.
* `public_surface_exact`: when the gate sees every item.
-/
namespace Zrm.L6.Architecture

open Regex RustComplexity Text Value

/-! ## Items -/

/-- White space of Rust. -/
def isRustSpace (c : Char) : Bool :=
  [0x9, 0xA, 0xB, 0xC, 0xD, 0x20, 0x85, 0x200E, 0x200F, 0x2028, 0x2029].contains c.toNat

/-- A character of a name: one of the pattern's, or of another alphabet. -/
def isNameChar (c : Char) : Bool := isWordChar c || (128 ≤ c.toNat && !isRustSpace c)

def WordAt (text : Str) (w : String) (i : Nat) : Prop :=
  ∀ k, k < w.toList.length → text[i + k]? = w.toList[k]?

/-- White space, one character at least. -/
def Gap (text : Str) (white : Char → Bool) (i j : Nat) : Prop := Run text white i j ∧ i < j

/-- Qualifiers of a function with white space behind them; with `abi`, also `extern` and a name
in quotes. -/
inductive Qualifiers (text : Str) (white : Char → Bool) (abi : Bool) : Nat → Nat → Prop
  | nil {i : Nat} : Qualifiers text white abi i i
  | word {i j k : Nat} {w : String} : w ∈ ["const", "async", "unsafe", "extern"] → WordAt text w i →
      Gap text white (i + w.toList.length) j → Qualifiers text white abi j k →
      Qualifiers text white abi i k
  | quoted {i a b j k : Nat} : abi = true → WordAt text "extern" i → Gap text white (i + 6) a →
      text[a]? = some '"' → Run text (· != '"') (a + 1) b → a + 1 < b → text[b]? = some '"' →
      Gap text white (b + 1) j → Qualifiers text white abi j k → Qualifiers text white abi i k

/-- `pub`, qualifiers and `fn`, up to the name. -/
def FunctionWords (text : Str) (white : Char → Bool) (abi : Bool) (start name : Nat) : Prop :=
  ∃ i f, WordAt text "pub" start ∧ Gap text white (start + 3) i ∧ Qualifiers text white abi i f ∧
    WordAt text "fn" f ∧ Gap text white (f + 2) name

/-- A public function item of the code that starts a line: only white space comes before `pub`,
and the parameters or the generics come behind the name. -/
structure FunctionItem (code : Str) (start : Nat) (name : Nat × Nat) : Prop where
  line : ∃ i, (charBefore code i).all (· == '\n') = true ∧ Run code isRustSpace i start
  words : FunctionWords code isRustSpace false start name.1
  named : ∃ i, (i = name.1 ∨ i = name.1 + 2 ∧ WordAt code "r#" name.1) ∧
    i < name.2 ∧ Run code isNameChar i name.2
  follows : ∃ next, Run code isRustSpace name.2 next ∧ (code[next]? = some '(' ∨ code[next]? = some '<')

/-- One match names the item, and one signature match ends at the parenthesis behind its name. -/
def CountedOnce (source : Str) (name : Nat × Nat) : Prop :=
  ((scan source publicFunction).countP fun m => m.group = some name) = 1 ∧
  ∃ next, Run source isSpace name.2 next ∧ source[next]? = some '(' ∧
    ((scan source publicFunctionSignature).countP fun m => m.stop = next + 1) = 1

/-- The gate sees every public function item of the reviewed modules. -/
def SeesEvery (isAlnum : Char → Bool) (sources : Sources) : Prop :=
  (∀ path source role code, (path, source) ∈ sources → Role.ofFileName (fileName path) = some role →
    stripRustNonCode isAlnum source = .ok code →
      ∀ start name, FunctionItem code start name → CountedOnce source name) ∧
  (publicAuthorityApiFailures isAlnum sources = [] → ∀ path source role code, (path, source) ∈ sources →
    Role.ofFileName (fileName path) = some role → stripRustNonCode isAlnum source = .ok code →
      ∀ start name, FunctionItem code start name →
        String.ofList (substring source name) ∈ publicFunctionAllowlist role ∧
        String.ofList (substring source name) ∉ quarantinedAuthorityMethods)

/-- A function header as it stands in the source, from the line start `i` on: no comment in it, a
plain name in quotes for an ABI, a plain name, and the parameters behind it. -/
structure HeaderText (source : Str) (i start : Nat) (name : Nat × Nat) (next : Nat) : Prop where
  line : (charBefore source i).all (· == '\n') = true
  indent : Run source isSpace i start
  words : FunctionWords source isSpace true start name.1
  named : Run source isWordChar name.1 name.2 ∧ name.1 < name.2
  follows : Run source isSpace name.2 next ∧ source[next]? = some '('

/-- A header begins at `start`, and none runs over it that begins before and is itself outermost. -/
def Outermost (source : Str) (start : Nat) : Prop :=
  (∃ i name next, HeaderText source i start name next) ∧
  ∀ before, before < start → Outermost source before →
    ∀ i name next, HeaderText source i before name next → next < start
termination_by start

/-- Each item of the code is named in an outermost header of the source. -/
def PlainHeaders (source code : Str) : Prop :=
  ∀ start name, FunctionItem code start name →
    ∃ i pub next, HeaderText source i pub name next ∧ Outermost source pub

/-! ## Between `pub` and `fn` -/

variable {source : Str} {i j k m start f : Nat}

def quotesBefore (source : Str) (i : Nat) : Nat := (source.take i).count '"'

theorem quotesBefore_succ (source : Str) (i : Nat) :
    quotesBefore source (i + 1) = quotesBefore source i + if source[i]? = some '"' then 1 else 0 := by
  rw [quotesBefore, quotesBefore, List.take_add_one, List.count_append]
  cases source[i]? with
  | none => simp
  | some c =>
    by_cases hc : c = '"' <;> simp [hc]

theorem quotesBefore_run (h : Run source (· != '"') i j) :
    quotesBefore source j = quotesBefore source i := by
  obtain ⟨hle, hrun⟩ := h
  induction j, hle using Nat.le_induction with
  | base => rfl
  | succ j hij ih =>
    have hne : source[j]? ≠ some '"' := by
      intro heq
      have hany := hrun j hij (Nat.lt_succ_self j)
      rw [heq] at hany
      exact absurd hany (by decide)
    rw [quotesBefore_succ, if_neg hne, ih fun k hk hlt => hrun k hk (by omega), Nat.add_zero]

/-- No quote, no `p` and no `fn` from `i` up to `j`. -/
def Quiet (source : Str) (i j : Nat) : Prop :=
  i ≤ j ∧ ∀ k, i ≤ k → k < j → (source[k]?).any (fun c => c != '"' && c != 'p') = true ∧
    ¬ (source[k]? = some 'f' ∧ source[k + 1]? = some 'n')

/-- From `start` up to `i`, an even number of quotes, and `p` and `fn` only between quotes. -/
structure Clear (source : Str) (start i : Nat) : Prop where
  lt : start < i
  even : quotesBefore source i % 2 = quotesBefore source start % 2
  outside : ∀ k, start < k → k < i → quotesBefore source k % 2 = quotesBefore source start % 2 →
    source[k]? ≠ some 'p' ∧ ¬ (source[k]? = some 'f' ∧ source[k + 1]? = some 'n')

theorem Clear.quiet (h : Clear source start i) (hquiet : Quiet source i j) : Clear source start j where
  lt := Nat.lt_of_lt_of_le h.lt hquiet.1
  even := by
    have hrun : Run source (· != '"') i j := by
      refine ⟨hquiet.1, fun k hk hlt => ?_⟩
      obtain ⟨c, hc, hp⟩ := (Option.any_eq_true _ _).mp (hquiet.2 k hk hlt).1
      rw [hc]
      exact (Bool.and_eq_true_iff.mp hp).1
    rw [quotesBefore_run hrun, h.even]
  outside k hk hlt hquotes := by
    rcases Nat.lt_or_ge k i with hbefore | hafter
    · exact h.outside k hk hbefore hquotes
    · obtain ⟨hany, hfn⟩ := hquiet.2 k hafter hlt
      refine ⟨fun heq => ?_, hfn⟩
      rw [heq] at hany
      exact absurd hany (by decide)

/-- A quoted text. -/
theorem Clear.quoted (h : Clear source start i) (hopen : source[i]? = some '"')
    (hrun : Run source (· != '"') (i + 1) j) (hclose : source[j]? = some '"') :
    Clear source start (j + 1) where
  lt := by
    have hle := hrun.1
    have hlt := h.lt
    omega
  even := by
    rw [quotesBefore_succ, if_pos hclose, quotesBefore_run hrun, quotesBefore_succ, if_pos hopen]
    have heven := h.even
    omega
  outside k hk hlt hquotes := by
    rcases Nat.lt_trichotomy k i with hbefore | rfl | hafter
    · exact h.outside k hk hbefore hquotes
    · rw [hopen]
      exact ⟨by decide, fun hf => absurd hf.1 (by decide)⟩
    · have hinside : Run source (· != '"') (i + 1) k :=
        ⟨hafter, fun q hq hqk => hrun.2 q hq (by omega)⟩
      rw [quotesBefore_run hinside, quotesBefore_succ, if_pos hopen] at hquotes
      have heven := h.even
      omega

theorem quiet_spaces (h : Run source isSpace i j) : Quiet source i j := by
  refine ⟨h.1, fun k hk hlt => ?_⟩
  obtain ⟨c, hc, hspace⟩ := h.get hk hlt
  have hne : ∀ b : Char, isSpace b = false → c ≠ b := by
    intro b hb heq
    rw [heq, hb] at hspace
    cases hspace
  rw [hc]
  refine ⟨?_, fun hf => hne 'f' (by decide) (Option.some.inj hf.1)⟩
  have hquote := hne '"' (by decide)
  have hp := hne 'p' (by decide)
  simp [hquote, hp]

/-- A word without a quote, a `p` and `fn`, whose last character is no `f`. -/
def QuietWord (w : List Char) : Prop :=
  ∀ k, k < w.length → (w[k]?).any (fun c => c != '"' && c != 'p') = true ∧
    (w[k]? = some 'f' → (w[k + 1]?).any (· != 'n') = true)

instance (w : List Char) : Decidable (QuietWord w) := inferInstanceAs (Decidable (∀ k, k < w.length → _))

theorem quiet_word {w : String} (h : WordAt source w i) (hw : QuietWord w.toList) :
    Quiet source i (i + w.toList.length) := by
  refine ⟨Nat.le_add_right _ _, fun k hk hlt => ?_⟩
  obtain ⟨d, rfl⟩ : ∃ d, k = i + d := ⟨k - i, by omega⟩
  obtain ⟨hany, hfn⟩ := hw d (by omega)
  rw [h d (by omega)]
  refine ⟨hany, fun hf => ?_⟩
  obtain ⟨c, hc, hne⟩ := (Option.any_eq_true _ _).mp (hfn hf.1)
  have hnext := h (d + 1) ((List.getElem?_eq_some_iff.mp hc).1)
  rw [← Nat.add_assoc, hf.2, hc] at hnext
  rw [← Option.some.inj hnext] at hne
  exact absurd hne (by decide)

theorem quiet_gap (h : Gap source isSpace i j) : Quiet source i j := quiet_spaces h.1

/-- Over qualifiers. -/
theorem Clear.after_qualifiers {abi : Bool} (h : Clear source start i)
    (hwords : Qualifiers source isSpace abi i j) : Clear source start j := by
  induction hwords with
  | nil => exact h
  | @word i j k w hw hat hgap _ ih =>
    have hquiet : QuietWord w.toList := by
      have hall : ∀ w ∈ ["const", "async", "unsafe", "extern"], QuietWord w.toList := by decide
      exact hall w hw
    exact ih ((h.quiet (quiet_word hat hquiet)).quiet (quiet_gap hgap))
  | quoted _ hat hgap hopen hrun _ hclose hgap' _ ih =>
    have hlead := h.quiet (quiet_word hat (by decide))
    exact ih (((hlead.quiet (quiet_gap hgap)).quoted hopen hrun hclose).quiet (quiet_gap hgap'))

/-- The parts of a header from `pub` up to the name. -/
structure Header (source : Str) (start f name : Nat) : Prop where
  pub : WordAt source "pub" start
  clear : Clear source start f
  fn : WordAt source "fn" f
  gap : Run source isSpace (f + 2) name

theorem clear_pub (h : WordAt source "pub" start) : Clear source start (start + 3) := by
  have hp : source[start]? = some 'p' := h 0 (by decide)
  have hu : source[start + 1]? = some 'u' := h 1 (by decide)
  have hb : source[start + 1 + 1]? = some 'b' := h 2 (by decide)
  refine ⟨by omega, ?_, fun k hk hlt _ => ?_⟩
  · rw [quotesBefore_succ, quotesBefore_succ, quotesBefore_succ, hp, hu, hb, if_neg (by decide),
      if_neg (by decide), if_neg (by decide)]
    omega
  · obtain rfl | rfl : k = start + 1 ∨ k = start + 1 + 1 := by omega
    · rw [hu]
      exact ⟨by decide, fun hf => absurd hf.1 (by decide)⟩
    · rw [hb]
      exact ⟨by decide, fun hf => absurd hf.1 (by decide)⟩

theorem FunctionWords.header {abi : Bool} {name : Nat}
    (h : FunctionWords source isSpace abi start name) : ∃ f, Header source start f name := by
  obtain ⟨i, f, hpub, hgap, hwords, hfn, hgap'⟩ := h
  exact ⟨f, hpub, ((clear_pub hpub).quiet (quiet_gap hgap)).after_qualifiers hwords, hfn, hgap'.1⟩

/-! ## What the pattern matches -/

theorem mem_ends_spaces1 {s e : State} :
    e ∈ ends source spaces1 s ↔ Gap source isSpace s.pos e.pos ∧ e.group = s.group := by
  rw [Gap, and_assoc]
  exact mem_ends_some

theorem mem_ends_wordAt {w : String} {s e : State} :
    e ∈ ends source (word w) s ↔ WordAt source w s.pos ∧ e = { s with pos := s.pos + w.toList.length } :=
  mem_ends_word

theorem wordAt_char {w : String} {c : Char} (hw : w.toList = [c]) : WordAt source w i ↔ source[i]? = some c := by
  refine ⟨fun h => ?_, fun h k hk => ?_⟩
  · have hfirst := h 0 (by rw [hw]; exact Nat.zero_lt_one)
    rwa [hw] at hfirst
  · rw [hw] at hk ⊢
    obtain rfl : k = 0 := Nat.lt_one_iff.mp hk
    exact h

/-- A name in quotes, white space before it. -/
theorem mem_ends_quoted {s e : State} :
    e ∈ ends source (cat [spaces1, word "\"", .some (· != '"'), word "\""]) s ↔
      ∃ a b, Gap source isSpace s.pos a ∧ source[a]? = some '"' ∧ Run source (· != '"') (a + 1) b ∧
        a + 1 < b ∧ source[b]? = some '"' ∧ e = ⟨b + 1, s.group⟩ := by
  refine ⟨fun h => ?_, fun h => ?_⟩
  · obtain ⟨u, hspaces, hrest⟩ := mem_ends_seq.mp h
    obtain ⟨v, hopen, hrest⟩ := mem_ends_seq.mp hrest
    obtain ⟨x, htext, hrest⟩ := mem_ends_seq.mp hrest
    obtain ⟨y, hclose, hend⟩ := mem_ends_seq.mp hrest
    obtain rfl := mem_ends_eps.mp hend
    obtain ⟨hgap, hgroup⟩ := mem_ends_spaces1.mp hspaces
    obtain ⟨hopenAt, rfl⟩ := mem_ends_wordAt.mp hopen
    obtain ⟨hrun, hlt, hgroup'⟩ := mem_ends_some.mp htext
    obtain ⟨hcloseAt, rfl⟩ := mem_ends_wordAt.mp hclose
    exact ⟨u.pos, x.pos, hgap, (wordAt_char rfl).mp hopenAt, hrun, hlt, (wordAt_char rfl).mp hcloseAt,
      congrArg (State.mk (x.pos + 1)) (hgroup'.trans hgroup)⟩
  · obtain ⟨a, b, hgap, hopen, hrun, hlt, hclose, rfl⟩ := h
    have hspaces : ⟨a, s.group⟩ ∈ ends source spaces1 s := mem_ends_spaces1.mpr ⟨hgap, rfl⟩
    have hopens : ⟨a + 1, s.group⟩ ∈ ends source (word "\"") ⟨a, s.group⟩ :=
      mem_ends_wordAt.mpr ⟨(wordAt_char rfl).mpr hopen, rfl⟩
    have htext : ⟨b, s.group⟩ ∈ ends source (.some (· != '"')) ⟨a + 1, s.group⟩ :=
      mem_ends_some.mpr ⟨hrun, hlt, rfl⟩
    have hcloses : ⟨b + 1, s.group⟩ ∈ ends source (word "\"") ⟨b, s.group⟩ :=
      mem_ends_wordAt.mpr ⟨(wordAt_char rfl).mpr hclose, rfl⟩
    exact mem_ends_seq.mpr ⟨_, hspaces, mem_ends_seq.mpr ⟨_, hopens, mem_ends_seq.mpr
      ⟨_, htext, mem_ends_seq.mpr ⟨_, hcloses, mem_ends_eps.mpr rfl⟩⟩⟩⟩

/-- A word, white space behind it. -/
theorem mem_ends_wordSpaces {w : String} {s e : State} :
    e ∈ ends source (cat [word w, spaces1]) s ↔ e.group = s.group ∧ WordAt source w s.pos ∧
      Gap source isSpace (s.pos + w.toList.length) e.pos := by
  refine ⟨fun h => ?_, fun h => ?_⟩
  · obtain ⟨a, hword, hrest⟩ := mem_ends_seq.mp h
    obtain ⟨b, hspaces, hend⟩ := mem_ends_seq.mp hrest
    obtain rfl := mem_ends_eps.mp hend
    obtain ⟨hat, rfl⟩ := mem_ends_wordAt.mp hword
    obtain ⟨hgap, hgroup⟩ := mem_ends_spaces1.mp hspaces
    exact ⟨hgroup, hat, hgap⟩
  · obtain ⟨hgroup, hat, hgap⟩ := h
    have hword : ⟨s.pos + w.toList.length, s.group⟩ ∈ ends source (word w) s := mem_ends_wordAt.mpr ⟨hat, rfl⟩
    have hspaces : e ∈ ends source spaces1 ⟨s.pos + w.toList.length, s.group⟩ :=
      mem_ends_spaces1.mpr ⟨hgap, hgroup⟩
    exact mem_ends_seq.mpr ⟨_, hword, mem_ends_seq.mpr ⟨_, hspaces, mem_ends_eps.mpr rfl⟩⟩

/-- `const`, `async` or `unsafe`. -/
theorem mem_ends_plainQualifier {s e : State} :
    e ∈ ends source (cat [.alt (word "const") (.alt (word "async") (word "unsafe")), spaces1]) s ↔
      ∃ w ∈ ["const", "async", "unsafe"], e ∈ ends source (cat [word w, spaces1]) s := by
  simp only [cat, List.foldr_cons, List.foldr_nil, mem_ends_seq, mem_ends_alt, List.mem_cons,
    List.not_mem_nil, or_false, exists_eq_left, or_and_right, exists_or]

/-- `extern`, perhaps with a name in quotes. -/
theorem mem_ends_externQualifier {r : Re} {s e : State} :
    e ∈ ends source (cat [word "extern", opt r, spaces1]) s ↔
      e ∈ ends source (cat [word "extern", spaces1]) s ∨ WordAt source "extern" s.pos ∧
        ∃ m ∈ ends source r ⟨s.pos + 6, s.group⟩, Gap source isSpace m.pos e.pos ∧ e.group = m.group := by
  have hword : ∀ {m : State}, m ∈ ends source (word "extern") s ↔
      WordAt source "extern" s.pos ∧ m = ⟨s.pos + 6, s.group⟩ := mem_ends_wordAt
  simp only [cat, opt, List.foldr_cons, List.foldr_nil, mem_ends_seq, mem_ends_alt, mem_ends_eps, hword,
    mem_ends_spaces1]
  refine ⟨fun h => ?_, fun h => ?_⟩
  · obtain ⟨_, ⟨hat, rfl⟩, m, hm | rfl, e', hspaces, rfl⟩ := h
    · exact .inr ⟨hat, m, hm, hspaces⟩
    · exact .inl ⟨_, ⟨hat, rfl⟩, _, hspaces, rfl⟩
  · obtain ⟨_, ⟨hat, rfl⟩, e', hspaces, rfl⟩ | ⟨hat, m, hm, hspaces⟩ := h
    · exact ⟨_, ⟨hat, rfl⟩, _, .inr rfl, _, hspaces, rfl⟩
    · exact ⟨_, ⟨hat, rfl⟩, m, .inl hm, _, hspaces, rfl⟩

/-- One qualifier: a word, or `extern` and a name in quotes. -/
theorem mem_ends_qualifier {s e : State} :
    e ∈ ends source qualifier s ↔ e.group = s.group ∧
      ((∃ w ∈ ["const", "async", "unsafe", "extern"], WordAt source w s.pos ∧
          Gap source isSpace (s.pos + w.toList.length) e.pos) ∨
        ∃ a b, WordAt source "extern" s.pos ∧ Gap source isSpace (s.pos + 6) a ∧ source[a]? = some '"' ∧
          Run source (· != '"') (a + 1) b ∧ a + 1 < b ∧ source[b]? = some '"' ∧
          Gap source isSpace (b + 1) e.pos) := by
  have hmem : ∀ w : String, w ∈ ["const", "async", "unsafe", "extern"] ↔
      w ∈ ["const", "async", "unsafe"] ∨ w = "extern" := by simp [or_assoc]
  rw [qualifier, mem_ends_alt, mem_ends_plainQualifier, mem_ends_externQualifier]
  refine ⟨fun h => ?_, fun h => ?_⟩
  · rcases h with ⟨w, hw, hends⟩ | hends | ⟨hat, m, hquoted, hgap', hgroup⟩
    · obtain ⟨hgroup, hat, hgap⟩ := mem_ends_wordSpaces.mp hends
      exact ⟨hgroup, .inl ⟨w, (hmem w).mpr (.inl hw), hat, hgap⟩⟩
    · obtain ⟨hgroup, hat, hgap⟩ := mem_ends_wordSpaces.mp hends
      exact ⟨hgroup, .inl ⟨"extern", (hmem _).mpr (.inr rfl), hat, hgap⟩⟩
    · obtain ⟨a, b, hgap, hopen, hrun, hlt, hclose, rfl⟩ := mem_ends_quoted.mp hquoted
      exact ⟨hgroup, .inr ⟨a, b, hat, hgap, hopen, hrun, hlt, hclose, hgap'⟩⟩
  · obtain ⟨hgroup, ⟨w, hw, hat, hgap⟩ | ⟨a, b, hat, hgap, hopen, hrun, hlt, hclose, hgap'⟩⟩ := h
    · have hends := mem_ends_wordSpaces.mpr ⟨hgroup, hat, hgap⟩
      rcases (hmem w).mp hw with hplain | rfl
      · exact .inl ⟨w, hplain, hends⟩
      · exact .inr (.inl hends)
    · exact .inr (.inr ⟨hat, _, mem_ends_quoted.mpr ⟨a, b, hgap, hopen, hrun, hlt, hclose, rfl⟩, hgap', hgroup⟩)

theorem mem_ends_qualifiers {s e : State} :
    e ∈ ends source (.star qualifier) s ↔ Qualifiers source isSpace true s.pos e.pos ∧ e.group = s.group := by
  rw [mem_ends_star]
  refine ⟨fun h => ?_, fun h => ?_⟩
  · induction h using Relation.ReflTransGen.head_induction_on with
    | refl => exact ⟨.nil, rfl⟩
    | head hturn _ ih =>
      obtain ⟨hwords, hgroup⟩ := ih
      obtain ⟨hgroup', ⟨w, hw, hat, hgap⟩ | ⟨a, b, hat, hgap, hopen, hrun, hlt, hclose, hgap'⟩⟩ :=
        mem_ends_qualifier.mp hturn.1
      · exact ⟨.word hw hat hgap hwords, hgroup.trans hgroup'⟩
      · exact ⟨.quoted rfl hat hgap hopen hrun hlt hclose hgap' hwords, hgroup.trans hgroup'⟩
  · obtain ⟨hwords, hgroup⟩ := h
    obtain ⟨i, g⟩ := s
    obtain ⟨j, g'⟩ := e
    obtain rfl : g' = g := hgroup
    simp only at hwords
    induction hwords with
    | nil => exact .refl
    | @word i j k w hw hat hgap _ ih =>
      have hlt : i < j := by
        have hgapLt := hgap.2
        omega
      have hturn : Turn source qualifier ⟨i, g'⟩ ⟨j, g'⟩ :=
        ⟨mem_ends_qualifier.mpr ⟨rfl, .inl ⟨w, hw, hat, hgap⟩⟩, hlt⟩
      exact .head hturn ih
    | @quoted i a b j k _ hat hgap hopen hrun hlt hclose hgap' _ ih =>
      have hij : i < j := by
        have hgapLt := hgap.2
        have hgapLt' := hgap'.2
        omega
      have hturn : Turn source qualifier ⟨i, g'⟩ ⟨j, g'⟩ := ⟨mem_ends_qualifier.mpr
        ⟨rfl, .inr ⟨a, b, hat, hgap, hopen, hrun, hlt, hclose, hgap'⟩⟩, hij⟩
      exact .head hturn ih

theorem mem_ends_functionHeader {s e : State} :
    e ∈ ends source functionHeader s ↔
      FunctionWords source isSpace true s.pos e.pos ∧ e.group = s.group := by
  refine ⟨fun h => ?_, fun h => ?_⟩
  · obtain ⟨a, hpub, hrest⟩ := mem_ends_seq.mp h
    obtain ⟨b, hspaces, hrest⟩ := mem_ends_seq.mp hrest
    obtain ⟨c, hturns, hrest⟩ := mem_ends_seq.mp hrest
    obtain ⟨d, hfn, hrest⟩ := mem_ends_seq.mp hrest
    obtain ⟨x, hgap, hend⟩ := mem_ends_seq.mp hrest
    obtain rfl := mem_ends_eps.mp hend
    obtain ⟨hpubAt, rfl⟩ := mem_ends_wordAt.mp hpub
    obtain ⟨hfnAt, rfl⟩ := mem_ends_wordAt.mp hfn
    obtain ⟨hspaces, hgroup⟩ := mem_ends_spaces1.mp hspaces
    obtain ⟨hturns, hgroup'⟩ := mem_ends_qualifiers.mp hturns
    obtain ⟨hgap, hgroup''⟩ := mem_ends_spaces1.mp hgap
    exact ⟨⟨b.pos, c.pos, hpubAt, hspaces, hturns, hfnAt, hgap⟩, hgroup''.trans (hgroup'.trans hgroup)⟩
  · obtain ⟨⟨i, f, hpub, hgap, hwords, hfn, hgap'⟩, hgroup⟩ := h
    have hpubEnds : ⟨s.pos + 3, s.group⟩ ∈ ends source (word "pub") s := mem_ends_wordAt.mpr ⟨hpub, rfl⟩
    have hgapEnds : ⟨i, s.group⟩ ∈ ends source spaces1 ⟨s.pos + 3, s.group⟩ := mem_ends_spaces1.mpr ⟨hgap, rfl⟩
    have hwordsEnds : ⟨f, s.group⟩ ∈ ends source (.star qualifier) ⟨i, s.group⟩ :=
      mem_ends_qualifiers.mpr ⟨hwords, rfl⟩
    have hfnEnds : ⟨f + 2, s.group⟩ ∈ ends source (word "fn") ⟨f, s.group⟩ := mem_ends_wordAt.mpr ⟨hfn, rfl⟩
    have hgapEnds' : e ∈ ends source spaces1 ⟨f + 2, s.group⟩ := mem_ends_spaces1.mpr ⟨hgap', hgroup⟩
    exact mem_ends_seq.mpr ⟨_, hpubEnds, mem_ends_seq.mpr ⟨_, hgapEnds, mem_ends_seq.mpr ⟨_, hwordsEnds,
      mem_ends_seq.mpr ⟨_, hfnEnds, mem_ends_seq.mpr ⟨e, hgapEnds', mem_ends_eps.mpr rfl⟩⟩⟩⟩⟩

theorem not_isSpace_of_isWordChar {c : Char} (h : isWordChar c = true) : isSpace c = false := by
  have hrange : ((65 ≤ c.toNat ∧ c.toNat ≤ 90) ∨ 97 ≤ c.toNat ∧ c.toNat ≤ 122) ∨
      48 ≤ c.toNat ∧ c.toNat ≤ 57 ∨ c = '_' := by
    rw [isWordChar, Bool.or_eq_true, beq_iff_eq] at h
    rcases h with halnum | hunderscore
    · rcases Bool.or_eq_true_iff.mp halnum with halpha | hdigit
      · rcases Bool.or_eq_true_iff.mp halpha with hupper | hlower
        · exact .inl (.inl (of_decide_eq_true hupper))
        · obtain ⟨hge, hle⟩ := Bool.and_eq_true_iff.mp hlower
          exact .inl (.inr ⟨of_decide_eq_true hge, of_decide_eq_true hle⟩)
      · obtain ⟨hge, hle⟩ := Bool.and_eq_true_iff.mp hdigit
        exact .inr (.inl ⟨of_decide_eq_true hge, of_decide_eq_true hle⟩)
    · exact .inr (.inr hunderscore)
  rcases hrange with hletter | hdigit | rfl
  · rw [isSpace]
    simp only [Bool.or_eq_false_iff, Bool.and_eq_false_iff, decide_eq_false_iff_not,
      beq_eq_false_iff_ne]
    omega
  · rw [isSpace]
    simp only [Bool.or_eq_false_iff, Bool.and_eq_false_iff, decide_eq_false_iff_not,
      beq_eq_false_iff_ne]
    omega
  · decide

/-- The pattern matches the header texts. -/
theorem mem_ends_publicFunction {e : State} :
    e ∈ ends source publicFunction ⟨i, none⟩ ↔
      ∃ start name next, HeaderText source i start name next ∧ e = ⟨next + 1, some name⟩ := by
  refine ⟨fun h => ?_, fun h => ?_⟩
  · obtain ⟨a, hline, hrest⟩ := mem_ends_seq.mp h
    obtain ⟨hbreak, rfl⟩ := mem_ends_look.mp hline
    obtain ⟨b, hindent, hrest⟩ := mem_ends_seq.mp hrest
    obtain ⟨hindent, -⟩ := mem_ends_many.mp hindent
    obtain ⟨c, hheader, hrest⟩ := mem_ends_seq.mp hrest
    obtain ⟨d, hname, hrest⟩ := mem_ends_seq.mp hrest
    obtain ⟨x, hword, rfl⟩ := mem_ends_group.mp hname
    obtain ⟨hrun, hlt, -⟩ := mem_ends_some.mp hword
    obtain ⟨y, hspaces, hrest⟩ := mem_ends_seq.mp hrest
    obtain ⟨hspaces, hygroup⟩ := mem_ends_many.mp hspaces
    obtain ⟨z, hparen, hend⟩ := mem_ends_seq.mp hrest
    obtain rfl := mem_ends_eps.mp hend
    obtain ⟨hparenAt, rfl⟩ := mem_ends_wordAt.mp hparen
    exact ⟨b.pos, (c.pos, x.pos), y.pos, ⟨hbreak, hindent, (mem_ends_functionHeader.mp hheader).1,
      ⟨hrun, hlt⟩, hspaces, (wordAt_char rfl).mp hparenAt⟩, by rw [hygroup]; rfl⟩
  · obtain ⟨start, name, next, htext, rfl⟩ := h
    obtain ⟨hspaces, hparen⟩ := htext.follows
    have hheader : ⟨name.1, none⟩ ∈ ends source functionHeader ⟨start, none⟩ :=
      mem_ends_functionHeader.mpr ⟨htext.words, rfl⟩
    have hname : ⟨name.2, none⟩ ∈ ends source (.some isWordChar) ⟨name.1, none⟩ :=
      mem_ends_some.mpr ⟨htext.named.1, htext.named.2, rfl⟩
    have hparenEnds : ⟨next + 1, some name⟩ ∈ ends source (word "(") ⟨next, some name⟩ :=
      mem_ends_wordAt.mpr ⟨(wordAt_char rfl).mpr hparen, rfl⟩
    exact mem_ends_seq.mpr ⟨⟨i, none⟩, mem_ends_look.mpr ⟨htext.line, rfl⟩, mem_ends_seq.mpr
      ⟨⟨start, none⟩, mem_ends_many.mpr ⟨htext.indent, rfl⟩, mem_ends_seq.mpr ⟨_, hheader,
        mem_ends_seq.mpr ⟨⟨name.2, some name⟩, mem_ends_group.mpr ⟨_, hname, rfl⟩,
          mem_ends_seq.mpr ⟨⟨next, some name⟩, mem_ends_many.mpr ⟨hspaces, rfl⟩,
            mem_ends_seq.mpr ⟨_, hparenEnds, mem_ends_eps.mpr rfl⟩⟩⟩⟩⟩⟩

theorem matchAt_header {m : Match} (h : matchAt source publicFunction i = some m) :
    ∃ start name next, HeaderText source i start name next ∧ m = ⟨i, next + 1, some name⟩ := by
  obtain ⟨hstart, hend⟩ := matchAt_eq_some h
  obtain ⟨start, name, next, htext, heq⟩ := mem_ends_publicFunction.mp hend
  refine ⟨start, name, next, htext, ?_⟩
  cases m
  cases heq
  rw [← hstart]

theorem mem_scan_header {m : Match} (h : m ∈ scan source publicFunction) :
    ∃ start name next, HeaderText source m.start start name next ∧ m.group = some name ∧
      m.stop = next + 1 := by
  obtain ⟨start, name, next, htext, heq⟩ := matchAt_header (scanFrom_sound h).2
  rw [heq]
  exact ⟨start, name, next, htext, rfl, rfl⟩

/-! ## One header at a place -/

theorem not_space {c : Char} (hc : source[i]? = some c) (hspace : isSpace c = false) :
    (source[i]?).any isSpace = false := by
  rw [hc]
  exact hspace

/-- The name of a `pub` begins at one place. -/
theorem Header.name_eq {f' name name' : Nat} (h : Header source start f name)
    (h' : Header source start f' name') (hname : (source[name]?).any isSpace = false)
    (hname' : (source[name']?).any isSpace = false) : name = name' := by
  have hfirst : ∀ {a b x y : Nat}, Header source start a x → Header source start b y → ¬ a < b := by
    intro a b x y ha hb hlt
    exact (hb.clear.outside a ha.clear.lt hlt ha.clear.even).2
      ⟨ha.fn 0 (by decide), ha.fn 1 (by decide)⟩
  have hle := hfirst h h'
  have hge := hfirst h' h
  obtain rfl : f = f' := by omega
  exact h.gap.stop_unique h'.gap hname hname'

section HeaderText

variable {pub pub' next next' : Nat} {name name' : Nat × Nat}

theorem HeaderText.next_not_space (h : HeaderText source i pub name next) :
    (source[next]?).any isSpace = false :=
  not_space h.follows.2 (by decide)

theorem HeaderText.name_not_space (h : HeaderText source i pub name next) :
    (source[name.1]?).any isSpace = false := by
  obtain ⟨c, hc, hword⟩ := h.named.1.get (Nat.le_refl _) h.named.2
  exact not_space hc (not_isSpace_of_isWordChar hword)

theorem HeaderText.pub_not_space (h : HeaderText source i pub name next) :
    (source[pub]?).any isSpace = false := by
  obtain ⟨f, hf⟩ := h.words.header
  exact not_space (hf.pub 0 (by decide)) (by decide)

/-- The name ends where its characters do. -/
theorem HeaderText.name_end (h : HeaderText source i pub name next) :
    (source[name.2]?).any isWordChar = false := by
  obtain ⟨hspaces, hparen⟩ := h.follows
  rcases Nat.eq_or_lt_of_le hspaces.1 with heq | hlt
  · rw [heq, hparen]
    decide
  · obtain ⟨c, hc, hspace⟩ := hspaces.get (Nat.le_refl _) hlt
    rw [hc, Option.any_some, Bool.eq_false_iff]
    intro hword
    rw [not_isSpace_of_isWordChar hword] at hspace
    cases hspace

/-- Two headers with one `pub` are of one name. -/
theorem HeaderText.unique (h : HeaderText source i pub name next)
    (h' : HeaderText source j pub name' next') : name = name' ∧ next = next' := by
  obtain ⟨f, hf⟩ := h.words.header
  obtain ⟨f', hf'⟩ := h'.words.header
  have hfirst := hf.name_eq hf' h.name_not_space h'.name_not_space
  have hrun := h'.named.1
  rw [← hfirst] at hrun
  have hlast := h.named.1.stop_unique hrun h.name_end h'.name_end
  have hspaces := h'.follows.1
  rw [← hlast] at hspaces
  exact ⟨Prod.ext hfirst hlast, h.follows.1.stop_unique hspaces h.next_not_space h'.next_not_space⟩

theorem HeaderText.le (h : HeaderText source i pub name next) :
    i ≤ pub ∧ pub < name.1 ∧ name.1 < name.2 ∧ name.2 ≤ next := by
  obtain ⟨f, hf⟩ := h.words.header
  have hlt := hf.clear.lt
  have hgap := hf.gap.1
  exact ⟨h.indent.1, by omega, h.named.2, h.follows.1.1⟩

/-- The `pub` behind a line start is one place. -/
theorem HeaderText.pub_unique (h : HeaderText source i pub name next)
    (h' : HeaderText source j pub' name' next') (hij : i ≤ j) (hj : j ≤ pub) : pub = pub' := by
  have hindent : Run source isSpace j pub := ⟨hj, fun k hk hlt => h.indent.2 k (by omega) hlt⟩
  exact hindent.stop_unique h'.indent h.pub_not_space h'.pub_not_space

/-! ## What the scan reports -/

/-- The scan reports the outermost headers. -/
theorem outermost_iff : Outermost source pub ↔
    ∃ m ∈ scan source publicFunction, ∃ name next, HeaderText source m.start pub name next ∧
      m.group = some name ∧ m.stop = next + 1 := by
  induction pub using Nat.strongRecOn with
  | ind pub ih =>
    rw [Outermost]
    refine ⟨fun h => ?_, fun h => ?_⟩
    · obtain ⟨⟨i, name, next, htext⟩, houter⟩ := h
      obtain ⟨m, hm⟩ := exists_matchAt (mem_ends_publicFunction.mpr ⟨pub, name, next, htext, rfl⟩)
      have hle := htext.le
      have hlength : i ≤ source.length := by
        have hlt := (List.getElem?_eq_some_iff.mp htext.follows.2).1
        omega
      obtain ⟨m', hm', hstart, hcovers⟩ := scanFrom_covers hm (Nat.zero_le i) hlength
      obtain ⟨pub', name', next', htext', hgroup, hstop⟩ := mem_scan_header hm'
      -- the report that covers the line start has this `pub`, or it runs over it
      rcases Nat.lt_or_ge pub' i with hbefore | hafter
      · have hle' := htext'.le
        have hreported := (ih pub' (by omega)).mpr ⟨m', hm', name', next', htext', hgroup, hstop⟩
        have hend := houter pub' (by omega) hreported m'.start name' next' htext'
        have hspace := htext.indent.2 next' (by omega) hend
        rw [htext'.next_not_space] at hspace
        cases hspace
      · obtain rfl := htext'.pub_unique htext hstart hafter
        exact ⟨m', hm', name', next', htext', hgroup, hstop⟩
    · obtain ⟨m, hm, name, next, htext, hgroup, hstop⟩ := h
      refine ⟨⟨m.start, name, next, htext⟩, fun before hbefore hreported i name' next' htext' => ?_⟩
      obtain ⟨m', hm', name'', next'', htext'', -, hstop'⟩ := (ih before hbefore).mp hreported
      obtain ⟨-, rfl⟩ := htext'.unique htext''
      have hle := htext.le
      have hle' := htext''.le
      by_contra hover
      obtain rfl := eq_of_overlap hm hm' (by omega) (by omega)
      have hsame := htext.pub_unique htext'' (Nat.le_refl _) hle.1
      omega

theorem erase_publicFunction : publicFunction.erase = publicFunctionSignature := rfl

/-- Both patterns match the same texts. -/
theorem countP_signature (stop : Nat) :
    ((scan source publicFunctionSignature).countP fun m => m.stop = stop) =
      (scan source publicFunction).countP fun m => m.stop = stop := by
  have hspans : (scan source publicFunction.erase).map Match.span =
      (scan source publicFunction).map Match.span := spans_erase publicFunction 0
  rw [erase_publicFunction] at hspans
  have hcount := congrArg (List.countP fun span => decide (span.2 = stop)) hspans
  rw [List.countP_map, List.countP_map] at hcount
  exact hcount

theorem counted_of_mem {m : Match} (hm : m ∈ scan source publicFunction)
    (htext : HeaderText source m.start pub name next) (hgroup : m.group = some name)
    (hstop : m.stop = next + 1) : CountedOnce source name := by
  refine ⟨countP_scanFrom hm (decide_eq_true hgroup) fun a b ha hb hqa hqb => ?_, next, htext.follows.1,
    htext.follows.2, ?_⟩
  · obtain ⟨pub₁, name₁, next₁, htext₁, hgroup₁, -⟩ := mem_scan_header ha
    obtain ⟨pub₂, name₂, next₂, htext₂, hgroup₂, hstop₂⟩ := mem_scan_header hb
    have hsame : name₁ = name₂ :=
      Option.some.inj (hgroup₁.symm.trans ((of_decide_eq_true hqa).trans
        ((of_decide_eq_true hqb).symm.trans hgroup₂)))
    have hle := htext₁.le
    have hle' := htext₂.le
    rw [← hsame] at hle'
    omega
  · rw [countP_signature]
    refine countP_scanFrom hm (decide_eq_true hstop) fun a b ha hb hqa hqb => ?_
    obtain ⟨pub₁, name₁, next₁, htext₁, -, hstop₁⟩ := mem_scan_header ha
    have hle := htext₁.le
    have hstopa := of_decide_eq_true hqa
    have hstopb := of_decide_eq_true hqb
    omega

theorem CountedOnce.exists_match (h : CountedOnce source name) :
    ∃ m ∈ scan source publicFunction, m.group = some name := by
  have hpos : 0 < (scan source publicFunction).countP fun m => decide (m.group = some name) := by
    rw [h.1]
    exact Nat.zero_lt_one
  obtain ⟨m, hm, hq⟩ := List.countP_pos_iff.mp hpos
  exact ⟨m, hm, of_decide_eq_true hq⟩

/-- A name is counted once iff an outermost header has it. -/
theorem counted_iff : CountedOnce source name ↔
    ∃ i pub next, HeaderText source i pub name next ∧ Outermost source pub := by
  refine ⟨fun h => ?_, fun h => ?_⟩
  · obtain ⟨m, hm, hgroup⟩ := h.exists_match
    obtain ⟨pub, name', next, htext, hgroup', hstop⟩ := mem_scan_header hm
    obtain rfl : name = name' := Option.some.inj (hgroup.symm.trans hgroup')
    exact ⟨m.start, pub, next, htext, outermost_iff.mpr ⟨m, hm, name, next, htext, hgroup, hstop⟩⟩
  · obtain ⟨i, pub, next, htext, houter⟩ := h
    obtain ⟨m, hm, name', next', htext', hgroup, hstop⟩ := outermost_iff.mp houter
    obtain ⟨rfl, rfl⟩ := htext.unique htext'
    exact counted_of_mem hm htext' hgroup hstop

theorem CountedOnce.mem_findall (h : CountedOnce source name) :
    String.ofList (substring source name) ∈ findall publicFunction source := by
  obtain ⟨m, hm, hgroup⟩ := h.exists_match
  refine List.mem_map.mpr ⟨m, hm, ?_⟩
  rw [groupText, hgroup]
  rfl

end HeaderText

/-- **When the gate sees every public function.** It does, for a set of sources, if and only
if headers are plain in each source of a reviewed module. -/
theorem public_surface_exact (isAlnum : Char → Bool) (sources : Sources) :
    SeesEvery isAlnum sources ↔ ∀ path source role code, (path, source) ∈ sources →
      Role.ofFileName (fileName path) = some role → stripRustNonCode isAlnum source = .ok code →
        PlainHeaders source code := by
  refine ⟨fun h path source role code hmem hrole hcode start name hitem => ?_, fun h => ⟨?_, ?_⟩⟩
  · exact counted_iff.mp (h.1 path source role code hmem hrole hcode start name hitem)
  · intro path source role code hmem hrole hcode start name hitem
    exact counted_iff.mpr (h path source role code hmem hrole hcode start name hitem)
  · intro hempty path source role code hmem hrole hcode start name hitem
    have hmodule := moduleFailures_eq_nil hempty hmem hrole
    have hfound := (counted_iff.mpr (h path source role code hmem hrole hcode start name hitem)).mem_findall
    exact ⟨(publicFunctions_perm hmodule).mem_iff.mp hfound, not_quarantined hmodule hfound⟩

/-! ## A generic function -/

/-- Four reviewed types, and a quarantined method that takes a type parameter. -/
def genericSource : Str :=
  "pub enum LimitFieldV1 \x7b\x7d\n".toList ++ "pub enum PolicyObjectV1 \x7b\x7d\n".toList ++
    "pub enum PolicyValidationErrorV1 \x7b\x7d\n".toList ++ "pub enum ResourceDimensionErrorV1 \x7b\x7d\n".toList ++
    "pub fn compute_quote<T>(x: T) \x7b\x7d\n".toList

theorem item_genericSource : FunctionItem genericSource 125 (132, 145) where
  line := ⟨125, by decide +kernel, .refl _ _ _⟩
  words := ⟨129, 129, by unfold WordAt; decide +kernel, ⟨by decide +kernel, by decide⟩, .nil,
    by unfold WordAt; decide +kernel, by decide +kernel, by decide⟩
  named := ⟨132, .inl rfl, by decide, by decide +kernel⟩
  follows := ⟨145, .refl _ _ _, .inr (by decide +kernel)⟩

theorem failures_genericSource :
    publicAuthorityApiFailures Char.isAlphanum [("error.rs", genericSource)] = [] := by
  decide +kernel

/-- The gate reports nothing on it. -/
theorem unseen_generic :
    stripRustNonCode Char.isAlphanum genericSource = .ok genericSource ∧
      publicAuthorityApiFailures Char.isAlphanum [("error.rs", genericSource)] = [] ∧
      ¬ SeesEvery Char.isAlphanum [("error.rs", genericSource)] := by
  have hcode : stripRustNonCode Char.isAlphanum genericSource = .ok genericSource := by decide +kernel
  refine ⟨hcode, failures_genericSource, fun h => ?_⟩
  have hitem := h.2 failures_genericSource "error.rs" genericSource .error genericSource
    (List.mem_singleton_self _) (by decide) hcode _ _ item_genericSource
  exact hitem.2 (by decide +kernel)

end Zrm.L6.Architecture
