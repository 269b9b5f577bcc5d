import Mathlib.Data.List.DropRight
import Zrm.L6Tools.RustFunctions

/-!
# The parameters of a list (`tools/rust_complexity.py`)

`_parameter_segments` splits a parameter list at the commas before which as many brackets of
each sort were closed as opened, `<` and `>` counted wherever they stand. In front of a
parameter's end, and outside of `()`, `[]` and `{}`, a list holds patterns and types only: there
`<` and `>` are brackets. Inside of delimiters (an array length, a const block) they may be
operators.

* `segments_eq_iff`: two walks split at the same commas iff they give the same segments.
* `ownParameters_eq`: `ownParameters` reads off the parameters of the grammar `ParameterList`.
* `filter_isReceiver_eq_iff`: where `_is_receiver` decides as the grammar of `self` does.
-/
namespace Zrm.L6.RustComplexity

open Text Brackets

/-! ## Walks -/

/-- The depths after tokens. -/
def depthsAfter (next : Depths → String → Depths) (l : List Token) (d : Depths) : Depths :=
  l.foldl (fun d token => next d token.value) d

/-- The segments between the commas at which all depths are zero. -/
def segmentsBy (next : Depths → String → Depths) : List Token → Depths → List Token → List (List Token)
  | [], _, current => segment current
  | token :: rest, d, current =>
    if token.value = "," ∧ next d token.value = Depths.zero then
      segment current ++ segmentsBy next rest (next d token.value) []
    else segmentsBy next rest (next d token.value) (current ++ [token])

theorem parameterSegmentsFrom_eq (l : List Token) (d : Depths) (current : List Token) :
    parameterSegmentsFrom l d current = segmentsBy Depths.next l d current := by
  induction l generalizing d current with
  | nil => rfl
  | cons token rest ih => rw [parameterSegmentsFrom, segmentsBy, ih, ih]

/-- Outside of `()`, `[]` and `{}`. -/
def Depths.Outside (d : Depths) : Prop := d.round = 0 ∧ d.square = 0 ∧ d.brace = 0

instance (d : Depths) : Decidable d.Outside := inferInstanceAs (Decidable (_ ∧ _ ∧ _))

/-- The depths after a token, `<` and `>` being brackets outside of delimiters only. -/
def Depths.ownNext (d : Depths) (value : String) : Depths :=
  if (value = "<" ∨ value = ">") ∧ ¬ d.Outside then d else d.next value

/-- A segment without the commas at its end. -/
def trimCommas (segment : List Token) : List Token := segment.rdropWhile fun token => token.value == ","

/-- The parameters of a list: what stands between the commas outside of all brackets. -/
def ownParameters (tokens : List Token) : List (List Token) :=
  (segmentsBy Depths.ownNext tokens Depths.zero []).map trimCommas

theorem next_comma (d : Depths) : d.next "," = d := by
  simp [Depths.next]

theorem ownNext_comma (d : Depths) : d.ownNext "," = d := by
  simp [Depths.ownNext, next_comma]

/-! ### Trimming -/

theorem trimCommas_comma {token : Token} (h : token.value = ",") (l : List Token) :
    trimCommas (l ++ [token]) = trimCommas l :=
  List.rdropWhile_concat_pos _ _ _ (beq_iff_eq.mpr h)

theorem trimCommas_snoc {token : Token} (h : token.value ≠ ",") (l : List Token) :
    trimCommas (l ++ [token]) = l ++ [token] :=
  List.rdropWhile_concat_neg _ _ _ (fun heq => h (beq_iff_eq.mp heq))

/-- A token that is no comma keeps what stands before it. -/
theorem lt_length_trimCommas (l : List Token) {token : Token} (h : token.value ≠ ",") (more : List Token) :
    l.length < (trimCommas (l ++ token :: more)).length := by
  induction more using List.reverseRecOn with
  | nil => simp [trimCommas_snoc h]
  | append_singleton more last ih =>
    have hassoc : l ++ token :: (more ++ [last]) = (l ++ token :: more) ++ [last] := by simp
    rw [hassoc]
    by_cases hlast : last.value = ","
    · rwa [trimCommas_comma hlast]
    · rw [trimCommas_snoc hlast]
      simp

/-! ### Where two walks split -/

/-- The commas of a list, with more than commas behind them: the first token, if it is one, and
those of the rest. -/
theorem forall_comma_cons {next next' : Depths → String → Depths} {token : Token} {rest : List Token}
    {d d' : Depths} :
    (∀ before comma after, token :: rest = before ++ comma :: after → comma.value = "," →
        (∃ t ∈ after, t.value ≠ ",") →
        (depthsAfter next before d = Depths.zero ↔ depthsAfter next' before d' = Depths.zero)) ↔
      (token.value = "," → (∃ t ∈ rest, t.value ≠ ",") → (d = Depths.zero ↔ d' = Depths.zero)) ∧
      ∀ before comma after, rest = before ++ comma :: after → comma.value = "," →
        (∃ t ∈ after, t.value ≠ ",") →
        (depthsAfter next before (next d token.value) = Depths.zero ↔
          depthsAfter next' before (next' d' token.value) = Depths.zero) := by
  refine ⟨fun h => ⟨fun hcomma hrest => h [] token rest rfl hcomma hrest, ?_⟩, fun h => ?_⟩
  · intro before comma after hrest hcomma hafter
    exact h (token :: before) comma after (by rw [hrest]; rfl) hcomma hafter
  · intro before comma after hl hcomma hafter
    cases before with
    | nil =>
      rw [List.nil_append, List.cons.injEq] at hl
      obtain ⟨rfl, rfl⟩ := hl
      exact h.1 hcomma hafter
    | cons first before =>
      rw [List.cons_append, List.cons.injEq] at hl
      obtain ⟨rfl, hrest⟩ := hl
      exact h.2 before comma after hrest hcomma hafter

section Walks

variable {next next' : Depths → String → Depths} (hnext : ∀ d, next d "," = d)
  (hnext' : ∀ d, next' d "," = d)

/-- What is begun stands at the head of the first segment. -/
theorem segmentsBy_begun (l : List Token) (d : Depths) {current : List Token} (hcurrent : current ≠ []) :
    ∃ more segments, segmentsBy next l d current = (current ++ more) :: segments := by
  induction l generalizing d current with
  | nil => exact ⟨[], [], by rw [segmentsBy, segment, if_neg hcurrent, List.append_nil]⟩
  | cons token rest ih =>
    rw [segmentsBy]
    by_cases hcut : token.value = "," ∧ next d token.value = Depths.zero
    · rw [if_pos hcut, segment, if_neg hcurrent]
      exact ⟨[], _, by rw [List.append_nil]; rfl⟩
    · rw [if_neg hcut]
      have hne : current ++ [token] ≠ [] := by simp
      obtain ⟨more, segments, hsegments⟩ := ih (next d token.value) hne
      exact ⟨token :: more, segments, by simpa using hsegments⟩

include hnext

/-- Inside of brackets, with more than commas to come, the first segment gets longer. -/
theorem segmentsBy_longer {l : List Token} {d : Depths} (hd : d ≠ Depths.zero)
    (hl : ∃ t ∈ l, t.value ≠ ",") (current : List Token) :
    ∃ first segments, segmentsBy next l d current = first :: segments ∧
      current.length < (trimCommas first).length := by
  induction l generalizing current with
  | nil =>
    obtain ⟨t, ht, -⟩ := hl
    cases ht
  | cons token rest ih =>
    by_cases hcomma : token.value = ","
    · have hrest : ∃ t ∈ rest, t.value ≠ "," := by
        obtain ⟨t, ht, hne⟩ := hl
        rcases List.mem_cons.mp ht with rfl | ht
        · exact absurd hcomma hne
        · exact ⟨t, ht, hne⟩
      have hcut : ¬ (token.value = "," ∧ next d token.value = Depths.zero) := by
        rw [hcomma, hnext]
        exact fun h => hd h.2
      obtain ⟨first, segments, hsegments, hlength⟩ := ih hrest (current ++ [token])
      rw [segmentsBy, if_neg hcut, hcomma, hnext]
      rw [List.length_append] at hlength
      exact ⟨first, segments, hsegments, by omega⟩
    · have hcut : ¬ (token.value = "," ∧ next d token.value = Depths.zero) := fun h => hcomma h.1
      rw [segmentsBy, if_neg hcut]
      have hne : current ++ [token] ≠ [] := by simp
      obtain ⟨more, segments, hsegments⟩ := @segmentsBy_begun next rest (next d token.value) _ hne
      refine ⟨_, segments, hsegments, ?_⟩
      rw [List.append_assoc, List.singleton_append]
      exact lt_length_trimCommas current hcomma more

/-- Commas at the end of a list split nothing. -/
theorem segmentsBy_commas {l : List Token} (hl : ∀ t ∈ l, t.value = ",") {d : Depths} {current : List Token}
    (hcurrent : current = [] → d = Depths.zero) :
    (segmentsBy next l d current).map trimCommas = (segment current).map trimCommas := by
  induction l generalizing current with
  | nil => rfl
  | cons token rest ih =>
    have hcomma := hl token List.mem_cons_self
    have hrest := fun t ht => hl t (List.mem_cons_of_mem _ ht)
    rw [segmentsBy, hcomma, hnext]
    by_cases hd : d = Depths.zero
    · have hnone := @ih hrest [] fun _ => hd
      rw [if_pos ⟨rfl, hd⟩, List.map_append, hnone, segment, segment, if_pos rfl, List.map_nil,
        List.append_nil]
    · have hne : current ≠ [] := fun h => hd (hcurrent h)
      have hne' : current ++ [token] ≠ [] := by simp
      rw [if_neg fun h => hd h.2, ih hrest fun h => absurd h hne', segment, segment, if_neg hne,
        if_neg hne', List.map_singleton, List.map_singleton, trimCommas_comma hcomma]

include hnext'

/-- A comma that one walk splits at and the other one does not tells their segments apart. -/
theorem segmentsBy_ne {l : List Token} {d d' : Depths} (hd : d = Depths.zero) (hd' : d' ≠ Depths.zero)
    {comma : Token} (hcomma : comma.value = ",") (hl : ∃ t ∈ l, t.value ≠ ",") {current : List Token}
    (hcurrent : current ≠ []) :
    (segmentsBy next (comma :: l) d current).map trimCommas ≠
      (segmentsBy next' (comma :: l) d' current).map trimCommas := by
  intro heq
  obtain ⟨first, segments, hsegments, hlength⟩ := segmentsBy_longer hnext' hd' hl (current ++ [comma])
  rw [segmentsBy, segmentsBy, hcomma, hnext, hnext', if_pos ⟨rfl, hd⟩, if_neg fun h => hd' h.2, hsegments,
    segment, if_neg hcurrent, List.singleton_append, List.map_cons, List.map_cons, List.cons.injEq] at heq
  have hle : (trimCommas current).length ≤ current.length :=
    (List.rdropWhile_prefix _ _).length_le
  rw [heq.1] at hle
  rw [List.length_append] at hlength
  omega

/-- **Splitting.** Two walks give the same segments, up to commas at their ends, iff at each comma
with more than commas behind it the depths of both are zero or those of neither. -/
theorem segments_eq_iff {l : List Token} {d d' : Depths} {current : List Token}
    (hcurrent : current = [] → d = Depths.zero ∧ d' = Depths.zero) :
    (segmentsBy next l d current).map trimCommas = (segmentsBy next' l d' current).map trimCommas ↔
      ∀ before comma after, l = before ++ comma :: after → comma.value = "," →
        (∃ t ∈ after, t.value ≠ ",") →
        (depthsAfter next before d = Depths.zero ↔ depthsAfter next' before d' = Depths.zero) := by
  induction l generalizing d d' current with
  | nil => simp [segmentsBy]
  | cons token rest ih =>
    rw [forall_comma_cons]
    by_cases hcomma : token.value = ","
    · by_cases hrest : ∃ t ∈ rest, t.value ≠ ","
      · simp only [hcomma, hrest, hnext, hnext', forall_const]
        by_cases hd : d = Depths.zero <;> by_cases hd' : d' = Depths.zero
        · subst hd hd'
          rw [segmentsBy, segmentsBy, hcomma, hnext, hnext', if_pos ⟨rfl, rfl⟩, if_pos ⟨rfl, rfl⟩,
            List.map_append, List.map_append, List.append_cancel_left_eq, ih fun _ => ⟨rfl, rfl⟩]
          simp
        · have hne : current ≠ [] := fun h => hd' (hcurrent h).2
          have hdiffer := segmentsBy_ne hnext hnext' hd hd' hcomma hrest hne
          simp only [hd, hd', iff_false, not_true, false_and, iff_false]
          exact hd ▸ hdiffer
        · have hne : current ≠ [] := fun h => hd (hcurrent h).1
          have hdiffer := segmentsBy_ne hnext' hnext hd' hd hcomma hrest hne
          simp only [hd, hd', iff_true, false_and, iff_false]
          exact fun heq => hdiffer (hd' ▸ heq.symm)
        · rw [segmentsBy, segmentsBy, hcomma, hnext, hnext', if_neg fun h => hd h.2, if_neg fun h => hd' h.2,
            ih (fun h => absurd h (by simp))]
          simp [hd, hd']
      · have hall : ∀ t ∈ token :: rest, t.value = "," := by
          intro t ht
          rcases List.mem_cons.mp ht with rfl | ht
          · exact hcomma
          · exact not_not.mp fun hne => hrest ⟨t, ht, hne⟩
        rw [segmentsBy_commas hnext hall fun h => (hcurrent h).1,
          segmentsBy_commas hnext' hall fun h => (hcurrent h).2]
        simp only [hrest, false_imp_iff, implies_true, true_and, true_iff]
        intro before comma after hl _ hafter
        obtain ⟨t, ht, hne⟩ := hafter
        exact absurd ⟨t, by rw [hl]; simp [ht], hne⟩ hrest
    · have hcut : ¬ (token.value = "," ∧ next d token.value = Depths.zero) := fun h => hcomma h.1
      have hcut' : ¬ (token.value = "," ∧ next' d' token.value = Depths.zero) := fun h => hcomma h.1
      rw [segmentsBy, segmentsBy, if_neg hcut, if_neg hcut', ih fun h => absurd h (by simp)]
      simp only [hcomma, false_imp_iff, true_and]

end Walks

/-! ## The grammar of a list -/

/-- The four groups, by what opens and what closes them. -/
def groups : List (String × String) := [("(", ")"), ("[", "]"), ("\x7b", "\x7d"), ("<", ">")]

def isGroupMark (value : String) : Bool := groups.any fun g => value == g.1 || value == g.2

/-- Patterns and types: any nested code between delimiters, and outside of them angle brackets
that are closed in order; the flag: with commas outside of groups. -/
inductive Bracketed : Bool → List Token → Prop
  | nil {comma : Bool} : Bracketed comma []
  | plain {comma : Bool} {token : Token} {rest : List Token} : isGroupMark token.value = false →
      (token.value = "," → comma = true) → Bracketed comma rest → Bracketed comma (token :: rest)
  | delimited {comma : Bool} {opening closing : Token} {inner rest : List Token} (k : Delimiter) :
      symbolOf opening.value = .opening k → symbolOf closing.value = .closing k →
      Nested (symbols inner) → Bracketed comma rest →
      Bracketed comma (opening :: (inner ++ closing :: rest))
  | angled {comma : Bool} {opening closing : Token} {inner rest : List Token} : opening.value = "<" →
      closing.value = ">" → Bracketed true inner → Bracketed comma rest →
      Bracketed comma (opening :: (inner ++ closing :: rest))

/-- A parameter list: nonempty parameters, each followed by a comma or the end. -/
inductive ParameterList : List Token → List (List Token) → Prop
  | nil : ParameterList [] []
  | last {param : List Token} : param ≠ [] → Bracketed false param → ParameterList param [param]
  | cons {param rest : List Token} {comma : Token} {params : List (List Token)} : param ≠ [] →
      Bracketed false param → comma.value = "," → ParameterList rest params →
      ParameterList (param ++ comma :: rest) (param :: params)

theorem value_of_symbol_opening {value : String} {k : Delimiter} (h : symbolOf value = .opening k) :
    value = "(" ∧ k = .round ∨ value = "[" ∧ k = .square ∨ value = "\x7b" ∧ k = .brace := by
  unfold symbolOf at h
  split_ifs at h <;> simp_all

theorem value_of_symbol_closing {value : String} {k : Delimiter} (h : symbolOf value = .closing k) :
    value = ")" ∧ k = .round ∨ value = "]" ∧ k = .square ∨ value = "\x7d" ∧ k = .brace := by
  unfold symbolOf at h
  split_ifs at h <;> simp_all

/-- A delimiter leaves the depths as they were when its group is closed. -/
theorem next_delimited {opening closing : String} {k : Delimiter} (ho : symbolOf opening = .opening k)
    (hc : symbolOf closing = .closing k) (d : Depths) :
    d.ownNext opening = d.next opening ∧ ¬ (d.next opening).Outside ∧
      (d.next opening).ownNext closing = d ∧ opening ≠ "," ∧ closing ≠ "," := by
  obtain ⟨round, square, brace, angle⟩ := d
  rcases value_of_symbol_opening ho with ⟨rfl, rfl⟩ | ⟨rfl, rfl⟩ | ⟨rfl, rfl⟩ <;>
    rcases value_of_symbol_closing hc with ⟨rfl, hk⟩ | ⟨rfl, hk⟩ | ⟨rfl, hk⟩ <;> cases hk <;>
    simp [Depths.next, Depths.ownNext, Depths.Outside]

/-- No other token moves the depths inside of delimiters. -/
theorem ownNext_inside {value : String} (h : symbolOf value = .other) {d : Depths} (hd : ¬ d.Outside) :
    d.ownNext value = d := by
  by_cases hangle : value = "<" ∨ value = ">"
  · rw [Depths.ownNext, if_pos ⟨hangle, hd⟩]
  · rw [Depths.ownNext, if_neg fun h => hangle h.1]
    unfold symbolOf at h
    split_ifs at h
    simp_all [Depths.next]

theorem next_plain {value : String} (h : isGroupMark value = false) (d : Depths) : d.ownNext value = d := by
  simp only [isGroupMark, groups, List.any_cons, List.any_nil, Bool.or_eq_false_iff,
    beq_eq_false_iff_ne] at h
  obtain ⟨⟨h1, h2⟩, ⟨h3, h4⟩, ⟨h5, h6⟩, ⟨h7, h8⟩, -⟩ := h
  simp [Depths.ownNext, Depths.next, h1, h2, h3, h4, h5, h6, h7, h8]

theorem not_outside_ne {d : Depths} (h : ¬ d.Outside) : d ≠ Depths.zero := by
  rintro rfl
  exact h ⟨rfl, rfl, rfl⟩

/-- One token that is not split at joins the current segment. -/
theorem segmentsBy_keep {next : Depths → String → Depths} {token : Token} {rest : List Token}
    {d d' : Depths} (hd : next d token.value = d') (h : token.value = "," → d' ≠ Depths.zero)
    (current : List Token) :
    segmentsBy next (token :: rest) d current = segmentsBy next rest d' (current ++ [token]) := by
  rw [segmentsBy, hd, if_neg fun hcut => h hcut.1 hcut.2]

/-- Code between delimiters joins the current segment. -/
theorem segmentsBy_nested {inner : List Token} (h : Nested (symbols inner)) (rest : List Token)
    {d : Depths} (hd : ¬ d.Outside) (current : List Token) :
    segmentsBy Depths.ownNext (inner ++ rest) d current =
      segmentsBy Depths.ownNext rest d (current ++ inner) := by
  generalize hs : symbols inner = s at h
  induction h generalizing inner rest d current with
  | nil =>
    obtain rfl := List.map_eq_nil_iff.mp hs
    rw [List.nil_append, List.append_nil]
  | other _ ih =>
    obtain ⟨token, inner, rfl, htoken, hinner⟩ := List.map_eq_cons_iff.mp hs
    rw [List.cons_append, segmentsBy_keep (ownNext_inside htoken hd) fun _ => not_outside_ne hd,
      ih rest hd _ hinner]
    simp
  | span k _ _ ihInner ih =>
    obtain ⟨opening, rest', rfl, hopening, hrest⟩ := List.map_eq_cons_iff.mp hs
    obtain ⟨inner, rest', rfl, hinner, hrest⟩ := List.map_eq_append_iff.mp hrest
    obtain ⟨closing, after, rfl, hclosing, hafter⟩ := List.map_eq_cons_iff.mp hrest
    obtain ⟨hown, hinside, hback, hcomma, -⟩ := next_delimited hopening hclosing d
    rw [List.cons_append, segmentsBy_keep hown fun h => absurd h hcomma, List.append_assoc,
      ihInner _ hinside _ hinner, List.cons_append, segmentsBy_keep hback fun _ => not_outside_ne hd,
      ih rest hd _ hafter]
    simp

/-- Patterns and types join the current segment. -/
theorem segmentsBy_bracketed {comma : Bool} {l : List Token} (h : Bracketed comma l) (rest : List Token)
    {d : Depths} (hd : d.Outside) (hcomma : comma = true → d ≠ Depths.zero) (current : List Token) :
    segmentsBy Depths.ownNext (l ++ rest) d current =
      segmentsBy Depths.ownNext rest d (current ++ l) := by
  induction h generalizing rest d current with
  | nil => rw [List.nil_append, List.append_nil]
  | @plain comma token l hplain hvalue _ ih =>
    rw [List.cons_append, segmentsBy_keep (next_plain hplain d) fun h => hcomma (hvalue h),
      ih rest hd hcomma]
    simp
  | @delimited comma opening closing inner l k hopening hclosing hinner _ ih =>
    obtain ⟨hown, hinside, hback, hne, hne'⟩ := next_delimited hopening hclosing d
    rw [List.cons_append, segmentsBy_keep hown fun h => absurd h hne, List.append_assoc,
      segmentsBy_nested hinner _ hinside, List.cons_append, segmentsBy_keep hback fun h => absurd h hne',
      ih rest hd hcomma]
    simp
  | @angled comma opening closing inner l hopening hclosing _ _ ihInner ih =>
    have hopen : d.ownNext opening.value = { d with angle := d.angle + 1 } := by
      simp [hopening, Depths.ownNext, Depths.next, hd]
    have hclose : Depths.ownNext { d with angle := d.angle + 1 } closing.value = d := by
      have hout : Depths.Outside { d with angle := d.angle + 1 } := hd
      simp [hclosing, Depths.ownNext, Depths.next, hout]
    have hinside : ({ d with angle := d.angle + 1 } : Depths) ≠ Depths.zero := by
      simp [Depths.zero]
    have hne : ∀ h : opening.value = ",", False := fun h => absurd (hopening.symm.trans h) (by decide)
    have hne' : ∀ h : closing.value = ",", False := fun h => absurd (hclosing.symm.trans h) (by decide)
    rw [List.cons_append, segmentsBy_keep hopen fun h => (hne h).elim, List.append_assoc,
      ihInner (d := { d with angle := d.angle + 1 }) _ hd (fun _ => hinside), List.cons_append,
      segmentsBy_keep hclose fun h => (hne' h).elim, ih rest hd hcomma]
    simp

/-- A parameter does not end in a comma. -/
theorem Bracketed.last_ne_comma {l : List Token} (h : Bracketed false l) :
    l = [] ∨ ∃ init t, l = init ++ [t] ∧ t.value ≠ "," := by
  generalize hflag : false = comma at h
  induction h with
  | nil => exact .inl rfl
  | @plain comma token rest _ hvalue _ ih =>
    refine .inr ?_
    rcases ih hflag with rfl | ⟨init, t, rfl, ht⟩
    · exact ⟨[], token, rfl, fun h => absurd (hflag.trans (hvalue h)) (by decide)⟩
    · exact ⟨token :: init, t, rfl, ht⟩
  | @delimited comma opening closing inner rest k hopening hclosing _ _ ih =>
    obtain ⟨-, -, -, -, hne⟩ := next_delimited hopening hclosing Depths.zero
    refine .inr ?_
    rcases ih hflag with rfl | ⟨init, t, rfl, ht⟩
    · exact ⟨opening :: inner, closing, by simp, hne⟩
    · exact ⟨opening :: (inner ++ closing :: init), t, by simp, ht⟩
  | @angled comma opening closing inner rest _ hclosing _ _ _ ih =>
    refine .inr ?_
    rcases ih hflag with rfl | ⟨init, t, rfl, ht⟩
    · exact ⟨opening :: inner, closing, by simp, by rw [hclosing]; decide⟩
    · exact ⟨opening :: (inner ++ closing :: init), t, by simp, ht⟩

theorem trimCommas_bracketed {l : List Token} (h : Bracketed false l) : trimCommas l = l := by
  rcases h.last_ne_comma with rfl | ⟨init, t, rfl, ht⟩
  · rfl
  · exact trimCommas_snoc ht init

/-- The parameters of a list are those of the grammar. -/
theorem ownParameters_eq {tokens : List Token} {params : List (List Token)}
    (h : ParameterList tokens params) : ownParameters tokens = params := by
  unfold ownParameters
  induction h with
  | nil => rfl
  | @last param hne hparam =>
    have hwalk := segmentsBy_bracketed hparam [] (d := Depths.zero) ⟨rfl, rfl, rfl⟩ nofun []
    rw [List.append_nil, List.nil_append] at hwalk
    rw [hwalk, segmentsBy, segment, if_neg hne, List.map_singleton, trimCommas_bracketed hparam]
  | @cons param rest comma params hne hparam hcomma _ ih =>
    rw [segmentsBy_bracketed hparam _ (d := Depths.zero) ⟨rfl, rfl, rfl⟩ nofun, List.nil_append, segmentsBy,
      hcomma, ownNext_comma, if_pos ⟨rfl, rfl⟩, segment, if_neg hne, List.map_append, ih,
      List.map_singleton, trimCommas_bracketed hparam, List.singleton_append]

/-! ## Receivers -/

/-- A list of tokens behind its attributes, each a `#` (no token) and a group in brackets. -/
def dropAttributes : Nat → List Token → List Token
  | _, [] => []
  | 0, token :: rest => if token.value = "[" then dropAttributes 1 rest else token :: rest
  | depth + 1, token :: rest =>
    if token.value = "[" then dropAttributes (depth + 2) rest
    else if token.value = "]" then dropAttributes depth rest
    else dropAttributes (depth + 1) rest

/-- Behind a lifetime, whose tick is no token. -/
def dropLifetime : List Token → List Token
  | token :: rest =>
    if token.isIdentifier ∧ token.value ≠ "mut" ∧ token.value ≠ "self" then rest else token :: rest
  | [] => []

def dropMut : List Token → List Token
  | token :: rest => if token.value = "mut" then rest else token :: rest
  | [] => []

/-- A receiver: `self` or `mut self`, perhaps with a type, or a reference to it. -/
def isSelfParam (param : List Token) : Bool :=
  match dropAttributes 0 param with
  | [] => false
  | token :: rest =>
    if token.value = "&" then (dropMut (dropLifetime rest)).map Token.value == ["self"]
    else
      match (dropMut (token :: rest)).map Token.value with
      | "self" :: after => after.head?.all (· == ":")
      | _ => false

/-- The parameter holds `self`, and no colon before it. -/
def SelfFirst (param : List Token) : Prop :=
  ∃ before token after, param = before ++ token :: after ∧ token.value = "self" ∧
    ∀ t ∈ before, t.value ≠ "self" ∧ t.value ≠ ":"

theorem selfFirst_cons {token : Token} {rest : List Token} :
    SelfFirst (token :: rest) ↔
      token.value = "self" ∨ (token.value ≠ "self" ∧ token.value ≠ ":") ∧ SelfFirst rest := by
  unfold SelfFirst
  have hsplit := @exists_split_cons Token (fun t => t.value = "self")
    (fun t => t.value ≠ "self" ∧ t.value ≠ ":") (fun _ => True) token rest
  simpa only [true_and] using hsplit

theorem isReceiver_iff (param : List Token) : isReceiver param = true ↔ SelfFirst param := by
  induction param with
  | nil =>
    refine ⟨fun h => absurd h (by decide), fun h => ?_⟩
    obtain ⟨before, token, after, hparam, -⟩ := h
    exact absurd hparam (by simp)
  | cons token rest ih =>
    rw [selfFirst_cons, ← ih]
    by_cases hself : token.value = "self"
    · simp [isReceiver, hself]
    · have hself' : "self" ≠ token.value := fun h => hself h.symm
      by_cases hcolon : token.value = ":"
      · simp [isReceiver, hcolon]
      · have hcolon' : ":" ≠ token.value := fun h => hcolon h.symm
        simp [isReceiver, hself, hself', hcolon, hcolon']

theorem selfFirst_snoc {last : Token} (hlast : last.value = ",") (param : List Token) :
    SelfFirst (param ++ [last]) ↔ SelfFirst param := by
  induction param with
  | nil =>
    rw [List.nil_append, selfFirst_cons, hlast]
    simp
  | cons token rest ih => rw [List.cons_append, selfFirst_cons, selfFirst_cons, ih]

/-- Commas at its end do not make a segment a receiver. -/
theorem isReceiver_trimCommas (param : List Token) : isReceiver (trimCommas param) = isReceiver param := by
  induction param using List.reverseRecOn with
  | nil => rfl
  | append_singleton param last ih =>
    by_cases hlast : last.value = ","
    · rw [trimCommas_comma hlast, ih, Bool.eq_iff_iff, isReceiver_iff, isReceiver_iff, selfFirst_snoc hlast]
    · rw [trimCommas_snoc hlast]

/-- Two tests leave the same items of a list iff they agree on each of them. -/
theorem filter_eq_filter_iff {α : Type} {p q : α → Bool} {l : List α} :
    l.filter p = l.filter q ↔ ∀ a ∈ l, p a = q a := by
  refine ⟨fun h a ha => ?_, fun h => List.filter_congr h⟩
  have hmem : a ∈ l.filter p ↔ a ∈ l.filter q := by rw [h]
  rw [List.mem_filter, List.mem_filter] at hmem
  rw [Bool.eq_iff_iff]
  simpa only [ha, true_and] using hmem

/-- The segments counted are the parameters that are no receivers iff `self` comes before the
first colon in receivers only, and in all of them. -/
theorem filter_isReceiver_eq_iff {segments params : List (List Token)}
    (h : segments.map trimCommas = params) :
    (segments.filter fun s => !isReceiver s).map trimCommas = (params.filter fun p => !isSelfParam p) ↔
      ∀ param ∈ params, SelfFirst param ↔ isSelfParam param = true := by
  have hcomp : (fun s => !isReceiver s) = (fun s => !isReceiver s) ∘ trimCommas := by
    funext s
    rw [Function.comp_apply, isReceiver_trimCommas]
  rw [hcomp, ← List.filter_map, h, filter_eq_filter_iff]
  refine forall_congr' fun param => forall_congr' fun _ => ?_
  rw [← isReceiver_iff, ← Bool.eq_iff_iff]
  exact Bool.not_inj_iff

end Zrm.L6.RustComplexity
