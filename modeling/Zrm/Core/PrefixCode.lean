import Mathlib.Data.List.Basic

/-!
# Encodings that can be read back

`ReadsBack F enc a`: in front of anything that `F` allows, the encoding of `a` has no
other reading. The property is stated for one value, so that it can be carried by an
induction over the values.

* `readsBack_of_read`: from a reader.
* `readsBack_of_run`: an encoding in letters that `F` bars from what follows.
* `ReadsBack.separated`, `ReadsBack.terminated`: lists.
-/
namespace Zrm.PrefixCode

variable {α β σ : Type}

/-- In front of what `F` allows, `enc a` is read as `a` and as nothing else. -/
def ReadsBack (F : List σ → Prop) (enc : α → List σ) (a : α) : Prop :=
  ∀ b r s, F r → F s → enc a ++ r = enc b ++ s → a = b ∧ r = s

/-- Nothing is asked of what follows. -/
def Anything (_ : List σ) : Prop := True

/-- What follows does not open with a letter of `p`. -/
def Stops (p : σ → Prop) (r : List σ) : Prop := ∀ c ∈ r.head?, ¬ p c

@[simp] theorem anything (r : List σ) : Anything r := trivial

@[simp] theorem stops_nil (p : σ → Prop) : Stops p [] := by simp [Stops]

@[simp] theorem stops_cons {p : σ → Prop} {c : σ} {r : List σ} : Stops p (c :: r) ↔ ¬ p c := by
  simp [Stops]

variable {F G : List σ → Prop} {enc : α → List σ} {a : α}

theorem ReadsBack.eq (h : ReadsBack F enc a) (hnil : F []) {b : α} (heq : enc a = enc b) :
    a = b :=
  (h b [] [] hnil hnil (by rw [heq])).1

theorem injective_of_readsBack (h : ∀ a, ReadsBack F enc a) (hnil : F []) :
    Function.Injective enc :=
  fun a _ heq => (h a).eq hnil heq

/-! ## Single values -/

theorem readsBack_of_read {read : List σ → Option (α × List σ)}
    (h : ∀ a r, read (enc a ++ r) = some (a, r)) (a : α) : ReadsBack Anything enc a := by
  intro b r s _ _ heq
  have hread := h a r
  rw [heq, h b s] at hread
  simpa [eq_comm] using hread

/-- A run of letters ends where a letter of another kind stands. -/
theorem run_unique {p : σ → Prop} {xs ys r s : List σ} (hxs : ∀ c ∈ xs, p c) (hys : ∀ c ∈ ys, p c)
    (hr : Stops p r) (hs : Stops p s) (heq : xs ++ r = ys ++ s) : xs = ys ∧ r = s := by
  induction xs generalizing ys with
  | nil =>
    cases ys with
    | nil => exact ⟨rfl, heq⟩
    | cons y ys =>
      rw [List.nil_append] at heq
      rw [heq, List.cons_append, stops_cons] at hr
      exact absurd (hys y List.mem_cons_self) hr
  | cons x xs ih =>
    cases ys with
    | nil =>
      rw [List.nil_append] at heq
      rw [← heq, List.cons_append, stops_cons] at hs
      exact absurd (hxs x List.mem_cons_self) hs
    | cons y ys =>
      rw [List.cons_append, List.cons_append, List.cons.injEq] at heq
      have htail := ih (fun c hc => hxs c (List.mem_cons_of_mem x hc))
        (fun c hc => hys c (List.mem_cons_of_mem y hc)) heq.2
      exact ⟨congrArg₂ _ heq.1 htail.1, htail.2⟩

theorem readsBack_of_run {p : σ → Prop} (hp : ∀ a, ∀ c ∈ enc a, p c)
    (hinj : Function.Injective enc) (a : α) : ReadsBack (Stops p) enc a := by
  intro b r s hr hs heq
  obtain ⟨henc, hrest⟩ := run_unique (hp a) (hp b) hr hs heq
  exact ⟨hinj henc, hrest⟩

theorem ReadsBack.cons (h : ReadsBack F enc a) (c : σ) : ReadsBack F (fun a => c :: enc a) a :=
  fun b r s hr hs heq => h b r s hr hs (List.cons.inj heq).2

theorem ReadsBack.comap {f : β → α} (hf : Function.Injective f) {b : β}
    (h : ReadsBack F enc (f b)) : ReadsBack F (fun b => enc (f b)) b := by
  intro b' r s hr hs heq
  obtain ⟨hval, hrest⟩ := h (f b') r s hr hs heq
  exact ⟨hf hval, hrest⟩

theorem ReadsBack.pair {enc' : β → List σ} {b : β} (ha : ReadsBack F enc a)
    (hb : ReadsBack G enc' b) (hF : ∀ c r, G r → F (enc' c ++ r)) :
    ReadsBack G (fun x : α × β => enc x.1 ++ enc' x.2) (a, b) := by
  intro x r s hr hs heq
  simp only [List.append_assoc] at heq
  obtain ⟨h1, hrest⟩ := ha x.1 _ _ (hF b r hr) (hF x.2 s hs) heq
  obtain ⟨h2, hrest⟩ := hb x.2 r s hr hs hrest
  exact ⟨Prod.ext h1 h2, hrest⟩

/-! ## Lists -/

/-- `items`, one after the other, and `stop` -/
def terminated (enc : α → List σ) (stop : σ) (items : List α) : List σ :=
  items.flatMap enc ++ [stop]

/-- `items` with `sep` between them, and `stop` -/
def separated (enc : α → List σ) (sep stop : σ) : List α → List σ
  | [] => [stop]
  | item :: items => enc item ++ terminated (fun a => sep :: enc a) stop items

/-- No encoding is empty or opens with `stop`. -/
def Avoids (enc : α → List σ) (stop : σ) : Prop := ∀ a, ∃ c t, enc a = c :: t ∧ c ≠ stop

theorem Avoids.ne (h : Avoids enc stop) (a : α) (r s : List σ) : enc a ++ r ≠ stop :: s := by
  obtain ⟨c, t, henc, hc⟩ := h a
  rw [henc, List.cons_append]
  exact fun heq => hc (List.cons.inj heq).1

variable {sep stop : σ} {items : List α}

theorem terminated_cons : terminated enc stop (a :: items) = enc a ++ terminated enc stop items := by
  rw [terminated, List.flatMap_cons, List.append_assoc]
  rfl

/-- A list of encodings ends at the first `stop` that is not inside one. -/
theorem ReadsBack.terminated (h : ∀ a ∈ items, ReadsBack F enc a) (hstop : Avoids enc stop)
    (hF : ∀ l r, F (terminated enc stop l ++ r)) :
    ReadsBack Anything (terminated enc stop) items := by
  intro items' r s _ _ heq
  induction items generalizing items' with
  | nil =>
    cases items' with
    | nil => exact ⟨rfl, (List.cons.inj heq).2⟩
    | cons b l =>
      rw [terminated_cons, List.append_assoc] at heq
      exact absurd heq.symm (hstop.ne b _ r)
  | cons a l ih =>
    rw [List.forall_mem_cons] at h
    cases items' with
    | nil =>
      rw [terminated_cons, List.append_assoc] at heq
      exact absurd heq (hstop.ne a _ s)
    | cons b l' =>
      rw [terminated_cons, terminated_cons, List.append_assoc, List.append_assoc] at heq
      obtain ⟨rfl, hrest⟩ := h.1 b _ _ (hF l r) (hF l' s) heq
      obtain ⟨rfl, hend⟩ := ih h.2 l' hrest
      exact ⟨rfl, hend⟩

theorem terminated_head (enc : α → List σ) (sep stop : σ) (l : List α) (r : List σ) :
    ∃ t, terminated (fun a => sep :: enc a) stop l ++ r = sep :: t ∨
      terminated (fun a => sep :: enc a) stop l ++ r = stop :: t := by
  cases l with
  | nil => exact ⟨r, .inr rfl⟩
  | cons a l => exact ⟨_, .inl rfl⟩

/-- So does one with separators between them. -/
theorem ReadsBack.separated (h : ∀ a ∈ items, ReadsBack F enc a) (hstop : Avoids enc stop)
    (hne : sep ≠ stop) (hsep : ∀ r, F (sep :: r)) (hend : ∀ r, F (stop :: r)) :
    ReadsBack Anything (separated enc sep stop) items := by
  have hF : ∀ l r, F (PrefixCode.terminated (fun a => sep :: enc a) stop l ++ r) := by
    intro l r
    obtain ⟨t, ht | ht⟩ := terminated_head enc sep stop l r <;> rw [ht]
    · exact hsep t
    · exact hend t
  have hlater : ∀ l : List α, (∀ a ∈ l, ReadsBack F enc a) →
      ReadsBack Anything (PrefixCode.terminated (fun a => sep :: enc a) stop) l := by
    intro l hl
    exact ReadsBack.terminated (F := F) (fun a ha => (hl a ha).cons sep)
      (fun a => ⟨sep, enc a, rfl, hne⟩) hF
  intro items' r s _ _ heq
  cases items with
  | nil =>
    cases items' with
    | nil => exact ⟨rfl, (List.cons.inj heq).2⟩
    | cons b l =>
      rw [PrefixCode.separated, PrefixCode.separated, List.append_assoc] at heq
      exact absurd heq.symm (hstop.ne b _ r)
  | cons a l =>
    rw [List.forall_mem_cons] at h
    cases items' with
    | nil =>
      rw [PrefixCode.separated, PrefixCode.separated, List.append_assoc] at heq
      exact absurd heq (hstop.ne a _ s)
    | cons b l' =>
      rw [PrefixCode.separated, PrefixCode.separated, List.append_assoc, List.append_assoc] at heq
      obtain ⟨rfl, hrest⟩ := h.1 b _ _ (hF l r) (hF l' s) heq
      obtain ⟨rfl, htail⟩ := hlater l h.2 l' r s trivial trivial hrest
      exact ⟨rfl, htail⟩

theorem separated_map (f : β → α) (items : List β) :
    separated enc sep stop (items.map f) = separated (fun b => enc (f b)) sep stop items := by
  cases items with
  | nil => rfl
  | cons b l => simp [PrefixCode.separated, PrefixCode.terminated, List.flatMap_map]

theorem mem_separated {c : σ} (h : c ∈ separated enc sep stop items) :
    c = sep ∨ c = stop ∨ ∃ item ∈ items, c ∈ enc item := by
  cases items with
  | nil => exact .inr (.inl (by simpa [PrefixCode.separated] using h))
  | cons a l =>
    simp only [PrefixCode.separated, PrefixCode.terminated, List.mem_append, List.mem_flatMap,
      List.mem_cons, List.not_mem_nil, or_false] at h
    rcases h with h | ⟨b, hb, h | h⟩ | h
    · exact .inr (.inr ⟨a, List.mem_cons_self, h⟩)
    · exact .inl h
    · exact .inr (.inr ⟨b, List.mem_cons_of_mem a hb, h⟩)
    · exact .inr (.inl h)

end Zrm.PrefixCode
