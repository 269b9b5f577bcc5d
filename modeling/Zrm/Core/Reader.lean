import Zrm.Core.Result

/-!
# Readers over a cursor

A *reader* consumes a prefix of a list or fails; readers are sequenced by
`StateT`. Two views of a reader:

* `ExactOn p Q enc`: `p` reads back exactly what `enc` writes. It accepts an
  input with value `c` and rest `t` iff `Q c` and the input is `enc c ++ t`;
  so `p` inverts `enc` (round trip), and whatever `p` accepts is an encoding
  (canonicity). `ExactOn.bind` builds the statement for a sequence of
  readers from those of the parts; `proj` says which part of the final value
  the first reader supplied, and the condition `Q` collects these.
* `Traces p b scan`: run on the suffixes of a fixed string `b`, `p` moves as
  `scan` moves an offset into `b`, and fails as `scan` fails. `Traces.bind`
  chains the offset scans.
-/
namespace Zrm.Reading
open Zrm.Result

/-- A reader of `α` from a list of `β`: it returns the value and the rest. -/
abbrev Reader (ε β α : Type) := StateT (List β) (Except ε) α

variable {ε β α γ : Type}

theorem run_bind_ok {p : Reader ε β α} {f : α → Reader ε β γ} {s t : List β} {c : γ} :
    (p >>= f).run s = .ok (c, t) ↔ ∃ a s', p.run s = .ok (a, s') ∧ (f a).run s' = .ok (c, t) := by
  rw [StateT.run_bind]
  cases h : p.run s with
  | error e => simp
  | ok r => simp [Prod.ext_iff]

/-! ## Exact readers -/

/-- `p` accepts exactly the encodings `enc c` of the values `c` with `Q c`. -/
def ExactOn (p : Reader ε β α) (Q : α → Prop) (enc : α → List β) : Prop :=
  ∀ s c t, p.run s = .ok (c, t) ↔ Q c ∧ s = enc c ++ t

/-- `p` accepts exactly the encodings `enc c`. -/
abbrev Exact (p : Reader ε β α) (enc : α → List β) : Prop := ExactOn p (fun _ => True) enc

theorem Exact.run {p : Reader ε β α} {enc : α → List β} (h : Exact p enc) (c : α) (t : List β) :
    p.run (enc c ++ t) = .ok (c, t) := (h _ c t).mpr ⟨trivial, rfl⟩

theorem ExactOn.pure {Q : α → Prop} {a : α} (h : ∀ c, Q c ↔ c = a) :
    ExactOn (Pure.pure a : Reader ε β α) Q (fun _ => []) := by
  intro s c t
  show Except.ok (a, s) = .ok (c, t) ↔ _
  simp only [Except.ok.injEq, Prod.mk.injEq, h, List.nil_append]
  exact and_congr_left fun _ => eq_comm

/-- Sequencing; the first reader may accept only the values with `P`. -/
theorem ExactOn.bindOn {p : Reader ε β α} {f : α → Reader ε β γ} {P : α → Prop} {Q : γ → Prop}
    {e1 : α → List β} {e2 : γ → List β} (hp : ExactOn p P e1) (proj : γ → α)
    (hf : ∀ a, P a → ExactOn (f a) (fun c => Q c ∧ proj c = a) e2) (hP : ∀ c, Q c → P (proj c)) :
    ExactOn (p >>= f) Q (fun c => e1 (proj c) ++ e2 c) := by
  intro s c t
  rw [run_bind_ok]
  refine ⟨fun h => ?_, fun h => ?_⟩
  · obtain ⟨a, s', hs, hs'⟩ := h
    obtain ⟨ha, rfl⟩ := (hp s _ _).mp hs
    obtain ⟨⟨hQ, rfl⟩, rfl⟩ := (hf a ha s' c t).mp hs'
    exact ⟨hQ, by rw [List.append_assoc]⟩
  · obtain ⟨hQ, rfl⟩ := h
    refine ⟨proj c, e2 c ++ t, (hp _ _ _).mpr ⟨hP c hQ, ?_⟩, (hf _ (hP c hQ) _ c t).mpr ⟨⟨hQ, rfl⟩, rfl⟩⟩
    rw [List.append_assoc]

theorem ExactOn.bind {p : Reader ε β α} {f : α → Reader ε β γ} {Q : γ → Prop}
    {e1 : α → List β} {e2 : γ → List β} (hp : Exact p e1) (proj : γ → α)
    (hf : ∀ a, ExactOn (f a) (fun c => Q c ∧ proj c = a) e2) :
    ExactOn (p >>= f) Q (fun c => e1 (proj c) ++ e2 c) :=
  hp.bindOn proj (fun a _ => hf a) fun _ _ => trivial

/-- A computation that reads nothing. -/
theorem ExactOn.lift {x : Except ε α} {Q : α → Prop} (h : ∀ c, x = .ok c ↔ Q c) :
    ExactOn (liftM x : Reader ε β α) Q (fun _ => []) := by
  intro s c t
  rw [← h]
  cases x <;> simp

/-- A check: the reader goes on exactly when `P` fails. -/
theorem ExactOn.guard {p : Reader ε β α} {Q : α → Prop} {enc : α → List β} {P : Prop} [Decidable P]
    {e : ε} (h : ¬ P → ExactOn p Q enc) :
    ExactOn (if P then throw e else p) (fun c => Q c ∧ ¬ P) enc := by
  intro s c t
  by_cases hP : P
  · rw [if_pos hP]; simp [hP]
  · rw [if_neg hP]; simpa [hP] using h hP s c t

theorem ExactOn.congr {p : Reader ε β α} {Q Q' : α → Prop} {enc enc' : α → List β}
    (h : ExactOn p Q enc) (hQ : ∀ c, Q' c ↔ Q c) (he : ∀ c, Q c → enc' c = enc c) :
    ExactOn p Q' enc' := by
  intro s c t
  rw [h s c t, hQ]
  exact and_congr_right fun hc => by rw [he c hc]

/-- Reading one expected value. -/
theorem ExactOn.expect [DecidableEq α] {p : Reader ε β α} {q : Reader ε β γ} {Q : γ → Prop}
    {e1 : α → List β} {e2 : γ → List β} {e : ε} (hp : Exact p e1) (a : α) (hq : ExactOn q Q e2) :
    ExactOn (p >>= fun x => if x ≠ a then throw e else q) Q (fun c => e1 a ++ e2 c) :=
  ExactOn.bind hp (fun _ => a) fun x =>
    (ExactOn.guard fun _ => hq).congr (fun _ => by rw [not_not, eq_comm]) fun _ _ => rfl

/-- Reading through a bijection of the values. -/
theorem Exact.map {p : Reader ε β α} {enc : α → List β} (h : Exact p enc) {f : α → γ} {g : γ → α}
    (hfg : ∀ c, f (g c) = c) (hgf : ∀ a, g (f a) = a) : Exact (f <$> p) (fun c => enc (g c)) := by
  have hb : ExactOn (p >>= fun a => Pure.pure (f a)) (fun _ : γ => True)
      (fun c => enc (g c) ++ []) := by
    refine ExactOn.bind h g fun a => ExactOn.pure fun c => ?_
    refine ⟨fun hvalue => ?_, fun hvalue => ?_⟩
    · obtain ⟨-, rfl⟩ := hvalue
      exact (hfg c).symm
    · subst hvalue
      exact ⟨trivial, hgf a⟩
  rw [map_eq_pure_bind]
  exact hb.congr (fun _ => Iff.rfl) fun c _ => by rw [List.append_nil]

/-- Two values whose encodings open the same input are equal. -/
theorem ExactOn.inj {p : Reader ε β α} {Q : α → Prop} {enc : α → List β} (h : ExactOn p Q enc)
    {c c' : α} {t t' : List β} (hc : Q c) (hc' : Q c') (heq : enc c ++ t = enc c' ++ t') :
    c = c' ∧ t = t' := by
  have hrun := (h (enc c ++ t) c t).mpr ⟨hc, rfl⟩
  rw [heq, (h _ c' t').mpr ⟨hc', rfl⟩, Except.ok.injEq, Prod.mk.injEq] at hrun
  exact ⟨hrun.1.symm, hrun.2.symm⟩

/-- Values written one behind the other have one reading, if no encoding is empty. -/
theorem ExactOn.flatMap_inj {p : Reader ε β α} {Q : α → Prop} {enc : α → List β} (h : ExactOn p Q enc)
    (hne : ∀ c, enc c ≠ []) {l l' : List α} (hl : ∀ c ∈ l, Q c) (hl' : ∀ c ∈ l', Q c)
    (heq : l.flatMap enc = l'.flatMap enc) : l = l' := by
  induction l generalizing l' with
  | nil =>
    cases l' with
    | nil => rfl
    | cons c l' =>
      rw [List.flatMap_nil, List.flatMap_cons] at heq
      exact absurd (List.append_eq_nil_iff.mp heq.symm).1 (hne c)
  | cons c l ih =>
    cases l' with
    | nil =>
      rw [List.flatMap_nil, List.flatMap_cons] at heq
      exact absurd (List.append_eq_nil_iff.mp heq).1 (hne c)
    | cons c' l' =>
      rw [List.flatMap_cons, List.flatMap_cons] at heq
      rw [List.forall_mem_cons] at hl hl'
      obtain ⟨rfl, hrest⟩ := h.inj hl.1 hl'.1 heq
      rw [ih hl.2 hl'.2 hrest]

/-- `split_at_checked`: the first `n` elements, or an error. -/
def takeN (e : ε) (n : Nat) : Reader ε β (List β) := fun remaining =>
  if n ≤ remaining.length then .ok (remaining.take n, remaining.drop n) else .error e

theorem takeN_of_le {e : ε} {n : Nat} {s : List β} (h : n ≤ s.length) :
    (takeN e n).run s = .ok (s.take n, s.drop n) := if_pos h

theorem takeN_of_lt {e : ε} {n : Nat} {s : List β} (h : s.length < n) :
    (takeN e n).run s = .error e := if_neg (Nat.not_le_of_lt h)

theorem takeN_exact (e : ε) (n : Nat) :
    ExactOn (takeN e n : Reader ε β (List β)) (fun a => a.length = n) id := by
  intro s a t
  by_cases h : n ≤ s.length
  · rw [takeN_of_le h, Except.ok.injEq, Prod.mk.injEq]
    refine ⟨fun h' => ?_, fun h' => ?_⟩
    · obtain ⟨rfl, rfl⟩ := h'
      exact ⟨List.length_take_of_le h, (List.take_append_drop n s).symm⟩
    · obtain ⟨hn, rfl⟩ := h'
      exact ⟨List.take_left' hn, List.drop_left' hn⟩
  · rw [takeN_of_lt (Nat.lt_of_not_le h)]
    simp only [reduceCtorEq, false_iff, not_and]
    intro hn hs
    subst hs
    simp only [id_eq, List.length_append] at h
    omega

/-! ## Offset scans -/

/-- On the suffixes of `b`, `p` moves as `scan` moves the offset. -/
def Traces (p : Reader ε β α) (b : List β) (scan : Nat → Except ε Nat) : Prop :=
  ∀ off, (p.run (b.drop off)).map Prod.snd = (scan off).map b.drop

theorem Traces.pure (a : α) (b : List β) : Traces (Pure.pure a : Reader ε β α) b .ok := fun _ => rfl

theorem Traces.bind {p : Reader ε β α} {f : α → Reader ε β γ} {b : List β}
    {scan scan' : Nat → Except ε Nat} (hp : Traces p b scan) (hf : ∀ a, Traces (f a) b scan') :
    Traces (p >>= f) b (fun off => scan off >>= scan') := by
  intro off
  have hp' := hp off
  rw [StateT.run_bind]
  show _ = ((scan off >>= scan').map b.drop)
  cases hr : p.run (b.drop off) <;> cases hs : scan off <;> rw [hr, hs] at hp' <;>
    simp only [Except.map, Except.error.injEq, Except.ok.injEq, reduceCtorEq] at hp'
  · rw [hp']; rfl
  · rw [ok_bind, ok_bind, hp']; exact hf _ _

theorem Traces.map {p : Reader ε β α} {b : List β} {scan : Nat → Except ε Nat} (hp : Traces p b scan)
    (f : α → γ) : Traces (f <$> p) b scan := by
  intro off
  rw [← hp off, StateT.run_map]
  cases p.run (b.drop off) <;> rfl

end Zrm.Reading
