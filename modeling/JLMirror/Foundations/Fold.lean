import Mathlib.Data.List.Basic

/-!
# Loops that may raise, and loops that act cell by cell

A loop `for a in l: …` whose body may raise is `List.foldlM` in `Except ε`. Where its rounds do
not disturb each other, it is the run of effects planned beforehand (`foldlM_planned`), and what each
round settles stays settled (`foldlM_settles`). The second half is about bodies that read and write
one cell of the state, the one that their argument names: such a loop is, for every cell, the loop
over the arguments that name it (`LocalStep`).
-/

namespace JLMirror.Foundations

universe u

variable {α κ β ε : Type*} {σ τ : Type u}

/-- A sequence of two computations ends if the first does, and the second from there. -/
theorem bind_ok_iff {x : Except ε τ} {f : τ → Except ε σ} {s : σ} :
    x >>= f = .ok s ↔ ∃ s₁, x = .ok s₁ ∧ f s₁ = .ok s := by
  cases x with
  | error e => simp [bind, Except.bind]
  | ok s₁ => simp [bind, Except.bind]

theorem bind_error_iff {x : Except ε τ} {f : τ → Except ε σ} {e : ε} :
    x >>= f = .error e ↔ x = .error e ∨ ∃ s₁, x = .ok s₁ ∧ f s₁ = .error e := by
  cases x with
  | error e' => simp [bind, Except.bind]
  | ok s₁ => simp [bind, Except.bind]

theorem map_ok_iff {x : Except ε τ} {f : τ → σ} {s : σ} : x.map f = .ok s ↔ ∃ a, x = .ok a ∧ f a = s := by
  cases x with
  | error e => simp [Except.map]
  | ok a => simp [Except.map]

/-- Raises unless the condition holds. -/
def require (c : Bool) (e : ε) : Except ε Unit := if c then .ok () else .error e

@[simp] theorem require_ok_iff {c : Bool} {e : ε} {u : Unit} : require c e = .ok u ↔ c = true := by
  cases c <;> simp [require]

theorem foldlM_nil_ok {f : σ → α → Except ε σ} {s s' : σ} : ([] : List α).foldlM f s = .ok s' ↔ s' = s := by
  rw [List.foldlM_nil]
  exact ⟨fun h => (Except.ok.inj h).symm, fun h => congrArg Except.ok h.symm⟩

/-- A loop ends if its first round does, and the other rounds do from there. -/
theorem foldlM_cons_ok {f : σ → α → Except ε σ} {a : α} {l : List α} {s s' : σ} :
    (a :: l).foldlM f s = .ok s' ↔ ∃ s₁, f s a = .ok s₁ ∧ l.foldlM f s₁ = .ok s' := by
  rw [List.foldlM_cons, bind_ok_iff]

theorem foldlM_cons_error {f : σ → α → Except ε σ} {a : α} {l : List α} {s : σ} {e : ε} :
    (a :: l).foldlM f s = .error e ↔ f s a = .error e ∨ ∃ s₁, f s a = .ok s₁ ∧ l.foldlM f s₁ = .error e := by
  rw [List.foldlM_cons, bind_error_iff]

/-- What the rounds over the elements of a list preserve, the loop over it preserves. -/
theorem foldlM_invariant_of_mem {f : σ → α → Except ε σ} {P : σ → Prop} {l : List α}
    (step : ∀ s, ∀ a ∈ l, ∀ s', P s → f s a = .ok s' → P s') {s s' : σ} (hs : P s) (h : l.foldlM f s = .ok s') :
    P s' := by
  induction l generalizing s with
  | nil => exact foldlM_nil_ok.1 h ▸ hs
  | cons a l ih =>
    obtain ⟨s₁, h₁, h⟩ := foldlM_cons_ok.1 h
    exact ih (fun s b hb => step s b (List.mem_cons_of_mem a hb)) (step s a List.mem_cons_self s₁ hs h₁) h

theorem foldlM_invariant {f : σ → α → Except ε σ} {P : σ → Prop}
    (step : ∀ s a s', P s → f s a = .ok s' → P s') {l : List α} {s s' : σ} (hs : P s) (h : l.foldlM f s = .ok s') :
    P s' :=
  foldlM_invariant_of_mem (fun s a _ => step s a) hs h

/-- A loop whose rounds never raise, and do not disturb what the rounds after them decide, is the
run of the effects that can be planned before it starts: `g s a` is the plan of a round, `k` applies
an effect, `I` is the invariant of the loop, and `P s a` says that the round of `a` can be planned
in `s`. -/
theorem foldlM_planned {γ : Type*} {f : σ → α → Except ε σ} {g : σ → α → List γ} {k : σ → γ → σ}
    {I : σ → Prop} {P : σ → α → Prop} {R : α → α → Prop}
    (round : ∀ s a, I s → P s a → f s a = .ok ((g s a).foldl k s) ∧ I ((g s a).foldl k s))
    (stable : ∀ s a b, I s → P s a → P s b → R a b → P ((g s a).foldl k s) b ∧ g ((g s a).foldl k s) b = g s b)
    {l : List α} {s : σ} (hl : l.Pairwise R) (hI : I s) (hP : ∀ a ∈ l, P s a) :
    l.foldlM f s = .ok ((l.flatMap (g s)).foldl k s) ∧ I ((l.flatMap (g s)).foldl k s) := by
  induction l generalizing s with
  | nil => exact ⟨rfl, hI⟩
  | cons a l ih =>
    obtain ⟨hR, hl⟩ := List.pairwise_cons.1 hl
    have hPa := hP a List.mem_cons_self
    obtain ⟨hround, hI'⟩ := round s a hI hPa
    have hrest : ∀ b ∈ l, P ((g s a).foldl k s) b ∧ g ((g s a).foldl k s) b = g s b :=
      fun b hb => stable s a b hI hPa (hP b (List.mem_cons_of_mem a hb)) (hR b hb)
    obtain ⟨hloop, hI''⟩ := ih hl hI' fun b hb => (hrest b hb).1
    have hplan : l.flatMap (g ((g s a).foldl k s)) = l.flatMap (g s) :=
      List.flatMap_congr fun b hb => (hrest b hb).2
    rw [hplan] at hloop hI''
    rw [List.flatMap_cons, List.foldl_append]
    exact ⟨foldlM_cons_ok.2 ⟨_, hround, hloop⟩, hI''⟩

/-- A loop whose rounds each settle their own element, and leave what the others have settled, settles all. `P s a` says
that what the round of `a` reads is untouched. -/
theorem foldlM_settles {f : σ → α → Except ε σ} {I : σ → Prop} {P Q : σ → α → Prop} {R : α → α → Prop}
    (hsymm : ∀ a b, R a b → R b a)
    (round : ∀ s a s', I s → P s a → f s a = .ok s' → I s' ∧ Q s' a)
    (others : ∀ s a s' b, I s → P s a → f s a = .ok s' → R a b → (P s b → P s' b) ∧ (Q s b → Q s' b))
    {l : List α} {s s' : σ} (hl : l.Pairwise R) (hI : I s) (hP : ∀ a ∈ l, P s a) (h : l.foldlM f s = .ok s') :
    I s' ∧ ∀ a ∈ l, Q s' a := by
  -- what has been settled before is carried along
  suffices hall : ∀ settled : List α, (∀ d ∈ settled, Q s d ∧ ∀ a ∈ l, R a d) →
      I s' ∧ (∀ d ∈ settled, Q s' d) ∧ ∀ a ∈ l, Q s' a by
    obtain ⟨hI', -, hQ⟩ := hall [] fun d hd => absurd hd List.not_mem_nil
    exact ⟨hI', hQ⟩
  intro settled hsettled
  induction l generalizing s settled with
  | nil =>
    rw [foldlM_nil_ok.1 h]
    exact ⟨hI, fun d hd => (hsettled d hd).1, fun a ha => absurd ha List.not_mem_nil⟩
  | cons a l ih =>
    obtain ⟨hR, hl⟩ := List.pairwise_cons.1 hl
    obtain ⟨s₁, h₁, h⟩ := foldlM_cons_ok.1 h
    have hPa := hP a List.mem_cons_self
    obtain ⟨hI₁, hQa⟩ := round s a s₁ hI hPa h₁
    have hP₁ : ∀ b ∈ l, P s₁ b := fun b hb =>
      (others s a s₁ b hI hPa h₁ (hR b hb)).1 (hP b (List.mem_cons_of_mem a hb))
    obtain ⟨hI', hdone, hrest⟩ := ih hl hI₁ hP₁ h (a :: settled) fun d hd => by
      rcases List.mem_cons.1 hd with rfl | hd
      · exact ⟨hQa, fun b hb => hsymm _ _ (hR b hb)⟩
      · obtain ⟨hQd, hRd⟩ := hsettled d hd
        exact ⟨(others s a s₁ d hI hPa h₁ (hRd a List.mem_cons_self)).2 hQd, fun b hb => hRd b (List.mem_cons_of_mem a hb)⟩
    refine ⟨hI', fun d hd => hdone d (List.mem_cons_of_mem a hd), fun b hb => ?_⟩
    rcases List.mem_cons.1 hb with rfl | hb
    · exact hdone b List.mem_cons_self
    · exact hrest b hb

theorem foldlM_kept {f : σ → α → Except ε σ} {C : σ → Prop} {l : List α}
    (round : ∀ s, ∀ a ∈ l, C s → ∃ s', f s a = .ok s' ∧ C s') {s : σ} (hs : C s) :
    ∃ s', l.foldlM f s = .ok s' ∧ C s' := by
  induction l generalizing s with
  | nil => exact ⟨s, rfl, hs⟩
  | cons a l ih =>
    obtain ⟨s₁, h₁, hs₁⟩ := round s a List.mem_cons_self hs
    obtain ⟨s', h', hs'⟩ := ih (fun s b hb => round s b (List.mem_cons_of_mem a hb)) hs₁
    exact ⟨s', foldlM_cons_ok.2 ⟨s₁, h₁, h'⟩, hs'⟩

/-- Each step reads and writes one cell of the view, by `rule`. -/
structure LocalStep (P : σ → Prop) (view : σ → κ → β) (key : α → κ) (rule : β → α → Except ε β)
    (step : σ → α → Except ε σ) : Prop where
  keeps : ∀ {s a s'}, P s → step s a = .ok s' → P s'
  ok : ∀ {s a s'}, P s → step s a = .ok s' → rule (view s (key a)) a = .ok (view s' (key a))
  error : ∀ {s a e}, P s → step s a = .error e → rule (view s (key a)) a = .error e
  frame : ∀ {s a s'}, P s → step s a = .ok s' → ∀ k, k ≠ key a → view s' k = view s k

/-- A step is local if it raises with its rule, or ends with it and leaves the other cells alone. -/
theorem LocalStep.of_cases {P : σ → Prop} {view : σ → κ → β} {key : α → κ} {rule : β → α → Except ε β}
    {step : σ → α → Except ε σ}
    (h : ∀ s a, P s → (∃ e, step s a = .error e ∧ rule (view s (key a)) a = .error e) ∨
      ∃ s', step s a = .ok s' ∧ P s' ∧ rule (view s (key a)) a = .ok (view s' (key a)) ∧
        ∀ k, k ≠ key a → view s' k = view s k) : LocalStep P view key rule step := by
  constructor
  · intro s a s' hs hok
    rcases h s a hs with ⟨e, he, -⟩ | ⟨s₁, h₁, hP, -⟩
    · cases he.symm.trans hok
    · rwa [← Except.ok.inj (h₁.symm.trans hok)]
  · intro s a s' hs hok
    rcases h s a hs with ⟨e, he, -⟩ | ⟨s₁, h₁, -, hr, -⟩
    · cases he.symm.trans hok
    · rwa [← Except.ok.inj (h₁.symm.trans hok)]
  · intro s a e hs herr
    rcases h s a hs with ⟨e', he, hr⟩ | ⟨s₁, h₁, -⟩
    · rwa [← Except.error.inj (he.symm.trans herr)]
    · cases h₁.symm.trans herr
  · intro s a s' hs hok
    rcases h s a hs with ⟨e, he, -⟩ | ⟨s₁, h₁, -, -, hf⟩
    · cases he.symm.trans hok
    · rwa [← Except.ok.inj (h₁.symm.trans hok)]

namespace LocalStep

variable [DecidableEq κ] {P : σ → Prop} {view : σ → κ → β} {key : α → κ} {rule : β → α → Except ε β}
  {step : σ → α → Except ε σ}

omit [DecidableEq κ] in
/-- A loop whose arguments name different cells ends exactly if each rule does on its cell. -/
theorem fold_ends_iff_of_nodup (h : LocalStep P view key rule step) {l : List α} {s : σ} (hs : P s)
    (hl : (l.map key).Nodup) :
    (∃ s', l.foldlM step s = .ok s') ↔ ∀ a ∈ l, ∃ b, rule (view s (key a)) a = .ok b := by
  induction l generalizing s with
  | nil => exact ⟨fun _ _ ha => absurd ha List.not_mem_nil, fun _ => ⟨s, rfl⟩⟩
  | cons a l ih =>
    obtain ⟨hnew, hl⟩ := List.nodup_cons.1 hl
    have hframe : ∀ s₁, step s a = .ok s₁ → ∀ b ∈ l, view s₁ (key b) = view s (key b) := by
      intro s₁ h₁ b hb
      exact h.frame hs h₁ (key b) fun heq => hnew (heq ▸ List.mem_map_of_mem hb)
    constructor
    · rintro ⟨s', hfold⟩ b hb
      obtain ⟨s₁, h₁, hfold⟩ := foldlM_cons_ok.1 hfold
      rcases List.mem_cons.1 hb with rfl | hb
      · exact ⟨_, h.ok hs h₁⟩
      · rw [← hframe s₁ h₁ b hb]
        exact (ih (h.keeps hs h₁) hl).1 ⟨s', hfold⟩ b hb
    · intro hrules
      cases h₁ : step s a with
      | error e =>
        obtain ⟨b, hb⟩ := hrules a List.mem_cons_self
        cases hb.symm.trans (h.error hs h₁)
      | ok s₁ =>
        obtain ⟨s', hfold⟩ := (ih (h.keeps hs h₁) hl).2 fun b hb => by
          rw [hframe s₁ h₁ b hb]
          exact hrules b (List.mem_cons_of_mem a hb)
        exact ⟨s', foldlM_cons_ok.2 ⟨s₁, h₁, hfold⟩⟩

/-- A loop that ends is the loop over its own arguments on every cell. -/
theorem fold_ok (h : LocalStep P view key rule step) {l : List α} {s s' : σ} (hs : P s)
    (hl : l.foldlM step s = .ok s') (k : κ) :
    (l.filter fun a => key a = k).foldlM rule (view s k) = .ok (view s' k) := by
  induction l generalizing s with
  | nil => exact foldlM_nil_ok.2 (by rw [foldlM_nil_ok.1 hl])
  | cons a l ih =>
    obtain ⟨s₁, h₁, hl⟩ := foldlM_cons_ok.1 hl
    have ih := ih (h.keeps hs h₁) hl
    by_cases hk : key a = k
    · subst hk
      rw [List.filter_cons_of_pos (by simp)]
      exact foldlM_cons_ok.2 ⟨_, h.ok hs h₁, ih⟩
    · rw [List.filter_cons_of_neg (by simpa using hk), ← h.frame hs h₁ k (Ne.symm hk)]
      exact ih

/-- A loop that raises does so in a cell. -/
theorem fold_error (h : LocalStep P view key rule step) {l : List α} {s : σ} {e : ε} (hs : P s)
    (hl : l.foldlM step s = .error e) : ∃ k, (l.filter fun a => key a = k).foldlM rule (view s k) = .error e := by
  induction l generalizing s with
  | nil => cases hl
  | cons a l ih =>
    rcases foldlM_cons_error.1 hl with ha | ⟨s₁, h₁, hl⟩
    · refine ⟨key a, ?_⟩
      rw [List.filter_cons_of_pos (by simp)]
      exact foldlM_cons_error.2 (Or.inl (h.error hs ha))
    · obtain ⟨k, ih⟩ := ih (h.keeps hs h₁) hl
      refine ⟨k, ?_⟩
      by_cases hk : key a = k
      · subst hk
        rw [List.filter_cons_of_pos (by simp)]
        exact foldlM_cons_error.2 (Or.inr ⟨_, h.ok hs h₁, ih⟩)
      · rw [List.filter_cons_of_neg (by simpa using hk), ← h.frame hs h₁ k (Ne.symm hk)]
        exact ih

/-- A loop ends exactly if it does on every cell. -/
theorem fold_ends_iff (h : LocalStep P view key rule step) {l : List α} {s : σ} (hs : P s) :
    (∃ s', l.foldlM step s = .ok s') ↔ ∀ k, ∃ b, (l.filter fun a => key a = k).foldlM rule (view s k) = .ok b := by
  constructor
  · rintro ⟨s', hl⟩ k
    exact ⟨_, h.fold_ok hs hl k⟩
  · intro hk
    cases hl : l.foldlM step s with
    | ok s' => exact ⟨s', rfl⟩
    | error e =>
      obtain ⟨k, he⟩ := h.fold_error hs hl
      obtain ⟨b, hb⟩ := hk k
      rw [he] at hb
      cases hb

end LocalStep

end JLMirror.Foundations
