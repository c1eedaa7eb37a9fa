import Mathlib.Data.List.Infix

/-!
# Runs whose steps meet a condition

A system takes one step for each action of a run. `Guarded` says that every step of a run meets a
condition in the state it is taken from: what the steps that meet it preserve holds of every state
that such a run reaches. `trace` lists the states of an infinite run.
-/

namespace JLMirror.Foundations

variable {σ α : Type*}

/-- Every step of the run meets `ok` in the state it is taken from. -/
def Guarded (step : σ → α → σ) (ok : σ → α → Prop) : σ → List α → Prop
  | _, [] => True
  | s, a :: run => ok s a ∧ Guarded step ok (step s a) run

variable {step : σ → α → σ} {ok ok' : σ → α → Prop}

instance Guarded.decidable [∀ s a, Decidable (ok s a)] (s : σ) (run : List α) : Decidable (Guarded step ok s run) :=
  match run with
  | [] => .isTrue trivial
  | a :: run => @instDecidableAnd _ _ _ (Guarded.decidable (step s a) run)

@[simp] theorem guarded_nil (s : σ) : Guarded step ok s [] := trivial

@[simp] theorem guarded_cons {s : σ} {a : α} {run : List α} :
    Guarded step ok s (a :: run) ↔ ok s a ∧ Guarded step ok (step s a) run := Iff.rfl

theorem guarded_append {s : σ} {run run' : List α} :
    Guarded step ok s (run ++ run') ↔ Guarded step ok s run ∧ Guarded step ok (run.foldl step s) run' := by
  induction run generalizing s with
  | nil => simp
  | cons a run ih => simp [ih, and_assoc]

/-- A run meets the condition if each of its steps does, after the steps before it. -/
theorem guarded_iff {s : σ} {run : List α} :
    Guarded step ok s run ↔ ∀ pre a post, run = pre ++ a :: post → ok (pre.foldl step s) a := by
  constructor
  · rintro h pre a post rfl
    exact (guarded_append.1 h).2.1
  · intro h
    induction run generalizing s with
    | nil => trivial
    | cons a run ih =>
      refine ⟨h [] a run rfl, ih fun pre b post heq => ?_⟩
      exact h (a :: pre) b post (by rw [heq, List.cons_append])

theorem Guarded.invariant {I : σ → Prop} (preserves : ∀ s a, I s → ok s a → I (step s a)) {s : σ} {run : List α}
    (hrun : Guarded step ok s run) (hs : I s) : I (run.foldl step s) := by
  induction run generalizing s with
  | nil => exact hs
  | cons a run ih => exact ih hrun.2 (preserves s a hs hrun.1)

theorem Guarded.mono_of_invariant {I : σ → Prop} (preserves : ∀ s a, I s → ok s a → I (step s a))
    (h : ∀ s a, I s → ok s a → ok' s a) {s : σ} {run : List α} (hrun : Guarded step ok s run) (hs : I s) :
    Guarded step ok' s run := by
  induction run generalizing s with
  | nil => trivial
  | cons a run ih => exact ⟨h s a hs hrun.1, ih hrun.2 (preserves s a hs hrun.1)⟩

/-- A run that starts outside of `P` and ends in it has a step that enters it. -/
theorem exists_entering {P : σ → Prop} {s : σ} {run : List α} (hs : ¬P s) (hrun : P (run.foldl step s)) :
    ∃ pre a post, run = pre ++ a :: post ∧ ¬P (pre.foldl step s) ∧ P (step (pre.foldl step s) a) := by
  induction run generalizing s with
  | nil => exact absurd hrun hs
  | cons a run ih =>
    by_cases ha : P (step s a)
    · exact ⟨[], a, run, rfl, hs, ha⟩
    · obtain ⟨pre, b, post, rfl, hpre, hb⟩ := ih ha hrun
      exact ⟨a :: pre, b, post, rfl, hpre, hb⟩

/-! ### Infinite runs -/

/-- The state that an infinite run is in before its action number `n`. -/
def trace (step : σ → α → σ) (s : σ) (r : ℕ → α) : ℕ → σ
  | 0 => s
  | n + 1 => step (trace step s r n) (r n)

theorem trace_invariant {I : σ → Prop} {s : σ} {r : ℕ → α} (hs : I s)
    (preserves : ∀ n, I (trace step s r n) → I (step (trace step s r n) (r n))) (n : ℕ) : I (trace step s r n) := by
  induction n with
  | zero => exact hs
  | succ n ih => exact preserves n ih

end JLMirror.Foundations
