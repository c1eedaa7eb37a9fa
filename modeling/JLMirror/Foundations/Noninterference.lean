import JLMirror.Foundations.Run

/-!
# Programs that stay in their own part of a state

A program takes a state to an answer and a state. `Confined own rest Ok` says of a program and a state that on the own
part of the state it does what it does on the whole, that it leaves the rest alone, and keeps the states sound. Where
each step of a run is confined, the answers and the own part depend on the own part only: runs from two states that have
it in common cannot be told apart.

## What is proved

* `confined_reply`, `confined_ite`, `confined_write`: the rules for programs.
* **Key result** (`confined_runs`): two runs from states with the same own part.
-/

namespace JLMirror.Foundations

variable {σ ρ ω α : Type*}

/-- A program and its answer. -/
abbrev Program (σ ρ : Type*) := σ → ρ × σ

/-- What a program does on a state is what it does on the own part of it. -/
structure Confined (own : σ → σ) (rest : σ → ω) (Ok : σ → Prop) (h : Program σ ρ) (s : σ) : Prop where
  answer : (h (own s)).1 = (h s).1
  after : (h (own s)).2 = own (h s).2
  rest : rest (h s).2 = rest s
  sound : Ok (h s).2

variable {own : σ → σ} {rest : σ → ω} {Ok : σ → Prop} {s s' : σ}

theorem confined_reply {r : σ → ρ} (hs : Ok s) (hr : r (own s) = r s) : Confined own rest Ok (fun s => (r s, s)) s :=
  ⟨hr, rfl, rfl, hs⟩

theorem confined_const {r : ρ} (hs : Ok s) : Confined own rest Ok (fun s => (r, s)) s := confined_reply hs rfl

theorem confined_ite {c : σ → Prop} [DecidablePred c] {t e : Program σ ρ} (hc : c (own s) ↔ c s)
    (ht : c s → Confined own rest Ok t s) (he : ¬c s → Confined own rest Ok e s) :
    Confined own rest Ok (fun s => if c s then t s else e s) s := by
  by_cases h : c s
  · have hown := hc.2 h
    obtain ⟨hanswer, hafter, hrest, hsound⟩ := ht h
    exact ⟨by simp only [h, hown, if_true, hanswer], by simp only [h, hown, if_true, hafter],
      by simp only [h, if_true, hrest], by simpa only [h, if_true] using hsound⟩
  · have hown := mt hc.1 h
    obtain ⟨hanswer, hafter, hrest, hsound⟩ := he h
    exact ⟨by simp only [h, hown, if_false, hanswer], by simp only [h, hown, if_false, hafter],
      by simp only [h, if_false, hrest], by simpa only [h, if_false] using hsound⟩

theorem confined_write {r : ρ} {w : σ → σ} (hown : w (own s) = own (w s)) (hrest : rest (w s) = rest s)
    (hsound : Ok (w s)) : Confined own rest Ok (fun s => (r, w s)) s := ⟨rfl, hown, hrest, hsound⟩

/-- The answers of a run, and the state after it. -/
def answers (step : α → Program σ ρ) : List α → Program σ (List ρ)
  | [], s => ([], s)
  | a :: run, s => ((step a s).1 :: (answers step run (step a s).2).1, (answers step run (step a s).2).2)

/-- Runs of confined steps, from two states with the same own part: the same answers, the same own part, and the rest is
what it was. -/
theorem confined_runs {step : α → Program σ ρ} {ok : σ → α → Prop}
    (hstep : ∀ s a, Ok s → ok s a → Confined own rest Ok (step a) s) {run : List α} (hs : Ok s) (hs' : Ok s')
    (hrun : Guarded (fun s a => (step a s).2) ok s run) (hrun' : Guarded (fun s a => (step a s).2) ok s' run)
    (hown : own s = own s') :
    (answers step run s).1 = (answers step run s').1 ∧
      own (answers step run s).2 = own (answers step run s').2 ∧ rest (answers step run s).2 = rest s := by
  induction run generalizing s s' with
  | nil => exact ⟨rfl, hown, rfl⟩
  | cons a run ih =>
    have hc := hstep s a hs hrun.1
    have hc' := hstep s' a hs' hrun'.1
    have hanswer : (step a s).1 = (step a s').1 := by rw [← hc.answer, ← hc'.answer, hown]
    have hafter : own (step a s).2 = own (step a s').2 := by rw [← hc.after, ← hc'.after, hown]
    obtain ⟨hanswers, hend, hrest⟩ := ih hc.sound hc'.sound hrun.2 hrun'.2 hafter
    exact ⟨congrArg₂ List.cons hanswer hanswers, hend, hrest.trans hc.rest⟩

end JLMirror.Foundations
