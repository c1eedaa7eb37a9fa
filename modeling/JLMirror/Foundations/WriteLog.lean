import Mathlib.Data.List.Basic

/-!
# The uncommitted writes of several sessions

Several sessions of a database at READ COMMITTED, over an arbitrary type `σ` of committed states and
an arbitrary type `ω` of writes: what is committed, and the writes that are not, in the order they were
made in, each with its session.

## The model

* `seenBy S` — the committed state under the writes of the sessions in `S`. A statement of a session
  reads `view`, what that session alone sees.
* `write`, `commit`, `rollback` — a session writes, publishes what it has written, or forgets it.

## What is proved

`seenBy_commit`: what any set of sessions sees after a commit is what a set of sessions saw before it.
An invariant that is stated for every set of sessions is thereby kept by a commit; the empty set says
what is committed.

## Honest scope

The order of the writes of different sessions does not matter (`Independent`): row locks see to that.
-/

namespace JLMirror.Foundations

/-- Sessions over common tables. -/
structure WriteLog (σ ω : Type*) where
  /-- What is committed. -/
  db : σ
  /-- What is not, the oldest write first. -/
  log : List (ℕ × ω)

namespace WriteLog

variable {σ ω : Type*} (apply : ω → σ → σ)

/-- The committed state under the writes of some sessions. -/
def seenBy (S : ℕ → Bool) (s : WriteLog σ ω) : σ :=
  (s.log.filter fun x => S x.1).foldl (fun db x => apply x.2 db) s.db

/-- What a statement of a session reads. -/
def view (w : ℕ) (s : WriteLog σ ω) : σ := s.seenBy apply (· = w)

/-- A session writes. -/
def write (w : ℕ) (x : ω) (s : WriteLog σ ω) : WriteLog σ ω := { s with log := s.log ++ [(w, x)] }

/-- `COMMIT` -/
def commit (w : ℕ) (s : WriteLog σ ω) : WriteLog σ ω := ⟨s.view apply w, s.log.filter fun x => x.1 ≠ w⟩

/-- `ROLLBACK` -/
def rollback (w : ℕ) (s : WriteLog σ ω) : WriteLog σ ω := { s with log := s.log.filter fun x => x.1 ≠ w }

/-- The writes of different sessions can be taken in any order. -/
def Independent (s : WriteLog σ ω) : Prop :=
  ∀ x ∈ s.log, ∀ y ∈ s.log, x.1 ≠ y.1 → ∀ db, apply y.2 (apply x.2 db) = apply x.2 (apply y.2 db)

variable {apply} {S : ℕ → Bool} {s : WriteLog σ ω} {w : ℕ}

theorem seenBy_none (h : ∀ w, S w = false) : s.seenBy apply S = s.db := by
  rw [seenBy, List.filter_eq_nil_iff.2 fun x _ => by simp [h]]
  rfl

theorem foldl_comm_of_mem {α : Type*} {f : σ → α → σ} {a : α} {l : List α}
    (h : ∀ b ∈ l, ∀ t, f (f t a) b = f (f t b) a) (t : σ) : l.foldl f (f t a) = f (l.foldl f t) a := by
  induction l generalizing t with
  | nil => rfl
  | cons b l ih =>
    rw [List.foldl_cons, h b List.mem_cons_self, ih fun c hc => h c (List.mem_cons_of_mem b hc)]
    rfl

/-- The elements of one kind can be taken before those of another. -/
theorem foldl_filter_or {α : Type*} {f : σ → α → σ} {p q : α → Bool} {l : List α} (hpq : ∀ x ∈ l, p x = true → q x = false)
    (h : ∀ x ∈ l, ∀ y ∈ l, p x = true → q y = true → ∀ t, f (f t x) y = f (f t y) x) (t : σ) :
    (l.filter fun x => p x || q x).foldl f t = (l.filter p).foldl f ((l.filter q).foldl f t) := by
  induction l generalizing t with
  | nil => rfl
  | cons x l ih =>
    have ih := ih (fun y hy => hpq y (List.mem_cons_of_mem x hy))
      fun y hy z hz => h y (List.mem_cons_of_mem x hy) z (List.mem_cons_of_mem x hz)
    cases hp : p x with
    | false => cases hq : q x <;> simp [hp, hq, ih]
    | true =>
      have hq : q x = false := hpq x List.mem_cons_self hp
      have hcomm : (l.filter q).foldl f (f t x) = f ((l.filter q).foldl f t) x := by
        refine foldl_comm_of_mem (fun y hy => ?_) t
        obtain ⟨hy, hqy⟩ := List.mem_filter.1 hy
        exact h x List.mem_cons_self y (List.mem_cons_of_mem x hy) hp hqy
      simp [hp, hq, ih, hcomm]

/-- What sessions see after the commit of another one is what they saw before together with it. -/
theorem seenBy_commit (h : s.Independent apply) :
    (s.commit apply w).seenBy apply S = s.seenBy apply fun v => (S v && v ≠ w) || v = w := by
  rw [seenBy, commit, List.filter_filter, view, seenBy, seenBy]
  refine (foldl_filter_or (p := fun x : ℕ × ω => S x.1 && x.1 ≠ w) (q := fun x => x.1 = w) ?_ ?_ s.db).symm
  · intro x _ hx
    simpa using (Bool.and_eq_true_iff.1 hx).2
  · intro x hx y hy hpx hqy t
    refine h x hx y hy (fun heq => ?_) t
    simp only [Bool.and_eq_true, decide_eq_true_eq] at hpx hqy
    exact hpx.2 (heq.trans hqy)

theorem mem_commit {x : ℕ × ω} (hx : x ∈ (s.commit apply w).log) : x ∈ s.log ∧ x.1 ≠ w := by
  simpa [commit] using hx

theorem mem_rollback {x : ℕ × ω} (hx : x ∈ (s.rollback w).log) : x ∈ s.log ∧ x.1 ≠ w := by
  simpa [rollback] using hx

theorem mem_write {x : ω} {y : ℕ × ω} (hy : y ∈ (s.write w x).log) : y ∈ s.log ∨ y = (w, x) := by
  simpa [write] using hy

end WriteLog

end JLMirror.Foundations
