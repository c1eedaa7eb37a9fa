import Mathlib.Data.Nat.Notation
import Mathlib.Tactic.Basic

/-!
# Requests that can fail at any step

A handler of a request makes its statements in a transaction, calls systems outside of the database, and
commits. Each of these is a step, and any step can fail: the exception ends the handler, what is not committed
is forgotten, and what was done outside stays.

## The model

* `World` is what a handler works on: the committed state and what its connection sees of it, over an arbitrary
  type `σ`; the outside, over an arbitrary type `ξ`; and how many steps succeed before the next one fails.
* A handler is a computation with exceptions over that state, so an exception keeps what it has done.

## What is proved

* One inversion lemma for each step: what a step that succeeds has done.
* How many steps a handler makes, and that it fails if one of them does (`Runs`).
* **Key result** (`transaction_error`, `transaction_ok`): a handler that ends with its only commit publishes
  everything that it has written, or nothing.
-/

namespace JLMirror.Foundations

/-- What a handler works on. -/
structure World (σ ξ : Type) where
  committed : σ
  /-- What the connection sees: the committed state under its own writes. -/
  view : σ
  outside : ξ
  /-- How many steps succeed before one fails; `none` where none fails. -/
  steps : Option ℕ

/-- A handler of a request. -/
abbrev Handler (σ ξ ε α : Type) := ExceptT ε (StateM (World σ ξ)) α

namespace Handler

variable {σ ξ ε α β : Type}

/-- What a handler comes to. -/
def exec (x : Handler σ ξ ε α) (w : World σ ξ) : Except ε α × World σ ξ := x w

/-- A step: it fails with `failure`, or does what `f` says. -/
def step (failure : ε) (f : World σ ξ → Except ε α × World σ ξ) : Handler σ ξ ε α := fun w =>
  match w.steps with
  | some 0 => (.error failure, w)
  | steps => f { w with steps := steps.map (· - 1) }

/-- A statement, which answers and writes, or is refused. -/
def statement (failure : ε) (f : σ → Except ε (α × σ)) : Handler σ ξ ε α :=
  step failure fun w =>
    match f w.view with
    | .ok (a, view) => (.ok a, { w with view })
    | .error e => (.error e, w)

/-- A statement that only reads. -/
def query (failure : ε) (f : σ → α) : Handler σ ξ ε α := statement failure fun db => .ok (f db, db)

/-- A call to the outside. -/
def call (failure : ε) (f : ξ → Except ε (α × ξ)) : Handler σ ξ ε α :=
  step failure fun w =>
    match f w.outside with
    | .ok (a, outside) => (.ok a, { w with outside })
    | .error e => (.error e, w)

/-- `COMMIT` -/
def commit (failure : ε) : Handler σ ξ ε Unit := step failure fun w => (.ok (), { w with committed := w.view })

/-- A handler that ends with its only commit. -/
def transaction (failure : ε) (x : Handler σ ξ ε α) : Handler σ ξ ε α := do
  let a ← x
  commit failure
  return a

/-! ### What a handler that succeeds has done -/

variable {w w' w'' : World σ ξ} {x : Handler σ ξ ε α} {f : α → Handler σ ξ ε β} {a : α} {b : β} {failure e : ε}

@[simp] theorem exec_pure : exec (pure a : Handler σ ξ ε α) w = (.ok a, w) := rfl

@[simp] theorem exec_throw : exec (throw e : Handler σ ξ ε α) w = (.error e, w) := rfl

theorem exec_bind : exec (x >>= f) w =
    match exec x w with
    | (.ok a, w') => exec (f a) w'
    | (.error e, w') => (.error e, w') := by
  unfold exec
  rcases hx : x w with ⟨_ | a, w'⟩
  · simp [bind, ExceptT.bind, ExceptT.mk, ExceptT.bindCont, StateT.bind, hx]
    rfl
  · simp [bind, ExceptT.bind, ExceptT.mk, ExceptT.bindCont, StateT.bind, hx]

theorem exec_bind_ok : exec (x >>= f) w = (.ok b, w'') ↔ ∃ a w', exec x w = (.ok a, w') ∧ exec (f a) w' = (.ok b, w'') := by
  rw [exec_bind]
  rcases hx : exec x w with ⟨e | a, w'⟩
  · simp
  · constructor
    · exact fun h => ⟨a, w', rfl, h⟩
    · rintro ⟨a', w₁, heq, h⟩
      obtain ⟨ha, rfl⟩ := Prod.mk.inj heq
      rwa [Except.ok.inj ha]

theorem exec_step (f : World σ ξ → Except ε α × World σ ξ) : exec (step failure f) w =
    match w.steps with
    | some 0 => (.error failure, w)
    | steps => f { w with steps := steps.map (· - 1) } := rfl

theorem exec_step_ok {f : World σ ξ → Except ε α × World σ ξ} (h : exec (step failure f) w = (.ok a, w')) :
    ∃ steps, f { w with steps } = (.ok a, w') := by
  rw [exec_step] at h
  split at h
  · simp at h
  · exact ⟨_, h⟩

theorem exec_statement_ok {f : σ → Except ε (α × σ)} (h : exec (statement failure f) w = (.ok a, w')) :
    f w.view = .ok (a, w'.view) ∧ w'.committed = w.committed ∧ w'.outside = w.outside := by
  obtain ⟨steps, h⟩ := exec_step_ok h
  dsimp only at h
  split at h
  · rename_i b view hf
    obtain ⟨hb, rfl⟩ := Prod.mk.inj h
    exact ⟨by rw [hf, Except.ok.inj hb], rfl, rfl⟩
  · cases h

theorem exec_query_ok {f : σ → α} (h : exec (query failure f : Handler σ ξ ε α) w = (.ok a, w')) :
    a = f w.view ∧ w'.view = w.view ∧ w'.committed = w.committed ∧ w'.outside = w.outside := by
  obtain ⟨hf, hc, ho⟩ := exec_statement_ok h
  obtain ⟨ha, hv⟩ := Prod.mk.inj (Except.ok.inj hf)
  exact ⟨ha.symm, hv.symm, hc, ho⟩

theorem exec_call_ok {f : ξ → Except ε (α × ξ)} (h : exec (call failure f : Handler σ ξ ε α) w = (.ok a, w')) :
    f w.outside = .ok (a, w'.outside) ∧ w'.committed = w.committed ∧ w'.view = w.view := by
  obtain ⟨steps, h⟩ := exec_step_ok h
  dsimp only at h
  split at h
  · rename_i b outside hf
    obtain ⟨hb, rfl⟩ := Prod.mk.inj h
    exact ⟨by rw [hf, Except.ok.inj hb], rfl, rfl⟩
  · cases h

theorem exec_commit_ok {u : Unit} (h : exec (commit failure : Handler σ ξ ε Unit) w = (.ok u, w')) :
    w'.committed = w.view ∧ w'.view = w.view ∧ w'.outside = w.outside := by
  obtain ⟨steps, h⟩ := exec_step_ok h
  obtain ⟨-, rfl⟩ := Prod.mk.inj h
  exact ⟨rfl, rfl, rfl⟩

/-! ### How far a handler comes -/

/-- From `w`, the handler makes `k` steps, which all succeed where they are not made to fail. -/
structure Runs (x : Handler σ ξ ε α) (k : ℕ) (w : World σ ξ) (a : α) (w' : World σ ξ) : Prop where
  /-- Where nothing fails. -/
  unharmed : exec x { w with steps := none } = (.ok a, { w' with steps := none })
  /-- Where a later step fails. -/
  later : ∀ n, exec x { w with steps := some (n + k) } = (.ok a, { w' with steps := some n })
  /-- Where one of its own does. -/
  early : ∀ n < k, ∃ e w₁, exec x { w with steps := some n } = (.error e, w₁)

theorem runs_pure (a : α) : Runs (pure a : Handler σ ξ ε α) 0 w a w := ⟨rfl, fun _ => rfl, fun _ h => nomatch h⟩

theorem Runs.bind {k l : ℕ} (hx : Runs x k w a w') (hf : Runs (f a) l w' b w'') : Runs (x >>= f) (k + l) w b w'' where
  unharmed := by rw [exec_bind, hx.unharmed]; exact hf.unharmed
  later n := by
    rw [exec_bind, show n + (k + l) = n + l + k by omega, hx.later]
    exact hf.later n
  early n hn := by
    rw [exec_bind]
    by_cases hk : n < k
    · obtain ⟨e, w₁, h⟩ := hx.early n hk
      exact ⟨e, w₁, by rw [h]⟩
    · obtain ⟨m, rfl⟩ : ∃ m, n = m + k := ⟨n - k, by omega⟩
      rw [hx.later]
      exact hf.early m (by omega)

theorem runs_step {f : World σ ξ → Except ε α × World σ ξ} (h : ∀ steps, f { w with steps } = (.ok a, { w' with steps })) :
    Runs (step failure f) 1 w a w' where
  unharmed := h none
  later n := h (some n)
  early n hn := by
    obtain rfl : n = 0 := by omega
    exact ⟨failure, _, rfl⟩

theorem runs_statement {f : σ → Except ε (α × σ)} {view : σ} (h : f w.view = .ok (a, view)) :
    Runs (statement failure f) 1 w a { w with view } :=
  runs_step fun steps => by simp only [h]

theorem runs_query (f : σ → α) : Runs (query failure f : Handler σ ξ ε α) 1 w (f w.view) w := runs_statement rfl

theorem runs_call {f : ξ → Except ε (α × ξ)} {outside : ξ} (h : f w.outside = .ok (a, outside)) :
    Runs (call failure f : Handler σ ξ ε α) 1 w a { w with outside } :=
  runs_step fun steps => by simp only [h]

theorem runs_commit : Runs (commit failure : Handler σ ξ ε Unit) 1 w () { w with committed := w.view } :=
  runs_step fun _ => rfl

theorem Runs.transaction {k : ℕ} {view : σ} {outside : ξ} {steps : Option ℕ} (committed : σ)
    (h : Runs x k w a ⟨committed, view, outside, steps⟩) :
    Runs (transaction failure x) (k + 1) w a ⟨view, view, outside, steps⟩ :=
  h.bind (runs_commit.bind (l := 0) (runs_pure a))

theorem Runs.steps {k n : ℕ} {a' : α} (h : Runs x k w a w')
    (hok : exec x { w with steps := some n } = (.ok a', w'')) : k ≤ n := by
  refine Nat.le_of_not_lt fun hlt => ?_
  obtain ⟨e, w₁, herr⟩ := h.early n hlt
  rw [herr] at hok
  cases hok

theorem Runs.exec_bind {k : ℕ} (h : Runs x k w a w') (hsteps : ∀ n, w.steps = some n → k ≤ n) :
    exec (x >>= f) w = exec (f a) { w' with steps := w.steps.map (· - k) } := by
  obtain ⟨committed, view, outside, steps⟩ := w
  rw [Handler.exec_bind]
  cases steps with
  | none => rw [show exec x ⟨committed, view, outside, none⟩ = _ from h.unharmed, Option.map_none]
  | some n =>
    obtain ⟨m, rfl⟩ : ∃ m, n = m + k := ⟨n - k, by have := hsteps n rfl; omega⟩
    rw [show exec x ⟨committed, view, outside, some (m + k)⟩ = _ from h.later m, Option.map_some, Nat.add_sub_cancel]

theorem Runs.exec {k : ℕ} (h : Runs x k w a w') (hsteps : ∀ n, w.steps = some n → k ≤ n) :
    exec x w = (.ok a, { w' with steps := w.steps.map (· - k) }) := by
  have hpure := h.exec_bind (f := pure) hsteps
  rwa [bind_pure] at hpure

theorem exec_call_refused {f : ξ → Except ε (α × ξ)} (h : f w.outside = .error e) :
    ∃ e' steps, exec (call failure f : Handler σ ξ ε α) w = (.error e', { w with steps }) := by
  rw [call, exec_step]
  split
  · exact ⟨failure, w.steps, rfl⟩
  · exact ⟨e, w.steps.map (· - 1), by simp only [h]⟩

/-! ### What is published -/

/-- The handler commits nothing, whatever comes of it. -/
def Quiet (x : Handler σ ξ ε α) : Prop := ∀ w, (exec x w).2.committed = w.committed

theorem quiet_pure (a : α) : Quiet (pure a : Handler σ ξ ε α) := fun _ => rfl

theorem quiet_throw (e : ε) : Quiet (throw e : Handler σ ξ ε α) := fun _ => rfl

theorem quiet_step {f : World σ ξ → Except ε α × World σ ξ} (h : ∀ w, (f w).2.committed = w.committed) :
    Quiet (step failure f) := by
  intro w
  rw [exec_step]
  split
  · rfl
  · exact h _

theorem quiet_statement (f : σ → Except ε (α × σ)) : Quiet (statement failure f : Handler σ ξ ε α) :=
  quiet_step fun w => by cases f w.view <;> rfl

theorem quiet_query (f : σ → α) : Quiet (query failure f : Handler σ ξ ε α) := quiet_statement _

theorem quiet_call (f : ξ → Except ε (α × ξ)) : Quiet (call failure f : Handler σ ξ ε α) :=
  quiet_step fun w => by cases f w.outside <;> rfl

theorem Quiet.bind (hx : Quiet x) (hf : ∀ a, Quiet (f a)) : Quiet (x >>= f) := by
  intro w
  rw [exec_bind]
  have hx := hx w
  rcases hexec : exec x w with ⟨_ | a, w'⟩
  · rwa [hexec] at hx
  · rw [hexec] at hx
    exact (hf a w').trans hx

/-- **Key result.** A handler that fails before its commit, or in it, publishes nothing. -/
theorem transaction_error (hx : Quiet x) (h : exec (transaction failure x) w = (.error e, w')) :
    w'.committed = w.committed := by
  have hquiet := hx w
  rw [transaction, exec_bind] at h
  rcases hexec : exec x w with ⟨e' | a, w₁⟩
  · rw [hexec] at h hquiet
    obtain ⟨-, rfl⟩ := Prod.mk.inj h
    exact hquiet
  · rw [hexec] at h hquiet
    simp only [exec_bind, commit, exec_step] at h
    cases hsteps : w₁.steps with
    | none => simp [hsteps] at h
    | some n =>
      cases n with
      | zero =>
        simp only [hsteps] at h
        obtain ⟨-, rfl⟩ := Prod.mk.inj h
        exact hquiet
      | succ n => simp [hsteps] at h

/-- **Key result.** A handler that succeeds publishes what it has written. -/
theorem transaction_ok (h : exec (transaction failure x) w = (.ok a, w')) :
    ∃ w₁, exec x w = (.ok a, w₁) ∧ w'.committed = w₁.view ∧ w'.outside = w₁.outside := by
  obtain ⟨a₁, w₁, hx, h⟩ := exec_bind_ok.1 h
  obtain ⟨u, w₂, hc, h⟩ := exec_bind_ok.1 h
  obtain ⟨ha, rfl⟩ := Prod.mk.inj h
  obtain rfl := Except.ok.inj ha
  obtain ⟨hcommitted, -, ho⟩ := exec_commit_ok hc
  exact ⟨w₁, hx, hcommitted, ho⟩

/-- The handler leaves the outside alone, whatever comes of it. -/
def Inward (x : Handler σ ξ ε α) : Prop := ∀ w, (exec x w).2.outside = w.outside

theorem inward_pure (a : α) : Inward (pure a : Handler σ ξ ε α) := fun _ => rfl

theorem inward_throw (e : ε) : Inward (throw e : Handler σ ξ ε α) := fun _ => rfl

theorem inward_step {f : World σ ξ → Except ε α × World σ ξ} (h : ∀ w, (f w).2.outside = w.outside) :
    Inward (step failure f) := by
  intro w
  rw [exec_step]
  split
  · rfl
  · exact h _

theorem inward_statement (f : σ → Except ε (α × σ)) : Inward (statement failure f : Handler σ ξ ε α) :=
  inward_step fun w => by cases f w.view <;> rfl

theorem inward_query (f : σ → α) : Inward (query failure f : Handler σ ξ ε α) := inward_statement _

theorem Inward.bind (hx : Inward x) (hf : ∀ a, Inward (f a)) : Inward (x >>= f) := by
  intro w
  rw [exec_bind]
  have hx := hx w
  rcases hexec : exec x w with ⟨_ | a, w'⟩
  · rwa [hexec] at hx
  · rw [hexec] at hx
    exact (hf a w').trans hx

/-- A part that leaves the outside alone, before one that may not. -/
theorem Inward.bind_outside {P : ξ → Prop} (hx : Inward x) (h₀ : P w.outside)
    (hf : ∀ a w₁, w₁.outside = w.outside → P (exec (f a) w₁).2.outside) : P (exec (x >>= f) w).2.outside := by
  rw [exec_bind]
  have hx := hx w
  rcases hexec : exec x w with ⟨e | a, w'⟩
  · rw [hexec] at hx
    rw [show w'.outside = w.outside from hx]
    exact h₀
  · rw [hexec] at hx
    exact hf a w' hx

theorem Inward.transaction (hx : Inward x) : Inward (transaction failure x) :=
  hx.bind fun _ => (inward_step fun _ => rfl).bind fun _ => inward_pure _

/-- A handler that succeeds has only read. -/
def Reads (x : Handler σ ξ ε α) : Prop := ∀ ⦃w a w'⦄, exec x w = (.ok a, w') →
  w'.view = w.view ∧ w'.committed = w.committed ∧ w'.outside = w.outside

theorem reads_pure (a : α) : Reads (pure a : Handler σ ξ ε α) := by
  intro w a' w' h
  obtain ⟨-, rfl⟩ := Prod.mk.inj h
  exact ⟨rfl, rfl, rfl⟩

theorem reads_throw (e : ε) : Reads (throw e : Handler σ ξ ε α) := fun _ _ _ h => nomatch h

theorem reads_query (f : σ → α) : Reads (query failure f : Handler σ ξ ε α) := fun _ _ _ h => (exec_query_ok h).2

theorem Reads.bind (hx : Reads x) (hf : ∀ a, Reads (f a)) : Reads (x >>= f) := by
  intro w b w' h
  obtain ⟨a, w₁, h₁, h₂⟩ := exec_bind_ok.1 h
  obtain ⟨hv, hc, ho⟩ := hx h₁
  obtain ⟨hv', hc', ho'⟩ := hf a h₂
  exact ⟨hv'.trans hv, hc'.trans hc, ho'.trans ho⟩

/-- A handler that fails has committed nothing. -/
def Atomic (x : Handler σ ξ ε α) : Prop := ∀ w e w', exec x w = (.error e, w') → w'.committed = w.committed

theorem Quiet.atomic (hx : Quiet x) : Atomic x := by
  intro w e w' h
  have hsame := hx w
  rwa [h] at hsame

theorem Quiet.atomic_bind (hx : Quiet x) (hf : ∀ a, Atomic (f a)) : Atomic (x >>= f) := by
  intro w e w' h
  have hsame := hx w
  rw [exec_bind] at h
  rcases hexec : exec x w with ⟨e' | a, w₁⟩
  · rw [hexec] at h hsame
    obtain ⟨-, rfl⟩ := Prod.mk.inj h
    exact hsame
  · rw [hexec] at h hsame
    exact (hf a w₁ e w' h).trans hsame

@[simp] theorem exec_throw_bind : exec (throw e >>= f) w = (.error e, w) := by rw [exec_bind, exec_throw]

theorem atomic_throw_bind (e : ε) : Atomic (throw e >>= f) := by
  intro w e' w' h
  rw [exec_throw_bind] at h
  rw [← (Prod.mk.inj h).2]

theorem atomic_transaction (hx : Quiet x) : Atomic (transaction failure x) := fun _ _ _ => transaction_error hx

end Handler

end JLMirror.Foundations
