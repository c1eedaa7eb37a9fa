import JLMirror.Foundations.RowLocks

/-!
# Requests in open transactions

Any number of sessions over common tables, each with the point of its program that it is at, over an
arbitrary type `π` of points: a statement reads what its session sees, writes a row that no other session
has written, or waits for it; a transaction commits or is rolled back. Programs whose statements do not matter
take a whole transaction at once (`outside`).

## What is proved

* `Inv` — what holds of the committed tables, and of each session by its own writes and the point it is at.
  A step of a session keeps it, if it keeps the part of that session (`inv_goto`, `inv_write`), and a commit
  if the others stand what it publishes (`inv_commit`).
* `unique_write` — unique keys stay unique, if an insert looks for its key first.
-/

namespace JLMirror.Foundations

/-- The tables, the open transactions, and where their programs are. -/
structure Sessions (σ ω π : Type*) where
  tx : WriteLog σ ω
  pc : ℕ → π

namespace Sessions

variable {σ ω ρ κ π : Type*} (apply : ω → σ → σ) (row : ω → ρ) (idle : π)

/-- No transaction is open. -/
def init (db : σ) : Sessions σ ω π := ⟨⟨db, []⟩, fun _ => idle⟩

/-- What a session sees. -/
def view (s : Sessions σ ω π) (w : ℕ) : σ := s.tx.view apply w

/-- The session goes on. -/
def goto (s : Sessions σ ω π) (w : ℕ) (p : π) : Sessions σ ω π := { s with pc := Function.update s.pc w p }

/-- The session writes and goes on, or waits for the row. -/
def write [DecidableEq ρ] (s : Sessions σ ω π) (w : ℕ) (x : ω) (p : π) : Sessions σ ω π :=
  if s.tx.locked row w (row x) then s else ⟨s.tx.write w x, Function.update s.pc w p⟩

/-- `ROLLBACK` -/
def rollback (s : Sessions σ ω π) (w : ℕ) : Sessions σ ω π := ⟨s.tx.rollback w, Function.update s.pc w idle⟩

/-- `COMMIT` -/
def commit (s : Sessions σ ω π) (w : ℕ) : Sessions σ ω π := ⟨s.tx.commit apply w, Function.update s.pc w idle⟩

/-- A whole transaction of a program that has no session here. -/
def outside (s : Sessions σ ω π) (db : σ) : Sessions σ ω π := ⟨⟨db, s.tx.log⟩, s.pc⟩

@[simp] theorem writes_outside (s : Sessions σ ω π) (db : σ) (w : ℕ) : (s.outside db).tx.writes w = s.tx.writes w := rfl

/-- What holds of the committed tables, and of each session. -/
structure Inv (G : σ → Prop) (L : σ → List ω → π → Prop) (s : Sessions σ ω π) : Prop where
  committed : G s.tx.db
  sessions : ∀ w, L s.tx.db (s.tx.writes w) (s.pc w)

variable {apply row idle} {G : σ → Prop} {L : σ → List ω → π → Prop} {s : Sessions σ ω π} {w : ℕ} {x : ω} {p : π}

theorem inv_init {db : σ} (hdb : G db) (hidle : L db [] idle) : Inv G L (init idle db : Sessions σ ω π) :=
  ⟨hdb, fun _ => hidle⟩

theorem inv_step {s' : Sessions σ ω π} (hpc : s'.pc = Function.update s.pc w p) (hG : G s'.tx.db)
    (hp : L s'.tx.db (s'.tx.writes w) p) (hothers : ∀ v, v ≠ w → L s'.tx.db (s'.tx.writes v) (s.pc v)) : Inv G L s' := by
  refine ⟨hG, fun v => ?_⟩
  rw [hpc]
  by_cases hv : v = w
  · subst hv
    rwa [Function.update_self]
  · rw [Function.update_of_ne hv]
    exact hothers v hv

theorem inv_goto (h : Inv G L s) (hp : L s.tx.db (s.tx.writes w) p) : Inv G L (s.goto w p) :=
  inv_step rfl h.committed hp fun v _ => h.sessions v

theorem inv_write [DecidableEq ρ] (h : Inv G L s) (hp : L s.tx.db (s.tx.writes w ++ [x]) p) :
    Inv G L (s.write row w x p) := by
  unfold write
  split_ifs
  · exact h
  · refine inv_step (w := w) (p := p) rfl h.committed ?_ fun v hv => ?_
    · rwa [WriteLog.writes_write]
    · rw [WriteLog.writes_write_of_ne hv]
      exact h.sessions v

theorem inv_rollback (h : Inv G L s) (hidle : L s.tx.db [] idle) : Inv G L (s.rollback idle w) := by
  refine inv_step (w := w) (p := idle) rfl h.committed ?_ fun v hv => ?_
  · rwa [rollback, WriteLog.writes_rollback]
  · rw [rollback, WriteLog.writes_rollback_of_ne hv]
    exact h.sessions v

theorem inv_outside {db : σ} (h : Inv G L s) (hG : G db) (hothers : ∀ w, L s.tx.db (s.tx.writes w) (s.pc w) →
    L db (s.tx.writes w) (s.pc w)) : Inv G L (s.outside db) :=
  ⟨hG, fun w => hothers w (h.sessions w)⟩

/-- A commit: what it publishes is as it should be, and the others stand it. -/
theorem inv_commit (h : Inv G L s) (hG : G (s.view apply w)) (hidle : L (s.view apply w) [] idle)
    (hothers : ∀ ws p, L s.tx.db ws p → L (s.view apply w) ws p) : Inv G L (s.commit apply idle w) := by
  refine inv_step (w := w) (p := idle) rfl hG ?_ fun v hv => ?_
  · rwa [commit, WriteLog.writes_commit]
  · rw [commit, WriteLog.writes_commit_of_ne hv]
    exact hothers _ _ (h.sessions v)

theorem view_eq (s : Sessions σ ω π) (w : ℕ) :
    s.view apply w = (s.tx.writes w).foldl (fun db x => apply x db) s.tx.db := WriteLog.view_eq apply s.tx w

/-! ### Unique keys -/

variable {keys : σ → List κ} {inserted : ω → Option κ}

theorem unique_write [DecidableEq ρ] (happly : ∀ x db, keys (apply x db) = keys db ++ (inserted x).toList)
    (hrow : ∀ x y k, inserted x = some k → inserted y = some k → row x = row y)
    (h : s.tx.Unique keys inserted) (hnew : ∀ k, inserted x = some k → k ∉ keys (s.view apply w)) :
    (s.write row w x p).tx.Unique keys inserted := by
  unfold write
  split_ifs with hlocked
  · exact h
  refine h.write happly fun k hk => ⟨hnew k hk, fun y hy hyk => ?_⟩
  exact WriteLog.locked_eq_false.1 (by simpa using hlocked) y hy (hrow y.2 x k hyk hk)

end Sessions

end JLMirror.Foundations
