import Mathlib.Data.List.Basic

/-!
# Database sessions with transactions

A connection of a database client with autocommit off, over an arbitrary type `σ` of
committed states. The first statement opens a transaction; its writes are kept beside the
committed state, in order, and are applied to it by `commit` or forgotten by `rollback`.

## The model

* A transaction is the list of its writes, a flag that a statement of it was refused, and
  the instant it started at (what `now()` returns inside it).
* `view` is what a statement of the session reads: the committed state of the moment with
  the writes of the open transaction on top. Other sessions may change the committed
  state meanwhile (`external`), as under READ COMMITTED.
* `transaction` is the client's block: inside an open transaction it is a savepoint,
  on an idle connection it begins and commits.

## Honest scope

Row locks and serialization failures are not modelled: a statement that the server refuses
for any reason is one that `abort`s the transaction.
-/

namespace JLMirror.Foundations

variable {σ : Type*}

/-- An open transaction. -/
structure Transaction (σ : Type*) where
  /-- The writes made so far, the oldest first. -/
  writes : List (σ → σ)
  /-- A statement was refused: every further statement is refused too. -/
  failed : Bool
  /-- The instant of its first statement. -/
  startedAt : ℕ

/-- The committed state under the writes of a transaction. -/
def Transaction.over (t : Transaction σ) (db : σ) : σ := t.writes.foldl (fun db w => w db) db

/-- A session: what is committed, and the transaction that is open on the connection. -/
@[ext]
structure Session (σ : Type*) where
  /-- What other sessions see, and what survives a rollback. -/
  committed : σ
  /-- `none` when the connection is idle. -/
  tx : Option (Transaction σ)

namespace Session

/-- A connection with no open transaction. -/
def idle (db : σ) : Session σ := ⟨db, none⟩

/-- What a statement of the session reads. -/
def view (s : Session σ) : σ :=
  match s.tx with
  | none => s.committed
  | some t => t.over s.committed

/-- The open transaction refuses further statements. -/
def failed (s : Session σ) : Bool :=
  match s.tx with
  | none => false
  | some t => t.failed

/-- `now()`: the start of the open transaction, the clock when the connection is idle. -/
def now (clock : ℕ) (s : Session σ) : ℕ :=
  match s.tx with
  | none => clock
  | some t => t.startedAt

/-- A statement opens a transaction when none is open. -/
def start (clock : ℕ) (s : Session σ) : Session σ :=
  match s.tx with
  | none => { s with tx := some ⟨[], false, clock⟩ }
  | some _ => s

/-- A write of the open transaction. -/
def write (w : σ → σ) (s : Session σ) : Session σ :=
  { s with tx := s.tx.map fun t => { t with writes := t.writes ++ [w] } }

/-- The server refuses a statement of the open transaction. -/
def abort (s : Session σ) : Session σ :=
  { s with tx := s.tx.map fun t => { t with failed := true } }

/-- A statement with the effect `w`. -/
def exec (clock : ℕ) (w : σ → σ) (s : Session σ) : Session σ := (s.start clock).write w

/-- A statement that the server refuses. -/
def refuse (clock : ℕ) (s : Session σ) : Session σ := (s.start clock).abort

/-- `COMMIT`: of a failed transaction it is a rollback. -/
def commit (s : Session σ) : Session σ :=
  match s.tx with
  | none => s
  | some t => ⟨if t.failed then s.committed else t.over s.committed, none⟩

/-- `ROLLBACK`. -/
def rollback (s : Session σ) : Session σ := { s with tx := none }

/-- `ROLLBACK TO SAVEPOINT`: the transaction as it stood at the savepoint. -/
def restore (t : Transaction σ) (s : Session σ) : Session σ := { s with tx := some t }

/-- What other sessions commit. -/
def external (f : σ → σ) (s : Session σ) : Session σ := { s with committed := f s.committed }

/-- The block `with conn.transaction()`; the body and the block say whether they raise.
On an idle connection the block begins a transaction and ends it. Inside an open one it is
a savepoint: an exception returns to it, the normal end releases it, which a failed
transaction refuses. -/
def transaction (clock : ℕ) (body : Session σ → Session σ × Bool) (s : Session σ) : Session σ × Bool :=
  match s.tx with
  | none =>
    let (s', raised) := body (s.start clock)
    if raised then (s'.rollback, true) else (s'.commit, false)
  | some t =>
    if t.failed then (s, true)
    else
      let (s', raised) := body s
      if raised then (s'.restore t, true) else (s', s'.failed)

/-! ### What each operation does to what is committed and to what is seen -/

@[simp] theorem idle_committed (db : σ) : (idle db).committed = db := rfl
@[simp] theorem idle_tx (db : σ) : (idle db).tx = none := rfl

@[simp] theorem start_committed (c : ℕ) (s : Session σ) : (s.start c).committed = s.committed := by
  obtain ⟨db, tx⟩ := s
  cases tx <;> rfl

@[simp] theorem write_committed (w : σ → σ) (s : Session σ) : (s.write w).committed = s.committed := rfl
@[simp] theorem abort_committed (s : Session σ) : s.abort.committed = s.committed := rfl
@[simp] theorem rollback_committed (s : Session σ) : s.rollback.committed = s.committed := rfl
@[simp] theorem rollback_tx (s : Session σ) : s.rollback.tx = none := rfl

@[simp] theorem restore_committed (t : Transaction σ) (s : Session σ) :
    (s.restore t).committed = s.committed := rfl

@[simp] theorem exec_committed (c : ℕ) (w : σ → σ) (s : Session σ) :
    (s.exec c w).committed = s.committed := start_committed c s

@[simp] theorem refuse_committed (c : ℕ) (s : Session σ) : (s.refuse c).committed = s.committed :=
  start_committed c s

@[simp] theorem commit_tx (s : Session σ) : s.commit.tx = none := by
  obtain ⟨db, tx⟩ := s
  cases tx <;> rfl

/-- An accepted `COMMIT` publishes what the session saw. -/
theorem commit_committed {s : Session σ} (h : s.failed = false) : s.commit.committed = s.view := by
  unfold commit view
  unfold failed at h
  split <;> simp_all

/-- A `COMMIT` of a failed transaction publishes nothing. -/
theorem commit_committed_failed {s : Session σ} (h : s.failed = true) :
    s.commit.committed = s.committed := by
  unfold commit
  unfold failed at h
  split <;> simp_all

@[simp] theorem start_view (c : ℕ) (s : Session σ) : (s.start c).view = s.view := by
  obtain ⟨db, tx⟩ := s
  cases tx <;> rfl

@[simp] theorem start_failed (c : ℕ) (s : Session σ) : (s.start c).failed = s.failed := by
  obtain ⟨db, tx⟩ := s
  cases tx <;> rfl

@[simp] theorem exec_start (c : ℕ) (w : σ → σ) (s : Session σ) : (s.start c).exec c w = s.exec c w := by
  obtain ⟨db, tx⟩ := s
  cases tx <;> rfl

theorem start_inTx (c : ℕ) (s : Session σ) : (s.start c).tx.isSome := by
  obtain ⟨db, tx⟩ := s
  cases tx <;> rfl

theorem write_view {s : Session σ} (w : σ → σ) (h : s.tx.isSome) : (s.write w).view = w s.view := by
  obtain ⟨db, tx⟩ := s
  cases tx with
  | none => simp at h
  | some t => simp [write, view, Transaction.over]

@[simp] theorem write_failed (w : σ → σ) (s : Session σ) : (s.write w).failed = s.failed := by
  obtain ⟨db, tx⟩ := s
  cases tx <;> rfl

@[simp] theorem exec_view (c : ℕ) (w : σ → σ) (s : Session σ) : (s.exec c w).view = w s.view := by
  rw [exec, write_view w (start_inTx c s), start_view]

@[simp] theorem exec_failed (c : ℕ) (w : σ → σ) (s : Session σ) : (s.exec c w).failed = s.failed := by
  rw [exec, write_failed, start_failed]

@[simp] theorem refuse_failed (c : ℕ) (s : Session σ) : (s.refuse c).failed = true := by
  obtain ⟨db, tx⟩ := s
  cases tx <;> rfl

@[simp] theorem rollback_view (s : Session σ) : s.rollback.view = s.committed := rfl
@[simp] theorem rollback_failed (s : Session σ) : s.rollback.failed = false := rfl

/-- Inside an open transaction the block publishes nothing, if its body does not. -/
theorem transaction_committed {c : ℕ} {body : Session σ → Session σ × Bool} {s : Session σ}
    (hs : s.tx.isSome) (hbody : (body s).1.committed = s.committed) :
    (s.transaction c body).1.committed = s.committed := by
  obtain ⟨db, tx⟩ := s
  cases tx with
  | none => simp at hs
  | some t =>
    simp only [transaction]
    split_ifs
    · rfl
    · exact hbody
    · exact hbody

/-- A block that raises leaves the session as it was. -/
theorem transaction_raise {c : ℕ} {body : Session σ → Session σ × Bool} {s : Session σ} (hs : s.failed = false)
    (hraised : (body (s.start c)).2 = true) (hcommitted : (body (s.start c)).1.committed = s.committed) :
    s.transaction c body = (s, true) := by
  obtain ⟨db, tx⟩ := s
  cases tx with
  | none =>
    simp only [transaction, hraised, if_true]
    exact Prod.ext (Session.ext hcommitted rfl) rfl
  | some t =>
    have ht : t.failed = false := hs
    have hraised : (body ⟨db, some t⟩).2 = true := hraised
    simp only [transaction, ht, hraised, if_true, Bool.false_eq_true, if_false]
    exact Prod.ext (Session.ext hcommitted rfl) rfl

/-- What a block leaves of the session besides what it sees. -/
structure Kept (s s' : Session σ) : Prop where
  failed : s'.failed = false
  /-- An open transaction stays open, an idle connection idle. -/
  isOpen : s'.tx.isSome = s.tx.isSome
  /-- Inside an open transaction nothing is committed. -/
  committed : s.tx.isSome = true → s'.committed = s.committed

theorem Kept.refl {s : Session σ} (h : s.failed = false) : Kept s s := ⟨h, rfl, fun _ => rfl⟩

theorem Kept.trans {s s' s'' : Session σ} (h : Kept s s') (h' : Kept s' s'') : Kept s s'' :=
  ⟨h'.failed, h'.isOpen.trans h.isOpen, fun hs => (h'.committed (h.isOpen.trans hs)).trans (h.committed hs)⟩

/-- A block around one statement has its effect. -/
theorem transaction_exec {c : ℕ} {b : Session σ → Session σ × Bool} {w : σ → σ} {s : Session σ}
    (hs : s.failed = false) (hbody : b (s.start c) = (s.exec c w, false)) :
    ∃ s', s.transaction c b = (s', false) ∧ Kept s s' ∧ s'.view = w s.view := by
  have hfailed : (s.exec c w).failed = false := (exec_failed c w s).trans hs
  obtain ⟨db, tx⟩ := s
  cases tx with
  | none =>
    refine ⟨(exec c w ⟨db, none⟩).commit, ?_, ⟨rfl, rfl, fun h => by cases h⟩, ?_⟩
    · simp only [transaction, hbody, Bool.false_eq_true, if_false]
    · exact (commit_committed hfailed).trans (exec_view c w _)
  | some t =>
    have ht : t.failed = false := hs
    have hbody : b ⟨db, some t⟩ = (exec c w ⟨db, some t⟩, false) := hbody
    refine ⟨exec c w ⟨db, some t⟩, ?_, ⟨hfailed, rfl, fun _ => exec_committed c w _⟩, exec_view c w _⟩
    simp only [transaction, ht, hbody, hfailed, Bool.false_eq_true, if_false]

end Session

end JLMirror.Foundations
