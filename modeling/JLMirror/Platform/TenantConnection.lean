import JLMirror.Foundations.Session

/-!
# The tenant setting of pooled connections

Row-level security reads the session value of `jlmirror.tenant_id`. A request borrows a
pooled connection through `db_tenant_connection`, which sets the value "session-wide" and
clears it "before the connection returns to the pool so no tenant leaks across requests",
or through `db_connection`, which leaves it alone.

## The model

* The session value is a `String`, and `set_config(…, false)` is a write of the open
  transaction: the server undoes it when that transaction is rolled back.
* A body is any list of statements (accepted or refused), commits, rollbacks and
  `conn.transaction()` blocks, and ends normally or by an exception.
* The pool commits when the block ends normally and rolls back when it ends by an
  exception; a closed connection is discarded and the next borrower gets a fresh one.

## What is proved

The clearing statement runs inside the transaction that the pool then ends, so it is undone
exactly when the block ends by an exception. `tenant_setting_never_survives_iff`: a run of
borrows returns only clean or closed connections, and lends none with a foreign tenant, if
and only if no borrow of it commits its tenant and then unwinds with a transaction in which
the clearing statement is accepted, or is cancelled during the clearing.

## Honest scope

The final `COMMIT` of the pool is accepted. `set_config(…, true)` inside a body is a statement
like any other, as it does not outlive its transaction.
-/

namespace JLMirror.Platform

open JLMirror.Foundations

/-- What a body does with the connection it borrowed. -/
inductive BodyOp where
  /-- Any statement; the server accepts it or refuses it. -/
  | statement (accepted : Bool)
  /-- `conn.commit()`; the server refuses it when a deferred check fails. -/
  | commit (accepted : Bool)
  /-- `conn.rollback()`. -/
  | rollback
  /-- `async with conn.transaction()` around some statements; the block raises or not. -/
  | transaction (statements : List Bool) (raises : Bool)
  deriving DecidableEq

/-- How the block of a borrow ends. -/
inductive Ending where
  /-- It runs to its end. -/
  | normal
  /-- It unwinds, by an exception of any kind. -/
  | exception
  deriving DecidableEq

/-- What becomes of the statement that clears the tenant. -/
inductive Cleanup where
  /-- It is sent; the server accepts it unless the transaction has failed. -/
  | sent
  /-- It raises an `Exception`. -/
  | refused
  /-- It raises `CancelledError`, which `except Exception` does not catch. -/
  | cancelled
  deriving DecidableEq

/-- One use of the pooled connection. -/
inductive Borrow where
  /-- `db_tenant_connection(tenant_id)`; `entered` says that setting the tenant is accepted. -/
  | db_tenant_connection (tenant_id : String) (entered : Bool) (body : List BodyOp) (ending : Ending)
      (cleanup : Cleanup)
  /-- `db_connection()`. -/
  | db_connection (body : List BodyOp) (ending : Ending)
  deriving DecidableEq

/-- A connection as it comes back to the pool. -/
structure Returned where
  /-- Its session. -/
  session : Session String
  /-- It was closed, and the pool discards it. -/
  closed : Bool
  /-- The session value under which each statement of the body ran. -/
  ranUnder : List String

/-- A connection the pool has just opened. -/
def fresh : Session String := Session.idle ""

/-! ### Bodies -/

/-- A statement of a body. The instants of its transactions do not matter here. -/
def runStatement (s : Session String) (accepted : Bool) : Session String :=
  if accepted then s.start 0 else s.refuse 0

/-- One operation of a body. -/
def runOp (s : Session String) : BodyOp → Session String
  | .statement accepted => runStatement s accepted
  | .commit accepted => if accepted then s.commit else s.rollback
  | .rollback => s.rollback
  | .transaction statements raises =>
    (s.transaction 0 fun s => (statements.foldl runStatement s, raises)).1

/-- A body from its first operation to its end. -/
def runBody (s : Session String) (body : List BodyOp) : Session String := body.foldl runOp s

/-- The number of statements an operation runs. -/
def BodyOp.statements : BodyOp → ℕ
  | .statement _ => 1
  | .transaction statements _ => statements.length
  | _ => 0

/-- The session values under which the statements of a body run. -/
def ranUnder (s : Session String) : List BodyOp → List String
  | [] => []
  | op :: body => List.replicate op.statements s.view ++ ranUnder (runOp s op) body

/-! ### The two context managers -/

/-- The pool's own end of the block. -/
def poolExit (s : Session String) : Ending → Session String
  | .normal => s.commit
  | .exception => s.rollback

/-- `db_tenant_connection`: set the tenant, yield, clear the tenant in `finally`, and close the
connection when the clearing raises an `Exception`. -/
def db_tenant_connection (tenant_id : String) (entered : Bool) (body : List BodyOp) (ending : Ending)
    (cleanup : Cleanup) (s : Session String) : Returned :=
  if entered then
    let s₁ := s.exec 0 fun _ => tenant_id
    let s₂ := runBody s₁ body
    match cleanup with
    | .cancelled => ⟨s₂.rollback, false, ranUnder s₁ body⟩
    | .refused => ⟨s₂.rollback, true, ranUnder s₁ body⟩
    | .sent =>
      if s₂.failed then ⟨s₂.rollback, true, ranUnder s₁ body⟩
      else ⟨poolExit (s₂.exec 0 fun _ => "") ending, false, ranUnder s₁ body⟩
  else ⟨(s.refuse 0).rollback, false, []⟩

/-- `db_connection`. -/
def db_connection (body : List BodyOp) (ending : Ending) (s : Session String) : Returned :=
  ⟨poolExit (runBody s body) ending, false, ranUnder s body⟩

/-- One borrow. -/
def Borrow.run (s : Session String) : Borrow → Returned
  | .db_tenant_connection tenant_id entered body ending cleanup =>
    JLMirror.Platform.db_tenant_connection tenant_id entered body ending cleanup s
  | .db_connection body ending => JLMirror.Platform.db_connection body ending s

/-- A sequence of borrows of one place in the pool, each with what it returned. -/
def serve (s : Session String) : List Borrow → List (Borrow × Returned)
  | [] => []
  | u :: us => (u, u.run s) :: serve (if (u.run s).closed then fresh else (u.run s).session) us

/-- A borrow that returns no tenant and, when it set none itself, ran under none. -/
def Clean : Borrow × Returned → Prop
  | (.db_tenant_connection .., r) => r.closed = true ∨ r.session.view = ""
  | (.db_connection .., r) => (r.closed = true ∨ r.session.view = "") ∧ ∀ v ∈ r.ranUnder, v = ""

/-- The tenant setting never survives in the pool, over a whole run. -/
def NeverSurvives (uses : List Borrow) : Prop := ∀ p ∈ serve fresh uses, Clean p

/-! ### The transactions of a body

`track` follows a body without its session: whether a transaction is open, and how the one
that set the tenant ended. -/

/-- Whether a transaction is open. -/
inductive TxStatus where
  /-- No transaction. -/
  | idle
  /-- A transaction that accepts statements. -/
  | active
  /-- A transaction that refuses them. -/
  | failed
  deriving DecidableEq

/-- The transactions of a body so far. -/
structure BodyState where
  /-- The transaction of the moment. -/
  status : TxStatus
  /-- `none` while the transaction that set the tenant is open, then whether it was committed. -/
  tenantCommitted : Option Bool
  deriving DecidableEq

/-- The status after a statement. -/
def TxStatus.statement (t : TxStatus) (accepted : Bool) : TxStatus :=
  if accepted ∧ t ≠ .failed then .active else .failed

/-- The end of a transaction: the first one settles the tenant. -/
def BodyState.finish (b : BodyState) (committed : Bool) : BodyState :=
  if b.status = .idle then b
  else ⟨.idle, some (b.tenantCommitted.getD (committed && b.status ≠ .failed))⟩

/-- One operation of a body. -/
def track (b : BodyState) : BodyOp → BodyState
  | .statement accepted => { b with status := b.status.statement accepted }
  | .commit accepted => b.finish accepted
  | .rollback => b.finish false
  | .transaction statements raises =>
    if b.status = .active ∧ ¬raises then { b with status := statements.foldl TxStatus.statement b.status }
    else b

/-- The transactions of a whole body, which starts inside the one that set the tenant. -/
def trackBody (body : List BodyOp) : BodyState := body.foldl track ⟨.active, none⟩

/-- The borrow commits its tenant and then ends so that the clearing is rolled back: it is
cancelled there, or it unwinds while the server still accepts the clearing statement. -/
def Borrow.Leaks : Borrow → Prop
  | .db_tenant_connection tenant_id entered body ending cleanup =>
    tenant_id ≠ "" ∧ entered = true ∧ (trackBody body).tenantCommitted = some true ∧
      (cleanup = .cancelled ∨
        (ending = .exception ∧ cleanup = .sent ∧ (trackBody body).status ≠ .failed))
  | .db_connection .. => False

instance : DecidablePred Borrow.Leaks := fun u => by
  cases u <;> unfold Borrow.Leaks <;> infer_instance

/-! ### `track` follows the session -/

/-- The status of a session. -/
def statusOf (s : Session String) : TxStatus :=
  match s.tx with
  | none => .idle
  | some t => if t.failed then .failed else .active

/-- `b` describes the session `s`, in which `tenant_id` was set. -/
structure Follows (tenant_id : String) (s : Session String) (b : BodyState) : Prop where
  /-- The transaction of the moment. -/
  status : b.status = statusOf s
  /-- The tenant is committed exactly when its transaction was. -/
  committed : s.committed = if b.tenantCommitted = some true then tenant_id else ""
  /-- The tenant is in force unless its transaction was rolled back. -/
  view : s.view = if b.tenantCommitted = some false then "" else tenant_id
  /-- Its transaction is open until it is settled. -/
  unsettled : b.tenantCommitted = none → b.status ≠ .idle

@[simp] theorem runStatement_committed (s : Session String) (a : Bool) :
    (runStatement s a).committed = s.committed := by
  unfold runStatement
  split_ifs <;> simp

@[simp] theorem runStatement_view (s : Session String) (a : Bool) : (runStatement s a).view = s.view := by
  obtain ⟨db, tx⟩ := s
  cases tx <;> cases a <;> rfl

@[simp] theorem statusOf_runStatement (s : Session String) (a : Bool) :
    statusOf (runStatement s a) = (statusOf s).statement a := by
  obtain ⟨db, tx⟩ := s
  cases tx with
  | none => cases a <;> rfl
  | some t =>
    obtain ⟨ws, failed, at₀⟩ := t
    cases failed <;> cases a <;> rfl

@[simp] theorem runStatements_committed (l : List Bool) (s : Session String) :
    (l.foldl runStatement s).committed = s.committed := by
  induction l generalizing s with
  | nil => rfl
  | cons a l ih => rw [List.foldl_cons, ih, runStatement_committed]

@[simp] theorem runStatements_view (l : List Bool) (s : Session String) :
    (l.foldl runStatement s).view = s.view := by
  induction l generalizing s with
  | nil => rfl
  | cons a l ih => rw [List.foldl_cons, ih, runStatement_view]

@[simp] theorem statusOf_runStatements (l : List Bool) (s : Session String) :
    statusOf (l.foldl runStatement s) = l.foldl TxStatus.statement (statusOf s) := by
  induction l generalizing s with
  | nil => rfl
  | cons a l ih => rw [List.foldl_cons, ih, statusOf_runStatement, List.foldl_cons]

theorem statusOf_failed (s : Session String) : s.failed = true ↔ statusOf s = .failed := by
  obtain ⟨db, tx⟩ := s
  cases tx with
  | none => simp [Session.failed, statusOf]
  | some t => simp [Session.failed, statusOf]

theorem statement_ne_idle (t : TxStatus) (a : Bool) : t.statement a ≠ .idle := by
  unfold TxStatus.statement
  split_ifs <;> simp

theorem statements_ne_idle (l : List Bool) {t : TxStatus} (h : t ≠ .idle) :
    l.foldl TxStatus.statement t ≠ .idle := by
  induction l generalizing t with
  | nil => exact h
  | cons a l ih => exact ih (statement_ne_idle t a)

/-- The end of a transaction, committed or not. -/
theorem Follows.finish {tenant_id : String} {s : Session String} {b : BodyState}
    (h : Follows tenant_id s b) (accepted : Bool) :
    Follows tenant_id (if accepted then s.commit else s.rollback) (b.finish accepted) := by
  obtain ⟨hstatus, hcommitted, hview, hunsettled⟩ := h
  obtain ⟨status, kept⟩ := b
  obtain ⟨db, tx⟩ := s
  cases tx with
  | none =>
    obtain rfl : status = .idle := hstatus
    cases accepted <;> exact ⟨rfl, hcommitted, hview, hunsettled⟩
  | some t =>
    obtain ⟨ws, failed, at₀⟩ := t
    cases failed <;> cases accepted <;> rcases kept with _ | _ | _ <;>
      simp_all [statusOf, BodyState.finish, Session.commit, Session.rollback, Session.view] <;>
      exact ⟨rfl, by simp [*], by simp [Session.view, *], by simp⟩

variable {tenant_id : String} {s : Session String} {b : BodyState}

/-- A `conn.transaction()` block on an idle connection commits or rolls back nothing. -/
theorem Follows.transaction_idle (h : Follows tenant_id s b) (htx : s.tx = none) (statements : List Bool)
    (raises : Bool) : Follows tenant_id (runOp s (.transaction statements raises)) b := by
  have hidle : b.status = .idle := by rw [h.status, statusOf, htx]
  have hin : ((statements.foldl runStatement (s.start 0))).view = s.committed := by
    rw [runStatements_view, Session.start_view, Session.view, htx]
  have hout : (statements.foldl runStatement (s.start 0)).committed = s.committed := by
    rw [runStatements_committed, Session.start_committed]
  have hrun : runOp s (.transaction statements raises) = s := by
    simp only [runOp, Session.transaction, htx]
    cases raises with
    | true => exact Session.ext hout htx.symm
    | false =>
      refine Session.ext ?_ ((Session.commit_tx _).trans htx.symm)
      cases hfailed : (statements.foldl runStatement (s.start 0)).failed with
      | true => exact (Session.commit_committed_failed hfailed).trans hout
      | false => exact (Session.commit_committed hfailed).trans hin
  rwa [hrun]

/-- A `conn.transaction()` block around statements. -/
theorem Follows.transaction {tenant_id : String} {s : Session String} {b : BodyState}
    (h : Follows tenant_id s b) (statements : List Bool) (raises : Bool) :
    Follows tenant_id (runOp s (.transaction statements raises)) (track b (.transaction statements raises)) := by
  have hstatus := h.status
  cases htx : s.tx with
  | none =>
    have hb : b.status = .idle := by rw [hstatus, statusOf, htx]
    have htrack : track b (.transaction statements raises) = b := by simp [track, hb]
    rw [htrack]
    exact h.transaction_idle htx statements raises
  | some t =>
    cases hfailed : t.failed with
    | true =>
      have hb : b.status = .failed := by rw [hstatus, statusOf, htx]; simp [hfailed]
      simpa [runOp, track, Session.transaction, htx, hfailed, hb] using h
    | false =>
      have hb : b.status = .active := by rw [hstatus, statusOf, htx]; simp [hfailed]
      cases raises with
      | true =>
        -- back to the savepoint
        have hrun : runOp s (.transaction statements true) = (statements.foldl runStatement s).restore t := by
          simp [runOp, Session.transaction, htx, hfailed]
        have hs : (statements.foldl runStatement s).restore t = s := by
          obtain ⟨db, tx⟩ := s
          obtain rfl : tx = some t := htx
          rw [Session.restore, runStatements_committed]
        rw [hrun, hs]
        simpa [track] using h
      | false =>
        have hrun : runOp s (.transaction statements false) = statements.foldl runStatement s := by
          simp [runOp, Session.transaction, htx, hfailed]
        have htrack : track b (.transaction statements false) =
            { b with status := statements.foldl TxStatus.statement b.status } := by simp [track, hb]
        rw [hrun, htrack]
        refine ⟨?_, (runStatements_committed _ _).trans h.committed, (runStatements_view _ _).trans h.view,
          fun _ => statements_ne_idle _ (by simp [hb])⟩
        rw [statusOf_runStatements, hstatus]

theorem Follows.op (h : Follows tenant_id s b) (op : BodyOp) : Follows tenant_id (runOp s op) (track b op) := by
  cases op with
  | statement accepted =>
    refine ⟨?_, (runStatement_committed s accepted).trans h.committed,
      (runStatement_view s accepted).trans h.view, fun _ => statement_ne_idle _ _⟩
    simp [runOp, track, h.status]
  | commit accepted => exact h.finish accepted
  | rollback => exact h.finish false
  | transaction statements raises => exact h.transaction statements raises

theorem Follows.body (h : Follows tenant_id s b) (body : List BodyOp) :
    Follows tenant_id (runBody s body) (body.foldl track b) := by
  induction body generalizing s b with
  | nil => exact h
  | cons op body ih => exact ih (h.op op)

/-- A body of `db_tenant_connection`, which starts inside the transaction that set the tenant. -/
theorem follows_tenant (tenant_id : String) (body : List BodyOp) :
    Follows tenant_id (runBody (fresh.exec 0 fun _ => tenant_id) body) (trackBody body) :=
  Follows.body ⟨rfl, rfl, rfl, by simp⟩ body

/-- A body of `db_connection` on a clean connection: no tenant is set. -/
theorem follows_plain : Follows "" fresh ⟨.idle, some true⟩ := ⟨rfl, rfl, rfl, by simp⟩

theorem Follows.view_empty (h : Follows "" s b) : s.view = "" := by
  rw [h.view, ite_self]

/-! ### Every way a borrow can end -/

/-- The pool takes back idle connections only. -/
theorem Borrow.run_tx (u : Borrow) (s : Session String) : (u.run s).session.tx = none := by
  have hexit : ∀ (s : Session String) (e : Ending), (poolExit s e).tx = none := by
    rintro s (_ | _)
    · exact Session.commit_tx s
    · rfl
  cases u with
  | db_tenant_connection tenant_id entered body ending cleanup =>
    simp only [Borrow.run, Platform.db_tenant_connection]
    cases entered <;> cases cleanup <;> simp only [Bool.false_eq_true, if_false, if_true, Session.rollback_tx]
    split_ifs
    · rfl
    · exact hexit _ _
  | db_connection body ending => exact hexit _ _

/-- The statements of `db_connection` on a clean connection run under no tenant. -/
theorem ranUnder_empty (h : Follows "" s b) (body : List BodyOp) : ∀ v ∈ ranUnder s body, v = "" := by
  induction body generalizing s b with
  | nil => simp [ranUnder]
  | cons op body ih =>
    intro v hv
    rw [ranUnder, List.mem_append] at hv
    rcases hv with hv | hv
    · rw [List.eq_of_mem_replicate hv, h.view_empty]
    · exact ih (h.op op) v hv

/-- `db_connection` leaves a clean connection clean. -/
theorem db_connection_clean (body : List BodyOp) (ending : Ending) :
    Clean (.db_connection body ending, (Borrow.db_connection body ending).run fresh) := by
  have h := follows_plain.body body
  refine ⟨Or.inr ?_, ranUnder_empty follows_plain body⟩
  cases ending with
  | normal => exact (h.finish true).view_empty
  | exception => exact (h.finish false).view_empty

/-- `db_tenant_connection` leaves a clean connection clean or closed, unless it leaks. -/
theorem db_tenant_connection_clean_iff (tenant_id : String) (entered : Bool) (body : List BodyOp)
    (ending : Ending) (cleanup : Cleanup) :
    Clean (.db_tenant_connection tenant_id entered body ending cleanup,
        (Borrow.db_tenant_connection tenant_id entered body ending cleanup).run fresh) ↔
      ¬(Borrow.db_tenant_connection tenant_id entered body ending cleanup).Leaks := by
  have h := follows_tenant tenant_id body
  -- what the rollback of the last transaction leaves
  have hback : (runBody (fresh.exec 0 fun _ => tenant_id) body).committed = "" ↔
      ¬(tenant_id ≠ "" ∧ (trackBody body).tenantCommitted = some true) := by
    rw [h.committed]
    by_cases hkept : (trackBody body).tenantCommitted = some true <;> simp [hkept]
  cases entered with
  | false => simp [Clean, Borrow.run, Platform.db_tenant_connection, Borrow.Leaks, fresh]
  | true =>
    cases cleanup with
    | cancelled =>
      simp only [Clean, Borrow.run, Platform.db_tenant_connection, Borrow.Leaks, if_true,
        Session.rollback_view, Bool.false_eq_true, false_or, hback]
      tauto
    | refused => simp [Clean, Borrow.run, Platform.db_tenant_connection, Borrow.Leaks]
    | sent =>
      have hfailed := statusOf_failed (runBody (fresh.exec 0 fun _ => tenant_id) body)
      rw [← h.status] at hfailed
      by_cases hf : (trackBody body).status = .failed
      · simp [Clean, Borrow.run, Platform.db_tenant_connection, Borrow.Leaks, hfailed.2 hf, hf]
      · have hopen : (runBody (fresh.exec 0 fun _ => tenant_id) body).failed = false := by
          simpa [hf] using hfailed
        cases ending with
        | normal =>
          have hview : ((runBody (fresh.exec 0 fun _ => tenant_id) body).exec 0 fun _ => "").commit.view = "" := by
            rw [Session.view, Session.commit_tx, Session.commit_committed (by simpa using hopen), Session.exec_view]
          simp [Clean, Borrow.run, Platform.db_tenant_connection, Borrow.Leaks, hopen, poolExit, hview]
        | exception =>
          simp only [Clean, Borrow.run, Platform.db_tenant_connection, Borrow.Leaks, if_true, hopen, poolExit,
            Session.rollback_view, Session.exec_committed, Bool.false_eq_true, if_false, false_or, hback]
          tauto

theorem Borrow.clean_iff (u : Borrow) : Clean (u, u.run fresh) ↔ ¬u.Leaks := by
  cases u with
  | db_tenant_connection tenant_id entered body ending cleanup =>
    exact db_tenant_connection_clean_iff tenant_id entered body ending cleanup
  | db_connection body ending => simpa [Borrow.Leaks] using db_connection_clean body ending

/-- After a clean borrow the next borrower gets a connection with no tenant. -/
theorem next_fresh {u : Borrow} (h : Clean (u, u.run fresh)) :
    (if (u.run fresh).closed then fresh else (u.run fresh).session) = fresh := by
  have hclean : (u.run fresh).closed = true ∨ (u.run fresh).session.view = "" := by
    cases u with
    | db_tenant_connection => exact h
    | db_connection => exact h.1
  have htx := u.run_tx fresh
  split_ifs with hclosed
  · rfl
  · have hview := hclean.resolve_left hclosed
    rw [Session.view, htx] at hview
    exact Session.ext hview htx

/-- **Key result**: over every run, the tenant setting never survives in the pool if and only if
no borrow of the run leaks it. -/
theorem tenant_setting_never_survives_iff (uses : List Borrow) :
    NeverSurvives uses ↔ ∀ u ∈ uses, ¬u.Leaks := by
  unfold NeverSurvives
  induction uses with
  | nil => simp [serve]
  | cons u us ih =>
    rw [serve, List.forall_mem_cons, List.forall_mem_cons, ← u.clean_iff]
    refine and_congr_right fun hclean => ?_
    rw [next_fresh hclean]
    exact ih

/-- A request commits and then raises, as a handler does that answers with an HTTP error after
its repository call: the next borrower reads under the tenant of that request. -/
theorem tenant_setting_survives_commit_then_raise :
    ¬NeverSurvives [.db_tenant_connection "tenant-a" true [.statement true, .commit true] .exception .sent,
      .db_connection [.statement true] .normal] := by
  intro h
  obtain ⟨-, hran⟩ := h _ (List.mem_cons_of_mem _ List.mem_cons_self)
  exact absurd (hran "tenant-a" (by decide)) (by decide)

end JLMirror.Platform
