import JLMirror.Foundations.RowImages
import JLMirror.Monitoring.Scheduler

/-!
# The pass of the reconciliation worker, statement by statement

`workers/reconciliation.py`: a pass returns the operations of dead workers to `pending`, ends those that have been
returned too often and those that no worker can claim any more, and then reads which terminal operations have no live
successor and requeues them one by one. It is one transaction; at READ COMMITTED each of its statements reads what is
committed by then.

## The model

* A session is a connection of the worker. `transaction_timestamp()` is fixed when its pass starts.
* An `UPDATE` finds its rows when it starts and then takes one after the other. Where another transaction has written
  the row it waits, and looks at the row again.
* `requeue_sync_operation` is two statements, the second of which restores the evidence of the source.
* A statement may fail, or the connection may be lost: the transaction is rolled back.
* The other programs take one transaction at a step (`Sync.System.step`), and none that writes a row that an open pass
  has written.
* `Books.recovered` are the ids of the recoveries that passes have committed, which is a ghost.

## What is proved

`recoveryPass_eq`: the pass as one transaction (`recoveryPass`) consists of the same statements.

## Honest scope

The tables are those of one tenant; how many of the 32 rows are left for it comes with the step.
-/

namespace JLMirror.Monitoring

open JLMirror.Foundations

deriving instance DecidableEq for OperationRow, SourceRow

/-- The terminal operations that a pass requeues, as its query returns them. -/
def CoreTables.selected (cfg : RecoveryConfig) (now : Timestamp) (slots : ℕ) (c : CoreTables) : List OperationRow :=
  ((c.operations.filter (c.reconcilable cfg now)).insertionSort fun a b =>
    a.completed_at.getD 0 ≤ b.completed_at.getD 0).take (min slots 32)

namespace Reconciliation

open Sync

/-! ### The statements of a pass -/

/-- The `UPDATE`s that come first. -/
inductive Statement where
  | reap
  | exhaust
  | sweep

/-- `WHERE` -/
def Statement.applies (cfg : RecoveryConfig) (now : Timestamp) (sources : List SourceRow) (o : OperationRow) :
    Statement → Bool
  | .reap => o.orphaned cfg now ∧ o.recovery_count < cfg.recovery_max
  | .exhaust => o.orphaned cfg now ∧ cfg.recovery_max ≤ o.recovery_count
  | .sweep => o.state = .pending ∧ o.claim_token = none ∧ sources.any fun s =>
      s.monitoring_source_id = o.monitoring_source_id ∧ o.superseded s

/-- `SET` -/
def Statement.set (now : Timestamp) (o : OperationRow) : Statement → OperationRow
  | .reap => { o with
      state := .pending, claim_token := none, started_at := none, recovery_count := o.recovery_count + 1
      last_error_class := some "claim.orphaned" }
  | .exhaust => { o with
      state := .failed_terminal, claim_token := none, completed_at := some now
      last_error_class := some "claim.orphaned_exhausted" }
  | .sweep => { o with
      state := .failed_terminal, completed_at := some now
      last_error_class := some "authority_superseded" }

/-- A statement on all of its rows. -/
def Statement.whole (cfg : RecoveryConfig) (now : Timestamp) (st : Statement) (c : CoreTables) : CoreTables :=
  { c with operations := updateWhere (fun o => st.applies cfg now c.sources o) (fun o => st.set now o) c.operations }

theorem recoveryPass_eq (cfg : RecoveryConfig) (now : Timestamp) (slots : ℕ) (c : CoreTables) :
    recoveryPass cfg now slots c =
      let c := Statement.sweep.whole cfg now (Statement.exhaust.whole cfg now (Statement.reap.whole cfg now c))
      (c.selected cfg now slots).foldl
        (fun c o => (requeue_sync_operation o.monitoring_source_id o.monitoring_sync_operation_id c).2) c := rfl

/-- A write of a pass. -/
inductive Write where
  | update (st : Statement) (now : Timestamp) (op_id : String)
  | requeue (op_id : String)
  /-- The evidence of the source. -/
  | restore (source_id : String)

/-- The rows that writes are on. -/
inductive Row where
  | operation (op_id : String)
  | source (source_id : String)
  deriving DecidableEq

def Write.row : Write → Row
  | .update _ _ op_id | .requeue op_id => .operation op_id
  | .restore source_id => .source source_id

/-- The writes on the operations. -/
def onOperations : RowWrites OperationRow String Write where
  key := (·.monitoring_sync_operation_id)
  target
    | .update _ _ op_id | .requeue op_id => some op_id
    | .restore _ => none
  set
    | .update st now _, o => st.set now o
    | .requeue _, o => o.requeued
    | .restore _, o => o
  key_set x o := by
    rcases x with ⟨_ | _ | _, _, _⟩ | _ | _ <;> rfl

/-- The writes on the sources. -/
def onSources : RowWrites SourceRow String Write where
  key := (·.monitoring_source_id)
  target
    | .update _ _ _ | .requeue _ => none
    | .restore source_id => some source_id
  set _ s := { s with operational_evidence_state := .current }
  key_set _ _ := rfl

/-- The operation that a write recovers. -/
def Write.recovered : Write → Option String
  | .update .reap _ op_id | .requeue op_id => some op_id
  | .update .exhaust _ _ | .update .sweep _ _ | .restore _ => none

/-- The system, and what the passes have recovered. -/
structure Books where
  sys : System
  recovered : List String

/-- The tables of the operations. -/
def Books.core (b : Books) : CoreTables := b.sys.db.core

/-- A write on the tables. -/
def Write.apply (x : Write) (b : Books) : Books where
  sys := { b.sys with db := { b.sys.db with core := { b.core with
    operations := b.core.operations.map (onOperations.on x)
    sources := b.core.sources.map (onSources.on x) } } }
  recovered := b.recovered ++ x.recovered.toList

/-- The next statement of a pass. -/
inductive Point where
  | idle
  /-- An `UPDATE`, with the sources that it has read and the rows that are left. -/
  | update (st : Statement) (now : Timestamp) (slots : ℕ) (sources : List SourceRow) (ids : List String)
  /-- `requeue_sync_operation` for the next row; where there is none, the commit. -/
  | requeue (rows : List OperationRow)
  | restore (source_id : String) (rows : List OperationRow)

/-- The rows that are still to be requeued. -/
def Point.rows : Point → List OperationRow
  | .idle | .update .. => []
  | .requeue rows | .restore _ rows => rows

/-- An `UPDATE` finds its rows. -/
def Point.start (cfg : RecoveryConfig) (now : Timestamp) (slots : ℕ) (c : CoreTables) (st : Statement) : Point :=
  .update st now slots c.sources
    ((c.operations.filter fun o => st.applies cfg now c.sources o).map (·.monitoring_sync_operation_id))

/-- What follows on an `UPDATE`. -/
def Point.after (cfg : RecoveryConfig) (now : Timestamp) (slots : ℕ) (c : CoreTables) : Statement → Point
  | .reap => .start cfg now slots c .exhaust
  | .exhaust => .start cfg now slots c .sweep
  | .sweep => .requeue (c.selected cfg now slots)

/-- The tables, and the passes. -/
abbrev Passes := Sessions Books Write Point

namespace Passes

/-- No pass runs. -/
def empty (bridge : BridgeVersion) : Passes := Sessions.init .idle ⟨.empty bridge, []⟩

/-- What a session sees. -/
def seen (s : Passes) (w : ℕ) : Books := Sessions.view Write.apply s w

/-- A transaction elsewhere writes a row that an open pass has written. -/
def waits (s : Passes) (c : CoreTables) : Bool :=
  s.tx.log.any fun y => match y.2.row with
    | .operation op_id =>
      c.operations.filter (·.monitoring_sync_operation_id = op_id) ≠
        s.tx.db.core.operations.filter (·.monitoring_sync_operation_id = op_id)
    | .source source_id =>
      c.sources.filter (·.monitoring_source_id = source_id) ≠
        s.tx.db.core.sources.filter (·.monitoring_source_id = source_id)

end Passes

/-- A step of the system. -/
inductive Act where
  /-- A transaction of the API or of another worker. -/
  | act (a : Sync.Action)
  /-- `_process_pending` -/
  | pass (w : ℕ) (now : Timestamp) (slots : ℕ)
  /-- The next statement of a pass, or the next row of it. -/
  | go (w : ℕ)
  /-- A statement fails, or the connection is lost. -/
  | fail (w : ℕ)

section Steps

variable (domain : Domain) (cfg : RecoveryConfig)

/-- A pass goes on. -/
def Passes.go (s : Passes) (w : ℕ) : Passes :=
  let c := (s.seen w).core
  match s.pc w with
  | .idle => s
  | .update st now slots _ [] => s.goto w (.after cfg now slots c st)
  | .update st now slots sources (op_id :: ids) =>
    if c.operations.any fun o => o.monitoring_sync_operation_id = op_id ∧ st.applies cfg now sources o then
      s.write Write.row w (.update st now op_id) (.update st now slots sources ids)
    else s.goto w (.update st now slots sources ids)
  | .requeue [] => s.commit Write.apply .idle w
  | .requeue (r :: rows) =>
    if c.operations.any (OperationRow.requeues r.monitoring_source_id r.monitoring_sync_operation_id) then
      s.write Write.row w (.requeue r.monitoring_sync_operation_id) (.restore r.monitoring_source_id rows)
    else s.goto w (.requeue rows)
  | .restore source_id rows =>
    if c.sources.any fun s =>
        s.monitoring_source_id = source_id ∧ s.operational_evidence_state = .reconciliation_required then
      s.write Write.row w (.restore source_id) (.requeue rows)
    else s.goto w (.requeue rows)

/-- A step. -/
def Passes.step (s : Passes) : Act → Passes
  | .act (.recover ..) => s
  | .act a =>
    let sys := s.tx.db.sys.step domain a
    if s.waits sys.db.core then s else s.outside ⟨sys, s.tx.db.recovered⟩
  | .pass w now slots =>
    match s.pc w with
    | .idle => s.goto w (.start cfg now slots (s.seen w).core .reap)
    | _ => s
  | .go w => s.go cfg w
  | .fail w => s.rollback .idle w

/-- The system after a run. -/
def Passes.exec (bridge : BridgeVersion) (run : List Act) : Passes :=
  run.foldl (Passes.step domain cfg) (.empty bridge)

end Steps

end Reconciliation

end JLMirror.Monitoring
