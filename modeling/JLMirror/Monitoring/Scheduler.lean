import JLMirror.Foundations.Sessions
import JLMirror.Monitoring.OperationRequests

/-!
# The scheduler, statement by statement

`workers/scheduler.py`: a pass asks for each kind of operation which sources are due, and inserts an operation for each
of them. Any number of schedulers run their passes in any interleaving of their statements, between the transactions of
the API and of the other workers.

## The model

* A session is a connection of a scheduler. Its transaction starts with its first statement, and `now()` stays what it
  was then until the transaction ends. A kind without a source that is due does not end it.
* What a statement of a pass reads is what is committed, with the writes of its own session. The other programs take
  one transaction at a step (`Sync.System.step`).
* `pg_try_advisory_xact_lock` is a write that publishes nothing: its number is taken until the transaction ends, and a
  session that finds it taken goes on with the next source.
* Each statement can fail: the exception is caught, the transaction is rolled back, and the pass goes on with the next
  kind. The connection can be lost.
* A query remembers the tables that it read, which is a ghost.

## Honest scope

The tables are those of one tenant. Whether another tenant has sources that are due, and whether a lock of another
tenant has the same number, comes with the step. `hashtext` is a parameter.
-/

namespace JLMirror.Monitoring

open JLMirror.Foundations

/-! ### What is due -/

/-- `responsibility_kind`, as text. -/
def ResponsibilityKind.value : ResponsibilityKind → String
  | .validation_and_initial_sync => "validation_and_initial_sync"
  | .host_inventory_sync => "host_inventory_sync"
  | .metric_definition_poll => "metric_definition_poll"
  | .current_state_poll => "current_state_poll"
  | .metric_history_sync => "metric_history_sync"
  | .metric_history_reconciliation => "metric_history_reconciliation"
  | .problem_state_sync => "problem_state_sync"
  | .problem_state_reconciliation => "problem_state_reconciliation"
  | .manual_sync => "manual_sync"
  | .scope_reconciliation => "scope_reconciliation"
  | .replacement_candidate_validation => "replacement_candidate_validation"
  | .post_cutover_reconciliation => "post_cutover_reconciliation"

/-- `SCHED_PROBLEM_SECONDS` and the like. -/
structure SchedulerConfig where
  problem_seconds : ℕ
  current_seconds : ℕ
  inventory_seconds : ℕ
  metrics_seconds : ℕ
  history_seconds : ℕ
  history_window_seconds : ℕ

/-- The values where the environment sets none. -/
def SchedulerConfig.default : SchedulerConfig := ⟨60, 300, 1800, 3600, 3600, 3600⟩

/-- `_CADENCES`, in their order. -/
def _CADENCES (cfg : SchedulerConfig) : List (ResponsibilityKind × ℕ) :=
  [(.problem_state_sync, cfg.problem_seconds), (.current_state_poll, cfg.current_seconds),
    (.host_inventory_sync, cfg.inventory_seconds), (.metric_definition_poll, cfg.metrics_seconds),
    (.metric_history_sync, cfg.history_seconds)]

/-- `_SCHEDULABLE` -/
def _SCHEDULABLE : ResponsibilityKind → List EvidenceState
  | .problem_state_sync => [.current]
  | .host_inventory_sync => [.current, .stale, .reconciliation_required, .unavailable]
  | _ => [.current, .stale, .reconciliation_required]

/-- `make_interval` of `_PENDING_DEDUP_MINUTES`. -/
def dedupWindow : Timestamp := fromtimestamp (15 * 60)

/-- `pending` or `running`. -/
def SyncOperationState.live : SyncOperationState → Bool
  | .pending | .running => true
  | .succeeded | .reconciliation_required | .failed_terminal => false

/-- The operation is of the kind, for the source. -/
def OperationRow.isOf (source_id : String) (kind : ResponsibilityKind) (o : OperationRow) : Bool :=
  o.monitoring_source_id = source_id ∧ o.responsibility_kind = kind

/-- When the last operation of the kind ended; the epoch, where none has. -/
def CoreTables.lastEnded (c : CoreTables) (source_id : String) (kind : ResponsibilityKind) : Timestamp :=
  ((c.operations.filter fun o => o.isOf source_id kind ∧ !o.state.live).filterMap (·.completed_at)).max?.getD 0

/-- `_DUE_SQL`: the condition on a source. -/
def CoreTables.due (c : CoreTables) (kind : ResponsibilityKind) (cadence : ℕ) (now : Timestamp) (s : SourceRow) : Bool :=
  s.operational_evidence_state ∈ _SCHEDULABLE kind ∧
    (∀ o ∈ c.operations, o.isOf s.monitoring_source_id kind = true → o.state.live = true →
      o.created_at ≤ now - dedupWindow) ∧
    c.lastEnded s.monitoring_source_id kind < now - fromtimestamp cadence

section Due

variable {c : CoreTables} {kind : ResponsibilityKind} {cadence : ℕ} {now : Timestamp} {s : SourceRow} {o : OperationRow}

/-- Where a source is due, an operation that is pending or running was created before the window. -/
theorem due_live (h : c.due kind cadence now s = true) (ho : o ∈ c.operations)
    (hof : o.isOf s.monitoring_source_id kind = true) (hlive : o.state.live = true) : o.created_at ≤ now - dedupWindow :=
  (of_decide_eq_true h).2.1 o ho hof hlive

theorem le_lastEnded {source_id : String} {t : Timestamp} (ho : o ∈ c.operations) (hof : o.isOf source_id kind = true)
    (hended : o.state.live = false) (ht : o.completed_at = some t) : t ≤ c.lastEnded source_id kind := by
  have hmem : t ∈ (c.operations.filter fun o => o.isOf source_id kind ∧ !o.state.live).filterMap (·.completed_at) :=
    List.mem_filterMap.2 ⟨o, List.mem_filter.2 ⟨ho, by simp [hof, hended]⟩, ht⟩
  obtain ⟨m, hm⟩ := Option.isSome_iff_exists.1 (List.isSome_max?_of_mem hmem)
  rw [CoreTables.lastEnded, hm, Option.getD_some]
  exact (List.max?_eq_some_iff.1 hm).2 t hmem

theorem due_ended (h : c.due kind cadence now s = true) (ho : o ∈ c.operations)
    (hof : o.isOf s.monitoring_source_id kind = true) (hended : o.state.live = false) {t : Timestamp}
    (ht : o.completed_at = some t) : t < now - fromtimestamp cadence :=
  (le_lastEnded ho hof hended ht).trans_lt (of_decide_eq_true h).2.2

end Due

namespace Scheduler

open Sync

/-! ### The statements of a pass -/

/-- A due query, and what was read with it. -/
structure Query where
  kind : ResponsibilityKind
  cadence : ℕ
  /-- `now()` of its transaction. -/
  now : Timestamp
  /-- `datetime.now`, in whole seconds. -/
  clock : ℤ
  /-- The tables that it read. -/
  tables : CoreTables

/-- The rows of a query. -/
def Query.rows (q : Query) : List SourceRow := q.tables.sources.filter (q.tables.due q.kind q.cadence q.now)

/-- The row that `_INSERT_SQL` inserts for a source. -/
def Query.operation (cfg : SchedulerConfig) (q : Query) (s : SourceRow) (op_id : String) : OperationRow :=
  let o := pendingOperation q.now op_id q.kind s
  match q.kind with
  | .metric_definition_poll =>
    { o with
      item_definition_poll_epoch := some s.item_definition_poll_epoch
      item_definition_poll_generation := some (s.item_definition_poll_generation + 1) }
  | .current_state_poll =>
    { o with
      current_state_poll_epoch := some s.current_state_poll_epoch
      current_state_poll_generation := some (s.current_state_poll_generation + 1) }
  | .metric_history_sync =>
    { o with
      history_time_from := some (q.clock - cfg.history_window_seconds)
      history_time_till := some q.clock }
  | _ => o

theorem operation_isOf (cfg : SchedulerConfig) (q : Query) (s : SourceRow) (op_id : String) :
    (q.operation cfg s op_id).isOf s.monitoring_source_id q.kind = true := by
  refine decide_eq_true ?_
  unfold Query.operation
  split <;> exact ⟨rfl, rfl⟩

/-- What a transaction writes. -/
inductive Write where
  /-- `pg_try_advisory_xact_lock` -/
  | lock (number : ℤ)
  | insert (o : OperationRow)

/-- What the others find taken. -/
inductive Row where
  | lock (number : ℤ)
  | operation (op_id : String)
  deriving DecidableEq

def Write.row : Write → Row
  | .lock number => .lock number
  | .insert o => .operation o.monitoring_sync_operation_id

/-- A write on the schema. -/
def Write.apply (x : Write) (s : System) : System :=
  match x with
  | .lock _ => s
  | .insert o => { s with db := { s.db with core := { s.db.core with operations := s.db.core.operations ++ [o] } } }

/-- The operation that a write inserts. -/
def Write.inserted : Write → Option OperationRow
  | .lock _ => none
  | .insert o => some o

/-- The next statement of a pass, with the kinds that are left. -/
inductive Point where
  | idle
  | due (kinds : List (ResponsibilityKind × ℕ))
  /-- `pg_try_advisory_xact_lock` for the next source; where there is none, the commit. -/
  | lock (q : Query) (rows : List SourceRow) (kinds : List (ResponsibilityKind × ℕ))
  | insert (q : Query) (row : SourceRow) (rows : List SourceRow) (kinds : List (ResponsibilityKind × ℕ))

/-- The pass goes on with the next kind, or is over. -/
def Point.next : List (ResponsibilityKind × ℕ) → Point
  | [] => .idle
  | kinds => .due kinds

/-- The kinds that are left when a statement has failed. -/
def Point.rest : Point → Option (List (ResponsibilityKind × ℕ))
  | .idle | .due [] => none
  | .due (_ :: kinds) | .lock _ _ kinds | .insert _ _ _ kinds => some kinds

/-- The schema, the sessions, and when their transactions started. -/
structure Scheduling extends Sessions System Write Point where
  started : ℕ → Option Timestamp

namespace Scheduling

/-- No scheduler runs. -/
def empty (bridge : BridgeVersion) : Scheduling := ⟨Sessions.init .idle (.empty bridge), fun _ => none⟩

/-- What a session sees. -/
def view (s : Scheduling) (w : ℕ) : CoreTables := (Sessions.view Write.apply s.toSessions w).db.core

/-- The session goes on. -/
def goto (s : Scheduling) (w : ℕ) (p : Point) : Scheduling := { s with toSessions := s.toSessions.goto w p }

/-- `COMMIT` -/
def commit (s : Scheduling) (w : ℕ) (p : Point) : Scheduling :=
  ⟨s.toSessions.commit Write.apply p w, Function.update s.started w none⟩

/-- `ROLLBACK` -/
def rollback (s : Scheduling) (w : ℕ) (p : Point) : Scheduling :=
  ⟨s.toSessions.rollback p w, Function.update s.started w none⟩

/-- Draws an id for an operation. -/
def drawn (s : Scheduling) : Scheduling :=
  { s with toSessions := s.outside { s.tx.db with db := { s.tx.db.db with nextId := s.tx.db.db.nextId + 1 } } }

/-- An open transaction has inserted the id of an operation of the tables. -/
def collides (s : Scheduling) (c : CoreTables) : Bool :=
  s.tx.log.any fun x => x.2.inserted.any fun o =>
    c.operations.any fun r => r.monitoring_sync_operation_id = o.monitoring_sync_operation_id

end Scheduling

/-- A step of the system. -/
inductive Act where
  /-- A transaction of the API or of a worker. -/
  | act (a : Sync.Action)
  /-- `_process_pending` -/
  | pass (w : ℕ)
  /-- The due query of the next kind. -/
  | due (w : ℕ) (now clock : Timestamp) (others : Bool)
  | lock (w : ℕ) (others : Bool)
  | insert (w : ℕ)
  | commit (w : ℕ)
  /-- A statement fails. -/
  | fail (w : ℕ)
  /-- The connection is lost. -/
  | lose (w : ℕ)

section Steps

variable (domain : Domain) (cfg : SchedulerConfig) (hashtext : String → ℤ) (tenant_id : String)

/-- The number of the lock for a source and a kind. -/
def lockNumber (source_id : String) (kind : ResponsibilityKind) : ℤ :=
  hashtext (tenant_id ++ ":" ++ source_id ++ ":" ++ kind.value)

/-- The operation that a session is about to insert, and the query that it is for. -/
def Scheduling.inserts (s : Scheduling) (w : ℕ) : Option (Query × OperationRow) :=
  match s.pc w with
  | .insert q row _ _ => some (q, q.operation cfg row (opaqueId "mon-op" s.tx.db.db.nextId))
  | _ => none

/-- A step. -/
def Scheduling.step (s : Scheduling) : Act → Scheduling
  | .act a =>
    let db := s.tx.db.step domain a
    if s.collides db.db.core then s else { s with toSessions := s.outside db }
  | .pass w =>
    match s.pc w with
    | .idle => s.goto w (.next (_CADENCES cfg))
    | _ => s
  | .due w now clock others =>
    match s.pc w with
    | .due ((kind, cadence) :: kinds) =>
      let start := (s.started w).getD now
      let q : Query := ⟨kind, cadence, start, clock.tdiv 1000000, s.view w⟩
      { s.goto w (if q.rows.isEmpty ∧ !others then .next kinds else .lock q q.rows kinds) with
        started := Function.update s.started w (some start) }
    | _ => s
  | .lock w others =>
    match s.pc w with
    | .lock q (row :: rows) kinds =>
      let number := lockNumber hashtext tenant_id row.monitoring_source_id q.kind
      if others ∨ s.tx.locked Write.row w (.lock number) then s.goto w (.lock q rows kinds)
      else { s with toSessions := s.toSessions.write Write.row w (.lock number) (.insert q row rows kinds) }
    | _ => s
  | .insert w =>
    match s.pc w with
    | .insert q row rows kinds =>
      let o := q.operation cfg row (opaqueId "mon-op" s.tx.db.db.nextId)
      let s := s.drawn
      -- The primary key is taken: the exception leaves the transaction.
      if (s.view w).operations.any fun r => r.monitoring_sync_operation_id = o.monitoring_sync_operation_id then
        s.rollback w (.next kinds)
      else { s with toSessions := s.toSessions.write Write.row w (.insert o) (.lock q rows kinds) }
    | _ => s
  | .commit w =>
    match s.pc w with
    | .lock _ [] kinds => s.commit w (.next kinds)
    | _ => s
  | .fail w =>
    match (s.pc w).rest with
    | none => s
    | some kinds => s.rollback w (.next kinds)
  | .lose w => s.rollback w .idle

/-- The system after a run. -/
def Scheduling.exec (bridge : BridgeVersion) (run : List Act) : Scheduling :=
  run.foldl (Scheduling.step domain cfg hashtext tenant_id) (.empty bridge)

end Steps

end Scheduler

end JLMirror.Monitoring
