import JLMirror.Monitoring.SyncOperations

/-!
# Recovery of operations

`requeue_sync_operation` of `018_op_recovery.sql`, and the reaper of `workers/reconciliation.py`:
operations whose claim is orphaned go back to `pending`, or to `failed_terminal` where they did so
too often; pending operations whose authority has moved on are swept; terminal operations without a
live successor are requeued.

## The model

* Lease, limit and backoff come from the environment: `RecoveryConfig`.
* The passes of the code run over all tenants. Of the rows that `_reconcile_terminal` takes in one
  pass, `slots` are those of this tenant.
-/

namespace JLMirror.Monitoring

open JLMirror.Foundations

/-- `WORKER_OP_LEASE_SECONDS`, `WORKER_OP_RECOVERY_MAX`, `WORKER_RECONCILE_BACKOFF_SECONDS`. -/
structure RecoveryConfig where
  lease_seconds : ℕ
  recovery_max : ℕ
  backoff_seconds : ℕ

/-- The values where the environment sets none. -/
def RecoveryConfig.default : RecoveryConfig := ⟨600, 3, 300⟩

/-- A state from which an operation may be requeued. -/
def SyncOperationState.requeueable : SyncOperationState → Bool
  | .reconciliation_required | .failed_terminal => true
  | .pending | .running | .succeeded => false

/-- The operation that a requeue selects. -/
def OperationRow.requeues (source_id op_id : String) (o : OperationRow) : Bool :=
  o.monitoring_source_id = source_id ∧ o.monitoring_sync_operation_id = op_id ∧ o.state.requeueable

/-- Back to `pending`. -/
def OperationRow.requeued (o : OperationRow) : OperationRow :=
  { o with
    state := .pending, claim_token := none, started_at := none, completed_at := none
    recovery_count := o.recovery_count + 1 }

/-- `requeue_sync_operation`: whether it requeued the operation, and the tables. -/
def requeue_sync_operation (source_id op_id : String) (c : CoreTables) : Bool × CoreTables :=
  let operations := updateWhere (OperationRow.requeues source_id op_id) OperationRow.requeued c.operations
  if c.operations.countP (OperationRow.requeues source_id op_id) = 1 then
    (true, { c with
      operations := operations
      sources := updateWhere
        (fun s => s.monitoring_source_id = source_id ∧ s.operational_evidence_state = .reconciliation_required)
        (fun s => { s with operational_evidence_state := .current }) c.sources })
  else (false, { c with operations := operations })

/-- A running operation whose lease is over. -/
def OperationRow.orphaned (cfg : RecoveryConfig) (now : Timestamp) (o : OperationRow) : Bool :=
  o.state = .running ∧ o.started_at.any fun t => t < now - fromtimestamp cfg.lease_seconds

/-- `_reap_orphaned_running`. -/
def _reap_orphaned_running (cfg : RecoveryConfig) (now : Timestamp) (c : CoreTables) : CoreTables :=
  let requeued := updateWhere (fun o => o.orphaned cfg now ∧ o.recovery_count < cfg.recovery_max)
    (fun o => { o with
      state := .pending, claim_token := none, started_at := none, recovery_count := o.recovery_count + 1
      last_error_class := some "claim.orphaned" }) c.operations
  { c with
    operations := updateWhere (fun o => o.orphaned cfg now ∧ cfg.recovery_max ≤ o.recovery_count)
      (fun o => { o with
        state := .failed_terminal, claim_token := none, completed_at := some now
        last_error_class := some "claim.orphaned_exhausted" }) requeued }

/-- The authority of an operation is not that of its source any more. -/
def OperationRow.superseded (o : OperationRow) (s : SourceRow) : Bool :=
  s.active_source_instance_generation ≠ o.source_instance_generation ∨
    s.configuration_revision ≠ o.configuration_revision ∨ s.scope_revision ≠ o.scope_revision ∨
    (o.responsibility_kind = .metric_definition_poll ∧
      (o.item_definition_poll_epoch ≠ some s.item_definition_poll_epoch ∨
        o.item_definition_poll_generation ≠ some (s.item_definition_poll_generation + 1))) ∨
    (o.responsibility_kind = .current_state_poll ∧
      (o.current_state_poll_epoch ≠ some s.current_state_poll_epoch ∨
        o.current_state_poll_generation ≠ some (s.current_state_poll_generation + 1)))

/-- `_sweep_zombie_pending`. -/
def _sweep_zombie_pending (now : Timestamp) (c : CoreTables) : CoreTables :=
  { c with
    operations := updateWhere
      (fun o => o.state = .pending ∧ o.claim_token = none ∧ c.sources.any fun s =>
        s.monitoring_source_id = o.monitoring_source_id ∧ o.superseded s)
      (fun o => { o with
        state := .failed_terminal, completed_at := some now
        last_error_class := some "authority_superseded" }) c.operations }

/-- A terminal operation that a pass may requeue. -/
def CoreTables.reconcilable (cfg : RecoveryConfig) (now : Timestamp) (c : CoreTables) (o : OperationRow) : Bool :=
  o.state.requeueable ∧ o.recovery_count < cfg.recovery_max ∧
    (o.completed_at.any fun t => t < now - fromtimestamp cfg.backoff_seconds) ∧
    !c.operations.any fun n =>
      n.monitoring_source_id = o.monitoring_source_id ∧ n.responsibility_kind = o.responsibility_kind ∧
        (n.state = .pending ∨ n.state = .running)

/-- `_reconcile_terminal`: the operations are read once, then requeued one by one. -/
def _reconcile_terminal (cfg : RecoveryConfig) (now : Timestamp) (slots : ℕ) (c : CoreTables) : CoreTables :=
  let rows := ((c.operations.filter (c.reconcilable cfg now)).insertionSort fun a b =>
    a.completed_at.getD 0 ≤ b.completed_at.getD 0).take (min slots 32)
  rows.foldl (fun c o => (requeue_sync_operation o.monitoring_source_id o.monitoring_sync_operation_id c).2) c

/-- `_process_pending` of the reaper: one recovery pass. -/
def recoveryPass (cfg : RecoveryConfig) (now : Timestamp) (slots : ℕ) (c : CoreTables) : CoreTables :=
  _reconcile_terminal cfg now slots (_sweep_zombie_pending now (_reap_orphaned_running cfg now c))

/-! ### What a pass preserves -/

/-- The operation in another state: its request is the same, and it has not been recovered less often. -/
def OperationRow.Reaped (o o' : OperationRow) : Prop :=
  o.recovery_count ≤ o'.recovery_count ∧ o' = { o with
    state := o'.state, claim_token := o'.claim_token, started_at := o'.started_at, completed_at := o'.completed_at
    recovery_count := o'.recovery_count, last_error_class := o'.last_error_class }

section Pass

variable {R : CoreTables → CoreTables → Prop} (cfg : RecoveryConfig) (now : Timestamp) (slots : ℕ) (c : CoreTables)
  (refl : ∀ c, R c c) (trans : ∀ {c d e}, R c d → R d e → R c e)
  (requeue : ∀ source_id op_id c, R c (requeue_sync_operation source_id op_id c).2)

include refl trans requeue

theorem reconcile_rel : R c (_reconcile_terminal cfg now slots c) := by
  unfold _reconcile_terminal
  generalize List.take _ _ = rows
  induction rows generalizing c with
  | nil => exact refl c
  | cons o rows ih => exact trans (requeue _ _ c) (ih _)

/-- A pass relates the tables if its requeues do, and what puts operations that are open in another state. -/
theorem recoveryPass_rel
    (update : ∀ (p : OperationRow → Bool) f c, (∀ o, p o = true → o.state ≠ .succeeded) → (∀ o : OperationRow, o.Reaped (f o)) →
      R c { c with operations := updateWhere p f c.operations }) : R c (recoveryPass cfg now slots c) := by
  have horphaned : ∀ o : OperationRow, o.orphaned cfg now = true → o.state ≠ .succeeded := by
    simp +contextual [OperationRow.orphaned]
  have hreap : R c (_reap_orphaned_running cfg now c) := by
    -- The orphans go back, and then those that did so too often are failed.
    refine trans (update (fun o => o.orphaned cfg now ∧ o.recovery_count < cfg.recovery_max) _ c ?_ ?_)
      (update (fun o => o.orphaned cfg now ∧ cfg.recovery_max ≤ o.recovery_count) _ _ ?_ ?_)
    · exact fun o ho => horphaned o (of_decide_eq_true ho).1
    · exact fun o => ⟨Nat.le_succ _, rfl⟩
    · exact fun o ho => horphaned o (of_decide_eq_true ho).1
    · exact fun o => ⟨le_rfl, rfl⟩
  refine trans hreap (trans ?_ (reconcile_rel cfg now slots _ refl trans requeue))
  exact update _ _ _ (fun o ho => (of_decide_eq_true ho).1 ▸ nofun) fun o => ⟨le_rfl, rfl⟩

end Pass

end JLMirror.Monitoring
