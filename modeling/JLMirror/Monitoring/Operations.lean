import Mathlib.Data.List.Basic
import Mathlib.Data.Int.Notation

/-!
# Monitoring sources and their sync operations

The rows of the monitoring schema that every poll of a source reads: the source with its
configuration and the slots of its polls, its generations, and the sync operations that the
workers claim.

## The model

* The tables hold the rows of one tenant. Every statement of the repositories is restricted
  to one tenant, and every key begins with it.
* Timestamps are microseconds since the epoch.

## Honest scope

Display columns, the declared host groups and the replacement candidate of a source are left
out: no function below reads them.
-/

namespace JLMirror.Monitoring

/-- A timestamp, in microseconds since the epoch. -/
abbrev Timestamp := ℤ

/-- `datetime.fromtimestamp` of whole seconds. -/
def fromtimestamp (seconds : ℤ) : Timestamp := seconds * 1000000

/-- `operational_evidence_state` of a source, and `evidence_state` of a projection. -/
inductive EvidenceState where
  | current
  | stale
  | incomplete
  | reconciliation_required
  | unavailable
  deriving DecidableEq

/-- `monitoring_sync_operation.state`. -/
inductive SyncOperationState where
  | pending
  | running
  | succeeded
  | reconciliation_required
  | failed_terminal
  deriving DecidableEq

/-- `monitoring_sync_operation.responsibility_kind`. -/
inductive ResponsibilityKind where
  | validation_and_initial_sync
  | host_inventory_sync
  | metric_definition_poll
  | current_state_poll
  | metric_history_sync
  | metric_history_reconciliation
  | problem_state_sync
  | problem_state_reconciliation
  | manual_sync
  | scope_reconciliation
  | replacement_candidate_validation
  | post_cutover_reconciliation
  deriving DecidableEq

/-- `monitoring.monitoring_source`. -/
structure MonitoringSource where
  monitoring_source_id : String
  active_source_instance_generation : String
  configuration_revision : ℕ
  scope_revision : ℕ
  credential_binding_ref : String
  operational_evidence_state : EvidenceState
  last_successful_sync_at : Option Timestamp
  last_attempt_at : Option Timestamp
  problem_poll_epoch : ℕ
  problem_poll_generation : ℕ
  current_state_poll_epoch : ℕ
  current_state_poll_generation : ℕ
  deriving DecidableEq

/-- `monitoring.monitoring_source_generation`. -/
structure SourceGeneration where
  monitoring_source_id : String
  source_instance_generation : String
  provider_instance_ref : String
  provider_base_url : String
  deriving DecidableEq

/-- `monitoring.monitoring_sync_operation`. -/
structure SyncOperation where
  monitoring_sync_operation_id : String
  monitoring_source_id : String
  source_instance_generation : String
  configuration_revision : ℕ
  scope_revision : ℕ
  responsibility_kind : ResponsibilityKind
  state : SyncOperationState
  claim_token : Option String
  started_at : Option Timestamp
  completed_at : Option Timestamp
  last_error_class : Option String
  problem_poll_epoch : Option ℕ
  problem_poll_generation : Option ℕ
  current_state_poll_epoch : Option ℕ
  current_state_poll_generation : Option ℕ
  deriving DecidableEq

end JLMirror.Monitoring
