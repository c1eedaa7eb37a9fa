import JLMirror.Monitoring.ProblemState

/-!
# The tables of the monitoring schema

The rows that the sync workers of a source write, for all six kinds of operations: inventory,
definitions, current state, history, problems and health, over the sources and operations that
they share.

## The model

* `SourceRow`, `OperationRow` and `ResourceRow` are the rows of `Operations` and `ProblemState`
  with the columns that the other workers read.
* The problem tables are those of `MonitoringDb`. `SyncDb.problemView` is the schema as the
  problem worker sees it, and `SyncDb.withProblemView` puts back what it wrote.
* What the vendor package decides is a parameter, `Domain`.
* A JSON value is its text.

## Honest scope

Columns that no function below reads are left out: display names, timestamps of rows that repeat
the clock, references to egress decisions and credentials, host groups, fingerprints.
-/

namespace JLMirror.Monitoring

open JLMirror.Foundations

/-! ### Sources and operations -/

/-- `monitoring_source`, with its connection binding and the slots of the definition polls. -/
structure SourceRow extends MonitoringSource where
  provider_scope_tenant_binding_id : String
  item_definition_poll_epoch : ℕ
  item_definition_poll_generation : ℕ

/-- `monitoring_sync_operation`, with the columns of definition polls, history and recovery. -/
structure OperationRow extends SyncOperation where
  created_at : Timestamp
  item_definition_poll_epoch : Option ℕ
  item_definition_poll_generation : Option ℕ
  history_time_from : Option ℤ
  history_time_till : Option ℤ
  history_item_cursor : String
  recovery_count : ℕ
  host_inventory_snapshot_evidence_id : Option String
  metric_definition_snapshot_evidence_id : Option String

/-- `monitoring_source_validation_evidence`. -/
structure ValidationEvidence where
  validation_evidence_id : String
  monitoring_source_id : String
  monitoring_sync_operation_id : String
  operational_evidence_state : EvidenceState
  failure_class : Option String

/-- `g1.usage_meters`, of a sync operation. -/
structure UsageMeter where
  /-- The operation that is metered, which the row does not name. -/
  sync_operation_id : String
  meter : String
  window_start : Timestamp
  window_end : Timestamp

/-- Sources, their generations and operations. -/
structure CoreTables where
  sources : List SourceRow
  generations : List SourceGeneration
  operations : List OperationRow
  validations : List ValidationEvidence
  usage : List UsageMeter

/-! ### Inventory -/

/-- `presence_state`. -/
inductive PresenceState where
  | present
  | removed
  deriving DecidableEq

/-- `monitoring_resource`, with the columns of the inventory. -/
structure ResourceRow extends MonitoringResource where
  provider_external_ref : String
  scope_projection_revision : ℕ
  presence_state : PresenceState
  presence_evidence_state : EvidenceState

/-- `monitoring_host_inventory_snapshot_evidence`. -/
structure HostInventoryEvidence where
  host_inventory_snapshot_evidence_id : String
  monitoring_sync_operation_id : String
  monitoring_source_id : String
  provider_scope_tenant_binding_id : String
  source_instance_generation : String
  configuration_revision : ℕ
  scope_revision : ℕ
  provider_instance_ref : String
  snapshot_complete : Bool
  host_count : ℕ
  operational_evidence_state : EvidenceState
  operation_state : SyncOperationState
  failure_class : Option String

/-- `monitoring_resource_provider_evidence`. -/
structure ResourceProviderEvidence where
  provider_evidence_id : ℕ
  host_inventory_snapshot_evidence_id : String
  monitoring_resource_id : String
  monitoring_source_id : String
  source_instance_generation : String
  provider_external_ref : String

/-- The tables of the inventory. -/
structure InventoryTables where
  resources : List ResourceRow
  snapshots : List HostInventoryEvidence
  evidence : List ResourceProviderEvidence

/-! ### Metric definitions -/

/-- `MetricValueKind`. -/
inductive MetricValueKind where
  | number
  | integer
  | boolean
  | string
  | text
  | log
  deriving DecidableEq

/-- `native_value_type` of an item at the provider. -/
inductive NativeValueType where
  | float
  | unsigned
  | character
  | text
  | log
  deriving DecidableEq

/-- `provider_operational_state` of an item. -/
inductive ItemOperationalState where
  | enabled
  | disabled
  | unsupported
  deriving DecidableEq

/-- An item of a collected definition snapshot. -/
structure MetricItem where
  itemid : String
  hostid : String
  name : String
  key : String
  unit : String
  native_value_type : NativeValueType
  operational_state : ItemOperationalState

/-- `definition_state`, with the poll of the retirement, which the table checks to be set exactly
on retired rows. -/
inductive DefinitionState where
  | active
  | retired (poll_epoch poll_generation : ℕ)
  deriving DecidableEq

/-- `metric_definition`. -/
structure MetricDefinition where
  metric_definition_id : String
  monitoring_resource_id : String
  monitoring_source_id : String
  source_instance_generation : String
  name : String
  value_kind : MetricValueKind
  unit : String
  in_scope : Bool
  scope_projection_revision : ℕ
  scope_evidence_state : EvidenceState
  definition_state : DefinitionState
  definition_evidence_state : EvidenceState
  last_confirmed_present_poll_epoch : ℕ
  last_confirmed_present_poll_generation : ℕ

/-- `metric_definition_provider_binding`. -/
structure ItemBinding where
  metric_definition_id : String
  monitoring_resource_id : String
  monitoring_source_id : String
  source_instance_generation : String
  provider_external_ref : String
  provider_host_ref : String
  provider_key : String
  native_value_type : NativeValueType
  provider_operational_state : ItemOperationalState
  evidence_state : EvidenceState

/-- `monitoring_metric_definition_snapshot_evidence`. -/
structure MetricDefinitionEvidence where
  metric_definition_snapshot_evidence_id : String
  monitoring_sync_operation_id : String
  monitoring_source_id : String
  source_instance_generation : String
  configuration_revision : ℕ
  scope_revision : ℕ
  item_definition_poll_epoch : ℕ
  item_definition_poll_generation : ℕ
  snapshot_complete : Bool
  item_count : ℕ
  operational_evidence_state : EvidenceState
  operation_state : SyncOperationState
  failure_class : Option String

/-- `monitoring_metric_definition_provider_evidence`. -/
structure ItemProviderEvidence where
  provider_evidence_id : ℕ
  metric_definition_snapshot_evidence_id : String
  metric_definition_id : String
  provider_external_ref : String
  normalized_evidence : MetricItem

/-- The tables of the definitions. -/
structure MetricTables where
  definitions : List MetricDefinition
  bindings : List ItemBinding
  snapshots : List MetricDefinitionEvidence
  evidence : List ItemProviderEvidence

/-! ### Observations -/

/-- A canonical value, as JSON text. -/
abbrev CanonicalValue := String

/-- `history_projection_state`. -/
inductive HistoryProjectionState where
  | pending
  | projected
  deriving DecidableEq

/-- `monitoring_metric_observation_acceptance`. -/
structure ObservationAcceptance where
  observation_id : String
  monitoring_sync_operation_id : String
  monitoring_source_id : String
  source_instance_generation : String
  monitoring_resource_id : String
  metric_definition_id : String
  provider_external_ref : String
  /-- Seconds since the epoch. -/
  provider_clock : ℤ
  provider_ns : ℤ
  value_kind : MetricValueKind
  canonical_value : CanonicalValue
  configuration_revision : ℕ
  scope_revision : ℕ
  /-- Unset where the history accepted the sample. -/
  current_state_poll_epoch : Option ℕ
  current_state_poll_generation : Option ℕ
  history_projection_state : HistoryProjectionState

/-- `metric_current_state`. -/
structure MetricCurrentState where
  metric_definition_id : String
  monitoring_resource_id : String
  monitoring_source_id : String
  source_instance_generation : String
  current_observation_id : String
  value_kind : MetricValueKind
  canonical_value : CanonicalValue
  evidence_state : EvidenceState
  projection_revision : ℕ
  current_state_poll_epoch : ℕ
  current_state_poll_generation : ℕ

/-- `monitoring_metric_current_state_transition`. -/
structure CurrentStateTransition where
  current_state_transition_id : ℕ
  metric_definition_id : String
  monitoring_resource_id : String
  monitoring_source_id : String
  source_instance_generation : String
  from_observation_id : Option String
  to_observation_id : String
  projection_revision : ℕ

/-- `metric_observation`. -/
structure MetricObservation where
  observation_id : String
  monitoring_source_id : String
  source_instance_generation : String
  monitoring_resource_id : String
  metric_definition_id : String
  provider_external_ref : String
  provider_clock : ℤ
  provider_ns : ℤ
  value_kind : MetricValueKind
  canonical_value : CanonicalValue

/-- `HistoryCoverageState`. -/
inductive HistoryCoverageState where
  | open
  | reconciliation_required
  | gap
  | finalized
  deriving DecidableEq

/-- `metric_history_stream_state`. -/
structure HistoryStream where
  monitoring_source_id : String
  source_instance_generation : String
  provider_external_ref : String
  history_value_type : ℕ
  metric_definition_id : String
  provisional_clock : Option ℤ
  provisional_ns : Option ℤ
  safe_clock : Option ℤ
  safe_ns : Option ℤ
  coverage_state : HistoryCoverageState
  checkpoint_revision : ℕ
  updated_at : Timestamp

/-- `metric_history_gap_evidence`. -/
structure HistoryGap where
  history_gap_id : ℕ
  monitoring_source_id : String
  source_instance_generation : String
  provider_external_ref : String
  history_value_type : ℕ
  metric_definition_id : String
  gap_from_clock : ℤ
  gap_through_clock : ℤ
  reason : String
  detected_at : Timestamp

/-- The tables of the observations. -/
structure ObservationTables where
  acceptances : List ObservationAcceptance
  currentStates : List MetricCurrentState
  transitions : List CurrentStateTransition
  observations : List MetricObservation
  streams : List HistoryStream
  gaps : List HistoryGap

/-! ### Health -/

/-- `health_class`. -/
inductive HealthClass where
  | unknown
  | healthy
  | degraded
  | unhealthy
  deriving DecidableEq

/-- `health_projection`. -/
structure HealthProjection where
  monitoring_resource_id : String
  monitoring_source_id : String
  source_instance_generation : String
  health_class : HealthClass
  evidence_state : EvidenceState
  projection_revision : ℕ
  problem_snapshot_evidence_id : Option ℕ
  reason_refs : List String

/-- `health_projection_transition`. -/
structure HealthTransition where
  health_transition_id : ℕ
  monitoring_resource_id : String
  monitoring_source_id : String
  source_instance_generation : String
  from_health_class : Option HealthClass
  to_health_class : HealthClass
  from_evidence_state : Option EvidenceState
  to_evidence_state : EvidenceState
  projection_revision : ℕ
  problem_snapshot_evidence_id : Option ℕ
  reason_refs : List String

/-- The tables of the health projection. -/
structure HealthTables where
  projections : List HealthProjection
  transitions : List HealthTransition

/-! ### The schema -/

/-- The tables that only the problem worker writes. -/
structure ProblemTables where
  admissions : List RuntimeAdmission
  triggerBindings : List TriggerBinding
  bindings : List ProblemProviderBinding
  problems : List MonitoringProblem
  transitions : List ProblemTransition
  outbox : List OutboxMessage
  snapshots : List SnapshotEvidence
  bridge : BridgeVersion

/-- The schema, and the next id to be drawn. -/
structure SyncDb where
  core : CoreTables
  inventory : InventoryTables
  metrics : MetricTables
  observations : ObservationTables
  problems : ProblemTables
  health : HealthTables
  nextId : ℕ

/-- The empty schema. -/
def SyncDb.empty (bridge : BridgeVersion) : SyncDb where
  core := ⟨[], [], [], [], []⟩
  inventory := ⟨[], [], []⟩
  metrics := ⟨[], [], [], []⟩
  observations := ⟨[], [], [], [], [], []⟩
  problems := ⟨[], [], [], [], [], [], [], bridge⟩
  health := ⟨[], []⟩
  nextId := 0

/-- What the server says when a row breaks a `CHECK`. -/
def checkViolation : String := "new row violates check constraint"

/-- The schema after a transaction: where it raises, the worker rolls back. -/
def SyncDb.orRollback (db : SyncDb) : Except String SyncDb → SyncDb
  | .ok db' => db'
  | .error _ => db

/-! ### The schema of the problem worker -/

/-- The schema, as the problem worker sees it. -/
def SyncDb.problemView (db : SyncDb) : MonitoringDb where
  sources := db.core.sources.map (·.toMonitoringSource)
  generations := db.core.generations
  operations := db.core.operations.map (·.toSyncOperation)
  admissions := db.problems.admissions
  resources := db.inventory.resources.map (·.toMonitoringResource)
  triggerBindings := db.problems.triggerBindings
  bindings := db.problems.bindings
  problems := db.problems.problems
  transitions := db.problems.transitions
  outbox := db.problems.outbox
  snapshots := db.problems.snapshots
  bridge := db.problems.bridge
  nextId := db.nextId

/-- A new operation: the columns that its insert does not name have their defaults. -/
def OperationRow.ofNew (now : Timestamp) (o : SyncOperation) : OperationRow where
  toSyncOperation := o
  created_at := now
  item_definition_poll_epoch := none
  item_definition_poll_generation := none
  history_time_from := none
  history_time_till := none
  history_item_cursor := ""
  recovery_count := 0
  host_inventory_snapshot_evidence_id := none
  metric_definition_snapshot_evidence_id := none

/-- What the problem worker wrote, in the schema: the sources and operations it has seen keep their
other columns, and those after them are new. -/
def SyncDb.withProblemView (now : Timestamp) (db : SyncDb) (p : MonitoringDb) : SyncDb :=
  { db with
    core := { db.core with
      sources := List.zipWith (fun r s => { r with toMonitoringSource := s }) db.core.sources p.sources
      operations :=
        List.zipWith (fun r o => { r with toSyncOperation := o }) db.core.operations p.operations ++
          (p.operations.drop db.core.operations.length).map (OperationRow.ofNew now) }
    problems := ⟨p.admissions, p.triggerBindings, p.bindings, p.problems, p.transitions, p.outbox, p.snapshots,
      p.bridge⟩
    nextId := p.nextId }

/-! ### The vendor package -/

/-- What `derive_health` is given. -/
structure HealthInput where
  monitoring_source_id : String
  source_instance_generation : String
  monitoring_resource_id : String
  source_is_current : Bool
  resource_present : Bool
  scope_is_current_and_in_scope : Bool
  problem_completeness_is_current : Bool
  evidence_state : EvidenceState
  active_problem_severities : List SeverityClass
  reason_refs : List String

/-- What `derive_health` decides. -/
structure HealthDecision where
  health_class : HealthClass
  evidence_state : EvidenceState
  reason_refs : List String

/-- What the repositories take from the vendor package. -/
structure Domain where
  /-- `canonical_value_kind`. -/
  canonical_value_kind : NativeValueType → MetricValueKind
  /-- `parse_canonical_value`, which raises on a text that is no value of the kind. -/
  parse_canonical_value : MetricValueKind → String → Option CanonicalValue
  /-- `MAX_HISTORY_ITEMS_PER_REQUEST`. -/
  max_history_items_per_request : ℕ
  /-- `derive_health`. -/
  derive_health : HealthInput → HealthDecision

/-- Every evidence flag of an input is set. -/
def HealthInput.flags (i : HealthInput) : Bool :=
  i.source_is_current && i.resource_present && i.scope_is_current_and_in_scope && i.problem_completeness_is_current

/-- A vendor package that does what the tests of the repository ask of it. -/
def Domain.tested : Domain where
  canonical_value_kind
    | .float => .number
    | .unsigned => .integer
    | .character => .string
    | .text => .text
    | .log => .log
  parse_canonical_value kind raw :=
    match kind with
    | .number => if raw.toList.all fun c => c.isDigit || c = '.' then some raw else none
    | .integer => if raw.toList.all Char.isDigit then some raw else none
    | .boolean => if raw = "0" || raw = "1" then some raw else none
    | .string | .text | .log => some raw
  max_history_items_per_request := 512
  derive_health i :=
    let evidence : EvidenceState :=
      if i.flags then i.evidence_state
      else if i.evidence_state = .current then .reconciliation_required else i.evidence_state
    { health_class :=
        if i.active_problem_severities.contains .critical then .unhealthy
        else if i.active_problem_severities.contains .warning || i.active_problem_severities.contains .degraded then
          .degraded
        else if i.active_problem_severities.contains .unknown || evidence ≠ .current then .unknown
        else .healthy
      evidence_state := evidence
      reason_refs := i.reason_refs }

end JLMirror.Monitoring
