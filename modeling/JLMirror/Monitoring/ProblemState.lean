import JLMirror.Foundations.Table
import JLMirror.Monitoring.Operations
import Mathlib.Data.List.Sort

/-!
# Problem state: claim, completion, projection

`PgProblemStateRepository` of `shared/monitoring_repo.py`, with the trigger that publishes a
transition: the provider events of a source are bound to problems, projected with immutable
transitions, resolved on recovery evidence or on omission from a complete snapshot.

## The model

* `claim_problem_state` and `complete_problem_state` are one transaction each. Where the code
  raises, the worker rolls back, and the tables stay as they were (`orRollback`).
* Ids made by `_opaque` are natural numbers drawn from one counter, so a new id differs from
  all ids drawn before. The `md5` of the trigger is the tree of what it digests, and the
  comparison evidence is the payload itself.
* Both versions of the trigger function are here, since which of the two files was applied
  last depends on the deployment (`BridgeVersion`).
* Everything else that runs against these tables writes only the sources, their operations,
  admissions, resources and trigger bindings: `Action.surroundings` replaces these by
  whatever it likes.

## Honest scope

The usage record of a completion is left out, and so are the columns that repeat the clock
(`updated_at`, `admitted_at`, `occurred_at` of the messages) or the dispatch of a message. An
event of the provider is any text but the sentinel `∅` of the omission queries.
-/

namespace JLMirror.Monitoring

open JLMirror.Foundations

/-! ### Provider evidence -/

/-- The identity of an event at the provider. -/
structure EventId where
  text : String
  /-- The omission queries use this text where no event was seen. -/
  ne_sentinel : text ≠ "∅"
  deriving DecidableEq

/-- `ProblemSeverityClass`. -/
inductive SeverityClass where
  | unknown
  | informational
  | warning
  | degraded
  | critical
  deriving DecidableEq

/-- What the repository reads of a `ZabbixProblemEvidence`: the raw row of an event. -/
structure ZabbixProblemEvidence where
  eventid : EventId
  /-- The trigger. -/
  objectid : String
  deriving DecidableEq

/-- `ZabbixRecoveryEvidence`. -/
structure ZabbixRecoveryEvidence where
  problem_eventid : EventId
  recovery_eventid : EventId
  /-- Seconds since the epoch. -/
  clock : ℤ
  deriving DecidableEq

/-- `ProviderTag`. -/
structure ProviderTag where
  key : String
  value : String
  deriving DecidableEq

/-- A problem of a collected result. -/
structure ProblemObservation where
  provider_eventid : EventId
  monitoring_resource_id : String
  severity_class : SeverityClass
  summary : String
  opened_at_epoch_seconds : ℤ
  provider_acknowledged : Bool
  tags : List ProviderTag
  deriving DecidableEq

/-- `ProblemStateFailureClass`: the member that the repository looks for, and the others. -/
inductive ProblemStateFailureClass where
  | association_reconciliation_required
  | other (value : String)
  deriving DecidableEq

/-- The text of a failure class. -/
def ProblemStateFailureClass.value : ProblemStateFailureClass → String
  | .association_reconciliation_required => "association_reconciliation_required"
  | .other v => v

/-- `ProblemStateResult`. -/
structure ProblemStateResult where
  succeeded : Bool
  complete_snapshot : Bool
  operation_state : SyncOperationState
  operational_evidence_state : EvidenceState
  failure_class : Option ProblemStateFailureClass
  problems : List ProblemObservation

/-- `ProblemStateClaim`. -/
structure ProblemStateClaim where
  claim_token : String
  monitoring_sync_operation_id : String
  monitoring_source_id : String
  source_instance_generation : String
  configuration_revision : ℕ
  scope_revision : ℕ
  problem_poll_epoch : ℕ
  problem_poll_generation : ℕ
  provider_instance_ref : String
  provider_base_url : String
  credential_binding_ref : String
  /-- Trigger and resource. -/
  associations : List (String × String)

/-! ### Tables -/

/-- `monitoring_problem_state_runtime_admission`. -/
structure RuntimeAdmission where
  monitoring_source_id : String
  problem_poll_epoch : ℕ
  deriving DecidableEq

/-- What the repository reads of `monitoring_resource`. -/
structure MonitoringResource where
  monitoring_resource_id : String
  monitoring_source_id : String
  source_instance_generation : String
  in_scope : Bool
  scope_evidence_state : EvidenceState
  deriving DecidableEq

/-- `monitoring_trigger_binding`. -/
structure TriggerBinding where
  monitoring_source_id : String
  source_instance_generation : String
  provider_trigger_ref : String
  monitoring_resource_id : String
  deriving DecidableEq

/-- `monitoring_problem_provider_binding`. -/
structure ProblemProviderBinding where
  problem_id : ℕ
  monitoring_source_id : String
  source_instance_generation : String
  monitoring_resource_id : String
  provider_external_ref : EventId
  provider_trigger_ref : String
  deriving DecidableEq

/-- `problem_state`. -/
inductive ProblemState where
  | active
  | resolved
  deriving DecidableEq

/-- `problem_state` with `resolved_at`, which the table checks to be set exactly on resolved rows. -/
inductive ProblemStatus where
  | active
  | resolved (resolved_at : Timestamp)
  deriving DecidableEq

/-- The state alone. -/
def ProblemStatus.state : ProblemStatus → ProblemState
  | .active => .active
  | .resolved _ => .resolved

/-- `monitoring_problem`. -/
structure MonitoringProblem where
  problem_id : ℕ
  monitoring_source_id : String
  source_instance_generation : String
  monitoring_resource_id : String
  status : ProblemStatus
  severity_class : SeverityClass
  summary : String
  opened_at : Timestamp
  last_confirmed_at : Timestamp
  evidence_state : EvidenceState
  projection_revision : ℕ
  problem_poll_epoch : ℕ
  problem_poll_generation : ℕ
  provider_acknowledged : Bool
  /-- A JSON object, as the list of its members in the order of their keys. -/
  provider_metadata : List (String × String)
  deriving DecidableEq

/-- `transition_reason`. -/
inductive TransitionReason where
  | provider_positive
  | provider_recovery
  | authoritative_negative
  | severity_change
  deriving DecidableEq

/-- `monitoring_problem_transition`. -/
structure ProblemTransition where
  problem_transition_id : ℕ
  problem_id : ℕ
  monitoring_source_id : String
  source_instance_generation : String
  monitoring_resource_id : String
  from_problem_state : Option ProblemState
  to_problem_state : ProblemState
  from_severity_class : Option SeverityClass
  to_severity_class : SeverityClass
  transition_reason : TransitionReason
  provider_evidence_ref : String
  projection_revision : ℕ
  occurred_at : Timestamp
  deriving DecidableEq

/-- The identity of a message. -/
inductive MessageId where
  /-- A drawn id. -/
  | drawn (id : ℕ)
  /-- `'msg_' || md5(tenant | contract | transition)`. -/
  | digest (contract : String) (transition_id : ℕ)
  deriving DecidableEq

/-- The payload of a message about a transition. -/
inductive MessagePayload where
  /-- Of the trigger: identities and the revision. -/
  | invalidation (problem_id : ℕ) (monitoring_source_id source_instance_generation monitoring_resource_id : String)
      (projection_revision problem_transition_id : ℕ)
  /-- Of the domain event: the transition and the poll that made it. -/
  | stateChange (problem_id : ℕ) (monitoring_source_id source_instance_generation monitoring_resource_id : String)
      (from_problem_state : Option ProblemState) (to_problem_state : ProblemState)
      (from_severity_class : Option SeverityClass) (to_severity_class : SeverityClass)
      (transition_reason : TransitionReason) (provider_evidence_ref : String)
      (projection_revision problem_poll_epoch problem_poll_generation : ℕ)
  deriving DecidableEq

/-- `message_class`, of the messages here. -/
inductive MessageClass where
  | domain_event
  | integration_event
  deriving DecidableEq

/-- `correlation_id`: of the trigger a digest, of a domain event the operation. -/
inductive CorrelationId where
  | digest (contract : String) (transition_id : ℕ)
  | operation (id : String)
  deriving DecidableEq

/-- `monitoring_outbox`. -/
structure OutboxMessage where
  message_id : MessageId
  producer_message_scope : String
  message_class : MessageClass
  contract_name : String
  producer : String
  correlation_id : CorrelationId
  causation_id : Option ℕ
  data_classification : String
  serialization_profile_id : String
  encoded_payload : MessagePayload
  subject_type : String
  subject_id : ℕ
  appended_at : Timestamp
  deriving DecidableEq

/-- `monitoring_problem_snapshot_evidence`. -/
structure SnapshotEvidence where
  snapshot_evidence_id : ℕ
  monitoring_sync_operation_id : String
  monitoring_source_id : String
  source_instance_generation : String
  problem_poll_epoch : ℕ
  problem_poll_generation : ℕ
  snapshot_complete : Bool
  active_problem_count : ℕ
  recovery_count : ℕ
  operation_state : SyncOperationState
  operational_evidence_state : EvidenceState
  configuration_revision : ℕ
  scope_revision : ℕ
  deriving DecidableEq

/-- The two texts of `publish_invalidation`. -/
inductive BridgeVersion where
  /-- `z_integration/001_monitoring_publication_bridge.sql`. -/
  | publicationBridge
  /-- `monitoring/017_outbox_contract_envelope.sql`. -/
  | contractEnvelope
  deriving DecidableEq

/-- The tables of the monitoring schema, and the next id to be drawn. -/
structure MonitoringDb where
  sources : List MonitoringSource
  generations : List SourceGeneration
  operations : List SyncOperation
  admissions : List RuntimeAdmission
  resources : List MonitoringResource
  triggerBindings : List TriggerBinding
  bindings : List ProblemProviderBinding
  problems : List MonitoringProblem
  transitions : List ProblemTransition
  outbox : List OutboxMessage
  snapshots : List SnapshotEvidence
  bridge : BridgeVersion
  nextId : ℕ
  deriving DecidableEq

/-- The empty tables. -/
def MonitoringDb.empty (bridge : BridgeVersion) : MonitoringDb :=
  ⟨[], [], [], [], [], [], [], [], [], [], [], bridge, 0⟩

/-- What the server says when a row repeats a unique key. -/
def uniqueViolation : String := "duplicate key value violates unique constraint"

/-! ### Transitions and their messages -/

/-- `v_scope` of the trigger function. -/
def bridgeScope : String := "monitoring.alerting-bridge"

/-- `v_contract` of the trigger function. -/
def bridgeContract : String := "monitoring.problem-state.changed"

/-- The contract of the domain event. -/
def stateChangeContract : String := "monitoring.problem.state-change"

/-- `v_message_id`. -/
def invalidationId (t : ProblemTransition) : MessageId := .digest bridgeContract t.problem_transition_id

/-- `v_payload`. -/
def invalidationPayload (t : ProblemTransition) : MessagePayload :=
  .invalidation t.problem_id t.monitoring_source_id t.source_instance_generation t.monitoring_resource_id
    t.projection_revision t.problem_transition_id

/-- The row that the trigger inserts. -/
def invalidationMessage (bridge : BridgeVersion) (now : Timestamp) (t : ProblemTransition) : OutboxMessage where
  message_id := invalidationId t
  producer_message_scope := bridgeScope
  message_class := .integration_event
  contract_name := bridgeContract
  producer := match bridge with
    | .publicationBridge => "monitoring-transition-bridge"
    | .contractEnvelope => "Monitoring"
  correlation_id := .digest bridgeContract t.problem_transition_id
  causation_id := some t.problem_transition_id
  data_classification := match bridge with
    | .publicationBridge => "internal"
    | .contractEnvelope => "confidential_tenant"
  serialization_profile_id := match bridge with
    | .publicationBridge => "canonical-json-utf8"
    | .contractEnvelope => "jsonb-text-utf8@1"
  encoded_payload := invalidationPayload t
  subject_type := match bridge with
    | .publicationBridge => "monitoring_transition"
    | .contractEnvelope => "monitoring_problem"
  subject_id := match bridge with
    | .publicationBridge => t.problem_transition_id
    | .contractEnvelope => t.problem_id
  appended_at := now

/-- `monitoring.publish_invalidation`, for a transition of a problem. -/
def publish_invalidation (now : Timestamp) (t : ProblemTransition) (db : MonitoringDb) :
    Except String MonitoringDb :=
  match db.outbox.find? fun m => m.producer_message_scope = bridgeScope ∧ m.message_id = invalidationId t with
  | some m =>
    if m.encoded_payload ≠ invalidationPayload t then .error "monitoring.publication_identity_conflict"
    else .ok db
  | none => .ok { db with outbox := db.outbox ++ [invalidationMessage db.bridge now t] }

/-- `_emit_domain_event`. -/
def _emit_domain_event (now : Timestamp) (contract_name subject_type : String) (subject_id : ℕ)
    (payload : MessagePayload) (correlation_id : String) (db : MonitoringDb) : MonitoringDb :=
  let m : OutboxMessage :=
    { message_id := .drawn db.nextId, producer_message_scope := "monitoring", message_class := .domain_event
      contract_name := contract_name, producer := "monitoring-projection"
      correlation_id := .operation correlation_id, causation_id := none, data_classification := "internal"
      serialization_profile_id := "canonical-json-utf8", encoded_payload := payload
      subject_type := subject_type, subject_id := subject_id, appended_at := now }
  { db with outbox := db.outbox ++ [m], nextId := db.nextId + 1 }

/-- The payload of the domain event of a transition. -/
def stateChangePayload (claim : ProblemStateClaim) (t : ProblemTransition) : MessagePayload :=
  .stateChange t.problem_id t.monitoring_source_id t.source_instance_generation t.monitoring_resource_id
    t.from_problem_state t.to_problem_state t.from_severity_class t.to_severity_class t.transition_reason
    t.provider_evidence_ref t.projection_revision claim.problem_poll_epoch claim.problem_poll_generation

/-- The row of a transition. -/
def transitionRow (now : Timestamp) (claim : ProblemStateClaim) (problem_id : ℕ) (resource_id : String)
    (from_state : Option ProblemState) (to_state : ProblemState) (from_sev : Option SeverityClass)
    (to_sev : SeverityClass) (reason : TransitionReason) (evidence_ref : String) (revision transition_id : ℕ) :
    ProblemTransition where
  problem_transition_id := transition_id
  problem_id := problem_id
  monitoring_source_id := claim.monitoring_source_id
  source_instance_generation := claim.source_instance_generation
  monitoring_resource_id := resource_id
  from_problem_state := from_state
  to_problem_state := to_state
  from_severity_class := from_sev
  to_severity_class := to_sev
  transition_reason := reason
  provider_evidence_ref := evidence_ref
  projection_revision := revision
  occurred_at := now

/-- `_insert_transition`: the row, then its trigger, then the domain event. -/
def _insert_transition (now : Timestamp) (claim : ProblemStateClaim) (problem_id : ℕ) (resource_id : String)
    (from_state : Option ProblemState) (to_state : ProblemState) (from_sev : Option SeverityClass)
    (to_sev : SeverityClass) (reason : TransitionReason) (evidence_ref : String) (revision : ℕ)
    (db : MonitoringDb) : Except String MonitoringDb :=
  if db.transitions.any fun u => u.problem_id = problem_id ∧ u.projection_revision = revision then
    .error uniqueViolation
  else do
    let t := transitionRow now claim problem_id resource_id from_state to_state from_sev to_sev reason evidence_ref
      revision db.nextId
    let db ← publish_invalidation now t { db with transitions := db.transitions ++ [t], nextId := db.nextId + 1 }
    return _emit_domain_event now stateChangeContract "monitoring_problem" problem_id (stateChangePayload claim t)
      claim.monitoring_sync_operation_id db

/-! ### The passes of a completion -/

/-- `trigger_by_event`: the last raw row of an event counts. -/
def trigger_by_event (raw_rows : List ZabbixProblemEvidence) (e : EventId) : Option String :=
  (raw_rows.reverse.find? fun r => r.eventid = e).map ZabbixProblemEvidence.objectid

/-- `d[key] = value` in a dict that is kept in the order of its keys. -/
def setKey (key value : String) : List (String × String) → List (String × String)
  | [] => [(key, value)]
  | (k, v) :: d =>
    if key = k then (key, value) :: d
    else if key < k then (key, value) :: (k, v) :: d
    else (k, v) :: setKey key value d

/-- `json.dumps({t.key: t.value for t in tags}, sort_keys=True)`. -/
def metadataOf (tags : List ProviderTag) : List (String × String) :=
  tags.foldl (fun d t => setKey t.key t.value d) []

/-- The resource is in scope, with current evidence. -/
def MonitoringDb.resourceCurrent (db : MonitoringDb) (claim : ProblemStateClaim) (resource_id : String) : Bool :=
  db.resources.any fun r =>
    r.monitoring_resource_id = resource_id ∧ r.monitoring_source_id = claim.monitoring_source_id ∧
      r.source_instance_generation = claim.source_instance_generation ∧ r.in_scope = true ∧
      r.scope_evidence_state = .current

/-- `_assert_resource_current`. -/
def _assert_resource_current (claim : ProblemStateClaim) (resource_id : String) (db : MonitoringDb) :
    Except String Unit :=
  if db.resourceCurrent claim resource_id then .ok ()
  else .error "monitoring.problem_state_resource_association_not_current"

/-- The binding of an event in the generation of a claim. -/
def MonitoringDb.bindingOf (db : MonitoringDb) (claim : ProblemStateClaim) (e : EventId) :
    Option ProblemProviderBinding :=
  db.bindings.find? fun b =>
    b.monitoring_source_id = claim.monitoring_source_id ∧
      b.source_instance_generation = claim.source_instance_generation ∧ b.provider_external_ref = e

/-- The row of a problem. -/
def MonitoringDb.problem (db : MonitoringDb) (id : ℕ) : Option MonitoringProblem :=
  db.problems.find? fun p => p.problem_id = id

/-- The binding of an event that a poll sees for the first time. -/
def bindingRow (claim : ProblemStateClaim) (prob : ProblemObservation) (trigger_ref : String) (problem_id : ℕ) :
    ProblemProviderBinding where
  problem_id := problem_id
  monitoring_source_id := claim.monitoring_source_id
  source_instance_generation := claim.source_instance_generation
  monitoring_resource_id := prob.monitoring_resource_id
  provider_external_ref := prob.provider_eventid
  provider_trigger_ref := trigger_ref

/-- Binds an event, or finds it bound to the same resource and trigger. -/
def bindProblem (claim : ProblemStateClaim) (prob : ProblemObservation) (trigger_ref : String)
    (db : MonitoringDb) : Except String (ℕ × MonitoringDb) :=
  match db.bindingOf claim prob.provider_eventid with
  | none =>
    .ok (db.nextId, { db with
      bindings := db.bindings ++ [bindingRow claim prob trigger_ref db.nextId]
      nextId := db.nextId + 1 })
  | some b =>
    if b.monitoring_resource_id ≠ prob.monitoring_resource_id ∨ b.provider_trigger_ref ≠ trigger_ref then
      .error "monitoring.problem_state_provider_identity_collision"
    else .ok (b.problem_id, db)

/-- The row of a problem that a poll sees for the first time. -/
def openedRow (claim : ProblemStateClaim) (prob : ProblemObservation) (problem_id : ℕ) : MonitoringProblem where
  problem_id := problem_id
  monitoring_source_id := claim.monitoring_source_id
  source_instance_generation := claim.source_instance_generation
  monitoring_resource_id := prob.monitoring_resource_id
  status := .active
  severity_class := prob.severity_class
  summary := prob.summary
  opened_at := fromtimestamp prob.opened_at_epoch_seconds
  last_confirmed_at := fromtimestamp prob.opened_at_epoch_seconds
  evidence_state := .current
  projection_revision := 1
  problem_poll_epoch := claim.problem_poll_epoch
  problem_poll_generation := claim.problem_poll_generation
  provider_acknowledged := prob.provider_acknowledged
  provider_metadata := metadataOf prob.tags

/-- `changed`. -/
def MonitoringProblem.differs (p : MonitoringProblem) (prob : ProblemObservation) : Bool :=
  p.severity_class ≠ prob.severity_class ∨ p.summary ≠ prob.summary ∨
    p.provider_acknowledged ≠ prob.provider_acknowledged ∨ p.provider_metadata ≠ metadataOf prob.tags

/-- The update of a row that differs from what the poll saw. -/
def changedRow (claim : ProblemStateClaim) (prob : ProblemObservation) (new_rev : ℕ) (p : MonitoringProblem) :
    MonitoringProblem :=
  { p with
    severity_class := prob.severity_class
    summary := prob.summary
    last_confirmed_at := fromtimestamp prob.opened_at_epoch_seconds
    evidence_state := .current
    projection_revision := new_rev
    problem_poll_epoch := claim.problem_poll_epoch
    problem_poll_generation := claim.problem_poll_generation
    provider_acknowledged := prob.provider_acknowledged
    provider_metadata := metadataOf prob.tags }

/-- The update of a row that the poll saw unchanged. -/
def confirmedRow (claim : ProblemStateClaim) (prob : ProblemObservation) (p : MonitoringProblem) :
    MonitoringProblem :=
  { p with
    last_confirmed_at := max p.last_confirmed_at (fromtimestamp prob.opened_at_epoch_seconds)
    evidence_state := .current
    problem_poll_epoch := claim.problem_poll_epoch
    problem_poll_generation := claim.problem_poll_generation }

/-- The update of a row that is resolved. -/
def resolvedRow (claim : ProblemStateClaim) (resolved_at : Timestamp) (new_rev : ℕ) (p : MonitoringProblem) :
    MonitoringProblem :=
  { p with
    status := .resolved resolved_at
    last_confirmed_at := resolved_at
    evidence_state := .current
    projection_revision := new_rev
    problem_poll_epoch := claim.problem_poll_epoch
    problem_poll_generation := claim.problem_poll_generation }

/-- The update of an active row that an incomplete snapshot did not return. -/
def unconfirmedRow (p : MonitoringProblem) : MonitoringProblem := { p with evidence_state := .reconciliation_required }

/-- `UPDATE monitoring_problem SET … WHERE problem_id = id`. -/
def MonitoringDb.setProblem (id : ℕ) (f : MonitoringProblem → MonitoringProblem) (db : MonitoringDb) : MonitoringDb :=
  { db with problems := updateWhere (fun p => p.problem_id = id) f db.problems }

/-- Projects an observation onto the row of its problem. -/
def projectProblem (now : Timestamp) (claim : ProblemStateClaim) (prob : ProblemObservation) (problem_id : ℕ)
    (db : MonitoringDb) : Except String MonitoringDb :=
  match db.problem problem_id with
  | none =>
    _insert_transition now claim problem_id prob.monitoring_resource_id none .active none prob.severity_class
      .provider_positive s!"zabbix-problem:{prob.provider_eventid.text}" 1
      { db with problems := db.problems ++ [openedRow claim prob problem_id] }
  | some p =>
    if p.status.state = .resolved then .error "monitoring.problem_state_resolved_event_reappeared"
    else if p.differs prob then
      let db' := db.setProblem problem_id (changedRow claim prob (p.projection_revision + 1))
      if p.severity_class ≠ prob.severity_class then
        _insert_transition now claim problem_id prob.monitoring_resource_id (some .active) .active
          (some p.severity_class) prob.severity_class .severity_change
          s!"zabbix-problem:{prob.provider_eventid.text}" (p.projection_revision + 1) db'
      else .ok db'
    else .ok (db.setProblem problem_id (confirmedRow claim prob))

/-- The body of the loop of `_persist_problems`, with the events seen so far. -/
def persistProblem (now : Timestamp) (claim : ProblemStateClaim) (raw_rows : List ZabbixProblemEvidence)
    (s : MonitoringDb × List EventId) (prob : ProblemObservation) : Except String (MonitoringDb × List EventId) :=
  match trigger_by_event raw_rows prob.provider_eventid with
  | none => .ok s
  | some trigger_ref => do
    _assert_resource_current claim prob.monitoring_resource_id s.1
    let (problem_id, db) ← bindProblem claim prob trigger_ref s.1
    let db ← projectProblem now claim prob problem_id db
    return (db, s.2 ++ [prob.provider_eventid])

/-- `_persist_problems`. -/
def _persist_problems (now : Timestamp) (claim : ProblemStateClaim) (problems : List ProblemObservation)
    (raw_rows : List ZabbixProblemEvidence) (db : MonitoringDb) : Except String (MonitoringDb × List EventId) :=
  problems.foldlM (persistProblem now claim raw_rows) (db, [])

/-- The problem of an event: binding joined with row. -/
def MonitoringDb.boundProblem (db : MonitoringDb) (claim : ProblemStateClaim) (e : EventId) :
    Option MonitoringProblem := do
  let b ← db.bindingOf claim e
  db.problem b.problem_id

/-- The body of the loop of `_persist_recoveries`. -/
def persistRecovery (now : Timestamp) (claim : ProblemStateClaim) (db : MonitoringDb)
    (rec : ZabbixRecoveryEvidence) : Except String MonitoringDb :=
  match db.boundProblem claim rec.problem_eventid with
  | none => .ok db
  | some p =>
    match p.status with
    | .active =>
      _insert_transition now claim p.problem_id p.monitoring_resource_id (some .active) .resolved
        (some p.severity_class) p.severity_class .provider_recovery s!"zabbix-recovery:{rec.recovery_eventid.text}"
        (p.projection_revision + 1)
        (db.setProblem p.problem_id (resolvedRow claim (fromtimestamp rec.clock) (p.projection_revision + 1)))
    | .resolved existing_resolved =>
      if existing_resolved ≠ fromtimestamp rec.clock then
        .error "monitoring.problem_state_conflicting_recovery_evidence"
      else .ok db

/-- `_persist_recoveries`. -/
def _persist_recoveries (now : Timestamp) (claim : ProblemStateClaim) (recoveries : List ZabbixRecoveryEvidence)
    (db : MonitoringDb) : Except String MonitoringDb :=
  recoveries.foldlM (persistRecovery now claim) db

/-- `seen_eventids or ["∅"]`. -/
def seenRefs (seen : List EventId) : List String := if seen.isEmpty then ["∅"] else seen.map EventId.text

/-- An active problem of the generation of a claim. -/
def MonitoringProblem.activeIn (claim : ProblemStateClaim) (p : MonitoringProblem) : Bool :=
  p.monitoring_source_id = claim.monitoring_source_id ∧
    p.source_instance_generation = claim.source_instance_generation ∧ p.status.state = .active

/-- Resolves a fetched row by omission. -/
def omitProblem (now : Timestamp) (claim : ProblemStateClaim) (db : MonitoringDb) (p : MonitoringProblem) :
    Except String MonitoringDb :=
  _insert_transition now claim p.problem_id p.monitoring_resource_id (some .active) .resolved (some p.severity_class)
    p.severity_class .authoritative_negative s!"problem.get:complete:{claim.monitoring_sync_operation_id}"
    (p.projection_revision + 1)
    (db.setProblem p.problem_id (resolvedRow claim now (p.projection_revision + 1)))

/-- The rows that a complete snapshot resolves: active, and bound to an event that was not seen. -/
def MonitoringDb.omitted (db : MonitoringDb) (claim : ProblemStateClaim) (seen : List EventId) :
    List MonitoringProblem :=
  db.problems.filter fun p =>
    p.activeIn claim ∧
      db.bindings.any fun b => b.problem_id = p.problem_id ∧ b.provider_external_ref.text ∉ seenRefs seen

/-- The rows that an incomplete snapshot leaves unconfirmed: active, and bound to no event seen. -/
def MonitoringDb.unreturned (db : MonitoringDb) (claim : ProblemStateClaim) (seen : List EventId)
    (p : MonitoringProblem) : Bool :=
  p.activeIn claim ∧
    !db.bindings.any fun b => b.problem_id = p.problem_id ∧ b.provider_external_ref.text ∈ seenRefs seen

/-- `_apply_omission`. -/
def _apply_omission (now : Timestamp) (claim : ProblemStateClaim) (complete_snapshot : Bool) (seen : List EventId)
    (db : MonitoringDb) : Except String MonitoringDb :=
  if complete_snapshot then (db.omitted claim seen).foldlM (omitProblem now claim) db
  else
    .ok { db with problems := updateWhere (db.unreturned claim seen) unconfirmedRow db.problems }

/-! ### Claim and completion -/

/-- The condition of the claim: the operation with its source and generation. -/
def MonitoringDb.claimable (db : MonitoringDb) (op_id : String) :
    Option (SyncOperation × MonitoringSource × SourceGeneration) := do
  let o ← db.operations.find? fun o =>
    o.monitoring_sync_operation_id = op_id ∧ o.state = .pending ∧ o.claim_token = none ∧
      o.responsibility_kind = .problem_state_sync
  let s ← db.sources.find? fun s =>
    s.monitoring_source_id = o.monitoring_source_id ∧
      s.active_source_instance_generation = o.source_instance_generation ∧
      s.configuration_revision = o.configuration_revision ∧ s.scope_revision = o.scope_revision ∧
      s.operational_evidence_state = .current
  let g ← db.generations.find? fun g =>
    g.monitoring_source_id = o.monitoring_source_id ∧ g.source_instance_generation = o.source_instance_generation
  return (o, s, g)

/-- The trigger bindings of a generation, in the order of the triggers. -/
def MonitoringDb.associations (db : MonitoringDb) (source_id generation : String) : List (String × String) :=
  ((db.triggerBindings.filter fun t =>
      t.monitoring_source_id = source_id ∧ t.source_instance_generation = generation).map
    fun t => (t.provider_trigger_ref, t.monitoring_resource_id)).insertionSort fun a b => a.1 ≤ b.1

/-- `claim_problem_state`. -/
def claim_problem_state (now : Timestamp) (op_id claim_token : String) (db : MonitoringDb) :
    Except String (ProblemStateClaim × MonitoringDb) :=
  match db.claimable op_id with
  | none => .error "monitoring.problem_state_not_claimable"
  | some (o, s, g) =>
    let poll_gen := s.problem_poll_generation + 1
    if !db.admissions.any fun a =>
        a.monitoring_source_id = s.monitoring_source_id ∧ a.problem_poll_epoch = s.problem_poll_epoch then
      .error "monitoring.problem_state_recovery_admission_required"
    else
      let claim : ProblemStateClaim :=
        { claim_token := claim_token, monitoring_sync_operation_id := op_id
          monitoring_source_id := s.monitoring_source_id
          source_instance_generation := o.source_instance_generation
          configuration_revision := o.configuration_revision, scope_revision := o.scope_revision
          problem_poll_epoch := s.problem_poll_epoch, problem_poll_generation := poll_gen
          provider_instance_ref := g.provider_instance_ref, provider_base_url := g.provider_base_url
          credential_binding_ref := s.credential_binding_ref
          associations := db.associations s.monitoring_source_id o.source_instance_generation }
      .ok (claim,
        { db with
          sources := updateWhere (fun r => r.monitoring_source_id = s.monitoring_source_id)
            (fun r => { r with problem_poll_generation := poll_gen }) db.sources
          operations := updateWhere
            (fun r => r.monitoring_sync_operation_id = op_id ∧ r.state = .pending ∧ r.claim_token = none)
            (fun r => { r with
              state := .running
              claim_token := some claim_token
              started_at := some now
              problem_poll_epoch := some s.problem_poll_epoch
              problem_poll_generation := some poll_gen }) db.operations })

/-- The fence of a completion: the operation runs under this claim, and the source is as claimed. -/
def MonitoringDb.fence (db : MonitoringDb) (claim : ProblemStateClaim) : Bool :=
  db.operations.any fun o =>
    o.monitoring_sync_operation_id = claim.monitoring_sync_operation_id ∧ o.state = .running ∧
      o.claim_token = some claim.claim_token ∧
      db.sources.any fun s =>
        s.monitoring_source_id = o.monitoring_source_id ∧
          s.active_source_instance_generation = claim.source_instance_generation ∧
          s.configuration_revision = claim.configuration_revision ∧ s.scope_revision = claim.scope_revision ∧
          s.problem_poll_epoch = claim.problem_poll_epoch ∧
          s.problem_poll_generation = claim.problem_poll_generation

/-- The three passes over a successful result. -/
def reconcile (now : Timestamp) (claim : ProblemStateClaim) (result : ProblemStateResult)
    (raw_rows : List ZabbixProblemEvidence) (recoveries : List ZabbixRecoveryEvidence) (db : MonitoringDb) :
    Except String MonitoringDb := do
  let (db, seen) ← _persist_problems now claim result.problems raw_rows db
  let db ← _persist_recoveries now claim recoveries db
  _apply_omission now claim result.complete_snapshot seen db

/-- The snapshot evidence of a successful result, unless the operation has one. -/
def recordSnapshot (claim : ProblemStateClaim) (result : ProblemStateResult)
    (recoveries : List ZabbixRecoveryEvidence) (db : MonitoringDb) : MonitoringDb :=
  if db.snapshots.any fun e => e.monitoring_sync_operation_id = claim.monitoring_sync_operation_id then db
  else
    let e : SnapshotEvidence :=
      { snapshot_evidence_id := db.nextId
        monitoring_sync_operation_id := claim.monitoring_sync_operation_id
        monitoring_source_id := claim.monitoring_source_id
        source_instance_generation := claim.source_instance_generation
        problem_poll_epoch := claim.problem_poll_epoch
        problem_poll_generation := claim.problem_poll_generation
        snapshot_complete := result.complete_snapshot, active_problem_count := result.problems.length
        recovery_count := recoveries.length, operation_state := result.operation_state
        operational_evidence_state := result.operational_evidence_state
        configuration_revision := claim.configuration_revision, scope_revision := claim.scope_revision }
    { db with snapshots := db.snapshots ++ [e], nextId := db.nextId + 1 }

/-- The new state of the source, and of the operation. -/
def closeOperation (now : Timestamp) (claim : ProblemStateClaim) (result : ProblemStateResult) (db : MonitoringDb) :
    MonitoringDb :=
  { db with
    sources := updateWhere (fun s => s.monitoring_source_id = claim.monitoring_source_id)
      (fun s => { s with
        operational_evidence_state := result.operational_evidence_state
        last_attempt_at := some now
        last_successful_sync_at :=
          if result.operation_state = .succeeded then some now else s.last_successful_sync_at }) db.sources
    operations := updateWhere
      (fun o => o.monitoring_sync_operation_id = claim.monitoring_sync_operation_id)
      (fun o => { o with
        state := if result.complete_snapshot then result.operation_state else .reconciliation_required
        completed_at := some now
        claim_token := none
        last_error_class := match result.failure_class with
          | some f => some f.value
          | none => if result.complete_snapshot then none else some "monitoring.problem_snapshot_incomplete" })
      db.operations }

/-- Queues an inventory sync where a problem named a trigger that the inventory does not have yet. -/
def enqueueInventory (claim : ProblemStateClaim) (result : ProblemStateResult) (db : MonitoringDb) : MonitoringDb :=
  if result.failure_class = some .association_reconciliation_required ∧
      !db.operations.any (fun o =>
        o.monitoring_source_id = claim.monitoring_source_id ∧ o.responsibility_kind = .host_inventory_sync ∧
          (o.state = .pending ∨ o.state = .running)) then
    let o : SyncOperation :=
      { monitoring_sync_operation_id := s!"mon-op_{db.nextId}", monitoring_source_id := claim.monitoring_source_id
        source_instance_generation := claim.source_instance_generation
        configuration_revision := claim.configuration_revision, scope_revision := claim.scope_revision
        responsibility_kind := .host_inventory_sync, state := .pending, claim_token := none, started_at := none
        completed_at := none, last_error_class := none, problem_poll_epoch := none
        problem_poll_generation := none, current_state_poll_epoch := none, current_state_poll_generation := none }
    { db with operations := db.operations ++ [o], nextId := db.nextId + 1 }
  else db

/-- What a completion does with the result: nothing where the poll failed. -/
def applyResult (now : Timestamp) (claim : ProblemStateClaim) (result : ProblemStateResult)
    (raw_rows : List ZabbixProblemEvidence) (recoveries : List ZabbixRecoveryEvidence) (db : MonitoringDb) :
    Except String MonitoringDb :=
  if result.succeeded then
    (reconcile now claim result raw_rows recoveries db).map (recordSnapshot claim result recoveries)
  else .ok db

/-- `complete_problem_state`. -/
def complete_problem_state (now : Timestamp) (claim : ProblemStateClaim) (result : ProblemStateResult)
    (raw_rows : List ZabbixProblemEvidence) (recoveries : List ZabbixRecoveryEvidence) (db : MonitoringDb) :
    Except String MonitoringDb :=
  if db.fence claim then
    (applyResult now claim result raw_rows recoveries db).map fun db =>
      enqueueInventory claim result (closeOperation now claim result db)
  else .error "monitoring.problem_state_claim_lost"

/-! ### Runs -/

/-- The tables that the rest of the platform writes. -/
structure Surroundings where
  sources : List MonitoringSource
  generations : List SourceGeneration
  operations : List SyncOperation
  admissions : List RuntimeAdmission
  resources : List MonitoringResource
  triggerBindings : List TriggerBinding
  bridge : BridgeVersion

/-- What happens to the tables. -/
inductive Action where
  /-- A worker claims an operation. -/
  | claim (now : Timestamp) (op_id claim_token : String)
  /-- A worker completes a claim with what it collected. -/
  | complete (now : Timestamp) (claim : ProblemStateClaim) (result : ProblemStateResult)
      (raw_rows : List ZabbixProblemEvidence) (recoveries : List ZabbixRecoveryEvidence)
  /-- The rest of the platform. -/
  | surroundings (s : Surroundings)

/-- The tables after a transaction: where it raises, the worker rolls back. -/
def MonitoringDb.orRollback (db : MonitoringDb) : Except String MonitoringDb → MonitoringDb
  | .ok db' => db'
  | .error _ => db

/-- The tables after an action. -/
def MonitoringDb.step (db : MonitoringDb) : Action → MonitoringDb
  | .claim now op_id token => db.orRollback ((claim_problem_state now op_id token db).map Prod.snd)
  | .complete now claim result raw_rows recoveries =>
    db.orRollback (complete_problem_state now claim result raw_rows recoveries db)
  | .surroundings s =>
    { db with
      sources := s.sources
      generations := s.generations
      operations := s.operations
      admissions := s.admissions
      resources := s.resources
      triggerBindings := s.triggerBindings
      bridge := s.bridge }

/-- The tables after a run from an empty schema. -/
def MonitoringDb.exec (bridge : BridgeVersion) (run : List Action) : MonitoringDb :=
  run.foldl MonitoringDb.step (.empty bridge)

end JLMirror.Monitoring
