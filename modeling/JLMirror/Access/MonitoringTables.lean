import Mathlib.Data.List.Sort

/-!
# The tables that the monitoring endpoints read

The tables of the schema `monitoring` as the reading endpoints see them, and the part of them that belongs
to some sources of a tenant.

## The model

* A row has the columns that a query compares or sorts by as fields, and the others, which are only shown, in
  `columns` by their names. A row is of the source in its column `monitoring_source_id`, a message of the
  outbox of the source of its subject.
* `Integral` is what the writers of the tables keep: where a row refers to another one by its key, both are of
  one source. Each worker takes both from the claim of one operation.

## What is proved

* **Key result** (`filter_kept`): a query that only asks for rows of the part reads the part.

## Honest scope

Columns that no endpoint reads are left out, and so are the tables of transitions and snapshots.
-/

namespace JLMirror.Access

/-- A value of JSON, as the endpoints answer it. -/
inductive Json where
  | null
  | bool (b : Bool)
  | num (n : ℤ)
  | str (text : String)
  | arr (values : List Json)
  | obj (entries : List (String × Json))

/-! ### Rows -/

/-- What the rows have in common. -/
structure OwnedRow where
  tenant_id : String
  monitoring_source_id : String
  /-- The columns that are only shown. -/
  columns : String → Json

/-- `monitoring.monitoring_source`. -/
structure MonitoringSource extends OwnedRow where
  active_source_instance_generation : String
  operational_evidence_state : String
  created_at : ℤ

/-- `monitoring.monitoring_source_generation`. -/
structure SourceGeneration extends OwnedRow where
  source_instance_generation : String

/-- `monitoring.monitoring_sync_operation`. -/
structure SyncOperationRow extends OwnedRow where
  responsibility_kind : String
  state : String
  created_at : ℤ

/-- `monitoring.monitoring_source_validation_evidence`. -/
structure ValidationEvidence extends OwnedRow where
  operational_evidence_state : String

/-- `monitoring.monitoring_resource`. -/
structure ResourceRow extends OwnedRow where
  monitoring_resource_id : String
  source_instance_generation : String
  latest_provider_evidence_id : Option String

/-- `monitoring.monitoring_resource_provider_evidence`. -/
structure ProviderEvidence extends OwnedRow where
  provider_evidence_id : String

/-- `monitoring.metric_definition`. -/
structure DefinitionRow extends OwnedRow where
  metric_definition_id : String
  source_instance_generation : String
  name : String
  unit : String

/-- `monitoring.metric_definition_provider_binding`. -/
structure DefinitionBinding extends OwnedRow where
  metric_definition_id : String

/-- `monitoring.metric_current_state`. -/
structure CurrentStateRow extends OwnedRow where
  metric_definition_id : String
  monitoring_resource_id : String
  source_instance_generation : String
  value_kind : String
  canonical_value : Json

/-- `monitoring.metric_observation`. -/
structure ObservationRow extends OwnedRow where
  observation_id : String
  metric_definition_id : String
  provider_clock : ℤ
  provider_ns : ℤ
  observed_at : ℤ
  value_kind : String
  canonical_value : Json

/-- `monitoring.metric_history_stream_state`. -/
structure StreamRow extends OwnedRow where
  provider_external_ref : String
  metric_definition_id : String
  coverage_state : String
  safe_clock : Option ℤ
  updated_at : ℤ

/-- `monitoring.metric_history_gap_evidence`. -/
structure GapRow extends OwnedRow where
  history_gap_id : String
  metric_definition_id : String
  detected_at : ℤ

/-- `monitoring.monitoring_problem`. -/
structure ProblemRow extends OwnedRow where
  problem_id : String
  monitoring_resource_id : String
  source_instance_generation : String
  problem_state : String
  severity_class : String
  opened_at : ℤ

/-- `monitoring.monitoring_problem_provider_binding`. -/
structure ProblemBinding extends OwnedRow where
  problem_id : String

/-- `monitoring.health_projection`. -/
structure HealthRow extends OwnedRow where
  monitoring_resource_id : String
  source_instance_generation : String

/-- `dispatch_state` of a message. -/
inductive MessageState where
  | pending
  | claimed
  | published
  | quarantined
  deriving DecidableEq

/-- Its text. -/
def MessageState.text : MessageState → String
  | .pending => "pending"
  | .claimed => "claimed"
  | .published => "published"
  | .quarantined => "quarantined"

/-- `monitoring.monitoring_outbox`. -/
structure MessageRow where
  tenant_id : String
  record_id : ℤ
  subject_type : Option String
  subject_id : Option String
  dispatch_state : MessageState
  /-- The columns that are only shown. -/
  columns : String → Json

/-- The tables. -/
structure MonitoringDb where
  monitoring_source : List MonitoringSource
  monitoring_source_generation : List SourceGeneration
  monitoring_sync_operation : List SyncOperationRow
  monitoring_source_validation_evidence : List ValidationEvidence
  monitoring_resource : List ResourceRow
  monitoring_resource_provider_evidence : List ProviderEvidence
  metric_definition : List DefinitionRow
  metric_definition_provider_binding : List DefinitionBinding
  metric_current_state : List CurrentStateRow
  metric_observation : List ObservationRow
  metric_history_stream_state : List StreamRow
  metric_history_gap_evidence : List GapRow
  monitoring_problem : List ProblemRow
  monitoring_problem_provider_binding : List ProblemBinding
  health_projection : List HealthRow
  monitoring_outbox : List MessageRow

/-! ### The part of some sources -/

/-- `WHERE tenant_id = %s AND monitoring_source_id = %s`. -/
def OwnedRow.of (tenant_id source_id : String) (r : OwnedRow) : Bool :=
  r.tenant_id = tenant_id ∧ r.monitoring_source_id = source_id

/-- The row is of one of the sources of the tenant. -/
def OwnedRow.within (tenant_id : String) (sources : List String) (r : OwnedRow) : Bool :=
  r.tenant_id = tenant_id ∧ r.monitoring_source_id ∈ sources

/-- The row that a message is about, a problem or a resource. -/
def MonitoringDb.subject (m : MessageRow) (db : MonitoringDb) : Option OwnedRow :=
  match m.subject_type, m.subject_id with
  | some "monitoring_problem", some id =>
    (db.monitoring_problem.find? fun p => p.tenant_id = m.tenant_id ∧ p.problem_id = id).map ProblemRow.toOwnedRow
  | some "monitoring_resource", some id =>
    (db.monitoring_resource.find? fun r => r.tenant_id = m.tenant_id ∧ r.monitoring_resource_id = id).map
      ResourceRow.toOwnedRow
  | _, _ => none

/-- The rows of the sources of the tenant, and the messages about them or about no source at all. -/
def MonitoringDb.restrict (tenant_id : String) (sources : List String) (db : MonitoringDb) : MonitoringDb where
  monitoring_source := db.monitoring_source.filter fun r => r.within tenant_id sources
  monitoring_source_generation := db.monitoring_source_generation.filter fun r => r.within tenant_id sources
  monitoring_sync_operation := db.monitoring_sync_operation.filter fun r => r.within tenant_id sources
  monitoring_source_validation_evidence :=
    db.monitoring_source_validation_evidence.filter fun r => r.within tenant_id sources
  monitoring_resource := db.monitoring_resource.filter fun r => r.within tenant_id sources
  monitoring_resource_provider_evidence :=
    db.monitoring_resource_provider_evidence.filter fun r => r.within tenant_id sources
  metric_definition := db.metric_definition.filter fun r => r.within tenant_id sources
  metric_definition_provider_binding := db.metric_definition_provider_binding.filter fun r => r.within tenant_id sources
  metric_current_state := db.metric_current_state.filter fun r => r.within tenant_id sources
  metric_observation := db.metric_observation.filter fun r => r.within tenant_id sources
  metric_history_stream_state := db.metric_history_stream_state.filter fun r => r.within tenant_id sources
  metric_history_gap_evidence := db.metric_history_gap_evidence.filter fun r => r.within tenant_id sources
  monitoring_problem := db.monitoring_problem.filter fun r => r.within tenant_id sources
  monitoring_problem_provider_binding :=
    db.monitoring_problem_provider_binding.filter fun r => r.within tenant_id sources
  health_projection := db.health_projection.filter fun r => r.within tenant_id sources
  monitoring_outbox := db.monitoring_outbox.filter fun m =>
    (db.subject m).all fun r => r.within tenant_id sources

/-- A reference leads to a row of the same source. -/
structure MonitoringDb.Integral (db : MonitoringDb) : Prop where
  /-- `latest_provider_evidence_id` of a resource. -/
  evidence : ∀ r ∈ db.monitoring_resource, ∀ e ∈ db.monitoring_resource_provider_evidence, e.tenant_id = r.tenant_id →
    some e.provider_evidence_id = r.latest_provider_evidence_id → e.monitoring_source_id = r.monitoring_source_id
  /-- The binding of a definition. -/
  binding : ∀ d ∈ db.metric_definition, ∀ b ∈ db.metric_definition_provider_binding, b.tenant_id = d.tenant_id →
    b.metric_definition_id = d.metric_definition_id → b.monitoring_source_id = d.monitoring_source_id
  /-- The definition of a current state. -/
  current : ∀ c ∈ db.metric_current_state, ∀ d ∈ db.metric_definition, d.tenant_id = c.tenant_id →
    d.metric_definition_id = c.metric_definition_id → d.monitoring_source_id = c.monitoring_source_id
  /-- The definition of an observation. -/
  observation : ∀ o ∈ db.metric_observation, ∀ d ∈ db.metric_definition, d.tenant_id = o.tenant_id →
    d.metric_definition_id = o.metric_definition_id → d.monitoring_source_id = o.monitoring_source_id
  /-- The binding of a problem. -/
  problem : ∀ p ∈ db.monitoring_problem, ∀ b ∈ db.monitoring_problem_provider_binding, b.tenant_id = p.tenant_id →
    b.problem_id = p.problem_id → b.monitoring_source_id = p.monitoring_source_id
  /-- The resource of a projection. -/
  health : ∀ h ∈ db.health_projection, ∀ r ∈ db.monitoring_resource, r.tenant_id = h.tenant_id →
    r.monitoring_resource_id = h.monitoring_resource_id → r.monitoring_source_id = h.monitoring_source_id
  /-- The problems of the resource of a projection. -/
  problem_refs : ∀ h ∈ db.health_projection, ∀ p ∈ db.monitoring_problem, p.tenant_id = h.tenant_id →
    p.monitoring_resource_id = h.monitoring_resource_id → p.monitoring_source_id = h.monitoring_source_id

/-! ### Reading a part -/

/-- **Key result.** A query that only asks for rows of the part finds all of them in the part. -/
theorem filter_kept {α : Type} {l : List α} {p q : α → Bool} (h : ∀ a ∈ l, p a = true → q a = true) :
    (l.filter q).filter p = l.filter p := by
  rw [List.filter_filter]
  refine List.filter_congr fun a ha => ?_
  cases hp : p a with
  | false => rfl
  | true => simp [h a ha hp]

theorem OwnedRow.within_of {tenant_id source_id : String} {sources : List String} (hs : source_id ∈ sources)
    {r : OwnedRow} (h : r.of tenant_id source_id = true) : r.within tenant_id sources = true := by
  simp only [OwnedRow.of, OwnedRow.within, decide_eq_true_eq] at h ⊢
  exact ⟨h.1, h.2 ▸ hs⟩

theorem OwnedRow.of_iff {tenant_id source_id : String} {r : OwnedRow} :
    r.of tenant_id source_id = true ↔ r.tenant_id = tenant_id ∧ r.monitoring_source_id = source_id := by
  simp [OwnedRow.of]

end JLMirror.Access
