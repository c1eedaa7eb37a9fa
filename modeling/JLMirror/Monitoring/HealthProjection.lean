import JLMirror.Foundations.Fold
import JLMirror.Monitoring.Store

/-!
# Health projection

`PgHealthProjectionRepository` of `shared/monitoring_repo.py`, with the trigger that guards the
table. Health is derived from canonical state only: source currentness, presence and scope of the
resource, a complete problem snapshot under the authority of the source, and its active problems.

## The model

* `projectResource` is the body of the loop over the resources. The tables that the loop and the guard
  read, it does not write, so the schema is fixed while it runs.
* The guard is `guard_health_projection_mutation`, for an insert where there is no old row.

## Honest scope

The clocks of a projection are left out, and so are the domain event of a transition and the check on
the number of reasons, which the vendor package passes through.
-/

namespace JLMirror.Monitoring

open JLMirror.Foundations

/-! ### The guard -/

/-- The evidence that current health requires. -/
def SyncDb.supportsCurrent (db : SyncDb) (new : HealthProjection) : Bool :=
  db.problems.snapshots.any fun e =>
    new.problem_snapshot_evidence_id = some e.snapshot_evidence_id ∧
      e.monitoring_source_id = new.monitoring_source_id ∧
      e.source_instance_generation = new.source_instance_generation ∧ e.snapshot_complete ∧
      e.operation_state = .succeeded ∧ e.operational_evidence_state = .current ∧
      (db.core.sources.any fun s =>
        s.monitoring_source_id = e.monitoring_source_id ∧
          s.active_source_instance_generation = new.source_instance_generation ∧
          s.configuration_revision = e.configuration_revision ∧ s.scope_revision = e.scope_revision ∧
          s.operational_evidence_state = .current) ∧
      db.inventory.resources.any fun r =>
        r.monitoring_resource_id = new.monitoring_resource_id ∧
          r.monitoring_source_id = new.monitoring_source_id ∧
          r.source_instance_generation = new.source_instance_generation ∧ r.presence_state = .present ∧
          r.presence_evidence_state = .current ∧ r.in_scope ∧ r.scope_evidence_state = .current ∧
          r.scope_projection_revision = e.scope_revision

/-- The severities of an active problem that affect health. -/
def SeverityClass.affectsHealth : SeverityClass → Bool
  | .informational => false
  | .unknown | .warning | .degraded | .critical => true

/-- An active problem of a resource. -/
def MonitoringProblem.activeOn (source_id generation resource_id : String) (p : MonitoringProblem) : Bool :=
  p.monitoring_source_id = source_id ∧ p.source_instance_generation = generation ∧
    p.monitoring_resource_id = resource_id ∧ p.status.state = .active

/-- `guard_health_projection_mutation`. -/
def guard_health_projection_mutation (db : SyncDb) (old : Option HealthProjection) (new : HealthProjection) :
    Except String Unit := do
  require (old.all fun o =>
      new.monitoring_resource_id = o.monitoring_resource_id ∧ new.monitoring_source_id = o.monitoring_source_id ∧
        new.source_instance_generation = o.source_instance_generation)
    "Health projection ownership and canonical identity are immutable"
  require (old.all fun o => new.projection_revision = o.projection_revision + 1)
    "Health projection revision must advance exactly once"
  require (new.evidence_state ≠ .current ∨ db.supportsCurrent new)
    "Current Health requires current source/resource/scope and durable complete Problem State evidence"
  require (new.health_class ≠ .healthy ∨ new.evidence_state = .current)
    "Healthy cannot be projected from non-current evidence"
  require (new.health_class ≠ .healthy ∨ !db.problems.problems.any fun p =>
      p.activeOn new.monitoring_source_id new.source_instance_generation new.monitoring_resource_id ∧
        p.severity_class.affectsHealth)
    "Healthy cannot coexist with an active health-affecting canonical problem"

/-! ### The projection -/

/-- The latest complete problem snapshot under the authority of a source. -/
def SyncDb.latestSnapshot (db : SyncDb) (s : SourceRow) : Option ℕ :=
  (db.problems.snapshots.reverse.find? fun e =>
    e.monitoring_source_id = s.monitoring_source_id ∧
      e.source_instance_generation = s.active_source_instance_generation ∧ e.snapshot_complete ∧
      e.operation_state = .succeeded ∧ e.operational_evidence_state = .current ∧
      e.configuration_revision = s.configuration_revision ∧ e.scope_revision = s.scope_revision).map
    SnapshotEvidence.snapshot_evidence_id

/-- The active problems of a resource. -/
def SyncDb.activeProblems (db : SyncDb) (s : SourceRow) (resource_id : String) : List MonitoringProblem :=
  db.problems.problems.filter fun p =>
    p.activeOn s.monitoring_source_id s.active_source_instance_generation resource_id

/-- `worst_evidence`: that of the first problem that is not current. -/
def worstEvidence (problems : List MonitoringProblem) : EvidenceState :=
  ((problems.map MonitoringProblem.evidence_state).find? fun e => e ≠ .current).getD .current

/-- The input bundle of a resource. -/
def healthInput (db : SyncDb) (s : SourceRow) (r : ResourceRow) : HealthInput :=
  let problems := db.activeProblems s r.monitoring_resource_id
  { monitoring_source_id := s.monitoring_source_id
    source_instance_generation := s.active_source_instance_generation
    monitoring_resource_id := r.monitoring_resource_id
    source_is_current := s.operational_evidence_state = .current
    resource_present := r.presence_state = .present
    scope_is_current_and_in_scope :=
      r.in_scope ∧ r.scope_evidence_state = .current ∧ r.scope_projection_revision = s.scope_revision
    problem_completeness_is_current := (db.latestSnapshot s).isSome
    evidence_state := worstEvidence problems
    active_problem_severities := problems.map MonitoringProblem.severity_class
    reason_refs := (problems.take 64).map fun p => s!"problem:{p.problem_id}" }

/-- The state of the loop over the resources. -/
structure HealthPass where
  tables : HealthTables
  nextId : ℕ
  written : ℕ

/-- The projection of a resource in a generation. -/
def HealthTables.projection (t : HealthTables) (resource_id generation : String) : Option HealthProjection :=
  t.projections.find? fun p => p.monitoring_resource_id = resource_id ∧ p.source_instance_generation = generation

/-- `_insert_health_transition`, after the mutation of the projection. -/
def _insert_health_transition (old : Option HealthProjection) (new : HealthProjection) (p : HealthPass) :
    Except String HealthPass := do
  let transitions ← insertUnless
    (fun t => t.monitoring_resource_id = new.monitoring_resource_id ∧
      t.source_instance_generation = new.source_instance_generation ∧
      t.projection_revision = new.projection_revision) uniqueViolation
    { health_transition_id := p.nextId, monitoring_resource_id := new.monitoring_resource_id
      monitoring_source_id := new.monitoring_source_id
      source_instance_generation := new.source_instance_generation
      from_health_class := old.map HealthProjection.health_class, to_health_class := new.health_class
      from_evidence_state := old.map HealthProjection.evidence_state, to_evidence_state := new.evidence_state
      projection_revision := new.projection_revision
      problem_snapshot_evidence_id := new.problem_snapshot_evidence_id, reason_refs := new.reason_refs }
    p.tables.transitions
  .ok { tables := { p.tables with transitions := transitions }, nextId := p.nextId + 1, written := p.written + 1 }

/-- The row that a decision makes of a resource: new, or the one there with the next revision. -/
def decidedRow (db : SyncDb) (s : SourceRow) (r : ResourceRow) (decision : HealthDecision) :
    Option HealthProjection → HealthProjection
  | none =>
    { monitoring_resource_id := r.monitoring_resource_id, monitoring_source_id := s.monitoring_source_id
      source_instance_generation := s.active_source_instance_generation
      health_class := decision.health_class, evidence_state := decision.evidence_state, projection_revision := 1
      problem_snapshot_evidence_id := db.latestSnapshot s, reason_refs := decision.reason_refs }
  | some old =>
    { old with
      health_class := decision.health_class, evidence_state := decision.evidence_state
      projection_revision := old.projection_revision + 1
      problem_snapshot_evidence_id := db.latestSnapshot s, reason_refs := decision.reason_refs }

/-- `changed`, or no row yet. -/
def decisionChanges (decision : HealthDecision) (old : Option HealthProjection) : Bool :=
  old.all fun o => o.health_class ≠ decision.health_class ∨ o.evidence_state ≠ decision.evidence_state

/-- Writes a row: an insert, or the update of the one that has its key. -/
def HealthTables.write (old : Option HealthProjection) (new : HealthProjection) (t : HealthTables) : HealthTables :=
  { t with
    projections := match old with
      | none => t.projections ++ [new]
      | some _ => updateWhere
          (fun p => p.monitoring_resource_id = new.monitoring_resource_id ∧
            p.source_instance_generation = new.source_instance_generation) (fun _ => new) t.projections }

/-- A round of the loop over the resources. -/
def projectResource (domain : Domain) (db : SyncDb) (s : SourceRow) (p : HealthPass) (r : ResourceRow) :
    Except String HealthPass := do
  let decision := domain.derive_health (healthInput db s r)
  let old := p.tables.projection r.monitoring_resource_id s.active_source_instance_generation
  if decisionChanges decision old then
    let new := decidedRow db s r decision old
    guard_health_projection_mutation db old new
    _insert_health_transition old new { p with tables := p.tables.write old new }
  else .ok p

/-- The resources of the active generation of a source, in the order of their ids. -/
def SyncDb.activeResources (db : SyncDb) (s : SourceRow) : List ResourceRow :=
  (db.inventory.resources.filter fun r =>
    r.monitoring_source_id = s.monitoring_source_id ∧
      r.source_instance_generation = s.active_source_instance_generation).insertionSort
    fun a b => a.monitoring_resource_id ≤ b.monitoring_resource_id

/-- `project_source_health`: the number of projections written, and the schema. -/
def project_source_health (domain : Domain) (source_id : String) (db : SyncDb) : Except String (ℕ × SyncDb) :=
  match db.core.sources.find? fun s => s.monitoring_source_id = source_id with
  | none => .ok (0, db)
  | some s => do
    let p ← (db.activeResources s).foldlM (projectResource domain db s) ⟨db.health, db.nextId, 0⟩
    .ok (p.written, { db with health := p.tables, nextId := p.nextId })

end JLMirror.Monitoring
