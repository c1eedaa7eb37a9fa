import JLMirror.Alerting.Policy

/-!
# Alert evaluation

`evaluate_problem_policies` of `shared/alerting_eval.py`: "accepted resync -> reread current
Monitoring owner state -> evaluate current effective enabled policy versions -> create or resolve
one Alert occurrence -> idempotent by (subject, source_revision, effect, policy)".

## The model

* The evaluation reads the tables of the monitoring schema and writes those of the alerting
  schema, in one transaction. A query without an order returns rows as they were inserted.
* The statements refuse what the constraints of the tables refuse. A dictionary over a unique
  column is the list of the fetched rows.
* A `System` is both schemas. Its runs interleave what happens to the monitoring tables with the
  requests about policies and with evaluations; what raises is rolled back.

## Honest scope

Foreign keys are not checked: they point to rows that the same transaction has read or written.
The acknowledgement of an alert, which adds members to its summary, and its snoozes are not here.
-/

namespace JLMirror.Alerting

open JLMirror.Foundations JLMirror.Monitoring

/-! ### What an evaluation reads -/

/-- `SEVERITY_ORDER`. -/
def SEVERITY_ORDER : SeverityClass → ℕ
  | .unknown => 0
  | .informational => 1
  | .warning => 2
  | .degraded => 3
  | .critical => 4

/-- The currentness gate: the active generation of a source with current evidence. -/
def currentGeneration (m : MonitoringDb) (source_id : String) : Option String :=
  match m.sources.find? fun s => s.monitoring_source_id = source_id with
  | none => none
  | some s => if s.operational_evidence_state = .current then some s.active_source_instance_generation else none

/-- "Current problems only: active state, current evidence, active source generation." -/
def currentProblems (m : MonitoringDb) (source_id generation : String) : List MonitoringProblem :=
  m.problems.filter fun p =>
    p.monitoring_source_id = source_id ∧ p.status.state = .active ∧ p.evidence_state = .current ∧
      p.source_instance_generation = generation

/-- A row of the policy query, with its condition taken apart. -/
structure ProblemPolicy where
  policy_id : String
  policy_version : ℕ
  problem_min_severity : SeverityClass
  monitoring_source_id : Option String
  monitoring_resource_id : Option String
  deriving DecidableEq

/-- The version as a row of the policy query, if it is about problems. -/
def AlertPolicyVersion.problemPolicy (v : AlertPolicyVersion) : Option ProblemPolicy :=
  match v.condition with
  | .monitoring_problem severity =>
    some ⟨v.policy_id, v.policy_version, severity, v.monitoring_source_id, v.monitoring_resource_id⟩
  | .monitoring_health_projection _ => none

/-- "Current effective ENABLED problem policies for this tenant." -/
def effectiveProblemPolicies (db : AlertingDb) : List ProblemPolicy :=
  (db.versions.filter fun v =>
    v.superseded_at = none ∧
      db.effective.any fun e => e.policy_id = v.policy_id ∧ e.policy_version = v.policy_version ∧ e.enabled).filterMap
    AlertPolicyVersion.problemPolicy

/-- A selector that is empty selects everything. -/
def selects (selector : Option String) (id : String) : Bool :=
  match selector with
  | none => true
  | some t => t = "" ∨ t = id

/-- `matches`. -/
def ProblemPolicy.matchesProblem (v : ProblemPolicy) (p : MonitoringProblem) : Bool :=
  SEVERITY_ORDER v.problem_min_severity ≤ SEVERITY_ORDER p.severity_class ∧
    selects v.monitoring_resource_id p.monitoring_resource_id

/-- "Active alerts pinned to this policy (any version) for subjects owned by this source." -/
def openAlerts (db : AlertingDb) (policy_id source_id : String) : List Alert :=
  db.alerts.filter fun a =>
    a.policy_id = policy_id ∧ a.source_kind = .monitoring_problem ∧ a.monitoring_source_id = source_id ∧
      a.status.state = .active

/-- The replay check of the loop over current problems. -/
def decided (db : AlertingDb) (policy_id : String) (subject revision : ℕ) (effect : EffectKind) : Bool :=
  db.decisions.any fun d =>
    d.policy_id = policy_id ∧ d.source_kind = .monitoring_problem ∧ d.source_subject_id = subject ∧
      d.source_revision = revision ∧ d.effect_kind = effect

/-- The replay check of the loop over disappeared problems, which does not ask for the source kind. -/
def resolveDecided (db : AlertingDb) (policy_id : String) (subject revision : ℕ) : Bool :=
  db.decisions.any fun d =>
    d.policy_id = policy_id ∧ d.source_subject_id = subject ∧ d.effect_kind = .resolve ∧ d.source_revision = revision

/-- `COALESCE(MAX(projection_revision), 0)` of a problem, `or 1`. -/
def lastRevision (m : MonitoringDb) (subject : ℕ) : ℕ :=
  let revision := ((m.problems.filter fun p => p.problem_id = subject).map MonitoringProblem.projection_revision).foldr
    max 0
  if revision = 0 then 1 else revision

/-! ### What an evaluation writes -/

/-- `INSERT INTO alerting.alert`, of an active row. -/
def insertAlert (a : Alert) (db : AlertingDb) : Except String AlertingDb :=
  if a.source_occurrence_revision = 0 ∨ a.current_source_revision < a.source_occurrence_revision then
    .error checkViolation
  else if db.alerts.any fun b =>
      b.policy_id = a.policy_id ∧ b.source_kind = a.source_kind ∧ b.source_subject_id = a.source_subject_id ∧
        b.status.state = .active then
    .error uniqueViolation
  else .ok { db with alerts := db.alerts ++ [a] }

/-- The row of an alert that is resolved. -/
def Alert.resolve (now : Timestamp) (revision : ℕ) (a : Alert) : Alert :=
  { a with status := .resolved now, current_source_revision := revision }

/-- `UPDATE alerting.alert SET lifecycle_state='resolved'`. -/
def resolveAlert (now : Timestamp) (alert_id revision : ℕ) (db : AlertingDb) : Except String AlertingDb :=
  if db.alerts.any fun a => a.alert_id = alert_id ∧ revision < a.source_occurrence_revision then .error checkViolation
  else .ok { db with alerts := updateWhere (fun a => a.alert_id = alert_id) (Alert.resolve now revision) db.alerts }

/-- `INSERT INTO alerting.alert_transition`, with a new id. -/
def insertTransition (alert_id : ℕ) (policy_id : String) (policy_version : ℕ) (before : Option LifecycleState)
    (after : LifecycleState) (revision : ℕ) (summary : EvidenceSummary) (db : AlertingDb) : Except String AlertingDb :=
  if revision = 0 then .error checkViolation
  else
    let t : AlertTransition := ⟨db.nextId, alert_id, policy_id, policy_version, before, after, revision, summary⟩
    .ok { db with transitions := db.transitions ++ [t], nextId := db.nextId + 1 }

/-- `_decision_hash`. -/
def _decision_hash (policy_id : String) (policy_version subject revision : ℕ) (effect : EffectKind) : DecisionHash :=
  ⟨policy_id, policy_version, subject, revision, effect⟩

/-- `INSERT INTO alerting.alert_decision`, with a new id. -/
def insertDecision (policy_id : String) (policy_version subject revision : ℕ) (effect : EffectKind) (alert_id : ℕ)
    (db : AlertingDb) : Except String AlertingDb :=
  if revision = 0 then .error checkViolation
  else if decided db policy_id subject revision effect then .error uniqueViolation
  else
    let d : AlertDecision :=
      ⟨db.nextId, _decision_hash policy_id policy_version subject revision effect, policy_id, policy_version,
        .monitoring_problem, subject, revision, effect, alert_id⟩
    .ok { db with decisions := db.decisions ++ [d], nextId := db.nextId + 1 }

/-- The row of an alert that is opened. -/
def openedAlert (source_id generation : String) (v : ProblemPolicy) (p : MonitoringProblem) (id : ℕ) : Alert where
  alert_id := id
  policy_id := v.policy_id
  policy_version := v.policy_version
  source_kind := .monitoring_problem
  source_subject_id := p.problem_id
  monitoring_source_id := source_id
  monitoring_resource_id := p.monitoring_resource_id
  source_instance_generation := generation
  source_occurrence_revision := p.projection_revision
  current_source_revision := p.projection_revision
  status := .active
  source_evidence_summary := ⟨p.problem_id, some p.severity_class, some p.projection_revision, none⟩

/-- Opens an occurrence: the alert, its first transition, the decision. -/
def openOccurrence (source_id generation : String) (v : ProblemPolicy) (p : MonitoringProblem) (db : AlertingDb) :
    Except String AlertingDb := do
  let a := openedAlert source_id generation v p db.nextId
  let db ← insertAlert a { db with nextId := db.nextId + 1 }
  let db ← insertTransition a.alert_id v.policy_id v.policy_version none .active p.projection_revision
    a.source_evidence_summary db
  insertDecision v.policy_id v.policy_version p.problem_id p.projection_revision .create a.alert_id db

/-- Resolves an occurrence under its pinned version: the alert, its last transition, the decision. -/
def resolveOccurrence (now : Timestamp) (a : Alert) (revision : ℕ) (summary : EvidenceSummary) (db : AlertingDb) :
    Except String AlertingDb := do
  let db ← resolveAlert now a.alert_id revision db
  let db ← insertTransition a.alert_id a.policy_id a.policy_version (some .active) .resolved revision summary db
  insertDecision a.policy_id a.policy_version a.source_subject_id revision .resolve a.alert_id db

/-! ### The evaluation -/

/-- What an evaluation returns. -/
structure EvaluationStats where
  created : ℕ
  resolved : ℕ
  skipped : ℕ
  reason : Option String
  deriving DecidableEq

/-- The counters at the start. -/
def EvaluationStats.zero : EvaluationStats := ⟨0, 0, 0, none⟩

/-- The tables and the counters during an evaluation. -/
abbrev EvaluationState := AlertingDb × EvaluationStats

/-- The body of the loop over the current problems. -/
def evaluateProblem (now : Timestamp) (source_id generation : String) (v : ProblemPolicy) (opened : List Alert)
    (s : EvaluationState) (p : MonitoringProblem) : Except String EvaluationState :=
  match v.matchesProblem p, opened.find? fun a => a.source_subject_id = p.problem_id with
  | true, none =>
    if decided s.1 v.policy_id p.problem_id p.projection_revision .create then
      .ok (s.1, { s.2 with skipped := s.2.skipped + 1 })
    else
      (openOccurrence source_id generation v p s.1).map fun db => (db, { s.2 with created := s.2.created + 1 })
  | false, some a =>
    if decided s.1 v.policy_id p.problem_id p.projection_revision .resolve then
      .ok (s.1, { s.2 with skipped := s.2.skipped + 1 })
    else
      (resolveOccurrence now a p.projection_revision
        ⟨p.problem_id, some p.severity_class, some p.projection_revision, some "condition_no_longer_matches"⟩ s.1).map
        fun db => (db, { s.2 with resolved := s.2.resolved + 1 })
  | _, _ => .ok s

/-- The body of the loop over the open alerts: "resolve alerts whose problem disappeared from the
current active set (resolved at source or evidence aged)". -/
def evaluateOpen (now : Timestamp) (m : MonitoringDb) (problems : List MonitoringProblem) (s : EvaluationState)
    (a : Alert) : Except String EvaluationState :=
  if problems.any fun p => p.problem_id = a.source_subject_id then .ok s
  else
    let revision := lastRevision m a.source_subject_id
    if resolveDecided s.1 a.policy_id a.source_subject_id revision then .ok s
    else
      (resolveOccurrence now a revision ⟨a.source_subject_id, none, none, some "problem_no_longer_active_current"⟩
        s.1).map fun db => (db, { s.2 with resolved := s.2.resolved + 1 })

/-- The body of the loop over the policies. -/
def evaluatePolicy (now : Timestamp) (m : MonitoringDb) (source_id generation : String) (s : EvaluationState)
    (v : ProblemPolicy) : Except String EvaluationState :=
  if selects v.monitoring_source_id source_id then do
    let problems := currentProblems m source_id generation
    let opened := openAlerts s.1 v.policy_id source_id
    let s ← problems.foldlM (evaluateProblem now source_id generation v opened) s
    opened.foldlM (evaluateOpen now m problems) s
  else .ok s

/-- `evaluate_problem_policies`. -/
def evaluate_problem_policies (now : Timestamp) (source_id : String) (m : MonitoringDb) (db : AlertingDb) :
    Except String EvaluationState :=
  match currentGeneration m source_id with
  | none => .ok (db, ⟨0, 0, 0, some "source_not_current"⟩)
  | some generation =>
    (effectiveProblemPolicies db).foldlM (evaluatePolicy now m source_id generation) (db, .zero)

/-! ### Runs -/

/-- Both schemas. -/
structure System where
  monitoring : MonitoringDb
  alerting : AlertingDb
  deriving DecidableEq

/-- What happens to the tables. -/
inductive SystemAction where
  /-- A claim or a completion of a problem poll, or the rest of the platform. -/
  | monitoring (a : Monitoring.Action)
  | createPolicyVersion (now : Timestamp) (body : PolicyVersionCreate)
  | setEffectiveVersion (now : Timestamp) (policy_id : String) (body : EffectiveSet)
  | evaluate (now : Timestamp) (source_id : String)

/-- The tables after a transaction: where it raises, they are as before. -/
def AlertingDb.orRollback {ε α : Type*} (db : AlertingDb) (r : Except ε α) (tables : α → AlertingDb) : AlertingDb :=
  match r with
  | .ok a => tables a
  | .error _ => db

/-- The tables after an action. -/
def System.step (s : System) : SystemAction → System
  | .monitoring a => { s with monitoring := s.monitoring.step a }
  | .createPolicyVersion now body =>
    { s with alerting := s.alerting.orRollback (create_policy_version now body s.alerting) Prod.snd }
  | .setEffectiveVersion now policy_id body =>
    { s with alerting := s.alerting.orRollback (set_effective_version now policy_id body s.alerting) Prod.snd }
  | .evaluate now source_id =>
    { s with
      alerting := s.alerting.orRollback (evaluate_problem_policies now source_id s.monitoring s.alerting) Prod.fst }

/-- The tables after a run from empty schemas. -/
def System.exec (bridge : BridgeVersion) (run : List SystemAction) : System :=
  run.foldl System.step ⟨.empty bridge, .empty⟩

end JLMirror.Alerting
