import JLMirror.Alerting.Alert
import JLMirror.Monitoring.ProblemState

/-!
# Alert policies and their versions

The relations of `sql/alerting/002_g7_policy_lifecycle.sql`, and the two requests of
`api/routers/alerting.py` that change the policies: `create_policy_version` and
`set_effective_version`.

## The model

* The tables hold the rows of one tenant. Ids made from random tokens are natural numbers drawn
  from one counter, and a hash is the tree of what it digests.
* What the table checks to go together is one constructor: the source kind of a version with its
  condition, the lifecycle of an alert with `resolved_at`.

## Honest scope

The audit event of a request is left out, and so are the columns that only repeat the clock
(`created_at`, `effective_at`, `opened_at`, `updated_at`, `occurred_at`, `decided_at`) and the
escalation policy that may be linked to a version.
-/

namespace JLMirror.Alerting

open JLMirror.Foundations JLMirror.Monitoring

/-! ### Policies -/

/-- `_SOURCE_KINDS`. -/
inductive SourceKind where
  | monitoring_problem
  | monitoring_health_projection
  deriving DecidableEq

/-- The classes of `_HEALTH_CLASSES`. -/
inductive HealthClass where
  | unknown
  | healthy
  | degraded
  | unhealthy
  deriving DecidableEq

/-- The texts of the severities, `_SEVERITIES`. -/
def severityTexts : List (String × SeverityClass) :=
  [("unknown", .unknown), ("informational", .informational), ("warning", .warning), ("degraded", .degraded),
    ("critical", .critical)]

/-- The texts of the health classes, `_HEALTH_CLASSES`. -/
def healthTexts : List (String × HealthClass) :=
  [("unknown", .unknown), ("healthy", .healthy), ("degraded", .degraded), ("unhealthy", .unhealthy)]

/-- How a tuple of texts prints. -/
def tupleText (texts : List String) : String := "(" ++ ", ".intercalate (texts.map fun t => "'" ++ t ++ "'") ++ ")"

/-- `source_kind` with `problem_min_severity` and `health_classes`, as the table checks them. -/
inductive PolicyCondition where
  | monitoring_problem (problem_min_severity : SeverityClass)
  | monitoring_health_projection (health_classes : { l : List HealthClass // l ≠ [] })
  deriving DecidableEq

/-- What `content_hash` digests. -/
structure PolicyContent where
  source_kind : String
  problem_min_severity : Option String
  /-- Sorted. -/
  health_classes : List String
  monitoring_source_id : Option String
  monitoring_resource_id : Option String
  deriving DecidableEq

/-- `alert_policy_version`. -/
structure AlertPolicyVersion where
  policy_id : String
  policy_version : ℕ
  condition : PolicyCondition
  monitoring_source_id : Option String
  monitoring_resource_id : Option String
  content_hash : PolicyContent
  superseded_at : Option Timestamp
  deriving DecidableEq

/-- `alert_policy_effective_version`. -/
structure EffectiveVersion where
  policy_id : String
  policy_version : ℕ
  enabled : Bool
  deriving DecidableEq

/-! ### Occurrences -/

/-- `lifecycle_state` with `resolved_at`. -/
inductive OccurrenceStatus where
  | active
  | resolved (resolved_at : Timestamp)
  deriving DecidableEq

/-- The state alone. -/
def OccurrenceStatus.state : OccurrenceStatus → LifecycleState
  | .active => .active
  | .resolved _ => .resolved

/-- `source_evidence_summary`: the members that the evaluation writes. -/
structure EvidenceSummary where
  problem_id : ℕ
  severity_class : Option SeverityClass
  projection_revision : Option ℕ
  reason : Option String
  deriving DecidableEq

/-- `alerting.alert`. -/
structure Alert where
  alert_id : ℕ
  policy_id : String
  policy_version : ℕ
  source_kind : SourceKind
  /-- A `problem_id`. -/
  source_subject_id : ℕ
  monitoring_source_id : String
  monitoring_resource_id : String
  source_instance_generation : String
  source_occurrence_revision : ℕ
  current_source_revision : ℕ
  status : OccurrenceStatus
  source_evidence_summary : EvidenceSummary
  deriving DecidableEq

/-- `alert_transition`. -/
structure AlertTransition where
  alert_transition_id : ℕ
  alert_id : ℕ
  policy_id : String
  policy_version : ℕ
  from_lifecycle_state : Option LifecycleState
  to_lifecycle_state : LifecycleState
  source_revision : ℕ
  source_evidence_summary : EvidenceSummary
  deriving DecidableEq

/-- `effect_kind`. -/
inductive EffectKind where
  | create
  | resolve
  deriving DecidableEq

/-- `_decision_hash`: what it digests, beside the tenant. -/
structure DecisionHash where
  policy_id : String
  policy_version : ℕ
  subject : ℕ
  revision : ℕ
  effect : EffectKind
  deriving DecidableEq

/-- `alert_decision`. -/
structure AlertDecision where
  decision_id : ℕ
  decision_hash : DecisionHash
  policy_id : String
  policy_version : ℕ
  source_kind : SourceKind
  source_subject_id : ℕ
  source_revision : ℕ
  effect_kind : EffectKind
  alert_id : ℕ
  deriving DecidableEq

/-- The tables of the alerting schema, and the next id to be drawn. -/
structure AlertingDb where
  /-- `alert_policy`. -/
  policies : List String
  versions : List AlertPolicyVersion
  effective : List EffectiveVersion
  alerts : List Alert
  transitions : List AlertTransition
  decisions : List AlertDecision
  nextId : ℕ
  deriving DecidableEq

/-- The empty tables. -/
def AlertingDb.empty : AlertingDb := ⟨[], [], [], [], [], [], 0⟩

/-! ### The requests -/

/-- What a request ends with when it does not commit. -/
inductive RequestError where
  | http (status_code : ℕ) (detail : String)
  /-- The server refused a statement. -/
  | database (message : String)
  deriving DecidableEq

/-- What the server says when a row fails a `CHECK`. -/
def checkViolation : String := "new row violates check constraint"

/-- `PolicyVersionCreate`. -/
structure PolicyVersionCreate where
  policy_id : String
  source_kind : String
  problem_min_severity : Option String
  health_classes : List String
  monitoring_source_id : Option String
  monitoring_resource_id : Option String
  make_effective : Bool

/-- The class that a text names. -/
def classOf {α : Type*} (texts : List (String × α)) (t : String) : Option α := (texts.find? fun c => c.1 = t).map (·.2)

/-- The checks of the body, and what the table checks of the row that it makes. -/
def PolicyVersionCreate.condition (body : PolicyVersionCreate) : Except RequestError PolicyCondition :=
  if body.source_kind = "monitoring_problem" then
    match body.problem_min_severity.bind (classOf severityTexts) with
    | none => .error (.http 422 ("problem_min_severity must be one of " ++ tupleText (severityTexts.map (·.1))))
    | some severity =>
      if body.health_classes ≠ [] then .error (.http 422 "health_classes not allowed for monitoring_problem")
      else .ok (.monitoring_problem severity)
  else if body.source_kind = "monitoring_health_projection" then
    match body.health_classes.mapM (classOf healthTexts) with
    | none => .error (.http 422 ("health_classes must be a non-empty subset of " ++ tupleText (healthTexts.map (·.1))))
    | some classes =>
      if h : classes ≠ [] then
        -- a severity beside health classes passes the router, and the table refuses it
        if body.problem_min_severity ≠ none then .error (.database checkViolation)
        else .ok (.monitoring_health_projection ⟨classes, h⟩)
      else .error (.http 422 ("health_classes must be a non-empty subset of " ++ tupleText (healthTexts.map (·.1))))
  else .error (.http 422 "bad source_kind")

/-- `_content_hash` of a body. -/
def PolicyVersionCreate.content (body : PolicyVersionCreate) : PolicyContent :=
  ⟨body.source_kind, body.problem_min_severity, body.health_classes.insertionSort fun a b => a ≤ b,
    body.monitoring_source_id, body.monitoring_resource_id⟩

/-- `COALESCE(MAX(policy_version), 0) + 1`. -/
def AlertingDb.nextVersion (db : AlertingDb) (policy_id : String) : ℕ :=
  ((db.versions.filter fun v => v.policy_id = policy_id).map AlertPolicyVersion.policy_version).foldr max 0 + 1

/-- The row of a policy in `alert_policy_effective_version`, inserted or updated. -/
def pointTo (e : EffectiveVersion) (rows : List EffectiveVersion) : List EffectiveVersion :=
  if rows.any fun r => r.policy_id = e.policy_id then updateWhere (fun r => r.policy_id = e.policy_id) (fun _ => e) rows
  else rows ++ [e]

/-- The versions with those marked that a query selects. -/
def supersede (now : Timestamp) (q : AlertPolicyVersion → Bool) (rows : List AlertPolicyVersion) :
    List AlertPolicyVersion :=
  updateWhere q (fun v => { v with superseded_at := some now }) rows

/-- The effective version before a request. -/
def AlertingDb.effectiveOf (db : AlertingDb) (policy_id : String) : Option EffectiveVersion :=
  db.effective.find? fun e => e.policy_id = policy_id

/-- Makes a new version the effective one, and supersedes the one before it. -/
def AlertingDb.makeEffective (now : Timestamp) (policy_id : String) (version : ℕ) (db : AlertingDb) : AlertingDb :=
  { db with
    versions := match db.effectiveOf policy_id with
      | some prior =>
        supersede now (fun v => v.policy_id = policy_id ∧ v.policy_version = prior.policy_version) db.versions
      | none => db.versions
    effective := pointTo ⟨policy_id, version, true⟩ db.effective }

/-- The reply to `create_policy_version`. -/
structure PolicyVersionCreated where
  policy_id : String
  policy_version : ℕ
  content_hash : PolicyContent
  effective : Bool
  deriving DecidableEq

/-- `create_policy_version`. -/
def create_policy_version (now : Timestamp) (body : PolicyVersionCreate) (db : AlertingDb) :
    Except RequestError (PolicyVersionCreated × AlertingDb) := do
  let condition ← body.condition
  let version := db.nextVersion body.policy_id
  let row : AlertPolicyVersion :=
    ⟨body.policy_id, version, condition, body.monitoring_source_id, body.monitoring_resource_id, body.content, none⟩
  let db := { db with
    policies := if body.policy_id ∈ db.policies then db.policies else db.policies ++ [body.policy_id]
    versions := db.versions ++ [row] }
  let db := if body.make_effective then db.makeEffective now body.policy_id version else db
  return (⟨body.policy_id, version, body.content, body.make_effective⟩, db)

/-- `EffectiveSet`. -/
structure EffectiveSet where
  policy_version : ℕ
  enabled : Bool

/-- `set_effective_version`. -/
def set_effective_version (now : Timestamp) (policy_id : String) (body : EffectiveSet) (db : AlertingDb) :
    Except RequestError (EffectiveVersion × AlertingDb) :=
  match db.versions.find? fun v => v.policy_id = policy_id ∧ v.policy_version = body.policy_version with
  | none => .error (.http 404 "policy version not found")
  | some v =>
    if v.superseded_at ≠ none then .error (.http 409 "superseded version cannot regain authority")
    else
      .ok (⟨policy_id, body.policy_version, body.enabled⟩,
        { db with
          versions := supersede now
            (fun v => v.policy_id = policy_id ∧ v.policy_version ≠ body.policy_version ∧ v.superseded_at = none)
            db.versions
          effective := pointTo ⟨policy_id, body.policy_version, body.enabled⟩ db.effective })

end JLMirror.Alerting
