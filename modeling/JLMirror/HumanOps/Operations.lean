import JLMirror.Alerting.Alert
import JLMirror.Foundations.Table

/-!
# Human operations

The four mutations of `api/routers/human_ops.py` that carry a logical action id: the assignment of an alert's action, the
acknowledgement of an alert, the responsibility for a resource, and the requirement that somebody views an alert. "All
writes are tenant-scoped, audited, and idempotent by logical_action_id."

## The model

* `record` is what the four have in common: the checks, the lookup of the logical action id, and the insert.
* What `secrets` draws comes with the call (`Call`); nothing is assumed of it.
* `HumanContent` is what `content_hash` covers. The column itself is left out, since no statement reads it, and so are the
  authority snapshot and the audit.
-/

namespace JLMirror.HumanOps

open JLMirror.Foundations JLMirror.Alerting

/-! ### The tables -/

/-- What these handlers read of `alerting.alert`. -/
structure AlertRow where
  tenant_id : String
  alert_id : String
  lifecycle_state : LifecycleState
  deriving DecidableEq

/-- `human_operations.alert_action_assignment` -/
structure ActionAssignment where
  tenant_id : String
  action_assignment_id : String
  alert_id : String
  owner_principal_id : String
  action_kind : String
  logical_action_id : String
  assigned_by_principal_id : String
  effective_until : Option ℕ
  ended_by_principal_id : Option String
  end_reason : Option String
  deriving DecidableEq

/-- `human_operations.current_action_projection` -/
structure CurrentAction where
  tenant_id : String
  alert_id : String
  action_assignment_id : String
  owner_principal_id : String
  current_action : String
  projection_revision : ℕ
  deriving DecidableEq

/-- `human_operations.alert_acknowledgement` -/
structure Acknowledgement where
  tenant_id : String
  acknowledgement_id : String
  alert_id : String
  principal_id : String
  logical_action_id : String
  note : Option String
  deriving DecidableEq

/-- `human_operations.resource_responsibility_assignment` -/
structure Responsibility where
  tenant_id : String
  responsibility_assignment_id : String
  monitoring_resource_id : String
  principal_id : String
  responsibility_role : String
  assignment_source : String
  logical_action_id : String
  assigned_by_principal_id : String
  effective_until : Option ℕ
  ended_by_principal_id : Option String
  end_reason : Option String
  deriving DecidableEq

/-- `human_operations.visibility_requirement` -/
structure VisibilityRequirement where
  tenant_id : String
  visibility_requirement_id : String
  alert_id : String
  required_viewer_principal_id : String
  viewer_side : String
  presentation_ref : String
  logical_action_id : String
  created_by_principal_id : String
  deriving DecidableEq

structure HumanDb where
  alerts : List AlertRow
  /-- The keys of `monitoring.monitoring_resource`. -/
  resources : List (String × String)
  assignments : List ActionAssignment
  currentActions : List CurrentAction
  acknowledgements : List Acknowledgement
  responsibilities : List Responsibility
  requirements : List VisibilityRequirement
  deriving DecidableEq

def HumanDb.empty : HumanDb := ⟨[], [], [], [], [], [], []⟩

/-! ### What a logical action is -/

/-- `content`, of which the hash is stored. -/
inductive HumanContent where
  | assignment (alert_id owner_principal_id action_kind : String)
  | acknowledgement (alert_id principal_id : String) (note : Option String)
  | responsibility (monitoring_resource_id principal_id responsibility_role : String)
  | requirement (alert_id required_viewer_principal_id viewer_side presentation_ref : String)
  deriving DecidableEq

/-- A row as the effect of a logical action. -/
structure Effect where
  tenant_id : String
  logical_action_id : String
  id : String
  content : HumanContent
  deriving DecidableEq

def Effect.key (x : Effect) : String × String := (x.tenant_id, x.logical_action_id)

def ActionAssignment.effect (r : ActionAssignment) : Effect :=
  ⟨r.tenant_id, r.logical_action_id, r.action_assignment_id, .assignment r.alert_id r.owner_principal_id r.action_kind⟩

def Acknowledgement.effect (r : Acknowledgement) : Effect :=
  ⟨r.tenant_id, r.logical_action_id, r.acknowledgement_id, .acknowledgement r.alert_id r.principal_id r.note⟩

def Responsibility.effect (r : Responsibility) : Effect :=
  ⟨r.tenant_id, r.logical_action_id, r.responsibility_assignment_id,
    .responsibility r.monitoring_resource_id r.principal_id r.responsibility_role⟩

def VisibilityRequirement.effect (r : VisibilityRequirement) : Effect :=
  ⟨r.tenant_id, r.logical_action_id, r.visibility_requirement_id,
    .requirement r.alert_id r.required_viewer_principal_id r.viewer_side r.presentation_ref⟩

/-- The tables of the four actions. -/
inductive HumanTable where
  | alert_action_assignment
  | alert_acknowledgement
  | resource_responsibility_assignment
  | visibility_requirement
  deriving DecidableEq

/-- The rows of a table. -/
def HumanTable.effects : HumanTable → HumanDb → List Effect
  | .alert_action_assignment, db => db.assignments.map (·.effect)
  | .alert_acknowledgement, db => db.acknowledgements.map (·.effect)
  | .resource_responsibility_assignment, db => db.responsibilities.map (·.effect)
  | .visibility_requirement, db => db.requirements.map (·.effect)

/-! ### The handlers -/

/-- What a request has beside its body. -/
structure Call where
  now : ℕ
  tenant_id : String
  actor : String
  logical_action_id : Option String
  /-- What `secrets` draws, for the logical action id and for the row. -/
  drawn_logical_id : String
  drawn_id : String

/-- `logical_id`: an empty text is none. -/
def Call.logical_id (c : Call) : String :=
  match c.logical_action_id with
  | none | some "" => c.drawn_logical_id
  | some id => id

def Call.key (c : Call) : String × String := (c.tenant_id, c.logical_id)

/-- What a handler refuses with. -/
inductive HumanError where
  /-- `action_kind one of …` -/
  | action_kind
  /-- `role one of …` -/
  | role
  /-- `viewer_side internal|customer` -/
  | viewer_side
  /-- `alert not found` -/
  | alert_not_found
  /-- `resource not found` -/
  | resource_not_found
  /-- `visibility requirement requires an ACTIVE alert` -/
  | active_alert_required
  /-- A constraint of the table, by its name. -/
  | constraint (name : String)
  deriving DecidableEq

/-- The response; `logical_action_id` is not in every one. -/
structure HumanReply where
  id : String
  logical_action_id : Option String
  replayed : Bool
  deriving DecidableEq

def _ACTION_KINDS : List String := ["investigate_alert", "acknowledge_alert", "review_alert", "customer_review_required"]

def _RESP_ROLES : List String := ["technical_responsible", "service_owner", "operator", "customer_responsible"]

def VIEWER_SIDES : List String := ["internal", "customer"]

/-- The state of an alert, if there is one. -/
def HumanDb.lifecycle (db : HumanDb) (tenant_id alert_id : String) : Option LifecycleState :=
  (db.alerts.find? fun a => a.tenant_id = tenant_id ∧ a.alert_id = alert_id).map (·.lifecycle_state)

def _alert_or_404 (tenant_id alert_id : String) (db : HumanDb) : Except HumanError LifecycleState :=
  match db.lifecycle tenant_id alert_id with
  | none => .error .alert_not_found
  | some state => .ok state

/-- The checks, the lookup of the logical action id, and the insert. -/
def record (table : HumanTable) (c : Call) (echo : Bool) (checks : Except HumanError Unit)
    (insert : Except HumanError HumanDb) (db : HumanDb) : Except HumanError (HumanReply × HumanDb) := do
  checks
  match (table.effects db).find? fun x => x.key = c.key with
  | some prior => return (⟨prior.id, if echo then some c.logical_id else none, true⟩, db)
  | none =>
    let db' ← insert
    return (⟨c.drawn_id, some c.logical_id, false⟩, db')

/-- The body of an assignment. -/
structure AssignAction where
  owner_principal_id : String
  action_kind : String

/-- The row of an assignment. -/
def assignmentRow (c : Call) (alert_id : String) (body : AssignAction) : ActionAssignment :=
  { tenant_id := c.tenant_id, action_assignment_id := c.drawn_id, alert_id, owner_principal_id := body.owner_principal_id
    action_kind := body.action_kind, logical_action_id := c.logical_id, assigned_by_principal_id := c.actor
    effective_until := none, ended_by_principal_id := none, end_reason := none }

/-- An open assignment of the alert. -/
def ActionAssignment.openOf (tenant_id alert_id : String) (r : ActionAssignment) : Bool :=
  r.tenant_id = tenant_id ∧ r.alert_id = alert_id ∧ r.effective_until = none

/-- `end_reason = 'reassigned'` -/
def ActionAssignment.reassigned (now : ℕ) (actor : String) (r : ActionAssignment) : ActionAssignment :=
  { r with effective_until := some now, ended_by_principal_id := some actor, end_reason := some "reassigned" }

/-- The row of the projection. -/
def CurrentAction.is (tenant_id alert_id : String) (p : CurrentAction) : Bool :=
  p.tenant_id = tenant_id ∧ p.alert_id = alert_id

/-- The upsert of the projection. -/
def project (r : ActionAssignment) (rows : List CurrentAction) : List CurrentAction :=
  let new : CurrentAction := ⟨r.tenant_id, r.alert_id, r.action_assignment_id, r.owner_principal_id, r.action_kind, 1⟩
  if rows.any (·.is r.tenant_id r.alert_id) then
    updateWhere (·.is r.tenant_id r.alert_id)
      (fun old => { new with projection_revision := old.projection_revision + 1 }) rows
  else rows ++ [new]

/-- The keys of an assignment: its id, its logical action id, and the alert whose open assignment it is. -/
def ActionAssignment.clash (r : ActionAssignment) (r' : ActionAssignment) : Bool :=
  r'.tenant_id = r.tenant_id ∧ (r'.action_assignment_id = r.action_assignment_id ∨
    r'.logical_action_id = r.logical_action_id ∨ r'.alert_id = r.alert_id ∧ r'.effective_until = none)

/-- "Atomic reassignment: close current, open successor." -/
def insertAssignment (now : ℕ) (r : ActionAssignment) (db : HumanDb) : Except HumanError HumanDb := do
  let closed := updateWhere (·.openOf r.tenant_id r.alert_id) (·.reassigned now r.assigned_by_principal_id) db.assignments
  let rows ← insertUnless r.clash (.constraint "alert_action_assignment_key") r closed
  return { db with assignments := rows, currentActions := project r db.currentActions }

def assign_alert_action (c : Call) (alert_id : String) (body : AssignAction) (db : HumanDb) :
    Except HumanError (HumanReply × HumanDb) :=
  record .alert_action_assignment c true
    (if body.action_kind ∈ _ACTION_KINDS then (_alert_or_404 c.tenant_id alert_id db).map fun _ => () else .error .action_kind)
    (insertAssignment c.now (assignmentRow c alert_id body) db) db

/-- The row of an acknowledgement. -/
def acknowledgementRow (c : Call) (alert_id : String) (note : Option String) : Acknowledgement :=
  { tenant_id := c.tenant_id, acknowledgement_id := c.drawn_id, alert_id, principal_id := c.actor
    logical_action_id := c.logical_id, note }

def insertAcknowledgement (r : Acknowledgement) (db : HumanDb) : Except HumanError HumanDb :=
  if r.note.any fun text => 1024 < text.length then .error (.constraint "alert_acknowledgement_note_check")
  else do
    let rows ← insertUnless (fun r' => r'.tenant_id = r.tenant_id ∧
      (r'.acknowledgement_id = r.acknowledgement_id ∨ r'.logical_action_id = r.logical_action_id))
      (.constraint "alert_acknowledgement_key") r db.acknowledgements
    return { db with acknowledgements := rows }

def acknowledge_alert (c : Call) (alert_id : String) (note : Option String) (db : HumanDb) :
    Except HumanError (HumanReply × HumanDb) :=
  record .alert_acknowledgement c false ((_alert_or_404 c.tenant_id alert_id db).map fun _ => ())
    (insertAcknowledgement (acknowledgementRow c alert_id note) db) db

/-- The body of a responsibility. -/
structure ResponsibilityCreate where
  monitoring_resource_id : String
  principal_id : String
  responsibility_role : String
  assignment_source : String

/-- The row of a responsibility. -/
def responsibilityRow (c : Call) (body : ResponsibilityCreate) : Responsibility :=
  { tenant_id := c.tenant_id, responsibility_assignment_id := c.drawn_id
    monitoring_resource_id := body.monitoring_resource_id, principal_id := body.principal_id
    responsibility_role := body.responsibility_role, assignment_source := body.assignment_source
    logical_action_id := c.logical_id, assigned_by_principal_id := c.actor
    effective_until := none, ended_by_principal_id := none, end_reason := none }

def insertResponsibility (r : Responsibility) (db : HumanDb) : Except HumanError HumanDb :=
  if r.assignment_source ∉ ["manual", "configured"] then
    .error (.constraint "resource_responsibility_assignment_assignment_source_check")
  else do
    let rows ← insertUnless (fun r' => r'.tenant_id = r.tenant_id ∧
      (r'.responsibility_assignment_id = r.responsibility_assignment_id ∨ r'.logical_action_id = r.logical_action_id))
      (.constraint "resource_responsibility_assignment_key") r db.responsibilities
    return { db with responsibilities := rows }

def assign_responsibility (c : Call) (body : ResponsibilityCreate) (db : HumanDb) :
    Except HumanError (HumanReply × HumanDb) :=
  record .resource_responsibility_assignment c false
    (if body.responsibility_role ∉ _RESP_ROLES then .error .role
      else if db.resources.any fun x => x = (c.tenant_id, body.monitoring_resource_id) then .ok ()
      else .error .resource_not_found)
    (insertResponsibility (responsibilityRow c body) db) db

/-- The body of a requirement. -/
structure VisibilityRequirementCreate where
  required_viewer_principal_id : String
  viewer_side : String
  presentation_ref : String

/-- The row of a requirement. -/
def requirementRow (c : Call) (alert_id : String) (body : VisibilityRequirementCreate) : VisibilityRequirement :=
  { tenant_id := c.tenant_id, visibility_requirement_id := c.drawn_id, alert_id
    required_viewer_principal_id := body.required_viewer_principal_id, viewer_side := body.viewer_side
    presentation_ref := body.presentation_ref, logical_action_id := c.logical_id, created_by_principal_id := c.actor }

def insertRequirement (r : VisibilityRequirement) (db : HumanDb) : Except HumanError HumanDb := do
  let rows ← insertUnless (fun r' => r'.tenant_id = r.tenant_id ∧
    (r'.visibility_requirement_id = r.visibility_requirement_id ∨ r'.logical_action_id = r.logical_action_id))
    (.constraint "visibility_requirement_key") r db.requirements
  return { db with requirements := rows }

/-- The only one of the four that asks for the state of the alert, and it does so before the lookup. -/
def create_visibility_requirement (c : Call) (alert_id : String) (body : VisibilityRequirementCreate) (db : HumanDb) :
    Except HumanError (HumanReply × HumanDb) :=
  record .visibility_requirement c false
    (if body.viewer_side ∉ VIEWER_SIDES then .error .viewer_side
      else (_alert_or_404 c.tenant_id alert_id db).bind fun lifecycle =>
        if lifecycle ≠ .active then .error .active_alert_required else .ok ())
    (insertRequirement (requirementRow c alert_id body) db) db

/-! ### The system -/

/-- A request of one of the four actions. -/
inductive HumanRequest where
  | assign (c : Call) (alert_id : String) (body : AssignAction)
  | acknowledge (c : Call) (alert_id : String) (note : Option String)
  | responsibility (c : Call) (body : ResponsibilityCreate)
  | requirement (c : Call) (alert_id : String) (body : VisibilityRequirementCreate)

/-- The answer to a request, and what it leaves. -/
def HumanRequest.run : HumanRequest → HumanDb → Except HumanError (HumanReply × HumanDb)
  | .assign c alert_id body => assign_alert_action c alert_id body
  | .acknowledge c alert_id note => acknowledge_alert c alert_id note
  | .responsibility c body => assign_responsibility c body
  | .requirement c alert_id body => create_visibility_requirement c alert_id body

/-- A request, or what the rest of the platform does to the tables. -/
inductive HumanAction where
  | request (r : HumanRequest)
  /-- An alert is raised, or its state changes. -/
  | alert (tenant_id alert_id : String) (state : LifecycleState)
  | resource (tenant_id monitoring_resource_id : String)
  | end_responsibility (now : ℕ) (tenant_id actor assignment_id end_reason : String)

/-- The tables after an action; a request that raises is rolled back. -/
def HumanDb.step (db : HumanDb) : HumanAction → HumanDb
  | .request r =>
    match r.run db with
    | .ok (_, db') => db'
    | .error _ => db
  | .alert tenant_id alert_id state =>
    if (db.lifecycle tenant_id alert_id).isSome then
      { db with
        alerts := updateWhere (fun a => a.tenant_id = tenant_id ∧ a.alert_id = alert_id)
          (fun a => { a with lifecycle_state := state }) db.alerts }
    else { db with alerts := db.alerts ++ [⟨tenant_id, alert_id, state⟩] }
  | .resource tenant_id monitoring_resource_id =>
    { db with resources := db.resources ++ [(tenant_id, monitoring_resource_id)] }
  | .end_responsibility now tenant_id actor assignment_id end_reason =>
    { db with
      responsibilities := updateWhere
        (fun r => r.tenant_id = tenant_id ∧ r.responsibility_assignment_id = assignment_id ∧ r.effective_until = none)
        (fun r => { r with
          effective_until := some now, ended_by_principal_id := some actor, end_reason := some end_reason })
        db.responsibilities }

/-- The tables after a run. -/
def HumanDb.exec (run : List HumanAction) : HumanDb := run.foldl HumanDb.step .empty

end JLMirror.HumanOps
