import JLMirror.Foundations.Fold
import JLMirror.Alerting.Escalation

/-!
# Incidents

The tables of `sql/z_integration/005_g10_itsm.sql` and the functions of the API on an incident:
its creation from an alert, its transitions and its assignments.

## The model

A function is one transaction: under its advisory lock every statement sees what is committed,
and an exception leaves the tables as they are. `md5` is a parameter, and an incident, a
transition, an assignment or a dispatch gets the id that the source computes with it.

## Honest scope

Comments, timestamps that no function compares and the JSON of evidence are left out. Of an
authority snapshot the fields are kept that `g10_validate_authority` reads.
-/

namespace JLMirror.Itsm

open JLMirror.Foundations JLMirror.Alerting

/-! ### The tables -/

/-- `lifecycle_state` of an incident. -/
inductive IncidentState where
  /-- `open`. -/
  | opened
  | in_progress
  | resolved
  | closed
  deriving DecidableEq

/-- The text of a state. -/
def IncidentState.text : IncidentState → String
  | .opened => "open"
  | .in_progress => "in_progress"
  | .resolved => "resolved"
  | .closed => "closed"

/-- `itsm.incident`. -/
structure Incident where
  tenant_id : String
  incident_id : String
  alert_id : String
  title : String
  description : Option String
  lifecycle_state : IncidentState
  logical_action_id : String
  content_hash : String
  created_by_principal_id : String
  deriving DecidableEq

/-- `itsm.incident_transition`. -/
structure IncidentTransition where
  tenant_id : String
  incident_transition_id : String
  incident_id : String
  from_state : IncidentState
  to_state : IncidentState
  logical_action_id : String
  actor_principal_id : String
  deriving DecidableEq

/-- `itsm.incident_assignment`. -/
structure IncidentAssignment where
  tenant_id : String
  incident_assignment_id : String
  incident_id : String
  assignee_principal_id : String
  assigned_by_principal_id : String
  logical_action_id : String
  effective_from : ℕ
  effective_until : Option ℕ
  deriving DecidableEq

/-- `itsm.incident_provider_link`. -/
structure ProviderLink where
  tenant_id : String
  provider_link_id : String
  incident_id : String
  adapter_instance_ref : String
  provider_ticket_ref : String
  deriving DecidableEq

/-- `sync_state` of a dispatch. -/
inductive SyncState where
  | pending
  | dispatching
  | linked
  | failed
  | unknown
  | reconciliation_required
  deriving DecidableEq

/-- `itsm.incident_sync_outbox`. -/
structure SyncOutbox where
  tenant_id : String
  sync_outbox_id : String
  incident_id : String
  sync_state : SyncState
  attempt_number : ℕ
  adapter_instance_ref : String
  sync_identity : String
  executor_id : Option String
  claim_expires_at : Option ℕ
  available_at : ℕ
  last_failure_class : Option String
  created_at : ℕ
  deriving DecidableEq

/-- The tables, and what is read of `alerting.alert`. -/
structure ItsmDb where
  alerts : List AlertLifecycle
  incidents : List Incident
  transitions : List IncidentTransition
  assignments : List IncidentAssignment
  links : List ProviderLink
  outbox : List SyncOutbox
  deriving DecidableEq

/-- The empty tables. -/
def ItsmDb.empty : ItsmDb := ⟨[], [], [], [], [], []⟩

/-- What the functions raise: `g10.` and the name, or a constraint of a table. -/
inductive G10Error where
  | current_authority_required
  | incident_input_invalid
  | active_alert_required
  | incident_equivalence_conflict
  | incident_missing
  | transition_equivalence_conflict
  | transition_not_authorized
  | assignment_input_invalid
  | assignment_equivalence_conflict
  | sync_claim_input_invalid
  | sync_outbox_missing
  | sync_result_invalid
  | sync_completion_equivalence_conflict
  | sync_claim_lost
  | provider_ticket_ref_required
  | provider_link_equivalence_conflict
  | check_violation
  | unique_violation
  deriving DecidableEq

/-- What `g10_validate_authority` reads of an authority snapshot. -/
structure AuthoritySnapshot where
  current : Bool
  tenant_id : Option String
  principal_id : Option String
  action : Option String
  policy_revision : Option String
  deriving DecidableEq

/-- `itsm.g10_validate_authority`. -/
def g10_validate_authority (tenant_id actor_principal_id : String) (snapshot : AuthoritySnapshot) : Bool :=
  snapshot.current ∧ snapshot.tenant_id = some tenant_id ∧ snapshot.principal_id = some actor_principal_id ∧
    snapshot.action.getD "" ≠ "" ∧ snapshot.policy_revision.getD "" ≠ ""

/-- `chr(31)`. -/
def unitSeparator : String := String.singleton (Char.ofNat 31)

/-! ### `g10_create_incident` -/

/-- What an incident is created from. -/
structure IncidentContent where
  alert_id : String
  title : String
  description : Option String
  actor_principal_id : String
  deriving DecidableEq

/-- The text that `content_hash` is the `md5` of: the fields joined, a missing description as an
empty one. -/
def IncidentContent.joined (c : IncidentContent) : String :=
  c.alert_id ++ unitSeparator ++ c.title ++ unitSeparator ++ c.description.getD "" ++ unitSeparator ++
    c.actor_principal_id

/-- The checks of the arguments. -/
def IncidentContent.valid (c : IncidentContent) (logical_action_id : String) : Bool :=
  c.title ≠ "" ∧ c.title.length ≤ 240 ∧ (c.description.getD "").length ≤ 8000 ∧ logical_action_id ≠ ""

/-- The alert is active. -/
def alertActive (tenant_id alert_id : String) (db : ItsmDb) : Bool :=
  db.alerts.any fun a => a.tenant_id = tenant_id ∧ a.alert_id = alert_id ∧ a.lifecycle_state = .active

/-- `g10-incident:{md5}`. -/
def incidentId (md5 : String → String) (tenant_id logical_action_id : String) : String :=
  "g10-incident:" ++ md5 (tenant_id ++ unitSeparator ++ logical_action_id)

/-- `g10-sync:{md5}`. -/
def syncId (md5 : String → String) (tenant_id incident_id : String) (attempt_number : ℕ) : String :=
  "g10-sync:" ++ md5 (tenant_id ++ unitSeparator ++ incident_id ++ unitSeparator ++ toString attempt_number)

/-- What a creation returns. -/
structure IncidentReply where
  incident_id : String
  duplicate : Bool
  deriving DecidableEq

/-- A dispatch breaks a unique key of the outbox. -/
def SyncOutbox.clashes (row o : SyncOutbox) : Bool :=
  o.tenant_id = row.tenant_id ∧ (o.sync_outbox_id = row.sync_outbox_id ∨
    (o.incident_id = row.incident_id ∧ o.attempt_number = row.attempt_number))

/-- The first dispatch of an incident. -/
def firstDispatch (md5 : String → String) (now : ℕ) (tenant_id incident_id : String) : SyncOutbox where
  tenant_id := tenant_id
  sync_outbox_id := syncId md5 tenant_id incident_id 1
  incident_id := incident_id
  sync_state := .pending
  attempt_number := 1
  adapter_instance_ref := "fixture-neutral@1"
  sync_identity := "g10-sync-identity:" ++ md5 (tenant_id ++ unitSeparator ++ incident_id)
  executor_id := none
  claim_expires_at := none
  available_at := now
  last_failure_class := none
  created_at := now

/-- The row of a new incident. -/
def newIncident (md5 : String → String) (tenant_id : String) (c : IncidentContent) (logical_action_id : String) :
    Incident where
  tenant_id := tenant_id
  incident_id := incidentId md5 tenant_id logical_action_id
  alert_id := c.alert_id
  title := c.title
  description := c.description
  lifecycle_state := .opened
  logical_action_id := logical_action_id
  content_hash := md5 c.joined
  created_by_principal_id := c.actor_principal_id

/-- `itsm.g10_create_incident`: the alert is looked at before the logical action. -/
def g10_create_incident (md5 : String → String) (now : ℕ) (tenant_id : String) (c : IncidentContent)
    (logical_action_id : String) (snapshot : AuthoritySnapshot) (db : ItsmDb) :
    Except G10Error (IncidentReply × ItsmDb) := do
  require (g10_validate_authority tenant_id c.actor_principal_id snapshot) .current_authority_required
  require (c.valid logical_action_id) .incident_input_invalid
  require (alertActive tenant_id c.alert_id db) .active_alert_required
  match db.incidents.find? fun i => i.tenant_id = tenant_id ∧ i.logical_action_id = logical_action_id with
  | some existing =>
    require (decide (existing.content_hash = md5 c.joined)) .incident_equivalence_conflict
    return (⟨existing.incident_id, true⟩, db)
  | none =>
    let row := newIncident md5 tenant_id c logical_action_id
    require (decide (tenant_id ≠ "" ∧ c.alert_id ≠ "" ∧ row.content_hash ≠ "" ∧ c.actor_principal_id ≠ ""))
      .check_violation
    let incidents ← insertUnless (fun i => i.tenant_id = tenant_id ∧ i.incident_id = row.incident_id)
      .unique_violation row db.incidents
    let dispatch := firstDispatch md5 now tenant_id row.incident_id
    let outbox ← insertUnless dispatch.clashes .unique_violation dispatch db.outbox
    return (⟨row.incident_id, false⟩, { db with incidents, outbox })

/-- The logical action of the tenant is that of the incident. -/
def Incident.isOf (tenant_id logical_action_id : String) (i : Incident) : Prop :=
  i.tenant_id = tenant_id ∧ i.logical_action_id = logical_action_id

variable {md5 : String → String} {t : String} {snapshot : AuthoritySnapshot} {db : ItsmDb}

/-- A creation that succeeds found its incident, or made it. -/
theorem g10_create_incident_ok {now : ℕ} {c : IncidentContent} {la : String} {db' : ItsmDb} {r : IncidentReply}
    (h : g10_create_incident md5 now t c la snapshot db = .ok (r, db')) :
    (∃ i ∈ db.incidents, i.isOf t la ∧ i.content_hash = md5 c.joined ∧ r = ⟨i.incident_id, true⟩ ∧ db' = db) ∨
      ((∀ i ∈ db.incidents, ¬i.isOf t la) ∧
        (∀ i ∈ db.incidents, ¬(i.tenant_id = t ∧ i.incident_id = incidentId md5 t la)) ∧
        (∀ o ∈ db.outbox, (firstDispatch md5 now t (incidentId md5 t la)).clashes o = false) ∧
        r = ⟨incidentId md5 t la, false⟩ ∧
        db' = { db with
          incidents := db.incidents ++ [newIncident md5 t c la]
          outbox := db.outbox ++ [firstDispatch md5 now t (incidentId md5 t la)] }) := by
  obtain ⟨_, -, h⟩ := bind_ok_iff.1 h
  obtain ⟨_, -, h⟩ := bind_ok_iff.1 h
  obtain ⟨_, -, h⟩ := bind_ok_iff.1 h
  cases hfind : db.incidents.find? fun i => i.tenant_id = t ∧ i.logical_action_id = la with
  | some i =>
    simp only [hfind] at h
    obtain ⟨_, hhash, h⟩ := bind_ok_iff.1 h
    obtain ⟨rfl, rfl⟩ := Prod.mk.inj (Except.ok.inj h)
    have hkey : i.tenant_id = t ∧ i.logical_action_id = la := by simpa using List.find?_some hfind
    exact Or.inl ⟨i, List.mem_of_find?_eq_some hfind, hkey, of_decide_eq_true (require_ok_iff.1 hhash), rfl, rfl⟩
  | none =>
    simp only [hfind] at h
    obtain ⟨_, -, h⟩ := bind_ok_iff.1 h
    obtain ⟨incidents, hincidents, h⟩ := bind_ok_iff.1 h
    obtain ⟨outbox, houtbox, h⟩ := bind_ok_iff.1 h
    obtain ⟨rfl, rfl⟩ := Prod.mk.inj (Except.ok.inj h)
    obtain ⟨hid, rfl⟩ := insertUnless_ok_iff.1 hincidents
    obtain ⟨hclash, rfl⟩ := insertUnless_ok_iff.1 houtbox
    refine Or.inr ⟨fun i hi hkey => ?_, fun i hi => of_decide_eq_false (hid i hi), hclash, rfl, rfl⟩
    exact List.find?_eq_none.1 hfind i hi (decide_eq_true hkey)

/-! ### `g10_transition_incident` -/

/-- The allowed transitions; the target is a text of the caller. -/
def nextState : IncidentState → String → Option IncidentState
  | .opened, "in_progress" => some .in_progress
  | .opened, "resolved" => some .resolved
  | .in_progress, "resolved" => some .resolved
  | .resolved, "closed" => some .closed
  | _, _ => none

/-- What a transition returns. -/
structure TransitionReply where
  incident_id : String
  state : IncidentState
  duplicate : Bool
  deriving DecidableEq

/-- The row is the incident. -/
def isIncident (tenant_id incident_id : String) (i : Incident) : Bool :=
  i.tenant_id = tenant_id ∧ i.incident_id = incident_id

/-- A transition breaks a unique key. -/
def IncidentTransition.clashes (row x : IncidentTransition) : Bool :=
  x.tenant_id = row.tenant_id ∧ (x.incident_transition_id = row.incident_transition_id ∨
    (x.incident_id = row.incident_id ∧ x.logical_action_id = row.logical_action_id))

/-- `itsm.g10_transition_incident`: the logical action is looked at before the state. -/
def g10_transition_incident (md5 : String → String) (tenant_id incident_id target_state actor_principal_id
    logical_action_id : String) (snapshot : AuthoritySnapshot) (db : ItsmDb) :
    Except G10Error (TransitionReply × ItsmDb) := do
  require (g10_validate_authority tenant_id actor_principal_id snapshot) .current_authority_required
  match db.incidents.find? (isIncident tenant_id incident_id) with
  | none => .error .incident_missing
  | some incident =>
    match db.transitions.find? fun x =>
        x.tenant_id = tenant_id ∧ x.incident_id = incident_id ∧ x.logical_action_id = logical_action_id with
    | some existing =>
      require (decide (existing.to_state.text = target_state)) .transition_equivalence_conflict
      return (⟨incident_id, existing.to_state, true⟩, db)
    | none =>
      match nextState incident.lifecycle_state target_state with
      | none => .error .transition_not_authorized
      | some target =>
        let row : IncidentTransition :=
          ⟨tenant_id, "g10-transition:" ++ md5 (tenant_id ++ unitSeparator ++ incident_id ++ unitSeparator ++
              logical_action_id), incident_id, incident.lifecycle_state, target, logical_action_id, actor_principal_id⟩
        require (decide (actor_principal_id ≠ "" ∧ logical_action_id ≠ "")) .check_violation
        let transitions ← insertUnless row.clashes .unique_violation row db.transitions
        return (⟨incident_id, target, false⟩, { db with
          transitions
          incidents := updateWhere (isIncident tenant_id incident_id) (fun i => { i with lifecycle_state := target })
            db.incidents })

variable {inc : String}

theorem isIncident_iff {i : Incident} : isIncident t inc i = true ↔ i.tenant_id = t ∧ i.incident_id = inc := by
  simp [isIncident]

/-- The transitions of an incident, in the order they were made. -/
def transitionsOf (tenant_id incident_id : String) (db : ItsmDb) : List IncidentTransition :=
  db.transitions.filter fun x => x.tenant_id = tenant_id ∧ x.incident_id = incident_id

theorem mem_transitionsOf {x : IncidentTransition} :
    x ∈ transitionsOf t inc db ↔ x ∈ db.transitions ∧ x.tenant_id = t ∧ x.incident_id = inc := by
  simp [transitionsOf]

/-- A transition that succeeds was made before, or follows an allowed edge. -/
theorem g10_transition_incident_ok {target actor la : String} {db' : ItsmDb} {r : TransitionReply}
    (h : g10_transition_incident md5 t inc target actor la snapshot db = .ok (r, db')) :
    (∃ x ∈ transitionsOf t inc db, x.logical_action_id = la ∧ x.to_state.text = target ∧
        r = ⟨inc, x.to_state, true⟩ ∧ db' = db) ∨
      ∃ i ∈ db.incidents, ∃ x : IncidentTransition, isIncident t inc i = true ∧
        nextState i.lifecycle_state target = some x.to_state ∧ x.from_state = i.lifecycle_state ∧
        x.tenant_id = t ∧ x.incident_id = inc ∧ x.logical_action_id = la ∧
        (∀ y ∈ transitionsOf t inc db, y.logical_action_id ≠ la) ∧ r = ⟨inc, x.to_state, false⟩ ∧
        db' = { db with
          transitions := db.transitions ++ [x]
          incidents := updateWhere (isIncident t inc) (fun i => { i with lifecycle_state := x.to_state })
            db.incidents } := by
  obtain ⟨_, -, h⟩ := bind_ok_iff.1 h
  cases hfind : db.incidents.find? (isIncident t inc) with
  | none => simp [hfind] at h
  | some i =>
    simp only [hfind] at h
    cases hold : db.transitions.find? fun x => x.tenant_id = t ∧ x.incident_id = inc ∧ x.logical_action_id = la with
    | some x =>
      simp only [hold] at h
      obtain ⟨_, htarget, h⟩ := bind_ok_iff.1 h
      obtain ⟨rfl, rfl⟩ := Prod.mk.inj (Except.ok.inj h)
      have hkey : x.tenant_id = t ∧ x.incident_id = inc ∧ x.logical_action_id = la := by
        simpa using List.find?_some hold
      obtain ⟨ht, hinc, hla⟩ := hkey
      refine Or.inl ⟨x, mem_transitionsOf.2 ⟨List.mem_of_find?_eq_some hold, ht, hinc⟩, hla, ?_, rfl, rfl⟩
      exact of_decide_eq_true (require_ok_iff.1 htarget)
    | none =>
      simp only [hold] at h
      cases hnext : nextState i.lifecycle_state target with
      | none => simp [hnext] at h
      | some state =>
        simp only [hnext] at h
        obtain ⟨_, -, h⟩ := bind_ok_iff.1 h
        obtain ⟨transitions, hrows, h⟩ := bind_ok_iff.1 h
        obtain ⟨rfl, rfl⟩ := Prod.mk.inj (Except.ok.inj h)
        obtain ⟨-, rfl⟩ := insertUnless_ok_iff.1 hrows
        refine Or.inr ⟨i, List.mem_of_find?_eq_some hfind, ⟨t, _, inc, i.lifecycle_state, state, la, actor⟩,
          List.find?_some hfind, hnext, rfl, rfl, rfl, rfl, ?_, rfl, rfl⟩
        intro y hy hla
        obtain ⟨hy, ht, hinc⟩ := mem_transitionsOf.1 hy
        exact List.find?_eq_none.1 hold y hy (decide_eq_true ⟨ht, hinc, hla⟩)

/-! ### `g10_assign_incident` -/

/-- What an assignment returns. -/
structure AssignmentReply where
  incident_assignment_id : String
  duplicate : Bool
  deriving DecidableEq

/-- The assignment of the incident that is in effect. -/
def isCurrentAssignment (tenant_id incident_id : String) (x : IncidentAssignment) : Bool :=
  x.tenant_id = tenant_id ∧ x.incident_id = incident_id ∧ x.effective_until = none

/-- An assignment breaks a unique key, `g10_one_current_assignee` among them. -/
def IncidentAssignment.clashes (row x : IncidentAssignment) : Bool :=
  x.tenant_id = row.tenant_id ∧ (x.incident_assignment_id = row.incident_assignment_id ∨
    (x.incident_id = row.incident_id ∧ (x.logical_action_id = row.logical_action_id ∨ x.effective_until = none)))

/-- `itsm.g10_assign_incident`: the assignment in effect ends, the new one begins. -/
def g10_assign_incident (md5 : String → String) (now : ℕ) (tenant_id incident_id assignee_principal_id
    actor_principal_id logical_action_id : String) (snapshot : AuthoritySnapshot) (db : ItsmDb) :
    Except G10Error (AssignmentReply × ItsmDb) := do
  require (g10_validate_authority tenant_id actor_principal_id snapshot) .current_authority_required
  require (decide (assignee_principal_id ≠ "" ∧ logical_action_id ≠ "")) .assignment_input_invalid
  require (db.incidents.any (isIncident tenant_id incident_id)) .incident_missing
  match db.assignments.find? fun x =>
      x.tenant_id = tenant_id ∧ x.incident_id = incident_id ∧ x.logical_action_id = logical_action_id with
  | some existing =>
    require (decide (existing.assignee_principal_id = assignee_principal_id)) .assignment_equivalence_conflict
    return (⟨existing.incident_assignment_id, true⟩, db)
  | none =>
    -- `effective_until >= effective_from`
    require (db.assignments.all fun x => !isCurrentAssignment tenant_id incident_id x || decide (x.effective_from ≤ now))
      .check_violation
    let ended := updateWhere (isCurrentAssignment tenant_id incident_id) (fun x => { x with effective_until := some now })
      db.assignments
    let row : IncidentAssignment :=
      ⟨tenant_id, "g10-assignment:" ++ md5 (tenant_id ++ unitSeparator ++ incident_id ++ unitSeparator ++
          logical_action_id), incident_id, assignee_principal_id, actor_principal_id, logical_action_id, now, none⟩
    require (decide (actor_principal_id ≠ "")) .check_violation
    let assignments ← insertUnless row.clashes .unique_violation row ended
    return (⟨row.incident_assignment_id, false⟩, { db with assignments })

/-- The assignments of an incident. -/
def assignmentsOf (tenant_id incident_id : String) (rows : List IncidentAssignment) : List IncidentAssignment :=
  rows.filter fun x => x.tenant_id = tenant_id ∧ x.incident_id = incident_id

theorem mem_assignmentsOf {rows : List IncidentAssignment} {x : IncidentAssignment} :
    x ∈ assignmentsOf t inc rows ↔ x ∈ rows ∧ x.tenant_id = t ∧ x.incident_id = inc := by
  simp [assignmentsOf]

/-- The assignments with the one in effect ended. -/
def endCurrent (now : ℕ) (tenant_id incident_id : String) (rows : List IncidentAssignment) : List IncidentAssignment :=
  updateWhere (isCurrentAssignment tenant_id incident_id) (fun x => { x with effective_until := some now }) rows

/-- An assignment that succeeds was made before, or takes the place of the one in effect. -/
theorem g10_assign_incident_ok {now : ℕ} {assignee actor la : String} {db' : ItsmDb} {r : AssignmentReply}
    (h : g10_assign_incident md5 now t inc assignee actor la snapshot db = .ok (r, db')) :
    (∃ x ∈ assignmentsOf t inc db.assignments, x.logical_action_id = la ∧ x.assignee_principal_id = assignee ∧
        r = ⟨x.incident_assignment_id, true⟩ ∧ db' = db) ∨
      ∃ x : IncidentAssignment, (∃ i ∈ db.incidents, isIncident t inc i = true) ∧
        x.tenant_id = t ∧ x.incident_id = inc ∧ x.logical_action_id = la ∧ x.assignee_principal_id = assignee ∧
        (assignee ≠ "" ∧ la ≠ "") ∧ (∀ y ∈ assignmentsOf t inc db.assignments, y.logical_action_id ≠ la) ∧
        r = ⟨x.incident_assignment_id, false⟩ ∧
        db' = { db with assignments := endCurrent now t inc db.assignments ++ [x] } := by
  obtain ⟨_, -, h⟩ := bind_ok_iff.1 h
  obtain ⟨_, hinput, h⟩ := bind_ok_iff.1 h
  obtain ⟨_, hincident, h⟩ := bind_ok_iff.1 h
  have hincident := List.any_eq_true.1 (require_ok_iff.1 hincident)
  cases hold : db.assignments.find? fun x => x.tenant_id = t ∧ x.incident_id = inc ∧ x.logical_action_id = la with
  | some x =>
    simp only [hold] at h
    obtain ⟨_, hassignee, h⟩ := bind_ok_iff.1 h
    obtain ⟨rfl, rfl⟩ := Prod.mk.inj (Except.ok.inj h)
    have hkey : x.tenant_id = t ∧ x.incident_id = inc ∧ x.logical_action_id = la := by simpa using List.find?_some hold
    obtain ⟨ht, hinc, hla⟩ := hkey
    refine Or.inl ⟨x, mem_assignmentsOf.2 ⟨List.mem_of_find?_eq_some hold, ht, hinc⟩, hla, ?_, rfl, rfl⟩
    exact of_decide_eq_true (require_ok_iff.1 hassignee)
  | none =>
    simp only [hold] at h
    obtain ⟨_, -, h⟩ := bind_ok_iff.1 h
    obtain ⟨_, -, h⟩ := bind_ok_iff.1 h
    obtain ⟨assignments, hrows, h⟩ := bind_ok_iff.1 h
    obtain ⟨rfl, rfl⟩ := Prod.mk.inj (Except.ok.inj h)
    obtain ⟨-, rfl⟩ := insertUnless_ok_iff.1 hrows
    refine Or.inr ⟨_, hincident, rfl, rfl, rfl, rfl, of_decide_eq_true (require_ok_iff.1 hinput), ?_, rfl, rfl⟩
    intro y hy hla
    obtain ⟨hy, ht, hinc⟩ := mem_assignmentsOf.1 hy
    exact List.find?_eq_none.1 hold y hy (decide_eq_true ⟨ht, hinc, hla⟩)

end JLMirror.Itsm
