import JLMirror.Foundations.Table

/-!
# Incident response actions

The tables of `sql/z_integration/008_g11_incident_response.sql` and the functions that the worker
calls, in their last versions (`013_g11_fix_claim_complete.sql`, `g1/022_g11_ir_action_extensions.sql`).

## The model

A function maps what its statements see to its answer and to the tables after it; the statements of
`g11_complete_action` are definitions of their own (`settleAction`, `processEvent`), because at READ
COMMITTED each of them sees what is committed at its own start.

## Honest scope

Of an event and of a policy only what the functions read is kept; the texts that go to the providers
are left out.
-/

namespace JLMirror.IncidentResponse

open JLMirror.Foundations

/-! ### The tables -/

/-- `action_kind`. -/
inductive ActionKind where
  | open_ticket
  | notify
  | automation
  deriving DecidableEq

/-- `status` of an action. -/
inductive ActionStatus where
  | pending
  | dispatching
  | linked
  | failed
  | skipped
  | unknown
  deriving DecidableEq

/-- The action is not over. -/
def ActionStatus.unsettled : ActionStatus → Bool
  | .pending | .dispatching => true
  | .linked | .failed | .skipped | .unknown => false

/-- `status` of an event. -/
inductive EventStatus where
  | received
  | processing
  | processed
  | failed
  deriving DecidableEq

/-- `incident_response.application_error_event`. -/
structure ErrorEvent where
  tenant_id : String
  event_id : String
  status : EventStatus
  deriving DecidableEq

/-- `incident_response.action_request`. -/
structure ActionRequest where
  request_id : String
  tenant_id : String
  event_id : String
  action_kind : ActionKind
  status : ActionStatus
  attempts : ℕ
  claimed_by : Option String
  claim_expires_at : Option ℕ
  result_state : Option ActionStatus
  provider_ref : Option String
  failure_class : Option String
  created_at : ℕ
  deriving DecidableEq

/-- `incident_response.policy`. -/
structure IrPolicy where
  tenant_id : String
  notify_channels : List String
  /-- The `script_id` of each trigger that has one. -/
  automation_triggers : List (Option String)
  deriving DecidableEq

/-- `notification.notification_destination_config`. -/
structure Destination where
  tenant_id : String
  destination_config_id : String
  deleted : Bool
  deriving DecidableEq

/-- `g1.automation_script`. -/
structure AutomationScript where
  script_id : String
  tenant_id : String
  enabled : Bool
  deriving DecidableEq

/-- `g1.automation_run`, of trigger `incident_response` and outcome `pending`. -/
structure AutomationRun where
  run_id : String
  tenant_id : String
  script_id : String
  deriving DecidableEq

/-- The tables. -/
structure IrDb where
  /-- `g1.tenants`, with whether the tenant is active. -/
  tenants : List (String × Bool)
  policies : List IrPolicy
  destinations : List Destination
  scripts : List AutomationScript
  runs : List AutomationRun
  events : List ErrorEvent
  actions : List ActionRequest
  deriving DecidableEq

/-! ### The next action and its claim -/

/-- The first of the actions that were created first. -/
def oldest : List ActionRequest → Option ActionRequest
  | [] => none
  | a :: as =>
    match oldest as with
    | none => some a
    | some b => if b.created_at < a.created_at then some b else some a

/-- The action is one that the worker may take next. -/
def isNext (tenant_id : String) (db : IrDb) (a : ActionRequest) : Bool :=
  a.tenant_id = tenant_id ∧ a.status = .pending ∧
    ∃ e ∈ db.events, e.tenant_id = a.tenant_id ∧ e.event_id = a.event_id

/-- `g11_next_pending_action`. -/
def g11_next_pending_action (tenant_id : String) (db : IrDb) : Option ActionRequest :=
  oldest (db.actions.filter (isNext tenant_id db))

theorem oldest_mem {as : List ActionRequest} {a : ActionRequest} (h : oldest as = some a) : a ∈ as := by
  induction as generalizing a with
  | nil => cases h
  | cons x xs ih =>
    simp only [oldest] at h
    split at h
    · exact Option.some.inj h ▸ List.mem_cons_self
    · rename_i b hb
      split_ifs at h
      · exact List.mem_cons_of_mem _ (Option.some.inj h ▸ ih hb)
      · exact Option.some.inj h ▸ List.mem_cons_self

/-- The row of the claim. -/
def isClaimable (tenant_id request_id : String) (a : ActionRequest) : Bool :=
  a.tenant_id = tenant_id ∧ a.request_id = request_id ∧ a.status = .pending

/-- The action under a lease. -/
def ActionRequest.claimBy (executor : String) (expires_at : ℕ) (a : ActionRequest) : ActionRequest :=
  { a with
    status := .dispatching, claimed_by := some executor, claim_expires_at := some expires_at, attempts := a.attempts + 1 }

/-- `g11_claim_action`: whether it took the action. -/
def g11_claim_action (now : ℕ) (tenant_id request_id executor : String) (claim_seconds : ℕ) (db : IrDb) : Bool × IrDb :=
  (db.actions.any (isClaimable tenant_id request_id),
    { db with
      actions := updateWhere (isClaimable tenant_id request_id) (ActionRequest.claimBy executor (now + claim_seconds))
        db.actions })

/-! ### `g11_complete_action` -/

/-- The row of the completion: `claimed_by = p_executor`. -/
def isOwned (tenant_id request_id executor : String) (a : ActionRequest) : Bool :=
  a.tenant_id = tenant_id ∧ a.request_id = request_id ∧ a.claimed_by = some executor

/-- The result of an action. -/
structure ActionResult where
  state : ActionStatus
  provider_ref : Option String
  failure_class : Option String
  deriving DecidableEq

/-- The action with its result. -/
def ActionRequest.settle (r : ActionResult) (a : ActionRequest) : ActionRequest :=
  { a with
    status := r.state, result_state := some r.state, provider_ref := r.provider_ref, failure_class := r.failure_class }

/-- The first statement of the completion. -/
def settleAction (tenant_id request_id executor : String) (r : ActionResult) (db : IrDb) : IrDb :=
  { db with actions := updateWhere (isOwned tenant_id request_id executor) (ActionRequest.settle r) db.actions }

/-- `SELECT event_id FROM action_request WHERE request_id=…`. -/
def eventIdOf (request_id : String) (db : IrDb) : Option String :=
  (db.actions.find? fun a => a.request_id = request_id).map ActionRequest.event_id

/-- An action of the event is not over. -/
def someUnsettled (tenant_id : String) (event_id : Option String) (db : IrDb) : Bool :=
  db.actions.any fun a => a.tenant_id = tenant_id ∧ some a.event_id = event_id ∧ a.status.unsettled

/-- The row of the second statement. -/
def isEventOf (tenant_id : String) (event_id : Option String) (e : ErrorEvent) : Bool :=
  e.tenant_id = tenant_id ∧ some e.event_id = event_id

/-- The second statement of the completion: the event is processed once all its actions are over. -/
def processEvent (tenant_id request_id : String) (db : IrDb) : IrDb :=
  if someUnsettled tenant_id (eventIdOf request_id db) db then db
  else { db with
    events := updateWhere (isEventOf tenant_id (eventIdOf request_id db)) (fun e => { e with status := .processed })
      db.events }

/-- `g11_complete_action`: whether the executor owned the action. -/
def g11_complete_action (tenant_id request_id executor : String) (r : ActionResult) (db : IrDb) : Bool × IrDb :=
  if db.actions.any (isOwned tenant_id request_id executor) then
    (true, processEvent tenant_id request_id (settleAction tenant_id request_id executor r db))
  else (false, db)

/-! ### The extensions -/

/-- `g11_get_policy`, the triggers of it. -/
def g11_get_policy (tenant_id : String) (db : IrDb) : List (Option String) :=
  match db.policies.find? fun p => p.tenant_id = tenant_id with
  | none => []
  | some p => p.automation_triggers

/-- `g11_get_notify_destinations`. -/
def g11_get_notify_destinations (tenant_id : String) (db : IrDb) : List Destination :=
  match db.policies.find? fun p => p.tenant_id = tenant_id with
  | none => []
  | some p => db.destinations.filter fun d =>
      d.tenant_id = tenant_id ∧ d.deleted = false ∧ d.destination_config_id ∈ p.notify_channels

/-- `g11_enqueue_automation`: whether it enqueued a run; `none` if the insert raises. -/
def g11_enqueue_automation (tenant_id script_id run_id : String) (db : IrDb) : Option (Bool × IrDb) :=
  if db.scripts.any fun s => s.script_id = script_id ∧ s.tenant_id = tenant_id ∧ s.enabled then
    if db.runs.any fun r => r.run_id = run_id then none
    else
      let run : AutomationRun := ⟨run_id, tenant_id, script_id⟩
      some (true, { db with runs := db.runs ++ [run] })
  else some (false, db)

end JLMirror.IncidentResponse
