import JLMirror.Foundations.Session
import JLMirror.Foundations.Table
import JLMirror.Alerting.Alert

/-!
# The escalation worker

`workers/escalation.py` "fires successive notification steps for active alerts that have an
assigned escalation policy and have exceeded the step's delay threshold without resolving".
One connection serves all passes, with autocommit off.

## The model

* The connection is a `Session` over the tables; `conn.transaction()` around the writes of a
  step is the block of the library, so it is a savepoint whenever a transaction is open.
* A pass has one instant and an oracle for what it does not decide: which statements the
  server refuses, and what becomes of the e-mail or Slack message of a step.
* `log` records, for every due row that the pass counts in `processed`, whether its message
  left and whether `_fire_step` ran to its end. It is a ghost: no code reads it.
* Between passes other sessions commit what they like (`Action.others`); the notification
  intents they add have ids of their own.

## Honest scope

The role of `SET LOCAL ROLE` only matters through the statements that are refused. Rows that
an open transaction has written are not locked against the other sessions.
-/

namespace JLMirror.Alerting

open JLMirror.Foundations

/-- `alerting.escalation_step`. -/
structure EscalationStep where
  policy_id : String
  tenant_id : String
  step_number : ℕ
  delay_minutes : ℕ
  channel_class : ChannelClass
  destination_ref : String
  payload_ref : String
  deriving DecidableEq

/-- `alerting.alert_escalation`. -/
structure AlertEscalation where
  alert_id : String
  tenant_id : String
  policy_id : String
  current_step : ℕ
  armed_at : ℕ
  last_fired_at : Option ℕ
  completed_at : Option ℕ
  deriving DecidableEq

/-- What the worker reads of `alerting.alert`. -/
structure AlertLifecycle where
  tenant_id : String
  alert_id : String
  lifecycle_state : LifecycleState
  deriving DecidableEq

/-- The intent of a step, in `notification.notification_intent`. -/
structure StepIntent where
  tenant_id : String
  notification_intent_id : ℕ
  alert_id : String
  destination_ref : String
  channel_class : ChannelClass
  payload_ref : String
  logical_action_id : String
  deriving DecidableEq

/-- A first dispatch in `notification.notification_dispatch_outbox`, `dispatch:{intent}:1`. -/
structure StepDispatch where
  tenant_id : String
  dispatch_id : ℕ
  notification_intent_id : ℕ
  attempt_number : ℕ
  deriving DecidableEq

/-- The tables of the worker. -/
structure EscalationDb where
  /-- `g1.tenants`, with `state = 'active'`. -/
  tenants : List (String × Bool)
  steps : List EscalationStep
  escalations : List AlertEscalation
  alerts : List AlertLifecycle
  snoozes : List AlertSnooze
  intents : List StepIntent
  outbox : List StepDispatch
  deriving DecidableEq

/-- The empty tables. -/
def EscalationDb.empty : EscalationDb := ⟨[], [], [], [], [], [], []⟩

/-- A row of the due query. -/
structure DueRow where
  alert_id : String
  policy_id : String
  current_step : ℕ
  delay_minutes : ℕ
  channel_class : ChannelClass
  destination_ref : String
  payload_ref : String
  deriving DecidableEq

/-- What the message of a step sent directly comes to. -/
inductive DirectSend where
  /-- It left. -/
  | delivered
  /-- It left, and an exception came after it. -/
  | deliveredThenRaised
  /-- It did not leave, and the adapter raised. -/
  | undelivered
  deriving DecidableEq

/-- What fails while a step is fired. -/
structure StepFaults where
  snoozeRefused : Bool
  intentRefused : Bool
  send : DirectSend
  outboxRefused : Bool
  roleRefused : Bool
  advanceRefused : Bool

/-- No failure. -/
def StepFaults.none : StepFaults := ⟨false, false, .delivered, false, false, false⟩

/-- What a pass does not decide: its instant and the failures. -/
structure EscalationPass where
  clock : ℕ
  tenantsRefused : Bool
  dueRefused : String → Bool
  /-- By tenant and alert. -/
  faults : String → String → StepFaults

/-! ### The queries and the functions of the database -/

/-- `_tenants`. -/
def activeTenants (db : EscalationDb) : List String := (db.tenants.filter (·.2)).map (·.1)

/-- The joins and the `WHERE` of `_due_escalations`; instants are seconds. -/
def dueRows (now : ℕ) (tenant_id : String) (db : EscalationDb) : List DueRow :=
  db.escalations.flatMap fun ae =>
    if ae.tenant_id = tenant_id ∧ ae.completed_at = none ∧
        ∃ a ∈ db.alerts, a.alert_id = ae.alert_id ∧ a.tenant_id = ae.tenant_id ∧ a.lifecycle_state = .active then
      (db.steps.filter fun es =>
          es.policy_id = ae.policy_id ∧ es.tenant_id = ae.tenant_id ∧ es.step_number = ae.current_step ∧
            ae.last_fired_at.getD ae.armed_at + 60 * es.delay_minutes ≤ now).map fun es =>
        ⟨ae.alert_id, ae.policy_id, ae.current_step, es.delay_minutes, es.channel_class, es.destination_ref,
          es.payload_ref⟩
    else []

/-- `esc:{alert}:step{n}`. -/
def logicalActionId (r : DueRow) : String := s!"esc:{r.alert_id}:step{r.current_step}"

/-- The logical action of the step is already in the table: `ON CONFLICT DO NOTHING`. -/
def intentTaken (tenant_id : String) (r : DueRow) (db : EscalationDb) : Bool :=
  db.intents.any fun i => i.tenant_id = tenant_id ∧ i.logical_action_id = logicalActionId r

/-- The intent of a step. -/
def stepIntent (tenant_id : String) (intent_id : ℕ) (r : DueRow) : StepIntent :=
  ⟨tenant_id, intent_id, r.alert_id, r.destination_ref, r.channel_class, r.payload_ref, logicalActionId r⟩

/-- The insert of the intent. -/
def insertIntent (tenant_id : String) (intent_id : ℕ) (r : DueRow) (db : EscalationDb) : EscalationDb :=
  if intentTaken tenant_id r db then db
  else { db with intents := db.intents ++ [stepIntent tenant_id intent_id r] }

/-- The insert of the outbox row. -/
def insertDispatch (tenant_id : String) (dispatch_id intent_id : ℕ) (db : EscalationDb) : EscalationDb :=
  let row : StepDispatch := ⟨tenant_id, dispatch_id, intent_id, 1⟩
  { db with outbox := db.outbox ++ [row] }

/-- The escalation of the alert that is not completed. -/
def openEscalation (tenant_id alert_id : String) (db : EscalationDb) : Option AlertEscalation :=
  db.escalations.find? fun ae => ae.alert_id = alert_id ∧ ae.tenant_id = tenant_id ∧ ae.completed_at = none

/-- `alerting.g23_advance_step`: the next step if it exists, else the end. `none` is the exception
`g23.escalation_not_found`. -/
def g23_advance_step (now : ℕ) (tenant_id alert_id : String) (fired_step : ℕ) (db : EscalationDb) :
    Option EscalationDb := do
  let ae ← openEscalation tenant_id alert_id db
  let isRow := fun (x : AlertEscalation) => decide (x.alert_id = alert_id ∧ x.tenant_id = tenant_id)
  let hasNext := db.steps.any fun es =>
    es.policy_id = ae.policy_id ∧ es.tenant_id = tenant_id ∧ es.step_number = fired_step + 1
  let next := fun (x : AlertEscalation) =>
    if hasNext then { x with current_step := fired_step + 1, last_fired_at := some now }
    else { x with last_fired_at := some now, completed_at := some now }
  return { db with escalations := updateWhere isRow next db.escalations }

/-! ### Firing a step -/

/-- The channel is dispatched by the worker itself. -/
def ChannelClass.direct : ChannelClass → Bool
  | .whatsapp_business => false
  | .email_smtp | .slack => true

/-- The end of the block: the role, then `g23_advance_step`. -/
def advance (p : EscalationPass) (tenant_id : String) (r : DueRow) (s : Session EscalationDb) :
    Session EscalationDb × Bool :=
  let f := p.faults tenant_id r.alert_id
  if f.roleRefused ∨ f.advanceRefused then (s.refuse p.clock, true)
  else
    match g23_advance_step (s.now p.clock) tenant_id r.alert_id r.current_step s.view with
    | none => (s.refuse p.clock, true)
    | some _ =>
      (s.exec p.clock fun db => (g23_advance_step (s.now p.clock) tenant_id r.alert_id r.current_step db).getD db,
        false)

/-- The block `with conn.transaction()` of `_fire_step`. -/
def fireBlock (p : EscalationPass) (tenant_id : String) (r : DueRow) (token : ℕ) (s : Session EscalationDb) :
    Session EscalationDb × Bool :=
  let f := p.faults tenant_id r.alert_id
  if f.intentRefused then (s.refuse p.clock, true)
  else
    let s := s.exec p.clock (insertIntent tenant_id token r)
    if r.channel_class.direct then
      if f.send = .delivered then advance p tenant_id r s else (s, true)
    else if f.outboxRefused ∨ ¬s.view.intents.any fun i => i.tenant_id = tenant_id ∧ i.notification_intent_id = token then
      (s.refuse p.clock, true)
    else advance p tenant_id r (s.exec p.clock (insertDispatch tenant_id (token + 1) token))

/-- The message of the step left: a direct channel, once the insert of the intent is done. -/
def messageLeft (f : StepFaults) (r : DueRow) : Bool :=
  r.channel_class.direct ∧ ¬f.intentRefused ∧ f.send ≠ .undelivered

/-- How `_fire_step` ends. -/
inductive Fire where
  /-- The snooze check raises, outside of the `try`. -/
  | raised
  /-- The alert is snoozed. -/
  | snoozed
  /-- An exception inside the block, caught. -/
  | failed
  /-- The end of the function. -/
  | fired
  deriving DecidableEq

/-- `_fire_step`. -/
def _fire_step (p : EscalationPass) (tenant_id : String) (r : DueRow) (token : ℕ) (s : Session EscalationDb) :
    Session EscalationDb × Fire :=
  if (p.faults tenant_id r.alert_id).snoozeRefused then (s.refuse p.clock, .raised)
  else
    let s := s.start p.clock
    if g21_is_snoozed (s.now p.clock) tenant_id r.alert_id s.view.snoozes then (s.rollback, .snoozed)
    else
      let (s, raised) := s.transaction p.clock (fireBlock p tenant_id r token)
      if raised then (s.rollback, .failed) else (s, .fired)

/-! ### A pass -/

/-- A due row that a pass counts in `processed`. -/
structure Event where
  tenant_id : String
  row : DueRow
  /-- The id drawn for its intent, unless the alert was snoozed. -/
  intent : Option ℕ
  /-- Its message left. -/
  sent : Bool
  /-- `_fire_step` ran to its end. -/
  fired : Bool
  deriving DecidableEq

/-- The worker: its connection, the ids it can still draw, and the ghost log. -/
structure World where
  session : Session EscalationDb
  tokens : ℕ
  log : List Event

/-- The event of a handled row. -/
def eventOf (p : EscalationPass) (tenant_id : String) (r : DueRow) (token : ℕ) (fire : Fire) : Event :=
  { tenant_id, row := r
    intent := if fire = .snoozed then none else some token
    sent := fire ≠ .snoozed ∧ messageLeft (p.faults tenant_id r.alert_id) r
    fired := fire = .fired }

/-- `for row in due`; the flag says that an exception left the loop. -/
def processRows (p : EscalationPass) (tenant_id : String) : List DueRow → World → World × Bool
  | [], w => (w, false)
  | r :: rs, w =>
    let (s, fire) := _fire_step p tenant_id r w.tokens w.session
    if fire = .raised then ({ w with session := s }, true)
    else processRows p tenant_id rs
      { session := s, tokens := w.tokens + 2, log := w.log ++ [eventOf p tenant_id r w.tokens fire] }

/-- `for tenant_id in tenants`. -/
def processTenants (p : EscalationPass) : List String → World → World × Bool
  | [], w => (w, false)
  | t :: ts, w =>
    let s := w.session.start p.clock
    let idle := { w with session := s.rollback }
    if p.dueRefused t then processTenants p ts idle
    else
      let (w, raised) := processRows p t (dueRows (s.now p.clock) t s.view) idle
      if raised then (w, true) else processTenants p ts w

/-- `_process_pending`. -/
def _process_pending (p : EscalationPass) (w : World) : World × Bool :=
  if p.tenantsRefused then ({ w with session := w.session.rollback }, false)
  else
    let s := w.session.start p.clock
    processTenants p (activeTenants s.view) { w with session := s }

/-- The processor's turn in `run_all.tick`: an exception rolls the connection back. -/
def tick (p : EscalationPass) (w : World) : World :=
  let (w, raised) := _process_pending p w
  if raised then { w with session := w.session.rollback } else w

/-! ### Runs -/

/-- What other sessions commit between two passes. -/
structure Others where
  tenants : List (String × Bool)
  steps : List EscalationStep
  escalations : List AlertEscalation
  alerts : List AlertLifecycle
  snoozes : List AlertSnooze
  /-- Intents they add, each with an outbox row; their ids are drawn anew. -/
  intents : List (ℕ → StepIntent)

/-- Add the intents of other writers, each under the next free id. -/
def addIntents (tokens : ℕ) : List (ℕ → StepIntent) → EscalationDb → EscalationDb
  | [], db => db
  | i :: is, db =>
    let intent : StepIntent := { i tokens with notification_intent_id := tokens }
    let row : StepDispatch := ⟨intent.tenant_id, tokens + 1, tokens, 1⟩
    addIntents (tokens + 2) is { db with intents := db.intents ++ [intent], outbox := db.outbox ++ [row] }

/-- A step of a run. -/
inductive Action where
  /-- A pass of the worker. -/
  | pass (p : EscalationPass)
  /-- Commits of the other sessions. -/
  | others (o : Others)

/-- The effect of an action. -/
def World.step (w : World) : Action → World
  | .pass p => tick p w
  | .others o =>
    { w with
      session := w.session.external fun db => addIntents w.tokens o.intents
        { db with
          tenants := o.tenants, steps := o.steps, escalations := o.escalations, alerts := o.alerts
          snoozes := o.snoozes }
      tokens := w.tokens + 2 * o.intents.length }

/-- The worker before its first pass. -/
def World.init : World := ⟨.idle .empty, 0, []⟩

/-- A run from the start. -/
def exec (run : List Action) : World := run.foldl World.step World.init

end JLMirror.Alerting
