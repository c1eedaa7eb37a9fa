import JLMirror.Alerting.EscalationDurability
import JLMirror.Foundations.Fold

/-!
# The escalation engine: workers and the escalation API

`sql/alerting/004_g23_escalation.sql` holds the functions that the API and the worker of
`workers/escalation.py` call. This module puts several workers and the API on one database,
with each firing of a step taken as a transaction that commits.

## The model

* A worker reads the rows that are due for a tenant (`EngineAction.due`) and fires them one after
  the other (`EngineAction.fire`). Everything else may happen between these steps, so a row may
  be old when it is fired. A worker that stops in the middle of its rows reads anew.
* Firing a row is `_fire_step` of `JLMirror.Alerting.Escalation`, on an idle connection and with a
  commit behind it. No statement is refused at random: what fails is what the tables refuse.
* The functions of the API are one transaction each; an exception leaves the tables as they are.
* `armings` counts the calls of `g23_arm_alert` for an alert, and `log` keeps the firings. Both
  are ghosts.

## Honest scope

Firings and calls are atomic here. The role checks of the functions and the columns that no
function reads (`description`, the ids of rows) are left out.
-/

namespace JLMirror.Alerting

open JLMirror.Foundations

/-! ### The functions of the API -/

/-- `alerting.escalation_policy`. -/
structure EscalationPolicy where
  policy_id : String
  tenant_id : String
  name : String
  deleted_at : Option ℕ
  deriving DecidableEq

/-- What the functions raise. -/
inductive G23Error where
  /-- `g23.empty_name: name must not be empty`. -/
  | empty_name
  /-- `g23.policy_not_found: {policy}`. -/
  | policy_not_found (policy_id : String)
  /-- `g23.invalid_delay: delay_minutes must be > 0`. -/
  | invalid_delay
  /-- `g23.invalid_channel: {channel}`. -/
  | invalid_channel (channel_class : String)
  /-- `g23.step_not_found: policy={policy} step={step}`. -/
  | step_not_found (policy_id : String) (step_number : ℤ)
  /-- `g23.alert_not_active: {alert}`. -/
  | alert_not_active (alert_id : String)
  /-- `g23.escalation_not_found: {alert}`. -/
  | escalation_not_found (alert_id : String)
  /-- The check `step_number >= 1`. -/
  | check_violation
  /-- A primary key or `escalation_step_policy_step`. -/
  | unique_violation
  deriving DecidableEq

/-- The text of a channel class. -/
def ChannelClass.ofText : String → Option ChannelClass
  | "whatsapp_business@1" => some .whatsapp_business
  | "email_smtp@1" => some .email_smtp
  | "slack@1" => some .slack
  | _ => none

/-- The policy exists and is not deleted. -/
def policyExists (tenant_id policy_id : String) (policies : List EscalationPolicy) : Bool :=
  policies.any fun p => p.policy_id = policy_id ∧ p.tenant_id = tenant_id ∧ p.deleted_at = none

/-- `alerting.g23_create_policy`; the id is the one drawn by the column's default. -/
def g23_create_policy (policy_id tenant_id name : String) (policies : List EscalationPolicy) :
    Except G23Error (List EscalationPolicy) := do
  require (!name.toList.all (· = ' ')) .empty_name
  insertUnless (fun p => p.policy_id = policy_id) .unique_violation ⟨policy_id, tenant_id, name, none⟩ policies

/-- `alerting.g23_delete_policy`: its steps stay. -/
def g23_delete_policy (now : ℕ) (tenant_id policy_id : String) (policies : List EscalationPolicy) :
    Except G23Error (List EscalationPolicy) := do
  require (policyExists tenant_id policy_id policies) (.policy_not_found policy_id)
  return updateWhere (fun p => p.policy_id = policy_id ∧ p.tenant_id = tenant_id ∧ p.deleted_at = none)
    (fun p => { p with deleted_at := some now }) policies

/-- `alerting.g23_add_step`: any number from 1 on that the policy does not have yet. -/
def g23_add_step (policies : List EscalationPolicy) (tenant_id policy_id : String) (step_number delay_minutes : ℤ)
    (channel_class destination_ref payload_ref : String) (db : EscalationDb) : Except G23Error EscalationDb := do
  require (policyExists tenant_id policy_id policies) (.policy_not_found policy_id)
  require (decide (0 < delay_minutes)) .invalid_delay
  match ChannelClass.ofText channel_class with
  | none => .error (.invalid_channel channel_class)
  | some channel =>
    require (decide (1 ≤ step_number)) .check_violation
    let steps ← insertUnless
      (fun es => es.policy_id = policy_id ∧ es.tenant_id = tenant_id ∧ es.step_number = step_number.toNat)
      .unique_violation
      ⟨policy_id, tenant_id, step_number.toNat, delay_minutes.toNat, channel, destination_ref, payload_ref⟩ db.steps
    return { db with steps }

/-- The row is the step of the policy with the number. -/
def isStep (tenant_id policy_id : String) (step_number : ℤ) (es : EscalationStep) : Bool :=
  es.policy_id = policy_id ∧ es.tenant_id = tenant_id ∧ (es.step_number : ℤ) = step_number

/-- `alerting.g23_delete_step`: whatever escalation waits for it. -/
def g23_delete_step (tenant_id policy_id : String) (step_number : ℤ) (db : EscalationDb) :
    Except G23Error EscalationDb := do
  require (db.steps.any (isStep tenant_id policy_id step_number)) (.step_not_found policy_id step_number)
  return { db with steps := db.steps.filter fun es => !isStep tenant_id policy_id step_number es }

/-- The row is the escalation of the alert. -/
def isEscalation (tenant_id alert_id : String) (ae : AlertEscalation) : Bool :=
  ae.alert_id = alert_id ∧ ae.tenant_id = tenant_id

/-- `INSERT … ON CONFLICT (alert_id, tenant_id) DO UPDATE`: an old escalation starts again. -/
def upsertEscalation (now : ℕ) (tenant_id alert_id policy_id : String) (rows : List AlertEscalation) :
    List AlertEscalation :=
  if rows.any (isEscalation tenant_id alert_id) then
    updateWhere (isEscalation tenant_id alert_id)
      (fun ae => { ae with policy_id, current_step := 1, armed_at := now, last_fired_at := none, completed_at := none })
      rows
  else rows ++ [⟨alert_id, tenant_id, policy_id, 1, now, none, none⟩]

/-- `alerting.g23_arm_alert`. -/
def g23_arm_alert (policies : List EscalationPolicy) (now : ℕ) (tenant_id alert_id policy_id : String)
    (db : EscalationDb) : Except G23Error EscalationDb := do
  require (db.alerts.any fun a => a.alert_id = alert_id ∧ a.tenant_id = tenant_id ∧ a.lifecycle_state = .active)
    (.alert_not_active alert_id)
  require (policyExists tenant_id policy_id policies) (.policy_not_found policy_id)
  return { db with escalations := upsertEscalation now tenant_id alert_id policy_id db.escalations }

/-- `alerting.g23_disarm_alert`. -/
def g23_disarm_alert (now : ℕ) (tenant_id alert_id : String) (db : EscalationDb) : Except G23Error EscalationDb := do
  let isOpen := fun (ae : AlertEscalation) => decide (isEscalation tenant_id alert_id ae ∧ ae.completed_at = none)
  require (db.escalations.any isOpen) (.escalation_not_found alert_id)
  return { db with escalations := updateWhere isOpen (fun ae => { ae with completed_at := some now }) db.escalations }

/-! ### The engine -/

/-- A due row that a worker has read. -/
structure Listed where
  tenant_id : String
  row : DueRow
  /-- The arming of the alert at that time. -/
  arming : ℕ
  deriving DecidableEq

/-- A row that a worker has fired. -/
structure Firing where
  tenant_id : String
  row : DueRow
  /-- The arming under which the row was read. -/
  arming : ℕ
  /-- The arming under which it is fired. -/
  current : ℕ
  /-- How `_fire_step` ended. -/
  fire : Fire
  deriving DecidableEq

/-- Its message left, over a channel that the worker serves itself. -/
def Firing.sent (f : Firing) : Bool := f.fire ≠ .snoozed ∧ messageLeft .none f.row

/-- Its dispatch is in the outbox. -/
def Firing.enqueued (f : Firing) : Bool := f.fire = .fired ∧ ¬f.row.channel_class.direct

/-- The database, the rows in the hands of each worker, and the ghosts. -/
structure Engine where
  db : EscalationDb
  policies : List EscalationPolicy
  due : ℕ → List Listed
  /-- The ids still to be drawn. -/
  tokens : ℕ
  /-- By tenant and alert. -/
  armings : String × String → ℕ
  log : List Firing

/-- A step of a worker, of the API, or of the sessions of other programs. -/
inductive EngineAction where
  /-- `_due_escalations` of worker `w`. -/
  | due (w : ℕ) (tenant_id : String) (clock : ℕ)
  /-- `_fire_step` for the next row of worker `w`. -/
  | fire (w : ℕ) (clock : ℕ)
  | create_policy (policy_id tenant_id name : String)
  | delete_policy (tenant_id policy_id : String) (clock : ℕ)
  | add_step (tenant_id policy_id : String) (step_number delay_minutes : ℤ)
      (channel_class destination_ref payload_ref : String)
  | delete_step (tenant_id policy_id : String) (step_number : ℤ)
  | arm (tenant_id alert_id policy_id : String) (clock : ℕ)
  | disarm (tenant_id alert_id : String) (clock : ℕ)
  /-- Alerts, snoozes and intents of other writers; the intents get new ids. -/
  | others (alerts : List AlertLifecycle) (snoozes : List AlertSnooze) (intents : List (ℕ → StepIntent))

/-- `_fire_step` on an idle connection, and a commit. -/
def fireCommitted (clock : ℕ) (tenant_id : String) (r : DueRow) (token : ℕ) (db : EscalationDb) :
    EscalationDb × Fire :=
  let (session, fire) := _fire_step (cleanPass clock) tenant_id r token (.idle db)
  (session.commit.committed, fire)

/-- Worker `w` fires the row `x` and goes on with `rest`. -/
def Engine.fireRow (s : Engine) (w clock : ℕ) (x : Listed) (rest : List Listed) : Engine :=
  let (db, fire) := fireCommitted clock x.tenant_id x.row s.tokens s.db
  { s with
    db, due := Function.update s.due w rest, tokens := s.tokens + 2
    log := s.log ++ [⟨x.tenant_id, x.row, x.arming, s.armings (x.tenant_id, x.row.alert_id), fire⟩] }

/-- The tables after a call: as they were if it raised. -/
def afterCall {α : Type} (old : α) : Except G23Error α → α
  | .error _ => old
  | .ok new => new

/-- The effect of a step. -/
def Engine.step (s : Engine) : EngineAction → Engine
  | .due w t clock =>
    let rows := (dueRows clock t s.db).map fun r => (⟨t, r, s.armings (t, r.alert_id)⟩ : Listed)
    { s with due := Function.update s.due w rows }
  | .fire w clock =>
    match s.due w with
    | [] => s
    | x :: rest => s.fireRow w clock x rest
  | .create_policy policy_id t name =>
    { s with policies := afterCall s.policies (g23_create_policy policy_id t name s.policies) }
  | .delete_policy t policy_id clock =>
    { s with policies := afterCall s.policies (g23_delete_policy clock t policy_id s.policies) }
  | .add_step t policy_id n delay channel dest payload =>
    { s with db := afterCall s.db (g23_add_step s.policies t policy_id n delay channel dest payload s.db) }
  | .delete_step t policy_id n => { s with db := afterCall s.db (g23_delete_step t policy_id n s.db) }
  | .arm t a policy_id clock =>
    match g23_arm_alert s.policies clock t a policy_id s.db with
    | .error _ => s
    | .ok db => { s with db, armings := Function.update s.armings (t, a) (s.armings (t, a) + 1) }
  | .disarm t a clock => { s with db := afterCall s.db (g23_disarm_alert clock t a s.db) }
  | .others alerts snoozes intents =>
    { s with
      db := addIntents s.tokens intents { s.db with alerts, snoozes }
      tokens := s.tokens + 2 * intents.length }

/-- An engine without rows. -/
def Engine.init : Engine := ⟨.empty, [], fun _ => [], 0, fun _ => 0, []⟩

/-! ### The tables that a firing leaves -/

/-- The tables after a firing that commits. -/
def firedTables (clock : ℕ) (tenant_id : String) (r : DueRow) (token : ℕ) (db : EscalationDb) : EscalationDb :=
  let db := insertIntent tenant_id token r db
  let db := if r.channel_class.direct then db else insertDispatch tenant_id (token + 1) token db
  (g23_advance_step clock tenant_id r.alert_id r.current_step db).getD db

variable {clock : ℕ} {t : String} {db : EscalationDb} {r : DueRow}

theorem completes_clean :
    Completes (cleanPass clock) t db r ↔
      (r.channel_class.direct = true ∨ intentTaken t r db = false) ∧ (openEscalation t r.alert_id db).isSome := by
  cases hdirect : r.channel_class.direct <;> simp [Completes, cleanPass, StepFaults.none, hdirect]

theorem advance_view {p : EscalationPass} {s : Session EscalationDb} (h : (advance p t r s).2 = false) :
    (advance p t r s).1.view = (g23_advance_step (s.now p.clock) t r.alert_id r.current_step s.view).getD s.view := by
  simp only [advance] at h ⊢
  split_ifs at h ⊢
  cases hadvance : g23_advance_step (s.now p.clock) t r.alert_id r.current_step s.view with
  | none => simp [hadvance] at h
  | some db => simp [hadvance]

variable {token : ℕ}

/-- The block of a firing on an idle connection, if it does not raise. -/
theorem fireBlock_view (h : (fireBlock (cleanPass clock) t r token ((Session.idle db).start clock)).2 = false) :
    (fireBlock (cleanPass clock) t r token ((Session.idle db).start clock)).1.view = firedTables clock t r token db := by
  have hview : ((Session.idle db).start clock).view = db := rfl
  have hnow : ((Session.idle db).start clock).now clock = clock := rfl
  cases hdirect : r.channel_class.direct with
  | true =>
    simp only [fireBlock, hdirect, if_true] at h ⊢
    split_ifs at h ⊢ with hintent hsend
    rw [advance_view h, Session.exec_view, hview]
    simp only [firedTables, hdirect, if_true]
    rfl
  | false =>
    simp only [fireBlock, hdirect, Bool.false_eq_true, if_false] at h ⊢
    split_ifs at h ⊢ with hintent houtbox
    rw [advance_view h, Session.exec_view, Session.exec_view, hview]
    simp only [firedTables, hdirect, Bool.false_eq_true, if_false]
    rfl

/-- A step that fires on an idle connection ends with the session of its block. -/
theorem fire_step_fired {p : EscalationPass} (h : (_fire_step p t r token (.idle db)).2 = .fired) :
    (fireBlock p t r token ((Session.idle db).start p.clock)).2 = false ∧
      (fireBlock p t r token ((Session.idle db).start p.clock)).1.failed = false ∧
      (_fire_step p t r token (.idle db)).1 = (fireBlock p t r token ((Session.idle db).start p.clock)).1 := by
  have hblock : ((Session.idle db).start p.clock).transaction p.clock (fireBlock p t r token) =
      if (fireBlock p t r token ((Session.idle db).start p.clock)).2 then
        ((fireBlock p t r token ((Session.idle db).start p.clock)).1.restore ⟨[], false, p.clock⟩, true)
      else ((fireBlock p t r token ((Session.idle db).start p.clock)).1,
        (fireBlock p t r token ((Session.idle db).start p.clock)).1.failed) := rfl
  simp only [_fire_step, hblock] at h ⊢
  cases hraised : (fireBlock p t r token ((Session.idle db).start p.clock)).2 with
  | true =>
    simp only [hraised, if_true] at h
    split_ifs at h
  | false =>
    simp only [hraised, Bool.false_eq_true, if_false] at h ⊢
    split_ifs at h ⊢ with _ _ hfailed
    exact ⟨trivial, by simpa using hfailed, rfl⟩

/-- What a firing on an idle connection commits. -/
theorem fireCommitted_eq (clock : ℕ) (hfresh : ∀ i ∈ db.intents, i.notification_intent_id < token) :
    (fireCommitted clock t r token db).2 =
        (if g21_is_snoozed clock t r.alert_id db.snoozes then .snoozed
          else if Completes (cleanPass clock) t db r then .fired else .failed) ∧
      (fireCommitted clock t r token db).1 =
        if (fireCommitted clock t r token db).2 = .fired then firedTables clock t r token db else db := by
  obtain ⟨hend, hundone⟩ := fire_step_idle (p := cleanPass clock) (t := t) (r := r) hfresh rfl
  refine ⟨hend, ?_⟩
  by_cases hfired : (fireCommitted clock t r token db).2 = .fired
  · rw [if_pos hfired]
    obtain ⟨hraised, hfailed, hsession⟩ := fire_step_fired (p := cleanPass clock) hfired
    show (_fire_step (cleanPass clock) t r token (.idle db)).1.commit.committed = firedTables clock t r token db
    rw [hsession, Session.commit_committed hfailed]
    exact fireBlock_view hraised
  · rw [if_neg hfired]
    show (_fire_step (cleanPass clock) t r token (.idle db)).1.commit.committed = db
    rw [hundone hfired]
    rfl

/-! ### The escalation of an alert under a step -/

/-- The escalation of the alert. -/
def escalationOf (tenant_id alert_id : String) (db : EscalationDb) : Option AlertEscalation :=
  db.escalations.find? (isEscalation tenant_id alert_id)

/-- `alert_escalation_alert_uniq`. -/
def EscalationKeys (db : EscalationDb) : Prop := (db.escalations.map fun ae => (ae.tenant_id, ae.alert_id)).Nodup

/-- The policy of the escalation has a step with the number. -/
def hasStep (steps : List EscalationStep) (ae : AlertEscalation) (n : ℕ) : Bool :=
  steps.any fun es => es.policy_id = ae.policy_id ∧ es.tenant_id = ae.tenant_id ∧ es.step_number = n

/-- What `g23_advance_step` sets in a row, when there is a next step and when there is none. -/
def setAdvanced (clock fired_step : ℕ) (more : Bool) (ae : AlertEscalation) : AlertEscalation :=
  if more then { ae with current_step := fired_step + 1, last_fired_at := some clock }
  else { ae with last_fired_at := some clock, completed_at := some clock }

/-- What `g23_advance_step` makes of an escalation. -/
def advanced (clock fired_step : ℕ) (steps : List EscalationStep) (ae : AlertEscalation) : AlertEscalation :=
  setAdvanced clock fired_step (hasStep steps ae (fired_step + 1)) ae

theorem setAdvanced_key (clock fired_step : ℕ) (more : Bool) (ae : AlertEscalation) :
    (setAdvanced clock fired_step more ae).alert_id = ae.alert_id ∧
      (setAdvanced clock fired_step more ae).tenant_id = ae.tenant_id := by
  unfold setAdvanced
  split_ifs <;> exact ⟨rfl, rfl⟩

variable {a : String}

theorem isEscalation_iff {ae : AlertEscalation} :
    isEscalation t a ae = true ↔ ae.alert_id = a ∧ ae.tenant_id = t := by
  simp [isEscalation]

variable {e : AlertEscalation}

theorem escalationOf_some (h : escalationOf t a db = some e) :
    e ∈ db.escalations ∧ e.alert_id = a ∧ e.tenant_id = t :=
  ⟨List.mem_of_find?_eq_some h, isEscalation_iff.1 (List.find?_some h)⟩

theorem escalationOf_of_mem (hk : EscalationKeys db) (he : e ∈ db.escalations) :
    escalationOf e.tenant_id e.alert_id db = some e := by
  rw [escalationOf, find?_of_key hk he fun r hr => ?_, if_pos (isEscalation_iff.2 ⟨rfl, rfl⟩)]
  obtain ⟨h₁, h₂⟩ := isEscalation_iff.1 hr
  rw [h₁, h₂]

/-- An escalation that is not completed is the one of its alert. -/
theorem openEscalation_eq_some (hk : EscalationKeys db) :
    openEscalation t a db = some e ↔ escalationOf t a db = some e ∧ e.completed_at = none := by
  constructor
  · intro h
    have hpred : (e.alert_id = a ∧ e.tenant_id = t) ∧ e.completed_at = none := by
      simpa [and_assoc] using List.find?_some h
    obtain ⟨⟨rfl, rfl⟩, hopen⟩ := hpred
    exact ⟨escalationOf_of_mem hk (List.mem_of_find?_eq_some h), hopen⟩
  · rintro ⟨h, hopen⟩
    obtain ⟨he, rfl, rfl⟩ := escalationOf_some h
    rw [openEscalation, find?_of_key hk he fun r hr => ?_, if_pos (by simp [hopen])]
    have hr : r.alert_id = e.alert_id ∧ r.tenant_id = e.tenant_id ∧ r.completed_at = none := by simpa using hr
    rw [hr.1, hr.2.1]

variable {p : AlertEscalation → Bool} {f : AlertEscalation → AlertEscalation}

/-- An update that keeps the keys changes the escalation of an alert if it selects it. -/
theorem escalationOf_update (hf : ∀ ae, (f ae).alert_id = ae.alert_id ∧ (f ae).tenant_id = ae.tenant_id) :
    escalationOf t a { db with escalations := updateWhere p f db.escalations } =
      (escalationOf t a db).map fun ae => if p ae then f ae else ae :=
  find?_updateWhere (fun ae _ => by simp [isEscalation, (hf ae).1, (hf ae).2]) db.escalations

theorem EscalationKeys.update (hk : EscalationKeys db)
    (hf : ∀ ae, (f ae).alert_id = ae.alert_id ∧ (f ae).tenant_id = ae.tenant_id) :
    EscalationKeys { db with escalations := updateWhere p f db.escalations } := by
  unfold EscalationKeys
  rw [map_updateWhere fun ae => by rw [(hf ae).1, (hf ae).2]]
  exact hk

/-- An escalation of another alert is not selected by a query for this one. -/
theorem escalationOf_update_other {t' a' : String} (hne : (t', a') ≠ (t, a))
    (hf : ∀ ae, (f ae).alert_id = ae.alert_id ∧ (f ae).tenant_id = ae.tenant_id)
    (hp : ∀ ae, p ae = true → isEscalation t a ae = true) :
    escalationOf t' a' { db with escalations := updateWhere p f db.escalations } = escalationOf t' a' db := by
  rw [escalationOf_update hf]
  cases he : escalationOf t' a' db with
  | none => rfl
  | some ae =>
    obtain ⟨-, rfl, rfl⟩ := escalationOf_some he
    have hnot : p ae = false := by
      by_contra hsel
      obtain ⟨rfl, rfl⟩ := isEscalation_iff.1 (hp ae (by simpa using hsel))
      exact hne rfl
    simp [hnot]

/-! #### A firing -/

theorem firedTables_tables (clock : ℕ) (t : String) (r : DueRow) (token : ℕ) (db : EscalationDb) :
    (firedTables clock t r token db).steps = db.steps ∧ (firedTables clock t r token db).alerts = db.alerts ∧
      (firedTables clock t r token db).snoozes = db.snoozes := by
  have hadvance : ∀ db', ((g23_advance_step clock t r.alert_id r.current_step db').getD db').steps = db'.steps ∧
      ((g23_advance_step clock t r.alert_id r.current_step db').getD db').alerts = db'.alerts ∧
      ((g23_advance_step clock t r.alert_id r.current_step db').getD db').snoozes = db'.snoozes := by
    intro db'
    unfold g23_advance_step
    cases openEscalation t r.alert_id db' <;> exact ⟨rfl, rfl, rfl⟩
  have hintent : (insertIntent t token r db).steps = db.steps ∧ (insertIntent t token r db).alerts = db.alerts ∧
      (insertIntent t token r db).snoozes = db.snoozes := by
    unfold insertIntent
    split_ifs <;> exact ⟨rfl, rfl, rfl⟩
  simp only [firedTables]
  rw [(hadvance _).1, (hadvance _).2.1, (hadvance _).2.2]
  split_ifs <;> exact hintent

/-- A firing that commits advances the escalation of its alert, by the number that the row has. -/
theorem firedTables_escalations (h : openEscalation t r.alert_id db = some e) (ht : e.tenant_id = t) :
    (firedTables clock t r token db).escalations =
      updateWhere (isEscalation t r.alert_id)
        (setAdvanced clock r.current_step (hasStep db.steps e (r.current_step + 1))) db.escalations := by
  have hintent : (insertIntent t token r db).escalations = db.escalations ∧
      (insertIntent t token r db).steps = db.steps := by
    unfold insertIntent
    split_ifs <;> exact ⟨rfl, rfl⟩
  have hadvance : ∀ db', db'.escalations = db.escalations → db'.steps = db.steps →
      ((g23_advance_step clock t r.alert_id r.current_step db').getD db').escalations =
        updateWhere (isEscalation t r.alert_id)
          (setAdvanced clock r.current_step (hasStep db.steps e (r.current_step + 1))) db.escalations := by
    intro db' he hs
    have hopen : openEscalation t r.alert_id db' = some e := by
      rw [← h]
      simp only [openEscalation, he]
    subst ht
    simp only [g23_advance_step, hopen, ← he, ← hs]
    rfl
  simp only [firedTables]
  split
  · exact hadvance _ hintent.1 hintent.2
  · exact hadvance _ hintent.1 hintent.2

/-- The escalation of an alert after a firing that commits. -/
theorem firedTables_escalationOf (hk : EscalationKeys db) (h : openEscalation t r.alert_id db = some e)
    (t' a' : String) :
    escalationOf t' a' (firedTables clock t r token db) =
      if (t, r.alert_id) = (t', a') then some (advanced clock r.current_step db.steps e) else escalationOf t' a' db := by
  obtain ⟨he, -⟩ := (openEscalation_eq_some hk).1 h
  obtain ⟨-, halert, htenant⟩ := escalationOf_some he
  have hescalations : (firedTables clock t r token db).escalations = _ := firedTables_escalations h htenant
  have hfind : escalationOf t' a' (firedTables clock t r token db) = escalationOf t' a' { db with
      escalations := updateWhere (isEscalation t r.alert_id)
        (setAdvanced clock r.current_step (hasStep db.steps e (r.current_step + 1))) db.escalations } := by
    simp only [escalationOf, hescalations]
  rw [hfind]
  split_ifs with hkey
  · obtain ⟨rfl, rfl⟩ := Prod.mk.inj hkey
    rw [escalationOf_update (setAdvanced_key _ _ _), he, Option.map_some, if_pos (isEscalation_iff.2 ⟨halert, htenant⟩)]
    rfl
  · exact escalationOf_update_other (fun heq => hkey heq.symm) (setAdvanced_key _ _ _) fun _ hp => hp

/-! #### The calls -/

/-- The row that `g23_arm_alert` leaves. -/
def armedRow (clock : ℕ) (t a policy_id : String) : AlertEscalation := ⟨a, t, policy_id, 1, clock, none, none⟩

theorem upsert_escalationOf (clock : ℕ) (t a policy_id : String) (db : EscalationDb) (t' a' : String) :
    escalationOf t' a' { db with escalations := upsertEscalation clock t a policy_id db.escalations } =
      if (t, a) = (t', a') then some (armedRow clock t a policy_id) else escalationOf t' a' db := by
  unfold upsertEscalation
  split_ifs with hany hkey hkey
  · obtain ⟨rfl, rfl⟩ := Prod.mk.inj hkey
    rw [escalationOf_update (by exact fun _ => ⟨rfl, rfl⟩)]
    obtain ⟨ae, hae⟩ := Option.isSome_iff_exists.1 (List.find?_isSome.2 (List.any_eq_true.1 hany))
    have hfound : escalationOf t a db = some ae := hae
    obtain ⟨-, halert, htenant⟩ := escalationOf_some hfound
    rw [hfound, Option.map_some, if_pos (isEscalation_iff.2 ⟨halert, htenant⟩), armedRow, halert, htenant]
  · exact escalationOf_update_other (fun heq => hkey heq.symm) (by exact fun _ => ⟨rfl, rfl⟩) fun _ hp => hp
  · obtain ⟨rfl, rfl⟩ := Prod.mk.inj hkey
    have hnone : db.escalations.find? (isEscalation t a) = none :=
      List.find?_eq_none.2 fun ae hae => by
        simpa using fun h => hany (List.any_eq_true.2 ⟨ae, hae, h⟩)
    rw [escalationOf, List.find?_append, hnone, Option.none_or, List.find?_singleton]
    exact if_pos (isEscalation_iff.2 ⟨rfl, rfl⟩)
  · rw [escalationOf, List.find?_append, List.find?_singleton, if_neg, Option.or_none]
    · rfl
    · intro h
      obtain ⟨rfl, rfl⟩ := isEscalation_iff.1 h
      exact hkey rfl

theorem EscalationKeys.upsert (hk : EscalationKeys db) (clock : ℕ) (t a policy_id : String) :
    EscalationKeys { db with escalations := upsertEscalation clock t a policy_id db.escalations } := by
  unfold upsertEscalation
  split_ifs with hany
  · exact hk.update fun _ => ⟨rfl, rfl⟩
  · unfold EscalationKeys
    rw [List.map_append, List.map_singleton, List.nodup_append]
    refine ⟨hk, List.nodup_singleton _, fun key hkey key' hkey' heq => hany ?_⟩
    obtain ⟨ae, hae, rfl⟩ := List.mem_map.1 hkey
    rw [List.mem_singleton.1 hkey'] at heq
    obtain ⟨htenant, halert⟩ := Prod.mk.inj heq
    exact List.any_eq_true.2 ⟨ae, hae, isEscalation_iff.2 ⟨halert, htenant⟩⟩

variable {policy_id : String} {db' : EscalationDb}

theorem g23_arm_alert_ok {policies : List EscalationPolicy}
    (h : g23_arm_alert policies clock t a policy_id db = .ok db') :
    policyExists t policy_id policies = true ∧
      db' = { db with escalations := upsertEscalation clock t a policy_id db.escalations } := by
  obtain ⟨_, -, h⟩ := bind_ok_iff.1 h
  obtain ⟨_, hpolicy, h⟩ := bind_ok_iff.1 h
  exact ⟨require_ok_iff.1 hpolicy, (Except.ok.inj h).symm⟩

theorem g23_disarm_alert_ok (h : g23_disarm_alert clock t a db = .ok db') :
    db' = { db with
      escalations := updateWhere (fun ae => isEscalation t a ae ∧ ae.completed_at = none)
        (fun ae => { ae with completed_at := some clock }) db.escalations } := by
  obtain ⟨_, -, h⟩ := bind_ok_iff.1 h
  exact (Except.ok.inj h).symm

theorem g23_add_step_ok {policies : List EscalationPolicy} {channel dest payload : String} {n delay : ℤ}
    (h : g23_add_step policies t policy_id n delay channel dest payload db = .ok db') :
    ∃ es : EscalationStep, es.policy_id = policy_id ∧ es.tenant_id = t ∧ 1 ≤ es.step_number ∧
      (∀ es' ∈ db.steps, ¬(es'.policy_id = policy_id ∧ es'.tenant_id = t ∧ es'.step_number = es.step_number)) ∧
      db' = { db with steps := db.steps ++ [es] } := by
  obtain ⟨_, -, h⟩ := bind_ok_iff.1 h
  obtain ⟨_, -, h⟩ := bind_ok_iff.1 h
  cases hchannel : ChannelClass.ofText channel with
  | none => simp [hchannel] at h
  | some c =>
    simp only [hchannel] at h
    obtain ⟨_, hnumber, h⟩ := bind_ok_iff.1 h
    obtain ⟨steps, hsteps, h⟩ := bind_ok_iff.1 h
    obtain ⟨hnew, rfl⟩ := insertUnless_ok_iff.1 hsteps
    have hnumber : 1 ≤ n := of_decide_eq_true (require_ok_iff.1 hnumber)
    refine ⟨⟨policy_id, t, n.toNat, delay.toNat, c, dest, payload⟩, rfl, rfl, ?_, ?_, (Except.ok.inj h).symm⟩
    · show 1 ≤ n.toNat
      omega
    · intro es' hes' hclash
      simpa [hclash] using hnew es' hes'

theorem g23_delete_step_ok {n : ℤ} (h : g23_delete_step t policy_id n db = .ok db') :
    db' = { db with steps := db.steps.filter fun es => !isStep t policy_id n es } := by
  obtain ⟨_, -, h⟩ := bind_ok_iff.1 h
  exact (Except.ok.inj h).symm

theorem addIntents_tables (tokens : ℕ) (intents : List (ℕ → StepIntent)) (db : EscalationDb) :
    (addIntents tokens intents db).escalations = db.escalations ∧ (addIntents tokens intents db).steps = db.steps := by
  induction intents generalizing tokens db with
  | nil => exact ⟨rfl, rfl⟩
  | cons i is ih => exact ih _ _

/-! ### Every reachable state -/

/-- `escalation_step_policy_step`. -/
def StepKeys (db : EscalationDb) : Prop := (db.steps.map fun es => (es.policy_id, es.tenant_id, es.step_number)).Nodup

/-- What the constraints of the tables say of every state. -/
structure Engine.Sound (s : Engine) : Prop where
  escalations : EscalationKeys s.db
  steps : StepKeys s.db
  /-- The check `step_number >= 1`. -/
  numbered : ∀ es ∈ s.db.steps, 1 ≤ es.step_number
  /-- The ids of the intents are drawn. -/
  drawn : ∀ i ∈ s.db.intents, i.notification_intent_id < s.tokens

theorem Engine.Sound.init : Engine.init.Sound :=
  ⟨List.nodup_nil, List.nodup_nil, fun _ h => absurd h List.not_mem_nil, fun _ h => absurd h List.not_mem_nil⟩

theorem firedTables_intents : (firedTables clock t r token db).intents = (insertIntent t token r db).intents := by
  have hadvance : ∀ db', ((g23_advance_step clock t r.alert_id r.current_step db').getD db').intents = db'.intents := by
    intro db'
    unfold g23_advance_step
    cases openEscalation t r.alert_id db' <;> rfl
  simp only [firedTables]
  rw [hadvance]
  split_ifs <;> rfl

theorem mem_insertIntent {i : StepIntent} (h : i ∈ (insertIntent t token r db).intents) :
    i ∈ db.intents ∨ i = stepIntent t token r := by
  unfold insertIntent at h
  split_ifs at h
  · exact Or.inl h
  · rcases List.mem_append.1 h with h | h
    · exact Or.inl h
    · exact Or.inr (List.mem_singleton.1 h)

/-- A firing advances the open escalation of its alert, or leaves the tables as they are. -/
theorem fireCommitted_cases {s : Engine} (hs : s.Sound) (clock : ℕ) (x : Listed) :
    ((fireCommitted clock x.tenant_id x.row s.tokens s.db).2 = .fired ∧
        (fireCommitted clock x.tenant_id x.row s.tokens s.db).1 =
          firedTables clock x.tenant_id x.row s.tokens s.db ∧
        ∃ e, openEscalation x.tenant_id x.row.alert_id s.db = some e) ∨
      ((fireCommitted clock x.tenant_id x.row s.tokens s.db).2 ≠ .fired ∧
        (fireCommitted clock x.tenant_id x.row s.tokens s.db).1 = s.db) := by
  obtain ⟨hend, htables⟩ := fireCommitted_eq clock (t := x.tenant_id) (r := x.row) hs.drawn
  by_cases hfired : (fireCommitted clock x.tenant_id x.row s.tokens s.db).2 = .fired
  · rw [if_pos hfired] at htables
    have hcompletes : Completes (cleanPass clock) x.tenant_id s.db x.row := by
      rw [hend] at hfired
      split_ifs at hfired with _ h
      exact h
    exact Or.inl ⟨hfired, htables, Option.isSome_iff_exists.1 (completes_clean.1 hcompletes).2⟩
  · rw [if_neg hfired] at htables
    exact Or.inr ⟨hfired, htables⟩

/-- A firing keeps the constraints. -/
theorem Engine.Sound.fireRow {s : Engine} (hs : s.Sound) (w clock : ℕ) (x : Listed) (rest : List Listed) :
    (s.fireRow w clock x rest).Sound := by
  rcases fireCommitted_cases hs clock x with ⟨-, hdb, e, hopen⟩ | ⟨-, hdb⟩
  · obtain ⟨-, -, htenant⟩ := escalationOf_some ((openEscalation_eq_some hs.escalations).1 hopen).1
    have hdb : (s.fireRow w clock x rest).db = firedTables clock x.tenant_id x.row s.tokens s.db := hdb
    have hsteps := (firedTables_tables clock x.tenant_id x.row s.tokens s.db).1
    refine ⟨?_, ?_, ?_, ?_⟩
    · rw [hdb, EscalationKeys, firedTables_escalations hopen htenant]
      exact hs.escalations.update (setAdvanced_key _ _ _)
    · rw [hdb, StepKeys, hsteps]
      exact hs.steps
    · rw [hdb, hsteps]
      exact hs.numbered
    · rw [hdb, firedTables_intents]
      intro i hi
      show i.notification_intent_id < s.tokens + 2
      rcases mem_insertIntent hi with hi | rfl
      · exact (hs.drawn i hi).trans (by omega)
      · show s.tokens < s.tokens + 2
        omega
  · have hdb : (s.fireRow w clock x rest).db = s.db := hdb
    refine ⟨?_, ?_, ?_, ?_⟩
    · rw [hdb]
      exact hs.escalations
    · rw [hdb]
      exact hs.steps
    · rw [hdb]
      exact hs.numbered
    · rw [hdb]
      exact fun i hi => (hs.drawn i hi).trans (show s.tokens < s.tokens + 2 by omega)

/-- **Every step keeps the constraints.** -/
theorem Engine.Sound.step {s : Engine} (hs : s.Sound) (act : EngineAction) : (s.step act).Sound := by
  cases act with
  | due w t clock => exact ⟨hs.1, hs.2, hs.3, hs.4⟩
  | fire w clock =>
    simp only [Engine.step]
    cases hdue : s.due w with
    | nil => exact hs
    | cons x rest => exact hs.fireRow w clock x rest
  | create_policy policy_id t name => exact ⟨hs.1, hs.2, hs.3, hs.4⟩
  | delete_policy t policy_id clock => exact ⟨hs.1, hs.2, hs.3, hs.4⟩
  | add_step t policy_id n delay channel dest payload =>
    simp only [Engine.step]
    cases hcall : g23_add_step s.policies t policy_id n delay channel dest payload s.db with
    | error e => exact ⟨hs.1, hs.2, hs.3, hs.4⟩
    | ok db =>
      obtain ⟨es, hpolicy, htenant, hnumber, hnew, rfl⟩ := g23_add_step_ok hcall
      refine ⟨hs.1, ?_, ?_, hs.4⟩
      · show ((s.db.steps ++ [es]).map _).Nodup
        rw [List.map_append, List.map_singleton, List.nodup_append]
        refine ⟨hs.steps, List.nodup_singleton _, fun key hkey key' hkey' heq => ?_⟩
        obtain ⟨es', hes', rfl⟩ := List.mem_map.1 hkey
        rw [List.mem_singleton.1 hkey'] at heq
        simp only [Prod.mk.injEq] at heq
        exact hnew es' hes' ⟨heq.1.trans hpolicy, heq.2.1.trans htenant, heq.2.2⟩
      · intro es' hes'
        rcases List.mem_append.1 hes' with hes' | hes'
        · exact hs.numbered es' hes'
        · rw [List.mem_singleton.1 hes']
          exact hnumber
  | delete_step t policy_id n =>
    simp only [Engine.step]
    cases hcall : g23_delete_step t policy_id n s.db with
    | error e => exact ⟨hs.1, hs.2, hs.3, hs.4⟩
    | ok db =>
      obtain rfl := g23_delete_step_ok hcall
      refine ⟨hs.1, ?_, fun es hes => hs.numbered es (List.mem_filter.1 hes).1, hs.4⟩
      exact hs.steps.sublist (List.filter_sublist.map _)
  | arm t a policy_id clock =>
    simp only [Engine.step]
    cases hcall : g23_arm_alert s.policies clock t a policy_id s.db with
    | error e => exact ⟨hs.1, hs.2, hs.3, hs.4⟩
    | ok db =>
      obtain ⟨-, rfl⟩ := g23_arm_alert_ok hcall
      exact ⟨hs.escalations.upsert clock t a policy_id, hs.2, hs.3, hs.4⟩
  | disarm t a clock =>
    simp only [Engine.step]
    cases hcall : g23_disarm_alert clock t a s.db with
    | error e => exact ⟨hs.1, hs.2, hs.3, hs.4⟩
    | ok db =>
      obtain rfl := g23_disarm_alert_ok hcall
      exact ⟨hs.escalations.update (by exact fun _ => ⟨rfl, rfl⟩), hs.2, hs.3, hs.4⟩
  | others alerts snoozes intents =>
    obtain ⟨hescalations, hsteps⟩ := addIntents_tables s.tokens intents { s.db with alerts, snoozes }
    refine ⟨?_, ?_, ?_, addIntents_drawn intents s.tokens _ hs.drawn⟩
    · show EscalationKeys (addIntents s.tokens intents { s.db with alerts, snoozes })
      rw [EscalationKeys, hescalations]
      exact hs.escalations
    · show StepKeys (addIntents s.tokens intents { s.db with alerts, snoozes })
      rw [StepKeys, hsteps]
      exact hs.steps
    · show ∀ es ∈ (addIntents s.tokens intents { s.db with alerts, snoozes }).steps, 1 ≤ es.step_number
      rw [hsteps]
      exact hs.numbered

/-- What the escalations are after a firing. -/
theorem fireRow_cases {s : Engine} (hs : s.Sound) (w clock : ℕ) (x : Listed) (rest : List Listed) :
    ((fireCommitted clock x.tenant_id x.row s.tokens s.db).2 = .fired ∧
        ∃ e, escalationOf x.tenant_id x.row.alert_id s.db = some e ∧ e.completed_at = none ∧
          ∀ t a, escalationOf t a (s.fireRow w clock x rest).db =
            if (x.tenant_id, x.row.alert_id) = (t, a) then some (advanced clock x.row.current_step s.db.steps e)
            else escalationOf t a s.db) ∨
      ((fireCommitted clock x.tenant_id x.row s.tokens s.db).2 ≠ .fired ∧ (s.fireRow w clock x rest).db = s.db) := by
  rcases fireCommitted_cases hs clock x with ⟨hfired, hdb, e, hopen⟩ | hfailed
  · have hdb : (s.fireRow w clock x rest).db = firedTables clock x.tenant_id x.row s.tokens s.db := hdb
    obtain ⟨he, hnone⟩ := (openEscalation_eq_some hs.escalations).1 hopen
    refine Or.inl ⟨hfired, e, he, hnone, fun t a => ?_⟩
    rw [hdb]
    exact firedTables_escalationOf hs.escalations hopen t a
  · exact Or.inr hfailed

/-- What a step does to the escalation of an alert: the escalation and the count of armings after it. -/
inductive EscalationMoves (t a : String) (s : Engine) : EngineAction → Option AlertEscalation → ℕ → Prop
  /-- Nothing. -/
  | still {act : EngineAction} : EscalationMoves t a s act (escalationOf t a s.db) (s.armings (t, a))
  /-- It is armed. -/
  | armed {policy_id : String} {clock : ℕ} :
      EscalationMoves t a s (.arm t a policy_id clock) (some (armedRow clock t a policy_id)) (s.armings (t, a) + 1)
  /-- It is disarmed. -/
  | disarmed {clock : ℕ} {e : AlertEscalation} (he : escalationOf t a s.db = some e) (hopen : e.completed_at = none) :
      EscalationMoves t a s (.disarm t a clock) (some { e with completed_at := some clock }) (s.armings (t, a))
  /-- A step of it fires. -/
  | fired {w clock : ℕ} {x : Listed} {rest : List Listed} {e : AlertEscalation} (hdue : s.due w = x :: rest)
      (hkey : x.tenant_id = t ∧ x.row.alert_id = a)
      (hfired : (fireCommitted clock x.tenant_id x.row s.tokens s.db).2 = .fired)
      (he : escalationOf t a s.db = some e) (hopen : e.completed_at = none) :
      EscalationMoves t a s (.fire w clock) (some (advanced clock x.row.current_step s.db.steps e)) (s.armings (t, a))

theorem EscalationMoves.of_eq {s s' : Engine} {act : EngineAction} (h : s'.db.escalations = s.db.escalations)
    (harmings : s'.armings = s.armings) : EscalationMoves t a s act (escalationOf t a s'.db) (s'.armings (t, a)) := by
  rw [escalationOf, h, harmings]
  exact .still

/-- **Every step moves the escalation of an alert in one of these ways.** -/
theorem Engine.step_escalation {s : Engine} (hs : s.Sound) (t a : String) (act : EngineAction) :
    EscalationMoves t a s act (escalationOf t a (s.step act).db) ((s.step act).armings (t, a)) := by
  cases act with
  | due w t' clock => exact .still
  | create_policy policy_id t' name => exact .still
  | delete_policy t' policy_id clock => exact .still
  | fire w clock =>
    simp only [Engine.step]
    cases hdue : s.due w with
    | nil => exact .still
    | cons x rest =>
      rcases fireRow_cases hs w clock x rest with ⟨hfired, e, he, hopen, hafter⟩ | ⟨-, hdb⟩
      · simp only [hafter]
        split_ifs with hkey
        · obtain ⟨rfl, rfl⟩ := Prod.mk.inj hkey
          exact .fired hdue ⟨rfl, rfl⟩ hfired he hopen
        · exact .still
      · exact .of_eq (congrArg EscalationDb.escalations hdb) rfl
  | add_step t' policy_id n delay channel dest payload =>
    simp only [Engine.step]
    cases hcall : g23_add_step s.policies t' policy_id n delay channel dest payload s.db with
    | error e => exact .still
    | ok db =>
      obtain ⟨es, -, -, -, -, rfl⟩ := g23_add_step_ok hcall
      exact .of_eq rfl rfl
  | delete_step t' policy_id n =>
    simp only [Engine.step]
    cases hcall : g23_delete_step t' policy_id n s.db with
    | error e => exact .still
    | ok db =>
      obtain rfl := g23_delete_step_ok hcall
      exact .of_eq rfl rfl
  | arm t' a' policy_id clock =>
    simp only [Engine.step]
    cases hcall : g23_arm_alert s.policies clock t' a' policy_id s.db with
    | error e => exact .still
    | ok db =>
      obtain ⟨-, rfl⟩ := g23_arm_alert_ok hcall
      show EscalationMoves t a s _ (escalationOf t a _) (Function.update s.armings (t', a') (s.armings (t', a') + 1) (t, a))
      rw [upsert_escalationOf]
      by_cases hkey : (t', a') = (t, a)
      · obtain ⟨rfl, rfl⟩ := Prod.mk.inj hkey
        rw [if_pos rfl, Function.update_self]
        exact .armed
      · rw [if_neg hkey, Function.update_of_ne fun h => hkey h.symm]
        exact .still
  | disarm t' a' clock =>
    simp only [Engine.step]
    cases hcall : g23_disarm_alert clock t' a' s.db with
    | error e => exact .still
    | ok db =>
      obtain rfl := g23_disarm_alert_ok hcall
      by_cases hkey : (t', a') = (t, a)
      · obtain ⟨rfl, rfl⟩ := Prod.mk.inj hkey
        rw [afterCall, escalationOf_update (by exact fun _ => ⟨rfl, rfl⟩)]
        cases he : escalationOf t' a' s.db with
        | none =>
          rw [Option.map_none, ← he]
          exact .still
        | some e =>
          obtain ⟨-, halert, htenant⟩ := escalationOf_some he
          have hselects : isEscalation t' a' e = true := isEscalation_iff.2 ⟨halert, htenant⟩
          by_cases hopen : e.completed_at = none
          · rw [Option.map_some, if_pos (by simp [hselects, hopen])]
            exact .disarmed he hopen
          · rw [Option.map_some, if_neg (by simp [hopen]), ← he]
            exact .still
      · rw [afterCall, escalationOf_update_other (fun heq => hkey heq.symm) (by exact fun _ => ⟨rfl, rfl⟩) fun ae hae => ?_]
        · exact .still
        · exact (of_decide_eq_true hae).1
  | others alerts snoozes intents => exact .of_eq (addIntents_tables _ _ _).1 rfl

end JLMirror.Alerting
