import JLMirror.Automation.Runner

/-!
# The scheduled reports

`workers/report_sender.py` over the tables of `sql/g1/018_g33_reports.sql`: a pass takes the schedules that are due, and
for each inserts a delivery and advances the schedule, in one transaction, before it collects the report and sends it.

## The model

* One worker, somewhere in a pass. A step is a transaction, or a statement that stands alone. The clock of a pass is read
  once, and may be any time at which the schedules it takes are due.
* `fail` is an exception: between the `INSERT` and the last `UPDATE` it makes the delivery `failed`, elsewhere it ends the
  pass. `die` is the end of the process. Neither is followed by a second attempt.
* What a report reads are rows of three tables with a time. `report_schedule_id`, `due_at` and `seen` of a delivery are
  ghosts: its schedule, the `next_send_at` it was made for, and the rows that were there when it was collected.

## Honest scope

The text of a report is left out, and so is `POST …/trigger`. Times are microseconds: `now.timestamp() + interval_secs` is
exact to these. `severity` of an alert and `state` of an incident, by which two of the reports are grouped, are no columns of
the migrations; here a collection may fail, and need not.
-/

namespace JLMirror.Reports

open JLMirror.Foundations JLMirror.Automation

/-! ### The tables -/

inductive ReportType where
  | alert_summary
  | sla_summary
  | incident_summary
  deriving DecidableEq

/-- A row of `alerting.alert`, `g1.sla_breach` or `itsm.incident`, with its `opened_at`, `breached_at` or `created_at`. -/
structure ReportedRow where
  kind : ReportType
  tenant_id : String
  row_id : String
  moment : ℤ
  deriving DecidableEq

/-- `g1.report_template` -/
structure ReportTemplate where
  template_id : String
  report_type : ReportType
  delivery_email : String
  enabled : Bool
  deriving DecidableEq

/-- `g1.report_schedule` -/
structure ReportSchedule where
  report_schedule_id : String
  tenant_id : String
  template_id : String
  interval_secs : ℕ
  last_sent_at : Option ℤ
  next_send_at : ℤ
  enabled : Bool
  deriving DecidableEq

inductive ReportOutcome where
  | pending
  | sent
  | failed
  deriving DecidableEq

/-- `g1.report_delivery` -/
structure ReportDelivery where
  delivery_id : String
  tenant_id : String
  template_id : String
  report_type : ReportType
  recipient : String
  outcome : ReportOutcome
  period_start : ℤ
  period_end : ℤ
  row_count : Option ℕ
  report_schedule_id : String
  due_at : ℤ
  seen : List ReportedRow
  deriving DecidableEq

/-- `timedelta(seconds=interval_secs)` -/
def seconds (secs : ℕ) : ℤ := 1000000 * secs

/-- The rows that `_collect_alert_summary`, `_collect_sla_summary` or `_collect_incident_summary` counts. -/
def ReportDelivery.counted (d : ReportDelivery) : List ReportedRow :=
  d.seen.filter fun r =>
    r.kind = d.report_type ∧ r.tenant_id = d.tenant_id ∧ d.period_start ≤ r.moment ∧ r.moment < d.period_end

/-! ### A pass -/

/-- A row of the query. -/
structure DueReport where
  report_schedule_id : String
  tenant_id : String
  template_id : String
  interval_secs : ℕ
  report_type : ReportType
  recipient : String
  tmpl_enabled : Bool
  deriving DecidableEq

/-- Where the worker is in a pass of the time `now`. -/
inductive SenderPoint where
  | idle
  | loop (now : ℤ) (due : List DueReport)
  | collect (now : ℤ) (due : List DueReport) (delivery_id : String)
  /-- `_build_email` and `_send_email` -/
  | send (now : ℤ) (due : List DueReport) (delivery_id : String) (seen : List ReportedRow)
  | sent (now : ℤ) (due : List DueReport) (delivery_id : String) (seen : List ReportedRow)
  | failed (now : ℤ) (due : List DueReport) (delivery_id : String)

structure Sender where
  templates : List ReportTemplate
  schedules : List ReportSchedule
  deliveries : List ReportDelivery
  rows : List ReportedRow
  pc : SenderPoint

inductive ReportAct where
  /-- A pass begins, and finds these. -/
  | start (now : ℤ) (due : List DueReport)
  | next (drawn_id : String)
  | fail
  | die
  | record (row : ReportedRow)
  /-- A template is made, or changed. -/
  | put_template (t : ReportTemplate)
  | create_schedule (report_schedule_id tenant_id template_id : String) (interval_secs : ℕ) (now : ℤ)
  | delete_schedule (report_schedule_id : String)

namespace Sender

variable (s : Sender)

/-- `JOIN g1.report_template … WHERE s.enabled = true AND s.next_send_at <= %s` -/
def dueRows (now : ℤ) : List DueReport :=
  (s.schedules.filter fun r => r.enabled ∧ r.next_send_at ≤ now).filterMap fun r =>
    (s.templates.find? fun t => t.template_id = r.template_id).map fun t =>
      ⟨r.report_schedule_id, r.tenant_id, r.template_id, r.interval_secs, t.report_type, t.delivery_email, t.enabled⟩

/-- `UPDATE g1.report_schedule SET … WHERE report_schedule_id=%s` -/
def updateSchedule (report_schedule_id : String) (f : ReportSchedule → ReportSchedule) : List ReportSchedule :=
  updateWhere (fun r => r.report_schedule_id = report_schedule_id) f s.schedules

/-- `UPDATE g1.report_delivery SET … WHERE delivery_id=%s` -/
def updateDelivery (delivery_id : String) (f : ReportDelivery → ReportDelivery) : List ReportDelivery :=
  updateWhere (fun d => d.delivery_id = delivery_id) f s.deliveries

/-- `next_send_at` of the schedule. -/
def dueAt (report_schedule_id : String) (now : ℤ) : ℤ :=
  ((s.schedules.find? fun r => r.report_schedule_id = report_schedule_id).map (·.next_send_at)).getD now

/-- The row of a delivery. -/
def delivery (now : ℤ) (x : DueReport) (delivery_id : String) : ReportDelivery where
  delivery_id := delivery_id
  tenant_id := x.tenant_id
  template_id := x.template_id
  report_type := x.report_type
  recipient := x.recipient
  outcome := .pending
  period_start := now - seconds x.interval_secs
  period_end := now
  row_count := none
  report_schedule_id := x.report_schedule_id
  due_at := s.dueAt x.report_schedule_id now
  seen := []

/-- The delivery is inserted and the schedule advanced. -/
def deliver (now : ℤ) (x : DueReport) (rest : List DueReport) (delivery_id : String) : Sender :=
  { s with
    deliveries := s.deliveries ++ [s.delivery now x delivery_id]
    schedules := s.updateSchedule x.report_schedule_id fun r =>
      { r with last_sent_at := some now, next_send_at := now + seconds x.interval_secs }
    pc := .collect now rest delivery_id }

/-- The next transaction of the worker. -/
def next (drawn_id : String) : Sender :=
  match s.pc with
  | .idle => s
  | .loop _ [] => { s with pc := .idle }
  | .loop now (x :: rest) =>
    if x.tmpl_enabled then
      -- the primary key
      if s.deliveries.any fun d => d.delivery_id = drawn_id then { s with pc := .idle }
      else s.deliver now x rest drawn_id
    else
      { s with
        schedules := s.updateSchedule x.report_schedule_id fun r => { r with enabled := false }
        pc := .loop now rest }
  | .collect now rest id => { s with pc := .send now rest id s.rows }
  | .send now rest id seen => { s with pc := .sent now rest id seen }
  | .sent now rest id seen =>
    { s with
      deliveries := s.updateDelivery id fun d =>
        { d with
          outcome := .sent
          seen := seen
          row_count := some ({ d with seen := seen } : ReportDelivery).counted.length }
      pc := .loop now rest }
  | .failed now rest id =>
    { s with deliveries := s.updateDelivery id fun d => { d with outcome := .failed }, pc := .loop now rest }

/-- An exception. -/
def fail : Sender :=
  match s.pc with
  | .collect now rest id | .send now rest id _ | .sent now rest id _ => { s with pc := .failed now rest id }
  | .failed now rest _ => { s with pc := .loop now rest }
  | _ => { s with pc := .idle }

def step (s : Sender) : ReportAct → Sender
  | .start now due =>
    match s.pc with
    | .idle => if IsAnswer 10 (s.dueRows now) due then { s with pc := .loop now due } else s
    | _ => s
  | .next drawn_id => s.next drawn_id
  | .fail => s.fail
  | .die => { s with pc := .idle }
  | .record row => { s with rows := s.rows ++ [row] }
  | .put_template t =>
    { s with templates := (s.templates.filter fun t' => t'.template_id ≠ t.template_id) ++ [t] }
  | .create_schedule id tenant_id template_id interval_secs now =>
    if interval_secs < 3600 ∨ (s.schedules.any fun r => r.report_schedule_id = id) = true then s
    else if s.templates.any fun t => t.template_id = template_id ∧ t.enabled then
      { s with schedules := s.schedules ++ [⟨id, tenant_id, template_id, interval_secs, none, now, true⟩] }
    else s
  | .delete_schedule id => { s with schedules := s.updateSchedule id fun r => { r with enabled := false } }

/-- Nothing is there yet. -/
def init : Sender := ⟨[], [], [], [], .idle⟩

/-- The state after a run. -/
def exec (run : List ReportAct) : Sender := run.foldl step init

/-- The deliveries of a schedule, in order. -/
def ofSchedule (report_schedule_id : String) : List ReportDelivery :=
  s.deliveries.filter fun d => d.report_schedule_id = report_schedule_id

end Sender

end JLMirror.Reports
