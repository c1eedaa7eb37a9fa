import JLMirror.Foundations.Strings
import JLMirror.Foundations.Table
import JLMirror.Monitoring.Operations
import Mathlib.Data.List.Perm.Subperm

/-!
# The automation runner

`workers/automation_runner.py` over the tables of `sql/g1/017_g32_automation.sql`: a pass picks up pending runs and executes
them, then takes the schedules that are due, inserts a run for each, advances the schedule and executes the run. The API and
the incident response insert runs in between.

## The model

* Any number of workers, each somewhere in a pass. A step is one statement, or the writes of one transaction with their
  `COMMIT`: they do not depend on what they overwrite, and nothing is read between them.
* A query with `LIMIT` and no `ORDER BY` answers with any rows that match, as many as there are up to the limit (`IsAnswer`).
* `fail` is an exception: `_execute_run` is in a `try`, the rest of the pass is not. `die` is the end of the process, or of
  the connection.
* `executed`, `yielded` and `off` record what the workers have done; `picked` and `found` what their queries have returned.
  No statement reads them.

## Honest scope

Of the configuration of a webhook only the URL is here. How the request is made up does not matter to the tables.
-/

namespace JLMirror.Automation

open JLMirror.Foundations JLMirror.Monitoring

/-! ### The tables -/

inductive ScriptType where
  | noop
  /-- `config.get("url", "")` -/
  | webhook (url : String)
  | other (name : String)
  deriving DecidableEq

/-- `g1.automation_script` -/
structure AutomationScript where
  script_id : String
  tenant_id : String
  script_type : ScriptType
  enabled : Bool
  deriving DecidableEq

/-- `g1.automation_schedule` -/
structure AutomationSchedule where
  schedule_id : String
  tenant_id : String
  script_id : String
  interval_secs : ℕ
  last_run_at : Option Timestamp
  next_run_at : Timestamp
  enabled : Bool
  deriving DecidableEq

inductive TriggerType where
  | manual
  | schedule
  | incident_response
  deriving DecidableEq

inductive RunOutcome where
  | pending
  | success
  | failed
  | skipped
  deriving DecidableEq

/-- `g1.automation_run` -/
structure AutomationRun where
  run_id : String
  tenant_id : String
  script_id : String
  trigger_type : TriggerType
  schedule_id : Option String
  outcome : RunOutcome
  http_status : Option ℕ
  error_detail : Option String
  started_at : Timestamp
  finished_at : Option Timestamp
  deriving DecidableEq

structure AutomationDb where
  scripts : List AutomationScript
  schedules : List AutomationSchedule
  runs : List AutomationRun
  deriving DecidableEq

/-! ### The execution of a run -/

/-- What `urlopen` comes to. -/
inductive WebhookAnswer where
  | response (status : ℕ)
  | httpError (code : ℕ)
  /-- An `OSError`, by its type. -/
  | osError (name : String)

/-- What `_execute_run` writes. -/
structure RunResult where
  outcome : RunOutcome
  http_status : Option ℕ
  error_detail : Option String
  deriving DecidableEq

def _execute_webhook (url : String) (answer : WebhookAnswer) : RunResult :=
  if ¬"https://".toList.isPrefixOf (strip url.toList) then ⟨.failed, none, some "invalid webhook URL"⟩
  else
    match answer with
    | .httpError code => ⟨.failed, some code, some ("http_error:" ++ toString code)⟩
    | .osError name => ⟨.failed, none, some ("transport:" ++ name)⟩
    | .response status =>
      if 400 ≤ status then ⟨.failed, some status, some ("http:" ++ toString status)⟩ else ⟨.success, some status, none⟩

/-- The outcome of a run of a script, if it is there. -/
def scriptResult (script : Option AutomationScript) (answer : WebhookAnswer) : RunResult :=
  match script with
  | none => ⟨.skipped, none, some "script not found"⟩
  | some script =>
    match script.script_type with
    | .noop => ⟨.success, none, none⟩
    | .webhook url => _execute_webhook url answer
    | .other name => ⟨.skipped, none, some ("unknown type: " ++ name)⟩

/-- `SET outcome=…, http_status=…, error_detail=…, finished_at=now()` -/
def AutomationRun.finish (now : Timestamp) (result : RunResult) (r : AutomationRun) : AutomationRun :=
  { r with
    outcome := result.outcome, http_status := result.http_status
    error_detail := result.error_detail.map fun text => String.ofList (text.toList.take 512), finished_at := some now }

namespace AutomationDb

def script (db : AutomationDb) (script_id : String) : Option AutomationScript :=
  db.scripts.find? fun s => s.script_id = script_id

/-- The `UPDATE` at the end of `_execute_run`. -/
def finish (db : AutomationDb) (now : Timestamp) (run_id : String) (result : RunResult) : AutomationDb :=
  { db with runs := updateWhere (fun r => r.run_id = run_id) (·.finish now result) db.runs }

/-- The `UPDATE` of a schedule whose script is not enabled. -/
def disable (db : AutomationDb) (schedule_id : String) : AutomationDb :=
  { db with schedules := updateWhere (fun d => d.schedule_id = schedule_id) (fun d => { d with enabled := false }) db.schedules }

/-- "Advance schedule" -/
def advance (db : AutomationDb) (now : Timestamp) (schedule_id : String) (next : Timestamp) : AutomationDb :=
  { db with
    schedules := updateWhere (fun d => d.schedule_id = schedule_id)
      (fun d => { d with last_run_at := some now, next_run_at := next }) db.schedules }

/-- A row of `automation_run`, unless its id is taken. -/
def insertRun (db : AutomationDb) (r : AutomationRun) : Option AutomationDb :=
  if db.runs.any fun r' => r'.run_id = r.run_id then none else some { db with runs := db.runs ++ [r] }

end AutomationDb

/-- The columns of a new run. -/
def pendingRun (run_id tenant_id script_id : String) (trigger_type : TriggerType) (schedule_id : Option String)
    (now : Timestamp) : AutomationRun :=
  { run_id, tenant_id, script_id, trigger_type, schedule_id, outcome := .pending, http_status := none, error_detail := none
    started_at := now, finished_at := none }

/-! ### The queries -/

/-- An answer to a query with a limit. -/
def IsAnswer {α : Type} (limit : ℕ) (rows answer : List α) : Prop := answer.Subperm rows ∧ answer.length = min limit rows.length

instance {α : Type} [DecidableEq α] (limit : ℕ) (rows answer : List α) : Decidable (IsAnswer limit rows answer) :=
  inferInstanceAs (Decidable (_ ∧ _))

/-- `outcome='pending' AND trigger_type IN ('manual','incident_response')` -/
def AutomationRun.matched (r : AutomationRun) : Bool := r.outcome = .pending ∧ r.trigger_type ≠ .schedule

/-- `enabled = true AND next_run_at <= now` -/
def AutomationSchedule.due (now : Timestamp) (d : AutomationSchedule) : Bool := d.enabled ∧ d.next_run_at ≤ now

/-! ### The passes -/

/-- A row of the pickup query. -/
structure Job where
  run_id : String
  tenant_id : String
  script_id : String
  deriving DecidableEq

def AutomationRun.job (r : AutomationRun) : Job := ⟨r.run_id, r.tenant_id, r.script_id⟩

/-- What a pass has yet to do. -/
inductive Rest where
  | manual (jobs : List Job)
  | schedules (due : List AutomationSchedule)

/-- The next statement of a pass. -/
inductive RunnerPoint where
  | idle
  /-- The pickup query. -/
  | pickup (now : Timestamp)
  | loop (now : Timestamp) (rest : Rest)
  /-- The script of a schedule is not enabled. -/
  | disable (now : Timestamp) (d : AutomationSchedule) (due : List AutomationSchedule)
  | insert (now : Timestamp) (d : AutomationSchedule) (due : List AutomationSchedule)
  /-- `_execute_run`, up to its `UPDATE`. -/
  | execute (now : Timestamp) (job : Job) (rest : Rest)
  | record (now : Timestamp) (job : Job) (result : RunResult) (rest : Rest)

/-- A due slot of a schedule. -/
def AutomationSchedule.slot (d : AutomationSchedule) : String × Timestamp := (d.schedule_id, d.next_run_at)

/-- The tables, and where the workers are. -/
structure RunnerSystem where
  db : AutomationDb
  pc : ℕ → RunnerPoint
  /-- The runs that the workers have taken up, each with its worker. -/
  picked : List (ℕ × String)
  /-- Those that they have executed. -/
  executed : List (ℕ × String)
  /-- The due slots that the workers have found. -/
  found : List (ℕ × (String × Timestamp))
  /-- Those that have yielded a run. -/
  yielded : List (String × Timestamp)
  /-- Those that have not, since the script is not enabled. -/
  off : List (ℕ × (String × Timestamp))

/-- A step of the system. -/
inductive RunnerAct where
  /-- A pass begins, in a worker that is in none. -/
  | begin (w : ℕ) (now : Timestamp)
  /-- The pickup query, with its answer. -/
  | pick (w : ℕ) (answer : List AutomationRun)
  /-- The query for the schedules that are due, with its answer. -/
  | due (w : ℕ) (answer : List AutomationSchedule)
  /-- The next statement, with the database's `now()`, the token that is drawn, and the answer to the webhook. -/
  | next (w : ℕ) (now : Timestamp) (drawn_id : String) (answer : WebhookAnswer)
  /-- An exception. -/
  | fail (w : ℕ)
  | die (w : ℕ)
  | create_script (script : AutomationScript)
  | update_script (tenant_id script_id : String) (script_type : Option ScriptType) (enabled : Option Bool)
  | trigger_script (now : Timestamp) (tenant_id script_id run_id : String)
  | g11_enqueue_automation (now : Timestamp) (tenant_id script_id run_id : String)
  | create_schedule (now : Timestamp) (schedule_id tenant_id script_id : String) (interval_secs : ℕ)
  | delete_schedule (tenant_id schedule_id : String)

namespace AutomationDb

variable (db : AutomationDb)

/-- The script is the tenant's, and enabled. -/
def hasEnabled (tenant_id script_id : String) : Bool :=
  db.scripts.any fun s => s.tenant_id = tenant_id ∧ s.script_id = script_id ∧ s.enabled

/-- A transaction of the API or of the incident response; one that is refused changes nothing. -/
def other : RunnerAct → AutomationDb
  | .create_script script =>
    if db.scripts.any fun s => s.script_id = script.script_id then db else { db with scripts := db.scripts ++ [script] }
  | .update_script tenant_id script_id script_type enabled =>
    { db with
      scripts := updateWhere (fun s => s.tenant_id = tenant_id ∧ s.script_id = script_id)
        (fun s => { s with script_type := script_type.getD s.script_type, enabled := enabled.getD s.enabled }) db.scripts }
  | .trigger_script now tenant_id script_id run_id =>
    if db.hasEnabled tenant_id script_id then
      (db.insertRun (pendingRun run_id tenant_id script_id .manual none now)).getD db
    else db
  | .g11_enqueue_automation now tenant_id script_id run_id =>
    if db.hasEnabled tenant_id script_id then
      (db.insertRun (pendingRun run_id tenant_id script_id .incident_response none now)).getD db
    else db
  | .create_schedule now schedule_id tenant_id script_id interval_secs =>
    if interval_secs < 60 ∨ ¬db.hasEnabled tenant_id script_id ∨ db.schedules.any (·.schedule_id = schedule_id) then db
    else { db with schedules := db.schedules ++ [⟨schedule_id, tenant_id, script_id, interval_secs, none, now, true⟩] }
  | .delete_schedule tenant_id schedule_id =>
    { db with
      schedules := updateWhere (fun d => d.tenant_id = tenant_id ∧ d.schedule_id = schedule_id)
        (fun d => { d with enabled := false }) db.schedules }
  | _ => db

end AutomationDb

namespace RunnerSystem

variable (s : RunnerSystem) (w : ℕ)

/-- The worker goes on. -/
def goto (p : RunnerPoint) : RunnerSystem := { s with pc := Function.update s.pc w p }

/-- The run of a schedule, and the schedule's next time. -/
def insert (now : Timestamp) (d : AutomationSchedule) (due : List AutomationSchedule) (drawn_id : String) : RunnerSystem :=
  match s.db.insertRun (pendingRun drawn_id d.tenant_id d.script_id .schedule (some d.schedule_id) now) with
  | none => s.goto w .idle
  | some db =>
    { s.goto w (.execute now ⟨drawn_id, d.tenant_id, d.script_id⟩ (.schedules due)) with
      db := db.advance now d.schedule_id (now + fromtimestamp d.interval_secs)
      picked := s.picked ++ [(w, drawn_id)]
      yielded := s.yielded ++ [d.slot] }

/-- The next statement of a pass. -/
def next (clock : Timestamp) (drawn_id : String) (answer : WebhookAnswer) : RunnerSystem :=
  match s.pc w with
  | .idle | .pickup _ | .loop _ (.manual []) => s
  | .loop now (.manual (job :: jobs)) => s.goto w (.execute now job (.manual jobs))
  | .loop _ (.schedules []) => s.goto w .idle
  | .loop now (.schedules (d :: due)) =>
    match s.db.script d.script_id with
    | none => s.goto w (.disable now d due)
    | some script => s.goto w (if script.enabled then .insert now d due else .disable now d due)
  | .disable now d due =>
    { s.goto w (.loop now (.schedules due)) with db := s.db.disable d.schedule_id, off := s.off ++ [(w, d.slot)] }
  | .insert now d due => s.insert w now d due drawn_id
  | .execute now job rest =>
    { s.goto w (.record now job (scriptResult (s.db.script job.script_id) answer) rest) with
      executed := s.executed ++ [(w, job.run_id)] }
  | .record now job result rest => { s.goto w (.loop now rest) with db := s.db.finish clock job.run_id result }

/-- An exception: that of a run is logged, any other one ends the pass. -/
def fail : RunnerSystem :=
  match s.pc w with
  | .execute now _ rest | .record now _ _ rest => s.goto w (.loop now rest)
  | _ => s.goto w .idle

/-- A step. -/
def step : RunnerAct → RunnerSystem
  | .begin w now =>
    match s.pc w with
    | .idle => s.goto w (.pickup now)
    | _ => s
  | .pick w answer =>
    match s.pc w with
    | .pickup now =>
      if IsAnswer 10 (s.db.runs.filter (·.matched)) answer then
        { s.goto w (.loop now (.manual (answer.map (·.job)))) with picked := s.picked ++ answer.map fun r => (w, r.run_id) }
      else s
    | _ => s
  | .due w answer =>
    match s.pc w with
    | .loop now (.manual []) =>
      if IsAnswer 20 (s.db.schedules.filter (·.due now)) answer then
        { s.goto w (.loop now (.schedules answer)) with found := s.found ++ answer.map fun d => (w, d.slot) }
      else s
    | _ => s
  | .next w clock drawn_id answer => s.next w clock drawn_id answer
  | .fail w => s.fail w
  | .die w => s.goto w .idle
  | a => { s with db := s.db.other a }

/-- Nothing is there yet. -/
def init : RunnerSystem := ⟨⟨[], [], []⟩, fun _ => .idle, [], [], [], [], []⟩

end RunnerSystem

end JLMirror.Automation
