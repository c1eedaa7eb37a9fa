import JLMirror.Foundations.Table
import JLMirror.Monitoring.Operations
import Mathlib.Data.List.Dedup
import Mathlib.Data.List.Perm.Basic

/-!
# The breach checker

`workers/sla_checker.py` over the tables of `sql/g1/016_g31_sla.sql`: for each tenant a pass reads the trackers whose
deadline has passed, and records a breach for each of them in a transaction of its own, an `INSERT` and an `UPDATE`.

## The model

* Any number of workers, each somewhere in a pass. A step is one statement.
* At READ COMMITTED a statement sees what is committed. What a transaction has written is at the point of its worker until
  the `COMMIT`. An `UPDATE` that matches locks its row (`locks`), and an `UPDATE` of a locked row waits: it does nothing
  yet.
* `now()` is when the transaction began. The pass commits after a breach only, so a transaction that has recorded none
  stays open to the next pass (`started`).
* The response loop and the resolve loop differ in three columns, which `BreachType` stands for.
* `fail` is an exception. `die` is the end of the process, or of the connection. `advance` is the clock.
* `flips` and `recorded` are ghosts: the flags that a commit has set, and for each breach the tracker and the time at its
  commit.

## Honest scope

Nothing in the repository inserts a tracker, acknowledges or resolves it: that is what others do (`track`, `touch`), each in
a transaction of one statement. They set no flag and no deadline, and delete nothing, as the grants have it.
-/

namespace JLMirror.Sla

open JLMirror.Foundations JLMirror.Monitoring

/-! ### The tables -/

/-- `breach_type` -/
inductive BreachType where
  | response
  | resolve
  deriving DecidableEq

/-- `g1.sla_alert_tracker` -/
structure SlaAlertTracker where
  tracker_id : String
  tenant_id : String
  alert_id : String
  sla_id : String
  response_deadline : Timestamp
  resolve_deadline : Timestamp
  acknowledged_at : Option Timestamp
  resolved_at : Option Timestamp
  response_breached : Bool
  resolve_breached : Bool
  deriving DecidableEq

namespace SlaAlertTracker

variable (t : SlaAlertTracker)

def deadline : BreachType → Timestamp
  | .response => t.response_deadline
  | .resolve => t.resolve_deadline

/-- `acknowledged_at`, or `resolved_at`. -/
def settled_at : BreachType → Option Timestamp
  | .response => t.acknowledged_at
  | .resolve => t.resolved_at

def breached : BreachType → Bool
  | .response => t.response_breached
  | .resolve => t.resolve_breached

/-- The flag is set. -/
def breach : BreachType → SlaAlertTracker
  | .response => { t with response_breached := true }
  | .resolve => { t with resolve_breached := true }

end SlaAlertTracker

/-- `g1.sla_breach` -/
structure SlaBreach where
  breach_id : String
  tenant_id : String
  alert_id : String
  sla_id : String
  breach_type : BreachType
  breached_at : Timestamp
  deadline_was : Timestamp
  deriving DecidableEq

structure SlaDb where
  trackers : List SlaAlertTracker
  breaches : List SlaBreach

/-! ### The queries -/

/-- A row of the query for the trackers of a tenant whose deadline has passed. -/
structure Candidate where
  tracker_id : String
  alert_id : String
  sla_id : String
  deadline : Timestamp
  deriving DecidableEq

namespace SlaDb

variable (db : SlaDb)

/-- `SELECT DISTINCT tenant_id … WHERE resolved_at IS NULL` -/
def tenants : List String := ((db.trackers.filter fun t => t.resolved_at = none).map (·.tenant_id)).dedup

/-- The trackers of a tenant that are not settled, and whose deadline has passed. -/
def candidates (now : Timestamp) (tenant_id : String) (type : BreachType) : List Candidate :=
  (db.trackers.filter fun t =>
    t.tenant_id = tenant_id ∧ t.settled_at type = none ∧ t.breached type = false ∧ t.deadline type < now).map
      fun t => ⟨t.tracker_id, t.alert_id, t.sla_id, t.deadline type⟩

/-- Whether `UPDATE … SET response_breached=true` matches a row. -/
def matched (tracker_id : String) (type : BreachType) : Bool :=
  db.trackers.any fun t => t.tracker_id = tracker_id ∧ t.breached type = false

/-- What the `UPDATE` does. -/
def breach (tracker_id : String) (type : BreachType) : SlaDb :=
  { db with
    trackers := updateWhere (fun t => t.tracker_id = tracker_id ∧ t.breached type = false) (·.breach type) db.trackers }

/-- A tracker is acknowledged or resolved, or is so no more. -/
def touch (tracker_id : String) (acknowledged_at resolved_at : Option Timestamp) : SlaDb :=
  { db with
    trackers := updateWhere (fun t => t.tracker_id = tracker_id)
      (fun t => { t with acknowledged_at := acknowledged_at, resolved_at := resolved_at }) db.trackers }

/-- The tracker as it is committed. -/
def tracker (tracker_id : String) : Option SlaAlertTracker := db.trackers.find? fun t => t.tracker_id = tracker_id

end SlaDb

/-! ### The passes -/

/-- The loop that a pass is in, and the tenants after this one. -/
structure Place where
  type : BreachType
  tenant_id : String
  tenants : List String

/-- The next statement of a pass. -/
inductive CheckerPoint where
  | idle
  /-- The query of a loop. -/
  | select (p : Place)
  /-- The `INSERT` for the next candidate. -/
  | loop (p : Place) (rest : List Candidate)
  | update (p : Place) (c : Candidate) (row : SlaBreach) (rest : List Candidate)
  /-- The `COMMIT`, where the `UPDATE` has matched or not. -/
  | commit (p : Place) (c : Candidate) (row : SlaBreach) (matched : Bool) (rest : List Candidate)

/-- The resolve loop comes after the response loop, and the next tenant after both. -/
def Place.next (p : Place) : CheckerPoint :=
  match p.type, p.tenants with
  | .response, _ => .select { p with type := .resolve }
  | .resolve, [] => .idle
  | .resolve, tenant_id :: tenants => .select ⟨.response, tenant_id, tenants⟩

/-- A breach that is recorded: its row, the tracker that it is of, and when. -/
structure Recorded where
  row : SlaBreach
  tracker : Option SlaAlertTracker
  moment : Timestamp

/-- The tables, the workers, and the time. -/
structure CheckerSystem where
  db : SlaDb
  pc : ℕ → CheckerPoint
  /-- When the open transaction of a worker began. -/
  started : ℕ → Option Timestamp
  /-- The trackers whose rows are locked, each with its worker. -/
  locks : List (String × ℕ)
  clock : Timestamp
  flips : List (String × BreachType)
  recorded : List Recorded

/-- A step of the system. -/
inductive CheckerAct where
  | advance (d : ℕ)
  /-- A tracker is inserted. -/
  | track (t : SlaAlertTracker)
  | touch (tracker_id : String) (acknowledged_at resolved_at : Option Timestamp)
  /-- A pass begins, with the answer to the query for the tenants. -/
  | begin (w : ℕ) (answer : List String)
  /-- The query of a loop, with its answer. -/
  | select (w : ℕ) (answer : List Candidate)
  /-- The next statement, with the id that is drawn. -/
  | next (w : ℕ) (breach_id : String)
  | fail (w : ℕ)
  | die (w : ℕ)

namespace CheckerSystem

variable (s : CheckerSystem) (w : ℕ)

def goto (p : CheckerPoint) : CheckerSystem := { s with pc := Function.update s.pc w p }

/-- `now()` -/
def now : Timestamp := (s.started w).getD s.clock

/-- A statement begins a transaction, unless one is open. -/
def run : CheckerSystem := { s with started := Function.update s.started w (some (s.now w)) }

/-- The transaction is over. -/
def ended : CheckerSystem :=
  { s with started := Function.update s.started w none, locks := s.locks.filter fun x => x.2 ≠ w }

/-- Another transaction has the row. -/
def locked (tracker_id : String) : Bool := s.locks.any fun x => x.1 = tracker_id

/-- The next statement of a pass. -/
def next (breach_id : String) : CheckerSystem :=
  match s.pc w with
  | .idle | .select _ => s
  | .loop p [] => s.goto w p.next
  | .loop p (c :: rest) =>
    if s.db.breaches.any fun b => b.breach_id = breach_id then (s.ended w).goto w (.loop p rest)
    else
      let row := ⟨breach_id, p.tenant_id, c.alert_id, c.sla_id, p.type, s.now w, c.deadline⟩
      (s.run w).goto w (.update p c row rest)
  | .update p c row rest =>
    if s.locked c.tracker_id then s
    else if s.db.matched c.tracker_id p.type then
      { s with locks := s.locks ++ [(c.tracker_id, w)] }.goto w (.commit p c row true rest)
    else s.goto w (.commit p c row false rest)
  | .commit p c row matched rest =>
    { (s.ended w).goto w (.loop p rest) with
      db := { (if matched then s.db.breach c.tracker_id p.type else s.db) with breaches := s.db.breaches ++ [row] }
      flips := if matched then s.flips ++ [(c.tracker_id, p.type)] else s.flips
      recorded := s.recorded ++ [⟨row, s.db.tracker c.tracker_id, s.clock⟩] }

/-- An exception: that of a breach is logged, any other one ends the pass. -/
def fail : CheckerSystem :=
  match s.pc w with
  | .loop p (_ :: rest) | .update p _ _ rest | .commit p _ _ _ rest => (s.ended w).goto w (.loop p rest)
  | _ => (s.ended w).goto w .idle

/-- A step. -/
def step : CheckerAct → CheckerSystem
  | .advance d => { s with clock := s.clock + d }
  | .track t =>
    if t.response_breached ∨ t.resolve_breached ∨
        s.db.trackers.any fun u => u.tracker_id = t.tracker_id ∨ u.tenant_id = t.tenant_id ∧ u.alert_id = t.alert_id then s
    else { s with db := { s.db with trackers := s.db.trackers ++ [t] } }
  | .touch tracker_id acknowledged_at resolved_at =>
    if s.locked tracker_id then s
    else { s with db := s.db.touch tracker_id acknowledged_at resolved_at }
  | .begin w answer =>
    match s.pc w with
    | .idle =>
      if answer.Perm s.db.tenants then
        match answer with
        | [] => s.run w
        | tenant_id :: tenants => (s.run w).goto w (.select ⟨.response, tenant_id, tenants⟩)
      else s
    | _ => s
  | .select w answer =>
    match s.pc w with
    | .select p =>
      if answer.Perm (s.db.candidates (s.now w) p.tenant_id p.type) then (s.run w).goto w (.loop p answer) else s
    | _ => s
  | .next w breach_id => s.next w breach_id
  | .fail w => s.fail w
  | .die w => (s.ended w).goto w .idle

/-- Nothing is there yet. -/
def init : CheckerSystem := ⟨⟨[], []⟩, fun _ => .idle, fun _ => none, [], 0, [], []⟩

end CheckerSystem

end JLMirror.Sla
