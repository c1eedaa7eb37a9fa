import JLMirror.Foundations.Run
import JLMirror.IncidentResponse.Actions

/-!
# Pushing error events

`push_error_event` of `api/routers/incident_response.py`: the push claims its minute bucket, stores the event, reads the
policy of the tenant, and enqueues one action after the other. `_g11` opens a transaction for each of these calls.

## The model

* Any number of requests are in flight. Each step of one is one transaction (`go`), and between any two of them a request
  may be cut off (`fail`): by an error of the database, a lost connection, or the end of the process. A commit whose
  answer is lost is a step and then a failure.
* `datetime.fromisoformat` is a parameter: the model holds for whatever it reads out of a text.
* `occurred_ts.replace(second=0, microsecond=0)` is on the wall clock of the request, so the bucket starts on a full minute
  of its own time zone.
* The id of an event is the digest of a drawn token: a number that is drawn in turn. The id of an action is the digest of
  its tenant, event and kind, which the row stands for. The token of a `logical_action_id` is given with the push, as a
  caller may send one that was drawn for another event.
* `answered` and `met` are ghosts: the answers that were given, and for each event the policies that were in force when
  it was stored and when they were read for it.

## Honest scope

What the worker does to the events and actions is left out: it changes their states and deletes none. The transactions
of other requests are seen whole, as each is a single statement on one table beside the expiry of entries.
-/

namespace JLMirror.IncidentResponse.Push

open JLMirror.Foundations

/-! ### Policies -/

/-- `_SEVERITIES` -/
inductive Severity where
  | LOW
  | MEDIUM
  | HIGH
  | CRITICAL
  deriving DecidableEq

/-- The text of a severity. -/
def Severity.value : Severity → String
  | .LOW => "LOW"
  | .MEDIUM => "MEDIUM"
  | .HIGH => "HIGH"
  | .CRITICAL => "CRITICAL"

/-- `_SEVERITY_ORDER` -/
def Severity.order : Severity → ℤ
  | .LOW => 0
  | .MEDIUM => 1
  | .HIGH => 2
  | .CRITICAL => 3

/-- `on_severities` of a channel, which is any JSON value. -/
inductive OnSeverities where
  /-- Absent, `null`, zero or `false`. -/
  | absent
  /-- A list, or the keys of an object; `none` is an element that is no text. -/
  | list (elements : List (Option String))
  | text (s : String)
  /-- Another number, or `true`: nothing can be looked for in it. -/
  | scalar
  deriving DecidableEq

/-- `incident_response.policy`, of which a channel is its `on_severities`, and a trigger its `event`. -/
structure Policy where
  severity_threshold : Severity
  auto_open_ticket : Bool
  manual_override_only : Bool
  notify_channels : List OnSeverities
  automation_triggers : List (Option String)
  deriving DecidableEq

/-- `not on_severities or (severity_hint and severity_hint in on_severities)` -/
def takes (severity_hint : Option Severity) : OnSeverities → Except String Bool
  | .absent => .ok true
  | .list elements => .ok (elements.isEmpty || severity_hint.any fun h => elements.contains (some h.value))
  | .text s => .ok (s.isEmpty || severity_hint.any fun h => h.value.toList <:+: s.toList)
  | .scalar => if severity_hint.isSome then .error "TypeError" else .ok false

/-- The loop over the channels, which ends at the first that takes part. -/
def notifies (severity_hint : Option Severity) : List OnSeverities → Except String Bool
  | [] => .ok false
  | ch :: rest => do
    if ← takes severity_hint ch then .ok true else notifies severity_hint rest

/-- `_evaluate_policy` -/
def _evaluate_policy (severity_hint : Option Severity) (policy : Policy) : Except String (List ActionKind) :=
  if policy.manual_override_only then .ok []
  else if policy.severity_threshold.order ≤ (severity_hint.map Severity.order).getD (-1) then do
    let notify ← notifies severity_hint policy.notify_channels
    .ok ((if policy.auto_open_ticket then [.open_ticket] else []) ++ (if notify then [.notify] else []) ++
      if policy.automation_triggers.contains (some "ERROR_EVENT") then [.automation] else [])
  else .ok []

/-! ### Requests -/

/-- A `datetime`, in microseconds: its wall clock, and how far that is ahead of UTC. -/
structure Datetime where
  wall : ℤ
  utcoffset : ℤ
  deriving DecidableEq

/-- A minute, in microseconds. -/
def minute : ℤ := 60000000

def Datetime.utc (t : Datetime) : ℤ := t.wall - t.utcoffset

/-- `t.replace(second=0, microsecond=0)` -/
def Datetime.minuteStart (t : Datetime) : Datetime := ⟨t.wall - t.wall % minute, t.utcoffset⟩

/-- `ErrorEventPush`, whose `raw_payload` is its JSON text. -/
structure ErrorEventPush where
  application_id : String
  error_code : String
  error_message : String
  occurred_at : String
  source_principal_id : Option String
  principal_id : Option String
  operation : Option String
  session_context : Option String
  severity_hint : Option Severity
  raw_payload : Option String
  logical_action_id : Option String

/-- The primary key of `dedupe_entry`. -/
structure DedupeKey where
  tenant_id : String
  application_id : String
  error_code : String
  bucket_ts : ℤ
  deriving DecidableEq

/-- `x or y`, for a text that may be missing. -/
def orElse (x : Option String) (y : String) : String := if x.getD "" = "" then y else x.getD ""

/-- A request in flight. -/
structure Request where
  key : DedupeKey
  event_id : ℕ
  bucket : String
  occurred_ts : ℤ
  error_message : String
  source_principal_id : String
  principal_id : Option String
  operation : Option String
  session_context : Option String
  severity_hint : Option Severity
  raw_payload : Option String
  logical_action_id : String
  inBucket : key.bucket_ts ≤ occurred_ts ∧ occurred_ts < key.bucket_ts + minute

theorem inBucket_minuteStart (t : Datetime) : t.minuteStart.utc ≤ t.utc ∧ t.utc < t.minuteStart.utc + minute := by
  have hpos : 0 ≤ t.wall % minute := Int.emod_nonneg _ (by decide)
  have hlt : t.wall % minute < minute := Int.emod_lt_of_pos _ (by decide)
  simp only [Datetime.utc, Datetime.minuteStart]
  omega

/-- What the request is, where `occurred_at` is ISO-8601. -/
def received (fromisoformat : String → Option Datetime) (tenant actor token : String) (body : ErrorEventPush)
    (event_id : ℕ) : Option Request :=
  (fromisoformat (body.occurred_at.replace "Z" "+00:00")).map fun t =>
    { key := ⟨tenant, body.application_id, body.error_code, t.minuteStart.utc⟩
      event_id := event_id
      bucket := .ofList (body.occurred_at.toList.take 16)
      occurred_ts := t.utc
      error_message := body.error_message
      source_principal_id := orElse body.source_principal_id actor
      principal_id := body.principal_id
      operation := body.operation
      session_context := body.session_context
      severity_hint := body.severity_hint
      raw_payload := body.raw_payload
      logical_action_id := orElse body.logical_action_id ("aee_" ++ token)
      inBucket := inBucket_minuteStart t }

/-! ### The tables -/

/-- `incident_response.dedupe_entry` -/
structure DedupeEntry where
  key : DedupeKey
  event_id : ℕ
  expires_at : ℤ
  deriving DecidableEq

/-- `incident_response.application_error_event` -/
structure StoredEvent where
  tenant_id : String
  event_id : ℕ
  application_id : String
  error_code : String
  error_message : String
  occurred_at : ℤ
  source_principal_id : String
  principal_id : Option String
  operation : Option String
  session_context : Option String
  severity_hint : Option Severity
  raw_payload : Option String
  status : EventStatus
  logical_action_id : String
  received_at : ℤ
  deriving DecidableEq

/-- `incident_response.action_request` -/
structure EnqueuedAction where
  tenant_id : String
  event_id : ℕ
  action_kind : ActionKind
  status : ActionStatus
  created_at : ℤ
  deriving DecidableEq

/-- The tables. -/
structure PushDb where
  policies : List (String × Policy)
  dedupe : List DedupeEntry
  events : List StoredEvent
  actions : List EnqueuedAction

/-- `g11_get_policy` -/
def g11_get_policy (tenant : String) (db : PushDb) : Policy :=
  ((db.policies.find? fun x => x.1 = tenant).map Prod.snd).getD ⟨.HIGH, false, false, [], []⟩

/-- `g11_upsert_policy` -/
def g11_upsert_policy (tenant : String) (policy : Policy) (db : PushDb) : PushDb :=
  { db with policies := (db.policies.filter fun x => x.1 ≠ tenant) ++ [(tenant, policy)] }

/-- The entries that have not expired. -/
def PushDb.live (now : ℤ) (db : PushDb) : List DedupeEntry := db.dedupe.filter fun d => !(d.expires_at < now)

/-- `g11_claim_dedupe`: whether the entry is new. -/
def g11_claim_dedupe (now : ℤ) (r : Request) (db : PushDb) : Bool × PushDb :=
  if (db.live now).any fun d => d.key = r.key then (false, { db with dedupe := db.live now })
  else (true, { db with dedupe := db.live now ++ [⟨r.key, r.event_id, now + 5 * minute⟩] })

/-- The row of an event. -/
def Request.row (now : ℤ) (r : Request) : StoredEvent where
  tenant_id := r.key.tenant_id
  event_id := r.event_id
  application_id := r.key.application_id
  error_code := r.key.error_code
  error_message := r.error_message
  occurred_at := r.occurred_ts
  source_principal_id := r.source_principal_id
  principal_id := r.principal_id
  operation := r.operation
  session_context := r.session_context
  severity_hint := r.severity_hint
  raw_payload := r.raw_payload
  status := .received
  logical_action_id := r.logical_action_id
  received_at := now

/-- The `logical_action_id` of a request is that of an event of the tenant. -/
def taken (r : Request) (db : PushDb) : Bool :=
  db.events.any fun e => e.tenant_id = r.key.tenant_id ∧ e.logical_action_id = r.logical_action_id

/-- `g11_store_event`, which the two unique keys may refuse. -/
def g11_store_event (now : ℤ) (r : Request) (db : PushDb) : Option PushDb :=
  if (db.events.any fun e => e.tenant_id = r.key.tenant_id ∧ e.event_id = r.event_id) || taken r db then none
  else some { db with events := db.events ++ [r.row now] }

/-- `g11_enqueue_action`, which needs its event and may be refused by the primary key. -/
def g11_enqueue_action (now : ℤ) (r : Request) (kind : ActionKind) (db : PushDb) : Option PushDb :=
  if (db.events.any fun e => e.tenant_id = r.key.tenant_id ∧ e.event_id = r.event_id) &&
      !(db.actions.any fun a => a.tenant_id = r.key.tenant_id ∧ a.event_id = r.event_id ∧ a.action_kind = kind) then
    some { db with actions := db.actions ++ [⟨r.key.tenant_id, r.event_id, kind, .pending, now⟩] }
  else none

/-! ### Requests in flight -/

/-- What comes next. -/
inductive Point where
  | idle
  | claim (r : Request)
  | store (r : Request)
  | policy (r : Request)
  /-- Kinds that have been enqueued, and kinds that have not. -/
  | enqueue (r : Request) (enqueued rest : List ActionKind)

/-- The request. -/
def Point.request : Point → Option Request
  | .idle => none
  | .claim r | .store r | .policy r | .enqueue r _ _ => some r

/-- What a request is answered. -/
inductive Reply where
  | deduplicated (bucket : String)
  | accepted (event_id : ℕ) (actions_enqueued : List ActionKind)
  /-- An error, or nothing. -/
  | failed
  deriving DecidableEq

/-- The tables, and the requests. -/
structure System where
  db : PushDb
  pc : ℕ → Point
  nextId : ℕ
  answered : List (Request × Reply)
  met : List (ℕ × Policy)

/-- Nothing yet. -/
def System.init : System := ⟨⟨[], [], [], []⟩, fun _ => .idle, 0, [], []⟩

/-- A step of the system. -/
inductive Act where
  /-- A request comes in. -/
  | push (w : ℕ) (tenant actor token : String) (body : ErrorEventPush)
  | go (w : ℕ) (now : ℤ)
  | fail (w : ℕ)
  | upsert (tenant : String) (policy : Policy)

def System.goto (s : System) (w : ℕ) (p : Point) : System := { s with pc := Function.update s.pc w p }

/-- The request is over. -/
def System.answer (s : System) (w : ℕ) (r : Request) (reply : Reply) : System :=
  { s.goto w .idle with answered := s.answered ++ [(r, reply)] }

/-- A policy that is in force for an event. -/
def System.meet (s : System) (r : Request) (policy : Policy) : System := { s with met := s.met ++ [(r.event_id, policy)] }

/-- The next transaction of a request. -/
def System.go (s : System) (w : ℕ) (now : ℤ) : System :=
  match s.pc w with
  | .idle => s
  | .claim r =>
    match g11_claim_dedupe now r s.db with
    | (true, db) => { s with db := db }.goto w (.store r)
    | (false, db) => { s with db := db }.answer w r (.deduplicated r.bucket)
  | .store r =>
    match g11_store_event now r s.db with
    | none => s.answer w r .failed
    | some db => ({ s with db := db }.meet r (g11_get_policy r.key.tenant_id s.db)).goto w (.policy r)
  | .policy r =>
    let policy := g11_get_policy r.key.tenant_id s.db
    match _evaluate_policy r.severity_hint policy with
    | .error _ => (s.meet r policy).answer w r .failed
    | .ok kinds => (s.meet r policy).goto w (.enqueue r [] kinds)
  | .enqueue r enqueued [] => s.answer w r (.accepted r.event_id enqueued)
  | .enqueue r enqueued (kind :: rest) =>
    match g11_enqueue_action now r kind s.db with
    | none => s.answer w r .failed
    | some db => { s with db := db }.goto w (.enqueue r (enqueued ++ [kind]) rest)

/-- A step. -/
def System.step (fromisoformat : String → Option Datetime) (s : System) : Act → System
  | .push w tenant actor token body =>
    match s.pc w, received fromisoformat tenant actor token body s.nextId with
    | .idle, some r => { s with nextId := s.nextId + 1 }.goto w (.claim r)
    | _, _ => s
  | .go w now => s.go w now
  | .fail w =>
    match (s.pc w).request with
    | none => s
    | some r => s.answer w r .failed
  | .upsert tenant policy => { s with db := g11_upsert_policy tenant policy s.db }

end JLMirror.IncidentResponse.Push
