import JLMirror.Foundations.Sessions
import JLMirror.Foundations.Strings
import JLMirror.Foundations.Table
import JLMirror.Monitoring.Operations

/-!
# Change requests

`api/routers/changes.py` over the tables of `sql/g1/015_g30_itsm_changes.sql`. The state of an RFC is written by
`update_change`, as the client gives it, and by `record_approval`, which approves what is in review; the decisions are
rows of their own.

## The model

* Every request is a session, and goes statement by statement (`next`). At READ COMMITTED an `UPDATE` waits for a row that
  another transaction has written, and then looks at it again.
* A body is checked before its transaction begins. `timestamptz` is the cast of the database; a text that it does not
  take, or that a `CHECK` refuses, ends the request.
* `now()` and the id that is drawn are given with the request.
* `recorded` is a ghost: the decisions in the order of their commits, each with the state that its RFC had before.

## Honest scope

The tasks of an RFC and the audit trail are left out; that their statements may fail is not (`fail`).
-/

namespace JLMirror.Itsm

open JLMirror.Foundations JLMirror.Monitoring

/-! ### The tables -/

/-- `state` of an RFC. -/
inductive RfcState where
  | draft
  | review
  | approved
  | scheduled
  | implementing
  | complete
  | cancelled
  deriving DecidableEq

/-- `_VALID_STATES` -/
def RfcState.ofText (text : String) : Option RfcState :=
  [("draft", .draft), ("review", .review), ("approved", .approved), ("scheduled", .scheduled),
    ("implementing", .implementing), ("complete", .complete), ("cancelled", .cancelled)].lookup text

/-- `category` -/
inductive RfcCategory where
  | standard
  | normal
  | emergency
  deriving DecidableEq

/-- `_VALID_CATEGORIES` -/
def RfcCategory.ofText (text : String) : Option RfcCategory :=
  [("standard", .standard), ("normal", .normal), ("emergency", .emergency)].lookup text

/-- `risk` -/
inductive RfcRisk where
  | low
  | medium
  | high
  | critical
  deriving DecidableEq

/-- `_VALID_RISKS` -/
def RfcRisk.ofText (text : String) : Option RfcRisk :=
  [("low", .low), ("medium", .medium), ("high", .high), ("critical", .critical)].lookup text

/-- `decision` -/
inductive RfcDecision where
  | pending
  | approved
  | rejected
  deriving DecidableEq

/-- `_VALID_DECISIONS` -/
def RfcDecision.ofText (text : String) : Option RfcDecision :=
  [("approved", .approved), ("rejected", .rejected)].lookup text

/-- `g1.change_request` -/
structure ChangeRequest where
  rfc_id : String
  tenant_id : String
  title : String
  description : String
  category : RfcCategory
  risk : RfcRisk
  state : RfcState
  planned_start : Option Timestamp
  planned_end : Option Timestamp
  incident_id : Option String
  created_by : String
  created_at : Timestamp
  updated_at : Timestamp

/-- `WHERE tenant_id=%s AND rfc_id=%s` -/
def ChangeRequest.is (tenant_id rfc_id : String) (r : ChangeRequest) : Bool := r.tenant_id = tenant_id ∧ r.rfc_id = rfc_id

/-- `g1.change_approval` -/
structure ChangeApproval where
  approval_id : String
  rfc_id : String
  tenant_id : String
  approver_ref : String
  decision : RfcDecision
  notes : Option String
  decided_at : Option Timestamp
  created_at : Timestamp

structure ChangeDb where
  requests : List ChangeRequest
  approvals : List ChangeApproval

/-- The state of an RFC. -/
def ChangeDb.stateOf (rfc_id : String) (db : ChangeDb) : Option RfcState :=
  (db.requests.find? fun r => r.rfc_id = rfc_id).map (·.state)

/-! ### The bodies -/

structure CreateRFC where
  title : String
  description : String
  category : String
  risk : String
  planned_start : Option String
  planned_end : Option String
  incident_id : Option String

structure UpdateRFC where
  title : Option String
  description : Option String
  category : Option String
  risk : Option String
  state : Option String
  planned_start : Option String
  planned_end : Option String

structure RecordApproval where
  approver_ref : String
  decision : String
  notes : Option String

/-- `str.strip` -/
def stripped (text : String) : String := .ofList (strip text.toList)

/-- `body.category and body.category not in _VALID_CATEGORIES`, of a field. -/
def notIn {α : Type} (name : String) (ofText : String → Option α) (value : Option String) : Option String :=
  (value.filter fun text => text ≠ "" ∧ (ofText text).isNone).map fun text => "invalid " ++ name ++ ": " ++ text

/-- What refuses the body, with the status 422. -/
def CreateRFC.invalid (b : CreateRFC) : Option String :=
  if stripped b.title = "" then some "title is required"
  else if 200 < (stripped b.title).length then some "title max 200 chars"
  else if (RfcCategory.ofText b.category).isNone then some ("invalid category: " ++ b.category)
  else if (RfcRisk.ofText b.risk).isNone then some ("invalid risk: " ++ b.risk)
  else none

/-- What refuses the body, with the status 422. -/
def UpdateRFC.invalid (b : UpdateRFC) : Option String :=
  notIn "category" RfcCategory.ofText b.category <|> notIn "risk" RfcRisk.ofText b.risk <|>
    notIn "state" RfcState.ofText b.state

/-- What refuses the body, with the status 422. -/
def RecordApproval.invalid (b : RecordApproval) : Option String :=
  if (RfcDecision.ofText b.decision).isNone then some "decision must be approved or rejected"
  else if stripped b.approver_ref = "" then some "approver_ref required"
  else none

/-! ### What a request writes -/

/-- A request whose context has been looked at. -/
structure ChangeCall where
  tenant_id : String
  principal_id : String
  /-- `now()` -/
  now : Timestamp
  drawn_id : String

section Rows

variable (timestamptz : String → Option Timestamp) (c : ChangeCall)

/-- A column that may be null; the outer `none` fails. -/
def castColumn (value : Option String) : Option (Option Timestamp) :=
  match value with
  | none => some none
  | some text => (timestamptz text).map some

/-- The row of a new RFC; `none` fails. -/
def CreateRFC.row (b : CreateRFC) : Option ChangeRequest := do
  let category ← RfcCategory.ofText b.category
  let risk ← RfcRisk.ofText b.risk
  let planned_start ← castColumn timestamptz b.planned_start
  let planned_end ← castColumn timestamptz b.planned_end
  some { rfc_id := c.drawn_id, tenant_id := c.tenant_id, title := stripped b.title, description := b.description
         category, risk, state := .draft, planned_start, planned_end, incident_id := b.incident_id
         created_by := c.principal_id, created_at := c.now, updated_at := c.now }

/-- The columns that an `UPDATE` sets. -/
structure ChangeSet where
  title : Option String
  description : Option String
  category : Option RfcCategory
  risk : Option RfcRisk
  state : Option RfcState
  planned_start : Option Timestamp
  planned_end : Option Timestamp

/-- A column that is set, where it is given; the outer `none` fails. -/
def setColumn {α : Type} (cast : String → Option α) (value : Option String) : Option (Option α) :=
  match value with
  | none => some none
  | some text => (cast text).map some

/-- What the body sets; `none` fails. -/
def UpdateRFC.columns (b : UpdateRFC) : Option ChangeSet := do
  let category ← setColumn RfcCategory.ofText b.category
  let risk ← setColumn RfcRisk.ofText b.risk
  let state ← setColumn RfcState.ofText b.state
  let planned_start ← setColumn timestamptz b.planned_start
  let planned_end ← setColumn timestamptz b.planned_end
  some ⟨b.title, b.description, category, risk, state, planned_start, planned_end⟩

/-- `if not sets` -/
def UpdateRFC.empty (b : UpdateRFC) : Bool :=
  b.title = none ∧ b.description = none ∧ b.category = none ∧ b.risk = none ∧ b.state = none ∧ b.planned_start = none ∧
    b.planned_end = none

/-- The row after the `UPDATE`. -/
def ChangeSet.set (x : ChangeSet) (now : Timestamp) (r : ChangeRequest) : ChangeRequest :=
  { r with
    title := x.title.getD r.title, description := x.description.getD r.description
    category := x.category.getD r.category, risk := x.risk.getD r.risk, state := x.state.getD r.state
    planned_start := x.planned_start <|> r.planned_start, planned_end := x.planned_end <|> r.planned_end
    updated_at := now }

/-- The row of a decision. -/
def RecordApproval.row (rfc_id : String) (decision : RfcDecision) (b : RecordApproval) : ChangeApproval :=
  { approval_id := c.drawn_id, rfc_id, tenant_id := c.tenant_id, approver_ref := stripped b.approver_ref, decision
    notes := b.notes, decided_at := some c.now, created_at := c.now }

end Rows

/-- A write of a transaction. -/
inductive ChangeWrite where
  | create (r : ChangeRequest)
  | update (tenant_id rfc_id : String) (now : Timestamp) (x : ChangeSet)
  | record (a : ChangeApproval)
  /-- `SET state = 'approved' … AND state = 'review'` -/
  | approve (tenant_id rfc_id : String) (now : Timestamp)

/-- The row that a write is on. -/
inductive ChangeLock where
  | request (rfc_id : String)
  | approval (approval_id : String)
  deriving DecidableEq

def ChangeWrite.lock : ChangeWrite → ChangeLock
  | .create r => .request r.rfc_id
  | .update _ rfc_id _ _ => .request rfc_id
  | .record a => .approval a.approval_id
  | .approve _ rfc_id _ => .request rfc_id

/-- `WHERE tenant_id=%s AND rfc_id=%s AND state = 'review'` -/
def ChangeRequest.reviewed (tenant_id rfc_id : String) (r : ChangeRequest) : Bool :=
  r.is tenant_id rfc_id && decide (r.state = .review)

/-- `SET state = 'approved', updated_at = now()` -/
def ChangeRequest.approved (now : Timestamp) (r : ChangeRequest) : ChangeRequest :=
  { r with state := .approved, updated_at := now }

def ChangeWrite.apply (x : ChangeWrite) (db : ChangeDb) : ChangeDb :=
  match x with
  | .create r => { db with requests := db.requests ++ [r] }
  | .update tenant_id rfc_id now x => { db with requests := updateWhere (·.is tenant_id rfc_id) (x.set now) db.requests }
  | .record a => { db with approvals := db.approvals ++ [a] }
  | .approve tenant_id rfc_id now =>
    { db with requests := updateWhere (·.reviewed tenant_id rfc_id) (·.approved now) db.requests }

/-! ### The sessions -/

/-- What a transaction has done. -/
inductive ChangeDone where
  | created (r : ChangeRequest)
  | updated (tenant_id rfc_id : String) (now : Timestamp) (x : ChangeSet)
  | recorded (a : ChangeApproval)
  /-- The decision has approved the RFC. -/
  | approved (a : ChangeApproval) (tenant_id : String) (now : Timestamp)

/-- The next statement of a session. -/
inductive ChangePoint where
  | idle
  | create (c : ChangeCall) (b : CreateRFC)
  | lookupUpdate (c : ChangeCall) (rfc_id : String) (b : UpdateRFC)
  | update (c : ChangeCall) (rfc_id : String) (b : UpdateRFC)
  | lookupApproval (c : ChangeCall) (rfc_id : String) (b : RecordApproval)
  | record (c : ChangeCall) (a : ChangeApproval)
  | approve (c : ChangeCall) (a : ChangeApproval)
  | commit (d : ChangeDone)

/-- An answer. -/
inductive ChangeAnswer where
  | created (rfc_id : String)
  | updated (rfc_id : String) (updated : Bool)
  | recorded (approval_id : String) (decision : RfcDecision)
  | refused (status : ℕ) (detail : String)
  | failed

/-- The answer of a transaction that is committed. -/
def ChangeDone.answer : ChangeDone → ChangeAnswer
  | .created r => .created r.rfc_id
  | .updated _ rfc_id _ _ => .updated rfc_id true
  | .recorded a => .recorded a.approval_id a.decision
  | .approved a _ _ => .recorded a.approval_id a.decision

/-- A decision, with the state that its RFC had before its commit. -/
structure RecordedDecision where
  approval : ChangeApproval
  found : Option RfcState

/-- The decision of a transaction. -/
def ChangeDone.decision : ChangeDone → Option ChangeApproval
  | .recorded a => some a
  | .approved a _ _ => some a
  | _ => none

structure ChangeSystem where
  core : Sessions ChangeDb ChangeWrite ChangePoint
  answers : List (ℕ × ChangeAnswer)
  recorded : List RecordedDecision

namespace ChangeSystem

def init : ChangeSystem := ⟨Sessions.init .idle ⟨[], []⟩, [], []⟩

variable (s : ChangeSystem) (w : ℕ)

/-- What is committed. -/
def db : ChangeDb := s.core.tx.db

/-- What a session sees. -/
def view : ChangeDb := s.core.view ChangeWrite.apply w

def goto (p : ChangePoint) : ChangeSystem := { s with core := s.core.goto w p }

def write (x : ChangeWrite) (p : ChangePoint) : ChangeSystem := { s with core := s.core.write ChangeWrite.lock w x p }

/-- The request ends without a write. -/
def answer (a : ChangeAnswer) : ChangeSystem :=
  { s with core := s.core.rollback .idle w, answers := s.answers ++ [(w, a)] }

/-- `COMMIT` -/
def commit (d : ChangeDone) : ChangeSystem :=
  { core := s.core.commit ChangeWrite.apply .idle w
    answers := s.answers ++ [(w, d.answer)]
    recorded := s.recorded ++ d.decision.toList.map fun a => ⟨a, s.db.stateOf a.rfc_id⟩ }

/-- The next statement of a session. -/
def next (timestamptz : String → Option Timestamp) : ChangeSystem :=
  match s.core.pc w with
  | .idle => s
  | .create c b =>
    match b.row timestamptz c with
    | none => s.answer w .failed
    | some r =>
      if (s.view w).requests.any fun x => x.rfc_id = r.rfc_id then s.answer w .failed
      else s.write w (.create r) (.commit (.created r))
  | .lookupUpdate c rfc_id b =>
    if (s.view w).requests.any (·.is c.tenant_id rfc_id) then
      if b.empty then s.answer w (.updated rfc_id false) else s.goto w (.update c rfc_id b)
    else s.answer w (.refused 404 "RFC not found")
  | .update c rfc_id b =>
    match b.columns timestamptz with
    | none => s.answer w .failed
    | some x => s.write w (.update c.tenant_id rfc_id c.now x) (.commit (.updated c.tenant_id rfc_id c.now x))
  | .lookupApproval c rfc_id b =>
    if (s.view w).requests.any (·.is c.tenant_id rfc_id) then
      match RfcDecision.ofText b.decision with
      | none => s.answer w .failed
      | some decision => s.goto w (.record c (b.row c rfc_id decision))
    else s.answer w (.refused 404 "RFC not found")
  | .record c a =>
    if (s.view w).approvals.any fun x => x.approval_id = a.approval_id then s.answer w .failed
    else s.write w (.record a) (if a.decision = .approved then .approve c a else .commit (.recorded a))
  | .approve c a =>
    if (s.view w).requests.any (·.reviewed c.tenant_id a.rfc_id) then
      s.write w (.approve c.tenant_id a.rfc_id c.now) (.commit (.approved a c.tenant_id c.now))
    else s.goto w (.commit (.recorded a))
  | .commit d => s.commit w d

end ChangeSystem

/-- The context of a request. -/
structure ChangeContext where
  tenant_id : Option String
  principal_id : Option String

/-- `_require_tenant`, and `_require_principal` where it is asked for. -/
def ChangeContext.call (ctx : ChangeContext) (principal : Bool) (now : Timestamp) (drawn_id : String) :
    Except String ChangeCall :=
  match ctx.tenant_id.filter (· ≠ "") with
  | none => .error "tenant context required"
  | some tenant_id =>
    match ctx.principal_id.filter (· ≠ ""), principal with
    | none, true => .error "principal context required"
    | principal_id, _ => .ok ⟨tenant_id, principal_id.getD "", now, drawn_id⟩

/-- A step of the system. -/
inductive ChangeAct where
  | create (w : ℕ) (ctx : ChangeContext) (now : Timestamp) (drawn_id : String) (b : CreateRFC)
  | update (w : ℕ) (ctx : ChangeContext) (now : Timestamp) (drawn_id : String) (rfc_id : String) (b : UpdateRFC)
  | approve (w : ℕ) (ctx : ChangeContext) (now : Timestamp) (drawn_id : String) (rfc_id : String) (b : RecordApproval)
  | next (w : ℕ)
  /-- A statement fails, or the connection is lost. -/
  | fail (w : ℕ)

/-- A request comes in, in a session that is free. -/
def ChangeSystem.enter (s : ChangeSystem) (w : ℕ) (call : Except String ChangeCall) (invalid : Option String)
    (p : ChangeCall → ChangePoint) : ChangeSystem :=
  match s.core.pc w, call, invalid with
  | .idle, .ok c, none => s.goto w (p c)
  | .idle, .ok _, some detail => s.answer w (.refused 422 detail)
  | .idle, .error detail, _ => s.answer w (.refused 403 detail)
  | _, _, _ => s

def ChangeSystem.step (timestamptz : String → Option Timestamp) (s : ChangeSystem) : ChangeAct → ChangeSystem
  | .create w ctx now drawn_id b => s.enter w (ctx.call true now drawn_id) b.invalid fun c => .create c b
  | .update w ctx now drawn_id rfc_id b =>
    s.enter w (ctx.call false now drawn_id) b.invalid fun c => .lookupUpdate c rfc_id b
  | .approve w ctx now drawn_id rfc_id b =>
    s.enter w (ctx.call false now drawn_id) b.invalid fun c => .lookupApproval c rfc_id b
  | .next w => s.next w timestamptz
  | .fail w =>
    match s.core.pc w with
    | .idle => s
    | _ => s.answer w .failed

/-- The system after a run. -/
def ChangeSystem.exec (timestamptz : String → Option Timestamp) (run : List ChangeAct) : ChangeSystem :=
  run.foldl (ChangeSystem.step timestamptz) .init

end JLMirror.Itsm
