import JLMirror.Foundations.Run
import JLMirror.Foundations.Table
import JLMirror.Monitoring.Operations
import Mathlib.Data.List.Sort

/-!
# The outbox dispatcher

`workers/outbox_dispatcher.py` publishes the rows of `monitoring.monitoring_outbox`:

    claim (FOR UPDATE SKIP LOCKED, lease) -> publish -> receipt
      success     -> published + receipt ref
      failure     -> release claim (retry) or quarantine after cap

with the two redrives of quarantined rows, `sql/monitoring/021_outbox_redrive.sql` and
`scripts/redrive_quarantined.py`.

## The model

* A pass of `_publish_durable` claims a batch and commits, sends it row by row outside any
  transaction, and records the outcomes row by row: the connection is idle then, so each
  `conn.transaction()` is a transaction of its own. Each of these is an action of a worker, and so is
  the end of its process at any point between them (`Action`).
* The rows that `SKIP LOCKED` passes over are chosen by the action, and so are the answers of the
  receiver and whether the update of an outcome fails.
* A worker keeps the rows as it fetched them, with the `attempt_count` from before its claim.
* Two columns of the state are not in the tables: which worker claimed a row last (`holder`; the
  table says `worker-outbox-dispatcher` for all of them), and what the receiver was handed since
  the last redrive of a row (`handed`).

## Honest scope

The in-memory demo ledger of `_dispatch_inmemory`, the TLS options of the request and the loop that
starts the passes are left out. The wire carries the payload as base64 text, here its bytes.
-/

namespace JLMirror.Monitoring.OutboxDispatcher

open JLMirror.Foundations

/-- `_MAX_ATTEMPTS`. -/
def _MAX_ATTEMPTS : ℕ := 5

/-- `_CLAIM_LEASE_SECONDS`. -/
def _CLAIM_LEASE_SECONDS : ℤ := 60

/-- `dispatch_state`. -/
inductive DispatchState where
  | pending
  | claimed
  | published
  | quarantined
  deriving DecidableEq

/-- `monitoring.monitoring_outbox`. -/
structure OutboxRow where
  tenant_id : String
  record_id : ℕ
  message_id : String
  producer_message_scope : String
  message_class : String
  contract_name : String
  contract_version : String
  producer : String
  scope : String
  subject_type : Option String
  subject_id : Option String
  occurred_at : Option Timestamp
  correlation_id : String
  causation_id : Option String
  data_classification : String
  serialization_profile_id : String
  encoded_payload : List UInt8
  dispatch_state : DispatchState
  claim_owner : Option String
  claim_expires_at : Option Timestamp
  attempt_count : ℕ
  last_error_class : Option String
  published_receipt_id : Option String
  published_at : Option Timestamp
  redrive_count : ℕ
  deriving DecidableEq

/-- The primary key. -/
def OutboxRow.key (r : OutboxRow) : String × ℕ := (r.tenant_id, r.record_id)

/-- The integration envelope. -/
structure Envelope where
  producer_message_scope : String
  message_id : String
  message_class : String
  contract_name : String
  contract_version : String
  producer : String
  producer_generation : Option String
  scope_class : String
  tenant_id : String
  subject_type : Option String
  subject_id : Option String
  occurred_at : Option Timestamp
  created_at : Option Timestamp
  operation_id : Option String
  not_before : Option Timestamp
  deadline : Option Timestamp
  correlation_id : String
  causation_id : Option String
  data_classification : String
  serialization_profile_id : String
  encoded_payload : List UInt8
  deriving DecidableEq

/-- `wire_envelope`. -/
def wire_envelope (row : OutboxRow) : Envelope where
  producer_message_scope := row.producer_message_scope
  message_id := row.message_id
  message_class := row.message_class
  contract_name := row.contract_name
  contract_version := row.contract_version
  producer := row.producer
  producer_generation := none
  scope_class := row.scope
  tenant_id := row.tenant_id
  subject_type := row.subject_type
  subject_id := row.subject_id
  occurred_at := row.occurred_at
  created_at := none
  operation_id := none
  not_before := none
  deadline := none
  correlation_id := row.correlation_id
  causation_id := row.causation_id
  data_classification := row.data_classification
  serialization_profile_id := row.serialization_profile_id
  encoded_payload := row.encoded_payload

/-! ### The statements -/

/-- A row as its producer inserts it: the other columns take their defaults. -/
def appendedRow (row : OutboxRow) (record_id : ℕ) : OutboxRow :=
  { row with
    record_id := record_id, dispatch_state := .pending, claim_owner := none, claim_expires_at := none
    attempt_count := 0, last_error_class := none, published_receipt_id := none, published_at := none
    redrive_count := 0 }

/-- The condition of the claim: pending, or claimed with an expired lease. -/
def OutboxRow.due (now : Timestamp) (r : OutboxRow) : Bool :=
  r.dispatch_state = .pending ∨ r.dispatch_state = .claimed ∧ ∃ expires ∈ r.claim_expires_at, expires < now

/-- The batch of a pass: the ten oldest due rows that no other session has locked. -/
def fetch (now : Timestamp) (locked : List (String × ℕ)) (rows : List OutboxRow) : List OutboxRow :=
  ((rows.filter fun r => r.due now ∧ r.key ∉ locked).insertionSort fun a b => a.record_id ≤ b.record_id).take 10

/-- A claimed row. -/
def claimedRow (now : Timestamp) (r : OutboxRow) : OutboxRow :=
  { r with
    dispatch_state := .claimed, claim_owner := some "worker-outbox-dispatcher"
    claim_expires_at := some (now + fromtimestamp _CLAIM_LEASE_SECONDS), attempt_count := r.attempt_count + 1 }

/-- The updates of the claim, one for each row of the batch. -/
def claimRows (now : Timestamp) (batch rows : List OutboxRow) : List OutboxRow :=
  batch.foldl (fun rows row => updateWhere (fun r => r.key = row.key) (claimedRow now) rows) rows

/-- How the publication of a row goes. -/
inductive Answer where
  /-- No webhook is configured, and the row is logged. -/
  | unconfigured
  /-- The receiver answers with a status. -/
  | status (code : ℕ)
  /-- The request raises: the receiver may have it or not. -/
  | raised

/-- The receipt of a publication, where it did not raise. -/
def receiptOf (row : OutboxRow) : Answer → Option String
  | .unconfigured => some s!"dev-log:{row.message_id}"
  | .status code => if 200 ≤ code ∧ code ≤ 299 then some s!"webhook:{code}:{row.message_id}" else none
  | .raised => none

/-- The outcome as it is written: `fetched` is the row as the pass fetched it. -/
def recordedRow (now : Timestamp) (fetched : OutboxRow) (receipt_id : Option String) (r : OutboxRow) : OutboxRow :=
  match receipt_id with
  | some id =>
    { r with
      dispatch_state := .published, published_receipt_id := some id, published_at := some now
      claim_owner := none, claim_expires_at := none, last_error_class := none }
  | none =>
    if fetched.attempt_count + 1 ≥ _MAX_ATTEMPTS then
      { r with
        dispatch_state := .quarantined, claim_owner := none, claim_expires_at := none
        last_error_class := some "publication_exhausted" }
    else
      { r with
        dispatch_state := .pending, claim_owner := none, claim_expires_at := none
        last_error_class := some "publication_failed" }

/-- The update of the record phase for one row, which may fail and be logged. -/
def recordRow (now : Timestamp) (refused : Bool) (fetched : OutboxRow) (receipt_id : Option String)
    (rows : List OutboxRow) : List OutboxRow :=
  if refused then rows
  else updateWhere (fun r => r.key = fetched.key) (recordedRow now fetched receipt_id) rows

/-- A redriven row. -/
def redrivenRow (error_class : String) (r : OutboxRow) : OutboxRow :=
  { r with
    dispatch_state := .pending, claim_owner := none, claim_expires_at := none, attempt_count := 0
    redrive_count := r.redrive_count + 1, last_error_class := some error_class }

/-- The rows that `redrive_outbox_message` selects. -/
def redriveSelects (p_tenant_id : String) (p_record_id : ℕ) (p_max_redrives : ℤ) (r : OutboxRow) : Bool :=
  r.tenant_id = p_tenant_id ∧ r.record_id = p_record_id ∧ r.dispatch_state = .quarantined ∧
    r.redrive_count < p_max_redrives

/-- `monitoring.redrive_outbox_message`. -/
def redrive_outbox_message (p_tenant_id : String) (p_record_id : ℕ) (p_max_redrives : ℤ) (rows : List OutboxRow) :
    List OutboxRow :=
  updateWhere (redriveSelects p_tenant_id p_record_id p_max_redrives) (redrivenRow "operator_redrive") rows

/-- The update of `redrive_quarantined.py`: all quarantined rows, without the cap. -/
def redrive_quarantined (rows : List OutboxRow) : List OutboxRow :=
  updateWhere (fun r => r.dispatch_state = .quarantined) (redrivenRow "operator_bulk_redrive") rows

/-! ### Passes and runs -/

/-- A pass of a worker between its transactions. -/
structure Pass where
  /-- The rows still to be sent, as they were fetched. -/
  todo : List OutboxRow
  /-- The rows sent and not recorded, with their receipts. -/
  results : List (OutboxRow × Option String)

/-- No pass is under way. -/
def Pass.idle : Pass := ⟨[], []⟩

/-- The rows that a pass still has to send or to record, as they were fetched. -/
def Pass.batch (p : Pass) : List OutboxRow := p.results.map Prod.fst ++ p.todo

/-- What the receiver was handed. -/
structure HandedOver where
  key : String × ℕ
  /-- The number that the claim gave to this attempt. -/
  attempt : ℕ
  envelope : Envelope

/-- The table, the workers, and what the table does not say. -/
structure System where
  rows : List OutboxRow
  nextRecordId : ℕ
  workers : ℕ → Pass
  /-- The worker that claimed a row last. -/
  holder : String × ℕ → Option ℕ
  /-- What the receiver was handed since the last redrive of the row. -/
  handed : List HandedOver

/-- No rows, and no pass under way. -/
def System.empty : System := ⟨[], 0, fun _ => .idle, fun _ => none, []⟩

/-- What happens. -/
inductive Action where
  /-- A producer appends a message. -/
  | append (row : OutboxRow)
  /-- The first phase of a pass. -/
  | claim (worker : ℕ) (now : Timestamp) (locked : List (String × ℕ))
  /-- The next row of the second phase. -/
  | send (worker : ℕ) (answer : Answer)
  /-- The next row of the third phase. -/
  | record (worker : ℕ) (now : Timestamp) (refused : Bool)
  /-- The process ends. -/
  | crash (worker : ℕ)
  /-- An operator redrives a message. -/
  | redrive (p_tenant_id : String) (p_record_id : ℕ) (p_max_redrives : ℤ)
  /-- An operator runs the script. -/
  | redriveAll

/-- The state after an action. -/
def System.step (s : System) : Action → System
  | .append row =>
    if s.rows.any fun r =>
        r.tenant_id = row.tenant_id ∧ r.producer_message_scope = row.producer_message_scope ∧
          r.message_id = row.message_id then s
    else { s with rows := s.rows ++ [appendedRow row s.nextRecordId], nextRecordId := s.nextRecordId + 1 }
  | .claim w now locked =>
    if (s.workers w).batch = [] then
      let batch := fetch now locked s.rows
      { s with
        rows := claimRows now batch s.rows
        workers := Function.update s.workers w ⟨batch, []⟩
        holder := fun k => if k ∈ batch.map OutboxRow.key then some w else s.holder k }
    else s
  | .send w answer =>
    match (s.workers w).todo with
    | [] => s
    | row :: todo =>
      { s with
        workers := Function.update s.workers w ⟨todo, (s.workers w).results ++ [(row, receiptOf row answer)]⟩
        handed := match answer with
          | .unconfigured => s.handed
          | _ => s.handed ++ [⟨row.key, row.attempt_count + 1, wire_envelope row⟩] }
  | .record w now refused =>
    match (s.workers w).todo, (s.workers w).results with
    | [], x :: results =>
      { s with
        rows := recordRow now refused x.1 x.2 s.rows
        workers := Function.update s.workers w ⟨[], results⟩ }
    | _, _ => s
  | .crash w => { s with workers := Function.update s.workers w .idle }
  | .redrive p_tenant_id p_record_id p_max_redrives =>
    { s with
      rows := redrive_outbox_message p_tenant_id p_record_id p_max_redrives s.rows
      handed := s.handed.filter fun e =>
        !s.rows.any fun r => redriveSelects p_tenant_id p_record_id p_max_redrives r ∧ r.key = e.key }
  | .redriveAll =>
    { s with
      rows := redrive_quarantined s.rows
      handed := s.handed.filter fun e => !s.rows.any fun r => r.dispatch_state = .quarantined ∧ r.key = e.key }

/-- The state after a run from an empty table. -/
def System.exec (run : List Action) : System := run.foldl System.step .empty

end JLMirror.Monitoring.OutboxDispatcher
