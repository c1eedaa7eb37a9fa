import JLMirror.Foundations.RowLocks
import JLMirror.Monitoring.PublicationBridge

/-!
# The inbox of the alerting transport

`workers/alerting_transport.py` and the table of `sql/z_integration/002_alerting_consumer.sql`: any
number of consumers that drive delivered messages through the inbox, statement by statement at READ
COMMITTED.

## The model

* A delivery gives a session a message, whichever and as often as it may be: `_process_pending` reads
  the outbox, and calls `_process_message`, which is one transaction, for each message that it finds.
* A statement reads what is committed and what its session has written, and waits for a row that
  another session has written. Any statement can fail (`fail`): the session rolls back, and the handler
  of `_process_pending` runs. A session can crash (`crash`).
* `Wire` stands for `hashlib.sha256` and `json.loads`. What `secrets.token_urlsafe` draws and what the
  tables of the monitoring owner hold comes with a step.

## What is proved

* `receiptOf_apply`, `receiptOf_view` — what a write, and a session, makes of the receipt of a key.

`JLMirror.Alerting.InboxLaw` says what the consumers keep.

## Honest scope

The column `payload`, which nothing reads again, and the times are left out. `applied` is no table: it
keeps with what payload the owner's state was read for a completion that is committed.
-/

namespace JLMirror.Alerting.Inbox

open JLMirror.Foundations
open JLMirror.Monitoring.OutboxDispatcher (OutboxRow)
open JLMirror.Monitoring.PublicationBridge (PgFunctions ReceiptState CONTRACTS envelopeValid receiptRow)

/-! ### Messages -/

/-- `(tenant_id, producer_message_scope, message_id)` -/
abbrev MessageKey := String × String × String

/-- The members of a payload that the consumer reads. -/
structure EventPayload where
  problem_id : Option String
  monitoring_resource_id : Option String
  monitoring_source_id : Option String
  source_instance_generation : Option String
  projection_revision : Option ℕ

/-- The functions on bytes: `digest` is also `_sha`. -/
structure Wire extends PgFunctions where
  /-- `json.loads`, or `{}` where it raises. -/
  loads : List UInt8 → EventPayload

/-- The key of the receipt of a message. -/
def keyOf (msg : OutboxRow) : MessageKey := (msg.tenant_id, msg.producer_message_scope, msg.message_id)

/-! ### The owner's tables -/

/-- A row of `monitoring_problem` or of `health_projection`: what `_reread` reads of it. -/
structure OwnerRow where
  tenant_id : String
  /-- `problem_id` or `monitoring_resource_id`. -/
  subject_id : String
  monitoring_source_id : String
  source_instance_generation : String
  projection_revision : ℕ

/-- The tables of the monitoring owner. -/
structure OwnerTables where
  monitoring_problem : List OwnerRow
  health_projection : List OwnerRow
  /-- `(tenant_id, monitoring_source_id)` -/
  monitoring_source : List (String × String)

/-- `resync_result_class` -/
inductive ResyncClass where
  | current
  | stale_generation
  | source_missing
  | projection_missing
  deriving DecidableEq

/-- The row that `_reread` asks for. A member that the payload does not have is `NULL`, and selects nothing. -/
def OwnerTables.projection (owner : OwnerTables) (tenant_id contract : String) (payload : EventPayload) :
    Option OwnerRow :=
  let (rows, subject) := if contract = "monitoring.problem-state.changed" then
    (owner.monitoring_problem, payload.problem_id) else (owner.health_projection, payload.monitoring_resource_id)
  rows.find? fun r => r.tenant_id = tenant_id ∧ subject = some r.subject_id ∧
    payload.monitoring_source_id = some r.monitoring_source_id ∧
    payload.source_instance_generation = some r.source_instance_generation

/-- `_reread` -/
def _reread (owner : OwnerTables) (tenant_id contract : String) (payload : EventPayload) : ResyncClass × Option ℕ :=
  match owner.projection tenant_id contract payload with
  | some r =>
    if payload.projection_revision.any (· < r.projection_revision) then (.stale_generation, some r.projection_revision)
    else (.current, some r.projection_revision)
  | none =>
    (if owner.monitoring_source.any fun s => s.1 = tenant_id ∧ payload.monitoring_source_id = some s.2 then
      .projection_missing else .source_missing, none)

/-! ### Receipts -/

/-- `alerting.inbox_receipt` -/
structure InboxReceipt extends Monitoring.PublicationBridge.InboxReceipt where
  resync_result_class : Option ResyncClass
  source_revision_current : Option ℕ
  claim_token : Option String
  deriving DecidableEq

/-- `PRIMARY KEY (tenant_id, producer_message_scope, message_id)` -/
def InboxReceipt.key (r : InboxReceipt) : MessageKey := (r.tenant_id, r.producer_message_scope, r.message_id)

/-- The receipts, and what has been applied. -/
structure InboxDb where
  receipts : List InboxReceipt
  applied : List (MessageKey × List UInt8)

/-- The receipt of a key. -/
def receiptOf (k : MessageKey) (db : InboxDb) : Option InboxReceipt := db.receipts.find? fun r => r.key = k

/-- What a transaction writes. -/
inductive InboxWrite where
  /-- A receipt is inserted. -/
  | insert (r : InboxReceipt)
  /-- `inbox.identity_conflict` -/
  | conflict (key : MessageKey)
  | claimed (key : MessageKey) (token : String)
  | completed (key : MessageKey) (token : String) (payload : List UInt8) (result : ResyncClass × Option ℕ)
  /-- `consumer.error` -/
  | failed (key : MessageKey)

/-- The receipt that is written, and locked. -/
def InboxWrite.key : InboxWrite → MessageKey
  | .insert r => r.key
  | .conflict key | .claimed key _ | .completed key _ _ _ | .failed key => key

/-- What becomes of a receipt. -/
def InboxWrite.update : InboxWrite → InboxReceipt → InboxReceipt
  | .insert _, r => r
  | .conflict _, r => { r with state := .quarantined, last_error_class := some "inbox.identity_conflict" }
  | .claimed _ token, r => { r with state := .processing, claim_token := some token }
  | .completed _ token _ (result_class, revision), r =>
    if r.claim_token = some token then
      { r with
        state := .completed
        resync_result_class := some result_class
        source_revision_current := revision
        claim_token := none }
    else r
  | .failed _, r =>
    { r with state := .reconciliation_required, last_error_class := some "consumer.error", claim_token := none }

/-- A write on the tables. -/
def InboxWrite.apply (x : InboxWrite) (db : InboxDb) : InboxDb where
  receipts := match x with
    | .insert r => db.receipts ++ [r]
    | _ => updateWhere (fun r => r.key = x.key) x.update db.receipts
  applied := match x with
    | .completed key _ payload _ => db.applied ++ [(key, payload)]
    | _ => db.applied

/-! ### The consumers -/

/-- The next statement of a session. -/
inductive InboxPoint where
  | idle
  /-- `INSERT INTO alerting.inbox_receipt … ON CONFLICT … DO NOTHING` -/
  | insert (msg : OutboxRow)
  /-- `SELECT payload_hash, state` -/
  | observe (msg : OutboxRow)
  /-- The receipt is quarantined: same identity, different meaning. -/
  | conflict (msg : OutboxRow)
  /-- The receipt is claimed, if it is in the state still. -/
  | claim (msg : OutboxRow) (state : ReceiptState)
  | reread (msg : OutboxRow) (token : String)
  | complete (msg : OutboxRow) (token : String) (result : ResyncClass × Option ℕ)
  | commit (msg : OutboxRow)
  /-- After the rollback: `state = 'reconciliation_required'`. -/
  | recover (msg : OutboxRow)
  | recovered (msg : OutboxRow)

/-- The message that `_process_message` is at. -/
def InboxPoint.message : InboxPoint → Option OutboxRow
  | .insert msg | .observe msg | .conflict msg | .claim msg _ | .reread msg _ | .complete msg _ _ | .commit msg =>
    some msg
  | .idle | .recover _ | .recovered _ => none

/-- The message that the handler of an error is about to update. -/
def InboxPoint.failing : InboxPoint → Option OutboxRow
  | .recover msg => some msg
  | _ => none

/-- The tables, the open transactions, and where the sessions are. -/
structure InboxWorld where
  tx : WriteLog InboxDb InboxWrite
  pc : ℕ → InboxPoint

namespace InboxWorld

/-- What a session sees. -/
def view (s : InboxWorld) (w : ℕ) : InboxDb := s.tx.view InboxWrite.apply w

/-- Another session has written the receipt. -/
def locked (s : InboxWorld) (w : ℕ) (k : MessageKey) : Bool := s.tx.locked InboxWrite.key w k

/-- The session goes on. -/
def goto (s : InboxWorld) (w : ℕ) (p : InboxPoint) : InboxWorld := { s with pc := Function.update s.pc w p }

/-- The session writes and goes on, or waits for the receipt. -/
def write (s : InboxWorld) (w : ℕ) (x : InboxWrite) (p : InboxPoint) : InboxWorld :=
  if s.locked w x.key then s else ⟨s.tx.write w x, Function.update s.pc w p⟩

/-- `ROLLBACK` -/
def rollback (s : InboxWorld) (w : ℕ) (p : InboxPoint) : InboxWorld :=
  ⟨s.tx.rollback w, Function.update s.pc w p⟩

/-- `COMMIT` -/
def commit (s : InboxWorld) (w : ℕ) : InboxWorld :=
  ⟨s.tx.commit InboxWrite.apply w, Function.update s.pc w .idle⟩

/-- A statement raises: `_process_pending` rolls back and handles it, and a statement of the handler leaves it. -/
def fail (s : InboxWorld) (w : ℕ) : InboxWorld :=
  match (s.pc w).message with
  | some msg => s.rollback w (.recover msg)
  | none => s.rollback w .idle

variable (wire : Wire)

/-- A receipt as it is inserted. -/
def received (msg : OutboxRow) : InboxReceipt :=
  { receiptRow wire.toPgFunctions msg with
    resync_result_class := none
    source_revision_current := none
    claim_token := none }

/-- The two inserts of `_process_message`, and the columns that the table refuses: a contract that is not one of the
two, and no `causation_id`. -/
def insert (s : InboxWorld) (w : ℕ) (msg : OutboxRow) : InboxWorld :=
  if msg.contract_name ∉ CONTRACTS ∨ msg.causation_id = none then s.fail w
  else if (receiptOf (keyOf msg) (s.view w)).isSome then
    s.goto w (if envelopeValid msg then .observe msg else .commit msg)
  else s.write w (.insert (received wire msg)) (if envelopeValid msg then .claim msg .received else .commit msg)

/-- "Existing receipt — equivalence check". -/
def observe (s : InboxWorld) (w : ℕ) (msg : OutboxRow) : InboxWorld :=
  match receiptOf (keyOf msg) (s.view w) with
  | none => s.fail w
  | some r =>
    if r.payload_hash ≠ wire.digest msg.encoded_payload then s.goto w (.conflict msg)
    else if r.state = .completed ∨ r.state = .quarantined then s.goto w (.commit msg)
    else s.goto w (.claim msg r.state)

/-- The claim: the state is compared again once the session has the row. -/
def claim (s : InboxWorld) (w : ℕ) (msg : OutboxRow) (state : ReceiptState) (token : String) : InboxWorld :=
  if s.locked w (keyOf msg) then s
  else if (receiptOf (keyOf msg) (s.view w)).any fun r => r.state = state then
    s.write w (.claimed (keyOf msg) token) (.reread msg token)
  else s.rollback w .idle

/-- The next statement of a session. -/
def next (s : InboxWorld) (w : ℕ) (token : String) (owner : OwnerTables) : InboxWorld :=
  match s.pc w with
  | .idle => s
  | .insert msg => s.insert wire w msg
  | .observe msg => s.observe wire w msg
  | .conflict msg => s.write w (.conflict (keyOf msg)) (.commit msg)
  | .claim msg state => s.claim w msg state token
  | .reread msg token =>
    s.goto w (.complete msg token (_reread owner msg.tenant_id msg.contract_name (wire.loads msg.encoded_payload)))
  | .complete msg token result => s.write w (.completed (keyOf msg) token msg.encoded_payload result) (.commit msg)
  | .recover msg =>
    if (receiptOf (keyOf msg) (s.view w)).isSome then s.write w (.failed (keyOf msg)) (.recovered msg)
    else s.goto w (.recovered msg)
  | .commit _ | .recovered _ => s.commit w

end InboxWorld

/-- A step of the system. -/
inductive InboxAct where
  | deliver (w : ℕ) (msg : OutboxRow)
  | next (w : ℕ) (token : String) (owner : OwnerTables)
  /-- The statement raises. -/
  | fail (w : ℕ)
  | crash (w : ℕ)

namespace InboxWorld

variable (wire : Wire)

/-- A step: nothing happens where a session is busy with another message. -/
def step (s : InboxWorld) : InboxAct → InboxWorld
  | .deliver w msg =>
    match s.pc w with
    | .idle => s.goto w (.insert msg)
    | _ => s
  | .next w token owner => s.next wire w token owner
  | .fail w => s.fail w
  | .crash w => s.rollback w .idle

/-- No receipt, and no message. -/
def init : InboxWorld := ⟨⟨⟨[], []⟩, []⟩, fun _ => .idle⟩

end InboxWorld

/-! ### The receipt of a key -/

@[simp] theorem received_key (wire : Wire) (msg : OutboxRow) : (InboxWorld.received wire msg).key = keyOf msg := rfl

@[simp] theorem received_state (wire : Wire) (msg : OutboxRow) :
    (InboxWorld.received wire msg).state = if envelopeValid msg then .received else .quarantined := rfl


/-- What a write makes of the receipt of its key, if there is one. -/
def InboxWrite.on (x : InboxWrite) (r : Option InboxReceipt) : Option InboxReceipt :=
  match x with
  | .insert new => r.or (some new)
  | _ => r.map x.update

theorem update_key (x : InboxWrite) (r : InboxReceipt) : (x.update r).key = r.key := by
  cases x with
  | completed => unfold InboxWrite.update; dsimp only; split_ifs <;> rfl
  | insert | conflict | claimed | failed => rfl

theorem update_payload_hash (x : InboxWrite) (r : InboxReceipt) : (x.update r).payload_hash = r.payload_hash := by
  cases x with
  | completed => unfold InboxWrite.update; dsimp only; split_ifs <;> rfl
  | insert | conflict | claimed | failed => rfl

variable {db : InboxDb} {r : InboxReceipt}

theorem receiptOf_key {k : MessageKey} (h : receiptOf k db = some r) : r.key = k := by
  simpa using List.find?_some h

/-- A write makes something of the receipt of its key only. -/
theorem receiptOf_apply (x : InboxWrite) (db : InboxDb) (k : MessageKey) :
    receiptOf k (x.apply db) = if x.key = k then x.on (receiptOf k db) else receiptOf k db := by
  have hupdate : (updateWhere (fun r => r.key = x.key) x.update db.receipts).find? (fun r => r.key = k) =
      if x.key = k then (receiptOf k db).map x.update else receiptOf k db := by
    rw [find?_updateWhere fun r _ => by rw [update_key]]
    change (receiptOf k db).map _ = _
    cases hr : receiptOf k db with
    | none => split_ifs <;> rfl
    | some r => simp only [Option.map_some, receiptOf_key hr, decide_eq_true_eq, eq_comm (a := k), apply_ite some]
  cases x with
  | insert new =>
    rw [receiptOf, InboxWrite.apply, List.find?_append]
    change (receiptOf k db).or _ = _
    by_cases hkey : new.key = k
    · simp [InboxWrite.key, InboxWrite.on, hkey]
    · simp [InboxWrite.key, hkey]
  | conflict | claimed | completed | failed => exact hupdate

theorem receiptOf_apply_hash {x : InboxWrite} {k : MessageKey} (h : receiptOf k db = some r) :
    ∃ r', receiptOf k (x.apply db) = some r' ∧ r'.payload_hash = r.payload_hash := by
  rw [receiptOf_apply, h]
  split_ifs
  · cases x with
    | insert => exact ⟨r, rfl, rfl⟩
    | conflict | claimed | completed | failed => exact ⟨_, rfl, update_payload_hash _ r⟩
  · exact ⟨r, rfl, rfl⟩

/-! ### Keys -/

/-- The keys of the receipts. -/
def InboxDb.keys (db : InboxDb) : List MessageKey := db.receipts.map InboxReceipt.key

/-- The key that a write inserts. -/
def InboxWrite.inserted : InboxWrite → Option MessageKey
  | .insert r => some r.key
  | .conflict _ | .claimed _ _ | .completed _ _ _ _ | .failed _ => none

theorem key_of_inserted {x : InboxWrite} {k : MessageKey} (h : x.inserted = some k) : x.key = k := by
  cases x with
  | insert => exact Option.some.inj h
  | conflict | claimed | completed | failed => cases h

theorem keys_apply (x : InboxWrite) (db : InboxDb) : (x.apply db).keys = db.keys ++ x.inserted.toList := by
  have hupdate : (updateWhere (fun r => r.key = x.key) x.update db.receipts).map InboxReceipt.key = db.keys :=
    map_updateWhere (update_key x) _
  cases x with
  | insert r => simp [InboxWrite.apply, InboxWrite.inserted, InboxDb.keys]
  | conflict | claimed | completed | failed => exact hupdate.trans (List.append_nil _).symm

theorem mem_keys {k : MessageKey} : k ∈ db.keys ↔ (receiptOf k db).isSome = true := by
  rw [receiptOf, List.find?_isSome, InboxDb.keys, List.mem_map]
  simp only [decide_eq_true_eq]

/-! ### What a session sees -/

variable {s : InboxWorld} {w : ℕ} {k : MessageKey}

/-- What a session makes of a receipt: its writes on the key, one after the other. -/
theorem receiptOf_view (s : InboxWorld) (w : ℕ) (k : MessageKey) : receiptOf k (s.view w) =
    (s.tx.writes w).foldl (fun r x => if x.key = k then x.on r else r) (receiptOf k s.tx.db) := by
  rw [InboxWorld.view, WriteLog.view_eq]
  generalize s.tx.db = db
  induction s.tx.writes w generalizing db with
  | nil => rfl
  | cons x xs ih => rw [List.foldl_cons, ih, receiptOf_apply, List.foldl_cons]

theorem view_of_nil (h : s.tx.writes w = []) : s.view w = s.tx.db := by
  rw [InboxWorld.view, WriteLog.view_eq, h, List.foldl_nil]

theorem receiptOf_view_of_ne (h : ∀ x ∈ s.tx.writes w, x.key ≠ k) : receiptOf k (s.view w) = receiptOf k s.tx.db := by
  refine WriteLog.view_induction (P := fun db => receiptOf k db = receiptOf k s.tx.db) rfl fun x hx db hP => ?_
  rw [receiptOf_apply, if_neg (h x (WriteLog.mem_writes.2 hx)), hP]

theorem receiptOf_view_hash (h : receiptOf k s.tx.db = some r) :
    ∃ r', receiptOf k (s.view w) = some r' ∧ r'.payload_hash = r.payload_hash := by
  refine WriteLog.view_induction (P := fun db => ∃ r', receiptOf k db = some r' ∧ r'.payload_hash = r.payload_hash)
    ⟨r, h, rfl⟩ ?_
  rintro x - db ⟨r', hr', hhash⟩
  obtain ⟨r'', hr'', hhash'⟩ := receiptOf_apply_hash (x := x) hr'
  exact ⟨r'', hr'', hhash'.trans hhash⟩

/-- A session sees what is applied, and what it applies. -/
theorem applied_view {y : MessageKey × List UInt8} (hy : y ∈ (s.view w).applied) :
    y ∈ s.tx.db.applied ∨ ∃ token result, .completed y.1 token y.2 result ∈ s.tx.writes w := by
  revert hy
  refine WriteLog.view_induction (P := fun db : InboxDb => y ∈ db.applied → y ∈ s.tx.db.applied ∨
    ∃ token result, .completed y.1 token y.2 result ∈ s.tx.writes w) Or.inl ?_
  intro x hx db hP hmem
  cases x with
  | completed key token payload result =>
    rcases List.mem_append.1 hmem with hmem | hmem
    · exact hP hmem
    · obtain rfl := List.mem_singleton.1 hmem
      exact Or.inr ⟨token, result, WriteLog.mem_writes.2 hx⟩
  | insert | conflict | claimed | failed => exact hP hmem

end JLMirror.Alerting.Inbox
