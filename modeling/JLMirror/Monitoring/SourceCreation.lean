import JLMirror.Foundations.JsonText
import JLMirror.Foundations.Sessions
import JLMirror.Monitoring.SyncOperations

/-!
# Creating sources, statement by statement

`create_zabbix_source`, "atomic create-or-observe for a monitoring source", as any number of sessions run it at READ
COMMITTED, in any interleaving of their statements.

## The model

* A request reserves its key, or finds it reserved. A key that another session has reserved without a commit is
  waited for: the `INSERT … ON CONFLICT DO NOTHING` by its unique index, the `SELECT … FOR UPDATE` by the row.
* The content of a request is compared by the SHA-256 of its canonical text, in which the groups are sorted.
* A request draws its ids when it comes in. Any of its statements can fail: the session is rolled back.
* `asked` and `replies` are ghosts: the requests that came in, and what was answered to them.

## What is proved

* `keys_apply`: a write reserves one key at most.
* `fingerprint_eq_iff`: two contents have one fingerprint if they differ in the order of the groups at most, unless their
  texts collide.
* `insertZabbixSource_eq`: the rows of a request are those of `insertZabbixSource`.

## Honest scope

The references between the rows are checked at the commit, which has them all. A drawn id is new, so the primary keys
of the other tables are not looked at.
-/

namespace JLMirror.Monitoring.SourceCreation

open JLMirror.Foundations JLMirror.Foundations.JsonText

/-! ### Requests -/

/-- What a request asks to create. -/
structure SourceContent where
  display_name : String
  provider_instance_ref : String
  provider_base_url : String
  credential_binding_ref : String
  host_group_refs : List String
  deriving DecidableEq

/-- `audit_ctx` -/
structure AuditContext where
  actor_kind : Option String
  actor_id : Option String
  correlation_id : Option String
  deriving DecidableEq

/-- The arguments of `create_zabbix_source`. -/
structure CreateRequest where
  tenant_id : String
  idempotency_key : String
  content : SourceContent
  audit_ctx : Option AuditContext
  deriving DecidableEq

/-- The key of the idempotency table. -/
def CreateRequest.key (r : CreateRequest) : String × String := (r.tenant_id, r.idempotency_key)

/-- `sorted` -/
def sorted (refs : List String) : List String := refs.insertionSort (· ≤ ·)

/-- The body of the fingerprint. -/
def SourceContent.payload (c : SourceContent) : List (String × JsonValue) :=
  [("display_name", .text c.display_name), ("provider_instance_ref", .text c.provider_instance_ref),
    ("provider_base_url", .text c.provider_base_url), ("credential_binding_ref", .text c.credential_binding_ref),
    ("host_group_refs", .texts (sorted c.host_group_refs))]

/-- The canonical text of a content. -/
def SourceContent.canonical (c : SourceContent) : String := dumps c.payload

/-- The contents differ in the order of the groups at most. -/
def SourceContent.Same (c d : SourceContent) : Prop :=
  c.display_name = d.display_name ∧ c.provider_instance_ref = d.provider_instance_ref ∧
    c.provider_base_url = d.provider_base_url ∧ c.credential_binding_ref = d.credential_binding_ref ∧
    c.host_group_refs.Perm d.host_group_refs

instance (c d : SourceContent) : Decidable (c.Same d) := inferInstanceAs (Decidable (_ ∧ _ ∧ _ ∧ _ ∧ _))

/-- A request with the numbers that it has drawn: its own one and the next three. -/
structure Creation where
  number : ℕ
  now : Timestamp
  request : CreateRequest
  deriving DecidableEq

namespace Creation

def source_id (c : Creation) : String := opaqueId "mon-src" c.number

def generation (c : Creation) : String := opaqueId "mon-gen" (c.number + 1)

def binding_id (c : Creation) : String := opaqueId "mon-bind" (c.number + 2)

def operation_id (c : Creation) : String := opaqueId "mon-sync" (c.number + 3)

end Creation

/-! ### The tables -/

/-- `state` of a reservation. -/
inductive IdempotencyState where
  | in_progress
  | completed
  | reconciliation_required
  deriving DecidableEq

/-- `monitoring_source_create_idempotency`. -/
structure IdempotencyRow where
  tenant_id : String
  idempotency_key : String
  request_fingerprint : String
  monitoring_source_id : String
  monitoring_sync_operation_id : String
  state : IdempotencyState
  deriving DecidableEq

/-- `monitoring_source_generation`, of any tenant. -/
structure GenerationRecord extends SourceGeneration where
  tenant_id : String

/-- `monitoring_sync_operation`, of any tenant. -/
structure OperationRecord extends OperationRow where
  tenant_id : String

/-- `monitoring_source`, of any tenant, with what nothing but the creation writes. -/
structure SourceRecord extends SourceRow where
  tenant_id : String
  display_name : String
  /-- Its `host_group_refs`. -/
  configured_provider_scope : List String
  last_sync_operation_id : String

/-- `audit.audit_event` of a creation. -/
structure AuditEvent extends AuditContext where
  tenant_id : String
  subject_id : String
  display_name : String
  provider_instance_ref : String

/-- The tables. -/
structure SourceTables where
  idempotency : List IdempotencyRow
  generations : List GenerationRecord
  operations : List OperationRecord
  sources : List SourceRecord
  audit : List AuditEvent

def SourceTables.empty : SourceTables := ⟨[], [], [], [], []⟩

def IdempotencyRow.key (r : IdempotencyRow) : String × String := (r.tenant_id, r.idempotency_key)

def IdempotencyRow.complete (r : IdempotencyRow) : IdempotencyRow := { r with state := .completed }

/-- The keys that are reserved. -/
def SourceTables.keys (db : SourceTables) : List (String × String) := db.idempotency.map IdempotencyRow.key

/-! ### The rows of a request -/

section Rows

variable (sha256 : String → String)

/-- `fingerprint_request`; `sha256` is also `hexdigest`. -/
def fingerprint_request (payload : List (String × JsonValue)) : String := sha256 (dumps payload)

namespace Creation

def fingerprint (c : Creation) : String := fingerprint_request sha256 c.request.content.payload

def idempotencyRow (c : Creation) (state : IdempotencyState) : IdempotencyRow where
  tenant_id := c.request.tenant_id
  idempotency_key := c.request.idempotency_key
  request_fingerprint := c.fingerprint sha256
  monitoring_source_id := c.source_id
  monitoring_sync_operation_id := c.operation_id
  state := state

def generationRow (c : Creation) : GenerationRecord where
  tenant_id := c.request.tenant_id
  monitoring_source_id := c.source_id
  source_instance_generation := c.generation
  provider_instance_ref := c.request.content.provider_instance_ref
  provider_base_url := c.request.content.provider_base_url

def operationRow (c : Creation) : OperationRecord where
  toOperationRow := OperationRow.ofNew c.now
    { monitoring_sync_operation_id := c.operation_id, monitoring_source_id := c.source_id
      source_instance_generation := c.generation, configuration_revision := 1, scope_revision := 1
      responsibility_kind := .validation_and_initial_sync, state := .pending, claim_token := none
      started_at := none, completed_at := none, last_error_class := none, problem_poll_epoch := none
      problem_poll_generation := none, current_state_poll_epoch := none
      current_state_poll_generation := none }
  tenant_id := c.request.tenant_id

def sourceRow (c : Creation) : SourceRecord where
  tenant_id := c.request.tenant_id
  monitoring_source_id := c.source_id
  active_source_instance_generation := c.generation
  configuration_revision := 1
  scope_revision := 1
  credential_binding_ref := c.request.content.credential_binding_ref
  operational_evidence_state := .reconciliation_required
  last_successful_sync_at := none
  last_attempt_at := none
  problem_poll_epoch := 1
  problem_poll_generation := 0
  current_state_poll_epoch := 1
  current_state_poll_generation := 0
  provider_scope_tenant_binding_id := c.binding_id
  item_definition_poll_epoch := 1
  item_definition_poll_generation := 0
  display_name := c.request.content.display_name
  configured_provider_scope := c.request.content.host_group_refs
  last_sync_operation_id := c.operation_id

def auditEvent (c : Creation) : Option AuditEvent := c.request.audit_ctx.map fun ctx =>
  { ctx with
    tenant_id := c.request.tenant_id
    subject_id := c.source_id
    display_name := c.request.content.display_name
    provider_instance_ref := c.request.content.provider_instance_ref }

end Creation

end Rows

/-- The rows of a request are those that `insertZabbixSource` inserts. -/
theorem insertZabbixSource_eq {c : Creation} {db : SyncDb} (hnumber : db.nextId = c.number)
    (hgeneration : ∀ g ∈ db.core.generations, g.monitoring_source_id ≠ c.source_id)
    (hoperation : ∀ o ∈ db.core.operations, o.monitoring_sync_operation_id ≠ c.operation_id)
    (hsource : ∀ s ∈ db.core.sources, s.monitoring_source_id ≠ c.source_id)
    (hbinding : ∀ s ∈ db.core.sources, s.provider_scope_tenant_binding_id ≠ c.binding_id) :
    insertZabbixSource c.now c.request.content.provider_instance_ref c.request.content.provider_base_url
      c.request.content.credential_binding_ref db = .ok { db with
        core := { db.core with
          generations := db.core.generations ++ [c.generationRow.toSourceGeneration]
          operations := db.core.operations ++ [c.operationRow.toOperationRow]
          sources := db.core.sources ++ [c.sourceRow.toSourceRow] }
        nextId := c.number + 4 } := by
  rw [Creation.source_id] at hgeneration hsource
  rw [Creation.operation_id] at hoperation
  rw [Creation.binding_id] at hbinding
  unfold insertZabbixSource
  simp only [hnumber]
  rw [insertUnless_of_new fun g hg => decide_eq_false fun h => hgeneration g hg h.1,
    insertUnless_of_new fun o ho => decide_eq_false (hoperation o ho),
    insertUnless_of_new fun s hs => decide_eq_false (not_or.2 ⟨hsource s hs, hbinding s hs⟩)]
  rfl

/-! ### Writes -/

/-- What a transaction writes. -/
inductive Write where
  | reserve (row : IdempotencyRow)
  | generation (row : GenerationRecord)
  | operation (row : OperationRecord)
  | source (row : SourceRecord)
  | completed (key : String × String)
  | audit (event : AuditEvent)
  /-- `FOR UPDATE` -/
  | lock (key : String × String)

/-- A row that a transaction has written or locked. -/
inductive Row where
  | key (key : String × String)
  | generation (source_id generation : String)
  | operation (operation_id : String)
  | source (source_id : String)
  | audit (subject_id : String)
  deriving DecidableEq

/-- The row that the others wait for. -/
def Write.row : Write → Row
  | .reserve row => .key row.key
  | .generation row => .generation row.monitoring_source_id row.source_instance_generation
  | .operation row => .operation row.monitoring_sync_operation_id
  | .source row => .source row.monitoring_source_id
  | .completed key | .lock key => .key key
  | .audit event => .audit event.subject_id

/-- A write on the tables. -/
def Write.apply (x : Write) (db : SourceTables) : SourceTables :=
  match x with
  | .reserve row => { db with idempotency := db.idempotency ++ [row] }
  | .generation row => { db with generations := db.generations ++ [row] }
  | .operation row => { db with operations := db.operations ++ [row] }
  | .source row => { db with sources := db.sources ++ [row] }
  | .completed key =>
    { db with
      idempotency := updateWhere (fun r => r.key = key) IdempotencyRow.complete db.idempotency }
  | .audit event => { db with audit := db.audit ++ [event] }
  | .lock _ => db

/-- The key that a write reserves. -/
def Write.reserved : Write → Option (String × String)
  | .reserve row => some row.key
  | _ => none

theorem keys_apply (x : Write) (db : SourceTables) : (x.apply db).keys = db.keys ++ x.reserved.toList := by
  cases x with
  | reserve row => simp [SourceTables.keys, Write.apply, Write.reserved]
  | completed key =>
    have hkeys : (updateWhere (fun r : IdempotencyRow => r.key = key) IdempotencyRow.complete db.idempotency).map
        IdempotencyRow.key = db.keys := map_updateWhere (k := IdempotencyRow.key) (f := IdempotencyRow.complete) (fun _ => rfl) _
    exact hkeys.trans (List.append_nil _).symm
  | _ => exact (List.append_nil _).symm

/-! ### Fingerprints -/

theorem perm_sorted (l : List String) : (sorted l).Perm l := List.perm_insertionSort _ l

theorem perm_sortKeys (payload : List (String × JsonValue)) : (sortKeys payload).Perm payload :=
  List.perm_insertionSort _ payload

theorem sorted_eq_iff {l l' : List String} : sorted l = sorted l' ↔ l.Perm l' := by
  constructor
  · intro h
    exact (perm_sorted l).symm.trans (h ▸ perm_sorted l')
  · intro h
    have hperm : (sorted l).Perm (sorted l') := (perm_sorted l).trans (h.trans (perm_sorted l').symm)
    exact hperm.eq_of_pairwise' (List.pairwise_insertionSort _ l) (List.pairwise_insertionSort _ l')

/-- A canonical text determines the content, the order of the groups apart. -/
theorem canonical_eq_iff {c d : SourceContent} : c.canonical = d.canonical ↔ c.Same d := by
  rw [SourceContent.canonical, SourceContent.canonical, dumps_inj]
  constructor
  · intro h
    have hperm : c.payload.Perm d.payload := (perm_sortKeys c.payload).symm.trans (h ▸ perm_sortKeys d.payload)
    have hmem : ∀ m ∈ c.payload, m ∈ d.payload := fun m => hperm.mem_iff.1
    simpa [SourceContent.payload, SourceContent.Same, sorted_eq_iff] using hmem
  · rintro ⟨hname, hinstance, hurl, hcredential, hgroups⟩
    rw [SourceContent.payload, SourceContent.payload, hname, hinstance, hurl, hcredential, sorted_eq_iff.2 hgroups]

/-- No two contents of the requests have texts that collide. -/
def NoCollision (sha256 : String → String) (asked : List Creation) : Prop :=
  ∀ c ∈ asked, ∀ d ∈ asked, sha256 c.request.content.canonical = sha256 d.request.content.canonical →
    c.request.content.canonical = d.request.content.canonical

theorem fingerprint_eq_iff {sha256 : String → String} {asked : List Creation} (h : NoCollision sha256 asked)
    {c d : Creation} (hc : c ∈ asked) (hd : d ∈ asked) :
    c.fingerprint sha256 = d.fingerprint sha256 ↔ c.request.content.Same d.request.content := by
  rw [← canonical_eq_iff]
  exact ⟨h c hc d hd, congrArg sha256⟩

/-! ### The sessions -/

/-- `SourceResponse` -/
structure SourceResponse where
  monitoring_source_id : String
  monitoring_sync_operation_id : String
  idempotency_state : IdempotencyState
  reused : Bool
  deriving DecidableEq

/-- Why there is no response. -/
inductive CreateError where
  /-- `ValueError("idempotency.key_reused")` -/
  | key_reused
  /-- A `CHECK` of a table. -/
  | check
  /-- No row to compare with. -/
  | type_error
  /-- A statement failed, or the connection was lost. -/
  | interrupted
  deriving DecidableEq

/-- The next statement of a session. -/
inductive Point where
  | idle
  | insertKey (c : Creation)
  | select (c : Creation)
  | compare (c : Creation) (row : IdempotencyRow)
  | insertGeneration (c : Creation)
  | insertOperation (c : Creation)
  | insertSource (c : Creation)
  | updateKey (c : Creation)
  | insertAudit (c : Creation)
  | commit (c : Creation)

/-- The request that a session works on. -/
def Point.creation : Point → Option Creation
  | .idle => none
  | .insertKey c | .select c | .compare c _ | .insertGeneration c | .insertOperation c | .insertSource c | .updateKey c |
    .insertAudit c | .commit c => some c

/-- The tables, the open transactions and where their requests are; the number that is drawn next; and what has been
asked and answered. -/
structure SourceCreations extends Sessions SourceTables Write Point where
  nextId : ℕ
  asked : List Creation
  replies : List (Creation × Except CreateError SourceResponse)

namespace SourceCreations

/-- No source, and no request. -/
def empty : SourceCreations := ⟨Sessions.init .idle .empty, 0, [], []⟩

/-- What a session sees. -/
def view (s : SourceCreations) (w : ℕ) : SourceTables := Sessions.view Write.apply s.toSessions w

/-- The session goes on. -/
def goto (s : SourceCreations) (w : ℕ) (p : Point) : SourceCreations := { s with toSessions := s.toSessions.goto w p }

/-- The session writes and goes on, or waits for the row. -/
def write (s : SourceCreations) (w : ℕ) (x : Write) (p : Point) : SourceCreations :=
  { s with toSessions := s.toSessions.write Write.row w x p }

/-- The exception leaves the transaction, and the request has no response. -/
def refuse (s : SourceCreations) (w : ℕ) (c : Creation) (e : CreateError) : SourceCreations :=
  { s with toSessions := s.toSessions.rollback .idle w, replies := s.replies ++ [(c, .error e)] }

/-- The transaction is committed, and the request has a response. -/
def respond (s : SourceCreations) (w : ℕ) (c : Creation) (response : SourceResponse) : SourceCreations :=
  { s with toSessions := s.toSessions.commit Write.apply .idle w, replies := s.replies ++ [(c, .ok response)] }

end SourceCreations

/-- The response to a request whose source is that of `c`. -/
def Creation.response (c : Creation) (reused : Bool) : SourceResponse :=
  ⟨c.source_id, c.operation_id, .completed, reused⟩

section Steps

variable (sha256 : String → String)

/-- The next statement of a session. -/
def SourceCreations.next (s : SourceCreations) (w : ℕ) : SourceCreations :=
  match s.pc w with
  | .idle => s
  | .insertKey c =>
    if c.request.key ∈ (s.view w).keys then s.goto w (.select c)
    else s.write w (.reserve (c.idempotencyRow sha256 .in_progress)) (.insertGeneration c)
  | .select c =>
    match (s.view w).idempotency.find? fun r => r.key = c.request.key with
    | none => s.refuse w c .type_error
    | some row => s.write w (.lock c.request.key) (.compare c row)
  | .compare c row =>
    if row.request_fingerprint ≠ c.fingerprint sha256 then s.refuse w c .key_reused
    else s.respond w c ⟨row.monitoring_source_id, row.monitoring_sync_operation_id, row.state, true⟩
  | .insertGeneration c =>
    if c.request.content.provider_instance_ref = "" then s.refuse w c .check
    else s.write w (.generation c.generationRow) (.insertOperation c)
  | .insertOperation c => s.write w (.operation c.operationRow) (.insertSource c)
  | .insertSource c =>
    if c.request.content.display_name = "" ∨ c.request.content.credential_binding_ref = "" then s.refuse w c .check
    else s.write w (.source c.sourceRow) (.updateKey c)
  | .updateKey c => s.write w (.completed c.request.key) (.insertAudit c)
  | .insertAudit c =>
    match c.auditEvent with
    | none => s.goto w (.commit c)
    | some event => s.write w (.audit event) (.commit c)
  | .commit c => s.respond w c (c.response false)

/-- A step of the system. -/
inductive Act where
  /-- A request comes in, in a session that is free. -/
  | create_zabbix_source (w : ℕ) (now : Timestamp) (request : CreateRequest)
  | next (w : ℕ)
  /-- A statement fails, or the connection is lost. -/
  | fail (w : ℕ)

/-- A step. -/
def SourceCreations.step (s : SourceCreations) : Act → SourceCreations
  | .create_zabbix_source w now request =>
    match s.pc w with
    | .idle =>
      { s.goto w (.insertKey ⟨s.nextId, now, request⟩) with
        nextId := s.nextId + 4
        asked := s.asked ++ [⟨s.nextId, now, request⟩] }
    | _ => s
  | .next w => s.next sha256 w
  | .fail w =>
    match (s.pc w).creation with
    | none => s
    | some c => s.refuse w c .interrupted

/-- The system after a run. -/
def SourceCreations.exec (run : List Act) : SourceCreations := run.foldl (SourceCreations.step sha256) .empty

end Steps

end JLMirror.Monitoring.SourceCreation
