import JLMirror.Foundations.Fold
import JLMirror.Monitoring.Store

/-!
# Sync operations: enqueue, claim, completion

What the six workers of a source have in common, and the first of them, `PgValidationRepository`:
an operation is queued under the authority of its source, claimed while that authority holds, and
completed only by the claim that it runs under.

## The model

* A claim is the `SELECT … FOR UPDATE` with its join (`CoreTables.claimable`), then the update that
  marks the operation as running (`CoreTables.markRunning`). The poll kinds have a further condition
  on the slot of the source, `slot`.
* A completion passes the fence, writes what the kind writes, meters a success, and closes the operation
  and the source (`CoreTables.finish`). `slot` is what it does to the source beside that, and `record`
  to the operation.
* Ids made by `_opaque` are the prefix with the next number of one counter. An id that a caller
  passes in is any text, and the insert raises where it is taken.

## Honest scope

The idempotency row of a new source is left out, and so are the declared host groups, which the claims
hand to the provider.
-/

namespace JLMirror.Monitoring

open JLMirror.Foundations

/-- What `_opaque` makes of the next number. -/
def opaqueId (kind : String) (n : ℕ) : String := s!"{kind}_{n}"

/-! ### Sources -/

/-- The rows that `create_zabbix_source` inserts: the generation, the first operation, the source. -/
def insertZabbixSource (now : Timestamp) (provider_instance_ref provider_base_url credential_binding_ref : String)
    (db : SyncDb) : Except String SyncDb := do
  let source_id := opaqueId "mon-src" db.nextId
  let generation := opaqueId "mon-gen" (db.nextId + 1)
  let binding_id := opaqueId "mon-bind" (db.nextId + 2)
  let operation_id := opaqueId "mon-sync" (db.nextId + 3)
  let generations ← insertUnless
    (fun g => g.monitoring_source_id = source_id ∧ g.source_instance_generation = generation) uniqueViolation
    ⟨source_id, generation, provider_instance_ref, provider_base_url⟩ db.core.generations
  let operations ← insertUnless (fun o => o.monitoring_sync_operation_id = operation_id) uniqueViolation
    (OperationRow.ofNew now
      { monitoring_sync_operation_id := operation_id, monitoring_source_id := source_id
        source_instance_generation := generation, configuration_revision := 1, scope_revision := 1
        responsibility_kind := .validation_and_initial_sync, state := .pending, claim_token := none
        started_at := none, completed_at := none, last_error_class := none, problem_poll_epoch := none
        problem_poll_generation := none, current_state_poll_epoch := none
        current_state_poll_generation := none })
    db.core.operations
  let sources ← insertUnless
    (fun s => s.monitoring_source_id = source_id ∨ s.provider_scope_tenant_binding_id = binding_id) uniqueViolation
    { monitoring_source_id := source_id, active_source_instance_generation := generation
      configuration_revision := 1, scope_revision := 1, credential_binding_ref := credential_binding_ref
      operational_evidence_state := .reconciliation_required, last_successful_sync_at := none
      last_attempt_at := none, problem_poll_epoch := 1, problem_poll_generation := 0
      current_state_poll_epoch := 1, current_state_poll_generation := 0
      provider_scope_tenant_binding_id := binding_id, item_definition_poll_epoch := 1
      item_definition_poll_generation := 0 }
    db.core.sources
  .ok { db with
    core := { db.core with generations := generations, operations := operations, sources := sources }
    nextId := db.nextId + 4 }

/-! ### Enqueue -/

/-- The source of an id. -/
def CoreTables.source (c : CoreTables) (source_id : String) : Option SourceRow :=
  c.sources.find? fun s => s.monitoring_source_id = source_id

/-- A pending operation under the authority of a source. -/
def pendingOperation (now : Timestamp) (op_id : String) (kind : ResponsibilityKind) (s : SourceRow) : OperationRow :=
  OperationRow.ofNew now
    { monitoring_sync_operation_id := op_id, monitoring_source_id := s.monitoring_source_id
      source_instance_generation := s.active_source_instance_generation
      configuration_revision := s.configuration_revision, scope_revision := s.scope_revision
      responsibility_kind := kind, state := .pending, claim_token := none, started_at := none
      completed_at := none, last_error_class := none, problem_poll_epoch := none
      problem_poll_generation := none, current_state_poll_epoch := none, current_state_poll_generation := none }

/-- Inserts an operation under an id that is drawn for it. -/
def SyncDb.insertOperation (kind : String) (row : String → OperationRow) (db : SyncDb) : Except String SyncDb := do
  let op_id := opaqueId kind db.nextId
  let operations ← insertUnless (fun o => o.monitoring_sync_operation_id = op_id) uniqueViolation (row op_id)
    db.core.operations
  .ok { db with core := { db.core with operations := operations }, nextId := db.nextId + 1 }

theorem insertOperation_ok {kind : String} {row : String → OperationRow} {db db' : SyncDb}
    (h : db.insertOperation kind row = .ok db') :
    (∀ o ∈ db.core.operations, o.monitoring_sync_operation_id ≠ opaqueId kind db.nextId) ∧
      db' = { db with
        core := { db.core with operations := db.core.operations ++ [row (opaqueId kind db.nextId)] }
        nextId := db.nextId + 1 } := by
  obtain ⟨operations, hops, h⟩ := bind_ok_iff.1 h
  obtain ⟨hnew, rfl⟩ := insertUnless_ok_iff.1 hops
  exact ⟨fun o ho => by simpa using hnew o ho, (Except.ok.inj h).symm⟩

/-- The body of the enqueue functions: an operation of a source, with the columns of its kind. -/
def SyncDb.enqueue (now : Timestamp) (kind : ResponsibilityKind) (set : SourceRow → OperationRow → OperationRow)
    (source_id : String) (db : SyncDb) : Except String SyncDb :=
  match db.core.source source_id with
  | none => .error "monitoring.source_not_found"
  | some s => db.insertOperation "mon-sync" fun op_id => set s (pendingOperation now op_id kind s)

theorem enqueue_ok {now : Timestamp} {kind : ResponsibilityKind} {set : SourceRow → OperationRow → OperationRow}
    {source_id : String} {db db' : SyncDb} (h : db.enqueue now kind set source_id = .ok db') :
    ∃ s, db.core.source source_id = some s ∧
      db.insertOperation "mon-sync" (fun op_id => set s (pendingOperation now op_id kind s)) = .ok db' := by
  unfold SyncDb.enqueue at h
  split at h
  · cases h
  · exact ⟨_, ‹_›, h⟩

/-- `enqueue_sync_operation`. -/
def enqueue_sync_operation (now : Timestamp) (kind : ResponsibilityKind) (source_id : String) (db : SyncDb) :
    Except String SyncDb :=
  db.enqueue now kind (fun _ o => o) source_id

/-- `enqueue_metric_definition_poll`: the next slot of the epoch. -/
def enqueue_metric_definition_poll (now : Timestamp) (source_id : String) (db : SyncDb) : Except String SyncDb :=
  db.enqueue now .metric_definition_poll
    (fun s o => { o with
      item_definition_poll_epoch := some s.item_definition_poll_epoch
      item_definition_poll_generation := some (s.item_definition_poll_generation + 1) }) source_id

/-- `enqueue_current_state_poll`: the next slot of the epoch. -/
def enqueue_current_state_poll (now : Timestamp) (source_id : String) (db : SyncDb) : Except String SyncDb :=
  db.enqueue now .current_state_poll
    (fun s o => { o with
      current_state_poll_epoch := some s.current_state_poll_epoch
      current_state_poll_generation := some (s.current_state_poll_generation + 1) }) source_id

/-- `enqueue_history_sync`: a window. -/
def enqueue_history_sync (now : Timestamp) (time_from time_till : ℤ) (source_id : String) (db : SyncDb) :
    Except String SyncDb :=
  db.enqueue now .metric_history_sync
    (fun _ o => { o with history_time_from := some time_from, history_time_till := some time_till }) source_id

/-- `enqueue_problem_state_sync`: only under current evidence. -/
def enqueue_problem_state_sync (now : Timestamp) (source_id : String) (db : SyncDb) : Except String SyncDb :=
  match db.core.sources.find? fun s =>
      s.monitoring_source_id = source_id ∧ s.operational_evidence_state = .current with
  | none => .ok db
  | some s => db.insertOperation "mon-op" fun op_id => pendingOperation now op_id .problem_state_sync s

/-! ### Claims -/

/-- What every claim takes from its operation, source and generation. -/
structure SyncClaim where
  claim_token : String
  monitoring_sync_operation_id : String
  monitoring_source_id : String
  source_instance_generation : String
  configuration_revision : ℕ
  scope_revision : ℕ
  provider_instance_ref : String
  provider_base_url : String
  credential_binding_ref : String

/-- The condition of a claim: a pending operation of the kind, whose authority is that of its
source. -/
def CoreTables.claimable (c : CoreTables) (kind : ResponsibilityKind) (slot : OperationRow → SourceRow → Bool)
    (op_id : String) : Option (OperationRow × SourceRow × SourceGeneration) := do
  let o ← c.operations.find? fun o =>
    o.monitoring_sync_operation_id = op_id ∧ o.state = .pending ∧ o.claim_token = none ∧
      o.responsibility_kind = kind
  let s ← c.sources.find? fun s =>
    s.monitoring_source_id = o.monitoring_source_id ∧
      s.active_source_instance_generation = o.source_instance_generation ∧
      s.configuration_revision = o.configuration_revision ∧ s.scope_revision = o.scope_revision ∧ slot o s
  let g ← c.generations.find? fun g =>
    g.monitoring_source_id = o.monitoring_source_id ∧ g.source_instance_generation = o.source_instance_generation
  return (o, s, g)

theorem claimable_some {c : CoreTables} {kind : ResponsibilityKind} {slot : OperationRow → SourceRow → Bool}
    {op_id : String} {o : OperationRow} {s : SourceRow} {g : SourceGeneration}
    (h : c.claimable kind slot op_id = some (o, s, g)) :
    (o ∈ c.operations ∧ o.monitoring_sync_operation_id = op_id ∧ o.state = .pending ∧ o.claim_token = none ∧
      o.responsibility_kind = kind) ∧
    (s ∈ c.sources ∧ s.monitoring_source_id = o.monitoring_source_id ∧
      s.active_source_instance_generation = o.source_instance_generation ∧
      s.configuration_revision = o.configuration_revision ∧ s.scope_revision = o.scope_revision ∧
      slot o s = true) ∧
    g ∈ c.generations ∧ g.monitoring_source_id = o.monitoring_source_id ∧
      g.source_instance_generation = o.source_instance_generation := by
  simp only [CoreTables.claimable, Option.bind_eq_bind, Option.bind_eq_some_iff] at h
  obtain ⟨o', ho, s', hs, g', hg, h⟩ := h
  obtain ⟨rfl, rfl, rfl⟩ : o' = o ∧ s' = s ∧ g' = g := by simpa using h
  exact ⟨⟨List.mem_of_find?_eq_some ho, by simpa using List.find?_some ho⟩,
    ⟨List.mem_of_find?_eq_some hs, by simpa using List.find?_some hs⟩,
    List.mem_of_find?_eq_some hg, by simpa using List.find?_some hg⟩

/-- Marks a pending operation as running under a token. -/
def CoreTables.markRunning (now : Timestamp) (op_id claim_token : String) (c : CoreTables) : CoreTables :=
  { c with
    operations := updateWhere
      (fun o => o.monitoring_sync_operation_id = op_id ∧ o.state = .pending ∧ o.claim_token = none)
      (fun o => { o with state := .running, claim_token := some claim_token, started_at := some now })
      c.operations }

/-- What a claim reads off its three rows. -/
def syncClaim (claim_token op_id : String) (o : OperationRow) (s : SourceRow) (g : SourceGeneration) :
    SyncClaim where
  claim_token := claim_token
  monitoring_sync_operation_id := op_id
  monitoring_source_id := o.monitoring_source_id
  source_instance_generation := o.source_instance_generation
  configuration_revision := o.configuration_revision
  scope_revision := o.scope_revision
  provider_instance_ref := g.provider_instance_ref
  provider_base_url := g.provider_base_url
  credential_binding_ref := s.credential_binding_ref

/-! ### Completions -/

/-- What every result says of its run. -/
structure SyncResult (φ : Type) where
  succeeded : Bool
  operation_state : SyncOperationState
  operational_evidence_state : EvidenceState
  failure_class : Option φ

/-- The fence of a completion: the operation runs under this claim, and the source is as claimed. -/
def CoreTables.fence (c : CoreTables) (claim : SyncClaim) (slot : SourceRow → Bool) : Bool :=
  c.operations.any fun o =>
    o.monitoring_sync_operation_id = claim.monitoring_sync_operation_id ∧ o.state = .running ∧
      o.claim_token = some claim.claim_token ∧
      c.sources.any fun s =>
        s.monitoring_source_id = o.monitoring_source_id ∧
          s.active_source_instance_generation = claim.source_instance_generation ∧
          s.configuration_revision = claim.configuration_revision ∧ s.scope_revision = claim.scope_revision ∧
          slot s

theorem fence_iff {c : CoreTables} {claim : SyncClaim} {slot : SourceRow → Bool} :
    c.fence claim slot = true ↔
      ∃ o ∈ c.operations, (o.monitoring_sync_operation_id = claim.monitoring_sync_operation_id ∧
        o.state = .running ∧ o.claim_token = some claim.claim_token) ∧
        ∃ s ∈ c.sources, s.monitoring_source_id = o.monitoring_source_id ∧
          s.active_source_instance_generation = claim.source_instance_generation ∧
          s.configuration_revision = claim.configuration_revision ∧ s.scope_revision = claim.scope_revision ∧
          slot s = true := by
  simp [CoreTables.fence, and_assoc]

/-- The new state of the source, and of the operation. -/
def CoreTables.close (now : Timestamp) (claim : SyncClaim) (operation_state : SyncOperationState)
    (evidence : EvidenceState) (last_error_class : Option String) (slot : SourceRow → SourceRow)
    (record : OperationRow → OperationRow) (c : CoreTables) : CoreTables :=
  { c with
    sources := updateWhere (fun s => s.monitoring_source_id = claim.monitoring_source_id)
      (fun s => slot { s with
        operational_evidence_state := evidence
        last_attempt_at := some now
        last_successful_sync_at := if operation_state = .succeeded then some now else s.last_successful_sync_at })
      c.sources
    operations := updateWhere
      (fun o => o.monitoring_sync_operation_id = claim.monitoring_sync_operation_id)
      (fun o => record { o with
        state := operation_state
        completed_at := some now
        last_error_class := last_error_class }) c.operations }

/-- `record_sync_usage`: one unit for an operation that exists. -/
def record_sync_usage (now : Timestamp) (op_id operation_kind : String) (c : CoreTables) : CoreTables :=
  match c.operations.find? fun o => o.monitoring_sync_operation_id = op_id with
  | none => c
  | some o => { c with usage := c.usage ++ [⟨op_id, s!"sync.operation.{operation_kind}", o.created_at, now⟩] }

@[simp] theorem record_sync_usage_sources (now : Timestamp) (op_id kind : String) (c : CoreTables) :
    (record_sync_usage now op_id kind c).sources = c.sources := by
  unfold record_sync_usage; split <;> rfl

@[simp] theorem record_sync_usage_operations (now : Timestamp) (op_id kind : String) (c : CoreTables) :
    (record_sync_usage now op_id kind c).operations = c.operations := by
  unfold record_sync_usage; split <;> rfl

@[simp] theorem record_sync_usage_validations (now : Timestamp) (op_id kind : String) (c : CoreTables) :
    (record_sync_usage now op_id kind c).validations = c.validations := by
  unfold record_sync_usage; split <;> rfl

@[simp] theorem record_sync_usage_generations (now : Timestamp) (op_id kind : String) (c : CoreTables) :
    (record_sync_usage now op_id kind c).generations = c.generations := by
  unfold record_sync_usage; split <;> rfl

/-- The end of every completion: a success is metered, and the operation is closed. -/
def CoreTables.finish {φ : Type} (now : Timestamp) (claim : SyncClaim) (result : SyncResult φ)
    (last_error_class : Option String) (operation_kind : String) (slot : SourceRow → SourceRow)
    (record : OperationRow → OperationRow) (c : CoreTables) : CoreTables :=
  let c := if result.succeeded then record_sync_usage now claim.monitoring_sync_operation_id operation_kind c else c
  c.close now claim result.operation_state result.operational_evidence_state last_error_class slot record

section Finish

variable {φ : Type} (now : Timestamp) (claim : SyncClaim) (result : SyncResult φ) (error : Option String)
  (kind : String) (slot : SourceRow → SourceRow) (record : OperationRow → OperationRow) (c : CoreTables)

@[simp] theorem finish_sources :
    (c.finish now claim result error kind slot record).sources =
      updateWhere (fun s => s.monitoring_source_id = claim.monitoring_source_id)
        (fun s => slot { s with
          operational_evidence_state := result.operational_evidence_state
          last_attempt_at := some now
          last_successful_sync_at :=
            if result.operation_state = .succeeded then some now else s.last_successful_sync_at }) c.sources := by
  simp only [CoreTables.finish, CoreTables.close]
  split_ifs <;> simp

@[simp] theorem finish_operations :
    (c.finish now claim result error kind slot record).operations =
      updateWhere (fun o => o.monitoring_sync_operation_id = claim.monitoring_sync_operation_id)
        (fun o => record { o with
          state := result.operation_state
          completed_at := some now
          last_error_class := error }) c.operations := by
  simp only [CoreTables.finish, CoreTables.close]
  split_ifs <;> simp

@[simp] theorem finish_generations : (c.finish now claim result error kind slot record).generations = c.generations := by
  simp only [CoreTables.finish, CoreTables.close]
  split_ifs <;> simp

@[simp] theorem finish_validations : (c.finish now claim result error kind slot record).validations = c.validations := by
  simp only [CoreTables.finish, CoreTables.close]
  split_ifs <;> simp

end Finish

/-! ### Validation -/

/-- `InitialValidationClaim`. -/
structure InitialValidationClaim extends SyncClaim where
  provider_scope_tenant_binding_id : String

/-- `InitialValidationResult`. -/
abbrev InitialValidationResult := SyncResult String

/-- `claim_initial_validation`. -/
def claim_initial_validation (now : Timestamp) (op_id claim_token : String) (db : SyncDb) :
    Except String (InitialValidationClaim × SyncDb) :=
  match db.core.claimable .validation_and_initial_sync (fun _ _ => true) op_id with
  | none => .error "monitoring.initial_validation_not_claimable"
  | some (o, s, g) =>
    .ok ({ toSyncClaim := syncClaim claim_token op_id o s g
           provider_scope_tenant_binding_id := s.provider_scope_tenant_binding_id },
      { db with core := db.core.markRunning now op_id claim_token })

/-- `operational_evidence_state` of a validation, which the table checks. -/
def validationEvidenceStates : List EvidenceState := [.current, .incomplete, .unavailable]

/-- `complete_initial_validation`. -/
def complete_initial_validation (now : Timestamp) (claim : InitialValidationClaim) (result : InitialValidationResult)
    (validation_evidence_id : String) (db : SyncDb) : Except String SyncDb := do
  require (db.core.fence claim.toSyncClaim fun s =>
    s.provider_scope_tenant_binding_id = claim.provider_scope_tenant_binding_id)
    "monitoring.initial_validation_claim_lost"
  require (validationEvidenceStates.contains result.operational_evidence_state) checkViolation
  let validations ← insertUnless (fun e => e.validation_evidence_id = validation_evidence_id) uniqueViolation
    { validation_evidence_id := validation_evidence_id, monitoring_source_id := claim.monitoring_source_id
      monitoring_sync_operation_id := claim.monitoring_sync_operation_id
      operational_evidence_state := result.operational_evidence_state, failure_class := result.failure_class }
    db.core.validations
  .ok { db with
    core := { db.core with validations := validations }.finish now claim.toSyncClaim result result.failure_class
      "initial_validation" id id }

theorem complete_initial_validation_ok {now : Timestamp} {claim : InitialValidationClaim}
    {result : InitialValidationResult} {id : String} {db db' : SyncDb}
    (h : complete_initial_validation now claim result id db = .ok db') :
    db.core.fence claim.toSyncClaim
        (fun s => s.provider_scope_tenant_binding_id = claim.provider_scope_tenant_binding_id) = true ∧
      (∀ e ∈ db.core.validations, e.validation_evidence_id ≠ id) ∧
      ∃ e : ValidationEvidence, e.validation_evidence_id = id ∧
        e.monitoring_sync_operation_id = claim.monitoring_sync_operation_id ∧
        db' = { db with
          core := { db.core with validations := db.core.validations ++ [e] }.finish now claim.toSyncClaim result
            result.failure_class "initial_validation" (fun x => x) (fun x => x) } := by
  obtain ⟨_, hfence, h⟩ := bind_ok_iff.1 h
  obtain ⟨_, -, h⟩ := bind_ok_iff.1 h
  obtain ⟨validations, hins, h⟩ := bind_ok_iff.1 h
  obtain ⟨hnew, rfl⟩ := insertUnless_ok_iff.1 hins
  exact ⟨require_ok_iff.1 hfence, fun e he => by simpa using hnew e he, _, rfl, rfl, (Except.ok.inj h).symm⟩

end JLMirror.Monitoring
