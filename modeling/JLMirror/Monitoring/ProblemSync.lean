import JLMirror.Monitoring.SyncOperations

/-!
# The problem worker in the schema

`claim_problem_state` and `complete_problem_state` of `ProblemState`, run on the whole schema: they
work on its problem view, and what they write is put back. A completion also records its usage here.
The admission and the trigger bindings, which the worker refreshes before it claims, are the rest of
`PgProblemStateRepository`.
-/

namespace JLMirror.Monitoring

open JLMirror.Foundations

/-- `reestablish_problem_admission`. -/
def reestablish_problem_admission (source_id generation : String) (db : SyncDb) : SyncDb :=
  match db.core.sources.find? fun s =>
      s.monitoring_source_id = source_id ∧ s.active_source_instance_generation = generation with
  | none => db
  | some s =>
    { db with problems := { db.problems with
        admissions :=
          if db.problems.admissions.any fun a => a.monitoring_source_id = source_id then
            updateWhere (fun a => a.monitoring_source_id = source_id)
              (fun a => { a with problem_poll_epoch := s.problem_poll_epoch }) db.problems.admissions
          else db.problems.admissions ++ [⟨source_id, s.problem_poll_epoch⟩] } }

/-- The upsert of a trigger binding. -/
def upsertTriggerBinding (rows : List TriggerBinding) (b : TriggerBinding) : List TriggerBinding :=
  let is : TriggerBinding → Bool := fun r =>
    r.monitoring_source_id = b.monitoring_source_id ∧
      r.source_instance_generation = b.source_instance_generation ∧
      r.provider_trigger_ref = b.provider_trigger_ref
  if rows.any is then updateWhere is (fun r => { r with monitoring_resource_id := b.monitoring_resource_id }) rows
  else rows ++ [b]

/-- `refresh_trigger_bindings`: triggers with their hosts. -/
def refresh_trigger_bindings (source_id generation : String) (trigger_host_pairs : List (String × String))
    (db : SyncDb) : SyncDb :=
  let host_to_resource : String → Option String := fun hostid =>
    (db.inventory.resources.find? fun r =>
      r.monitoring_source_id = source_id ∧ r.source_instance_generation = generation ∧ r.in_scope ∧
        r.provider_external_ref = hostid).map fun r => r.monitoring_resource_id
  let params := trigger_host_pairs.filterMap fun (trigger_ref, hostid) =>
    (host_to_resource hostid).map fun resource_id =>
      (⟨source_id, generation, trigger_ref, resource_id⟩ : TriggerBinding)
  { db with problems := { db.problems with
      triggerBindings := params.foldl upsertTriggerBinding db.problems.triggerBindings } }

/-- `claim_problem_state` on the schema. -/
def claim_problem_sync (now : Timestamp) (op_id claim_token : String) (db : SyncDb) :
    Except String (ProblemStateClaim × SyncDb) :=
  (claim_problem_state now op_id claim_token db.problemView).map fun x => (x.1, db.withProblemView now x.2)

/-- `complete_problem_state` on the schema. -/
def complete_problem_sync (now : Timestamp) (claim : ProblemStateClaim) (result : ProblemStateResult)
    (raw_rows : List ZabbixProblemEvidence) (recoveries : List ZabbixRecoveryEvidence) (db : SyncDb) :
    Except String SyncDb := do
  let p ← complete_problem_state now claim result raw_rows recoveries db.problemView
  require ((p.operations.drop db.core.operations.length).all fun o =>
    !db.core.operations.any fun r => r.monitoring_sync_operation_id = o.monitoring_sync_operation_id) uniqueViolation
  let core := if result.succeeded then
    record_sync_usage now claim.monitoring_sync_operation_id "problem_state" db.core else db.core
  .ok ({ db with core := core }.withProblemView now p)

variable {result : ProblemStateResult} {raw_rows : List ZabbixProblemEvidence}
  {recoveries : List ZabbixRecoveryEvidence}

theorem complete_problem_sync_ok {now : Timestamp} {claim : ProblemStateClaim} {db db' : SyncDb}
    (h : complete_problem_sync now claim result raw_rows recoveries db = .ok db') :
    ∃ p, complete_problem_state now claim result raw_rows recoveries db.problemView = .ok p ∧
      (∀ o ∈ p.operations.drop db.core.operations.length, ∀ r ∈ db.core.operations,
        r.monitoring_sync_operation_id ≠ o.monitoring_sync_operation_id) ∧
      db' = { db with
        core := if result.succeeded then
          record_sync_usage now claim.monitoring_sync_operation_id "problem_state" db.core
          else db.core }.withProblemView now p := by
  obtain ⟨p, hp, h⟩ := bind_ok_iff.1 h
  obtain ⟨_, hnew, h⟩ := bind_ok_iff.1 h
  refine ⟨p, hp, ?_, (Except.ok.inj h).symm⟩
  simpa using require_ok_iff.1 hnew

/-! ### What the passes of a completion leave alone -/

/-- The tables that the passes over a result only read. -/
structure OnlyProblems (db db' : MonitoringDb) : Prop where
  sources : db'.sources = db.sources
  generations : db'.generations = db.generations
  operations : db'.operations = db.operations
  admissions : db'.admissions = db.admissions
  resources : db'.resources = db.resources
  triggerBindings : db'.triggerBindings = db.triggerBindings
  snapshots : db'.snapshots = db.snapshots

theorem OnlyProblems.refl (db : MonitoringDb) : OnlyProblems db db := ⟨rfl, rfl, rfl, rfl, rfl, rfl, rfl⟩

theorem OnlyProblems.trans {db db' db'' : MonitoringDb} (h : OnlyProblems db db') (h' : OnlyProblems db' db'') :
    OnlyProblems db db'' :=
  ⟨h'.sources.trans h.sources, h'.generations.trans h.generations, h'.operations.trans h.operations,
    h'.admissions.trans h.admissions, h'.resources.trans h.resources, h'.triggerBindings.trans h.triggerBindings,
    h'.snapshots.trans h.snapshots⟩

theorem setProblem_only (id : ℕ) (f : MonitoringProblem → MonitoringProblem) (db : MonitoringDb) :
    OnlyProblems db (db.setProblem id f) := ⟨rfl, rfl, rfl, rfl, rfl, rfl, rfl⟩

section Passes

variable {now : Timestamp} {claim : ProblemStateClaim} {db db' : MonitoringDb}

theorem insert_transition_only {problem_id : ℕ} {resource_id : String} {from_state : Option ProblemState}
    {to_state : ProblemState} {from_sev : Option SeverityClass} {to_sev : SeverityClass} {reason : TransitionReason}
    {evidence_ref : String} {revision : ℕ}
    (h : _insert_transition now claim problem_id resource_id from_state to_state from_sev to_sev reason evidence_ref
      revision db = .ok db') : OnlyProblems db db' := by
  unfold _insert_transition at h
  split_ifs at h
  obtain ⟨db₁, hpub, h⟩ := bind_ok_iff.1 h
  obtain rfl := Except.ok.inj h
  unfold publish_invalidation at hpub
  split at hpub
  · split_ifs at hpub
    obtain rfl := Except.ok.inj hpub
    exact ⟨rfl, rfl, rfl, rfl, rfl, rfl, rfl⟩
  · obtain rfl := Except.ok.inj hpub
    exact ⟨rfl, rfl, rfl, rfl, rfl, rfl, rfl⟩

variable {prob : ProblemObservation}

theorem projectProblem_only {problem_id : ℕ} (h : projectProblem now claim prob problem_id db = .ok db') :
    OnlyProblems db db' := by
  unfold projectProblem at h
  split at h
  · have hrow : OnlyProblems db { db with problems := db.problems ++ [openedRow claim prob problem_id] } :=
      ⟨rfl, rfl, rfl, rfl, rfl, rfl, rfl⟩
    exact hrow.trans (insert_transition_only h)
  · dsimp only at h
    split_ifs at h
    · exact (setProblem_only _ _ db).trans (insert_transition_only h)
    · exact Except.ok.inj h ▸ setProblem_only _ _ db
    · exact Except.ok.inj h ▸ setProblem_only _ _ db

variable {raw_rows : List ZabbixProblemEvidence}

theorem persistProblem_only {s s' : MonitoringDb × List EventId}
    (h : persistProblem now claim raw_rows s prob = .ok s') : OnlyProblems s.1 s'.1 := by
  unfold persistProblem at h
  split at h
  · exact Except.ok.inj h ▸ .refl s.1
  · obtain ⟨_, -, h⟩ := bind_ok_iff.1 h
    obtain ⟨x, hbind, h⟩ := bind_ok_iff.1 h
    obtain ⟨db₁, hproj, h⟩ := bind_ok_iff.1 h
    have hbound : OnlyProblems s.1 x.2 := by
      unfold bindProblem at hbind
      split at hbind
      · exact Except.ok.inj hbind ▸ ⟨rfl, rfl, rfl, rfl, rfl, rfl, rfl⟩
      · split_ifs at hbind
        exact Except.ok.inj hbind ▸ .refl s.1
    rw [← Except.ok.inj h]
    exact hbound.trans (projectProblem_only hproj)

theorem persistRecovery_only {ev : ZabbixRecoveryEvidence} (h : persistRecovery now claim db ev = .ok db') :
    OnlyProblems db db' := by
  unfold persistRecovery at h
  split at h
  · exact Except.ok.inj h ▸ .refl db
  · split at h
    · exact (setProblem_only _ _ db).trans (insert_transition_only h)
    · split_ifs at h
      exact Except.ok.inj h ▸ .refl db

theorem apply_omission_only {complete_snapshot : Bool} {seen : List EventId}
    (h : _apply_omission now claim complete_snapshot seen db = .ok db') : OnlyProblems db db' := by
  unfold _apply_omission at h
  split_ifs at h
  · exact foldlM_invariant (P := OnlyProblems db)
      (fun db₁ p db₂ h₁ hround => h₁.trans ((setProblem_only _ _ db₁).trans (insert_transition_only hround)))
      (.refl db) h
  · exact Except.ok.inj h ▸ ⟨rfl, rfl, rfl, rfl, rfl, rfl, rfl⟩

variable {result : ProblemStateResult} {recoveries : List ZabbixRecoveryEvidence}

theorem reconcile_only (h : reconcile now claim result raw_rows recoveries db = .ok db') : OnlyProblems db db' := by
  obtain ⟨x, hpersist, h⟩ := bind_ok_iff.1 h
  obtain ⟨db₂, hrecover, h⟩ := bind_ok_iff.1 h
  have h₁ : OnlyProblems db x.1 := foldlM_invariant (P := fun s => OnlyProblems db s.1)
    (fun s prob s' hs hround => hs.trans (persistProblem_only hround)) (.refl db) hpersist
  have h₂ : OnlyProblems x.1 db₂ := foldlM_invariant (P := OnlyProblems x.1)
    (fun db₁ ev db₂ h₁ hround => h₁.trans (persistRecovery_only hround)) (.refl x.1) hrecover
  exact h₁.trans (h₂.trans (apply_omission_only h))

/-- What a completion writes beside the problems: the snapshot evidence of a success, the source, the operation,
and an operation that it queues. -/
theorem complete_problem_state_ok (h : complete_problem_state now claim result raw_rows recoveries db = .ok db') :
    db.fence claim = true ∧ ∃ db₁, applyResult now claim result raw_rows recoveries db = .ok db₁ ∧
      db₁.sources = db.sources ∧ db₁.operations = db.operations ∧ db₁.generations = db.generations ∧
      db₁.admissions = db.admissions ∧ db' = enqueueInventory claim result (closeOperation now claim result db₁) := by
  unfold complete_problem_state at h
  split_ifs at h with hfence
  obtain ⟨db₁, happly, rfl⟩ := map_ok_iff.1 h
  refine ⟨hfence, db₁, happly, ?_⟩
  unfold applyResult at happly
  split_ifs at happly
  · obtain ⟨db₂, hrec, rfl⟩ := map_ok_iff.1 happly
    have honly := reconcile_only hrec
    unfold recordSnapshot
    split_ifs <;> exact ⟨honly.sources, honly.operations, honly.generations, honly.admissions, rfl⟩
  · obtain rfl := Except.ok.inj happly
    exact ⟨rfl, rfl, rfl, rfl, rfl⟩

end Passes

/-! ### Sources and operations after it -/

theorem zipWith_updateWhere {α β : Type*} (view : α → β) (put : α → β → α) (hput : ∀ r, put r (view r) = r)
    (p : β → Bool) (f : β → β) (rows : List α) (more : List β) :
    List.zipWith put rows (updateWhere p f (rows.map view) ++ more) =
      updateWhere (fun r => p (view r)) (fun r => put r (f (view r))) rows := by
  induction rows with
  | nil => simp
  | cons r rows ih =>
    rw [List.map_cons, updateWhere_cons, List.cons_append, List.zipWith_cons_cons, ih, updateWhere_cons]
    split_ifs <;> simp [hput]

theorem drop_updateWhere {α β : Type*} (view : α → β) (p : β → Bool) (f : β → β) (rows : List α) (more : List β) :
    (updateWhere p f (rows.map view) ++ more).drop rows.length = more := by
  rw [List.drop_append_of_le_length (by simp [updateWhere]), List.drop_eq_nil_of_le (by simp [updateWhere]),
    List.nil_append]

/-- The operation that a completion queues, if any. -/
theorem enqueueInventory_operations (claim : ProblemStateClaim) (result : ProblemStateResult) (db : MonitoringDb) :
    (enqueueInventory claim result db).sources = db.sources ∧
      (enqueueInventory claim result db).generations = db.generations ∧
      ((enqueueInventory claim result db).operations = db.operations ∨
        ∃ o : SyncOperation, (o.responsibility_kind = .host_inventory_sync ∧ o.state = .pending ∧
          o.monitoring_source_id = claim.monitoring_source_id ∧ o.claim_token = none ∧
          o.source_instance_generation = claim.source_instance_generation ∧
          o.configuration_revision = claim.configuration_revision ∧ o.scope_revision = claim.scope_revision) ∧
          (enqueueInventory claim result db).operations = db.operations ++ [o]) := by
  unfold enqueueInventory
  split_ifs
  · exact ⟨rfl, rfl, Or.inr ⟨_, ⟨rfl, rfl, rfl, rfl, rfl, rfl, rfl⟩, rfl⟩⟩
  · exact ⟨rfl, rfl, Or.inl rfl⟩

/-- The source after a completion. -/
def SourceRow.problemsPolled (now : Timestamp) (result : ProblemStateResult) (s : SourceRow) : SourceRow :=
  { s with
    operational_evidence_state := result.operational_evidence_state
    last_attempt_at := some now
    last_successful_sync_at := if result.operation_state = .succeeded then some now else s.last_successful_sync_at }

/-- The state of the operation after a completion. -/
def ProblemStateResult.final (result : ProblemStateResult) : SyncOperationState :=
  if result.complete_snapshot then result.operation_state else .reconciliation_required

/-- The operation after a completion. -/
def OperationRow.problemsPolled (now : Timestamp) (result : ProblemStateResult) (o : OperationRow) : OperationRow :=
  { o with
    state := result.final
    completed_at := some now
    claim_token := none
    last_error_class := match result.failure_class with
      | some f => some f.value
      | none => if result.complete_snapshot then none else some "monitoring.problem_snapshot_incomplete" }

theorem complete_problem_sync_core {now : Timestamp} {claim : ProblemStateClaim} {db db' : SyncDb}
    (h : complete_problem_sync now claim result raw_rows recoveries db = .ok db') :
    db.problemView.fence claim = true ∧
      db'.core.sources = updateWhere (fun s => s.monitoring_source_id = claim.monitoring_source_id)
        (SourceRow.problemsPolled now result) db.core.sources ∧
      db'.core.generations = db.core.generations ∧
      ∃ new : List OperationRow, new.length ≤ 1 ∧
        (∀ o ∈ new, o.responsibility_kind = .host_inventory_sync ∧ o.state = .pending ∧
          o.monitoring_source_id = claim.monitoring_source_id ∧ o.claim_token = none ∧
          o.source_instance_generation = claim.source_instance_generation ∧
          o.configuration_revision = claim.configuration_revision ∧ o.scope_revision = claim.scope_revision) ∧
        (∀ o ∈ new, ∀ r ∈ db.core.operations, r.monitoring_sync_operation_id ≠ o.monitoring_sync_operation_id) ∧
        db'.core.operations = updateWhere
          (fun o => o.monitoring_sync_operation_id = claim.monitoring_sync_operation_id)
          (OperationRow.problemsPolled now result) db.core.operations ++ new := by
  obtain ⟨p, hp, hnew, rfl⟩ := complete_problem_sync_ok h
  obtain ⟨hfence, db₁, -, hsources, hops, hgens, -, rfl⟩ := complete_problem_state_ok hp
  obtain ⟨hsrc, -, hqueue⟩ := enqueueInventory_operations claim result (closeOperation now claim result db₁)
  have husage : (if result.succeeded then
        record_sync_usage now claim.monitoring_sync_operation_id "problem_state" db.core else db.core).sources =
          db.core.sources ∧ (if result.succeeded then
        record_sync_usage now claim.monitoring_sync_operation_id "problem_state" db.core else db.core).operations =
          db.core.operations ∧ (if result.succeeded then
        record_sync_usage now claim.monitoring_sync_operation_id "problem_state" db.core else db.core).generations =
          db.core.generations := by
    split_ifs <;> simp
  have hclosed : (closeOperation now claim result db₁).operations = updateWhere
      (fun o => o.monitoring_sync_operation_id = claim.monitoring_sync_operation_id)
      (fun o => (OperationRow.problemsPolled now result (OperationRow.ofNew now o)).toSyncOperation)
      (db.core.operations.map (·.toSyncOperation)) := by
    rw [closeOperation, hops]
    rfl
  have hpolled : (enqueueInventory claim result (closeOperation now claim result db₁)).sources = updateWhere
      (fun s => s.monitoring_source_id = claim.monitoring_source_id)
      (fun s => { s with
        operational_evidence_state := result.operational_evidence_state
        last_attempt_at := some now
        last_successful_sync_at := if result.operation_state = .succeeded then some now else s.last_successful_sync_at })
      (db.core.sources.map (·.toMonitoringSource)) ++ [] := by
    rw [hsrc, closeOperation, hsources, List.append_nil]
    rfl
  obtain ⟨new, hlen, hkind, heq⟩ : ∃ new : List SyncOperation, new.length ≤ 1 ∧
      (∀ o ∈ new, o.responsibility_kind = .host_inventory_sync ∧ o.state = .pending ∧
        o.monitoring_source_id = claim.monitoring_source_id ∧ o.claim_token = none ∧
        o.source_instance_generation = claim.source_instance_generation ∧
        o.configuration_revision = claim.configuration_revision ∧ o.scope_revision = claim.scope_revision) ∧
      (enqueueInventory claim result (closeOperation now claim result db₁)).operations = updateWhere
        (fun o => o.monitoring_sync_operation_id = claim.monitoring_sync_operation_id)
        (fun o => (OperationRow.problemsPolled now result (OperationRow.ofNew now o)).toSyncOperation)
        (db.core.operations.map (·.toSyncOperation)) ++ new := by
    rcases hqueue with hqueue | ⟨o, ho, hqueue⟩
    · exact ⟨[], by simp, by simp, by rw [hqueue, hclosed, List.append_nil]⟩
    · exact ⟨[o], by simp, by simpa using ho, by rw [hqueue, hclosed]⟩
  rw [heq, drop_updateWhere] at hnew
  refine ⟨hfence, ?_, ?_, new.map (OperationRow.ofNew now), by simpa using hlen, ?_, ?_, ?_⟩
  · simp only [SyncDb.withProblemView, husage, hpolled]
    rw [zipWith_updateWhere _ _ fun _ => rfl]
    rfl
  · simp only [SyncDb.withProblemView, husage]
  · simpa [OperationRow.ofNew] using hkind
  · simpa [OperationRow.ofNew] using hnew
  · simp only [SyncDb.withProblemView, husage, heq, drop_updateWhere]
    rw [zipWith_updateWhere _ _ fun _ => rfl]
    rfl

theorem claim_problem_sync_core {now : Timestamp} {op_id claim_token : String} {claim : ProblemStateClaim}
    {db db' : SyncDb} (h : claim_problem_sync now op_id claim_token db = .ok (claim, db')) :
    claim.claim_token = claim_token ∧ claim.monitoring_sync_operation_id = op_id ∧
      db'.problems = db.problems ∧ db'.nextId = db.nextId ∧ db'.core.generations = db.core.generations ∧
      db'.core.sources = updateWhere (fun s => s.monitoring_source_id = claim.monitoring_source_id)
        (fun s => { s with problem_poll_generation := claim.problem_poll_generation }) db.core.sources ∧
      db'.core.operations = updateWhere
        (fun o => o.monitoring_sync_operation_id = op_id ∧ o.state = .pending ∧ o.claim_token = none)
        (fun o => { o with
          state := .running
          claim_token := some claim_token
          started_at := some now
          problem_poll_epoch := some claim.problem_poll_epoch
          problem_poll_generation := some claim.problem_poll_generation }) db.core.operations := by
  obtain ⟨x, hx, h⟩ := map_ok_iff.1 h
  obtain ⟨rfl, rfl⟩ := Prod.mk.inj h
  unfold claim_problem_state at hx
  split at hx
  · cases hx
  · dsimp only at hx
    split_ifs at hx
    obtain rfl := Except.ok.inj hx
    refine ⟨rfl, rfl, rfl, rfl, rfl, ?_, ?_⟩
    · simp only [SyncDb.withProblemView, SyncDb.problemView]
      rw [← List.append_nil (updateWhere _ _ (List.map _ _)), zipWith_updateWhere _ _ fun _ => rfl]
    · simp only [SyncDb.withProblemView, SyncDb.problemView]
      rw [← List.append_nil (updateWhere _ _ (List.map _ _)), zipWith_updateWhere _ _ fun _ => rfl, drop_updateWhere,
        List.map_nil, List.append_nil]

end JLMirror.Monitoring
