import JLMirror.Monitoring.PollOrder
import Mathlib.Data.Fintype.EquivFin

/-!
# The run of a requeued operation

`requeue_sync_operation` puts a terminal operation of any kind back to `pending`. Whether it can then run again is up
to the worker of its kind: what the claim asks for, what the fence of the completion compares, and which table holds
the evidence.

## The model

* `Requeueable` says that the requeue returns `TRUE`, and that the authority of the operation is that of its source.
* `Succeeds` is a success of the worker whose projection goes through, under ids that are not taken.
* `Recorded` is the evidence of such a completion: its row where the kind has an evidence table, and what the readers
  see of it.
* `RunsNext` puts them together: a worker can claim the operation, and a success of the claim commits with its
  evidence.

## What is proved

* `claimable_requeued`: what a claim finds after a requeue.
* `inventory_runs_iff`, `definitions_runs_iff`, …: when the operation of a worker runs.
* **Key result** (`requeue_runs_iff`): a requeued operation runs again exactly if it has no evidence row yet, its poll
  slot is still the next one, and what else its claim asks for is there.
* An inventory sync that failed once cannot complete again (`failedInventory_stuck`).
-/

namespace JLMirror.Monitoring

open JLMirror.Foundations

/-! ### Requeue -/

/-- The schema after a requeue. -/
def SyncDb.requeue (source_id op_id : String) (db : SyncDb) : SyncDb :=
  { db with core := (requeue_sync_operation source_id op_id db.core).2 }

/-- The source after a requeue of one of its operations. -/
def SourceRow.restored (s : SourceRow) : SourceRow :=
  if s.operational_evidence_state = .reconciliation_required then { s with operational_evidence_state := .current }
  else s

/-- A requeue of the operation returns `TRUE`, and the operation has the authority of its source. -/
structure CoreTables.Requeueable (c : CoreTables) (source_id op_id : String) (o : OperationRow) (s : SourceRow) :
    Prop where
  returned : (requeue_sync_operation source_id op_id c).1 = true
  operation : o ∈ c.operations ∧ o.monitoring_sync_operation_id = op_id
  source : s ∈ c.sources ∧ s.monitoring_source_id = source_id ∧
    s.active_source_instance_generation = o.source_instance_generation ∧
    s.configuration_revision = o.configuration_revision ∧ s.scope_revision = o.scope_revision
  generation : ∃ g ∈ c.generations, g.monitoring_source_id = source_id ∧
    g.source_instance_generation = o.source_instance_generation

@[simp] theorem restored_monitoring_source_id (s : SourceRow) :
    s.restored.monitoring_source_id = s.monitoring_source_id := by
  unfold SourceRow.restored
  split_ifs <;> rfl

theorem restored_eq (s : SourceRow) :
    ∃ evidence, s.restored = { s with operational_evidence_state := evidence } ∧
      (evidence = .current ↔ s.operational_evidence_state = .current ∨
        s.operational_evidence_state = .reconciliation_required) := by
  unfold SourceRow.restored
  split_ifs with h
  · exact ⟨.current, rfl, by simp [h]⟩
  · exact ⟨s.operational_evidence_state, rfl, by simp [h]⟩

/-- What a requeue that returns `TRUE` leaves. -/
structure Restored (c c' : CoreTables) (source_id op_id : String) (o : OperationRow) (s : SourceRow) : Prop where
  keyed : c'.Keyed
  owner : o.monitoring_source_id = source_id
  operation : o.requeued ∈ c'.operations
  source : s.restored ∈ c'.sources
  generations : c'.generations = c.generations

variable {c : CoreTables}

theorem Restored.of_requeue {source_id op_id : String} {o : OperationRow} {s : SourceRow} (hk : c.Keyed)
    (h : c.Requeueable source_id op_id o s) :
    Restored c (requeue_sync_operation source_id op_id c).2 source_id op_id o s := by
  have hkept := (requeue_quiet source_id op_id c).keyed hk
  obtain ⟨hret, ⟨ho, hid⟩, ⟨hs, hsource, -⟩, -⟩ := h
  unfold requeue_sync_operation at hret hkept ⊢
  dsimp only at hret hkept ⊢
  split_ifs at hret hkept ⊢ with hone
  obtain ⟨x, hx, hsel⟩ := List.countP_pos_iff.1
    (by omega : 0 < c.operations.countP (OperationRow.requeues source_id op_id))
  have hsel' : x.monitoring_source_id = source_id ∧ x.monitoring_sync_operation_id = op_id ∧
      x.state.requeueable = true := of_decide_eq_true hsel
  obtain rfl : o = x := eq_of_key hk.operations ho hx (hid.trans hsel'.2.1.symm)
  refine ⟨hkept, hsel'.1, mem_updateWhere.2 ⟨o, ho, if_pos hsel⟩, mem_updateWhere.2 ⟨s, hs, ?_⟩, rfl⟩
  simp [SourceRow.restored, hsource]

/-- What a claim finds after a requeue: the three rows, if the slot of its kind lets it. -/
theorem claimable_requeued {c' : CoreTables} {source_id op_id : String} {o : OperationRow} {s : SourceRow}
    (h : c.Requeueable source_id op_id o s) (hr : Restored c c' source_id op_id o s) :
    ∃ g, ∀ slot : OperationRow → SourceRow → Bool, c'.claimable o.responsibility_kind slot op_id =
      if slot o.requeued s.restored then some (o.requeued, s.restored, g) else none := by
  obtain ⟨-, ⟨-, hid⟩, ⟨-, hsource, hgen, hconf, hscope⟩, g₀, hg₀, hgsource, hggen⟩ := h
  obtain ⟨evidence, hrestored, -⟩ := restored_eq s
  obtain ⟨g, hg⟩ : ∃ g, c'.generations.find? (fun g => g.monitoring_source_id = o.requeued.monitoring_source_id ∧
      g.source_instance_generation = o.requeued.source_instance_generation) = some g := by
    refine Option.isSome_iff_exists.1 (List.find?_isSome.2 ⟨g₀, hr.generations ▸ hg₀, ?_⟩)
    exact decide_eq_true ⟨hgsource.trans hr.owner.symm, hggen⟩
  refine ⟨g, fun slot => ?_⟩
  have hop : c'.operations.find? (fun r => r.monitoring_sync_operation_id = op_id ∧ r.state = .pending ∧
      r.claim_token = none ∧ r.responsibility_kind = o.responsibility_kind) = some o.requeued := by
    rw [find?_of_key hr.keyed.operations hr.operation fun r hr' => (of_decide_eq_true hr').1.trans hid.symm, if_pos]
    exact decide_eq_true ⟨hid, rfl, rfl, rfl⟩
  have hsrc : c'.sources.find? (fun r => r.monitoring_source_id = o.requeued.monitoring_source_id ∧
      r.active_source_instance_generation = o.requeued.source_instance_generation ∧
      r.configuration_revision = o.requeued.configuration_revision ∧
      r.scope_revision = o.requeued.scope_revision ∧ slot o.requeued r) =
        if slot o.requeued s.restored then some s.restored else none := by
    have hsid : s.restored.monitoring_source_id = o.requeued.monitoring_source_id := by
      rw [restored_monitoring_source_id, hsource]
      exact hr.owner.symm
    rw [find?_of_key hr.keyed.sources hr.source fun r hr' => (of_decide_eq_true hr').1.trans hsid.symm]
    congr 1
    have hauth : s.restored.active_source_instance_generation = o.requeued.source_instance_generation ∧
        s.restored.configuration_revision = o.requeued.configuration_revision ∧
        s.restored.scope_revision = o.requeued.scope_revision := by
      rw [hrestored]
      exact ⟨hgen, hconf, hscope⟩
    rw [decide_eq_true_eq]
    exact propext ⟨fun h => h.2.2.2.2, fun h => ⟨hsid, hauth.1, hauth.2.1, hauth.2.2, h⟩⟩
  unfold CoreTables.claimable
  rw [hop]
  simp only [Option.bind_eq_bind, Option.bind_some, hsrc]
  split_ifs
  · simp only [Option.bind_some, hg]
    rfl
  · rfl

theorem fence_of_claimable {now : Timestamp} {kind : ResponsibilityKind} {slot : OperationRow → SourceRow → Bool}
    {op_id token : String} {o : OperationRow} {s : SourceRow} {g : SourceGeneration}
    (h : c.claimable kind slot op_id = some (o, s, g)) {slot' : SourceRow → Bool} (hslot : slot' s = true) :
    (c.markRunning now op_id token).fence (syncClaim token op_id o s g) slot' = true := by
  obtain ⟨⟨ho, hid, hpending, hnone, -⟩, ⟨hs, hsource, hgen, hconf, hscope, -⟩, -⟩ := claimable_some h
  have hrow : { o with state := .running, claim_token := some token, started_at := some now } ∈
      (c.markRunning now op_id token).operations :=
    mem_updateWhere.2 ⟨o, ho, by simp [hid, hpending, hnone]⟩
  exact fence_iff.2 ⟨_, hrow, ⟨hid, rfl, rfl⟩, s, hs, hsource, hgen, hconf, hscope, hslot⟩

/-! ### Completions that go through -/

section Completions

variable {domain : Domain} {now : Timestamp} {db : SyncDb}

/-- The operation of a fence, after a completion that records something on it. -/
theorem finish_recorded {φ : Type} {claim : SyncClaim} {fence : SourceRow → Bool} (now : Timestamp)
    (result : SyncResult φ) {error : Option String} {kind : String} {slot : SourceRow → SourceRow}
    {record : OperationRow → OperationRow} (hfence : c.fence claim fence = true) :
    ∃ o, record o ∈ (c.finish now claim result error kind slot record).operations ∧
      o.monitoring_sync_operation_id = claim.monitoring_sync_operation_id := by
  obtain ⟨o, ho, ⟨hid, -⟩, -⟩ := fence_iff.1 hfence
  refine ⟨{ o with state := result.operation_state, completed_at := some now, last_error_class := error }, ?_, hid⟩
  rw [finish_operations]
  exact mem_updateWhere.2 ⟨o, ho, if_pos (decide_eq_true hid)⟩

variable {claim : HostInventoryClaim} {result : HostInventoryResult} {id : String}

theorem applyInventory_snapshots {s s' : InventoryTables × ℕ} (h : applyInventory claim result id s = .ok s') :
    s'.1.snapshots = s.1.snapshots := by
  unfold applyInventory at h
  split_ifs at h
  · obtain ⟨x, hfold, h⟩ := bind_ok_iff.1 h
    obtain rfl := Except.ok.inj h
    refine foldlM_invariant (P := fun x => x.1.snapshots = s.1.snapshots) (fun x host x' hx hround => ?_) rfl hfold
    obtain ⟨_, -, hround⟩ := bind_ok_iff.1 hround
    obtain ⟨_, -, hround⟩ := bind_ok_iff.1 hround
    exact Except.ok.inj hround ▸ hx
  · exact Except.ok.inj h ▸ rfl

theorem applyDefinitions_snapshots {claim : MetricDefinitionClaim} {result : MetricDefinitionResult}
    {host_map : String → Option String} {s s' : MetricTables × ℕ}
    (h : applyDefinitions domain claim result id host_map s = .ok s') : s'.1.snapshots = s.1.snapshots := by
  unfold applyDefinitions at h
  split_ifs at h
  · obtain ⟨x, hfold, h⟩ := bind_ok_iff.1 h
    obtain rfl := Except.ok.inj h
    refine foldlM_invariant (P := fun x => x.1.snapshots = s.1.snapshots) (fun x item x' hx hround => ?_) rfl hfold
    obtain ⟨_, _, t, -, hup, -, rfl⟩ := persistItem_ok hround
    rcases upsertItem_ok hup with ⟨b, -, -, rfl⟩ | ⟨-, -, -, rfl⟩ <;> exact hx
  · exact Except.ok.inj h ▸ rfl

theorem complete_initial_validation_runs {claim : InitialValidationClaim} {result : InitialValidationResult}
    (hfence : db.core.fence claim.toSyncClaim
      (fun s => s.provider_scope_tenant_binding_id = claim.provider_scope_tenant_binding_id) = true)
    (hcheck : validationEvidenceStates.contains result.operational_evidence_state = true)
    (hnew : ∀ e ∈ db.core.validations, e.validation_evidence_id ≠ id) :
    ∃ db', complete_initial_validation now claim result id db = .ok db' ∧
      db'.core.validations = db.core.validations ++ [⟨id, claim.monitoring_source_id, claim.monitoring_sync_operation_id,
        result.operational_evidence_state, result.failure_class⟩] := by
  refine ⟨_, bind_ok_iff.2 ⟨(), require_ok_iff.2 hfence, bind_ok_iff.2 ⟨(), require_ok_iff.2 hcheck,
    bind_ok_iff.2 ⟨_, insertUnless_of_new fun e he => decide_eq_false (hnew e he), rfl⟩⟩⟩, ?_⟩
  exact finish_validations ..

theorem complete_host_inventory_runs {x : InventoryTables × ℕ} (hfence : db.core.fence claim.toSyncClaim
      (fun s => s.provider_scope_tenant_binding_id = claim.provider_scope_tenant_binding_id) = true)
    (hcheck : (inventoryEvidence claim result id).check = true)
    (hnew : ∀ e ∈ db.inventory.snapshots, e.host_inventory_snapshot_evidence_id ≠ id ∧
      e.monitoring_sync_operation_id ≠ claim.monitoring_sync_operation_id)
    (happly : applyInventory claim result id ({ db.inventory with
      snapshots := db.inventory.snapshots ++ [inventoryEvidence claim result id] }, db.nextId) = .ok x) :
    ∃ db', complete_host_inventory now claim result id db = .ok db' ∧
      db'.inventory.snapshots = db.inventory.snapshots ++ [inventoryEvidence claim result id] ∧
      ∃ o ∈ db'.core.operations, o.monitoring_sync_operation_id = claim.monitoring_sync_operation_id ∧
        o.host_inventory_snapshot_evidence_id = some id := by
  refine ⟨_, bind_ok_iff.2 ⟨(), require_ok_iff.2 hfence, bind_ok_iff.2 ⟨(), require_ok_iff.2 hcheck,
    bind_ok_iff.2 ⟨_, insertUnless_of_new fun e he => decide_eq_false (not_or.2 (hnew e he)),
      bind_ok_iff.2 ⟨x, happly, rfl⟩⟩⟩⟩, applyInventory_snapshots happly, ?_⟩
  obtain ⟨o, ho, hid⟩ := finish_recorded now result.toSyncResult hfence
  exact ⟨_, ho, hid, rfl⟩

theorem complete_metric_definitions_runs {claim : MetricDefinitionClaim} {result : MetricDefinitionResult}
    {x : MetricTables × ℕ} (hfence : db.core.fence claim.toSyncClaim claim.slot = true)
    (hhosts : db.inventory.hostsPresent claim result.items = true)
    (hcheck : (definitionEvidence claim result id).check = true)
    (hnew : ∀ e ∈ db.metrics.snapshots, e.metric_definition_snapshot_evidence_id ≠ id ∧
      e.monitoring_sync_operation_id ≠ claim.monitoring_sync_operation_id)
    (happly : applyDefinitions domain claim result id (db.inventory.hostResource claim) ({ db.metrics with
      snapshots := db.metrics.snapshots ++ [definitionEvidence claim result id] }, db.nextId) = .ok x) :
    ∃ db', complete_metric_definitions domain now claim result id db = .ok db' ∧
      db'.metrics.snapshots = db.metrics.snapshots ++ [definitionEvidence claim result id] ∧
      ∃ o ∈ db'.core.operations, o.monitoring_sync_operation_id = claim.monitoring_sync_operation_id ∧
        o.metric_definition_snapshot_evidence_id = some id := by
  have heff : effective claim result db.inventory = result := by simp [effective, hhosts]
  unfold complete_metric_definitions
  rw [heff]
  refine ⟨_, bind_ok_iff.2 ⟨(), require_ok_iff.2 hfence, bind_ok_iff.2 ⟨(), require_ok_iff.2 hcheck,
    bind_ok_iff.2 ⟨_, insertUnless_of_new fun e he => decide_eq_false (not_or.2 (hnew e he)),
      bind_ok_iff.2 ⟨x, happly, rfl⟩⟩⟩⟩, applyDefinitions_snapshots happly, ?_⟩
  obtain ⟨o, ho, hid⟩ := finish_recorded now result.toSyncResult hfence
  exact ⟨_, ho, hid, rfl⟩

/-- A poll leaves every sample in the ledger: its own acceptance, or the one that was there. -/
theorem persistObservation_fold_accepts {claim : MetricCurrentStateClaim} {samples : List AcceptedObservation}
    {s s' : ObservationTables × ℕ} (h : samples.foldlM (persistObservation claim) s = .ok s') :
    (∀ a ∈ s.1.acceptances, a ∈ s'.1.acceptances) ∧
      ∀ obs ∈ samples, ∃ a ∈ s'.1.acceptances, a.sample = (pollAcceptance claim obs).sample := by
  induction samples generalizing s with
  | nil =>
    obtain rfl := foldlM_nil_ok.1 h
    exact ⟨fun _ ha => ha, fun _ h => absurd h List.not_mem_nil⟩
  | cons obs samples ih =>
    obtain ⟨s₁, hround, hrest⟩ := foldlM_cons_ok.1 h
    obtain ⟨hkeep, hrest⟩ := ih hrest
    have hround : (∀ a ∈ s.1.acceptances, a ∈ s₁.1.acceptances) ∧
        ∃ a ∈ s₁.1.acceptances, a.sample = (pollAcceptance claim obs).sample := by
      rcases persistObservation_ok hround with ⟨⟨a, ha, hsample⟩, rfl⟩ | ⟨-, -, hround⟩
      · exact ⟨fun _ ha => ha, a, ha, hsample⟩
      · have hledger : s₁.1.acceptances = s.1.acceptances ++ [pollAcceptance claim obs] := by
          rcases advanceCurrent_ok hround with ⟨-, ⟨-, rfl⟩ | ⟨-, hins⟩⟩ | ⟨c, a, -, ⟨-, hins⟩ | ⟨-, rfl⟩⟩
          · rfl
          · obtain ⟨_, -, -, rfl⟩ := insertTransition_ok hins
            rfl
          · obtain ⟨_, -, -, rfl⟩ := insertTransition_ok hins
            rfl
          · rfl
        rw [hledger]
        exact ⟨fun a ha => List.mem_append_left _ ha, _, List.mem_append_right _ (List.mem_singleton_self _), rfl⟩
    refine ⟨fun a ha => hkeep a (hround.1 a ha), fun obs' hobs' => ?_⟩
    rcases List.mem_cons.1 hobs' with rfl | hobs'
    · obtain ⟨a, ha, hsample⟩ := hround.2
      exact ⟨a, hkeep a ha, hsample⟩
    · exact hrest obs' hobs'

variable {x : ObservationTables × ℕ}

theorem complete_metric_current_state_runs {claim : MetricCurrentStateClaim} {result : MetricCurrentStateResult}
    (hfence : db.core.fence claim.toSyncClaim claim.slot = true) (hsucc : result.succeeded = true)
    (happly : applyObservations claim result (db.observations, db.nextId) = .ok x) :
    ∃ db', complete_metric_current_state now claim result db = .ok db' ∧
      ∀ obs ∈ result.accepted_observations, ∃ a ∈ db'.observations.acceptances,
        a.sample = (pollAcceptance claim obs).sample := by
  refine ⟨_, bind_ok_iff.2 ⟨(), require_ok_iff.2 hfence, bind_ok_iff.2 ⟨x, happly, rfl⟩⟩, ?_⟩
  unfold applyObservations at happly
  rw [if_pos hsucc] at happly
  obtain ⟨y, hfold, happly⟩ := bind_ok_iff.1 happly
  obtain rfl := Except.ok.inj happly
  exact (persistObservation_fold_accepts hfold).2

/-- The upserts of the targets leave a stream of each, with the coverage of the completion. -/
theorem upsertStream_fold_covered {claim : MetricHistoryClaim} {coverage : HistoryCoverageState}
    {targets : List HistoryMetricTarget} {streams : List HistoryStream} {target : HistoryMetricTarget}
    (h : target ∈ targets ∨ ∃ r ∈ streams, r.is claim.monitoring_source_id claim.source_instance_generation
      (target.provider_external_ref, target.history_value_type) = true ∧ r.coverage_state = coverage ∧
        r.updated_at = now) :
    ∃ r ∈ targets.foldl (upsertStream now claim coverage) streams,
      r.is claim.monitoring_source_id claim.source_instance_generation
        (target.provider_external_ref, target.history_value_type) = true ∧
      r.coverage_state = coverage ∧ r.updated_at = now := by
  induction targets generalizing streams with
  | nil => exact h.resolve_left List.not_mem_nil
  | cons t targets ih =>
    refine ih ?_
    rcases h with hmem | ⟨r, hr, his, hcov, hnow⟩
    · rcases List.mem_cons.1 hmem with rfl | hmem
      · refine Or.inr ?_
        unfold upsertStream
        dsimp only
        split_ifs with hthere
        · obtain ⟨r, hr, his⟩ := List.any_eq_true.1 hthere
          exact ⟨_, mem_updateWhere.2 ⟨r, hr, if_pos his⟩, his, rfl, rfl⟩
        · exact ⟨_, List.mem_append_right _ (List.mem_singleton_self _), by simp [HistoryStream.is], rfl, rfl⟩
      · exact Or.inl hmem
    · -- A later upsert of the same stream sets the same coverage.
      refine Or.inr ?_
      unfold upsertStream
      dsimp only
      split_ifs
      · refine ⟨_, mem_updateWhere.2 ⟨r, hr, rfl⟩, ?_⟩
        split_ifs
        · exact ⟨his, rfl, rfl⟩
        · exact ⟨his, hcov, hnow⟩
      · exact ⟨r, List.mem_append_left _ hr, his, hcov, hnow⟩

theorem complete_metric_history_runs {claim : MetricHistoryClaim} {result : MetricHistoryResult}
    {raw_rows : List ZabbixHistoryEvidence} (hfence : db.core.fence claim.toSyncClaim (fun _ => true) = true)
    (happly : applyHistory domain now claim result raw_rows (db.observations, db.nextId) = .ok x)
    (hnew : ∀ o ∈ db.core.operations, o.monitoring_sync_operation_id ≠ opaqueId "mon-op" x.2) :
    ∃ db', complete_metric_history domain now claim result raw_rows db = .ok db' ∧
      ∀ target ∈ claim.targets, ∃ r ∈ db'.observations.streams,
        r.is claim.monitoring_source_id claim.source_instance_generation
          (target.provider_external_ref, target.history_value_type) = true ∧
        r.coverage_state = historyCoverage result ∧ r.updated_at = now := by
  obtain ⟨t, gaps, -, -, hx⟩ := applyHistory_ok happly
  have hcovered : ∀ target ∈ claim.targets, ∃ r ∈ x.1.streams,
      r.is claim.monitoring_source_id claim.source_instance_generation
        (target.provider_external_ref, target.history_value_type) = true ∧
      r.coverage_state = historyCoverage result ∧ r.updated_at = now := by
    intro target htarget
    rw [hx]
    exact upsertStream_fold_covered (Or.inl htarget)
  have hclosed : ∀ o ∈ (db.core.finish now claim.toSyncClaim result.toSyncResult
      (result.failure_class.map MetricHistoryFailureClass.value) "metric_history" id id).operations,
        o.monitoring_sync_operation_id ≠ opaqueId "mon-op" x.2 := by
    intro o ho
    rw [finish_operations] at ho
    obtain ⟨o', ho', rfl⟩ := mem_updateWhere.1 ho
    split_ifs <;> exact hnew o' ho'
  obtain ⟨db', hchain, hobs⟩ : ∃ db', chainHistory domain now claim result { db with
      core := db.core.finish now claim.toSyncClaim result.toSyncResult
        (result.failure_class.map MetricHistoryFailureClass.value) "metric_history" id id
      observations := x.1
      nextId := x.2 } = .ok db' ∧ db'.observations = x.1 := by
    unfold chainHistory
    split_ifs
    · exact ⟨_, bind_ok_iff.2 ⟨_, insertUnless_ok_iff.2 ⟨fun o ho => decide_eq_false (hclosed o ho), rfl⟩, rfl⟩, rfl⟩
    · exact ⟨_, rfl, rfl⟩
  exact ⟨db', bind_ok_iff.2 ⟨(), require_ok_iff.2 hfence, bind_ok_iff.2 ⟨x, happly, hchain⟩⟩,
    fun target htarget => hobs ▸ hcovered target htarget⟩

/-- The evidence row of a problem poll. -/
def problemEvidence (claim : ProblemStateClaim) (result : ProblemStateResult)
    (recoveries : List ZabbixRecoveryEvidence) (snapshot_evidence_id : ℕ) : SnapshotEvidence where
  snapshot_evidence_id := snapshot_evidence_id
  monitoring_sync_operation_id := claim.monitoring_sync_operation_id
  monitoring_source_id := claim.monitoring_source_id
  source_instance_generation := claim.source_instance_generation
  problem_poll_epoch := claim.problem_poll_epoch
  problem_poll_generation := claim.problem_poll_generation
  snapshot_complete := result.complete_snapshot
  active_problem_count := result.problems.length
  recovery_count := recoveries.length
  operation_state := result.operation_state
  operational_evidence_state := result.operational_evidence_state
  configuration_revision := claim.configuration_revision
  scope_revision := claim.scope_revision

/-- What the problem worker claims. -/
theorem problemView_claimable (op_id : String) (db : SyncDb) :
    db.problemView.claimable op_id =
      (db.core.claimable .problem_state_sync (fun _ s => s.operational_evidence_state = .current) op_id).map
        fun x => (x.1.toSyncOperation, x.2.1.toMonitoringSource, x.2.2) := by
  simp only [MonitoringDb.claimable, CoreTables.claimable, SyncDb.problemView, List.find?_map, Option.bind_eq_bind,
    Option.bind_map, Option.map_bind, Function.comp_def]
  cases db.core.operations.find? fun o => decide (o.monitoring_sync_operation_id = op_id ∧ o.state = .pending ∧
      o.claim_token = none ∧ o.responsibility_kind = .problem_state_sync) with
  | none => rfl
  | some o => simp

/-- The admission of a source, in its epoch. -/
def ProblemTables.admits (t : ProblemTables) (s : SourceRow) : Bool :=
  t.admissions.any fun a =>
    a.monitoring_source_id = s.monitoring_source_id ∧ a.problem_poll_epoch = s.problem_poll_epoch

/-- A claim of the problem worker goes through where its operation is claimable and the source is admitted. -/
theorem claim_problem_sync_runs (now : Timestamp) {op_id : String} (token : String) {o : OperationRow} {s : SourceRow} {g : SourceGeneration}
    (h : db.core.claimable .problem_state_sync (fun _ s => s.operational_evidence_state = .current) op_id =
      some (o, s, g)) (hadm : db.problems.admits s = true) :
    ∃ claim db', claim_problem_sync now op_id token db = .ok (claim, db') ∧
      claim.monitoring_source_id = s.monitoring_source_id ∧
      claim.source_instance_generation = o.source_instance_generation ∧
      claim.configuration_revision = o.configuration_revision ∧ claim.scope_revision = o.scope_revision ∧
      claim.problem_poll_epoch = s.problem_poll_epoch ∧
      claim.problem_poll_generation = s.problem_poll_generation + 1 := by
  have hadm : (db.problemView.admissions.any fun a => decide (a.monitoring_source_id = s.monitoring_source_id ∧
      a.problem_poll_epoch = s.problem_poll_epoch)) = true := hadm
  have hclaim := problemView_claimable op_id db
  rw [h, Option.map_some] at hclaim
  obtain ⟨x, hx, hclaimed⟩ : ∃ x, claim_problem_state now op_id token db.problemView = .ok x ∧
      x.1.monitoring_source_id = s.monitoring_source_id ∧
      x.1.source_instance_generation = o.source_instance_generation ∧
      x.1.configuration_revision = o.configuration_revision ∧ x.1.scope_revision = o.scope_revision ∧
      x.1.problem_poll_epoch = s.problem_poll_epoch ∧
      x.1.problem_poll_generation = s.problem_poll_generation + 1 := by
    unfold claim_problem_state
    rw [hclaim]
    dsimp only
    rw [if_neg (by simp only [hadm, Bool.not_true, Bool.false_eq_true, not_false_eq_true])]
    exact ⟨_, rfl, rfl, rfl, rfl, rfl, rfl, rfl⟩
  exact ⟨x.1, _, map_ok_iff.2 ⟨x, hx, rfl⟩, hclaimed⟩

/-- And only there. -/
theorem claim_problem_sync_ok {op_id token : String} {claim : ProblemStateClaim} {db' : SyncDb}
    (h : claim_problem_sync now op_id token db = .ok (claim, db')) :
    ∃ o s g, db.core.claimable .problem_state_sync (fun _ s => s.operational_evidence_state = .current) op_id =
      some (o, s, g) ∧ db.problems.admits s = true := by
  obtain ⟨x, hx, -⟩ := map_ok_iff.1 h
  unfold claim_problem_state at hx
  rw [problemView_claimable] at hx
  cases hclaim : db.core.claimable .problem_state_sync (fun _ s => s.operational_evidence_state = .current) op_id with
  | none => simp [hclaim] at hx
  | some y =>
    obtain ⟨o, s, g⟩ := y
    refine ⟨o, s, g, rfl, ?_⟩
    rw [hclaim] at hx
    dsimp only [Option.map_some] at hx
    split_ifs at hx with hno
    exact (Bool.not_eq_false' _).mp (Bool.eq_false_iff.2 hno)

/-- A completion of the problem worker goes through where its passes do. Its evidence is written unless the operation
has some. -/
theorem complete_problem_sync_runs (now : Timestamp) {claim : ProblemStateClaim} {result : ProblemStateResult}
    {raw_rows : List ZabbixProblemEvidence} {recoveries : List ZabbixRecoveryEvidence} {p : MonitoringDb}
    (hfence : db.problemView.fence claim = true) (hsucc : result.succeeded = true) (hfail : result.failure_class = none)
    (hrec : reconcile now claim result raw_rows recoveries db.problemView = .ok p) :
    ∃ db', complete_problem_sync now claim result raw_rows recoveries db = .ok db' ∧
      db'.problems.snapshots =
        if db.problems.snapshots.any fun e => e.monitoring_sync_operation_id = claim.monitoring_sync_operation_id then
          db.problems.snapshots
        else db.problems.snapshots ++ [problemEvidence claim result recoveries p.nextId] := by
  have honly := reconcile_only hrec
  have hresult : applyResult now claim result raw_rows recoveries db.problemView =
      .ok (recordSnapshot claim result recoveries p) := by
    rw [applyResult, if_pos hsucc]
    exact map_ok_iff.2 ⟨p, hrec, rfl⟩
  have hqueue : enqueueInventory claim result (closeOperation now claim result (recordSnapshot claim result recoveries p)) =
      closeOperation now claim result (recordSnapshot claim result recoveries p) := by
    rw [enqueueInventory, if_neg (by simp [hfail])]
  have hstate : complete_problem_state now claim result raw_rows recoveries db.problemView =
      .ok (closeOperation now claim result (recordSnapshot claim result recoveries p)) := by
    rw [complete_problem_state, if_pos hfence, hresult, Except.map, hqueue]
  have hops : (recordSnapshot claim result recoveries p).operations = db.problemView.operations := by
    rw [← honly.operations]
    unfold recordSnapshot
    split_ifs <;> rfl
  have hnone : (closeOperation now claim result (recordSnapshot claim result recoveries p)).operations.drop
      db.core.operations.length = [] := by
    rw [closeOperation, hops]
    exact List.drop_eq_nil_of_le (by simp [updateWhere, SyncDb.problemView])
  refine ⟨_, bind_ok_iff.2 ⟨_, hstate, bind_ok_iff.2 ⟨(), require_ok_iff.2 (by rw [hnone]; rfl), rfl⟩⟩, ?_⟩
  change (recordSnapshot claim result recoveries p).snapshots = _
  have hsnap : p.snapshots = db.problems.snapshots := honly.snapshots
  unfold recordSnapshot
  rw [hsnap]
  split_ifs
  · exact hsnap
  · rfl

end Completions

/-! ### The next run -/

/-- The result is a success. -/
structure SyncResult.Success {φ : Type} (r : SyncResult φ) : Prop where
  succeeded : r.succeeded = true
  operation_state : r.operation_state = .succeeded
  failure_class : r.failure_class = none

namespace Sync

/-- The tables of the inventory with the evidence row of a completion. -/
def withInventoryEvidence (c : HostInventoryClaim) (result : HostInventoryResult) (id : String) (db : SyncDb) :
    InventoryTables × ℕ :=
  ({ db.inventory with snapshots := db.inventory.snapshots ++ [inventoryEvidence c result id] }, db.nextId)

/-- The tables of the definitions with the evidence row of a completion. -/
def withDefinitionEvidence (c : MetricDefinitionClaim) (result : MetricDefinitionResult) (id : String) (db : SyncDb) :
    MetricTables × ℕ :=
  ({ db.metrics with snapshots := db.metrics.snapshots ++ [definitionEvidence c result id] }, db.nextId)

/-- A success of the worker, whose projection goes through, with ids that are not taken. -/
def Succeeds (domain : Domain) (now : Timestamp) (db : SyncDb) : Claim → Report → Prop
  | .validation _, .validation result id =>
    result.Success ∧ validationEvidenceStates.contains result.operational_evidence_state = true ∧
      ∀ e ∈ db.core.validations, e.validation_evidence_id ≠ id
  | .inventory c, .inventory result id =>
    result.Success ∧ (inventoryEvidence c result id).check = true ∧
      (∀ e ∈ db.inventory.snapshots, e.host_inventory_snapshot_evidence_id ≠ id) ∧
      ∃ x, applyInventory c result id (withInventoryEvidence c result id db) = .ok x
  | .definitions c, .definitions result id =>
    result.Success ∧ db.inventory.hostsPresent c result.items = true ∧ (definitionEvidence c result id).check = true ∧
      (∀ e ∈ db.metrics.snapshots, e.metric_definition_snapshot_evidence_id ≠ id) ∧
      ∃ x, applyDefinitions domain c result id (db.inventory.hostResource c) (withDefinitionEvidence c result id db) =
        .ok x
  | .currentState c, .currentState result =>
    result.Success ∧ ∃ x, applyObservations c result (db.observations, db.nextId) = .ok x
  | .history c, .history result raw_rows =>
    result.Success ∧ ∃ x, applyHistory domain now c result raw_rows (db.observations, db.nextId) = .ok x ∧
      ∀ o ∈ db.core.operations, o.monitoring_sync_operation_id ≠ opaqueId "mon-op" x.2
  | .problemState c, .problemState result raw_rows recoveries =>
    result.succeeded = true ∧ result.operation_state = .succeeded ∧ result.failure_class = none ∧
      ∃ p, reconcile now c result raw_rows recoveries db.problemView = .ok p
  | _, _ => False

/-- The evidence that a completion leaves is its own. -/
def Recorded (now : Timestamp) (db db' : SyncDb) : Claim → Report → Prop
  | .validation c, .validation result id =>
    db'.core.validations = db.core.validations ++ [⟨id, c.monitoring_source_id, c.monitoring_sync_operation_id,
      result.operational_evidence_state, result.failure_class⟩]
  | .inventory c, .inventory result id =>
    db'.inventory.snapshots = db.inventory.snapshots ++ [inventoryEvidence c result id] ∧
      ∃ o ∈ db'.core.operations, o.monitoring_sync_operation_id = c.monitoring_sync_operation_id ∧
        o.host_inventory_snapshot_evidence_id = some id
  | .definitions c, .definitions result id =>
    db'.metrics.snapshots = db.metrics.snapshots ++ [definitionEvidence c result id] ∧
      (∃ o ∈ db'.core.operations, o.monitoring_sync_operation_id = c.monitoring_sync_operation_id ∧
        o.metric_definition_snapshot_evidence_id = some id) ∧
      db'.core.slotAt .item_definition c.monitoring_source_id =
        some (c.item_definition_poll_epoch, c.item_definition_poll_generation)
  | .currentState c, .currentState result =>
    (∀ obs ∈ result.accepted_observations, ∃ a ∈ db'.observations.acceptances,
        a.sample = (pollAcceptance c obs).sample) ∧
      db'.core.slotAt .current_state c.monitoring_source_id =
        some (c.current_state_poll_epoch, c.current_state_poll_generation)
  | .history c, .history result _ =>
    ∀ target ∈ c.targets, ∃ r ∈ db'.observations.streams,
      r.is c.monitoring_source_id c.source_instance_generation
        (target.provider_external_ref, target.history_value_type) = true ∧
      r.coverage_state = historyCoverage result ∧ r.updated_at = now
  | .problemState c, .problemState result _ recoveries =>
    ∃ id, db'.problems.snapshots = db.problems.snapshots ++ [problemEvidence c result recoveries id] ∧
      (result.complete_snapshot = true → result.operational_evidence_state = .current →
        ∀ s ∈ db'.core.sources, s.monitoring_source_id = c.monitoring_source_id → db'.latestSnapshot s = some id)
  | _, _ => False

/-- A worker can claim the operation, and a success of the claim commits with its evidence. -/
def RunsNext (domain : Domain) (w : Worker) (op_id : String) (db : SyncDb) : Prop :=
  ∀ now token, ∃ c db₁, claim domain now w op_id token db = .ok (some c, db₁) ∧
    ∀ now' report, Succeeds domain now' db₁ c report →
      ∃ db₂, complete domain now' c report db₁ = .ok db₂ ∧ Recorded now' db₁ db₂ c report

/-- Nothing of an earlier run is in the way of the operation. -/
def runsNext (domain : Domain) (db : SyncDb) (o : OperationRow) (s : SourceRow) : Bool :=
  match o.responsibility_kind with
  | .validation_and_initial_sync => true
  | .host_inventory_sync =>
    !db.inventory.snapshots.any fun e => e.monitoring_sync_operation_id = o.monitoring_sync_operation_id
  | .metric_definition_poll =>
    definitionSlot o s &&
      !db.metrics.snapshots.any fun e => e.monitoring_sync_operation_id = o.monitoring_sync_operation_id
  | .current_state_poll => currentStateSlot o s
  | .metric_history_sync =>
    !(db.metrics.historyPage domain o.monitoring_source_id o.source_instance_generation
      o.history_item_cursor).isEmpty && o.history_time_from.isSome && o.history_time_till.isSome
  | .problem_state_sync =>
    (s.operational_evidence_state = .current || s.operational_evidence_state = .reconciliation_required) &&
      db.problems.admits s &&
      !db.problems.snapshots.any fun e => e.monitoring_sync_operation_id = o.monitoring_sync_operation_id
  | _ => false

/-! ### The workers -/

theorem exists_fresh {α : Type} (k : α → String) (rows : List α) : ∃ id, ∀ r ∈ rows, k r ≠ id := by
  obtain ⟨id, hid⟩ := Infinite.exists_notMem_finset (rows.map k).toFinset
  exact ⟨id, fun r hr heq => hid (List.mem_toFinset.2 (List.mem_map.2 ⟨r, hr, heq⟩))⟩

/-- The snapshot that was recorded last, where it is complete and under the authority of the source. -/
theorem latestSnapshot_appended {db : SyncDb} {s : SourceRow} {rows : List SnapshotEvidence} {e : SnapshotEvidence}
    (hsnap : db.problems.snapshots = rows ++ [e])
    (he : e.monitoring_source_id = s.monitoring_source_id ∧
      e.source_instance_generation = s.active_source_instance_generation ∧ e.snapshot_complete = true ∧
      e.operation_state = .succeeded ∧ e.operational_evidence_state = .current ∧
      e.configuration_revision = s.configuration_revision ∧ e.scope_revision = s.scope_revision) :
    db.latestSnapshot s = some e.snapshot_evidence_id := by
  rw [SyncDb.latestSnapshot, hsnap, List.reverse_append, List.reverse_singleton, List.singleton_append,
    List.find?_cons_of_pos, Option.map_some]
  exact decide_eq_true he

section Claims

variable {domain : Domain} {now : Timestamp} {db : SyncDb} {op_id token : String} {o : OperationRow} {s : SourceRow}
  {g : SourceGeneration}

theorem claim_validation (h : db.core.claimable .validation_and_initial_sync (fun _ _ => true) op_id = some (o, s, g)) :
    claim domain now .validation op_id token db =
      .ok (some (.validation { toSyncClaim := syncClaim token op_id o s g
                               provider_scope_tenant_binding_id := s.provider_scope_tenant_binding_id }),
        { db with core := db.core.markRunning now op_id token }) := by
  rw [claim, claim_initial_validation, h]
  rfl

theorem claim_inventory (h : db.core.claimable .host_inventory_sync (fun _ _ => true) op_id = some (o, s, g)) :
    claim domain now .inventory op_id token db =
      .ok (some (.inventory { toSyncClaim := syncClaim token op_id o s g
                              provider_scope_tenant_binding_id := s.provider_scope_tenant_binding_id }),
        { db with core := db.core.markRunning now op_id token }) := by
  rw [claim, claim_host_inventory, h]
  rfl

theorem claim_definitions (h : db.core.claimable .metric_definition_poll definitionSlot op_id = some (o, s, g)) :
    claim domain now .definitions op_id token db =
      .ok (some (.definitions { toSyncClaim := syncClaim token op_id o s g
                                provider_scope_tenant_binding_id := s.provider_scope_tenant_binding_id
                                item_definition_poll_epoch := s.item_definition_poll_epoch
                                item_definition_poll_generation := s.item_definition_poll_generation + 1 }),
        { db with core := db.core.markRunning now op_id token }) := by
  rw [claim, claim_metric_definitions, h]
  rfl

theorem claim_definitions_none (h : db.core.claimable .metric_definition_poll definitionSlot op_id = none) :
    claim domain now .definitions op_id token db = .error "monitoring.metric_definition_not_claimable" := by
  rw [claim, claim_metric_definitions, h]
  rfl

theorem claim_currentState (h : db.core.claimable .current_state_poll currentStateSlot op_id = some (o, s, g)) :
    claim domain now .currentState op_id token db =
      .ok (some (.currentState
          { toSyncClaim := syncClaim token op_id o s g
            current_state_poll_epoch := s.current_state_poll_epoch
            current_state_poll_generation := s.current_state_poll_generation + 1
            targets := (db.metrics.pollable o.monitoring_source_id o.source_instance_generation).map fun (d, b) =>
              ⟨d.metric_definition_id, d.monitoring_resource_id, b.provider_external_ref, d.value_kind⟩ }),
        { db with core := db.core.markRunning now op_id token }) := by
  rw [claim, claim_metric_current_state, h]
  rfl

theorem claim_currentState_none (h : db.core.claimable .current_state_poll currentStateSlot op_id = none) :
    claim domain now .currentState op_id token db = .error "monitoring.current_state_not_claimable" := by
  rw [claim, claim_metric_current_state, h]
  rfl

theorem claim_history {time_from time_till : ℤ}
    (h : db.core.claimable .metric_history_sync (fun _ _ => true) op_id = some (o, s, g))
    (htargets : (db.metrics.historyPage domain o.monitoring_source_id o.source_instance_generation
      o.history_item_cursor).isEmpty = false)
    (hfrom : o.history_time_from = some time_from) (htill : o.history_time_till = some time_till) :
    claim domain now .history op_id token db =
      .ok (some (.history { toSyncClaim := syncClaim token op_id o s g
                            targets := db.metrics.historyPage domain o.monitoring_source_id
                              o.source_instance_generation o.history_item_cursor
                            window := ⟨time_from, time_till⟩ }),
        { db with core := db.core.markRunning now op_id token }) := by
  rw [claim, claim_metric_history, h]
  simp only [htargets, Bool.false_eq_true, if_false, hfrom, htill]
  rfl

/-- A claim of a history sync needs targets, and a window. -/
theorem claim_history_some {c : Claim} {db' : SyncDb}
    (h : db.core.claimable .metric_history_sync (fun _ _ => true) op_id = some (o, s, g))
    (hc : claim domain now .history op_id token db = .ok (some c, db')) :
    (db.metrics.historyPage domain o.monitoring_source_id o.source_instance_generation
      o.history_item_cursor).isEmpty = false ∧ o.history_time_from.isSome = true ∧ o.history_time_till.isSome = true := by
  rw [claim, claim_metric_history, h] at hc
  obtain ⟨x, hx, hc⟩ := map_ok_iff.1 hc
  obtain ⟨c', hc', -⟩ := Option.map_eq_some_iff.1 (Prod.mk.inj hc).1
  dsimp only at hx
  split_ifs at hx with htargets
  · obtain rfl := Except.ok.inj hx
    cases hc'
  · split at hx
    · rename_i hfrom htill
      exact ⟨Bool.eq_false_iff.2 htargets, by rw [hfrom]; rfl, by rw [htill]; rfl⟩
    · obtain rfl := Except.ok.inj hx
      cases hc'

theorem claim_problemState_some {c : Claim} {db' : SyncDb}
    (h : claim domain now .problemState op_id token db = .ok (some c, db')) :
    ∃ c', c = .problemState c' ∧ claim_problem_sync now op_id token db = .ok (c', db') := by
  obtain ⟨x, hx, h⟩ := map_ok_iff.1 h
  obtain ⟨hc, hdb⟩ := Prod.mk.inj h
  have hdb : x.2 = db' := hdb
  exact ⟨x.1, (Option.some.inj hc).symm, hdb ▸ hx⟩

end Claims

section Workers

variable {domain : Domain} {db : SyncDb} {source_id op_id : String} {o : OperationRow} {s : SourceRow}

/-- A validation runs again. -/
theorem validation_runs (hk : db.core.Keyed) (h : db.core.Requeueable source_id op_id o s)
    (hkind : o.responsibility_kind = .validation_and_initial_sync) :
    RunsNext domain .validation op_id (db.requeue source_id op_id) := by
  obtain ⟨g, hclaimable⟩ := claimable_requeued h (.of_requeue hk h)
  have hsome := (hclaimable fun _ _ => true).trans (if_pos rfl)
  rw [hkind] at hsome
  refine fun now token => ⟨_, _, claim_validation hsome, fun now' report hsucc => ?_⟩
  cases report with
  | validation result id =>
    obtain ⟨-, hcheck, hnew⟩ := hsucc
    exact complete_initial_validation_runs (fence_of_claimable hsome (decide_eq_true rfl)) hcheck hnew
  | _ => exact hsucc.elim

/-- An inventory sync runs again, unless it has evidence. -/
theorem inventory_runs_iff (hk : db.core.Keyed) (h : db.core.Requeueable source_id op_id o s)
    (hkind : o.responsibility_kind = .host_inventory_sync) :
    RunsNext domain .inventory op_id (db.requeue source_id op_id) ↔
      ∀ e ∈ db.inventory.snapshots, e.monitoring_sync_operation_id ≠ op_id := by
  obtain ⟨g, hclaimable⟩ := claimable_requeued h (.of_requeue hk h)
  have hsome := (hclaimable fun _ _ => true).trans (if_pos rfl)
  rw [hkind] at hsome
  constructor
  · intro hruns e he hop
    obtain ⟨c, db₁, hc, hnext⟩ := hruns 0 ""
    rw [claim_inventory hsome] at hc
    obtain ⟨hclaim, rfl⟩ := Prod.mk.inj (Except.ok.inj hc)
    obtain rfl := Option.some.inj hclaim
    obtain ⟨id, hid⟩ := exists_fresh HostInventoryEvidence.host_inventory_snapshot_evidence_id db.inventory.snapshots
    obtain ⟨db₂, hcomplete, -⟩ := hnext 0
      (.inventory { SyncResult.ok _ with snapshot_complete := true, hosts := [] } id)
      ⟨⟨rfl, rfl, rfl⟩, rfl, hid, _, rfl⟩
    obtain ⟨-, -, hnew, -⟩ := complete_host_inventory_ok hcomplete
    exact (hnew e he).2 hop
  · intro hfresh now token
    refine ⟨_, _, claim_inventory hsome, fun now' report hsucc => ?_⟩
    cases report with
    | inventory result id =>
      obtain ⟨-, hcheck, hnew, x, hx⟩ := hsucc
      exact complete_host_inventory_runs (fence_of_claimable hsome (decide_eq_true rfl)) hcheck
        (fun e he => ⟨hnew e he, hfresh e he⟩) hx
    | _ => exact hsucc.elim

/-- The slot of a poll, after a completion of its claim. -/
theorem slotAt_completed {now now' : Timestamp} {c : Claim} {p : SlotClaim} {token : String} {g : SourceGeneration}
    {report : Report} {db₀ db₁ db₂ : SyncDb} (hp : slotClaim c = some p)
    (hcore : db₁.core = db₀.core.markRunning now op_id token) (hk : db₀.core.Keyed) (ho : o ∈ db₀.core.operations)
    (hid : o.monitoring_sync_operation_id = op_id) (hclaim : p.toSyncClaim = syncClaim token op_id o s g)
    (h : complete domain now' c report db₁ = .ok db₂) :
    db₂.core.slotAt p.kind p.monitoring_source_id = some (p.epoch, p.generation) := by
  have hquiet := markRunning_quiet now op_id token db₀.core
  rw [← hcore] at hquiet
  obtain ⟨o', ho', hid', hsource'⟩ := hquiet.owner o ho
  obtain ⟨-, n, hgen, -, hafter⟩ := complete_slot hp (hquiet.keyed hk)
    ⟨o', ho', by rw [hid', hid, hclaim]; rfl, by rw [hsource', hclaim]; rfl⟩ h
  rw [hafter, if_pos ⟨rfl, rfl⟩, hgen]

/-- A poll of definitions runs again where its slot is the next one, unless it has evidence. -/
theorem definitions_runs_iff (hk : db.core.Keyed) (h : db.core.Requeueable source_id op_id o s)
    (hkind : o.responsibility_kind = .metric_definition_poll) :
    RunsNext domain .definitions op_id (db.requeue source_id op_id) ↔
      definitionSlot o s = true ∧ ∀ e ∈ db.metrics.snapshots, e.monitoring_sync_operation_id ≠ op_id := by
  have hres := Restored.of_requeue hk h
  obtain ⟨g, hclaimable⟩ := claimable_requeued h hres
  have hslot : definitionSlot o.requeued s.restored = definitionSlot o s := by
    obtain ⟨evidence, heq, -⟩ := restored_eq s
    rw [heq]
    rfl
  have hclaimable := hclaimable definitionSlot
  rw [hkind, hslot] at hclaimable
  constructor
  · intro hruns
    obtain ⟨c, db₁, hc, hnext⟩ := hruns 0 ""
    by_cases hs : definitionSlot o s = true
    · rw [if_pos hs] at hclaimable
      rw [claim_definitions hclaimable] at hc
      obtain ⟨hclaim, rfl⟩ := Prod.mk.inj (Except.ok.inj hc)
      obtain rfl := Option.some.inj hclaim
      refine ⟨hs, fun e he hop => ?_⟩
      obtain ⟨id, hid⟩ := exists_fresh MetricDefinitionEvidence.metric_definition_snapshot_evidence_id
        db.metrics.snapshots
      obtain ⟨db₂, hcomplete, -⟩ := hnext 0
        (.definitions { SyncResult.ok _ with snapshot_complete := true, items := [] } id)
        ⟨⟨rfl, rfl, rfl⟩, rfl, rfl, hid, _, rfl⟩
      obtain ⟨-, -, hnew, -⟩ := complete_metric_definitions_ok hcomplete
      exact (hnew e he).2 hop
    · rw [if_neg hs] at hclaimable
      rw [claim_definitions_none hclaimable] at hc
      cases hc
  · rintro ⟨hs, hfresh⟩ now token
    rw [if_pos hs] at hclaimable
    refine ⟨_, _, claim_definitions hclaimable, fun now' report hsucc => ?_⟩
    cases report with
    | definitions result id =>
      obtain ⟨-, hhosts, hcheck, hnew, x, hx⟩ := hsucc
      obtain ⟨db₂, hc, hsnap, hop⟩ := complete_metric_definitions_runs
        (fence_of_claimable hclaimable (decide_eq_true ⟨rfl, rfl, rfl⟩)) hhosts hcheck
        (fun e he => ⟨hnew e he, hfresh e he⟩) hx
      have hc : complete domain now' (.definitions _) (.definitions result id) _ = .ok db₂ := hc
      exact ⟨db₂, hc, hsnap, hop,
        slotAt_completed (o := o.requeued) rfl rfl hres.keyed hres.operation h.operation.2 rfl hc⟩
    | _ => exact hsucc.elim

/-- A poll of current states runs again where its slot is the next one. -/
theorem currentState_runs_iff (hk : db.core.Keyed) (h : db.core.Requeueable source_id op_id o s)
    (hkind : o.responsibility_kind = .current_state_poll) :
    RunsNext domain .currentState op_id (db.requeue source_id op_id) ↔ currentStateSlot o s = true := by
  have hres := Restored.of_requeue hk h
  obtain ⟨g, hclaimable⟩ := claimable_requeued h hres
  have hslot : currentStateSlot o.requeued s.restored = currentStateSlot o s := by
    obtain ⟨evidence, heq, -⟩ := restored_eq s
    rw [heq]
    rfl
  have hclaimable := hclaimable currentStateSlot
  rw [hkind, hslot] at hclaimable
  constructor
  · intro hruns
    obtain ⟨c, db₁, hc, -⟩ := hruns 0 ""
    by_contra hs
    rw [if_neg hs] at hclaimable
    rw [claim_currentState_none hclaimable] at hc
    cases hc
  · intro hs now token
    rw [if_pos hs] at hclaimable
    refine ⟨_, _, claim_currentState hclaimable, fun now' report hsucc => ?_⟩
    cases report with
    | currentState result =>
      obtain ⟨hsuccess, x, hx⟩ := hsucc
      obtain ⟨db₂, hc, hledger⟩ := complete_metric_current_state_runs
        (fence_of_claimable hclaimable (decide_eq_true ⟨rfl, rfl⟩)) hsuccess.succeeded hx
      have hc : complete domain now' (.currentState _) (.currentState result) _ = .ok db₂ := hc
      exact ⟨db₂, hc, hledger,
        slotAt_completed (o := o.requeued) rfl rfl hres.keyed hres.operation h.operation.2 rfl hc⟩
    | _ => exact hsucc.elim

/-- A history sync runs again where it finds targets, and has a window. -/
theorem history_runs_iff (hk : db.core.Keyed) (h : db.core.Requeueable source_id op_id o s)
    (hkind : o.responsibility_kind = .metric_history_sync) :
    RunsNext domain .history op_id (db.requeue source_id op_id) ↔
      (db.metrics.historyPage domain o.monitoring_source_id o.source_instance_generation
        o.history_item_cursor).isEmpty = false ∧
        o.history_time_from.isSome = true ∧ o.history_time_till.isSome = true := by
  obtain ⟨g, hclaimable⟩ := claimable_requeued h (.of_requeue hk h)
  have hsome := (hclaimable fun _ _ => true).trans (if_pos rfl)
  rw [hkind] at hsome
  have hsome : (db.requeue source_id op_id).core.claimable .metric_history_sync (fun _ _ => true) op_id =
      some (o.requeued, s.restored, g) := hsome
  constructor
  · intro hruns
    obtain ⟨c, db₁, hc, -⟩ := hruns 0 ""
    have hneeds := claim_history_some hsome hc
    exact hneeds
  · rintro ⟨htargets, hfrom, htill⟩ now token
    obtain ⟨time_from, hfrom⟩ := Option.isSome_iff_exists.1 hfrom
    obtain ⟨time_till, htill⟩ := Option.isSome_iff_exists.1 htill
    refine ⟨_, _, claim_history hsome htargets hfrom htill, fun now' report hsucc => ?_⟩
    cases report with
    | history result raw_rows =>
      obtain ⟨-, x, hx, hnew⟩ := hsucc
      exact complete_metric_history_runs (fence_of_claimable hsome rfl) hx hnew
    | _ => exact hsucc.elim

/-- A problem sync runs again where the requeue restores the evidence of its source, and the source is admitted,
unless it has evidence. -/
theorem problemState_runs_iff (hk : db.core.Keyed) (h : db.core.Requeueable source_id op_id o s)
    (hkind : o.responsibility_kind = .problem_state_sync) :
    RunsNext domain .problemState op_id (db.requeue source_id op_id) ↔
      (s.operational_evidence_state = .current ∨ s.operational_evidence_state = .reconciliation_required) ∧
        db.problems.admits s = true ∧ ∀ e ∈ db.problems.snapshots, e.monitoring_sync_operation_id ≠ op_id := by
  have hres := Restored.of_requeue hk h
  obtain ⟨evidence, heq, hevidence⟩ := restored_eq s
  have hadmits : db.problems.admits s.restored = db.problems.admits s := by
    rw [heq]
    rfl
  obtain ⟨g, hclaimable⟩ := claimable_requeued h hres
  have hclaimable := hclaimable fun _ s => s.operational_evidence_state = .current
  rw [hkind] at hclaimable
  have hcurrent : decide (s.restored.operational_evidence_state = .current) = true ↔
      s.operational_evidence_state = .current ∨ s.operational_evidence_state = .reconciliation_required := by
    rw [decide_eq_true_eq, heq]
    exact hevidence
  have hclaimable : (db.requeue source_id op_id).core.claimable .problem_state_sync
      (fun _ s => s.operational_evidence_state = .current) op_id = _ := hclaimable
  rw [← hcurrent, ← hadmits]
  constructor
  · intro hruns
    obtain ⟨c, db₁, hc, hnext⟩ := hruns 0 ""
    obtain ⟨c, rfl, hclaim⟩ := claim_problemState_some hc
    obtain ⟨o', s', g', hsome, hadm⟩ := claim_problem_sync_ok hclaim
    rw [hclaimable] at hsome
    split_ifs at hsome with hs
    obtain ⟨-, rfl, -⟩ : o.requeued = o' ∧ s.restored = s' ∧ g = g' := by simpa using hsome
    refine ⟨hs, hadm, fun e he hop => ?_⟩
    obtain ⟨-, hid, hproblems, -⟩ := claim_problem_sync_core hclaim
    have hsnap : db₁.problems.snapshots = db.problems.snapshots := by
      rw [hproblems]
      rfl
    -- A success that is not complete is a success, too.
    obtain ⟨p, hp⟩ : ∃ p, reconcile 0 c ⟨true, false, .succeeded, .reconciliation_required, none, []⟩ [] []
        db₁.problemView = .ok p := ⟨_, rfl⟩
    obtain ⟨db₂, hcomplete, id, hrec, -⟩ := hnext 0 (.problemState _ [] []) ⟨rfl, rfl, rfl, p, hp⟩
    obtain ⟨db₂', hcomplete', hsnap'⟩ :=
      complete_problem_sync_runs 0 (complete_problem_sync_core hcomplete).1 rfl rfl hp
    obtain rfl : db₂ = db₂' := Except.ok.inj (hcomplete.symm.trans hcomplete')
    rw [hsnap, if_pos (List.any_eq_true.2 ⟨e, he, decide_eq_true (hop.trans hid.symm)⟩)] at hsnap'
    simp [hsnap', hsnap] at hrec
  · rintro ⟨hs, hadm, hfresh⟩ now token
    rw [if_pos hs] at hclaimable
    obtain ⟨c, db₁, hc, hsource, hgen, hconf, hscope, hepoch, -⟩ :=
      claim_problem_sync_runs now token hclaimable hadm
    obtain ⟨htoken, hid, hproblems, -, -, hsources, hoperations⟩ := claim_problem_sync_core hc
    have hsrc : { s.restored with problem_poll_generation := c.problem_poll_generation } ∈ db₁.core.sources := by
      rw [hsources]
      exact mem_updateWhere.2 ⟨s.restored, hres.source, if_pos (decide_eq_true hsource.symm)⟩
    have hop : { o.requeued with
        state := .running, claim_token := some token, started_at := some now
        problem_poll_epoch := some c.problem_poll_epoch
        problem_poll_generation := some c.problem_poll_generation } ∈ db₁.core.operations := by
      rw [hoperations]
      exact mem_updateWhere.2 ⟨o.requeued, hres.operation, if_pos (decide_eq_true ⟨h.operation.2, rfl, rfl⟩)⟩
    have howner : s.restored.monitoring_source_id = o.requeued.monitoring_source_id := by
      rw [restored_monitoring_source_id, h.source.2.1]
      exact hres.owner.symm
    have hauth : s.restored.active_source_instance_generation = c.source_instance_generation ∧
        s.restored.configuration_revision = c.configuration_revision ∧
        s.restored.scope_revision = c.scope_revision := by
      rw [heq, hgen, hconf, hscope]
      exact h.source.2.2
    have hfence : db₁.problemView.fence c = true := by
      refine List.any_eq_true.2 ⟨_, List.mem_map_of_mem hop, decide_eq_true ⟨h.operation.2.trans hid.symm, rfl,
        congrArg some htoken.symm, List.any_eq_true.2 ⟨_, List.mem_map_of_mem hsrc, decide_eq_true ?_⟩⟩⟩
      exact ⟨howner, hauth.1, hauth.2.1, hauth.2.2, hepoch.symm, rfl⟩
    refine ⟨_, _, map_ok_iff.2 ⟨_, hc, rfl⟩, fun now' report hsucc => ?_⟩
    cases report with
    | problemState result raw_rows recoveries =>
      obtain ⟨hsuccess, hstate, hfail, p, hrec⟩ := hsucc
      obtain ⟨db₂, hcomplete, hsnap⟩ := complete_problem_sync_runs now' hfence hsuccess hfail hrec
      have hnone : db₁.problems.snapshots.any (fun e =>
          e.monitoring_sync_operation_id = c.monitoring_sync_operation_id) = false := by
        rw [hproblems, hid, List.any_eq_false]
        exact fun e he => by simpa using hfresh e he
      rw [hnone, if_neg Bool.false_ne_true] at hsnap
      refine ⟨db₂, hcomplete, p.nextId, hsnap, fun hcomp hcur s' hs' hsid => latestSnapshot_appended hsnap ?_⟩
      -- The source has the authority of the claim still.
      obtain ⟨-, hsources', -⟩ := complete_problem_sync_core hcomplete
      rw [hsources'] at hs'
      obtain ⟨r, hr, rfl⟩ := mem_updateWhere.1 hs'
      have hrid : r.monitoring_source_id = c.monitoring_source_id := by
        split_ifs at hsid <;> exact hsid
      obtain rfl : r = _ := eq_of_key ((claim_problem_sync_quiet hc).keyed hres.keyed).sources hr hsrc
        (hrid.trans hsource)
      rw [if_pos (decide_eq_true hrid)]
      exact ⟨hsource, hauth.1.symm, hcomp, hstate, hcur, hauth.2.1.symm, hauth.2.2.symm⟩
    | _ => exact hsucc.elim

theorem exists_worker_iff {w : Worker} {kind : ResponsibilityKind} (hkind : kind = w.responsibility) :
    (∃ w' : Worker, w'.responsibility = kind ∧ RunsNext domain w' op_id db) ↔ RunsNext domain w op_id db := by
  constructor
  · rintro ⟨w', hw', hruns⟩
    have heq : w' = w := by
      rw [hkind] at hw'
      cases w <;> cases w' <;> first | rfl | cases hw'
    exact heq ▸ hruns
  · exact fun hruns => ⟨w, hkind.symm, hruns⟩

end Workers

/-- **Key result**: a requeued operation runs again exactly if nothing of its first run is in the way. -/
theorem requeue_runs_iff (domain : Domain) (bridge : BridgeVersion) (run : List Action) {source_id op_id : String}
    {o : OperationRow} {s : SourceRow}
    (h : (System.exec domain bridge run).db.core.Requeueable source_id op_id o s) :
    (∃ w : Worker, w.responsibility = o.responsibility_kind ∧
      RunsNext domain w op_id ((System.exec domain bridge run).db.requeue source_id op_id)) ↔
    runsNext domain (System.exec domain bridge run).db o s = true := by
  have hk : (System.exec domain bridge run).db.core.Keyed := (inStep_exec bridge run).keyed
  generalize (System.exec domain bridge run).db = db at h hk ⊢
  have hid := h.operation.2
  cases hkind : o.responsibility_kind with
  | validation_and_initial_sync =>
    refine (exists_worker_iff (w := .validation) rfl).trans ?_
    exact iff_of_true (validation_runs hk h hkind) (by rw [runsNext, hkind])
  | host_inventory_sync =>
    refine (exists_worker_iff (w := .inventory) rfl).trans ((inventory_runs_iff hk h hkind).trans ?_)
    simp [runsNext, hkind, hid]
  | metric_definition_poll =>
    refine (exists_worker_iff (w := .definitions) rfl).trans ((definitions_runs_iff hk h hkind).trans ?_)
    simp [runsNext, hkind, hid]
  | current_state_poll =>
    refine (exists_worker_iff (w := .currentState) rfl).trans ((currentState_runs_iff hk h hkind).trans ?_)
    simp [runsNext, hkind]
  | metric_history_sync =>
    refine (exists_worker_iff (w := .history) rfl).trans ((history_runs_iff hk h hkind).trans ?_)
    simp [runsNext, hkind, and_assoc]
  | problem_state_sync =>
    refine (exists_worker_iff (w := .problemState) rfl).trans ((problemState_runs_iff hk h hkind).trans ?_)
    simp [runsNext, hkind, hid, and_assoc]
  | _ =>
    -- No worker claims operations of the other kinds.
    refine iff_of_false ?_ (by simp [runsNext, hkind])
    rintro ⟨w, hw, -⟩
    cases w <;> cases hw

/-- An inventory sync whose claim was orphaned before it completed. -/
def orphaned : List Action :=
  [.createSource 0 "zabbix" "https://zabbix" "cred", .enqueue 1 .host_inventory_sync "mon-src_0",
    .claim 2 .inventory "mon-sync_4" "token-1", .recover ⟨600, 0, 300⟩ 1000000000 0]

/-- It runs again. -/
theorem orphaned_runs :
    ∃ w : Worker, w.responsibility = .host_inventory_sync ∧ RunsNext Domain.tested w "mon-sync_4"
      ((System.exec Domain.tested .publicationBridge orphaned).db.requeue "mon-src_0" "mon-sync_4") :=
  (requeue_runs_iff Domain.tested .publicationBridge orphaned
    (o := (System.exec Domain.tested .publicationBridge orphaned).db.core.operations.get ⟨1, by decide⟩)
    (s := (System.exec Domain.tested .publicationBridge orphaned).db.core.sources.get ⟨0, by decide⟩)
    ⟨by decide, ⟨List.get_mem .., by decide⟩, ⟨List.get_mem .., by decide⟩, by decide⟩).2 (by decide)

/-- The source of an inventory sync was unavailable. -/
def failedInventory : List Action :=
  [.createSource 0 "zabbix" "https://zabbix" "cred", .enqueue 1 .host_inventory_sync "mon-src_0",
    .claim 2 .inventory "mon-sync_4" "token-1",
    .complete 3 0 (.inventory ⟨⟨false, .reconciliation_required, .unavailable, some "provider_unavailable"⟩, false, []⟩
      "inventory-1")]

/-- Every operation that a requeue returns `TRUE` for runs again. -/
def RequeueRuns (domain : Domain) (s : System) : Prop :=
  ∀ source_id op_id o source, s.db.core.Requeueable source_id op_id o source →
    ∃ w : Worker, w.responsibility = o.responsibility_kind ∧ RunsNext domain w op_id (s.db.requeue source_id op_id)

/-- The requeue returns `TRUE`, and no completion commits: the operation has evidence. -/
theorem failedInventory_stuck :
    ¬RequeueRuns Domain.tested (System.exec Domain.tested .publicationBridge failedInventory) := by
  have h : (System.exec Domain.tested .publicationBridge failedInventory).db.core.Requeueable "mon-src_0" "mon-sync_4"
      ((System.exec Domain.tested .publicationBridge failedInventory).db.core.operations.get ⟨1, by decide⟩)
      ((System.exec Domain.tested .publicationBridge failedInventory).db.core.sources.get ⟨0, by decide⟩) :=
    ⟨by decide, ⟨List.get_mem .., by decide⟩, ⟨List.get_mem .., by decide⟩, by decide⟩
  intro hlaw
  have hruns := (exists_worker_iff (w := .inventory) (by decide)).1 (hlaw _ _ _ _ h)
  have hfresh := (inventory_runs_iff (inStep_exec _ _).keyed h (by decide)).1 hruns
  revert hfresh
  decide

end Sync

end JLMirror.Monitoring
