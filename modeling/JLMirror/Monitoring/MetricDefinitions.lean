import JLMirror.Monitoring.HostInventory

/-!
# Metric definitions: claim and completion

`PgMetricDefinitionRepository` of `shared/monitoring_repo.py`. The operation carries the epoch and
generation of its poll slot: it is claimed and completed only while the source still sits at the
predecessor, and any completion consumes the slot.

## The model

* Of a result that names a host which is no present resource, the code keeps everything but its
  states (`rejected`). The replaced result is no success, since its operation state says so.
* An item is bound to the definition that has its `itemid`, or to a new one (`upsertItem`). A
  changed native type is `drift`, which the code writes to both evidence columns.
-/

namespace JLMirror.Monitoring

open JLMirror.Foundations

/-- `MetricDefinitionFailureClass`: the member that the repository sets, and the others. -/
inductive MetricDefinitionFailureClass where
  | host_association_invalid
  | other (value : String)
  deriving DecidableEq

/-- The text of a failure class. -/
def MetricDefinitionFailureClass.value : MetricDefinitionFailureClass → String
  | .host_association_invalid => "host_association_invalid"
  | .other v => v

/-- `MetricDefinitionClaim`. -/
structure MetricDefinitionClaim extends SyncClaim where
  provider_scope_tenant_binding_id : String
  item_definition_poll_epoch : ℕ
  item_definition_poll_generation : ℕ

/-- `MetricDefinitionResult`. -/
structure MetricDefinitionResult extends SyncResult MetricDefinitionFailureClass where
  snapshot_complete : Bool
  items : List MetricItem

/-- The slot of the operation is the next one of the source. -/
def definitionSlot (o : OperationRow) (s : SourceRow) : Bool :=
  o.item_definition_poll_epoch = some s.item_definition_poll_epoch ∧
    o.item_definition_poll_generation = some (s.item_definition_poll_generation + 1)

/-- `claim_metric_definitions`. -/
def claim_metric_definitions (now : Timestamp) (op_id claim_token : String) (db : SyncDb) :
    Except String (MetricDefinitionClaim × SyncDb) :=
  match db.core.claimable .metric_definition_poll definitionSlot op_id with
  | none => .error "monitoring.metric_definition_not_claimable"
  | some (o, s, g) =>
    .ok ({ toSyncClaim := syncClaim claim_token op_id o s g
           provider_scope_tenant_binding_id := s.provider_scope_tenant_binding_id
           item_definition_poll_epoch := s.item_definition_poll_epoch
           item_definition_poll_generation := s.item_definition_poll_generation + 1 },
      { db with core := db.core.markRunning now op_id claim_token })

/-! ### The host association fence -/

/-- Every host of the result is a present resource of the generation. -/
def InventoryTables.hostsPresent (t : InventoryTables) (claim : MetricDefinitionClaim) (items : List MetricItem) :
    Bool :=
  items.all fun item => t.resources.any fun r =>
    r.ofGeneration claim.monitoring_source_id claim.source_instance_generation ∧
      r.provider_external_ref = item.hostid ∧ r.presence_state = .present

/-- A result whose hosts are not all resources. -/
def MetricDefinitionResult.rejected (result : MetricDefinitionResult) : MetricDefinitionResult :=
  { result with
    succeeded := false
    operational_evidence_state := .incomplete
    operation_state := .reconciliation_required
    snapshot_complete := false
    failure_class := some .host_association_invalid }

/-- `effective`: the result that counts. -/
def effective (claim : MetricDefinitionClaim) (result : MetricDefinitionResult) (t : InventoryTables) :
    MetricDefinitionResult :=
  if result.succeeded ∧ !t.hostsPresent claim result.items then result.rejected else result

/-! ### The item snapshot -/

/-- The resource of a host, of whatever presence. -/
def InventoryTables.hostResource (t : InventoryTables) (claim : MetricDefinitionClaim) (hostid : String) :
    Option String :=
  (t.resources.find? fun r =>
    r.ofGeneration claim.monitoring_source_id claim.source_instance_generation ∧
      r.provider_external_ref = hostid).map fun r => r.monitoring_resource_id

/-- The new row of an item without a definition. -/
def newDefinition (domain : Domain) (claim : MetricDefinitionClaim) (item : MetricItem)
    (definition_id resource_id : String) : MetricDefinition where
  metric_definition_id := definition_id
  monitoring_resource_id := resource_id
  monitoring_source_id := claim.monitoring_source_id
  source_instance_generation := claim.source_instance_generation
  name := item.name
  value_kind := domain.canonical_value_kind item.native_value_type
  unit := item.unit
  in_scope := true
  scope_projection_revision := claim.scope_revision
  scope_evidence_state := .current
  definition_state := .active
  definition_evidence_state := .current
  last_confirmed_present_poll_epoch := claim.item_definition_poll_epoch
  last_confirmed_present_poll_generation := claim.item_definition_poll_generation

/-- Its binding. -/
def newBinding (claim : MetricDefinitionClaim) (item : MetricItem) (definition_id resource_id : String) :
    ItemBinding where
  metric_definition_id := definition_id
  monitoring_resource_id := resource_id
  monitoring_source_id := claim.monitoring_source_id
  source_instance_generation := claim.source_instance_generation
  provider_external_ref := item.itemid
  provider_host_ref := item.hostid
  provider_key := item.key
  native_value_type := item.native_value_type
  provider_operational_state := item.operational_state
  evidence_state := .current

/-- What a snapshot writes to the definition of an item that it shows. The value kind stays. -/
def confirmedDefinition (claim : MetricDefinitionClaim) (item : MetricItem) (ev_state : EvidenceState)
    (d : MetricDefinition) : MetricDefinition :=
  { d with
    name := item.name
    unit := item.unit
    in_scope := true
    scope_projection_revision := claim.scope_revision
    scope_evidence_state := .current
    definition_state := .active
    definition_evidence_state := ev_state
    last_confirmed_present_poll_epoch := claim.item_definition_poll_epoch
    last_confirmed_present_poll_generation := claim.item_definition_poll_generation }

/-- What it writes to the binding. -/
def confirmedBinding (item : MetricItem) (ev_state : EvidenceState) (b : ItemBinding) : ItemBinding :=
  { b with
    provider_host_ref := item.hostid
    provider_key := item.key
    native_value_type := item.native_value_type
    provider_operational_state := item.operational_state
    evidence_state := ev_state }

/-- The binding of an item in a source generation. -/
def MetricTables.bindingOf (t : MetricTables) (source_id generation itemid : String) : Option ItemBinding :=
  t.bindings.find? fun b =>
    b.monitoring_source_id = source_id ∧ b.source_instance_generation = generation ∧
      b.provider_external_ref = itemid

/-- The evidence of an item that has a binding: the native type it had against the one it has. -/
def driftState (prior_native native : NativeValueType) : EvidenceState :=
  if prior_native ≠ native then .reconciliation_required else .current

/-- The definition of an item, with its binding: updated, or new under the next id. -/
def upsertItem (domain : Domain) (claim : MetricDefinitionClaim) (item : MetricItem) (resource_id : String)
    (t : MetricTables) (nextId : ℕ) : Except String (String × MetricTables) :=
  match t.bindingOf claim.monitoring_source_id claim.source_instance_generation item.itemid with
  | some b =>
    let ev_state := driftState b.native_value_type item.native_value_type
    .ok (b.metric_definition_id,
      { t with
        definitions := updateWhere (fun d => d.metric_definition_id = b.metric_definition_id)
          (confirmedDefinition claim item ev_state) t.definitions
        bindings := updateWhere (fun b' => b'.metric_definition_id = b.metric_definition_id)
          (confirmedBinding item ev_state) t.bindings })
  | none => do
    let definition_id := opaqueId "mon-def" nextId
    let definitions ← insertUnless (fun d => d.metric_definition_id = definition_id) uniqueViolation
      (newDefinition domain claim item definition_id resource_id) t.definitions
    let bindings ← insertUnless (fun b => b.metric_definition_id = definition_id) uniqueViolation
      (newBinding claim item definition_id resource_id) t.bindings
    .ok (definition_id, { t with definitions := definitions, bindings := bindings })

/-- A round of the loop over the items, with the evidence row of the item. -/
def persistItem (domain : Domain) (claim : MetricDefinitionClaim) (snapshot_evidence_id : String)
    (host_map : String → Option String) (s : MetricTables × ℕ) (item : MetricItem) :
    Except String (MetricTables × ℕ) := do
  match host_map item.hostid with
  | none => .error "KeyError"
  | some resource_id =>
    let (definition_id, t) ← upsertItem domain claim item resource_id s.1 s.2
    let evidence ← insertUnless
      (fun e => e.metric_definition_snapshot_evidence_id = snapshot_evidence_id ∧
        e.provider_external_ref = item.itemid) uniqueViolation
      ⟨s.2 + 1, snapshot_evidence_id, definition_id, item.itemid, item⟩ t.evidence
    .ok ({ t with evidence := evidence }, s.2 + 2)

variable {domain : Domain} {claim : MetricDefinitionClaim} {item : MetricItem}

variable {definition_id : String}

/-- The definition of an item is updated, or inserted with its binding under an id that is new to both
tables. -/
theorem upsertItem_ok {resource_id : String} {t t' : MetricTables} {nextId : ℕ}
    (h : upsertItem domain claim item resource_id t nextId = .ok (definition_id, t')) :
    (∃ b, t.bindingOf claim.monitoring_source_id claim.source_instance_generation item.itemid = some b ∧
      definition_id = b.metric_definition_id ∧
      t' = { t with
        definitions := updateWhere (fun d => d.metric_definition_id = b.metric_definition_id)
          (confirmedDefinition claim item (driftState b.native_value_type item.native_value_type)) t.definitions
        bindings := updateWhere (fun b' => b'.metric_definition_id = b.metric_definition_id)
          (confirmedBinding item (driftState b.native_value_type item.native_value_type)) t.bindings }) ∨
    (t.bindingOf claim.monitoring_source_id claim.source_instance_generation item.itemid = none ∧
      (∀ d ∈ t.definitions, d.metric_definition_id ≠ definition_id) ∧
      (∀ b ∈ t.bindings, b.metric_definition_id ≠ definition_id) ∧
      t' = { t with
        definitions := t.definitions ++ [newDefinition domain claim item definition_id resource_id]
        bindings := t.bindings ++ [newBinding claim item definition_id resource_id] }) := by
  unfold upsertItem at h
  split at h
  · obtain ⟨rfl, rfl⟩ := Prod.mk.inj (Except.ok.inj h)
    exact Or.inl ⟨_, ‹_›, rfl, rfl⟩
  · obtain ⟨definitions, hdefs, h⟩ := bind_ok_iff.1 h
    obtain ⟨bindings, hbinds, h⟩ := bind_ok_iff.1 h
    obtain ⟨hnewd, rfl⟩ := insertUnless_ok_iff.1 hdefs
    obtain ⟨hnewb, rfl⟩ := insertUnless_ok_iff.1 hbinds
    obtain ⟨rfl, rfl⟩ := Prod.mk.inj (Except.ok.inj h)
    exact Or.inr ⟨‹_›, fun d hd => by simpa using hnewd d hd, fun b hb => by simpa using hnewb b hb, rfl⟩

variable {id : String} {host_map : String → Option String} {s s' : MetricTables × ℕ}

/-- A round upserts its item and records evidence that the snapshot did not have yet. -/
theorem persistItem_ok (h : persistItem domain claim id host_map s item = .ok s') :
    ∃ resource_id definition_id t, host_map item.hostid = some resource_id ∧
      upsertItem domain claim item resource_id s.1 s.2 = .ok (definition_id, t) ∧
      (∀ e ∈ t.evidence, ¬(e.metric_definition_snapshot_evidence_id = id ∧ e.provider_external_ref = item.itemid)) ∧
      s' = ({ t with evidence := t.evidence ++ [⟨s.2 + 1, id, definition_id, item.itemid, item⟩] }, s.2 + 2) := by
  unfold persistItem at h
  split at h
  · cases h
  · obtain ⟨x, hx, h⟩ := bind_ok_iff.1 h
    obtain ⟨evidence, hev, h⟩ := bind_ok_iff.1 h
    obtain ⟨hnew, rfl⟩ := insertUnless_ok_iff.1 hev
    exact ⟨_, x.1, x.2, ‹_›, hx, fun e he => by simpa using hnew e he, (Except.ok.inj h).symm⟩

theorem upsertItem_evidence {resource_id : String} {t t' : MetricTables} {nextId : ℕ}
    (h : upsertItem domain claim item resource_id t nextId = .ok (definition_id, t')) : t'.evidence = t.evidence := by
  rcases upsertItem_ok h with ⟨b, -, -, rfl⟩ | ⟨-, -, -, rfl⟩ <;> rfl

/-- A snapshot that goes through shows no item twice, and none that it has evidence of already. -/
theorem persistItem_fold_nodup {items : List MetricItem}
    (h : items.foldlM (persistItem domain claim id host_map) s = .ok s') :
    (items.map MetricItem.itemid).Nodup ∧ ∀ item ∈ items, ∀ e ∈ s.1.evidence,
      ¬(e.metric_definition_snapshot_evidence_id = id ∧ e.provider_external_ref = item.itemid) := by
  induction items generalizing s with
  | nil => exact ⟨List.nodup_nil, fun _ h => absurd h List.not_mem_nil⟩
  | cons item items ih =>
    obtain ⟨s₁, hround, hrest⟩ := foldlM_cons_ok.1 h
    obtain ⟨_, _, t, -, hup, hnew, rfl⟩ := persistItem_ok hround
    obtain ⟨hnd, hfresh⟩ := ih hrest
    have hev := upsertItem_evidence hup
    refine ⟨List.nodup_cons.2 ⟨fun hmem => ?_, hnd⟩, fun item' hitem' e he => ?_⟩
    · obtain ⟨item', hitem', heq⟩ := List.mem_map.1 hmem
      exact hfresh item' hitem' _ (List.mem_append_right _ (List.mem_singleton_self _)) ⟨rfl, heq.symm⟩
    · rcases List.mem_cons.1 hitem' with rfl | hitem'
      · exact hnew e (hev ▸ he)
      · exact hfresh item' hitem' e (List.mem_append_left _ (hev ▸ he))

/-- An active definition of a source generation. -/
def MetricDefinition.activeIn (source_id generation : String) (d : MetricDefinition) : Bool :=
  d.monitoring_source_id = source_id ∧ d.source_instance_generation = generation ∧ d.definition_state = .active

/-- A complete snapshot: unseen active definitions retire. -/
def retireUnseen (claim : MetricDefinitionClaim) (seen_refs : List String) (t : MetricTables) : MetricTables :=
  { t with
    definitions := updateWhere
      (fun d => d.activeIn claim.monitoring_source_id claim.source_instance_generation ∧
        !t.bindings.any fun b =>
          b.metric_definition_id = d.metric_definition_id ∧ b.monitoring_source_id = claim.monitoring_source_id ∧
            b.source_instance_generation = claim.source_instance_generation ∧
            seen_refs.contains b.provider_external_ref)
      (fun d => { d with
        definition_state := .retired claim.item_definition_poll_epoch claim.item_definition_poll_generation })
      t.definitions }

/-- `_persist_item_snapshot`. -/
def _persist_item_snapshot (domain : Domain) (claim : MetricDefinitionClaim) (result : MetricDefinitionResult)
    (snapshot_evidence_id : String) (host_map : String → Option String) (s : MetricTables × ℕ) :
    Except String (MetricTables × ℕ) := do
  let (t, nextId) ← result.items.foldlM (persistItem domain claim snapshot_evidence_id host_map) s
  .ok (retireUnseen claim (result.items.map MetricItem.itemid) t, nextId)

/-- A result that is no success: the evidence of the active definitions. -/
def degradeDefinitions (claim : MetricDefinitionClaim) (evidence : EvidenceState) (t : MetricTables) : MetricTables :=
  { t with
    definitions := updateWhere
      (fun d => d.activeIn claim.monitoring_source_id claim.source_instance_generation)
      (fun d => { d with definition_evidence_state := evidence }) t.definitions }

/-- What a completion does to the definitions. -/
def applyDefinitions (domain : Domain) (claim : MetricDefinitionClaim) (result : MetricDefinitionResult)
    (snapshot_evidence_id : String) (host_map : String → Option String) (s : MetricTables × ℕ) :
    Except String (MetricTables × ℕ) :=
  if result.succeeded then _persist_item_snapshot domain claim result snapshot_evidence_id host_map s
  else .ok (degradeDefinitions claim result.operational_evidence_state s.1, s.2)

/-! ### Completion -/

/-- The `CHECK`s of the snapshot evidence. -/
def MetricDefinitionEvidence.check (e : MetricDefinitionEvidence) : Bool :=
  e.item_count ≤ 200000 ∧
    [EvidenceState.current, .incomplete, .unavailable, .reconciliation_required].contains
      e.operational_evidence_state ∧
    [SyncOperationState.succeeded, .reconciliation_required].contains e.operation_state

/-- The row of the snapshot evidence. -/
def definitionEvidence (claim : MetricDefinitionClaim) (result : MetricDefinitionResult)
    (snapshot_evidence_id : String) : MetricDefinitionEvidence where
  metric_definition_snapshot_evidence_id := snapshot_evidence_id
  monitoring_sync_operation_id := claim.monitoring_sync_operation_id
  monitoring_source_id := claim.monitoring_source_id
  source_instance_generation := claim.source_instance_generation
  configuration_revision := claim.configuration_revision
  scope_revision := claim.scope_revision
  item_definition_poll_epoch := claim.item_definition_poll_epoch
  item_definition_poll_generation := claim.item_definition_poll_generation
  snapshot_complete := result.snapshot_complete
  item_count := result.items.length
  operational_evidence_state := result.operational_evidence_state
  operation_state := result.operation_state
  failure_class := result.failure_class.map MetricDefinitionFailureClass.value

/-- The fence of the slot: the source still sits at the predecessor. -/
def MetricDefinitionClaim.slot (claim : MetricDefinitionClaim) (s : SourceRow) : Bool :=
  s.provider_scope_tenant_binding_id = claim.provider_scope_tenant_binding_id ∧
    s.item_definition_poll_epoch = claim.item_definition_poll_epoch ∧
    s.item_definition_poll_generation + 1 = claim.item_definition_poll_generation

/-- `complete_metric_definitions`. -/
def complete_metric_definitions (domain : Domain) (now : Timestamp) (claim : MetricDefinitionClaim)
    (collected : MetricDefinitionResult) (snapshot_evidence_id : String) (db : SyncDb) : Except String SyncDb := do
  require (db.core.fence claim.toSyncClaim claim.slot) "monitoring.metric_definition_claim_lost"
  let result := effective claim collected db.inventory
  require (definitionEvidence claim result snapshot_evidence_id).check checkViolation
  let snapshots ← insertUnless
    (fun e => e.metric_definition_snapshot_evidence_id = snapshot_evidence_id ∨
      e.monitoring_sync_operation_id = claim.monitoring_sync_operation_id) uniqueViolation
    (definitionEvidence claim result snapshot_evidence_id) db.metrics.snapshots
  let (metrics, nextId) ← applyDefinitions domain claim result snapshot_evidence_id
    (db.inventory.hostResource claim) ({ db.metrics with snapshots := snapshots }, db.nextId)
  .ok { db with
    core := db.core.finish now claim.toSyncClaim result.toSyncResult
      (result.failure_class.map MetricDefinitionFailureClass.value) "metric_definitions"
      (fun s => { s with item_definition_poll_generation := claim.item_definition_poll_generation })
      (fun o => { o with metric_definition_snapshot_evidence_id := some snapshot_evidence_id })
    metrics := metrics
    nextId := nextId }

theorem complete_metric_definitions_ok {now : Timestamp} {collected : MetricDefinitionResult} {db db' : SyncDb}
    (h : complete_metric_definitions domain now claim collected id db = .ok db') :
    db.core.fence claim.toSyncClaim claim.slot = true ∧
      (definitionEvidence claim (effective claim collected db.inventory) id).check = true ∧
      (∀ e ∈ db.metrics.snapshots, e.metric_definition_snapshot_evidence_id ≠ id ∧
        e.monitoring_sync_operation_id ≠ claim.monitoring_sync_operation_id) ∧
      ∃ s, applyDefinitions domain claim (effective claim collected db.inventory) id
          (db.inventory.hostResource claim) ({ db.metrics with
            snapshots := db.metrics.snapshots ++
              [definitionEvidence claim (effective claim collected db.inventory) id] }, db.nextId) = .ok s ∧
        db' = { db with
          core := db.core.finish now claim.toSyncClaim (effective claim collected db.inventory).toSyncResult
            ((effective claim collected db.inventory).failure_class.map MetricDefinitionFailureClass.value)
            "metric_definitions"
            (fun s => { s with item_definition_poll_generation := claim.item_definition_poll_generation })
            (fun o => { o with metric_definition_snapshot_evidence_id := some id })
          metrics := s.1
          nextId := s.2 } := by
  obtain ⟨_, hfence, h⟩ := bind_ok_iff.1 h
  obtain ⟨_, hcheck, h⟩ := bind_ok_iff.1 h
  obtain ⟨snapshots, hins, h⟩ := bind_ok_iff.1 h
  obtain ⟨hnew, rfl⟩ := insertUnless_ok_iff.1 hins
  obtain ⟨s, happly, h⟩ := bind_ok_iff.1 h
  exact ⟨require_ok_iff.1 hfence, require_ok_iff.1 hcheck, fun e he => by simpa using hnew e he, s, happly,
    (Except.ok.inj h).symm⟩

end JLMirror.Monitoring
