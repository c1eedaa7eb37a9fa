import JLMirror.Monitoring.SyncOperations

/-!
# Host inventory: claim and completion

`PgHostInventoryRepository` of `shared/monitoring_repo.py`. On a complete snapshot, resources are
upserted (present and in scope) and absent hosts become removed; on a degraded result no resource
is removed, and presence evidence degrades instead.

## The model

* The provider evidence of the hosts, which the code inserts in one batch after the loop, is
  inserted host by host: the transaction ends the same way.
* The server's checks of the snapshot evidence are `HostInventoryEvidence.check`.
-/

namespace JLMirror.Monitoring

open JLMirror.Foundations

/-- What the repository reads of a host. -/
structure ZabbixHost where
  hostid : String
  deriving DecidableEq

/-- `HostInventoryClaim`. -/
structure HostInventoryClaim extends SyncClaim where
  provider_scope_tenant_binding_id : String

/-- `HostInventoryResult`. -/
structure HostInventoryResult extends SyncResult String where
  snapshot_complete : Bool
  hosts : List ZabbixHost

/-- `claim_host_inventory`. -/
def claim_host_inventory (now : Timestamp) (op_id claim_token : String) (db : SyncDb) :
    Except String (HostInventoryClaim × SyncDb) :=
  match db.core.claimable .host_inventory_sync (fun _ _ => true) op_id with
  | none => .error "monitoring.host_inventory_not_claimable"
  | some (o, s, g) =>
    .ok ({ toSyncClaim := syncClaim claim_token op_id o s g
           provider_scope_tenant_binding_id := s.provider_scope_tenant_binding_id },
      { db with core := db.core.markRunning now op_id claim_token })

/-- The `CHECK`s of the snapshot evidence. -/
def HostInventoryEvidence.check (e : HostInventoryEvidence) : Bool :=
  e.host_count ≤ 50000 ∧
    [EvidenceState.current, .incomplete, .unavailable].contains e.operational_evidence_state ∧
    [SyncOperationState.succeeded, .reconciliation_required].contains e.operation_state ∧
    (e.operation_state = .succeeded ↔ e.snapshot_complete = true) ∧
    (e.operation_state = .succeeded ↔ e.operational_evidence_state = .current) ∧
    (e.operation_state = .succeeded ↔ e.failure_class = none)

/-- The row of the snapshot evidence. -/
def inventoryEvidence (claim : HostInventoryClaim) (result : HostInventoryResult) (snapshot_evidence_id : String) :
    HostInventoryEvidence where
  host_inventory_snapshot_evidence_id := snapshot_evidence_id
  monitoring_sync_operation_id := claim.monitoring_sync_operation_id
  monitoring_source_id := claim.monitoring_source_id
  provider_scope_tenant_binding_id := claim.provider_scope_tenant_binding_id
  source_instance_generation := claim.source_instance_generation
  configuration_revision := claim.configuration_revision
  scope_revision := claim.scope_revision
  provider_instance_ref := claim.provider_instance_ref
  snapshot_complete := result.snapshot_complete
  host_count := result.hosts.length
  operational_evidence_state := result.operational_evidence_state
  operation_state := result.operation_state
  failure_class := result.failure_class

/-- A resource of a source generation. -/
def ResourceRow.ofGeneration (source_id generation : String) (r : ResourceRow) : Bool :=
  r.monitoring_source_id = source_id ∧ r.source_instance_generation = generation

/-- A resource that a snapshot shows. -/
def ResourceRow.confirmed (scope_revision : ℕ) (r : ResourceRow) : ResourceRow :=
  { r with
    in_scope := true
    scope_projection_revision := scope_revision
    scope_evidence_state := .current
    presence_state := .present
    presence_evidence_state := .current }

/-- The resource of a host: the one that has it, or a new one under the next id. -/
def upsertResource (claim : HostInventoryClaim) (host : ZabbixHost) (resources : List ResourceRow) (nextId : ℕ) :
    Except String (String × List ResourceRow) :=
  match resources.find? fun r =>
      r.ofGeneration claim.monitoring_source_id claim.source_instance_generation ∧
        r.provider_external_ref = host.hostid with
  | some r =>
    .ok (r.monitoring_resource_id,
      updateWhere (fun r' => r'.monitoring_resource_id = r.monitoring_resource_id)
        (ResourceRow.confirmed claim.scope_revision) resources)
  | none => do
    let resource_id := opaqueId "mon-res" nextId
    let resources ← insertUnless (fun r => r.monitoring_resource_id = resource_id) uniqueViolation
      { monitoring_resource_id := resource_id, monitoring_source_id := claim.monitoring_source_id
        source_instance_generation := claim.source_instance_generation, in_scope := true
        scope_evidence_state := .current, provider_external_ref := host.hostid
        scope_projection_revision := claim.scope_revision, presence_state := .present
        presence_evidence_state := .current } resources
    .ok (resource_id, resources)

/-- A round of the loop over the hosts, with the evidence row of the host. -/
def persistHost (claim : HostInventoryClaim) (snapshot_evidence_id : String) (s : InventoryTables × ℕ)
    (host : ZabbixHost) : Except String (InventoryTables × ℕ) := do
  let (resource_id, resources) ← upsertResource claim host s.1.resources s.2
  let evidence ← insertUnless
    (fun e => e.host_inventory_snapshot_evidence_id = snapshot_evidence_id ∧ e.provider_external_ref = host.hostid)
    uniqueViolation
    ⟨s.2 + 1, snapshot_evidence_id, resource_id, claim.monitoring_source_id, claim.source_instance_generation,
      host.hostid⟩ s.1.evidence
  .ok ({ s.1 with resources := resources, evidence := evidence }, s.2 + 2)

/-- The resources of the generation that a complete snapshot does not show become removed. -/
def removeAbsent (claim : HostInventoryClaim) (seen_refs : List String) (t : InventoryTables) : InventoryTables :=
  { t with
    resources := updateWhere
      (fun r => r.ofGeneration claim.monitoring_source_id claim.source_instance_generation ∧
        r.presence_state = .present ∧ !seen_refs.contains r.provider_external_ref)
      (fun r => { r with presence_state := .removed, presence_evidence_state := .current }) t.resources }

/-- `_persist_snapshot`. -/
def _persist_snapshot (claim : HostInventoryClaim) (result : HostInventoryResult) (snapshot_evidence_id : String)
    (s : InventoryTables × ℕ) : Except String (InventoryTables × ℕ) := do
  let (t, nextId) ← result.hosts.foldlM (persistHost claim snapshot_evidence_id) s
  .ok (removeAbsent claim (result.hosts.map ZabbixHost.hostid) t, nextId)

/-- A degraded result: no removals, only evidence degradation. -/
def degradePresence (claim : HostInventoryClaim) (evidence : EvidenceState) (t : InventoryTables) : InventoryTables :=
  { t with
    resources := updateWhere
      (fun r => r.ofGeneration claim.monitoring_source_id claim.source_instance_generation ∧
        r.presence_state = .present)
      (fun r => { r with presence_evidence_state := evidence }) t.resources }

/-- What a completion does to the inventory. -/
def applyInventory (claim : HostInventoryClaim) (result : HostInventoryResult) (snapshot_evidence_id : String)
    (s : InventoryTables × ℕ) : Except String (InventoryTables × ℕ) :=
  if result.succeeded then _persist_snapshot claim result snapshot_evidence_id s
  else .ok (degradePresence claim result.operational_evidence_state s.1, s.2)

/-- `complete_host_inventory`. -/
def complete_host_inventory (now : Timestamp) (claim : HostInventoryClaim) (result : HostInventoryResult)
    (snapshot_evidence_id : String) (db : SyncDb) : Except String SyncDb := do
  require (db.core.fence claim.toSyncClaim fun s =>
    s.provider_scope_tenant_binding_id = claim.provider_scope_tenant_binding_id)
    "monitoring.host_inventory_claim_lost"
  require (inventoryEvidence claim result snapshot_evidence_id).check checkViolation
  let snapshots ← insertUnless
    (fun e => e.host_inventory_snapshot_evidence_id = snapshot_evidence_id ∨
      e.monitoring_sync_operation_id = claim.monitoring_sync_operation_id) uniqueViolation
    (inventoryEvidence claim result snapshot_evidence_id) db.inventory.snapshots
  let (inventory, nextId) ← applyInventory claim result snapshot_evidence_id
    ({ db.inventory with snapshots := snapshots }, db.nextId)
  .ok { db with
    core := db.core.finish now claim.toSyncClaim result.toSyncResult result.failure_class "host_inventory" id
      (fun o => { o with host_inventory_snapshot_evidence_id := some snapshot_evidence_id })
    inventory := inventory
    nextId := nextId }

theorem complete_host_inventory_ok {now : Timestamp} {claim : HostInventoryClaim} {result : HostInventoryResult}
    {id : String} {db db' : SyncDb} (h : complete_host_inventory now claim result id db = .ok db') :
    db.core.fence claim.toSyncClaim
        (fun s => s.provider_scope_tenant_binding_id = claim.provider_scope_tenant_binding_id) = true ∧
      (inventoryEvidence claim result id).check = true ∧
      (∀ e ∈ db.inventory.snapshots, e.host_inventory_snapshot_evidence_id ≠ id ∧
        e.monitoring_sync_operation_id ≠ claim.monitoring_sync_operation_id) ∧
      ∃ s, applyInventory claim result id ({ db.inventory with
          snapshots := db.inventory.snapshots ++ [inventoryEvidence claim result id] }, db.nextId) = .ok s ∧
        db' = { db with
          core := db.core.finish now claim.toSyncClaim result.toSyncResult result.failure_class "host_inventory"
            (fun s => s) (fun o => { o with host_inventory_snapshot_evidence_id := some id })
          inventory := s.1
          nextId := s.2 } := by
  obtain ⟨_, hfence, h⟩ := bind_ok_iff.1 h
  obtain ⟨_, hcheck, h⟩ := bind_ok_iff.1 h
  obtain ⟨snapshots, hins, h⟩ := bind_ok_iff.1 h
  obtain ⟨hnew, rfl⟩ := insertUnless_ok_iff.1 hins
  obtain ⟨s, happly, h⟩ := bind_ok_iff.1 h
  exact ⟨require_ok_iff.1 hfence, require_ok_iff.1 hcheck, fun e he => by simpa using hnew e he, s, happly,
    (Except.ok.inj h).symm⟩

end JLMirror.Monitoring
