import JLMirror.Monitoring.MetricCurrentState
import Mathlib.Data.Prod.Lex
import Mathlib.Data.String.Basic

/-!
# Metric history: claim, completion, projection, reader

`PgMetricHistoryRepository` and `list_metric_history` of `shared/monitoring_repo.py`. An operation
reads one page of items over one window: its rows are accepted, projected into immutable
observations, and the checkpoint of each stream (an item with its value type) is raised to the
newest of them.

## The model

* A claim without targets is committed as succeeded and then raises: `claim_metric_history` yields the
  schema without a claim.
* `stream_high` is the list of its entries, in the order of their insertion.
* `HistoryStream.raise` is the `UPDATE` of a checkpoint, with `GREATEST` and both `CASE`s over columns
  that may be `NULL`.

## Honest scope

The page of items that `list_metric_history` returns beside the completeness is left out.
-/

namespace JLMirror.Monitoring

open JLMirror.Foundations

/-- `HistoryMetricTarget`. -/
structure HistoryMetricTarget where
  metric_definition_id : String
  monitoring_resource_id : String
  provider_external_ref : String
  value_kind : MetricValueKind
  history_value_type : ℕ

/-- `MetricHistoryWindow`, in seconds since the epoch. -/
structure MetricHistoryWindow where
  time_from : ℤ
  time_till : ℤ

/-- `MetricHistoryClaim`. -/
structure MetricHistoryClaim extends SyncClaim where
  targets : List HistoryMetricTarget
  window : MetricHistoryWindow

/-- `ZabbixHistoryEvidence`: a raw row of the provider. -/
structure ZabbixHistoryEvidence where
  itemid : String
  clock : ℤ
  ns : ℤ
  raw_value : String

/-- `MetricHistoryFailureClass`: the member that the repository looks for, and the others. -/
inductive MetricHistoryFailureClass where
  | page_truncated
  | other (value : String)
  deriving DecidableEq

/-- The text of a failure class. -/
def MetricHistoryFailureClass.value : MetricHistoryFailureClass → String
  | .page_truncated => "page_truncated"
  | .other v => v

/-- `MetricHistoryResult`. -/
structure MetricHistoryResult extends SyncResult MetricHistoryFailureClass where
  coverage_state : HistoryCoverageState

/-! ### Claim -/

/-- `_ZABBIX_HISTORY_VALUE_TYPE`. -/
def zabbixHistoryValueType : NativeValueType → Option ℕ
  | .float => some 0
  | .character => some 1
  | .log => some 2
  | .unsigned => some 3
  | .text => some 4

/-- The target of a definition, unless its native type has no history. -/
def historyTarget (x : MetricDefinition × ItemBinding) : Option HistoryMetricTarget :=
  (zabbixHistoryValueType x.2.native_value_type).map fun history_value_type =>
    ⟨x.1.metric_definition_id, x.1.monitoring_resource_id, x.2.provider_external_ref, x.1.value_kind,
      history_value_type⟩

/-- The targets of a page: the next items after the cursor. -/
def MetricTables.historyPage (domain : Domain) (t : MetricTables) (source_id generation item_cursor : String) :
    List HistoryMetricTarget :=
  (((t.pollable source_id generation).filter fun x => x.2.provider_external_ref > item_cursor).take
    domain.max_history_items_per_request).filterMap historyTarget

/-- The operation of a page without targets. -/
def CoreTables.succeedEmpty (now : Timestamp) (op_id claim_token : String) (c : CoreTables) : CoreTables :=
  { c with
    operations := updateWhere
      (fun o => o.monitoring_sync_operation_id = op_id ∧ o.state = .running ∧ o.claim_token = some claim_token)
      (fun o => { o with state := .succeeded, completed_at := some now }) c.operations }

/-- `claim_metric_history`. Where it raises after its commit, there is no claim: for want of targets
(`monitoring.metric_history_no_targets`), or of a window. -/
def claim_metric_history (domain : Domain) (now : Timestamp) (op_id claim_token : String) (db : SyncDb) :
    Except String (Option MetricHistoryClaim × SyncDb) :=
  match db.core.claimable .metric_history_sync (fun _ _ => true) op_id with
  | none => .error "monitoring.metric_history_not_claimable"
  | some (o, s, g) =>
    let core := db.core.markRunning now op_id claim_token
    let targets := db.metrics.historyPage domain o.monitoring_source_id o.source_instance_generation
      o.history_item_cursor
    if targets.isEmpty then .ok (none, { db with core := core.succeedEmpty now op_id claim_token })
    else
      match o.history_time_from, o.history_time_till with
      | some time_from, some time_till =>
        .ok (some { toSyncClaim := syncClaim claim_token op_id o s g, targets := targets
                    window := ⟨time_from, time_till⟩ }, { db with core := core })
      | _, _ => .ok (none, { db with core := core })

/-! ### The rows of a page -/

/-- `by_itemid`: the last target of an item. -/
def MetricHistoryClaim.byItemid (claim : MetricHistoryClaim) (itemid : String) : Option HistoryMetricTarget :=
  claim.targets.reverse.find? fun t => t.provider_external_ref = itemid

/-- The acceptance of a row, under a drawn id. -/
def historyAcceptance (claim : MetricHistoryClaim) (target : HistoryMetricTarget) (row : ZabbixHistoryEvidence)
    (canonical : CanonicalValue) (observation_id : String) : ObservationAcceptance where
  observation_id := observation_id
  monitoring_sync_operation_id := claim.monitoring_sync_operation_id
  monitoring_source_id := claim.monitoring_source_id
  source_instance_generation := claim.source_instance_generation
  monitoring_resource_id := target.monitoring_resource_id
  metric_definition_id := target.metric_definition_id
  provider_external_ref := row.itemid
  provider_clock := row.clock
  provider_ns := row.ns
  value_kind := target.value_kind
  canonical_value := canonical
  configuration_revision := claim.configuration_revision
  scope_revision := claim.scope_revision
  current_state_poll_epoch := none
  current_state_poll_generation := none
  history_projection_state := .pending

/-- The observation of an acceptance. -/
def ObservationAcceptance.observation (a : ObservationAcceptance) : MetricObservation where
  observation_id := a.observation_id
  monitoring_source_id := a.monitoring_source_id
  source_instance_generation := a.source_instance_generation
  monitoring_resource_id := a.monitoring_resource_id
  metric_definition_id := a.metric_definition_id
  provider_external_ref := a.provider_external_ref
  provider_clock := a.provider_clock
  provider_ns := a.provider_ns
  value_kind := a.value_kind
  canonical_value := a.canonical_value

/-- The unique key of an observation beside its id. -/
def MetricObservation.sample (o : MetricObservation) : String × String × String × ℤ × ℤ :=
  (o.monitoring_source_id, o.source_instance_generation, o.provider_external_ref, o.provider_clock, o.provider_ns)

/-- `INSERT … ON CONFLICT (observation_id) DO NOTHING`. -/
def insertObservation (o : MetricObservation) (rows : List MetricObservation) :
    Except String (List MetricObservation) :=
  if rows.any fun r => r.observation_id = o.observation_id then .ok rows
  else insertUnless (fun r => r.sample = o.sample) uniqueViolation o rows

/-- An observation is there already, or is appended. -/
theorem insertObservation_ok {o : MetricObservation} {rows rows' : List MetricObservation}
    (h : insertObservation o rows = .ok rows') :
    (∃ r ∈ rows, r.observation_id = o.observation_id) ∧ rows' = rows ∨
      (∀ r ∈ rows, r.observation_id ≠ o.observation_id) ∧ (∀ r ∈ rows, r.sample ≠ o.sample) ∧
        rows' = rows ++ [o] := by
  unfold insertObservation at h
  split_ifs at h with hthere
  · exact Or.inl ⟨by simpa using hthere, (Except.ok.inj h).symm⟩
  · obtain ⟨hnew, rfl⟩ := insertUnless_ok_iff.1 h
    exact Or.inr ⟨by simpa using hthere, fun r hr => by simpa using hnew r hr, rfl⟩

/-- Marks the acceptances of these observations as projected. -/
def markProjected (observation_ids : List String) (rows : List ObservationAcceptance) : List ObservationAcceptance :=
  updateWhere (fun a => observation_ids.contains a.observation_id)
    (fun a => { a with history_projection_state := .projected }) rows

/-- Provider clock and nanoseconds, which the code compares as a pair. -/
abbrev ProviderTime := ℤ ×ₗ ℤ

/-- Its order, by the decidable one of the integers. -/
instance : LinearOrder ProviderTime := @Prod.Lex.instLinearOrder ℤ ℤ Int.instLinearOrder Int.instLinearOrder

instance : Preorder ProviderTime := instLinearOrderProviderTime.toPartialOrder.toPreorder

/-- A stream within a source generation: an item with its history value type. -/
abbrev StreamKey := String × ℕ

/-- `if prior is None or (row.clock, row.ns) > prior: stream_high[key] = (row.clock, row.ns)`. -/
def raiseHigh (key : StreamKey) (t : ProviderTime) (stream_high : List (StreamKey × ProviderTime)) :
    List (StreamKey × ProviderTime) :=
  match stream_high.find? fun e => e.1 = key with
  | none => stream_high ++ [(key, t)]
  | some e => if t > e.2 then updateWhere (fun e => e.1 = key) (fun e => (e.1, t)) stream_high else stream_high

/-- The state of the loop over the rows. -/
structure HistoryPass where
  tables : ObservationTables
  nextId : ℕ
  stream_high : List (StreamKey × ProviderTime)

/-- The target of a row, with its canonical value: nothing for an unexpected item, or for a sample
that is no value of its kind. -/
def MetricHistoryClaim.parse (domain : Domain) (claim : MetricHistoryClaim) (row : ZabbixHistoryEvidence) :
    Option (HistoryMetricTarget × CanonicalValue) := do
  let target ← claim.byItemid row.itemid
  let canonical ← domain.parse_canonical_value target.value_kind row.raw_value
  return (target, canonical)

/-- A round of the loop over the rows. -/
def persistHistoryRow (domain : Domain) (claim : MetricHistoryClaim) (s : HistoryPass) (row : ZabbixHistoryEvidence) :
    Except String HistoryPass := do
  match claim.parse domain row with
  | none => .ok s
  | some (target, canonical) =>
    let a := historyAcceptance claim target row canonical (opaqueId "mon-obs" s.nextId)
    match ← acceptObservation a s.tables.acceptances with
    | none => .ok { s with nextId := s.nextId + 1 }
    | some acceptances =>
      let observations ← insertObservation a.observation s.tables.observations
      .ok { tables := { s.tables with
              acceptances := markProjected [a.observation_id] acceptances
              observations := observations }
            nextId := s.nextId + 1
            stream_high := raiseHigh (row.itemid, target.history_value_type) (toLex (row.clock, row.ns))
              s.stream_high }

variable {domain : Domain} {claim : MetricHistoryClaim}

/-- A round passes over its row, finds it in the ledger, or accepts it with its observation. -/
theorem persistHistoryRow_ok {s s' : HistoryPass} {row : ZabbixHistoryEvidence}
    (h : persistHistoryRow domain claim s row = .ok s') :
    claim.parse domain row = none ∧ s' = s ∨
      ∃ target canonical a, claim.parse domain row = some (target, canonical) ∧
        a = historyAcceptance claim target row canonical (opaqueId "mon-obs" s.nextId) ∧ a.check = true ∧
        ((∃ r ∈ s.tables.acceptances, r.sample = a.sample) ∧ s' = { s with nextId := s.nextId + 1 } ∨
          (∀ r ∈ s.tables.acceptances, r.sample ≠ a.sample) ∧
            (∀ r ∈ s.tables.acceptances, r.observation_id ≠ a.observation_id) ∧
            ∃ observations, insertObservation a.observation s.tables.observations = .ok observations ∧
              s' = { tables := { s.tables with
                       acceptances := markProjected [a.observation_id] (s.tables.acceptances ++ [a])
                       observations := observations }
                     nextId := s.nextId + 1
                     stream_high := raiseHigh (row.itemid, target.history_value_type) (toLex (row.clock, row.ns))
                       s.stream_high }) := by
  unfold persistHistoryRow at h
  split at h
  · exact Or.inl ⟨‹_›, (Except.ok.inj h).symm⟩
  · rename_i target canonical hparse
    obtain ⟨accepted, haccept, h⟩ := bind_ok_iff.1 h
    obtain ⟨hcheck, hcases⟩ := acceptObservation_ok haccept
    refine Or.inr ⟨target, canonical, _, hparse, rfl, hcheck, ?_⟩
    rcases hcases with ⟨htaken, rfl⟩ | ⟨hfresh, hid, rfl⟩
    · exact Or.inl ⟨htaken, (Except.ok.inj h).symm⟩
    · obtain ⟨observations, hobs, h⟩ := bind_ok_iff.1 h
      exact Or.inr ⟨hfresh, hid, observations, hobs, (Except.ok.inj h).symm⟩

/-! ### Streams -/

/-- `GREATEST`, which passes over `NULL`. -/
def greatest (column : Option ℤ) (value : ℤ) : ℤ := column.elim value fun c => max c value

/-- The stream of a key in a source generation. -/
def HistoryStream.is (source_id generation : String) (key : StreamKey) (s : HistoryStream) : Bool :=
  s.monitoring_source_id = source_id ∧ s.source_instance_generation = generation ∧
    s.provider_external_ref = key.1 ∧ s.history_value_type = key.2

/-- The `UPDATE` of a checkpoint. -/
def HistoryStream.raise (now : Timestamp) (clock ns : ℤ) (s : HistoryStream) : HistoryStream :=
  { s with
    provisional_clock := some (greatest s.provisional_clock clock)
    provisional_ns :=
      if s.provisional_clock = none ∨ s.provisional_clock.any (fun c => clock > c) ∨
          (s.provisional_clock = some clock ∧ s.provisional_ns.any fun n => ns > n) then some ns
      else s.provisional_ns
    safe_clock := some (greatest s.safe_clock clock)
    safe_ns := if s.safe_clock = none ∨ s.safe_clock.any (fun c => clock > c) then some ns else s.safe_ns
    updated_at := now }

/-- A round of the loop over `stream_high`. -/
def raiseStream (now : Timestamp) (claim : MetricHistoryClaim) (streams : List HistoryStream)
    (e : StreamKey × ProviderTime) : List HistoryStream :=
  updateWhere (HistoryStream.is claim.monitoring_source_id claim.source_instance_generation e.1)
    (HistoryStream.raise now (ofLex e.2).1 (ofLex e.2).2) streams

/-- `_persist_history_rows`. -/
def _persist_history_rows (domain : Domain) (now : Timestamp) (claim : MetricHistoryClaim)
    (raw_rows : List ZabbixHistoryEvidence) (s : ObservationTables × ℕ) : Except String (ObservationTables × ℕ) := do
  let p ← raw_rows.foldlM (persistHistoryRow domain claim) ⟨s.1, s.2, []⟩
  .ok ({ p.tables with streams := p.stream_high.foldl (raiseStream now claim) p.tables.streams }, p.nextId)

/-- The coverage that a completion leaves. -/
def historyCoverage (result : MetricHistoryResult) : HistoryCoverageState :=
  if result.succeeded then result.coverage_state
  else if result.failure_class = some .page_truncated then .gap else .reconciliation_required

/-- The stream of a target: a new one without checkpoints, or the one there with the coverage. -/
def upsertStream (now : Timestamp) (claim : MetricHistoryClaim) (coverage : HistoryCoverageState)
    (streams : List HistoryStream) (target : HistoryMetricTarget) : List HistoryStream :=
  let is := HistoryStream.is claim.monitoring_source_id claim.source_instance_generation
    (target.provider_external_ref, target.history_value_type)
  if streams.any is then
    updateWhere is
      (fun s => { s with
        coverage_state := coverage, checkpoint_revision := s.checkpoint_revision + 1, updated_at := now }) streams
  else
    streams ++ [{
      monitoring_source_id := claim.monitoring_source_id
      source_instance_generation := claim.source_instance_generation
      provider_external_ref := target.provider_external_ref
      history_value_type := target.history_value_type
      metric_definition_id := target.metric_definition_id
      provisional_clock := none, provisional_ns := none, safe_clock := none, safe_ns := none
      coverage_state := coverage, checkpoint_revision := 1, updated_at := now }]

/-- The gap of a target over the window of a claim. -/
def insertGap (now : Timestamp) (claim : MetricHistoryClaim) (s : List HistoryGap × ℕ) (target : HistoryMetricTarget) :
    Except String (List HistoryGap × ℕ) := do
  require (0 < claim.window.time_from ∧ claim.window.time_from ≤ claim.window.time_till : Bool) checkViolation
  .ok (s.1 ++ [{
    history_gap_id := s.2, monitoring_source_id := claim.monitoring_source_id
    source_instance_generation := claim.source_instance_generation
    provider_external_ref := target.provider_external_ref, history_value_type := target.history_value_type
    metric_definition_id := target.metric_definition_id, gap_from_clock := claim.window.time_from
    gap_through_clock := claim.window.time_till, reason := "truncated_window", detected_at := now }], s.2 + 1)

/-- The gaps of a completion: one for each target of a truncated page. -/
def recordGaps (now : Timestamp) (claim : MetricHistoryClaim) (result : MetricHistoryResult)
    (s : List HistoryGap × ℕ) : Except String (List HistoryGap × ℕ) :=
  if result.failure_class = some .page_truncated then claim.targets.foldlM (insertGap now claim) s else .ok s

/-- What a completion does to the observations. -/
def applyHistory (domain : Domain) (now : Timestamp) (claim : MetricHistoryClaim) (result : MetricHistoryResult)
    (raw_rows : List ZabbixHistoryEvidence) (s : ObservationTables × ℕ) : Except String (ObservationTables × ℕ) := do
  let (t, nextId) ← if result.succeeded then _persist_history_rows domain now claim raw_rows s else .ok s
  let streams := claim.targets.foldl (upsertStream now claim (historyCoverage result)) t.streams
  let (gaps, nextId) ← recordGaps now claim result (t.gaps, nextId)
  .ok ({ t with streams := streams, gaps := gaps }, nextId)

variable {result : MetricHistoryResult}

variable {now : Timestamp} {raw_rows : List ZabbixHistoryEvidence}

/-- The rows of a success are persisted; then streams and gaps are written. -/
theorem applyHistory_ok {s s' : ObservationTables × ℕ} (h : applyHistory domain now claim result raw_rows s = .ok s') :
    ∃ t gaps, (if result.succeeded then _persist_history_rows domain now claim raw_rows s else .ok s) = .ok t ∧
      recordGaps now claim result (t.1.gaps, t.2) = .ok gaps ∧
      s' = ({ t.1 with
        streams := claim.targets.foldl (upsertStream now claim (historyCoverage result)) t.1.streams
        gaps := gaps.1 }, gaps.2) := by
  unfold applyHistory at h
  split_ifs at h ⊢
  · obtain ⟨t, hrows, h⟩ := bind_ok_iff.1 h
    obtain ⟨gaps, hgaps, h⟩ := bind_ok_iff.1 h
    exact ⟨t, gaps, hrows, hgaps, (Except.ok.inj h).symm⟩
  · obtain ⟨t, hrows, h⟩ := bind_ok_iff.1 h
    obtain ⟨gaps, hgaps, h⟩ := bind_ok_iff.1 h
    exact ⟨t, gaps, hrows, hgaps, (Except.ok.inj h).symm⟩

/-! ### Completion -/

/-- `next_cursor`: the last item of a page. -/
def nextCursor (targets : List HistoryMetricTarget) : String :=
  (targets.map HistoryMetricTarget.provider_external_ref).foldl max ""

/-- Queues the next page of the window, where a full page leaves items behind it. -/
def chainHistory (domain : Domain) (now : Timestamp) (claim : MetricHistoryClaim) (result : MetricHistoryResult)
    (db : SyncDb) : Except String SyncDb :=
  if result.succeeded ∧ !claim.targets.isEmpty ∧ claim.targets.length = domain.max_history_items_per_request ∧
      ((db.metrics.pollable claim.monitoring_source_id claim.source_instance_generation).any fun x =>
        x.2.provider_external_ref > nextCursor claim.targets) then
    db.insertOperation "mon-op" fun op_id =>
      { monitoring_sync_operation_id := op_id, monitoring_source_id := claim.monitoring_source_id
        source_instance_generation := claim.source_instance_generation
        configuration_revision := claim.configuration_revision, scope_revision := claim.scope_revision
        responsibility_kind := .metric_history_sync, state := .pending, claim_token := none, started_at := none
        completed_at := none, last_error_class := none, problem_poll_epoch := none
        problem_poll_generation := none, current_state_poll_epoch := none
        current_state_poll_generation := none, created_at := now, item_definition_poll_epoch := none
        item_definition_poll_generation := none, history_time_from := some claim.window.time_from
        history_time_till := some claim.window.time_till, history_item_cursor := nextCursor claim.targets
        recovery_count := 0, host_inventory_snapshot_evidence_id := none
        metric_definition_snapshot_evidence_id := none }
  else .ok db

/-- `complete_metric_history`. -/
def complete_metric_history (domain : Domain) (now : Timestamp) (claim : MetricHistoryClaim)
    (result : MetricHistoryResult) (raw_rows : List ZabbixHistoryEvidence) (db : SyncDb) : Except String SyncDb := do
  require (db.core.fence claim.toSyncClaim fun _ => true) "monitoring.metric_history_claim_lost"
  let (observations, nextId) ← applyHistory domain now claim result raw_rows (db.observations, db.nextId)
  chainHistory domain now claim result { db with
    core := db.core.finish now claim.toSyncClaim result.toSyncResult
      (result.failure_class.map MetricHistoryFailureClass.value) "metric_history" id id
    observations := observations
    nextId := nextId }

theorem chainHistory_ok {db db' : SyncDb} (h : chainHistory domain now claim result db = .ok db') :
    db' = db ∨ ∃ o : OperationRow, o.responsibility_kind = .metric_history_sync ∧ o.state = .pending ∧
      (∀ o' ∈ db.core.operations, o'.monitoring_sync_operation_id ≠ o.monitoring_sync_operation_id) ∧
      db' = { db with
        core := { db.core with operations := db.core.operations ++ [o] }
        nextId := db.nextId + 1 } := by
  unfold chainHistory at h
  split_ifs at h
  · obtain ⟨hnew, rfl⟩ := insertOperation_ok h
    exact Or.inr ⟨_, rfl, rfl, hnew, rfl⟩
  · exact Or.inl (Except.ok.inj h).symm

theorem complete_metric_history_ok {db db' : SyncDb}
    (h : complete_metric_history domain now claim result raw_rows db = .ok db') :
    db.core.fence claim.toSyncClaim (fun _ => true) = true ∧
      ∃ s, applyHistory domain now claim result raw_rows (db.observations, db.nextId) = .ok s ∧
        chainHistory domain now claim result { db with
          core := db.core.finish now claim.toSyncClaim result.toSyncResult
            (result.failure_class.map MetricHistoryFailureClass.value) "metric_history" (fun s => s) (fun o => o)
          observations := s.1
          nextId := s.2 } = .ok db' := by
  obtain ⟨_, hfence, h⟩ := bind_ok_iff.1 h
  obtain ⟨s, happly, h⟩ := bind_ok_iff.1 h
  exact ⟨require_ok_iff.1 hfence, s, happly, h⟩

/-! ### Projection of pending acceptances -/

/-- The pending acceptances of a source that one pass takes, in the order of their clocks. -/
def ObservationTables.pending (t : ObservationTables) (source_id : String) : List ObservationAcceptance :=
  ((t.acceptances.filter fun a => a.monitoring_source_id = source_id ∧ a.history_projection_state = .pending).insertionSort
    fun a b => (toLex (a.provider_clock, a.provider_ns) : ProviderTime) ≤ toLex (b.provider_clock, b.provider_ns)).take
    10000

/-- `project_pending_observations`. -/
def project_pending_observations (source_id : String) (db : SyncDb) : Except String SyncDb := do
  let rows := db.observations.pending source_id
  let observations ← rows.foldlM (fun l a => insertObservation a.observation l) db.observations.observations
  .ok { db with
    observations := { db.observations with
      observations := observations
      acceptances := markProjected (rows.map ObservationAcceptance.observation_id) db.observations.acceptances } }

/-! ### The reader -/

/-- `completeness.state`. -/
inductive HistoryCompleteness where
  | complete
  | incomplete
  | gap_detected
  | reconciliation_required
  deriving DecidableEq

/-- The state of a coverage. -/
def completenessOf : HistoryCoverageState → HistoryCompleteness
  | .finalized => .complete
  | .open => .incomplete
  | .gap => .gap_detected
  | .reconciliation_required => .reconciliation_required

/-- What `list_metric_history` says of a window. -/
structure MetricHistoryView where
  metric_definition_id : String
  source_instance_generation : String
  /-- The generation is the active one of the source. -/
  active_generation : Bool
  window : MetricHistoryWindow
  state : HistoryCompleteness
  covered_through : Option ℤ
  gap_refs : List ℕ

/-- The stream of a metric that was written last. -/
def ObservationTables.newestStream (t : ObservationTables) (source_id definition_id : String) : Option HistoryStream :=
  ((t.streams.filter fun s => s.monitoring_source_id = source_id ∧ s.metric_definition_id = definition_id).insertionSort
    fun a b => b.updated_at ≤ a.updated_at).head?

/-- The gaps of a metric, the newest first. -/
def ObservationTables.gapRefs (t : ObservationTables) (source_id definition_id : String) : List ℕ :=
  (((t.gaps.filter fun g => g.monitoring_source_id = source_id ∧ g.metric_definition_id = definition_id).insertionSort
    fun a b => b.detected_at ≤ a.detected_at).take 64).map HistoryGap.history_gap_id

/-- `list_metric_history`. -/
def list_metric_history (source_id definition_id : String) (window : MetricHistoryWindow) (db : SyncDb) :
    Option MetricHistoryView := do
  let d ← db.metrics.definitions.find? fun d =>
    d.metric_definition_id = definition_id ∧ d.monitoring_source_id = source_id
  let s ← db.core.source d.monitoring_source_id
  let stream := db.observations.newestStream source_id definition_id
  return {
    metric_definition_id := definition_id
    source_instance_generation := d.source_instance_generation
    active_generation := d.source_instance_generation = s.active_source_instance_generation
    window := window
    state := completenessOf (stream.elim .open HistoryStream.coverage_state)
    covered_through := stream.bind HistoryStream.safe_clock
    gap_refs := db.observations.gapRefs source_id definition_id }

end JLMirror.Monitoring
