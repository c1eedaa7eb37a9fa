import JLMirror.Monitoring.HealthProjection
import JLMirror.Monitoring.MetricHistory
import JLMirror.Monitoring.ProblemSync
import JLMirror.Monitoring.Recovery

/-!
# The sync system

All actors of the monitoring schema in one state machine: the API and the scheduler queue operations,
six workers claim and complete them, the reaper and the operator recover them, and the projections of
health and history run in between, in any order.

## The model

* Each action is one transaction. Where it raises, it is rolled back.
* A worker completes a claim that it was handed: the `n`-th that was issued, with what it collected. It
  may be as late as it likes.
* Nothing in the repository changes the authority of a source after its creation, or its poll epochs;
  `Action.moveAuthority` and `Action.advanceEpoch` are what an administration, or a recovery of the
  source, may do.
* `issued` and `committed` are ghosts: the claims handed out, and the completions that were committed, in
  order.

## What is proved

* `step_cases`: what a step may be, with one case for each transaction.
* `commits_iff`: the completions that a step commits.
* `step_metrics`, `step_observations`, …: which actions write which tables.
-/

namespace JLMirror.Monitoring.Sync

open JLMirror.Foundations

/-! ### Workers -/

/-- The workers. -/
inductive Worker where
  | validation
  | inventory
  | definitions
  | currentState
  | history
  | problemState
  deriving DecidableEq

/-- The kind of operations that a worker claims. -/
def Worker.responsibility : Worker → ResponsibilityKind
  | .validation => .validation_and_initial_sync
  | .inventory => .host_inventory_sync
  | .definitions => .metric_definition_poll
  | .currentState => .current_state_poll
  | .history => .metric_history_sync
  | .problemState => .problem_state_sync

/-- A claim of a worker. -/
inductive Claim where
  | validation (claim : InitialValidationClaim)
  | inventory (claim : HostInventoryClaim)
  | definitions (claim : MetricDefinitionClaim)
  | currentState (claim : MetricCurrentStateClaim)
  | history (claim : MetricHistoryClaim)
  | problemState (claim : ProblemStateClaim)

/-- What a worker collected for a claim, with the ids that it made up. -/
inductive Report where
  | validation (result : InitialValidationResult) (validation_evidence_id : String)
  | inventory (result : HostInventoryResult) (snapshot_evidence_id : String)
  | definitions (result : MetricDefinitionResult) (snapshot_evidence_id : String)
  | currentState (result : MetricCurrentStateResult)
  | history (result : MetricHistoryResult) (raw_rows : List ZabbixHistoryEvidence)
  | problemState (result : ProblemStateResult) (raw_rows : List ZabbixProblemEvidence)
      (recoveries : List ZabbixRecoveryEvidence)

variable (domain : Domain)

/-- A worker claims an operation. -/
def claim (now : Timestamp) (w : Worker) (op_id claim_token : String) (db : SyncDb) :
    Except String (Option Claim × SyncDb) :=
  match w with
  | .validation => (claim_initial_validation now op_id claim_token db).map (Prod.map (some ∘ .validation) id)
  | .inventory => (claim_host_inventory now op_id claim_token db).map (Prod.map (some ∘ .inventory) id)
  | .definitions => (claim_metric_definitions now op_id claim_token db).map (Prod.map (some ∘ .definitions) id)
  | .currentState => (claim_metric_current_state now op_id claim_token db).map (Prod.map (some ∘ .currentState) id)
  | .history => (claim_metric_history domain now op_id claim_token db).map (Prod.map (Option.map .history) id)
  | .problemState => (claim_problem_sync now op_id claim_token db).map (Prod.map (some ∘ .problemState) id)

/-- A worker completes a claim. It reports on claims of its own kind only. -/
def complete (now : Timestamp) (claim : Claim) (report : Report) (db : SyncDb) : Except String SyncDb :=
  match claim, report with
  | .validation c, .validation result id => complete_initial_validation now c result id db
  | .inventory c, .inventory result id => complete_host_inventory now c result id db
  | .definitions c, .definitions result id => complete_metric_definitions domain now c result id db
  | .currentState c, .currentState result => complete_metric_current_state now c result db
  | .history c, .history result raw_rows => complete_metric_history domain now c result raw_rows db
  | .problemState c, .problemState result raw_rows recoveries =>
    complete_problem_sync now c result raw_rows recoveries db
  | _, _ => .error "TypeError"

/-! ### Actions -/

/-- The authority of a source. -/
structure Authority where
  active_source_instance_generation : String
  configuration_revision : ℕ
  scope_revision : ℕ
  provider_scope_tenant_binding_id : String
  credential_binding_ref : String

/-- The polls that have slots. -/
inductive SlotKind where
  | item_definition
  | current_state
  deriving DecidableEq

/-- What happens to the schema. -/
inductive Action where
  | createSource (now : Timestamp) (provider_instance_ref provider_base_url credential_binding_ref : String)
  | enqueue (now : Timestamp) (kind : ResponsibilityKind) (source_id : String)
  | enqueueDefinitions (now : Timestamp) (source_id : String)
  | enqueueCurrentState (now : Timestamp) (source_id : String)
  | enqueueHistory (now : Timestamp) (time_from time_till : ℤ) (source_id : String)
  | enqueueProblemState (now : Timestamp) (source_id : String)
  | claim (now : Timestamp) (w : Worker) (op_id claim_token : String)
  /-- The `n`-th claim that was issued. -/
  | complete (now : Timestamp) (n : ℕ) (report : Report)
  | requeue (source_id op_id : String)
  | recover (cfg : RecoveryConfig) (now : Timestamp) (slots : ℕ)
  | reestablish (source_id generation : String)
  | refreshBindings (source_id generation : String) (trigger_host_pairs : List (String × String))
  | projectHistory (source_id : String)
  | projectHealth (source_id : String)
  /-- A new authority of a source, with the generation it names. -/
  | moveAuthority (source_id : String) (authority : Authority) (generation : SourceGeneration)
  /-- A later epoch of the polls of a source. -/
  | advanceEpoch (source_id : String) (kind : SlotKind) (epoch generation : ℕ)

/-- `Action.moveAuthority` on the tables. -/
def moveAuthority (source_id : String) (a : Authority) (g : SourceGeneration) (c : CoreTables) : CoreTables :=
  { c with
    generations :=
      if c.generations.any fun g' =>
          g'.monitoring_source_id = g.monitoring_source_id ∧
            g'.source_instance_generation = g.source_instance_generation then c.generations
      else c.generations ++ [g]
    sources := updateWhere (fun s => s.monitoring_source_id = source_id)
      (fun s => { s with
        active_source_instance_generation := a.active_source_instance_generation
        configuration_revision := a.configuration_revision
        scope_revision := a.scope_revision
        provider_scope_tenant_binding_id := a.provider_scope_tenant_binding_id
        credential_binding_ref := a.credential_binding_ref }) c.sources }

/-- The slot of a source. -/
def slotOf (s : SourceRow) : SlotKind → ℕ × ℕ
  | .item_definition => (s.item_definition_poll_epoch, s.item_definition_poll_generation)
  | .current_state => (s.current_state_poll_epoch, s.current_state_poll_generation)

/-- Sets the slot of a source. -/
def setSlot (kind : SlotKind) (epoch generation : ℕ) (s : SourceRow) : SourceRow :=
  match kind with
  | .item_definition => { s with item_definition_poll_epoch := epoch, item_definition_poll_generation := generation }
  | .current_state => { s with current_state_poll_epoch := epoch, current_state_poll_generation := generation }

/-- `Action.advanceEpoch` on the tables. -/
def advanceEpoch (source_id : String) (kind : SlotKind) (epoch generation : ℕ) (c : CoreTables) : CoreTables :=
  { c with
    sources := updateWhere (fun s => s.monitoring_source_id = source_id ∧ (slotOf s kind).1 < epoch)
      (setSlot kind epoch generation) c.sources }

/-- The schema, with what the workers hold and what they have done. -/
structure System where
  db : SyncDb
  issued : List Claim
  committed : List (Claim × Report)

/-- Nothing yet. -/
def System.empty (bridge : BridgeVersion) : System := ⟨.empty bridge, [], []⟩

/-- The actions that are one transaction on the schema, and nothing to the workers. -/
def transact (db : SyncDb) : Action → Except String SyncDb
  | .createSource now ref url credential => insertZabbixSource now ref url credential db
  | .enqueue now kind source_id => enqueue_sync_operation now kind source_id db
  | .enqueueDefinitions now source_id => enqueue_metric_definition_poll now source_id db
  | .enqueueCurrentState now source_id => enqueue_current_state_poll now source_id db
  | .enqueueHistory now time_from time_till source_id => enqueue_history_sync now time_from time_till source_id db
  | .enqueueProblemState now source_id => enqueue_problem_state_sync now source_id db
  | .requeue source_id op_id => .ok { db with core := (requeue_sync_operation source_id op_id db.core).2 }
  | .recover cfg now slots => .ok { db with core := recoveryPass cfg now slots db.core }
  | .reestablish source_id generation => .ok (reestablish_problem_admission source_id generation db)
  | .refreshBindings source_id generation pairs => .ok (refresh_trigger_bindings source_id generation pairs db)
  | .projectHistory source_id => project_pending_observations source_id db
  | .projectHealth source_id => (project_source_health domain source_id db).map Prod.snd
  | .moveAuthority source_id a g => .ok { db with core := moveAuthority source_id a g db.core }
  | .advanceEpoch source_id kind epoch generation =>
    .ok { db with core := advanceEpoch source_id kind epoch generation db.core }
  | .claim .. | .complete .. => .ok db

/-- The system after an action. -/
def System.step (s : System) : Action → System
  | .claim now w op_id claim_token =>
    match claim domain now w op_id claim_token s.db with
    | .ok (c, db) => { s with db := db, issued := s.issued ++ c.toList }
    | .error _ => s
  | .complete now n report =>
    match s.issued[n]? with
    | none => s
    | some c =>
      match complete domain now c report s.db with
      | .ok db => { s with db := db, committed := s.committed ++ [(c, report)] }
      | .error _ => s
  | a => { s with db := s.db.orRollback (transact domain s.db a) }

/-- The system after a run. -/
def System.exec (bridge : BridgeVersion) (run : List Action) : System :=
  run.foldl (System.step domain) (.empty bridge)

/-! ### What a step may be -/

variable {domain}

/-- A step that is rolled back, a transaction on the schema alone, a claim, or a completion. -/
theorem step_cases (domain : Domain) (s : System) (a : Action) :
    s.step domain a = s ∨
    (∃ db, transact domain s.db a = .ok db ∧ s.step domain a = { s with db := db }) ∨
    (∃ now w op_id token c db, a = .claim now w op_id token ∧ claim domain now w op_id token s.db = .ok (c, db) ∧
      s.step domain a = { s with db := db, issued := s.issued ++ c.toList }) ∨
    ∃ now n report c db, a = .complete now n report ∧ s.issued[n]? = some c ∧
      complete domain now c report s.db = .ok db ∧
      s.step domain a = { s with db := db, committed := s.committed ++ [(c, report)] } := by
  have transaction : ∀ a, s.step domain a = { s with db := s.db.orRollback (transact domain s.db a) } →
      s.step domain a = s ∨ ∃ db, transact domain s.db a = .ok db ∧ s.step domain a = { s with db := db } := by
    intro a ha
    cases ht : transact domain s.db a with
    | error e => exact Or.inl (by rw [ha, ht]; rfl)
    | ok db => exact Or.inr ⟨db, rfl, by rw [ha, ht]; rfl⟩
  cases a with
  | claim now w op_id token =>
    cases hc : claim domain now w op_id token s.db with
    | error e => exact Or.inl (by simp only [System.step, hc])
    | ok x => exact Or.inr (Or.inr (Or.inl ⟨now, w, op_id, token, x.1, x.2, rfl, hc, by simp only [System.step, hc]⟩))
  | complete now n report =>
    cases hn : s.issued[n]? with
    | none => exact Or.inl (by simp only [System.step, hn])
    | some c =>
      cases hc : complete domain now c report s.db with
      | error e => exact Or.inl (by simp only [System.step, hn, hc])
      | ok db =>
        exact Or.inr (Or.inr (Or.inr ⟨now, n, report, c, db, rfl, hn, hc, by simp only [System.step, hn, hc]⟩))
  | _ => exact (transaction _ rfl).imp_right Or.inl

/-- The action commits a completion of the claim, with the report. -/
def System.Commits (domain : Domain) (s : System) (a : Action) (c : Claim) (report : Report) : Prop :=
  (s.step domain a).committed = s.committed ++ [(c, report)]

theorem commits_iff {s : System} {a : Action} {c : Claim} {report : Report} :
    s.Commits domain a c report ↔ ∃ now n, a = .complete now n report ∧ s.issued[n]? = some c ∧
      complete domain now c report s.db = .ok (s.step domain a).db := by
  unfold System.Commits
  constructor
  · intro h
    rcases step_cases domain s a with heq | ⟨db, -, heq⟩ | ⟨now, w, op_id, token, c', db, -, -, heq⟩ |
      ⟨now, n, report', c', db, rfl, hn, hc, heq⟩ <;> rw [heq] at h ⊢
    · simp at h
    · simp at h
    · simp at h
    · obtain ⟨rfl, rfl⟩ : c' = c ∧ report' = report := by simpa using h
      exact ⟨now, n, rfl, hn, hc⟩
  · rintro ⟨now, n, rfl, hn, hc⟩
    obtain ⟨db, hdb⟩ : ∃ db, complete domain now c report s.db = .ok db := ⟨_, hc⟩
    simp only [System.step, hn, hdb]

theorem step_committed (domain : Domain) (s : System) (a : Action) :
    (s.step domain a).committed = s.committed ∨ ∃ c report, s.Commits domain a c report := by
  rcases step_cases domain s a with h | ⟨db, -, h⟩ | ⟨now, w, op_id, token, c, db, -, -, h⟩ |
    ⟨now, n, report, c, db, -, -, -, h⟩
  · exact Or.inl (by rw [h])
  · exact Or.inl (by rw [h])
  · exact Or.inl (by rw [h])
  · exact Or.inr ⟨c, report, by rw [System.Commits, h]⟩

/-- Only sources, generations, operations, validations and usage are written. -/
def OnlyCore (db db' : SyncDb) : Prop := ∃ core nextId, db' = { db with core := core, nextId := nextId }

variable {db db' : SyncDb}

theorem insertOperation_onlyCore {kind : String} {row : String → OperationRow}
    (h : db.insertOperation kind row = .ok db') : OnlyCore db db' :=
  ⟨_, _, (insertOperation_ok h).2⟩

variable {now : Timestamp} {source_id : String}

theorem enqueue_onlyCore {kind : ResponsibilityKind} {set : SourceRow → OperationRow → OperationRow}
    (h : db.enqueue now kind set source_id = .ok db') : OnlyCore db db' := by
  obtain ⟨s, -, h⟩ := enqueue_ok h
  exact insertOperation_onlyCore h

/-- What a transaction on the schema alone may write. -/
theorem transact_cases {a : Action} (h : transact domain db a = .ok db') :
    OnlyCore db db' ∨
    (∃ source_id, a = .projectHistory source_id ∧ project_pending_observations source_id db = .ok db') ∨
    (∃ source_id n, a = .projectHealth source_id ∧ project_source_health domain source_id db = .ok (n, db')) ∨
    ∃ admissions triggerBindings,
      db' = { db with problems := { db.problems with
        admissions := admissions, triggerBindings := triggerBindings } } := by
  cases a with
  | createSource now ref url credential =>
    refine Or.inl ?_
    obtain ⟨generations, -, h⟩ := bind_ok_iff.1 h
    obtain ⟨operations, -, h⟩ := bind_ok_iff.1 h
    obtain ⟨sources, -, h⟩ := bind_ok_iff.1 h
    exact ⟨_, _, (Except.ok.inj h).symm⟩
  | enqueue | enqueueDefinitions | enqueueCurrentState | enqueueHistory =>
    simp only [transact, enqueue_sync_operation, enqueue_metric_definition_poll, enqueue_current_state_poll,
      enqueue_history_sync] at h
    exact Or.inl (enqueue_onlyCore h)
  | enqueueProblemState now source_id =>
    refine Or.inl ?_
    simp only [transact, enqueue_problem_state_sync] at h
    split at h
    · exact ⟨_, _, (Except.ok.inj h).symm⟩
    · exact insertOperation_onlyCore h
  | projectHistory source_id => exact Or.inr (Or.inl ⟨source_id, rfl, h⟩)
  | projectHealth source_id =>
    obtain ⟨x, hx, rfl⟩ := map_ok_iff.1 h
    exact Or.inr (Or.inr (Or.inl ⟨source_id, x.1, rfl, hx⟩))
  | reestablish source_id generation =>
    refine Or.inr (Or.inr (Or.inr ?_))
    have h : reestablish_problem_admission source_id generation db = db' := Except.ok.inj h
    unfold reestablish_problem_admission at h
    split at h
    · exact ⟨_, _, h.symm⟩
    · exact ⟨_, _, h.symm⟩
  | refreshBindings source_id generation pairs =>
    exact Or.inr (Or.inr (Or.inr ⟨_, _, (Except.ok.inj h).symm⟩))
  | claim now w op_id token => exact Or.inl ⟨_, _, (Except.ok.inj h).symm⟩
  | complete now n report => exact Or.inl ⟨_, _, (Except.ok.inj h).symm⟩
  | requeue source_id op_id => exact Or.inl ⟨_, _, (Except.ok.inj h).symm⟩
  | recover cfg now slots => exact Or.inl ⟨_, _, (Except.ok.inj h).symm⟩
  | moveAuthority source_id authority generation => exact Or.inl ⟨_, _, (Except.ok.inj h).symm⟩
  | advanceEpoch source_id kind epoch generation => exact Or.inl ⟨_, _, (Except.ok.inj h).symm⟩

/-- A claim marks its operation as running, and a history claim without targets ends it; what the problem worker
claims apart. -/
theorem claim_cases {w : Worker} {op_id token : String} {c : Option Claim}
    (h : claim domain now w op_id token db = .ok (c, db')) :
    (∃ core, (core = db.core.markRunning now op_id token ∨
        core = (db.core.markRunning now op_id token).succeedEmpty now op_id token) ∧
      db' = { db with core := core }) ∨
      ∃ c', w = .problemState ∧ c = some (.problemState c') ∧ claim_problem_sync now op_id token db = .ok (c', db') := by
  cases w with
  | validation =>
    obtain ⟨x, hx, h⟩ := map_ok_iff.1 h
    obtain ⟨rfl, rfl⟩ : some (Claim.validation x.1) = c ∧ x.2 = db' := Prod.mk.inj h
    unfold claim_initial_validation at hx
    split at hx
    · cases hx
    · exact Or.inl ⟨_, Or.inl rfl, by rw [← Except.ok.inj hx]⟩
  | inventory =>
    obtain ⟨x, hx, h⟩ := map_ok_iff.1 h
    obtain ⟨rfl, rfl⟩ : some (Claim.inventory x.1) = c ∧ x.2 = db' := Prod.mk.inj h
    unfold claim_host_inventory at hx
    split at hx
    · cases hx
    · exact Or.inl ⟨_, Or.inl rfl, by rw [← Except.ok.inj hx]⟩
  | definitions =>
    obtain ⟨x, hx, h⟩ := map_ok_iff.1 h
    obtain ⟨rfl, rfl⟩ : some (Claim.definitions x.1) = c ∧ x.2 = db' := Prod.mk.inj h
    unfold claim_metric_definitions at hx
    split at hx
    · cases hx
    · exact Or.inl ⟨_, Or.inl rfl, by rw [← Except.ok.inj hx]⟩
  | currentState =>
    obtain ⟨x, hx, h⟩ := map_ok_iff.1 h
    obtain ⟨rfl, rfl⟩ : some (Claim.currentState x.1) = c ∧ x.2 = db' := Prod.mk.inj h
    unfold claim_metric_current_state at hx
    split at hx
    · cases hx
    · exact Or.inl ⟨_, Or.inl rfl, by rw [← Except.ok.inj hx]⟩
  | history =>
    obtain ⟨x, hx, h⟩ := map_ok_iff.1 h
    obtain ⟨-, rfl⟩ : x.1.map Claim.history = c ∧ x.2 = db' := Prod.mk.inj h
    unfold claim_metric_history at hx
    split at hx
    · cases hx
    · dsimp only at hx
      split_ifs at hx
      · exact Or.inl ⟨_, Or.inr rfl, by rw [← Except.ok.inj hx]⟩
      · split at hx <;> exact Or.inl ⟨_, Or.inl rfl, by rw [← Except.ok.inj hx]⟩
  | problemState =>
    obtain ⟨x, hx, h⟩ := map_ok_iff.1 h
    obtain ⟨rfl, rfl⟩ : some (Claim.problemState x.1) = c ∧ x.2 = db' := Prod.mk.inj h
    exact Or.inr ⟨x.1, rfl, rfl, hx⟩

/-- What the problem worker does to the schema: nothing outside sources, operations and its own tables. -/
theorem problemView_frame {p : MonitoringDb} (h : db' = db.withProblemView now p) :
    db'.inventory = db.inventory ∧ db'.metrics = db.metrics ∧ db'.observations = db.observations ∧
      db'.health = db.health := by
  subst h
  exact ⟨rfl, rfl, rfl, rfl⟩

theorem claim_frame {w : Worker} {op_id token : String} {c : Option Claim}
    (h : claim domain now w op_id token db = .ok (c, db')) :
    db'.inventory = db.inventory ∧ db'.metrics = db.metrics ∧ db'.observations = db.observations ∧
      db'.health = db.health := by
  rcases claim_cases h with ⟨core, -, rfl⟩ | ⟨c', -, -, h⟩
  · exact ⟨rfl, rfl, rfl, rfl⟩
  · obtain ⟨x, -, hx⟩ := map_ok_iff.1 h
    exact problemView_frame (Prod.mk.inj hx).2.symm

/-- Which completion writes what. -/
theorem complete_cases {c : Claim} {report : Report} (h : complete domain now c report db = .ok db') :
    (∃ c' result id, c = .validation c' ∧ report = .validation result id ∧
      complete_initial_validation now c' result id db = .ok db') ∨
    (∃ c' result id, c = .inventory c' ∧ report = .inventory result id ∧
      complete_host_inventory now c' result id db = .ok db') ∨
    (∃ c' result id, c = .definitions c' ∧ report = .definitions result id ∧
      complete_metric_definitions domain now c' result id db = .ok db') ∨
    (∃ c' result, c = .currentState c' ∧ report = .currentState result ∧
      complete_metric_current_state now c' result db = .ok db') ∨
    (∃ c' result raw_rows, c = .history c' ∧ report = .history result raw_rows ∧
      complete_metric_history domain now c' result raw_rows db = .ok db') ∨
    ∃ c' result raw_rows recoveries, c = .problemState c' ∧ report = .problemState result raw_rows recoveries ∧
      complete_problem_sync now c' result raw_rows recoveries db = .ok db' := by
  unfold complete at h
  split at h
  · exact Or.inl ⟨_, _, _, rfl, rfl, h⟩
  · exact Or.inr (Or.inl ⟨_, _, _, rfl, rfl, h⟩)
  · exact Or.inr (Or.inr (Or.inl ⟨_, _, _, rfl, rfl, h⟩))
  · exact Or.inr (Or.inr (Or.inr (Or.inl ⟨_, _, rfl, rfl, h⟩)))
  · exact Or.inr (Or.inr (Or.inr (Or.inr (Or.inl ⟨_, _, _, rfl, rfl, h⟩))))
  · exact Or.inr (Or.inr (Or.inr (Or.inr (Or.inr ⟨_, _, _, _, rfl, rfl, h⟩))))
  · cases h

/-! ### Which tables a step writes -/

theorem validation_frame {claim : InitialValidationClaim} {result : InitialValidationResult} {id : String}
    (h : complete_initial_validation now claim result id db = .ok db') : ∃ core, db' = { db with core := core } := by
  obtain ⟨-, -, e, -, -, rfl⟩ := complete_initial_validation_ok h
  exact ⟨_, rfl⟩

theorem inventory_frame {claim : HostInventoryClaim} {result : HostInventoryResult} {id : String}
    (h : complete_host_inventory now claim result id db = .ok db') :
    ∃ core inventory nextId, db' = { db with core := core, inventory := inventory, nextId := nextId } := by
  obtain ⟨-, -, -, s, -, rfl⟩ := complete_host_inventory_ok h
  exact ⟨_, _, _, rfl⟩

theorem definitions_frame {claim : MetricDefinitionClaim} {result : MetricDefinitionResult} {id : String}
    (h : complete_metric_definitions domain now claim result id db = .ok db') :
    ∃ core metrics nextId, db' = { db with core := core, metrics := metrics, nextId := nextId } := by
  obtain ⟨-, -, -, s, -, rfl⟩ := complete_metric_definitions_ok h
  exact ⟨_, _, _, rfl⟩

theorem currentState_frame {claim : MetricCurrentStateClaim} {result : MetricCurrentStateResult}
    (h : complete_metric_current_state now claim result db = .ok db') :
    ∃ core observations nextId, db' = { db with core := core, observations := observations, nextId := nextId } := by
  obtain ⟨-, s, -, rfl⟩ := complete_metric_current_state_ok h
  exact ⟨_, _, _, rfl⟩

theorem history_frame {claim : MetricHistoryClaim} {result : MetricHistoryResult}
    {raw_rows : List ZabbixHistoryEvidence}
    (h : complete_metric_history domain now claim result raw_rows db = .ok db') :
    ∃ core observations nextId, db' = { db with core := core, observations := observations, nextId := nextId } := by
  obtain ⟨-, s, -, hchain⟩ := complete_metric_history_ok h
  rcases chainHistory_ok hchain with rfl | ⟨o, -, -, -, rfl⟩
  · exact ⟨_, _, _, rfl⟩
  · exact ⟨_, _, _, rfl⟩

theorem projectHistory_frame (h : project_pending_observations source_id db = .ok db') :
    ∃ observations, db' = { db with observations := observations } := by
  obtain ⟨observations, -, h⟩ := bind_ok_iff.1 h
  exact ⟨_, (Except.ok.inj h).symm⟩

theorem projectHealth_frame {n : ℕ} (h : project_source_health domain source_id db = .ok (n, db')) :
    ∃ health nextId, db' = { db with health := health, nextId := nextId } := by
  unfold project_source_health at h
  split at h
  · exact ⟨db.health, db.nextId, (Prod.mk.inj (Except.ok.inj h)).2.symm⟩
  · obtain ⟨p, -, h⟩ := bind_ok_iff.1 h
    exact ⟨_, _, (Prod.mk.inj (Except.ok.inj h)).2.symm⟩

/-- The actions that write neither sources nor operations, as a transaction. -/
def Action.sparesCore : Action → Bool
  | .projectHistory _ | .projectHealth _ | .reestablish .. | .refreshBindings .. | .claim .. | .complete .. => true
  | _ => false

theorem transact_core {a : Action} (h : transact domain db a = .ok db') (ha : a.sparesCore = true) : db'.core = db.core := by
  cases a with
  | projectHistory source_id =>
    obtain ⟨_, rfl⟩ := projectHistory_frame h
    rfl
  | projectHealth source_id =>
    obtain ⟨x, hx, rfl⟩ := map_ok_iff.1 h
    obtain ⟨_, _, heq⟩ := projectHealth_frame hx
    rw [heq]
  | reestablish source_id generation =>
    have h : reestablish_problem_admission source_id generation db = db' := Except.ok.inj h
    unfold reestablish_problem_admission at h
    split at h <;> exact h ▸ rfl
  | refreshBindings | claim | complete => exact Except.ok.inj h ▸ rfl
  | _ => cases ha

theorem problemState_frame {claim : ProblemStateClaim} {result : ProblemStateResult}
    {raw_rows : List ZabbixProblemEvidence} {recoveries : List ZabbixRecoveryEvidence}
    (h : complete_problem_sync now claim result raw_rows recoveries db = .ok db') :
    db'.inventory = db.inventory ∧ db'.metrics = db.metrics ∧ db'.observations = db.observations ∧
      db'.health = db.health := by
  obtain ⟨p, -, -, rfl⟩ := complete_problem_sync_ok h
  exact ⟨rfl, rfl, rfl, rfl⟩

/-- Metric definitions and their bindings are written by the completions of definition polls. -/
theorem step_metrics (domain : Domain) (s : System) (a : Action) :
    (s.step domain a).db.metrics = s.db.metrics ∨
      ∃ now n c result id, a = .complete now n (.definitions result id) ∧ s.issued[n]? = some (.definitions c) ∧
        complete_metric_definitions domain now c result id s.db = .ok (s.step domain a).db := by
  rcases step_cases domain s a with h | ⟨db, ht, h⟩ | ⟨now, w, op_id, token, c, db, -, hc, h⟩ |
    ⟨now, n, report, c, db, rfl, hn, hc, h⟩ <;> rw [h]
  · exact Or.inl rfl
  · left
    rcases transact_cases ht with ⟨_, _, rfl⟩ | ⟨source_id, -, ht⟩ | ⟨source_id, n, -, ht⟩ | ⟨_, _, rfl⟩
    · rfl
    · obtain ⟨_, rfl⟩ := projectHistory_frame ht
      rfl
    · obtain ⟨_, _, rfl⟩ := projectHealth_frame ht
      rfl
    · rfl
  · exact Or.inl (claim_frame hc).2.1
  · rcases complete_cases hc with ⟨c', result, id, -, -, hc⟩ | ⟨c', result, id, -, -, hc⟩ |
      ⟨c', result, id, rfl, rfl, hc⟩ | ⟨c', result, -, -, hc⟩ | ⟨c', result, raw_rows, -, -, hc⟩ |
      ⟨c', result, raw_rows, recoveries, -, -, hc⟩
    · obtain ⟨_, rfl⟩ := validation_frame hc
      exact Or.inl rfl
    · obtain ⟨_, _, _, rfl⟩ := inventory_frame hc
      exact Or.inl rfl
    · exact Or.inr ⟨now, n, c', result, id, rfl, hn, hc⟩
    · obtain ⟨_, _, _, rfl⟩ := currentState_frame hc
      exact Or.inl rfl
    · obtain ⟨_, _, _, rfl⟩ := history_frame hc
      exact Or.inl rfl
    · exact Or.inl (problemState_frame hc).2.1

/-- Observations are written by the completions of current-state polls and of history syncs, and by the
projection of pending acceptances. -/
theorem step_observations (domain : Domain) (s : System) (a : Action) :
    (s.step domain a).db.observations = s.db.observations ∨
      (∃ source_id, a = .projectHistory source_id ∧
        project_pending_observations source_id s.db = .ok (s.step domain a).db) ∨
      (∃ now n c result, a = .complete now n (.currentState result) ∧ s.issued[n]? = some (.currentState c) ∧
        complete_metric_current_state now c result s.db = .ok (s.step domain a).db) ∨
      ∃ now n c result raw_rows, a = .complete now n (.history result raw_rows) ∧
        s.issued[n]? = some (.history c) ∧
        complete_metric_history domain now c result raw_rows s.db = .ok (s.step domain a).db := by
  rcases step_cases domain s a with h | ⟨db, ht, h⟩ | ⟨now, w, op_id, token, c, db, -, hc, h⟩ |
    ⟨now, n, report, c, db, rfl, hn, hc, h⟩ <;> rw [h]
  · exact Or.inl rfl
  · rcases transact_cases ht with ⟨_, _, rfl⟩ | ⟨source_id, rfl, ht⟩ | ⟨source_id, n, -, ht⟩ | ⟨_, _, rfl⟩
    · exact Or.inl rfl
    · exact Or.inr (Or.inl ⟨source_id, rfl, ht⟩)
    · obtain ⟨_, _, rfl⟩ := projectHealth_frame ht
      exact Or.inl rfl
    · exact Or.inl rfl
  · exact Or.inl (claim_frame hc).2.2.1
  · rcases complete_cases hc with ⟨c', result, id, -, -, hc⟩ | ⟨c', result, id, -, -, hc⟩ |
      ⟨c', result, id, -, -, hc⟩ | ⟨c', result, rfl, rfl, hc⟩ | ⟨c', result, raw_rows, rfl, rfl, hc⟩ |
      ⟨c', result, raw_rows, recoveries, -, -, hc⟩
    · obtain ⟨_, rfl⟩ := validation_frame hc
      exact Or.inl rfl
    · obtain ⟨_, _, _, rfl⟩ := inventory_frame hc
      exact Or.inl rfl
    · obtain ⟨_, _, _, rfl⟩ := definitions_frame hc
      exact Or.inl rfl
    · exact Or.inr (Or.inr (Or.inl ⟨now, n, c', result, rfl, hn, hc⟩))
    · exact Or.inr (Or.inr (Or.inr ⟨now, n, c', result, raw_rows, rfl, hn, hc⟩))
    · exact Or.inl (problemState_frame hc).2.2.1

/-- Resources are written by the completions of inventory syncs. -/
theorem step_inventory (domain : Domain) (s : System) (a : Action) :
    (s.step domain a).db.inventory = s.db.inventory ∨
      ∃ now n c result id, a = .complete now n (.inventory result id) ∧ s.issued[n]? = some (.inventory c) ∧
        complete_host_inventory now c result id s.db = .ok (s.step domain a).db := by
  rcases step_cases domain s a with h | ⟨db, ht, h⟩ | ⟨now, w, op_id, token, c, db, -, hc, h⟩ |
    ⟨now, n, report, c, db, rfl, hn, hc, h⟩ <;> rw [h]
  · exact Or.inl rfl
  · left
    rcases transact_cases ht with ⟨_, _, rfl⟩ | ⟨source_id, -, ht⟩ | ⟨source_id, n, -, ht⟩ | ⟨_, _, rfl⟩
    · rfl
    · obtain ⟨_, rfl⟩ := projectHistory_frame ht
      rfl
    · obtain ⟨_, _, rfl⟩ := projectHealth_frame ht
      rfl
    · rfl
  · exact Or.inl (claim_frame hc).1
  · rcases complete_cases hc with ⟨c', result, id, -, -, hc⟩ | ⟨c', result, id, rfl, rfl, hc⟩ |
      ⟨c', result, id, -, -, hc⟩ | ⟨c', result, -, -, hc⟩ | ⟨c', result, raw_rows, -, -, hc⟩ |
      ⟨c', result, raw_rows, recoveries, -, -, hc⟩
    · obtain ⟨_, rfl⟩ := validation_frame hc
      exact Or.inl rfl
    · exact Or.inr ⟨now, n, c', result, id, rfl, hn, hc⟩
    · obtain ⟨_, _, _, rfl⟩ := definitions_frame hc
      exact Or.inl rfl
    · obtain ⟨_, _, _, rfl⟩ := currentState_frame hc
      exact Or.inl rfl
    · obtain ⟨_, _, _, rfl⟩ := history_frame hc
      exact Or.inl rfl
    · exact Or.inl (problemState_frame hc).1

/-- Health is written by its projection. -/
theorem step_health (domain : Domain) (s : System) (a : Action) :
    (s.step domain a).db.health = s.db.health ∨
      ∃ source_id n, a = .projectHealth source_id ∧
        project_source_health domain source_id s.db = .ok (n, (s.step domain a).db) := by
  rcases step_cases domain s a with h | ⟨db, ht, h⟩ | ⟨now, w, op_id, token, c, db, -, hc, h⟩ |
    ⟨now, n, report, c, db, rfl, hn, hc, h⟩ <;> rw [h]
  · exact Or.inl rfl
  · rcases transact_cases ht with ⟨_, _, rfl⟩ | ⟨source_id, -, ht⟩ | ⟨source_id, n, rfl, hp⟩ | ⟨_, _, rfl⟩
    · exact Or.inl rfl
    · obtain ⟨_, rfl⟩ := projectHistory_frame ht
      exact Or.inl rfl
    · exact Or.inr ⟨source_id, n, rfl, hp⟩
    · exact Or.inl rfl
  · exact Or.inl (claim_frame hc).2.2.2
  · left
    rcases complete_cases hc with ⟨c', result, id, -, -, hc⟩ | ⟨c', result, id, -, -, hc⟩ |
      ⟨c', result, id, -, -, hc⟩ | ⟨c', result, -, -, hc⟩ | ⟨c', result, raw_rows, -, -, hc⟩ |
      ⟨c', result, raw_rows, recoveries, -, -, hc⟩
    · obtain ⟨_, rfl⟩ := validation_frame hc
      rfl
    · obtain ⟨_, _, _, rfl⟩ := inventory_frame hc
      rfl
    · obtain ⟨_, _, _, rfl⟩ := definitions_frame hc
      rfl
    · obtain ⟨_, _, _, rfl⟩ := currentState_frame hc
      rfl
    · obtain ⟨_, _, _, rfl⟩ := history_frame hc
      rfl
    · exact (problemState_frame hc).2.2.2

/-! ### A run of one item -/

/-- A result without a failure. -/
def SyncResult.ok (φ : Type) : SyncResult φ := ⟨true, .succeeded, .current, none⟩

/-- An item of one host, with a native type. -/
def sampleItem (native : NativeValueType) : MetricItem := ⟨"42424", "10101", "CPU", "system.cpu.util", "%", native, .enabled⟩

/-- A complete snapshot that shows the item. -/
def sampleSnapshot (native : NativeValueType) : MetricDefinitionResult :=
  { SyncResult.ok _ with snapshot_complete := true, items := [sampleItem native] }

/-- A source with one host, whose item is polled. -/
def polledOnce (native : NativeValueType) : List Action :=
  [.createSource 0 "zabbix" "https://zabbix" "cred", .enqueue 1 .host_inventory_sync "mon-src_0",
    .claim 2 .inventory "mon-sync_4" "token-1",
    .complete 3 0 (.inventory { SyncResult.ok _ with snapshot_complete := true, hosts := [⟨"10101"⟩] } "inventory-1"),
    .enqueueDefinitions 4 "mon-src_0", .claim 5 .definitions "mon-sync_7" "token-2",
    .complete 6 1 (.definitions (sampleSnapshot native) "definitions-1")]

end JLMirror.Monitoring.Sync
