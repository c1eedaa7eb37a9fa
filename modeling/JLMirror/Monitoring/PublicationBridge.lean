import JLMirror.Monitoring.OutboxDispatch
import JLMirror.Monitoring.ProblemState
import Mathlib.Data.List.Lex

/-!
# The publication bridge and its consumer

A transition of a problem or of a health projection fires a trigger, which writes an integration
event to the outbox; `workers/alerting_transport.py` checks the envelope of a delivered event before
it takes it in. The function of the trigger has two texts, in `monitoring/017` and in
`z_integration/001`, and the one that was applied last is in force.

## The model

* `scripts/migrate.py` applies the files under `sql/` in the order of their paths, each once. A file
  is what it does to the bridge (`fileEffect`): the other statements do not touch it.
* `publish_invalidation` writes rows of `OutboxDispatcher.OutboxRow`. The functions of the server,
  `md5`, `digest` and the text of a `jsonb` value, are arbitrary (`PgFunctions`).
* The consumer is modelled up to the receipt that it creates: what it does with a valid envelope
  afterwards is left out.

## What is proved

* `migrate` on an empty database leaves the older text in force (`migrate_deployed`), whatever order
  the directory is listed in.
* The envelope of a message is valid exactly under the newer text (`message_valid_iff`).
* **Key result** (`deployed_bridge_quarantined`): on a database set up by the migrations every
  transition has a message, and the consumer quarantines the receipt of every one of them.
-/

namespace JLMirror.Monitoring.PublicationBridge

open JLMirror.Foundations OutboxDispatcher

/-! ### Migrations -/

/-- What the migrations have made of the bridge. -/
structure BridgeSchema where
  /-- The text of `monitoring.publish_invalidation`. -/
  function : Option BridgeVersion
  /-- The two triggers that call it. -/
  triggers : Bool
  deriving DecidableEq

/-- The files under `sql/`, as the parts of their paths. -/
def sqlFiles : List (List String) :=
  [["aiops", "001_g12_aiops_core.sql"], ["aiops", "002_g12_aiops_enrich.sql"], ["alerting", "001_alert_core.sql"],
    ["alerting", "002_g7_policy_lifecycle.sql"], ["alerting", "003_g21_alert_snooze.sql"],
    ["alerting", "004_g23_escalation.sql"], ["alerting", "005_perf_indexes.sql"],
    ["alerting", "006_g23_link_alert_policy.sql"], ["g1", "001_g1_identity.sql"], ["g1", "002_audit_event.sql"],
    ["g1", "002a_seed_dev.sql"], ["g1", "003_webhook_delivery.sql"], ["g1", "004_organization_access.sql"],
    ["g1", "005_seed_access_dev.sql"], ["g1", "006_audit_actor_kinds.sql"], ["g1", "007_custom_roles.sql"],
    ["g1", "008_display_and_commercial.sql"], ["g1", "009_worker_usage_grants.sql"],
    ["g1", "010_seed_commercial_dev.sql"], ["g1", "011_g24_status_page.sql"], ["g1", "012_g25_onboarding.sql"],
    ["g1", "013_g27_api_keys.sql"], ["g1", "014_g28_branding.sql"], ["g1", "015_g30_itsm_changes.sql"],
    ["g1", "016_g31_sla.sql"], ["g1", "017_g32_automation.sql"], ["g1", "018_g33_reports.sql"],
    ["g1", "019_g34_alertmanager.sql"], ["g1", "020_g35_infra_governance.sql"], ["g1", "021_g36_knowledge_base.sql"],
    ["g1", "022_g11_ir_action_extensions.sql"], ["g1", "023_perf_indexes.sql"], ["g1", "024_api_rate_limit.sql"],
    ["g1", "025_g24_status_page_components.sql"], ["g1", "026_user_layout.sql"],
    ["monitoring", "001_monitoring_core.sql"], ["monitoring", "002_host_inventory.sql"],
    ["monitoring", "003_metric_definitions.sql"], ["monitoring", "004_metric_current_state.sql"],
    ["monitoring", "005_metric_history.sql"], ["monitoring", "006_problem_state.sql"],
    ["monitoring", "007_health_projection.sql"], ["monitoring", "008_monitoring_outbox.sql"],
    ["monitoring", "009_tenant_rls.sql"], ["monitoring", "010_app_least_privilege.sql"],
    ["monitoring", "011_op_requeue.sql"], ["monitoring", "012_worker_heartbeat.sql"],
    ["monitoring", "013_worker_alive.sql"], ["monitoring", "014_requeue_restores_evidence.sql"],
    ["monitoring", "015_history_item_pagination.sql"], ["monitoring", "016_resource_host_groups.sql"],
    ["monitoring", "017_outbox_contract_envelope.sql"], ["monitoring", "018_op_recovery.sql"],
    ["monitoring", "019_ops_metrics.sql"], ["monitoring", "020_maintenance_window.sql"],
    ["monitoring", "021_outbox_redrive.sql"], ["monitoring", "022_perf_indexes.sql"],
    ["monitoring", "023_outbox_claimed_expired_idx.sql"], ["z_integration", "001_monitoring_publication_bridge.sql"],
    ["z_integration", "002_alerting_consumer.sql"], ["z_integration", "003_g8_human_operations.sql"],
    ["z_integration", "004_g9_notification.sql"], ["z_integration", "005_g10_itsm.sql"],
    ["z_integration", "006_g10_itsm_invokers.sql"], ["z_integration", "007_g9_callback_binding.sql"],
    ["z_integration", "008_g11_incident_response.sql"], ["z_integration", "009_g11_incident_response_invokers.sql"],
    ["z_integration", "010_g11_fix_claim_dedupe.sql"], ["z_integration", "011_g12_aiops_grants.sql"],
    ["z_integration", "012_g22_email_notification.sql"], ["z_integration", "013_g11_fix_claim_complete.sql"],
    ["z_integration", "014_g11_mark_event_processed.sql"]]

/-- The file of the text that the contract asks for. -/
def contractEnvelopeFile : List String := ["monitoring", "017_outbox_contract_envelope.sql"]

/-- The file of the first text, with the triggers. -/
def publicationBridgeFile : List String := ["z_integration", "001_monitoring_publication_bridge.sql"]

/-- What applying a file does to the bridge. -/
def fileEffect (path : List String) (schema : BridgeSchema) : BridgeSchema :=
  if path = contractEnvelopeFile then { schema with function := some .contractEnvelope }
  else if path = publicationBridgeFile then ⟨some .publicationBridge, true⟩
  else schema

/-- A database: the bridge, and `public._migrations`. -/
structure Database where
  schema : BridgeSchema
  migrations : List (List String)
  deriving DecidableEq

/-- An empty database. -/
def Database.empty : Database := ⟨⟨none, false⟩, []⟩

/-- A round of the loop of `main`. -/
def applyFile (db : Database) (path : List String) : Database :=
  if path ∈ db.migrations then db else ⟨fileEffect path db.schema, db.migrations ++ [path]⟩

/-- Paths compare part by part, as in `sorted`. -/
local instance instLEPath : LE (List String) := @List.instLE String String.instLT

/-- `main` of `migrate.py`, over the files that `rglob` finds, in any order. -/
def migrate (files : List (List String)) (db : Database) : Database :=
  (files.insertionSort (· ≤ ·)).foldl applyFile db

theorem not_publicationBridgeFile_le : ¬publicationBridgeFile ≤ contractEnvelopeFile := by decide

theorem publicationBridgeFile_ne : publicationBridgeFile ≠ contractEnvelopeFile := by decide

/-- Files from the bridge on leave its text in force. -/
theorem foldl_applyFile_of_le {files : List (List String)} (h : ∀ path ∈ files, publicationBridgeFile ≤ path)
    {db : Database} (hdb : db.schema = ⟨some .publicationBridge, true⟩) :
    (files.foldl applyFile db).schema = ⟨some .publicationBridge, true⟩ := by
  induction files generalizing db with
  | nil => exact hdb
  | cons path files ih =>
    refine ih (fun p hp => h p (List.mem_cons_of_mem path hp)) ?_
    have hne : path ≠ contractEnvelopeFile := by
      rintro rfl
      exact not_publicationBridgeFile_le (h _ List.mem_cons_self)
    rw [applyFile]
    split_ifs
    · exact hdb
    · simp only [fileEffect, if_neg hne, hdb, ite_self]

/-- A file is recorded once it is applied, and not before. -/
theorem mem_migrations {files : List (List String)} {db : Database} {path : List String} :
    path ∈ (files.foldl applyFile db).migrations ↔ path ∈ db.migrations ∨ path ∈ files := by
  induction files generalizing db with
  | nil => simp
  | cons p files ih =>
    rw [List.foldl_cons, ih, applyFile]
    split_ifs with hp
    · constructor
      · rintro (h | h)
        · exact Or.inl h
        · exact Or.inr (List.mem_cons_of_mem p h)
      · rintro (h | h)
        · exact Or.inl h
        · rcases List.mem_cons.1 h with rfl | h
          · exact Or.inl hp
          · exact Or.inr h
    · simp [or_assoc]

/-- On an empty database the migrations end with the first text, whatever files there are beside it. -/
theorem migrate_schema {files : List (List String)} (h : publicationBridgeFile ∈ files) :
    (migrate files .empty).schema = ⟨some .publicationBridge, true⟩ := by
  have hmem : publicationBridgeFile ∈ files.insertionSort (· ≤ ·) := (List.mem_insertionSort _).2 h
  obtain ⟨pre, post, hsplit, hpre⟩ := List.eq_append_cons_of_mem hmem
  have hsorted := List.pairwise_insertionSort (· ≤ ·) files
  rw [hsplit, List.pairwise_append, List.pairwise_cons] at hsorted
  have hnew : publicationBridgeFile ∉ (pre.foldl applyFile .empty).migrations := by
    rw [mem_migrations]
    rintro (h | h)
    · cases h
    · exact hpre h
  rw [migrate, hsplit, List.foldl_append, List.foldl_cons]
  refine foldl_applyFile_of_le hsorted.2.1.1 ?_
  rw [applyFile, if_neg hnew, fileEffect, if_neg publicationBridgeFile_ne, if_pos rfl]

/-- The database as the migrations of the repository set it up. -/
def deployed : Database := migrate sqlFiles .empty

theorem deployed_schema : deployed.schema = ⟨some .publicationBridge, true⟩ :=
  migrate_schema (by decide)

/-! ### The bridge -/

/-- A value in a payload. -/
inductive JsonbScalar where
  | text (value : String)
  | bigint (value : ℕ)
  deriving DecidableEq

/-- The functions of the server that the trigger calls. -/
structure PgFunctions where
  md5 : String → String
  /-- `digest(…, 'sha256')`. -/
  digest : List UInt8 → List UInt8
  /-- `convert_to(…::text, 'UTF8')` of what `jsonb_build_object` builds of these members. -/
  jsonb_text : List (String × JsonbScalar) → List UInt8

/-- `NEW`, of `monitoring_problem_transition`. -/
structure ProblemTransitionRow where
  tenant_id : String
  problem_transition_id : String
  problem_id : String
  monitoring_source_id : String
  source_instance_generation : String
  monitoring_resource_id : String
  projection_revision : ℕ
  deriving DecidableEq

/-- `NEW`, of `health_projection_transition`. -/
structure HealthTransitionRow where
  tenant_id : String
  health_transition_id : String
  monitoring_source_id : String
  source_instance_generation : String
  monitoring_resource_id : String
  projection_revision : ℕ
  deriving DecidableEq

/-- The tables with a trigger. -/
inductive TransitionRow where
  | problem (new : ProblemTransitionRow)
  | health (new : HealthTransitionRow)
  deriving DecidableEq

namespace TransitionRow

/-- `NEW.tenant_id`. -/
def tenant_id : TransitionRow → String
  | problem new => new.tenant_id
  | health new => new.tenant_id

/-- `v_contract`. -/
def contract : TransitionRow → String
  | problem _ => "monitoring.problem-state.changed"
  | health _ => "monitoring.health-projection.changed"

/-- `v_transition_id`. -/
def transition_id : TransitionRow → String
  | problem new => new.problem_transition_id
  | health new => new.health_transition_id

/-- `v_payload`. -/
def payload : TransitionRow → List (String × JsonbScalar)
  | problem new =>
    [("problem_id", .text new.problem_id), ("monitoring_source_id", .text new.monitoring_source_id),
      ("source_instance_generation", .text new.source_instance_generation),
      ("monitoring_resource_id", .text new.monitoring_resource_id),
      ("projection_revision", .bigint new.projection_revision),
      ("problem_transition_id", .text new.problem_transition_id)]
  | health new =>
    [("monitoring_source_id", .text new.monitoring_source_id),
      ("source_instance_generation", .text new.source_instance_generation),
      ("monitoring_resource_id", .text new.monitoring_resource_id),
      ("projection_revision", .bigint new.projection_revision),
      ("health_transition_id", .text new.health_transition_id)]

/-- The subject, under each of the texts. -/
def subject (bridge : BridgeVersion) (t : TransitionRow) : String × String :=
  match bridge, t with
  | .publicationBridge, t => ("monitoring_transition", t.transition_id)
  | .contractEnvelope, problem new => ("monitoring_problem", new.problem_id)
  | .contractEnvelope, health new => ("monitoring_resource", new.monitoring_resource_id)

/-- `v_message_id`. -/
def message_id (pg : PgFunctions) (t : TransitionRow) : String :=
  "msg_" ++ pg.md5 (t.tenant_id ++ "|" ++ t.contract ++ "|" ++ t.transition_id)

/-- `v_correlation_id`. -/
def correlation_id (pg : PgFunctions) (t : TransitionRow) : String :=
  "corr_" ++ pg.md5 (t.tenant_id ++ "|" ++ t.contract ++ "|ctx|" ++ t.transition_id)

/-- `v_evidence`. -/
def evidence (pg : PgFunctions) (t : TransitionRow) : List UInt8 := pg.digest (pg.jsonb_text t.payload)

end TransitionRow

/-- An outbox row with the columns that only the bridge reads. -/
structure BridgeRow extends OutboxRow where
  comparison_evidence : List UInt8
  comparison_profile_id : String
  comparison_profile_version : String
  deriving DecidableEq

/-- The row that the trigger inserts. -/
def bridgeRow (pg : PgFunctions) (bridge : BridgeVersion) (now : Timestamp) (t : TransitionRow) (record_id : ℕ) :
    BridgeRow where
  tenant_id := t.tenant_id
  record_id := record_id
  message_id := t.message_id pg
  producer_message_scope := bridgeScope
  message_class := "integration_event"
  contract_name := t.contract
  contract_version := "1"
  producer := match bridge with
    | .publicationBridge => "monitoring-transition-bridge"
    | .contractEnvelope => "Monitoring"
  scope := "tenant"
  correlation_id := t.correlation_id pg
  causation_id := some t.transition_id
  data_classification := match bridge with
    | .publicationBridge => "internal"
    | .contractEnvelope => "confidential_tenant"
  serialization_profile_id := match bridge with
    | .publicationBridge => "canonical-json-utf8"
    | .contractEnvelope => "jsonb-text-utf8@1"
  encoded_payload := pg.jsonb_text t.payload
  subject_type := some (t.subject bridge).1
  subject_id := some (t.subject bridge).2
  occurred_at := some now
  dispatch_state := .pending
  claim_owner := none
  claim_expires_at := none
  attempt_count := 0
  last_error_class := none
  published_receipt_id := none
  published_at := none
  redrive_count := 0
  comparison_evidence := t.evidence pg
  comparison_profile_id := "sha256-canonical-json"
  comparison_profile_version := "1"

/-- A row has the identity of the message of a transition. -/
def BridgeRow.isOf (pg : PgFunctions) (t : TransitionRow) (m : BridgeRow) : Prop :=
  m.tenant_id = t.tenant_id ∧ m.producer_message_scope = bridgeScope ∧ m.message_id = t.message_id pg

instance (pg : PgFunctions) (t : TransitionRow) (m : BridgeRow) : Decidable (m.isOf pg t) :=
  inferInstanceAs (Decidable (_ ∧ _ ∧ _))

/-- `monitoring.publish_invalidation`. -/
def publish_invalidation (pg : PgFunctions) (bridge : BridgeVersion) (now : Timestamp) (t : TransitionRow)
    (record_id : ℕ) (outbox : List BridgeRow) : Except String (List BridgeRow) :=
  match outbox.find? fun m => m.isOf pg t with
  | some m =>
    if m.comparison_evidence ≠ t.evidence pg then .error "monitoring.publication_identity_conflict"
    else .ok outbox
  | none => .ok (outbox ++ [bridgeRow pg bridge now t record_id])

/-! ### The consumer -/

/-- `CONTRACTS`. -/
def CONTRACTS : List String := ["monitoring.problem-state.changed", "monitoring.health-projection.changed"]

/-- `str.lower`. -/
def lower (s : String) : String := String.ofList (s.toList.map Char.toLower)

/-- The envelope validation of `_process_message`. -/
def envelopeValid (msg : OutboxRow) : Bool :=
  msg.contract_name ∈ CONTRACTS ∧ msg.contract_version = "1" ∧ msg.message_class = "integration_event" ∧
    lower msg.producer = "monitoring"

/-- `state` of a receipt. -/
inductive ReceiptState where
  | received
  | processing
  | completed
  | reconciliation_required
  | quarantined
  deriving DecidableEq

/-- `alerting.inbox_receipt`. -/
structure InboxReceipt where
  tenant_id : String
  producer_message_scope : String
  message_id : String
  contract_name : String
  contract_version : String
  producer : String
  correlation_id : String
  causation_id : Option String
  payload_hash : List UInt8
  state : ReceiptState
  last_error_class : Option String
  deriving DecidableEq

/-- The receipt of a message, as `_process_message` inserts it. -/
def receiptRow (pg : PgFunctions) (msg : OutboxRow) : InboxReceipt where
  tenant_id := msg.tenant_id
  producer_message_scope := msg.producer_message_scope
  message_id := msg.message_id
  contract_name := msg.contract_name
  contract_version := msg.contract_version
  producer := msg.producer
  correlation_id := msg.correlation_id
  causation_id := msg.causation_id
  payload_hash := pg.digest msg.encoded_payload
  state := if envelopeValid msg then .received else .quarantined
  last_error_class := if envelopeValid msg then none else some "envelope_invalid"

/-- The insertion of the receipt, `ON CONFLICT … DO NOTHING`. -/
def createReceipt (pg : PgFunctions) (msg : OutboxRow) (inbox : List InboxReceipt) : List InboxReceipt :=
  if inbox.any fun r =>
      r.tenant_id = msg.tenant_id ∧ r.producer_message_scope = msg.producer_message_scope ∧
        r.message_id = msg.message_id then inbox
  else inbox ++ [receiptRow pg msg]

/-! ### Runs -/

/-- The transitions, the outbox and the inbox. -/
structure System where
  transitions : List TransitionRow
  outbox : List BridgeRow
  inbox : List InboxReceipt
  deriving DecidableEq

/-- What happens. -/
inductive Action where
  /-- A projection inserts a transition. -/
  | insert (now : Timestamp) (t : TransitionRow)
  /-- The consumer meets a row of the outbox. -/
  | deliver (msg : BridgeRow)

/-- The state after an action: where the trigger raises, the transition is rolled back. -/
def System.step (pg : PgFunctions) (schema : BridgeSchema) (s : System) : Action → System
  | .insert now t =>
    match schema.triggers, schema.function with
    | true, some bridge =>
      match publish_invalidation pg bridge now t s.outbox.length s.outbox with
      | .ok outbox => { s with transitions := s.transitions ++ [t], outbox := outbox }
      | .error _ => s
    | true, none => s
    | false, _ => { s with transitions := s.transitions ++ [t] }
  | .deliver msg => if msg ∈ s.outbox then { s with inbox := createReceipt pg msg.toOutboxRow s.inbox } else s

/-- The state after a run from empty tables. -/
def System.exec (pg : PgFunctions) (schema : BridgeSchema) (run : List Action) : System :=
  run.foldl (System.step pg schema) ⟨[], [], []⟩

/-! ### What the consumer makes of the messages -/

/-- The envelope of a message is valid under the text of the contract, and under no other. -/
theorem message_valid_iff (pg : PgFunctions) (bridge : BridgeVersion) (now : Timestamp) (t : TransitionRow)
    (record_id : ℕ) :
    envelopeValid (bridgeRow pg bridge now t record_id).toOutboxRow = true ↔ bridge = .contractEnvelope := by
  have hcontract : t.contract ∈ CONTRACTS := by cases t <;> simp [TransitionRow.contract, CONTRACTS]
  have hproducers : lower "monitoring-transition-bridge" ≠ "monitoring" ∧ lower "Monitoring" = "monitoring" := by
    decide
  cases bridge <;> simp [envelopeValid, bridgeRow, hcontract, hproducers]

/-- Every transition has its message, every message was written by the text in force, and every
receipt is of a message. -/
structure Published (pg : PgFunctions) (bridge : BridgeVersion) (s : System) : Prop where
  message : ∀ t ∈ s.transitions, ∃ m ∈ s.outbox, m.isOf pg t
  written : ∀ m ∈ s.outbox, ∃ now t record_id, m = bridgeRow pg bridge now t record_id
  receipt : ∀ r ∈ s.inbox, ∃ m ∈ s.outbox, r = receiptRow pg m.toOutboxRow

theorem bridgeRow_isOf (pg : PgFunctions) (bridge : BridgeVersion) (now : Timestamp) (t : TransitionRow)
    (record_id : ℕ) : (bridgeRow pg bridge now t record_id).isOf pg t := ⟨rfl, rfl, rfl⟩

/-- After the trigger the message is there, and nothing else but it is new. -/
theorem publish_invalidation_ok {pg : PgFunctions} {bridge : BridgeVersion} {now : Timestamp} {t : TransitionRow}
    {record_id : ℕ} {outbox outbox' : List BridgeRow}
    (h : publish_invalidation pg bridge now t record_id outbox = .ok outbox') :
    (∃ m ∈ outbox', m.isOf pg t) ∧ outbox ⊆ outbox' ∧
      ∀ m ∈ outbox', m ∈ outbox ∨ m = bridgeRow pg bridge now t record_id := by
  unfold publish_invalidation at h
  split at h
  · next m hm =>
    split_ifs at h
    cases h
    have hof : m.isOf pg t := by simpa using List.find?_some hm
    exact ⟨⟨m, List.mem_of_find?_eq_some hm, hof⟩, List.Subset.refl _, fun m hm => Or.inl hm⟩
  · cases h
    refine ⟨⟨_, List.mem_append_right _ (List.mem_singleton.2 rfl), bridgeRow_isOf ..⟩,
      List.subset_append_left _ _, fun m hm => ?_⟩
    simpa using hm

theorem Published.step {pg : PgFunctions} {bridge : BridgeVersion} {s : System} (h : Published pg bridge s)
    (a : Action) : Published pg bridge (s.step pg ⟨some bridge, true⟩ a) := by
  cases a with
  | insert now t =>
    simp only [System.step]
    split
    · next outbox hpublish =>
      obtain ⟨hmessage, hsub, hnew⟩ := publish_invalidation_ok hpublish
      refine ⟨?_, ?_, ?_⟩
      · intro t' ht'
        rcases List.mem_append.1 ht' with ht' | ht'
        · obtain ⟨m, hm, hof⟩ := h.message t' ht'
          exact ⟨m, hsub hm, hof⟩
        · obtain rfl := List.mem_singleton.1 ht'
          exact hmessage
      · intro m hm
        rcases hnew m hm with hm | rfl
        · exact h.written m hm
        · exact ⟨now, t, _, rfl⟩
      · intro r hr
        obtain ⟨m, hm, hreceipt⟩ := h.receipt r hr
        exact ⟨m, hsub hm, hreceipt⟩
    · exact h
  | deliver msg =>
    simp only [System.step]
    split_ifs with hmsg
    · refine ⟨h.message, h.written, fun r hr => ?_⟩
      simp only [createReceipt] at hr
      split_ifs at hr
      · exact h.receipt r hr
      · rcases List.mem_append.1 hr with hr | hr
        · exact h.receipt r hr
        · exact ⟨msg, hmsg, List.mem_singleton.1 hr⟩
    · exact h

theorem Published.exec (pg : PgFunctions) (bridge : BridgeVersion) (run : List Action) :
    Published pg bridge (System.exec pg ⟨some bridge, true⟩ run) := by
  have hrun : ∀ s, Published pg bridge s → Published pg bridge (run.foldl (System.step pg ⟨some bridge, true⟩) s) := by
    induction run with
    | nil => exact fun s hs => hs
    | cons a run ih => exact fun s hs => ih _ (hs.step a)
  exact hrun _ ⟨fun _ h => (List.not_mem_nil h).elim, fun _ h => (List.not_mem_nil h).elim,
    fun _ h => (List.not_mem_nil h).elim⟩

/-- The bridge and the consumer agree on a transition: it has a message, whose envelope is valid and
whose receipts are not quarantined. -/
def Agree (pg : PgFunctions) (s : System) (t : TransitionRow) : Prop :=
  ∃ m ∈ s.outbox, m.isOf pg t ∧ envelopeValid m.toOutboxRow = true ∧
    ∀ r ∈ s.inbox, r.tenant_id = m.tenant_id → r.producer_message_scope = m.producer_message_scope →
      r.message_id = m.message_id → r.state ≠ .quarantined

/-- **Key result**: as the migrations set the database up, every transition has its message, and bridge
and consumer agree on none: every envelope is invalid and every receipt quarantined. -/
theorem deployed_bridge_quarantined (pg : PgFunctions) (run : List Action) (t : TransitionRow)
    (ht : t ∈ (System.exec pg deployed.schema run).transitions) :
    (∃ m ∈ (System.exec pg deployed.schema run).outbox, m.isOf pg t) ∧
      ¬Agree pg (System.exec pg deployed.schema run) t ∧
      ∀ r ∈ (System.exec pg deployed.schema run).inbox, r.state = .quarantined ∧
        r.last_error_class = some "envelope_invalid" := by
  rw [deployed_schema] at ht ⊢
  have h := Published.exec pg .publicationBridge run
  have hinvalid : ∀ m ∈ (System.exec pg ⟨some .publicationBridge, true⟩ run).outbox,
      envelopeValid m.toOutboxRow = false := by
    intro m hm
    obtain ⟨now, t', record_id, rfl⟩ := h.written m hm
    rw [← Bool.not_eq_true, message_valid_iff]
    decide
  refine ⟨h.message t ht, ?_, ?_⟩
  · rintro ⟨m, hm, -, hvalid, -⟩
    rw [hinvalid m hm] at hvalid
    cases hvalid
  · intro r hr
    obtain ⟨m, hm, rfl⟩ := h.receipt r hr
    simp [receiptRow, hinvalid m hm]

/-- Functions of a server, for a run. -/
def plainFunctions : PgFunctions where
  md5 := id
  digest := id
  jsonb_text := fun _ => []

/-- A problem opens. -/
def openedProblem : TransitionRow :=
  .problem ⟨"acme", "transition_0", "problem_0", "src", "gen-1", "host-7", 1⟩

/-- Its transition is inserted, and the consumer meets the message. -/
def openedRun : List Action :=
  [.insert 0 openedProblem, .deliver (bridgeRow plainFunctions .publicationBridge 0 openedProblem 0)]

theorem openedRun_disagrees :
    ¬∀ t ∈ (System.exec plainFunctions deployed.schema openedRun).transitions,
      Agree plainFunctions (System.exec plainFunctions deployed.schema openedRun) t := by
  rw [deployed_schema]
  intro h
  have hinserted : openedProblem ∈ (System.exec plainFunctions ⟨some .publicationBridge, true⟩ openedRun).transitions := by
    decide
  have hinvalid : ∀ m ∈ (System.exec plainFunctions ⟨some .publicationBridge, true⟩ openedRun).outbox,
      envelopeValid m.toOutboxRow = false := by decide
  obtain ⟨m, hm, -, hvalid, -⟩ := h openedProblem hinserted
  rw [hinvalid m hm] at hvalid
  cases hvalid

theorem openedRun_quarantined :
    openedProblem ∈ (System.exec plainFunctions deployed.schema openedRun).transitions ∧
      ¬Agree plainFunctions (System.exec plainFunctions deployed.schema openedRun) openedProblem :=
  have ht : openedProblem ∈ (System.exec plainFunctions deployed.schema openedRun).transitions := by
    rw [deployed_schema]
    decide
  ⟨ht, (deployed_bridge_quarantined plainFunctions openedRun openedProblem ht).2.1⟩

end JLMirror.Monitoring.PublicationBridge
