import JLMirror.Access.MonitoringTables
import JLMirror.Access.Routes

/-!
# The monitoring reads

The GET endpoints of `api/routers/monitoring.py`, with the queries of `shared/monitoring_repo.py` behind them,
as they answer a request that has passed the gate.

## The model

* Each query is a function of the tables to the rows that it joins, filters and selects; each endpoint a
  function of those rows and of the parameters of the request to its answer.
* `Runtime` has what is of the libraries, the database and the clock: the texts of times, the cursors in
  base64, the order of texts in the database.
* `untyped_null` says whether the database takes a parameter that is only compared with NULL, without a type
  (`%s IS NULL` of the outbox); where it does not, the statement fails.

## Honest scope

A parameter that is no integer where one is expected is refused before the handler and left out. What a
cursor has is taken as the type that it is encoded with, anything else fails.
-/

namespace JLMirror.Access

/-- What the handlers take from elsewhere. -/
structure Runtime where
  /-- `isoformat` of an instant. -/
  isoformat : ℤ → String
  /-- `datetime.fromtimestamp(…).isoformat()`. -/
  fromtimestamp : ℤ → String
  /-- `timestamp()` of an instant, as it stands in a cursor. -/
  timestamp : ℤ → Json
  /-- `to_timestamp(%s::double precision)`; `none` fails. -/
  to_timestamp : Json → Option ℤ
  /-- `%s::timestamptz`; `none` fails. -/
  timestamptz : Json → Option ℤ
  /-- `float()`; `none` raises. -/
  float : Json → Option Json
  /-- `str()`. -/
  str : Json → String
  /-- `<=` of texts in the database. -/
  text_le : String → String → Bool
  /-- `_encode_cursor`. -/
  encode_cursor : List (String × Json) → String
  /-- `decode_cursor`; `none` is the `ValueError`. -/
  decode_cursor : String → Option (List (String × Json))
  /-- `int(time.time())`. -/
  time : ℤ
  untyped_null : Bool

/-- The parameters of the query. -/
structure MonitoringQuery where
  cursor : Option String
  limit : Option ℤ
  view : Option String
  active_only : Option Bool
  state : Option String
  window_from : Option ℤ
  window_till : Option ℤ
  deriving DecidableEq

/-- An answer. -/
structure ApiResponse where
  status : ℕ
  body : Json

/-- The answer of a handler that returns. -/
def ok (body : Json) : ApiResponse := ⟨200, body⟩

/-- `HTTPException`. -/
def httpException (status : ℕ) (detail : String) : ApiResponse := ⟨status, .obj [("detail", .str detail)]⟩

/-- The answer where a statement fails or a key is missing. -/
def serverError : ApiResponse := ⟨500, .str "Internal Server Error"⟩

/-- Columns that are only shown, by name. -/
def OwnedRow.shown (names : List String) (r : OwnedRow) : List (String × Json) := names.map fun n => (n, r.columns n)

/-- The entries without those that are popped. -/
def pop (names : List String) (entries : List (String × Json)) : List (String × Json) :=
  entries.filter fun e => e.1 ∉ names

/-- `_generation_case`. -/
def generation_state (generation : String) (s : MonitoringSource) : Json :=
  .str (if generation = s.active_source_instance_generation then "active_generation" else "historical_generation")

/-- `_wrap_metric_value`. -/
def wrap_metric_value (rt : Runtime) (value_kind : String) (raw : Json) : Json :=
  match raw with
  | .null => .null
  | raw =>
    if value_kind ∈ ["number", "integer"] then
      match rt.float raw with
      | some n => .obj [("n", n)]
      | none => .null
    else if value_kind ∈ ["string", "text", "log"] then .obj [("s", .str (rt.str raw))]
    else if value_kind = "boolean" then
      .obj [("b", .bool (match raw with
        | .bool b => b
        | .num n => n ≠ 0
        | .str text => text ≠ ""
        | .arr values => !values.isEmpty
        | .obj entries => !entries.isEmpty
        | .null => false))]
    else .null

/-! ### The rows of the queries -/

namespace MonitoringDb

variable (tenant_id source_id : String) (db : MonitoringDb)

/-- The source of a row. -/
def sourceOf (r : OwnedRow) : List MonitoringSource :=
  db.monitoring_source.filter fun s => s.of r.tenant_id r.monitoring_source_id

/-- The active generation of a source. -/
def activeGeneration (s : MonitoringSource) : List SourceGeneration :=
  db.monitoring_source_generation.filter fun g =>
    g.of s.tenant_id s.monitoring_source_id ∧ g.source_instance_generation = s.active_source_instance_generation

/-- The definition of a metric. -/
def definitionOf (tenant_id definition_id : String) : List DefinitionRow :=
  db.metric_definition.filter fun d => d.tenant_id = tenant_id ∧ d.metric_definition_id = definition_id

/-- `list_sources`. -/
def list_sources : List (MonitoringSource × SourceGeneration) :=
  ((db.monitoring_source.filter fun s => s.tenant_id = tenant_id).flatMap fun s =>
    (db.activeGeneration s).map fun g => (s, g)).insertionSort fun a b => a.1.created_at ≤ b.1.created_at

/-- `get_source`. -/
def get_source : Option (MonitoringSource × SourceGeneration) :=
  ((db.monitoring_source.filter fun s => s.of tenant_id source_id).flatMap fun s =>
    (db.activeGeneration s).map fun g => (s, g)).head?

/-- The source, whether a validation is in flight, and whether one has succeeded (`get_onboarding_view`). -/
def onboarding : Option (MonitoringSource × Bool × Bool) :=
  ((db.monitoring_source.filter fun s => s.of tenant_id source_id).map fun s =>
    (s,
      (db.monitoring_sync_operation.filter fun o => o.of s.tenant_id s.monitoring_source_id).any fun o =>
        o.responsibility_kind = "validation_and_initial_sync" ∧ o.state ∈ ["pending", "running"],
      (db.monitoring_source_validation_evidence.filter fun e => e.of s.tenant_id s.monitoring_source_id).any fun e =>
        e.operational_evidence_state = "current")).head?

/-- `list_resources`. -/
def list_resources (active_only : Bool) : List (ResourceRow × MonitoringSource) :=
  (db.monitoring_resource.filter fun r => r.of tenant_id source_id).flatMap fun r =>
    ((db.sourceOf r.toOwnedRow).filter fun s =>
      !active_only || r.source_instance_generation = s.active_source_instance_generation).map fun s => (r, s)

/-- `get_resource_detail`. -/
def resource_detail (resource_id : String) : Option (ResourceRow × ProviderEvidence) :=
  ((db.monitoring_resource.filter fun r => r.of tenant_id source_id ∧ r.monitoring_resource_id = resource_id).flatMap
    fun r => (db.monitoring_resource_provider_evidence.filter fun e =>
      some e.provider_evidence_id = r.latest_provider_evidence_id ∧ e.tenant_id = r.tenant_id).map fun e => (r, e)).head?

/-- `list_resource_current_states`, before the order. -/
def resource_current (resource_id : String) : List (CurrentStateRow × DefinitionRow) :=
  (db.metric_current_state.filter fun c => c.of tenant_id source_id ∧ c.monitoring_resource_id = resource_id).flatMap
    fun c => (db.definitionOf c.tenant_id c.metric_definition_id).map fun d => (c, d)

/-- `list_metric_definitions`. -/
def list_definitions : List (DefinitionRow × DefinitionBinding × MonitoringSource) :=
  (db.metric_definition.filter fun d => d.of tenant_id source_id).flatMap fun d =>
    (db.metric_definition_provider_binding.filter fun b =>
      b.tenant_id = d.tenant_id ∧ b.metric_definition_id = d.metric_definition_id).flatMap fun b =>
        (db.sourceOf d.toOwnedRow).map fun s => (d, b, s)

/-- `list_current_states`. -/
def list_current : List (CurrentStateRow × DefinitionRow × MonitoringSource) :=
  (db.metric_current_state.filter fun c => c.of tenant_id source_id).flatMap fun c =>
    (db.definitionOf c.tenant_id c.metric_definition_id).flatMap fun d =>
      (db.sourceOf c.toOwnedRow).map fun s => (c, d, s)

/-- `list_history_observations`, before the order. -/
def list_history : List (ObservationRow × DefinitionRow) :=
  (db.metric_observation.filter fun o => o.of tenant_id source_id).flatMap fun o =>
    (db.definitionOf o.tenant_id o.metric_definition_id).map fun d => (o, d)

/-- The streams of `list_history_streams`. -/
def list_streams : List StreamRow := db.metric_history_stream_state.filter fun s => s.of tenant_id source_id

/-- What `list_metric_history` reads of a metric: the definition, its observations, streams and gaps. -/
def metric_history (definition_id : String) :
    Option (DefinitionRow × MonitoringSource) × List ObservationRow × List StreamRow × List GapRow :=
  (((db.metric_definition.filter fun d => d.of tenant_id source_id ∧ d.metric_definition_id = definition_id).flatMap
      fun d => (db.sourceOf d.toOwnedRow).map fun s => (d, s)).head?,
    db.metric_observation.filter fun o => o.of tenant_id source_id ∧ o.metric_definition_id = definition_id,
    db.metric_history_stream_state.filter fun s => s.of tenant_id source_id ∧ s.metric_definition_id = definition_id,
    db.metric_history_gap_evidence.filter fun g => g.of tenant_id source_id ∧ g.metric_definition_id = definition_id)

/-- `list_problems`, before the cursor and the order. -/
def list_problems (active_only : Bool) : List (ProblemRow × ProblemBinding × MonitoringSource) :=
  (db.monitoring_problem.filter fun p => p.of tenant_id source_id ∧ (!active_only || p.problem_state = "active")).flatMap
    fun p => (db.monitoring_problem_provider_binding.filter fun b =>
      b.tenant_id = p.tenant_id ∧ b.problem_id = p.problem_id).flatMap fun b =>
        (db.sourceOf p.toOwnedRow).map fun s => (p, b, s)

/-- `list_sync_operations`. -/
def list_operations (state : Option String) : List SyncOperationRow :=
  (((db.monitoring_sync_operation.filter fun o => o.of tenant_id source_id).filter fun o =>
    (truthy state).all fun st => o.state = st).insertionSort fun a b => b.created_at ≤ a.created_at).take 50

/-- The active problems of the resource of a projection, the newest first. -/
def problemRefs (h : HealthRow) : List String :=
  (((db.monitoring_problem.filter fun p => p.tenant_id = h.tenant_id ∧
    p.monitoring_resource_id = h.monitoring_resource_id).filter fun p => p.problem_state = "active").insertionSort
      fun a b => b.opened_at ≤ a.opened_at).take 64 |>.map ProblemRow.problem_id

/-- `list_health_projections`. -/
def list_health : List (HealthRow × ResourceRow × MonitoringSource × List String) :=
  (db.health_projection.filter fun h => h.of tenant_id source_id).flatMap fun h =>
    (db.monitoring_resource.filter fun r => r.tenant_id = h.tenant_id ∧
      r.monitoring_resource_id = h.monitoring_resource_id).flatMap fun r =>
        (db.sourceOf h.toOwnedRow).map fun s => (h, r, s, db.problemRefs h)

/-- The messages of `list_outbox_endpoint`. -/
def list_outbox (state : Option String) : List MessageRow :=
  (db.monitoring_outbox.filter fun m => m.tenant_id = tenant_id ∧ state.all fun st => m.dispatch_state.text = st).insertionSort
    fun a b => b.record_id ≤ a.record_id

end MonitoringDb

/-! ### Pages -/

section Pages

variable (rt : Runtime) (q : MonitoringQuery)

/-- `_list_params`: what refuses the parameters. -/
def list_params : Option ApiResponse :=
  if (q.view.getD "contract") ∉ ["contract", "operational"] then some (httpException 422 "view must be contract|operational")
  else if (truthy q.cursor).any fun c => (rt.decode_cursor c).isNone then some (httpException 400 "invalid cursor")
  else none

/-- The view is the operational one. -/
def MonitoringQuery.operational : Bool := q.view = some "operational"

/-- `min(max(limit, 1), 500)`. -/
def MonitoringQuery.pageLimit : ℕ := (min (max (q.limit.getD 500) 1) 500).toNat

/-- A field of a cursor that is a text or absent; the outer `none` fails. -/
def textField (value : Option Json) : Option (Option String) :=
  match value with
  | none => some none
  | some .null => some none
  | some (.str text) => some (some text)
  | some _ => none

/-- `decode_cursor(cursor)["k"] if cursor else None`; `none` fails. -/
def keyAfter : Option (Option String) :=
  match truthy q.cursor with
  | none => some none
  | some cursor => do
    let entries ← rt.decode_cursor cursor
    let key ← entries.lookup "k"
    textField (some key)

/-- The rows that a page shows and its next cursor: those after the cursor, by their key, one more than the
limit fetched. -/
def keyset {α : Type} (key : α → String) (after : Option String) (rows : List α) : List α × Json :=
  let fetched := ((rows.filter fun r => after.all fun a => !rt.text_le (key r) a).insertionSort
    fun a b => rt.text_le (key a) (key b) = true).take (q.pageLimit + 1)
  let items := fetched.take q.pageLimit
  (items,
    if q.pageLimit < fetched.length then
      items.getLast?.elim .null fun r => .str (rt.encode_cursor [("k", .str (key r))])
    else .null)

/-- An endpoint that pages by a key: `first` are the entries before `items`. -/
def page {α : Type} (first : List (String × Json)) (key : α → String) (item : α → List (String × Json))
    (popped : List String) (rows : List α) : ApiResponse :=
  match list_params rt q with
  | some refused => refused
  | none =>
    match keyAfter rt q with
    | none => serverError
    | some after =>
      let (items, next_cursor) := keyset rt q key after rows
      ok (.obj (first ++ [
        ("items", .arr (items.map fun r => .obj (if q.operational then item r else pop popped (item r)))),
        ("next_cursor", next_cursor)]))

end Pages

/-! ### The endpoints -/

section Endpoints

variable (rt : Runtime) (q : MonitoringQuery)

/-- `list_sources_endpoint`. -/
def listSourcesAnswer (rows : List (MonitoringSource × SourceGeneration)) : ApiResponse :=
  ok (.arr (rows.map fun (s, g) => .obj [
    ("monitoring_source_id", .str s.monitoring_source_id),
    ("source_id", .str s.monitoring_source_id),
    ("display_name", s.columns "display_name"),
    ("operational_evidence_state", .str s.operational_evidence_state),
    ("state", .str s.operational_evidence_state),
    ("configuration_revision", s.columns "configuration_revision"),
    ("scope_revision", s.columns "scope_revision"),
    ("provider_instance_ref", g.columns "provider_instance_ref"),
    ("provider", g.columns "provider_instance_ref"),
    ("provider_base_url", g.columns "provider_base_url")]))

/-- `get_source_endpoint`. -/
def getSourceAnswer (row : Option (MonitoringSource × SourceGeneration)) : ApiResponse :=
  match row with
  | none => httpException 404 "source not found"
  | some (s, g) => ok (.obj (
      [("monitoring_source_id", .str s.monitoring_source_id), ("display_name", s.columns "display_name"),
        ("operational_evidence_state", .str s.operational_evidence_state)] ++
      s.shown ["credential_binding_ref", "configured_provider_scope", "configuration_revision", "scope_revision"] ++
      g.shown ["provider_instance_ref", "provider_base_url"] ++
      [("source_instance_generation", .str g.source_instance_generation)] ++
      s.shown ["last_successful_sync_at", "last_attempt_at", "last_sync_operation_id"]))

/-- `onboarding_view_endpoint`. -/
def onboardingAnswer (source_id : String) (row : Option (MonitoringSource × Bool × Bool)) : ApiResponse :=
  match row with
  | none => httpException 404 "source not found"
  | some (s, in_flight, confirmed) => ok (.obj [
      ("monitoring_source_id", .str source_id),
      ("monitoring_sync_operation_id", s.columns "last_sync_operation_id"),
      ("state", .str (if in_flight then "validation_pending"
        else if s.operational_evidence_state ∈ ["current", "incomplete", "reconciliation_required"] then
          s.operational_evidence_state
        else "unavailable")),
      ("provider_connection_confirmed", .bool confirmed),
      ("can_recheck", .bool !in_flight)])

/-- `list_resources_endpoint`. -/
def listResourcesAnswer (rows : List (ResourceRow × MonitoringSource)) : ApiResponse :=
  page rt q [("generation_state", .str "active_generation")] (fun r => r.1.monitoring_resource_id)
    (fun (r, s) =>
      [("monitoring_resource_id", .str r.monitoring_resource_id), ("monitoring_source_id", .str r.monitoring_source_id),
        ("source_instance_generation", .str r.source_instance_generation),
        ("generation_state", generation_state r.source_instance_generation s)] ++
      r.shown ["display_name", "resource_kind", "scope_state", "scope_projection_revision", "scope_evidence_state",
        "presence_state", "presence_evidence_state", "last_observed_at", "last_confirmed_present_at", "created_at",
        "updated_at", "provider_external_ref", "removed_at", "host_groups"])
    ["provider_external_ref", "removed_at", "host_groups"] rows

/-- `get_resource_detail_endpoint`. -/
def resourceDetailAnswer (row : Option (ResourceRow × ProviderEvidence)) : ApiResponse :=
  match row with
  | none => httpException 404 "resource not found"
  | some (r, e) => ok (.obj (
      [("monitoring_resource_id", .str r.monitoring_resource_id), ("monitoring_source_id", .str r.monitoring_source_id)] ++
      r.shown ["display_name", "resource_kind", "scope_state", "scope_evidence_state", "presence_state",
        "presence_evidence_state", "last_observed_at", "last_confirmed_present_at", "provider_external_ref", "created_at",
        "updated_at"] ++
      e.shown ["normalized_evidence"]))

/-- The first rows, where the limit of the statement is not negative. -/
def limited {α : Type} (limit : ℤ) (rows : List α) : Option (List α) :=
  if limit < 0 then none else some (rows.take limit.toNat)

/-- `list_resource_current_states_endpoint`. -/
def resourceCurrentAnswer (rows : List (CurrentStateRow × DefinitionRow)) : ApiResponse :=
  match limited (q.limit.getD 200) (rows.insertionSort fun a b => rt.text_le a.2.name b.2.name = true) with
  | none => serverError
  | some rows => ok (.obj [("items", .arr (rows.map fun (c, d) => .obj [
      ("metric_definition_id", .str c.metric_definition_id),
      ("monitoring_resource_id", .str c.monitoring_resource_id),
      ("observed_at", c.columns "observed_at"),
      ("value_kind", .str c.value_kind),
      ("value", wrap_metric_value rt c.value_kind c.canonical_value),
      ("name", .str d.name),
      ("unit", .str d.unit)]))])

/-- `list_metrics_endpoint`. -/
def listMetricsAnswer (rows : List (DefinitionRow × DefinitionBinding × MonitoringSource)) : ApiResponse :=
  page rt q [] (fun r => r.1.metric_definition_id)
    (fun (d, b, s) =>
      [("metric_definition_id", .str d.metric_definition_id), ("monitoring_resource_id", d.columns "monitoring_resource_id"),
        ("monitoring_source_id", .str d.monitoring_source_id),
        ("source_instance_generation", .str d.source_instance_generation),
        ("generation_state", generation_state d.source_instance_generation s), ("name", .str d.name),
        ("value_kind", d.columns "value_kind"), ("unit", if d.unit = "" then .null else .str d.unit)] ++
      d.shown ["scope_state", "scope_projection_revision", "scope_evidence_state", "definition_state",
        "definition_evidence_state"] ++
      b.shown ["provider_external_ref", "provider_host_ref", "provider_key", "native_value_type",
        "provider_operational_state"])
    ["definition_evidence_state", "provider_external_ref", "provider_host_ref", "provider_key", "native_value_type",
      "provider_operational_state"] rows

/-- `list_current_endpoint`. -/
def listCurrentAnswer (rows : List (CurrentStateRow × DefinitionRow × MonitoringSource)) : ApiResponse :=
  page rt q [] (fun r => r.1.metric_definition_id)
    (fun (c, d, s) =>
      [("metric_definition_id", .str c.metric_definition_id), ("monitoring_resource_id", .str c.monitoring_resource_id),
        ("monitoring_source_id", .str c.monitoring_source_id),
        ("source_instance_generation", .str c.source_instance_generation),
        ("generation_state", generation_state c.source_instance_generation s)] ++
      d.shown ["scope_state", "scope_evidence_state"] ++
      c.shown ["current_observation_id", "observed_at", "accepted_at"] ++
      [("value_kind", .str c.value_kind), ("value", c.canonical_value)] ++
      c.shown ["evidence_state", "projection_revision", "last_changed_at"] ++
      [("name", .str d.name)] ++
      c.shown ["current_state_poll_epoch", "current_state_poll_generation"])
    ["name", "current_state_poll_epoch", "current_state_poll_generation"] rows

/-- `list_history_endpoint`. -/
def listHistoryAnswer (rows : List (ObservationRow × DefinitionRow)) : ApiResponse :=
  match limited (min (q.limit.getD 500) 5000) (rows.insertionSort fun a b => b.1.provider_clock < a.1.provider_clock ∨
      (a.1.provider_clock = b.1.provider_clock ∧ b.1.provider_ns ≤ a.1.provider_ns)) with
  | none => serverError
  | some rows => ok (.arr (rows.map fun (o, d) => .obj [
      ("metric_definition_id", .str o.metric_definition_id),
      ("name", .str d.name),
      ("value_kind", .str o.value_kind),
      ("canonical_value", o.canonical_value),
      ("provider_external_ref", o.columns "provider_external_ref"),
      ("provider_clock", .num o.provider_clock),
      ("provider_ns", .num o.provider_ns),
      ("observed_at", .str (rt.isoformat o.observed_at))]))

/-- `list_history_streams_endpoint`. -/
def listStreamsAnswer (rows : List StreamRow) : ApiResponse :=
  ok (.arr ((rows.insertionSort fun a b => rt.text_le a.provider_external_ref b.provider_external_ref = true).map fun s =>
    .obj (
      [("provider_external_ref", .str s.provider_external_ref), ("history_value_type", s.columns "history_value_type"),
        ("metric_definition_id", .str s.metric_definition_id), ("provisional_clock", s.columns "provisional_clock"),
        ("provisional_ns", s.columns "provisional_ns"), ("safe_clock", s.safe_clock.elim .null .num),
        ("safe_ns", s.columns "safe_ns"), ("coverage_state", .str s.coverage_state),
        ("checkpoint_revision", s.columns "checkpoint_revision"), ("updated_at", .str (rt.isoformat s.updated_at))])))

/-- What comes after the cursor of a history; `none` fails. -/
def historyAfter : Option (ObservationRow → Bool) :=
  match truthy q.cursor with
  | none => some fun _ => true
  | some cursor => do
    let entries ← rt.decode_cursor cursor
    let oid ← textField (entries.lookup "i")
    match entries.lookup "o" with
    | none => some fun _ => true
    | some .null => some fun _ => true
    | some clock => do
      let at_ ← rt.to_timestamp clock
      some fun o => o.observed_at < at_ ∨
        (o.observed_at = at_ ∧ oid.any fun i => rt.text_le o.observation_id i && !rt.text_le i o.observation_id)

/-- `metric_history_endpoint`. -/
def metricHistoryAnswer (definition_id : String)
    (rows : Option (DefinitionRow × MonitoringSource) × List ObservationRow × List StreamRow × List GapRow) :
    ApiResponse :=
  let (definition, observations, streams, gaps) := rows
  let till := q.window_till.getD rt.time
  let from_ := q.window_from.getD (till - 3600)
  if from_ ≤ 0 ∨ till < from_ ∨ 86400 * 30 < till - from_ then httpException 422 "invalid window"
  else if (truthy q.cursor).any fun c => (rt.decode_cursor c).isNone then httpException 400 "invalid cursor"
  else
    match definition, historyAfter rt q with
    | none, _ => httpException 404 "metric definition not found"
    | some _, none => serverError
    | some (d, s), some after =>
      let fetched := ((observations.filter fun o => from_ ≤ o.provider_clock ∧ o.provider_clock ≤ till ∧ after o).insertionSort
        fun a b => b.observed_at < a.observed_at ∨
          (a.observed_at = b.observed_at ∧ rt.text_le b.observation_id a.observation_id = true)).take (q.pageLimit + 1)
      let items := fetched.take q.pageLimit
      let stream := (streams.insertionSort fun a b => b.updated_at ≤ a.updated_at).head?
      let coverage := stream.elim "open" StreamRow.coverage_state
      ok (.obj [
        ("metric_definition_id", .str definition_id),
        ("source_instance_generation", .str d.source_instance_generation),
        ("generation_state", generation_state d.source_instance_generation s),
        ("window", .obj [("from", .str (rt.fromtimestamp from_)), ("to", .str (rt.fromtimestamp till))]),
        ("completeness", .obj [
          ("state", .str (if coverage = "finalized" then "complete" else if coverage = "open" then "incomplete"
            else if coverage = "gap" then "gap_detected" else "reconciliation_required")),
          ("covered_through", (stream.bind StreamRow.safe_clock).elim .null fun c => .str (rt.fromtimestamp c)),
          ("gap_refs", .arr (((gaps.insertionSort fun a b => b.detected_at ≤ a.detected_at).take 64).map
            fun g => .str g.history_gap_id))]),
        ("items", .arr (items.map fun o => .obj (
          [("observation_id", .str o.observation_id), ("metric_definition_id", .str o.metric_definition_id),
            ("monitoring_resource_id", o.columns "monitoring_resource_id"),
            ("monitoring_source_id", .str o.monitoring_source_id),
            ("source_instance_generation", o.columns "source_instance_generation"),
            ("observed_at", .str (rt.isoformat o.observed_at)), ("accepted_at", o.columns "accepted_at"),
            ("value_kind", .str o.value_kind), ("value", wrap_metric_value rt o.value_kind o.canonical_value)]))),
        ("next_cursor", if q.pageLimit < fetched.length then items.getLast?.elim .null fun o =>
            .str (rt.encode_cursor [("o", rt.timestamp o.observed_at), ("i", .str o.observation_id)])
          else .null)])

/-- `_PROBLEM_SEV_RANK`. -/
def ProblemRow.sevRank (p : ProblemRow) : ℤ :=
  if p.severity_class = "critical" then 0 else if p.severity_class = "degraded" then 1
  else if p.severity_class = "warning" then 2 else if p.severity_class = "informational" then 3 else 4

/-- A field of a cursor that a cast reads, where there is one; the outer `none` fails. -/
def castField (cast : Json → Option ℤ) (value : Option Json) : Option (Option ℤ) :=
  match value with
  | none => some none
  | some .null => some none
  | some value => (cast value).map some

/-- The integer of a number. -/
def intOf : Json → Option ℤ
  | .num n => some n
  | _ => none

/-- What comes after the cursor of a list of problems; `none` fails. -/
def problemAfter (cursor : Option String) : Option (ProblemRow → Bool) :=
  match truthy cursor with
  | none => some fun _ => true
  | some cursor => do
    let entries ← rt.decode_cursor cursor
    let rank ← castField intOf (entries.lookup "r")
    let opened ← castField rt.timestamptz (entries.lookup "o")
    let pid ← textField (entries.lookup "p")
    some fun p => rank.all fun r => r < p.sevRank ∨ (p.sevRank = r ∧ opened.any fun t => p.opened_at < t) ∨
      (p.sevRank = r ∧ (opened.any fun t => p.opened_at = t) ∧ pid.any fun i => !rt.text_le p.problem_id i)

/-- The critical ones first, then the newest. -/
def ProblemRow.before (a b : ProblemRow) : Prop :=
  a.sevRank < b.sevRank ∨ (a.sevRank = b.sevRank ∧ (b.opened_at < a.opened_at ∨
    (a.opened_at = b.opened_at ∧ rt.text_le a.problem_id b.problem_id = true)))

instance : DecidableRel (ProblemRow.before rt) := fun a b => by
  unfold ProblemRow.before
  infer_instance

/-- `list_problems`, of the rows that it reads: the entries of each item and the next cursor; `none` fails. -/
def problemPage (cursor : Option String) (limit : ℕ) (operational : Bool)
    (rows : List (ProblemRow × ProblemBinding × MonitoringSource)) : Option (List (List (String × Json)) × Json) := do
  let after ← problemAfter rt cursor
  let fetched := ((rows.filter fun r => after r.1).insertionSort fun a b => a.1.before rt b.1).take (limit + 1)
  let items := fetched.take limit
  let item := fun ((p, b, s) : ProblemRow × ProblemBinding × MonitoringSource) =>
    [("problem_id", Json.str p.problem_id), ("monitoring_source_id", .str p.monitoring_source_id),
      ("source_instance_generation", .str p.source_instance_generation),
      ("generation_state", generation_state p.source_instance_generation s),
      ("monitoring_resource_ids", .arr [.str p.monitoring_resource_id]), ("summary", p.columns "summary"),
      ("problem_state", .str p.problem_state), ("severity_class", .str p.severity_class),
      ("opened_at", .str (rt.isoformat p.opened_at))] ++
    p.shown ["resolved_at", "last_confirmed_at", "evidence_state", "projection_revision", "provider_acknowledged"] ++
    [("monitoring_resource_id", .str p.monitoring_resource_id),
      ("provider_eventid", b.columns "provider_external_ref"), ("sev_rank", .num p.sevRank)]
  let popped := ["projection_revision", "provider_acknowledged", "monitoring_resource_id", "provider_eventid", "sev_rank"]
  some (items.map fun r => if operational then item r else pop popped (item r),
    if limit < fetched.length then items.getLast?.elim .null fun r => .str (rt.encode_cursor
      [("r", .num r.1.sevRank), ("o", .str (rt.isoformat r.1.opened_at)), ("p", .str r.1.problem_id)])
    else .null)

/-- `list_problems_endpoint`. -/
def listProblemsAnswer (rows : List (ProblemRow × ProblemBinding × MonitoringSource)) : ApiResponse :=
  match list_params rt q with
  | some refused => refused
  | none =>
    match problemPage rt q.cursor q.pageLimit q.operational rows with
    | none => serverError
    | some (items, next_cursor) => ok (.obj [("items", .arr (items.map .obj)), ("next_cursor", next_cursor)])

/-- The entry is the text. -/
def isText (text : String) : Option Json → Bool
  | some (.str t) => t = text
  | _ => false

/-- `list_resource_problems_endpoint`. -/
def resourceProblemsAnswer (resource_id : String) (rows : List (ProblemRow × ProblemBinding × MonitoringSource)) :
    ApiResponse :=
  match problemPage rt none 200 false rows with
  | none => serverError
  | some (items, _) =>
    ok (.obj [("items", .arr ((items.filter fun item => isText resource_id (item.lookup "monitoring_resource_id")).map
      .obj))])

/-- `list_operations_endpoint`. -/
def listOperationsAnswer (rows : List SyncOperationRow) : ApiResponse :=
  ok (.arr (rows.map fun o => .obj (
    [("monitoring_sync_operation_id", o.columns "monitoring_sync_operation_id"),
      ("responsibility_kind", .str o.responsibility_kind), ("state", .str o.state)] ++
    o.shown ["last_error_class", "claim_token"] ++ [("created_at", .str (rt.isoformat o.created_at))] ++
    o.shown ["started_at", "completed_at"])))

/-- `list_health_endpoint`. -/
def listHealthAnswer (rows : List (HealthRow × ResourceRow × MonitoringSource × List String)) : ApiResponse :=
  page rt q [] (fun r => r.1.monitoring_resource_id)
    (fun (h, r, s, refs) =>
      [("monitoring_resource_id", .str h.monitoring_resource_id), ("monitoring_source_id", .str h.monitoring_source_id),
        ("source_instance_generation", .str h.source_instance_generation),
        ("generation_state", generation_state h.source_instance_generation s)] ++
      r.shown ["scope_state", "scope_evidence_state"] ++
      h.shown ["health_class", "evidence_state", "projection_revision", "last_changed_at", "last_evidence_at"] ++
      [("problem_refs", .arr (refs.map .str)), ("reason_refs", h.columns "reason_refs")])
    ["reason_refs"] rows

/-- `list_outbox_endpoint`. -/
def listOutboxAnswer (rows : List MessageRow) : ApiResponse :=
  match rt.untyped_null, limited (min (q.limit.getD 100) 1000) rows with
  | true, some rows => ok (.arr (rows.map fun m => .obj (
      [("record_id", .num m.record_id)] ++
      (["message_id", "contract_name", "contract_version"].map fun n => (n, m.columns n)) ++
      [("subject_type", m.subject_type.elim .null .str), ("subject_id", m.subject_id.elim .null .str),
        ("dispatch_state", .str m.dispatch_state.text)] ++
      (["attempt_count", "redrive_count", "last_error_class", "published_receipt_id", "published_at",
        "appended_at"].map fun n => (n, m.columns n)))))
  | _, _ => serverError

end Endpoints

/-! ### Requests -/

/-- The reads, with the parameters of their paths. -/
inductive MonitoringRead where
  | list_sources
  | get_source (source_id : String)
  | resources (source_id : String)
  | resource_detail (source_id resource_id : String)
  | resource_current (source_id resource_id : String)
  | resource_problems (source_id resource_id : String)
  | onboarding (source_id : String)
  | metrics (source_id : String)
  | current (source_id : String)
  | history (source_id : String)
  | metric_history (source_id metric_definition_id : String)
  | streams (source_id : String)
  | problems (source_id : String)
  | operations (source_id : String)
  | health (source_id : String)
  | outbox
  deriving DecidableEq

/-- The read that a route is for. -/
def MonitoringRead.ofRoute (handler : String) (params : List String) : Option MonitoringRead :=
  match params with
  | [] =>
    if handler = "list_sources_endpoint" then some .list_sources
    else if handler = "list_outbox_endpoint" then some .outbox
    else none
  | [source_id] =>
    if handler = "get_source_endpoint" then some (.get_source source_id)
    else if handler = "list_resources_endpoint" then some (.resources source_id)
    else if handler = "onboarding_view_endpoint" then some (.onboarding source_id)
    else if handler = "list_metrics_endpoint" then some (.metrics source_id)
    else if handler = "list_current_endpoint" then some (.current source_id)
    else if handler = "list_history_endpoint" then some (.history source_id)
    else if handler = "list_history_streams_endpoint" then some (.streams source_id)
    else if handler = "list_problems_endpoint" then some (.problems source_id)
    else if handler = "list_operations_endpoint" then some (.operations source_id)
    else if handler = "list_health_endpoint" then some (.health source_id)
    else none
  | [source_id, id] =>
    if handler = "get_resource_detail_endpoint" then some (.resource_detail source_id id)
    else if handler = "list_resource_current_states_endpoint" then some (.resource_current source_id id)
    else if handler = "list_resource_problems_endpoint" then some (.resource_problems source_id id)
    else if handler = "metric_history_endpoint" then some (.metric_history source_id id)
    else none
  | _ => none

/-- The answer of a read. -/
def MonitoringRead.answer (rt : Runtime) (q : MonitoringQuery) (tenant_id : String) (db : MonitoringDb) :
    MonitoringRead → ApiResponse
  | .list_sources => listSourcesAnswer (db.list_sources tenant_id)
  | .get_source source_id => getSourceAnswer (db.get_source tenant_id source_id)
  | .resources source_id => listResourcesAnswer rt q (db.list_resources tenant_id source_id !q.operational)
  | .resource_detail source_id resource_id => resourceDetailAnswer (db.resource_detail tenant_id source_id resource_id)
  | .resource_current source_id resource_id =>
    resourceCurrentAnswer rt q (db.resource_current tenant_id source_id resource_id)
  | .resource_problems source_id resource_id =>
    resourceProblemsAnswer rt resource_id (db.list_problems tenant_id source_id true)
  | .onboarding source_id => onboardingAnswer source_id (db.onboarding tenant_id source_id)
  | .metrics source_id => listMetricsAnswer rt q (db.list_definitions tenant_id source_id)
  | .current source_id => listCurrentAnswer rt q (db.list_current tenant_id source_id)
  | .history source_id => listHistoryAnswer rt q (db.list_history tenant_id source_id)
  | .metric_history source_id definition_id =>
    metricHistoryAnswer rt q definition_id (db.metric_history tenant_id source_id definition_id)
  | .streams source_id => listStreamsAnswer rt (db.list_streams tenant_id source_id)
  | .problems source_id => listProblemsAnswer rt q (db.list_problems tenant_id source_id (q.active_only.getD false))
  | .operations source_id => listOperationsAnswer rt (db.list_operations tenant_id source_id q.state)
  | .health source_id => listHealthAnswer rt q (db.list_health tenant_id source_id)
  | .outbox => listOutboxAnswer rt q (db.list_outbox tenant_id q.state)

/-- The read that takes the request. -/
def readOf (request : ApiRequest) : Option MonitoringRead :=
  (dispatch request.method request.path).bind fun (r, params) => MonitoringRead.ofRoute r.handler params

/-- The answer of the API to a request; `none` where the gate lets it through without a context, and of the
other routes. -/
def monitoring_get (settings : Settings) (rt : Runtime) (request : ApiRequest) (q : MonitoringQuery) (s : ApiState)
    (db : MonitoringDb) : Option ApiResponse :=
  match verify_context settings request s with
  | .unprotected => none
  | .refused status state reason =>
    some ⟨status, .obj ([("state", .str state)] ++ reason.elim [] fun r => [("reason", .str r)])⟩
  | .next ctx =>
    (readOf request).map fun read =>
      match authoritative_tenant settings ctx request.tenant_id with
      | none => httpException 403 "no tenant authority"
      | some tenant => read.answer rt q tenant db

end JLMirror.Access
