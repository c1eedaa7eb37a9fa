import JLMirror.Access.Gate

/-!
# The routes

The handlers of the API, router by router, as `api/main.py` includes them: the method and the path of each,
the check that opens it, and what it writes.

## The model

* A segment in braces is a parameter. The first route whose method and path fit a request takes it.
* `Guard` is what a handler asks of the context of its request before anything else. The routers name their
  checks alike and do not check alike, so each kind of check has its own case.
* `writes` names what a handler writes through: the tables of its statements, a function of the database or
  of `shared/monitoring_repo.py`, a worker's pass. What the process keeps in its memory is no row.

## What is proved

* **Key result** (`reads_write_nothing`): no handler of a reading method writes.
* **Key result** (`dispatch_startswith`): a request that is routed is under `/api/v1/`.

## Honest scope

The routes outside of `/api/v1/` are left out, and what a handler checks after its guard: the rows it looks
up, the values of its body.
-/

namespace JLMirror.Access

/-! ### Guards -/

/-- What a handler checks first. -/
inductive Guard where
  /-- Nothing. -/
  | everyone
  /-- `_get_context`: there is a context. -/
  | context
  /-- `_principal_id` of the onboarding. -/
  | principal
  /-- `_require_tenant`, `_tenant_ctx`. -/
  | tenant
  /-- `_require_tenant` and `_require_principal` of the changes, `_require_context` of the layout. -/
  | tenant_principal
  /-- `_authoritative_tenant`, of the tenant that the query or the body names. -/
  | authoritative
  /-- `_authoritative_tenant`, of the tenant of the path where the query names none. -/
  | path_tenant
  /-- `_require_operator` of the automation and the reports. -/
  | operator
  /-- `_require_operate` of the maintenance windows. -/
  | operate
  /-- `_require_admin` of the SLA policies. -/
  | admin
  /-- `_require_admin` of the API keys. -/
  | key_admin
  /-- `_require_admin` of the branding. -/
  | branding_admin
  /-- `_require_platform_admin`. -/
  | platform_admin
  /-- `settings.is_development`. -/
  | development
  /-- The client of the path is a tenant delegated to the principal, and not its own. -/
  | delegated_client
  deriving DecidableEq

/-- A text that is not empty. -/
def truthy (text : Option String) : Option String := text.filter fun t => t ≠ ""

/-- `_authoritative_tenant`. -/
def authoritative_tenant (settings : Settings) (ctx : ApiContext) (body_tenant : Option String) : Option String :=
  match ctx.tenant with
  | some tenant => some tenant
  | none => if settings.is_development then truthy body_tenant else none

/-- The principal has one of the permissions in the tenant. -/
def hasAny (required : List String) (ctx : ApiContext) (tenant : String) (s : ApiState) : Bool :=
  required.any fun p => permits (effective_permissions s.now ctx.principal_id tenant s.db) p

/-- The guard lets the request through to the handler; `params` are the parameters of the path. -/
def Guard.admits (settings : Settings) (request : ApiRequest) (s : ApiState) (ctx : ApiContext)
    (params : List String) : Guard → Bool
  | .everyone => true
  | .context => true
  | .principal => ctx.principal_id ≠ ""
  | .tenant => ctx.tenant.isSome
  | .tenant_principal => ctx.tenant.isSome ∧ ctx.principal_id ≠ ""
  | .authoritative => (authoritative_tenant settings ctx request.tenant_id).isSome
  | .path_tenant => (authoritative_tenant settings ctx ((truthy request.tenant_id).or params.head?)).isSome
  | .operator => ctx.principal_id ≠ "" ∧ ctx.tenant.any fun t => hasAny ["monitoring:operate", "tenant:admin"] ctx t s
  | .operate => ctx.principal_id ≠ "" ∧ (authoritative_tenant settings ctx request.tenant_id).any fun t =>
      hasAny ["monitoring:operate", "tenant:admin"] ctx t s
  | .admin => ctx.principal_id ≠ "" ∧ ctx.tenant.any fun t => hasAny ["tenant:admin"] ctx t s
  | .key_admin => ctx.tenant.any fun t => hasAny ["tenant:admin"] ctx t s
  | .branding_admin => ctx.principal_id ≠ "" ∧ (authoritative_tenant settings ctx request.tenant_id).any fun t =>
      hasAny ["tenant:admin"] ctx t s
  | .platform_admin => principal_is_platform_admin ctx.principal_id s.db
  | .development => settings.is_development
  | .delegated_client => (accessible_tenants s.now ctx.principal_id s.db).any fun t =>
      t.via = some "delegation" ∧ some t.tenant_id ≠ ctx.tenant_id ∧ params.head? = some t.tenant_id

/-! ### Routes -/

/-- A route and its handler. -/
structure Route where
  method : HttpMethod
  /-- The segments of its path. -/
  pattern : Path
  handler : String
  guard : Guard
  writes : List String
  deriving DecidableEq

/-- The routes of a router, under its prefix. -/
def routerAt (start : Path) (routes : List Route) : List Route :=
  routes.map fun r => { r with pattern := start ++ r.pattern }

/-- `{name}`. -/
def isParam (pat : String) : Bool := pat.toList.head? = some '{'

/-- `{name:path}`, which takes the rest of the path. -/
def isRest (pat : String) : Bool := isParam pat && ":path\x7d".toList.isSuffixOf pat.toList

/-- The parameters of a path that fits the pattern. -/
def matchPath : Path → Path → Option (List String)
  | [], [] => some []
  | [], _ :: _ => none
  | _ :: _, [] => none
  | pat :: pats, seg :: segs =>
    if isRest pat then some ["/".intercalate (seg :: segs)]
    else if isParam pat then
      if seg = "" then none else (matchPath pats segs).map (seg :: ·)
    else if pat = seg then matchPath pats segs
    else none

/-- `api/routers/alertmanager_ingest.py`. -/
def alertmanagerIngestRouter : List Route := routerAt ["api", "v1", "sources", "alertmanager"] [
  ⟨.GET, [], "list_sources", .tenant, []⟩,
  ⟨.POST, [], "create_source", .tenant, ["g1.alertmanager_source_config"]⟩,
  ⟨.POST, ["{source_id}", "rotate-token"], "rotate_token", .tenant, ["g1.alertmanager_source_config"]⟩,
  ⟨.DELETE, ["{source_id}"], "disable_source", .tenant, ["g1.alertmanager_source_config"]⟩,
  ⟨.GET, ["{source_id}", "events"], "list_events", .tenant, []⟩,
  ⟨.POST, ["{source_id}", "ingest"], "alertmanager_ingest", .everyone, ["g1.alertmanager_event"]⟩]

/-- `api/routers/api_keys.py`. -/
def apiKeysRouter : List Route := routerAt ["api", "v1", "api-keys"] [
  ⟨.GET, [], "list_api_keys", .tenant, []⟩,
  ⟨.POST, [], "create_api_key", .key_admin, ["g1.g27_create_api_key"]⟩,
  ⟨.DELETE, ["{key_id}"], "revoke_api_key", .key_admin, ["g1.g27_revoke_api_key"]⟩]

/-- `api/routers/infra.py`. -/
def infraRouter : List Route := routerAt ["api", "v1", "infra"] [
  ⟨.GET, ["certs"], "list_certs", .tenant, []⟩,
  ⟨.POST, ["certs"], "create_cert", .tenant, ["g1.cert_tracker"]⟩,
  ⟨.POST, ["certs", "{cert_id}", "recheck"], "recheck_cert", .tenant, ["g1.cert_tracker"]⟩,
  ⟨.DELETE, ["certs", "{cert_id}"], "delete_cert", .tenant, ["g1.cert_tracker"]⟩,
  ⟨.GET, ["assets"], "list_assets", .tenant, []⟩,
  ⟨.POST, ["assets"], "create_asset", .tenant, ["g1.infra_asset"]⟩,
  ⟨.PUT, ["assets", "{asset_id}"], "update_asset", .tenant, ["g1.infra_asset"]⟩,
  ⟨.DELETE, ["assets", "{asset_id}"], "delete_asset", .tenant, ["g1.infra_asset"]⟩]

/-- `api/routers/kb.py`. -/
def kbRouter : List Route := routerAt ["api", "v1", "kb"] [
  ⟨.GET, ["categories"], "list_categories", .tenant, []⟩,
  ⟨.POST, ["categories"], "create_category", .tenant, ["g1.kb_category"]⟩,
  ⟨.DELETE, ["categories", "{category_id}"], "delete_category", .tenant, ["g1.kb_category"]⟩,
  ⟨.GET, ["articles"], "list_articles", .tenant, []⟩,
  ⟨.GET, ["articles", "{article_id}"], "get_article", .tenant, []⟩,
  ⟨.POST, ["articles"], "create_article", .tenant, ["g1.kb_article"]⟩,
  ⟨.PUT, ["articles", "{article_id}"], "update_article", .tenant, ["g1.kb_article"]⟩,
  ⟨.DELETE, ["articles", "{article_id}"], "delete_article", .tenant, ["g1.kb_article"]⟩,
  ⟨.POST, ["articles", "{article_id}", "incidents"], "link_incident", .tenant, ["g1.kb_article_incident"]⟩,
  ⟨.DELETE, ["articles", "{article_id}", "incidents", "{incident_id}"], "unlink_incident", .tenant,
    ["g1.kb_article_incident"]⟩]

/-- `api/routers/authority.py`. -/
def authorityRouter : List Route := routerAt ["api", "v1"] [
  ⟨.POST, ["auth", "session", "issue"], "issue_session", .development, []⟩,
  ⟨.POST, ["auth", "session", "retire"], "retire_session", .everyone, []⟩,
  ⟨.POST, ["fence", "bootstrap"], "bootstrap_fence", .development, []⟩,
  ⟨.POST, ["fence", "acquire"], "acquire_fence", .development, []⟩,
  ⟨.GET, ["fence", "current", "{fence_scope_id}"], "current_fence", .development, []⟩]

/-- `api/routers/automation.py`. -/
def automationRouter : List Route := routerAt ["api", "v1", "automation"] [
  ⟨.GET, ["scripts"], "list_scripts", .tenant, []⟩,
  ⟨.POST, ["scripts"], "create_script", .operator, ["g1.automation_script"]⟩,
  ⟨.PUT, ["scripts", "{script_id}"], "update_script", .operator, ["g1.automation_script"]⟩,
  ⟨.POST, ["scripts", "{script_id}", "trigger"], "trigger_script", .operator, ["g1.automation_run"]⟩,
  ⟨.GET, ["schedules"], "list_schedules", .tenant, []⟩,
  ⟨.POST, ["schedules"], "create_schedule", .operator, ["g1.automation_schedule"]⟩,
  ⟨.DELETE, ["schedules", "{schedule_id}"], "delete_schedule", .operator, ["g1.automation_schedule"]⟩,
  ⟨.GET, ["runs"], "list_runs", .tenant, []⟩]

/-- `api/routers/reports.py`. -/
def reportsRouter : List Route := routerAt ["api", "v1", "reports"] [
  ⟨.GET, ["templates"], "list_templates", .tenant, []⟩,
  ⟨.POST, ["templates"], "create_template", .operator, ["g1.report_template"]⟩,
  ⟨.DELETE, ["templates", "{template_id}"], "disable_template", .operator, ["g1.report_template"]⟩,
  ⟨.POST, ["templates", "{template_id}", "trigger"], "trigger_template", .operator, ["g1.report_delivery"]⟩,
  ⟨.GET, ["schedules"], "list_schedules", .tenant, []⟩,
  ⟨.POST, ["schedules"], "create_schedule", .operator, ["g1.report_schedule"]⟩,
  ⟨.DELETE, ["schedules", "{schedule_id}"], "delete_schedule", .operator, ["g1.report_schedule"]⟩,
  ⟨.GET, ["schedules", "{schedule_id}", "subscribers"], "list_subscribers", .tenant, []⟩,
  ⟨.POST, ["schedules", "{schedule_id}", "subscribers"], "add_subscriber", .operator, ["g1.report_template"]⟩,
  ⟨.DELETE, ["schedules", "{schedule_id}", "subscribers", "{email:path}"], "remove_subscriber", .operator,
    ["g1.report_template"]⟩,
  ⟨.GET, ["deliveries"], "list_deliveries", .tenant, []⟩]

/-- `api/routers/billing.py`. -/
def billingRouter : List Route := routerAt ["api", "v1", "billing"] [
  ⟨.GET, ["status"], "billing_status", .everyone, []⟩]

/-- `api/routers/branding.py`. -/
def brandingRouter : List Route := routerAt ["api", "v1", "platform"] [
  ⟨.GET, ["branding"], "get_branding", .authoritative, []⟩,
  ⟨.PUT, ["branding"], "upsert_branding", .branding_admin, ["g1.tenant_branding"]⟩]

/-- `api/routers/changes.py`. -/
def changesRouter : List Route := routerAt ["api", "v1", "itsm"] [
  ⟨.GET, ["changes"], "list_changes", .tenant, []⟩,
  ⟨.POST, ["changes"], "create_change", .tenant_principal, ["g1.change_request", "audit.audit_event"]⟩,
  ⟨.GET, ["changes", "{rfc_id}"], "get_change", .tenant, []⟩,
  ⟨.PUT, ["changes", "{rfc_id}"], "update_change", .tenant, ["g1.change_request", "audit.audit_event"]⟩,
  ⟨.POST, ["changes", "{rfc_id}", "tasks"], "create_task", .tenant, ["g1.change_task", "audit.audit_event"]⟩,
  ⟨.PUT, ["changes", "{rfc_id}", "tasks", "{task_id}"], "update_task", .tenant,
    ["g1.change_task", "audit.audit_event"]⟩,
  ⟨.POST, ["changes", "{rfc_id}", "approvals"], "record_approval", .tenant,
    ["g1.change_approval", "g1.change_request", "audit.audit_event"]⟩]

/-- `api/routers/monitoring.py`. -/
def monitoringRouter : List Route := routerAt ["api", "v1", "monitoring"] [
  ⟨.POST, ["sources", "plan"], "plan_source", .everyone, []⟩,
  ⟨.POST, ["health", "derive"], "derive_health_endpoint", .everyone, []⟩,
  ⟨.POST, ["sources"], "create_source", .authoritative, ["shared.monitoring_repo.create_zabbix_source"]⟩,
  ⟨.POST, ["sources", "discover-groups"], "discover_groups", .everyone, []⟩,
  ⟨.GET, ["sources"], "list_sources_endpoint", .authoritative, []⟩,
  ⟨.POST, ["sources", "{source_id}", "recheck"], "recheck_source", .authoritative, ["monitoring.monitoring_source"]⟩,
  ⟨.GET, ["sources", "{source_id}"], "get_source_endpoint", .authoritative, []⟩,
  ⟨.PUT, ["sources", "{source_id}", "credential"], "rotate_source_credential", .authoritative,
    ["shared.monitoring_repo.enqueue_sync_operation", "audit.audit_event"]⟩,
  ⟨.DELETE, ["sources", "{source_id}", "credential"], "revoke_source_credential", .authoritative,
    ["audit.audit_event"]⟩,
  ⟨.POST, ["sync", "run"], "run_sync_once", .development, ["workers.validation"]⟩,
  ⟨.POST, ["sources", "{source_id}", "inventory"], "enqueue_inventory", .authoritative,
    ["shared.monitoring_repo.enqueue_sync_operation"]⟩,
  ⟨.GET, ["sources", "{source_id}", "resources"], "list_resources_endpoint", .authoritative, []⟩,
  ⟨.GET, ["sources", "{source_id}", "resources", "{resource_id}"], "get_resource_detail_endpoint", .authoritative,
    []⟩,
  ⟨.GET, ["sources", "{source_id}", "resources", "{resource_id}", "current"],
    "list_resource_current_states_endpoint", .authoritative, []⟩,
  ⟨.GET, ["sources", "{source_id}", "resources", "{resource_id}", "problems"],
    "list_resource_problems_endpoint", .authoritative, []⟩,
  ⟨.GET, ["sources", "{source_id}", "onboarding"], "onboarding_view_endpoint", .authoritative, []⟩,
  ⟨.POST, ["inventory", "run"], "run_inventory_once", .development, ["workers.inventory"]⟩,
  ⟨.POST, ["sources", "{source_id}", "metrics", "poll"], "enqueue_metric_poll", .authoritative,
    ["shared.monitoring_repo.enqueue_metric_definition_poll"]⟩,
  ⟨.GET, ["sources", "{source_id}", "metrics"], "list_metrics_endpoint", .authoritative, []⟩,
  ⟨.POST, ["metrics", "run"], "run_metrics_once", .development, ["workers.metrics"]⟩,
  ⟨.POST, ["sources", "{source_id}", "current", "poll"], "enqueue_current_poll", .authoritative,
    ["shared.monitoring_repo.enqueue_current_state_poll"]⟩,
  ⟨.GET, ["sources", "{source_id}", "current"], "list_current_endpoint", .authoritative, []⟩,
  ⟨.POST, ["current", "run"], "run_current_once", .development, ["workers.current_state"]⟩,
  ⟨.POST, ["sources", "{source_id}", "history", "poll"], "enqueue_history_poll", .authoritative,
    ["shared.monitoring_repo.enqueue_history_sync"]⟩,
  ⟨.GET, ["sources", "{source_id}", "history"], "list_history_endpoint", .authoritative, []⟩,
  ⟨.GET, ["sources", "{source_id}", "metrics", "{metric_definition_id}", "history"],
    "metric_history_endpoint", .authoritative, []⟩,
  ⟨.GET, ["sources", "{source_id}", "history", "streams"], "list_history_streams_endpoint", .authoritative, []⟩,
  ⟨.POST, ["history", "run"], "run_history_once", .development, ["workers.history"]⟩,
  ⟨.POST, ["sources", "{source_id}", "problems", "poll"], "enqueue_problem_poll", .authoritative,
    ["shared.monitoring_repo.enqueue_problem_state_sync"]⟩,
  ⟨.GET, ["sources", "{source_id}", "problems"], "list_problems_endpoint", .authoritative, []⟩,
  ⟨.POST, ["problems", "run"], "run_problems_once", .development, ["workers.problem_state"]⟩,
  ⟨.GET, ["sources", "{source_id}", "operations"], "list_operations_endpoint", .authoritative, []⟩,
  ⟨.POST, ["sources", "{source_id}", "operations", "{operation_id}", "requeue"],
    "requeue_operation_endpoint", .authoritative,
    ["shared.monitoring_repo.requeue_sync_operation", "audit.audit_event"]⟩,
  ⟨.GET, ["sources", "{source_id}", "health"], "list_health_endpoint", .authoritative, []⟩,
  ⟨.POST, ["health", "run"], "run_health_once", .development, ["workers.health"]⟩,
  ⟨.GET, ["outbox", "messages"], "list_outbox_endpoint", .authoritative, []⟩,
  ⟨.POST, ["outbox", "{record_id}", "redrive"], "redrive_outbox_endpoint", .authoritative,
    ["monitoring.redrive_outbox_message", "audit.audit_event"]⟩,
  ⟨.POST, ["outbox", "run"], "run_outbox_once", .development, ["workers.outbox_dispatcher"]⟩]

/-- `api/routers/async_ops.py`. -/
def asyncOpsRouter : List Route := routerAt ["api", "v1", "async"] [
  ⟨.POST, ["outbox", "append"], "outbox_append", .development, []⟩,
  ⟨.POST, ["outbox", "claim-next"], "outbox_claim_next", .development, []⟩,
  ⟨.POST, ["outbox", "mark-published"], "outbox_mark_published", .development, []⟩,
  ⟨.GET, ["outbox", "pending"], "outbox_pending", .development, []⟩]

/-- `api/routers/observability.py`. -/
def observabilityRouter : List Route := routerAt ["api", "v1", "observability"] [
  ⟨.GET, ["profiles"], "list_profiles", .everyone, []⟩,
  ⟨.GET, ["profiles", "{profile_id}"], "get_profile", .everyone, []⟩,
  ⟨.GET, ["slo"], "slo_snapshot", .everyone, []⟩,
  ⟨.GET, ["audit-events"], "list_audit_events_endpoint", .authoritative, []⟩,
  ⟨.GET, ["audit-events", "export"], "export_audit_events", .authoritative, []⟩]

/-- `api/routers/release.py`. -/
def releaseRouter : List Route := routerAt ["api", "v1", "release"] [
  ⟨.POST, ["outcome", "classify"], "classify_outcome", .everyone, []⟩,
  ⟨.GET, ["outcomes"], "list_outcomes", .everyone, []⟩]

/-- `api/routers/alerting.py`. -/
def alertingRouter : List Route := routerAt ["api", "v1", "alerting"] [
  ⟨.GET, ["policies"], "list_policies", .authoritative, []⟩,
  ⟨.POST, ["policies"], "create_policy_version", .authoritative,
    ["alerting.alert_policy", "alerting.alert_policy_effective_version", "alerting.alert_policy_version",
      "audit.audit_event"]⟩,
  ⟨.POST, ["policies", "{policy_id}", "effective"], "set_effective_version", .authoritative,
    ["alerting.alert_policy_effective_version", "alerting.alert_policy_version", "audit.audit_event"]⟩,
  ⟨.GET, ["alerts"], "list_alerts", .authoritative, []⟩,
  ⟨.GET, ["alerts", "{alert_id}"], "get_alert", .authoritative, []⟩,
  ⟨.GET, ["inbox"], "list_inbox", .authoritative, []⟩,
  ⟨.POST, ["alerts", "{alert_id}", "snooze"], "snooze_alert", .authoritative, ["alerting.g21_snooze_alert"]⟩,
  ⟨.POST, ["alerts", "{alert_id}", "unsnooze"], "unsnooze_alert", .authoritative, ["alerting.g21_unsnooze_alert"]⟩,
  ⟨.POST, ["alerts", "{alert_id}", "acknowledge"], "acknowledge_alert", .authoritative,
    ["alerting.alert", "audit.audit_event"]⟩]

/-- `api/routers/escalation.py`. -/
def escalationRouter : List Route := routerAt ["api", "v1", "alerting"] [
  ⟨.GET, ["escalation-policies"], "list_policies", .authoritative, []⟩,
  ⟨.PATCH, ["escalation-policies", "{policy_id}"], "patch_policy", .authoritative, ["alerting.alert_policy_version"]⟩,
  ⟨.POST, ["escalation-policies"], "create_policy", .authoritative, ["alerting.g23_create_policy"]⟩,
  ⟨.DELETE, ["escalation-policies", "{policy_id}"], "delete_policy", .authoritative, ["alerting.g23_delete_policy"]⟩,
  ⟨.GET, ["escalation-policies", "{policy_id}"], "get_policy", .authoritative, []⟩,
  ⟨.POST, ["escalation-policies", "{policy_id}", "steps"], "add_step", .authoritative, ["alerting.g23_add_step"]⟩,
  ⟨.DELETE, ["escalation-policies", "{policy_id}", "steps", "{step_number}"], "delete_step", .authoritative,
    ["alerting.g23_delete_step"]⟩,
  ⟨.POST, ["alerts", "{alert_id}", "escalation-policy"], "arm_alert", .authoritative, ["alerting.g23_arm_alert"]⟩,
  ⟨.DELETE, ["alerts", "{alert_id}", "escalation-policy"], "disarm_alert", .authoritative,
    ["alerting.g23_disarm_alert"]⟩,
  ⟨.GET, ["alerts", "{alert_id}", "escalation-policy"], "get_alert_escalation", .authoritative, []⟩]

/-- `api/routers/human_ops.py`. -/
def humanOpsRouter : List Route := routerAt ["api", "v1", "alerting"] [
  ⟨.POST, ["alerts", "{alert_id}", "assign"], "assign_alert_action", .authoritative,
    ["human_operations.alert_action_assignment", "human_operations.current_action_projection", "audit.audit_event"]⟩,
  ⟨.POST, ["alerts", "{alert_id}", "ack"], "acknowledge_alert", .authoritative,
    ["human_operations.alert_acknowledgement", "audit.audit_event"]⟩,
  ⟨.POST, ["resources", "responsibilities"], "assign_responsibility", .authoritative,
    ["human_operations.resource_responsibility_assignment", "audit.audit_event"]⟩,
  ⟨.POST, ["resources", "responsibilities", "{assignment_id}", "end"], "end_responsibility", .authoritative,
    ["human_operations.resource_responsibility_assignment", "audit.audit_event"]⟩,
  ⟨.POST, ["alerts", "{alert_id}", "visibility-requirements"], "create_visibility_requirement", .authoritative,
    ["human_operations.visibility_requirement", "audit.audit_event"]⟩,
  ⟨.POST, ["visibility-requirements", "{requirement_id}", "receipts"], "record_visibility_receipt", .authoritative,
    ["human_operations.visibility_receipt", "audit.audit_event"]⟩,
  ⟨.GET, ["alerts", "{alert_id}", "timeline"], "alert_timeline", .authoritative, []⟩]

/-- `api/routers/itsm.py`. -/
def itsmRouter : List Route := routerAt ["api", "v1", "alerting"] [
  ⟨.POST, ["alerts", "{alert_id}", "incidents"], "create_incident", .authoritative, ["itsm.g10_create_incident"]⟩,
  ⟨.GET, ["alerts", "{alert_id}", "incidents"], "list_alert_incidents", .authoritative, []⟩,
  ⟨.GET, ["incidents", "{incident_id}"], "get_incident", .authoritative, []⟩,
  ⟨.POST, ["incidents", "{incident_id}", "transition"], "transition_incident", .authoritative,
    ["itsm.g10_transition_incident"]⟩,
  ⟨.POST, ["incidents", "{incident_id}", "assignments"], "assign_incident", .authoritative,
    ["itsm.g10_assign_incident"]⟩,
  ⟨.POST, ["incidents", "{incident_id}", "comments"], "add_comment", .authoritative, ["itsm.g10_add_comment"]⟩]

/-- `api/routers/incident_response.py`. -/
def incidentResponseRouter : List Route := routerAt ["api", "v1", "alerting"] [
  ⟨.GET, ["tenants", "{path_tenant}", "incident-response-policy"], "get_policy", .path_tenant, []⟩,
  ⟨.PUT, ["tenants", "{path_tenant}", "incident-response-policy"], "upsert_policy", .path_tenant,
    ["incident_response.g11_upsert_policy"]⟩,
  ⟨.POST, ["tenants", "{path_tenant}", "application-error-events"], "push_error_event", .path_tenant,
    ["incident_response.g11_claim_dedupe", "incident_response.g11_store_event",
      "incident_response.g11_enqueue_action"]⟩,
  ⟨.GET, ["tenants", "{path_tenant}", "application-error-events"], "list_error_events", .path_tenant, []⟩,
  ⟨.GET, ["tenants", "{path_tenant}", "application-error-events", "{event_id}"], "get_error_event", .path_tenant, []⟩,
  ⟨.PATCH, ["tenants", "{path_tenant}", "application-error-events", "{event_id}"],
    "mark_event_processed", .path_tenant, ["incident_response.g11_mark_event_processed", "audit.audit_event"]⟩]

/-- `api/routers/notifications.py`. -/
def notificationsRouter : List Route := routerAt ["api", "v1", "alerting"] [
  ⟨.POST, ["alerts", "{alert_id}", "notifications"], "create_intent", .authoritative,
    ["notification.notification_dispatch_outbox", "notification.notification_intent", "audit.audit_event"]⟩,
  ⟨.GET, ["notifications"], "list_notifications", .authoritative, []⟩,
  ⟨.GET, ["notifications", "{intent_id}"], "notification_detail", .authoritative, []⟩,
  ⟨.POST, ["notifications", "callback"], "provider_callback", .everyone,
    ["notification.notification_callback_inbox"]⟩,
  ⟨.GET, ["notification-channels"], "list_destinations", .authoritative, []⟩,
  ⟨.POST, ["notification-channels"], "add_destination", .authoritative, ["notification.g22_add_destination"]⟩,
  ⟨.DELETE, ["notification-channels", "{dest_id}"], "delete_destination", .authoritative,
    ["notification.g22_delete_destination"]⟩]

/-- `api/routers/onboarding.py`. -/
def onboardingRouter : List Route := routerAt ["api", "v1", "onboarding"] [
  ⟨.POST, ["register"], "register_tenant", .principal, ["g1.g25_register_tenant"]⟩]

/-- `api/routers/platform.py`. -/
def platformRouter : List Route := routerAt ["api", "v1", "platform"] [
  ⟨.GET, ["organizations"], "list_organizations", .platform_admin, []⟩,
  ⟨.POST, ["organizations"], "create_organization", .platform_admin, ["g1.organizations", "audit.audit_event"]⟩,
  ⟨.GET, ["relationships"], "list_relationships", .platform_admin, []⟩,
  ⟨.POST, ["relationships"], "create_relationship", .platform_admin,
    ["g1.organization_relationships", "audit.audit_event"]⟩,
  ⟨.GET, ["delegated-grants"], "list_grants", .platform_admin, []⟩,
  ⟨.POST, ["delegated-grants"], "create_grant", .platform_admin, ["g1.delegated_grants", "audit.audit_event"]⟩,
  ⟨.POST, ["delegated-grants", "{grant_id}", "revoke"], "revoke_grant", .platform_admin,
    ["g1.delegated_grants", "audit.audit_event"]⟩,
  ⟨.GET, ["organizations", "{organization_id}"], "organization_360", .platform_admin, []⟩,
  ⟨.POST, ["service-provider-transfer"], "service_provider_transfer", .platform_admin,
    ["g1.delegated_grants", "g1.organization_relationships", "audit.audit_event"]⟩,
  ⟨.GET, ["display-principals"], "list_display_principals", .platform_admin, []⟩,
  ⟨.POST, ["display-tokens"], "create_display_token", .platform_admin,
    ["g1.display_tokens", "g1.principals", "audit.audit_event"]⟩,
  ⟨.POST, ["display-tokens", "{principal_id}", "revoke"], "revoke_display_token", .platform_admin,
    ["g1.display_tokens", "g1.principals", "audit.audit_event"]⟩,
  ⟨.GET, ["commercial-accounts"], "list_commercial_accounts", .platform_admin, []⟩,
  ⟨.POST, ["commercial-accounts"], "create_commercial_account", .platform_admin,
    ["g1.commercial_accounts", "audit.audit_event"]⟩,
  ⟨.GET, ["contracts"], "list_contracts", .platform_admin, []⟩,
  ⟨.POST, ["contracts"], "create_contract", .platform_admin, ["g1.contracts", "audit.audit_event"]⟩,
  ⟨.GET, ["entitlements"], "list_entitlements", .platform_admin, []⟩,
  ⟨.POST, ["entitlements"], "create_entitlement", .platform_admin, ["g1.entitlements", "audit.audit_event"]⟩,
  ⟨.GET, ["usage"], "list_usage", .platform_admin, []⟩,
  ⟨.GET, ["health"], "platform_health", .platform_admin, []⟩,
  ⟨.POST, ["tenants"], "create_tenant", .platform_admin, ["g1.tenants", "audit.audit_event"]⟩,
  ⟨.GET, ["tenants"], "list_tenants", .platform_admin, []⟩,
  ⟨.PATCH, ["organizations", "{org_id}", "state"], "update_organization_state", .platform_admin,
    ["g1.organizations", "g1.tenants", "audit.audit_event"]⟩,
  ⟨.POST, ["users"], "provision_user", .platform_admin,
    ["g1.principals", "g1.tenant_memberships", "audit.audit_event"]⟩,
  ⟨.GET, ["users"], "search_users", .platform_admin, []⟩,
  ⟨.POST, ["users", "{user_id}", "disable"], "disable_user", .platform_admin, ["audit.audit_event"]⟩,
  ⟨.POST, ["users", "{user_id}", "enable"], "enable_user", .platform_admin, ["audit.audit_event"]⟩,
  ⟨.POST, ["users", "{user_id}", "reset-password"], "reset_user_password", .platform_admin, ["audit.audit_event"]⟩]

/-- `api/routers/tenant.py`. -/
def tenantRouter : List Route := routerAt ["api", "v1", "tenant"] [
  ⟨.GET, ["members"], "list_members", .tenant, []⟩,
  ⟨.POST, ["members"], "add_member", .tenant, ["g1.tenant_memberships", "audit.audit_event"]⟩,
  ⟨.PATCH, ["members", "{membership_id}"], "update_member_role", .tenant,
    ["g1.tenant_memberships", "audit.audit_event"]⟩,
  ⟨.POST, ["members", "{membership_id}", "revoke"], "revoke_member", .tenant,
    ["g1.tenant_memberships", "audit.audit_event"]⟩,
  ⟨.GET, ["roles"], "list_roles", .tenant, []⟩,
  ⟨.POST, ["roles"], "create_role", .tenant, ["g1.tenant_roles", "audit.audit_event"]⟩,
  ⟨.POST, ["roles", "{role_name}", "retire"], "retire_role", .tenant, ["g1.tenant_roles", "audit.audit_event"]⟩,
  ⟨.GET, ["usage"], "tenant_usage", .tenant, []⟩]

/-- `api/routers/aiops.py`. -/
def aiopsRouter : List Route := routerAt ["api", "v1", "aiops"] [
  ⟨.GET, ["findings"], "list_findings", .context, []⟩,
  ⟨.GET, ["findings", "{finding_id}"], "get_finding", .context, []⟩,
  ⟨.POST, ["findings", "{finding_id}", "dismiss"], "dismiss_finding", .context,
    ["aiops.finding", "audit.audit_event"]⟩]

/-- `api/routers/finops.py`. -/
def finopsRouter : List Route := routerAt ["api", "v1", "finops"] [
  ⟨.GET, ["summary"], "finops_summary", .context, []⟩,
  ⟨.GET, ["usage"], "finops_usage", .context, []⟩]

/-- `api/routers/maintenance.py`. -/
def maintenanceRouter : List Route := routerAt ["api", "v1", "maintenance"] [
  ⟨.GET, ["windows"], "list_windows", .authoritative, []⟩,
  ⟨.POST, ["windows"], "create_window", .operate, ["monitoring.g20_create_window"]⟩,
  ⟨.DELETE, ["windows", "{window_id}"], "cancel_window", .operate, ["monitoring.g20_cancel_window"]⟩]

/-- `api/routers/sla.py`. -/
def slaRouter : List Route := routerAt ["api", "v1", "sla"] [
  ⟨.GET, ["policies"], "list_policies", .tenant, []⟩,
  ⟨.POST, ["policies"], "create_policy", .admin, ["g1.sla_policy"]⟩,
  ⟨.PUT, ["policies", "{sla_id}"], "update_policy", .admin, ["g1.sla_policy"]⟩,
  ⟨.DELETE, ["policies", "{sla_id}"], "delete_policy", .admin, ["g1.sla_policy"]⟩,
  ⟨.GET, ["trackers"], "list_trackers", .tenant, []⟩,
  ⟨.GET, ["breaches"], "list_breaches", .tenant, []⟩]

/-- `api/routers/status_page.py`. -/
def statusPageRouter : List Route := routerAt ["api", "v1", "platform"] [
  ⟨.GET, ["status-page"], "get_status_page_config", .authoritative, []⟩,
  ⟨.PUT, ["status-page"], "upsert_status_page_config", .authoritative, ["g1.tenant_status_config"]⟩]

/-- `api/routers/noc_stream.py`. -/
def nocStreamRouter : List Route := routerAt ["api", "v1", "noc"] [
  ⟨.GET, ["stream"], "noc_stream", .authoritative, []⟩]

/-- `api/routers/msp.py`. -/
def mspRouter : List Route := routerAt ["api", "v1", "msp"] [
  ⟨.GET, ["clients"], "list_msp_clients", .everyone, []⟩,
  ⟨.GET, ["clients", "{client_tenant_id}", "detail"], "get_client_detail", .delegated_client, []⟩]

/-- `api/routers/layout.py`. -/
def layoutRouter : List Route := routerAt ["api", "v1", "layout"] [
  ⟨.GET, [], "get_layout", .tenant_principal, []⟩,
  ⟨.PUT, [], "save_layout", .tenant_principal, ["g1.user_layout"]⟩]

/-- The route of `api/main.py` itself. -/
def mainRouter : List Route := routerAt ["api", "v1"] [⟨.GET, ["me"], "whoami", .context, []⟩]

/-- The routes under `/api/v1/`, in the order of `app.include_router`. -/
def ROUTES : List Route :=
  [mainRouter, alertmanagerIngestRouter, apiKeysRouter, infraRouter, kbRouter, authorityRouter, automationRouter,
    reportsRouter, billingRouter, brandingRouter, changesRouter, monitoringRouter, asyncOpsRouter,
    observabilityRouter, releaseRouter, alertingRouter, escalationRouter, humanOpsRouter, itsmRouter,
    incidentResponseRouter, notificationsRouter, onboardingRouter, platformRouter, tenantRouter, aiopsRouter,
    finopsRouter, maintenanceRouter, slaRouter, statusPageRouter, nocStreamRouter, mspRouter, layoutRouter].flatten

/-- The route that takes a request, and the parameters of its path. -/
def dispatch (method : HttpMethod) (path : Path) : Option (Route × List String) :=
  ROUTES.findSome? fun r => if r.method = method then (matchPath r.pattern path).map fun params => (r, params) else none

/-! ### What the table says -/

/-- **Key result.** No handler of a reading method writes. -/
theorem reads_write_nothing : ∀ r ∈ ROUTES, r.method.isRead = true → r.writes = [] := by
  decide +kernel

/-- Each path begins with `/api/v1/`. -/
theorem routes_startwith : ∀ r ∈ ROUTES, startswith ["api", "v1"] r.pattern = true := by
  decide +kernel

variable {path : Path} {params : List String}

theorem dispatch_eq_some {method : HttpMethod} {r : Route} (h : dispatch method path = some (r, params)) :
    r ∈ ROUTES ∧ r.method = method ∧ matchPath r.pattern path = some params := by
  obtain ⟨r', hr', h⟩ := List.exists_of_findSome?_eq_some h
  split_ifs at h with hm
  obtain ⟨p, hp, heq⟩ := Option.map_eq_some_iff.1 h
  obtain ⟨rfl, rfl⟩ := Prod.mk.inj heq
  exact ⟨hr', hm, hp⟩

/-- A path fits a segment that is no parameter only with that segment. -/
theorem matchPath_cons {pat : String} (hpat : isParam pat = false) {pats : Path}
    (h : matchPath (pat :: pats) path = some params) :
    ∃ segs, path = pat :: segs ∧ matchPath pats segs = some params := by
  cases path with
  | nil => simp [matchPath] at h
  | cons seg segs =>
    have hrest : isRest pat = false := by simp [isRest, hpat]
    rw [matchPath, hrest, hpat] at h
    simp only [Bool.false_eq_true, if_false] at h
    split_ifs at h with heq
    exact ⟨segs, by rw [heq], h⟩

theorem matchPath_ne_nil {pats : Path} (hne : pats ≠ []) (h : matchPath pats path = some params) : path ≠ [] := by
  rintro rfl
  cases pats with
  | nil => exact hne rfl
  | cons pat pats => simp [matchPath] at h

/-- **Key result.** A request that is routed is under `/api/v1/`. -/
theorem dispatch_startswith {method : HttpMethod} {r : Route} (h : dispatch method path = some (r, params)) :
    startswith ["api", "v1"] path = true := by
  obtain ⟨hr, -, hm⟩ := dispatch_eq_some h
  have hstart := routes_startwith r hr
  simp only [startswith, Bool.and_eq_true, List.isPrefixOf_iff_prefix, decide_eq_true_eq] at hstart
  obtain ⟨⟨pats, hpats⟩, hlen⟩ := hstart
  have hcons : r.pattern = "api" :: "v1" :: pats := hpats.symm
  rw [hcons] at hm hlen
  obtain ⟨rest, rfl, hrest⟩ := matchPath_cons (by decide) hm
  obtain ⟨segs, rfl, hsegs⟩ := matchPath_cons (by decide) hrest
  have hne : pats ≠ [] := by
    rintro rfl
    simp at hlen
  have hnil : segs ≠ [] := matchPath_ne_nil hne hsegs
  cases segs with
  | nil => exact absurd rfl hnil
  | cons seg segs => simp [startswith, List.isPrefixOf]

end JLMirror.Access
