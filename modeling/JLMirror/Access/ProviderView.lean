import JLMirror.Access.MonitoringTables
import JLMirror.Access.ReadOnly
import Mathlib.Data.Fintype.EquivFin

/-!
# The view of a provider

`api/routers/msp.py` shows a provider the health of the tenants that are delegated to it, without binding its
session to one of them. Both endpoints ask `accessible_tenants` for the clients and nothing else; the path is
under none of the prefixes of the permission gate.

## The model

* `Columns` says which of the columns that the two statements name the tables have. The migrations in `sql/`
  make neither: `monitoring.monitoring_source` has no `enabled`, and `alerting.alert` has had no
  `last_state_change_at` since it was made anew in `002_g7_policy_lifecycle.sql` (nor before). A statement that
  names a column that is not there fails.
* `permitted` is the part of the clients' rows that the authority of a principal covers.

## What is proved

* **Key result** (`provider_view_iff`): for any columns, when the answer comes from the permitted rows.
* **Key result** (`provider_view_respects`): with the columns of `sql/` it always does, since no answer has any of
  the clients' rows.

## Honest scope

The failures of connections are left out, and so are the instants as texts.
-/

namespace JLMirror.Access

/-! ### The rows of the clients -/

/-- `alerting.alert`, as the view reads it. -/
structure ClientAlert where
  tenant_id : String
  alert_id : String
  source_kind : String
  monitoring_source_id : String
  monitoring_resource_id : String
  /-- `lifecycle_state = 'active'`, else it is resolved. -/
  active : Bool
  /-- `severity_class` of the summary, where it has one. -/
  severity_class : Option String
  opened_at : ℤ
  /-- Where there is such a column. -/
  last_state_change_at : Option ℤ
  deriving DecidableEq

/-- `monitoring.monitoring_source`, as the view reads it. -/
structure ClientSource where
  tenant_id : String
  monitoring_source_id : String
  /-- Where there is such a column. -/
  enabled : Bool
  deriving DecidableEq

/-- The two tables. -/
structure ClientDb where
  alerts : List ClientAlert
  sources : List ClientSource
  deriving DecidableEq

/-- The columns that the statements name and that not every schema has. -/
structure Columns where
  /-- `enabled` of `monitoring.monitoring_source`. -/
  enabled : Bool
  /-- `last_state_change_at` of `alerting.alert`. -/
  last_state_change_at : Bool
  deriving DecidableEq

/-- The columns that the migrations in `sql/` make. -/
def migrated : Columns := ⟨false, false⟩

/-! ### The endpoints -/

/-- `health` of a client. -/
inductive Health where
  | critical
  | warning
  | ok
  | unknown
  deriving DecidableEq

/-- `_order`. -/
def Health.order : Health → ℕ
  | .critical => 0
  | .warning => 1
  | .ok => 2
  | .unknown => 3

/-- An entry of the list of clients. -/
structure ClientHealth where
  tenant_id : String
  display_name : String
  health : Health
  active_alerts : ℕ
  critical_alerts : ℕ
  warning_alerts : ℕ
  source_count : ℕ
  deriving DecidableEq

/-- What the endpoints answer. -/
inductive MspAnswer where
  | refused (status : ℕ) (state : String) (reason : Option String)
  | clients (clients : List ClientHealth) (own_tenant_id : Option String)
  | detail (tenant_id : String) (alerts : List ClientAlert)
  /-- `not_authorized_for_client`. -/
  | not_authorized
  /-- A statement that fails outside of a `try`. -/
  | failed
  deriving DecidableEq

/-- `_client_health`. -/
def client_health (columns : Columns) (client : AccessibleTenant) (d : ClientDb) : ClientHealth :=
  let display_name := if client.display_name = "" then client.tenant_id else client.display_name
  let alerts := d.alerts.filter fun a => a.tenant_id = client.tenant_id
  let active := alerts.countP fun a => a.active
  let critical := alerts.countP fun a => a.active ∧ a.severity_class = some "critical"
  let warning := alerts.countP fun a => a.active ∧ (a.severity_class = some "warning" ∨ a.severity_class = some "degraded")
  if columns.enabled then
    { tenant_id := client.tenant_id
      display_name
      health := if 0 < critical then .critical else if 0 < warning ∨ 0 < active then .warning else .ok
      active_alerts := active
      critical_alerts := critical
      warning_alerts := warning
      source_count := (d.sources.filter fun s => s.tenant_id = client.tenant_id).countP fun s => s.enabled }
  else
    -- the second statement fails, and what the first has counted is dropped
    ⟨client.tenant_id, display_name, .unknown, 0, 0, 0, 0⟩

section Endpoints

variable (columns : Columns) (text_le : String → String → Bool)

/-- The clients: what is accessible by delegation and is not the tenant of the context. -/
def delegated (ctx : ApiContext) (s : ApiState) : List AccessibleTenant :=
  ((accessible_tenants s.now ctx.principal_id s.db).dedup.insertionSort fun a b =>
    text_le a.tenant_id b.tenant_id = true).filter fun t => t.via = some "delegation" ∧ some t.tenant_id ≠ ctx.tenant_id

/-- `list_msp_clients`. -/
def list_msp_clients (ctx : ApiContext) (s : ApiState) (d : ClientDb) : MspAnswer :=
  .clients (((delegated text_le ctx s).map fun t => client_health columns t d).insertionSort fun a b =>
    a.health.order ≤ b.health.order) ctx.tenant_id

/-- `get_client_detail`. -/
def get_client_detail (ctx : ApiContext) (client_tenant_id : String) (s : ApiState) (d : ClientDb) : MspAnswer :=
  if (delegated text_le ctx s).any fun t => t.tenant_id = client_tenant_id then
    if columns.last_state_change_at then
      .detail client_tenant_id (((d.alerts.filter fun a => a.tenant_id = client_tenant_id ∧ a.active).insertionSort fun a b =>
        b.opened_at ≤ a.opened_at).take 25)
    else .failed
  else .not_authorized

/-- The two reads. -/
inductive MspRead where
  | clients
  | client_detail (client_tenant_id : String)
  deriving DecidableEq

/-- The read that takes the request. -/
def mspReadOf (request : ApiRequest) : Option MspRead :=
  (dispatch request.method request.path).bind fun (r, params) =>
    if r.handler = "list_msp_clients" then some .clients
    else if r.handler = "get_client_detail" then params.head?.map .client_detail
    else none

/-- The answer of a read. -/
def MspRead.answer (ctx : ApiContext) (s : ApiState) (d : ClientDb) : MspRead → MspAnswer
  | .clients => list_msp_clients columns text_le ctx s d
  | .client_detail client_tenant_id => get_client_detail columns text_le ctx client_tenant_id s d

/-- The answer of the API to a request; `none` where the gate lets it through without a context, and of the other
routes. -/
def msp_get (settings : Settings) (request : ApiRequest) (s : ApiState) (d : ClientDb) : Option MspAnswer :=
  match verify_context settings request s with
  | .unprotected => none
  | .refused status state reason => some (.refused status state reason)
  | .next ctx => (mspReadOf request).map fun read => read.answer columns text_le ctx s d

end Endpoints

/-! ### The rows that the authority covers -/

/-- The principal has the permission in the tenant and reaches the source. -/
def mayRead (now : ℕ) (principal_id : String) (db : AccessDb) (p : Permission) (tenant_id source_id : String) : Bool :=
  p ∈ effective_permissions now principal_id tenant_id db ∧
    (allowed_source_ids now principal_id tenant_id db).all fun ids => source_id ∈ ids

/-- The rows that the principal may read. -/
def ClientDb.permitted (now : ℕ) (principal_id : String) (db : AccessDb) (d : ClientDb) : ClientDb where
  alerts := d.alerts.filter fun a => mayRead now principal_id db .alerting_read a.tenant_id a.monitoring_source_id
  sources := d.sources.filter fun s => mayRead now principal_id db .monitoring_read s.tenant_id s.monitoring_source_id

/-- The principal may read all rows of the tenant by the permission. -/
def ReadsAll (now : ℕ) (principal_id : String) (db : AccessDb) (p : Permission) (tenant_id : String) : Prop :=
  p ∈ effective_permissions now principal_id tenant_id db ∧ allowed_source_ids now principal_id tenant_id db = none

section Respects

variable (columns : Columns) (text_le : String → String → Bool) (settings : Settings) (request : ApiRequest) (s : ApiState)

/-- The answer comes from the rows that the principal may read: it is the same on two states of the tables that
have the same ones. -/
def ProviderViewRespects : Prop :=
  ∀ ctx, presented settings request s = some (some ctx) →
    ∀ d d' : ClientDb, d.permitted s.now ctx.principal_id s.db = d'.permitted s.now ctx.principal_id s.db →
      msp_get columns text_le settings request s d = msp_get columns text_le settings request s d'

/-- What a read shows of a client is covered, or the statement for it fails. -/
def Covers (ctx : ApiContext) (client : AccessibleTenant) : MspRead → Prop
  | .clients => columns.enabled = true → ReadsAll s.now ctx.principal_id s.db .alerting_read client.tenant_id ∧
      ReadsAll s.now ctx.principal_id s.db .monitoring_read client.tenant_id
  | .client_detail client_tenant_id => columns.last_state_change_at = true → client.tenant_id = client_tenant_id →
      ReadsAll s.now ctx.principal_id s.db .alerting_read client.tenant_id

variable {columns} {text_le} {settings} {request} {s}

/-! ### The gate -/

/-- The routes of the two reads are under `/api/v1/msp/`. -/
theorem msp_routes : ∀ r ∈ ROUTES, r.handler = "list_msp_clients" ∨ r.handler = "get_client_detail" →
    r.pattern.take 3 = ["api", "v1", "msp"] ∧ 3 < r.pattern.length := by
  decide +kernel

/-- No permission is asked for on the paths of the two reads. -/
theorem msp_path {read : MspRead} (h : mspReadOf request = some read) :
    startswith ["api", "v1"] request.path = true ∧ exempt request.path = false ∧
      required_permission request.path request.method = none := by
  obtain ⟨⟨r, params⟩, hd, hread⟩ := Option.bind_eq_some_iff.1 h
  obtain ⟨hr, -, hp⟩ := dispatch_eq_some hd
  have hhandler : r.handler = "list_msp_clients" ∨ r.handler = "get_client_detail" := by
    by_contra hno
    obtain ⟨hlist, hdetail⟩ := not_or.1 hno
    simp [hlist, hdetail] at hread
  obtain ⟨hstart, hlen⟩ := msp_routes r hr hhandler
  obtain ⟨pats, hne, hpattern⟩ : ∃ pats, pats ≠ [] ∧ r.pattern = "api" :: "v1" :: "msp" :: pats :=
    ⟨r.pattern.drop 3, by simpa using hlen, by rw [← List.take_append_drop 3 r.pattern, hstart]; rfl⟩
  rw [hpattern] at hp
  obtain ⟨segs₁, hpath, hp₁⟩ := matchPath_cons (by decide) hp
  obtain ⟨segs₂, rfl, hp₂⟩ := matchPath_cons (by decide) hp₁
  obtain ⟨segs, rfl, hp₃⟩ := matchPath_cons (by decide) hp₂
  obtain ⟨seg, rest, rfl⟩ := List.exists_cons_of_ne_nil (matchPath_ne_nil hne hp₃)
  rw [hpath]
  simp [startswith, exempt, required_permission, DOMAIN_PREFIXES, List.isPrefixOf]

variable {ctx : ApiContext}

theorem msp_passes {read : MspRead} (hp : presented settings request s = some (some ctx))
    (h : mspReadOf request = some read) : verify_context settings request s = .next ctx ↔
      (ctx.credential = .session → session_current s.now s.sessions s.db ctx.toContext = true) := by
  obtain ⟨hv, he, hreq⟩ := msp_path h
  rw [verify_context_next, permission_gate_next]
  simp [hv, he, hp, hreq]

/-! ### Covered rows -/

variable {now : ℕ} {principal_id tenant_id : String} {db : AccessDb}

/-- Where not all rows may be read, the rows of some source may not. -/
theorem exists_unread {p : Permission} (h : ¬ReadsAll now principal_id db p tenant_id) :
    ∃ source_id, mayRead now principal_id db p tenant_id source_id = false := by
  by_cases hp : p ∈ effective_permissions now principal_id tenant_id db
  · cases hids : allowed_source_ids now principal_id tenant_id db with
    | none => exact absurd ⟨hp, hids⟩ h
    | some ids =>
      obtain ⟨source_id, hs⟩ := Infinite.exists_notMem_finset ids.toFinset
      rw [List.mem_toFinset] at hs
      exact ⟨source_id, by simp [mayRead, hids, hs]⟩
  · exact ⟨"", by simp [mayRead, hp]⟩

theorem mayRead_of_readsAll {p : Permission} (h : ReadsAll now principal_id db p tenant_id) (source_id : String) :
    mayRead now principal_id db p tenant_id source_id = true := by
  simp [mayRead, h.1, h.2]

variable {d : ClientDb}

theorem permitted_alerts (h : ReadsAll now principal_id db .alerting_read tenant_id) (p : ClientAlert → Bool)
    (hp : ∀ a, p a = true → a.tenant_id = tenant_id) :
    (d.permitted now principal_id db).alerts.filter p = d.alerts.filter p :=
  filter_kept fun a _ ha => by
    rw [hp a ha]
    exact mayRead_of_readsAll h _

theorem permitted_sources (h : ReadsAll now principal_id db .monitoring_read tenant_id) (p : ClientSource → Bool)
    (hp : ∀ r, p r = true → r.tenant_id = tenant_id) :
    (d.permitted now principal_id db).sources.filter p = d.sources.filter p :=
  filter_kept fun r _ hr => by
    rw [hp r hr]
    exact mayRead_of_readsAll h _

variable {client : AccessibleTenant}

/-- The health of a client that is covered. -/
theorem client_health_permitted {d' : ClientDb}
    (hsame : d.permitted now principal_id db = d'.permitted now principal_id db)
    (h : columns.enabled = true → ReadsAll now principal_id db .alerting_read client.tenant_id ∧
      ReadsAll now principal_id db .monitoring_read client.tenant_id) :
    client_health columns client d = client_health columns client d' := by
  by_cases hc : columns.enabled = true
  · obtain ⟨ha, hm⟩ := h hc
    have halerts : d.alerts.filter (fun a => a.tenant_id = client.tenant_id) =
        d'.alerts.filter fun a => a.tenant_id = client.tenant_id := by
      rw [← permitted_alerts ha _ fun a => of_decide_eq_true, hsame, permitted_alerts ha _ fun a => of_decide_eq_true]
    have hsources : d.sources.filter (fun r => r.tenant_id = client.tenant_id) =
        d'.sources.filter fun r => r.tenant_id = client.tenant_id := by
      rw [← permitted_sources hm _ fun r => of_decide_eq_true, hsame, permitted_sources hm _ fun r => of_decide_eq_true]
    simp only [client_health, halerts, hsources]
  · simp [client_health, hc]

/-! ### Rows that are not covered -/

/-- Nothing. -/
def noClients : ClientDb := ⟨[], []⟩

/-- An alert of the source. -/
def oneAlert (tenant_id source_id : String) : ClientDb :=
  ⟨[⟨tenant_id, "alert", "monitoring_problem", source_id, "resource", true, some "critical", 0, none⟩], []⟩

/-- The source. -/
def oneClientSource (tenant_id source_id : String) : ClientDb := ⟨[], [⟨tenant_id, source_id, true⟩]⟩

/-- A client of the list shows in it. -/
theorem clients_shown {d' : ClientDb} (hmem : client ∈ delegated text_le ctx s)
    (hsame : list_msp_clients columns text_le ctx s d = list_msp_clients columns text_le ctx s d') :
    ∃ other, client_health columns client d = client_health columns other d' := by
  have hsorted := (MspAnswer.clients.inj hsame).1
  have hperm : client_health columns client d ∈
      ((delegated text_le ctx s).map fun t => client_health columns t d').insertionSort fun a b =>
        a.health.order ≤ b.health.order := by
    rw [← hsorted, List.mem_insertionSort]
    exact List.mem_map_of_mem hmem
  rw [List.mem_insertionSort] at hperm
  obtain ⟨other, -, heq⟩ := List.mem_map.1 hperm
  exact ⟨other, heq.symm⟩

theorem oneAlert_permitted {source_id : String} (h : mayRead now principal_id db .alerting_read tenant_id source_id = false) :
    (oneAlert tenant_id source_id).permitted now principal_id db = noClients.permitted now principal_id db := by
  simp [ClientDb.permitted, oneAlert, noClients, h]

theorem oneClientSource_permitted {source_id : String}
    (h : mayRead now principal_id db .monitoring_read tenant_id source_id = false) :
    (oneClientSource tenant_id source_id).permitted now principal_id db = noClients.permitted now principal_id db := by
  simp [ClientDb.permitted, oneClientSource, noClients, h]

theorem alert_listed (hc : columns.enabled = true) (hmem : client ∈ delegated text_le ctx s) (source_id : String) :
    list_msp_clients columns text_le ctx s (oneAlert client.tenant_id source_id) ≠
      list_msp_clients columns text_le ctx s noClients := by
  intro hsame
  obtain ⟨other, heq⟩ := clients_shown hmem hsame
  have hcount := congrArg ClientHealth.active_alerts heq
  simp [client_health, hc, oneAlert, noClients] at hcount

theorem source_listed (hc : columns.enabled = true) (hmem : client ∈ delegated text_le ctx s) (source_id : String) :
    list_msp_clients columns text_le ctx s (oneClientSource client.tenant_id source_id) ≠
      list_msp_clients columns text_le ctx s noClients := by
  intro hsame
  obtain ⟨other, heq⟩ := clients_shown hmem hsame
  have hcount := congrArg ClientHealth.source_count heq
  simp [client_health, hc, oneClientSource, noClients] at hcount

theorem alert_detailed (hc : columns.last_state_change_at = true) (hmem : client ∈ delegated text_le ctx s)
    (source_id : String) :
    get_client_detail columns text_le ctx client.tenant_id s (oneAlert client.tenant_id source_id) ≠
      get_client_detail columns text_le ctx client.tenant_id s noClients := by
  have hany : ((delegated text_le ctx s).any fun t => t.tenant_id = client.tenant_id) = true :=
    List.any_eq_true.2 ⟨client, hmem, by simp⟩
  simp [get_client_detail, hany, hc, oneAlert, noClients]

/-! ### The view -/

/-- **Key result.** The answer comes from the rows that the principal may read if and only if it may read all that
the read shows of the clients, or the statement fails. -/
theorem provider_view_iff : ProviderViewRespects columns text_le settings request s ↔
    ∀ ctx, presented settings request s = some (some ctx) →
      (ctx.credential = .session → session_current s.now s.sessions s.db ctx.toContext = true) →
        ∀ read, mspReadOf request = some read → ∀ client ∈ delegated text_le ctx s, Covers columns s ctx client read := by
  constructor
  · intro h ctx hp hcur read hread client hmem
    have hanswer : ∀ d d' : ClientDb, d.permitted s.now ctx.principal_id s.db = d'.permitted s.now ctx.principal_id s.db →
        read.answer columns text_le ctx s d = read.answer columns text_le ctx s d' := by
      intro d d' hsame
      have heq := h ctx hp d d' hsame
      simp only [msp_get, (msp_passes hp hread).2 hcur, hread, Option.map_some] at heq
      exact Option.some.inj heq
    cases read with
    | clients =>
      intro hc
      by_contra hno
      rcases not_and_or.1 hno with hno | hno
      · obtain ⟨source_id, hunread⟩ := exists_unread hno
        exact alert_listed hc hmem source_id (hanswer _ _ (oneAlert_permitted hunread))
      · obtain ⟨source_id, hunread⟩ := exists_unread hno
        exact source_listed hc hmem source_id (hanswer _ _ (oneClientSource_permitted hunread))
    | client_detail client_tenant_id =>
      rintro hc rfl
      by_contra hno
      obtain ⟨source_id, hunread⟩ := exists_unread hno
      exact alert_detailed hc hmem source_id (hanswer _ _ (oneAlert_permitted hunread))
  · intro h ctx hp d d' hsame
    unfold msp_get
    cases hv : verify_context settings request s with
    | unprotected => rfl
    | refused status state reason => rfl
    | next ctx' =>
      obtain ⟨-, -, hp', hcur, -⟩ := verify_context_next.1 hv
      obtain rfl : ctx = ctx' := Option.some.inj (Option.some.inj (hp.symm.trans hp'))
      dsimp only
      cases hread : mspReadOf request with
      | none => rfl
      | some read =>
        refine congrArg some ?_
        have hcovers := h ctx hp hcur read hread
        cases read with
        | clients =>
          have hmap : (delegated text_le ctx s).map (fun t => client_health columns t d) =
              (delegated text_le ctx s).map fun t => client_health columns t d' :=
            List.map_congr_left fun t ht => client_health_permitted hsame (hcovers t ht)
          simp only [MspRead.answer, list_msp_clients, hmap]
        | client_detail client_tenant_id =>
          simp only [MspRead.answer, get_client_detail]
          split_ifs with hany hc
          · obtain ⟨client, hmem, hid⟩ := List.any_eq_true.1 hany
            obtain rfl := of_decide_eq_true hid
            have hall := hcovers client hmem hc rfl
            have halerts : d.alerts.filter (fun a => a.tenant_id = client.tenant_id ∧ a.active) =
                d'.alerts.filter fun a => a.tenant_id = client.tenant_id ∧ a.active := by
              rw [← permitted_alerts hall _ fun a ha => (of_decide_eq_true ha).1, hsame,
                permitted_alerts hall _ fun a ha => (of_decide_eq_true ha).1]
            rw [halerts]
          · rfl
          · rfl

/-- **Key result.** With the columns that `sql/` makes, the answer comes from the rows that the principal may read:
neither statement is answered. -/
theorem provider_view_respects (text_le : String → String → Bool) (settings : Settings) (request : ApiRequest)
    (s : ApiState) : ProviderViewRespects migrated text_le settings request s :=
  provider_view_iff.2 fun _ _ _ read _ _ _ => by
    cases read with
    | clients => exact fun hc => nomatch hc
    | client_detail client_tenant_id => exact fun hc => nomatch hc

end Respects

end JLMirror.Access
