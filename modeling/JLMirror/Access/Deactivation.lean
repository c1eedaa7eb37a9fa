import JLMirror.Access.ReadOnly
import JLMirror.Access.TenantAdmin

/-!
# Deactivation

A principal is deactivated, a credential is revoked or expires, a tenant is suspended. Three kinds of credentials are
looked up by three queries in two services: a session by the shell and again by the API, a key and the token of a
display by the API. Some endpoints of the shell work on the tables themselves.

## The model

* An `Arrival` is a request on one of the ways in: of a client with a key or a token, of a browser whose request the
  shell forwards with its signature, and of a browser to an endpoint of the shell itself.
* `Arrival.Shut` says that no handler of tenant data runs unless credential, principal and tenant are all in order; a
  membership that the shell remembers counts until it expires.
* `Arrival.Checked` is what of this the code leaves unchecked, and so has to hold by itself.

## What is proved

* `presented_live`: a key or a token that is presented is not revoked and has not expired.
* **Key result** (`shut_iff`): every way in is shut exactly where the unchecked happens to be in order. Of a forwarded
  request nothing is left unchecked, outside of the sandbox.
* A key reads the alerts of a suspended tenant (`suspended_read`).

## Honest scope

The two paths without a credential of these kinds, the callback and the ingest, are left out, and so are the routes
outside of `/api/v1/`. A signed context is taken to come from the shell, for the request that it was signed for. What a
handler checks after its guard is not asked.
-/

namespace JLMirror.Access

/-! ### Handlers -/

/-- The handlers that read and change nothing of a tenant: what is in the process's memory, in the environment, in a
catalog, at the identity provider or at a provider, and the tables of organizations and their contracts. -/
def NO_TENANT_DATA : List String :=
  ["whoami", "issue_session", "retire_session", "bootstrap_fence", "acquire_fence", "current_fence", "billing_status",
    "plan_source", "derive_health_endpoint", "discover_groups", "outbox_append", "outbox_claim_next",
    "outbox_mark_published", "outbox_pending", "list_profiles", "get_profile", "slo_snapshot", "classify_outcome",
    "list_outcomes", "list_organizations", "create_organization", "list_relationships", "create_relationship",
    "list_commercial_accounts", "create_commercial_account", "list_contracts", "create_contract", "list_entitlements",
    "create_entitlement", "search_users", "disable_user", "enable_user", "reset_user_password"]

/-- The handler reads or changes data of tenants. -/
def Route.tenantData (r : Route) : Bool := !NO_TENANT_DATA.contains r.handler

/-- The guard lets a request in that has no context. -/
def Guard.admitsNobody (settings : Settings) (request : ApiRequest) (params : List String) : Guard → Bool
  | .everyone => true
  | .authoritative => settings.is_development && (truthy request.tenant_id).isSome
  | .path_tenant => settings.is_development && (truthy ((truthy request.tenant_id).or params.head?)).isSome
  | .development => settings.is_development
  | _ => false

/-- The sandbox is open at the path. -/
def sandbox (settings : Settings) (path : Path) : Bool :=
  settings.is_development && settings.dev_auth_bypass && sandbox_prefixes.any fun start => startswith start path

section Clients

variable (settings : Settings) (request : ApiRequest) (s : ApiState)

/-- The request goes through the sandbox to the handler of the route. -/
def RunsAnonymously (r : Route) : Prop :=
  verify_context settings request s = .unprotected ∧ exempt request.path = false ∧
    ∃ params, dispatch request.method request.path = some (r, params) ∧
      r.guard.admitsNobody settings request params = true

/-! ### Credentials, principals and tenants -/

/-- The principal is active. -/
def PrincipalActive (principal_id : String) (db : AccessDb) : Prop :=
  ∃ p ∈ db.principals, p.principal_id = principal_id ∧ p.active = true

/-- The request carries the key. -/
def ApiKey.IsOf (k : ApiKey) : Prop :=
  "Bearer jlm_".toList.isPrefixOf (request.authorization.getD "").toList = true ∧
    k.key_digest = settings.sha256 (String.ofList ((request.authorization.getD "").toList.drop "Bearer ".length))

/-- The request carries the token. -/
def DisplayToken.IsOf (t : DisplayToken) : Prop :=
  request.display_token.getD "" ≠ "" ∧ t.token_digest = settings.sha256 (request.display_token.getD "")

/-- The request carries a key or a token that there is, or was. -/
def Carries : Prop := (∃ k ∈ s.api_keys, k.IsOf settings request) ∨ ∃ t ∈ s.display_tokens, t.IsOf settings request

/-- The key or the token of the context is carried by the request, is not revoked and has not expired. -/
def CredentialLive (ctx : ApiContext) : Prop :=
  (∃ k ∈ s.api_keys, k.IsOf settings request ∧ k.active = true ∧ unexpired s.now k.expires_at = true ∧
      k.principal_id = ctx.principal_id ∧ some k.tenant_id = ctx.tenant_id) ∨
    ∃ t ∈ s.display_tokens, t.IsOf settings request ∧ t.retired = false ∧ unexpired s.now t.expires_at = true ∧
      t.principal_id = ctx.principal_id ∧ some t.tenant_id = ctx.tenant_id

/-- A client with a key or a token runs no handler of tenant data, unless the credential is live and principal and
tenant are active. In the sandbox it runs none with a credential that did not count. -/
def ClientShut : Prop :=
  (∀ ctx r, Reaches settings request s ctx r → ctx.readOnly = true → r.tenantData = true →
    CredentialLive settings request s ctx ∧ PrincipalActive ctx.principal_id s.db ∧
      ∀ tenant, ctx.tenant = some tenant → TenantActive tenant s.db) ∧
  ∀ r, RunsAnonymously settings request s r → r.tenantData = true → ¬Carries settings request s

/-- The gate refuses the context for its scopes, its sources or its permissions. -/
def GateRefuses (ctx : ApiContext) : Prop :=
  ∃ required, required_permission request.path request.method = some required ∧ ∃ tenant, ctx.tenant = some tenant ∧
    (ctx.credential.covers required = false ∨ sourceReached ctx tenant request.path s = false ∨
      permits (effective_permissions s.now ctx.principal_id tenant s.db) required = false)

/-- Nobody asks whether the tenant is active; whether the principal of a key is, the gate asks where a permission is
declared for the path. The sandbox does not ask for what is carried. -/
def ClientChecked : Prop :=
  exempt request.path = true ∨
  (∀ ctx, presented settings request s = some (some ctx) → ctx.readOnly = true → ∀ r params,
    dispatch request.method request.path = some (r, params) → r.tenantData = true →
      r.guard.admits settings request s ctx params = true →
        (PrincipalActive ctx.principal_id s.db ∨
          required_permission request.path request.method ≠ none ∧ ctx.tenant ≠ none) ∧
        ∀ tenant, ctx.tenant = some tenant → TenantActive tenant s.db ∨ GateRefuses request s ctx) ∧
  (sandbox settings request.path = true → presented settings request s = some none → Carries settings request s →
    ∀ r params, dispatch request.method request.path = some (r, params) → r.tenantData = true →
      r.guard.admitsNobody settings request params = false)

variable {settings} {request} {s}

variable {principal_id : String}

theorem activeKind_isSome_iff {db : AccessDb} :
    (activeKind principal_id db).isSome = true ↔ PrincipalActive principal_id db := by
  simp [activeKind, PrincipalActive, List.find?_isSome]

theorem permits_of_inactive {now : ℕ} {tenant_id required : String} {db : AccessDb}
    (h : ¬PrincipalActive principal_id db) :
    permits (effective_permissions now principal_id tenant_id db) required = false := by
  have hkind : activeKind principal_id db = none := by
    rw [← Option.not_isSome_iff_eq_none, activeKind_isSome_iff]
    exact h
  simp [effective_permissions, hkind, permits]

theorem gateRefuses_iff {ctx : ApiContext} : GateRefuses request s ctx ↔ permission_gate ctx request s ≠ .next ctx := by
  rw [ne_eq, permission_gate_next]
  simp only [true_and, Classical.not_forall, GateRefuses, not_and_or, Bool.not_eq_true, exists_prop]

/-- **Key result.** A key or a token that is presented is not revoked and has not expired; the principal of a token is
active. -/
theorem presented_live {ctx : ApiContext} (h : presented settings request s = some (some ctx))
    (hread : ctx.readOnly = true) :
    CredentialLive settings request s ctx ∧ (ctx.credential = .display → PrincipalActive ctx.principal_id s.db) := by
  unfold presented at h
  split at h
  · obtain rfl := Option.some.inj (Option.some.inj h)
    simp [ApiContext.readOnly] at hread
  · split at h
    · simp at h
    · rename_i hkey
      obtain rfl := Option.some.inj (Option.some.inj h)
      unfold api_key_context at hkey
      dsimp only at hkey
      split_ifs at hkey with hbearer hrate
      split at hkey
      · simp at hkey
      · rename_i k hfind
        obtain rfl := KeyContext.found.inj hkey
        obtain ⟨hdigest, hactive, htime⟩ := by simpa using List.find?_some hfind
        exact ⟨Or.inl ⟨k, List.mem_of_find?_eq_some hfind, ⟨hbearer, hdigest⟩, hactive, htime, rfl, rfl⟩, by simp⟩
    · unfold display_token_context at h
      dsimp only at h
      split_ifs at h with htoken
      · simp at h
      · obtain ⟨t, hfind, rfl⟩ := Option.map_eq_some_iff.1 (Option.some.inj h)
        obtain ⟨hdigest, hretired, htime, p, hp, hid, hactive⟩ := by simpa using List.find?_some hfind
        refine ⟨Or.inr ⟨t, List.mem_of_find?_eq_some hfind, ⟨htoken, hdigest⟩, hretired, htime, rfl, rfl⟩, fun _ => ?_⟩
        exact ⟨p, hp, hid, hactive⟩

/-- A request without a context goes through where the sandbox is open. -/
theorem runsAnonymously_iff {r : Route} : RunsAnonymously settings request s r ↔
    exempt request.path = false ∧ sandbox settings request.path = true ∧ presented settings request s = some none ∧
      ∃ params, dispatch request.method request.path = some (r, params) ∧
        r.guard.admitsNobody settings request params = true := by
  have hopen : ∀ params, dispatch request.method request.path = some (r, params) → exempt request.path = false →
      (verify_context settings request s = .unprotected ↔
        sandbox settings request.path = true ∧ presented settings request s = some none) := by
    intro params hd he
    have hv := dispatch_startswith hd
    rw [verify_context, if_neg (by simp [hv]), if_neg (by simp [he])]
    match hp : presented settings request s with
    | none => simp
    | some none =>
      dsimp only
      rw [sandbox]
      split_ifs with hs <;> simp [hs]
    | some (some ctx) =>
      dsimp only
      split_ifs
      · simp
      · unfold permission_gate
        split
        · split_ifs <;> simp
        · simp
  constructor
  · rintro ⟨hv, he, params, hd, hg⟩
    obtain ⟨hs, hp⟩ := (hopen params hd he).1 hv
    exact ⟨he, hs, hp, params, hd, hg⟩
  · rintro ⟨he, hs, hp, params, hd, hg⟩
    exact ⟨(hopen params hd he).2 ⟨hs, hp⟩, he, params, hd, hg⟩

/-- A client with a key or a token is shut out, if and only if what the code leaves unchecked is in order. -/
theorem clientShut_iff : ClientShut settings request s ↔ ClientChecked settings request s := by
  unfold ClientShut ClientChecked
  constructor
  · rintro ⟨hreach, hnobody⟩
    by_cases he : exempt request.path = true
    · exact Or.inl he
    have he : exempt request.path = false := by simpa using he
    refine Or.inr ⟨fun ctx hp hread r params hd hdata hopen => ?_, fun hs hp hcarries r params hd hdata => ?_⟩
    · have hcur : ctx.credential = .session → session_current s.now s.sessions s.db ctx.toContext = true :=
        fun hses => by simp [ApiContext.readOnly, hses] at hread
      have hin : permission_gate ctx request s = .next ctx → PrincipalActive ctx.principal_id s.db ∧
          ∀ tenant, ctx.tenant = some tenant → TenantActive tenant s.db := fun hgate =>
        (hreach ctx r ⟨verify_context_next.2 ⟨dispatch_startswith hd, he, hp, hcur, hgate⟩, params, hd, hopen⟩
          hread hdata).2
      constructor
      · by_contra hnot
        simp only [not_or, not_and_or, not_not] at hnot
        -- No permission is asked for, so the gate lets the request through.
        refine hnot.1 (hin (permission_gate_next.2 ⟨rfl, fun required hr tenant ht => ?_⟩)).1
        rcases hnot.2 with h | h
        · rw [h] at hr
          cases hr
        · rw [h] at ht
          cases ht
      · intro tenant ht
        by_cases hgate : permission_gate ctx request s = .next ctx
        · exact Or.inl ((hin hgate).2 tenant ht)
        · exact Or.inr (gateRefuses_iff.2 hgate)
    · by_contra hopen
      exact hnobody r (runsAnonymously_iff.2 ⟨he, hs, hp, params, hd, by simpa using hopen⟩) hdata hcarries
  · intro h
    constructor
    · rintro ctx r ⟨hv, params, hd, hopen⟩ hread hdata
      obtain ⟨-, he, hp, -, hgate⟩ := verify_context_next.1 hv
      obtain ⟨hprincipal, htenant⟩ := (h.resolve_left (by simp [he])).1 ctx hp hread r params hd hdata hopen
      refine ⟨(presented_live hp hread).1, ?_, fun tenant ht => ?_⟩
      · by_contra hinactive
        obtain ⟨hdeclared, hbound⟩ := hprincipal.resolve_left hinactive
        obtain ⟨required, hr⟩ := Option.ne_none_iff_exists'.1 hdeclared
        obtain ⟨tenant, ht⟩ := Option.ne_none_iff_exists'.1 hbound
        obtain ⟨-, -, hperm⟩ := (permission_gate_next.1 hgate).2 required hr tenant ht
        rw [permits_of_inactive hinactive] at hperm
        cases hperm
      · exact (htenant tenant ht).resolve_right fun hrefuses => gateRefuses_iff.1 hrefuses hgate
    · intro r hr hdata hcarries
      obtain ⟨he, hs, hp, params, hd, hopen⟩ := runsAnonymously_iff.1 hr
      rw [(h.resolve_left (by simp [he])).2 hs hp hcarries r params hd hdata] at hopen
      cases hopen

end Clients

/-! ### The shell and the API together -/

/-- The API, and what only the shell has. -/
structure Deployment where
  api : ApiState
  cache : MembershipCache
  /-- `time.monotonic()` of the shell. -/
  monotonic : ℕ

/-- The shell works on the tables of the API. -/
def Deployment.bff (s : Deployment) : Bff := ⟨s.api.db, s.api.sessions, s.cache, s.api.now, s.monotonic⟩

/-- The shell remembers a membership of the principal. -/
def Remembered (principal_id tenant_id : String) (s : Deployment) : Prop :=
  ∃ role, liveAnswer s.monotonic (principal_id, tenant_id) s.cache = some (some role)

/-- The session is not retired and has not expired. -/
def SessionLive (session : BrowserSession) (s : Deployment) : Prop :=
  session.retired = false ∧ s.api.now < session.expires_at

/-- What the shell sends for a session, beside the signed context. -/
structure Sent where
  method : HttpMethod
  /-- The path that the client of the shell makes of the request's. -/
  path : Path
  tenant_id : Option String
  ts : ℕ
  correlation_id : String

/-- The request that arrives at the API: no other header goes with it. -/
def sentRequest (settings : Settings) (session : BrowserSession) (sent : Sent) : ApiRequest where
  method := sent.method
  path := sent.path
  context := signedHeaders settings.hmac settings.secret (signedFields session sent.ts sent.correlation_id)
  authorization := none
  display_token := none
  traceparent := none
  x_correlation_id := none
  tenant_id := sent.tenant_id

/-- The endpoints of the shell that read or change data of tenants. -/
inductive ShellEndpoint where
  | api_session
  | api_tenant_select (tenant_id : String)
  | recheck_monitoring_source
  /-- The endpoints of `_require_admin`; those that change something ask for the CSRF token. -/
  | administration (changes : Bool)
  deriving DecidableEq

section Shell

variable (settings : Settings) (request : BffRequest) (s : Deployment)

/-- Where the endpoint gets to the data for the session, the tenant that it acts in, if it is in one: the session's
view shows its tenants; the selection by a grant or the capability is recorded in the tenant; the recheck and the
administration act in the tenant that is bound. -/
def ShellEndpoint.acts (session : BrowserSession) : ShellEndpoint → Option (Option String)
  | .api_session =>
    let memberships := accessible_tenants s.api.now session.principal_id s.api.db
    if memberships = [] then none
    else
      match session.bound_tenant_id.filter (· ≠ "") with
      | none => some none
      | some bound => if memberships.any fun m => m.tenant_id = bound then some (some bound) else none
  | .api_tenant_select tenant_id =>
    if csrf_ok settings.sha256 request session ∧ check_membership session.principal_id tenant_id s.api.db = none ∧
        tenant_authorized s.api.now session.principal_id tenant_id s.api.db then some (some tenant_id)
    else none
  | .recheck_monitoring_source =>
    if csrf_ok settings.sha256 request session then
      match session.bound_tenant_id.filter (· ≠ "") with
      | none => none
      | some tenant =>
        if (check_membership_cached session.principal_id tenant s.bff).1.isSome then some (some tenant) else none
    else none
  | .administration changes =>
    match require_admin (some ⟨session.principal_id, session.bound_tenant_id⟩) s.api.db with
    | .error _ => none
    | .ok tenant =>
      if changes = true ∧ csrf_ok settings.sha256 request session = false then none else some (some tenant)

/-- The tenant is active, or the shell remembers the membership, where the endpoint asks what it remembers. -/
def ShellEndpoint.InTenant (session : BrowserSession) (tenant : String) (endpoint : ShellEndpoint) : Prop :=
  TenantActive tenant s.api.db ∨
    endpoint = .recheck_monitoring_source ∧ Remembered session.principal_id tenant s

/-- An endpoint of the shell acts for no session, unless it is live and principal and tenant are active. -/
def ShellShut (endpoint : ShellEndpoint) : Prop :=
  ∀ session, resolve_session settings.sha256 request s.bff = some session →
    ∀ tenant, endpoint.acts settings request s session = some tenant →
      SessionLive session s ∧ PrincipalActive session.principal_id s.api.db ∧
        ∀ t, tenant = some t → endpoint.InTenant s session t

/-- Nobody asks whether the principal is active, nor, where a tenant is selected by a grant or the capability, whether
the tenant is. -/
def ShellChecked (endpoint : ShellEndpoint) : Prop :=
  ∀ session, resolve_session settings.sha256 request s.bff = some session →
    ∀ tenant, endpoint.acts settings request s session = some tenant →
      PrincipalActive session.principal_id s.api.db ∧
        ∀ tenant_id, endpoint = .api_tenant_select tenant_id → TenantActive tenant_id s.api.db

/-- A forwarded request runs no handler of tenant data, unless the session is live, the principal active, and the
tenant active or remembered. -/
def BrowserShut (sent : Sent) : Prop :=
  ∀ session, resolve_session settings.sha256 request s.bff = some session →
    (proxy_to_api settings.sha256 request s.bff).1.isForwarded = true →
      ∀ r, ((∃ ctx, Reaches settings (sentRequest settings session sent) s.api ctx r) ∨
          RunsAnonymously settings (sentRequest settings session sent) s.api r) → r.tenantData = true →
        SessionLive session s ∧ PrincipalActive session.principal_id s.api.db ∧
          ∀ tenant, session.bound_tenant_id = some tenant → tenant ≠ "" →
            TenantActive tenant s.api.db ∨ Remembered session.principal_id tenant s

/-- Only the sandbox, which takes a request whose signature does not count, does not ask whether the principal is
active. -/
def BrowserChecked (sent : Sent) : Prop :=
  exempt sent.path = true ∨ sandbox settings sent.path = false ∨
  ∀ session, resolve_session settings.sha256 request s.bff = some session →
    (proxy_to_api settings.sha256 request s.bff).1.isForwarded = true →
      verify_bff_context settings.hmac settings.secret s.api.micros (sentRequest settings session sent).context = none →
        PrincipalActive session.principal_id s.api.db ∨
          ∀ r params, dispatch sent.method sent.path = some (r, params) → r.tenantData = true →
            r.guard.admitsNobody settings (sentRequest settings session sent) params = false

variable {settings} {request} {s}

variable {session : BrowserSession}

theorem resolve_session_live (h : resolve_session settings.sha256 request s.bff = some session) :
    SessionLive session s := by
  unfold resolve_session at h
  split at h
  · cases h
  · obtain ⟨-, hlive⟩ := Option.filter_eq_some_iff.1 h
    simp only [Bool.and_eq_true, Bool.not_eq_true', decide_eq_true_eq] at hlive
    exact hlive

variable {tenant : String}

/-- A membership that passes the recheck is remembered, or in an active tenant. -/
theorem passesRecheck_tenant {principal_id : String} (h : PassesRecheck principal_id tenant s.bff) :
    TenantActive tenant s.api.db ∨ Remembered principal_id tenant s := by
  unfold PassesRecheck at h
  split at h
  · rename_i result hlive
    obtain ⟨role, rfl⟩ := Option.isSome_iff_exists.1 h
    exact Or.inr ⟨role, hlive⟩
  · exact Or.inl h.2

/-- The administrator's membership is in an active tenant. -/
theorem require_admin_tenant {session : Session} {db : AccessDb} (h : require_admin (some session) db = .ok tenant) :
    TenantActive tenant db := by
  unfold require_admin at h
  dsimp only at h
  split at h
  · cases h
  · split at h
    · cases h
    · rename_i role hrole
      split_ifs at h
      obtain rfl := Except.ok.inj h
      exact (check_membership_iff.1 (by rw [hrole]; rfl)).2

variable {endpoint : ShellEndpoint}

/-- The endpoints ask whether the tenant is active, but for the selection. -/
theorem acts_inTenant (h : endpoint.acts settings request s session = some (some tenant)) :
    endpoint.InTenant s session tenant ∨ endpoint = .api_tenant_select tenant := by
  cases endpoint with
  | api_session =>
    simp only [ShellEndpoint.acts] at h
    split_ifs at h
    split at h
    · cases h
    · split_ifs at h with hany
      obtain rfl := Option.some.inj (Option.some.inj h)
      obtain ⟨e, he, hid⟩ := List.any_eq_true.1 hany
      exact Or.inl (Or.inl (accessible_iff.1 ⟨e, he, of_decide_eq_true hid⟩).1)
  | api_tenant_select tenant_id =>
    simp only [ShellEndpoint.acts] at h
    split_ifs at h
    obtain rfl := Option.some.inj (Option.some.inj h)
    exact Or.inr rfl
  | recheck_monitoring_source =>
    simp only [ShellEndpoint.acts] at h
    split_ifs at h
    split at h
    · cases h
    · split_ifs at h with hpass
      obtain rfl := Option.some.inj (Option.some.inj h)
      rcases passesRecheck_tenant (check_membership_cached_isSome.1 hpass) with hactive | hremembered
      · exact Or.inl (Or.inl hactive)
      · exact Or.inl (Or.inr ⟨rfl, hremembered⟩)
  | administration changes =>
    simp only [ShellEndpoint.acts] at h
    split at h
    · cases h
    · rename_i hadmin
      split_ifs at h
      obtain rfl := Option.some.inj (Option.some.inj h)
      exact Or.inl (Or.inl (require_admin_tenant hadmin))

/-- An endpoint of the shell is shut, if and only if what it leaves unchecked is in order. -/
theorem shellShut_iff : ShellShut settings request s endpoint ↔ ShellChecked settings request s endpoint := by
  constructor
  · intro h session hsession tenant hacts
    obtain ⟨-, hprincipal, htenant⟩ := h session hsession tenant hacts
    refine ⟨hprincipal, ?_⟩
    rintro tenant_id rfl
    obtain rfl : tenant = some tenant_id := by
      simp only [ShellEndpoint.acts] at hacts
      split_ifs at hacts
      exact (Option.some.inj hacts).symm
    rcases htenant tenant_id rfl with hactive | ⟨hother, -⟩
    · exact hactive
    · cases hother
  · intro h session hsession tenant hacts
    obtain ⟨hprincipal, hselect⟩ := h session hsession tenant hacts
    refine ⟨resolve_session_live hsession, hprincipal, ?_⟩
    rintro t rfl
    rcases acts_inTenant hacts with hin | rfl
    · exact hin
    · exact Or.inl (hselect t rfl)

variable {sent : Sent}

/-- What is sent presents the signed context, or nothing. -/
theorem presented_sent {a : ApiState} :
    presented settings (sentRequest settings session sent) a =
      some ((verify_bff_context settings.hmac settings.secret a.micros (sentRequest settings session sent).context).map
        fun ctx => { toContext := ctx, credential := .session }) := by
  unfold presented
  cases verify_bff_context settings.hmac settings.secret a.micros (sentRequest settings session sent).context with
  | some ctx => rfl
  | none =>
    have hkey : api_key_context settings (sentRequest settings session sent) a = .absent := by
      unfold api_key_context
      rw [if_neg (by simp [sentRequest])]
    have htoken : display_token_context settings (sentRequest settings session sent) a = none := rfl
    simp only [hkey, htoken, Option.map_none]

/-- A context that goes on to the routes is of the session, whose principal is active. -/
theorem reaches_sent {ctx : ApiContext} {r : Route}
    (h : Reaches settings (sentRequest settings session sent) s.api ctx r) :
    PrincipalActive session.principal_id s.api.db := by
  obtain ⟨-, -, hp, hcur, -⟩ := verify_context_next.1 h.1
  rw [presented_sent, Option.some.injEq, Option.map_eq_some_iff] at hp
  obtain ⟨c, hverify, rfl⟩ := hp
  obtain ⟨rfl, -, -⟩ := verify_bff_context_eq_some hverify
  obtain ⟨row, -, hrow⟩ := List.any_eq_true.1 (hcur rfl)
  obtain ⟨-, -, hprincipal, -, -, hactive⟩ := of_decide_eq_true hrow
  obtain ⟨p, hp, hpa⟩ := List.any_eq_true.1 hactive
  obtain ⟨hid, hpactive⟩ := of_decide_eq_true hpa
  exact ⟨p, hp, hid.trans hprincipal, hpactive⟩

/-- A request that is forwarded has passed the check of the membership, where the session is bound. -/
theorem forwarded_passes (hsession : resolve_session settings.sha256 request s.bff = some session)
    (h : (proxy_to_api settings.sha256 request s.bff).1.isForwarded = true)
    (hbound : session.bound_tenant_id = some tenant) (hne : tenant ≠ "") :
    PassesRecheck session.principal_id tenant s.bff := by
  have hpath : request.path ≠ "alerting/notifications/callback" := fun hpath => by
    simp [proxy_to_api, hpath, BffAnswer.isForwarded] at h
  have hcsrf : request.method = "GET" ∨ csrf_ok settings.sha256 request session = true := by
    by_contra hnot
    simp only [not_or, Bool.not_eq_true] at hnot
    simp [proxy_to_api, hpath, hsession, hnot, BffAnswer.isForwarded] at h
  exact ((forwarded_iff ⟨hsession, hcsrf, hpath⟩ hbound).1 h).resolve_left hne

/-- A forwarded request is shut out, if and only if it is no anonymous request of the sandbox for a principal that is
not active. -/
theorem browserShut_iff : BrowserShut settings request s sent ↔ BrowserChecked settings request s sent := by
  have hnobody : ∀ session r, RunsAnonymously settings (sentRequest settings session sent) s.api r ↔
      exempt sent.path = false ∧ sandbox settings sent.path = true ∧
        verify_bff_context settings.hmac settings.secret s.api.micros
          (sentRequest settings session sent).context = none ∧
        ∃ params, dispatch sent.method sent.path = some (r, params) ∧
          r.guard.admitsNobody settings (sentRequest settings session sent) params = true := fun session r => by
    rw [runsAnonymously_iff, presented_sent, Option.some.injEq, Option.map_eq_none_iff]
    rfl
  constructor
  · intro h
    by_cases he : exempt sent.path = true
    · exact Or.inl he
    by_cases hs : sandbox settings sent.path = true
    · refine Or.inr (Or.inr fun session hsession hforward hverify => ?_)
      by_cases hprincipal : PrincipalActive session.principal_id s.api.db
      · exact Or.inl hprincipal
      refine Or.inr fun r params hd hdata => ?_
      by_contra hopen
      refine hprincipal (h session hsession hforward r (Or.inr ((hnobody session r).2 ?_)) hdata).2.1
      exact ⟨by simpa using he, hs, hverify, params, hd, by simpa using hopen⟩
    · exact Or.inr (Or.inl (by simpa using hs))
  · intro h session hsession hforward r hruns hdata
    refine ⟨resolve_session_live hsession, ?_, fun tenant hbound hne =>
      passesRecheck_tenant (forwarded_passes hsession hforward hbound hne)⟩
    rcases hruns with ⟨ctx, hreach⟩ | hanon
    · exact reaches_sent hreach
    · obtain ⟨he, hs, hverify, params, hd, hopen⟩ := (hnobody session r).1 hanon
      rcases h with hexempt | hclosed | hall
      · rw [he] at hexempt
        cases hexempt
      · rw [hs] at hclosed
        cases hclosed
      · rcases hall session hsession hforward hverify with hprincipal | hrefuses
        · exact hprincipal
        · rw [hrefuses r params hd hdata] at hopen
          cases hopen

end Shell

/-! ### Every way in -/

/-- A request, on its way in. -/
inductive Arrival where
  /-- Of a client, to the API. -/
  | client (request : ApiRequest)
  /-- Of a browser, to the shell, which forwards it. -/
  | browser (request : BffRequest) (sent : Sent)
  /-- Of a browser, to an endpoint of the shell. -/
  | shell (request : BffRequest) (endpoint : ShellEndpoint)

/-- No handler of tenant data runs, unless credential, principal and tenant are in order. -/
def Arrival.Shut (settings : Settings) (s : Deployment) : Arrival → Prop
  | .client request => ClientShut settings request s.api
  | .browser request sent => BrowserShut settings request s sent
  | .shell request endpoint => ShellShut settings request s endpoint

/-- What the code leaves unchecked is in order. -/
def Arrival.Checked (settings : Settings) (s : Deployment) : Arrival → Prop
  | .client request => ClientChecked settings request s.api
  | .browser request sent => BrowserChecked settings request s sent
  | .shell request endpoint => ShellChecked settings request s endpoint

/-- **Key result.** A way in is shut for what is deactivated, if and only if what the code leaves unchecked is in
order. -/
theorem shut_iff (settings : Settings) (s : Deployment) (arrival : Arrival) :
    arrival.Shut settings s ↔ arrival.Checked settings s := by
  cases arrival with
  | client request => exact clientShut_iff
  | browser request sent => exact browserShut_iff
  | shell request endpoint => exact shellShut_iff

/-- The key of `keyedState`, whose tenant is suspended. -/
def suspendedState : ApiState :=
  { keyedState with db := { viewerDb with tenants := [⟨"t", "T", false⟩] } }

/-- **Key result.** With a key the alerts of a suspended tenant are read. -/
theorem suspended_read :
    ¬(Arrival.client (withKey .GET ["api", "v1", "alerting", "alerts"])).Shut deployed ⟨suspendedState, ∅, 0⟩ := by
  intro h
  have hreach : Reaches deployed (withKey .GET ["api", "v1", "alerting", "alerts"]) suspendedState keyContext
      ⟨.GET, ["api", "v1", "alerting", "alerts"], "list_alerts", .authoritative, []⟩ :=
    ⟨by rfl, [], by rfl, by decide⟩
  exact absurd ((h.1 _ _ hreach (by decide) (by decide)).2.2 "t" (by decide)) (by decide)

end JLMirror.Access
