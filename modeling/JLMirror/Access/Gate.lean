import JLMirror.Access.SignedContext

/-!
# The permission gate

`verify_context` of `api/main.py`, the middleware in front of every route of the API. It finds whom a
request is from (the context that the shell has signed, an API key, a display token), and lets it through
to the routes if the effective permissions have the one that a table of prefixes requires of the path.

## The model

* A path is the list of its segments, so that `/api/v1/monitoring/sources` is
  `["api", "v1", "monitoring", "sources"]`, and a path under a prefix has one segment more than it.
* The digests and the secret are parameters of the deployment.
* A key of the API carries that its scopes are among `_VALID_SCOPES`, as `create_api_key` checks.

## What is proved

* **Key result** (`permission_gate_next`, `verify_context_next`): what a request with a context has passed.
* **Key result** (`scope_ok_of_write`): no scope that a key can have covers what a method that is no read requires.

## Honest scope

The failures of the database are left out: those of the rate limiter let a key pass, those of the lookups
refuse. So is the write of `last_used_at`.
-/

namespace JLMirror.Access

/-! ### Requests -/

/-- The method of a request. -/
inductive HttpMethod where
  | GET
  | HEAD
  | OPTIONS
  | POST
  | PUT
  | PATCH
  | DELETE
  | other (name : String)
  deriving DecidableEq

/-- `method in ("GET", "HEAD", "OPTIONS")`. -/
def HttpMethod.isRead : HttpMethod → Bool
  | .GET => true
  | .HEAD => true
  | .OPTIONS => true
  | _ => false

/-- The segments of a path, between its slashes. -/
abbrev Path := List String

/-- What the API reads of a request. -/
structure ApiRequest where
  method : HttpMethod
  path : Path
  context : ContextHeaders
  /-- `Authorization`. -/
  authorization : Option String
  /-- `X-Display-Token`. -/
  display_token : Option String
  traceparent : Option String
  x_correlation_id : Option String
  /-- The tenant that the query or the body names. -/
  tenant_id : Option String
  deriving DecidableEq

/-- `path.startswith(prefix + "/")`. -/
def startswith (start path : Path) : Bool := start.isPrefixOf path && start.length < path.length

/-! ### Keys and tokens -/

/-- `_VALID_SCOPES` of `api/routers/api_keys.py`. -/
def VALID_SCOPES : List String := ["read", "monitoring:read", "alerting:read"]

/-- `g1.api_keys`. -/
structure ApiKey where
  key_id : String
  tenant_id : String
  principal_id : String
  key_digest : String
  label : String
  scopes : List String
  /-- `state = 'active'`, else it is revoked. -/
  active : Bool
  expires_at : Option ℕ
  /-- The scopes are those that a key can have. -/
  valid : ∀ scope ∈ scopes, scope ∈ VALID_SCOPES

/-- `g1.display_tokens`. -/
structure DisplayToken where
  token_digest : String
  principal_id : String
  tenant_id : String
  expires_at : Option ℕ
  retired : Bool
  deriving DecidableEq

/-- `create_api_key` and `g27_create_api_key`, for whom `_require_admin` has admitted. -/
def create_api_key (tenant_id principal_id key_id digest label : String) (scopes : List String) : Except ℕ ApiKey :=
  if valid : ∀ scope ∈ scopes, scope ∈ VALID_SCOPES then
    if strip label.toList = [] then .error 422
    else if scopes = [] then .error 500
    else .ok
      { key_id, tenant_id, principal_id, key_digest := digest, label := String.ofList (strip label.toList), scopes,
        active := true, expires_at := none, valid }
  else .error 422

/-- What is set up with the API. -/
structure Settings where
  is_development : Bool
  dev_auth_bypass : Bool
  /-- `bff_internal_secret`. -/
  secret : String
  hmac : String → String → String
  sha256 : String → String

/-- The clocks and the tables that the gate reads. -/
structure ApiState where
  /-- `time.time()`, in microseconds. -/
  micros : ℤ
  /-- `now()`. -/
  now : ℕ
  db : AccessDb
  sessions : List BrowserSession
  api_keys : List ApiKey
  display_tokens : List DisplayToken
  /-- `req_count` of a key in the current minute. -/
  req_count : String → ℕ
  /-- The correlation id that would be drawn. -/
  fresh_id : String

/-- How the request has been authenticated. -/
inductive Credential where
  | session
  | api_key (scopes : List String)
  | display
  deriving DecidableEq

/-- `request.state.jlmirror_context`. -/
structure ApiContext extends Context where
  credential : Credential
  deriving DecidableEq

/-- The credentials for reading only. -/
def ApiContext.readOnly (ctx : ApiContext) : Bool := ctx.credential ≠ .session

/-- The tenant, where there is one: `if ctx.get("tenant_id")`. -/
def ApiContext.tenant (ctx : ApiContext) : Option String := ctx.tenant_id.filter fun t => t ≠ ""

/-! ### The gate -/

/-- `_RATE_LIMIT_RPM`. -/
def RATE_LIMIT_RPM : ℕ := 60

/-- `_rate_ok`. -/
def rate_ok (digest : String) (s : ApiState) : Bool := s.req_count digest + 1 ≤ RATE_LIMIT_RPM

/-- What `_api_key_context` finds. -/
inductive KeyContext where
  | absent
  | rate_limited
  | found (ctx : ApiContext)

section Gate

variable (settings : Settings)

/-- The time of a key or a token has not passed. -/
def unexpired (now : ℕ) (expires_at : Option ℕ) : Bool := expires_at.all fun t => now < t

/-- `_api_key_context`. -/
def api_key_context (request : ApiRequest) (s : ApiState) : KeyContext :=
  let auth := (request.authorization.getD "").toList
  if "Bearer jlm_".toList.isPrefixOf auth then
    let digest := settings.sha256 (String.ofList (auth.drop "Bearer ".length))
    if rate_ok digest s then
      match s.api_keys.find? fun k => k.key_digest = digest ∧ k.active ∧ unexpired s.now k.expires_at with
      | none => .absent
      | some k => .found
        { principal_id := k.principal_id
          tenant_id := some k.tenant_id
          session_digest := "apikey:" ++ k.key_id
          session_generation := "apikey"
          correlation_id := some (extract_correlation_id request.traceparent request.x_correlation_id s.fresh_id)
          credential := .api_key k.scopes }
    else .rate_limited
  else .absent

/-- `_display_token_context`. -/
def display_token_context (request : ApiRequest) (s : ApiState) : Option ApiContext :=
  let token := request.display_token.getD ""
  if token = "" then none
  else
    (s.display_tokens.find? fun t => t.token_digest = settings.sha256 token ∧ t.retired = false ∧
        unexpired s.now t.expires_at ∧ s.db.principals.any fun p => p.principal_id = t.principal_id ∧ p.active).map
      fun t =>
        { principal_id := t.principal_id
          tenant_id := some t.tenant_id
          session_digest := ""
          session_generation := ""
          correlation_id := some (extract_correlation_id request.traceparent request.x_correlation_id s.fresh_id)
          credential := .display }

/-- `_DOMAIN_PREFIXES`. -/
def DOMAIN_PREFIXES : List (Path × String) :=
  [(["api", "v1", "monitoring"], "monitoring"), (["api", "v1", "alerting"], "alerting"),
    (["api", "v1", "observability"], "observability")]

/-- `_required_permission`. -/
def required_permission (path : Path) (method : HttpMethod) : Option String :=
  match DOMAIN_PREFIXES.find? fun entry => startswith entry.1 path with
  | some (_, domain) => some (if method.isRead then domain ++ ":read" else domain ++ ":operate")
  | none =>
    if startswith ["api", "v1", "tenant"] path then some (if method.isRead then "tenant:read" else "tenant:admin")
    else none

/-- `_SOURCE_PATH.search(path)`: the first source that the path names. -/
def source_match : Path → Option String
  | [] => none
  | seg :: rest =>
    if ["api", "v1", "monitoring", "sources"].isPrefixOf (seg :: rest) ∧ (seg :: rest).getD 4 "" ≠ "" then
      (seg :: rest)[4]?
    else source_match rest

/-- `/api/v1/alerting/notifications/callback` and `/api/v1/sources/alertmanager/…/ingest`. -/
def exempt (path : Path) : Bool :=
  path = ["api", "v1", "alerting", "notifications", "callback"] ∨
    (startswith ["api", "v1", "sources", "alertmanager"] path ∧ path.getLast? = some "ingest")

/-- `sandbox_prefixes`. -/
def sandbox_prefixes : List Path :=
  ["auth", "fence", "monitoring", "alerting", "async", "observability", "release", "aiops", "finops"].map
    fun name => ["api", "v1", name]

/-- The scopes of a key cover the permission. -/
def scope_ok (scopes : List String) (required : String) : Bool :=
  required ∈ scopes ∨ (":read".toList.isSuffixOf required.toList ∧ "read" ∈ scopes)

/-- `required in perms`. -/
def permits (perms : Finset Permission) (required : String) : Bool := decide (∃ p ∈ perms, p.text = required)

/-- The source that the path names, if it names one, is one that the principal reaches. -/
def sourceReached (ctx : ApiContext) (tenant : String) (path : Path) (s : ApiState) : Bool :=
  (source_match path).all fun source =>
    (allowed_source_ids s.now ctx.principal_id tenant s.db).all fun allowed => source ∈ allowed

/-- The scopes of a key constrain it; the other credentials have none. -/
def Credential.covers (required : String) : Credential → Bool
  | .api_key scopes => scope_ok scopes required
  | _ => true

/-- What the gate answers. -/
inductive GateAnswer where
  /-- The request goes on without a context. -/
  | unprotected
  | refused (status : ℕ) (state : String) (reason : Option String)
  /-- The request goes on with the context. -/
  | next (ctx : ApiContext)

/-- The scope, the source and the permission, in this order. -/
def permission_gate (ctx : ApiContext) (request : ApiRequest) (s : ApiState) : GateAnswer :=
  match required_permission request.path request.method, ctx.tenant with
  | some required, some tenant =>
    if ctx.credential.covers required = false then .refused 403 "forbidden" (some "scope")
    else if sourceReached ctx tenant request.path s = false then .refused 403 "forbidden" none
    else if permits (effective_permissions s.now ctx.principal_id tenant s.db) required = false then
      .refused 403 "forbidden" none
    else .next ctx
  | _, _ => .next ctx

/-- The context that the request presents; `none` of the outer option where its key is over the limit. -/
def presented (request : ApiRequest) (s : ApiState) : Option (Option ApiContext) :=
  match verify_bff_context settings.hmac settings.secret s.micros request.context with
  | some ctx => some (some { toContext := ctx, credential := .session })
  | none =>
    match api_key_context settings request s with
    | .rate_limited => none
    | .found ctx => some (some ctx)
    | .absent => some (display_token_context settings request s)

/-- `verify_context`. -/
def verify_context (request : ApiRequest) (s : ApiState) : GateAnswer :=
  if startswith ["api", "v1"] request.path = false then .unprotected
  else if exempt request.path then .unprotected
  else
    match presented settings request s with
    | none => .refused 429 "rate_limited" none
    | some none =>
      if settings.is_development && settings.dev_auth_bypass &&
          sandbox_prefixes.any fun start => startswith start request.path then .unprotected
      else .refused 401 "unauthenticated" none
    | some (some ctx) =>
      if ctx.credential = .session ∧ session_current s.now s.sessions s.db ctx.toContext = false then
        .refused 403 "forbidden" none
      else permission_gate ctx request s

/-! ### What passes -/

variable {settings} {request : ApiRequest} {s : ApiState} {ctx ctx' : ApiContext}

/-- **Key result.** The gate lets a context through whose credential covers the permission, whose principal reaches
the source and has the permission. -/
theorem permission_gate_next : permission_gate ctx request s = .next ctx' ↔
    ctx = ctx' ∧ ∀ required, required_permission request.path request.method = some required →
      ∀ tenant, ctx.tenant = some tenant → ctx.credential.covers required = true ∧
        sourceReached ctx tenant request.path s = true ∧
          permits (effective_permissions s.now ctx.principal_id tenant s.db) required = true := by
  unfold permission_gate
  cases hr : required_permission request.path request.method with
  | none => simp
  | some required =>
    cases ht : ctx.tenant with
    | none => simp
    | some tenant =>
      dsimp only
      split_ifs with hc hs hp
      · simp [hc]
      · simp [hs]
      · simp [hp]
      · simp [hc, hs, hp]

/-- **Key result.** A context reaches the routes if the request presents it on a path that is gated, it is current,
and the permission gate lets it through. -/
theorem verify_context_next : verify_context settings request s = .next ctx ↔
    startswith ["api", "v1"] request.path = true ∧ exempt request.path = false ∧
      presented settings request s = some (some ctx) ∧
      (ctx.credential = .session → session_current s.now s.sessions s.db ctx.toContext = true) ∧
        permission_gate ctx request s = .next ctx := by
  unfold verify_context
  by_cases hv : startswith ["api", "v1"] request.path = true
  · by_cases he : exempt request.path = true
    · simp [hv, he]
    · rw [if_neg (by simp [hv]), if_neg he]
      simp only [hv, Bool.eq_false_of_not_eq_true he, true_and]
      match hp : presented settings request s with
      | none => simp
      | some none =>
        dsimp only
        split_ifs <;> simp
      | some (some presentedCtx) =>
        dsimp only
        split_ifs with hc
        · simp only [Option.some.injEq, false_iff, not_and]
          rintro rfl hcur
          exact absurd (hcur hc.1) (by simp [hc.2])
        · constructor
          · intro h
            obtain ⟨rfl, -⟩ := permission_gate_next.1 h
            exact ⟨rfl, fun hses => by simpa [hses] using hc, h⟩
          · rintro ⟨h, -, hg⟩
            obtain rfl := Option.some.inj (Option.some.inj h)
            exact hg
  · simp [Bool.eq_false_of_not_eq_true hv]

/-- What a method that is no read requires. -/
theorem required_of_write {path : Path} {method : HttpMethod} {required : String} (hw : method.isRead = false)
    (h : required_permission path method = some required) :
    required ∈ ["monitoring:operate", "alerting:operate", "observability:operate", "tenant:admin"] := by
  unfold required_permission at h
  simp only [hw, Bool.false_eq_true, if_false] at h
  split at h
  · rename_i start domain hfind
    obtain rfl := Option.some.inj h
    have hmem : (start, domain) ∈ DOMAIN_PREFIXES := List.mem_of_find?_eq_some hfind
    simp only [DOMAIN_PREFIXES, List.mem_cons, Prod.mk.injEq, List.not_mem_nil, or_false] at hmem
    obtain ⟨-, rfl⟩ | ⟨-, rfl⟩ | ⟨-, rfl⟩ := hmem <;> decide
  · split_ifs at h
    obtain rfl := Option.some.inj h
    decide

/-- **Key result.** No scope that a key can have covers what a method that is no read requires. -/
theorem scope_ok_of_write {path : Path} {method : HttpMethod} {required : String} {scopes : List String}
    (hvalid : ∀ scope ∈ scopes, scope ∈ VALID_SCOPES) (hw : method.isRead = false)
    (h : required_permission path method = some required) : scope_ok scopes required = false := by
  have hmem := required_of_write hw h
  have hforeign : ∀ r ∈ ["monitoring:operate", "alerting:operate", "observability:operate", "tenant:admin"],
      r ∉ VALID_SCOPES ∧ ":read".toList.isSuffixOf r.toList = false := by decide
  obtain ⟨hnot, hsuffix⟩ := hforeign required hmem
  have hscope : required ∉ scopes := fun hin => hnot (hvalid required hin)
  simp only [scope_ok, hscope, hsuffix, Bool.false_eq_true, false_and, or_self, decide_false]

/-- The scopes of a key that is presented are valid. -/
theorem presented_scopes {scopes : List String} (h : presented settings request s = some (some ctx))
    (hc : ctx.credential = .api_key scopes) : ∀ scope ∈ scopes, scope ∈ VALID_SCOPES := by
  unfold presented at h
  split at h
  · obtain rfl := Option.some.inj (Option.some.inj h)
    simp at hc
  · split at h
    · simp at h
    · rename_i hkey
      obtain rfl := Option.some.inj (Option.some.inj h)
      unfold api_key_context at hkey
      dsimp only at hkey
      split_ifs at hkey
      split at hkey
      · simp at hkey
      · rename_i k _
        obtain rfl := KeyContext.found.inj hkey
        obtain rfl := Credential.api_key.inj hc
        exact k.valid
    · rename_i hd
      unfold display_token_context at h
      dsimp only at h
      split_ifs at h
      · simp at h
      · obtain ⟨t, -, rfl⟩ := Option.map_eq_some_iff.1 (Option.some.inj h)
        simp at hc

end Gate

end JLMirror.Access
