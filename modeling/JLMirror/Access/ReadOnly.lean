import JLMirror.Access.Routes

/-!
# Reading credentials

An API key has no scope but to read, and the token of a display is for reading. The middleware keeps them
from the methods that write by the table of prefixes, and what is under none of the prefixes it lets
through: there the handler's own check is all that there is.

## What is proved

* **Key result** (`read_only_iff`): exactly when a request with such a credential reaches no handler that writes,
  and none that no permission is declared for.
* **Key result** (`display_lacks_operate`): a display that holds nothing else lacks what a method that is no read
  requires.

## Honest scope

A handler is reached where its guard lets the request in. Whether it then writes, or finds no row to write,
is not asked.
-/

namespace JLMirror.Access

section ReadOnly

variable (settings : Settings) (request : ApiRequest) (s : ApiState)

/-- The request passes the gate with the context and is let into the handler of the route. -/
def Reaches (ctx : ApiContext) (r : Route) : Prop :=
  verify_context settings request s = .next ctx ∧ ∃ params, dispatch request.method request.path = some (r, params) ∧
    r.guard.admits settings request s ctx params = true

/-- With a key or the token of a display no handler is reached that writes, nor one for whose path no
permission is declared. -/
def ReadOnly : Prop :=
  ∀ ctx r, Reaches settings request s ctx r → ctx.readOnly = true →
    r.writes = [] ∧ required_permission request.path request.method ≠ none

/-- What keeps a context from a route, or the route from writing: its guard; else a permission is declared, and
the method reads, or the handler writes nothing, or the context is of a key, or the principal lacks the
permission or the source. -/
def Covered (ctx : ApiContext) (r : Route) (params : List String) : Prop :=
  r.guard.admits settings request s ctx params = false ∨
    ∃ required, required_permission request.path request.method = some required ∧
      (request.method.isRead = true ∨ r.writes = [] ∨ ∃ tenant, ctx.tenant = some tenant ∧
        (ctx.credential ≠ .display ∨ sourceReached ctx tenant request.path s = false ∨
          permits (effective_permissions s.now ctx.principal_id tenant s.db) required = false))

variable {settings} {request} {s}

/-- A key is kept from a method that writes on a path that has a permission. -/
theorem key_refused {ctx : ApiContext} (hp : presented settings request s = some (some ctx))
    (hread : ctx.readOnly = true) (hd : ctx.credential ≠ .display) (hw : request.method.isRead = false) {required : String}
    (hr : required_permission request.path request.method = some required) : ctx.credential.covers required = false := by
  cases hc : ctx.credential with
  | session => simp [ApiContext.readOnly, hc] at hread
  | api_key scopes => exact scope_ok_of_write (presented_scopes hp hc) hw hr
  | display => exact absurd hc hd

/-- **Key result.** A display without a membership, a grant or the capability of the platform lacks what a method
that is no read requires. -/
theorem display_lacks_operate {now : ℕ} {principal_id tenant_id : String} {db : AccessDb}
    (hm : ¬Member principal_id tenant_id db) (hg : ¬Granted now principal_id tenant_id db)
    (hp : principal_is_platform_admin principal_id db = false) {path : Path} {method : HttpMethod}
    (hw : method.isRead = false) {required : String} (hr : required_permission path method = some required) :
    permits (effective_permissions now principal_id tenant_id db) required = false := by
  have hforeign : ∀ r ∈ ["monitoring:operate", "alerting:operate", "observability:operate", "tenant:admin"],
      ∀ p ∈ DISPLAY_PERMISSIONS, p.text ≠ r := by decide
  have hlack : ¬∃ p ∈ effective_permissions now principal_id tenant_id db, p.text = required := by
    rintro ⟨p, hmem, htext⟩
    obtain ⟨kind, -, ⟨-, hdisplay⟩ | ⟨m, hmem, hholds, -⟩ | ⟨g, hmem, -⟩ | hadmin⟩ := mem_effective_permissions.1 hmem
    · exact hforeign required (required_of_write hw hr) p hdisplay htext
    · exact hm ⟨m, hmem, hholds⟩
    · exact hg ⟨g, mem_activeGrants.1 hmem⟩
    · simp [hadmin] at hp
  simpa [permits] using hlack

/-- The display on a wall does not administer the tenant. -/
theorem wall_lacks_admin :
    permits (effective_permissions 0 "wall" "t" ⟨[⟨"wall", .display_principal, true⟩], [], [], [], []⟩) "tenant:admin" = false :=
  display_lacks_operate (by decide) (by decide) rfl (show HttpMethod.POST.isRead = false from rfl)
    (show required_permission ["api", "v1", "tenant", "roles"] .POST = some "tenant:admin" by decide)

/-- **Key result.** A credential for reading reaches neither a handler that writes nor a path without a permission,
if and only if the path is exempt or each route that takes the request is covered. -/
theorem read_only_iff (settings : Settings) (request : ApiRequest) (s : ApiState) :
    ReadOnly settings request s ↔ exempt request.path = true ∨
      ∀ ctx, presented settings request s = some (some ctx) → ctx.readOnly = true → ∀ r params,
        dispatch request.method request.path = some (r, params) → Covered settings request s ctx r params := by
  constructor
  · intro h
    by_cases he : exempt request.path = true
    · exact Or.inl he
    refine Or.inr fun ctx hp hread r params hd => ?_
    by_cases hg : r.guard.admits settings request s ctx params = false
    · exact Or.inl hg
    have hopen : r.guard.admits settings request s ctx params = true := by simpa using hg
    have hcur : ctx.credential = .session → session_current s.now s.sessions s.db ctx.toContext = true := fun hses => by
      simp [ApiContext.readOnly, hses] at hread
    have hnext : permission_gate ctx request s = .next ctx → r.writes = [] ∧
        required_permission request.path request.method ≠ none := fun hgate =>
      h ctx r ⟨verify_context_next.2 ⟨dispatch_startswith hd, by simpa using he, hp, hcur, hgate⟩, params, hd, hopen⟩ hread
    cases hr : required_permission request.path request.method with
    | none =>
      -- Nothing is declared for the path, so the gate lets the request through.
      have hgate : permission_gate ctx request s = .next ctx := permission_gate_next.2 ⟨rfl, by simp [hr]⟩
      exact absurd hr (hnext hgate).2
    | some required =>
      refine Or.inr ⟨required, hr, ?_⟩
      by_cases hw : r.writes = []
      · exact Or.inr (Or.inl hw)
      by_contra hopenGate
      simp only [not_or, not_exists, not_and, ne_eq, Bool.not_eq_false] at hopenGate
      obtain ⟨-, -, hall⟩ := hopenGate
      refine hw (hnext (permission_gate_next.2 ⟨rfl, fun required' hr' tenant ht => ?_⟩)).1
      obtain rfl := Option.some.inj (hr.symm.trans hr')
      obtain ⟨hd', hs, hperm⟩ := hall tenant ht
      exact ⟨by simp [Credential.covers, not_not.1 hd'], hs, hperm⟩
  · rintro h ctx r ⟨hv, params, hd, hopen⟩ hread
    obtain ⟨-, he, hp, -, hgate⟩ := verify_context_next.1 hv
    obtain ⟨-, hpassed⟩ := permission_gate_next.1 hgate
    have hcov : Covered settings request s ctx r params :=
      (h.resolve_left (by simp [he])) ctx hp hread r params hd
    obtain ⟨required, hr, hwhy⟩ := hcov.resolve_left (by simp [hopen])
    refine ⟨?_, by simp [hr]⟩
    obtain ⟨hmem, hmethod, -⟩ := dispatch_eq_some hd
    have hreads : request.method.isRead = true → r.writes = [] := fun hread' =>
      reads_write_nothing r hmem (hmethod ▸ hread')
    obtain hread' | hw | ⟨tenant, ht, hkept⟩ := hwhy
    · exact hreads hread'
    · exact hw
    · by_cases hread' : request.method.isRead = true
      · exact hreads hread'
      · obtain ⟨hcov, hs, hperm⟩ := hpassed required hr tenant ht
        obtain hkey | hs' | hperm' := hkept
        · simp [key_refused hp hread hkey (by simpa using hread') hr] at hcov
        · simp [hs'] at hs
        · simp [hperm'] at hperm

/-! ### The routes without a permission -/

/-- A viewer of the tenant has made the key. -/
def viewerDb : AccessDb where
  principals := [⟨"v", .human_browser_session, true⟩]
  tenants := [⟨"t", "T", true⟩]
  memberships := [⟨"t", "v", "viewer", true⟩]
  roles := []
  grants := []

/-- A deployment outside of development, whose digest of a text is the text. -/
def deployed : Settings where
  is_development := false
  dev_auth_bypass := false
  secret := "s"
  hmac := fun _ message => message
  sha256 := id

/-- The key `jlm_k`, with the scope to read. -/
def readKey : ApiKey where
  key_id := "apikey:1"
  tenant_id := "t"
  principal_id := "v"
  key_digest := "jlm_k"
  label := "dashboard"
  scopes := ["read"]
  active := true
  expires_at := none
  valid := by decide

/-- The key is the only credential there is. -/
def keyedState : ApiState where
  micros := 0
  now := 0
  db := viewerDb
  sessions := []
  api_keys := [readKey]
  display_tokens := []
  req_count := fun _ => 0
  fresh_id := "c"

/-- A request with the key. -/
def withKey (method : HttpMethod) (path : Path) : ApiRequest where
  method
  path
  context := ⟨none, none, none, none, none, none, none⟩
  authorization := some "Bearer jlm_k"
  display_token := none
  traceparent := none
  x_correlation_id := none
  tenant_id := none

/-- The key, as the middleware passes it on. -/
def keyContext : ApiContext where
  principal_id := "v"
  tenant_id := some "t"
  session_digest := "apikey:apikey:1"
  session_generation := "apikey"
  correlation_id := some "c"
  credential := .api_key ["read"]

example : verify_context deployed (withKey .POST ["api", "v1", "monitoring", "sources"]) keyedState =
    .refused 403 "forbidden" (some "scope") := by
  rfl

/-- **Key result.** A key with the scope to read creates a change request. -/
theorem change_created : ¬ReadOnly deployed (withKey .POST ["api", "v1", "itsm", "changes"]) keyedState := by
  intro h
  have hreach : Reaches deployed (withKey .POST ["api", "v1", "itsm", "changes"]) keyedState keyContext
      ⟨.POST, ["api", "v1", "itsm", "changes"], "create_change", .tenant_principal,
        ["g1.change_request", "audit.audit_event"]⟩ := ⟨by rfl, [], by rfl, by decide⟩
  exact absurd (h _ _ hreach (by decide)).1 (by decide)

end ReadOnly

end JLMirror.Access
