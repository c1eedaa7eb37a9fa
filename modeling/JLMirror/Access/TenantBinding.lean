import JLMirror.Access.Authority
import JLMirror.Foundations.Table
import Mathlib.Data.List.AList

/-!
# Binding a session to a tenant

The shell binds a session to the tenant that its user selects (`bff/main.py`), and checks the user's
membership again at each request that it forwards to the API. A selection accepts a membership, a grant
or the capability of the platform; the check knows of memberships only, and remembers its answers for ten
seconds.

## The model

* `Bff` is the state of the shell with the tables behind it and its two clocks. A handler maps a request
  and a state to its answer and the state after it.
* The digest of handles and tokens is a parameter.
* Between the selection and a later request anything may happen to the tables of authority, the clocks
  and the cache.

## What is proved

* **Key result** (`forwarded_iff`): a session's request is forwarded if a remembered answer that has not
  expired says so, or, without one, if the user is a member of the tenant, which is active.
* **Key result** (`bound_reachable_iff`): a tenant that was selected is reachable for as long as its
  authority is in force, and no longer, if and only if that authority is a membership in an active tenant
  that no remembered refusal hides.

## Honest scope

The audit rows of an entry by grant or capability are left out, as are requests without a tenant in their
body. `forwarded` is the attempt: the API may fail.
-/

namespace JLMirror.Access

open Foundations

/-! ### The shell -/

/-- `g1.browser_sessions`. -/
structure BrowserSession where
  handle_digest : String
  principal_id : String
  session_generation : String
  csrf_digest : String
  bound_tenant_id : Option String
  expires_at : ℕ
  retired : Bool
  deriving DecidableEq

/-- `_membership_cache`: the role found, where there was one, and when the answer expires. -/
abbrev MembershipCache := AList fun _ : String × String => Option String × ℕ

/-- The shell and the tables behind it. -/
structure Bff where
  db : AccessDb
  sessions : List BrowserSession
  cache : MembershipCache
  /-- The time of day. -/
  now : ℕ
  /-- `time.monotonic()`. -/
  monotonic : ℕ

/-- What the handlers read of a request. -/
structure BffRequest where
  method : String
  /-- The path under `/api/v1/`. -/
  path : String
  session_cookie : Option String
  csrf_header : Option String
  csrf_cookie : Option String
  deriving DecidableEq

/-- What the shell answers. -/
inductive BffAnswer where
  | unauthenticated
  | forbidden
  /-- `forbidden`, with the reason. -/
  | membership_revoked
  | unavailable
  /-- An exception that nobody catches. -/
  | raised
  /-- The session is bound to the tenant. -/
  | ready (tenant_id role : String)
  /-- The callback of a provider goes to the API as it is. -/
  | forwarded_raw
  /-- The request goes to the API with the context. -/
  | forwarded (principal_id : String) (tenant_id : Option String) (session_digest session_generation : String)
  deriving DecidableEq

/-- `_MEMBERSHIP_CACHE_TTL`. -/
def MEMBERSHIP_CACHE_TTL : ℕ := 10

/-- `_prune_membership_cache`. -/
def prune_membership_cache (monotonic : ℕ) (cache : MembershipCache) : MembershipCache where
  entries := cache.entries.filter fun e => monotonic < e.2.2
  nodupKeys := cache.nodupKeys.sublist List.filter_sublist

/-- The answer that is remembered and has not expired. -/
def liveAnswer (monotonic : ℕ) (key : String × String) (cache : MembershipCache) : Option (Option String) :=
  ((cache.lookup key).filter fun entry => monotonic < entry.2).map Prod.fst

/-- `_check_membership_cached`. -/
def check_membership_cached (principal_id tenant_id : String) (s : Bff) : Option String × Bff :=
  match liveAnswer s.monotonic (principal_id, tenant_id) s.cache with
  | some result => (result, s)
  | none =>
    let result := check_membership principal_id tenant_id s.db
    let cache := s.cache.insert (principal_id, tenant_id) (result, s.monotonic + MEMBERSHIP_CACHE_TTL)
    (result, { s with cache := if 2000 < cache.entries.length then prune_membership_cache s.monotonic cache else cache })

section Handlers

variable (digest : String → String)

/-- `_resolve_session`. -/
def resolve_session (request : BffRequest) (s : Bff) : Option BrowserSession :=
  match request.session_cookie.filter (· ≠ "") with
  | none => none
  | some raw =>
    (s.sessions.find? fun row => row.handle_digest = digest raw).filter fun row => !row.retired && s.now < row.expires_at

/-- `_csrf_ok`. -/
def csrf_ok (request : BffRequest) (session : BrowserSession) : Bool :=
  match request.csrf_header.filter (· ≠ ""), request.csrf_cookie.filter (· ≠ "") with
  | some header, some cookie => header = cookie ∧ digest cookie = session.csrf_digest
  | _, _ => false

/-- The row that `bind_tenant` updates. -/
def BrowserSession.binds (session row : BrowserSession) : Bool :=
  row.handle_digest = session.handle_digest ∧ row.session_generation = session.session_generation ∧ row.retired = false

/-- Its `UPDATE`. -/
def BrowserSession.bindTo (session : BrowserSession) (tenant_id : String) (s : Bff) : Bff :=
  { s with sessions := updateWhere session.binds (fun row => { row with bound_tenant_id := some tenant_id }) s.sessions }

/-- `bind_tenant` and the answer, where the tenant is one. -/
def bind_tenant (session : BrowserSession) (tenant_id role : String) (s : Bff) : BffAnswer × Bff :=
  if s.sessions.countP session.binds = 1 then
    -- the reference to the tenant is checked by the database
    if s.db.tenants.any fun t => t.tenant_id = tenant_id then (.ready tenant_id role, session.bindTo tenant_id s)
    else (.raised, s)
  else (.unavailable, s)

/-- `api_tenant_select`. -/
def api_tenant_select (request : BffRequest) (tenant_id : String) (s : Bff) : BffAnswer × Bff :=
  match resolve_session digest request s with
  | none => (.unauthenticated, s)
  | some session =>
    if csrf_ok digest request session then
      match check_membership session.principal_id tenant_id s.db with
      | some role => bind_tenant session tenant_id role s
      | none =>
        if tenant_authorized s.now session.principal_id tenant_id s.db then
          let role := if principal_is_platform_admin session.principal_id s.db then "platform" else "delegated"
          bind_tenant session tenant_id role s
        else (.forbidden, s)
    else (.forbidden, s)

/-- `proxy_to_api`. -/
def proxy_to_api (request : BffRequest) (s : Bff) : BffAnswer × Bff :=
  if request.path = "alerting/notifications/callback" then (.forwarded_raw, s)
  else match resolve_session digest request s with
  | none => (.unauthenticated, s)
  | some session =>
    if request.method ≠ "GET" ∧ csrf_ok digest request session = false then (.forbidden, s)
    else
      let context := BffAnswer.forwarded session.principal_id session.bound_tenant_id session.handle_digest
        session.session_generation
      match session.bound_tenant_id.filter (· ≠ "") with
      | none => (context, s)
      | some tenant =>
        match check_membership_cached session.principal_id tenant s with
        | (none, s) => (.membership_revoked, s)
        | (some _, s) => (context, s)

/-! ### The request after the selection -/

/-- A request passes the check: a remembered answer counts until it expires, else a membership. -/
def PassesRecheck (principal_id tenant_id : String) (s : Bff) : Prop :=
  match liveAnswer s.monotonic (principal_id, tenant_id) s.cache with
  | some result => result.isSome = true
  | none => Member principal_id tenant_id s.db ∧ TenantActive tenant_id s.db

instance {principal_id tenant_id : String} {s : Bff} : Decidable (PassesRecheck principal_id tenant_id s) := by
  unfold PassesRecheck
  cases liveAnswer s.monotonic (principal_id, tenant_id) s.cache <;> infer_instance

variable {tenant_id : String} {s : Bff}

theorem check_membership_cached_isSome {principal_id : String} :
    (check_membership_cached principal_id tenant_id s).1.isSome = true ↔ PassesRecheck principal_id tenant_id s := by
  unfold check_membership_cached PassesRecheck
  cases liveAnswer s.monotonic (principal_id, tenant_id) s.cache with
  | none => exact check_membership_iff
  | some result => rfl

/-- The answer sends the request on with a context. -/
def BffAnswer.isForwarded : BffAnswer → Bool
  | .forwarded .. => true
  | _ => false

variable {digest}

/-- The request is one of the session, which is current, and passes its own checks. -/
structure OfSession (digest : String → String) (request : BffRequest) (session : BrowserSession) (s : Bff) : Prop where
  resolved : resolve_session digest request s = some session
  csrf : request.method = "GET" ∨ csrf_ok digest request session = true
  path : request.path ≠ "alerting/notifications/callback"

variable {request : BffRequest} {session : BrowserSession}

/-- **Key result.** A session's request to its tenant is forwarded if and only if it passes the check. -/
theorem forwarded_iff (h : OfSession digest request session s) (hbound : session.bound_tenant_id = some tenant_id) :
    (proxy_to_api digest request s).1.isForwarded = true ↔
      tenant_id = "" ∨ PassesRecheck session.principal_id tenant_id s := by
  have hcsrf : ¬(request.method ≠ "GET" ∧ csrf_ok digest request session = false) := by
    rintro ⟨hget, hno⟩
    rcases h.csrf with hg | hc
    · exact hget hg
    · exact absurd (hno.symm.trans hc) (by decide)
  rw [← check_membership_cached_isSome]
  simp only [proxy_to_api, h.path, if_false, h.resolved, hcsrf, hbound, Option.filter_some]
  by_cases hempty : tenant_id = ""
  · simp [hempty, BffAnswer.isForwarded]
  · simp only [hempty, ne_eq, not_false_eq_true, decide_true, if_true, false_or]
    rcases check_membership_cached session.principal_id tenant_id s with ⟨_ | role, s'⟩ <;> simp [BffAnswer.isForwarded]

theorem find?_bindTo {d : String} :
    ((session.bindTo tenant_id s).sessions.find? fun row => row.handle_digest = d) =
      (s.sessions.find? fun row => row.handle_digest = d).map
        fun row => if session.binds row then { row with bound_tenant_id := some tenant_id } else row :=
  find?_updateWhere (f := fun row : BrowserSession => { row with bound_tenant_id := some tenant_id }) (fun _ _ => rfl) _

variable {tenant_id' : String}

theorem bind_tenant_ready {role role' : String} {s' : Bff}
    (h : bind_tenant session tenant_id role s = (.ready tenant_id' role', s')) : s' = session.bindTo tenant_id s := by
  unfold bind_tenant at h
  split_ifs at h
  · exact (congrArg Prod.snd h).symm
  · cases h
  · cases h

/-- What a selection that succeeds does. -/
theorem select_ready {role : String} {s' : Bff}
    (h : api_tenant_select digest request tenant_id s = (.ready tenant_id' role, s')) :
    ∃ session, resolve_session digest request s = some session ∧ s' = session.bindTo tenant_id s := by
  unfold api_tenant_select at h
  cases hr : resolve_session digest request s with
  | none => simp [hr] at h
  | some session =>
    refine ⟨session, rfl, ?_⟩
    simp only [hr] at h
    by_cases hcsrf : csrf_ok digest request session = true
    · rw [if_pos hcsrf] at h
      cases hc : check_membership session.principal_id tenant_id s.db with
      | some r =>
        simp only [hc] at h
        exact bind_tenant_ready h
      | none =>
        by_cases hauth : tenant_authorized s.now session.principal_id tenant_id s.db = true
        · simp only [hc, hauth, if_true] at h
          exact bind_tenant_ready h
        · simp [hc, hauth] at h
    · simp [hcsrf] at h

/-- The session of a request after the selection is the same, bound to the tenant. -/
theorem resolve_after_select {request' : BffRequest} {role : String} {s' s₁ : Bff} {session₁ : BrowserSession}
    (h : api_tenant_select digest request tenant_id s = (.ready tenant_id' role, s'))
    (hr : resolve_session digest request s = some session)
    (hcookie : request'.session_cookie = request.session_cookie) (hrows : s₁.sessions = s'.sessions)
    (hr₁ : resolve_session digest request' s₁ = some session₁) :
    session₁ = { session with bound_tenant_id := some tenant_id } := by
  obtain ⟨session', hr', rfl⟩ := select_ready h
  obtain rfl := Option.some.inj (hr.symm.trans hr')
  unfold resolve_session at hr hr₁
  rw [hcookie, hrows] at hr₁
  cases hraw : request.session_cookie.filter (· ≠ "") with
  | none =>
    rw [hraw] at hr
    cases hr
  | some raw =>
    simp only [hraw, Option.filter_eq_some_iff, Bool.and_eq_true, Bool.not_eq_true', decide_eq_true_eq] at hr hr₁
    obtain ⟨hfind, hret, -⟩ := hr
    obtain ⟨hfind₁, -⟩ := hr₁
    rw [find?_bindTo, hfind, Option.map_some] at hfind₁
    have hbinds : session.binds session = true := by simp [BrowserSession.binds, hret]
    rw [if_pos hbinds] at hfind₁
    exact (Option.some.inj hfind₁).symm

/-! ### Selected and reachable -/

/-- A request after a selection, in a state with the sessions that the selection left. -/
structure AfterSelect (digest : String → String) (tenant_id : String) (session : BrowserSession) (request : BffRequest)
    (s : Bff) : Prop where
  /-- Some state before, some request that selected the tenant, with the cookie of this one. -/
  selected : ∃ (request₀ : BffRequest) (s₀ s₀' : Bff) (role : String),
    api_tenant_select digest request₀ tenant_id s₀ = (.ready tenant_id role, s₀') ∧
      resolve_session digest request₀ s₀ = some session ∧ request.session_cookie = request₀.session_cookie ∧
        s.sessions = s₀'.sessions
  /-- The session has not expired. -/
  resolved : (resolve_session digest request s).isSome = true
  csrf : request.method = "GET" ∨ csrf_ok digest request session = true
  path : request.path ≠ "alerting/notifications/callback"

/-- The request is forwarded while an authority is in force, and not once none is and no answer is
remembered. -/
def BoundReachable (digest : String → String) (tenant_id : String) (session : BrowserSession) (request : BffRequest)
    (s : Bff) : Prop :=
  (tenant_authorized s.now session.principal_id tenant_id s.db = true →
    (proxy_to_api digest request s).1.isForwarded = true) ∧
  (tenant_authorized s.now session.principal_id tenant_id s.db = false →
    liveAnswer s.monotonic (session.principal_id, tenant_id) s.cache = none →
      (proxy_to_api digest request s).1.isForwarded = false)

/-- The principal is a member of the tenant, has a grant over it or is a platform admin. -/
def InForce (now : ℕ) (principal_id tenant_id : String) (db : AccessDb) : Prop :=
  Member principal_id tenant_id db ∨ Granted now principal_id tenant_id db ∨
    principal_is_platform_admin principal_id db = true

/-- What the recheck knows of: an authority that passes it, or none on a tenant that has a name. -/
def RecheckKnows (tenant_id principal_id : String) (s : Bff) : Prop :=
  (InForce s.now principal_id tenant_id s.db → tenant_id = "" ∨ PassesRecheck principal_id tenant_id s) ∧
  (¬InForce s.now principal_id tenant_id s.db →
    tenant_id ≠ "" ∨ liveAnswer s.monotonic (principal_id, tenant_id) s.cache ≠ none)

/-- A request after a selection is one of the session, bound to the tenant. -/
theorem AfterSelect.ofSession (h : AfterSelect digest tenant_id session request s) :
    OfSession digest request { session with bound_tenant_id := some tenant_id } s := by
  obtain ⟨request₀, s₀, s₀', role, hsel, hr, hcookie, hrows⟩ := h.selected
  obtain ⟨session₁, hr₁⟩ := Option.isSome_iff_exists.1 h.resolved
  obtain rfl := resolve_after_select hsel hr hcookie hrows hr₁
  exact ⟨hr₁, h.csrf, h.path⟩

/-- **Key result.** A tenant that was selected is reachable as long as its authority is in force, and no
longer, if and only if the recheck knows of that authority. -/
theorem bound_reachable_iff {tenant_id : String} {session : BrowserSession} {request : BffRequest} {s : Bff}
    (h : AfterSelect digest tenant_id session request s) :
    BoundReachable digest tenant_id session request s ↔ RecheckKnows tenant_id session.principal_id s := by
  have hforward : (proxy_to_api digest request s).1.isForwarded = true ↔
      tenant_id = "" ∨ PassesRecheck session.principal_id tenant_id s := by
    have hiff := forwarded_iff h.ofSession rfl
    exact hiff
  have hforce : tenant_authorized s.now session.principal_id tenant_id s.db = true ↔
      InForce s.now session.principal_id tenant_id s.db := tenant_authorized_iff
  rw [BoundReachable, RecheckKnows, ← Bool.not_eq_true (proxy_to_api digest request s).1.isForwarded, hforward,
    ← Bool.not_eq_true, hforce]
  refine and_congr Iff.rfl (forall_congr' fun hnot => ?_)
  by_cases hlive : liveAnswer s.monotonic (session.principal_id, tenant_id) s.cache = none
  · have hno : ¬PassesRecheck session.principal_id tenant_id s := by
      rw [PassesRecheck, hlive]
      exact fun hpass => hnot (Or.inl hpass.1)
    simp [hlive, hno]
  · simp [hlive]

end Handlers

/-- A contractor with a grant and no membership, and a member. -/
def contractor : AccessDb where
  principals := [⟨"p", .human_browser_session, true⟩, ⟨"q", .human_browser_session, true⟩]
  tenants := [⟨"t", "T", true⟩]
  memberships := [⟨"t", "q", "viewer", true⟩]
  roles := []
  grants := [⟨"t", "p", ["monitoring:read"], [], true, 0, none⟩]

/-- The shell with a session of the principal. -/
def shellOf (principal_id : String) : Bff :=
  ⟨contractor, [⟨"h", principal_id, "gen", "c", none, 100, false⟩], ∅, 1, 1⟩

/-- The user of the session asks for something. -/
def ofBrowser (method : String) : BffRequest := ⟨method, "monitoring/sources", some "h", some "c", some "c"⟩

/-- The shell after a selection. -/
def boundShell (principal_id : String) : Bff := (api_tenant_select id (ofBrowser "POST") "t" (shellOf principal_id)).2

/-- The session of the shell, before. -/
def shellSession (principal_id : String) : BrowserSession := ⟨"h", principal_id, "gen", "c", none, 100, false⟩

/-- The member's tenant is reachable as the recheck knows. -/
theorem bound_reachable_iff_member :
    BoundReachable id "t" (shellSession "q") (ofBrowser "GET") (boundShell "q") ↔
      RecheckKnows "t" "q" (boundShell "q") :=
  bound_reachable_iff
    ⟨⟨ofBrowser "POST", shellOf "q", boundShell "q", "viewer", rfl, by decide, rfl, rfl⟩, by decide, Or.inl rfl, by decide⟩

/-- The contractor's selection succeeds, and the next request is refused. -/
theorem bound_reachable_contractor : ¬∀ (digest : String → String) (tenant_id : String) (session : BrowserSession)
    (request : BffRequest) (s : Bff), AfterSelect digest tenant_id session request s →
      BoundReachable digest tenant_id session request s := by
  intro h
  have hafter : AfterSelect id "t" (shellSession "p") (ofBrowser "GET") (boundShell "p") :=
    ⟨⟨ofBrowser "POST", shellOf "p", boundShell "p", "delegated", rfl, by decide, rfl, rfl⟩, by decide, Or.inl rfl,
      by decide⟩
  exact absurd ((h _ _ _ _ _ hafter).1 (by decide)) (by decide)

end JLMirror.Access
