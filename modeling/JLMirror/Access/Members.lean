import JLMirror.Access.TenantAdmin
import JLMirror.Foundations.Handler

/-!
# Members and their accounts

The requests that make and change memberships, statement by statement: those of the tenant's administrator in
the API (`api/routers/tenant.py`) and in the shell (`bff/main.py`), and the provisioning of a user by the
platform (`api/routers/platform.py`). An account at the identity provider, a principal and a membership are
written one after the other.

## The model

* The tables of `TenantAdmin`, with the ids of memberships, the bindings of principals to accounts and the
  audit trail. `MemberDb.access` forgets these.
* The outside is the realm of the identity provider: the accounts, one for an e-mail.
* A request draws its ids before it starts. Any step of it can fail, which is a `500` for the client.
* A handler of the shell reads in one connection and writes in another; they are one transaction here, since
  the first has nothing to commit.

## Honest scope

`credential_generation`, the details of audit events and the passwords are left out.
-/

namespace JLMirror.Access.Members

open Foundations Foundations.Handler

/-! ### The tables -/

/-- `g1.principals`. -/
structure PrincipalRow extends Principal where
  idp_subject_ref : Option String
  idp_issuer : Option String
  deriving DecidableEq

/-- `state` of a membership. -/
inductive MembershipState where
  | active
  | suspended
  | revoked
  deriving DecidableEq

/-- `g1.tenant_memberships`. -/
structure MembershipRow where
  membership_id : String
  tenant_id : String
  principal_id : String
  role : String
  state : MembershipState
  deriving DecidableEq

/-- `audit.audit_event`. -/
structure AuditEvent where
  tenant_id : String
  audit_event_id : String
  action : String
  actor_kind : String
  actor_id : String
  subject_type : String
  subject_id : String
  deriving DecidableEq

/-- The tables. -/
structure MemberDb where
  principals : List PrincipalRow
  tenants : List Tenant
  memberships : List MembershipRow
  roles : List TenantRole
  grants : List DelegatedGrant
  audit_event : List AuditEvent
  deriving DecidableEq

/-- A membership, as authority reads it. -/
def MembershipRow.membership (m : MembershipRow) : TenantMembership :=
  ⟨m.tenant_id, m.principal_id, m.role, m.state = .active⟩

/-- The tables, as authority reads them. -/
def MemberDb.access (db : MemberDb) : AccessDb where
  principals := db.principals.map PrincipalRow.toPrincipal
  tenants := db.tenants
  memberships := db.memberships.map MembershipRow.membership
  roles := db.roles
  grants := db.grants

/-- An account of the identity provider. -/
structure Account where
  email : String
  id : String
  deriving DecidableEq

/-- The state that a request works on. -/
abbrev MemberWorld := World MemberDb (List Account)

/-- A handler of a request. -/
abbrev MemberHandler := Handler MemberDb (List Account) HttpError

/-- A statement. -/
abbrev execute {α : Type} (f : MemberDb → Except HttpError (α × MemberDb)) : MemberHandler α := statement internalServerError f

/-- A `SELECT`. -/
abbrev select {α : Type} (f : MemberDb → α) : MemberHandler α := query internalServerError f

/-- A call to the identity provider. -/
abbrev keycloak {α : Type} (f : List Account → Except HttpError (α × List Account)) : MemberHandler α :=
  call internalServerError f

/-! ### Statements -/

/-- `record_audit_event`. -/
def record_audit_event (event : AuditEvent) : MemberHandler Unit :=
  execute fun db =>
    match insertUnless (fun e => e.tenant_id = event.tenant_id ∧ e.audit_event_id = event.audit_event_id)
        internalServerError event db.audit_event with
    | .ok audit_event => .ok ((), { db with audit_event })
    | .error e => .error e

/-- The row of the principal in the tenant. -/
def MembershipRow.ofTenant (principal_id tenant_id : String) (m : MembershipRow) : Bool :=
  m.principal_id = principal_id ∧ m.tenant_id = tenant_id

@[simp] theorem MembershipRow.ofTenant_iff {principal_id tenant_id : String} {m : MembershipRow} :
    m.ofTenant principal_id tenant_id = true ↔ m.principal_id = principal_id ∧ m.tenant_id = tenant_id := by
  simp [ofTenant]

/-- `INSERT INTO g1.tenant_memberships`: the key, the pair of tenant and principal, and the references. -/
def insertMembership (row : MembershipRow) (db : MemberDb) : Except HttpError MemberDb :=
  if db.memberships.any (fun m => m.membership_id = row.membership_id ∨ m.ofTenant row.principal_id row.tenant_id) ∨
      db.tenants.all (fun t => t.tenant_id ≠ row.tenant_id) ∨ db.principals.all fun p => p.principal_id ≠ row.principal_id then
    .error internalServerError
  else .ok { db with memberships := db.memberships ++ [row] }

/-- `INSERT … ON CONFLICT (tenant_id, principal_id) DO UPDATE SET role = EXCLUDED.role, state = 'active' RETURNING
membership_id`. -/
def upsertMembership (row : MembershipRow) (db : MemberDb) : Except HttpError (String × MemberDb) :=
  match db.memberships.find? (MembershipRow.ofTenant row.principal_id row.tenant_id) with
  | some m => .ok (m.membership_id,
      { db with
        memberships := updateWhere (MembershipRow.ofTenant row.principal_id row.tenant_id)
          (fun m => { m with role := row.role, state := .active }) db.memberships })
  | none => (insertMembership row db).map fun db => (row.membership_id, db)

/-- `CHECK (kind IN …)`. -/
def principalKind (kind : String) : Option PrincipalKind :=
  if kind = "human_browser_session" then some .human_browser_session
  else if kind = "platform_admin_principal" then some .platform_admin_principal
  else if kind = "display_principal" then some .display_principal
  else none

/-- `INSERT INTO g1.principals`: the constraint on the kind is checked first, then the keys; a principal with the id
that there is already is kept where `on_conflict` says so. -/
def insertPrincipal (on_conflict : Bool) (principal_id kind : String) (idp_subject_ref idp_issuer : Option String)
    (db : MemberDb) : Except HttpError (Unit × MemberDb) :=
  match principalKind kind with
  | none => .error internalServerError
  | some kind =>
    if db.principals.any fun p => p.principal_id = principal_id then
      if on_conflict then .ok ((), db) else .error internalServerError
    else if idp_subject_ref.any fun subject => db.principals.any fun p => p.idp_subject_ref = some subject then
      .error internalServerError
    else .ok ((), { db with principals := db.principals ++ [⟨⟨principal_id, kind, true⟩, idp_subject_ref, idp_issuer⟩] })

/-! ### The tenant's administrator, in the API -/

/-- The ids that a request draws. -/
structure Drawn where
  membership_id : String
  principal_id : String
  audit_event_id : String
  /-- The id that the identity provider gives a new account. -/
  account_id : String
  deriving DecidableEq

/-- `ROLES`, the `PROVISION_ROLES` too. -/
def ROLES : List String := ["admin", "operator", "viewer", "auditor"]

/-- The check of a role, before the connection. -/
def checkRole (role : String) : MemberHandler Unit :=
  if role ∉ ROLES ∧ customRole role = none then
    throw ⟨422, "role must be one of ('admin', 'operator', 'viewer', 'auditor') or 'custom:<name>'"⟩
  else pure ()

/-- A custom role is one of the tenant's. -/
def checkCustomRole (tenant role : String) : MemberHandler Unit :=
  match customRole role with
  | none => pure ()
  | some name => do
    let found ← select fun db => db.roles.any fun r => r.tenant_id = tenant ∧ r.role_name = name ∧ r.active
    if found then pure () else throw ⟨404, "custom role not found"⟩

/-- The event of a membership. -/
def membershipEvent (tenant actor action subject_id audit_event_id : String) : AuditEvent :=
  ⟨tenant, audit_event_id, action, "principal", actor, "membership", subject_id⟩

/-- `add_member`. -/
def add_member (tenant actor principal_id role : String) (drawn : Drawn) : MemberHandler String := do
  checkRole role
  transaction internalServerError do
    checkCustomRole tenant role
    let membership_id ← execute (upsertMembership ⟨drawn.membership_id, tenant, principal_id, role, .active⟩)
    record_audit_event (membershipEvent tenant actor "tenant.membership.granted" membership_id drawn.audit_event_id)
    return membership_id

/-- An `UPDATE` of the active row with the id in the tenant, which is missed where there is none. -/
def updateMembership (tenant membership_id : String) (f : MembershipRow → MembershipRow) : MemberHandler Unit :=
  execute fun db =>
    let found := fun m : MembershipRow => decide (m.membership_id = membership_id ∧ m.tenant_id = tenant ∧ m.state = .active)
    if db.memberships.countP found = 1 then
      .ok ((), { db with memberships := updateWhere found f db.memberships })
    else .error ⟨404, "membership not found or inactive"⟩

/-- `update_member_role`. -/
def update_member_role (tenant actor membership_id role : String) (drawn : Drawn) : MemberHandler String := do
  checkRole role
  transaction internalServerError do
    checkCustomRole tenant role
    updateMembership tenant membership_id fun m => { m with role }
    record_audit_event (membershipEvent tenant actor "tenant.membership.role_changed" membership_id drawn.audit_event_id)
    return membership_id

/-- `revoke_member`. -/
def revoke_member (tenant actor membership_id : String) (drawn : Drawn) : MemberHandler String :=
  transaction internalServerError do
    updateMembership tenant membership_id fun m => { m with state := .revoked }
    record_audit_event (membershipEvent tenant actor "tenant.membership.revoked" membership_id drawn.audit_event_id)
    return membership_id

/-! ### The tenant's administrator, in the shell -/

/-- `_require_admin`: the session is looked up, then its membership. -/
def require_admin (session : Option Session) : MemberHandler String := do
  let session ← select fun _ => session
  match session with
  | none => throw ⟨401, "unauthenticated"⟩
  | some session =>
    match session.bound_tenant_id.filter (· ≠ "") with
    | none => throw ⟨403, "no tenant bound"⟩
    | some bound => do
      let role ← select fun db => check_membership session.principal_id bound db.access
      if role = some "admin" ∨ role = some "tenant_admin" then return bound else throw ⟨403, "admin required"⟩

/-- `_require_admin` and `_csrf_ok`. -/
def admitted (session : Option Session) (csrf_ok : Bool) : MemberHandler String := do
  let tenant_id ← require_admin session
  if csrf_ok then return tenant_id else throw ⟨403, "csrf"⟩

/-- `create_user` of `bff/keycloak_admin.py`: an e-mail has one account. -/
def create_user (email id : String) (accounts : List Account) : Except HttpError (String × List Account) :=
  if accounts.any fun a => a.email = email then .error ⟨409, "email already exists in identity provider"⟩
  else .ok (id, accounts ++ [⟨email, id⟩])

/-- The account of an invitation, then its rows. -/
def makeInvited (issuer tenant_id email role : String) (drawn : Drawn) : MemberHandler String := do
  let kc_user_id ← keycloak (create_user email drawn.account_id)
  transaction internalServerError do
    execute (insertPrincipal false drawn.principal_id "human_browser_session" (some kc_user_id) (some issuer))
    execute fun db =>
      (insertMembership ⟨drawn.membership_id, tenant_id, drawn.principal_id, role, .active⟩ db).map fun db => ((), db)
    return drawn.principal_id

/-- `admin_invite_user`, for the texts after `strip`; `issuer` is `oidc.expected_issuer()`. -/
def admin_invite_user (issuer : String) (session : Option Session) (csrf_ok : Bool) (email first_name : String)
    (role : Option String) (drawn : Drawn) : MemberHandler String := do
  let tenant_id ← admitted session csrf_ok
  let role := role.getD "viewer"
  if email = "" ∨ first_name = "" then throw ⟨400, "email and first_name are required"⟩
  if role ∉ VALID_ROLES then throw ⟨400, s!"invalid role: {role}"⟩
  makeInvited issuer tenant_id email role drawn

/-- `admin_update_role`. -/
def admin_update_role (session : Option Session) (csrf_ok : Bool) (principal_id : String) (role : Option String) :
    MemberHandler Unit := do
  let tenant_id ← admitted session csrf_ok
  let role := role.getD ""
  if role ∉ VALID_ROLES then throw ⟨400, s!"invalid role: {role}"⟩
  transaction internalServerError do
    execute fun db =>
      if db.memberships.any (MembershipRow.ofTenant principal_id tenant_id) then
        .ok ((), { db with
          memberships := updateWhere (MembershipRow.ofTenant principal_id tenant_id) (fun m => { m with role })
            db.memberships })
      else .error ⟨404, "user not found in this tenant"⟩

/-- The reads that the last three share: the subject of the principal, which exists and has a row in the tenant. -/
def memberSubject (tenant_id principal_id : String) : MemberHandler (Option String) := do
  let row ← select fun db => db.principals.find? fun p => p.principal_id = principal_id
  match row with
  | none => throw ⟨404, "principal not found"⟩
  | some p => do
    let member ← select fun db => db.memberships.any (MembershipRow.ofTenant principal_id tenant_id)
    if member then return p.idp_subject_ref else throw ⟨403, "user not in this tenant"⟩

/-- `UPDATE g1.principals SET active = …`. -/
def setActive (principal_id : String) (active : Bool) (db : MemberDb) : MemberDb :=
  { db with
    principals := updateWhere (fun p => p.principal_id = principal_id) (fun p => { p with active }) db.principals }

/-- `admin_deactivate_user` and `admin_reactivate_user`. Whether an account is enabled is not in the model. -/
def admin_set_active (active : Bool) (session : Option Session) (csrf_ok : Bool) (principal_id : String) :
    MemberHandler Unit := do
  let tenant_id ← admitted session csrf_ok
  let _ ← memberSubject tenant_id principal_id
  keycloak fun accounts => .ok ((), accounts)
  transaction internalServerError do
    execute fun db => .ok ((), setActive principal_id active db)

/-- `admin_delete_user`. -/
def admin_delete_user (session : Option Session) (csrf_ok : Bool) (principal_id : String) : MemberHandler Unit := do
  let tenant_id ← admitted session csrf_ok
  let sub ← memberSubject tenant_id principal_id
  let total_memberships ← select fun db => db.memberships.countP fun m => m.principal_id = principal_id
  if total_memberships = 1 then
    keycloak fun accounts => .ok ((), accounts.filter fun a => some a.id ≠ sub)
  transaction internalServerError do
    execute fun db =>
      .ok ((), { db with memberships := db.memberships.filter fun m => !m.ofTenant principal_id tenant_id })
    if total_memberships = 1 then
      execute fun db => .ok ((), setActive principal_id false db)

/-- `admin_list_users`. -/
def admin_list_users (session : Option Session) : MemberHandler Unit := do
  let tenant_id ← require_admin session
  let _ ← select fun db => db.memberships.filter fun m => m.tenant_id = tenant_id
  keycloak fun accounts => .ok ((), accounts)

/-! ### The platform -/

/-- `create_user` of `shared/keycloak_admin.py`, which sets the password in a second call. -/
def create_user_with_password (email id : String) : MemberHandler String := do
  let id ← keycloak fun accounts =>
    if accounts.any fun a => a.email = email then
      .error ⟨409, s!"User with email '{email}' already exists in Keycloak"⟩
    else .ok (id, accounts ++ [⟨email, id⟩])
  keycloak fun accounts => .ok ((), accounts)
  return id

/-- `_require_platform_admin`. -/
def require_platform_admin (actor : String) : MemberHandler Unit := do
  let ok ← select fun db => principal_is_platform_admin actor db.access
  if ok then pure () else throw ⟨403, "platform admin required"⟩

/-- `provision_user`. -/
def provision_user (actor email tenant_id role : String) (drawn : Drawn) : MemberHandler String := do
  require_platform_admin actor
  if role ∉ ROLES then throw ⟨422, "role must be one of ('admin', 'operator', 'viewer', 'auditor')"⟩
  let user_id ← create_user_with_password email drawn.account_id
  transaction internalServerError do
    execute (insertPrincipal true user_id "oidc_user" none none)
    let _ ← execute (upsertMembership ⟨drawn.membership_id, tenant_id, user_id, role, .active⟩)
    record_audit_event ⟨"platform", drawn.audit_event_id, "platform.user.provisioned", "platform_admin", actor, "principal",
      user_id⟩
    return user_id

/-! ### What the parts do -/

section Parts

variable {db db' : MemberDb} {w w' : MemberWorld} {session : Option Session} {csrf_ok : Bool} {tenant_id : String}

theorem map_unit_ok {x : Except HttpError MemberDb} :
    x.map (fun db => ((), db)) = .ok ((), db) ↔ x = .ok db := by
  cases x <;> simp [Except.map]

theorem insertMembership_ok {row : MembershipRow} (h : insertMembership row db = .ok db') :
    (∀ m ∈ db.memberships, m.membership_id ≠ row.membership_id) ∧ db' = { db with memberships := db.memberships ++ [row] } := by
  unfold insertMembership at h
  split_ifs at h with hclash
  refine ⟨fun m hm hid => hclash (.inl (List.any_eq_true.2 ⟨m, hm, ?_⟩)), (Except.ok.inj h).symm⟩
  simp [hid]

/-- A membership goes in whose keys are new and whose references are there. -/
theorem insertMembership_of_new {row : MembershipRow}
    (hnew : ∀ m ∈ db.memberships, m.membership_id ≠ row.membership_id ∧ m.ofTenant row.principal_id row.tenant_id = false)
    (htenant : ∃ t ∈ db.tenants, t.tenant_id = row.tenant_id)
    (hprincipal : ∃ p ∈ db.principals, p.principal_id = row.principal_id) :
    insertMembership row db = .ok { db with memberships := db.memberships ++ [row] } := by
  obtain ⟨t, ht, htid⟩ := htenant
  obtain ⟨p, hp, hpid⟩ := hprincipal
  rw [insertMembership, if_neg]
  rintro (h | h | h)
  · obtain ⟨m, hm, hclash⟩ := List.any_eq_true.1 h
    obtain ⟨hid, hpair⟩ := hnew m hm
    simp [hid, hpair] at hclash
  · simpa [htid] using List.all_eq_true.1 h t ht
  · simpa [hpid] using List.all_eq_true.1 h p hp

/-- The principal of an account goes in if its keys are new. -/
theorem insertPrincipal_iff {principal_id subject issuer : String} :
    insertPrincipal false principal_id "human_browser_session" (some subject) (some issuer) db = .ok ((), db') ↔
      (∀ p ∈ db.principals, p.principal_id ≠ principal_id ∧ p.idp_subject_ref ≠ some subject) ∧
        db' = { db with
          principals := db.principals ++
            [⟨⟨principal_id, .human_browser_session, true⟩, some subject, some issuer⟩] } := by
  have hkind : principalKind "human_browser_session" = some .human_browser_session := by decide
  simp only [insertPrincipal, hkind, Option.any_some]
  by_cases hid : ∃ p ∈ db.principals, p.principal_id = principal_id
  · obtain ⟨p, hp, hpid⟩ := hid
    rw [if_pos (List.any_eq_true.2 ⟨p, hp, by simpa using hpid⟩)]
    constructor
    · exact fun h => (nomatch h)
    · exact fun h => absurd hpid (h.1 p hp).1
  · have hnew : ∀ p ∈ db.principals, p.principal_id ≠ principal_id := fun p hp h => hid ⟨p, hp, h⟩
    rw [if_neg (by simpa using hnew)]
    split_ifs with hsub
    · obtain ⟨p, hp, hpsub⟩ := List.any_eq_true.1 hsub
      constructor
      · exact fun h => (nomatch h)
      · exact fun h => absurd (of_decide_eq_true hpsub) (h.1 p hp).2
    · have hnosub : ∀ p ∈ db.principals, p.idp_subject_ref ≠ some subject := fun p hp h =>
        hsub (List.any_eq_true.2 ⟨p, hp, by simpa using h⟩)
      constructor
      · exact fun h => ⟨fun p hp => ⟨hnew p hp, hnosub p hp⟩, (Prod.mk.inj (Except.ok.inj h)).2.symm⟩
      · exact fun h => by rw [h.2]

theorem record_audit_event_ok {event : AuditEvent} {u : Unit} (h : exec (record_audit_event event) w = (.ok u, w')) :
    w'.view = { w.view with audit_event := w.view.audit_event ++ [event] } := by
  unfold record_audit_event execute at h
  obtain ⟨hf, -⟩ := exec_statement_ok h
  split at hf
  · rename_i rows hrows
    rw [← (Prod.mk.inj (Except.ok.inj hf)).2, (insertUnless_ok_iff.1 hrows).2]
  · cases hf

theorem quiet_record_audit_event (event : AuditEvent) : Quiet (record_audit_event event) := quiet_statement _

theorem quiet_updateMembership (tenant membership_id : String) (f : MembershipRow → MembershipRow) :
    Quiet (updateMembership tenant membership_id f) := quiet_statement _

theorem reads_checkRole (role : String) : Reads (checkRole role) := by
  unfold checkRole
  split_ifs
  · exact reads_throw _
  · exact reads_pure _

theorem quiet_checkRole (role : String) : Quiet (checkRole role) := by
  unfold checkRole
  split_ifs
  · exact quiet_throw _
  · exact quiet_pure _

theorem reads_checkCustomRole (tenant role : String) : Reads (checkCustomRole tenant role) := by
  unfold checkCustomRole
  cases customRole role with
  | none => exact reads_pure _
  | some name =>
    refine (reads_query _).bind fun found => ?_
    split_ifs
    · exact reads_pure _
    · exact reads_throw _

theorem quiet_checkCustomRole (tenant role : String) : Quiet (checkCustomRole tenant role) := by
  unfold checkCustomRole
  cases customRole role with
  | none => exact quiet_pure _
  | some name =>
    refine (quiet_query _).bind fun found => ?_
    split_ifs
    · exact quiet_pure _
    · exact quiet_throw _

/-- The keys of the tables. -/
structure MemberDb.Keys (db : MemberDb) : Prop where
  membership_key : (db.memberships.map MembershipRow.membership_id).Nodup
  membership_pair : (db.memberships.map fun m => (m.tenant_id, m.principal_id)).Nodup
  membership_principal : ∀ m ∈ db.memberships, ∃ p ∈ db.principals, p.principal_id = m.principal_id

/-- The request is one of an administrator of the tenant. -/
def Admitted (session : Option Session) (csrf_ok : Bool) (db : MemberDb) (tenant_id : String) : Prop :=
  Access.require_admin session db.access = .ok tenant_id ∧ csrf_ok = true

theorem quiet_require_admin (session : Option Session) : Quiet (require_admin session) := by
  refine (quiet_query _).bind fun session => ?_
  cases session with
  | none => exact quiet_throw _
  | some session =>
    dsimp only
    cases session.bound_tenant_id.filter (· ≠ "") with
    | none => exact quiet_throw _
    | some bound =>
      refine (quiet_query _).bind fun role => ?_
      split_ifs
      · exact quiet_pure _
      · exact quiet_throw _

theorem reads_require_admin (session : Option Session) : Reads (require_admin session) := by
  refine (reads_query _).bind fun session => ?_
  cases session with
  | none => exact reads_throw _
  | some session =>
    dsimp only
    cases session.bound_tenant_id.filter (· ≠ "") with
    | none => exact reads_throw _
    | some bound =>
      refine (reads_query _).bind fun role => ?_
      split_ifs
      · exact reads_pure _
      · exact reads_throw _

/-- An administrator that is let in is one. -/
theorem require_admin_ok (h : exec (require_admin session) w = (.ok tenant_id, w')) :
    Access.require_admin session w.view.access = .ok tenant_id := by
  obtain ⟨session', w₁, hsession, h₁⟩ := exec_bind_ok.1 h
  obtain ⟨hsame, hview, -⟩ := exec_query_ok hsession
  subst hsame
  cases session' with
  | none => cases h₁
  | some session =>
    simp only [Access.require_admin] at h₁ ⊢
    cases hbound : session.bound_tenant_id.filter (· ≠ "") with
    | none =>
      rw [hbound] at h₁
      cases h₁
    | some bound =>
      rw [hbound] at h₁
      obtain ⟨role, w₂, hrole, h₂⟩ := exec_bind_ok.1 h₁
      obtain ⟨rfl, -⟩ := exec_query_ok hrole
      rw [hview] at h₂
      split_ifs at h₂ with hadmin
      · obtain ⟨hb, -⟩ := Prod.mk.inj h₂
        obtain rfl := Except.ok.inj hb
        rcases hadmin with hadmin | hadmin <;> simp [hadmin]
      · cases h₂

/-- An administrator is let in, after two statements. -/
theorem runs_require_admin (h : Access.require_admin session w.view.access = .ok tenant_id) :
    Runs (require_admin session) 2 w tenant_id w := by
  refine Runs.bind (k := 1) (l := 1) (runs_query _) ?_
  cases session with
  | none => cases h
  | some session =>
    simp only [Access.require_admin] at h ⊢
    cases hbound : session.bound_tenant_id.filter (· ≠ "") with
    | none =>
      rw [hbound] at h
      cases h
    | some bound =>
      rw [hbound] at h
      dsimp only at h ⊢
      cases hrole : check_membership session.principal_id bound w.view.access with
      | none =>
        rw [hrole] at h
        cases h
      | some role =>
        rw [hrole] at h
        dsimp only at h
        split_ifs at h with hadmin
        obtain rfl := Except.ok.inj h
        refine (runs_query _).bind (l := 0) ?_
        rw [hrole, if_pos (by simpa using hadmin)]
        exact runs_pure _

theorem reads_admitted (session : Option Session) (csrf_ok : Bool) : Reads (admitted session csrf_ok) := by
  refine (reads_require_admin session).bind fun tenant_id => ?_
  split_ifs
  · exact reads_pure _
  · exact reads_throw _

theorem quiet_admitted (session : Option Session) (csrf_ok : Bool) : Quiet (admitted session csrf_ok) := by
  refine (quiet_require_admin session).bind fun tenant_id => ?_
  split_ifs
  · exact quiet_pure _
  · exact quiet_throw _

theorem admitted_ok (h : exec (admitted session csrf_ok) w = (.ok tenant_id, w')) :
    Admitted session csrf_ok w.view tenant_id := by
  obtain ⟨tenant_id', w₁, hadmin, h₁⟩ := exec_bind_ok.1 h
  split_ifs at h₁ with hcsrf
  · obtain ⟨hid, -⟩ := Prod.mk.inj h₁
    obtain rfl := Except.ok.inj hid
    exact ⟨require_admin_ok hadmin, hcsrf⟩
  · cases h₁

theorem runs_admitted (h : Admitted session csrf_ok w.view tenant_id) : Runs (admitted session csrf_ok) 2 w tenant_id w := by
  refine (runs_require_admin h.1).bind (l := 0) ?_
  rw [if_pos h.2]
  exact runs_pure _

/-- The tenant that an administrator is let in to is there. -/
theorem Admitted.tenant (h : Admitted session csrf_ok db tenant_id) : ∃ t ∈ db.tenants, t.tenant_id = tenant_id := by
  have hadmin := h.1
  cases session with
  | none => cases hadmin
  | some session =>
    simp only [Access.require_admin] at hadmin
    split at hadmin
    · cases hadmin
    · rename_i bound _
      split at hadmin
      · cases hadmin
      · rename_i role hrole
        split_ifs at hadmin
        obtain rfl := Except.ok.inj hadmin
        obtain ⟨m, hfind, -⟩ := Option.map_eq_some_iff.1 hrole
        obtain ⟨-, t, ht, hid, -⟩ : _ ∧ ∃ t ∈ db.tenants, t.tenant_id = bound ∧ t.active = true := by
          simpa [MemberDb.access] using List.find?_some hfind
        exact ⟨t, ht, hid⟩

end Parts

/-! ### An invitation -/

section Invitation

variable {db db' : MemberDb} {w w' : MemberWorld} {session : Option Session} {csrf_ok : Bool} {tenant_id : String}
  {issuer email first_name : String} {role : Option String} {drawn : Drawn}

/-- The invitation is one that goes through where nothing fails. -/
structure Invited (session : Option Session) (csrf_ok : Bool) (email first_name : String) (role : Option String)
    (drawn : Drawn) (db : MemberDb) (accounts : List Account) (tenant_id : String) : Prop where
  admitted : Admitted session csrf_ok db tenant_id
  fields : email ≠ "" ∧ first_name ≠ ""
  role : role.getD "viewer" ∈ VALID_ROLES
  account : ∀ a ∈ accounts, a.email ≠ email
  principal : ∀ p ∈ db.principals, p.principal_id ≠ drawn.principal_id ∧ p.idp_subject_ref ≠ some drawn.account_id
  membership : ∀ m ∈ db.memberships, m.membership_id ≠ drawn.membership_id

/-- The principal of a new account. -/
def invitedPrincipal (issuer : String) (drawn : Drawn) : PrincipalRow :=
  ⟨⟨drawn.principal_id, .human_browser_session, true⟩, some drawn.account_id, some issuer⟩

/-- Its membership. -/
def invitedMembership (tenant_id : String) (role : Option String) (drawn : Drawn) : MembershipRow :=
  ⟨drawn.membership_id, tenant_id, drawn.principal_id, role.getD "viewer", .active⟩

/-- The tables after an invitation. -/
def invite (issuer tenant_id : String) (role : Option String) (drawn : Drawn) (db : MemberDb) : MemberDb :=
  { db with
    principals := db.principals ++ [invitedPrincipal issuer drawn]
    memberships := db.memberships ++ [invitedMembership tenant_id role drawn] }

theorem atomic_admin_invite_user : Atomic (admin_invite_user issuer session csrf_ok email first_name role drawn) := by
  refine (quiet_admitted _ _).atomic_bind fun tenant_id => ?_
  dsimp only
  split_ifs
  · exact atomic_throw_bind _
  · exact atomic_throw_bind _
  · exact (quiet_call _).atomic_bind fun sub => atomic_transaction ((quiet_statement _).bind fun _ =>
      (quiet_statement _).bind fun _ => quiet_pure _)
  · exact atomic_throw_bind _

/-- **Key result.** What an invitation that succeeds has done. -/
theorem admin_invite_user_ok {principal_id : String}
    (h : exec (admin_invite_user issuer session csrf_ok email first_name role drawn) w = (.ok principal_id, w')) :
    ∃ tenant_id, Invited session csrf_ok email first_name role drawn w.view w.outside tenant_id ∧
      principal_id = drawn.principal_id ∧ w'.committed = invite issuer tenant_id role drawn w.view ∧
        w'.outside = w.outside ++ [⟨email, drawn.account_id⟩] := by
  obtain ⟨tenant_id, w₁, hadmitted, h₁⟩ := exec_bind_ok.1 h
  obtain ⟨hview, -, houtside⟩ := reads_admitted _ _ hadmitted
  dsimp only at h₁
  by_cases hfields : email = "" ∨ first_name = ""
  · rw [if_pos hfields] at h₁
    cases h₁
  by_cases hrole : role.getD "viewer" ∈ VALID_ROLES
  swap
  · rw [if_neg hfields, if_pos hrole] at h₁
    cases h₁
  rw [if_neg hfields, if_neg (not_not_intro hrole)] at h₁
  obtain ⟨sub, w₂, haccount, h₂⟩ := exec_bind_ok.1 h₁
  obtain ⟨hcreate, -, hview₂⟩ := exec_call_ok haccount
  obtain ⟨w₃, h₃, hcommitted, houtside₃⟩ := transaction_ok h₂
  obtain ⟨_, w₄, hprincipal, h₄⟩ := exec_bind_ok.1 h₃
  obtain ⟨_, w₅, hmembership, h₅⟩ := exec_bind_ok.1 h₄
  obtain ⟨hid, rfl⟩ := Prod.mk.inj h₅
  obtain ⟨hinsert, -, houtside₄⟩ := exec_statement_ok hprincipal
  obtain ⟨hmember, -, houtside₅⟩ := exec_statement_ok hmembership
  unfold create_user at hcreate
  split_ifs at hcreate with hemail
  obtain ⟨rfl, hnew⟩ := Prod.mk.inj (Except.ok.inj hcreate)
  rw [hview₂, hview] at hinsert
  obtain ⟨hfresh, hdb₄⟩ := insertPrincipal_iff.1 hinsert
  obtain ⟨hmembership_id, hdb₅⟩ := insertMembership_ok (map_unit_ok.1 hmember)
  rw [hdb₄] at hmembership_id hdb₅
  refine ⟨tenant_id, ⟨hview ▸ hview.symm ▸ admitted_ok hadmitted, not_or.1 hfields, hrole, ?_, hfresh, hmembership_id⟩,
    (Except.ok.inj hid).symm, ?_, ?_⟩
  · simpa [houtside] using hemail
  · rw [hcommitted, hdb₅]
    rfl
  · rw [houtside₃, houtside₅, houtside₄, ← hnew, houtside]

/-- **Key result.** An invitation goes through, in six steps. -/
theorem runs_admin_invite_user (hdb : w.view.Keys)
    (h : Invited session csrf_ok email first_name role drawn w.view w.outside tenant_id) :
    Runs (admin_invite_user issuer session csrf_ok email first_name role drawn) 6 w drawn.principal_id
      ⟨invite issuer tenant_id role drawn w.view, invite issuer tenant_id role drawn w.view,
        w.outside ++ [⟨email, drawn.account_id⟩], w.steps⟩ := by
  have haccount : create_user email drawn.account_id w.outside =
      .ok (drawn.account_id, w.outside ++ [⟨email, drawn.account_id⟩]) := if_neg (by simpa using h.account)
  have hmembership : insertMembership (invitedMembership tenant_id role drawn)
      { w.view with principals := w.view.principals ++ [invitedPrincipal issuer drawn] } =
        .ok (invite issuer tenant_id role drawn w.view) := by
    refine insertMembership_of_new (fun m hm => ⟨h.membership m hm, ?_⟩) h.admitted.tenant
      ⟨invitedPrincipal issuer drawn, by simp, rfl⟩
    obtain ⟨p, hp, hpid⟩ := hdb.membership_principal m hm
    have hne : m.principal_id ≠ drawn.principal_id := fun hm => (h.principal p hp).1 (hpid.trans hm)
    simp [MembershipRow.ofTenant, invitedMembership, hne]
  refine (runs_admitted h.admitted).bind (l := 4) ?_
  dsimp only
  rw [if_neg (not_or.2 h.fields), if_neg (not_not_intro h.role)]
  refine (runs_call haccount).bind (l := 3) (Runs.transaction (k := 2) w.committed ?_)
  refine Runs.bind (l := 1) (runs_statement (insertPrincipal_iff.2 ⟨h.principal, rfl⟩)) ?_
  exact Runs.bind (l := 0) (runs_statement (map_unit_ok.2 hmembership)) (runs_pure _)

end Invitation

end JLMirror.Access.Members
