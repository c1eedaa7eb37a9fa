import JLMirror.Access.Agreement
import JLMirror.Foundations.Table

/-!
# The administration of a tenant's members

The admin of a tenant invites, promotes, deactivates, reactivates and removes its members
(`bff/main.py`). A membership is a row of the tenant, a principal is shared by all the tenants it acts
in.

## The model

* A request maps the tables to the tables after it, or to the error it answers with.
* The identity provider is a parameter of a request: whether its call succeeds.
* The texts of an invitation are those after `strip`.

## What is proved

* `administer_consistent`: the administration keeps the keys and references of the tables.
* **Key result** (`inside_iff`): the administration of a tenant keeps authority everywhere else if and
  only if it does not turn the account on or off of a principal that holds something elsewhere.

## Honest scope

The reads and the write of a request are one step, so no other request comes between them.
-/

namespace JLMirror.Access

open Foundations

/-! ### The requests -/

/-- `HTTPException`. -/
structure HttpError where
  status : ℕ
  detail : String
  deriving DecidableEq

/-- An exception that nobody catches. -/
def internalServerError : HttpError := ⟨500, "Internal Server Error"⟩

/-- What a call to the identity provider comes to. -/
inductive KeycloakResult where
  | ok
  | email_exists
  | failed
  deriving DecidableEq

/-- The row of a session that is not retired and not expired. -/
structure Session where
  principal_id : String
  bound_tenant_id : Option String
  deriving DecidableEq

/-- What the admin asks for. -/
inductive AdminOperation where
  /-- The principal's id is drawn at random by the handler. -/
  | invite (email first_name : String) (role : Option String) (principal_id : String)
  | update_role (principal_id : String) (role : Option String)
  | deactivate (principal_id : String)
  | reactivate (principal_id : String)
  | delete (principal_id : String)
  deriving DecidableEq

/-- A request of the administration. -/
structure AdminRequest where
  /-- `_resolve_session`. -/
  session : Option Session
  /-- `_csrf_ok`. -/
  csrf_ok : Bool
  /-- The answer of the identity provider, where it is asked. -/
  keycloak : KeycloakResult
  operation : AdminOperation
  deriving DecidableEq

/-- `_VALID_ROLES`. -/
def VALID_ROLES : List String := ["admin", "operator", "viewer", "auditor"]

/-- `_require_admin`: the tenant that the admin is bound to. -/
def require_admin (session : Option Session) (db : AccessDb) : Except HttpError String :=
  match session with
  | none => .error ⟨401, "unauthenticated"⟩
  | some session =>
    match session.bound_tenant_id.filter (· ≠ "") with
    | none => .error ⟨403, "no tenant bound"⟩
    | some bound =>
      match check_membership session.principal_id bound db with
      | none => .error ⟨403, "admin required"⟩
      | some role => if role = "admin" ∨ role = "tenant_admin" then .ok bound else .error ⟨403, "admin required"⟩

/-- The rows of the principal in the tenant, in any state. -/
def TenantMembership.ofTenant (principal_id tenant_id : String) (m : TenantMembership) : Bool :=
  m.principal_id = principal_id ∧ m.tenant_id = tenant_id

/-- `UPDATE g1.principals SET active = … WHERE principal_id = …`. -/
def setActive (principal_id : String) (active : Bool) (db : AccessDb) : AccessDb :=
  { db with principals := updateWhere (fun p => p.principal_id = principal_id) (fun p => { p with active }) db.principals }

/-- `UPDATE g1.tenant_memberships SET role = …`. -/
def setRole (tenant_id principal_id role : String) (db : AccessDb) : AccessDb where
  principals := db.principals
  tenants := db.tenants
  memberships := updateWhere (TenantMembership.ofTenant principal_id tenant_id) (fun m => { m with role }) db.memberships
  roles := db.roles
  grants := db.grants

/-- `admin_invite_user`. -/
def admin_invite_user (tenant_id email first_name : String) (role : Option String) (principal_id : String)
    (keycloak : KeycloakResult) (db : AccessDb) : Except HttpError AccessDb :=
  let role := role.getD "viewer"
  if email = "" ∨ first_name = "" then .error ⟨400, "email and first_name are required"⟩
  else if role ∉ VALID_ROLES then .error ⟨400, s!"invalid role: {role}"⟩
  else match keycloak with
  | .email_exists => .error ⟨409, "email already exists in identity provider"⟩
  | .failed => .error internalServerError
  | .ok =>
    -- the principal's key is the first that an insert can violate
    match insertUnless (fun p => p.principal_id = principal_id) internalServerError
        ⟨principal_id, .human_browser_session, true⟩ db.principals with
    | .error e => .error e
    | .ok principals =>
      match insertUnless (TenantMembership.ofTenant principal_id tenant_id) internalServerError
          ⟨tenant_id, principal_id, role, true⟩ db.memberships with
      | .error e => .error e
      | .ok memberships => .ok { db with principals, memberships }

/-- `admin_update_role`. -/
def admin_update_role (tenant_id principal_id : String) (role : Option String) (db : AccessDb) :
    Except HttpError AccessDb :=
  let role := role.getD ""
  if role ∉ VALID_ROLES then .error ⟨400, s!"invalid role: {role}"⟩
  else if db.memberships.any (TenantMembership.ofTenant principal_id tenant_id) then
    .ok (setRole tenant_id principal_id role db)
  else .error ⟨404, "user not found in this tenant"⟩

/-- The first phase that the last three share: the principal exists and has a row in the tenant. -/
def memberOf (tenant_id principal_id : String) (db : AccessDb) : Except HttpError Unit :=
  if db.principals.all fun p => p.principal_id ≠ principal_id then .error ⟨404, "principal not found"⟩
  else if db.memberships.any (TenantMembership.ofTenant principal_id tenant_id) then .ok ()
  else .error ⟨403, "user not in this tenant"⟩

/-- `admin_deactivate_user` and `admin_reactivate_user`. -/
def admin_set_active (active : Bool) (tenant_id principal_id : String) (keycloak : KeycloakResult) (db : AccessDb) :
    Except HttpError AccessDb :=
  match memberOf tenant_id principal_id db with
  | .error e => .error e
  | .ok () => if keycloak = .ok then .ok (setActive principal_id active db) else .error internalServerError

/-- `total_memberships`. -/
def total_memberships (principal_id : String) (db : AccessDb) : ℕ :=
  db.memberships.countP fun m => m.principal_id = principal_id

/-- The rows of the principal in the tenant go. -/
def removeMembership (tenant_id principal_id : String) (db : AccessDb) : AccessDb :=
  { db with memberships := db.memberships.filter fun m => !m.ofTenant principal_id tenant_id }

/-- `admin_delete_user`. -/
def admin_delete_user (tenant_id principal_id : String) (keycloak : KeycloakResult) (db : AccessDb) :
    Except HttpError AccessDb :=
  match memberOf tenant_id principal_id db with
  | .error e => .error e
  | .ok () =>
    if total_memberships principal_id db = 1 then
      if keycloak = .ok then .ok (setActive principal_id false (removeMembership tenant_id principal_id db))
      else .error internalServerError
    else .ok (removeMembership tenant_id principal_id db)

/-- A request that is admitted, by its operation. -/
def AdminOperation.run (tenant_id : String) (keycloak : KeycloakResult) (db : AccessDb) :
    AdminOperation → Except HttpError AccessDb
  | .invite email first_name role principal_id =>
    admin_invite_user tenant_id email first_name role principal_id keycloak db
  | .update_role principal_id role => admin_update_role tenant_id principal_id role db
  | .deactivate principal_id => admin_set_active false tenant_id principal_id keycloak db
  | .reactivate principal_id => admin_set_active true tenant_id principal_id keycloak db
  | .delete principal_id => admin_delete_user tenant_id principal_id keycloak db

/-- A request of the administration. -/
def administer (request : AdminRequest) (db : AccessDb) : Except HttpError AccessDb :=
  match require_admin request.session db with
  | .error e => .error e
  | .ok tenant_id =>
    if request.csrf_ok then request.operation.run tenant_id request.keycloak db else .error ⟨403, "csrf"⟩

/-- The tables after a result: an error leaves them. -/
def settle (db : AccessDb) : Except HttpError AccessDb → AccessDb
  | .ok db' => db'
  | .error _ => db

/-- The tables after a request. -/
def afterRequest (request : AdminRequest) (db : AccessDb) : AccessDb := settle db (administer request db)

/-! ### The tables stay consistent -/

/-- The keys and references of the tables that authority rests on. -/
structure AccessDb.Consistent (db : AccessDb) : Prop where
  principal_key : (db.principals.map Principal.principal_id).Nodup
  membership_key : (db.memberships.map fun m => (m.tenant_id, m.principal_id)).Nodup
  membership_principal : ∀ m ∈ db.memberships, m.principal_id ∈ db.principals.map Principal.principal_id
  grant_principal : ∀ g ∈ db.grants, g.principal_id ∈ db.principals.map Principal.principal_id

theorem setActive_ids (principal_id : String) (active : Bool) (db : AccessDb) :
    (setActive principal_id active db).principals.map Principal.principal_id =
      db.principals.map Principal.principal_id := by
  rw [setActive, map_updateWhere]
  exact fun _ => rfl

theorem mem_setActive {principal_id : String} {active : Bool} {db : AccessDb} {r : Principal} :
    r ∈ (setActive principal_id active db).principals ↔
      ∃ r₀ ∈ db.principals, (if r₀.principal_id = principal_id then { r₀ with active } else r₀) = r := by
  simp [setActive, mem_updateWhere]

theorem setActive_consistent {principal_id : String} {active : Bool} {db : AccessDb} (h : db.Consistent) :
    (setActive principal_id active db).Consistent where
  principal_key := (setActive_ids principal_id active db).symm ▸ h.principal_key
  membership_key := h.membership_key
  membership_principal := (setActive_ids principal_id active db).symm ▸ h.membership_principal
  grant_principal := (setActive_ids principal_id active db).symm ▸ h.grant_principal

theorem removeMembership_consistent {tenant_id principal_id : String} {db : AccessDb} (h : db.Consistent) :
    (removeMembership tenant_id principal_id db).Consistent where
  principal_key := h.principal_key
  membership_key := h.membership_key.sublist ((List.filter_sublist (p := _)).map _)
  membership_principal := fun m hm => h.membership_principal m (List.mem_of_mem_filter hm)
  grant_principal := h.grant_principal

variable {keycloak : KeycloakResult}

/-- What an invitation inserts. -/
theorem admin_invite_user_ok {tenant_id email first_name principal_id : String} {role : Option String}
    {db db' : AccessDb} (h : admin_invite_user tenant_id email first_name role principal_id keycloak db = .ok db') :
    principal_id ∉ db.principals.map Principal.principal_id ∧
      db' = { db with
        principals := db.principals ++ [⟨principal_id, .human_browser_session, true⟩]
        memberships := db.memberships ++ [⟨tenant_id, principal_id, role.getD "viewer", true⟩] } := by
  dsimp only [admin_invite_user] at h
  split_ifs at h
  split at h
  · cases h
  · cases h
  · split at h
    · cases h
    · rename_i principals hp
      split at h
      · cases h
      · rename_i memberships hm
        obtain ⟨hnew, rfl⟩ := insertUnless_ok_iff.1 hp
        obtain ⟨-, rfl⟩ := insertUnless_ok_iff.1 hm
        refine ⟨fun hmem => ?_, (Except.ok.inj h).symm⟩
        obtain ⟨p, hp, hid⟩ := List.mem_map.1 hmem
        exact absurd (hnew p hp) (by simp [hid])

theorem admin_update_role_ok {tenant_id principal_id : String} {role : Option String} {db db' : AccessDb}
    (h : admin_update_role tenant_id principal_id role db = .ok db') :
    db' = setRole tenant_id principal_id (role.getD "") db := by
  dsimp only [admin_update_role] at h
  split_ifs at h
  exact (Except.ok.inj h).symm

/-- The administration keeps the tables consistent. -/
theorem AdminOperation.run_consistent {tenant_id : String} {db db' : AccessDb} {operation : AdminOperation}
    (hdb : db.Consistent) (h : operation.run tenant_id keycloak db = .ok db') : db'.Consistent := by
  cases operation with
  | invite email first_name role principal_id =>
    obtain ⟨hnew, rfl⟩ := admin_invite_user_ok h
    constructor
    · simpa [List.nodup_append, hdb.principal_key] using hnew
    · rw [List.map_append, List.nodup_append]
      refine ⟨hdb.membership_key, List.nodup_singleton _, ?_⟩
      rintro key hkey _ hkey' rfl
      obtain ⟨m, hm, rfl⟩ := List.mem_map.1 hkey
      obtain rfl : m.principal_id = principal_id := by simpa using congrArg Prod.snd (List.mem_singleton.1 hkey')
      exact hnew (hdb.membership_principal m hm)
    · intro m hm
      rcases List.mem_append.1 hm with hm | hm
      · simpa using Or.inl (List.mem_map.1 (hdb.membership_principal m hm))
      · simp [List.mem_singleton.1 hm]
    · exact fun g hg => by simpa using Or.inl (List.mem_map.1 (hdb.grant_principal g hg))
  | update_role principal_id role =>
    obtain rfl := admin_update_role_ok h
    refine ⟨hdb.principal_key, ?_, ?_, hdb.grant_principal⟩
    · rw [setRole, map_updateWhere]
      · exact hdb.membership_key
      · exact fun _ => rfl
    · intro m hm
      obtain ⟨m₀, hm₀, rfl⟩ := mem_updateWhere.1 hm
      split_ifs <;> exact hdb.membership_principal m₀ hm₀
  | deactivate | reactivate =>
    dsimp only [run, admin_set_active] at h
    split at h
    · cases h
    · split_ifs at h
      obtain rfl := Except.ok.inj h
      exact setActive_consistent hdb
  | delete =>
    dsimp only [run, admin_delete_user] at h
    split at h
    · cases h
    · split_ifs at h
      · obtain rfl := Except.ok.inj h
        exact setActive_consistent (removeMembership_consistent hdb)
      · obtain rfl := Except.ok.inj h
        exact removeMembership_consistent hdb

/-! ### The kind of a principal -/

section Kinds

variable {principal_id : String} {db : AccessDb}

theorem activeKind_of_mem (hdb : db.Consistent) {r : Principal} (hr : r ∈ db.principals) :
    activeKind r.principal_id db = if r.active = true then some r.kind else none := by
  rw [activeKind, find?_of_key hdb.principal_key hr fun _ h => (of_decide_eq_true h).1]
  by_cases hact : r.active = true <;> simp [hact]

theorem activeKind_of_not_mem (h : principal_id ∉ db.principals.map Principal.principal_id) :
    activeKind principal_id db = none := by
  rw [activeKind, List.find?_eq_none.2, Option.map_none]
  exact fun r hr hid => h (List.mem_map.2 ⟨r, hr, (of_decide_eq_true hid).1⟩)

/-- The query for the capability is about the same row. -/
theorem platform_iff (hdb : db.Consistent) :
    principal_is_platform_admin principal_id db = true ↔
      activeKind principal_id db = some .platform_admin_principal := by
  simp only [principal_is_platform_admin, List.any_eq_true, decide_eq_true_eq]
  constructor
  · rintro ⟨r, hr, rfl, hact, hkind⟩
    rw [activeKind_of_mem hdb hr, if_pos hact, hkind]
  · intro h
    obtain ⟨r, hfind, hkind⟩ := Option.map_eq_some_iff.1 h
    have hrow := List.find?_some hfind
    simp only [decide_eq_true_eq] at hrow
    obtain ⟨hid, hact⟩ := hrow
    exact ⟨r, List.mem_of_find?_eq_some hfind, hid, hact, hkind⟩

/-- Turning another account on or off does not touch the principal. -/
theorem activeKind_setActive_of_ne {other : String} (hne : principal_id ≠ other) (active : Bool) :
    activeKind principal_id (setActive other active db) = activeKind principal_id db := by
  rw [activeKind, setActive, find?_updateWhere, Option.map_map, activeKind]
  · congr 1
    funext r
    simp only [Function.comp_apply]
    split_ifs <;> rfl
  · intro r hr
    have hid : r.principal_id ≠ principal_id := fun h => hne (h.symm.trans (of_decide_eq_true hr))
    simp [hid]

theorem activeKind_setActive (hdb : db.Consistent) {r : Principal} (hr : r ∈ db.principals) (active : Bool) :
    activeKind r.principal_id (setActive r.principal_id active db) = if active = true then some r.kind else none := by
  have hmem : { r with active } ∈ (setActive r.principal_id active db).principals :=
    mem_setActive.2 ⟨r, hr, if_pos rfl⟩
  exact activeKind_of_mem (setActive_consistent hdb) hmem

end Kinds

/-! ### Authority elsewhere -/

/-- What the principal may do in the tenant and whether it may act there are as before. -/
def KeptAt (now : ℕ) (principal_id tenant_id : String) (db db' : AccessDb) : Prop :=
  effective_permissions now principal_id tenant_id db' = effective_permissions now principal_id tenant_id db ∧
    tenant_authorized now principal_id tenant_id db' = tenant_authorized now principal_id tenant_id db

/-- They are, for everybody in every other tenant. -/
def KeptOutside (now : ℕ) (tenant_id : String) (db db' : AccessDb) : Prop :=
  ∀ t ∈ db.tenants, t.tenant_id ≠ tenant_id → ∀ principal_id, KeptAt now principal_id t.tenant_id db db'

/-- The principal would have no authority on the tenant, were it active. -/
structure HoldsNothing (now : ℕ) (principal_id tenant_id : String) (db : AccessDb) : Prop where
  kind : ∀ r ∈ db.principals, r.principal_id = principal_id → r.kind = .human_browser_session
  memberships : ∀ m ∈ db.memberships, m.holds principal_id tenant_id = true → rolePermissions tenant_id m.role db = ∅
  grants : ∀ g ∈ activeGrants now principal_id tenant_id db, known g.permissions = ∅

section Kept

variable {now : ℕ} {principal_id tenant_id : String} {db db' : AccessDb}

/-- Authority on a tenant reads the principal's row, its memberships there, the roles and the grants. -/
theorem keptAt_of_same (hdb : db.Consistent) (hdb' : db'.Consistent)
    (hkind : activeKind principal_id db' = activeKind principal_id db)
    (hm : ∀ m : TenantMembership, m.holds principal_id tenant_id = true → (m ∈ db'.memberships ↔ m ∈ db.memberships))
    (hroles : db'.roles = db.roles) (hgrants : db'.grants = db.grants) :
    KeptAt now principal_id tenant_id db db' := by
  have hplatform : principal_is_platform_admin principal_id db' = principal_is_platform_admin principal_id db := by
    rw [Bool.eq_iff_iff, platform_iff hdb, platform_iff hdb', hkind]
  have hmember : ∀ P : TenantMembership → Prop,
      (∃ m ∈ db'.memberships, m.holds principal_id tenant_id = true ∧ P m) ↔
        ∃ m ∈ db.memberships, m.holds principal_id tenant_id = true ∧ P m := by
    intro P
    constructor
    · rintro ⟨m, hmem, hh, hP⟩
      exact ⟨m, (hm m hh).1 hmem, hh, hP⟩
    · rintro ⟨m, hmem, hh, hP⟩
      exact ⟨m, (hm m hh).2 hmem, hh, hP⟩
  constructor
  · ext p
    simp only [mem_effective_permissions, hkind, hplatform, activeGrants, hgrants, hmember, rolePermissions, hroles]
  · rw [Bool.eq_iff_iff, tenant_authorized_iff, tenant_authorized_iff, hplatform, Granted, Granted, hgrants]
    have := hmember fun _ => True
    simp only [and_true] at this
    rw [Member, Member, this]

variable {r : Principal}

/-- An active principal has no permissions if and only if it holds nothing. -/
theorem effective_eq_empty_iff (hdb : db.Consistent) (hr : r ∈ db.principals) (hact : r.active = true) :
    effective_permissions now r.principal_id tenant_id db = ∅ ↔ HoldsNothing now r.principal_id tenant_id db := by
  have hkind : activeKind r.principal_id db = some r.kind := by rw [activeKind_of_mem hdb hr, if_pos hact]
  constructor
  · intro h
    have hno : ∀ p, p ∉ effective_permissions now r.principal_id tenant_id db := by simp [h]
    simp only [mem_effective_permissions, not_exists, not_and, not_or] at hno
    refine ⟨fun r' hr' hid => ?_, fun m hm hh => ?_, fun g hg => ?_⟩
    · obtain rfl := eq_of_key hdb.principal_key hr' hr hid
      cases hk : r'.kind with
      | human_browser_session => rfl
      | display_principal => exact absurd (by decide) ((hno .tenant_read _ hkind).1 hk)
      | platform_admin_principal => exact absurd ((platform_iff hdb).2 (hkind.trans (by rw [hk]))) (hno .tenant_read _ hkind).2.2.2
    · exact Finset.eq_empty_of_forall_notMem fun p hp => (hno p _ hkind).2.1 m hm hh hp
    · exact Finset.eq_empty_of_forall_notMem fun p hp => (hno p _ hkind).2.2.1 g hg (mem_known.1 hp)
  · intro h
    refine Finset.eq_empty_of_forall_notMem fun p hp => ?_
    obtain ⟨kind, hk, hp⟩ := mem_effective_permissions.1 hp
    have hhuman : kind = .human_browser_session := (Option.some.inj (hk.symm.trans hkind)).trans (h.kind r hr rfl)
    rcases hp with ⟨hd, -⟩ | ⟨m, hm, hh, hp⟩ | ⟨g, hg, hp⟩ | hp
    · exact nomatch hhuman.symm.trans hd
    · exact absurd (h.memberships m hm hh ▸ hp) (Finset.notMem_empty p)
    · exact absurd (h.grants g hg ▸ mem_known.2 hp) (Finset.notMem_empty p)
    · rw [platform_iff hdb, hk, hhuman] at hp
      exact nomatch hp

theorem effective_of_inactive (h : activeKind principal_id db = none) :
    effective_permissions now principal_id tenant_id db = ∅ := by
  rw [effective_permissions, h]

/-- Whether an account is on says nothing about what it would hold. -/
theorem holdsNothing_setActive (other : String) (active : Bool) :
    HoldsNothing now principal_id tenant_id (setActive other active db) ↔
      HoldsNothing now principal_id tenant_id db := by
  constructor
  · intro h
    refine ⟨fun r hr hid => ?_, h.memberships, h.grants⟩
    have hk := h.kind _ (mem_setActive.2 ⟨r, hr, rfl⟩)
    split_ifs at hk
    · exact hk hid
    · exact hk hid
  · intro h
    refine ⟨fun r hr hid => ?_, h.memberships, h.grants⟩
    obtain ⟨r₀, hr₀, rfl⟩ := mem_setActive.1 hr
    split_ifs at hid ⊢ <;> exact h.kind r₀ hr₀ hid

/-- Turning the account on or off keeps the principal's authority on a tenant if and only if that changes
nothing or the principal holds nothing there. -/
theorem keptAt_setActive_iff (hdb : db.Consistent) (hr : r ∈ db.principals) (active : Bool) :
    KeptAt now r.principal_id tenant_id db (setActive r.principal_id active db) ↔
      (r.active ≠ active → HoldsNothing now r.principal_id tenant_id db) := by
  have hdb' : (setActive r.principal_id active db).Consistent := setActive_consistent hdb
  have hkind := activeKind_of_mem hdb hr
  have hkind' := activeKind_setActive hdb hr active
  by_cases heq : r.active = active
  · refine iff_of_true (keptAt_of_same hdb hdb' ?_ (fun _ _ => Iff.rfl) rfl rfl) (absurd heq)
    rw [hkind, hkind', heq]
  · rw [forall_prop_of_true heq]
    -- one of the two states has the account on, the other gives it nothing
    have heff : effective_permissions now r.principal_id tenant_id (setActive r.principal_id active db) =
        effective_permissions now r.principal_id tenant_id db ↔ HoldsNothing now r.principal_id tenant_id db := by
      cases active with
      | false =>
        have hact : r.active = true := by simpa using heq
        rw [effective_of_inactive (by simpa using hkind'), eq_comm]
        exact effective_eq_empty_iff hdb hr hact
      | true =>
        have hact : r.active = false := by simpa using heq
        have hoff : effective_permissions now r.principal_id tenant_id db = ∅ :=
          effective_of_inactive (by simpa [hact] using hkind)
        have hmem : { r with active := true } ∈ (setActive r.principal_id true db).principals :=
          mem_setActive.2 ⟨r, hr, if_pos rfl⟩
        rw [hoff]
        exact (effective_eq_empty_iff hdb' hmem rfl).trans (holdsNothing_setActive _ _)
    refine ⟨fun h => heff.1 h.1, fun h => ⟨heff.2 h, ?_⟩⟩
    have hhuman := h.kind r hr rfl
    rw [Bool.eq_iff_iff, tenant_authorized_iff, tenant_authorized_iff, platform_iff hdb, platform_iff hdb', hkind,
      hkind', hhuman]
    have hno : ∀ b : Bool, (if b = true then some PrincipalKind.human_browser_session else none) ≠
        some .platform_admin_principal := by decide
    simp only [hno, or_false]
    rfl

theorem keptAt_setActive_of_ne (hdb : db.Consistent) {other : String} (hne : principal_id ≠ other) (active : Bool) :
    KeptAt now principal_id tenant_id db (setActive other active db) :=
  keptAt_of_same hdb (setActive_consistent hdb) (activeKind_setActive_of_ne hne active) (fun _ _ => Iff.rfl) rfl rfl

/-- Turning an account on or off keeps authority elsewhere if and only if that changes nothing or the
principal holds nothing elsewhere. -/
theorem keptOutside_setActive_iff (hdb : db.Consistent) (hr : r ∈ db.principals) (active : Bool) :
    KeptOutside now tenant_id db (setActive r.principal_id active db) ↔
      (r.active ≠ active → ∀ t ∈ db.tenants, t.tenant_id ≠ tenant_id → HoldsNothing now r.principal_id t.tenant_id db) := by
  constructor
  · intro h hne t ht htid
    exact (keptAt_setActive_iff hdb hr active).1 (h t ht htid r.principal_id) hne
  · intro h t ht htid q
    by_cases hq : q = r.principal_id
    · subst hq
      exact (keptAt_setActive_iff hdb hr active).2 fun hne => h hne t ht htid
    · exact keptAt_setActive_of_ne hdb hq active

theorem keptAt_removeMembership (hdb : db.Consistent) {other q : String} (hne : tenant_id ≠ other) :
    KeptAt now principal_id tenant_id db (removeMembership other q db) := by
  refine keptAt_of_same hdb (removeMembership_consistent hdb) rfl (fun m hm => ?_) rfl rfl
  have htid : m.tenant_id ≠ other := fun h => hne ((TenantMembership.holds_iff.1 hm).1.symm.trans h)
  simp [removeMembership, TenantMembership.ofTenant, htid]

end Kept

/-! ### The administration and authority elsewhere -/

/-- The account that the operation turns on or off, where it comes to that. -/
def AdminOperation.switches (tenant_id : String) (keycloak : KeycloakResult) (db : AccessDb) :
    AdminOperation → Option (String × Bool)
  | .invite .. => none
  | .update_role .. => none
  | .deactivate principal_id =>
    if memberOf tenant_id principal_id db = .ok () ∧ keycloak = .ok then some (principal_id, false) else none
  | .reactivate principal_id =>
    if memberOf tenant_id principal_id db = .ok () ∧ keycloak = .ok then some (principal_id, true) else none
  | .delete principal_id =>
    if memberOf tenant_id principal_id db = .ok () ∧ total_memberships principal_id db = 1 ∧ keycloak = .ok then
      some (principal_id, false)
    else none

/-- The request turns no account on or off whose principal holds something in another tenant. -/
def SwitchesInside (now : ℕ) (tenant_id : String) (request : AdminRequest) (db : AccessDb) : Prop :=
  ∀ principal_id active, request.csrf_ok = true →
    request.operation.switches tenant_id request.keycloak db = some (principal_id, active) →
      ∀ r ∈ db.principals, r.principal_id = principal_id → r.active ≠ active →
        ∀ t ∈ db.tenants, t.tenant_id ≠ tenant_id → HoldsNothing now principal_id t.tenant_id db

section Inside

variable {now : ℕ} {tenant_id principal_id : String} {db db' : AccessDb}

theorem keptOutside_refl : KeptOutside now tenant_id db db := fun _ _ _ _ => ⟨rfl, rfl⟩

theorem exists_of_memberOf (h : memberOf tenant_id principal_id db = .ok ()) :
    ∃ r ∈ db.principals, r.principal_id = principal_id := by
  unfold memberOf at h
  split_ifs at h with hall
  simpa using hall

variable {keycloak : KeycloakResult}

/-- An invitation adds a principal that held nothing. -/
theorem keptOutside_invite {email first_name : String} {role : Option String} (hdb : db.Consistent)
    (h : admin_invite_user tenant_id email first_name role principal_id keycloak db = .ok db') :
    KeptOutside now tenant_id db db' := by
  have hrun : (AdminOperation.invite email first_name role principal_id).run tenant_id keycloak db = .ok db' := h
  have hdb' := AdminOperation.run_consistent hdb hrun
  obtain ⟨hnew, rfl⟩ := admin_invite_user_ok h
  intro t ht htid q
  have hm : ∀ m : TenantMembership, m.holds q t.tenant_id = true →
      (m ∈ db.memberships ++ [⟨tenant_id, principal_id, role.getD "viewer", true⟩] ↔ m ∈ db.memberships) := by
    intro m hm
    have hne : m ≠ ⟨tenant_id, principal_id, role.getD "viewer", true⟩ := by
      rintro rfl
      exact htid (TenantMembership.holds_iff.1 hm).1.symm
    simp [hne]
  by_cases hq : q = principal_id
  · subst hq
    have hoff : activeKind q db = none := activeKind_of_not_mem hnew
    have hnothing : HoldsNothing now q t.tenant_id
        { db with
          principals := db.principals ++ [⟨q, .human_browser_session, true⟩]
          memberships := db.memberships ++ [⟨tenant_id, q, role.getD "viewer", true⟩] } := by
      refine ⟨fun r hr hid => ?_, fun m hmem hh => ?_, fun g hg => ?_⟩
      · rcases List.mem_append.1 hr with hr | hr
        · exact absurd (List.mem_map.2 ⟨r, hr, hid⟩) hnew
        · rw [List.mem_singleton.1 hr]
      · have hid := (TenantMembership.holds_iff.1 hh).2.1
        exact absurd (hid ▸ hdb.membership_principal m ((hm m hh).1 hmem)) hnew
      · obtain ⟨hg, hh⟩ := mem_activeGrants.1 hg
        exact absurd (DelegatedGrant.holds_principal hh ▸ hdb.grant_principal g hg) hnew
    have hmem : (⟨q, .human_browser_session, true⟩ : Principal) ∈
        db.principals ++ [⟨q, .human_browser_session, true⟩] := by simp
    constructor
    · rw [effective_of_inactive hoff]
      exact (effective_eq_empty_iff hdb' hmem rfl).2 hnothing
    · have hkind := activeKind_of_mem hdb' hmem
      rw [Bool.eq_iff_iff, tenant_authorized_iff, tenant_authorized_iff, platform_iff hdb, platform_iff hdb', hoff,
        hkind]
      have hmember : Member q t.tenant_id
          { db with
            principals := db.principals ++ [⟨q, .human_browser_session, true⟩]
            memberships := db.memberships ++ [⟨tenant_id, q, role.getD "viewer", true⟩] } ↔ Member q t.tenant_id db := by
        constructor
        · rintro ⟨m, hmem, hh⟩
          exact ⟨m, (hm m hh).1 hmem, hh⟩
        · rintro ⟨m, hmem, hh⟩
          exact ⟨m, (hm m hh).2 hmem, hh⟩
      simp [hmember, Granted]
  · refine keptAt_of_same hdb hdb' ?_ hm rfl rfl
    simp [activeKind, List.find?_append, Ne.symm hq]

/-- A change of role is one of the tenant. -/
theorem keptOutside_setRole {role : String} (hdb : db.Consistent)
    (hdb' : (setRole tenant_id principal_id role db).Consistent) :
    KeptOutside now tenant_id db (setRole tenant_id principal_id role db) := by
  intro t ht htid q
  refine keptAt_of_same hdb hdb' rfl (fun m hm => ?_) rfl rfl
  have hother : m.tenant_id ≠ tenant_id := fun h => htid ((TenantMembership.holds_iff.1 hm).1.symm.trans h)
  constructor
  · intro hmem
    obtain ⟨m₀, hm₀, rfl⟩ := mem_updateWhere.1 hmem
    split_ifs at hother ⊢ with hof
    · exact absurd (of_decide_eq_true hof).2 hother
    · exact hm₀
  · exact fun hmem => mem_updateWhere_of_not hmem (by simp [TenantMembership.ofTenant, hother])

/-- What a principal holds elsewhere does not hang on its membership here. -/
theorem holdsNothing_removeMembership {t : String} (ht : t ≠ tenant_id) {q : String} :
    HoldsNothing now q t (removeMembership tenant_id principal_id db) ↔ HoldsNothing now q t db := by
  have hmem : ∀ m : TenantMembership, m.holds q t = true →
      (m ∈ (removeMembership tenant_id principal_id db).memberships ↔ m ∈ db.memberships) := by
    intro m hm
    have hother : m.tenant_id ≠ tenant_id := fun h => ht ((TenantMembership.holds_iff.1 hm).1.symm.trans h)
    simp [removeMembership, TenantMembership.ofTenant, hother]
  constructor
  · exact fun h => ⟨h.kind, fun m hm hh => h.memberships m ((hmem m hh).2 hm) hh, h.grants⟩
  · exact fun h => ⟨h.kind, fun m hm hh => h.memberships m ((hmem m hh).1 hm) hh, h.grants⟩

/-- A row that goes first makes no difference elsewhere. -/
theorem keptOutside_of_removeMembership (hdb : db.Consistent) :
    KeptOutside now tenant_id (removeMembership tenant_id principal_id db) db' ↔ KeptOutside now tenant_id db db' := by
  constructor
  · intro h t ht htid q
    obtain ⟨heff, hauth⟩ : KeptAt now q t.tenant_id db (removeMembership tenant_id principal_id db) :=
      keptAt_removeMembership hdb htid
    exact ⟨(h t ht htid q).1.trans heff, (h t ht htid q).2.trans hauth⟩
  · intro h t ht htid q
    obtain ⟨heff, hauth⟩ : KeptAt now q t.tenant_id db (removeMembership tenant_id principal_id db) :=
      keptAt_removeMembership hdb htid
    exact ⟨(h t ht htid q).1.trans heff.symm, (h t ht htid q).2.trans hauth.symm⟩

/-- Turning a member's account on or off, by the condition of `SwitchesInside`. -/
theorem keptOutside_switch_iff (hdb : db.Consistent) (h : memberOf tenant_id principal_id db = .ok ())
    (active : Bool) : KeptOutside now tenant_id db (setActive principal_id active db) ↔
      ∀ r ∈ db.principals, r.principal_id = principal_id → r.active ≠ active →
        ∀ t ∈ db.tenants, t.tenant_id ≠ tenant_id → HoldsNothing now principal_id t.tenant_id db := by
  obtain ⟨r, hr, rfl⟩ := exists_of_memberOf h
  rw [keptOutside_setActive_iff hdb hr]
  constructor
  · intro hkeep r' hr' hid
    obtain rfl := eq_of_key hdb.principal_key hr' hr hid
    exact hkeep
  · exact fun hcond => hcond r hr rfl

theorem admin_set_active_eq (active : Bool) (keycloak : KeycloakResult) :
    settle db (admin_set_active active tenant_id principal_id keycloak db) =
      if memberOf tenant_id principal_id db = .ok () ∧ keycloak = .ok then setActive principal_id active db else db := by
  unfold admin_set_active
  cases hm : memberOf tenant_id principal_id db with
  | error e => simp [settle]
  | ok u => by_cases hk : keycloak = .ok <;> simp [settle, hk]

theorem keptOutside_set_active_iff (hdb : db.Consistent) (active : Bool) (keycloak : KeycloakResult) :
    KeptOutside now tenant_id db (settle db (admin_set_active active tenant_id principal_id keycloak db)) ↔
      (memberOf tenant_id principal_id db = .ok () ∧ keycloak = .ok →
        ∀ r ∈ db.principals, r.principal_id = principal_id → r.active ≠ active →
          ∀ t ∈ db.tenants, t.tenant_id ≠ tenant_id → HoldsNothing now principal_id t.tenant_id db) := by
  rw [admin_set_active_eq]
  split_ifs with h
  · rw [forall_prop_of_true h]
    exact keptOutside_switch_iff hdb h.1 active
  · exact iff_of_true keptOutside_refl fun h' => absurd h' h

theorem keptOutside_delete_iff (hdb : db.Consistent) (keycloak : KeycloakResult) :
    KeptOutside now tenant_id db (settle db (admin_delete_user tenant_id principal_id keycloak db)) ↔
      (memberOf tenant_id principal_id db = .ok () ∧ total_memberships principal_id db = 1 ∧ keycloak = .ok →
        ∀ r ∈ db.principals, r.principal_id = principal_id → r.active ≠ false →
          ∀ t ∈ db.tenants, t.tenant_id ≠ tenant_id → HoldsNothing now principal_id t.tenant_id db) := by
  have hremove : KeptOutside now tenant_id db (removeMembership tenant_id principal_id db) :=
    (keptOutside_of_removeMembership hdb).1 keptOutside_refl
  unfold admin_delete_user
  cases hm : memberOf tenant_id principal_id db with
  | error e => exact iff_of_true keptOutside_refl fun h => nomatch h.1
  | ok u =>
    by_cases htotal : total_memberships principal_id db = 1
    · by_cases hk : keycloak = .ok
      · simp only [htotal, hk, if_true, settle, and_self, forall_const]
        obtain ⟨r, hr, rfl⟩ := exists_of_memberOf hm
        have hremoved : KeptOutside now tenant_id (removeMembership tenant_id r.principal_id db)
            (setActive r.principal_id false (removeMembership tenant_id r.principal_id db)) ↔
              KeptOutside now tenant_id db
                (setActive r.principal_id false (removeMembership tenant_id r.principal_id db)) :=
          keptOutside_of_removeMembership hdb
        rw [← hremoved, keptOutside_setActive_iff (removeMembership_consistent hdb) hr]
        constructor
        · intro h r' hr' hid hne t ht htid
          obtain rfl := eq_of_key hdb.principal_key hr' hr hid
          exact (holdsNothing_removeMembership htid).1 (h hne t ht htid)
        · exact fun h hne t ht htid => (holdsNothing_removeMembership htid).2 (h r hr rfl hne t ht htid)
      · simp only [htotal, hk, if_true, if_false, settle]
        exact iff_of_true keptOutside_refl fun h => absurd h.2.2 id
    · simp only [htotal, if_false, settle]
      exact iff_of_true hremove fun h => absurd h.2.1 id

/-- An operation that is admitted keeps authority elsewhere if and only if its switch does. -/
theorem AdminOperation.keptOutside_iff {operation : AdminOperation} (hdb : db.Consistent) :
    KeptOutside now tenant_id db (settle db (operation.run tenant_id keycloak db)) ↔
      ∀ principal_id active, operation.switches tenant_id keycloak db = some (principal_id, active) →
        ∀ r ∈ db.principals, r.principal_id = principal_id → r.active ≠ active →
          ∀ t ∈ db.tenants, t.tenant_id ≠ tenant_id → HoldsNothing now principal_id t.tenant_id db := by
  cases operation with
  | invite email first_name role principal_id =>
    refine iff_of_true ?_ (by simp [switches])
    rw [run]
    cases h : admin_invite_user tenant_id email first_name role principal_id keycloak db with
    | error e => exact keptOutside_refl
    | ok db' => exact keptOutside_invite hdb h
  | update_role principal_id role =>
    refine iff_of_true ?_ (by simp [switches])
    rw [run]
    cases h : admin_update_role tenant_id principal_id role db with
    | error e => exact keptOutside_refl
    | ok db' =>
      have hrun : (AdminOperation.update_role principal_id role).run tenant_id keycloak db = .ok db' := h
      obtain rfl := admin_update_role_ok h
      exact keptOutside_setRole hdb (run_consistent hdb hrun)
  | deactivate principal_id =>
    rw [run, keptOutside_set_active_iff hdb]
    simp only [switches, Option.ite_none_right_eq_some, Option.some.injEq, Prod.mk.injEq]
    exact ⟨fun h _ _ ⟨hsw, hp, ha⟩ => hp ▸ ha ▸ h hsw, fun h hsw => h _ _ ⟨hsw, rfl, rfl⟩⟩
  | reactivate principal_id =>
    rw [run, keptOutside_set_active_iff hdb]
    simp only [switches, Option.ite_none_right_eq_some, Option.some.injEq, Prod.mk.injEq]
    exact ⟨fun h _ _ ⟨hsw, hp, ha⟩ => hp ▸ ha ▸ h hsw, fun h hsw => h _ _ ⟨hsw, rfl, rfl⟩⟩
  | delete principal_id =>
    rw [run, keptOutside_delete_iff hdb]
    simp only [switches, Option.ite_none_right_eq_some, Option.some.injEq, Prod.mk.injEq]
    exact ⟨fun h _ _ ⟨hsw, hp, ha⟩ => hp ▸ ha ▸ h hsw, fun h hsw => h _ _ ⟨hsw, rfl, rfl⟩⟩

end Inside

/-- **Key result.** A request of the admin of a tenant keeps what everybody may do in every other tenant if
and only if it turns no account on or off whose principal holds something there. -/
theorem inside_iff {now : ℕ} {tenant_id : String} {request : AdminRequest} {db : AccessDb} (hdb : db.Consistent)
    (hadmin : require_admin request.session db = .ok tenant_id) :
    KeptOutside now tenant_id db (afterRequest request db) ↔ SwitchesInside now tenant_id request db := by
  rw [afterRequest, administer, hadmin, SwitchesInside]
  by_cases hcsrf : request.csrf_ok = true
  · simp only [hcsrf, if_true, forall_const]
    exact AdminOperation.keptOutside_iff hdb
  · simp only [hcsrf, settle]
    exact iff_of_true keptOutside_refl (by simp)

/-- Two tenants, the admin of the first, and a principal that is a member of both. -/
def sharedMember : AccessDb where
  principals := [⟨"admin", .human_browser_session, true⟩, ⟨"p", .human_browser_session, true⟩]
  tenants := [⟨"a", "A", true⟩, ⟨"b", "B", true⟩]
  memberships := [⟨"a", "admin", "admin", true⟩, ⟨"a", "p", "viewer", true⟩, ⟨"b", "p", "viewer", true⟩]
  roles := []
  grants := []

/-- The admin of the first tenant, with the operation. -/
def byAdmin (operation : AdminOperation) : AdminRequest := ⟨some ⟨"admin", some "a"⟩, true, .ok, operation⟩

theorem sharedMember_consistent : sharedMember.Consistent := by
  constructor <;> decide

/-- To remove the member from the first tenant keeps what it may do in the second. -/
theorem inside_iff_delete : KeptOutside 1 "a" sharedMember (afterRequest (byAdmin (.delete "p")) sharedMember) ↔
    SwitchesInside 1 "a" (byAdmin (.delete "p")) sharedMember :=
  inside_iff sharedMember_consistent (by decide)

/-- To deactivate it does not. -/
theorem inside_deactivate : ¬∀ (now : ℕ) (tenant_id : String) (request : AdminRequest) (db : AccessDb),
    db.Consistent → require_admin request.session db = .ok tenant_id →
      KeptOutside now tenant_id db (afterRequest request db) := by
  intro h
  have hkept := h 1 "a" (byAdmin (.deactivate "p")) sharedMember sharedMember_consistent (by decide)
  have hread : Permission.tenant_read ∈ effective_permissions 1 "p" "b" sharedMember := by decide
  rw [← (hkept ⟨"b", "B", true⟩ (by decide) (by decide) "p").1] at hread
  exact absurd hread (by decide)

end JLMirror.Access
