import Mathlib.Data.Finset.Union

/-!
# Effective authority

`shared/access.py`: what a principal may do in a tenant, by its memberships, the grants delegated to
it and its kind. Five queries restate the same rules over the tables of `sql/g1`, and the binding of a
session in the shell has a sixth (`bff/identity.py`).

## The model

* Each function of `shared/access.py` maps the tables and the time to its answer. The vocabulary of
  permissions is a type; the texts in the arrays of grants and roles outside of it are dropped, as the
  code drops them.
* `resource_scope` is what iterating its `monitoring_source_ids` yields, empty where there is no such
  entry.

## What is proved

One `iff` for each function: `mem_effective_permissions`, `accessible_iff`, `allowed_eq_none_iff`,
`mem_allowed`, `tenant_authorized_iff`, `check_membership_iff`.

## Honest scope

`monitoring_source_ids` that is neither iterable nor empty, where the code raises, is left out.
-/

namespace JLMirror.Access

/-! ### Permissions -/

/-- `PERMISSIONS`. -/
inductive Permission where
  | tenant_read
  | tenant_admin
  | monitoring_read
  | monitoring_operate
  | alerting_read
  | alerting_operate
  | observability_read
  | audit_read
  deriving DecidableEq

/-- Its text. -/
def Permission.text : Permission → String
  | .tenant_read => "tenant:read"
  | .tenant_admin => "tenant:admin"
  | .monitoring_read => "monitoring:read"
  | .monitoring_operate => "monitoring:operate"
  | .alerting_read => "alerting:read"
  | .alerting_operate => "alerting:operate"
  | .observability_read => "observability:read"
  | .audit_read => "audit:read"

/-- `TENANT_ALL`. -/
def TENANT_ALL : Finset Permission :=
  {.tenant_read, .tenant_admin, .monitoring_read, .monitoring_operate, .alerting_read, .alerting_operate,
    .observability_read, .audit_read}

/-- What an operator may do. -/
def operatorPermissions : Finset Permission :=
  {.tenant_read, .monitoring_read, .monitoring_operate, .alerting_read, .alerting_operate, .observability_read, .audit_read}

/-- `ROLE_PERMISSIONS.get(role, frozenset())`. -/
def ROLE_PERMISSIONS (role : String) : Finset Permission :=
  if role = "admin" then TENANT_ALL
  else if role = "tenant_admin" then TENANT_ALL
  else if role = "operator" then operatorPermissions
  else if role = "member" then operatorPermissions
  else if role = "viewer" then {.tenant_read, .monitoring_read, .alerting_read, .observability_read}
  else if role = "auditor" then {.tenant_read, .observability_read, .audit_read, .monitoring_read}
  else ∅

/-- `DISPLAY_PERMISSIONS`. -/
def DISPLAY_PERMISSIONS : Finset Permission := {.tenant_read, .monitoring_read, .alerting_read, .observability_read}

/-- `{p for p in texts if p in PERMISSIONS}`. -/
def known (texts : List String) : Finset Permission := TENANT_ALL.filter fun p => p.text ∈ texts

@[simp] theorem mem_TENANT_ALL (p : Permission) : p ∈ TENANT_ALL := by
  cases p <;> decide

@[simp] theorem mem_known {texts : List String} {p : Permission} : p ∈ known texts ↔ p.text ∈ texts := by
  simp [known]

/-! ### The tables -/

/-- `kind` of a principal. -/
inductive PrincipalKind where
  | human_browser_session
  | platform_admin_principal
  | display_principal
  deriving DecidableEq

/-- `g1.principals`. -/
structure Principal where
  principal_id : String
  kind : PrincipalKind
  active : Bool
  deriving DecidableEq

/-- `g1.tenants`. -/
structure Tenant where
  tenant_id : String
  display_name : String
  /-- `state = 'active'`, else it is suspended. -/
  active : Bool
  deriving DecidableEq

/-- `g1.tenant_memberships`. -/
structure TenantMembership where
  tenant_id : String
  principal_id : String
  role : String
  /-- `state = 'active'`, else it is suspended or revoked. -/
  active : Bool
  deriving DecidableEq

/-- `g1.tenant_roles`. -/
structure TenantRole where
  tenant_id : String
  role_name : String
  permissions : List String
  active : Bool
  deriving DecidableEq

/-- `g1.delegated_grants`. -/
structure DelegatedGrant where
  target_tenant_id : String
  principal_id : String
  permissions : List String
  resource_scope : List String
  /-- `state = 'active'`, else it is revoked or expired. -/
  active : Bool
  effective_from : ℕ
  effective_until : Option ℕ
  deriving DecidableEq

/-- The tables of `g1`. -/
structure AccessDb where
  principals : List Principal
  tenants : List Tenant
  memberships : List TenantMembership
  roles : List TenantRole
  grants : List DelegatedGrant
  deriving DecidableEq

/-- A membership of the principal in the tenant that is active. -/
def TenantMembership.holds (principal_id tenant_id : String) (m : TenantMembership) : Bool :=
  m.tenant_id = tenant_id ∧ m.principal_id = principal_id ∧ m.active

/-- A grant to the principal over the tenant that is active and in its time. -/
def DelegatedGrant.holds (now : ℕ) (principal_id tenant_id : String) (g : DelegatedGrant) : Bool :=
  g.target_tenant_id = tenant_id ∧ g.principal_id = principal_id ∧ g.active ∧ g.effective_from ≤ now ∧
    ∀ until_ ∈ g.effective_until, now < until_

/-- The grants that count. -/
def activeGrants (now : ℕ) (principal_id tenant_id : String) (db : AccessDb) : List DelegatedGrant :=
  db.grants.filter (DelegatedGrant.holds now principal_id tenant_id)

/-! ### The functions -/

/-- `principal_is_platform_admin`. -/
def principal_is_platform_admin (principal_id : String) (db : AccessDb) : Bool :=
  db.principals.any fun p => p.principal_id = principal_id ∧ p.active ∧ p.kind = .platform_admin_principal

/-- `custom:` and the name of a role of the tenant. -/
def customRole (role : String) : Option String :=
  if role.startsWith "custom:" then some (role.drop 7).toString else none

/-- What the role of a membership gives. -/
def rolePermissions (tenant_id role : String) (db : AccessDb) : Finset Permission :=
  match customRole role with
  | none => ROLE_PERMISSIONS role
  | some name => (db.roles.filter fun r => r.tenant_id = tenant_id ∧ r.role_name = name ∧ r.active).foldr
      (fun r perms => known r.permissions ∪ perms) ∅

/-- The kind of the principal, where it is active. -/
def activeKind (principal_id : String) (db : AccessDb) : Option PrincipalKind :=
  (db.principals.find? fun p => p.principal_id = principal_id ∧ p.active).map Principal.kind

/-- `effective_permissions`. -/
def effective_permissions (now : ℕ) (principal_id tenant_id : String) (db : AccessDb) : Finset Permission :=
  match activeKind principal_id db with
  | none => ∅
  | some kind =>
    let display := if kind = .display_principal then DISPLAY_PERMISSIONS else ∅
    let memberships := (db.memberships.filter (TenantMembership.holds principal_id tenant_id)).foldr
      (fun m perms => rolePermissions tenant_id m.role db ∪ perms) ∅
    let grants := (activeGrants now principal_id tenant_id db).foldr (fun g perms => known g.permissions ∪ perms) ∅
    let platform := if principal_is_platform_admin principal_id db then TENANT_ALL else ∅
    display ∪ memberships ∪ grants ∪ platform

/-- An entry of `accessible_tenants`. -/
structure AccessibleTenant where
  tenant_id : String
  display_name : String
  role : String
  via : Option String
  deriving DecidableEq

/-- `accessible_tenants`, before the `ORDER BY` and the `UNION` of equal rows. -/
def accessible_tenants (now : ℕ) (principal_id : String) (db : AccessDb) : List AccessibleTenant :=
  if principal_is_platform_admin principal_id db then
    (db.tenants.filter Tenant.active).map fun t => ⟨t.tenant_id, t.display_name, "platform", none⟩
  else
    (db.memberships.flatMap fun m => (db.tenants.filter fun t => t.tenant_id = m.tenant_id ∧ t.active ∧
      m.holds principal_id t.tenant_id).map fun t => ⟨t.tenant_id, t.display_name, m.role, some "membership"⟩) ++
    (db.grants.flatMap fun g => (db.tenants.filter fun t => t.tenant_id = g.target_tenant_id ∧ t.active ∧
      g.holds now principal_id t.tenant_id).map fun t => ⟨t.tenant_id, t.display_name, "delegated", some "delegation"⟩)

/-- `allowed_source_ids`; `none` is unrestricted. -/
def allowed_source_ids (now : ℕ) (principal_id tenant_id : String) (db : AccessDb) : Option (List String) :=
  if principal_is_platform_admin principal_id db then none
  else if db.memberships.any (TenantMembership.holds principal_id tenant_id) then none
  else
    let scopes := (activeGrants now principal_id tenant_id db).map DelegatedGrant.resource_scope
    if scopes.isEmpty || scopes.any List.isEmpty then none else some scopes.flatten

/-- `tenant_authorized`. -/
def tenant_authorized (now : ℕ) (principal_id tenant_id : String) (db : AccessDb) : Bool :=
  db.memberships.any (TenantMembership.holds principal_id tenant_id) ||
    db.grants.any (DelegatedGrant.holds now principal_id tenant_id) || principal_is_platform_admin principal_id db

/-- `check_membership`: the role, where there is one. -/
def check_membership (principal_id tenant_id : String) (db : AccessDb) : Option String :=
  (db.memberships.find? fun m => m.holds principal_id tenant_id ∧
    db.tenants.any fun t => t.tenant_id = tenant_id ∧ t.active).map TenantMembership.role

/-! ### What they say -/

section Answers

variable {now : ℕ} {principal_id tenant_id : String} {db : AccessDb}

/-- Some active membership of the principal in the tenant. -/
def Member (principal_id tenant_id : String) (db : AccessDb) : Prop :=
  ∃ m ∈ db.memberships, m.holds principal_id tenant_id = true

/-- Some current grant to the principal over the tenant. -/
def Granted (now : ℕ) (principal_id tenant_id : String) (db : AccessDb) : Prop :=
  ∃ g ∈ db.grants, g.holds now principal_id tenant_id = true

/-- The tenant exists and is active. -/
def TenantActive (tenant_id : String) (db : AccessDb) : Prop := ∃ t ∈ db.tenants, t.tenant_id = tenant_id ∧ t.active = true

instance : Decidable (Member principal_id tenant_id db) := by unfold Member; infer_instance

instance : Decidable (Granted now principal_id tenant_id db) := by unfold Granted; infer_instance

instance : Decidable (TenantActive tenant_id db) := by unfold TenantActive; infer_instance

theorem TenantMembership.holds_iff {m : TenantMembership} :
    m.holds principal_id tenant_id = true ↔
      m.tenant_id = tenant_id ∧ m.principal_id = principal_id ∧ m.active = true := by
  simp [TenantMembership.holds]

theorem DelegatedGrant.holds_target {g : DelegatedGrant} (h : g.holds now principal_id tenant_id = true) :
    g.target_tenant_id = tenant_id := by
  simp only [DelegatedGrant.holds, decide_eq_true_eq] at h
  exact h.1

theorem DelegatedGrant.holds_principal {g : DelegatedGrant} (h : g.holds now principal_id tenant_id = true) :
    g.principal_id = principal_id := by
  simp only [DelegatedGrant.holds, decide_eq_true_eq] at h
  exact h.2.1

theorem any_membership : db.memberships.any (TenantMembership.holds principal_id tenant_id) = true ↔
    Member principal_id tenant_id db := by
  simp [Member]

theorem any_grant : db.grants.any (DelegatedGrant.holds now principal_id tenant_id) = true ↔
    Granted now principal_id tenant_id db := by
  simp [Granted]

theorem mem_activeGrants {g : DelegatedGrant} :
    g ∈ activeGrants now principal_id tenant_id db ↔ g ∈ db.grants ∧ g.holds now principal_id tenant_id = true := by
  simp [activeGrants]

theorem activeGrants_eq_nil : activeGrants now principal_id tenant_id db = [] ↔ ¬Granted now principal_id tenant_id db := by
  simp [activeGrants, Granted, List.filter_eq_nil_iff]

theorem mem_foldr_union {β : Type} {f : β → Finset Permission} {p : Permission} (l : List β) :
    p ∈ l.foldr (fun b perms => f b ∪ perms) ∅ ↔ ∃ b ∈ l, p ∈ f b := by
  induction l with
  | nil => simp
  | cons b l ih => simp [ih]

/-- **Key result.** A permission is that of a membership's role, of a grant, of the platform or of a
display, and the principal is active. -/
theorem mem_effective_permissions {p : Permission} : p ∈ effective_permissions now principal_id tenant_id db ↔
    ∃ kind, activeKind principal_id db = some kind ∧
      (kind = .display_principal ∧ p ∈ DISPLAY_PERMISSIONS ∨
        (∃ m ∈ db.memberships, m.holds principal_id tenant_id = true ∧ p ∈ rolePermissions tenant_id m.role db) ∨
        (∃ g ∈ activeGrants now principal_id tenant_id db, p.text ∈ g.permissions) ∨
        principal_is_platform_admin principal_id db = true) := by
  unfold effective_permissions
  cases hk : activeKind principal_id db with
  | none => simp
  | some kind =>
    simp only [Finset.mem_union, mem_foldr_union, List.mem_filter, mem_known, Option.some.injEq,
      exists_eq_left', and_assoc, or_assoc]
    by_cases hd : kind = .display_principal <;>
      by_cases hp : principal_is_platform_admin principal_id db = true <;> simp [hd, hp]

/-- **Key result.** A tenant is authorized by a membership, a grant or the capability of the platform. -/
theorem tenant_authorized_iff : tenant_authorized now principal_id tenant_id db = true ↔
    Member principal_id tenant_id db ∨ Granted now principal_id tenant_id db ∨
      principal_is_platform_admin principal_id db = true := by
  rw [tenant_authorized, Bool.or_eq_true, Bool.or_eq_true, any_membership, any_grant, or_assoc]

/-- **Key result.** A tenant is listed if it is active and authorized. -/
theorem accessible_iff : (∃ e ∈ accessible_tenants now principal_id db, e.tenant_id = tenant_id) ↔
    TenantActive tenant_id db ∧ tenant_authorized now principal_id tenant_id db = true := by
  rw [tenant_authorized_iff]
  unfold accessible_tenants
  split_ifs with hp
  · constructor
    · rintro ⟨e, he, rfl⟩
      obtain ⟨t, ht, rfl⟩ := List.mem_map.1 he
      exact ⟨⟨t, (List.mem_filter.1 ht).1, rfl, (List.mem_filter.1 ht).2⟩, Or.inr (Or.inr hp)⟩
    · rintro ⟨⟨t, ht, rfl, hact⟩, -⟩
      exact ⟨_, List.mem_map.2 ⟨t, List.mem_filter.2 ⟨ht, hact⟩, rfl⟩, rfl⟩
  · constructor
    · rintro ⟨e, he, rfl⟩
      rcases List.mem_append.1 he with he | he
      · obtain ⟨m, hm, he⟩ := List.mem_flatMap.1 he
        obtain ⟨t, ht, rfl⟩ := List.mem_map.1 he
        obtain ⟨ht, -, hact, hh⟩ := by simpa using List.mem_filter.1 ht
        exact ⟨⟨t, ht, rfl, hact⟩, Or.inl ⟨m, hm, hh⟩⟩
      · obtain ⟨g, hg, he⟩ := List.mem_flatMap.1 he
        obtain ⟨t, ht, rfl⟩ := List.mem_map.1 he
        obtain ⟨ht, -, hact, hh⟩ := by simpa using List.mem_filter.1 ht
        exact ⟨⟨t, ht, rfl, hact⟩, Or.inr (Or.inl ⟨g, hg, hh⟩)⟩
    · rintro ⟨⟨t, ht, rfl, hact⟩, ⟨m, hm, hh⟩ | ⟨g, hg, hh⟩ | h⟩
      · have hid : t.tenant_id = m.tenant_id := (TenantMembership.holds_iff.1 hh).1.symm
        exact ⟨_, List.mem_append_left _ (List.mem_flatMap.2 ⟨m, hm, List.mem_map.2
          ⟨t, List.mem_filter.2 ⟨ht, by simpa [hact, hh] using hid⟩, rfl⟩⟩), rfl⟩
      · have hid : t.tenant_id = g.target_tenant_id := (DelegatedGrant.holds_target hh).symm
        exact ⟨_, List.mem_append_right _ (List.mem_flatMap.2 ⟨g, hg, List.mem_map.2
          ⟨t, List.mem_filter.2 ⟨ht, by simpa [hact, hh] using hid⟩, rfl⟩⟩), rfl⟩
      · exact absurd h hp

/-- **Key result.** The sources are restricted where there are grants, each of them with a scope, and
nothing else. -/
theorem allowed_eq_none_iff : allowed_source_ids now principal_id tenant_id db = none ↔
    principal_is_platform_admin principal_id db = true ∨ Member principal_id tenant_id db ∨
      ¬Granted now principal_id tenant_id db ∨
      ∃ g ∈ activeGrants now principal_id tenant_id db, g.resource_scope = [] := by
  rw [← activeGrants_eq_nil, ← any_membership]
  dsimp only [allowed_source_ids]
  split_ifs with hp hm hs
  · simp [hp]
  · simp [hm]
  · simpa [hp, hm] using hs
  · simpa [hp, hm] using hs

/-- **Key result.** A restricted principal reaches the sources its grants name. -/
theorem mem_allowed {ids : List String} {s : String}
    (h : allowed_source_ids now principal_id tenant_id db = some ids) :
    s ∈ ids ↔ ∃ g ∈ activeGrants now principal_id tenant_id db, s ∈ g.resource_scope := by
  dsimp only [allowed_source_ids] at h
  split_ifs at h
  obtain rfl := Option.some.inj h
  simp [List.mem_flatten]

/-- **Key result.** Only a membership in an active tenant passes the check of the shell. -/
theorem check_membership_iff : (check_membership principal_id tenant_id db).isSome = true ↔
    Member principal_id tenant_id db ∧ TenantActive tenant_id db := by
  simp [check_membership, Member, TenantActive, List.find?_isSome]
  constructor
  · rintro ⟨m, hm, hh, t, ht, hid, hact⟩
    exact ⟨⟨m, hm, hh⟩, t, ht, hid, hact⟩
  · rintro ⟨⟨m, hm, hh⟩, t, ht, hid, hact⟩
    exact ⟨m, hm, hh, t, ht, hid, hact⟩

end Answers

end JLMirror.Access
