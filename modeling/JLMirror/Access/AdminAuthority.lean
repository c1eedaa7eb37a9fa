import JLMirror.Access.TenantAdmin

/-!
# Who administers a tenant

The shell lets a principal administer the members of the tenant its session is bound to by the role of its
membership (`_require_admin` in `bff/main.py`); the API asks for the permission `tenant:admin`, which custom
roles, grants and the capability of the platform give as well, to a principal that is active.

## What is proved

* **Key result** (`require_admin_iff`, `tenant_admin_iff`): when each of the two says yes.
* **Key result** (`admin_agrees_iff`): when they agree.
* **Key result** (`delegated_admin_refused`): a principal with a grant of `tenant:admin` is refused by the shell.
-/

namespace JLMirror.Access

open Foundations

section AdminAuthority

variable (now : ℕ) (principal_id tenant_id : String) (db : AccessDb)

/-- The shell accepts a session of the principal in the tenant if and only if it has `tenant:admin` there. -/
def AdminAgrees : Prop :=
  (∃ bound, require_admin (some ⟨principal_id, some tenant_id⟩) db = .ok bound) ↔
    .tenant_admin ∈ effective_permissions now principal_id tenant_id db

/-- An active membership of the principal has one of the two roles that the shell knows. -/
def AdminMember : Prop :=
  ∃ m ∈ db.memberships, m.holds principal_id tenant_id = true ∧ (m.role = "admin" ∨ m.role = "tenant_admin")

/-- Something else gives `tenant:admin`: a custom role, a grant or the capability of the platform. -/
def AdminOtherwise : Prop :=
  (∃ m ∈ db.memberships, m.holds principal_id tenant_id = true ∧ (customRole m.role).isSome = true ∧
    .tenant_admin ∈ rolePermissions tenant_id m.role db) ∨
  (∃ g ∈ activeGrants now principal_id tenant_id db, "tenant:admin" ∈ g.permissions) ∨
    principal_is_platform_admin principal_id db = true

/-- What the two disagree about is not there: an administrator's membership in an active tenant is one of an active
principal and the other way round, and who has none has nothing else that an active principal could use. -/
def AdminSettled : Prop :=
  (AdminMember principal_id tenant_id db →
    (TenantActive tenant_id db ∧ tenant_id ≠ "" ↔ (activeKind principal_id db).isSome = true)) ∧
  (¬AdminMember principal_id tenant_id db →
    (activeKind principal_id db).isSome = true → ¬AdminOtherwise now principal_id tenant_id db)

variable {now principal_id tenant_id db}

/-- The role that the check of the shell finds. -/
theorem check_membership_eq_some (hdb : db.Consistent) {role : String} :
    check_membership principal_id tenant_id db = some role ↔
      TenantActive tenant_id db ∧ ∃ m ∈ db.memberships, m.holds principal_id tenant_id = true ∧ m.role = role := by
  unfold check_membership
  constructor
  · intro h
    obtain ⟨m, hfind, rfl⟩ := Option.map_eq_some_iff.1 h
    obtain ⟨hh, hact⟩ : m.holds principal_id tenant_id = true ∧ TenantActive tenant_id db := by
      simpa [TenantActive] using List.find?_some hfind
    exact ⟨hact, m, List.mem_of_find?_eq_some hfind, hh, rfl⟩
  · rintro ⟨hact, m, hm, hh, rfl⟩
    obtain ⟨htenant, hprincipal, -⟩ := TenantMembership.holds_iff.1 hh
    rw [find?_of_key hdb.membership_key hm, if_pos]
    · rfl
    · simpa [TenantActive, hh] using hact
    · intro m' hm'
      obtain ⟨htenant', hprincipal', -⟩ := TenantMembership.holds_iff.1 (of_decide_eq_true hm').1
      rw [htenant', hprincipal', htenant, hprincipal]

/-- **Key result.** The shell accepts administrators of an active tenant. -/
theorem require_admin_iff (hdb : db.Consistent) :
    (∃ bound, require_admin (some ⟨principal_id, some tenant_id⟩) db = .ok bound) ↔
      tenant_id ≠ "" ∧ TenantActive tenant_id db ∧ AdminMember principal_id tenant_id db := by
  by_cases ht : tenant_id = ""
  · subst ht
    exact ⟨fun ⟨_, h⟩ => (nomatch h), fun h => absurd rfl h.1⟩
  have hbound : (some tenant_id).filter (fun t => decide (t ≠ "")) = some tenant_id := by simp [ht]
  have haccepts : (∃ bound, require_admin (some ⟨principal_id, some tenant_id⟩) db = .ok bound) ↔
      ∃ role, check_membership principal_id tenant_id db = some role ∧ (role = "admin" ∨ role = "tenant_admin") := by
    simp only [require_admin, hbound]
    cases check_membership principal_id tenant_id db with
    | none => simp
    | some role => by_cases hadmin : role = "admin" ∨ role = "tenant_admin" <;> simp [hadmin]
  simp only [haccepts, check_membership_eq_some hdb, AdminMember]
  constructor
  · rintro ⟨role, ⟨hact, m, hm, hh, rfl⟩, hadmin⟩
    exact ⟨ht, hact, m, hm, hh, hadmin⟩
  · rintro ⟨-, hact, m, hm, hh, hadmin⟩
    exact ⟨m.role, ⟨hact, m, hm, hh, rfl⟩, hadmin⟩

/-- Of the built-in roles, the two that the shell knows give `tenant:admin`, and no others do. -/
theorem rolePermissions_tenant_admin {role : String} (hc : customRole role = none) :
    .tenant_admin ∈ rolePermissions tenant_id role db ↔ role = "admin" ∨ role = "tenant_admin" := by
  simp only [rolePermissions, hc, ROLE_PERMISSIONS]
  split_ifs with h₁ h₂ h₃ h₄ h₅ h₆
  · simp [h₁]
  · simp [h₂]
  · simp [h₁, h₂, operatorPermissions]
  · simp [h₁, h₂, operatorPermissions]
  · simp [h₁, h₂]
  · simp [h₁, h₂]
  · simp [h₁, h₂]

/-- **Key result.** The API's permission comes from an administrator's membership or from something else, and needs
an active principal. -/
theorem tenant_admin_iff : .tenant_admin ∈ effective_permissions now principal_id tenant_id db ↔
    (activeKind principal_id db).isSome = true ∧
      (AdminMember principal_id tenant_id db ∨ AdminOtherwise now principal_id tenant_id db) := by
  have hmember : (∃ m ∈ db.memberships, m.holds principal_id tenant_id = true ∧
      .tenant_admin ∈ rolePermissions tenant_id m.role db) ↔
        AdminMember principal_id tenant_id db ∨ ∃ m ∈ db.memberships, m.holds principal_id tenant_id = true ∧
          (customRole m.role).isSome = true ∧ .tenant_admin ∈ rolePermissions tenant_id m.role db := by
    constructor
    · rintro ⟨m, hm, hh, hp⟩
      cases hc : customRole m.role with
      | none => exact Or.inl ⟨m, hm, hh, (rolePermissions_tenant_admin hc).1 hp⟩
      | some name => exact Or.inr ⟨m, hm, hh, by rw [hc]; rfl, hp⟩
    · rintro (⟨m, hm, hh, hadmin⟩ | ⟨m, hm, hh, -, hp⟩)
      · have hc : customRole m.role = none := by obtain h | h := hadmin <;> rw [h] <;> decide +kernel
        exact ⟨m, hm, hh, (rolePermissions_tenant_admin hc).2 hadmin⟩
      · exact ⟨m, hm, hh, hp⟩
  have hdisplay : .tenant_admin ∉ DISPLAY_PERMISSIONS := by decide
  rw [mem_effective_permissions, hmember, AdminOtherwise]
  cases activeKind principal_id db with
  | none => simp
  | some kind =>
    simp only [Option.some.injEq, exists_eq_left', hdisplay, and_false, false_or, Option.isSome_some, true_and, or_assoc]
    rfl

/-- **Key result.** The shell and the API agree on who administers the tenant if and only if there is nothing that
only one of them knows of. -/
theorem admin_agrees_iff (hdb : db.Consistent) :
    AdminAgrees now principal_id tenant_id db ↔ AdminSettled now principal_id tenant_id db := by
  rw [AdminAgrees, require_admin_iff hdb, tenant_admin_iff, AdminSettled]
  by_cases hm : AdminMember principal_id tenant_id db
  · simp [hm, and_comm]
  · simp [hm]

end AdminAuthority

/-- A provider has a grant of `tenant:admin` over the tenant, and a member administers it. -/
def grantedAdmin : AccessDb where
  principals := [⟨"p", .human_browser_session, true⟩, ⟨"q", .human_browser_session, true⟩]
  tenants := [⟨"t", "T", true⟩]
  memberships := [⟨"t", "q", "admin", true⟩]
  roles := []
  grants := [⟨"t", "p", ["tenant:admin"], [], true, 0, none⟩]

/-- The two agree about the member. -/
theorem admin_agrees_member : AdminAgrees 1 "q" "t" grantedAdmin ↔ AdminSettled 1 "q" "t" grantedAdmin :=
  admin_agrees_iff ⟨by decide, by decide, by decide, by decide⟩

/-- **Key result.** The provider is refused by the shell. -/
theorem delegated_admin_refused : ¬AdminAgrees 1 "p" "t" grantedAdmin := by
  intro h
  obtain ⟨bound, haccepted⟩ := h.2 (by decide)
  exact nomatch haccepted

end JLMirror.Access
