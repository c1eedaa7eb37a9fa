import JLMirror.Access.Members
import Mathlib.Data.Fintype.EquivFin

/-!
# Users that are provisioned

The platform's administrator provisions a user (`provision_user` in `api/routers/platform.py`), and the tenant's
invites one (`admin_invite_user` in `bff/main.py`). Each makes an account at the identity provider, then a principal,
then a membership. A login looks the principal up by the subject and the issuer of its token
(`resolve_or_provision_principal` in `bff/identity.py`).

## What is proved

* **Key result** (`provision_user_fails`): the platform's request never succeeds, since the kind it gives the
  principal is none that the table allows.
* **Key result** (`provisioned_iff`): when a request keeps its promise.
* **Key result** (`provisioned_conflict`): the platform's request fails once the account is made, and so does every
  further one for the same e-mail.
-/

namespace JLMirror.Access.Members

open Foundations Foundations.Handler

/-! ### Login -/

/-- What a login knows from its settings and draws. -/
structure LoginSettings where
  is_development : Bool
  dev_tenant_id : String
  dev_jit_role : String
  drawn : Drawn

/-- `INSERT … ON CONFLICT (tenant_id, principal_id) DO NOTHING`. -/
def insertMembershipOnce (row : MembershipRow) (db : MemberDb) : Except HttpError MemberDb :=
  if db.memberships.any (MembershipRow.ofTenant row.principal_id row.tenant_id) then .ok db else insertMembership row db

/-- `resolve_or_provision_principal` -/
def resolve_or_provision_principal (settings : LoginSettings) (idp_subject_ref idp_issuer : String) (db : MemberDb) :
    Except HttpError (Option PrincipalRow × MemberDb) :=
  match db.principals.find? fun p => p.idp_subject_ref = some idp_subject_ref ∧ p.idp_issuer = some idp_issuer with
  | some p => .ok (some p, db)
  | none =>
    if settings.is_development then do
      let principal_id := settings.drawn.principal_id
      let (_, db) ← insertPrincipal false principal_id "human_browser_session" (some idp_subject_ref) (some idp_issuer) db
      let db ← insertMembershipOnce
        ⟨settings.drawn.membership_id, settings.dev_tenant_id, principal_id, settings.dev_jit_role, .active⟩ db
      return (some ⟨⟨principal_id, .human_browser_session, true⟩, some idp_subject_ref, some idp_issuer⟩, db)
    else .ok (none, db)

/-- A login of the account is one of the principal, which has the role in the tenant. -/
def SignsIn (issuer subject principal_id tenant_id role : String) (db : MemberDb) : Prop :=
  (∀ settings, ∃ p, resolve_or_provision_principal settings subject issuer db = .ok (some p, db) ∧
    p.principal_id = principal_id ∧ p.active = true) ∧
  ∃ m ∈ db.memberships, m.ofTenant principal_id tenant_id = true ∧ m.role = role ∧ m.state = .active

/-! ### The law -/

/-- A request that provisions a user. -/
inductive ProvisionRequest where
  | provision_user (actor email tenant_id role : String)
  | admin_invite_user (session : Option Session) (csrf_ok : Bool) (email first_name : String) (role : Option String)

/-- The e-mail of the new account. -/
def ProvisionRequest.email : ProvisionRequest → String
  | .provision_user _ email _ _ => email
  | .admin_invite_user _ _ email _ _ => email

/-- The handler that takes the request. -/
def ProvisionRequest.handler (issuer : String) (drawn : Drawn) : ProvisionRequest → MemberHandler String
  | .provision_user actor email tenant_id role => Members.provision_user actor email tenant_id role drawn
  | .admin_invite_user session csrf_ok email first_name role =>
    Members.admin_invite_user issuer session csrf_ok email first_name role drawn

/-- The tenant and the role that the request asks for. -/
def ProvisionRequest.Asks (tenant_id role : String) (db : MemberDb) : ProvisionRequest → Prop
  | .provision_user _ _ tenant_id' role' => tenant_id = tenant_id' ∧ role = role'
  | .admin_invite_user session csrf_ok _ _ role' =>
    Admitted session csrf_ok db tenant_id ∧ role = role'.getD "viewer"

/-- What the handler checks before it makes the account. -/
def ProvisionRequest.Accepted (db : MemberDb) : ProvisionRequest → Prop
  | .provision_user actor _ _ role => principal_is_platform_admin actor db.access = true ∧ role ∈ ROLES
  | .admin_invite_user session csrf_ok email first_name role =>
    (∃ tenant_id, Admitted session csrf_ok db tenant_id) ∧ (email ≠ "" ∧ first_name ≠ "") ∧
      role.getD "viewer" ∈ VALID_ROLES

/-- A provisioned user can sign in; and a request that fails leaves no row, and one that has passed its checks can be
made again. -/
def Provisioned (issuer : String) (request : ProvisionRequest) (drawn : Drawn) (db : MemberDb) (accounts : List Account)
    (steps : Option ℕ) : Prop :=
  (∀ principal_id w, exec (request.handler issuer drawn) ⟨db, db, accounts, steps⟩ = (.ok principal_id, w) →
    ∀ tenant_id role, request.Asks tenant_id role db → ∀ a ∈ w.outside, a.email = request.email →
      SignsIn issuer a.id principal_id tenant_id role w.committed) ∧
  ∀ e w, exec (request.handler issuer drawn) ⟨db, db, accounts, steps⟩ = (.error e, w) →
    (w.committed.principals = db.principals ∧ w.committed.memberships = db.memberships) ∧
    (request.Accepted db → ∃ drawn' principal_id w',
      exec (request.handler issuer drawn') ⟨w.committed, w.committed, w.outside, none⟩ = (.ok principal_id, w'))

/-- The request is refused by its checks; or it is an invitation for an e-mail that has no account, which fails before it
makes one or not at all. -/
def Provisions (request : ProvisionRequest) (drawn : Drawn) (db : MemberDb) (accounts : List Account)
    (steps : Option ℕ) : Prop :=
  ¬request.Accepted db ∨
  match request with
  | .provision_user .. => False
  | .admin_invite_user session csrf_ok email first_name role =>
    (∀ a ∈ accounts, a.email ≠ email) ∧
      ((∃ n < 3, steps = some n) ∨
        (∃ tenant_id, Invited session csrf_ok email first_name role drawn db accounts tenant_id) ∧
          ∀ n, steps = some n → 6 ≤ n)

/-! ### The platform -/

section Platform

variable {issuer actor email tenant_id role : String} {drawn : Drawn} {w w' : MemberWorld}

/-- **Key result.** The kind that the request gives a principal is none that the table allows. -/
theorem provision_user_fails {principal_id : String} :
    exec (provision_user actor email tenant_id role drawn) w ≠ (.ok principal_id, w') := by
  intro h
  obtain ⟨_, w₁, -, h₁⟩ := exec_bind_ok.1 h
  by_cases hrole : role ∈ ROLES
  · rw [if_neg (not_not_intro hrole)] at h₁
    obtain ⟨user_id, w₂, -, h₂⟩ := exec_bind_ok.1 h₁
    obtain ⟨w₃, h₃, -⟩ := transaction_ok h₂
    obtain ⟨_, w₄, hprincipal, -⟩ := exec_bind_ok.1 h₃
    obtain ⟨hinsert, -⟩ := exec_statement_ok hprincipal
    rw [insertPrincipal, show principalKind "oidc_user" = none by decide] at hinsert
    cases hinsert
  · rw [if_pos hrole] at h₁
    cases h₁

theorem quiet_require_platform_admin (actor : String) : Quiet (require_platform_admin actor) := by
  refine (quiet_query _).bind fun ok => ?_
  split_ifs
  · exact quiet_pure _
  · exact quiet_throw _

theorem atomic_provision_user : Atomic (provision_user actor email tenant_id role drawn) := by
  refine (quiet_require_platform_admin actor).atomic_bind fun _ => ?_
  dsimp only
  split_ifs
  · refine Quiet.atomic_bind ((quiet_call _).bind fun _ => (quiet_call _).bind fun _ => quiet_pure _) fun user_id => ?_
    exact atomic_transaction ((quiet_statement _).bind fun _ => (quiet_statement _).bind fun _ =>
      (quiet_record_audit_event _).bind fun _ => quiet_pure _)
  · exact atomic_throw_bind _

end Platform

/-! ### An invitation -/

section Invitation

variable {issuer email first_name : String} {session : Option Session} {csrf_ok : Bool} {role : Option String}
  {drawn : Drawn} {db : MemberDb} {accounts : List Account} {steps : Option ℕ} {w w' : MemberWorld} {tenant_id : String}

theorem admin_invite_user_eq (hfields : email ≠ "" ∧ first_name ≠ "") (hrole : role.getD "viewer" ∈ VALID_ROLES) :
    admin_invite_user issuer session csrf_ok email first_name role drawn =
      admitted session csrf_ok >>= fun tenant_id => makeInvited issuer tenant_id email (role.getD "viewer") drawn := by
  simp only [admin_invite_user, if_neg (not_or.2 hfields), if_neg (not_not_intro hrole)]

theorem inward_admitted (session : Option Session) (csrf_ok : Bool) : Inward (admitted session csrf_ok) := by
  refine Inward.bind ?_ fun tenant_id => ?_
  · refine (inward_query _).bind fun session => ?_
    cases session with
    | none => exact inward_throw _
    | some session =>
      dsimp only
      cases session.bound_tenant_id.filter (· ≠ "") with
      | none => exact inward_throw _
      | some bound =>
        refine (inward_query _).bind fun role => ?_
        split_ifs
        · exact inward_pure _
        · exact inward_throw _
  · split_ifs
    · exact inward_pure _
    · exact inward_throw _

theorem makeInvited_taken {role : String} (h : ∃ a ∈ w.outside, a.email = email) :
    (exec (makeInvited issuer tenant_id email role drawn) w).2.outside = w.outside := by
  obtain ⟨a, ha, hemail⟩ := h
  have hrefused : create_user email drawn.account_id w.outside = .error ⟨409, "email already exists in identity provider"⟩ :=
    if_pos (List.any_eq_true.2 ⟨a, ha, by simpa using hemail⟩)
  obtain ⟨e, steps, hcall⟩ : ∃ e steps, exec (keycloak (create_user email drawn.account_id)) w = (.error e, { w with steps }) :=
    exec_call_refused hrefused
  rw [makeInvited, exec_bind, hcall]

theorem makeInvited_outside {role : String} (h : ∀ a ∈ w.outside, a.email ≠ email) (hsteps : w.steps ≠ some 0) :
    (exec (makeInvited issuer tenant_id email role drawn) w).2.outside = w.outside ++ [⟨email, drawn.account_id⟩] := by
  have hcall : Runs (keycloak (create_user email drawn.account_id)) 1 w drawn.account_id
      { w with outside := w.outside ++ [⟨email, drawn.account_id⟩] } := runs_call (if_neg (by simpa using h))
  rw [makeInvited, hcall.exec_bind fun n hn => Nat.pos_of_ne_zero fun hz => hsteps (hz ▸ hn)]
  exact Inward.transaction ((inward_statement _).bind fun _ => (inward_statement _).bind fun _ => inward_pure _) _

/-- Ids that no row has are there to be drawn. -/
theorem exists_fresh (db : MemberDb) : ∃ drawn : Drawn,
    (∀ p ∈ db.principals, p.principal_id ≠ drawn.principal_id ∧ p.idp_subject_ref ≠ some drawn.account_id) ∧
      ∀ m ∈ db.memberships, m.membership_id ≠ drawn.membership_id := by
  obtain ⟨membership_id, hmembership⟩ :=
    Infinite.exists_notMem_finset (db.memberships.map MembershipRow.membership_id).toFinset
  obtain ⟨principal_id, hprincipal⟩ := Infinite.exists_notMem_finset (db.principals.map fun p => p.principal_id).toFinset
  obtain ⟨account_id, haccount⟩ := Infinite.exists_notMem_finset (db.principals.map fun p => p.idp_subject_ref.getD "").toFinset
  simp only [List.mem_toFinset, List.mem_map, not_exists, not_and] at hmembership hprincipal haccount
  exact ⟨⟨membership_id, principal_id, "", account_id⟩,
    fun p hp => ⟨hprincipal p hp, fun hsub => haccount p hp (by rw [hsub, Option.getD_some])⟩, hmembership⟩

/-- Who is invited signs in. -/
theorem signsIn_invite {role : Option String}
    (hprincipal : ∀ p ∈ db.principals, p.principal_id ≠ drawn.principal_id ∧ p.idp_subject_ref ≠ some drawn.account_id) :
    SignsIn issuer drawn.account_id drawn.principal_id tenant_id (role.getD "viewer")
      (invite issuer tenant_id role drawn db) := by
  have hfind : (invite issuer tenant_id role drawn db).principals.find?
      (fun p => p.idp_subject_ref = some drawn.account_id ∧ p.idp_issuer = some issuer) =
        some (invitedPrincipal issuer drawn) := by
    rw [invite, List.find?_append, List.find?_eq_none.2 fun p hp => by simp [(hprincipal p hp).2]]
    simp [invitedPrincipal]
  refine ⟨fun settings => ⟨invitedPrincipal issuer drawn, ?_, rfl, rfl⟩,
    invitedMembership tenant_id role drawn, by simp [invite], by simp [invitedMembership], rfl, rfl⟩
  rw [resolve_or_provision_principal, hfind]

/-- An invitation that fails before its account is made has made none. -/
theorem invite_early (hadmitted : Admitted session csrf_ok db tenant_id) (hfields : email ≠ "" ∧ first_name ≠ "")
    (hrole : role.getD "viewer" ∈ VALID_ROLES) {n : ℕ} (hn : n < 3) :
    ∃ e w, exec (admin_invite_user issuer session csrf_ok email first_name role drawn) ⟨db, db, accounts, some n⟩ =
      (.error e, w) ∧ w.outside = accounts := by
  have hruns := runs_admitted (w := ⟨db, db, accounts, some n⟩) hadmitted
  rw [admin_invite_user_eq hfields hrole]
  by_cases h₂ : n < 2
  · obtain ⟨e, w, herr⟩ := hruns.early n h₂
    have hsame := inward_admitted session csrf_ok ⟨db, db, accounts, some n⟩
    rw [herr] at hsame
    exact ⟨e, w, by rw [exec_bind, herr], hsame⟩
  · obtain rfl : n = 2 := by omega
    rw [hruns.exec_bind (by simp)]
    exact ⟨internalServerError, _, rfl, rfl⟩

/-- One that comes further has made it. -/
theorem invite_late (hadmitted : Admitted session csrf_ok db tenant_id) (hfields : email ≠ "" ∧ first_name ≠ "")
    (hrole : role.getD "viewer" ∈ VALID_ROLES) (hfree : ∀ a ∈ accounts, a.email ≠ email)
    (hsteps : ¬∃ n < 3, steps = some n) :
    (exec (admin_invite_user issuer session csrf_ok email first_name role drawn) ⟨db, db, accounts, steps⟩).2.outside =
      accounts ++ [⟨email, drawn.account_id⟩] := by
  have hlate : ∀ n, steps = some n → 3 ≤ n := fun n hn => Nat.le_of_not_lt fun hlt => hsteps ⟨n, hlt, hn⟩
  rw [admin_invite_user_eq hfields hrole, (runs_admitted (w := ⟨db, db, accounts, steps⟩) hadmitted).exec_bind
    fun n hn => (hlate n hn).trans' (by omega)]
  refine makeInvited_outside hfree fun hzero => ?_
  obtain ⟨n, rfl, hz⟩ := Option.map_eq_some_iff.1 hzero
  have := hlate n rfl
  omega

theorem invite_taken (hfields : email ≠ "" ∧ first_name ≠ "") (hrole : role.getD "viewer" ∈ VALID_ROLES)
    (htaken : ∃ a ∈ accounts, a.email = email) :
    (exec (admin_invite_user issuer session csrf_ok email first_name role drawn) ⟨db, db, accounts, steps⟩).2.outside =
      accounts := by
  rw [admin_invite_user_eq hfields hrole]
  refine (inward_admitted session csrf_ok).bind_outside (P := (· = accounts)) rfl fun tenant_id w₁ hsame => ?_
  have hsame : w₁.outside = accounts := hsame
  exact (makeInvited_taken (hsame ▸ htaken)).trans hsame

/-- An invitation that breaks no promise is for an e-mail without an account, and fails before it makes one or not at
all. -/
theorem invite_of_provisioned (hdb : db.Keys)
    (haccepted : (ProvisionRequest.admin_invite_user session csrf_ok email first_name role).Accepted db)
    (h : Provisioned issuer (.admin_invite_user session csrf_ok email first_name role) drawn db accounts steps) :
    (∀ a ∈ accounts, a.email ≠ email) ∧
      ((∃ n < 3, steps = some n) ∨
        (∃ tenant_id, Invited session csrf_ok email first_name role drawn db accounts tenant_id) ∧
          ∀ n, steps = some n → 6 ≤ n) := by
  obtain ⟨⟨tenant_id, hadmitted⟩, hfields, hrole⟩ := id haccepted
  -- a request that failed can be made again, so the e-mail has no account by then
  have hagain : ∀ e w, exec (admin_invite_user issuer session csrf_ok email first_name role drawn)
      ⟨db, db, accounts, steps⟩ = (.error e, w) → ∀ a ∈ w.outside, a.email ≠ email := by
    intro e w hexec
    obtain ⟨drawn', principal_id, w', hok⟩ := (h.2 e w hexec).2 haccepted
    obtain ⟨tenant_id, hinvited, -⟩ := admin_invite_user_ok hok
    exact hinvited.account
  rcases hexec : exec (admin_invite_user issuer session csrf_ok email first_name role drawn)
    ⟨db, db, accounts, steps⟩ with ⟨e | principal_id, w⟩
  · have hfree : ∀ a ∈ accounts, a.email ≠ email := by
      intro a ha hemail
      have hsame : w.outside = accounts :=
        (congrArg (·.2.outside) hexec).symm.trans (invite_taken hfields hrole ⟨a, ha, hemail⟩)
      exact hagain e w hexec a (hsame ▸ ha) hemail
    refine ⟨hfree, .inl ?_⟩
    by_contra hlate
    have hmade : w.outside = accounts ++ [⟨email, drawn.account_id⟩] :=
      (congrArg (·.2.outside) hexec).symm.trans (invite_late hadmitted hfields hrole hfree hlate)
    exact hagain e w hexec ⟨email, drawn.account_id⟩ (by simp [hmade]) rfl
  · obtain ⟨tenant_id, hinvited, -⟩ := admin_invite_user_ok hexec
    refine ⟨hinvited.account, .inr ⟨⟨tenant_id, hinvited⟩, fun n hn => ?_⟩⟩
    subst hn
    exact (runs_admin_invite_user hdb hinvited).steps hexec

/-- The other way round. -/
theorem provisioned_of_invite (hdb : db.Keys)
    (haccepted : (ProvisionRequest.admin_invite_user session csrf_ok email first_name role).Accepted db)
    (hfree : ∀ a ∈ accounts, a.email ≠ email)
    (h : (∃ n < 3, steps = some n) ∨
      (∃ tenant_id, Invited session csrf_ok email first_name role drawn db accounts tenant_id) ∧
        ∀ n, steps = some n → 6 ≤ n) :
    Provisioned issuer (.admin_invite_user session csrf_ok email first_name role) drawn db accounts steps := by
  obtain ⟨⟨tenant_id, hadmitted⟩, hfields, hrole⟩ := haccepted
  rcases h with ⟨n, hn, rfl⟩ | ⟨⟨tenant_id', hinvited⟩, hsteps⟩
  · obtain ⟨e, w, hexec, hsame⟩ : ∃ e w, exec (admin_invite_user issuer session csrf_ok email first_name role drawn)
        ⟨db, db, accounts, some n⟩ = (.error e, w) ∧ w.outside = accounts := invite_early hadmitted hfields hrole hn
    have hcommitted : w.committed = db := atomic_admin_invite_user _ _ _ hexec
    obtain ⟨drawn', hprincipal, hmembership⟩ := exists_fresh db
    have hinvited : Invited session csrf_ok email first_name role drawn' db accounts tenant_id :=
      ⟨hadmitted, hfields, hrole, hfree, hprincipal, hmembership⟩
    refine ⟨fun _ _ hok => ?_, fun e' w' herr => ?_⟩
    · cases hexec.symm.trans hok
    · obtain ⟨-, rfl⟩ := Prod.mk.inj (hexec.symm.trans herr)
      rw [hcommitted, hsame]
      exact ⟨⟨rfl, rfl⟩, fun _ => ⟨drawn', _, _, (runs_admin_invite_user (w := ⟨db, db, accounts, none⟩) hdb
        hinvited).unharmed⟩⟩
  · have hruns : Runs (admin_invite_user issuer session csrf_ok email first_name role drawn) 6
        ⟨db, db, accounts, steps⟩ _ _ := runs_admin_invite_user hdb hinvited
    have hexec := hruns.exec hsteps
    refine ⟨fun principal_id w hok => ?_, fun e w herr => ?_⟩
    · obtain ⟨hid, rfl⟩ := Prod.mk.inj (hexec.symm.trans hok)
      obtain rfl := Except.ok.inj hid
      rintro tenant_id₀ role₀ ⟨hasked, rfl⟩ a ha hemail
      obtain rfl : tenant_id' = tenant_id₀ := Except.ok.inj (hinvited.admitted.1.symm.trans hasked.1)
      rcases List.mem_append.1 ha with ha | ha
      · exact absurd hemail (hfree a ha)
      · obtain rfl := List.mem_singleton.1 ha
        exact signsIn_invite hinvited.principal
    · cases hexec.symm.trans herr

end Invitation

/-! ### Every request -/

section Law

variable {issuer : String} {drawn : Drawn} {db : MemberDb} {accounts : List Account} {steps : Option ℕ}

/-- **Key result.** A request keeps its promise if and only if its checks refuse it, or it is an invitation for an
e-mail without an account that fails before it makes one or not at all. -/
theorem provisioned_iff (hdb : db.Keys) (request : ProvisionRequest) :
    Provisioned issuer request drawn db accounts steps ↔ Provisions request drawn db accounts steps := by
  by_cases haccepted : request.Accepted db
  · cases request with
    | provision_user actor email tenant_id role =>
      refine iff_of_false (fun h => ?_) fun h => h.elim (· haccepted) id
      rcases hexec : exec (provision_user actor email tenant_id role drawn) ⟨db, db, accounts, steps⟩ with
        ⟨e | principal_id, w⟩
      · obtain ⟨drawn', principal_id, w', hok⟩ := (h.2 e w hexec).2 haccepted
        exact provision_user_fails hok
      · exact provision_user_fails hexec
    | admin_invite_user session csrf_ok email first_name role =>
      refine ⟨fun h => .inr (invite_of_provisioned hdb haccepted h), fun h => ?_⟩
      obtain ⟨hfree, h⟩ := h.resolve_left (not_not_intro haccepted)
      exact provisioned_of_invite hdb haccepted hfree h
  · refine iff_of_true ⟨fun principal_id w hok => ?_, fun e w herr => ?_⟩ (.inl haccepted)
    · cases request with
      | provision_user actor email tenant_id role => exact absurd hok provision_user_fails
      | admin_invite_user session csrf_ok email first_name role =>
        obtain ⟨tenant_id, hinvited, -⟩ := admin_invite_user_ok hok
        exact absurd ⟨⟨tenant_id, hinvited.admitted⟩, hinvited.fields, hinvited.role⟩ haccepted
    · have hcommitted : w.committed = db := by
        cases request with
        | provision_user actor email tenant_id role => exact atomic_provision_user _ _ _ herr
        | admin_invite_user session csrf_ok email first_name role => exact atomic_admin_invite_user _ _ _ herr
      exact ⟨by simp [hcommitted], fun h => absurd h haccepted⟩

end Law

/-! ### An account without a principal -/

/-- A platform with its administrator. -/
def onePlatformAdmin : MemberDb where
  principals := [⟨⟨"p", .platform_admin_principal, true⟩, some "sub", some "issuer"⟩]
  tenants := [⟨"t", "T", true⟩]
  memberships := [⟨"m", "t", "p", "admin", .active⟩]
  roles := []
  grants := []
  audit_event := []

theorem onePlatformAdmin_keys : onePlatformAdmin.Keys := ⟨by decide, by decide, by decide⟩

/-- **Key result.** The platform's request fails once the account is made, and cannot be made again. -/
theorem provisioned_conflict :
    ¬Provisioned "issuer" (.provision_user "p" "a@b.c" "t" "viewer") ⟨"m2", "", "e", "a"⟩ onePlatformAdmin [] none := by
  intro h
  obtain ⟨-, hagain⟩ := h.2 internalServerError _ rfl
  obtain ⟨drawn', principal_id, w', hok⟩ := hagain ⟨by decide, by decide⟩
  exact provision_user_fails hok

/-- The tenant's administrator invites somebody who signs in. -/
theorem provisioned_invited :
    Provisioned "issuer" (.admin_invite_user (some ⟨"p", some "t"⟩) true "a@b.c" "A" none) ⟨"m2", "p2", "e", "a"⟩
      onePlatformAdmin [] none := by
  refine (provisioned_iff onePlatformAdmin_keys _).2 (.inr ⟨by simp, .inr ⟨⟨"t", ?_⟩, by simp⟩⟩)
  exact ⟨⟨by decide, rfl⟩, by decide, by decide, by simp, by decide, by decide⟩

end JLMirror.Access.Members
