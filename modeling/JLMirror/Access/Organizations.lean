import JLMirror.Access.Authority
import JLMirror.Foundations.Run
import JLMirror.Foundations.Sessions
import JLMirror.Foundations.Table

/-!
# Organizations and their tenants

`create_tenant` and `update_organization_state` of `api/routers/platform.py` as any number of sessions run
them at READ COMMITTED, in any interleaving of their statements.

## The model

* The endpoint accepts three states (`_ALLOWED_ORG_STATES`), the table allows two
  (`CHECK (state IN ('active', 'retired'))`), and the tenants follow one (`suspended`).
* A statement that would write a row waits while another session has written it. The `UPDATE` of the tenants
  takes the rows that its snapshot selects one by one, in any order, and looks at each again once it has it.
* A session can be rolled back at any point: a crash, a deadlock.

## What is proved

* `step_inv` — no request to another state than `active` gets beyond the `CHECK`, and no request writes another one.

**Key result** (`organizations_govern`): in every run in which the updates ask for `active`, and the tenants are created
for organizations that are active, an update commits, and the tenants of an organization that is not active are not.

* **Key result** (`suspension_fails`): a suspension is answered with an error.

## Honest scope

The requests are those that `_require_platform_admin` lets through. The audit event is left out. The reference of a new
tenant to its organization holds by the statement before it, since no request deletes one.
-/

namespace JLMirror.Access.Organizations

open Foundations

/-! ### The tables -/

/-- `state` of an organization. -/
inductive OrganizationState where
  | active
  | retired
  deriving DecidableEq

/-- `CHECK (state IN ('active', 'retired'))`. -/
def organizationState (state : String) : Option OrganizationState :=
  if state = "active" then some .active else if state = "retired" then some .retired else none

/-- `g1.organizations`. -/
structure Organization where
  organization_id : String
  state : OrganizationState
  deriving DecidableEq

/-- `g1.tenants`. -/
structure OrganizationTenant where
  tenant_id : String
  display_name : String
  organization_id : Option String
  /-- `state = 'active'`, else it is suspended. -/
  active : Bool
  deriving DecidableEq

/-- The tables. -/
structure OrganizationDb where
  organizations : List Organization
  tenants : List OrganizationTenant
  deriving DecidableEq

/-- The organization exists. -/
def OrganizationDb.exists (db : OrganizationDb) (organization_id : String) : Bool :=
  db.organizations.any fun o => o.organization_id = organization_id

/-- `TenantCreate`. -/
structure TenantCreate where
  tenant_id : String
  display_name : String
  organization_id : String

/-- `_ALLOWED_ORG_STATES`. -/
def ALLOWED_ORG_STATES : List String := ["active", "suspended", "cancelled"]

/-! ### Writes -/

/-- What a transaction writes. -/
inductive Write where
  | tenant (row : OrganizationTenant)
  | state (organization_id : String) (state : OrganizationState)
  | suspended (tenant_id : String)
  deriving DecidableEq

/-- A row that a transaction has written. -/
inductive Row where
  | organization (organization_id : String)
  | tenant (tenant_id : String)
  deriving DecidableEq

/-- The row that the others wait for. -/
def Write.row : Write → Row
  | .tenant row => .tenant row.tenant_id
  | .state organization_id _ => .organization organization_id
  | .suspended tenant_id => .tenant tenant_id

/-- A write on the tables. -/
def Write.apply (x : Write) (db : OrganizationDb) : OrganizationDb :=
  match x with
  | .tenant row => { db with tenants := db.tenants ++ [row] }
  | .state organization_id st =>
    { db with
      organizations := updateWhere (fun o => o.organization_id = organization_id) (fun o => { o with state := st })
        db.organizations }
  | .suspended tenant_id =>
    { db with
      tenants := updateWhere (fun t => t.tenant_id = tenant_id) (fun t => { t with active := false }) db.tenants }

/-! ### The sessions -/

/-- The next statement of a session. -/
inductive Point where
  | idle
  /-- `create_tenant` looks for the organization. -/
  | find (body : TenantCreate)
  | insertTenant (body : TenantCreate)
  /-- `update_organization_state` looks for it. -/
  | lookup (org_id state : String)
  | update (org_id state : String)
  /-- The `UPDATE` of the tenants takes a snapshot. -/
  | cascade (org_id : String)
  /-- The tenants that it has yet to look at. -/
  | cascadeRows (org_id : String) (rows : List String)
  /-- The tenant, where there is a new one. -/
  | commit (tenant : Option TenantCreate)
  /-- An update has been answered with an error. -/
  | failed (org_id state : String)

/-- The tables, the open transactions, and where their requests are. -/
abbrev Platform := Sessions OrganizationDb Write Point

namespace Platform

/-- What a session sees. -/
abbrev view (s : Platform) (w : ℕ) : OrganizationDb := Sessions.view Write.apply s w

/-- The session writes and goes on, or waits for the row. -/
abbrev write (s : Platform) (w : ℕ) (x : Write) (p : Point) : Platform := Sessions.write Write.row s w x p

/-- `ROLLBACK` -/
abbrev rollback (s : Platform) (w : ℕ) : Platform := Sessions.rollback Point.idle s w

/-- An update is rolled back, and answered with an error. -/
abbrev fail (s : Platform) (w : ℕ) (org_id state : String) : Platform := Sessions.rollback (.failed org_id state) s w

/-- A row of the tenants that the cascade suspends. -/
def ofOrganization (org_id : String) (t : OrganizationTenant) : Bool := t.organization_id = some org_id

/-- The next statement of a session. -/
def next (s : Platform) (w : ℕ) : Platform :=
  match s.pc w with
  | .idle | .failed _ _ => s
  | .find body => if (s.view w).exists body.organization_id then s.goto w (.insertTenant body) else s.rollback w
  | .insertTenant body =>
    if (s.view w).tenants.any fun t => t.tenant_id = body.tenant_id then s.rollback w
    else s.write w (.tenant ⟨body.tenant_id, body.display_name, some body.organization_id, true⟩) (.commit (some body))
  | .lookup org_id state =>
    if (s.view w).exists org_id then s.goto w (.update org_id state) else s.fail w org_id state
  | .update org_id state =>
    match organizationState state with
    | none => s.fail w org_id state
    | some st => s.write w (.state org_id st) (if state = "suspended" then .cascade org_id else .commit none)
  | .cascade org_id =>
    s.goto w (.cascadeRows org_id (((s.view w).tenants.filter (ofOrganization org_id)).map OrganizationTenant.tenant_id))
  | .cascadeRows _ rows => if rows = [] then s.goto w (.commit none) else s
  | .commit _ => s.commit Write.apply .idle w

/-- The `UPDATE` of the tenants comes to a row. -/
def row (s : Platform) (w : ℕ) (id : String) : Platform :=
  match s.pc w with
  | .cascadeRows org_id rows =>
    if id ∉ rows ∨ s.tx.locked Write.row w (.tenant id) then s
    else if (s.view w).tenants.any fun t => t.tenant_id = id ∧ ofOrganization org_id t then
      s.write w (.suspended id) (.cascadeRows org_id (rows.erase id))
    else s.goto w (.cascadeRows org_id (rows.erase id))
  | _ => s

/-- A request opens a transaction in a session that is free. -/
def start (s : Platform) (w : ℕ) (p : Point) : Platform :=
  match s.pc w with
  | .idle | .failed _ _ => s.goto w p
  | _ => s

/-- The tables, and no request. -/
abbrev init (db : OrganizationDb) : Platform := Sessions.init .idle db

end Platform

/-- A step of the system: a request comes in, or a session goes on. -/
inductive Act where
  | create_tenant (w : ℕ) (body : TenantCreate)
  | update_organization_state (w : ℕ) (org_id state : String)
  | next (w : ℕ)
  | row (w : ℕ) (id : String)
  | rollback (w : ℕ)

/-- A step. A state that the endpoint does not accept is refused before the transaction. -/
def Platform.step (s : Platform) : Act → Platform
  | .create_tenant w body => s.start w (.find body)
  | .update_organization_state w org_id state =>
    if state ∈ ALLOWED_ORG_STATES then s.start w (.lookup org_id state) else s
  | .next w => s.next w
  | .row w id => s.row w id
  | .rollback w => s.rollback w

/-! ### The claim -/

/-- A tenant of an organization that is not active is not. -/
def Governed (db : OrganizationDb) : Prop :=
  ∀ o ∈ db.organizations, o.state ≠ .active → ∀ t ∈ db.tenants, t.organization_id = some o.organization_id →
    t.active = false

/-- The update that a session is at the start of commits if the session goes on: it is done, and the organization has
the state. -/
def Commits (s : Platform) (w : ℕ) (org_id state : String) : Prop :=
  ∃ acts : List Act, (∀ a ∈ acts, a = .next w ∨ ∃ id, a = .row w id) ∧ (acts.foldl Platform.step s).pc w = .idle ∧
    ∀ o ∈ (acts.foldl Platform.step s).tx.db.organizations, o.organization_id = org_id →
      organizationState state = some o.state

/-- What is claimed of a state: an update of an organization that exists is not answered with an error, and it commits
unless it waits for another; and the tenants are governed. -/
structure Lawful (s : Platform) : Prop where
  answered : ∀ w org_id state, s.tx.db.exists org_id = true → s.pc w ≠ .failed org_id state
  commits : ∀ w org_id state, s.tx.db.exists org_id = true → s.pc w = .lookup org_id state →
    s.tx.locked Write.row w (.organization org_id) = false → Commits s w org_id state
  governed : Governed s.tx.db

/-- The condition: an update asks for `active`, and a tenant is committed for an organization that is so. -/
def AsksActive (s : Platform) : Act → Prop
  | .update_organization_state _ org_id state =>
    state ∈ ALLOWED_ORG_STATES → s.tx.db.exists org_id = true → state = "active"
  | .next w =>
    match s.pc w with
    | .commit (some body) => ∀ o ∈ s.tx.db.organizations, o.organization_id = body.organization_id → o.state = .active
    | _ => True
  | _ => True

instance (db : OrganizationDb) : Decidable (Governed db) := by
  unfold Governed
  infer_instance

instance (s : Platform) (a : Act) : Decidable (AsksActive s a) := by
  cases a with
  | next w =>
    dsimp only [AsksActive]
    split <;> infer_instance
  | update_organization_state w org_id state => exact inferInstanceAs (Decidable (_ → _ → _))
  | _ => exact .isTrue trivial

/-! ### What a session sees -/

section View

variable {db : OrganizationDb} {ws : List Write}

/-- No write makes or removes an organization. -/
theorem exists_view (org_id : String) (ws : List Write) (db : OrganizationDb) :
    (ws.foldl (fun db x => x.apply db) db).exists org_id = db.exists org_id := by
  induction ws generalizing db with
  | nil => rfl
  | cons x ws ih =>
    rw [List.foldl_cons, ih]
    cases x with
    | state organization_id st =>
      simp only [OrganizationDb.exists, Write.apply, updateWhere, List.any_map]
      congr 1
      funext o
      simp only [Function.comp_apply]
      split_ifs <;> rfl
    | tenant row => rfl
    | suspended tenant_id => rfl

/-- A session that makes organizations active at most sees no other ones that are not. -/
theorem organization_view (hws : ∀ org_id st, .state org_id st ∈ ws → st = .active) {o : Organization}
    (ho : o ∈ (ws.foldl (fun db x => x.apply db) db).organizations) (hstate : o.state ≠ .active) :
    o ∈ db.organizations := by
  induction ws generalizing db with
  | nil => exact ho
  | cons x ws ih =>
    have ho := ih (fun org_id st h => hws org_id st (List.mem_cons_of_mem x h)) ho
    cases x with
    | state organization_id st =>
      obtain ⟨r, hr, rfl⟩ := mem_updateWhere.1 ho
      split_ifs at hstate ⊢
      · exact absurd (hws organization_id st List.mem_cons_self) hstate
      · exact hr
    | tenant row => exact ho
    | suspended tenant_id => exact ho

/-- An active tenant that a session sees is committed as active or its own. -/
theorem tenant_view {t : OrganizationTenant} (ht : t ∈ (ws.foldl (fun db x => x.apply db) db).tenants)
    (hactive : t.active = true) : t ∈ db.tenants ∨ .tenant t ∈ ws := by
  induction ws generalizing db with
  | nil => exact .inl ht
  | cons x ws ih =>
    rcases ih ht with ht | ht
    · cases x with
      | tenant row =>
        rcases List.mem_append.1 ht with ht | ht
        · exact .inl ht
        · exact .inr (by simp [List.mem_singleton.1 ht])
      | suspended tenant_id =>
        obtain ⟨r, hr, rfl⟩ := mem_updateWhere.1 ht
        split_ifs at hactive ⊢
        exact .inl hr
      | state organization_id st => exact .inl ht
    · exact .inr (List.mem_cons_of_mem x ht)

end View

/-! ### The invariant -/

/-- The update that a session carries out. -/
def Point.asks : Point → Option (String × String)
  | .lookup org_id state | .update org_id state | .failed org_id state => some (org_id, state)
  | _ => none

/-- What holds of a session. -/
structure PointInv (db : OrganizationDb) (ws : List Write) (p : Point) : Prop where
  /-- It makes organizations active at most. -/
  states : ∀ org_id st, .state org_id st ∈ ws → st = .active
  /-- A tenant that it has inserted is the one that it is about to commit. -/
  tenants : ∀ t, .tenant t ∈ ws → ∃ body, p = .commit (some body) ∧ t.organization_id = some body.organization_id
  /-- It asks for nothing else of an organization that exists. -/
  asks : ∀ org_id state, p.asks = some (org_id, state) → db.exists org_id = true → state = "active"
  found : ∀ org_id state, p = .update org_id state → db.exists org_id = true
  /-- An update of an organization that exists does not fail. -/
  failed : ∀ org_id state, p = .failed org_id state → db.exists org_id = false

variable {db : OrganizationDb} {ws : List Write} {p q : Point} {s : Platform} {w : ℕ} {x : Write}

theorem pointInv_nil (hasks : ∀ org_id state, p.asks = some (org_id, state) → db.exists org_id = true → state = "active")
    (hfound : ∀ org_id state, p = .update org_id state → db.exists org_id = true)
    (hfailed : ∀ org_id state, p = .failed org_id state → db.exists org_id = false) : PointInv db [] p :=
  ⟨fun _ _ h => (nomatch h), fun _ h => (nomatch h), hasks, hfound, hfailed⟩

theorem pointInv_idle (db : OrganizationDb) : PointInv db [] .idle :=
  pointInv_nil (fun _ _ h => (nomatch h)) (fun _ _ h => (nomatch h)) fun _ _ h => (nomatch h)

/-- What others publish does not matter to a session. -/
theorem PointInv.publish (h : PointInv db ws p) (ws' : List Write) :
    PointInv (ws'.foldl (fun db x => x.apply db) db) ws p where
  states := h.states
  tenants := h.tenants
  asks org_id state := by
    rw [exists_view]
    exact h.asks org_id state
  found org_id state := by
    rw [exists_view]
    exact h.found org_id state
  failed org_id state := by
    rw [exists_view]
    exact h.failed org_id state

/-- A point that has no tenant to commit, and one that carries out no update. -/
theorem PointInv.goto (h : PointInv db ws p) (hp : ∀ body, p ≠ .commit (some body)) (hq : q.asks = none) :
    PointInv db ws q where
  states := h.states
  tenants t ht := by
    obtain ⟨body, hbody, -⟩ := h.tenants t ht
    exact absurd hbody (hp body)
  asks org_id state hasks := by cases hq.symm.trans hasks
  found org_id state hupdate := by subst hupdate; cases hq
  failed org_id state hfailed := by subst hfailed; cases hq

/-- A write before a point that carries out no update. -/
theorem PointInv.write (h : PointInv db ws p) (hp : ∀ body, p ≠ .commit (some body)) (hq : q.asks = none)
    (hstate : ∀ org_id st, x = .state org_id st → st = .active)
    (htenant : ∀ t, x = .tenant t → ∃ body, q = .commit (some body) ∧ t.organization_id = some body.organization_id) :
    PointInv db (ws ++ [x]) q where
  states org_id st hst := by
    rcases List.mem_append.1 hst with hst | hst
    · exact h.states org_id st hst
    · exact hstate org_id st (List.mem_singleton.1 hst).symm
  tenants t ht := by
    rcases List.mem_append.1 ht with ht | ht
    · exact (h.goto hp hq).tenants t ht
    · exact htenant t (List.mem_singleton.1 ht).symm
  asks := (h.goto hp hq).asks
  found := (h.goto hp hq).found
  failed := (h.goto hp hq).failed

/-- What a session publishes is governed, if the organization of its tenant is active. -/
theorem governed_view (hdb : Governed db) (h : PointInv db ws p)
    (htenant : ∀ body, p = .commit (some body) →
      ∀ o ∈ db.organizations, o.organization_id = body.organization_id → o.state = .active) :
    Governed (ws.foldl (fun db x => x.apply db) db) := by
  intro o ho hstate t ht hof
  have ho := organization_view h.states ho hstate
  by_contra hactive
  rcases tenant_view ht (by simpa using hactive) with ht | ht
  · exact hactive (hdb o ho hstate t ht hof)
  · obtain ⟨body, hbody, horg⟩ := h.tenants t ht
    exact hstate (htenant body hbody o ho (Option.some.inj (hof.symm.trans horg)))

/-! ### The steps -/

/-- What holds of every state. -/
abbrev PlatformInv (s : Platform) : Prop := Sessions.Inv Governed PointInv s

theorem rollback_inv (h : PlatformInv s) (w : ℕ) : PlatformInv (s.rollback w) := Sessions.inv_rollback h (pointInv_idle _)

theorem fail_inv (h : PlatformInv s) {org_id state : String} (hnone : s.tx.db.exists org_id = false) :
    PlatformInv (s.fail w org_id state) := by
  refine Sessions.inv_rollback h (pointInv_nil ?_ (fun _ _ h => (nomatch h)) ?_)
  · rintro _ _ ⟨⟩ hexists
    cases hnone.symm.trans hexists
  · rintro _ _ ⟨⟩
    exact hnone

theorem next_inv (h : PlatformInv s) (hok : AsksActive s (.next w)) : PlatformInv (s.next w) := by
  have hw := h.sessions w
  unfold Platform.next
  cases hpc : s.pc w with
  | idle => exact h
  | failed org_id state => exact h
  | find body =>
    rw [hpc] at hw
    dsimp only
    split_ifs
    · exact Sessions.inv_goto h (hw.goto (fun _ h => (nomatch h)) rfl)
    · exact rollback_inv h w
  | insertTenant body =>
    rw [hpc] at hw
    dsimp only
    split_ifs
    · exact rollback_inv h w
    · refine Sessions.inv_write h (hw.write (fun _ h => (nomatch h)) rfl (fun _ _ h => (nomatch h)) fun t ht => ?_)
      exact ⟨body, rfl, by rw [← Write.tenant.inj ht]⟩
  | lookup org_id state =>
    rw [hpc] at hw
    have hview : (s.view w).exists org_id = s.tx.db.exists org_id := by
      rw [show s.view w = _ from Sessions.view_eq s w, exists_view]
    dsimp only
    rw [hview]
    split_ifs with hexists
    · refine Sessions.inv_goto h ⟨hw.states, fun t ht => ?_, ?_, ?_, fun _ _ h => (nomatch h)⟩
      · obtain ⟨_, hbody, -⟩ := hw.tenants t ht
        cases hbody
      · rintro _ _ ⟨⟩
        exact hw.asks org_id state rfl
      · rintro _ _ ⟨⟩
        exact hexists
    · exact fail_inv h (by simpa using hexists)
  | update org_id state =>
    rw [hpc] at hw
    -- the state is one that the table allows, since the organization exists
    obtain rfl : state = "active" := hw.asks org_id state rfl (hw.found org_id state rfl)
    refine Sessions.inv_write h (hw.write (fun _ h => (nomatch h)) rfl (fun _ st hst => ?_) fun _ ht => (nomatch ht))
    exact (Write.state.inj hst).2.symm
  | cascade org_id =>
    rw [hpc] at hw
    exact Sessions.inv_goto h (hw.goto (fun _ h => (nomatch h)) rfl)
  | cascadeRows org_id rows =>
    rw [hpc] at hw
    dsimp only
    split_ifs
    · exact Sessions.inv_goto h (hw.goto (fun _ h => (nomatch h)) rfl)
    · exact h
  | commit tenant =>
    rw [hpc] at hw
    refine Sessions.inv_commit h ?_ (pointInv_idle _) fun ws p hp => ?_
    · rw [Sessions.view_eq]
      refine governed_view h.committed hw fun body hbody => ?_
      obtain rfl : tenant = some body := Point.commit.inj hbody
      simpa only [AsksActive, hpc] using hok
    · rw [Sessions.view_eq]
      exact hp.publish _

theorem row_inv (h : PlatformInv s) (w : ℕ) (id : String) : PlatformInv (s.row w id) := by
  have hw := h.sessions w
  unfold Platform.row
  cases hpc : s.pc w with
  | cascadeRows org_id rows =>
    rw [hpc] at hw
    dsimp only
    split_ifs
    · exact h
    · exact Sessions.inv_write h (hw.write (by simp) rfl (by simp) (by simp))
    · exact Sessions.inv_goto h (hw.goto (by simp) rfl)
  | _ => exact h

/-- A request that comes in: an update asks for `active` if the organization exists. -/
theorem start_inv (h : PlatformInv s) (w : ℕ)
    (hasks : ∀ org_id state, p.asks = some (org_id, state) → s.tx.db.exists org_id = true → state = "active")
    (hp : (∀ org_id state, p ≠ .update org_id state) ∧ ∀ org_id state, p ≠ .failed org_id state) :
    PlatformInv (s.start w p) := by
  have hw := h.sessions w
  have hgoto : (∀ body, s.pc w ≠ .commit (some body)) → PlatformInv (s.goto w p) := fun hno =>
    Sessions.inv_goto h ⟨hw.states, fun t ht => by
      obtain ⟨body, hbody, -⟩ := hw.tenants t ht
      exact absurd hbody (hno body), hasks, fun _ _ h => absurd h (hp.1 _ _), fun _ _ h => absurd h (hp.2 _ _)⟩
  unfold Platform.start
  cases hpc : s.pc w with
  | idle => exact hgoto fun _ h => nomatch hpc.symm.trans h
  | failed org_id state => exact hgoto fun _ h => nomatch hpc.symm.trans h
  | _ => exact h

/-- **Key result.** A step that meets the condition keeps the invariant. -/
theorem step_inv (h : PlatformInv s) (a : Act) (hok : AsksActive s a) : PlatformInv (s.step a) := by
  cases a with
  | create_tenant w body =>
    exact start_inv h w (fun _ _ h => (nomatch h)) ⟨fun _ _ h => (nomatch h), fun _ _ h => (nomatch h)⟩
  | update_organization_state w org_id state =>
    simp only [Platform.step]
    split_ifs with hallowed
    · refine start_inv h w ?_ ⟨fun _ _ h => (nomatch h), fun _ _ h => (nomatch h)⟩
      rintro _ _ ⟨⟩
      exact hok hallowed
    · exact h
  | next w => exact next_inv h hok
  | row w id => exact row_inv h w id
  | rollback w => exact rollback_inv h w

/-! ### The runs -/

theorem next_lookup {org_id state : String} (hpc : s.pc w = .lookup org_id state) (hexists : s.tx.db.exists org_id = true) :
    s.step (.next w) = (Sessions.goto s w (.update org_id state) : Platform) := by
  have hview : (s.view w).exists org_id = true := by
    rw [show s.view w = _ from Sessions.view_eq s w, exists_view, hexists]
  simp only [Platform.step, Platform.next, hpc, hview, if_true]

theorem next_update {org_id : String} (hpc : s.pc w = .update org_id "active")
    (hfree : s.tx.locked Write.row w (.organization org_id) = false) :
    s.step (.next w) =
      (⟨s.tx.write w (.state org_id .active), Function.update s.pc w (.commit none)⟩ : Platform) := by
  simp only [Platform.step, Platform.next, hpc, show organizationState "active" = some .active by decide]
  rw [if_neg (by decide), Platform.write, Sessions.write, if_neg (by simpa [Write.row] using hfree)]

/-- An update to `active` takes three statements. -/
theorem commits_active {org_id : String} (hpc : s.pc w = .lookup org_id "active") (hexists : s.tx.db.exists org_id = true)
    (hfree : s.tx.locked Write.row w (.organization org_id) = false) : Commits s w org_id "active" := by
  refine ⟨[.next w, .next w, .next w], by simp, ?_⟩
  rw [List.foldl_cons, next_lookup hpc hexists, List.foldl_cons, next_update (s := Sessions.goto s w _) (Function.update_self ..) hfree,
    List.foldl_cons, List.foldl_nil]
  generalize hs : (⟨(Sessions.goto s w (.update org_id "active")).tx.write w (.state org_id .active),
    Function.update (Sessions.goto s w (.update org_id "active")).pc w (.commit none)⟩ : Platform) = s'
  have hpc' : s'.pc w = .commit none := by
    rw [← hs]
    exact Function.update_self ..
  have hwrites : s'.tx.writes w = s.tx.writes w ++ [.state org_id .active] := by
    rw [← hs, WriteLog.writes_write]
    rfl
  have hstep : Platform.step s' (.next w) = Sessions.commit Write.apply .idle s' w := by
    simp only [Platform.step, Platform.next, hpc']
  rw [hstep]
  refine ⟨Function.update_self .., fun o ho hid => ?_⟩
  have ho : o ∈ (Sessions.view Write.apply s' w).organizations := ho
  rw [Sessions.view_eq, hwrites, List.foldl_append] at ho
  obtain ⟨r, -, rfl⟩ := mem_updateWhere.1 ho
  split_ifs at hid ⊢ with hof
  · exact show organizationState "active" = some .active by decide
  · exact absurd (decide_eq_true hid) hof

theorem PlatformInv.lawful (h : PlatformInv s) : Lawful s where
  answered w org_id state hexists hfailed := by
    cases ((h.sessions w).failed org_id state hfailed).symm.trans hexists
  commits w org_id state hexists hpc hfree := by
    obtain rfl : state = "active" := (h.sessions w).asks org_id state (by rw [hpc]; rfl) hexists
    exact commits_active hpc hexists hfree
  governed := h.committed

/-- **The organizations govern their tenants**, and the updates commit, in a run in which the updates ask for `active`,
and the tenants are created for organizations that are active. -/
theorem organizations_govern (hdb : Governed db) {run : List Act}
    (hrun : Guarded Platform.step AsksActive (.init db) run) : Lawful (run.foldl Platform.step (.init db)) :=
  PlatformInv.lawful (hrun.invariant (fun _ a h ha => step_inv h a ha) (Sessions.inv_init hdb (pointInv_idle db)))

/-! ### A suspension -/

/-- An organization and its tenant. -/
def oneOrganization : OrganizationDb := ⟨[⟨"o", .active⟩], [⟨"t", "T", some "o", true⟩]⟩

/-- **Key result.** The organization is to be suspended, which the table does not allow. -/
theorem suspension_fails :
    ¬Lawful ([.update_organization_state 1 "o" "suspended", .next 1, .next 1].foldl Platform.step (.init oneOrganization)) :=
  fun h => h.answered 1 "o" "suspended" (by decide) rfl

/-- Another tenant is created while the organization is made active. -/
theorem organizations_govern_created :
    Lawful ([.create_tenant 1 ⟨"u", "U", "o"⟩, .next 1, .update_organization_state 2 "o" "active", .next 2, .next 1, .next 2,
      .next 1, .next 2].foldl Platform.step (.init oneOrganization)) :=
  organizations_govern (by decide) (by decide)

end JLMirror.Access.Organizations
