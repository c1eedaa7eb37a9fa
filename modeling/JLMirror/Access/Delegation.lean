import JLMirror.Access.Authority
import JLMirror.Foundations.Sessions
import JLMirror.Foundations.Table

/-!
# Relationships, grants and transfers, statement by statement

`create_relationship`, `create_grant`, `revoke_grant` and `service_provider_transfer` of
`api/routers/platform.py` as any number of sessions run them at READ COMMITTED, in any interleaving of
their statements.

## The model

* A grant is made over a tenant for the principal of a provider, and the check before it asks for a
  relationship between the two organizations (`DelegationDb.backs`). A transfer revokes the grants of the
  outgoing provider, ends its relationships, and establishes those of its successor.
* A statement that would write a row waits while another session has written it; so does an `INSERT` of a
  relationship, while another session writes the row that its unique index compares it with.
* An `UPDATE` of several rows takes those that its snapshot selects one by one, in any order, and looks at
  each again once it has it.
* An `INSERT` draws the id of its row. A session can be rolled back at any point: a statement that fails, a
  crash, a deadlock.

## What is proved

* `mem_grants_view`, `between_view`, `relationship_view` — what a session sees of the grants and the relationships.

## Honest scope

The requests are those that `_require_platform_admin` lets through. No request writes `g1.tenants`. The
references of the rows (a request that violates one is rolled back) and the audit event are left out.
-/

namespace JLMirror.Access.Delegation

open Foundations

/-! ### The tables -/

/-- `family` of a relationship. -/
inductive Family where
  | contracts_platform
  | provides_monitoring_service_for
  | delegated_administration_for
  | billing_responsible_for
  deriving DecidableEq

/-- `g1.organization_relationships`. -/
structure Relationship where
  relationship_id : String
  family : Family
  source_organization_id : String
  target_organization_id : String
  /-- `state = 'active'`, else it is ended. -/
  active : Bool
  deriving DecidableEq

/-- `state` of a grant. -/
inductive GrantState where
  | active
  | revoked
  | expired
  deriving DecidableEq

/-- `g1.delegated_grants`. -/
structure Grant where
  grant_id : String
  source_organization_id : String
  target_tenant_id : String
  principal_id : String
  permissions : List String
  state : GrantState
  deriving DecidableEq

/-- `g1.tenants`, as far as these requests read it. -/
structure TenantOrganization where
  tenant_id : String
  organization_id : Option String
  deriving DecidableEq

/-- The tables. -/
structure DelegationDb where
  tenants : List TenantOrganization
  relationships : List Relationship
  grants : List Grant
  deriving DecidableEq

/-- `family IN ('delegated_administration_for', 'provides_monitoring_service_for')`. -/
def Family.delegating : Family → Bool
  | .delegated_administration_for | .provides_monitoring_service_for => true
  | .contracts_platform | .billing_responsible_for => false

/-- The tenant is one of the organization. -/
def DelegationDb.owns (db : DelegationDb) (organization_id tenant_id : String) : Bool :=
  db.tenants.any fun t => t.tenant_id = tenant_id ∧ t.organization_id = some organization_id

/-- The check of `create_grant`: an active relationship of a delegating family from the organization to that of the
tenant. -/
def DelegationDb.backs (db : DelegationDb) (source_organization_id target_tenant_id : String) : Bool :=
  db.relationships.any fun r => r.active ∧ r.family.delegating ∧ r.source_organization_id = source_organization_id ∧
    db.owns r.target_organization_id target_tenant_id

/-! ### The requests -/

/-- `RelationshipCreate`. -/
structure RelationshipCreate where
  family : Family
  source_organization_id : String
  target_organization_id : String

/-- `GrantCreate`. -/
structure GrantCreate where
  source_organization_id : String
  target_tenant_id : String
  principal_id : String
  permissions : List String

/-- `MspTransfer`. -/
structure MspTransfer where
  target_organization_id : String
  from_organization_id : String
  to_organization_id : String

/-- The permissions are ones that there are. -/
def GrantCreate.valid (body : GrantCreate) : Bool :=
  body.permissions.all fun p => p ∈ TENANT_ALL.image Permission.text

/-- A row that the fence revokes. -/
def MspTransfer.fences (body : MspTransfer) (target_tenants : List String) (g : Grant) : Bool :=
  g.source_organization_id = body.from_organization_id ∧ g.target_tenant_id ∈ target_tenants ∧ g.state = .active

/-- A row that the transfer ends. -/
def MspTransfer.ends (body : MspTransfer) (r : Relationship) : Bool :=
  r.source_organization_id = body.from_organization_id ∧ r.target_organization_id = body.target_organization_id ∧ r.active

/-! ### Writes -/

/-- What a transaction writes. -/
inductive Write where
  | relationship (row : Relationship)
  | ended (relationship_id : String)
  | grant (row : Grant)
  | revoked (grant_id : String)
  deriving DecidableEq

/-- A row that a transaction has written. -/
inductive Row where
  | relationship (relationship_id : String)
  | grant (grant_id : String)
  deriving DecidableEq

/-- The row that the others wait for. -/
def Write.row : Write → Row
  | .relationship row => .relationship row.relationship_id
  | .ended relationship_id => .relationship relationship_id
  | .grant row => .grant row.grant_id
  | .revoked grant_id => .grant grant_id

/-- A write on the tables. -/
def Write.apply (x : Write) (db : DelegationDb) : DelegationDb :=
  match x with
  | .relationship row => { db with relationships := db.relationships ++ [row] }
  | .ended relationship_id =>
    { db with
      relationships := updateWhere (fun r => r.relationship_id = relationship_id) (fun r => { r with active := false })
        db.relationships }
  | .grant row => { db with grants := db.grants ++ [row] }
  | .revoked grant_id =>
    { db with grants := updateWhere (fun g => g.grant_id = grant_id) (fun g => { g with state := .revoked }) db.grants }

/-! ### The sessions -/

/-- What a transaction is for, once it is about to commit. -/
inductive Change where
  | relationship
  | grant (body : GrantCreate)
  | revocation
  | transfer (body : MspTransfer)

/-- The next statement of a session. -/
inductive Point where
  | idle
  /-- `INSERT INTO g1.organization_relationships` of `create_relationship`. -/
  | insertRelationship (body : RelationshipCreate)
  /-- The relationship behind a grant is looked for. -/
  | check (body : GrantCreate)
  | insertGrant (body : GrantCreate)
  | revoke (grant_id : String)
  /-- The tenants of the target organization are read. -/
  | tenants (body : MspTransfer)
  /-- The `UPDATE` of the grants takes a snapshot. -/
  | fence (body : MspTransfer) (target_tenants : List String)
  /-- The grants that it has yet to look at. -/
  | fenceRows (body : MspTransfer) (target_tenants rows : List String)
  /-- The `UPDATE` of the relationships takes a snapshot. -/
  | finish (body : MspTransfer)
  /-- The relationships that it has yet to look at, and those that it has ended. -/
  | finishRows (body : MspTransfer) (rows ended : List String)
  /-- The families of those are read. -/
  | families (body : MspTransfer) (ended : List String)
  /-- The successors that are yet to be inserted. -/
  | successors (body : MspTransfer) (families : List Family)
  | commit (change : Change)

/-- The tables, the open transactions, and where their requests are. -/
abbrev Delegations := Sessions DelegationDb Write Point

namespace Delegations

/-- What a session sees. -/
abbrev view (s : Delegations) (w : ℕ) : DelegationDb := Sessions.view Write.apply s w

/-- The session writes and goes on, or waits for the row. -/
abbrev write (s : Delegations) (w : ℕ) (x : Write) (p : Point) : Delegations := Sessions.write Write.row s w x p

/-- `ROLLBACK` -/
abbrev rollback (s : Delegations) (w : ℕ) : Delegations := Sessions.rollback Point.idle s w

end Delegations

/-- The unique index compares the rows: both are active, of one family, and between the same organizations. -/
def Relationship.conflicts (r row : Relationship) : Bool :=
  r.active ∧ r.family = row.family ∧ r.source_organization_id = row.source_organization_id ∧
    r.target_organization_id = row.target_organization_id

/-- Another session has written a row that the unique index compares the new one with. -/
def Delegations.contended (s : Delegations) (w : ℕ) (row : Relationship) : Bool :=
  s.tx.log.any fun x => x.1 ≠ w &&
    match x.2 with
    | .relationship r => r.conflicts row
    | .ended relationship_id => s.tx.db.relationships.any fun r => r.relationship_id = relationship_id ∧ r.conflicts row
    | .grant _ | .revoked _ => false

/-- `INSERT INTO g1.organization_relationships`. -/
def Delegations.insertRelationship (s : Delegations) (w : ℕ) (row : Relationship) (p : Point) : Delegations :=
  if s.contended w row then s
  else if (s.view w).relationships.any fun r => r.relationship_id = row.relationship_id ∨ r.conflicts row then s.rollback w
  else s.write w (.relationship row) p

/-- The next statement of a session. -/
def Delegations.next (s : Delegations) (w : ℕ) (drawn : String) : Delegations :=
  match s.pc w with
  | .idle => s
  | .insertRelationship body =>
    s.insertRelationship w ⟨drawn, body.family, body.source_organization_id, body.target_organization_id, true⟩
      (.commit .relationship)
  | .check body =>
    if (s.view w).backs body.source_organization_id body.target_tenant_id then s.goto w (.insertGrant body)
    else s.rollback w
  | .insertGrant body =>
    if (s.view w).grants.any fun g => g.grant_id = drawn then s.rollback w
    else s.write w (.grant ⟨drawn, body.source_organization_id, body.target_tenant_id, body.principal_id, body.permissions,
      .active⟩) (.commit (.grant body))
  | .revoke grant_id =>
    if (s.view w).grants.any fun g => g.grant_id = grant_id ∧ g.state = .active then
      s.write w (.revoked grant_id) (.commit .revocation)
    else s.rollback w
  | .tenants body =>
    let target_tenants := ((s.view w).tenants.filter fun t => t.organization_id = some body.target_organization_id).map
      TenantOrganization.tenant_id
    if target_tenants = [] then s.rollback w else s.goto w (.fence body target_tenants)
  | .fence body target_tenants =>
    s.goto w (.fenceRows body target_tenants (((s.view w).grants.filter (body.fences target_tenants)).map Grant.grant_id))
  | .fenceRows body _ rows => if rows = [] then s.goto w (.finish body) else s
  | .finish body =>
    s.goto w (.finishRows body (((s.view w).relationships.filter body.ends).map Relationship.relationship_id) [])
  | .finishRows body rows ended => if rows = [] then s.goto w (.families body ended) else s
  | .families body ended =>
    s.goto w (.successors body (((s.view w).relationships.filter fun r => r.relationship_id ∈ ended).map
      Relationship.family))
  | .successors body [] => s.goto w (.commit (.transfer body))
  | .successors body (family :: families) =>
    s.insertRelationship w ⟨drawn, family, body.to_organization_id, body.target_organization_id, true⟩
      (.successors body families)
  | .commit _ => s.commit Write.apply .idle w

/-- An `UPDATE` of several rows comes to one. -/
def Delegations.row (s : Delegations) (w : ℕ) (id : String) : Delegations :=
  match s.pc w with
  | .fenceRows body target_tenants rows =>
    if id ∉ rows ∨ s.tx.locked Write.row w (.grant id) then s
    else if (s.view w).grants.any fun g => g.grant_id = id ∧ body.fences target_tenants g then
      s.write w (.revoked id) (.fenceRows body target_tenants (rows.erase id))
    else s.goto w (.fenceRows body target_tenants (rows.erase id))
  | .finishRows body rows ended =>
    if id ∉ rows ∨ s.tx.locked Write.row w (.relationship id) then s
    else if (s.view w).relationships.any fun r => r.relationship_id = id ∧ body.ends r then
      s.write w (.ended id) (.finishRows body (rows.erase id) (ended ++ [id]))
    else s.goto w (.finishRows body (rows.erase id) ended)
  | _ => s

/-- A step of the system: a request comes in, or a session goes on. -/
inductive Act where
  | create_relationship (w : ℕ) (body : RelationshipCreate)
  | create_grant (w : ℕ) (body : GrantCreate)
  | revoke_grant (w : ℕ) (grant_id : String)
  | service_provider_transfer (w : ℕ) (body : MspTransfer)
  | next (w : ℕ) (drawn : String)
  | row (w : ℕ) (id : String)
  | rollback (w : ℕ)

/-- A request opens a transaction in a session that is free. -/
def Delegations.start (s : Delegations) (w : ℕ) (p : Point) : Delegations :=
  match s.pc w with
  | .idle => s.goto w p
  | _ => s

/-- A step. -/
def Delegations.step (s : Delegations) : Act → Delegations
  | .create_relationship w body => s.start w (.insertRelationship body)
  | .create_grant w body => if body.valid then s.start w (.check body) else s
  | .revoke_grant w grant_id => s.start w (.revoke grant_id)
  | .service_provider_transfer w body => s.start w (.tenants body)
  | .next w drawn => s.next w drawn
  | .row w id => s.row w id
  | .rollback w => s.rollback w

/-- The tables, and no request. -/
abbrev Delegations.init (db : DelegationDb) : Delegations := Sessions.init .idle db

/-! ### What a session sees -/

section View

variable {db : DelegationDb} {ws : List Write}

@[simp] theorem apply_tenants (x : Write) (db : DelegationDb) : (x.apply db).tenants = db.tenants := by
  cases x <;> rfl

@[simp] theorem view_tenants (ws : List Write) (db : DelegationDb) :
    (ws.foldl (fun db x => x.apply db) db).tenants = db.tenants := by
  induction ws generalizing db with
  | nil => rfl
  | cons x ws ih => rw [List.foldl_cons, ih, apply_tenants]

@[simp] theorem view_owns (ws : List Write) (db : DelegationDb) (organization_id tenant_id : String) :
    (ws.foldl (fun db x => x.apply db) db).owns organization_id tenant_id = db.owns organization_id tenant_id := by
  rw [DelegationDb.owns, view_tenants, DelegationDb.owns]

/-- An active grant that a session sees is committed and not revoked, or its own. -/
theorem mem_grants_view {g : Grant} (hg : g ∈ (ws.foldl (fun db x => x.apply db) db).grants) (hactive : g.state = .active) :
    (g ∈ db.grants ∧ .revoked g.grant_id ∉ ws) ∨ .grant g ∈ ws := by
  induction ws generalizing db with
  | nil => exact .inl ⟨hg, List.not_mem_nil⟩
  | cons x ws ih =>
    rcases ih hg with ⟨hg, hnot⟩ | hmem
    · cases x with
      | grant row =>
        rcases List.mem_append.1 hg with hg | hg
        · exact .inl ⟨hg, by simpa using hnot⟩
        · exact .inr (by simp [List.mem_singleton.1 hg])
      | revoked grant_id =>
        obtain ⟨r, hr, rfl⟩ := mem_updateWhere.1 hg
        split_ifs at hactive hnot ⊢ with hid
        exact .inl ⟨hr, List.not_mem_cons_of_ne_of_not_mem (fun h => hid (decide_eq_true (Write.revoked.inj h))) hnot⟩
      | relationship row => exact .inl ⟨hg, by simpa using hnot⟩
      | ended relationship_id => exact .inl ⟨hg, by simpa using hnot⟩
    · exact .inr (List.mem_cons_of_mem x hmem)

/-- A relationship between two organizations is there under an id. -/
def Between (relationship_id source target : String) (db : DelegationDb) : Prop :=
  ∃ r ∈ db.relationships, r.relationship_id = relationship_id ∧ r.source_organization_id = source ∧
    r.target_organization_id = target

/-- One that a session sees is committed or its own. -/
theorem between_view {relationship_id source target : String} :
    Between relationship_id source target (ws.foldl (fun db x => x.apply db) db) ↔
      Between relationship_id source target db ∨ ∃ r, .relationship r ∈ ws ∧ r.relationship_id = relationship_id ∧
        r.source_organization_id = source ∧ r.target_organization_id = target := by
  induction ws generalizing db with
  | nil => simp
  | cons x ws ih =>
    have hx : Between relationship_id source target (x.apply db) ↔ Between relationship_id source target db ∨
        ∃ r, x = .relationship r ∧ r.relationship_id = relationship_id ∧ r.source_organization_id = source ∧
          r.target_organization_id = target := by
      cases x with
      | relationship row => simp [Between, Write.apply, or_and_right, exists_or]
      | ended id =>
        simp only [Between, Write.apply, mem_updateWhere]
        constructor
        · rintro ⟨-, ⟨r, hr, rfl⟩, h⟩
          refine .inl ⟨r, hr, ?_⟩
          split_ifs at h <;> exact h
        · rintro (⟨r, hr, h⟩ | ⟨r, hr, -⟩)
          · refine ⟨_, ⟨r, hr, rfl⟩, ?_⟩
            split_ifs <;> exact h
          · cases hr
      | grant row => simp [Between, Write.apply]
      | revoked grant_id => simp [Between, Write.apply]
    rw [List.foldl_cons, ih, hx, or_assoc]
    refine or_congr_right ?_
    simp only [List.mem_cons, or_and_right, exists_or, eq_comm]

/-- A relationship that is committed as active, and that the session does not end, it sees as active. -/
theorem relationship_view {r : Relationship} (hr : r ∈ db.relationships) (hnot : .ended r.relationship_id ∉ ws) :
    r ∈ (ws.foldl (fun db x => x.apply db) db).relationships := by
  induction ws generalizing db with
  | nil => exact hr
  | cons x ws ih =>
    obtain ⟨hx, hnot⟩ := not_or.1 (List.mem_cons.not.1 hnot)
    refine ih ?_ hnot
    cases x with
    | relationship row => exact List.mem_append_left _ hr
    | ended id =>
      refine mem_updateWhere_of_not hr (decide_eq_false fun hid => hx ?_)
      rw [hid]
    | grant row => exact hr
    | revoked grant_id => exact hr

end View

end JLMirror.Access.Delegation
