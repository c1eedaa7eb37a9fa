import JLMirror.Access.Members

/-!
# The audit of memberships

The API writes the event of a membership in the transaction that changes it, as the docstring of
`api/routers/tenant.py` has it ("Every mutation emits durable audit evidence"). The shell has the same changes
in handlers of its own.

## What is proved

* **Key result** (`add_member_touches`, `update_member_role_touches`, `revoke_member_touches`): what a transaction of
  the API publishes.
* **Key result** (`membership_audited_iff`): the requests of the API are audited at every point of failure; one of the
  shell is if and only if it changes no membership.
* **Key result** (`role_changed_unaudited`): an administrator changes a role in the shell, and no event says so.
-/

namespace JLMirror.Access.Members

open Foundations Foundations.Handler

/-! ### The law -/

/-- The row of a membership. -/
def MemberDb.row (membership_id : String) (db : MemberDb) : Option MembershipRow :=
  db.memberships.find? fun m => m.membership_id = membership_id

/-- The event is of the tenant and names the membership. -/
def AuditEvent.names (tenant_id membership_id : String) (e : AuditEvent) : Bool :=
  e.tenant_id = tenant_id ∧ e.subject_type = "membership" ∧ e.subject_id = membership_id

/-- The events that are new name each membership whose row is another one exactly once. -/
def Audited (db db' : MemberDb) : Prop :=
  ∃ events, db'.audit_event = db.audit_event ++ events ∧ ∀ id, db.row id ≠ db'.row id →
    ∀ m, db.row id = some m ∨ db'.row id = some m → events.countP (AuditEvent.names m.tenant_id id) = 1

/-- Wherever the handler fails: what it commits is audited, and if it does not succeed, it leaves everything as it
was. -/
def HandlerAudited {α : Type} (x : MemberHandler α) (db : MemberDb) (accounts : List Account) : Prop :=
  ∀ steps, Audited db (exec x ⟨db, db, accounts, steps⟩).2.committed ∧
    ∀ e w, exec x ⟨db, db, accounts, steps⟩ = (.error e, w) → w.committed = db

theorem MemberDb.row_eq_some {db : MemberDb} {id : String} {m : MembershipRow} (h : db.row id = some m) :
    m ∈ db.memberships ∧ m.membership_id = id :=
  ⟨List.mem_of_find?_eq_some h, by simpa using List.find?_some h⟩

theorem MemberDb.row_of_mem {db : MemberDb} (hdb : db.Keys) {m : MembershipRow} (hm : m ∈ db.memberships) :
    db.row m.membership_id = some m :=
  (find?_of_key hdb.membership_key hm fun _ h => of_decide_eq_true h).trans (if_pos (decide_eq_true rfl))

theorem MemberDb.row_updateWhere (db : MemberDb) (p : MembershipRow → Bool) {f : MembershipRow → MembershipRow}
    (hf : ∀ m, (f m).membership_id = m.membership_id) (id : String) :
    (MemberDb.row id { db with memberships := updateWhere p f db.memberships }) =
      (db.row id).map fun m => if p m then f m else m :=
  find?_updateWhere (fun m _ => by rw [hf m]) db.memberships

theorem Audited.refl (db : MemberDb) : Audited db db := ⟨[], by simp, fun _ h => absurd rfl h⟩

/-- Without a new event, nothing may have changed. -/
theorem audited_iff_same {db db' : MemberDb} (h : db'.audit_event = db.audit_event) :
    Audited db db' ↔ ∀ id, db.row id = db'.row id := by
  constructor
  · rintro ⟨events, hevents, hchanged⟩ id
    obtain rfl : events = [] := by simpa [h] using hevents
    by_contra hne
    have hnone : ∀ m, ¬(db.row id = some m ∨ db'.row id = some m) := fun m hm => by
      simpa using hchanged id hne m hm
    have hbefore := Option.eq_none_iff_forall_ne_some.2 fun m hm => hnone m (.inl hm)
    have hafter := Option.eq_none_iff_forall_ne_some.2 fun m hm => hnone m (.inr hm)
    exact hne (hbefore.trans hafter.symm)
  · exact fun hsame => ⟨[], by simp [h], fun id hne => absurd (hsame id) hne⟩

/-- A handler that does not commit in parts is audited if it is where it succeeds. -/
theorem handlerAudited_iff {α : Type} {x : MemberHandler α} (hx : Atomic x) {db : MemberDb} {accounts : List Account} :
    HandlerAudited x db accounts ↔
      ∀ steps a w, exec x ⟨db, db, accounts, steps⟩ = (.ok a, w) → Audited db w.committed := by
  constructor
  · intro h steps a w hexec
    have haudited := (h steps).1
    rwa [hexec] at haudited
  · intro h steps
    refine ⟨?_, fun e w hexec => hx _ e w hexec⟩
    rcases hexec : exec x ⟨db, db, accounts, steps⟩ with ⟨e | a, w⟩
    · rw [show w.committed = db from hx _ e w hexec]
      exact Audited.refl db
    · exact h steps a w hexec

/-! ### The API -/

section Api

variable {db db' : MemberDb} {w w' : MemberWorld} {tenant actor : String} {drawn : Drawn}

/-- Only the row of one membership of the tenant differs. -/
structure Touches (tenant_id membership_id : String) (db db' : MemberDb) : Prop where
  elsewhere : ∀ id, id ≠ membership_id → db'.row id = db.row id
  tenant : ∀ m, db.row membership_id = some m ∨ db'.row membership_id = some m → m.tenant_id = tenant_id
  audit_event : db'.audit_event = db.audit_event

variable {id : String}

theorem Touches.audited {action audit_event_id : String} (h : Touches tenant id db db') :
    Audited db { db' with
      audit_event := db'.audit_event ++ [membershipEvent tenant actor action id audit_event_id] } := by
  refine ⟨[membershipEvent tenant actor action id audit_event_id], by rw [h.audit_event], fun id' hne m hm => ?_⟩
  by_cases hid : id' = id
  · subst hid
    have htenant : m.tenant_id = tenant := h.tenant m hm
    simp [AuditEvent.names, membershipEvent, htenant]
  · exact absurd (h.elsewhere id' hid).symm hne

variable {f : MembershipRow → MembershipRow}

/-- An update of the rows with one id, all of the tenant, touches that membership. -/
theorem touches_updateWhere {p : MembershipRow → Bool}
    (hf : ∀ m, (f m).membership_id = m.membership_id ∧ (f m).tenant_id = m.tenant_id)
    (hp : ∀ m ∈ db.memberships, p m = true → m.membership_id = id)
    (htenant : ∀ m ∈ db.memberships, m.membership_id = id → m.tenant_id = tenant) :
    Touches tenant id db { db with memberships := updateWhere p f db.memberships } := by
  have hrow := MemberDb.row_updateWhere db p fun m => (hf m).1
  refine ⟨fun id' hne => ?_, fun m hm => ?_, rfl⟩
  · rw [hrow]
    cases hfind : db.row id' with
    | none => rfl
    | some m =>
      have hno : ¬p m = true := fun h => hne ((MemberDb.row_eq_some hfind).2.symm.trans (hp m (MemberDb.row_eq_some hfind).1 h))
      rw [Option.map_some, if_neg hno]
  · rcases hm with hm | hm
    · exact htenant m (MemberDb.row_eq_some hm).1 (MemberDb.row_eq_some hm).2
    · obtain ⟨m₀, hm₀, rfl⟩ := Option.map_eq_some_iff.1 ((hrow id).symm.trans hm)
      have h₀ : m₀.tenant_id = tenant := htenant m₀ (MemberDb.row_eq_some hm₀).1 (MemberDb.row_eq_some hm₀).2
      split_ifs
      · exact (hf m₀).2.trans h₀
      · exact h₀

/-- The membership that an upsert answers with is the one it touches. -/
theorem upsertMembership_touches (hdb : db.Keys) {row : MembershipRow} (h : upsertMembership row db = .ok (id, db')) :
    Touches row.tenant_id id db db' := by
  unfold upsertMembership at h
  split at h
  · rename_i m hfind
    obtain ⟨rfl, rfl⟩ := Prod.mk.inj (Except.ok.inj h)
    have hm := List.mem_of_find?_eq_some hfind
    have hof : m.principal_id = row.principal_id ∧ m.tenant_id = row.tenant_id :=
      MembershipRow.ofTenant_iff.1 (List.find?_some hfind)
    refine touches_updateWhere (fun _ => ⟨rfl, rfl⟩) (fun m' hm' hp => ?_) fun m' hm' hid => ?_
    · obtain ⟨hprincipal, htenant⟩ : m'.principal_id = row.principal_id ∧ m'.tenant_id = row.tenant_id :=
        MembershipRow.ofTenant_iff.1 hp
      rw [eq_of_key hdb.membership_pair hm' hm (by rw [hprincipal, htenant, hof.1, hof.2])]
    · rw [eq_of_key hdb.membership_key hm' hm hid, hof.2]
  · rcases hinsert : insertMembership row db with e | db₁
    · rw [hinsert] at h
      cases h
    · rw [hinsert] at h
      obtain ⟨rfl, rfl⟩ := Prod.mk.inj (Except.ok.inj h)
      obtain ⟨hnew, rfl⟩ := insertMembership_ok hinsert
      have hnone : db.row row.membership_id = none := List.find?_eq_none.2 fun m hm => by simpa using hnew m hm
      refine ⟨fun id' hne => ?_, fun m hm => ?_, rfl⟩
      · simp [MemberDb.row, List.find?_append, hne.symm]
      · rcases hm with hm | hm
        · rw [hnone] at hm
          cases hm
        · rw [MemberDb.row, List.find?_append, show db.memberships.find? _ = none from hnone] at hm
          obtain rfl : row = m := by simpa using hm
          rfl

variable {membership_id : String}

/-- An update of the active row of the tenant touches it. -/
theorem updateMembership_touches {u : Unit} (hdb : w.view.Keys)
    (h : exec (updateMembership tenant membership_id f) w = (.ok u, w'))
    (hf : ∀ m, (f m).membership_id = m.membership_id ∧ (f m).tenant_id = m.tenant_id) :
    Touches tenant membership_id w.view w'.view := by
  unfold updateMembership execute at h
  obtain ⟨hf', -⟩ := exec_statement_ok h
  dsimp only at hf'
  split_ifs at hf' with hcount
  obtain ⟨-, hview⟩ := Prod.mk.inj (Except.ok.inj hf')
  obtain ⟨m, hm, hfound⟩ := List.countP_pos_iff.1 (by rw [hcount]; exact Nat.one_pos)
  obtain ⟨hid, htenant, -⟩ := of_decide_eq_true hfound
  rw [← hview]
  refine touches_updateWhere hf (fun m' _ hp => (of_decide_eq_true hp).1) fun m' hm' hid' => ?_
  rw [eq_of_key hdb.membership_key hm' hm (hid'.trans hid.symm), htenant]

/-- What a transaction publishes: the change of a membership, and its event. -/
def Publishes (tenant actor action id audit_event_id : String) (db db' : MemberDb) : Prop :=
  ∃ db₁, Touches tenant id db db₁ ∧
    db' = { db₁ with audit_event := db₁.audit_event ++ [membershipEvent tenant actor action id audit_event_id] }

theorem Publishes.audited {action id audit_event_id : String} (h : Publishes tenant actor action id audit_event_id db db') :
    Audited db db' := by
  obtain ⟨db₁, htouches, rfl⟩ := h
  exact htouches.audited

/-- **Key result.** A member that is added has its event. -/
theorem add_member_touches {principal_id role : String} (hdb : w.view.Keys)
    (h : exec (add_member tenant actor principal_id role drawn) w = (.ok id, w')) :
    Publishes tenant actor "tenant.membership.granted" id drawn.audit_event_id w.view w'.committed := by
  obtain ⟨_, w₁, hrole, h⟩ := exec_bind_ok.1 h
  obtain ⟨w₂, h, hcommitted, -⟩ := transaction_ok h
  obtain ⟨_, w₃, hcustom, h⟩ := exec_bind_ok.1 h
  obtain ⟨id', w₄, hwrite, h⟩ := exec_bind_ok.1 h
  obtain ⟨_, w₅, hevent, h⟩ := exec_bind_ok.1 h
  obtain ⟨hid, rfl⟩ := Prod.mk.inj h
  obtain rfl := Except.ok.inj hid
  have hview : w₃.view = w.view := (reads_checkCustomRole _ _ hcustom).1.trans (reads_checkRole _ hrole).1
  obtain ⟨hupsert, -⟩ := exec_statement_ok hwrite
  rw [hview] at hupsert
  exact ⟨w₄.view, upsertMembership_touches hdb hupsert, hcommitted.trans (record_audit_event_ok hevent)⟩

/-- **Key result.** So has a new role. -/
theorem update_member_role_touches {role : String} (hdb : w.view.Keys)
    (h : exec (update_member_role tenant actor membership_id role drawn) w = (.ok id, w')) :
    Publishes tenant actor "tenant.membership.role_changed" membership_id drawn.audit_event_id w.view w'.committed := by
  obtain ⟨_, w₁, hrole, h⟩ := exec_bind_ok.1 h
  obtain ⟨w₂, h, hcommitted, -⟩ := transaction_ok h
  obtain ⟨_, w₃, hcustom, h⟩ := exec_bind_ok.1 h
  obtain ⟨_, w₄, hwrite, h⟩ := exec_bind_ok.1 h
  obtain ⟨_, w₅, hevent, h⟩ := exec_bind_ok.1 h
  obtain ⟨-, rfl⟩ := Prod.mk.inj h
  have hview : w₃.view = w.view := (reads_checkCustomRole _ _ hcustom).1.trans (reads_checkRole _ hrole).1
  refine ⟨w₄.view, ?_, hcommitted.trans (record_audit_event_ok hevent)⟩
  rw [← hview]
  exact updateMembership_touches (hview ▸ hdb) hwrite fun _ => ⟨rfl, rfl⟩

/-- **Key result.** So has the end of a membership. -/
theorem revoke_member_touches (hdb : w.view.Keys)
    (h : exec (revoke_member tenant actor membership_id drawn) w = (.ok id, w')) :
    Publishes tenant actor "tenant.membership.revoked" membership_id drawn.audit_event_id w.view w'.committed := by
  obtain ⟨w₁, h, hcommitted, -⟩ := transaction_ok h
  obtain ⟨_, w₂, hwrite, h⟩ := exec_bind_ok.1 h
  obtain ⟨_, w₃, hevent, h⟩ := exec_bind_ok.1 h
  obtain ⟨-, rfl⟩ := Prod.mk.inj h
  exact ⟨w₂.view, updateMembership_touches hdb hwrite fun _ => ⟨rfl, rfl⟩,
    hcommitted.trans (record_audit_event_ok hevent)⟩

end Api

/-! ### The shell -/

section Shell

variable {db : MemberDb} {accounts : List Account} {w w' : MemberWorld} {session : Option Session} {csrf_ok : Bool}
  {tenant_id principal_id : String} {role : Option String} {drawn : Drawn}

/-- A new role that is written. -/
def setRole (tenant_id principal_id role : String) (db : MemberDb) : MemberDb :=
  { db with
    memberships := updateWhere (MembershipRow.ofTenant principal_id tenant_id) (fun m => { m with role }) db.memberships }

/-- A membership that is deleted. -/
def deleteMembership (tenant_id principal_id : String) (db : MemberDb) : MemberDb :=
  { db with memberships := db.memberships.filter fun m => !m.ofTenant principal_id tenant_id }

theorem admin_update_role_ok (h : exec (admin_update_role session csrf_ok principal_id role) w = (.ok (), w')) :
    ∃ tenant_id, Admitted session csrf_ok w.view tenant_id ∧ role.getD "" ∈ VALID_ROLES ∧
      w'.committed = setRole tenant_id principal_id (role.getD "") w.view := by
  obtain ⟨tenant_id, w₁, hadmitted, h₁⟩ := exec_bind_ok.1 h
  dsimp only at h₁
  by_cases hrole : role.getD "" ∈ VALID_ROLES
  · rw [if_neg (not_not_intro hrole)] at h₁
    obtain ⟨w₂, h₂, hcommitted, -⟩ := transaction_ok h₁
    obtain ⟨hf, -⟩ := exec_statement_ok h₂
    split_ifs at hf
    obtain ⟨-, hview⟩ := Prod.mk.inj (Except.ok.inj hf)
    rw [(reads_admitted _ _ hadmitted).1] at hview
    exact ⟨tenant_id, admitted_ok hadmitted, hrole, hcommitted.trans hview.symm⟩
  · rw [if_pos hrole] at h₁
    cases h₁

variable {m : MembershipRow}

theorem runs_admin_update_role (hadmitted : Admitted session csrf_ok w.view tenant_id)
    (hrole : role.getD "" ∈ VALID_ROLES) (hm : m ∈ w.view.memberships)
    (hof : m.ofTenant principal_id tenant_id = true) :
    Runs (admin_update_role session csrf_ok principal_id role) 4 w ()
      ⟨setRole tenant_id principal_id (role.getD "") w.view, setRole tenant_id principal_id (role.getD "") w.view,
        w.outside, w.steps⟩ := by
  refine (runs_admitted hadmitted).bind (l := 2) ?_
  dsimp only
  rw [if_neg (not_not_intro hrole)]
  exact Runs.transaction (k := 1) w.committed (runs_statement (if_pos (List.any_eq_true.2 ⟨m, hm, hof⟩)))

theorem reads_memberSubject (tenant_id principal_id : String) : Reads (memberSubject tenant_id principal_id) := by
  refine (reads_query _).bind fun row => ?_
  cases row with
  | none => exact reads_throw _
  | some p =>
    refine (reads_query _).bind fun member => ?_
    split_ifs
    · exact reads_pure _
    · exact reads_throw _

theorem quiet_memberSubject (tenant_id principal_id : String) : Quiet (memberSubject tenant_id principal_id) := by
  refine (quiet_query _).bind fun row => ?_
  cases row with
  | none => exact quiet_throw _
  | some p =>
    refine (quiet_query _).bind fun member => ?_
    split_ifs
    · exact quiet_pure _
    · exact quiet_throw _

theorem memberSubject_ok {sub : Option String} (h : exec (memberSubject tenant_id principal_id) w = (.ok sub, w')) :
    ∃ m ∈ w.view.memberships, m.ofTenant principal_id tenant_id = true := by
  obtain ⟨row, w₁, hrow, h₁⟩ := exec_bind_ok.1 h
  obtain ⟨-, hview, -⟩ := exec_query_ok hrow
  cases row with
  | none => cases h₁
  | some p =>
    obtain ⟨member, w₂, hmember, h₂⟩ := exec_bind_ok.1 h₁
    obtain ⟨hany, -⟩ := exec_query_ok hmember
    split_ifs at h₂ with htrue
    · rw [htrue, hview] at hany
      exact List.any_eq_true.1 hany.symm
    · cases h₂

theorem runs_memberSubject (hdb : w.view.Keys) (hm : m ∈ w.view.memberships)
    (hof : m.ofTenant principal_id tenant_id = true) :
    ∃ sub, Runs (memberSubject tenant_id principal_id) 2 w sub w := by
  obtain ⟨p, hp, hpid⟩ := hdb.membership_principal m hm
  have hsome : (w.view.principals.find? fun p => p.principal_id = principal_id).isSome = true :=
    List.find?_isSome.2 ⟨p, hp, by simpa using hpid.trans (MembershipRow.ofTenant_iff.1 hof).1⟩
  obtain ⟨row, hrow⟩ := Option.isSome_iff_exists.1 hsome
  refine ⟨row.idp_subject_ref, (runs_query _).bind (l := 1) ?_⟩
  rw [hrow]
  refine (runs_query _).bind (l := 0) ?_
  rw [if_pos (List.any_eq_true.2 ⟨m, hm, hof⟩)]
  exact runs_pure _

theorem admin_set_active_ok {active : Bool} {u : Unit}
    (h : exec (admin_set_active active session csrf_ok principal_id) w = (.ok u, w')) :
    w'.committed = setActive principal_id active w.view := by
  obtain ⟨tenant_id, w₁, hadmitted, h₁⟩ := exec_bind_ok.1 h
  obtain ⟨sub, w₂, hsubject, h₂⟩ := exec_bind_ok.1 h₁
  obtain ⟨_, w₃, hcall, h₃⟩ := exec_bind_ok.1 h₂
  obtain ⟨w₄, h₄, hcommitted, -⟩ := transaction_ok h₃
  obtain ⟨hf, -⟩ := exec_statement_ok h₄
  have hview : w₃.view = w.view :=
    (exec_call_ok hcall).2.2.trans ((reads_memberSubject _ _ hsubject).1.trans (reads_admitted _ _ hadmitted).1)
  rw [hcommitted, ← (Prod.mk.inj (Except.ok.inj hf)).2, hview]

theorem admin_delete_user_ok {u : Unit} (h : exec (admin_delete_user session csrf_ok principal_id) w = (.ok u, w')) :
    ∃ tenant_id, Admitted session csrf_ok w.view tenant_id ∧
      ∃ m ∈ w.view.memberships, m.ofTenant principal_id tenant_id = true := by
  obtain ⟨tenant_id, w₁, hadmitted, h₁⟩ := exec_bind_ok.1 h
  obtain ⟨sub, w₂, hsubject, -⟩ := exec_bind_ok.1 h₁
  have hmember := memberSubject_ok hsubject
  rw [(reads_admitted _ _ hadmitted).1] at hmember
  exact ⟨tenant_id, admitted_ok hadmitted, hmember⟩

/-- A membership that is there is deleted, and nothing is written to the audit. -/
theorem runs_admin_delete_user (hdb : w.view.Keys) (hadmitted : Admitted session csrf_ok w.view tenant_id)
    (hm : m ∈ w.view.memberships) (hof : m.ofTenant principal_id tenant_id = true) :
    ∃ k w', Runs (admin_delete_user session csrf_ok principal_id) k w () w' ∧
      w'.committed.memberships = (deleteMembership tenant_id principal_id w.view).memberships ∧
      w'.committed.audit_event = w.view.audit_event := by
  obtain ⟨sub, hsub⟩ := runs_memberSubject hdb hm hof
  by_cases hlast : (w.view.memberships.countP fun m => m.principal_id = principal_id) = 1
  · refine ⟨9, ⟨setActive principal_id false (deleteMembership tenant_id principal_id w.view),
      setActive principal_id false (deleteMembership tenant_id principal_id w.view),
      w.outside.filter fun a => some a.id ≠ sub, w.steps⟩, ?_, rfl, rfl⟩
    refine (runs_admitted hadmitted).bind (l := 7) (hsub.bind (l := 5) ((runs_query _).bind (l := 4) ?_))
    simp only [if_pos hlast]
    refine (runs_call rfl).bind (l := 3) (Runs.transaction (k := 2) w.committed ?_)
    exact Runs.bind (l := 1) (runs_statement rfl) (runs_statement rfl)
  · refine ⟨7, ⟨deleteMembership tenant_id principal_id w.view, deleteMembership tenant_id principal_id w.view,
      w.outside, w.steps⟩, ?_, rfl, rfl⟩
    refine (runs_admitted hadmitted).bind (l := 5) (hsub.bind (l := 3) ((runs_query _).bind (l := 2) ?_))
    simp only [if_neg hlast]
    exact Runs.transaction (k := 1) w.committed (Runs.bind (l := 0) (runs_statement rfl) (runs_pure _))

theorem setRole_row_iff (hdb : db.Keys) {role : String} :
    (∀ id, db.row id = (setRole tenant_id principal_id role db).row id) ↔
      ∀ m ∈ db.memberships, m.ofTenant principal_id tenant_id = true → m.role = role := by
  have hrow := MemberDb.row_updateWhere db (MembershipRow.ofTenant principal_id tenant_id)
    (f := fun m => { m with role }) fun _ => rfl
  constructor
  · intro h m hm hof
    have hsame := (h m.membership_id).trans (hrow _)
    rw [MemberDb.row_of_mem hdb hm, Option.map_some, if_pos hof] at hsame
    exact congrArg MembershipRow.role (Option.some.inj hsame)
  · intro h id
    refine Eq.trans ?_ (hrow id).symm
    cases hfind : db.row id with
    | none => rfl
    | some m =>
      rw [Option.map_some]
      split_ifs with hof
      · rw [← h m (MemberDb.row_eq_some hfind).1 hof]
      · rfl

theorem deleteMembership_row (hdb : db.Keys) (hm : m ∈ db.memberships)
    (hof : m.ofTenant principal_id tenant_id = true) :
    (deleteMembership tenant_id principal_id db).row m.membership_id = none := by
  refine List.find?_eq_none.2 fun m' hm' hid => ?_
  obtain ⟨hmem, hnot⟩ := List.mem_filter.1 hm'
  rw [eq_of_key hdb.membership_key hmem hm (of_decide_eq_true hid), hof] at hnot
  cases hnot

/-! #### Each commits once -/

theorem atomic_admin_update_role : Atomic (admin_update_role session csrf_ok principal_id role) := by
  refine (quiet_admitted _ _).atomic_bind fun tenant_id => ?_
  dsimp only
  split_ifs
  · exact atomic_transaction (quiet_statement _)
  · exact atomic_throw_bind _

theorem atomic_admin_set_active {active : Bool} : Atomic (admin_set_active active session csrf_ok principal_id) :=
  (quiet_admitted _ _).atomic_bind fun _ => (quiet_memberSubject _ _).atomic_bind fun _ =>
    (quiet_call _).atomic_bind fun _ => atomic_transaction (quiet_statement _)

theorem atomic_admin_delete_user : Atomic (admin_delete_user session csrf_ok principal_id) := by
  refine (quiet_admitted _ _).atomic_bind fun _ => (quiet_memberSubject _ _).atomic_bind fun _ =>
    (quiet_query _).atomic_bind fun total => ?_
  by_cases hlast : total = 1
  · simp only [if_pos hlast]
    exact (quiet_call _).atomic_bind fun _ => atomic_transaction ((quiet_statement _).bind fun _ => quiet_statement _)
  · simp only [if_neg hlast]
    exact atomic_transaction ((quiet_statement _).bind fun _ => quiet_pure _)

theorem quiet_admin_list_users : Quiet (admin_list_users session) :=
  (quiet_require_admin _).bind fun _ => (quiet_query _).bind fun _ => quiet_call _

end Shell

/-! ### The requests -/

/-- A request to one of the endpoints for members: the first three are the API's. -/
inductive MemberRequest where
  | add_member (tenant actor principal_id role : String)
  | update_member_role (tenant actor membership_id role : String)
  | revoke_member (tenant actor membership_id : String)
  | admin_invite_user (issuer : String) (session : Option Session) (csrf_ok : Bool) (email first_name : String)
      (role : Option String)
  | admin_update_role (session : Option Session) (csrf_ok : Bool) (principal_id : String) (role : Option String)
  | admin_set_active (active : Bool) (session : Option Session) (csrf_ok : Bool) (principal_id : String)
  | admin_delete_user (session : Option Session) (csrf_ok : Bool) (principal_id : String)
  | admin_list_users (session : Option Session)

/-- No membership is changed without its event. -/
def MemberRequest.Audited (drawn : Drawn) (db : MemberDb) (accounts : List Account) : MemberRequest → Prop
  | .add_member tenant actor principal_id role =>
    HandlerAudited (Members.add_member tenant actor principal_id role drawn) db accounts
  | .update_member_role tenant actor membership_id role =>
    HandlerAudited (Members.update_member_role tenant actor membership_id role drawn) db accounts
  | .revoke_member tenant actor membership_id =>
    HandlerAudited (Members.revoke_member tenant actor membership_id drawn) db accounts
  | .admin_invite_user issuer session csrf_ok email first_name role =>
    HandlerAudited (Members.admin_invite_user issuer session csrf_ok email first_name role drawn) db accounts
  | .admin_update_role session csrf_ok principal_id role =>
    HandlerAudited (Members.admin_update_role session csrf_ok principal_id role) db accounts
  | .admin_set_active active session csrf_ok principal_id =>
    HandlerAudited (Members.admin_set_active active session csrf_ok principal_id) db accounts
  | .admin_delete_user session csrf_ok principal_id =>
    HandlerAudited (Members.admin_delete_user session csrf_ok principal_id) db accounts
  | .admin_list_users session => HandlerAudited (Members.admin_list_users session) db accounts

/-- The request is one of an administrator of the shell that changes a membership: an invitation that goes through, a
role that is not the one the row has, or a deletion. -/
def MemberRequest.ChangesInShell (drawn : Drawn) (db : MemberDb) (accounts : List Account) : MemberRequest → Prop
  | .admin_invite_user _ session csrf_ok email first_name role =>
    ∃ tenant_id, Invited session csrf_ok email first_name role drawn db accounts tenant_id
  | .admin_update_role session csrf_ok principal_id role =>
    ∃ tenant_id, Admitted session csrf_ok db tenant_id ∧ role.getD "" ∈ VALID_ROLES ∧
      ∃ m ∈ db.memberships, m.ofTenant principal_id tenant_id = true ∧ m.role ≠ role.getD ""
  | .admin_delete_user session csrf_ok principal_id =>
    ∃ tenant_id, Admitted session csrf_ok db tenant_id ∧
      ∃ m ∈ db.memberships, m.ofTenant principal_id tenant_id = true
  | _ => False

section Law

variable {db : MemberDb} {accounts : List Account} {session : Option Session} {csrf_ok : Bool} {drawn : Drawn}

theorem invite_audited_iff (hdb : db.Keys) {issuer email first_name : String} {role : Option String} :
    HandlerAudited (admin_invite_user issuer session csrf_ok email first_name role drawn) db accounts ↔
      ¬∃ tenant_id, Invited session csrf_ok email first_name role drawn db accounts tenant_id := by
  rw [handlerAudited_iff atomic_admin_invite_user]
  constructor
  · rintro h ⟨tenant_id, hinvited⟩
    have haudited := h none _ _ (runs_admin_invite_user (w := ⟨db, db, accounts, none⟩) hdb hinvited).unharmed
    have hsame := (audited_iff_same (by rfl)).1 haudited drawn.membership_id
    have hnone : db.row drawn.membership_id = none :=
      List.find?_eq_none.2 fun m hm => by simpa using hinvited.membership m hm
    rw [hnone, MemberDb.row] at hsame
    exact List.find?_eq_none.1 hsame.symm (invitedMembership tenant_id role drawn) (by simp [invite])
      (decide_eq_true rfl)
  · intro h steps principal_id w hexec
    obtain ⟨tenant_id, hinvited, -⟩ := admin_invite_user_ok hexec
    exact absurd ⟨tenant_id, hinvited⟩ h

theorem update_role_audited_iff (hdb : db.Keys) {principal_id : String} {role : Option String} :
    HandlerAudited (admin_update_role session csrf_ok principal_id role) db accounts ↔
      ¬∃ tenant_id, Admitted session csrf_ok db tenant_id ∧ role.getD "" ∈ VALID_ROLES ∧
        ∃ m ∈ db.memberships, m.ofTenant principal_id tenant_id = true ∧ m.role ≠ role.getD "" := by
  rw [handlerAudited_iff atomic_admin_update_role]
  constructor
  · rintro h ⟨tenant_id, hadmitted, hrole, m, hm, hof, hne⟩
    have haudited := h none _ _ (runs_admin_update_role (w := ⟨db, db, accounts, none⟩) hadmitted hrole hm hof).unharmed
    exact hne ((setRole_row_iff hdb).1 ((audited_iff_same (by rfl)).1 haudited) m hm hof)
  · intro h steps u w hexec
    obtain ⟨tenant_id, hadmitted, hrole, hcommitted⟩ := admin_update_role_ok hexec
    rw [hcommitted]
    refine (audited_iff_same (by rfl)).2 ((setRole_row_iff hdb).2 fun m hm hof => ?_)
    by_contra hne
    exact h ⟨tenant_id, hadmitted, hrole, m, hm, hof, hne⟩

theorem delete_audited_iff (hdb : db.Keys) {principal_id : String} :
    HandlerAudited (admin_delete_user session csrf_ok principal_id) db accounts ↔
      ¬∃ tenant_id, Admitted session csrf_ok db tenant_id ∧
        ∃ m ∈ db.memberships, m.ofTenant principal_id tenant_id = true := by
  rw [handlerAudited_iff atomic_admin_delete_user]
  constructor
  · rintro h ⟨tenant_id, hadmitted, m, hm, hof⟩
    obtain ⟨k, w, hruns, hmemberships, haudit⟩ :=
      runs_admin_delete_user (w := ⟨db, db, accounts, none⟩) hdb hadmitted hm hof
    have hsame := (audited_iff_same haudit).1 (h none () { w with steps := none } hruns.unharmed) m.membership_id
    rw [MemberDb.row_of_mem hdb hm, MemberDb.row, hmemberships] at hsame
    exact absurd (hsame.trans (deleteMembership_row hdb hm hof)) (Option.some_ne_none m)
  · intro h steps u w hexec
    exact absurd (admin_delete_user_ok hexec) h

/-- **Key result.** The requests of the API are audited at every point of failure; one of the shell is if and only if it
changes no membership. -/
theorem membership_audited_iff (hdb : db.Keys) (request : MemberRequest) :
    request.Audited drawn db accounts ↔ ¬request.ChangesInShell drawn db accounts := by
  cases request with
  | add_member tenant actor principal_id role =>
    refine iff_of_true ((handlerAudited_iff ?_).2 fun _ _ _ hexec => (add_member_touches hdb hexec).audited) not_false
    exact (quiet_checkRole role).atomic_bind fun _ => atomic_transaction ((quiet_checkCustomRole _ _).bind fun _ =>
      (quiet_statement _).bind fun _ => (quiet_record_audit_event _).bind fun _ => quiet_pure _)
  | update_member_role tenant actor membership_id role =>
    refine iff_of_true ((handlerAudited_iff ?_).2 fun _ _ _ hexec => (update_member_role_touches hdb hexec).audited)
      not_false
    exact (quiet_checkRole role).atomic_bind fun _ => atomic_transaction ((quiet_checkCustomRole _ _).bind fun _ =>
      (quiet_updateMembership _ _ _).bind fun _ => (quiet_record_audit_event _).bind fun _ => quiet_pure _)
  | revoke_member tenant actor membership_id =>
    refine iff_of_true ((handlerAudited_iff ?_).2 fun _ _ _ hexec => (revoke_member_touches hdb hexec).audited) not_false
    exact atomic_transaction ((quiet_updateMembership _ _ _).bind fun _ => (quiet_record_audit_event _).bind fun _ => quiet_pure _)
  | admin_invite_user issuer session csrf_ok email first_name role => exact invite_audited_iff hdb
  | admin_update_role session csrf_ok principal_id role => exact update_role_audited_iff hdb
  | admin_set_active active session csrf_ok principal_id =>
    refine iff_of_true ((handlerAudited_iff atomic_admin_set_active).2 fun _ _ w hexec => ?_) not_false
    rw [admin_set_active_ok hexec]
    exact (audited_iff_same (by rfl)).2 fun _ => rfl
  | admin_delete_user session csrf_ok principal_id => exact delete_audited_iff hdb
  | admin_list_users session =>
    refine iff_of_true ((handlerAudited_iff quiet_admin_list_users.atomic).2 fun _ _ w hexec => ?_) not_false
    rw [show w.committed = db from (congrArg (·.2.committed) hexec).symm.trans (quiet_admin_list_users _)]
    exact Audited.refl db

end Law

/-! ### A role changed in the shell -/

/-- A tenant and its administrator. -/
def oneAdmin : MemberDb where
  principals := [⟨⟨"p", .human_browser_session, true⟩, some "sub", some "issuer"⟩]
  tenants := [⟨"t", "T", true⟩]
  memberships := [⟨"m", "t", "p", "admin", .active⟩]
  roles := []
  grants := []
  audit_event := []

/-- The ids of its requests. -/
def drawnIds : Drawn := ⟨"m2", "p2", "e", "a"⟩

theorem oneAdmin_keys : oneAdmin.Keys := ⟨by decide, by decide, by decide⟩

/-- **Key result.** The administrator becomes a viewer in the shell, and no event says so. -/
theorem role_changed_unaudited :
    ¬(MemberRequest.admin_update_role (some ⟨"p", some "t"⟩) true "p" (some "viewer")).Audited drawnIds oneAdmin [] := by
  refine fun h => (update_role_audited_iff oneAdmin_keys).1 h ⟨"t", ⟨by decide, rfl⟩, by decide, ?_⟩
  exact ⟨⟨"m", "t", "p", "admin", .active⟩, by decide, by decide, by decide⟩

/-- Its membership is revoked through the API: this is audited. -/
theorem membership_audited_revoked :
    (MemberRequest.revoke_member "t" "p" "m").Audited drawnIds oneAdmin [] :=
  (membership_audited_iff oneAdmin_keys _).2 not_false

end JLMirror.Access.Members
