import JLMirror.Access.Delegation
import JLMirror.Foundations.Run

/-!
# Delegated grants and what backs them

`create_grant` looks for the relationship behind a grant, and inserts the grant in a statement of its own; a
transfer revokes the grants of the outgoing provider, and ends its relationships in a statement of its own. No lock
is shared: each can commit between the two statements of the other.

## What is proved

* `step_inv` — what holds of the open transactions: only a transfer ends relationships, and only those from the
  outgoing provider to the target; a request that inserts a grant has nothing else to do.

**Key result** (`grants_stay_backed`): in every run in which no request is overtaken so, every active grant is backed,
and a transfer leaves the outgoing provider none over the target.

* **Key result** (`granted_during_transfer`): a grant is made while the provider is transferred.
-/

namespace JLMirror.Access.Delegation

open Foundations

/-! ### The claim -/

/-- Every active grant is backed. -/
def Backed (db : DelegationDb) : Prop :=
  ∀ g ∈ db.grants, g.state = .active → db.backs g.source_organization_id g.target_tenant_id = true

/-- The outgoing provider has an active grant over a tenant of the target. -/
def MspTransfer.outstanding (body : MspTransfer) (db : DelegationDb) (g : Grant) : Bool :=
  g.state = .active ∧ g.source_organization_id = body.from_organization_id ∧
    db.owns body.target_organization_id g.target_tenant_id

/-- No request is under way. -/
def Finished (s : Delegations) : Prop := ∀ w, s.pc w = .idle

/-- What is claimed of a run: once all have finished the grants are backed, and wherever a transfer commits, the
outgoing provider is left no grant. -/
def DelegationLaw (db : DelegationDb) (run : List Act) : Prop :=
  (Finished (run.foldl Delegations.step (.init db)) → Backed (run.foldl Delegations.step (.init db)).tx.db) ∧
  ∀ pre w drawn post, run = pre ++ .next w drawn :: post →
    ∀ body, (pre.foldl Delegations.step (.init db)).pc w = .commit (.transfer body) →
      ∀ g ∈ ((pre.foldl Delegations.step (.init db)).step (.next w drawn)).tx.db.grants,
        body.outstanding ((pre.foldl Delegations.step (.init db)).step (.next w drawn)).tx.db g = false

/-- The condition: where a grant is committed, what backs it is so still; where a transfer is, the outgoing provider has
been given no grant that its fence has not revoked. -/
def NotOvertaken (s : Delegations) : Act → Prop
  | .next w _ =>
    match s.pc w with
    | .commit (.grant body) => s.tx.db.backs body.source_organization_id body.target_tenant_id = true
    | .commit (.transfer body) =>
      ∀ g ∈ s.tx.db.grants, body.outstanding s.tx.db g = true → .revoked g.grant_id ∈ s.tx.writes w
    | _ => True
  | _ => True

instance (db : DelegationDb) : Decidable (Backed db) := by
  unfold Backed
  infer_instance

instance (s : Delegations) (a : Act) : Decidable (NotOvertaken s a) := by
  cases a with
  | next w drawn =>
    dsimp only [NotOvertaken]
    split <;> infer_instance
  | _ => exact .isTrue trivial

/-! ### The invariant -/

/-- The transfer that a session carries out. -/
def Point.transfer : Point → Option MspTransfer
  | .tenants body | .fence body _ | .fenceRows body _ _ | .finish body | .finishRows body _ _ | .families body _
  | .successors body _ | .commit (.transfer body) => some body
  | _ => none

/-- What holds of a session. -/
structure PointInv (db : DelegationDb) (ws : List Write) (p : Point) : Prop where
  /-- A grant that it has inserted is the one that it is about to commit. -/
  grants : ∀ g, .grant g ∈ ws → ∃ body, p = .commit (.grant body) ∧
    body.source_organization_id = g.source_organization_id ∧ body.target_tenant_id = g.target_tenant_id
  /-- A relationship that it has ended is one of the outgoing provider to the target. -/
  ended : ∀ id, .ended id ∈ ws → ∃ body, p.transfer = some body ∧
    Between id body.from_organization_id body.target_organization_id (ws.foldl (fun db x => x.apply db) db)

/-- The relationship that a write inserts. -/
def Write.inserted : Write → Option String
  | .relationship row => some row.relationship_id
  | .ended _ | .grant _ | .revoked _ => none

/-- The relationships of a table. -/
def DelegationDb.keys (db : DelegationDb) : List String := db.relationships.map Relationship.relationship_id

/-- What holds of every state. -/
structure DelegationInv (s : Delegations) : Prop where
  inv : Sessions.Inv Backed PointInv s
  keys : s.tx.Unique DelegationDb.keys Write.inserted

variable {db : DelegationDb} {ws : List Write} {p q : Point} {s : Delegations} {w : ℕ} {x : Write}

theorem keys_apply (x : Write) (db : DelegationDb) : (x.apply db).keys = db.keys ++ x.inserted.toList := by
  cases x with
  | relationship row => simp [Write.apply, Write.inserted, DelegationDb.keys]
  | ended id =>
    rw [Write.inserted, Option.toList_none, List.append_nil]
    exact map_updateWhere (f := fun r : Relationship => { r with active := false }) (fun _ => rfl) _
  | grant row => simp [Write.apply, Write.inserted, DelegationDb.keys]
  | revoked grant_id => simp [Write.apply, Write.inserted, DelegationDb.keys]

theorem row_of_inserted (x y : Write) (k : String) (hx : x.inserted = some k) (hy : y.inserted = some k) :
    x.row = y.row := by
  cases x <;> cases y <;> simp_all [Write.inserted, Write.row]

/-! ### What a session keeps -/

theorem pointInv_nil (db : DelegationDb) (p : Point) : PointInv db [] p :=
  ⟨fun _ h => (nomatch h), fun _ h => (nomatch h)⟩

/-- A point that a session goes to: it still carries out the same transfer, if any. -/
def Point.Leads (p q : Point) : Prop :=
  (∀ body, p ≠ .commit (.grant body)) ∧ (p.transfer = none ∨ q.transfer = p.transfer)

@[simp] theorem leads_iff : p.Leads q ↔ (∀ body, p ≠ .commit (.grant body)) ∧ (p.transfer = none ∨ q.transfer = p.transfer) := Iff.rfl

theorem PointInv.goto (h : PointInv db ws p) (hq : p.Leads q) : PointInv db ws q where
  grants g hg := by
    obtain ⟨body, hp, -⟩ := h.grants g hg
    exact absurd hp (hq.1 body)
  ended id hid := by
    obtain ⟨body, hp, hbetween⟩ := h.ended id hid
    rcases hq.2 with hnone | hsame
    · cases hnone.symm.trans hp
    · exact ⟨body, hsame.trans hp, hbetween⟩

theorem PointInv.write (h : PointInv db ws p) (hq : p.Leads q)
    (hgrant : ∀ g, x = .grant g → ∃ body, q = .commit (.grant body) ∧
      body.source_organization_id = g.source_organization_id ∧ body.target_tenant_id = g.target_tenant_id)
    (hended : ∀ id, x = .ended id → ∃ body, q.transfer = some body ∧
      Between id body.from_organization_id body.target_organization_id (ws.foldl (fun db x => x.apply db) db)) :
    PointInv db (ws ++ [x]) q where
  grants g hg := by
    rcases List.mem_append.1 hg with hg | hg
    · exact (h.goto hq).grants g hg
    · exact hgrant g (List.mem_singleton.1 hg).symm
  ended id hid := by
    have hlater : ∀ {source target}, Between id source target (ws.foldl (fun db x => x.apply db) db) →
        Between id source target ((ws ++ [x]).foldl (fun db x => x.apply db) db) := fun hbetween => by
      rcases between_view.1 hbetween with hdb | ⟨r, hr, hsame⟩
      · exact between_view.2 (.inl hdb)
      · exact between_view.2 (.inr ⟨r, List.mem_append_left _ hr, hsame⟩)
    rcases List.mem_append.1 hid with hid | hid
    · obtain ⟨body, hp, hbetween⟩ := (h.goto hq).ended id hid
      exact ⟨body, hp, hlater hbetween⟩
    · obtain ⟨body, hp, hbetween⟩ := hended id (List.mem_singleton.1 hid).symm
      exact ⟨body, hp, hlater hbetween⟩

theorem PointInv.publish (h : PointInv db ws p) (ws' : List Write) :
    PointInv (ws'.foldl (fun db x => x.apply db) db) ws p where
  grants := h.grants
  ended id hid := by
    obtain ⟨body, hp, hbetween⟩ := h.ended id hid
    refine ⟨body, hp, between_view.2 ?_⟩
    exact (between_view.1 hbetween).imp_left fun hdb => between_view.2 (.inl hdb)

/-! ### What a commit publishes -/

theorem backs_view {source tenant : String} (h : db.backs source tenant = true)
    (hnot : ∀ r ∈ db.relationships, r.active = true → r.source_organization_id = source →
      db.owns r.target_organization_id tenant = true → .ended r.relationship_id ∉ ws) :
    (ws.foldl (fun db x => x.apply db) db).backs source tenant = true := by
  obtain ⟨r, hr, hbacks⟩ := List.any_eq_true.1 h
  obtain ⟨hactive, hfamily, hsource, howns⟩ := of_decide_eq_true hbacks
  refine List.any_eq_true.2 ⟨r, relationship_view hr (hnot r hr hactive hsource howns), decide_eq_true ?_⟩
  exact ⟨hactive, hfamily, hsource, by rwa [view_owns]⟩

theorem PointInv.ends_nothing (h : PointInv db ws p) (hp : p.transfer = none) (id : String) : .ended id ∉ ws := fun hid => by
  obtain ⟨body, htransfer, -⟩ := h.ended id hid
  cases hp.symm.trans htransfer

/-- What a session publishes that carries out no transfer: its grant, if it has one, is backed. -/
theorem backed_view (hdb : Backed db) (h : PointInv db ws p) (hp : p.transfer = none)
    (hgrant : ∀ body, p = .commit (.grant body) → db.backs body.source_organization_id body.target_tenant_id = true) :
    Backed (ws.foldl (fun db x => x.apply db) db) := by
  intro g hg hactive
  refine backs_view ?_ fun r _ _ _ _ => h.ends_nothing hp _
  rcases mem_grants_view hg hactive with ⟨hg, -⟩ | hg
  · exact hdb g hg hactive
  · obtain ⟨body, hcommit, hsource, htenant⟩ := h.grants g hg
    rw [← hsource, ← htenant]
    exact hgrant body hcommit

section Transfer

variable {body : MspTransfer} (h : PointInv db ws (.commit (.transfer body)))
  (hfenced : ∀ g ∈ db.grants, body.outstanding db g = true → .revoked g.grant_id ∈ ws)

include h hfenced

/-- The active grants that a transfer publishes are none of the outgoing provider over the target. -/
theorem transfer_grants {g : Grant} (hg : g ∈ (ws.foldl (fun db x => x.apply db) db).grants) (hactive : g.state = .active) :
    g ∈ db.grants ∧ body.outstanding db g = false := by
  rcases mem_grants_view hg hactive with ⟨hg, hnot⟩ | hg
  · exact ⟨hg, by simpa using fun hout => hnot (hfenced g hg hout)⟩
  · obtain ⟨body', hcommit, -⟩ := h.grants g hg
    cases hcommit

/-- What a transfer publishes is backed. -/
theorem transfer_backed (hdb : Backed db) (hkeys : (ws.foldl (fun db x => x.apply db) db).keys.Nodup) :
    Backed (ws.foldl (fun db x => x.apply db) db) := by
  intro g hg hactive
  obtain ⟨hmem, hout⟩ := transfer_grants h hfenced hg hactive
  refine backs_view (hdb g hmem hactive) fun r hr hr_active hsource howns hended => ?_
  obtain ⟨body', hbody, r', hr', hid', hsource', htarget'⟩ := h.ended _ hended
  obtain rfl : body = body' := Option.some.inj hbody
  -- the relationship that is ended is the one that backs the grant, so the grant is one to fence
  obtain ⟨r'', hr'', hid, hsame, htarget⟩ : Between r.relationship_id r.source_organization_id r.target_organization_id
      (ws.foldl (fun db x => x.apply db) db) := between_view.2 (.inl ⟨r, hr, rfl, rfl, rfl⟩)
  obtain rfl : r' = r'' := eq_of_key hkeys hr' hr'' (hid'.trans hid.symm)
  rw [hsame] at hsource'
  rw [htarget] at htarget'
  refine absurd hout (Bool.eq_false_iff.not.2 (not_not_intro (decide_eq_true ⟨hactive, ?_, ?_⟩)))
  · rw [← hsource, hsource']
  · rwa [← htarget']

end Transfer

/-! ### The steps -/

theorem goto_inv (h : DelegationInv s) (hq : (s.pc w).Leads q) : DelegationInv (s.goto w q) :=
  ⟨Sessions.inv_goto h.inv ((h.inv.sessions w).goto hq), h.keys⟩

theorem rollback_inv (h : DelegationInv s) (w : ℕ) : DelegationInv (s.rollback w) :=
  ⟨Sessions.inv_rollback h.inv (pointInv_nil _ _), h.keys.rollback⟩

theorem write_inv (h : DelegationInv s) (hq : (s.pc w).Leads q)
    (hkey : ∀ k, x.inserted = some k → k ∉ (s.view w).keys)
    (hgrant : ∀ g, x = .grant g → ∃ body, q = .commit (.grant body) ∧
      body.source_organization_id = g.source_organization_id ∧ body.target_tenant_id = g.target_tenant_id)
    (hended : ∀ id, x = .ended id → ∃ body, q.transfer = some body ∧
      Between id body.from_organization_id body.target_organization_id (s.view w)) : DelegationInv (s.write w x q) := by
  refine ⟨Sessions.inv_write h.inv ((h.inv.sessions w).write hq hgrant fun id hid => ?_),
    Sessions.unique_write keys_apply row_of_inserted h.keys hkey⟩
  rw [← Sessions.view_eq]
  exact hended id hid

theorem insertRelationship_inv (h : DelegationInv s) (hq : (s.pc w).Leads q) (row : Relationship) :
    DelegationInv (s.insertRelationship w row q) := by
  unfold Delegations.insertRelationship
  split_ifs with hwait hclash
  · exact h
  · exact rollback_inv h w
  · refine write_inv h hq (fun k hk hmem => ?_) (fun _ hg => nomatch hg) fun _ hid => nomatch hid
    obtain ⟨r, hr, hid⟩ := List.mem_map.1 hmem
    obtain rfl := Option.some.inj hk
    exact hclash (List.any_eq_true.2 ⟨r, hr, by simp [hid]⟩)

theorem commit_inv (h : DelegationInv s) {change : Change} (hpc : s.pc w = .commit change) (drawn : String)
    (hok : NotOvertaken s (.next w drawn)) : DelegationInv (s.commit Write.apply .idle w) := by
  have hpoint := h.inv.sessions w
  rw [hpc] at hpoint
  have hkeys : ((s.tx.writes w).foldl (fun db x => x.apply db) s.tx.db).keys.Nodup := by
    rw [← Sessions.view_eq]
    exact (h.keys.commit keys_apply : (s.tx.commit Write.apply w).Unique _ _).committed
  refine ⟨Sessions.inv_commit h.inv ?_ (pointInv_nil _ _) fun ws p hp => ?_, h.keys.commit keys_apply⟩
  · simp only [NotOvertaken, hpc] at hok
    rw [Sessions.view_eq]
    cases change with
    | transfer body => exact transfer_backed hpoint hok h.inv.committed hkeys
    | grant body =>
      refine backed_view h.inv.committed hpoint rfl fun body' hbody => ?_
      cases hbody
      exact hok
    | relationship => exact backed_view h.inv.committed hpoint rfl fun _ hbody => nomatch hbody
    | revocation => exact backed_view h.inv.committed hpoint rfl fun _ hbody => nomatch hbody
  · rw [Sessions.view_eq]
    exact hp.publish _

/-- A step that meets the condition keeps the invariant. -/
theorem next_inv (h : DelegationInv s) (drawn : String) (hok : NotOvertaken s (.next w drawn)) :
    DelegationInv (s.next w drawn) := by
  unfold Delegations.next
  cases hpc : s.pc w with
  | idle => exact h
  | insertRelationship body => exact insertRelationship_inv h (by simp [hpc, Point.transfer]) _
  | check body =>
    dsimp only
    split_ifs
    · exact goto_inv h (by simp [hpc, Point.transfer])
    · exact rollback_inv h w
  | insertGrant body =>
    dsimp only
    split_ifs
    · exact rollback_inv h w
    · refine write_inv h (by simp [hpc, Point.transfer]) (fun _ hk => nomatch hk) (fun g hg => ?_)
        fun _ hid => nomatch hid
      exact ⟨body, rfl, by rw [← Write.grant.inj hg], by rw [← Write.grant.inj hg]⟩
  | revoke grant_id =>
    dsimp only
    split_ifs
    · exact write_inv h (by simp [hpc, Point.transfer]) (fun _ hk => nomatch hk) (fun _ hg => nomatch hg)
        fun _ hid => nomatch hid
    · exact rollback_inv h w
  | tenants body =>
    dsimp only
    split_ifs
    · exact rollback_inv h w
    · exact goto_inv h (by simp [hpc, Point.transfer])
  | fence body target_tenants => exact goto_inv h (by simp [hpc, Point.transfer])
  | fenceRows body target_tenants rows =>
    dsimp only
    split_ifs
    · exact goto_inv h (by simp [hpc, Point.transfer])
    · exact h
  | finish body => exact goto_inv h (by simp [hpc, Point.transfer])
  | finishRows body rows ended =>
    dsimp only
    split_ifs
    · exact goto_inv h (by simp [hpc, Point.transfer])
    · exact h
  | families body ended => exact goto_inv h (by simp [hpc, Point.transfer])
  | successors body families =>
    cases families with
    | nil => exact goto_inv h (by simp [hpc, Point.transfer])
    | cons family families => exact insertRelationship_inv h (by simp [hpc, Point.transfer]) _
  | commit change => exact commit_inv h hpc drawn hok

theorem row_inv (h : DelegationInv s) (w : ℕ) (id : String) : DelegationInv (s.row w id) := by
  unfold Delegations.row
  cases hpc : s.pc w with
  | fenceRows body target_tenants rows =>
    dsimp only
    split_ifs
    · exact h
    · exact write_inv h (by simp [hpc, Point.transfer]) (by simp [Write.inserted]) (by simp) (by simp)
    · exact goto_inv h (by simp [hpc, Point.transfer])
  | finishRows body rows ended =>
    dsimp only
    split_ifs with _ hany
    · exact h
    · refine write_inv h (by simp [hpc, Point.transfer]) (by simp [Write.inserted]) (by simp)
        fun id' hid => ?_
      obtain rfl := Write.ended.inj hid
      obtain ⟨r, hr, hends⟩ := List.any_eq_true.1 hany
      obtain ⟨hid, hends⟩ := of_decide_eq_true hends
      obtain ⟨hsource, htarget, -⟩ := of_decide_eq_true hends
      exact ⟨body, rfl, r, hr, hid, hsource, htarget⟩
    · exact goto_inv h (by simp [hpc, Point.transfer])
  | _ => exact h

theorem start_inv (h : DelegationInv s) (w : ℕ) (p : Point) : DelegationInv (s.start w p) := by
  unfold Delegations.start
  cases hpc : s.pc w with
  | idle => exact goto_inv h (by simp [hpc, Point.transfer])
  | _ => exact h

/-- **Key result.** A step that meets the condition keeps the invariant. -/
theorem step_inv (h : DelegationInv s) (a : Act) (hok : NotOvertaken s a) : DelegationInv (s.step a) := by
  cases a with
  | create_relationship w body => exact start_inv h w _
  | create_grant w body =>
    simp only [Delegations.step]
    split_ifs
    · exact start_inv h w _
    · exact h
  | revoke_grant w grant_id => exact start_inv h w _
  | service_provider_transfer w body => exact start_inv h w _
  | next w drawn => exact next_inv h drawn hok
  | row w id => exact row_inv h w id
  | rollback w => exact rollback_inv h w

/-! ### The runs -/

theorem init_inv (hdb : Backed db) (hkeys : db.keys.Nodup) : DelegationInv (.init db) :=
  ⟨Sessions.inv_init hdb (pointInv_nil _ _), by simpa [WriteLog.Unique, Sessions.init] using hkeys⟩

/-- **The grants stay backed**, and a transfer leaves the outgoing provider none over the target, in a run in which no
request commits that another one has overtaken. -/
theorem grants_stay_backed (hdb : Backed db) (hkeys : db.keys.Nodup) {run : List Act}
    (hrun : Guarded Delegations.step NotOvertaken (.init db) run) : DelegationLaw db run := by
  refine ⟨fun _ => ?_, ?_⟩
  · exact (hrun.invariant (fun s a h ha => step_inv h a ha) (init_inv hdb hkeys)).inv.committed
  · rintro pre w drawn post rfl body hpc g hg
    obtain ⟨hpre, hok, -⟩ := guarded_append.1 hrun
    have hinv := hpre.invariant (fun s a h ha => step_inv h a ha) (init_inv hdb hkeys)
    generalize pre.foldl Delegations.step (.init db) = s at hpc hg hok hinv ⊢
    have hpoint := hinv.inv.sessions w
    have hstep : (s.step (.next w drawn)).tx.db = (s.tx.writes w).foldl (fun db x => x.apply db) s.tx.db := by
      simp only [Delegations.step, Delegations.next, hpc]
      exact Sessions.view_eq s w
    simp only [NotOvertaken, hpc] at hok hpoint
    rw [hstep] at hg ⊢
    by_cases hactive : g.state = .active
    · have hout := (transfer_grants hpoint hok hg hactive).2
      rwa [MspTransfer.outstanding, view_owns]
    · simp [MspTransfer.outstanding, hactive]

/-! ### A grant during a transfer -/

/-- An organization with a tenant, and its provider. -/
def oneProvider : DelegationDb where
  tenants := [⟨"t", some "O"⟩]
  relationships := [⟨"r", .provides_monitoring_service_for, "A", "O", true⟩]
  grants := []

/-- The provider is transferred while a grant is made: its fence finds no grant, which is committed before the transfer
is. -/
def overtaken : List Act :=
  [.create_grant 1 ⟨"A", "t", "p", ["monitoring:read"]⟩, .next 1 "", .service_provider_transfer 2 ⟨"O", "A", "B"⟩,
    .next 2 "", .next 2 "", .next 2 "", .next 1 "g", .next 1 "", .next 2 "", .row 2 "r", .next 2 "", .next 2 "",
    .next 2 "s", .next 2 ""]

/-- **Key result.** The outgoing provider holds an active grant after the transfer. -/
theorem granted_during_transfer : ¬DelegationLaw oneProvider (overtaken ++ [.next 2 ""]) := by
  intro h
  have hout := h.2 overtaken 2 "" [] rfl ⟨"O", "A", "B"⟩ rfl
  revert hout
  decide

/-- A grant that is made before the transfer is revoked by it. -/
theorem grants_stay_backed_fenced : DelegationLaw oneProvider
    [.create_grant 1 ⟨"A", "t", "p", ["monitoring:read"]⟩, .next 1 "", .next 1 "g", .next 1 "",
      .service_provider_transfer 2 ⟨"O", "A", "B"⟩, .next 2 "", .next 2 "", .row 2 "g", .next 2 "", .next 2 "", .row 2 "r",
      .next 2 "", .next 2 "", .next 2 "s", .next 2 "", .next 2 ""] :=
  grants_stay_backed (by decide) (by decide) (by decide)

end JLMirror.Access.Delegation
