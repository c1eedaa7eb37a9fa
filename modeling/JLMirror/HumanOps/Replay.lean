import JLMirror.Foundations.Fold
import JLMirror.HumanOps.Operations
import Mathlib.Data.List.Infix

/-!
# Replays of logical actions

A request with a logical action id that has a row answers with the id of that row. The handlers do not compare the contents,
although they store a hash of it for each row; so a request with other contents is answered as if it had been done. And
the requirement of a view looks at the state of the alert before it looks for the logical action id.

## The model

* `Faithful` is the law for one request, with the tables before it.
* `ToldApart` is the condition: the request has no row yet; or its row has its contents, and the alert is active where this
  is asked for; or its row has other contents, and the checks before the lookup refuse it.

## What is proved

* **Key result** (`replays_faithful_iff`): the requests of a run are answered faithfully if and only if each is told apart.
* `reused_id_and_late_replay_unfaithful`: a second note under one id, and a replay after the alert is resolved.
-/

namespace JLMirror.HumanOps

open JLMirror.Foundations JLMirror.Alerting

/-! ### Requests -/

namespace HumanRequest

def call : HumanRequest → Call
  | .assign c _ _ | .acknowledge c _ _ | .responsibility c _ | .requirement c _ _ => c

def table : HumanRequest → HumanTable
  | .assign .. => .alert_action_assignment
  | .acknowledge .. => .alert_acknowledgement
  | .responsibility .. => .resource_responsibility_assignment
  | .requirement .. => .visibility_requirement

/-- What the request asks for. -/
def content : HumanRequest → HumanContent
  | .assign _ alert_id body => .assignment alert_id body.owner_principal_id body.action_kind
  | .acknowledge c alert_id note => .acknowledgement alert_id c.actor note
  | .responsibility _ body => .responsibility body.monitoring_resource_id body.principal_id body.responsibility_role
  | .requirement _ alert_id body =>
    .requirement alert_id body.required_viewer_principal_id body.viewer_side body.presentation_ref

/-- The checks before the lookup. -/
def checks : HumanRequest → HumanDb → Except HumanError Unit
  | .assign c alert_id body, db =>
    if body.action_kind ∈ _ACTION_KINDS then (_alert_or_404 c.tenant_id alert_id db).map fun _ => () else .error .action_kind
  | .acknowledge c alert_id _, db => (_alert_or_404 c.tenant_id alert_id db).map fun _ => ()
  | .responsibility c body, db =>
    if body.responsibility_role ∉ _RESP_ROLES then .error .role
    else if db.resources.any fun x => x = (c.tenant_id, body.monitoring_resource_id) then .ok ()
    else .error .resource_not_found
  | .requirement c alert_id body, db =>
    if body.viewer_side ∉ VIEWER_SIDES then .error .viewer_side
    else (_alert_or_404 c.tenant_id alert_id db).bind fun lifecycle =>
      if lifecycle ≠ .active then .error .active_alert_required else .ok ()

/-- The insert of the row. -/
def insert : HumanRequest → HumanDb → Except HumanError HumanDb
  | .assign c alert_id body => insertAssignment c.now (assignmentRow c alert_id body)
  | .acknowledge c alert_id note => insertAcknowledgement (acknowledgementRow c alert_id note)
  | .responsibility c body => insertResponsibility (responsibilityRow c body)
  | .requirement c alert_id body => insertRequirement (requirementRow c alert_id body)

/-- The effect that the request would have. -/
def effect (r : HumanRequest) : Effect := ⟨r.call.tenant_id, r.call.logical_id, r.call.drawn_id, r.content⟩

/-- The alert is active, where this is asked for. -/
def OnActive : HumanRequest → HumanDb → Prop
  | .requirement c alert_id _, db => db.lifecycle c.tenant_id alert_id = some .active
  | _, _ => True

theorem run_eq (r : HumanRequest) (db : HumanDb) : ∃ echo, r.run db =
    record r.table r.call echo (r.checks db) (r.insert db) db := by
  cases r with
  | assign c alert_id body => exact ⟨true, rfl⟩
  | acknowledge c alert_id note => exact ⟨false, rfl⟩
  | responsibility c body => exact ⟨false, rfl⟩
  | requirement c alert_id body => exact ⟨false, rfl⟩

end HumanRequest

/-! ### The law -/

/-- A request is answered faithfully. -/
structure Faithful (db : HumanDb) (r : HumanRequest) : Prop where
  /-- What is answered with success has its row. -/
  success : ∀ reply db', r.run db = .ok (reply, db') → ∃ x ∈ r.table.effects db', x.key = r.call.key ∧ x.content = r.content
  /-- An id that is reused with other contents is refused, and nothing changes. -/
  reused : ∀ x ∈ r.table.effects db, x.key = r.call.key → x.content ≠ r.content →
    (∃ e, r.run db = .error e) ∧ db.step (.request r) = db
  /-- A replay has the id of the first effect, and no other effect. -/
  replay : ∀ x ∈ r.table.effects db, x.key = r.call.key → x.content = r.content →
    ∃ reply, r.run db = .ok (reply, db) ∧ reply.id = x.id

/-- The condition on a request. -/
def ToldApart (db : HumanDb) (r : HumanRequest) : Prop :=
  ∀ x ∈ r.table.effects db, x.key = r.call.key →
    x.content = r.content ∧ r.OnActive db ∨ x.content ≠ r.content ∧ r.checks db ≠ .ok ()

/-! ### What a row says -/

/-- The checks that the contents of a row have passed. -/
def HumanContent.Admissible (tenant_id : String) (db : HumanDb) : HumanContent → Prop
  | .assignment alert_id _ action_kind => action_kind ∈ _ACTION_KINDS ∧ (db.lifecycle tenant_id alert_id).isSome
  | .acknowledgement alert_id _ _ => (db.lifecycle tenant_id alert_id).isSome
  | .responsibility resource_id _ role => role ∈ _RESP_ROLES ∧ (tenant_id, resource_id) ∈ db.resources
  | .requirement alert_id _ viewer_side _ => viewer_side ∈ VIEWER_SIDES ∧ (db.lifecycle tenant_id alert_id).isSome

/-- The invariant. -/
structure HumanDb.Sound (db : HumanDb) : Prop where
  keys : ∀ table : HumanTable, ((table.effects db).map Effect.key).Nodup
  admissible : ∀ table : HumanTable, ∀ x ∈ table.effects db, x.content.Admissible x.tenant_id db

section Request

variable {r : HumanRequest} {db db' : HumanDb}

theorem alert_or_404_ok {tenant_id alert_id : String} :
    (_alert_or_404 tenant_id alert_id db).map (fun _ => ()) = .ok () ↔ (db.lifecycle tenant_id alert_id).isSome := by
  unfold _alert_or_404
  cases db.lifecycle tenant_id alert_id <;> simp [Except.map]

/-- The checks pass if the contents are admissible, and the alert is active where this is asked for. -/
theorem checks_ok_iff : r.checks db = .ok () ↔ r.content.Admissible r.call.tenant_id db ∧ r.OnActive db := by
  cases r with
  | assign c alert_id body =>
    simp only [HumanRequest.checks, HumanRequest.content, HumanContent.Admissible, HumanRequest.OnActive, and_true]
    split_ifs with hkind
    · exact alert_or_404_ok.trans (and_iff_right hkind).symm
    · simp [hkind]
  | acknowledge c alert_id note =>
    simp only [HumanRequest.checks, HumanRequest.content, HumanContent.Admissible, HumanRequest.OnActive, and_true]
    exact alert_or_404_ok
  | responsibility c body =>
    simp only [HumanRequest.checks, HumanRequest.content, HumanContent.Admissible, HumanRequest.OnActive, and_true]
    have hmem : (db.resources.any fun x => x = (c.tenant_id, body.monitoring_resource_id)) = true ↔
        (c.tenant_id, body.monitoring_resource_id) ∈ db.resources := by simp
    by_cases hrole : body.responsibility_role ∈ _RESP_ROLES
    · rw [if_neg (not_not.2 hrole)]
      split_ifs with hresource
      · exact ⟨fun _ => ⟨hrole, hmem.1 hresource⟩, fun _ => rfl⟩
      · exact ⟨fun h => (by cases h), fun h => absurd (hmem.2 h.2) hresource⟩
    · rw [if_pos hrole]
      exact ⟨fun h => (by cases h), fun h => absurd h.1 hrole⟩
  | requirement c alert_id body =>
    simp only [HumanRequest.checks, HumanRequest.content, HumanContent.Admissible, HumanRequest.OnActive, HumanRequest.call,
      _alert_or_404]
    by_cases hside : body.viewer_side ∈ VIEWER_SIDES
    · rw [if_neg (not_not.2 hside)]
      cases db.lifecycle c.tenant_id alert_id with
      | none => exact ⟨fun h => (by cases h), fun h => (by cases h.2)⟩
      | some state =>
        cases state with
        | active => exact ⟨fun _ => ⟨⟨hside, rfl⟩, rfl⟩, fun _ => rfl⟩
        | resolved => exact ⟨fun h => (by cases h), fun h => (by cases h.2)⟩
    · rw [if_pos hside]
      exact ⟨fun h => (by cases h), fun h => absurd h.1.1 hside⟩

/-- An insert appends the effect to its table, and leaves the others. -/
theorem insert_ok (h : r.insert db = .ok db') :
    (∀ table : HumanTable, table.effects db' = table.effects db ++ if table = r.table then [r.effect] else []) ∧
      db'.alerts = db.alerts ∧ db'.resources = db.resources := by
  cases r with
  | assign c alert_id body =>
    obtain ⟨rows, hrows, heq⟩ := bind_ok_iff.1 h
    obtain ⟨-, rfl⟩ := insertUnless_ok_iff.1 hrows
    obtain rfl := Except.ok.inj heq
    refine ⟨fun table => ?_, rfl, rfl⟩
    cases table with
    | alert_action_assignment =>
      -- What is closed stays the effect that it is.
      refine List.map_append.trans (congrArg (· ++ _) ?_)
      exact map_updateWhere (k := ActionAssignment.effect)
        (f := fun r => r.reassigned c.now (assignmentRow c alert_id body).assigned_by_principal_id) (fun _ => rfl) _
    | _ => exact (List.append_nil _).symm
  | acknowledge c alert_id note =>
    simp only [HumanRequest.insert, insertAcknowledgement] at h
    split_ifs at h
    obtain ⟨rows, hrows, heq⟩ := bind_ok_iff.1 h
    obtain ⟨-, rfl⟩ := insertUnless_ok_iff.1 hrows
    obtain rfl := Except.ok.inj heq
    refine ⟨fun table => ?_, rfl, rfl⟩
    cases table with
    | alert_acknowledgement => exact List.map_append
    | _ => exact (List.append_nil _).symm
  | responsibility c body =>
    simp only [HumanRequest.insert, insertResponsibility] at h
    split_ifs at h
    obtain ⟨rows, hrows, heq⟩ := bind_ok_iff.1 h
    obtain ⟨-, rfl⟩ := insertUnless_ok_iff.1 hrows
    obtain rfl := Except.ok.inj heq
    refine ⟨fun table => ?_, rfl, rfl⟩
    cases table with
    | resource_responsibility_assignment => exact List.map_append
    | _ => exact (List.append_nil _).symm
  | requirement c alert_id body =>
    obtain ⟨rows, hrows, heq⟩ := bind_ok_iff.1 h
    obtain ⟨-, rfl⟩ := insertUnless_ok_iff.1 hrows
    obtain rfl := Except.ok.inj heq
    refine ⟨fun table => ?_, rfl, rfl⟩
    cases table with
    | visibility_requirement => exact List.map_append
    | _ => exact (List.append_nil _).symm

/-- What a request that succeeds has done: it has found its row, or made it. -/
theorem run_ok {reply : HumanReply} (h : r.run db = .ok (reply, db')) :
    r.checks db = .ok () ∧
      ((∃ x ∈ r.table.effects db, x.key = r.call.key ∧ reply.id = x.id ∧ db' = db) ∨
        (∀ x ∈ r.table.effects db, x.key ≠ r.call.key) ∧ r.insert db = .ok db') := by
  obtain ⟨echo, heq⟩ := r.run_eq db
  rw [heq] at h
  obtain ⟨u, hchecks, hrest⟩ := bind_ok_iff.1 h
  refine ⟨hchecks, ?_⟩
  split at hrest
  · rename_i prior hprior
    obtain ⟨rfl, rfl⟩ := Prod.mk.inj (Except.ok.inj hrest)
    have hkey := List.find?_some hprior
    exact Or.inl ⟨prior, List.mem_of_find?_eq_some hprior, of_decide_eq_true hkey, rfl, rfl⟩
  · rename_i hnone
    obtain ⟨db'', hinsert, hdb⟩ := bind_ok_iff.1 hrest
    obtain ⟨-, rfl⟩ := Prod.mk.inj (Except.ok.inj hdb)
    refine Or.inr ⟨fun x hx hkey => ?_, hinsert⟩
    exact List.find?_eq_none.1 hnone x hx (decide_eq_true hkey)

theorem run_of_prior (h : db.Sound) {x : Effect} (hx : x ∈ r.table.effects db) (hkey : x.key = r.call.key)
    (hchecks : r.checks db = .ok ()) : ∃ reply, r.run db = .ok (reply, db) ∧ reply.id = x.id := by
  obtain ⟨echo, heq⟩ := r.run_eq db
  have hfind : (r.table.effects db).find? (fun x => x.key = r.call.key) = some x := by
    rw [find?_of_key (h.keys r.table) hx fun y hy => (of_decide_eq_true hy).trans hkey.symm]
    exact if_pos (decide_eq_true hkey)
  refine ⟨⟨x.id, if echo then some r.call.logical_id else none, true⟩, ?_, rfl⟩
  rw [heq, record, hchecks, hfind]
  rfl

theorem run_of_refused (hchecks : r.checks db ≠ .ok ()) : ∃ e, r.run db = .error e := by
  obtain ⟨echo, heq⟩ := r.run_eq db
  cases hcase : r.checks db with
  | ok u => exact absurd hcase hchecks
  | error e =>
    refine ⟨e, ?_⟩
    rw [heq, record, hcase]
    rfl

theorem step_of_error {e : HumanError} (h : r.run db = .error e) : db.step (.request r) = db := by
  rw [HumanDb.step, h]

end Request

/-! ### The steps -/

section Steps

variable {db db' : HumanDb}

theorem HumanContent.Admissible.mono {c : HumanContent} {tenant_id : String} (h : c.Admissible tenant_id db)
    (halerts : ∀ t a, (db.lifecycle t a).isSome → (db'.lifecycle t a).isSome) (hresources : db.resources ⊆ db'.resources) :
    c.Admissible tenant_id db' := by
  cases c with
  | assignment alert_id owner kind => exact ⟨h.1, halerts _ _ h.2⟩
  | acknowledgement alert_id principal note => exact halerts _ _ h
  | responsibility resource principal role => exact ⟨h.1, hresources h.2⟩
  | requirement alert_id viewer side presentation => exact ⟨h.1, halerts _ _ h.2⟩

theorem HumanDb.Sound.of_effects (h : db.Sound) (heffects : ∀ table : HumanTable, table.effects db' = table.effects db)
    (halerts : ∀ t a, (db.lifecycle t a).isSome → (db'.lifecycle t a).isSome) (hresources : db.resources ⊆ db'.resources) :
    db'.Sound := by
  refine ⟨fun table => ?_, fun table x hx => ?_⟩
  · rw [heffects]
    exact h.keys table
  · rw [heffects] at hx
    exact (h.admissible table x hx).mono halerts hresources

theorem lifecycle_alert (tenant_id alert_id : String) (state : LifecycleState) {t a : String}
    (h : (db.lifecycle t a).isSome) : ((db.step (.alert tenant_id alert_id state)).lifecycle t a).isSome := by
  simp only [HumanDb.lifecycle, Option.isSome_map, List.find?_isSome, decide_eq_true_eq] at h ⊢
  obtain ⟨x, hx, hkey⟩ := h
  dsimp only [HumanDb.step]
  split_ifs
  · refine ⟨_, mem_updateWhere.2 ⟨x, hx, rfl⟩, ?_⟩
    split_ifs <;> exact hkey
  · exact ⟨x, List.mem_append_left _ hx, hkey⟩

/-- The new row keeps the keys unique, and its contents have passed the checks. -/
theorem HumanDb.Sound.insert (h : db.Sound) {r : HumanRequest} (hchecks : r.checks db = .ok ())
    (hnew : ∀ x ∈ r.table.effects db, x.key ≠ r.call.key) (hinsert : r.insert db = .ok db') : db'.Sound := by
  obtain ⟨heffects, halerts, hresources⟩ := insert_ok hinsert
  have hlifecycle : ∀ t a, db'.lifecycle t a = db.lifecycle t a := by
    intro t a
    rw [HumanDb.lifecycle, halerts]
    rfl
  have hmono : ∀ {c : HumanContent} {t : String}, c.Admissible t db → c.Admissible t db' := fun hc =>
    hc.mono (fun t a hsome => (hlifecycle t a).symm ▸ hsome) (hresources ▸ List.Subset.refl _)
  refine ⟨fun table => ?_, fun table x hx => ?_⟩
  · rw [heffects]
    split_ifs with htable
    · subst htable
      exact nodup_map_append_new (h.keys _) hnew
    · rw [List.append_nil]
      exact h.keys table
  · rw [heffects] at hx
    rcases List.mem_append.1 hx with hx | hx
    · exact hmono (h.admissible table x hx)
    · split_ifs at hx
      · obtain rfl := List.mem_singleton.1 hx
        exact hmono (checks_ok_iff.1 hchecks).1
      · cases hx

theorem effects_end_responsibility (db : HumanDb) (now : ℕ) (tenant_id actor assignment_id end_reason : String)
    (table : HumanTable) :
    table.effects (db.step (.end_responsibility now tenant_id actor assignment_id end_reason)) = table.effects db := by
  cases table with
  | resource_responsibility_assignment =>
    exact map_updateWhere (k := Responsibility.effect) (f := fun r => { r with
      effective_until := some now, ended_by_principal_id := some actor, end_reason := some end_reason }) (fun _ => rfl) _
  | _ => rfl

theorem HumanDb.Sound.step (h : db.Sound) (a : HumanAction) : (db.step a).Sound := by
  cases a with
  | request r =>
    cases hrun : r.run db with
    | error e => exact (step_of_error hrun).symm ▸ h
    | ok out =>
      obtain ⟨reply, db'⟩ := out
      have hstep : db.step (.request r) = db' := by
        rw [HumanDb.step, hrun]
      rw [hstep]
      obtain ⟨hchecks, ⟨-, -, -, -, rfl⟩ | ⟨hnew, hinsert⟩⟩ := run_ok hrun
      · exact h
      · exact h.insert hchecks hnew hinsert
  | alert tenant_id alert_id state =>
    refine h.of_effects (fun table => ?_) (fun t a => lifecycle_alert tenant_id alert_id state) ?_
    · dsimp only [HumanDb.step]
      split_ifs <;> cases table <;> rfl
    · dsimp only [HumanDb.step]
      split_ifs <;> exact List.Subset.refl _
  | resource tenant_id resource_id =>
    exact h.of_effects (fun table => by cases table <;> rfl) (fun _ _ hsome => hsome) (List.subset_append_left _ _)
  | end_responsibility now tenant_id actor assignment_id end_reason =>
    exact h.of_effects (effects_end_responsibility db now tenant_id actor assignment_id end_reason) (fun _ _ hsome => hsome)
      (List.Subset.refl _)

theorem sound_exec (run : List HumanAction) : (HumanDb.exec run).Sound := by
  induction run using List.reverseRecOn with
  | nil =>
    refine ⟨fun table => ?_, fun table x hx => ?_⟩
    · cases table <;> exact List.nodup_nil
    · cases table <;> cases hx
  | append_singleton run a ih =>
    rw [HumanDb.exec, List.foldl_append]
    exact ih.step a

end Steps

/-! ### The law of the requests -/

/-- A request is answered faithfully if and only if it is told apart. -/
theorem faithful_iff {db : HumanDb} (h : db.Sound) (r : HumanRequest) : Faithful db r ↔ ToldApart db r := by
  constructor
  · intro hfaithful x hx hkey
    by_cases hcontent : x.content = r.content
    · obtain ⟨reply, hrun, -⟩ := hfaithful.replay x hx hkey hcontent
      exact Or.inl ⟨hcontent, (checks_ok_iff.1 (run_ok hrun).1).2⟩
    · refine Or.inr ⟨hcontent, fun hchecks => ?_⟩
      obtain ⟨reply, hrun, -⟩ := run_of_prior h hx hkey hchecks
      obtain ⟨⟨e, herror⟩, -⟩ := hfaithful.reused x hx hkey hcontent
      rw [hrun] at herror
      cases herror
  · intro htold
    refine ⟨fun reply db' hrun => ?_, fun x hx hkey hcontent => ?_, fun x hx hkey hcontent => ?_⟩
    · obtain ⟨hchecks, ⟨x, hx, hkey, -, rfl⟩ | ⟨-, hinsert⟩⟩ := run_ok hrun
      · rcases htold x hx hkey with ⟨hcontent, -⟩ | ⟨-, hrefused⟩
        · exact ⟨x, hx, hkey, hcontent⟩
        · exact absurd hchecks hrefused
      · refine ⟨r.effect, ?_, rfl, rfl⟩
        rw [(insert_ok hinsert).1, if_pos rfl]
        exact List.mem_append_right _ (List.mem_singleton_self _)
    · have hrefused := ((htold x hx hkey).resolve_left fun hsame => hcontent hsame.1).2
      obtain ⟨e, herror⟩ := run_of_refused hrefused
      exact ⟨⟨e, herror⟩, step_of_error herror⟩
    · have hactive := ((htold x hx hkey).resolve_right fun hother => hother.1 hcontent).2
      refine run_of_prior h hx hkey (checks_ok_iff.2 ⟨?_, hactive⟩)
      have htenant : x.tenant_id = r.call.tenant_id := congrArg Prod.fst hkey
      rw [← hcontent, ← htenant]
      exact h.admissible r.table x hx

/-- **Key result**: the requests of a run are answered faithfully if and only if each is told apart. -/
theorem replays_faithful_iff (run : List HumanAction) :
    (∀ pre r post, run = pre ++ .request r :: post → Faithful (HumanDb.exec pre) r) ↔
      ∀ pre r post, run = pre ++ .request r :: post → ToldApart (HumanDb.exec pre) r := by
  constructor
  · exact fun h pre r post hrun => (faithful_iff (sound_exec pre) r).1 (h pre r post hrun)
  · exact fun h pre r post hrun => (faithful_iff (sound_exec pre) r).2 (h pre r post hrun)

/-- A call with the logical action id `"k"`. -/
def callOf (drawn_id : String) : Call := ⟨0, "t", "operator", some "k", "drawn", drawn_id⟩

/-- An acknowledgement of the alert with a note. -/
def noteRequest (drawn_id note : String) : HumanRequest := .acknowledge (callOf drawn_id) "a" (some note)

/-- The requirement that the owner views the alert. -/
def viewRequest (drawn_id : String) : HumanRequest :=
  .requirement (callOf drawn_id) "a" ⟨"owner", "internal", "alert_detail_view"⟩

/-- Another note under the same id is answered with the first one, and the replay of a requirement is refused when its
alert is resolved. -/
theorem reused_id_and_late_replay_unfaithful :
    ¬Faithful (.exec [.alert "t" "a" .active, .request (noteRequest "ack_1" "first")]) (noteRequest "ack_2" "second") ∧
      ¬Faithful (.exec [.alert "t" "a" .active, .request (viewRequest "vreq_1"), .alert "t" "a" .resolved])
        (viewRequest "vreq_2") := by
  constructor
  · intro h
    obtain ⟨x, hx, -, hcontent⟩ := h.success ⟨"ack_1", none, true⟩ _ rfl
    obtain rfl : x = ⟨"t", "k", "ack_1", .acknowledgement "a" "operator" (some "first")⟩ := List.mem_singleton.1 hx
    exact absurd hcontent (by decide)
  · intro h
    obtain ⟨reply, hrun, -⟩ := h.replay ⟨"t", "k", "vreq_1", .requirement "a" "owner" "internal" "alert_detail_view"⟩
      (List.mem_singleton.2 rfl) rfl rfl
    have herror : (viewRequest "vreq_2").run (.exec [.alert "t" "a" .active, .request (viewRequest "vreq_1"),
        .alert "t" "a" .resolved]) = .error .active_alert_required := rfl
    rw [herror] at hrun
    cases hrun

end JLMirror.HumanOps
