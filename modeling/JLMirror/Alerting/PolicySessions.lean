import JLMirror.Alerting.Evaluation
import JLMirror.Foundations.RowLocks

/-!
# Requests that change the policies, statement by statement

`create_policy_version` and `set_effective_version` of `api/routers/alerting.py` as any number of
sessions run them at READ COMMITTED, in any interleaving of their statements.

## The model

* The sessions share a `Foundations.WriteLog`. A statement reads what is committed and what its own
  session has written. `now` is `transaction_timestamp()`.
* A statement that would write or lock a row waits while another session has written or locked it
  (`LockedRow`); a step of a session that waits leaves the state as it is.
* The rows of the `UPDATE` of `set_effective_version` are those that its snapshot selects. It takes
  them one by one, in any order, and looks at each again once it has it.
* A session can be rolled back at any point: a statement that fails, a crash, a deadlock.

## What is proved

* `known_view`, `clean_view`, `mem_effective_view` — what a session sees of the versions and of the
  pointers.
* `superseded_view` — no write takes a version back that is superseded.

`JLMirror.Alerting.EffectivePointer` says when the pointers stay live.

## Honest scope

The tables hold the rows of one tenant, and the audit event is left out, as in
`JLMirror.Alerting.Policy`.
-/

namespace JLMirror.Alerting

open JLMirror.Foundations JLMirror.Monitoring

/-! ### Writes and locks -/

/-- `PRIMARY KEY (tenant_id, policy_id, policy_version)` -/
def AlertPolicyVersion.key (v : AlertPolicyVersion) : String × ℕ := (v.policy_id, v.policy_version)

/-- The version that a pointer refers to. -/
def EffectiveVersion.key (e : EffectiveVersion) : String × ℕ := (e.policy_id, e.policy_version)

/-- A row that a transaction has written or locked. -/
inductive LockedRow where
  | policy (policy_id : String)
  | version (key : String × ℕ)
  | effective (policy_id : String)
  deriving DecidableEq

/-- A new version is not superseded. -/
abbrev NewVersion := { v : AlertPolicyVersion // v.superseded_at = none }

/-- What a transaction writes. -/
inductive PolicyWrite where
  | policy (policy_id : String)
  /-- `SELECT … FOR UPDATE` of the policy. -/
  | lock (policy_id : String)
  | version (row : NewVersion)
  | superseded (now : Timestamp) (key : String × ℕ)
  | effective (e : EffectiveVersion)
  deriving DecidableEq

/-- The row that the others wait for. -/
def PolicyWrite.row : PolicyWrite → LockedRow
  | .policy policy_id | .lock policy_id => .policy policy_id
  | .version row => .version row.1.key
  | .superseded _ key => .version key
  | .effective e => .effective e.policy_id

/-- A write on the tables. -/
def PolicyWrite.apply (x : PolicyWrite) (db : AlertingDb) : AlertingDb :=
  match x with
  | .policy policy_id => { db with policies := db.policies ++ [policy_id] }
  | .lock _ => db
  | .version row => { db with versions := db.versions ++ [row.1] }
  | .superseded now key => { db with versions := supersede now (fun v => v.key = key) db.versions }
  | .effective e => { db with effective := pointTo e db.effective }

/-! ### The sessions -/

/-- The next statement of a session. -/
inductive PolicyPoint where
  | idle
  /-- `INSERT INTO alerting.alert_policy … ON CONFLICT DO NOTHING` -/
  | insertPolicy (body : PolicyVersionCreate)
  /-- `SELECT 1 FROM alerting.alert_policy … FOR UPDATE` -/
  | lockPolicy (body : PolicyVersionCreate)
  /-- `SELECT COALESCE(MAX(policy_version), 0) + 1` -/
  | number (body : PolicyVersionCreate)
  /-- `INSERT INTO alerting.alert_policy_version` -/
  | insertVersion (body : PolicyVersionCreate) (version : ℕ)
  /-- The version that is effective so far is read. -/
  | prior (e : EffectiveVersion)
  /-- It is superseded. -/
  | supersedePrior (e : EffectiveVersion) (prior : ℕ)
  /-- `set_effective_version` reads `superseded_at`. -/
  | check (e : EffectiveVersion)
  /-- Its `UPDATE` takes a snapshot. -/
  | snapshot (e : EffectiveVersion)
  /-- The rows that the `UPDATE` has yet to look at. -/
  | rows (e : EffectiveVersion) (targets : List ℕ)
  /-- `INSERT INTO alerting.alert_policy_effective_version … ON CONFLICT … DO UPDATE` -/
  | effective (e : EffectiveVersion)
  | commit

/-- The tables, the open transactions, and where their requests are. -/
structure PolicyWorld where
  tx : WriteLog AlertingDb PolicyWrite
  pc : ℕ → PolicyPoint
  /-- `transaction_timestamp()` -/
  now : ℕ → Timestamp

/-- What a session sees. -/
def PolicyWorld.view (s : PolicyWorld) (w : ℕ) : AlertingDb := s.tx.view PolicyWrite.apply w

/-- Another session has written or locked the row. -/
def PolicyWorld.locked (s : PolicyWorld) (w : ℕ) (row : LockedRow) : Bool := s.tx.locked PolicyWrite.row w row

/-- The session goes on. -/
def PolicyWorld.goto (s : PolicyWorld) (w : ℕ) (p : PolicyPoint) : PolicyWorld :=
  { s with pc := Function.update s.pc w p }

/-- The session writes and goes on, or waits for the row. -/
def PolicyWorld.write (s : PolicyWorld) (w : ℕ) (x : PolicyWrite) (p : PolicyPoint) : PolicyWorld :=
  if s.locked w x.row then s else { s with tx := s.tx.write w x, pc := Function.update s.pc w p }

/-- `ROLLBACK` -/
def PolicyWorld.rollback (s : PolicyWorld) (w : ℕ) : PolicyWorld :=
  { s with tx := s.tx.rollback w, pc := Function.update s.pc w .idle }

/-- `COMMIT` -/
def PolicyWorld.commit (s : PolicyWorld) (w : ℕ) : PolicyWorld :=
  { s with tx := s.tx.commit PolicyWrite.apply w, pc := Function.update s.pc w .idle }

/-- A version as `create_policy_version` inserts it. -/
def PolicyVersionCreate.row (body : PolicyVersionCreate) (version : ℕ) (condition : PolicyCondition) : NewVersion :=
  ⟨⟨body.policy_id, version, condition, body.monitoring_source_id, body.monitoring_resource_id, body.content, none⟩, rfl⟩

/-- `INSERT INTO alerting.alert_policy_version` -/
def PolicyWorld.insertVersion (s : PolicyWorld) (w : ℕ) (body : PolicyVersionCreate) (version : ℕ) : PolicyWorld :=
  match body.condition with
  | .error _ => s.rollback w
  | .ok condition =>
    if (s.view w).versions.any fun v => v.key = (body.policy_id, version) then s.rollback w
    else s.write w (.version (body.row version condition))
      (if body.make_effective then .prior ⟨body.policy_id, version, true⟩ else .commit)

/-- The first statement of `set_effective_version`. -/
def PolicyWorld.check (s : PolicyWorld) (w : ℕ) (e : EffectiveVersion) : PolicyWorld :=
  match (s.view w).versions.find? fun v => v.key = e.key with
  | none => s.rollback w
  | some v => if v.superseded_at ≠ none then s.rollback w else s.goto w (.snapshot e)

/-- The versions that the `UPDATE` of `set_effective_version` selects. -/
def AlertingDb.otherVersions (db : AlertingDb) (e : EffectiveVersion) : List ℕ :=
  (db.versions.filter fun v =>
    v.policy_id = e.policy_id ∧ v.policy_version ≠ e.policy_version ∧ v.superseded_at = none).map
      AlertPolicyVersion.policy_version

/-- The next statement of a session. -/
def PolicyWorld.next (s : PolicyWorld) (w : ℕ) : PolicyWorld :=
  match s.pc w with
  | .idle => s
  | .insertPolicy body =>
    if body.policy_id ∈ (s.view w).policies then s.goto w (.lockPolicy body)
    else s.write w (.policy body.policy_id) (.lockPolicy body)
  | .lockPolicy body => s.write w (.lock body.policy_id) (.number body)
  | .number body => s.goto w (.insertVersion body ((s.view w).nextVersion body.policy_id))
  | .insertVersion body version => s.insertVersion w body version
  | .prior e =>
    match (s.view w).effectiveOf e.policy_id with
    | none => s.goto w (.effective e)
    | some r => s.goto w (.supersedePrior e r.policy_version)
  | .supersedePrior e prior => s.write w (.superseded (s.now w) (e.policy_id, prior)) (.effective e)
  | .check e => s.check w e
  | .snapshot e => s.goto w (.rows e ((s.view w).otherVersions e))
  | .rows e targets => if targets = [] then s.goto w (.effective e) else s
  | .effective e => s.write w (.effective e) .commit
  | .commit => s.commit w

/-- The `UPDATE` of `set_effective_version` comes to a row. -/
def PolicyWorld.row (s : PolicyWorld) (w n : ℕ) : PolicyWorld :=
  match s.pc w with
  | .rows e targets =>
    if n ∈ targets then
      if s.locked w (.version (e.policy_id, n)) then s
      else if (s.view w).versions.any fun v => v.key = (e.policy_id, n) ∧ v.superseded_at = none then
        s.write w (.superseded (s.now w) (e.policy_id, n)) (.rows e (targets.erase n))
      else s.goto w (.rows e (targets.erase n))
    else s
  | _ => s

/-- A step of the system. -/
inductive PolicyAct where
  /-- A request for `create_policy_version` comes in. -/
  | create (w : ℕ) (now : Timestamp) (body : PolicyVersionCreate)
  /-- A request for `set_effective_version` comes in. -/
  | set (w : ℕ) (now : Timestamp) (policy_id : String) (body : EffectiveSet)
  | next (w : ℕ)
  | row (w n : ℕ)
  | rollback (w : ℕ)

/-- A request opens a transaction in a session that is free. -/
def PolicyWorld.start (s : PolicyWorld) (w : ℕ) (now : Timestamp) (p : PolicyPoint) : PolicyWorld :=
  match s.pc w with
  | .idle => { s with pc := Function.update s.pc w p, now := Function.update s.now w now }
  | _ => s

/-- A step. -/
def PolicyWorld.step (s : PolicyWorld) : PolicyAct → PolicyWorld
  | .create w now body =>
    match body.condition with
    | .error (.http _ _) => s
    | _ => s.start w now (.insertPolicy body)
  | .set w now policy_id body => s.start w now (.check ⟨policy_id, body.policy_version, body.enabled⟩)
  | .next w => s.next w
  | .row w n => s.row w n
  | .rollback w => s.rollback w

/-- Statements of a session in a row. -/
def nexts (w n : ℕ) : List PolicyAct := List.replicate n (.next w)

/-- The empty tables, and no request. -/
def PolicyWorld.init : PolicyWorld := ⟨⟨.empty, []⟩, fun _ => .idle, fun _ => default⟩

/-! ### What a session sees -/

/-- The version exists. -/
def Known (db : AlertingDb) (key : String × ℕ) : Prop := ∃ v ∈ db.versions, v.key = key

/-- It is not superseded. -/
def Clean (db : AlertingDb) (key : String × ℕ) : Prop := ∀ v ∈ db.versions, v.key = key → v.superseded_at = none

/-- It is superseded. -/
def Superseded (db : AlertingDb) (key : String × ℕ) : Prop := ∃ v ∈ db.versions, v.key = key ∧ v.superseded_at ≠ none

instance (db : AlertingDb) (key : String × ℕ) : Decidable (Clean db key) := by
  unfold Clean
  infer_instance

instance (db : AlertingDb) (key : String × ℕ) : Decidable (Superseded db key) := by
  unfold Superseded
  infer_instance

/-- The version that a write inserts. -/
def PolicyWrite.inserted : PolicyWrite → Option (String × ℕ)
  | .version row => some row.1.key
  | .policy _ | .lock _ | .superseded _ _ | .effective _ => none

/-- The versions of a table. -/
def AlertingDb.keys (db : AlertingDb) : List (String × ℕ) := db.versions.map AlertPolicyVersion.key

theorem known_iff {db : AlertingDb} {k : String × ℕ} : Known db k ↔ k ∈ db.keys := by
  simp [Known, AlertingDb.keys]

theorem mem_supersede {now : Timestamp} {key : String × ℕ} {rows : List AlertPolicyVersion} {v : AlertPolicyVersion}
    (hv : v ∈ supersede now (fun v => v.key = key) rows) :
    ∃ r ∈ rows, r.key = v.key ∧ (v.key ≠ key → v = r) ∧ (v.key = key → v.superseded_at = some now) := by
  obtain ⟨r, hr, rfl⟩ := mem_updateWhere.1 hv
  refine ⟨r, hr, ?_⟩
  split_ifs with hkey
  · exact ⟨rfl, fun hne => absurd (of_decide_eq_true hkey) hne, fun _ => rfl⟩
  · exact ⟨rfl, fun _ => rfl, fun heq => absurd (decide_eq_true heq) hkey⟩

theorem keys_apply (x : PolicyWrite) (db : AlertingDb) : (x.apply db).keys = db.keys ++ x.inserted.toList := by
  cases x with
  | version row => simp [PolicyWrite.apply, PolicyWrite.inserted, AlertingDb.keys]
  | superseded now key =>
    rw [PolicyWrite.inserted, Option.toList_none, List.append_nil]
    exact map_updateWhere (f := fun v : AlertPolicyVersion => { v with superseded_at := some now }) (fun _ => rfl) _
  | _ => simp [PolicyWrite.apply, PolicyWrite.inserted, AlertingDb.keys]

theorem clean_apply {x : PolicyWrite} {db : AlertingDb} {k : String × ℕ} (h : Clean db k)
    (hx : ∀ now, x ≠ .superseded now k) : Clean (x.apply db) k := by
  cases x with
  | version row =>
    intro v hv hkey
    rcases List.mem_append.1 hv with hv | hv
    · exact h v hv hkey
    · exact List.mem_singleton.1 hv ▸ row.2
  | superseded now key =>
    intro v hv hkey
    obtain ⟨r, hr, hrkey, hsame, -⟩ := mem_supersede hv
    have hne : v.key ≠ key := fun heq => hx now (by rw [← hkey, heq])
    exact hsame hne ▸ h r hr (hrkey.trans hkey)
  | policy | lock | effective => exact h

/-- Nothing takes back that a version is superseded. -/
theorem superseded_apply {x : PolicyWrite} {db : AlertingDb} {k : String × ℕ} (h : Superseded db k) :
    Superseded (x.apply db) k := by
  obtain ⟨v, hv, hkey, hsup⟩ := h
  cases x with
  | version row => exact ⟨v, List.mem_append_left _ hv, hkey, hsup⟩
  | superseded now key =>
    refine ⟨_, mem_updateWhere.2 ⟨v, hv, rfl⟩, ?_⟩
    split_ifs
    · exact ⟨hkey, (nomatch ·)⟩
    · exact ⟨hkey, hsup⟩
  | policy | lock | effective => exact ⟨v, hv, hkey, hsup⟩

/-- A pointer after a write. -/
theorem mem_pointTo {e r : EffectiveVersion} {rows : List EffectiveVersion} (h : r ∈ pointTo e rows) :
    r = e ∨ r ∈ rows ∧ e.policy_id ≠ r.policy_id := by
  rw [pointTo] at h
  split_ifs at h with hany
  · obtain ⟨r', hr', rfl⟩ := mem_updateWhere.1 h
    split_ifs with hpol
    · exact Or.inl rfl
    · exact Or.inr ⟨hr', fun heq => hpol (decide_eq_true heq.symm)⟩
  · rcases List.mem_append.1 h with hr | hr
    · refine Or.inr ⟨hr, fun heq => hany (List.any_eq_true.2 ⟨r, hr, decide_eq_true heq.symm⟩)⟩
    · exact Or.inl (List.mem_singleton.1 hr)

variable {s : PolicyWorld} {w : ℕ} {k : String × ℕ}

theorem known_view : Known (s.view w) k ↔ Known s.tx.db k ∨ ∃ x, (w, x) ∈ s.tx.log ∧ x.inserted = some k := by
  rw [known_iff, known_iff, PolicyWorld.view, WriteLog.keys_view keys_apply]
  simp only [List.mem_append, List.mem_filterMap, WriteLog.mem_writes]

theorem clean_view (h : Clean s.tx.db k) (hw : ∀ now, (w, .superseded now k) ∉ s.tx.log) : Clean (s.view w) k :=
  WriteLog.view_induction (P := (Clean · k)) h fun _ hx _ hP => clean_apply hP fun now heq => hw now (heq ▸ hx)

theorem superseded_view (h : Superseded s.tx.db k) : Superseded (s.view w) k :=
  WriteLog.view_induction (P := (Superseded · k)) h fun _ _ _ => superseded_apply

/-- A session sees its own pointer of a policy, or the one that is committed. -/
theorem mem_effective_view {e : EffectiveVersion} (he : e ∈ (s.view w).effective) :
    (w, .effective e) ∈ s.tx.log ∨
      e ∈ s.tx.db.effective ∧ ∀ e', (w, .effective e') ∈ s.tx.log → e'.policy_id ≠ e.policy_id := by
  rw [PolicyWorld.view, WriteLog.view_eq] at he
  simp only [← WriteLog.mem_writes]
  generalize s.tx.db = db at he ⊢
  generalize s.tx.writes w = xs at he ⊢
  induction xs generalizing db with
  | nil => exact Or.inr ⟨he, fun _ h => nomatch h⟩
  | cons x xs ih =>
    rcases ih _ he with hmem | ⟨hmem, hno⟩
    · exact Or.inl (List.mem_cons_of_mem x hmem)
    · cases x with
      | effective e' =>
        rcases mem_pointTo hmem with rfl | ⟨hmem, hne⟩
        · exact Or.inl List.mem_cons_self
        · refine Or.inr ⟨hmem, fun e'' h'' => ?_⟩
          rcases List.mem_cons.1 h'' with heq | h''
          · exact PolicyWrite.effective.inj heq ▸ hne
          · exact hno e'' h''
      | policy | lock | version | superseded =>
        refine Or.inr ⟨hmem, fun e' h' => hno e' ?_⟩
        simpa using h'

end JLMirror.Alerting
