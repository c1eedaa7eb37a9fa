import JLMirror.Alerting.PolicySessions
import JLMirror.Foundations.Run

/-!
# The effective version of a policy stays live

`set_effective_version` reads `superseded_at` of the version it selects, and locks nothing: by the
time that it has the pointer, a request that has committed in between may have superseded the version.
The pointer then refers to a version that the evaluator leaves out.

## What is proved

* `step_inv` — what holds of the open transactions, statement by statement: who supersedes a version
  writes the pointer of the policy before the commit, and holds it until then.
* `selected_again` — a request that selects a version which another one supersedes.

**Key result** (`pointers_stay_live`): in every run in which no request gets the pointer for a version
that is superseded by then, the enabled pointers are live in every state, and no version that is
superseded is effective again.
-/

namespace JLMirror.Alerting

open JLMirror.Foundations JLMirror.Monitoring

/-! ### The claim -/

/-- An enabled pointer refers to a version that is not superseded, and the evaluator reads it. -/
def PointersLive (db : AlertingDb) : Prop :=
  ∀ e ∈ db.effective, e.enabled = true → ∃ v ∈ db.versions, v.key = e.key ∧ v.superseded_at = none ∧
    ∀ p ∈ v.problemPolicy, p ∈ effectiveProblemPolicies db

/-- What is superseded before is not effective after. -/
def StaysSuperseded (before after : AlertingDb) : Prop :=
  ∀ v ∈ before.versions, v.superseded_at ≠ none →
    (∀ e ∈ after.effective, e.enabled = true → e.key ≠ v.key) ∧
      ∀ p ∈ effectiveProblemPolicies after, (p.policy_id, p.policy_version) ≠ v.key

/-- What is claimed of a run: in every state that it reaches, and between any two of them. -/
def EffectiveLaw (run : List PolicyAct) : Prop :=
  ∀ pre mid post, run = pre ++ mid ++ post →
    PointersLive ((pre ++ mid).foldl PolicyWorld.step .init).tx.db ∧
      StaysSuperseded (pre.foldl PolicyWorld.step .init).tx.db ((pre ++ mid).foldl PolicyWorld.step .init).tx.db

/-- The pointer that a request is about to write. -/
def PolicyPoint.pointer : PolicyPoint → Option EffectiveVersion
  | .effective e => some e
  | _ => none

/-- The condition: whoever gets the pointer of a policy for a version that it enables finds that no request
that has committed supersedes the version. -/
def NotOvertaken (s : PolicyWorld) : PolicyAct → Prop
  | .next w => ∀ e ∈ (s.pc w).pointer, e.enabled = true → s.locked w (.effective e.policy_id) = false →
      Clean s.tx.db e.key
  | _ => True

instance (db : AlertingDb) : Decidable (PointersLive db) := by
  unfold PointersLive
  infer_instance

instance (before after : AlertingDb) : Decidable (StaysSuperseded before after) := by
  unfold StaysSuperseded
  infer_instance

instance (s : PolicyWorld) (a : PolicyAct) : Decidable (NotOvertaken s a) := by
  cases a with
  | next w => exact inferInstanceAs (Decidable (∀ e ∈ (s.pc w).pointer, _ → _ → _))
  | _ => exact .isTrue trivial

/-! ### The invariant -/

/-- A write of a request that has yet to supersede a version. -/
def PolicyWrite.Quiet : PolicyWrite → Prop
  | .superseded _ _ | .effective _ => False
  | .policy _ | .lock _ | .version _ => True

/-- A write of a request that has yet to write a pointer: it supersedes other versions of the policy. -/
def PolicyWrite.Prepares (e : EffectiveVersion) : PolicyWrite → Prop
  | .superseded _ key => key.1 = e.policy_id ∧ key ≠ e.key
  | .effective _ => False
  | .policy _ | .lock _ | .version _ => True

/-- A request is going to write a pointer. -/
structure Preparing (s : PolicyWorld) (w : ℕ) (e : EffectiveVersion) : Prop where
  known : Known (s.view w) e.key
  writes : ∀ x, (w, x) ∈ s.tx.log → x.Prepares e

/-- What holds of a session, by its next statement. -/
def PolicyWorld.PointInv (s : PolicyWorld) (w : ℕ) : PolicyPoint → Prop
  | .idle => ∀ x, (w, x) ∉ s.tx.log
  | .insertPolicy _ | .lockPolicy _ | .number _ | .insertVersion _ _ | .check _ => ∀ x, (w, x) ∈ s.tx.log → x.Quiet
  | .prior e => Preparing s w e ∧ ∃ x, (w, x) ∈ s.tx.log ∧ x.inserted = some e.key
  | .supersedePrior e prior => Preparing s w e ∧ prior ≠ e.policy_version
  | .snapshot e | .effective e => Preparing s w e
  | .rows e targets => Preparing s w e ∧ e.policy_version ∉ targets
  | .commit => ∀ now key, (w, .superseded now key) ∈ s.tx.log → ∃ e, (w, .effective e) ∈ s.tx.log ∧ e.policy_id = key.1

/-- What holds of every state. -/
structure PolicyInv (s : PolicyWorld) : Prop where
  locks : s.tx.Exclusive PolicyWrite.row
  keys : s.tx.Unique AlertingDb.keys PolicyWrite.inserted
  known : ∀ e ∈ s.tx.db.effective, Known s.tx.db e.key
  live : ∀ e ∈ s.tx.db.effective, e.enabled = true → Clean s.tx.db e.key
  pointed : ∀ w e, (w, .effective e) ∈ s.tx.log →
    Known (s.view w) e.key ∧ (∀ now, (w, .superseded now e.key) ∉ s.tx.log) ∧ (e.enabled = true → Clean s.tx.db e.key)
  points : ∀ w, s.PointInv w (s.pc w)

theorem init_inv : PolicyInv .init where
  locks _ h := absurd h List.not_mem_nil
  keys := List.nodup_nil
  known _ h := absurd h List.not_mem_nil
  live _ h := absurd h List.not_mem_nil
  pointed _ _ h := absurd h List.not_mem_nil
  points _ _ h := absurd h List.not_mem_nil

variable {s s' : PolicyWorld} {w v : ℕ} {e : EffectiveVersion}

/-! ### What a step leaves alone -/

variable {k : String × ℕ}

theorem known_view_mono (hlog : ∀ x, (v, x) ∈ s.tx.log → (v, x) ∈ s'.tx.log)
    (hdb : ∀ k, Known s.tx.db k → Known s'.tx.db k) (h : Known (s.view v) k) : Known (s'.view v) k := by
  rcases known_view.1 h with hdb' | ⟨x, hx, hk⟩
  · exact known_view.2 (Or.inl (hdb k hdb'))
  · exact known_view.2 (Or.inr ⟨x, hlog x hx, hk⟩)

variable {p : PolicyPoint}

/-- What holds of a session holds of it after a step of another one. -/
theorem pointInv_mono (hlog : ∀ x, (v, x) ∈ s'.tx.log ↔ (v, x) ∈ s.tx.log)
    (hdb : ∀ k, Known s.tx.db k → Known s'.tx.db k) (h : s.PointInv v p) : s'.PointInv v p := by
  have hprep : ∀ e, Preparing s v e → Preparing s' v e := fun e hp =>
    ⟨known_view_mono (fun x => (hlog x).2) hdb hp.known, fun x hx => hp.writes x ((hlog x).1 hx)⟩
  cases p with
  | idle => exact fun x hx => h x ((hlog x).1 hx)
  | insertPolicy | lockPolicy | number | insertVersion | check => exact fun x hx => h x ((hlog x).1 hx)
  | prior e =>
    obtain ⟨hp, x, hx, hk⟩ := h
    exact ⟨hprep e hp, x, (hlog x).2 hx, hk⟩
  | supersedePrior e prior => exact ⟨hprep e h.1, h.2⟩
  | rows e targets => exact ⟨hprep e h.1, h.2⟩
  | snapshot e | effective e => exact hprep e h
  | commit =>
    intro now key hkey
    obtain ⟨e, he, hpol⟩ := h now key ((hlog _).1 hkey)
    exact ⟨e, (hlog _).2 he, hpol⟩

variable {x : PolicyWrite}

theorem row_of_inserted (h : x.inserted = some k) : x.row = .version k := by
  cases x with
  | version row => exact congrArg LockedRow.version (Option.some.inj h)
  | policy | lock | superseded | effective => cases h

/-! ### The kinds of steps -/

theorem goto_inv (h : PolicyInv s) (hp : s.PointInv w p) : PolicyInv (s.goto w p) := by
  have hlog : ∀ v x, (v, x) ∈ (s.goto w p).tx.log ↔ (v, x) ∈ s.tx.log := fun _ _ => Iff.rfl
  refine ⟨h.locks, h.keys, h.known, h.live, h.pointed, fun v => ?_⟩
  by_cases hv : v = w
  · subst hv
    rw [show (s.goto v p).pc v = p from Function.update_self ..]
    exact pointInv_mono (hlog v) (fun _ => id) hp
  · rw [show (s.goto w p).pc v = s.pc v from Function.update_of_ne hv ..]
    exact pointInv_mono (hlog v) (fun _ => id) (h.points v)

theorem rollback_inv (h : PolicyInv s) (w : ℕ) : PolicyInv (s.rollback w) := by
  have hlog : ∀ x ∈ (s.rollback w).tx.log, x ∈ s.tx.log := fun x hx => (WriteLog.mem_rollback hx).1
  have hother : ∀ v, v ≠ w → ∀ x, (v, x) ∈ (s.rollback w).tx.log ↔ (v, x) ∈ s.tx.log := by
    intro v hv x
    simp [PolicyWorld.rollback, WriteLog.rollback, hv]
  refine ⟨h.locks.rollback, h.keys.rollback, h.known, h.live, fun v e he => ?_, fun v => ?_⟩
  · have hv : v ≠ w := (WriteLog.mem_rollback he).2
    obtain ⟨hknown, hsup, hclean⟩ := h.pointed v e (hlog _ he)
    have hknown' := known_view_mono (s := s) (fun x => (hother v hv x).2) (fun _ => id) hknown
    exact ⟨hknown', fun now hn => hsup now (hlog _ hn), hclean⟩
  · by_cases hv : v = w
    · subst hv
      rw [show (s.rollback v).pc v = .idle from Function.update_self ..]
      exact fun x hx => (WriteLog.mem_rollback hx).2 rfl
    · rw [show (s.rollback w).pc v = s.pc v from Function.update_of_ne hv ..]
      exact pointInv_mono (s := s) (hother v hv) (fun _ => id) (h.points v)

/-- A write of a session that has the row. -/
theorem write_inv (h : PolicyInv s) (hkey : ∀ k, x.inserted = some k → ¬Known (s.view w) k)
    (hsup : ∀ now k, x = .superseded now k → ∀ e, (w, .effective e) ∉ s.tx.log)
    (heff : ∀ e, x = .effective e → s.locked w (.effective e.policy_id) = false → Known (s.view w) e.key ∧
      (∀ now, (w, .superseded now e.key) ∉ s.tx.log) ∧ (e.enabled = true → Clean s.tx.db e.key))
    (hp : ∀ s' : PolicyWorld, s'.tx = s.tx.write w x → s'.PointInv w p) : PolicyInv (s.write w x p) := by
  unfold PolicyWorld.write
  split_ifs with hlocked
  · exact h
  have hfree : s.locked w x.row = false := by simpa using hlocked
  generalize hs' : ({ s with tx := s.tx.write w x, pc := Function.update s.pc w p } : PolicyWorld) = s'
  have htx : s'.tx = s.tx.write w x := by rw [← hs']
  have hdb : s'.tx.db = s.tx.db := by rw [htx, WriteLog.write]
  have hlog : ∀ v y, (v, y) ∈ s'.tx.log ↔ (v, y) ∈ s.tx.log ∨ v = w ∧ y = x := by
    intro v y
    simp [htx, WriteLog.write]
  have hother : ∀ v, v ≠ w → ∀ y, (v, y) ∈ s'.tx.log ↔ (v, y) ∈ s.tx.log := by
    intro v hv y
    simp [hlog, hv]
  have hknown : ∀ v k, Known (s.view v) k → Known (s'.view v) k := fun v k =>
    known_view_mono (fun y hy => (hlog v y).2 (Or.inl hy)) fun _ => hdb ▸ id
  refine ⟨htx ▸ h.locks.write hfree, ?_, hdb ▸ h.known, hdb ▸ h.live, fun v e he => ?_, fun v => ?_⟩
  · rw [htx]
    refine h.keys.write keys_apply fun k hk => ⟨fun hmem => hkey k hk (known_iff.2 hmem), fun y hy hyk => ?_⟩
    exact WriteLog.locked_eq_false.1 hfree y hy ((row_of_inserted hyk).trans (row_of_inserted hk).symm)
  · rcases (hlog v _).1 he with he | ⟨rfl, he⟩
    · obtain ⟨hk, hno, hclean⟩ := h.pointed v e he
      refine ⟨hknown v _ hk, fun now hn => ?_, hdb ▸ hclean⟩
      rcases (hlog v _).1 hn with hn | ⟨rfl, hn⟩
      · exact hno now hn
      · exact hsup now e.key hn.symm e he
    · obtain ⟨hk, hno, hclean⟩ := heff e he.symm (by simpa [← he, PolicyWrite.row] using hlocked)
      refine ⟨hknown v _ hk, fun now hn => ?_, hdb ▸ hclean⟩
      rcases (hlog v _).1 hn with hn | ⟨-, hn⟩
      · exact hno now hn
      · cases hn.trans he.symm
  · by_cases hv : v = w
    · subst hv
      rw [show s'.pc v = p by rw [← hs']; exact Function.update_self ..]
      exact hp s' htx
    · rw [show s'.pc v = s.pc v by rw [← hs']; exact Function.update_of_ne hv ..]
      exact pointInv_mono (hother v hv) (fun _ => hdb ▸ id) (h.points v)

theorem commit_inv (h : PolicyInv s) (hpc : s.pc w = .commit) : PolicyInv (s.commit w) := by
  have hlog : ∀ x ∈ (s.commit w).tx.log, x ∈ s.tx.log := fun x hx => (WriteLog.mem_commit hx).1
  have hother : ∀ v, v ≠ w → ∀ x, (v, x) ∈ (s.commit w).tx.log ↔ (v, x) ∈ s.tx.log := by
    intro v hv x
    simp [PolicyWorld.commit, WriteLog.commit, hv]
  have hknown : ∀ k, Known s.tx.db k → Known (s.commit w).tx.db k := fun k hk => known_view.2 (Or.inl hk)
  have hcommit : s.PointInv w .commit := hpc ▸ h.points w
  -- a session that does not write the pointer of a policy supersedes none of its versions
  have hkeep : ∀ e : EffectiveVersion, Clean s.tx.db e.key →
      (∀ e', (w, .effective e') ∈ s.tx.log → e'.policy_id ≠ e.policy_id) → Clean (s.commit w).tx.db e.key := by
    intro e hclean hno
    refine clean_view hclean fun now hn => ?_
    obtain ⟨e', he', hpol⟩ := hcommit now e.key hn
    exact hno e' he' hpol
  refine ⟨h.locks.commit, h.keys.commit keys_apply, fun e he => ?_, fun e he hen => ?_, fun v e he => ?_, fun v => ?_⟩
  · rcases mem_effective_view he with he | ⟨he, -⟩
    · exact (h.pointed w e he).1
    · exact hknown e.key (h.known e he)
  · rcases mem_effective_view he with he | ⟨he, hno⟩
    · obtain ⟨-, hsup, hclean⟩ := h.pointed w e he
      exact clean_view (hclean hen) hsup
    · exact hkeep e (h.live e he hen) hno
  · have hv : v ≠ w := (WriteLog.mem_commit he).2
    obtain ⟨hk, hsup, hclean⟩ := h.pointed v e (hlog _ he)
    refine ⟨known_view_mono (s := s) (fun x => (hother v hv x).2) hknown hk, fun now hn => hsup now (hlog _ hn),
      fun hen => hkeep e (hclean hen) fun e' he' hpol => hv ?_⟩
    exact h.locks (v, .effective e) (hlog _ he) (w, .effective e') he' (congrArg LockedRow.effective hpol.symm)
  · by_cases hv : v = w
    · subst hv
      rw [show (s.commit v).pc v = .idle from Function.update_self ..]
      exact fun x hx => (WriteLog.mem_commit hx).2 rfl
    · rw [show (s.commit w).pc v = s.pc v from Function.update_of_ne hv ..]
      exact pointInv_mono (hother v hv) hknown (h.points v)

/-! ### The statements -/

theorem Preparing.write (h : Preparing s w e) (hx : x.Prepares e) (htx : s'.tx = s.tx.write w x) :
    Preparing s' w e := by
  refine ⟨known_view_mono (fun y hy => htx ▸ List.mem_append_left _ hy) (fun _ => by rw [htx]; exact id) h.known,
    fun y hy => ?_⟩
  rcases WriteLog.mem_write (htx ▸ hy) with hy | hy
  · exact h.writes y hy
  · exact (Prod.mk.inj hy).2 ▸ hx

theorem Preparing.not_pointed (h : Preparing s w e) (e' : EffectiveVersion) : (w, .effective e') ∉ s.tx.log :=
  fun hx => h.writes _ hx

/-- A request that has written nothing of note is going to write a pointer for a version that it sees. -/
theorem preparing_of_quiet (hknown : Known (s.view w) e.key) (h : ∀ x, (w, x) ∈ s.tx.log → x.Quiet) :
    Preparing s w e := by
  refine ⟨hknown, fun x hx => ?_⟩
  have hx := h x hx
  cases x with
  | superseded | effective => exact hx.elim
  | policy | lock | version => trivial

theorem quiet_write (h : ∀ x, (w, x) ∈ s.tx.log → x.Quiet) (hx : x.Quiet) (htx : s'.tx = s.tx.write w x) :
    ∀ y, (w, y) ∈ s'.tx.log → y.Quiet := by
  intro y hy
  rcases WriteLog.mem_write (htx ▸ hy) with hy | hy
  · exact h y hy
  · exact (Prod.mk.inj hy).2 ▸ hx

theorem supersede_inv (h : PolicyInv s) (hprep : Preparing s w e) {n : ℕ} (hn : n ≠ e.policy_version)
    (hp : ∀ s' : PolicyWorld, Preparing s' w e → s'.PointInv w p) :
    PolicyInv (s.write w (.superseded (s.now w) (e.policy_id, n)) p) := by
  have hx : (PolicyWrite.superseded (s.now w) (e.policy_id, n)).Prepares e := ⟨rfl, fun heq => hn (Prod.mk.inj heq).2⟩
  exact write_inv h (fun _ hk => nomatch hk) (fun _ _ _ => hprep.not_pointed) (fun _ he => nomatch he)
    fun s' htx => hp s' (hprep.write hx htx)

theorem insertVersion_inv (h : PolicyInv s) (hquiet : ∀ x, (w, x) ∈ s.tx.log → x.Quiet) (body : PolicyVersionCreate)
    (version : ℕ) : PolicyInv (s.insertVersion w body version) := by
  unfold PolicyWorld.insertVersion
  split
  · exact rollback_inv h w
  · rename_i condition _
    by_cases hany : ((s.view w).versions.any fun v => decide (v.key = (body.policy_id, version))) = true
    · rw [if_pos hany]
      exact rollback_inv h w
    rw [if_neg hany]
    have hnew : ¬Known (s.view w) (body.policy_id, version) := by
      rintro ⟨v, hv, hkey⟩
      exact hany (List.any_eq_true.2 ⟨v, hv, decide_eq_true hkey⟩)
    refine write_inv h (fun k hk => Option.some.inj hk ▸ hnew) (fun _ _ hx => nomatch hx) (fun _ he => nomatch he)
      fun s' htx => ?_
    have hquiet' := quiet_write hquiet (x := .version (body.row version condition)) trivial htx
    split_ifs with hmake
    · have hmem : (w, .version (body.row version condition)) ∈ s'.tx.log :=
        htx ▸ List.mem_append_right _ List.mem_cons_self
      exact ⟨preparing_of_quiet (known_view.2 (Or.inr ⟨_, hmem, rfl⟩)) hquiet', _, hmem, rfl⟩
    · exact fun now key hkey => (hquiet' _ hkey).elim

theorem check_inv (h : PolicyInv s) (hquiet : ∀ x, (w, x) ∈ s.tx.log → x.Quiet) (e : EffectiveVersion) :
    PolicyInv (s.check w e) := by
  unfold PolicyWorld.check
  split
  · exact rollback_inv h w
  · rename_i v hv
    split_ifs
    · exact rollback_inv h w
    · have hkey : v.key = e.key := by simpa using List.find?_some hv
      exact goto_inv h (preparing_of_quiet ⟨v, List.mem_of_find?_eq_some hv, hkey⟩ hquiet)

/-- The version that is effective so far is not the one that the request has inserted. -/
theorem prior_inv (h : PolicyInv s) (hprep : Preparing s w e) (hnew : ∃ x, (w, x) ∈ s.tx.log ∧ x.inserted = some e.key)
    {r : EffectiveVersion} (hr : (s.view w).effectiveOf e.policy_id = some r) : r.policy_version ≠ e.policy_version := by
  intro heq
  have hpol : r.policy_id = e.policy_id := by simpa using List.find?_some hr
  have hmem : r ∈ s.tx.db.effective := by
    rcases mem_effective_view (List.mem_of_find?_eq_some hr) with hmem | ⟨hmem, -⟩
    · exact absurd hmem (hprep.not_pointed r)
    · exact hmem
  have hkey : r.key = e.key := Prod.ext hpol heq
  obtain ⟨x, hx, hins⟩ := hnew
  -- the version is committed and inserted, against its key
  exact h.keys.not_mem hx hins (known_iff.1 (hkey ▸ h.known r hmem))

theorem next_inv (h : PolicyInv s) (hok : NotOvertaken s (.next w)) : PolicyInv (s.next w) := by
  have hw := h.points w
  unfold PolicyWorld.next
  cases hpc : s.pc w with
  | idle => exact h
  | insertPolicy body =>
    rw [hpc] at hw
    dsimp only
    split_ifs
    · exact goto_inv h hw
    · exact write_inv h (fun _ hk => nomatch hk) (fun _ _ hx => nomatch hx) (fun _ he => nomatch he)
        fun s' htx => quiet_write hw (x := .policy body.policy_id) trivial htx
  | lockPolicy body =>
    rw [hpc] at hw
    exact write_inv h (fun _ hk => nomatch hk) (fun _ _ hx => nomatch hx) (fun _ he => nomatch he)
      fun s' htx => quiet_write hw (x := .lock body.policy_id) trivial htx
  | number body =>
    rw [hpc] at hw
    exact goto_inv h hw
  | insertVersion body version =>
    rw [hpc] at hw
    exact insertVersion_inv h hw body version
  | prior e =>
    rw [hpc] at hw
    obtain ⟨hprep, hnew⟩ := hw
    cases hr : (s.view w).effectiveOf e.policy_id with
    | none => simpa only [hr] using goto_inv h (p := .effective e) hprep
    | some r =>
      simpa only [hr] using goto_inv h (p := .supersedePrior e r.policy_version) ⟨hprep, prior_inv h hprep hnew hr⟩
  | supersedePrior e prior =>
    rw [hpc] at hw
    exact supersede_inv h hw.1 hw.2 fun s' hprep => hprep
  | check e =>
    rw [hpc] at hw
    exact check_inv h hw e
  | snapshot e =>
    rw [hpc] at hw
    refine goto_inv h ⟨hw, fun hmem => ?_⟩
    obtain ⟨v, hv, hn⟩ := List.mem_map.1 hmem
    exact (of_decide_eq_true (List.mem_filter.1 hv).2).2.1 hn
  | rows e targets =>
    rw [hpc] at hw
    dsimp only
    split_ifs
    · exact goto_inv h hw.1
    · exact h
  | effective e =>
    rw [hpc] at hw
    have hw : Preparing s w e := hw
    refine write_inv h (fun _ hk => nomatch hk) (fun _ _ hx => nomatch hx) (fun e' he' hlocked => ?_) fun s' htx => ?_
    · obtain rfl := PolicyWrite.effective.inj he'
      exact ⟨hw.known, fun now hn => (hw.writes _ hn).2 rfl, fun hen => hok e (by rw [hpc]; rfl) hen hlocked⟩
    · intro now key hkey
      have hkey : (w, .superseded now key) ∈ s.tx.log := by simpa [htx, WriteLog.write] using hkey
      exact ⟨e, htx ▸ List.mem_append_right _ List.mem_cons_self, (hw.writes _ hkey).1.symm⟩
  | commit => exact commit_inv h hpc

theorem row_inv (h : PolicyInv s) (w n : ℕ) : PolicyInv (s.row w n) := by
  have hw := h.points w
  unfold PolicyWorld.row
  cases hpc : s.pc w with
  | rows e targets =>
    rw [hpc] at hw
    obtain ⟨hprep, hnot⟩ := hw
    have hrest : e.policy_version ∉ targets.erase n := fun hmem => hnot (List.mem_of_mem_erase hmem)
    dsimp only
    split_ifs with hmem
    · exact h
    · exact supersede_inv h hprep (fun heq => hnot (heq ▸ hmem)) fun s' hprep => ⟨hprep, hrest⟩
    · exact goto_inv h ⟨hprep, hrest⟩
    · exact h
  | _ => exact h

theorem start_inv (h : PolicyInv s) (w : ℕ) (now : Timestamp) (hp : (∀ x, (w, x) ∉ s.tx.log) → s.PointInv w p) :
    PolicyInv (s.start w now p) := by
  unfold PolicyWorld.start
  cases hpc : s.pc w with
  | idle =>
    have hw := h.points w
    rw [hpc] at hw
    have hgoto := goto_inv h (hp hw)
    refine ⟨h.locks, h.keys, h.known, h.live, h.pointed, fun v => ?_⟩
    refine pointInv_mono (s := s.goto w p) ?_ ?_ (hgoto.points v)
    · exact fun _ => Iff.rfl
    · exact fun _ => id
  | _ => exact h

/-- Every step that meets the condition keeps the invariant. -/
theorem step_inv (h : PolicyInv s) (a : PolicyAct) (hok : NotOvertaken s a) : PolicyInv (s.step a) := by
  cases a with
  | create w now body =>
    simp only [PolicyWorld.step]
    split
    · exact h
    · exact start_inv h w now fun hno x hx => (hno x hx).elim
  | set w now policy_id body => exact start_inv h w now fun hno x hx => (hno x hx).elim
  | next w => exact next_inv h hok
  | row w n => exact row_inv h w n
  | rollback w => exact rollback_inv h w

/-! ### What the runs keep -/

theorem PolicyInv.pointersLive (h : PolicyInv s) : PointersLive s.tx.db := by
  intro e he hen
  obtain ⟨v, hv, hkey⟩ := h.known e he
  have hnone : v.superseded_at = none := h.live e he hen v hv hkey
  refine ⟨v, hv, hkey, hnone, fun p hp => List.mem_filterMap.2 ⟨v, List.mem_filter.2 ⟨hv, ?_⟩, hp⟩⟩
  obtain ⟨hpol, hversion⟩ := Prod.mk.inj hkey
  exact decide_eq_true ⟨hnone, List.any_eq_true.2 ⟨e, he, decide_eq_true ⟨hpol.symm, hversion.symm, hen⟩⟩⟩

@[simp] theorem goto_db (p : PolicyPoint) : (s.goto w p).tx.db = s.tx.db := rfl

@[simp] theorem rollback_db : (s.rollback w).tx.db = s.tx.db := rfl

@[simp] theorem write_db (x : PolicyWrite) (p : PolicyPoint) : (s.write w x p).tx.db = s.tx.db := by
  unfold PolicyWorld.write
  split_ifs <;> rfl

@[simp] theorem insertVersion_db (body : PolicyVersionCreate) (version : ℕ) :
    (s.insertVersion w body version).tx.db = s.tx.db := by
  unfold PolicyWorld.insertVersion
  split
  · rfl
  · split_ifs <;> simp

@[simp] theorem check_db : (s.check w e).tx.db = s.tx.db := by
  unfold PolicyWorld.check
  split
  · rfl
  · split_ifs <;> rfl

@[simp] theorem row_db (n : ℕ) : (s.row w n).tx.db = s.tx.db := by
  unfold PolicyWorld.row
  split
  · split_ifs <;> simp
  · rfl

@[simp] theorem start_db (now : Timestamp) (p : PolicyPoint) : (s.start w now p).tx.db = s.tx.db := by
  unfold PolicyWorld.start
  split <;> rfl

theorem next_db (s : PolicyWorld) (w : ℕ) : (s.next w).tx.db = s.tx.db ∨ (s.next w).tx.db = s.view w := by
  unfold PolicyWorld.next
  cases s.pc w with
  | commit => exact Or.inr rfl
  | prior e => cases hr : (s.view w).effectiveOf e.policy_id <;> simp [hr]
  | insertPolicy | rows => dsimp only; split_ifs <;> simp
  | _ => simp

/-- No step takes a version back that is superseded. -/
theorem superseded_step (h : Superseded s.tx.db k) (a : PolicyAct) : Superseded (s.step a).tx.db k := by
  cases a with
  | create w now body =>
    simp only [PolicyWorld.step]
    split <;> simpa using h
  | set w now policy_id body => simpa [PolicyWorld.step] using h
  | next w =>
    rcases next_db s w with heq | heq
    · exact (congrArg (Superseded · k) heq).mpr h
    · exact (congrArg (Superseded · k) heq).mpr (superseded_view h)
  | row w n => simpa [PolicyWorld.step] using h
  | rollback w => exact h

theorem superseded_run (h : Superseded s.tx.db k) (run : List PolicyAct) :
    Superseded (run.foldl PolicyWorld.step s).tx.db k :=
  List.foldlRecOn (motive := fun s : PolicyWorld => Superseded s.tx.db k) run _ h fun _ hs a _ => superseded_step hs a

theorem problemPolicy_key {v : AlertPolicyVersion} {p : ProblemPolicy} (h : v.problemPolicy = some p) :
    (p.policy_id, p.policy_version) = v.key := by
  unfold AlertPolicyVersion.problemPolicy at h
  split at h
  · exact Option.some.inj h ▸ rfl
  · cases h

/-- A version that is superseded is not effective. -/
theorem PolicyInv.not_effective (h : PolicyInv s) (hsup : Superseded s.tx.db k) :
    (∀ e ∈ s.tx.db.effective, e.enabled = true → e.key ≠ k) ∧
      ∀ p ∈ effectiveProblemPolicies s.tx.db, (p.policy_id, p.policy_version) ≠ k := by
  obtain ⟨v, hv, hkey, hne⟩ := hsup
  constructor
  · rintro e he hen rfl
    exact hne (h.live e he hen v hv hkey)
  · rintro p hp rfl
    obtain ⟨v', hv', hp'⟩ := List.mem_filterMap.1 hp
    obtain ⟨hmem, hsel⟩ := List.mem_filter.1 hv'
    have hnodup : (s.tx.db.versions.map AlertPolicyVersion.key).Nodup := h.keys.committed
    have hkey' : v'.key = v.key := (problemPolicy_key hp').symm.trans hkey.symm
    exact hne (eq_of_key hnodup hmem hv hkey' ▸ (of_decide_eq_true hsel).1)

/-- **The pointers stay live**, and what is superseded stays so, in a run in which no request gets the pointer for a
version that a committed request has superseded. -/
theorem pointers_stay_live {run : List PolicyAct} (hrun : Guarded PolicyWorld.step NotOvertaken .init run) :
    EffectiveLaw run := by
  rintro pre mid post rfl
  rw [guarded_append] at hrun
  have hinv := hrun.1.invariant (fun s a h ha => step_inv h a ha) init_inv
  refine ⟨hinv.pointersLive, fun v hv hne => hinv.not_effective ?_⟩
  rw [List.foldl_append]
  exact superseded_run ⟨v, hv, rfl, hne⟩ mid

/-! ### A request that is overtaken -/

/-- The session of a step. -/
def PolicyAct.session : PolicyAct → ℕ
  | .create w _ _ | .set w _ _ _ | .next w | .row w _ | .rollback w => w

/-- No request is under way. -/
def PolicyWorld.Finished (s : PolicyWorld) : Prop := ∀ w, s.pc w = .idle

/-- A step of another session leaves a request where it is. -/
theorem step_pc (s : PolicyWorld) {a : PolicyAct} (hv : v ≠ a.session) : (s.step a).pc v = s.pc v := by
  have hpc : ∀ p, Function.update s.pc a.session p v = s.pc v := fun p => Function.update_of_ne hv p s.pc
  have hgoto : ∀ p, (s.goto a.session p).pc v = s.pc v := hpc
  have hrollback : (s.rollback a.session).pc v = s.pc v := hpc _
  have hwrite : ∀ x p, (s.write a.session x p).pc v = s.pc v := by
    intro x p
    unfold PolicyWorld.write
    split_ifs
    · rfl
    · exact hpc p
  have hstart : ∀ now p, (s.start a.session now p).pc v = s.pc v := by
    intro now p
    unfold PolicyWorld.start
    split
    · exact hpc p
    · rfl
  cases a with
  | create w now body =>
    simp only [PolicyWorld.step]
    split
    · rfl
    · exact hstart _ _
  | set w now policy_id body => exact hstart _ _
  | next w =>
    simp only [PolicyWorld.step, PolicyWorld.next]
    split
    · rfl
    · split_ifs
      · exact hgoto _
      · exact hwrite _ _
    · exact hwrite _ _
    · exact hgoto _
    · unfold PolicyWorld.insertVersion
      split
      · exact hrollback
      · split_ifs
        · exact hrollback
        · exact hwrite _ _
        · exact hwrite _ _
    · split <;> exact hgoto _
    · exact hwrite _ _
    · unfold PolicyWorld.check
      split
      · exact hrollback
      · split_ifs
        · exact hrollback
        · exact hgoto _
    · exact hgoto _
    · split_ifs
      · exact hgoto _
      · rfl
    · exact hwrite _ _
    · exact hpc _
  | row w n =>
    simp only [PolicyWorld.step, PolicyWorld.row]
    split
    · split_ifs <;> first | rfl | exact hwrite _ _ | exact hgoto _
    · rfl
  | rollback w => exact hrollback

theorem finished_of_sessions {run : List PolicyAct} (sessions : List ℕ) (hrun : ∀ a ∈ run, a.session ∈ sessions)
    (h : ∀ w ∈ sessions, (run.foldl PolicyWorld.step .init).pc w = .idle) :
    (run.foldl PolicyWorld.step .init).Finished := by
  intro w
  by_cases hw : w ∈ sessions
  · exact h w hw
  · refine List.foldlRecOn (motive := fun s : PolicyWorld => s.pc w = .idle) run _ rfl fun s hs a ha => ?_
    have hne : w ≠ a.session := fun heq => hw (by rw [heq]; exact hrun a ha)
    exact (step_pc s hne).trans hs

/-- A request for a new version, which is to be effective. -/
def newVersion : PolicyVersionCreate := ⟨"p", "monitoring_problem", some "warning", [], none, none, true⟩

/-- While version 1 is superseded by version 2, it is selected again. -/
def selectedAgain : List PolicyAct :=
  .create 1 0 newVersion :: nexts 1 7 ++ .create 1 1 newVersion :: nexts 1 7 ++
    .set 2 1 "p" ⟨1, true⟩ :: nexts 2 3 ++ nexts 1 1 ++ nexts 2 2

/-- The requests are over, an enabled pointer refers to a superseded version, and no evaluation reads the policy. -/
theorem selected_again : (selectedAgain.foldl PolicyWorld.step .init).Finished ∧
    ¬PointersLive (selectedAgain.foldl PolicyWorld.step .init).tx.db ∧ ¬EffectiveLaw selectedAgain ∧
    effectiveProblemPolicies (selectedAgain.foldl PolicyWorld.step .init).tx.db = [] := by
  refine ⟨finished_of_sessions [1, 2] (by decide) ?_, by decide, fun h => ?_, by decide⟩
  · rintro w hw
    obtain rfl | rfl : w = 1 ∨ w = 2 := by simpa using hw
    · rfl
    · rfl
  · exact absurd (h selectedAgain [] [] (by simp)).1 (by decide)

/-- Version 2 is inserted while version 1 is selected again, and takes the pointer after that. -/
def inTurn : List PolicyAct :=
  .create 1 0 newVersion :: nexts 1 7 ++ .create 1 1 newVersion :: nexts 1 5 ++
    .set 2 1 "p" ⟨1, true⟩ :: nexts 2 5 ++ nexts 1 3

theorem in_turn : EffectiveLaw inTurn := pointers_stay_live (by decide)

end JLMirror.Alerting
