import JLMirror.Alerting.Occurrence

/-!
# An evaluation that runs twice

"Idempotent by (subject, source_revision, effect, policy)" (`shared/alerting_eval.py`): a second evaluation of a source,
with no other change in between, finds what the first one has left and changes nothing.

## The model

The evaluation is that of `Evaluation`, at any state that the keys of the tables admit. `SettledProblem` and `SettledOpen`
are what a round leaves behind: there is nothing more to do for its problem, or for its open alert.

## What is proved

* `evaluateProblem_round`, `evaluateOpen_round`: a round settles its own problem or alert, and leaves what the other rounds
  have settled. `evaluatePolicy_round` is the same for a policy.
* `evaluatePolicy_settled`: a policy that is settled is evaluated without an effect.
* **Key result** (`evaluation_idempotent`): an evaluation after an evaluation changes no table, creates nothing and resolves
  nothing.
-/

namespace JLMirror.Alerting

open JLMirror.Foundations JLMirror.Monitoring

/-! ### Keys -/

/-- What the keys of the alert table say: no id repeats, and a token draws a new one. -/
structure AlertKeys (db : AlertingDb) : Prop where
  ids : (db.alerts.map Alert.alert_id).Nodup
  drawn : ∀ a ∈ db.alerts, a.alert_id < db.nextId

/-- The row with the id of the alert, if there is one, is of its policy and problem. -/
structure Stands (a : Alert) (db : AlertingDb) : Prop where
  row : ∀ b ∈ db.alerts, b.alert_id = a.alert_id → b.policy_id = a.policy_id ∧ b.source_subject_id = a.source_subject_id
  drawn : a.alert_id < db.nextId

section Effects

variable {now : Timestamp} {source_id generation : String} {s : EvaluationState} {e : Effect}

variable {db : AlertingDb} {a : Alert}

theorem AlertKeys.stands (h : AlertKeys db) (ha : a ∈ db.alerts) : Stands a db :=
  ⟨fun b hb hid => by rw [eq_of_key h.ids hb ha hid]; exact ⟨rfl, rfl⟩, h.drawn a ha⟩

theorem AlertKeys.apply (h : AlertKeys s.1) : AlertKeys (e.apply now source_id generation s).1 := by
  cases e with
  | create v p =>
    refine ⟨nodup_map_append_new h.ids fun a ha => (h.drawn a ha).ne, fun a ha => ?_⟩
    have hlt : s.1.nextId < s.1.nextId + 3 := Nat.lt_add_of_pos_right (by omega)
    rcases List.mem_append.1 ha with ha | ha
    · exact (h.drawn a ha).trans hlt
    · obtain rfl := List.mem_singleton.1 ha
      exact hlt
  | resolve a revision summary =>
    refine ⟨?_, fun b hb => ?_⟩
    · show ((updateWhere _ _ s.1.alerts).map Alert.alert_id).Nodup
      rw [map_updateWhere]
      · exact h.ids
      · exact fun _ => rfl
    · have hlt : s.1.nextId < s.1.nextId + 2 := Nat.lt_add_of_pos_right (by omega)
      rcases mem_resolved hb with ⟨hb, -⟩ | ⟨r, hr, -, rfl⟩
      · exact (h.drawn b hb).trans hlt
      · exact (h.drawn r hr).trans hlt
  | skip => exact h

theorem Stands.apply {a : Alert} (h : Stands a s.1) : Stands a (e.apply now source_id generation s).1 := by
  cases e with
  | create v p =>
    refine ⟨fun b hb hid => ?_, h.drawn.trans (Nat.lt_add_of_pos_right (by omega))⟩
    rcases List.mem_append.1 hb with hb | hb
    · exact h.row b hb hid
    · obtain rfl := List.mem_singleton.1 hb
      exact absurd hid h.drawn.ne'
  | resolve c revision summary =>
    refine ⟨fun b hb hid => ?_, h.drawn.trans (Nat.lt_add_of_pos_right (by omega))⟩
    rcases mem_resolved hb with ⟨hb, -⟩ | ⟨r, hr, -, rfl⟩
    · exact h.row b hb hid
    · exact h.row r hr hid
  | skip => exact h

/-- What the effect resolves stands. -/
def Effect.Founded (db : AlertingDb) : Effect → Prop
  | .resolve a _ _ => Stands a db
  | _ => True

/-- An effect leaves the other policies and problems alone. -/
theorem frame_apply {K : String → ℕ → Prop} (he : e.Founded s.1) (hK : e.Within K) :
    Frame K s.1 (e.apply now source_id generation s).1 := by
  cases e with
  | create v p =>
    refine ⟨rfl, rfl, fun q hq => ?_, fun q hq => ?_⟩
    · have hnew : q (openedAlert source_id generation v p s.1.nextId) = false := hq _ hK
      simp [Effect.apply, AlertingDb.created, List.filter_append, hnew]
    · simp only [Effect.apply, AlertingDb.created, List.any_append, List.any_cons, List.any_nil, Bool.or_false]
      rw [hq, Bool.or_false]
      exact hK
  | resolve a revision summary =>
    refine ⟨rfl, rfl, fun q hq => ?_, fun q hq => ?_⟩
    · refine filter_updateWhere fun r hr hra => ?_
      obtain ⟨hpolicy, hsubject⟩ := he.row r hr (of_decide_eq_true hra)
      have hKr : K r.policy_id r.source_subject_id := by rw [hpolicy, hsubject]; exact hK
      exact ⟨hq r hKr, hq _ hKr⟩
    · simp only [Effect.apply, AlertingDb.resolved, List.any_append, List.any_cons, List.any_nil, Bool.or_false]
      rw [hq, Bool.or_false]
      exact hK
  | skip => exact .refl K s.1

variable {policy_id : String} {revision : ℕ}

theorem resolveDecided_apply {subject : ℕ} (h : resolveDecided s.1 policy_id subject revision = true) :
    resolveDecided (e.apply now source_id generation s).1 policy_id subject revision = true := by
  rw [resolveDecided_iff] at h ⊢
  obtain ⟨d, hd, hkey⟩ := h
  cases e with
  | create v p => exact ⟨d, List.mem_append_left _ hd, hkey⟩
  | resolve a revision summary => exact ⟨d, List.mem_append_left _ hd, hkey⟩
  | skip => exact ⟨d, hd, hkey⟩

variable {summary : EvidenceSummary}

/-- An alert that is open at the end of an effect other than a creation was so before it. -/
theorem openAlerts_resolved {b : Alert} (hb : b ∈ openAlerts (db.resolved now a revision summary) policy_id source_id) :
    b ∈ openAlerts db policy_id source_id := by
  obtain ⟨hmem, hkey⟩ := mem_openAlerts.1 hb
  rcases mem_resolved hmem with ⟨hmem, -⟩ | ⟨r, -, -, rfl⟩
  · exact mem_openAlerts.2 ⟨hmem, hkey⟩
  · cases hkey.2.2.2

variable {db' : AlertingDb}

theorem Frame.mem_openAlerts {K : String → ℕ → Prop} (h : Frame K db db') (hK : ¬ K policy_id a.source_subject_id) :
    a ∈ openAlerts db' policy_id source_id ↔ a ∈ openAlerts db policy_id source_id := by
  have hrows := h.alerts (fun b => b.policy_id = policy_id ∧ b.source_kind = .monitoring_problem ∧
    b.monitoring_source_id = source_id ∧ b.status.state = .active ∧ b.source_subject_id = a.source_subject_id) fun b hb => by
      rw [decide_eq_false_iff_not]
      rintro ⟨rfl, -, -, -, hsubject⟩
      exact hK (hsubject ▸ hb)
  have hmem := congrArg (a ∈ ·) hrows
  simpa [openAlerts] using hmem

/-! ### What the rounds come to -/

theorem insertAlert_ok (h : insertAlert a db = .ok db') : db' = { db with alerts := db.alerts ++ [a] } := by
  unfold insertAlert at h
  split_ifs at h
  exact (Except.ok.inj h).symm

theorem insertTransition_ok {alert_id policy_version : ℕ} {before : Option LifecycleState} {after : LifecycleState}
    (h : insertTransition alert_id policy_id policy_version before after revision summary db = .ok db') :
    db' = { db with
      transitions := db.transitions ++
        [⟨db.nextId, alert_id, policy_id, policy_version, before, after, revision, summary⟩]
      nextId := db.nextId + 1 } := by
  unfold insertTransition at h
  split_ifs at h
  exact (Except.ok.inj h).symm

theorem insertDecision_ok {policy_version subject alert_id : ℕ} {effect : EffectKind}
    (h : insertDecision policy_id policy_version subject revision effect alert_id db = .ok db') :
    db' = { db with
      decisions := db.decisions ++ [⟨db.nextId, _decision_hash policy_id policy_version subject revision effect, policy_id,
        policy_version, .monitoring_problem, subject, revision, effect, alert_id⟩]
      nextId := db.nextId + 1 } := by
  unfold insertDecision at h
  split_ifs at h
  exact (Except.ok.inj h).symm

theorem openOccurrence_ok {v : ProblemPolicy} {p : MonitoringProblem}
    (h : openOccurrence source_id generation v p db = .ok db') : db' = db.created source_id generation v p := by
  obtain ⟨db₁, h₁, h⟩ := bind_ok_iff.1 h
  obtain ⟨db₂, h₂, h⟩ := bind_ok_iff.1 h
  rw [insertDecision_ok h, insertTransition_ok h₂, insertAlert_ok h₁]
  rfl

theorem resolveOccurrence_ok (h : resolveOccurrence now a revision summary db = .ok db') :
    db' = db.resolved now a revision summary := by
  obtain ⟨db₁, h₁, h⟩ := bind_ok_iff.1 h
  obtain ⟨db₂, h₂, h⟩ := bind_ok_iff.1 h
  unfold resolveAlert at h₁
  split_ifs at h₁
  rw [insertDecision_ok h, insertTransition_ok h₂, ← Except.ok.inj h₁]
  rfl

end Effects

/-! ### What is settled -/

/-- There is nothing more to do for a current problem. -/
structure SettledProblem (v : ProblemPolicy) (source_id : String) (db : AlertingDb) (p : MonitoringProblem) : Prop where
  matching : v.matchesProblem p = true → (∃ a ∈ openAlerts db v.policy_id source_id, a.source_subject_id = p.problem_id) ∨
    decided db v.policy_id p.problem_id p.projection_revision .create = true
  other : v.matchesProblem p = false → (∀ a ∈ openAlerts db v.policy_id source_id, a.source_subject_id ≠ p.problem_id) ∨
    decided db v.policy_id p.problem_id p.projection_revision .resolve = true

/-- There is nothing more to do for an open alert. -/
def SettledOpen (m : MonitoringDb) (problems : List MonitoringProblem) (db : AlertingDb) (a : Alert) : Prop :=
  (∃ p ∈ problems, p.problem_id = a.source_subject_id) ∨
    resolveDecided db a.policy_id a.source_subject_id (lastRevision m a.source_subject_id) = true

/-- There is nothing more to do under a policy. -/
structure Settled (m : MonitoringDb) (source_id generation : String) (v : ProblemPolicy) (db : AlertingDb) : Prop where
  problems : ∀ p ∈ currentProblems m source_id generation, SettledProblem v source_id db p
  opened : ∀ a ∈ openAlerts db v.policy_id source_id, SettledOpen m (currentProblems m source_id generation) db a

section Rounds

variable {now : Timestamp} {m : MonitoringDb} {source_id generation : String} {v : ProblemPolicy} {opened : List Alert}
  {problems : List MonitoringProblem} {s s' : EvaluationState}

variable {db : AlertingDb} {p : MonitoringProblem}

theorem SettledProblem.frame {K : String → ℕ → Prop} {db' : AlertingDb} (hframe : Frame K db db')
    (hK : ¬ K v.policy_id p.problem_id) (h : SettledProblem v source_id db p) : SettledProblem v source_id db' p := by
  have hopen : ∀ a : Alert, a.source_subject_id = p.problem_id →
      (a ∈ openAlerts db' v.policy_id source_id ↔ a ∈ openAlerts db v.policy_id source_id) :=
    fun a ha => hframe.mem_openAlerts (ha ▸ hK)
  constructor
  · intro hmatch
    rw [hframe.decided_eq hK]
    refine (h.matching hmatch).imp_left ?_
    rintro ⟨a, ha, hsubject⟩
    exact ⟨a, (hopen a hsubject).2 ha, hsubject⟩
  · intro hmatch
    rw [hframe.decided_eq hK]
    exact (h.other hmatch).imp_left fun hnone a ha hsubject => hnone a ((hopen a hsubject).1 ha) hsubject

/-- A round for a problem has the effect that the tables call for. -/
theorem evaluateProblem_ok (h : evaluateProblem now source_id generation v opened s p = .ok s') :
    s' = (planProblem v opened s.1 p).toList.foldl (Effect.apply now source_id generation) s := by
  unfold evaluateProblem at h
  unfold planProblem
  cases hmatch : v.matchesProblem p <;>
    cases hfind : opened.find? fun a => a.source_subject_id = p.problem_id <;>
    rw [hmatch, hfind] at h
  · exact (Except.ok.inj h).symm
  · dsimp only at h ⊢
    split_ifs at h with hdec
    · rw [if_pos hdec]
      exact (Except.ok.inj h).symm
    · obtain ⟨db, hdb, rfl⟩ := map_ok_iff.1 h
      rw [if_neg hdec, resolveOccurrence_ok hdb]
      rfl
  · dsimp only at h ⊢
    split_ifs at h with hdec
    · rw [if_pos hdec]
      exact (Except.ok.inj h).symm
    · obtain ⟨db, hdb, rfl⟩ := map_ok_iff.1 h
      rw [if_neg hdec, openOccurrence_ok hdb]
      rfl
  · exact (Except.ok.inj h).symm

/-- So has a round for an open alert. -/
theorem evaluateOpen_ok {a : Alert} (h : evaluateOpen now m problems s a = .ok s') :
    s' = (planOpen m problems s.1 a).toList.foldl (Effect.apply now source_id generation) s := by
  unfold evaluateOpen at h
  unfold planOpen
  dsimp only at h
  split_ifs at h with hcur hdec
  · rw [if_pos hcur]
    exact (Except.ok.inj h).symm
  · rw [if_neg hcur, if_pos hdec]
    exact (Except.ok.inj h).symm
  · obtain ⟨db, hdb, rfl⟩ := map_ok_iff.1 h
    rw [if_neg hcur, if_neg hdec, resolveOccurrence_ok hdb]
    rfl

/-- The alerts that were fetched stand, in tables with good keys. -/
structure Fetched (opened : List Alert) (db : AlertingDb) : Prop where
  keys : AlertKeys db
  stands : ∀ a ∈ opened, Stands a db

theorem Fetched.apply {e : Effect} (h : Fetched opened s.1) : Fetched opened (e.apply now source_id generation s).1 :=
  ⟨h.keys.apply, fun a ha => (h.stands a ha).apply⟩

/-- The plan for a problem is about its policy and problem. -/
theorem planProblem_within (hfetched : Fetched opened s.1) (hpolicy : ∀ a ∈ opened, a.policy_id = v.policy_id)
    {e : Effect} (he : planProblem v opened s.1 p = some e) :
    e.Founded s.1 ∧ e.Within fun policy_id subject => policy_id = v.policy_id ∧ subject = p.problem_id := by
  unfold planProblem at he
  split at he
  · split_ifs at he <;> cases he
    · exact ⟨trivial, trivial⟩
    · exact ⟨trivial, rfl, rfl⟩
  · next a _ hfind =>
    have ha := List.mem_of_find?_eq_some hfind
    split_ifs at he <;> cases he
    · exact ⟨trivial, trivial⟩
    · exact ⟨hfetched.stands a ha, hpolicy a ha, by simpa using List.find?_some hfind⟩
  · cases he

theorem evaluateProblem_frame (hfetched : Fetched opened s.1) (hpolicy : ∀ a ∈ opened, a.policy_id = v.policy_id)
    (h : evaluateProblem now source_id generation v opened s p = .ok s') : Fetched opened s'.1 ∧
      Frame (fun policy_id subject => policy_id = v.policy_id ∧ subject = p.problem_id) s.1 s'.1 := by
  rw [evaluateProblem_ok h]
  cases hplan : planProblem v opened s.1 p with
  | none => exact ⟨hfetched, .refl _ _⟩
  | some e =>
    obtain ⟨hfounded, hwithin⟩ := planProblem_within hfetched hpolicy hplan
    exact ⟨hfetched.apply, frame_apply hfounded hwithin⟩

/-- The alerts of the problem are as they were fetched. -/
def Untouched (v : ProblemPolicy) (source_id : String) (opened : List Alert) (db : AlertingDb) (p : MonitoringProblem) : Prop :=
  ∀ a : Alert, a.source_subject_id = p.problem_id → (a ∈ openAlerts db v.policy_id source_id ↔ a ∈ opened)

/-- A round for a problem settles it. -/
theorem evaluateProblem_settles (hpolicy : ∀ a ∈ opened, a.policy_id = v.policy_id)
    (huntouched : Untouched v source_id opened s.1 p)
    (h : evaluateProblem now source_id generation v opened s p = .ok s') : SettledProblem v source_id s'.1 p := by
  have hnone : (opened.find? fun a => a.source_subject_id = p.problem_id) = none →
      ∀ a ∈ openAlerts s.1 v.policy_id source_id, a.source_subject_id ≠ p.problem_id := by
    intro hfind a ha hsubject
    have := List.find?_eq_none.1 hfind a ((huntouched a hsubject).1 ha)
    simp [hsubject] at this
  rw [evaluateProblem_ok h]
  unfold planProblem
  cases hmatch : v.matchesProblem p <;>
    cases hfind : opened.find? fun a => a.source_subject_id = p.problem_id
  · exact ⟨fun h => by simp [hmatch] at h, fun _ => .inl (hnone hfind)⟩
  · next a =>
    have hsubject : a.source_subject_id = p.problem_id := by simpa using List.find?_some hfind
    refine ⟨fun h => by simp [hmatch] at h, fun _ => .inr ?_⟩
    dsimp only
    split_ifs with hdec
    · exact hdec
    · -- the resolution is recorded
      exact decided_iff.2 ⟨_, List.mem_append_right _ (List.mem_singleton_self _),
        hpolicy a (List.mem_of_find?_eq_some hfind), rfl, hsubject, rfl, rfl⟩
  · refine ⟨fun _ => ?_, fun h => by simp [hmatch] at h⟩
    dsimp only
    split_ifs with hdec
    · exact .inr hdec
    · exact .inr (decided_iff.2 ⟨_, List.mem_append_right _ (List.mem_singleton_self _), rfl, rfl, rfl, rfl, rfl⟩)
  · next a =>
    have hsubject : a.source_subject_id = p.problem_id := by simpa using List.find?_some hfind
    exact ⟨fun _ => .inl ⟨a, (huntouched a hsubject).2 (List.mem_of_find?_eq_some hfind), hsubject⟩,
      fun h => by simp [hmatch] at h⟩

/-- The loop over the current problems settles them. -/
theorem problems_settled (hpolicy : ∀ a ∈ opened, a.policy_id = v.policy_id)
    (hids : (problems.map MonitoringProblem.problem_id).Nodup) (hfetched : Fetched opened s.1)
    (huntouched : ∀ p ∈ problems, Untouched v source_id opened s.1 p)
    (h : problems.foldlM (evaluateProblem now source_id generation v opened) s = .ok s') :
    Fetched opened s'.1 ∧
      Frame (fun policy_id subject => policy_id = v.policy_id ∧ ∃ p ∈ problems, p.problem_id = subject) s.1 s'.1 ∧
      ∀ p ∈ problems, SettledProblem v source_id s'.1 p := by
  have hframe := foldlM_invariant_of_mem
    (P := fun t : EvaluationState => Fetched opened t.1 ∧
      Frame (fun policy_id subject => policy_id = v.policy_id ∧ ∃ p ∈ problems, p.problem_id = subject) s.1 t.1)
    (fun t p hp t' ht hround => by
      obtain ⟨hfetched', hstep⟩ := evaluateProblem_frame ht.1 hpolicy hround
      exact ⟨hfetched', ht.2.trans (hstep.mono fun policy_id subject hK => ⟨hK.1, p, hp, hK.2.symm⟩)⟩)
    ⟨hfetched, .refl _ _⟩ h
  refine ⟨hframe.1, hframe.2, (foldlM_settles (I := fun t : EvaluationState => Fetched opened t.1)
    (P := fun t p => Untouched v source_id opened t.1 p) (Q := fun t p => SettledProblem v source_id t.1 p)
    (R := fun p q => p.problem_id ≠ q.problem_id) (fun p q hne => hne.symm) ?_ ?_ (List.pairwise_map.1 hids)
    hfetched huntouched h).2⟩
  · intro t p t' ht hp hround
    exact ⟨(evaluateProblem_frame ht hpolicy hround).1, evaluateProblem_settles hpolicy hp hround⟩
  · intro t p t' q ht hp hround hne
    have hstep := (evaluateProblem_frame ht hpolicy hround).2
    have hK : ∀ policy_id, ¬ (policy_id = v.policy_id ∧ q.problem_id = p.problem_id) := fun _ hK => hne hK.2.symm
    refine ⟨fun hq a ha => ?_, fun hq => hq.frame hstep (hK _)⟩
    rw [hstep.mem_openAlerts (by rw [ha]; exact hK _)]
    exact hq a ha

/-- The loop over the open alerts settles them, and keeps what the first loop has settled. -/
theorem opened_settled (hpolicy : ∀ a ∈ opened, a.policy_id = v.policy_id) (hfetched : Fetched opened s.1)
    (hproblems : ∀ p ∈ problems, SettledProblem v source_id s.1 p)
    (h : opened.foldlM (evaluateOpen now m problems) s = .ok s') :
    Fetched opened s'.1 ∧ Frame (fun policy_id _ => policy_id = v.policy_id) s.1 s'.1 ∧
      (∀ p ∈ problems, SettledProblem v source_id s'.1 p) ∧
      (∀ a ∈ openAlerts s'.1 v.policy_id source_id, a ∈ openAlerts s.1 v.policy_id source_id) ∧
      ∀ a ∈ opened, SettledOpen m problems s'.1 a := by
  -- what a round does, beside settling its own alert
  have hround : ∀ t : EvaluationState, ∀ a ∈ opened, ∀ t', Fetched opened t.1 → evaluateOpen now m problems t a = .ok t' →
      Fetched opened t'.1 ∧ Frame (fun policy_id subject => policy_id = v.policy_id ∧
        ∀ p ∈ problems, p.problem_id ≠ subject) t.1 t'.1 ∧
      (∀ b ∈ openAlerts t'.1 v.policy_id source_id, b ∈ openAlerts t.1 v.policy_id source_id) ∧
      (∀ b, SettledOpen m problems t.1 b → SettledOpen m problems t'.1 b) ∧ SettledOpen m problems t'.1 a := by
    intro t a ha t' ht hok
    have heq : t' = (planOpen m problems t.1 a).toList.foldl (Effect.apply now source_id "") t := evaluateOpen_ok hok
    rw [heq]
    unfold planOpen
    split_ifs with hcur hdec
    · obtain ⟨p, hp, hid⟩ := List.any_eq_true.1 hcur
      exact ⟨ht, .refl _ _, fun b hb => hb, fun b hb => hb, .inl ⟨p, hp, of_decide_eq_true hid⟩⟩
    · exact ⟨ht, .refl _ _, fun b hb => hb, fun b hb => hb, .inr hdec⟩
    · rw [Option.toList_some, List.foldl_cons, List.foldl_nil]
      refine ⟨ht.apply, frame_apply (e := .resolve a _ _) (ht.stands a ha) ⟨hpolicy a ha, fun p hp hid => ?_⟩,
        fun b hb => openAlerts_resolved hb, fun b hb => hb.imp_right resolveDecided_apply, .inr ?_⟩
      · exact hcur (List.any_eq_true.2 ⟨p, hp, decide_eq_true hid⟩)
      · exact resolveDecided_iff.2 ⟨_, List.mem_append_right _ (List.mem_singleton_self _), rfl, rfl, rfl, rfl⟩
  have hloop := foldlM_settles
    (I := fun t : EvaluationState => Fetched opened t.1 ∧ Frame (fun policy_id _ => policy_id = v.policy_id) s.1 t.1 ∧
      (∀ p ∈ problems, SettledProblem v source_id t.1 p) ∧
      ∀ a ∈ openAlerts t.1 v.policy_id source_id, a ∈ openAlerts s.1 v.policy_id source_id)
    (P := fun _ a => a ∈ opened) (Q := fun t a => SettledOpen m problems t.1 a) (R := fun _ _ => True)
    (fun _ _ _ => trivial)
    (fun t a t' ht ha hok => by
      obtain ⟨hfetched', hframe, hopen, -, hown⟩ := hround t a ha t' ht.1 hok
      refine ⟨⟨hfetched', ht.2.1.trans (hframe.mono fun _ _ hK => hK.1), fun p hp => ?_, fun b hb => ht.2.2.2 b (hopen b hb)⟩,
        hown⟩
      exact (ht.2.2.1 p hp).frame hframe fun hK => hK.2 p hp rfl)
    (fun t a t' b ht ha hok _ => ⟨id, (hround t a ha t' ht.1 hok).2.2.2.1 b⟩)
    (List.pairwise_of_forall fun _ _ => trivial) ⟨hfetched, .refl _ _, hproblems, fun a ha => ha⟩ (fun a ha => ha) h
  exact ⟨hloop.1.1, hloop.1.2.1, hloop.1.2.2.1, hloop.1.2.2.2, hloop.2⟩

/-- A policy that is evaluated is settled, and the others are left alone. -/
theorem evaluatePolicy_round (hids : (m.problems.map MonitoringProblem.problem_id).Nodup) (hkeys : AlertKeys s.1)
    (h : evaluatePolicy now m source_id generation s v = .ok s') : AlertKeys s'.1 ∧
      Frame (fun policy_id _ => policy_id = v.policy_id) s.1 s'.1 ∧
      (selects v.monitoring_source_id source_id = true → Settled m source_id generation v s'.1) := by
  unfold evaluatePolicy at h
  split_ifs at h with hselects
  · obtain ⟨s₁, h₁, h⟩ := bind_ok_iff.1 h
    have hpolicy : ∀ a ∈ openAlerts s.1 v.policy_id source_id, a.policy_id = v.policy_id :=
      fun a ha => (mem_openAlerts.1 ha).2.1
    have hfetched : Fetched (openAlerts s.1 v.policy_id source_id) s.1 :=
      ⟨hkeys, fun a ha => hkeys.stands (mem_openAlerts.1 ha).1⟩
    have hcurrent : ((currentProblems m source_id generation).map MonitoringProblem.problem_id).Nodup :=
      hids.sublist (List.filter_sublist.map _)
    obtain ⟨hfetched₁, hframe₁, hproblems⟩ := problems_settled hpolicy hcurrent hfetched (fun p _ a _ => Iff.rfl) h₁
    obtain ⟨hfetched', hframe, hproblems', hopen, hopened⟩ := opened_settled hpolicy hfetched₁ hproblems h
    refine ⟨hfetched'.keys, (hframe₁.mono fun _ _ hK => hK.1).trans hframe, fun _ => ⟨hproblems', fun a ha => ?_⟩⟩
    -- an alert that is still open was fetched, or its problem is current
    by_cases hcur : ∃ p ∈ currentProblems m source_id generation, p.problem_id = a.source_subject_id
    · exact .inl hcur
    · exact hopened a ((hframe₁.mem_openAlerts fun hK => hcur hK.2).1 (hopen a ha))
  · rw [← Except.ok.inj h]
    exact ⟨hkeys, .refl _ _, fun hselects' => absurd hselects' hselects⟩

theorem Settled.frame {db' : AlertingDb} {w : ProblemPolicy} (h : Settled m source_id generation w db)
    (hframe : Frame (fun policy_id _ => policy_id = v.policy_id) db db') (hne : w.policy_id ≠ v.policy_id) :
    Settled m source_id generation w db' := by
  refine ⟨fun p hp => (h.problems p hp).frame hframe hne, fun a ha => ?_⟩
  have ha' := (hframe.mem_openAlerts hne).1 ha
  refine (h.opened a ha').imp_right fun hdec => ?_
  rw [hframe.resolveDecided_eq]
  · exact hdec
  · rw [(mem_openAlerts.1 ha').2.1]
    exact hne

/-! ### The second evaluation -/

/-- The tables are as they were, and nothing is counted but what is skipped. -/
def Quiet (db : AlertingDb) (s : EvaluationState) : Prop :=
  s.1 = db ∧ s.2.created = 0 ∧ s.2.resolved = 0 ∧ s.2.reason = none

/-- A round for a problem that is settled has no effect. -/
theorem evaluateProblem_settled (hp : SettledProblem v source_id db p) (hs : Quiet db s) :
    ∃ s', evaluateProblem now source_id generation v (openAlerts db v.policy_id source_id) s p = .ok s' ∧
      Quiet db s' := by
  obtain ⟨rfl, hcounts⟩ := hs
  unfold evaluateProblem
  cases hmatch : v.matchesProblem p <;>
    cases hfind : (openAlerts s.1 v.policy_id source_id).find? fun a => a.source_subject_id = p.problem_id
  · exact ⟨s, rfl, rfl, hcounts⟩
  · next a =>
    rcases hp.other hmatch with hnone | hdec
    · have hsubject : a.source_subject_id = p.problem_id := by simpa using List.find?_some hfind
      exact absurd hsubject (hnone a (List.mem_of_find?_eq_some hfind))
    · exact ⟨_, if_pos hdec, rfl, hcounts⟩
  · rcases hp.matching hmatch with ⟨a, ha, hsubject⟩ | hdec
    · have := List.find?_eq_none.1 hfind a ha
      simp [hsubject] at this
    · exact ⟨_, if_pos hdec, rfl, hcounts⟩
  · exact ⟨s, rfl, rfl, hcounts⟩

theorem evaluateOpen_settled {a : Alert} (ha : SettledOpen m problems db a) (hs : Quiet db s) :
    evaluateOpen now m problems s a = .ok s := by
  obtain ⟨rfl, -⟩ := hs
  unfold evaluateOpen
  rcases ha with ⟨p, hp, hid⟩ | hdec
  · rw [if_pos (List.any_eq_true.2 ⟨p, hp, decide_eq_true hid⟩)]
  · dsimp only
    rw [if_pos hdec, ite_self]

theorem evaluatePolicy_settled
    (hv : selects v.monitoring_source_id source_id = true → Settled m source_id generation v db) (hs : Quiet db s) :
    ∃ s', evaluatePolicy now m source_id generation s v = .ok s' ∧ Quiet db s' := by
  unfold evaluatePolicy
  split_ifs with hselects
  · obtain ⟨rfl, hcounts⟩ := hs
    have hv := hv hselects
    obtain ⟨s₁, h₁, hquiet₁⟩ := foldlM_kept (C := Quiet s.1)
      (f := evaluateProblem now source_id generation v (openAlerts s.1 v.policy_id source_id))
      (fun t p hp ht => evaluateProblem_settled (hv.problems p hp) ht) ⟨rfl, hcounts⟩
    obtain ⟨s', h', hquiet⟩ := foldlM_kept (C := Quiet s.1)
      (f := evaluateOpen now m (currentProblems m source_id generation))
      (fun t a ha ht => ⟨t, evaluateOpen_settled (hv.opened a ha) ht, ht⟩) hquiet₁
    exact ⟨s', bind_ok_iff.2 ⟨s₁, h₁, h'⟩, hquiet⟩
  · exact ⟨s, rfl, hs⟩

end Rounds

/-- **Key result**: an evaluation right after an evaluation leaves the tables as they are, and creates and resolves nothing. -/
theorem evaluation_idempotent (now now' : Timestamp) (source_id : String) {m : MonitoringDb}
    (hids : (m.problems.map MonitoringProblem.problem_id).Nodup) {db : AlertingDb} (hpolicies : PoliciesSound db)
    (hkeys : AlertKeys db) {r : EvaluationState} (h : evaluate_problem_policies now source_id m db = .ok r) :
    ∃ stats, evaluate_problem_policies now' source_id m r.1 = .ok (r.1, stats) ∧ stats.created = 0 ∧ stats.resolved = 0 := by
  cases hgen : currentGeneration m source_id with
  | none =>
    rw [evaluate_gated hgen] at h
    rw [← Except.ok.inj h]
    exact ⟨_, evaluate_gated hgen now' db, rfl, rfl⟩
  | some generation =>
    simp only [evaluate_problem_policies, hgen] at h ⊢
    obtain ⟨⟨-, hframe⟩, hsettled⟩ := foldlM_settles
      (I := fun t : EvaluationState => AlertKeys t.1 ∧ Frame (fun _ _ => True) db t.1) (P := fun _ _ => True)
      (Q := fun t v => selects v.monitoring_source_id source_id = true → Settled m source_id generation v t.1)
      (R := fun v w : ProblemPolicy => v.policy_id ≠ w.policy_id) (fun _ _ hne => hne.symm)
      (fun t v t' ht _ hround => by
        obtain ⟨hkeys', hframe, hsettled⟩ := evaluatePolicy_round hids ht.1 hround
        exact ⟨⟨hkeys', ht.2.trans (hframe.mono fun _ _ _ => trivial)⟩, hsettled⟩)
      (fun t v t' w ht _ hround hne => by
        obtain ⟨-, hframe, -⟩ := evaluatePolicy_round hids ht.1 hround
        exact ⟨fun _ => trivial, fun hw hselects => (hw hselects).frame hframe hne.symm⟩)
      (effectiveProblemPolicies_pairwise hpolicies) ⟨hkeys, .refl _ _⟩ (fun _ _ => trivial) h
    have hsame : effectiveProblemPolicies r.1 = effectiveProblemPolicies db := by
      unfold effectiveProblemPolicies
      rw [hframe.versions, hframe.effective]
    obtain ⟨⟨db', stats⟩, h', hsame', hcreated, hresolved, -⟩ := foldlM_kept (C := Quiet r.1)
      (f := evaluatePolicy now' m source_id generation) (fun t v hv ht => evaluatePolicy_settled (hsettled v hv) ht)
      (s := (r.1, .zero)) ⟨rfl, rfl, rfl, rfl⟩
    obtain rfl : db' = r.1 := hsame'
    exact ⟨stats, by rw [hsame]; exact h', hcreated, hresolved⟩

/-- A problem that matches a policy opens an alert in the first evaluation, and none in the second. -/
theorem second_evaluation_opens_none :
    let m : MonitoringDb := { MonitoringDb.empty .publicationBridge with
      sources := [⟨"src", "g1", 1, 1, "cred", .current, none, none, 0, 0, 0, 0⟩]
      problems := [⟨7, "src", "g1", "res", .active, .critical, "disk full", 0, 0, .current, 3, 0, 0, false, []⟩] }
    let db : AlertingDb := { AlertingDb.empty with
      policies := ["pol"]
      versions := [⟨"pol", 1, .monitoring_problem .warning, none, none,
        ⟨"monitoring_problem", some "warning", [], none, none⟩, none⟩]
      effective := [⟨"pol", 1, true⟩] }
    ∃ r, evaluate_problem_policies 10 "src" m db = .ok r ∧ r.2.created = 1 ∧
      ∃ stats, evaluate_problem_policies 20 "src" m r.1 = .ok (r.1, stats) ∧ stats.created = 0 ∧ stats.resolved = 0 := by
  intro m db
  have hpolicies : PoliciesSound db := ⟨by decide, by decide⟩
  have hkeys : AlertKeys db := ⟨by decide, by decide⟩
  exact ⟨_, rfl, rfl, evaluation_idempotent 10 20 "src" (m := m) (by decide) hpolicies hkeys rfl⟩

end JLMirror.Alerting
