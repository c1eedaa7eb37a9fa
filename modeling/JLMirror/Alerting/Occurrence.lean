import JLMirror.Alerting.Evaluation
import JLMirror.Monitoring.ProblemMoves

/-!
# Alert occurrences: what an evaluation does

An evaluation creates occurrences, resolves occurrences, and passes over what the decision ledger
holds already. What it does to one policy and problem does not disturb the others, so all of it
can be read off the tables before it starts.

## The model

* `Effect` is one thing that an evaluation does. `plan` lists the effects that the tables before
  the evaluation call for. This is the statement of the purpose, not translated code.

## What is proved

* Both schemas are `Sound` after every run: at most one active alert for a policy and problem, and
  no alert or decision ahead of its problem.
* `evaluate_planned`: from sound tables an evaluation never raises, and it is its plan.
-/

namespace JLMirror.Alerting

open JLMirror.Foundations JLMirror.Monitoring

/-! ### Effects -/

/-- What an evaluation does for a policy and a problem. -/
inductive Effect where
  /-- Creates an occurrence. -/
  | create (v : ProblemPolicy) (p : MonitoringProblem)
  /-- Resolves the occurrence at a revision of its problem. -/
  | resolve (a : Alert) (revision : ℕ) (summary : EvidenceSummary)
  /-- Counts a recorded effect as skipped. -/
  | skip

/-- The tables with a new occurrence. -/
def AlertingDb.created (source_id generation : String) (v : ProblemPolicy) (p : MonitoringProblem) (db : AlertingDb) :
    AlertingDb :=
  { db with
    alerts := db.alerts ++ [openedAlert source_id generation v p db.nextId]
    transitions := db.transitions ++
      [AlertTransition.mk (db.nextId + 1) db.nextId v.policy_id v.policy_version none .active p.projection_revision
        (openedAlert source_id generation v p db.nextId).source_evidence_summary]
    decisions := db.decisions ++
      [AlertDecision.mk (db.nextId + 2)
        (_decision_hash v.policy_id v.policy_version p.problem_id p.projection_revision .create) v.policy_id
        v.policy_version .monitoring_problem p.problem_id p.projection_revision .create db.nextId]
    nextId := db.nextId + 3 }

/-- The tables with an occurrence resolved. -/
def AlertingDb.resolved (now : Timestamp) (a : Alert) (revision : ℕ) (summary : EvidenceSummary) (db : AlertingDb) :
    AlertingDb :=
  { db with
    alerts := updateWhere (fun b => b.alert_id = a.alert_id) (Alert.resolve now revision) db.alerts
    transitions := db.transitions ++
      [AlertTransition.mk db.nextId a.alert_id a.policy_id a.policy_version (some .active) .resolved revision summary]
    decisions := db.decisions ++
      [AlertDecision.mk (db.nextId + 1)
        (_decision_hash a.policy_id a.policy_version a.source_subject_id revision .resolve) a.policy_id
        a.policy_version .monitoring_problem a.source_subject_id revision .resolve a.alert_id]
    nextId := db.nextId + 2 }

/-- The active alerts of a policy and a problem. -/
def activeAlerts (db : AlertingDb) (policy_id : String) (subject : ℕ) : List Alert :=
  db.alerts.filter fun a =>
    a.policy_id = policy_id ∧ a.source_kind = .monitoring_problem ∧ a.source_subject_id = subject ∧ a.status = .active

@[simp] theorem OccurrenceStatus.state_eq_active {s : OccurrenceStatus} : s.state = .active ↔ s = .active := by
  cases s <;> simp [OccurrenceStatus.state]

variable {a : Alert}

theorem mem_activeAlerts {db : AlertingDb} {policy_id : String} {subject : ℕ} :
    a ∈ activeAlerts db policy_id subject ↔ a ∈ db.alerts ∧ a.policy_id = policy_id ∧
      a.source_kind = .monitoring_problem ∧ a.source_subject_id = subject ∧ a.status = .active := by
  simp [activeAlerts]

theorem mem_openAlerts {db : AlertingDb} {policy_id source_id : String} :
    a ∈ openAlerts db policy_id source_id ↔ a ∈ db.alerts ∧ a.policy_id = policy_id ∧
      a.source_kind = .monitoring_problem ∧ a.monitoring_source_id = source_id ∧ a.status = .active := by
  simp [openAlerts]

variable {p : MonitoringProblem}

theorem mem_currentProblems {m : MonitoringDb} {source_id generation : String} :
    p ∈ currentProblems m source_id generation ↔ p ∈ m.problems ∧ p.monitoring_source_id = source_id ∧
      p.status = .active ∧ p.evidence_state = .current ∧ p.source_instance_generation = generation := by
  simp [currentProblems, ProblemStatus.state_eq_active]

/-! ### The statements as equations -/

section Statements

variable {db : AlertingDb} {now : Timestamp} {source_id generation : String}

theorem insertAlert_eq (hpos : a.source_occurrence_revision ≠ 0)
    (hrev : a.source_occurrence_revision ≤ a.current_source_revision) (hkind : a.source_kind = .monitoring_problem)
    (hactive : activeAlerts db a.policy_id a.source_subject_id = []) :
    insertAlert a db = .ok { db with alerts := db.alerts ++ [a] } := by
  have hany : ¬(db.alerts.any fun b => b.policy_id = a.policy_id ∧ b.source_kind = a.source_kind ∧
      b.source_subject_id = a.source_subject_id ∧ b.status.state = .active) = true := by
    simp only [List.any_eq_true, decide_eq_true_eq, OccurrenceStatus.state_eq_active, hkind]
    rintro ⟨b, hb, hkey⟩
    exact (List.not_mem_nil (hactive ▸ mem_activeAlerts.2 ⟨hb, hkey⟩))
  rw [insertAlert, if_neg (by omega), if_neg hany]

theorem resolveAlert_eq {alert_id revision : ℕ}
    (hrev : ∀ b ∈ db.alerts, b.alert_id = alert_id → b.source_occurrence_revision ≤ revision) :
    resolveAlert now alert_id revision db =
      .ok { db with alerts := updateWhere (fun a => a.alert_id = alert_id) (Alert.resolve now revision) db.alerts } := by
  have hany : ¬(db.alerts.any fun b => b.alert_id = alert_id ∧ revision < b.source_occurrence_revision) = true := by
    simp only [List.any_eq_true, decide_eq_true_eq, not_exists, not_and, not_lt]
    exact hrev
  rw [resolveAlert, if_neg hany]

/-- An occurrence is created where the problem has a revision, no alert is active and no creation is recorded. -/
theorem openOccurrence_eq {v : ProblemPolicy} (hpos : 0 < p.projection_revision)
    (hactive : activeAlerts db v.policy_id p.problem_id = [])
    (hdec : decided db v.policy_id p.problem_id p.projection_revision .create = false) :
    openOccurrence source_id generation v p db = .ok (db.created source_id generation v p) := by
  have hins : insertAlert (openedAlert source_id generation v p db.nextId) { db with nextId := db.nextId + 1 } = .ok _ :=
    insertAlert_eq hpos.ne' le_rfl rfl hactive
  have hdec' : ¬decided db v.policy_id p.problem_id p.projection_revision .create = true := by simp [hdec]
  rw [openOccurrence, hins]
  show (insertTransition _ _ _ _ _ _ _ _ >>= _) = _
  rw [insertTransition, if_neg hpos.ne']
  show insertDecision _ _ _ _ _ _ _ = _
  rw [insertDecision, if_neg hpos.ne']
  exact if_neg hdec'

/-- An occurrence is resolved at a revision that it has reached, where no resolution is recorded. -/
theorem resolveOccurrence_eq {revision : ℕ} {summary : EvidenceSummary} (hpos : 0 < revision)
    (hrev : ∀ b ∈ db.alerts, b.alert_id = a.alert_id → b.source_occurrence_revision ≤ revision)
    (hdec : decided db a.policy_id a.source_subject_id revision .resolve = false) :
    resolveOccurrence now a revision summary db = .ok (db.resolved now a revision summary) := by
  have hdec' : ¬decided db a.policy_id a.source_subject_id revision .resolve = true := by simp [hdec]
  rw [resolveOccurrence, resolveAlert_eq hrev]
  show (insertTransition _ _ _ _ _ _ _ _ >>= _) = _
  rw [insertTransition, if_neg hpos.ne']
  show insertDecision _ _ _ _ _ _ _ = _
  rw [insertDecision, if_neg hpos.ne']
  exact if_neg hdec'

end Statements

/-! ### Sound tables -/

/-- What the constraints of the policy tables say. -/
structure PoliciesSound (db : AlertingDb) : Prop where
  version_keys : (db.versions.map fun v => (v.policy_id, v.policy_version)).Nodup
  pointers : (db.effective.map EffectiveVersion.policy_id).Nodup

/-- What holds of the alerts at every moment. -/
structure AlertsSound (m : MonitoringDb) (db : AlertingDb) : Prop where
  ids : (db.alerts.map Alert.alert_id).Nodup
  drawn : ∀ a ∈ db.alerts, a.alert_id < db.nextId
  kinds : ∀ a ∈ db.alerts, a.source_kind = .monitoring_problem
  /-- At most one alert of a policy and a problem is active. -/
  single : ∀ a ∈ db.alerts, ∀ b ∈ db.alerts, a.status = .active → b.status = .active →
    a.policy_id = b.policy_id → a.source_subject_id = b.source_subject_id → a = b
  /-- An alert is about a problem of its source, and not ahead of it. -/
  subject : ∀ a ∈ db.alerts, ∃ p ∈ m.problems, p.problem_id = a.source_subject_id ∧
    p.monitoring_source_id = a.monitoring_source_id ∧ a.source_occurrence_revision ≤ p.projection_revision
  /-- A decision is not ahead of its problem. -/
  recorded : ∀ d ∈ db.decisions, ∃ p ∈ m.problems, p.problem_id = d.source_subject_id ∧
    d.source_revision ≤ p.projection_revision
  /-- Where an alert is active, its problem has not been resolved at a decided revision. -/
  unresolved : ∀ a ∈ db.alerts, a.status = .active → ∀ p ∈ m.problems, p.problem_id = a.source_subject_id →
    p.status ≠ .active → resolveDecided db a.policy_id a.source_subject_id p.projection_revision = false

/-- What holds of both schemas at every moment. -/
structure System.Sound (s : System) : Prop where
  monitoring : s.monitoring.Sound
  policies : PoliciesSound s.alerting
  alerts : AlertsSound s.monitoring s.alerting

variable {revision : ℕ}

theorem resolveDecided_iff {db : AlertingDb} {policy_id : String} {subject : ℕ} :
    resolveDecided db policy_id subject revision = true ↔ ∃ d ∈ db.decisions, d.policy_id = policy_id ∧
      d.source_subject_id = subject ∧ d.effect_kind = .resolve ∧ d.source_revision = revision := by
  simp [resolveDecided]

theorem decided_iff {db : AlertingDb} {policy_id : String} {subject : ℕ} {effect : EffectKind} :
    decided db policy_id subject revision effect = true ↔ ∃ d ∈ db.decisions, d.policy_id = policy_id ∧
      d.source_kind = .monitoring_problem ∧ d.source_subject_id = subject ∧ d.source_revision = revision ∧
        d.effect_kind = effect := by
  simp [decided]

theorem decided_of_resolveDecided {db : AlertingDb} {policy_id : String} {subject : ℕ}
    (h : resolveDecided db policy_id subject revision = false) :
    decided db policy_id subject revision .resolve = false := by
  by_contra hd
  rw [Bool.not_eq_false, decided_iff] at hd
  obtain ⟨d, hd, hp, -, hs, hr, he⟩ := hd
  exact Bool.false_ne_true (h.symm.trans (resolveDecided_iff.2 ⟨d, hd, hp, hs, he, hr⟩))

/-- The revision at which a disappeared problem is resolved is that of its row. -/
theorem lastRevision_eq {m : MonitoringDb} (hm : m.Sound) (hp : p ∈ m.problems) :
    lastRevision m p.problem_id = p.projection_revision := by
  have hpos := hm.positive p hp
  rcases filter_key_cases hm.problem_ids p.problem_id with hnil | ⟨q, hq, hid, hone⟩
  · have := List.filter_eq_nil_iff.1 hnil p hp
    simp at this
  · rw [eq_of_key hm.problem_ids hq hp hid] at hone
    simp only [lastRevision, hone, List.map_cons, List.map_nil, List.foldr_cons, List.foldr_nil]
    rw [Nat.max_eq_left (Nat.zero_le _), if_neg hpos.ne']

namespace AlertsSound

variable {m : MonitoringDb} {db : AlertingDb}

theorem eq_of_id (h : AlertsSound m db) {b : Alert} (ha : a ∈ db.alerts) (hb : b ∈ db.alerts)
    (hid : a.alert_id = b.alert_id) : a = b :=
  eq_of_key h.ids ha hb hid

theorem source_eq (h : AlertsSound m db) (hm : m.Sound) (ha : a ∈ db.alerts) (hp : p ∈ m.problems)
    (hid : p.problem_id = a.source_subject_id) :
    a.monitoring_source_id = p.monitoring_source_id ∧ a.source_occurrence_revision ≤ p.projection_revision := by
  obtain ⟨q, hq, hqid, hsrc, hrev⟩ := h.subject a ha
  rw [eq_of_key hm.problem_ids hq hp (hqid.trans hid.symm)] at hsrc hrev
  exact ⟨hsrc.symm, hrev⟩

/-- The alerts stay sound while the problems go forward. -/
theorem evolves {m' : MonitoringDb} (h : AlertsSound m db) (hm : m.Sound) (hm' : m'.Sound) (he : Evolves m m') :
    AlertsSound m' db where
  ids := h.ids
  drawn := h.drawn
  kinds := h.kinds
  single := h.single
  subject a ha := by
    obtain ⟨p, hp, hid, hsrc, hrev⟩ := h.subject a ha
    obtain ⟨p', hp', hident, hrev'⟩ := he.stays p hp
    simp only [MonitoringProblem.identity, Prod.mk.injEq] at hident
    exact ⟨p', hp', hident.1.trans hid, hident.2.1.trans hsrc, hrev.trans hrev'⟩
  recorded d hd := by
    obtain ⟨p, hp, hid, hrev⟩ := h.recorded d hd
    obtain ⟨p', hp', hident, hrev'⟩ := he.stays p hp
    exact ⟨p', hp', (congrArg Prod.fst hident).trans hid, hrev.trans hrev'⟩
  unresolved a ha hact p' hp' hid hres := by
    obtain ⟨p, hp, hpid, -⟩ := h.subject a ha
    have hpp' : p'.problem_id = p.problem_id := hid.trans hpid.symm
    by_cases hp_act : p.status = .active
    · -- resolved meanwhile: its revision is above all that was decided
      have hlt := he.raises p hp hp_act p' hp' hpp' hres
      by_contra hdec
      rw [Bool.not_eq_false, resolveDecided_iff] at hdec
      obtain ⟨d, hd, -, hsub, -, hrev⟩ := hdec
      obtain ⟨q, hq, hqid, hle⟩ := h.recorded d hd
      rw [eq_of_key hm.problem_ids hq hp (by rw [hqid, hsub, hpid])] at hle
      omega
    · rw [← eq_of_key hm'.problem_ids (he.frozen p hp hp_act) hp' hpp'.symm]
      exact h.unresolved a ha hact p hp hpid hp_act

end AlertsSound

/-! ### Effects on sound tables -/

/-- An effect that the tables admit. -/
inductive Effect.Admitted (m : MonitoringDb) (source_id : String) (db : AlertingDb) : Effect → Prop where
  | create {v : ProblemPolicy} {p : MonitoringProblem} (hp : p ∈ m.problems) (hact : p.status = .active)
      (hsrc : p.monitoring_source_id = source_id) (hnone : activeAlerts db v.policy_id p.problem_id = []) :
      Admitted m source_id db (.create v p)
  | resolve {a : Alert} {revision : ℕ} {summary : EvidenceSummary} {p : MonitoringProblem} (ha : a ∈ db.alerts)
      (hact : a.status = .active) (hp : p ∈ m.problems) (hid : p.problem_id = a.source_subject_id)
      (hrev : revision = p.projection_revision) : Admitted m source_id db (.resolve a revision summary)
  | skip : Admitted m source_id db .skip

/-- The tables and counters after an effect. -/
def Effect.apply (now : Timestamp) (source_id generation : String) (s : EvaluationState) : Effect → EvaluationState
  | .create v p => (s.1.created source_id generation v p, { s.2 with created := s.2.created + 1 })
  | .resolve a revision summary => (s.1.resolved now a revision summary, { s.2 with resolved := s.2.resolved + 1 })
  | .skip => (s.1, { s.2 with skipped := s.2.skipped + 1 })

theorem mem_resolved {now : Timestamp} {b : Alert} {summary : EvidenceSummary} {db : AlertingDb}
    (hb : b ∈ (db.resolved now a revision summary).alerts) :
    (b ∈ db.alerts ∧ b.alert_id ≠ a.alert_id) ∨
      ∃ r ∈ db.alerts, r.alert_id = a.alert_id ∧ b = r.resolve now revision := by
  obtain ⟨r, hr, rfl⟩ := mem_updateWhere.1 hb
  by_cases hid : r.alert_id = a.alert_id
  · exact Or.inr ⟨r, hr, hid, by simp [hid]⟩
  · exact Or.inl (by simpa [hid] using hr)

namespace AlertsSound

variable {m : MonitoringDb} {db : AlertingDb} {now : Timestamp} {source_id generation : String}

theorem created (h : AlertsSound m db) (hm : m.Sound) {v : ProblemPolicy}
    (he : (Effect.create v p).Admitted m source_id db) : AlertsSound m (db.created source_id generation v p) := by
  cases he with
  | create hp hact hsrc hnone =>
  have hother : ∀ a ∈ db.alerts, a.status = .active → a.policy_id = v.policy_id →
      a.source_subject_id ≠ p.problem_id := fun a ha hst hpol hsub =>
    List.not_mem_nil (hnone ▸ mem_activeAlerts.2 ⟨ha, hpol, h.kinds a ha, hsub, hst⟩)
  constructor
  · simp only [AlertingDb.created, List.map_append, List.map_cons, List.map_nil, List.nodup_append, h.ids,
      List.nodup_singleton, true_and]
    intro i hi j hj
    obtain ⟨a, ha, rfl⟩ := List.mem_map.1 hi
    rw [List.mem_singleton.1 hj]
    exact (h.drawn a ha).ne
  · intro a ha
    simp only [AlertingDb.created, List.mem_append, List.mem_singleton] at ha ⊢
    rcases ha with ha | rfl
    · have := h.drawn a ha
      omega
    · simp only [openedAlert]
      omega
  · intro a ha
    simp only [AlertingDb.created, List.mem_append, List.mem_singleton] at ha
    rcases ha with ha | rfl
    · exact h.kinds a ha
    · rfl
  · intro a ha b hb hst hst' hpol hsub
    simp only [AlertingDb.created, List.mem_append, List.mem_singleton] at ha hb
    rcases ha with ha | rfl
    · rcases hb with hb | rfl
      · exact h.single a ha b hb hst hst' hpol hsub
      · exact absurd hsub (hother a ha hst hpol)
    · rcases hb with hb | rfl
      · exact absurd hsub.symm (hother b hb hst' hpol.symm)
      · rfl
  · intro a ha
    simp only [AlertingDb.created, List.mem_append, List.mem_singleton] at ha
    rcases ha with ha | rfl
    · exact h.subject a ha
    · exact ⟨p, hp, rfl, hsrc, le_rfl⟩
  · intro d hd
    simp only [AlertingDb.created, List.mem_append, List.mem_singleton] at hd
    rcases hd with hd | rfl
    · exact h.recorded d hd
    · exact ⟨p, hp, rfl, le_rfl⟩
  · intro a ha hst q hq hid hres
    simp only [AlertingDb.created, List.mem_append, List.mem_singleton] at ha
    rcases ha with ha | rfl
    · refine Eq.trans ?_ (h.unresolved a ha hst q hq hid hres)
      simp [resolveDecided, AlertingDb.created]
    · rw [eq_of_key hm.problem_ids hq hp hid] at hres
      exact absurd hact hres

theorem resolved (h : AlertsSound m db) {summary : EvidenceSummary}
    (he : (Effect.resolve a revision summary).Admitted m source_id db) :
    AlertsSound m (db.resolved now a revision summary) := by
  cases he with
  | resolve ha hact hp hid hrev =>
  rename_i p
  have hold : ∀ b ∈ (db.resolved now a revision summary).alerts, b.status = .active →
      b ∈ db.alerts ∧ b.alert_id ≠ a.alert_id := by
    intro b hb hst
    rcases mem_resolved hb with hb | ⟨r, -, -, rfl⟩
    · exact hb
    · cases hst
  constructor
  · have hmap := map_updateWhere (p := fun b : Alert => decide (b.alert_id = a.alert_id))
      (f := Alert.resolve now revision) (k := Alert.alert_id) (fun _ => rfl) db.alerts
    exact hmap ▸ h.ids
  · intro b hb
    have hlt : ∀ r ∈ db.alerts, r.alert_id < (db.resolved now a revision summary).nextId := fun r hr =>
      (h.drawn r hr).trans_le (Nat.le_add_right _ _)
    rcases mem_resolved hb with ⟨hb, -⟩ | ⟨r, hr, -, rfl⟩
    · exact hlt b hb
    · exact hlt r hr
  · intro b hb
    rcases mem_resolved hb with ⟨hb, -⟩ | ⟨r, hr, -, rfl⟩
    · exact h.kinds b hb
    · exact h.kinds r hr
  · intro b hb c hc hst hst' hpol hsub
    exact h.single b (hold b hb hst).1 c (hold c hc hst').1 hst hst' hpol hsub
  · intro b hb
    rcases mem_resolved hb with ⟨hb, -⟩ | ⟨r, hr, -, rfl⟩
    · exact h.subject b hb
    · exact h.subject r hr
  · intro d hd
    simp only [AlertingDb.resolved, List.mem_append, List.mem_singleton] at hd
    rcases hd with hd | rfl
    · exact h.recorded d hd
    · exact ⟨p, hp, hid, hrev.le⟩
  · intro b hb hst q hq hqid hres
    obtain ⟨hb, hne⟩ := hold b hb hst
    have hdec := h.unresolved b hb hst q hq hqid hres
    by_contra hnew
    rw [Bool.not_eq_false, resolveDecided_iff] at hnew
    obtain ⟨d, hd, hpol, hsub, heff, hr⟩ := hnew
    simp only [AlertingDb.resolved, List.mem_append, List.mem_singleton] at hd
    rcases hd with hd | rfl
    · exact Bool.false_ne_true (hdec.symm.trans (resolveDecided_iff.2 ⟨d, hd, hpol, hsub, heff, hr⟩))
    · exact hne (congrArg Alert.alert_id (h.single b hb a ha hst hact hpol.symm hsub.symm))

theorem apply (hm : m.Sound) {s : EvaluationState} (h : AlertsSound m s.1) {e : Effect}
    (he : e.Admitted m source_id s.1) : AlertsSound m (e.apply now source_id generation s).1 := by
  cases e with
  | create v p => exact h.created hm he
  | resolve a revision summary => exact h.resolved he
  | skip => exact h

end AlertsSound

/-! ### What effects leave alone -/

/-- `db'` differs from `db` only in alerts and decisions of the policies and problems in `K`. -/
structure Frame (K : String → ℕ → Prop) (db db' : AlertingDb) : Prop where
  versions : db'.versions = db.versions
  effective : db'.effective = db.effective
  alerts : ∀ q : Alert → Bool, (∀ a, K a.policy_id a.source_subject_id → q a = false) →
    db'.alerts.filter q = db.alerts.filter q
  decisions : ∀ q : AlertDecision → Bool, (∀ d, K d.policy_id d.source_subject_id → q d = false) →
    db'.decisions.any q = db.decisions.any q

namespace Frame

variable {K K' : String → ℕ → Prop} {db db' db'' : AlertingDb} {policy_id : String} {subject : ℕ}

theorem refl (K : String → ℕ → Prop) (db : AlertingDb) : Frame K db db :=
  ⟨rfl, rfl, fun _ _ => rfl, fun _ _ => rfl⟩

theorem trans (h : Frame K db db') (h' : Frame K db' db'') : Frame K db db'' where
  versions := h'.versions.trans h.versions
  effective := h'.effective.trans h.effective
  alerts q hq := (h'.alerts q hq).trans (h.alerts q hq)
  decisions q hq := (h'.decisions q hq).trans (h.decisions q hq)

theorem mono (h : Frame K db db') (hK : ∀ policy_id subject, K policy_id subject → K' policy_id subject) :
    Frame K' db db' where
  versions := h.versions
  effective := h.effective
  alerts q hq := h.alerts q fun a ha => hq a (hK _ _ ha)
  decisions q hq := h.decisions q fun d hd => hq d (hK _ _ hd)

theorem activeAlerts_eq (h : Frame K db db') (hK : ¬K policy_id subject) :
    activeAlerts db' policy_id subject = activeAlerts db policy_id subject :=
  h.alerts _ fun a ha => by
    simp only [decide_eq_false_iff_not]
    rintro ⟨rfl, -, rfl, -⟩
    exact hK ha

theorem decided_eq (h : Frame K db db') (hK : ¬K policy_id subject) (revision : ℕ) (effect : EffectKind) :
    decided db' policy_id subject revision effect = decided db policy_id subject revision effect :=
  h.decisions _ fun d hd => by
    simp only [decide_eq_false_iff_not]
    rintro ⟨rfl, -, rfl, -⟩
    exact hK hd

theorem resolveDecided_eq (h : Frame K db db') (hK : ¬K policy_id subject) (revision : ℕ) :
    resolveDecided db' policy_id subject revision = resolveDecided db policy_id subject revision :=
  h.decisions _ fun d hd => by
    simp only [decide_eq_false_iff_not]
    rintro ⟨rfl, rfl, -⟩
    exact hK hd

theorem openAlerts_eq (h : Frame K db db') (hK : ∀ subject, ¬K policy_id subject) (source_id : String) :
    openAlerts db' policy_id source_id = openAlerts db policy_id source_id :=
  h.alerts _ fun a ha => by
    simp only [decide_eq_false_iff_not]
    rintro ⟨rfl, -⟩
    exact hK _ ha

end Frame

/-- The policy and the problem of an effect are in `K`. -/
def Effect.Within (K : String → ℕ → Prop) : Effect → Prop
  | .create v p => K v.policy_id p.problem_id
  | .resolve a _ _ => K a.policy_id a.source_subject_id
  | .skip => True

/-- An effect leaves the other policies and problems alone. -/
theorem AlertsSound.frame {m : MonitoringDb} {source_id generation : String} {now : Timestamp} {s : EvaluationState}
    {K : String → ℕ → Prop} {e : Effect} (h : AlertsSound m s.1) (he : e.Admitted m source_id s.1)
    (hK : e.Within K) : Frame K s.1 (e.apply now source_id generation s).1 := by
  cases he with
  | @create v p hp hact hsrc hnone =>
    refine ⟨rfl, rfl, fun q hq => ?_, fun q hq => ?_⟩
    · have hnew : q (openedAlert source_id generation v p s.1.nextId) = false := hq _ hK
      simp [Effect.apply, AlertingDb.created, List.filter_append, hnew]
    · simp only [Effect.apply, AlertingDb.created, List.any_append, List.any_cons, List.any_nil, Bool.or_false]
      rw [hq, Bool.or_false]
      exact hK
  | @resolve a revision summary p ha hact hp hid hrev =>
    refine ⟨rfl, rfl, fun q hq => ?_, fun q hq => ?_⟩
    · refine filter_updateWhere fun r hr hra => ?_
      rw [h.eq_of_id hr ha (of_decide_eq_true hra)]
      exact ⟨hq a hK, hq _ hK⟩
    · simp only [Effect.apply, AlertingDb.resolved, List.any_append, List.any_cons, List.any_nil, Bool.or_false]
      rw [hq, Bool.or_false]
      exact hK
  | skip => exact .refl K s.1

/-! ### The plan -/

/-- What the tables call for at a current problem. -/
def planProblem (v : ProblemPolicy) (opened : List Alert) (db : AlertingDb) (p : MonitoringProblem) : Option Effect :=
  match v.matchesProblem p, opened.find? fun a => a.source_subject_id = p.problem_id with
  | true, none =>
    if decided db v.policy_id p.problem_id p.projection_revision .create then some .skip else some (.create v p)
  | false, some a =>
    if decided db v.policy_id p.problem_id p.projection_revision .resolve then some .skip
    else some (.resolve a p.projection_revision
      ⟨p.problem_id, some p.severity_class, some p.projection_revision, some "condition_no_longer_matches"⟩)
  | _, _ => none

/-- What the tables call for at an open alert. -/
def planOpen (m : MonitoringDb) (problems : List MonitoringProblem) (db : AlertingDb) (a : Alert) : Option Effect :=
  if problems.any fun p => p.problem_id = a.source_subject_id then none
  else if resolveDecided db a.policy_id a.source_subject_id (lastRevision m a.source_subject_id) then none
  else some (.resolve a (lastRevision m a.source_subject_id)
    ⟨a.source_subject_id, none, none, some "problem_no_longer_active_current"⟩)

/-- What the tables call for under a policy. -/
def planPolicy (m : MonitoringDb) (source_id generation : String) (db : AlertingDb) (v : ProblemPolicy) :
    List Effect :=
  if selects v.monitoring_source_id source_id then
    let problems := currentProblems m source_id generation
    let opened := openAlerts db v.policy_id source_id
    (problems.flatMap fun p => (planProblem v opened db p).toList) ++
      opened.flatMap fun a => (planOpen m problems db a).toList
  else []

/-- What an evaluation does. -/
def plan (m : MonitoringDb) (source_id generation : String) (db : AlertingDb) : List Effect :=
  (effectiveProblemPolicies db).flatMap (planPolicy m source_id generation db)

theorem planProblem_frame {K : String → ℕ → Prop} {db db' : AlertingDb} {v : ProblemPolicy} (h : Frame K db db')
    (hK : ¬K v.policy_id p.problem_id) (opened : List Alert) :
    planProblem v opened db' p = planProblem v opened db p := by
  simp only [planProblem, h.decided_eq hK]

theorem planOpen_frame {K : String → ℕ → Prop} {m : MonitoringDb} {problems : List MonitoringProblem}
    {db db' : AlertingDb} (h : Frame K db db') (hK : ¬K a.policy_id a.source_subject_id) :
    planOpen m problems db' a = planOpen m problems db a := by
  simp only [planOpen, h.resolveDecided_eq hK]

section Rounds

variable {m : MonitoringDb} {source_id : String} {v : ProblemPolicy}

/-- An open alert of a problem of the source is an active alert of it, whatever its source. -/
theorem AlertsSound.find_openAlerts {db : AlertingDb} (h : AlertsSound m db) (hm : m.Sound) (hp : p ∈ m.problems)
    (hsrc : p.monitoring_source_id = source_id) :
    match (openAlerts db v.policy_id source_id).find? fun a => a.source_subject_id = p.problem_id with
    | none => activeAlerts db v.policy_id p.problem_id = []
    | some a => a ∈ activeAlerts db v.policy_id p.problem_id := by
  split
  · next hf =>
    refine List.eq_nil_iff_forall_not_mem.2 fun a ha => ?_
    obtain ⟨hmem, hpol, hkind, hsub, hst⟩ := mem_activeAlerts.1 ha
    have hown := (h.source_eq hm hmem hp hsub.symm).1.trans hsrc
    simpa [hsub] using List.find?_eq_none.1 hf a (mem_openAlerts.2 ⟨hmem, hpol, hkind, hown, hst⟩)
  · next a hf =>
    obtain ⟨hmem, hpol, hkind, -, hst⟩ := mem_openAlerts.1 (List.mem_of_find?_eq_some hf)
    exact mem_activeAlerts.2 ⟨hmem, hpol, hkind, by simpa using List.find?_some hf, hst⟩

variable {s : EvaluationState}

/-- At most one admitted effect keeps the alerts sound and leaves the rest alone. -/
theorem AlertsSound.apply_option (now : Timestamp) (generation : String) (hm : m.Sound) (h : AlertsSound m s.1)
    {K : String → ℕ → Prop} {o : Option Effect} (ho : ∀ e, o = some e → e.Admitted m source_id s.1 ∧ e.Within K) :
    AlertsSound m (o.toList.foldl (Effect.apply now source_id generation) s).1 ∧
      Frame K s.1 (o.toList.foldl (Effect.apply now source_id generation) s).1 := by
  cases o with
  | none => exact ⟨h, .refl K s.1⟩
  | some e => exact ⟨h.apply hm (ho e rfl).1, h.frame (ho e rfl).1 (ho e rfl).2⟩

/-- The round of a current problem is planned, where its alerts are as they were fetched. -/
theorem evaluateProblem_planned (now : Timestamp) (generation : String) (hm : m.Sound) {db₀ : AlertingDb}
    (h₀ : AlertsSound m db₀) (h : AlertsSound m s.1) (hp : p ∈ m.problems) (hact : p.status = .active)
    (hsrc : p.monitoring_source_id = source_id)
    (hopen : activeAlerts s.1 v.policy_id p.problem_id = activeAlerts db₀ v.policy_id p.problem_id) :
    evaluateProblem now source_id generation v (openAlerts db₀ v.policy_id source_id) s p =
        .ok ((planProblem v (openAlerts db₀ v.policy_id source_id) s.1 p).toList.foldl
          (Effect.apply now source_id generation) s) ∧
      ∀ e, planProblem v (openAlerts db₀ v.policy_id source_id) s.1 p = some e →
        e.Admitted m source_id s.1 ∧
          e.Within fun policy_id subject => policy_id = v.policy_id ∧ subject = p.problem_id := by
  have hfound := h₀.find_openAlerts (v := v) hm hp hsrc
  have hpos := hm.positive p hp
  unfold evaluateProblem planProblem
  cases hmatch : v.matchesProblem p <;>
    cases hf : (openAlerts db₀ v.policy_id source_id).find? fun a => a.source_subject_id = p.problem_id
  · exact ⟨rfl, fun e he => by cases he⟩
  · -- no match any more, and an open alert
    next a =>
    rw [hf] at hfound
    rw [← hopen] at hfound
    obtain ⟨hmem, hpol, -, hsub, hst⟩ := mem_activeAlerts.1 hfound
    dsimp only
    split_ifs with hdec
    · exact ⟨rfl, fun e he => by cases he; exact ⟨.skip, trivial⟩⟩
    · have hdec' : decided s.1 a.policy_id a.source_subject_id p.projection_revision .resolve = false := by
        rw [hpol, hsub]
        simpa using hdec
      rw [resolveOccurrence_eq hpos (fun b hb hid => ?_) hdec']
      · refine ⟨rfl, fun e he => ?_⟩
        cases he
        exact ⟨.resolve hmem hst hp hsub.symm rfl, hpol, hsub⟩
      · rw [h.eq_of_id hb hmem hid]
        exact (h.source_eq hm hmem hp hsub.symm).2
  · -- a match, and no open alert
    rw [hf] at hfound
    rw [← hopen] at hfound
    dsimp only
    split_ifs with hdec
    · exact ⟨rfl, fun e he => by cases he; exact ⟨.skip, trivial⟩⟩
    · rw [openOccurrence_eq hpos hfound (by simpa using hdec)]
      refine ⟨rfl, fun e he => ?_⟩
      cases he
      exact ⟨.create hp hact hsrc hfound, rfl, rfl⟩
  · exact ⟨rfl, fun e he => by cases he⟩

/-- The round of an open alert is planned. -/
theorem evaluateOpen_planned (now : Timestamp) (source_id generation : String) (hm : m.Sound) (h : AlertsSound m s.1)
    {problems : List MonitoringProblem} (ha : (problems.any fun p => p.problem_id = a.source_subject_id) = false →
      a ∈ activeAlerts s.1 v.policy_id a.source_subject_id) :
    evaluateOpen now m problems s a =
        .ok ((planOpen m problems s.1 a).toList.foldl (Effect.apply now source_id generation) s) ∧
      ∀ e, planOpen m problems s.1 a = some e → e.Admitted m source_id s.1 ∧
        e.Within fun policy_id subject => policy_id = v.policy_id ∧ subject = a.source_subject_id := by
  unfold evaluateOpen planOpen
  dsimp only
  split_ifs with hcur hdec
  · exact ⟨rfl, fun e he => by cases he⟩
  · exact ⟨rfl, fun e he => by cases he⟩
  · obtain ⟨hmem, hpol, -, -, hst⟩ := mem_activeAlerts.1 (ha (by simpa using hcur))
    obtain ⟨p, hp, hid, -, hrev⟩ := h.subject a hmem
    have hlast : lastRevision m a.source_subject_id = p.projection_revision := hid ▸ lastRevision_eq hm hp
    rw [resolveOccurrence_eq (hlast ▸ hm.positive p hp) (fun b hb hbid => ?_)
      (decided_of_resolveDecided (by simpa using hdec))]
    · refine ⟨rfl, fun e he => ?_⟩
      cases he
      exact ⟨.resolve hmem hst hp hid hlast, hpol, rfl⟩
    · rw [h.eq_of_id hb hmem hbid, hlast]
      exact hrev

end Rounds

/-! ### The loops -/

section Loops

variable {m : MonitoringDb} (now : Timestamp) (source_id generation : String)

variable {s : EvaluationState}

/-- The loop over the current problems is planned. -/
theorem problems_planned (hm : m.Sound) (v : ProblemPolicy) (h : AlertsSound m s.1) :
    let problems := currentProblems m source_id generation
    let opened := openAlerts s.1 v.policy_id source_id
    let s' := (problems.flatMap fun p => (planProblem v opened s.1 p).toList).foldl
      (Effect.apply now source_id generation) s
    problems.foldlM (evaluateProblem now source_id generation v opened) s = .ok s' ∧ AlertsSound m s'.1 ∧
      Frame (fun policy_id subject => policy_id = v.policy_id ∧ ∃ p ∈ problems, p.problem_id = subject) s.1 s'.1 := by
  intro problems opened
  refine foldlM_planned (g := fun s' p => (planProblem v opened s'.1 p).toList)
    (I := fun s' : EvaluationState => AlertsSound m s'.1 ∧
      Frame (fun policy_id subject => policy_id = v.policy_id ∧ ∃ p ∈ problems, p.problem_id = subject) s.1 s'.1)
    (P := fun s' p => p ∈ problems ∧
      activeAlerts s'.1 v.policy_id p.problem_id = activeAlerts s.1 v.policy_id p.problem_id)
    (R := fun p q => p.problem_id ≠ q.problem_id) ?_ ?_ ?_ ⟨h, .refl _ _⟩ fun p hp => ⟨hp, rfl⟩
  · rintro s' p ⟨h', hframe⟩ ⟨hp, hopen⟩
    obtain ⟨hmem, hsrc, hact, -⟩ := mem_currentProblems.1 hp
    obtain ⟨hround, hadm⟩ := evaluateProblem_planned now generation hm h h' hmem hact hsrc hopen
    obtain ⟨hsound, hframe'⟩ := h'.apply_option now generation hm hadm
    exact ⟨hround, hsound, hframe.trans (hframe'.mono fun policy_id subject hK => ⟨hK.1, p, hp, hK.2.symm⟩)⟩
  · rintro s' p q ⟨h', hframe⟩ ⟨hp, hopen⟩ ⟨hq, hopen'⟩ hne
    obtain ⟨hmem, hsrc, hact, -⟩ := mem_currentProblems.1 hp
    have hadm := (evaluateProblem_planned now generation hm h h' hmem hact hsrc hopen).2
    have hframe' := (h'.apply_option now generation hm hadm).2
    have hK : ¬(v.policy_id = v.policy_id ∧ q.problem_id = p.problem_id) := fun hK => hne hK.2.symm
    exact ⟨⟨hq, (hframe'.activeAlerts_eq hK).trans hopen'⟩, congrArg Option.toList (planProblem_frame hframe' hK _)⟩
  · have hnd : (problems.map MonitoringProblem.problem_id).Nodup :=
      hm.problem_ids.sublist (List.filter_sublist.map _)
    exact List.pairwise_map.1 hnd

/-- The loop over the open alerts is planned, where the alerts of disappeared problems are still there. -/
theorem opened_planned (hm : m.Sound) (v : ProblemPolicy) {problems : List MonitoringProblem} {opened : List Alert}
    (h : AlertsSound m s.1) (hopened : opened.Pairwise fun a b =>
      a.source_subject_id ≠ b.source_subject_id)
    (hactive : ∀ a ∈ opened, (problems.any fun p => p.problem_id = a.source_subject_id) = false →
      a ∈ activeAlerts s.1 v.policy_id a.source_subject_id) :
    let s' := (opened.flatMap fun a => (planOpen m problems s.1 a).toList).foldl
      (Effect.apply now source_id generation) s
    opened.foldlM (evaluateOpen now m problems) s = .ok s' ∧ AlertsSound m s'.1 ∧
      Frame (fun policy_id _ => policy_id = v.policy_id) s.1 s'.1 := by
  refine foldlM_planned (g := fun s' a => (planOpen m problems s'.1 a).toList)
    (I := fun s' : EvaluationState => AlertsSound m s'.1 ∧ Frame (fun policy_id _ => policy_id = v.policy_id) s.1 s'.1)
    (P := fun s' a => (problems.any fun p => p.problem_id = a.source_subject_id) = false →
      a ∈ activeAlerts s'.1 v.policy_id a.source_subject_id)
    (R := fun a b => a.source_subject_id ≠ b.source_subject_id) ?_ ?_ hopened ⟨h, .refl _ _⟩ hactive
  · rintro s' a ⟨h', hframe⟩ ha
    obtain ⟨hround, hadm⟩ := evaluateOpen_planned now source_id generation hm h' ha
    obtain ⟨hsound, hframe'⟩ := h'.apply_option now generation hm hadm
    exact ⟨hround, hsound, hframe.trans (hframe'.mono fun _ _ hK => hK.1)⟩
  · rintro s' a b ⟨h', hframe⟩ ha hb hne
    have hadm := (evaluateOpen_planned now source_id generation hm h' ha).2
    have hframe' := (h'.apply_option now generation hm hadm).2
    have hK : ∀ policy_id, ¬(policy_id = v.policy_id ∧ b.source_subject_id = a.source_subject_id) :=
      fun _ hK => hne hK.2.symm
    refine ⟨fun hcur => ?_, congrArg Option.toList (planOpen_frame hframe' (hK _))⟩
    rw [hframe'.activeAlerts_eq (hK _)]
    exact hb hcur

/-- A policy is evaluated by its plan. -/
theorem evaluatePolicy_planned (hm : m.Sound) (v : ProblemPolicy) (h : AlertsSound m s.1) :
    let s' := (planPolicy m source_id generation s.1 v).foldl (Effect.apply now source_id generation) s
    evaluatePolicy now m source_id generation s v = .ok s' ∧ AlertsSound m s'.1 ∧
      Frame (fun policy_id _ => policy_id = v.policy_id) s.1 s'.1 := by
  unfold evaluatePolicy planPolicy
  split_ifs with hsel
  · obtain ⟨hloop, hsound, hframe⟩ := problems_planned now source_id generation hm v h
    dsimp only at hloop hsound hframe ⊢
    rw [hloop, List.foldl_append]
    generalize List.foldl _ s _ = s₁ at hsound hframe ⊢
    have hnd : (openAlerts s.1 v.policy_id source_id).Nodup := (List.Nodup.of_map _ h.ids).filter _
    have hkeep : ∀ a ∈ openAlerts s.1 v.policy_id source_id,
        ((currentProblems m source_id generation).any fun p => p.problem_id = a.source_subject_id) = false →
        ∀ policy_id, ¬(policy_id = v.policy_id ∧
          ∃ p ∈ currentProblems m source_id generation, p.problem_id = a.source_subject_id) := by
      rintro a - hcur policy_id ⟨-, p, hp, hid⟩
      simp only [List.any_eq_false, decide_eq_true_eq] at hcur
      exact hcur p hp hid
    obtain ⟨hloop', hsound', hframe'⟩ := opened_planned now source_id generation hm v hsound
      (hnd.pairwise_of_forall_ne fun a ha b hb hne hsub => by
        obtain ⟨ha, hpol, -, -, hst⟩ := mem_openAlerts.1 ha
        obtain ⟨hb, hpol', -, -, hst'⟩ := mem_openAlerts.1 hb
        exact hne (h.single a ha b hb hst hst' (hpol.trans hpol'.symm) hsub))
      (fun a ha hcur => by
        rw [hframe.activeAlerts_eq (hkeep a ha hcur _)]
        obtain ⟨ha, hpol, hkind, -, hst⟩ := mem_openAlerts.1 ha
        exact mem_activeAlerts.2 ⟨ha, hpol, hkind, rfl, hst⟩)
    have hplan : ((openAlerts s.1 v.policy_id source_id).flatMap fun a =>
          (planOpen m (currentProblems m source_id generation) s₁.1 a).toList) =
        (openAlerts s.1 v.policy_id source_id).flatMap fun a =>
          (planOpen m (currentProblems m source_id generation) s.1 a).toList := by
      refine List.flatMap_congr fun a ha => ?_
      cases hcur : (currentProblems m source_id generation).any fun p => p.problem_id = a.source_subject_id with
      | true => simp only [planOpen, hcur, if_true]
      | false => rw [planOpen_frame hframe (hkeep a ha hcur _)]
    rw [hplan] at hloop' hsound' hframe'
    exact ⟨hloop', hsound', (hframe.mono fun _ _ hK => hK.1).trans hframe'⟩
  · exact ⟨rfl, h, .refl _ _⟩

/-- Another policy does not change the plan of a policy. -/
theorem planPolicy_frame {db db' : AlertingDb} {v w : ProblemPolicy}
    (hframe : Frame (fun policy_id _ => policy_id = v.policy_id) db db') (hne : v.policy_id ≠ w.policy_id) :
    planPolicy m source_id generation db' w = planPolicy m source_id generation db w := by
  unfold planPolicy
  split_ifs
  · dsimp only
    rw [hframe.openAlerts_eq (fun _ => hne.symm)]
    congr 1
    · exact List.flatMap_congr fun p _ => congrArg Option.toList (planProblem_frame hframe hne.symm _)
    · refine List.flatMap_congr fun a ha => congrArg Option.toList (planOpen_frame hframe fun hK => hne ?_)
      exact hK.symm.trans (mem_openAlerts.1 ha).2.1
  · rfl

/-- Each policy has one effective version. -/
theorem effectiveProblemPolicies_pairwise {db : AlertingDb} (h : PoliciesSound db) :
    (effectiveProblemPolicies db).Pairwise fun v w => v.policy_id ≠ w.policy_id := by
  have hkeep : ∀ v w, AlertPolicyVersion.problemPolicy v = some w → w.policy_id = v.policy_id := by
    intro v w hw
    unfold AlertPolicyVersion.problemPolicy at hw
    split at hw
    · cases hw
      rfl
    · cases hw
  have hnd : db.versions.Nodup := List.Nodup.of_map _ h.version_keys
  refine List.Pairwise.filterMap _ (R := fun v w => v.policy_id ≠ w.policy_id) (fun v w hne v' hv w' hw => ?_)
    ((hnd.filter _).pairwise_of_forall_ne fun v hv w hw hne hpol => hne ?_)
  · rw [hkeep v v' hv, hkeep w w' hw]
    exact hne
  · simp only [List.mem_filter, decide_eq_true_eq, List.any_eq_true] at hv hw
    obtain ⟨hv, -, e, he, hep, hev, -⟩ := hv
    obtain ⟨hw, -, e', he', hep', hev', -⟩ := hw
    have hee' : e = e' := eq_of_key h.pointers he he' (by rw [hep, hep', hpol])
    refine eq_of_key h.version_keys hv hw ?_
    rw [hpol, ← hev, ← hev', hee']

/-- From sound tables an evaluation of a current source never raises, and is its plan. -/
theorem evaluate_planned (hm : m.Sound) {db : AlertingDb} (hp : PoliciesSound db) (h : AlertsSound m db)
    (hgen : currentGeneration m source_id = some generation) :
    let s' := (plan m source_id generation db).foldl (Effect.apply now source_id generation) (db, .zero)
    evaluate_problem_policies now source_id m db = .ok s' ∧ AlertsSound m s'.1 ∧
      Frame (fun _ _ => True) db s'.1 := by
  unfold evaluate_problem_policies
  simp only [hgen]
  refine foldlM_planned (f := evaluatePolicy now m source_id generation)
    (g := fun s' v => planPolicy m source_id generation s'.1 v) (k := Effect.apply now source_id generation)
    (I := fun s' : EvaluationState => AlertsSound m s'.1 ∧ Frame (fun _ _ => True) db s'.1)
    (P := fun _ _ => True) (R := fun v w => v.policy_id ≠ w.policy_id) (s := (db, EvaluationStats.zero)) ?_ ?_
    (effectiveProblemPolicies_pairwise hp) ⟨h, .refl _ _⟩ fun _ _ => trivial
  · rintro s v ⟨h, hframe⟩ -
    obtain ⟨hround, hsound, hframe'⟩ := evaluatePolicy_planned now source_id generation hm v h
    exact ⟨hround, hsound, hframe.trans (hframe'.mono fun _ _ _ => trivial)⟩
  · rintro s v w ⟨h, -⟩ - - hne
    obtain ⟨-, -, hframe⟩ := evaluatePolicy_planned now source_id generation hm v h
    exact ⟨trivial, planPolicy_frame source_id generation hframe hne⟩

end Loops

/-! ### Every run keeps the tables sound -/

/-- The alerts stay sound where only policies change. -/
theorem AlertsSound.congr {m : MonitoringDb} {db db' : AlertingDb} (h : AlertsSound m db)
    (ha : db'.alerts = db.alerts) (hd : db'.decisions = db.decisions) (hn : db'.nextId = db.nextId) :
    AlertsSound m db' where
  ids := by rw [ha]; exact h.ids
  drawn := by rw [ha, hn]; exact h.drawn
  kinds := by rw [ha]; exact h.kinds
  single := by rw [ha]; exact h.single
  subject := by rw [ha]; exact h.subject
  recorded := by rw [hd]; exact h.recorded
  unresolved := by
    simp only [resolveDecided, ha, hd]
    exact h.unresolved

/-- A new version number is above all others of its policy. -/
theorem lt_nextVersion {db : AlertingDb} {v : AlertPolicyVersion} (hv : v ∈ db.versions) :
    v.policy_version < db.nextVersion v.policy_id := by
  have hle : ∀ l : List ℕ, ∀ n ∈ l, n ≤ l.foldr max 0 := by
    intro l
    induction l with
    | nil => simp
    | cons k l ih =>
      intro n hn
      rw [List.foldr_cons]
      rcases List.mem_cons.1 hn with rfl | hn
      · exact le_max_left _ _
      · exact (ih n hn).trans (le_max_right _ _)
  refine Nat.lt_succ_of_le (hle _ _ (List.mem_map.2 ⟨v, List.mem_filter.2 ⟨hv, by simp⟩, rfl⟩))

theorem pointTo_nodup {e : EffectiveVersion} {rows : List EffectiveVersion}
    (h : (rows.map EffectiveVersion.policy_id).Nodup) : ((pointTo e rows).map EffectiveVersion.policy_id).Nodup := by
  unfold pointTo
  split_ifs with hany
  · have hmap : (updateWhere (fun r => r.policy_id = e.policy_id) (fun _ => e) rows).map EffectiveVersion.policy_id =
        rows.map EffectiveVersion.policy_id := by
      rw [updateWhere, List.map_map]
      refine List.map_congr_left fun r _ => ?_
      simp only [Function.comp_apply, decide_eq_true_eq]
      split_ifs with hr
      · exact hr.symm
      · rfl
    rw [hmap]
    exact h
  · simp only [List.any_eq_true, decide_eq_true_eq, not_exists, not_and] at hany
    rw [List.map_append, List.map_singleton, List.nodup_append]
    refine ⟨h, List.nodup_singleton _, fun i hi j hj => ?_⟩
    obtain ⟨r, hr, rfl⟩ := List.mem_map.1 hi
    rw [List.mem_singleton.1 hj]
    exact hany r hr

theorem supersede_keys (now : Timestamp) (q : AlertPolicyVersion → Bool) (rows : List AlertPolicyVersion) :
    ((supersede now q rows).map fun v => (v.policy_id, v.policy_version)) =
      rows.map fun v => (v.policy_id, v.policy_version) :=
  map_updateWhere (f := fun v : AlertPolicyVersion => { v with superseded_at := some now })
    (k := fun v => (v.policy_id, v.policy_version)) (fun _ => rfl) rows

theorem PoliciesSound.makeEffective {db : AlertingDb} (h : PoliciesSound db) (now : Timestamp) (policy_id : String)
    (version : ℕ) : PoliciesSound (db.makeEffective now policy_id version) where
  version_keys := by
    unfold AlertingDb.makeEffective
    dsimp only
    split
    · rw [supersede_keys]
      exact h.version_keys
    · exact h.version_keys
  pointers := pointTo_nodup h.pointers

/-- A new version is added, and possibly made effective; the alerts stay as they are. -/
theorem create_policy_version_sound {now : Timestamp} {body : PolicyVersionCreate} {db : AlertingDb}
    {r : PolicyVersionCreated × AlertingDb} (h : PoliciesSound db) (hok : create_policy_version now body db = .ok r) :
    PoliciesSound r.2 ∧ r.2.alerts = db.alerts ∧ r.2.decisions = db.decisions ∧ r.2.nextId = db.nextId := by
  obtain ⟨condition, -, hok⟩ := bind_ok_iff.1 hok
  rw [← Except.ok.inj hok]
  have hadded : ∀ row : AlertPolicyVersion, row.policy_id = body.policy_id →
      row.policy_version = db.nextVersion body.policy_id →
      ∀ policies, PoliciesSound { db with policies := policies, versions := db.versions ++ [row] } := by
    intro row hpol hver policies
    refine ⟨?_, h.pointers⟩
    rw [List.map_append, List.map_singleton, List.nodup_append]
    refine ⟨h.version_keys, List.nodup_singleton _, fun i hi j hj hij => ?_⟩
    obtain ⟨v, hv, rfl⟩ := List.mem_map.1 hi
    rw [List.mem_singleton.1 hj, Prod.mk.injEq, hpol, hver] at hij
    have := lt_nextVersion hv
    rw [hij.1, hij.2] at this
    exact lt_irrefl _ this
  have heffective : ∀ db₁, PoliciesSound db₁ →
      let db₂ := if body.make_effective then
        AlertingDb.makeEffective now body.policy_id (db.nextVersion body.policy_id) db₁ else db₁
      PoliciesSound db₂ ∧ db₂.alerts = db₁.alerts ∧ db₂.decisions = db₁.decisions ∧ db₂.nextId = db₁.nextId := by
    intro db₁ h₁
    split_ifs
    · exact ⟨h₁.makeEffective now _ _, rfl, rfl, rfl⟩
    · exact ⟨h₁, rfl, rfl, rfl⟩
  exact heffective _ (hadded _ rfl rfl _)

theorem set_effective_version_sound {now : Timestamp} {policy_id : String} {body : EffectiveSet} {db : AlertingDb}
    {r : EffectiveVersion × AlertingDb} (h : PoliciesSound db)
    (hok : set_effective_version now policy_id body db = .ok r) :
    PoliciesSound r.2 ∧ r.2.alerts = db.alerts ∧ r.2.decisions = db.decisions ∧ r.2.nextId = db.nextId := by
  unfold set_effective_version at hok
  split at hok
  · cases hok
  · split_ifs at hok
    rw [← Except.ok.inj hok]
    refine ⟨⟨?_, pointTo_nodup h.pointers⟩, rfl, rfl, rfl⟩
    rw [supersede_keys]
    exact h.version_keys

theorem evaluate_gated {m : MonitoringDb} {source_id : String} (hgen : currentGeneration m source_id = none)
    (now : Timestamp) (db : AlertingDb) :
    evaluate_problem_policies now source_id m db = .ok (db, ⟨0, 0, 0, some "source_not_current"⟩) := by
  simp only [evaluate_problem_policies, hgen]

theorem evaluate_sound {m : MonitoringDb} (hm : m.Sound) {db : AlertingDb} (hp : PoliciesSound db)
    (h : AlertsSound m db) {now : Timestamp} {source_id : String} {r : EvaluationState}
    (hok : evaluate_problem_policies now source_id m db = .ok r) : PoliciesSound r.1 ∧ AlertsSound m r.1 := by
  cases hgen : currentGeneration m source_id with
  | none =>
    rw [evaluate_gated hgen] at hok
    rw [← Except.ok.inj hok]
    exact ⟨hp, h⟩
  | some generation =>
    obtain ⟨hplan, hsound, hframe⟩ := evaluate_planned now source_id generation hm hp h hgen
    rw [← Except.ok.inj (hplan.symm.trans hok)]
    refine ⟨⟨?_, ?_⟩, hsound⟩
    · rw [hframe.versions]
      exact hp.version_keys
    · rw [hframe.effective]
      exact hp.pointers

theorem AlertingDb.orRollback_cases {ε α : Type*} {db : AlertingDb} {r : Except ε α} {tables : α → AlertingDb}
    {Q : AlertingDb → Prop} (h : Q db) (hok : ∀ a, r = .ok a → Q (tables a)) : Q (db.orRollback r tables) := by
  cases r with
  | ok a => exact hok a rfl
  | error e => exact h

/-- Every action keeps both schemas sound. -/
theorem System.Sound.step {s : System} (h : s.Sound) (a : SystemAction) : (s.step a).Sound := by
  have hrequest : ∀ db : AlertingDb, PoliciesSound db ∧ db.alerts = s.alerting.alerts ∧
      db.decisions = s.alerting.decisions ∧ db.nextId = s.alerting.nextId →
      System.Sound { s with alerting := db } := fun db hdb =>
    ⟨h.monitoring, hdb.1, h.alerts.congr hdb.2.1 hdb.2.2.1 hdb.2.2.2⟩
  cases a with
  | monitoring a =>
    have hmoves := step_moves h.monitoring a
    have hsound := hmoves.sound h.monitoring
    exact ⟨hsound, h.policies, h.alerts.evolves h.monitoring hsound (hmoves.evolves h.monitoring)⟩
  | createPolicyVersion now body =>
    exact AlertingDb.orRollback_cases (Q := fun db => System.Sound { s with alerting := db }) h fun r hok =>
      hrequest _ (create_policy_version_sound h.policies hok)
  | setEffectiveVersion now policy_id body =>
    exact AlertingDb.orRollback_cases (Q := fun db => System.Sound { s with alerting := db }) h fun r hok =>
      hrequest _ (set_effective_version_sound h.policies hok)
  | evaluate now source_id =>
    refine AlertingDb.orRollback_cases (Q := fun db => System.Sound { s with alerting := db }) h fun r hok => ?_
    obtain ⟨hp, ha⟩ := evaluate_sound h.monitoring h.policies h.alerts hok
    exact ⟨h.monitoring, hp, ha⟩

theorem System.exec_sound (bridge : BridgeVersion) (run : List SystemAction) : (System.exec bridge run).Sound := by
  induction run using List.reverseRecOn with
  | nil =>
    refine ⟨MonitoringDb.sound_empty bridge, ?_, ?_⟩ <;> constructor <;> simp [System.exec, AlertingDb.empty]
  | append_singleton run a ih =>
    rw [System.exec, List.foldl_append]
    exact ih.step a

end JLMirror.Alerting
