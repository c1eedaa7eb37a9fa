import JLMirror.Alerting.Occurrence
import JLMirror.Monitoring.ProblemReconciliation

/-!
# Currentness of alerts

What the alerts of a source say of its problems after an evaluation. The decision ledger is keyed
by policy, problem, revision and effect, and not by the version of the policy; and a problem that
is not in the current set may be resolved or only unconfirmed.

## What is proved

* **Key result** (`evaluation_exact_iff`): after an evaluation an alert is active exactly for the
  current problems that match, if and only if no effect that is due was recorded before.
* **Key result** (`currentness_law_iff`): an evaluation leaves alone the alerts of active problems
  without current evidence exactly if their resolution at this revision was recorded before.
* **Key result** (`no_stale_alert_iff`): no alert of a resolved problem stays active exactly if the
  policies of such alerts are in the scope of the evaluation.
* Each of the three conditions fails in a run (`flippedRun`, `agedRun`, `disabledRun`).
-/

namespace JLMirror.Alerting

open JLMirror.Foundations JLMirror.Monitoring

/-! ### Runs of effects -/

/-- The effect resolves the alert with this id. -/
def Effect.Resolves (alert_id : ℕ) : Effect → Prop
  | .resolve a _ _ => a.alert_id = alert_id
  | _ => False

section Effects

variable {now : Timestamp} {source_id generation : String} {s : EvaluationState} {es : List Effect}

theorem apply_nextId (e : Effect) : s.1.nextId ≤ (e.apply now source_id generation s).1.nextId := by
  cases e <;> simp [Effect.apply, AlertingDb.created, AlertingDb.resolved]

/-- An alert that no effect resolves stays as it is. -/
theorem mem_of_not_resolves {a : Alert} (ha : a ∈ s.1.alerts) (hno : ∀ e ∈ es, ¬e.Resolves a.alert_id) :
    a ∈ (es.foldl (Effect.apply now source_id generation) s).1.alerts := by
  induction es generalizing s with
  | nil => exact ha
  | cons e es ih =>
    refine ih ?_ fun e' he' => hno e' (List.mem_cons_of_mem e he')
    have hne := hno e List.mem_cons_self
    cases e with
    | create v p => exact List.mem_append_left _ ha
    | resolve b revision summary =>
      exact mem_updateWhere_of_not ha (decide_eq_false fun hid => hne (Eq.symm hid))
    | skip => exact ha

/-- Where an alert comes from: it was there before, and is as it was unless resolved; or it was created. -/
theorem alert_provenance {a : Alert} (ha : a ∈ (es.foldl (Effect.apply now source_id generation) s).1.alerts) :
    (∃ b ∈ s.1.alerts, b.alert_id = a.alert_id ∧ b.policy_id = a.policy_id ∧
        b.source_subject_id = a.source_subject_id ∧ (a.status = .active → a = b)) ∨
      ∃ v p, Effect.create v p ∈ es ∧ a.policy_id = v.policy_id ∧ a.source_subject_id = p.problem_id := by
  induction es generalizing s with
  | nil => exact Or.inl ⟨a, ha, rfl, rfl, rfl, fun _ => rfl⟩
  | cons e es ih =>
    rcases ih ha with ⟨b, hb, hid, hpol, hsub, hsame⟩ | ⟨v, p, hmem, hpol, hsub⟩
    · cases e with
      | create v p =>
        simp only [Effect.apply, AlertingDb.created, List.mem_append, List.mem_singleton] at hb
        rcases hb with hb | rfl
        · exact Or.inl ⟨b, hb, hid, hpol, hsub, hsame⟩
        · exact Or.inr ⟨v, p, List.mem_cons_self, hpol.symm, hsub.symm⟩
      | resolve c revision summary =>
        rcases mem_resolved hb with ⟨hb, -⟩ | ⟨r, hr, -, rfl⟩
        · exact Or.inl ⟨b, hb, hid, hpol, hsub, hsame⟩
        · refine Or.inl ⟨r, hr, hid, hpol, hsub, fun hst => ?_⟩
          rw [hsame hst] at hst
          cases hst
      | skip => exact Or.inl ⟨b, hb, hid, hpol, hsub, hsame⟩
    · exact Or.inr ⟨v, p, List.mem_cons_of_mem e hmem, hpol, hsub⟩

/-- A created occurrence is active at the end, where the effects resolve only alerts from before. -/
theorem created_active {v : ProblemPolicy} {p : MonitoringProblem} (hmem : Effect.create v p ∈ es)
    (hold : ∀ e ∈ es, ∀ id, e.Resolves id → id < s.1.nextId) :
    activeAlerts (es.foldl (Effect.apply now source_id generation) s).1 v.policy_id p.problem_id ≠ [] := by
  induction es generalizing s with
  | nil => cases hmem
  | cons e es ih =>
    have hrest : ∀ e' ∈ es, ∀ id, e'.Resolves id → id < s.1.nextId := fun e' he' =>
      hold e' (List.mem_cons_of_mem e he')
    rcases List.mem_cons.1 hmem with rfl | hmem
    · have hnew : openedAlert source_id generation v p s.1.nextId ∈
          ((Effect.create v p).apply now source_id generation s).1.alerts :=
        List.mem_append_right _ (List.mem_singleton.2 rfl)
      have hkept : openedAlert source_id generation v p s.1.nextId ∈ (es.foldl (Effect.apply now source_id generation)
          ((Effect.create v p).apply now source_id generation s)).1.alerts :=
        mem_of_not_resolves hnew fun e' he' hres => (hrest e' he' _ hres).false
      exact List.ne_nil_of_mem (mem_activeAlerts.2 ⟨hkept, rfl, rfl, rfl, rfl⟩)
    · exact ih hmem fun e' he' id hres => (hrest e' he' id hres).trans_le (apply_nextId e)

/-- A resolved alert is not active at the end. -/
theorem resolved_not_active {id : ℕ} (hid : id < s.1.nextId)
    (hres : (∃ e ∈ es, e.Resolves id) ∨ ∀ a ∈ s.1.alerts, a.alert_id = id → a.status ≠ .active) :
    ∀ a ∈ (es.foldl (Effect.apply now source_id generation) s).1.alerts, a.alert_id = id → a.status ≠ .active := by
  induction es generalizing s with
  | nil =>
    rcases hres with ⟨e, he, -⟩ | hres
    · cases he
    · exact hres
  | cons e es ih =>
    refine ih (hid.trans_le (apply_nextId e)) ?_
    by_cases hlater : ∃ e' ∈ es, e'.Resolves id
    · exact Or.inl hlater
    refine Or.inr fun a ha haid => ?_
    have hnow : e.Resolves id ∨ ∀ a ∈ s.1.alerts, a.alert_id = id → a.status ≠ .active := by
      rcases hres with ⟨e', he', hr⟩ | hres
      · rcases List.mem_cons.1 he' with rfl | he'
        · exact Or.inl hr
        · exact absurd ⟨e', he', hr⟩ hlater
      · exact Or.inr hres
    cases e with
    | create v p =>
      simp only [Effect.apply, AlertingDb.created, List.mem_append, List.mem_singleton] at ha
      rcases ha with ha | rfl
      · exact (hnow.resolve_left fun hr => hr) a ha haid
      · exact absurd haid hid.ne'
    | resolve c revision summary =>
      rcases mem_resolved ha with ⟨ha, hne⟩ | ⟨r, -, -, rfl⟩
      · refine (hnow.resolve_left fun hr => hne ?_) a ha haid
        exact haid.trans (Eq.symm hr)
      · intro hst
        cases hst
    | skip => exact (hnow.resolve_left fun hr => hr) a ha haid

/-- An alert from before that no effect resolves gets no transition and no decision. -/
theorem ledger_of_not_resolves {id : ℕ} (hid : id < s.1.nextId) (hno : ∀ e ∈ es, ¬e.Resolves id) :
    ((es.foldl (Effect.apply now source_id generation) s).1.transitions.filter fun t => t.alert_id = id) =
        s.1.transitions.filter (fun t => t.alert_id = id) ∧
      ((es.foldl (Effect.apply now source_id generation) s).1.decisions.filter fun d => d.alert_id = id) =
        s.1.decisions.filter fun d => d.alert_id = id := by
  induction es generalizing s with
  | nil => exact ⟨rfl, rfl⟩
  | cons e es ih =>
    obtain ⟨ht, hd⟩ := ih (hid.trans_le (apply_nextId e)) fun e' he' => hno e' (List.mem_cons_of_mem e he')
    rw [List.foldl_cons, ht, hd]
    have hne := hno e List.mem_cons_self
    cases e with
    | create v p => simp [Effect.apply, AlertingDb.created, List.filter_append, hid.ne']
    | resolve a revision summary =>
      have hne' : ¬a.alert_id = id := hne
      simp [Effect.apply, AlertingDb.resolved, List.filter_append, hne']
    | skip => exact ⟨rfl, rfl⟩

end Effects

/-! ### The plan, effect by effect -/

section Plan

variable {m : MonitoringDb} {db : AlertingDb} {source_id generation : String}

/-- A policy that an evaluation of the source looks at. -/
def InScope (db : AlertingDb) (source_id : String) (v : ProblemPolicy) : Prop :=
  v ∈ effectiveProblemPolicies db ∧ selects v.monitoring_source_id source_id = true

theorem mem_plan {e : Effect} : e ∈ plan m source_id generation db ↔ ∃ v, InScope db source_id v ∧
    ((∃ p ∈ currentProblems m source_id generation, planProblem v (openAlerts db v.policy_id source_id) db p = some e) ∨
      ∃ a ∈ openAlerts db v.policy_id source_id, planOpen m (currentProblems m source_id generation) db a = some e) := by
  rw [plan, List.mem_flatMap]
  constructor
  · rintro ⟨v, hv, he⟩
    unfold planPolicy at he
    split_ifs at he with hsel
    · simp only [List.mem_append, List.mem_flatMap, Option.mem_toList] at he
      exact ⟨v, ⟨hv, hsel⟩, he⟩
    · cases he
  · rintro ⟨v, ⟨hv, hsel⟩, he⟩
    refine ⟨v, hv, ?_⟩
    simp only [planPolicy, hsel, if_true, List.mem_append, List.mem_flatMap, Option.mem_toList]
    exact he

/-- Where the plan creates: a current problem that matches and has no active alert, with no creation recorded. -/
theorem mem_plan_create (hm : m.Sound) (h : AlertsSound m db) {v : ProblemPolicy} {p : MonitoringProblem} :
    Effect.create v p ∈ plan m source_id generation db ↔ InScope db source_id v ∧
      p ∈ currentProblems m source_id generation ∧ v.matchesProblem p = true ∧
        activeAlerts db v.policy_id p.problem_id = [] ∧
          decided db v.policy_id p.problem_id p.projection_revision .create = false := by
  rw [mem_plan]
  constructor
  · rintro ⟨w, hw, ⟨q, hq, he⟩ | ⟨a, -, he⟩⟩
    · obtain ⟨hmem, hsrc, -⟩ := mem_currentProblems.1 hq
      have hfound := h.find_openAlerts (v := w) hm hmem hsrc
      unfold planProblem at he
      split at he
      · next hmatch hf =>
        rw [hf] at hfound
        split_ifs at he with hdec
        · cases he
        · cases he
          exact ⟨hw, hq, hmatch, hfound, by simpa using hdec⟩
      · split_ifs at he <;> cases he
      · cases he
    · unfold planOpen at he
      split_ifs at he
      cases he
  · rintro ⟨hv, hp, hmatch, hnone, hdec⟩
    obtain ⟨hmem, hsrc, -⟩ := mem_currentProblems.1 hp
    have hfound := h.find_openAlerts (v := v) hm hmem hsrc
    refine ⟨v, hv, Or.inl ⟨p, hp, ?_⟩⟩
    unfold planProblem
    cases hf : (openAlerts db v.policy_id source_id).find? fun a => a.source_subject_id = p.problem_id with
    | none => simp [hmatch, hdec]
    | some a =>
      rw [hf, hnone] at hfound
      cases hfound

/-- Where the plan resolves: an open alert of a current problem that does not match, or of a problem
that is not current, with no resolution recorded. -/
theorem resolves_plan (hm : m.Sound) (h : AlertsSound m db) {a : Alert} (ha : a ∈ db.alerts)
    (hst : a.status = .active) : (∃ e ∈ plan m source_id generation db, e.Resolves a.alert_id) ↔
      a.monitoring_source_id = source_id ∧ ∃ v, InScope db source_id v ∧ v.policy_id = a.policy_id ∧
        ((∃ p ∈ currentProblems m source_id generation, p.problem_id = a.source_subject_id ∧
            v.matchesProblem p = false ∧
              decided db a.policy_id a.source_subject_id p.projection_revision .resolve = false) ∨
          (∀ p ∈ currentProblems m source_id generation, p.problem_id ≠ a.source_subject_id) ∧
            resolveDecided db a.policy_id a.source_subject_id (lastRevision m a.source_subject_id) = false) := by
  constructor
  · rintro ⟨e, he, hres⟩
    obtain ⟨v, hv, ⟨p, hp, he⟩ | ⟨b, hb, he⟩⟩ := mem_plan.1 he
    · obtain ⟨hmem, hsrc, -⟩ := mem_currentProblems.1 hp
      have hfound := h.find_openAlerts (v := v) hm hmem hsrc
      unfold planProblem at he
      split at he
      · split_ifs at he <;> cases he <;> cases hres
      · next b hmatch hf =>
        rw [hf] at hfound
        split_ifs at he with hdec
        · cases he
          cases hres
        · cases he
          obtain ⟨hb, hpol, -, hsub, -⟩ := mem_activeAlerts.1 hfound
          have hba : b = a := h.eq_of_id hb ha hres
          subst hba
          refine ⟨(h.source_eq hm hb hmem hsub.symm).1.trans hsrc, v, hv, hpol.symm, Or.inl ⟨p, hp, hsub.symm, hmatch, ?_⟩⟩
          rw [hpol, hsub]
          simpa using hdec
      · cases he
    · unfold planOpen at he
      split_ifs at he with hcur hdec
      cases he
      obtain ⟨hb', hpol, -, hown, -⟩ := mem_openAlerts.1 hb
      have hba : b = a := h.eq_of_id hb' ha hres
      subst hba
      refine ⟨hown, v, hv, hpol.symm, Or.inr ⟨?_, by simpa using hdec⟩⟩
      simpa using hcur
  · rintro ⟨hown, v, hv, hpol, hcase⟩
    have hopen : a ∈ openAlerts db v.policy_id source_id :=
      mem_openAlerts.2 ⟨ha, hpol.symm, h.kinds a ha, hown, hst⟩
    rcases hcase with ⟨p, hp, hid, hmatch, hdec⟩ | ⟨hgone, hdec⟩
    · obtain ⟨hmem, hsrc, -⟩ := mem_currentProblems.1 hp
      have hfound := h.find_openAlerts (v := v) hm hmem hsrc
      rw [← hpol, ← hid] at hdec
      cases hf : (openAlerts db v.policy_id source_id).find? fun b => b.source_subject_id = p.problem_id with
      | none => simpa [hid] using List.find?_eq_none.1 hf a hopen
      | some b =>
        rw [hf] at hfound
        obtain ⟨hb, hbpol, -, hsub, hbst⟩ := mem_activeAlerts.1 hfound
        have hba : b = a := h.single b hb a ha hbst hst (hbpol.trans hpol) (hsub.trans hid)
        have he : planProblem v (openAlerts db v.policy_id source_id) db p = some (.resolve b p.projection_revision
            ⟨p.problem_id, some p.severity_class, some p.projection_revision, some "condition_no_longer_matches"⟩) := by
          simp [planProblem, hmatch, hf, hdec]
        exact ⟨_, mem_plan.2 ⟨v, hv, Or.inl ⟨p, hp, he⟩⟩, congrArg Alert.alert_id hba⟩
    · have hany : ((currentProblems m source_id generation).any fun p => p.problem_id = a.source_subject_id) =
          false := by simpa using hgone
      have he : planOpen m (currentProblems m source_id generation) db a =
          some (.resolve a (lastRevision m a.source_subject_id)
            ⟨a.source_subject_id, none, none, some "problem_no_longer_active_current"⟩) := by
        simp [planOpen, hany, hdec]
      exact ⟨_, mem_plan.2 ⟨v, hv, Or.inr ⟨a, hopen, he⟩⟩, rfl⟩

end Plan

/-! ### After an evaluation -/

/-- The alerts of the current problems are exact: what matches has an active alert, and at most one. -/
structure Exact (m : MonitoringDb) (source_id generation : String) (after : AlertingDb) : Prop where
  active_iff : ∀ v, InScope after source_id v → ∀ p ∈ currentProblems m source_id generation,
    activeAlerts after v.policy_id p.problem_id ≠ [] ↔ v.matchesProblem p = true
  at_most_one : ∀ v, InScope after source_id v → ∀ p ∈ currentProblems m source_id generation,
    (activeAlerts after v.policy_id p.problem_id).length ≤ 1

/-- No effect that is due at a current problem is recorded already at the revision of the problem. -/
structure LedgerClear (m : MonitoringDb) (source_id generation : String) (before : AlertingDb) : Prop where
  create : ∀ v, InScope before source_id v → ∀ p ∈ currentProblems m source_id generation,
    v.matchesProblem p = true → activeAlerts before v.policy_id p.problem_id = [] →
      decided before v.policy_id p.problem_id p.projection_revision .create = false
  resolve : ∀ v, InScope before source_id v → ∀ p ∈ currentProblems m source_id generation,
    v.matchesProblem p = false → activeAlerts before v.policy_id p.problem_id ≠ [] →
      decided before v.policy_id p.problem_id p.projection_revision .resolve = false

/-- An evaluation respects the evidence: a source without current evidence is left alone, alerts are
created only for current problems, and an active alert whose problem is active without current
evidence stays active and gets no transition and no decision. -/
structure CurrentnessLaw (m : MonitoringDb) (source_id : String) (before after : AlertingDb) : Prop where
  gated : currentGeneration m source_id = none → after = before
  created : ∀ a ∈ after.alerts, (∀ b ∈ before.alerts, b.alert_id ≠ a.alert_id) → ∃ p ∈ m.problems,
    p.problem_id = a.source_subject_id ∧ p.status = .active ∧ p.evidence_state = .current
  aged : ∀ a ∈ before.alerts, a.status = .active → ∀ p ∈ m.problems, p.problem_id = a.source_subject_id →
    p.status = .active → p.evidence_state ≠ .current →
      a ∈ after.alerts ∧
        (after.transitions.filter fun t => t.alert_id = a.alert_id) =
            before.transitions.filter (fun t => t.alert_id = a.alert_id) ∧
          (after.decisions.filter fun d => d.alert_id = a.alert_id) =
            before.decisions.filter fun d => d.alert_id = a.alert_id

/-- Where the evidence of an open alert has aged, its resolution at this revision is recorded already. -/
def AgedDecided (m : MonitoringDb) (source_id : String) (before : AlertingDb) : Prop :=
  ∀ v, InScope before source_id v → ∀ a ∈ openAlerts before v.policy_id source_id, ∀ p ∈ m.problems,
    p.problem_id = a.source_subject_id → p.status = .active → p.evidence_state ≠ .current →
      resolveDecided before a.policy_id a.source_subject_id p.projection_revision = true

/-- No alert of the source is active whose problem is resolved. -/
def NoStaleAlert (m : MonitoringDb) (source_id : String) (after : AlertingDb) : Prop :=
  ∀ a ∈ after.alerts, a.source_kind = .monitoring_problem → a.monitoring_source_id = source_id →
    ∀ p ∈ m.problems, p.problem_id = a.source_subject_id → p.status ≠ .active → a.status ≠ .active

/-- The policy of every active alert of the source with a resolved problem is in scope. -/
def StaleInScope (m : MonitoringDb) (source_id : String) (before : AlertingDb) : Prop :=
  ∀ a ∈ before.alerts, a.status = .active → a.monitoring_source_id = source_id →
    ∀ p ∈ m.problems, p.problem_id = a.source_subject_id → p.status ≠ .active →
      ∃ v, InScope before source_id v ∧ v.policy_id = a.policy_id

section Laws

variable {m : MonitoringDb} {db : AlertingDb} {now : Timestamp} {source_id generation : String}

/-- The tables after the plan. -/
def planned (now : Timestamp) (m : MonitoringDb) (source_id generation : String) (db : AlertingDb) : AlertingDb :=
  ((plan m source_id generation db).foldl (Effect.apply now source_id generation) (db, .zero)).1

/-- The plan resolves only active alerts. -/
theorem resolves_active {e : Effect} {id : ℕ} (he : e ∈ plan m source_id generation db) (hres : e.Resolves id) :
    ∃ a ∈ db.alerts, a.status = .active ∧ a.alert_id = id := by
  obtain ⟨v, -, ⟨p, -, he⟩ | ⟨a, ha, he⟩⟩ := mem_plan.1 he
  · unfold planProblem at he
    split at he
    · split_ifs at he <;> cases he <;> cases hres
    · next a _ hf =>
      obtain ⟨hmem, -, -, -, hst⟩ := mem_openAlerts.1 (List.mem_of_find?_eq_some hf)
      split_ifs at he
      · cases he
        cases hres
      · cases he
        exact ⟨a, hmem, hst, hres⟩
    · cases he
  · obtain ⟨hmem, -, -, -, hst⟩ := mem_openAlerts.1 ha
    unfold planOpen at he
    split_ifs at he
    cases he
    exact ⟨a, hmem, hst, hres⟩

theorem AlertsSound.resolves_drawn (h : AlertsSound m db) :
    ∀ e ∈ plan m source_id generation db, ∀ id, e.Resolves id → id < db.nextId := by
  intro e he id hres
  obtain ⟨a, ha, -, rfl⟩ := resolves_active he hres
  exact h.drawn a ha

theorem InScope.eq (hp : PoliciesSound db) {v w : ProblemPolicy} (hv : InScope db source_id v)
    (hw : InScope db source_id w) (hpol : v.policy_id = w.policy_id) : v = w :=
  eq_of_key (List.pairwise_map.2 (effectiveProblemPolicies_pairwise hp)) hv.1 hw.1 hpol

/-- An active alert from before stays exactly if the plan does not resolve it. -/
theorem AlertsSound.mem_planned (h : AlertsSound m db) {a : Alert} (ha : a ∈ db.alerts) (hst : a.status = .active) :
    a ∈ (planned now m source_id generation db).alerts ↔
      ¬∃ e ∈ plan m source_id generation db, e.Resolves a.alert_id := by
  constructor
  · intro hmem hres
    exact resolved_not_active (s := (db, .zero)) (h.drawn a ha) (Or.inl hres) a hmem rfl hst
  · intro hno
    exact mem_of_not_resolves ha fun e he hres => hno ⟨e, he, hres⟩

/-- An active alert after the plan was there before, or was created for a problem without one. -/
theorem AlertsSound.active_planned (hm : m.Sound) (h : AlertsSound m db) {policy_id : String} {subject : ℕ} {a : Alert}
    (ha : a ∈ activeAlerts (planned now m source_id generation db) policy_id subject) :
    a ∈ activeAlerts db policy_id subject ∨ activeAlerts db policy_id subject = [] ∧ ∃ v p,
      InScope db source_id v ∧ p ∈ currentProblems m source_id generation ∧ v.policy_id = policy_id ∧
        p.problem_id = subject ∧ v.matchesProblem p = true ∧
          decided db policy_id subject p.projection_revision .create = false := by
  obtain ⟨hmem, hpol, hkind, hsub, hst⟩ := mem_activeAlerts.1 ha
  rcases alert_provenance hmem with ⟨b, hb, -, -, -, hsame⟩ | ⟨v, p, hcreate, hvpol, hpsub⟩
  · rw [← hsame hst] at hb
    exact Or.inl (mem_activeAlerts.2 ⟨hb, hpol, hkind, hsub, hst⟩)
  · obtain ⟨hv, hp, hmatch, hnone, hdec⟩ := (mem_plan_create hm h).1 hcreate
    have hvp : v.policy_id = policy_id := hvpol.symm.trans hpol
    have hps : p.problem_id = subject := hpsub.symm.trans hsub
    rw [hvp, hps] at hnone hdec
    exact Or.inr ⟨hnone, v, p, hv, hp, hvp, hps, hmatch, hdec⟩

theorem currentProblems_eq (hm : m.Sound) {p q : MonitoringProblem} (hp : p ∈ currentProblems m source_id generation)
    (hq : q ∈ currentProblems m source_id generation) (hid : p.problem_id = q.problem_id) : p = q :=
  eq_of_key hm.problem_ids (mem_currentProblems.1 hp).1 (mem_currentProblems.1 hq).1 hid

/-- The plan leaves a current problem with the right alerts exactly if the ledger does not stand in the way. -/
theorem exact_at_iff (hm : m.Sound) (hpol : PoliciesSound db) (h : AlertsSound m db) {v : ProblemPolicy}
    (hv : InScope db source_id v) {p : MonitoringProblem} (hp : p ∈ currentProblems m source_id generation) :
    (activeAlerts (planned now m source_id generation db) v.policy_id p.problem_id ≠ [] ↔ v.matchesProblem p = true) ↔
      (v.matchesProblem p = true → activeAlerts db v.policy_id p.problem_id = [] →
          decided db v.policy_id p.problem_id p.projection_revision .create = false) ∧
        (v.matchesProblem p = false → activeAlerts db v.policy_id p.problem_id ≠ [] →
          decided db v.policy_id p.problem_id p.projection_revision .resolve = false) := by
  -- what an alert after the plan says, where none was active before
  have hcreated : activeAlerts db v.policy_id p.problem_id = [] →
      activeAlerts (planned now m source_id generation db) v.policy_id p.problem_id ≠ [] →
      v.matchesProblem p = true ∧ decided db v.policy_id p.problem_id p.projection_revision .create = false := by
    intro hnone hne
    obtain ⟨a, ha⟩ := List.exists_mem_of_ne_nil _ hne
    rcases h.active_planned hm ha with ha | ⟨-, w, q, hw, hq, hwv, hqp, hmatch, hdec⟩
    · rw [hnone] at ha
      cases ha
    · rw [hw.eq hpol hv hwv, currentProblems_eq hm hq hp hqp] at hmatch
      rw [currentProblems_eq hm hq hp hqp] at hdec
      exact ⟨hmatch, hdec⟩
  -- when an alert that was active before is resolved
  have hresolved : ∀ a ∈ activeAlerts db v.policy_id p.problem_id,
      ((∃ e ∈ plan m source_id generation db, e.Resolves a.alert_id) ↔ v.matchesProblem p = false ∧
        decided db v.policy_id p.problem_id p.projection_revision .resolve = false) := by
    intro a ha
    obtain ⟨hmem, hapol, -, hasub, hst⟩ := mem_activeAlerts.1 ha
    obtain ⟨hpmem, hsrc, -⟩ := mem_currentProblems.1 hp
    rw [resolves_plan hm h hmem hst, hapol, hasub]
    constructor
    · rintro ⟨-, w, hw, hwv, ⟨q, hq, hqp, hmatch, hdec⟩ | ⟨hgone, -⟩⟩
      · rw [hw.eq hpol hv hwv, currentProblems_eq hm hq hp hqp] at hmatch
        rw [currentProblems_eq hm hq hp hqp] at hdec
        exact ⟨hmatch, hdec⟩
      · exact absurd rfl (hgone p hp)
    · rintro ⟨hmatch, hdec⟩
      exact ⟨(h.source_eq hm hmem hpmem hasub.symm).1.trans hsrc, v, hv, rfl, Or.inl ⟨p, hp, rfl, hmatch, hdec⟩⟩
  by_cases hnone : activeAlerts db v.policy_id p.problem_id = []
  · constructor
    · intro hexact
      exact ⟨fun hmatch _ => (hcreated hnone (hexact.2 hmatch)).2, fun _ hne => absurd hnone hne⟩
    · rintro ⟨hclear, -⟩
      refine ⟨fun hne => (hcreated hnone hne).1, fun hmatch => ?_⟩
      exact created_active ((mem_plan_create hm h).2 ⟨hv, hp, hmatch, hnone, hclear hmatch hnone⟩) h.resolves_drawn
  · obtain ⟨a, ha⟩ := List.exists_mem_of_ne_nil _ hnone
    obtain ⟨hmem, hapol, hkind, hasub, hst⟩ := mem_activeAlerts.1 ha
    have hkept : activeAlerts (planned now m source_id generation db) v.policy_id p.problem_id ≠ [] ↔
        ¬∃ e ∈ plan m source_id generation db, e.Resolves a.alert_id := by
      constructor
      · intro hne
        obtain ⟨b, hb⟩ := List.exists_mem_of_ne_nil _ hne
        obtain ⟨hb', -, -, -, hbst⟩ := mem_activeAlerts.1 hb
        rcases h.active_planned hm hb with hold | ⟨hnone', -⟩
        · obtain ⟨hbmem, hbpol, -, hbsub, -⟩ := mem_activeAlerts.1 hold
          rw [h.single b hbmem a hmem hbst hst (hbpol.trans hapol.symm) (hbsub.trans hasub.symm)] at hb'
          exact (h.mem_planned hmem hst).1 hb'
        · exact absurd hnone' hnone
      · intro hno
        exact List.ne_nil_of_mem (mem_activeAlerts.2 ⟨(h.mem_planned hmem hst).2 hno, hapol, hkind, hasub, hst⟩)
    rw [hkept, hresolved a ha]
    cases v.matchesProblem p <;> simp [hnone]

/-- At most one alert of a policy and a problem is active. -/
theorem AlertsSound.activeAlerts_length (h : AlertsSound m db) (policy_id : String) (subject : ℕ) :
    (activeAlerts db policy_id subject).length ≤ 1 := by
  have hnd : (activeAlerts db policy_id subject).Nodup := (List.Nodup.of_map _ h.ids).filter _
  have hsame : ∀ a ∈ activeAlerts db policy_id subject, ∀ b ∈ activeAlerts db policy_id subject, a = b := by
    intro a ha b hb
    obtain ⟨ha, hpol, -, hsub, hst⟩ := mem_activeAlerts.1 ha
    obtain ⟨hb, hpol', -, hsub', hst'⟩ := mem_activeAlerts.1 hb
    exact h.single a ha b hb hst hst' (hpol.trans hpol'.symm) (hsub.trans hsub'.symm)
  rcases hl : activeAlerts db policy_id subject with _ | ⟨a, _ | ⟨b, l⟩⟩
  · exact Nat.zero_le _
  · exact le_rfl
  · rw [hl] at hnd hsame
    have hab := hsame a List.mem_cons_self b (List.mem_cons_of_mem a List.mem_cons_self)
    simp [hab] at hnd

theorem inScope_frame {db' : AlertingDb} {K : String → ℕ → Prop} (h : Frame K db db') {v : ProblemPolicy} :
    InScope db' source_id v ↔ InScope db source_id v := by
  unfold InScope effectiveProblemPolicies
  rw [h.versions, h.effective]

/-- What the plan leaves is exact if and only if the ledger is clear. -/
theorem exact_planned_iff (hm : m.Sound) (hpol : PoliciesSound db) (h : AlertsSound m db)
    (hgen : currentGeneration m source_id = some generation) :
    Exact m source_id generation (planned now m source_id generation db) ↔ LedgerClear m source_id generation db := by
  obtain ⟨-, hsound, hframe⟩ := evaluate_planned now source_id generation hm hpol h hgen
  constructor
  · intro hexact
    have hat := fun v hv p hp => (exact_at_iff hm hpol h hv hp).1
      (hexact.active_iff v ((inScope_frame hframe).2 hv) p hp)
    exact ⟨fun v hv p hp => (hat v hv p hp).1, fun v hv p hp => (hat v hv p hp).2⟩
  · intro hclear
    refine ⟨fun v hv p hp => ?_, fun v _ p _ => hsound.activeAlerts_length _ _⟩
    have hv := (inScope_frame hframe).1 hv
    exact (exact_at_iff hm hpol h hv hp).2 ⟨hclear.create v hv p hp, hclear.resolve v hv p hp⟩

/-- The plan leaves an active problem without current evidence alone exactly if its resolution is recorded. -/
theorem law_planned_iff (hm : m.Sound) (h : AlertsSound m db) (hgen : currentGeneration m source_id = some generation) :
    CurrentnessLaw m source_id db (planned now m source_id generation db) ↔ AgedDecided m source_id db := by
  have hgone : ∀ p ∈ m.problems, p.evidence_state ≠ .current →
      ∀ q ∈ currentProblems m source_id generation, q.problem_id ≠ p.problem_id := by
    intro p hp haged q hq hid
    obtain ⟨hqmem, -, -, hcur, -⟩ := mem_currentProblems.1 hq
    rw [eq_of_key hm.problem_ids hqmem hp hid] at hcur
    exact haged hcur
  constructor
  · intro hlaw v hv a ha p hp hid hact haged
    obtain ⟨hmem, hpol, -, hown, hst⟩ := mem_openAlerts.1 ha
    by_contra hdec
    have hlast : lastRevision m a.source_subject_id = p.projection_revision := hid ▸ lastRevision_eq hm hp
    have hres : ∃ e ∈ plan m source_id generation db, e.Resolves a.alert_id := by
      refine (resolves_plan hm h hmem hst).2 ⟨hown, v, hv, hpol.symm, Or.inr ⟨?_, ?_⟩⟩
      · rw [← hid]
        exact hgone p hp haged
      · rw [hlast]
        simpa using hdec
    exact (h.mem_planned hmem hst).1 (hlaw.aged a hmem hst p hp hid hact haged).1 hres
  · intro hdecided
    refine ⟨fun hnone => ?_, fun a ha hnew => ?_, fun a ha hst p hp hid hact haged => ?_⟩
    · rw [hgen] at hnone
      cases hnone
    · rcases alert_provenance ha with ⟨b, hb, hbid, -⟩ | ⟨v, p, hcreate, -, hsub⟩
      · exact absurd hbid (hnew b hb)
      · obtain ⟨hpmem, -, hact, hcur, -⟩ := mem_currentProblems.1 ((mem_plan_create hm h).1 hcreate).2.1
        exact ⟨p, hpmem, hsub.symm, hact, hcur⟩
    · have hno : ¬∃ e ∈ plan m source_id generation db, e.Resolves a.alert_id := by
        rw [resolves_plan hm h ha hst]
        rintro ⟨hown, v, hv, hpol, ⟨q, hq, hqid, -⟩ | ⟨-, hdec⟩⟩
        · exact hgone p hp haged q hq (hqid.trans hid.symm)
        · have hlast : lastRevision m a.source_subject_id = p.projection_revision := hid ▸ lastRevision_eq hm hp
          have hopen : a ∈ openAlerts db v.policy_id source_id :=
            mem_openAlerts.2 ⟨ha, hpol.symm, h.kinds a ha, hown, hst⟩
          rw [hlast, hdecided v hv a hopen p hp hid hact haged] at hdec
          cases hdec
      have hno' : ∀ e ∈ plan m source_id generation db, ¬e.Resolves a.alert_id := fun e he hres => hno ⟨e, he, hres⟩
      exact ⟨(h.mem_planned ha hst).2 hno, ledger_of_not_resolves (s := (db, .zero)) (h.drawn a ha) hno'⟩

/-- The plan leaves no alert of a resolved problem active exactly if their policies are in scope. -/
theorem noStale_planned_iff (hm : m.Sound) (h : AlertsSound m db) :
    NoStaleAlert m source_id (planned now m source_id generation db) ↔ StaleInScope m source_id db := by
  have hgone : ∀ p ∈ m.problems, p.status ≠ .active →
      ∀ q ∈ currentProblems m source_id generation, q.problem_id ≠ p.problem_id := by
    intro p hp hres q hq hid
    obtain ⟨hqmem, -, hact, -⟩ := mem_currentProblems.1 hq
    rw [eq_of_key hm.problem_ids hqmem hp hid] at hact
    exact hres hact
  constructor
  · intro hstale a ha hst hown p hp hid hres
    by_contra hout
    have hno : ¬∃ e ∈ plan m source_id generation db, e.Resolves a.alert_id := by
      rw [resolves_plan hm h ha hst]
      rintro ⟨-, v, hv, hpol, -⟩
      exact hout ⟨v, hv, hpol⟩
    exact hstale a ((h.mem_planned ha hst).2 hno) (h.kinds a ha) hown p hp hid hres hst
  · intro hscope a ha hkind hown p hp hid hres hst
    rcases h.active_planned hm (mem_activeAlerts.2 ⟨ha, rfl, hkind, rfl, hst⟩) with
      hold | ⟨-, v, q, -, hq, -, hqid, -⟩
    · have hmem := (mem_activeAlerts.1 hold).1
      obtain ⟨v, hv, hpol⟩ := hscope a hmem hst hown p hp hid hres
      have hlast : lastRevision m a.source_subject_id = p.projection_revision := hid ▸ lastRevision_eq hm hp
      refine (h.mem_planned hmem hst).1 ha ((resolves_plan hm h hmem hst).2 ⟨hown, v, hv, hpol, Or.inr ⟨?_, ?_⟩⟩)
      · rw [← hid]
        exact hgone p hp hres
      · rw [hlast]
        exact h.unresolved a hmem hst p hp hid hres
    · exact hgone p hp hres q hq (hqid.trans hid.symm)

end Laws

/-! ### Evaluations of a run -/

/-- **Key result**: from the tables of any run, an evaluation of a source with current evidence
completes, and its alerts are exact if and only if the ledger is clear before. -/
theorem evaluation_exact_iff (bridge : BridgeVersion) (run : List SystemAction) (now : Timestamp)
    (source_id generation : String)
    (hgen : currentGeneration (System.exec bridge run).monitoring source_id = some generation) :
    ∃ r, evaluate_problem_policies now source_id (System.exec bridge run).monitoring
        (System.exec bridge run).alerting = .ok r ∧
      (Exact (System.exec bridge run).monitoring source_id generation r.1 ↔
        LedgerClear (System.exec bridge run).monitoring source_id generation (System.exec bridge run).alerting) := by
  have h := System.exec_sound bridge run
  obtain ⟨hok, -⟩ := evaluate_planned now source_id generation h.monitoring h.policies h.alerts hgen
  exact ⟨_, hok, exact_planned_iff h.monitoring h.policies h.alerts hgen⟩

/-- **Key result**: from the tables of any run, an evaluation completes, and it respects the
evidence if and only if the source is not current or what has aged is decided already. -/
theorem currentness_law_iff (bridge : BridgeVersion) (run : List SystemAction) (now : Timestamp) (source_id : String) :
    ∃ r, evaluate_problem_policies now source_id (System.exec bridge run).monitoring
        (System.exec bridge run).alerting = .ok r ∧
      (CurrentnessLaw (System.exec bridge run).monitoring source_id (System.exec bridge run).alerting r.1 ↔
        currentGeneration (System.exec bridge run).monitoring source_id = none ∨
          AgedDecided (System.exec bridge run).monitoring source_id (System.exec bridge run).alerting) := by
  have h := System.exec_sound bridge run
  cases hgen : currentGeneration (System.exec bridge run).monitoring source_id with
  | none =>
    refine ⟨_, evaluate_gated hgen now _, iff_of_true ⟨fun _ => rfl, fun a ha hnew => ?_, ?_⟩ (Or.inl rfl)⟩
    · exact absurd rfl (hnew a ha)
    · exact fun a ha _ _ _ _ _ _ => ⟨ha, rfl, rfl⟩
  | some generation =>
    obtain ⟨hok, -⟩ := evaluate_planned now source_id generation h.monitoring h.policies h.alerts hgen
    refine ⟨_, hok, (law_planned_iff h.monitoring h.alerts hgen).trans ?_⟩
    simp

/-- **Key result**: from the tables of any run, an evaluation of a source with current evidence
completes, and no alert of the source is stale if and only if the policies of the alerts with
resolved problems are in scope. -/
theorem no_stale_alert_iff (bridge : BridgeVersion) (run : List SystemAction) (now : Timestamp)
    (source_id generation : String)
    (hgen : currentGeneration (System.exec bridge run).monitoring source_id = some generation) :
    ∃ r, evaluate_problem_policies now source_id (System.exec bridge run).monitoring
        (System.exec bridge run).alerting = .ok r ∧
      (NoStaleAlert (System.exec bridge run).monitoring source_id r.1 ↔
        StaleInScope (System.exec bridge run).monitoring source_id (System.exec bridge run).alerting) := by
  have h := System.exec_sound bridge run
  obtain ⟨hok, -⟩ := evaluate_planned now source_id generation h.monitoring h.policies h.alerts hgen
  exact ⟨_, hok, noStale_planned_iff h.monitoring h.alerts⟩

/-! ### A policy on the source with one host -/

/-- A body that makes a version with this minimal severity effective. -/
def versionFrom (severity : String) : PolicyVersionCreate :=
  ⟨"disk", "monitoring_problem", some severity, [], none, none, true⟩

/-- The first poll returns the event, and the first evaluation opens an alert. -/
def alertedRun : List SystemAction :=
  [.monitoring (.surroundings (polledSource ["op1", "op2"])), .monitoring (.claim 5 "op1" "t1"),
    .monitoring (.complete 6 (pollClaim "op1" "t1" 1) (snapshotOf [diskFullProblem]) [⟨diskFull, "trigger"⟩] []),
    .createPolicyVersion 7 (versionFrom "warning"), .evaluate 8 "src"]

/-- A second version asks for more, and a third one is as the first. -/
def flippedRun : List SystemAction :=
  alertedRun ++ [.createPolicyVersion 9 (versionFrom "critical"), .evaluate 10 "src",
    .createPolicyVersion 11 (versionFrom "warning")]

/-- An incomplete snapshot leaves the problem unconfirmed; then a metric poll of the source completes. -/
def agedRun : List SystemAction :=
  alertedRun ++ [.monitoring (.claim 9 "op2" "t2"),
    .monitoring (.complete 10 (pollClaim "op2" "t2" 2)
      ⟨true, false, .reconciliation_required, .reconciliation_required, none, []⟩ [] []),
    .monitoring (.surroundings { polledSource [] with
      sources := [⟨"src", "gen", 1, 1, "cred", .current, some 11, some 11, 1, 2, 1, 1⟩] })]

/-- The policy is disabled, and then a complete snapshot resolves the problem. -/
def disabledRun : List SystemAction :=
  alertedRun ++ [.setEffectiveVersion 9 "disk" ⟨1, false⟩, .monitoring (.claim 10 "op2" "t2"),
    .monitoring (.complete 11 (pollClaim "op2" "t2" 2) (snapshotOf []) [] [])]

theorem evaluation_exact_alerted :
    ∃ r, evaluate_problem_policies 9 "src" (System.exec .contractEnvelope alertedRun).monitoring
        (System.exec .contractEnvelope alertedRun).alerting = .ok r ∧
      (Exact (System.exec .contractEnvelope alertedRun).monitoring "src" "gen" r.1 ↔
        LedgerClear (System.exec .contractEnvelope alertedRun).monitoring "src" "gen"
          (System.exec .contractEnvelope alertedRun).alerting) :=
  evaluation_exact_iff .contractEnvelope alertedRun 9 "src" "gen" (by decide)

/-- The third version matches the problem, and its creation at this revision was recorded by the first. -/
theorem evaluation_misses_alert :
    currentGeneration (System.exec .contractEnvelope flippedRun).monitoring "src" = some "gen" ∧
      ¬Exact (System.exec .contractEnvelope flippedRun).monitoring "src" "gen"
        (System.exec .contractEnvelope (flippedRun ++ [.evaluate 12 "src"])).alerting := by
  refine ⟨by decide, fun h => ?_⟩
  have hscope : InScope (System.exec .contractEnvelope (flippedRun ++ [.evaluate 12 "src"])).alerting "src"
      ⟨"disk", 3, .warning, none, none⟩ := by
    unfold InScope
    decide
  have hmissed : ∃ p ∈ currentProblems (System.exec .contractEnvelope flippedRun).monitoring "src" "gen",
      ProblemPolicy.matchesProblem ⟨"disk", 3, .warning, none, none⟩ p = true ∧
        activeAlerts (System.exec .contractEnvelope (flippedRun ++ [.evaluate 12 "src"])).alerting "disk"
          p.problem_id = [] := by decide
  obtain ⟨p, hp, hmatch, hnone⟩ := hmissed
  exact (h.active_iff _ hscope p hp).2 hmatch hnone

/-- The alert of a problem that is active, and only unconfirmed, is resolved. -/
theorem evaluation_resolves_aged :
    ¬CurrentnessLaw (System.exec .contractEnvelope agedRun).monitoring "src"
      (System.exec .contractEnvelope agedRun).alerting
      (System.exec .contractEnvelope (agedRun ++ [.evaluate 12 "src"])).alerting := by
  intro h
  have haged : ∃ a ∈ (System.exec .contractEnvelope agedRun).alerting.alerts, a.status = .active ∧
      (∃ p ∈ (System.exec .contractEnvelope agedRun).monitoring.problems, p.problem_id = a.source_subject_id ∧
        p.status = .active ∧ p.evidence_state ≠ .current) ∧
      a ∉ (System.exec .contractEnvelope (agedRun ++ [.evaluate 12 "src"])).alerting.alerts := by decide
  obtain ⟨a, ha, hst, ⟨p, hp, hid, hact, hev⟩, hgone⟩ := haged
  exact hgone (h.aged a ha hst p hp hid hact hev).1

theorem no_stale_alert_alerted :
    ∃ r, evaluate_problem_policies 9 "src" (System.exec .contractEnvelope alertedRun).monitoring
        (System.exec .contractEnvelope alertedRun).alerting = .ok r ∧
      (NoStaleAlert (System.exec .contractEnvelope alertedRun).monitoring "src" r.1 ↔
        StaleInScope (System.exec .contractEnvelope alertedRun).monitoring "src"
          (System.exec .contractEnvelope alertedRun).alerting) :=
  no_stale_alert_iff .contractEnvelope alertedRun 9 "src" "gen" (by decide)

/-- The alert of a disabled policy stays active after its problem is resolved. -/
theorem disabled_policy_stale_alert :
    currentGeneration (System.exec .contractEnvelope disabledRun).monitoring "src" = some "gen" ∧
      ¬NoStaleAlert (System.exec .contractEnvelope disabledRun).monitoring "src"
        (System.exec .contractEnvelope (disabledRun ++ [.evaluate 12 "src"])).alerting := by
  refine ⟨by decide, fun h => ?_⟩
  have hstale : ∃ a ∈ (System.exec .contractEnvelope (disabledRun ++ [.evaluate 12 "src"])).alerting.alerts,
      a.source_kind = .monitoring_problem ∧ a.monitoring_source_id = "src" ∧ a.status = .active ∧
        ∃ p ∈ (System.exec .contractEnvelope disabledRun).monitoring.problems,
          p.problem_id = a.source_subject_id ∧ p.status ≠ .active := by decide
  obtain ⟨a, ha, hkind, hown, hst, p, hp, hid, hres⟩ := hstale
  exact h a ha hkind hown p hp hid hres hst

end JLMirror.Alerting
