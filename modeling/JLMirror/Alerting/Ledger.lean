import JLMirror.Alerting.Currentness

/-!
# The ledger of alerts

Each alert has its transitions and its decisions, which three branches of an evaluation write by hand
beside the row of the alert. This module says that the three tables tell one story.

## The model

`AlertHistory` is the story of one alert: the moves of its transitions and the effects of its decisions, in
the order they were written, follow from its lifecycle state, and all of them are pinned to its policy
version.

## What is proved

* `Ledger.effects`: a list of effects keeps the ledger, if it resolves each alert once at most, and only
  alerts that were active.
* `plan_resolves`, `plan_pairwise`: the plan of an evaluation is such a list.
* **Key result** (`ledger_consistent`): after every run the ledger is consistent, and what is resolved
  stays resolved.
-/

namespace JLMirror.Alerting

open JLMirror.Foundations JLMirror.Monitoring

/-! ### The story of an alert -/

/-- The transitions of an alert, in the order of their insertion. -/
def transitionsOf (db : AlertingDb) (alert_id : ℕ) : List AlertTransition :=
  db.transitions.filter fun t => t.alert_id = alert_id

/-- Its decisions. -/
def decisionsOf (db : AlertingDb) (alert_id : ℕ) : List AlertDecision :=
  db.decisions.filter fun d => d.alert_id = alert_id

/-- The moves that lead to a lifecycle state. -/
def LifecycleState.moves : LifecycleState → List (Option LifecycleState × LifecycleState)
  | .active => [(none, .active)]
  | .resolved => [(none, .active), (some .active, .resolved)]

/-- The effects that lead to it. -/
def LifecycleState.effects : LifecycleState → List EffectKind
  | .active => [.create]
  | .resolved => [.create, .resolve]

/-- The transitions and decisions of an alert tell how it came to its state. -/
structure AlertHistory (db : AlertingDb) (a : Alert) : Prop where
  moves : (transitionsOf db a.alert_id).map (fun t => (t.from_lifecycle_state, t.to_lifecycle_state)) =
    a.status.state.moves
  effects : (decisionsOf db a.alert_id).map AlertDecision.effect_kind = a.status.state.effects
  pinned_transitions : ∀ t ∈ transitionsOf db a.alert_id, t.policy_id = a.policy_id ∧ t.policy_version = a.policy_version
  pinned_decisions : ∀ d ∈ decisionsOf db a.alert_id, d.policy_id = a.policy_id ∧ d.policy_version = a.policy_version ∧
    d.source_subject_id = a.source_subject_id
  revisions : a.source_occurrence_revision ≤ a.current_source_revision

/-- Every alert has its story, and no row is about an alert to come. -/
structure Ledger (db : AlertingDb) : Prop where
  alerts : ∀ a ∈ db.alerts, AlertHistory db a
  drawn : ∀ a ∈ db.alerts, a.alert_id < db.nextId
  drawn_transitions : ∀ t ∈ db.transitions, t.alert_id < db.nextId
  drawn_decisions : ∀ d ∈ db.decisions, d.alert_id < db.nextId

/-! ### One effect -/

section Effects

variable {db : AlertingDb} {now : Timestamp} {source_id generation : String}

theorem AlertHistory.congr {db' : AlertingDb} {a : Alert} (h : AlertHistory db a)
    (ht : transitionsOf db' a.alert_id = transitionsOf db a.alert_id)
    (hd : decisionsOf db' a.alert_id = decisionsOf db a.alert_id) : AlertHistory db' a where
  moves := ht ▸ h.moves
  effects := hd ▸ h.effects
  pinned_transitions := ht ▸ h.pinned_transitions
  pinned_decisions := hd ▸ h.pinned_decisions
  revisions := h.revisions

theorem transitionsOf_created (db : AlertingDb) (source_id generation : String) (v : ProblemPolicy) (p : MonitoringProblem) (id : ℕ) :
    transitionsOf (db.created source_id generation v p) id = transitionsOf db id ++
      if db.nextId = id then [AlertTransition.mk (db.nextId + 1) db.nextId v.policy_id v.policy_version none .active
        p.projection_revision (openedAlert source_id generation v p db.nextId).source_evidence_summary] else [] := by
  simp only [transitionsOf, AlertingDb.created, List.filter_append, List.filter_singleton, Bool.cond_decide]

theorem decisionsOf_created (db : AlertingDb) (source_id generation : String) (v : ProblemPolicy) (p : MonitoringProblem) (id : ℕ) :
    decisionsOf (db.created source_id generation v p) id = decisionsOf db id ++
      if db.nextId = id then [AlertDecision.mk (db.nextId + 2)
        (_decision_hash v.policy_id v.policy_version p.problem_id p.projection_revision .create) v.policy_id
        v.policy_version .monitoring_problem p.problem_id p.projection_revision .create db.nextId] else [] := by
  simp only [decisionsOf, AlertingDb.created, List.filter_append, List.filter_singleton, Bool.cond_decide]

theorem transitionsOf_resolved (db : AlertingDb) (now : Timestamp) (a : Alert) (revision : ℕ) (summary : EvidenceSummary) (id : ℕ) :
    transitionsOf (db.resolved now a revision summary) id = transitionsOf db id ++
      if a.alert_id = id then [AlertTransition.mk db.nextId a.alert_id a.policy_id a.policy_version (some .active)
        .resolved revision summary] else [] := by
  simp only [transitionsOf, AlertingDb.resolved, List.filter_append, List.filter_singleton, Bool.cond_decide]

theorem decisionsOf_resolved (db : AlertingDb) (now : Timestamp) (a : Alert) (revision : ℕ) (summary : EvidenceSummary) (id : ℕ) :
    decisionsOf (db.resolved now a revision summary) id = decisionsOf db id ++
      if a.alert_id = id then [AlertDecision.mk (db.nextId + 1)
        (_decision_hash a.policy_id a.policy_version a.source_subject_id revision .resolve) a.policy_id a.policy_version
        .monitoring_problem a.source_subject_id revision .resolve a.alert_id] else [] := by
  simp only [decisionsOf, AlertingDb.resolved, List.filter_append, List.filter_singleton, Bool.cond_decide]

namespace Ledger

theorem fresh (h : Ledger db) : transitionsOf db db.nextId = [] ∧ decisionsOf db db.nextId = [] := by
  refine ⟨List.filter_eq_nil_iff.2 fun t ht => ?_, List.filter_eq_nil_iff.2 fun d hd => ?_⟩
  · simpa using (h.drawn_transitions t ht).ne
  · simpa using (h.drawn_decisions d hd).ne

/-- A new occurrence comes with its first transition and decision. -/
theorem created (h : Ledger db) (v : ProblemPolicy) (p : MonitoringProblem) :
    Ledger (db.created source_id generation v p) := by
  have hlt : ∀ i, i < db.nextId → i < (db.created source_id generation v p).nextId := fun i hi =>
    hi.trans (Nat.lt_add_of_pos_right (by omega))
  have hself : db.nextId < (db.created source_id generation v p).nextId := Nat.lt_add_of_pos_right (by omega)
  obtain ⟨hnot, hnod⟩ := h.fresh
  constructor
  · intro a ha
    rcases List.mem_append.1 ha with ha | ha
    · have hne : db.nextId ≠ a.alert_id := (h.drawn a ha).ne'
      refine (h.alerts a ha).congr ?_ ?_
      · rw [transitionsOf_created, if_neg hne, List.append_nil]
      · rw [decisionsOf_created, if_neg hne, List.append_nil]
    · obtain rfl := List.mem_singleton.1 ha
      have ht := transitionsOf_created db source_id generation v p db.nextId
      have hd := decisionsOf_created db source_id generation v p db.nextId
      rw [hnot, if_pos rfl, List.nil_append] at ht
      rw [hnod, if_pos rfl, List.nil_append] at hd
      constructor
      · rw [show (openedAlert source_id generation v p db.nextId).alert_id = db.nextId from rfl, ht]
        rfl
      · rw [show (openedAlert source_id generation v p db.nextId).alert_id = db.nextId from rfl, hd]
        rfl
      · intro t hmem
        rw [show (openedAlert source_id generation v p db.nextId).alert_id = db.nextId from rfl, ht] at hmem
        obtain rfl := List.mem_singleton.1 hmem
        exact ⟨rfl, rfl⟩
      · intro d hmem
        rw [show (openedAlert source_id generation v p db.nextId).alert_id = db.nextId from rfl, hd] at hmem
        obtain rfl := List.mem_singleton.1 hmem
        exact ⟨rfl, rfl, rfl⟩
      · exact le_rfl
  · intro a ha
    rcases List.mem_append.1 ha with ha | ha
    · exact hlt _ (h.drawn a ha)
    · obtain rfl := List.mem_singleton.1 ha
      exact hself
  · intro t ht
    rcases List.mem_append.1 ht with ht | ht
    · exact hlt _ (h.drawn_transitions t ht)
    · obtain rfl := List.mem_singleton.1 ht
      exact hself
  · intro d hd
    rcases List.mem_append.1 hd with hd | hd
    · exact hlt _ (h.drawn_decisions d hd)
    · obtain rfl := List.mem_singleton.1 hd
      exact hself

/-- An occurrence that is resolved gets its second transition and decision. -/
theorem resolved (h : Ledger db) (hids : (db.alerts.map Alert.alert_id).Nodup) {a : Alert} {revision : ℕ}
    {summary : EvidenceSummary} (ha : a ∈ db.alerts) (hst : a.status = .active)
    (hrev : a.source_occurrence_revision ≤ revision) : Ledger (db.resolved now a revision summary) := by
  have hlt : ∀ i, i < db.nextId → i < (db.resolved now a revision summary).nextId := fun i hi =>
    hi.trans (Nat.lt_add_of_pos_right (by omega))
  have hstory := h.alerts a ha
  constructor
  · intro b hb
    rcases mem_resolved hb with ⟨hb, hne⟩ | ⟨r, hr, hid, rfl⟩
    · refine (h.alerts b hb).congr ?_ ?_
      · rw [transitionsOf_resolved, if_neg (Ne.symm hne), List.append_nil]
      · rw [decisionsOf_resolved, if_neg (Ne.symm hne), List.append_nil]
    · obtain rfl : r = a := eq_of_key hids hr ha hid
      have ht := transitionsOf_resolved db now r revision summary r.alert_id
      have hd := decisionsOf_resolved db now r revision summary r.alert_id
      rw [if_pos rfl] at ht hd
      have hmoves := hstory.moves
      have heffects := hstory.effects
      rw [hst] at hmoves heffects
      refine ⟨?_, ?_, ?_, ?_, hrev⟩
      · rw [show (r.resolve now revision).alert_id = r.alert_id from rfl, ht, List.map_append, hmoves]
        rfl
      · rw [show (r.resolve now revision).alert_id = r.alert_id from rfl, hd, List.map_append, heffects]
        rfl
      · intro t hmem
        rw [show (r.resolve now revision).alert_id = r.alert_id from rfl, ht] at hmem
        rcases List.mem_append.1 hmem with hmem | hmem
        · exact hstory.pinned_transitions t hmem
        · obtain rfl := List.mem_singleton.1 hmem
          exact ⟨rfl, rfl⟩
      · intro d hmem
        rw [show (r.resolve now revision).alert_id = r.alert_id from rfl, hd] at hmem
        rcases List.mem_append.1 hmem with hmem | hmem
        · exact hstory.pinned_decisions d hmem
        · obtain rfl := List.mem_singleton.1 hmem
          exact ⟨rfl, rfl, rfl⟩
  · intro b hb
    rcases mem_resolved hb with ⟨hb, -⟩ | ⟨r, hr, -, rfl⟩
    · exact hlt _ (h.drawn b hb)
    · exact hlt _ (h.drawn r hr)
  · intro t ht
    rcases List.mem_append.1 ht with ht | ht
    · exact hlt _ (h.drawn_transitions t ht)
    · obtain rfl := List.mem_singleton.1 ht
      exact hlt _ (h.drawn a ha)
  · intro d hd
    rcases List.mem_append.1 hd with hd | hd
    · exact hlt _ (h.drawn_decisions d hd)
    · obtain rfl := List.mem_singleton.1 hd
      exact hlt _ (h.drawn a ha)

end Ledger

end Effects

/-! ### The effects of an evaluation -/

/-- The effect resolves an alert that is active, at a revision that it has reached. -/
def Effect.Fits (db : AlertingDb) : Effect → Prop
  | .resolve a revision _ => a ∈ db.alerts ∧ a.status = .active ∧ a.source_occurrence_revision ≤ revision
  | _ => True

/-- No alert is resolved by both. -/
def Effect.Apart (e e' : Effect) : Prop := ∀ id, e.Resolves id → ¬e'.Resolves id

/-- Effects that fit, and resolve each alert once at most, keep the ledger. -/
theorem Ledger.effects {now : Timestamp} {source_id generation : String} {es : List Effect} {s : EvaluationState}
    (h : Ledger s.1) (hids : (s.1.alerts.map Alert.alert_id).Nodup) (hfit : ∀ e ∈ es, e.Fits s.1)
    (hapart : es.Pairwise Effect.Apart) : Ledger (es.foldl (Effect.apply now source_id generation) s).1 := by
  induction es generalizing s with
  | nil => exact h
  | cons e es ih =>
    obtain ⟨hfirst, hlater⟩ := List.pairwise_cons.1 hapart
    have hfits := hfit e List.mem_cons_self
    have hrest : ∀ e' ∈ es, e'.Fits s.1 := fun e' he' => hfit e' (List.mem_cons_of_mem e he')
    rw [List.foldl_cons]
    cases e with
    | skip => exact ih h hids hrest hlater
    | create v p =>
      refine ih (h.created v p) ?_ (fun e' he' => ?_) hlater
      · show ((s.1.alerts ++ [_]).map Alert.alert_id).Nodup
        rw [List.map_append, List.nodup_append]
        refine ⟨hids, List.nodup_singleton _, ?_⟩
        rintro i hi j hj rfl
        obtain ⟨a, ha, rfl⟩ := List.mem_map.1 hi
        exact (h.drawn a ha).ne (List.mem_singleton.1 hj)
      · have hfit' := hrest e' he'
        cases e' with
        | resolve a revision summary => exact ⟨List.mem_append_left _ hfit'.1, hfit'.2⟩
        | create | skip => trivial
    | resolve a revision summary =>
      refine ih (h.resolved hids hfits.1 hfits.2.1 hfits.2.2) ?_ (fun e' he' => ?_) hlater
      · show ((updateWhere _ _ s.1.alerts).map Alert.alert_id).Nodup
        rw [map_updateWhere]
        · exact hids
        · exact fun _ => rfl
      · have hfit' := hrest e' he'
        cases e' with
        | resolve b revision' summary' =>
          have hne : b.alert_id ≠ a.alert_id := fun hid => hfirst _ he' a.alert_id rfl hid
          exact ⟨mem_updateWhere_of_not hfit'.1 (decide_eq_false hne), hfit'.2⟩
        | create | skip => trivial

section Plan

variable {m : MonitoringDb} {db : AlertingDb} {source_id generation : String}

/-- What a plan resolves at a problem is an open alert of it. -/
theorem planProblem_resolves {v : ProblemPolicy} {opened : List Alert} {p : MonitoringProblem} {e : Effect} {id : ℕ}
    (he : planProblem v opened db p = some e) (hres : e.Resolves id) :
    ∃ a ∈ opened, a.alert_id = id ∧ a.source_subject_id = p.problem_id ∧
      ∃ summary, e = .resolve a p.projection_revision summary := by
  unfold planProblem at he
  split at he
  · split_ifs at he <;> cases he <;> cases hres
  · next a _ hf =>
    split_ifs at he <;> cases he
    · cases hres
    · exact ⟨a, List.mem_of_find?_eq_some hf, hres, by simpa using List.find?_some hf, _, rfl⟩
  · cases he

/-- What a plan resolves at an open alert is that alert, whose problem is not current. -/
theorem planOpen_resolves {problems : List MonitoringProblem} {a : Alert} {e : Effect}
    (he : planOpen m problems db a = some e) : (∀ p ∈ problems, p.problem_id ≠ a.source_subject_id) ∧
      ∃ summary, e = .resolve a (lastRevision m a.source_subject_id) summary := by
  unfold planOpen at he
  split_ifs at he with hcur
  cases he
  exact ⟨by simpa using hcur, _, rfl⟩

/-- What the plan of a policy resolves is an open alert of the policy. -/
theorem planPolicy_resolves {v : ProblemPolicy} {e : Effect} {id : ℕ}
    (he : e ∈ planPolicy m source_id generation db v) (hres : e.Resolves id) :
    ∃ a ∈ openAlerts db v.policy_id source_id, a.alert_id = id := by
  unfold planPolicy at he
  split_ifs at he
  · simp only [List.mem_append, List.mem_flatMap, Option.mem_toList] at he
    rcases he with ⟨p, -, he⟩ | ⟨a, ha, he⟩
    · obtain ⟨a, ha, hid, -⟩ := planProblem_resolves he hres
      exact ⟨a, ha, hid⟩
    · obtain ⟨-, summary, rfl⟩ := planOpen_resolves he
      exact ⟨a, ha, hres⟩
  · cases he

/-- The plan resolves what is active, at the revision of its problem. -/
theorem plan_resolves (hm : m.Sound) (h : AlertsSound m db) : ∀ e ∈ plan m source_id generation db, e.Fits db := by
  intro e he
  cases e with
  | create | skip => trivial
  | resolve a revision summary =>
    obtain ⟨v, -, ⟨p, hp, he⟩ | ⟨b, hb, he⟩⟩ := mem_plan.1 he
    · obtain ⟨b, hb, -, hsub, summary', heq⟩ := planProblem_resolves he rfl
      cases heq
      obtain ⟨hmem, -, -, -, hst⟩ := mem_openAlerts.1 hb
      exact ⟨hmem, hst, (h.source_eq hm hmem (mem_currentProblems.1 hp).1 hsub.symm).2⟩
    · obtain ⟨-, summary', heq⟩ := planOpen_resolves he
      cases heq
      obtain ⟨hmem, -, -, -, hst⟩ := mem_openAlerts.1 hb
      obtain ⟨p, hp, hid, -, hrev⟩ := h.subject a hmem
      exact ⟨hmem, hst, hid ▸ (lastRevision_eq hm hp).symm ▸ hrev⟩

/-- The plan of a policy resolves each alert once at most. -/
theorem planPolicy_pairwise (hm : m.Sound) (h : AlertsSound m db) (v : ProblemPolicy) :
    (planPolicy m source_id generation db v).Pairwise Effect.Apart := by
  unfold planPolicy
  split_ifs
  · have hnd : ((currentProblems m source_id generation).map MonitoringProblem.problem_id).Nodup :=
      hm.problem_ids.sublist (List.filter_sublist.map _)
    have hopen : ((openAlerts db v.policy_id source_id).map Alert.alert_id).Nodup :=
      h.ids.sublist (List.filter_sublist.map _)
    refine List.pairwise_append.2 ⟨?_, ?_, ?_⟩
    · refine List.pairwise_flatMap.2 ⟨fun p _ => ?_, (List.pairwise_map.1 hnd).imp fun hne e he e' he' id hres hres' => ?_⟩
      · cases planProblem v (openAlerts db v.policy_id source_id) db p <;> simp
      · obtain ⟨a, ha, hid, hsub, -⟩ := planProblem_resolves (Option.mem_toList.1 he) hres
        obtain ⟨b, hb, hid', hsub', -⟩ := planProblem_resolves (Option.mem_toList.1 he') hres'
        obtain rfl := eq_of_key hopen ha hb (hid.trans hid'.symm)
        exact hne (hsub.symm.trans hsub')
    · refine List.pairwise_flatMap.2 ⟨fun a _ => ?_, (List.pairwise_map.1 hopen).imp fun hne e he e' he' id hres hres' => ?_⟩
      · cases planOpen m (currentProblems m source_id generation) db a <;> simp
      · obtain ⟨-, summary, rfl⟩ := planOpen_resolves (Option.mem_toList.1 he)
        obtain ⟨-, summary', rfl⟩ := planOpen_resolves (Option.mem_toList.1 he')
        exact hne (Eq.trans hres (Eq.symm hres'))
    · intro e he e' he' id hres hres'
      obtain ⟨p, hp, he⟩ := List.mem_flatMap.1 he
      obtain ⟨b, hb, he'⟩ := List.mem_flatMap.1 he'
      obtain ⟨a, ha, hid, hsub, -⟩ := planProblem_resolves (Option.mem_toList.1 he) hres
      obtain ⟨hgone, summary, rfl⟩ := planOpen_resolves (Option.mem_toList.1 he')
      obtain rfl := eq_of_key hopen ha hb (hid.trans (Eq.symm hres'))
      exact hgone p hp hsub.symm
  · exact List.Pairwise.nil

/-- The plan resolves each alert once at most. -/
theorem plan_pairwise (hm : m.Sound) (hp : PoliciesSound db) (h : AlertsSound m db) :
    (plan m source_id generation db).Pairwise Effect.Apart := by
  refine List.pairwise_flatMap.2 ⟨fun v _ => planPolicy_pairwise hm h v,
    (effectiveProblemPolicies_pairwise hp).imp fun hne e he e' he' id hres hres' => ?_⟩
  obtain ⟨a, ha, hid⟩ := planPolicy_resolves he hres
  obtain ⟨b, hb, hid'⟩ := planPolicy_resolves he' hres'
  obtain ⟨ha, hpol, -⟩ := mem_openAlerts.1 ha
  obtain ⟨hb, hpol', -⟩ := mem_openAlerts.1 hb
  obtain rfl := h.eq_of_id ha hb (hid.trans hid'.symm)
  exact hne (hpol.symm.trans hpol')

end Plan

/-! ### Every run -/

/-- An evaluation keeps the ledger. -/
theorem Ledger.evaluate {m : MonitoringDb} (hm : m.Sound) {db : AlertingDb} (hp : PoliciesSound db)
    (h : AlertsSound m db) (hl : Ledger db) {now : Timestamp} {source_id : String} {r : EvaluationState}
    (hok : evaluate_problem_policies now source_id m db = .ok r) : Ledger r.1 := by
  cases hgen : currentGeneration m source_id with
  | none =>
    rw [evaluate_gated hgen] at hok
    rw [← Except.ok.inj hok]
    exact hl
  | some generation =>
    obtain ⟨hplan, -⟩ := evaluate_planned now source_id generation hm hp h hgen
    rw [← Except.ok.inj (hplan.symm.trans hok)]
    exact Ledger.effects hl h.ids (plan_resolves hm h) (plan_pairwise hm hp h)

/-- Tables with the same rows have the same ledger. -/
theorem Ledger.congr {db db' : AlertingDb} (h : Ledger db) (ha : db'.alerts = db.alerts)
    (ht : db'.transitions = db.transitions) (hd : db'.decisions = db.decisions) (hn : db'.nextId = db.nextId) :
    Ledger db' := by
  constructor
  · intro a hmem
    refine (h.alerts a (ha ▸ hmem)).congr ?_ ?_
    · rw [transitionsOf, transitionsOf, ht]
    · rw [decisionsOf, decisionsOf, hd]
  · rw [ha, hn]
    exact h.drawn
  · rw [ht, hn]
    exact h.drawn_transitions
  · rw [hd, hn]
    exact h.drawn_decisions

theorem create_policy_version_transitions {now : Timestamp} {body : PolicyVersionCreate} {db : AlertingDb}
    {r : PolicyVersionCreated × AlertingDb} (hok : create_policy_version now body db = .ok r) :
    r.2.transitions = db.transitions := by
  obtain ⟨condition, -, hok⟩ := bind_ok_iff.1 hok
  rw [← Except.ok.inj hok]
  dsimp only
  split_ifs <;> rfl

theorem set_effective_version_transitions {now : Timestamp} {policy_id : String} {body : EffectiveSet} {db : AlertingDb}
    {r : EffectiveVersion × AlertingDb} (hok : set_effective_version now policy_id body db = .ok r) :
    r.2.transitions = db.transitions := by
  unfold set_effective_version at hok
  split at hok
  · cases hok
  · split_ifs at hok
    rw [← Except.ok.inj hok]

/-- Every action keeps the ledger. -/
theorem Ledger.step {s : System} (hs : s.Sound) (h : Ledger s.alerting) (a : SystemAction) :
    Ledger (s.step a).alerting := by
  cases a with
  | monitoring a => exact h
  | createPolicyVersion now body =>
    refine AlertingDb.orRollback_cases h fun r hok => ?_
    obtain ⟨-, ha, hd, hn⟩ := create_policy_version_sound hs.policies hok
    exact h.congr ha (create_policy_version_transitions hok) hd hn
  | setEffectiveVersion now policy_id body =>
    refine AlertingDb.orRollback_cases h fun r hok => ?_
    obtain ⟨-, ha, hd, hn⟩ := set_effective_version_sound hs.policies hok
    exact h.congr ha (set_effective_version_transitions hok) hd hn
  | evaluate now source_id =>
    exact AlertingDb.orRollback_cases h fun r hok => h.evaluate hs.monitoring hs.policies hs.alerts hok

/-- An alert that is resolved stays as it is. -/
theorem resolved_step {s : System} (hs : s.Sound) (a : SystemAction) {b : Alert} (hb : b ∈ s.alerting.alerts)
    (hst : b.status ≠ .active) : b ∈ (s.step a).alerting.alerts := by
  cases a with
  | monitoring a => exact hb
  | createPolicyVersion now body =>
    refine AlertingDb.orRollback_cases (Q := fun db => b ∈ db.alerts) hb fun r hok => ?_
    rw [(create_policy_version_sound hs.policies hok).2.1]
    exact hb
  | setEffectiveVersion now policy_id body =>
    refine AlertingDb.orRollback_cases (Q := fun db => b ∈ db.alerts) hb fun r hok => ?_
    rw [(set_effective_version_sound hs.policies hok).2.1]
    exact hb
  | evaluate now source_id =>
    refine AlertingDb.orRollback_cases (Q := fun db => b ∈ db.alerts) hb fun r hok => ?_
    cases hgen : currentGeneration s.monitoring source_id with
    | none =>
      rw [evaluate_gated hgen] at hok
      rw [← Except.ok.inj hok]
      exact hb
    | some generation =>
      obtain ⟨hplan, -⟩ := evaluate_planned now source_id generation hs.monitoring hs.policies hs.alerts hgen
      rw [← Except.ok.inj (hplan.symm.trans hok)]
      refine mem_of_not_resolves hb fun e he hres => ?_
      obtain ⟨c, hc, hact, hid⟩ := resolves_active he hres
      obtain rfl := hs.alerts.eq_of_id hc hb hid
      exact hst hact

/-- What the tables say of the alerts at a moment. -/
structure LedgerConsistent (db : AlertingDb) : Prop where
  /-- One transition into being. -/
  opened : ∀ a ∈ db.alerts, (transitionsOf db a.alert_id).countP
    (fun t => t.from_lifecycle_state = none ∧ t.to_lifecycle_state = .active) = 1
  /-- One transition out of it at most, and no other. -/
  resolved : ∀ a ∈ db.alerts, (transitionsOf db a.alert_id).countP
    (fun t => t.from_lifecycle_state = some .active ∧ t.to_lifecycle_state = .resolved) ≤ 1
  /-- The last transition leads to the state of the row. -/
  last : ∀ a ∈ db.alerts, (transitionsOf db a.alert_id).getLast?.map AlertTransition.to_lifecycle_state =
    some a.status.state
  created : ∀ a ∈ db.alerts, (decisionsOf db a.alert_id).countP (fun d => d.effect_kind = .create) = 1
  decided : ∀ a ∈ db.alerts, (decisionsOf db a.alert_id).countP (fun d => d.effect_kind = .resolve) ≤ 1
  /-- Transitions and decisions are pinned to the version that opened the alert. -/
  pinned : ∀ a ∈ db.alerts, (∀ t ∈ transitionsOf db a.alert_id, t.policy_version = a.policy_version) ∧
    ∀ d ∈ decisionsOf db a.alert_id, d.policy_version = a.policy_version
  single : ∀ policy_id subject, (activeAlerts db policy_id subject).length ≤ 1
  revisions : ∀ a ∈ db.alerts, a.source_occurrence_revision ≤ a.current_source_revision

/-- A ledger is consistent. -/
theorem Ledger.consistent {m : MonitoringDb} {db : AlertingDb} (h : Ledger db) (hs : AlertsSound m db) :
    LedgerConsistent db := by
  have hmoves : ∀ a ∈ db.alerts, ∀ q : Option LifecycleState × LifecycleState → Bool,
      (transitionsOf db a.alert_id).countP (fun t => q (t.from_lifecycle_state, t.to_lifecycle_state)) =
        a.status.state.moves.countP q := by
    intro a ha q
    rw [← (h.alerts a ha).moves, List.countP_map]
    rfl
  have heffects : ∀ a ∈ db.alerts, ∀ q : EffectKind → Bool,
      (decisionsOf db a.alert_id).countP (fun d => q d.effect_kind) = a.status.state.effects.countP q := by
    intro a ha q
    rw [← (h.alerts a ha).effects, List.countP_map]
    rfl
  constructor
  · intro a ha
    rw [hmoves a ha fun c => c.1 = none ∧ c.2 = .active]
    cases a.status.state <;> decide
  · intro a ha
    rw [hmoves a ha fun c => c.1 = some .active ∧ c.2 = .resolved]
    cases a.status.state <;> decide
  · intro a ha
    have hlast : (transitionsOf db a.alert_id).getLast?.map AlertTransition.to_lifecycle_state =
        (a.status.state.moves.getLast?).map Prod.snd := by
      rw [← (h.alerts a ha).moves, List.getLast?_map, Option.map_map]
      rfl
    rw [hlast]
    cases a.status.state <;> rfl
  · intro a ha
    rw [heffects a ha fun k => k = .create]
    cases a.status.state <;> decide
  · intro a ha
    rw [heffects a ha fun k => k = .resolve]
    cases a.status.state <;> decide
  · exact fun a ha => ⟨fun t ht => ((h.alerts a ha).pinned_transitions t ht).2,
      fun d hd => ((h.alerts a ha).pinned_decisions d hd).2.1⟩
  · exact hs.activeAlerts_length
  · exact fun a ha => (h.alerts a ha).revisions

/-- No later run makes a resolved alert active. -/
def ResolvedForever (bridge : BridgeVersion) (run : List SystemAction) : Prop :=
  ∀ a ∈ (System.exec bridge run).alerting.alerts, a.status ≠ .active →
    ∀ later, ∀ b ∈ (System.exec bridge (run ++ later)).alerting.alerts, b.alert_id = a.alert_id → b.status ≠ .active

theorem System.exec_ledger (bridge : BridgeVersion) (run : List SystemAction) :
    Ledger (System.exec bridge run).alerting := by
  induction run using List.reverseRecOn with
  | nil => constructor <;> simp [System.exec, AlertingDb.empty]
  | append_singleton run a ih =>
    rw [System.exec, List.foldl_append]
    exact ih.step (System.exec_sound bridge run) a

theorem resolved_exec {bridge : BridgeVersion} {run : List SystemAction} {a : Alert}
    (ha : a ∈ (System.exec bridge run).alerting.alerts) (hst : a.status ≠ .active) (later : List SystemAction) :
    a ∈ (System.exec bridge (run ++ later)).alerting.alerts := by
  induction later using List.reverseRecOn with
  | nil => rwa [List.append_nil]
  | append_singleton later b ih =>
    rw [← List.append_assoc, System.exec, List.foldl_append]
    exact resolved_step (System.exec_sound bridge (run ++ later)) b ih hst

/-- **Key result.** After every run the ledger is consistent, and what is resolved stays resolved. -/
theorem ledger_consistent (bridge : BridgeVersion) (run : List SystemAction) :
    LedgerConsistent (System.exec bridge run).alerting ∧ ResolvedForever bridge run := by
  refine ⟨(System.exec_ledger bridge run).consistent (System.exec_sound bridge run).alerts, ?_⟩
  intro a ha hst later b hb hid
  obtain rfl := (System.exec_sound bridge (run ++ later)).alerts.eq_of_id hb (resolved_exec ha hst later) hid
  exact hst

end JLMirror.Alerting
