import JLMirror.Monitoring.ProblemMoves

/-!
# The transition log of a problem

"Immutable transition evidence": the rows of `monitoring_problem_transition`, each with a
domain event and an integration event in the outbox.

## What is proved

* `Journal.append`: a log that replays to the state of a row still does after the row and the
  log advance together.
* `Journaled` and `Announced` hold after every move, hence after every run.
* **Key result** (`transition_log_is_projection`): after every run, the transitions of a
  problem in the order of their revisions replay to its state and severity, and the messages
  of the outbox are exactly two for each transition.
-/

namespace JLMirror.Monitoring

open JLMirror.Foundations

/-! ### Replaying a log -/

/-- Applies a transition to the state and severity of a problem, `none` before it is opened; it
fails where the transition starts elsewhere. -/
def ProblemTransition.apply (s : Option (ProblemState × SeverityClass)) (t : ProblemTransition) :
    Option (Option (ProblemState × SeverityClass)) :=
  if t.from_problem_state = s.map Prod.fst ∧ t.from_severity_class = s.map Prod.snd then
    some (some (t.to_problem_state, t.to_severity_class))
  else none

/-- The state after a log. -/
def replay (log : List ProblemTransition) : Option (Option (ProblemState × SeverityClass)) :=
  log.foldlM ProblemTransition.apply none

/-- The transitions of a problem, in the order of their revisions. -/
def MonitoringDb.transitionLog (db : MonitoringDb) (problem_id : ℕ) : List ProblemTransition :=
  (db.transitions.filter fun t => t.problem_id = problem_id).insertionSort
    fun t u => t.projection_revision ≤ u.projection_revision

/-- What is to hold of the log of a problem in state and severity `s`. -/
structure Journal (log : List ProblemTransition) (s : ProblemState × SeverityClass) : Prop where
  replays : replay log = some (some s)
  increasing : log.Pairwise fun t u => t.projection_revision < u.projection_revision
  opens : ∃ t, log.head? = some t ∧ t.from_problem_state = none ∧ t.to_problem_state = .active
  never_reopens : ∀ t ∈ log, t.from_problem_state ≠ some .resolved

variable {p : MonitoringProblem}

theorem Journal.single {t : ProblemTransition} (ht : t.Opens p) (hp : p.status = .active) :
    Journal [t] (p.status.state, p.severity_class) where
  replays := by
    simp [replay, ProblemTransition.apply, ht.from_state, ht.from_severity, ht.to_state, ht.to_severity]
  increasing := List.pairwise_singleton _ _
  opens := ⟨t, rfl, ht.from_state, by rw [ht.to_state, hp]; rfl⟩
  never_reopens u hu := by
    rw [List.mem_singleton.1 hu, ht.from_state]
    simp

/-- A log and its problem advance together. -/
theorem Journal.append {log : List ProblemTransition} {t : ProblemTransition} {p' : MonitoringProblem}
    (h : Journal log (p.status.state, p.severity_class)) (ht : t.Records p p') (hact : p.status = .active)
    (hrev : ∀ u ∈ log, u.projection_revision < t.projection_revision) :
    Journal (log ++ [t]) (p'.status.state, p'.severity_class) where
  replays := by
    rw [replay, List.foldlM_append, show log.foldlM ProblemTransition.apply none = _ from h.replays]
    simp [ProblemTransition.apply, ht.from_state, ht.from_severity, ht.to_state, ht.to_severity]
  increasing := by
    refine List.pairwise_append.2 ⟨h.increasing, List.pairwise_singleton _ _, fun u hu v hv => ?_⟩
    rw [List.mem_singleton.1 hv]
    exact hrev u hu
  opens := by
    obtain ⟨u, hu, hopen⟩ := h.opens
    exact ⟨u, by rw [List.head?_append, hu]; rfl, hopen⟩
  never_reopens u hu := by
    rcases List.mem_append.1 hu with hu | hu
    · exact h.never_reopens u hu
    · rw [List.mem_singleton.1 hu, ht.from_state, hact]
      simp [ProblemStatus.state]

/-! ### Every log is a journal -/

/-- The transitions of a problem, as they stand in the table. -/
def MonitoringDb.rowsOf (db : MonitoringDb) (problem_id : ℕ) : List ProblemTransition :=
  db.transitions.filter fun t => t.problem_id = problem_id

/-- Every problem has the journal of its state. -/
def Journaled (db : MonitoringDb) : Prop :=
  ∀ p ∈ db.problems, Journal (db.rowsOf p.problem_id) (p.status.state, p.severity_class)

variable {db : MonitoringDb} {claim : ProblemStateClaim}

theorem rowsOf_logged_of_ne {t : ProblemTransition} {i : ℕ} (h : t.problem_id ≠ i) :
    (db.logged claim t).rowsOf i = db.rowsOf i := by
  simp [MonitoringDb.rowsOf, MonitoringDb.logged, List.filter_append, h]

theorem rowsOf_logged {t : ProblemTransition} :
    (db.logged claim t).rowsOf t.problem_id = db.rowsOf t.problem_id ++ [t] := by
  simp [MonitoringDb.rowsOf, MonitoringDb.logged, List.filter_append]

theorem MonitoringDb.Sound.rowsOf_nextId (h : db.Sound) : db.rowsOf db.nextId = [] := by
  refine List.filter_eq_nil_iff.2 fun t ht hid => ?_
  obtain ⟨p, hp, hpid, -⟩ := h.revisions t ht
  have := h.drawn hp
  simp only [decide_eq_true_eq] at hid
  omega

variable {db' : MonitoringDb}

theorem Move.journaled (m : Move db db') (h : db.Sound) (hj : Journaled db) : Journaled db' := by
  cases m with
  | aside hb hp ht ho hn =>
    intro p hmem
    rw [hp] at hmem
    have := hj p hmem
    rwa [MonitoringDb.rowsOf, ht]
  | @opened claim b p t hid hb hkey hp hpos ht htid =>
    have hpid : p.problem_id = db.nextId := (congrArg Prod.fst hb).trans hid
    intro r hr
    rcases List.mem_append.1 hr with hr | hr
    · have hne : t.problem_id ≠ r.problem_id := by
        rw [ht.problem_id, hpid]
        exact (h.drawn hr).ne'
      rw [rowsOf_logged_of_ne hne]
      exact hj r hr
    · rw [List.mem_singleton.1 hr, ← ht.problem_id, rowsOf_logged, ht.problem_id, hpid]
      show Journal (db.rowsOf db.nextId ++ [t]) _
      rw [h.rowsOf_nextId]
      exact .single ht hp
  | @advanced claim p f t hp hact hid hrev ht htid =>
    intro r' hr'
    obtain ⟨r, hr, rfl⟩ := mem_updateWhere.1 hr'
    by_cases hrp : r.problem_id = p.problem_id
    · rw [eq_of_key h.problem_ids hr hp hrp]
      have hfid : (f p).problem_id = p.problem_id := congrArg Prod.fst (hid p)
      simp only [decide_true, if_true]
      rw [hfid, ← ht.problem_id, rowsOf_logged, ht.problem_id]
      refine (hj p hp).append ht hact fun u hu => ?_
      obtain ⟨hu, huid⟩ := List.mem_filter.1 hu
      obtain ⟨p', hp', hpid', hurev⟩ := h.revisions u hu
      rw [eq_of_key h.problem_ids hp' hp (hpid'.trans (of_decide_eq_true huid))] at hurev
      have := ht.revision
      omega
    · simp only [hrp, decide_false, Bool.false_eq_true, if_false]
      rw [rowsOf_logged_of_ne (by rw [ht.problem_id]; exact Ne.symm hrp)]
      exact hj r hr
  | @touched q f hid hf =>
    intro r' hr'
    obtain ⟨r, hr, rfl⟩ := mem_updateWhere.1 hr'
    split_ifs with hq
    · obtain ⟨hact, hact', hsev, -⟩ := hf r hr hq
      rw [show (f r).problem_id = r.problem_id from congrArg Prod.fst (hid r), hact', hsev, ← hact]
      exact hj r hr
    · exact hj r hr

/-! ### Every transition is announced, and nothing else -/

/-- The revision that a message is about. -/
def MessagePayload.projection_revision : MessagePayload → ℕ
  | .invalidation _ _ _ _ r _ => r
  | .stateChange _ _ _ _ _ _ _ _ _ _ r _ _ => r

/-- An integration event of the trigger, caused by `t`. -/
def OutboxMessage.publishes (t : ProblemTransition) (m : OutboxMessage) : Bool :=
  m.message_class = .integration_event ∧ m.causation_id = some t.problem_transition_id

/-- A domain event about the problem of `t` at the revision of `t`. -/
def OutboxMessage.reports (t : ProblemTransition) (m : OutboxMessage) : Bool :=
  m.message_class = .domain_event ∧ m.subject_id = t.problem_id ∧
    m.encoded_payload.projection_revision = t.projection_revision

section Messages

variable (t u : ProblemTransition)

@[simp] theorem publishes_invalidationMessage (bridge : BridgeVersion) (now : Timestamp) :
    (invalidationMessage bridge now t).publishes u = decide (t.problem_transition_id = u.problem_transition_id) := by
  simp [OutboxMessage.publishes, invalidationMessage]

@[simp] theorem publishes_stateChangeMessage (claim : ProblemStateClaim) (id : ℕ) :
    (stateChangeMessage claim id t).publishes u = false := by
  simp [OutboxMessage.publishes, stateChangeMessage]

@[simp] theorem reports_invalidationMessage (bridge : BridgeVersion) (now : Timestamp) :
    (invalidationMessage bridge now t).reports u = false := by
  simp [OutboxMessage.reports, invalidationMessage]

@[simp] theorem reports_stateChangeMessage (claim : ProblemStateClaim) (id : ℕ) :
    (stateChangeMessage claim id t).reports u =
      decide (t.problem_id = u.problem_id ∧ t.projection_revision = u.projection_revision) := by
  simp [OutboxMessage.reports, stateChangeMessage, stateChangePayload, MessagePayload.projection_revision]

variable {t u}

variable {m : OutboxMessage}

theorem publishes_unique (ht : m.publishes t = true) (hu : m.publishes u = true) :
    t.problem_transition_id = u.problem_transition_id := by
  simp only [OutboxMessage.publishes, decide_eq_true_eq] at ht hu
  exact Option.some.inj (ht.2.symm.trans hu.2)

/-- Two transitions that one message reports are of one problem and revision. -/
theorem reports_unique (ht : m.reports t = true) (hu : m.reports u = true) :
    t.problem_id = u.problem_id ∧ t.projection_revision = u.projection_revision := by
  simp only [OutboxMessage.reports, decide_eq_true_eq] at ht hu
  exact ⟨ht.2.1.symm.trans hu.2.1, ht.2.2.symm.trans hu.2.2⟩

theorem not_reports_of_publishes (ht : m.publishes t = true) : m.reports u = false := by
  simp only [OutboxMessage.publishes, decide_eq_true_eq] at ht
  simp [OutboxMessage.reports, ht.1]

end Messages

/-- Each transition has its two messages, and each message its transition. -/
structure Announced (db : MonitoringDb) : Prop where
  integration : ∀ t ∈ db.transitions, ∃ bridge,
    db.outbox.filter (·.publishes t) = [invalidationMessage bridge t.occurred_at t]
  domain : ∀ t ∈ db.transitions, ∃ claim id,
    db.outbox.filter (·.reports t) = [stateChangeMessage claim id t]
  nothing_else : ∀ m ∈ db.outbox, ∃ t ∈ db.transitions, m.publishes t = true ∨ m.reports t = true

/-- A transition with a new id and a new revision is announced with its messages. -/
theorem Announced.logged {db : MonitoringDb} (h : Announced db) {claim : ProblemStateClaim} {t : ProblemTransition}
    (hid : ∀ u ∈ db.transitions, u.problem_transition_id ≠ t.problem_transition_id)
    (hrev : ∀ u ∈ db.transitions, u.problem_id = t.problem_id → u.projection_revision ≠ t.projection_revision) :
    Announced (db.logged claim t) where
  integration u hu := by
    simp only [MonitoringDb.logged, List.filter_append] at hu ⊢
    rcases List.mem_append.1 hu with hu | hu
    · obtain ⟨bridge, hf⟩ := h.integration u hu
      refine ⟨bridge, ?_⟩
      rw [hf]
      simp [(hid u hu).symm]
    · rw [List.mem_singleton.1 hu]
      refine ⟨db.bridge, ?_⟩
      have hnone : db.outbox.filter (·.publishes t) = [] := by
        refine List.filter_eq_nil_iff.2 fun m hm hpub => ?_
        obtain ⟨u, hu, hmu | hmu⟩ := h.nothing_else m hm
        · exact hid u hu (publishes_unique hmu hpub)
        · exact absurd hmu (by simp [not_reports_of_publishes hpub])
      rw [hnone]
      simp
  domain u hu := by
    simp only [MonitoringDb.logged, List.filter_append] at hu ⊢
    rcases List.mem_append.1 hu with hu | hu
    · obtain ⟨c, id, hf⟩ := h.domain u hu
      refine ⟨c, id, ?_⟩
      have hne : ¬(t.problem_id = u.problem_id ∧ t.projection_revision = u.projection_revision) :=
        fun hn => hrev u hu hn.1.symm hn.2.symm
      rw [hf]
      simp [hne]
    · rw [List.mem_singleton.1 hu]
      refine ⟨claim, db.nextId + 1, ?_⟩
      have hnone : db.outbox.filter (·.reports t) = [] := by
        refine List.filter_eq_nil_iff.2 fun m hm hrep => ?_
        obtain ⟨u, hu, hmu | hmu⟩ := h.nothing_else m hm
        · exact absurd hrep (by simp [not_reports_of_publishes hmu])
        · obtain ⟨hpid, hr⟩ := reports_unique hmu hrep
          exact hrev u hu hpid hr
      rw [hnone]
      simp
  nothing_else m hm := by
    simp only [MonitoringDb.logged, List.mem_append, List.mem_cons, List.not_mem_nil, or_false] at hm
    rcases hm with hm | rfl | rfl
    · obtain ⟨u, hu, hmu⟩ := h.nothing_else m hm
      exact ⟨u, List.mem_append_left _ hu, hmu⟩
    · exact ⟨t, by simp [MonitoringDb.logged], Or.inl (by simp)⟩
    · exact ⟨t, by simp [MonitoringDb.logged], Or.inr (by simp)⟩

theorem Move.announced (m : Move db db') (h : db.Sound) (ha : Announced db) : Announced db' := by
  cases m with
  | aside hb hp ht ho hn =>
    refine ⟨?_, ?_, ?_⟩
    · rw [ht, ho]
      exact ha.integration
    · rw [ht, ho]
      exact ha.domain
    · rw [ht, ho]
      exact ha.nothing_else
  | @opened claim b p t hid hb hkey hp hpos ht htid =>
    have ha' : Announced (db.bound b p) := ⟨ha.integration, ha.domain, ha.nothing_else⟩
    refine ha'.logged (fun u hu => ?_) fun u hu huid => ?_
    · have := h.transition_drawn u hu
      omega
    · obtain ⟨p', hp', hpid', -⟩ := h.revisions u hu
      have hpid : p.problem_id = db.nextId := (congrArg Prod.fst hb).trans hid
      have := h.drawn hp'
      rw [hpid', huid, ht.problem_id, hpid] at this
      exact absurd this (lt_irrefl _)
  | @advanced claim p f t hp hact hid hrev ht htid =>
    have ha' : Announced (db.setProblem p.problem_id f) := ⟨ha.integration, ha.domain, ha.nothing_else⟩
    refine ha'.logged (fun u hu => ?_) fun u hu huid => ?_
    · have := h.transition_drawn u hu
      omega
    · rw [ht.revision, hrev]
      exact h.next_revision hp u hu (huid.trans ht.problem_id)
  | touched hid hf => exact ⟨ha.integration, ha.domain, ha.nothing_else⟩

theorem Moves.log (m : Moves db db') (h : db.Sound) (hj : Journaled db) (ha : Announced db) :
    Journaled db' ∧ Announced db' := by
  induction m with
  | refl => exact ⟨hj, ha⟩
  | tail m step ih =>
    have hs := Moves.sound m h
    exact ⟨step.journaled hs ih.1, step.announced hs ih.2⟩

/-- In the table, the transitions of a problem already stand in the order of their revisions. -/
theorem Journal.transitionLog_eq {i : ℕ} {s : ProblemState × SeverityClass} (h : Journal (db.rowsOf i) s) :
    db.transitionLog i = db.rowsOf i :=
  List.Pairwise.insertionSort_eq (h.increasing.imp fun hlt => hlt.le)

/-- **Key result**: after every run, each problem is what its transitions in the order of their
revisions say: they start by opening it, none leaves `resolved`, and they replay to its state
and severity. Each transition has exactly one integration event and exactly one domain event,
stamped by the transaction of the transition, and the outbox holds no other message. -/
theorem transition_log_is_projection (bridge : BridgeVersion) (run : List Action) :
    let db := MonitoringDb.exec bridge run
    (∀ p ∈ db.problems, Journal (db.transitionLog p.problem_id) (p.status.state, p.severity_class)) ∧
      Announced db := by
  have hlog := (exec_moves bridge run).log (MonitoringDb.sound_empty bridge)
    (by simp [Journaled, MonitoringDb.empty]) (by constructor <;> simp [MonitoringDb.empty])
  refine ⟨fun p hp => ?_, hlog.2⟩
  have hj := hlog.1 p hp
  rwa [hj.transitionLog_eq]

end JLMirror.Monitoring
