import JLMirror.Monitoring.CurrentProjection

/-!
# The ledger of accepted observations

"Acceptance envelope → immutable metric_observation" (`shared/monitoring_repo.py`). Three writers share
the two tables: a current-state poll accepts its samples and leaves them `pending`, a history sync accepts
its rows and projects each at once, and a pass of the projection takes what is pending.

## The model

* `LedgerMove` is what these writers do to the tables, one statement or one loop at a time. The streams
  and the gaps are not looked at.
* `MetricObservation.records` is what an observation has to share with its acceptance.

## What is proved

* `step_moves`: every step of the system is a sequence of moves.
* `Ledger` holds after every move, hence after every run.
* **Key result** (`ledger_exact`): after every run no sample is accepted twice, and an acceptance is
  `projected` exactly if one observation records it.

## Honest scope

A transaction is one step. The completions of a source lock its row, and the pass takes its rows by
`FOR UPDATE SKIP LOCKED`, so no two writers hold the same acceptance.
-/

namespace JLMirror.Monitoring

open JLMirror.Foundations

/-! ### Moves -/

/-- What the writers do to the tables of the observations. -/
inductive LedgerMove : ObservationTables → ObservationTables → Prop where
  /-- A sample is accepted, under a new id. -/
  | accepted {t : ObservationTables} (a : ObservationAcceptance) (hpending : a.history_projection_state = .pending)
      (hsample : ∀ r ∈ t.acceptances, r.sample ≠ a.sample)
      (hid : ∀ r ∈ t.acceptances, r.observation_id ≠ a.observation_id) :
      LedgerMove t { t with acceptances := t.acceptances ++ [a] }
  /-- Pending acceptances become observations. -/
  | projected {t : ObservationTables} (rows : List ObservationAcceptance) (observations : List MetricObservation)
      (hrows : rows.Subperm t.acceptances) (hpending : ∀ a ∈ rows, a.history_projection_state = .pending)
      (hinsert : rows.foldlM (fun l a => insertObservation a.observation l) t.observations = .ok observations) :
      LedgerMove t { t with
        observations := observations
        acceptances := markProjected (rows.map ObservationAcceptance.observation_id) t.acceptances }
  /-- An accepted sample becomes the current state of its definition, or does not. -/
  | polled {t t' : ObservationTables} (claim : MetricCurrentStateClaim) (obs : AcceptedObservation) (n n' : ℕ)
      (hacc : (t.acceptances.find? fun a => a.observation_id = obs.observation_id) = some (pollAcceptance claim obs))
      (hadvance : advanceCurrent claim obs (t, n) = .ok (t', n')) : LedgerMove t t'
  /-- Rows of current states become stale. -/
  | staled {t : ObservationTables} (p : MetricCurrentState → Bool) :
      LedgerMove t { t with
        currentStates := updateWhere p (fun c => { c with evidence_state := .stale }) t.currentStates }
  /-- Streams and gaps. -/
  | aside {t : ObservationTables} (streams : List HistoryStream) (gaps : List HistoryGap) :
      LedgerMove t { t with streams := streams, gaps := gaps }

/-- Any number of moves. -/
abbrev LedgerMoves : ObservationTables → ObservationTables → Prop := Relation.ReflTransGen LedgerMove

variable {t : ObservationTables}

theorem LedgerMoves.keeps {P : ObservationTables → Prop} (move : ∀ t t', LedgerMove t t' → P t → P t')
    {t' : ObservationTables} (h : LedgerMoves t t') (ht : P t) : P t' := by
  induction h with
  | refl => exact ht
  | tail _ hmove ih => exact move _ _ hmove ih

variable {claim : MetricCurrentStateClaim} {s s' : ObservationTables × ℕ}

/-- A round of a poll: nothing, or the acceptance and what it does to the current state. -/
theorem persistObservation_moves {obs : AcceptedObservation} (h : persistObservation claim s obs = .ok s') :
    LedgerMoves s.1 s'.1 := by
  rcases persistObservation_ok h with ⟨-, rfl⟩ | ⟨hfresh, hid, hadvance⟩
  · exact .refl
  · have hacc : ((s.1.acceptances ++ [pollAcceptance claim obs]).find? fun a =>
        a.observation_id = obs.observation_id) = some (pollAcceptance claim obs) := by
      rw [List.find?_append, List.find?_eq_none.2 (by simpa using hid), Option.none_or]
      simp [pollAcceptance]
    exact .tail (.single (.accepted _ rfl hfresh hid)) (.polled claim obs s.2 s'.2 hacc hadvance)

/-- A completion of a poll. -/
theorem applyObservations_moves {result : MetricCurrentStateResult} (h : applyObservations claim result s = .ok s') :
    LedgerMoves s.1 s'.1 := by
  unfold applyObservations at h
  split_ifs at h
  · obtain ⟨x, hfold, h⟩ := bind_ok_iff.1 h
    rw [← Except.ok.inj h]
    have hx : LedgerMoves s.1 x.1 := foldlM_invariant (P := fun x => LedgerMoves s.1 x.1)
      (fun _ _ _ hs hround => hs.trans (persistObservation_moves hround)) .refl hfold
    exact hx.tail (.staled _)
  · rw [← Except.ok.inj h]

/-- A round of the history: nothing, or the acceptance with its observation. -/
theorem persistHistoryRow_moves {domain : Domain} {claim : MetricHistoryClaim} {s s' : HistoryPass}
    {row : ZabbixHistoryEvidence} (h : persistHistoryRow domain claim s row = .ok s') :
    LedgerMoves s.tables s'.tables := by
  rcases persistHistoryRow_ok h with ⟨-, rfl⟩ |
    ⟨target, canonical, a, -, ha, -, ⟨-, rfl⟩ | ⟨hfresh, hid, observations, hins, rfl⟩⟩
  · exact .refl
  · exact .refl
  · have hpending : a.history_projection_state = .pending := by rw [ha]; rfl
    have hprojected : LedgerMove { s.tables with acceptances := s.tables.acceptances ++ [a] } _ :=
      .projected [a] observations (List.singleton_subperm_iff.2 (by simp)) (by simpa using hpending)
        (foldlM_cons_ok.2 ⟨observations, hins, foldlM_nil_ok.2 rfl⟩)
    exact .tail (.single (.accepted a hpending hfresh hid)) hprojected

/-- A completion of the history. -/
theorem applyHistory_moves {domain : Domain} {now : Timestamp} {claim : MetricHistoryClaim}
    {result : MetricHistoryResult} {raw_rows : List ZabbixHistoryEvidence}
    (h : applyHistory domain now claim result raw_rows s = .ok s') : LedgerMoves s.1 s'.1 := by
  obtain ⟨s₁, gaps, hrows, -, rfl⟩ := applyHistory_ok h
  refine Relation.ReflTransGen.tail ?_ (.aside _ _)
  split_ifs at hrows
  · obtain ⟨p, hfold, hrows⟩ := bind_ok_iff.1 hrows
    rw [← Except.ok.inj hrows]
    have hp : LedgerMoves s.1 p.tables := foldlM_invariant (P := fun p => LedgerMoves s.1 p.tables)
      (fun _ _ _ hs hround => hs.trans (persistHistoryRow_moves hround)) .refl hfold
    exact hp.tail (.aside _ p.tables.gaps)
  · rw [← Except.ok.inj hrows]

variable {a : ObservationAcceptance}

theorem mem_pending {source_id : String} (h : a ∈ t.pending source_id) : a.history_projection_state = .pending := by
  have h := List.mem_of_mem_take h
  rw [List.mem_insertionSort, List.mem_filter, decide_eq_true_eq] at h
  exact h.2.2

theorem pending_subperm (t : ObservationTables) (source_id : String) :
    (t.pending source_id).Subperm t.acceptances :=
  ((List.take_sublist _ _).subperm.trans (List.perm_insertionSort _ _).subperm).trans
    List.filter_sublist.subperm

/-! ### The invariant -/

/-- The observation is that of the acceptance: its id, the clock of the provider, and the value. -/
def MetricObservation.records (a : ObservationAcceptance) (o : MetricObservation) : Bool :=
  o.observation_id = a.observation_id ∧ o.provider_clock = a.provider_clock ∧ o.provider_ns = a.provider_ns ∧
    o.value_kind = a.value_kind ∧ o.canonical_value = a.canonical_value

/-- No sample is accepted twice, and exactly the projected acceptances have an observation, and one each. -/
structure LedgerExact (t : ObservationTables) : Prop where
  accepted_once : (t.acceptances.map ObservationAcceptance.sample).Nodup
  projected_iff : ∀ a ∈ t.acceptances, a.history_projection_state = .projected ↔
    t.observations.countP (·.records a) = 1

/-- What is to hold of the two tables. -/
structure Ledger (t : ObservationTables) : Prop where
  samples : (t.acceptances.map ObservationAcceptance.sample).Nodup
  ids : (t.acceptances.map ObservationAcceptance.observation_id).Nodup
  observed_ids : (t.observations.map MetricObservation.observation_id).Nodup
  /-- An observation is that of a projected acceptance. -/
  origin : ∀ o ∈ t.observations, ∃ a ∈ t.acceptances, a.history_projection_state = .projected ∧ o = a.observation
  /-- A projected acceptance has its observation. -/
  observed : ∀ a ∈ t.acceptances, a.history_projection_state = .projected → a.observation ∈ t.observations

theorem Ledger.of_tables {u : ObservationTables} (h : Ledger t) (hacc : u.acceptances = t.acceptances)
    (hobs : u.observations = t.observations) : Ledger u := by
  constructor
  · exact hacc ▸ h.samples
  · exact hacc ▸ h.ids
  · exact hobs ▸ h.observed_ids
  · rw [hacc, hobs]
    exact h.origin
  · rw [hacc, hobs]
    exact h.observed

theorem Ledger.unobserved (h : Ledger t) (ha : a ∈ t.acceptances) (hpending : a.history_projection_state = .pending) :
    ∀ o ∈ t.observations, o.observation_id ≠ a.observation_id := by
  intro o ho hid
  obtain ⟨a', ha', hprojected, rfl⟩ := h.origin o ho
  obtain rfl := eq_of_key h.ids ha' ha hid
  cases hpending.symm.trans hprojected

theorem Ledger.exact (h : Ledger t) : LedgerExact t where
  accepted_once := h.samples
  projected_iff a ha := by
    constructor
    · intro hprojected
      have hself : a.observation.records a = true := by simp [MetricObservation.records, ObservationAcceptance.observation]
      -- The ids of observations are unique, so no other one records the acceptance.
      have hle : t.observations.countP (·.records a) ≤ 1 := by
        have hcount := List.nodup_iff_count_le_one.1 h.observed_ids a.observation_id
        rw [List.count, List.countP_map] at hcount
        refine (List.countP_mono_left fun o _ ho => ?_).trans hcount
        simp only [MetricObservation.records, decide_eq_true_eq] at ho
        simp [ho.1]
      have hpos : 0 < t.observations.countP (·.records a) :=
        List.countP_pos_iff.2 ⟨_, h.observed a ha hprojected, hself⟩
      omega
    · intro hcount
      obtain ⟨o, ho, hrec⟩ := List.countP_pos_iff.1 (by omega : 0 < t.observations.countP (·.records a))
      simp only [MetricObservation.records, decide_eq_true_eq] at hrec
      cases hstate : a.history_projection_state with
      | projected => rfl
      | pending => exact absurd hrec.1 (h.unobserved ha hstate o ho)

/-- A new pending acceptance. -/
theorem Ledger.accept (h : Ledger t) (hpending : a.history_projection_state = .pending)
    (hsample : ∀ r ∈ t.acceptances, r.sample ≠ a.sample)
    (hid : ∀ r ∈ t.acceptances, r.observation_id ≠ a.observation_id) :
    Ledger { t with acceptances := t.acceptances ++ [a] } where
  samples := nodup_map_append_new h.samples hsample
  ids := nodup_map_append_new h.ids hid
  observed_ids := h.observed_ids
  origin o ho := by
    obtain ⟨r, hr, horigin⟩ := h.origin o ho
    exact ⟨r, List.mem_append_left _ hr, horigin⟩
  observed r hr hprojected := by
    rcases List.mem_append.1 hr with hr | hr
    · exact h.observed r hr hprojected
    · rw [List.mem_singleton.1 hr, hpending] at hprojected
      cases hprojected

variable {rows : List ObservationAcceptance}

/-- Acceptances without observations get theirs. -/
theorem insertObservation_fold {observations observations' : List MetricObservation}
    (hnd : (rows.map ObservationAcceptance.observation_id).Nodup)
    (hnew : ∀ a ∈ rows, ∀ o ∈ observations, o.observation_id ≠ a.observation_id)
    (h : rows.foldlM (fun l a => insertObservation a.observation l) observations = .ok observations') :
    observations' = observations ++ rows.map ObservationAcceptance.observation := by
  induction rows generalizing observations with
  | nil => rw [foldlM_nil_ok.1 h, List.map_nil, List.append_nil]
  | cons a rows ih =>
    obtain ⟨l, hins, hrest⟩ := foldlM_cons_ok.1 h
    obtain ⟨hna, hnd⟩ := List.nodup_cons.1 hnd
    rcases insertObservation_ok hins with ⟨⟨o, ho, hid⟩, -⟩ | ⟨-, -, rfl⟩
    · exact absurd hid (hnew a List.mem_cons_self o ho)
    · refine (ih hnd (fun b hb o ho => ?_) hrest).trans (by simp)
      rcases List.mem_append.1 ho with ho | ho
      · exact hnew b (List.mem_cons_of_mem a hb) o ho
      · rw [List.mem_singleton.1 ho]
        exact fun heq => hna (List.mem_map.2 ⟨b, hb, heq.symm⟩)

theorem mem_markProjected {ids : List String} :
    a ∈ markProjected ids rows ↔ ∃ r ∈ rows,
      a = (if r.observation_id ∈ ids then { r with history_projection_state := .projected } else r) := by
  rw [markProjected, mem_updateWhere]
  simp only [List.contains_eq_mem, decide_eq_true_eq, eq_comm (b := a)]

theorem map_markProjected {κ : Type} {k : ObservationAcceptance → κ}
    (hk : ∀ a, k { a with history_projection_state := .projected } = k a) (ids : List String)
    (rows : List ObservationAcceptance) : (markProjected ids rows).map k = rows.map k :=
  map_updateWhere hk rows

/-- A projection of pending acceptances. -/
theorem Ledger.project (h : Ledger t) {observations : List MetricObservation} (hrows : rows.Subperm t.acceptances)
    (hpending : ∀ a ∈ rows, a.history_projection_state = .pending)
    (hinsert : rows.foldlM (fun l a => insertObservation a.observation l) t.observations = .ok observations) :
    Ledger { t with
      observations := observations
      acceptances := markProjected (rows.map ObservationAcceptance.observation_id) t.acceptances } := by
  have hmem : ∀ a ∈ rows, a ∈ t.acceptances := fun a ha => hrows.subset ha
  have hnd : (rows.map ObservationAcceptance.observation_id).Nodup := by
    obtain ⟨l, hperm, hsub⟩ := hrows
    exact (hperm.map _).nodup_iff.1 (h.ids.sublist (hsub.map _))
  have hnew : ∀ a ∈ rows, ∀ o ∈ t.observations, o.observation_id ≠ a.observation_id :=
    fun a ha => h.unobserved (hmem a ha) (hpending a ha)
  obtain rfl := insertObservation_fold hnd hnew hinsert
  refine ⟨?_, ?_, ?_, fun o ho => ?_, fun a ha hprojected => ?_⟩
  · exact (map_markProjected (k := ObservationAcceptance.sample) (fun _ => rfl) _ _).symm ▸ h.samples
  · exact (map_markProjected (k := ObservationAcceptance.observation_id) (fun _ => rfl) _ _).symm ▸ h.ids
  · rw [List.map_append, List.map_map]
    refine List.nodup_append.2 ⟨h.observed_ids, hnd, ?_⟩
    rintro _ hx _ hy rfl
    obtain ⟨o, ho, rfl⟩ := List.mem_map.1 hx
    obtain ⟨a, ha, heq⟩ := List.mem_map.1 hy
    exact hnew a ha o ho heq.symm
  · rcases List.mem_append.1 ho with ho | ho
    · obtain ⟨r, hr, hprojected, rfl⟩ := h.origin o ho
      refine ⟨_, mem_markProjected.2 ⟨r, hr, rfl⟩, ?_⟩
      split_ifs
      · exact ⟨rfl, rfl⟩
      · exact ⟨hprojected, rfl⟩
    · obtain ⟨r, hr, rfl⟩ := List.mem_map.1 ho
      refine ⟨_, mem_markProjected.2 ⟨r, hmem r hr, rfl⟩, ?_⟩
      rw [if_pos (List.mem_map_of_mem hr)]
      exact ⟨rfl, rfl⟩
  · obtain ⟨r, hr, rfl⟩ := mem_markProjected.1 ha
    split_ifs at hprojected ⊢ with hin
    · obtain ⟨r', hr', heq⟩ := List.mem_map.1 hin
      obtain rfl := eq_of_key h.ids (hmem r' hr') hr heq
      exact List.mem_append_right _ (List.mem_map.2 ⟨r', hr', rfl⟩)
    · exact List.mem_append_left _ (h.observed r hr hprojected)

/-- An accepted sample changes neither table when it becomes the current state. -/
theorem advanceCurrent_ledger {obs : AcceptedObservation} (h : advanceCurrent claim obs s = .ok s') :
    s'.1.acceptances = s.1.acceptances ∧ s'.1.observations = s.1.observations := by
  rcases advanceCurrent_ok h with ⟨-, ⟨-, rfl⟩ | ⟨-, hins⟩⟩ | ⟨c, a, -, ⟨-, hins⟩ | ⟨-, rfl⟩⟩
  · exact ⟨rfl, rfl⟩
  · obtain ⟨_, -, -, rfl⟩ := insertTransition_ok hins
    exact ⟨rfl, rfl⟩
  · obtain ⟨_, -, -, rfl⟩ := insertTransition_ok hins
    exact ⟨rfl, rfl⟩
  · exact ⟨rfl, rfl⟩

theorem LedgerMove.ledger {t' : ObservationTables} (m : LedgerMove t t') (h : Ledger t) : Ledger t' := by
  cases m with
  | accepted a hpending hsample hid => exact h.accept hpending hsample hid
  | projected rows observations hrows hpending hinsert => exact h.project hrows hpending hinsert
  | polled claim obs n n' hacc hadvance =>
    obtain ⟨hacc, hobs⟩ := advanceCurrent_ledger hadvance
    exact h.of_tables hacc hobs
  | staled p => exact h.of_tables rfl rfl
  | aside streams gaps => exact h.of_tables rfl rfl

/-! ### Every run -/

namespace Sync

variable {domain : Domain}

/-- What a step does to the observations. -/
theorem step_moves (domain : Domain) (s : System) (a : Action) :
    LedgerMoves s.db.observations (s.step domain a).db.observations := by
  rcases step_observations domain s a with heq | ⟨source_id, rfl, h⟩ | ⟨now, n, c, result, rfl, -, hc⟩ |
    ⟨now, n, c, result, raw_rows, rfl, -, hc⟩
  · rw [heq]
  · obtain ⟨observations, hfold, h⟩ := bind_ok_iff.1 h
    rw [← Except.ok.inj h]
    exact .single (.projected _ _ (pending_subperm _ source_id) (fun a => mem_pending) hfold)
  · obtain ⟨-, x, happly, heq⟩ := complete_metric_current_state_ok hc
    rw [heq]
    exact applyObservations_moves happly
  · obtain ⟨-, x, happly, hchain⟩ := complete_metric_history_ok hc
    rcases chainHistory_ok hchain with heq | ⟨o, -, -, -, heq⟩ <;> rw [heq] <;> exact applyHistory_moves happly

theorem exec_keeps {P : ObservationTables → Prop} (move : ∀ t t', LedgerMove t t' → P t → P t')
    (hempty : P ⟨[], [], [], [], [], []⟩) (bridge : BridgeVersion) (run : List Action) :
    P (System.exec domain bridge run).db.observations := by
  induction run using List.reverseRecOn with
  | nil => exact hempty
  | append_singleton run a ih =>
    rw [System.exec, List.foldl_append]
    exact LedgerMoves.keeps move (step_moves domain _ a) ih

/-- **Key result**: after every run of polls, history syncs and projections, in whatever order, each sample
is accepted at most once, and an acceptance is projected exactly if one observation has its id, clock and
value. -/
theorem ledger_exact (domain : Domain) (bridge : BridgeVersion) (run : List Action) :
    LedgerExact (System.exec domain bridge run).db.observations :=
  (exec_keeps (fun _ _ => LedgerMove.ledger)
    ⟨List.nodup_nil, List.nodup_nil, List.nodup_nil, by simp, by simp⟩ bridge run : Ledger _).exact

end Sync

end JLMirror.Monitoring
