import JLMirror.Foundations.Run
import JLMirror.Monitoring.SyncSystem
import Mathlib.Order.WithBot

/-!
# The current projection of a metric

The current state of a metric points at an accepted observation. As a register it keeps the greatest
provider time that was written to it: a sample that is accepted by a poll writes its time, and nothing
else does. A sample whose item and clock are in the ledger already is taken for a replay of the poll,
and writes nothing; but the history fills the same ledger.

## The model

* `ObservationTables.newest` is the register of a definition: the time of the observation that its row
  points at, and `⊥` where there is none.
* `freshSamples` are the samples of a poll that the ledger does not have, the first of each key.
* `ProjectsNewest` is the law of a run: a successful poll leaves the register of a target at or above its
  sample, and at or above all that it was before.

## What is proved

* `persistObservation_newest`: a round of the loop is a join on one register, for a fresh sample.
* `newest_mono`: no step lowers a register.
* **Key result** (`projects_newest_iff`): a run has the law exactly if every sample that a successful poll
  returns for a target is reached by a fresh one of its definition, or by the register as it was.

## Honest scope

A sample names its definition and its item; that the item is the one of the definition is not needed.
-/

namespace JLMirror.Monitoring

open JLMirror.Foundations

/-! ### The register -/

/-- The provider time of an acceptance. -/
def ObservationAcceptance.time (a : ObservationAcceptance) : ProviderTime := toLex (a.provider_clock, a.provider_ns)

/-- The provider time of a sample. -/
def AcceptedObservation.time (obs : AcceptedObservation) : ProviderTime :=
  toLex (obs.observed_at_epoch_seconds, obs.observed_at_nanoseconds)

/-- The time of the observation that the row of a definition points at. -/
def ObservationTables.newest (t : ObservationTables) (definition_id : String) : WithBot ProviderTime :=
  (t.projected definition_id).elim ⊥ fun x => (x.2.time : WithBot ProviderTime)

/-- Every row points at an accepted observation. -/
def ObservationTables.Held (t : ObservationTables) : Prop :=
  ∀ c ∈ t.currentStates, ∃ a ∈ t.acceptances, a.observation_id = c.current_observation_id

variable {obs : AcceptedObservation}

/-- `newer` compares provider times. -/
theorem newer_iff {a : ObservationAcceptance} :
    obs.newer a.provider_clock a.provider_ns = true ↔ a.time < obs.time := by
  simp only [AcceptedObservation.newer, ObservationAcceptance.time, AcceptedObservation.time, Prod.Lex.toLex_lt_toLex,
    decide_eq_true_eq]
  omega

/-- The samples that the ledger does not have, the first of each key. -/
def freshSamples (claim : MetricCurrentStateClaim) :
    List ObservationAcceptance → List AcceptedObservation → List AcceptedObservation
  | _, [] => []
  | rows, obs :: samples =>
    if rows.any fun r => r.sample = (pollAcceptance claim obs).sample then freshSamples claim rows samples
    else obs :: freshSamples claim (rows ++ [pollAcceptance claim obs]) samples

namespace ObservationTables

variable {t t' : ObservationTables} {d : String}

variable {c : MetricCurrentState} {a : ObservationAcceptance}

theorem projected_some :
    t.projected d = some (c, a) ↔
      (t.currentStates.find? fun c => c.metric_definition_id = d) = some c ∧
        (t.acceptances.find? fun a => a.observation_id = c.current_observation_id) = some a := by
  simp only [projected, Option.bind_eq_bind, Option.bind_eq_some_iff, Option.pure_def, Option.some.injEq,
    Prod.mk.injEq]
  constructor
  · rintro ⟨c', hc, a', ha, rfl, rfl⟩
    exact ⟨hc, ha⟩
  · rintro ⟨hc, ha⟩
    exact ⟨c, hc, a, ha, rfl, rfl⟩

theorem newest_of_some (h : t.projected d = some (c, a)) : t.newest d = a.time := by
  simp [newest, h]

/-- A register is empty exactly where there is no row. -/
theorem Held.newest_none (h : t.Held) (hnone : t.projected d = none) :
    ∀ c ∈ t.currentStates, c.metric_definition_id ≠ d := by
  intro c hc hid
  cases hfind : t.currentStates.find? fun c => c.metric_definition_id = d with
  | none => exact absurd hid (by simpa using List.find?_eq_none.1 hfind c hc)
  | some c' =>
    obtain ⟨a, ha, haid⟩ := h c' (List.mem_of_find?_eq_some hfind)
    cases hacc : t.acceptances.find? fun a => a.observation_id = c'.current_observation_id with
    | none => exact absurd haid (by simpa using List.find?_eq_none.1 hacc a ha)
    | some a' => cases hnone.symm.trans (projected_some.2 ⟨hfind, hacc⟩)

/-- The observation that the row of a definition points at. -/
def pointer (t : ObservationTables) (definition_id : String) : Option String :=
  (t.currentStates.find? fun c => c.metric_definition_id = definition_id).map
    MetricCurrentState.current_observation_id

/-- A row that points as before, into a ledger in which every observation there was has its time, leaves
its register as it was. -/
theorem Held.newest_congr (h : t.Held) (hrow : t'.pointer d = t.pointer d)
    (hledger : ∀ id a, (t.acceptances.find? fun a => a.observation_id = id) = some a →
      ∃ a', (t'.acceptances.find? fun a => a.observation_id = id) = some a' ∧ a'.time = a.time) :
    t'.newest d = t.newest d := by
  unfold pointer at hrow
  cases hc : t.currentStates.find? fun c => c.metric_definition_id = d with
  | none =>
    have hc' : (t'.currentStates.find? fun c => c.metric_definition_id = d) = none := by simpa [hc] using hrow
    simp [newest, projected, hc, hc']
  | some c =>
    obtain ⟨c', hc', hpoint⟩ := Option.map_eq_some_iff.1 (hrow.trans (by rw [hc, Option.map_some]))
    cases hproj : t.projected d with
    | none => exact absurd (by simpa using List.find?_some hc) (h.newest_none hproj c (List.mem_of_find?_eq_some hc))
    | some x =>
      obtain ⟨hc₁, ha⟩ := projected_some.1 hproj
      obtain rfl : c = x.1 := Option.some.inj (hc.symm.trans hc₁)
      obtain ⟨a', ha', htime⟩ := hledger _ _ ha
      rw [newest_of_some hproj, newest_of_some (projected_some.2 ⟨hc', by rw [hpoint]; exact ha'⟩), htime]

/-- A row that comes to point at an accepted observation sets its register, and no other one. -/
theorem Held.newest_point (h : t.Held) (hledger : t'.acceptances = t.acceptances)
    (hrow : (t'.currentStates.find? fun c => c.metric_definition_id = d) = some c)
    (hacc : (t.acceptances.find? fun a => a.observation_id = c.current_observation_id) = some a)
    (hother : ∀ d', d' ≠ d → t'.pointer d' = t.pointer d') :
    t'.newest = Function.update t.newest d (a.time : WithBot ProviderTime) := by
  funext d'
  by_cases hd : d' = d
  · subst hd
    rw [Function.update_self, newest_of_some (projected_some.2 ⟨hrow, by rw [hledger]; exact hacc⟩)]
  · rw [Function.update_of_ne hd]
    exact h.newest_congr (hother d' hd) fun id r hr => ⟨r, by rw [hledger]; exact hr, rfl⟩

theorem Held.newest_accept (h : t.Held) (a : ObservationAcceptance) :
    ({ t with acceptances := t.acceptances ++ [a] } : ObservationTables).newest = t.newest :=
  funext fun d => h.newest_congr rfl fun id r hr => ⟨r, by rw [List.find?_append, hr, Option.some_or], rfl⟩

theorem Held.accept (h : t.Held) (a : ObservationAcceptance) :
    ({ t with acceptances := t.acceptances ++ [a] } : ObservationTables).Held := by
  intro c hc
  obtain ⟨r, hr, hid⟩ := h c hc
  exact ⟨r, List.mem_append_left _ hr, hid⟩

theorem Held.newest_mark (h : t.Held) (ids : List String) :
    ({ t with acceptances := markProjected ids t.acceptances } : ObservationTables).newest = t.newest := by
  refine funext fun d => h.newest_congr rfl fun id r hr => ?_
  have hfind := find?_updateWhere (p := fun a => ids.contains a.observation_id)
    (q := fun a => a.observation_id = id) (f := fun a => { a with history_projection_state := .projected })
    (fun _ _ => rfl) t.acceptances
  rw [hr, Option.map_some] at hfind
  refine ⟨_, hfind, ?_⟩
  split_ifs <;> rfl

theorem Held.mark (h : t.Held) (ids : List String) :
    ({ t with acceptances := markProjected ids t.acceptances } : ObservationTables).Held := by
  intro c hc
  obtain ⟨r, hr, hid⟩ := h c hc
  refine ⟨_, mem_updateWhere.2 ⟨r, hr, rfl⟩, ?_⟩
  split_ifs <;> exact hid

end ObservationTables

/-! ### The loop over the samples -/

variable {claim : MetricCurrentStateClaim} {s s' : ObservationTables × ℕ}

theorem insertTransition_newest {prior : Option String} {revision : ℕ}
    (h : insertTransition claim obs prior revision s = .ok s') :
    s'.1.currentStates = s.1.currentStates ∧ s'.1.acceptances = s.1.acceptances := by
  obtain ⟨_, -, -, rfl⟩ := insertTransition_ok h
  exact ⟨rfl, rfl⟩

theorem newest_of_tables {t u : ObservationTables}
    (h : u.currentStates = t.currentStates ∧ u.acceptances = t.acceptances) :
    u.newest = t.newest ∧ (u.Held ↔ t.Held) := by
  refine ⟨?_, ?_⟩
  · funext d
    simp only [ObservationTables.newest, ObservationTables.projected, h.1, h.2]
  · simp only [ObservationTables.Held, h.1, h.2]

/-- An accepted sample, with its acceptance in the ledger, is joined to the register of its definition. -/
theorem advanceCurrent_newest (hheld : s.1.Held)
    (hacc : (s.1.acceptances.find? fun a => a.observation_id = obs.observation_id) = some (pollAcceptance claim obs))
    (h : advanceCurrent claim obs s = .ok s') :
    s'.1.Held ∧ s'.1.acceptances = s.1.acceptances ∧
      s'.1.newest = Function.update s.1.newest obs.metric_definition_id
        (s.1.newest obs.metric_definition_id ⊔ (obs.time : WithBot ProviderTime)) := by
  have hmem := List.mem_of_find?_eq_some hacc
  rcases advanceCurrent_ok h with ⟨hnone, hrow⟩ | ⟨c, a, hsome, ⟨hnewer, hins⟩ | ⟨hnewer, rfl⟩⟩
  · -- The first row of the definition: its register was empty.
    have hno := hheld.newest_none hnone
    rcases hrow with ⟨⟨c, hc, hid⟩, -⟩ | ⟨-, hins⟩
    · exact absurd hid (hno c hc)
    · obtain ⟨hrows, hledger⟩ := insertTransition_newest hins
      have hfind : (s.1.currentStates.find? fun c => c.metric_definition_id = obs.metric_definition_id) = none := by
        simpa using hno
      have hempty : s.1.newest obs.metric_definition_id = ⊥ := by simp [ObservationTables.newest, hnone]
      refine ⟨?_, hledger, ?_⟩
      · rw [(newest_of_tables ⟨hrows, hledger⟩).2]
        intro c hc
        rcases List.mem_append.1 hc with hc | hc
        · exact hheld c hc
        · obtain rfl := List.mem_singleton.1 hc
          exact ⟨_, hmem, rfl⟩
      · rw [hempty, bot_sup_eq]
        refine hheld.newest_point hledger (c := firstState claim obs) ?_ hacc fun d hd => ?_
        · rw [hrows, List.find?_append, hfind, Option.none_or]
          simp [firstState]
        · have hd' : (firstState claim obs).metric_definition_id ≠ d := Ne.symm hd
          simp [ObservationTables.pointer, hrows, List.find?_append, hd']
  · -- The row advances: the time it pointed at was smaller.
    obtain ⟨hrows, hledger⟩ := insertTransition_newest hins
    obtain ⟨hc, -⟩ := ObservationTables.projected_some.1 hsome
    have hle : s.1.newest obs.metric_definition_id ≤ (obs.time : WithBot ProviderTime) := by
      rw [ObservationTables.newest_of_some hsome]
      exact WithBot.coe_le_coe.2 (newer_iff.1 hnewer).le
    have hfind : ∀ d, (s'.1.currentStates.find? fun c => c.metric_definition_id = d) =
        (s.1.currentStates.find? fun c => c.metric_definition_id = d).map fun r =>
          if r.metric_definition_id = obs.metric_definition_id then
            advancedState claim obs (c.projection_revision + 1) r else r := by
      intro d
      rw [hrows]
      simpa using find?_updateWhere
        (p := fun c : MetricCurrentState => decide (c.metric_definition_id = obs.metric_definition_id))
        (q := fun c => decide (c.metric_definition_id = d)) (f := advancedState claim obs (c.projection_revision + 1))
        (fun _ _ => rfl) s.1.currentStates
    have hcid : c.metric_definition_id = obs.metric_definition_id := by simpa using List.find?_some hc
    refine ⟨?_, hledger, ?_⟩
    · rw [(newest_of_tables ⟨hrows, hledger⟩).2]
      intro r' hr'
      obtain ⟨r, hr, rfl⟩ := mem_updateWhere.1 hr'
      split_ifs
      · exact ⟨_, hmem, rfl⟩
      · exact hheld r hr
    · rw [sup_eq_right.2 hle]
      refine hheld.newest_point hledger (c := advancedState claim obs (c.projection_revision + 1) c) ?_ hacc
        fun d hd => ?_
      · rw [hfind, hc, Option.map_some, if_pos hcid]
      · rw [ObservationTables.pointer, hfind, Option.map_map]
        refine Option.map_congr fun r hr => ?_
        have hrid : r.metric_definition_id = d := by simpa using List.find?_some hr
        simp [hrid, hd]
  · have hle : (obs.time : WithBot ProviderTime) ≤ s'.1.newest obs.metric_definition_id := by
      rw [ObservationTables.newest_of_some hsome]
      exact WithBot.coe_le_coe.2 (not_lt.1 fun hlt => by simp [newer_iff.2 hlt] at hnewer)
    rw [sup_eq_left.2 hle, Function.update_eq_self]
    exact ⟨hheld, rfl, rfl⟩

/-- A round passes over a sample that the ledger has, and joins a fresh one to the register of its
definition. -/
theorem persistObservation_newest (hheld : s.1.Held) (h : persistObservation claim s obs = .ok s') :
    (s.1.acceptances.any fun r => r.sample = (pollAcceptance claim obs).sample) = true ∧ s' = s ∨
      (s.1.acceptances.any fun r => r.sample = (pollAcceptance claim obs).sample) = false ∧ s'.1.Held ∧
        s'.1.acceptances = s.1.acceptances ++ [pollAcceptance claim obs] ∧
        s'.1.newest = Function.update s.1.newest obs.metric_definition_id
          (s.1.newest obs.metric_definition_id ⊔ (obs.time : WithBot ProviderTime)) := by
  rcases persistObservation_ok h with ⟨htaken, rfl⟩ | ⟨hfresh, hid, h⟩
  · exact Or.inl ⟨by simpa using htaken, rfl⟩
  · refine Or.inr ⟨by simpa using hfresh, ?_⟩
    have hacc : ((s.1.acceptances ++ [pollAcceptance claim obs]).find? fun a =>
        a.observation_id = obs.observation_id) = some (pollAcceptance claim obs) := by
      rw [List.find?_append, List.find?_eq_none.2 (by simpa using hid), Option.none_or]
      simp [pollAcceptance]
    obtain ⟨hheld', hledger, hnewest⟩ := advanceCurrent_newest (hheld.accept _) hacc h
    exact ⟨hheld', hledger, by rw [hnewest, hheld.newest_accept]⟩

/-- The loop: what a register reaches after it, it reached before, or a fresh sample of its definition
does. -/
theorem persist_fold_newest {samples : List AcceptedObservation} (hheld : s.1.Held)
    (h : samples.foldlM (persistObservation claim) s = .ok s') :
    s'.1.Held ∧ ∀ d (x : ProviderTime), (x : WithBot ProviderTime) ≤ s'.1.newest d ↔
      (x : WithBot ProviderTime) ≤ s.1.newest d ∨
        ∃ obs ∈ freshSamples claim s.1.acceptances samples, obs.metric_definition_id = d ∧ x ≤ obs.time := by
  induction samples generalizing s with
  | nil =>
    obtain rfl := foldlM_nil_ok.1 h
    exact ⟨hheld, fun d x => by simp [freshSamples]⟩
  | cons obs samples ih =>
    obtain ⟨s₁, hround, hrest⟩ := foldlM_cons_ok.1 h
    rcases persistObservation_newest hheld hround with ⟨htaken, rfl⟩ | ⟨hfresh, hheld₁, hledger, hnewest⟩
    · rw [freshSamples, if_pos htaken]
      exact ih hheld hrest
    · obtain ⟨hheld', hreach⟩ := ih hheld₁ hrest
      refine ⟨hheld', fun d x => ?_⟩
      rw [hreach, hledger, hnewest, freshSamples, if_neg (by simp [hfresh]), List.exists_mem_cons_iff]
      by_cases hd : d = obs.metric_definition_id
      · subst hd
        simp only [Function.update_self, le_sup_iff, WithBot.coe_le_coe, true_and, or_assoc]
      · simp [Function.update_of_ne hd, Ne.symm hd]

/-- The mark of the targets without a sample changes no register. -/
theorem staleUnreturned_newest (claim : MetricCurrentStateClaim) (returned : List String) {t : ObservationTables}
    (hheld : t.Held) : (staleUnreturned claim returned t).Held ∧ (staleUnreturned claim returned t).newest = t.newest := by
  constructor
  · intro c' hc'
    obtain ⟨c, hc, rfl⟩ := mem_updateWhere.1 hc'
    obtain ⟨a, ha, hid⟩ := hheld c hc
    refine ⟨a, ha, ?_⟩
    split_ifs <;> exact hid
  · refine funext fun d => hheld.newest_congr ?_ fun id a ha => ⟨a, ha, rfl⟩
    rw [ObservationTables.pointer, staleUnreturned,
      find?_updateWhere (f := fun c : MetricCurrentState => { c with evidence_state := .stale }) (fun _ _ => rfl), Option.map_map]
    refine Option.map_congr fun r _ => ?_
    simp only [Function.comp_apply]
    split_ifs <;> rfl

/-- What a successful poll does to the registers. -/
theorem applyObservations_newest {result : MetricCurrentStateResult} (hheld : s.1.Held) (hs : result.succeeded = true)
    (h : applyObservations claim result s = .ok s') :
    s'.1.Held ∧ ∀ d (x : ProviderTime), (x : WithBot ProviderTime) ≤ s'.1.newest d ↔
      (x : WithBot ProviderTime) ≤ s.1.newest d ∨
        ∃ obs ∈ freshSamples claim s.1.acceptances result.accepted_observations,
          obs.metric_definition_id = d ∧ x ≤ obs.time := by
  rw [applyObservations, if_pos hs] at h
  obtain ⟨x, hfold, h⟩ := bind_ok_iff.1 h
  obtain rfl := Except.ok.inj h
  obtain ⟨hheld', hreach⟩ := persist_fold_newest hheld hfold
  obtain ⟨hheld'', hnewest⟩ := staleUnreturned_newest claim
    (result.accepted_observations.map AcceptedObservation.metric_definition_id) hheld'
  exact ⟨hheld'', fun d x => by rw [hnewest]; exact hreach d x⟩

/-! ### The history and the ledger -/

/-- A row of the history changes no register. -/
theorem persistHistoryRow_newest {domain : Domain} {claim : MetricHistoryClaim} {s s' : HistoryPass}
    {row : ZabbixHistoryEvidence} (hheld : s.tables.Held) (h : persistHistoryRow domain claim s row = .ok s') :
    s'.tables.Held ∧ s'.tables.newest = s.tables.newest := by
  rcases persistHistoryRow_ok h with ⟨-, rfl⟩ | ⟨target, canonical, a, -, -, -, ⟨-, rfl⟩ | ⟨-, -, observations, -, rfl⟩⟩
  · exact ⟨hheld, rfl⟩
  · exact ⟨hheld, rfl⟩
  · obtain ⟨hnewest, hheld'⟩ := newest_of_tables (t := { s.tables with
        acceptances := markProjected [a.observation_id] (s.tables.acceptances ++ [a]) }) ⟨rfl, rfl⟩
    have haccept := hheld.accept a
    exact ⟨hheld'.2 (haccept.mark [a.observation_id]),
      hnewest.trans ((haccept.newest_mark [a.observation_id]).trans (hheld.newest_accept a))⟩

/-- A completion of the history changes no register. -/
theorem applyHistory_newest {domain : Domain} {now : Timestamp} {claim : MetricHistoryClaim}
    {result : MetricHistoryResult} {raw_rows : List ZabbixHistoryEvidence} (hheld : s.1.Held)
    (h : applyHistory domain now claim result raw_rows s = .ok s') : s'.1.Held ∧ s'.1.newest = s.1.newest := by
  obtain ⟨s₁, gaps, hrows, -, rfl⟩ := applyHistory_ok h
  obtain ⟨hnewest, hheld'⟩ := newest_of_tables (t := s₁.1) (u := { s₁.1 with
    streams := claim.targets.foldl (upsertStream now claim (historyCoverage result)) s₁.1.streams
    gaps := gaps.1 }) ⟨rfl, rfl⟩
  rw [hnewest, hheld']
  split_ifs at hrows
  · obtain ⟨p, hfold, hrows⟩ := bind_ok_iff.1 hrows
    obtain rfl := Except.ok.inj hrows
    obtain ⟨hnewest, hheld'⟩ := newest_of_tables (t := p.tables) (u := { p.tables with
      streams := p.stream_high.foldl (raiseStream now claim) p.tables.streams }) ⟨rfl, rfl⟩
    rw [hnewest, hheld']
    exact foldlM_invariant (P := fun p => p.tables.Held ∧ p.tables.newest = s.1.newest)
      (fun p row p' hp hround =>
        have hround := persistHistoryRow_newest hp.1 hround
        ⟨hround.1, hround.2.trans hp.2⟩) ⟨hheld, rfl⟩ hfold
  · obtain rfl := Except.ok.inj hrows
    exact ⟨hheld, rfl⟩

namespace Sync

variable {domain : Domain}

/-- The action commits the success of a current-state poll. -/
def CurrentPolled (domain : Domain) (s : System) (a : Action) (claim : MetricCurrentStateClaim)
    (result : MetricCurrentStateResult) : Prop :=
  s.Commits domain a (.currentState claim) (.currentState result) ∧ result.succeeded = true

/-- The poll returned the sample, for one of its targets. -/
def Returned (claim : MetricCurrentStateClaim) (result : MetricCurrentStateResult) (obs : AcceptedObservation) : Prop :=
  obs ∈ result.accepted_observations ∧
    ∃ target ∈ claim.targets, target.metric_definition_id = obs.metric_definition_id

/-- The registers after a run. -/
def newestAfter (domain : Domain) (bridge : BridgeVersion) (run : List Action) : String → WithBot ProviderTime :=
  (System.exec domain bridge run).db.observations.newest

/-- After each successful poll, the register of a target has its sample, and all that it had before. -/
def ProjectsNewest (domain : Domain) (bridge : BridgeVersion) (run : List Action) : Prop :=
  ∀ pre a post, run = pre ++ a :: post → ∀ claim result,
    CurrentPolled domain (System.exec domain bridge pre) a claim result → ∀ obs, Returned claim result obs →
      obs.time ≤ newestAfter domain bridge (pre ++ [a]) obs.metric_definition_id ∧
        ∀ earlier later, pre = earlier ++ later →
          newestAfter domain bridge earlier obs.metric_definition_id ≤
            newestAfter domain bridge (pre ++ [a]) obs.metric_definition_id

/-- The condition on a step: each sample for a target is reached by the register as it is, or by a sample of its
definition that the ledger does not have. -/
def samplesReach (domain : Domain) (s : System) (a : Action) : Prop :=
  ∀ claim result, CurrentPolled domain s a claim result → ∀ obs, Returned claim result obs →
    obs.time ≤ s.db.observations.newest obs.metric_definition_id ∨
      ∃ obs' ∈ freshSamples claim s.db.observations.acceptances result.accepted_observations,
        obs'.metric_definition_id = obs.metric_definition_id ∧ obs.time ≤ obs'.time

/-- A successful poll joins its fresh samples to the registers. -/
theorem CurrentPolled.newest {s : System} {a : Action} {claim : MetricCurrentStateClaim}
    {result : MetricCurrentStateResult} (h : CurrentPolled domain s a claim result) (hheld : s.db.observations.Held) :
    (s.step domain a).db.observations.Held ∧ ∀ d (x : ProviderTime),
      (x : WithBot ProviderTime) ≤ (s.step domain a).db.observations.newest d ↔
        (x : WithBot ProviderTime) ≤ s.db.observations.newest d ∨
          ∃ obs ∈ freshSamples claim s.db.observations.acceptances result.accepted_observations,
            obs.metric_definition_id = d ∧ x ≤ obs.time := by
  obtain ⟨now, n, rfl, hn, hc⟩ := commits_iff.1 h.1
  obtain ⟨-, x, happly, heq⟩ := complete_metric_current_state_ok hc
  rw [heq]
  exact applyObservations_newest hheld h.2 happly

/-- What a step does to the registers: a successful poll joins its fresh samples, and no other step does
anything. -/
theorem step_newest (s : System) (a : Action) (hheld : s.db.observations.Held) :
    (s.step domain a).db.observations.Held ∧
      ((s.step domain a).db.observations.newest = s.db.observations.newest ∨
        ∃ claim result, CurrentPolled domain s a claim result) := by
  rcases step_observations domain s a with heq | ⟨source_id, rfl, h⟩ | ⟨now, n, c, result, rfl, hn, hc⟩ |
    ⟨now, n, c, result, raw_rows, rfl, hn, hc⟩
  · rw [heq]
    exact ⟨hheld, Or.inl rfl⟩
  · obtain ⟨observations, -, h⟩ := bind_ok_iff.1 h
    rw [← Except.ok.inj h]
    obtain ⟨hnewest, hheld'⟩ := newest_of_tables (t := { s.db.observations with
        acceptances := markProjected ((s.db.observations.pending source_id).map ObservationAcceptance.observation_id)
          s.db.observations.acceptances }) (u := { s.db.observations with
        observations := observations
        acceptances := markProjected ((s.db.observations.pending source_id).map ObservationAcceptance.observation_id)
          s.db.observations.acceptances }) ⟨rfl, rfl⟩
    exact ⟨hheld'.2 (hheld.mark _), Or.inl (hnewest.trans (hheld.newest_mark _))⟩
  · cases hs : result.succeeded with
    | true =>
      have hpolled : CurrentPolled domain s (.complete now n (.currentState result)) c result :=
        ⟨commits_iff.2 ⟨now, n, rfl, hn, hc⟩, hs⟩
      exact ⟨(hpolled.newest hheld).1, Or.inr ⟨c, result, hpolled⟩⟩
    | false =>
      obtain ⟨-, x, happly, heq⟩ := complete_metric_current_state_ok hc
      obtain rfl : (s.db.observations, s.db.nextId) = x := by
        simpa [applyObservations, hs] using happly
      rw [heq]
      exact ⟨hheld, Or.inl rfl⟩
  · obtain ⟨-, x, happly, hchain⟩ := complete_metric_history_ok hc
    obtain ⟨hheld', hnewest⟩ := applyHistory_newest hheld happly
    rcases chainHistory_ok hchain with heq | ⟨o, -, -, -, heq⟩ <;> rw [heq] <;> exact ⟨hheld', Or.inl hnewest⟩

theorem newest_mono (s : System) (a : Action) (hheld : s.db.observations.Held) :
    s.db.observations.newest ≤ (s.step domain a).db.observations.newest := by
  rcases (step_newest s a hheld).2 with heq | ⟨claim, result, hpolled⟩
  · exact heq.ge
  · obtain ⟨-, hreach⟩ := hpolled.newest hheld
    intro d
    induction hx : s.db.observations.newest d using WithBot.recBotCoe with
    | bot => exact bot_le
    | coe x => exact (hreach d x).2 (Or.inl hx.ge)

theorem held_exec (bridge : BridgeVersion) (run : List Action) :
    (System.exec domain bridge run).db.observations.Held := by
  induction run using List.reverseRecOn with
  | nil => simp [System.exec, System.empty, SyncDb.empty, ObservationTables.Held]
  | append_singleton run a ih =>
    rw [System.exec, List.foldl_append]
    exact (step_newest _ a ih).1

theorem newestAfter_mono (bridge : BridgeVersion) (run run' : List Action) :
    newestAfter domain bridge run ≤ newestAfter domain bridge (run ++ run') := by
  induction run' using List.reverseRecOn with
  | nil => rw [List.append_nil]
  | append_singleton run' a ih =>
    refine ih.trans ?_
    rw [newestAfter, newestAfter, System.exec, System.exec, ← List.append_assoc, List.foldl_append (l := run ++ run')]
    exact newest_mono _ a (held_exec bridge (run ++ run'))

/-- **Key result**: a run has the law exactly if all its steps meet the condition. -/
theorem projects_newest_iff (domain : Domain) (bridge : BridgeVersion) (run : List Action) :
    ProjectsNewest domain bridge run ↔ Guarded (System.step domain) (samplesReach domain) (.empty bridge) run := by
  rw [guarded_iff]
  refine forall_congr' fun pre => forall_congr' fun a => forall_congr' fun post => forall_congr' fun _ => ?_
  refine forall₂_congr fun claim result => forall_congr' fun hpolled => forall₂_congr fun obs _ => ?_
  have hreach := (hpolled.newest (held_exec bridge pre)).2 obs.metric_definition_id obs.time
  have hafter : newestAfter domain bridge (pre ++ [a]) =
      ((System.exec domain bridge pre).step domain a).db.observations.newest := by
    rw [newestAfter, System.exec, List.foldl_append]
    rfl
  rw [hafter, hreach]
  refine and_iff_left fun earlier later hpre => ?_
  rw [← hafter, hpre, List.append_assoc]
  exact newestAfter_mono bridge earlier (later ++ [a]) obs.metric_definition_id

/-! ### Runs -/

/-- The history accepts a sample, and then the poll returns it. -/
def historyFirst : List Action :=
  polledOnce .float ++
    [.enqueueHistory 7 100 200 "mon-src_0", .claim 8 .history "mon-sync_10" "token-3",
      .complete 9 2 (.history { SyncResult.ok _ with coverage_state := .finalized } [⟨"42424", 150, 0, "1.5"⟩]),
      .enqueueCurrentState 10 "mon-src_0", .claim 11 .currentState "mon-sync_12" "token-4"]

/-- The poll of `historyFirst`. -/
def pollAfterHistory : Action :=
  .complete 12 3 (.currentState { SyncResult.ok _ with
    accepted_observations := [⟨"obs-1", "mon-def_8", "mon-res_5", "42424", 150, 0, .number, "1.5"⟩] })

/-- The poll succeeds with its sample, and its metric has no current state. -/
theorem historyFirst_not_projected :
    ¬ProjectsNewest Domain.tested .publicationBridge (historyFirst ++ [pollAfterHistory]) := by
  intro h
  have hlaw := (h historyFirst pollAfterHistory [] rfl _ _ ⟨rfl, rfl⟩ _
    ⟨List.mem_cons_self, _, List.mem_cons_self, rfl⟩).1
  revert hlaw
  decide

end Sync

end JLMirror.Monitoring
