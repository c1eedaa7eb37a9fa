import JLMirror.Monitoring.CurrentTransitions

/-!
# The evidence of current states

"Coverage degradation: claimed targets with no returned sample become stale" (`_persist_observations`).
The evidence of a row is to say whether the last poll saw its metric. A sample makes its row `current`
when it moves the row, and the sweep at the end makes the claimed targets without a sample `stale`. Between
the two are the rows that neither reaches: a sample that the ledger has, or that is no newer than the row,
leaves the evidence as it was, and so does the sweep for what is no target any more.

## The model

* `EvidenceExact` is the law of a poll: of the rows of its source generation, exactly those of the targets
  with a sample are `current`.
* `Reached` says that a poll moves the row of a definition: it has a fresh sample that is newer.
* `evidenceFollows` is the condition: a target with a sample has a row that is `current` or is reached, and
  what is no target has neither.

## What is proved

* `persist_fold_rows`: the loop over the samples moves the rows that are reached, and no others.
* **Key result** (`evidence_exact_iff`): a run has the law after each successful poll exactly if its steps
  meet the condition.
-/

namespace JLMirror.Monitoring

open JLMirror.Foundations

/-- The row is one of the source generation of the claim. -/
def MetricCurrentState.ofClaim (claim : MetricCurrentStateClaim) (c : MetricCurrentState) : Prop :=
  c.monitoring_source_id = claim.monitoring_source_id ∧
    c.source_instance_generation = claim.source_instance_generation

/-- The definition is a target of the claim. -/
def MetricCurrentStateClaim.isTarget (claim : MetricCurrentStateClaim) (definition_id : String) : Prop :=
  ∃ target ∈ claim.targets, target.metric_definition_id = definition_id

/-- The poll has a sample of the definition. -/
def MetricCurrentStateResult.samples (result : MetricCurrentStateResult) (definition_id : String) : Prop :=
  ∃ obs ∈ result.accepted_observations, obs.metric_definition_id = definition_id

/-- Exactly the rows of the targets with a sample are `current`. -/
def EvidenceExact (claim : MetricCurrentStateClaim) (result : MetricCurrentStateResult) (t : ObservationTables) : Prop :=
  ∀ c ∈ t.currentStates, c.ofClaim claim →
    (c.evidence_state = .current ↔ claim.isTarget c.metric_definition_id ∧ result.samples c.metric_definition_id)

/-- The poll has a sample that the ledger does not have, newer than the row of its definition. -/
def Reached (claim : MetricCurrentStateClaim) (result : MetricCurrentStateResult) (t : ObservationTables)
    (definition_id : String) : Prop :=
  ∃ obs ∈ freshSamples claim t.acceptances result.accepted_observations,
    obs.metric_definition_id = definition_id ∧ t.newest definition_id < obs.time

/-- What is to hold before a poll: among the rows of its source generation, those of the targets with a
sample are `current` or reached, and those of other definitions neither; and no row is made for a definition
that is no target. -/
structure EvidenceFollows (claim : MetricCurrentStateClaim) (result : MetricCurrentStateResult)
    (t : ObservationTables) : Prop where
  sampled : ∀ c ∈ t.currentStates, c.ofClaim claim → claim.isTarget c.metric_definition_id →
    result.samples c.metric_definition_id → c.evidence_state = .current ∨ Reached claim result t c.metric_definition_id
  untargeted : ∀ c ∈ t.currentStates, c.ofClaim claim → ¬claim.isTarget c.metric_definition_id →
    c.evidence_state ≠ .current ∧ ¬Reached claim result t c.metric_definition_id
  opened : ∀ d, t.row d = none → Reached claim result t d → claim.isTarget d

/-! ### The loop over the samples -/

/-- A row that was moved: it is `current`, and stays in its source generation. -/
def Moved (claim : MetricCurrentStateClaim) (c c' : Option MetricCurrentState) : Prop :=
  ∃ r, c' = some r ∧ r.evidence_state = .current ∧
    c.elim (r.ofClaim claim) fun r₀ =>
      r.monitoring_source_id = r₀.monitoring_source_id ∧ r.source_instance_generation = r₀.source_instance_generation

theorem Moved.trans {claim : MetricCurrentStateClaim} {c c' c'' : Option MetricCurrentState}
    (h : Moved claim c c') (h' : Moved claim c' c'') : Moved claim c c'' := by
  obtain ⟨r, rfl, -, hfrom⟩ := h
  obtain ⟨r', rfl, hcurrent, hstay⟩ := h'
  rw [Option.elim_some] at hstay
  refine ⟨r', rfl, hcurrent, ?_⟩
  cases c with
  | none => exact ⟨hstay.1.trans hfrom.1, hstay.2.trans hfrom.2⟩
  | some r₀ => exact ⟨hstay.1.trans hfrom.1, hstay.2.trans hfrom.2⟩

/-- The register of a definition and its row stay, or both are moved. -/
def RowStep (claim : MetricCurrentStateClaim) (t t' : ObservationTables) (d : String) : Prop :=
  t'.newest d = t.newest d ∧ t'.row d = t.row d ∨ t.newest d < t'.newest d ∧ Moved claim (t.row d) (t'.row d)

theorem RowStep.trans {claim : MetricCurrentStateClaim} {t u v : ObservationTables} {d : String}
    (h : RowStep claim t u d) (h' : RowStep claim u v d) : RowStep claim t v d := by
  rcases h with ⟨htime, hrow⟩ | ⟨hlt, hmoved⟩ <;> rcases h' with ⟨htime', hrow'⟩ | ⟨hlt', hmoved'⟩
  · exact Or.inl ⟨htime'.trans htime, hrow'.trans hrow⟩
  · exact Or.inr ⟨htime ▸ hlt', hrow ▸ hmoved'⟩
  · exact Or.inr ⟨htime' ▸ hlt, hrow' ▸ hmoved⟩
  · exact Or.inr ⟨hlt.trans hlt', hmoved.trans hmoved'⟩

variable {claim : MetricCurrentStateClaim} {s s' : ObservationTables × ℕ}

/-- An accepted sample moves the row of its definition, or no row. -/
theorem advanceCurrent_rowStep {obs : AcceptedObservation} (hheld : s.1.Held)
    (hacc : (s.1.acceptances.find? fun a => a.observation_id = obs.observation_id) = some (pollAcceptance claim obs))
    (h : advanceCurrent claim obs s = .ok s') (d : String) : RowStep claim s.1 s'.1 d := by
  obtain ⟨-, -, hnewest⟩ := advanceCurrent_newest hheld hacc h
  rcases advanceCurrent_ok h with ⟨hnone, ⟨-, rfl⟩ | ⟨hno, hins⟩⟩ | ⟨c, a, hsome, ⟨hnewer, hins⟩ | ⟨-, rfl⟩⟩
  · exact Or.inl ⟨rfl, rfl⟩
  · have hfind : s.1.row obs.metric_definition_id = none := by simpa [ObservationTables.row] using hno
    have hrow : s'.1.row d =
        if d = obs.metric_definition_id then some (firstState claim obs) else s.1.row d := by
      rw [ObservationTables.row, (insertTransition_newest hins).1, ObservationTables.row_opened hfind]
    rw [RowStep, hnewest, hrow]
    by_cases hd : d = obs.metric_definition_id
    · subst hd
      have hempty : s.1.newest obs.metric_definition_id = ⊥ := by simp [ObservationTables.newest, hnone]
      rw [Function.update_self, hempty, bot_sup_eq, if_pos rfl, hfind]
      exact Or.inr ⟨WithBot.bot_lt_coe _, firstState claim obs, rfl, rfl, rfl, rfl⟩
    · rw [Function.update_of_ne hd, if_neg hd]
      exact Or.inl ⟨rfl, rfl⟩
  · have hc : s.1.row obs.metric_definition_id = some c := (ObservationTables.projected_some.1 hsome).1
    have hrow : s'.1.row d =
        if d = obs.metric_definition_id then some (advancedState claim obs (c.projection_revision + 1) c)
        else s.1.row d := by
      rw [ObservationTables.row, (insertTransition_newest hins).1, ObservationTables.row_advanced hc]
    rw [RowStep, hnewest, hrow]
    by_cases hd : d = obs.metric_definition_id
    · subst hd
      have hlt : s.1.newest obs.metric_definition_id < (obs.time : WithBot ProviderTime) := by
        rw [ObservationTables.newest_of_some hsome]
        exact WithBot.coe_lt_coe.2 (newer_iff.1 hnewer)
      rw [Function.update_self, sup_eq_right.2 hlt.le, if_pos rfl, hc]
      exact Or.inr ⟨hlt, _, rfl, rfl, rfl, rfl⟩
    · rw [Function.update_of_ne hd, if_neg hd]
      exact Or.inl ⟨rfl, rfl⟩
  · exact Or.inl ⟨rfl, rfl⟩

/-- The loop over the samples moves exactly the rows whose register it raises. -/
theorem persist_fold_rows {samples : List AcceptedObservation} (hheld : s.1.Held)
    (h : samples.foldlM (persistObservation claim) s = .ok s') (d : String) : RowStep claim s.1 s'.1 d := by
  induction samples generalizing s with
  | nil =>
    obtain rfl := foldlM_nil_ok.1 h
    exact Or.inl ⟨rfl, rfl⟩
  | cons obs samples ih =>
    obtain ⟨s₁, hround, hrest⟩ := foldlM_cons_ok.1 h
    rcases persistObservation_ok hround with ⟨-, rfl⟩ | ⟨-, hid, hadvance⟩
    · exact ih hheld hrest
    · have hacc : ((s.1.acceptances ++ [pollAcceptance claim obs]).find? fun a =>
          a.observation_id = obs.observation_id) = some (pollAcceptance claim obs) := by
        rw [List.find?_append, List.find?_eq_none.2 (by simpa using hid), Option.none_or]
        simp [pollAcceptance]
      have hheld' := hheld.accept (pollAcceptance claim obs)
      have hstep := advanceCurrent_rowStep hheld' hacc hadvance d
      rw [RowStep, hheld.newest_accept] at hstep
      exact RowStep.trans (u := s₁.1) hstep (ih (advanceCurrent_newest hheld' hacc hadvance).1 hrest)

variable {result : MetricCurrentStateResult}

/-- What is reached is what the loop moves. -/
theorem reached_iff (hheld : s.1.Held) (h : result.accepted_observations.foldlM (persistObservation claim) s = .ok s')
    (d : String) : Reached claim result s.1 d ↔ s.1.newest d < s'.1.newest d := by
  have hreach := (persist_fold_newest hheld h).2 d
  constructor
  · rintro ⟨obs, hfresh, hid, hlt⟩
    exact hlt.trans_le ((hreach obs.time).2 (Or.inr ⟨obs, hfresh, hid, le_rfl⟩))
  · intro hlt
    obtain ⟨x, hx⟩ := WithBot.ne_bot_iff_exists.1 hlt.bot_lt.ne'
    rcases (hreach x).1 hx.le with hle | ⟨obs, hfresh, hid, hle⟩
    · exact absurd (hx ▸ hlt) hle.not_gt
    · exact ⟨obs, hfresh, hid, (hx ▸ hlt).trans_le (WithBot.coe_le_coe.2 hle)⟩

/-! ### The sweep -/

/-- The sweep reaches the targets without a sample. -/
def Swept (claim : MetricCurrentStateClaim) (result : MetricCurrentStateResult) (d : String) : Prop :=
  claim.isTarget d ∧ ¬result.samples d

theorem swept_iff {d : String} :
    (claim.targets.any fun target => target.metric_definition_id = d ∧
      !(result.accepted_observations.map AcceptedObservation.metric_definition_id).contains
        target.metric_definition_id) = true ↔ Swept claim result d := by
  simp only [List.any_eq_true, decide_eq_true_eq, Bool.not_eq_true', List.contains_eq_mem, decide_eq_false_iff_not,
    List.mem_map, Swept, MetricCurrentStateClaim.isTarget, MetricCurrentStateResult.samples]
  constructor
  · rintro ⟨target, htarget, rfl, hno⟩
    exact ⟨⟨target, htarget, rfl⟩, hno⟩
  · rintro ⟨⟨target, htarget, rfl⟩, hno⟩
    exact ⟨target, htarget, rfl, hno⟩

variable {t : ObservationTables}

/-- A row after the sweep is one before it, `stale` where it is swept. -/
theorem mem_staleUnreturned {c' : MetricCurrentState} :
    c' ∈ (staleUnreturned claim (result.accepted_observations.map AcceptedObservation.metric_definition_id)
      t).currentStates ↔
      ∃ c ∈ t.currentStates, Swept claim result c.metric_definition_id ∧ c' = { c with evidence_state := .stale } ∨
        ¬Swept claim result c.metric_definition_id ∧ c' = c := by
  rw [staleUnreturned, mem_updateWhere]
  refine exists_congr fun c => and_congr_right fun _ => ?_
  by_cases hswept : Swept claim result c.metric_definition_id
  · rw [if_pos (swept_iff.2 hswept)]
    simp [hswept, eq_comm]
  · rw [if_neg (by rw [swept_iff]; exact hswept)]
    simp [hswept, eq_comm]

/-! ### The law of a poll -/

theorem Chained.mem_iff_row (h : Chained t) {c : MetricCurrentState} :
    c ∈ t.currentStates ↔ t.row c.metric_definition_id = some c := by
  constructor
  · intro hc
    rw [ObservationTables.row, find?_of_key (k := MetricCurrentState.metric_definition_id) h.rows hc (by simp)]
    simp
  · exact List.mem_of_find?_eq_some

theorem row_definition {d : String} {c : MetricCurrentState} (h : t.row d = some c) :
    c.metric_definition_id = d := by simpa using List.find?_some h

theorem Chained.fold {samples : List AcceptedObservation} (hs : Chained s.1)
    (h : samples.foldlM (persistObservation claim) s = .ok s') : Chained s'.1 :=
  foldlM_invariant (P := fun x => Chained x.1)
    (fun _ _ _ hs hround => LedgerMoves.keeps (fun _ _ => LedgerMove.chained) (persistObservation_moves hround) hs) hs h

/-- After loop and sweep the law holds exactly if the condition did before. -/
theorem evidenceExact_iff (hs : Chained s.1)
    (h : result.accepted_observations.foldlM (persistObservation claim) s = .ok s') :
    EvidenceExact claim result (staleUnreturned claim
        (result.accepted_observations.map AcceptedObservation.metric_definition_id) s'.1) ↔
      EvidenceFollows claim result s.1 := by
  have hs' := hs.fold h
  have hreached := reached_iff hs.held h
  -- Where the row of a definition is not reached, the loop leaves it; where it is, it is moved.
  have left : ∀ d, ¬Reached claim result s.1 d → s'.1.row d = s.1.row d := fun d hno =>
    (persist_fold_rows hs.held h d).elim And.right fun hmoved => absurd ((hreached d).2 hmoved.1) hno
  have moved : ∀ d, Reached claim result s.1 d → Moved claim (s.1.row d) (s'.1.row d) := fun d hreach =>
    (persist_fold_rows hs.held h d).elim (fun hleft => absurd ((hreached d).1 hreach) hleft.1.not_gt) And.right
  constructor
  · intro hlaw
    have hlaw : ∀ c ∈ s'.1.currentStates, c.ofClaim claim → ¬Swept claim result c.metric_definition_id →
        (c.evidence_state = .current ↔
          claim.isTarget c.metric_definition_id ∧ result.samples c.metric_definition_id) :=
      fun c hc hof hswept => hlaw c (mem_staleUnreturned.2 ⟨c, hc, Or.inr ⟨hswept, rfl⟩⟩) hof
    refine ⟨fun c hc hof htarget hsamples => ?_, fun c hc hof htarget => ?_, fun d hrow hreach => ?_⟩
    · by_cases hreach : Reached claim result s.1 c.metric_definition_id
      · exact Or.inr hreach
      · have hc' : c ∈ s'.1.currentStates := hs'.mem_iff_row.2 ((left _ hreach).trans (hs.mem_iff_row.1 hc))
        exact Or.inl ((hlaw c hc' hof fun hswept => hswept.2 hsamples).2 ⟨htarget, hsamples⟩)
    · have hswept : ¬Swept claim result c.metric_definition_id := fun hswept => htarget hswept.1
      have hreach : ¬Reached claim result s.1 c.metric_definition_id := by
        intro hreach
        obtain ⟨r, hr, hcurrent, hstay⟩ := moved _ hreach
        rw [hs.mem_iff_row.1 hc, Option.elim_some] at hstay
        have hid := row_definition hr
        have hr' : r ∈ s'.1.currentStates := hs'.mem_iff_row.2 (hid.symm ▸ hr)
        exact htarget (hid ▸ ((hlaw r hr' ⟨hstay.1.trans hof.1, hstay.2.trans hof.2⟩ (hid.symm ▸ hswept)).1 hcurrent).1)
      refine ⟨fun hcurrent => ?_, hreach⟩
      have hc' : c ∈ s'.1.currentStates := hs'.mem_iff_row.2 ((left _ hreach).trans (hs.mem_iff_row.1 hc))
      exact htarget ((hlaw c hc' hof hswept).1 hcurrent).1
    · by_contra htarget
      obtain ⟨r, hr, hcurrent, hof⟩ := moved d hreach
      rw [hrow, Option.elim_none] at hof
      obtain rfl := row_definition hr
      exact htarget ((hlaw r (hs'.mem_iff_row.2 hr) hof fun hswept => htarget hswept.1).1 hcurrent).1
  · intro hfollows c' hc' hof
    obtain ⟨c, hc, ⟨hswept, rfl⟩ | ⟨hswept, rfl⟩⟩ := mem_staleUnreturned.1 hc'
    · exact iff_of_false (by simp) fun hsampled => hswept.2 hsampled.2
    · have hsamples : claim.isTarget c'.metric_definition_id → result.samples c'.metric_definition_id := fun htarget =>
        not_not.1 fun hno => hswept ⟨htarget, hno⟩
      have hrow := hs'.mem_iff_row.1 hc
      by_cases hreach : Reached claim result s.1 c'.metric_definition_id
      · obtain ⟨r, hr, hcurrent, hstay⟩ := moved _ hreach
        obtain rfl : c' = r := Option.some.inj (hrow.symm.trans hr)
        have htarget : claim.isTarget c'.metric_definition_id := by
          by_contra htarget
          cases hbefore : s.1.row c'.metric_definition_id with
          | none => exact htarget (hfollows.opened _ hbefore hreach)
          | some r₀ =>
            rw [hbefore, Option.elim_some] at hstay
            have hid := row_definition hbefore
            have hr₀ : r₀ ∈ s.1.currentStates := hs.mem_iff_row.2 (hid.symm ▸ hbefore)
            exact (hfollows.untargeted r₀ hr₀ ⟨hstay.1.symm.trans hof.1, hstay.2.symm.trans hof.2⟩
              (hid.symm ▸ htarget)).2 (hid.symm ▸ hreach)
        exact iff_of_true hcurrent ⟨htarget, hsamples htarget⟩
      · have hbefore : c' ∈ s.1.currentStates := hs.mem_iff_row.2 ((left _ hreach).symm.trans hrow)
        constructor
        · intro hcurrent
          have htarget : claim.isTarget c'.metric_definition_id := by
            by_contra htarget
            exact (hfollows.untargeted c' hbefore hof htarget).1 hcurrent
          exact ⟨htarget, hsamples htarget⟩
        · rintro ⟨htarget, hsampled⟩
          exact (hfollows.sampled c' hbefore hof htarget hsampled).resolve_right hreach

namespace Sync

/-- After each successful poll, exactly the rows of the targets with a sample are `current`. -/
def EvidenceLaw (domain : Domain) (bridge : BridgeVersion) (run : List Action) : Prop :=
  ∀ pre a post, run = pre ++ a :: post → ∀ claim result,
    CurrentPolled domain (System.exec domain bridge pre) a claim result →
      EvidenceExact claim result (System.exec domain bridge (pre ++ [a])).db.observations

/-- The condition on a step. -/
def evidenceFollows (domain : Domain) (s : System) (a : Action) : Prop :=
  ∀ claim result, CurrentPolled domain s a claim result → EvidenceFollows claim result s.db.observations

/-- A successful poll has the law exactly if it meets the condition. -/
theorem CurrentPolled.evidence_iff {domain : Domain} {s : System} {a : Action}
    (h : CurrentPolled domain s a claim result) (hs : Chained s.db.observations) :
    EvidenceExact claim result (s.step domain a).db.observations ↔
      EvidenceFollows claim result s.db.observations := by
  obtain ⟨now, n, rfl, hn, hc⟩ := commits_iff.1 h.1
  obtain ⟨-, x, happly, heq⟩ := complete_metric_current_state_ok hc
  rw [applyObservations, if_pos h.2] at happly
  obtain ⟨x', hfold, hx⟩ := bind_ok_iff.1 happly
  rw [heq, ← Except.ok.inj hx]
  exact evidenceExact_iff hs hfold

/-- **Key result**: a run has the law exactly if all its steps meet the condition. -/
theorem evidence_exact_iff (domain : Domain) (bridge : BridgeVersion) (run : List Action) :
    EvidenceLaw domain bridge run ↔ Guarded (System.step domain) (evidenceFollows domain) (.empty bridge) run := by
  rw [guarded_iff]
  refine forall_congr' fun pre => forall_congr' fun a => forall_congr' fun post => forall_congr' fun _ => ?_
  refine forall₂_congr fun claim result => forall_congr' fun hpolled => ?_
  rw [System.exec, List.foldl_append]
  exact hpolled.evidence_iff (chained_exec domain bridge pre)

/-! ### Runs -/

/-- A poll that returns the same sample of the item each time. -/
def samplePoll (obs_id : String) : MetricCurrentStateResult :=
  { SyncResult.ok _ with
    accepted_observations := [⟨obs_id, "mon-def_8", "mon-res_5", "42424", 150, 0, .number, "1.5"⟩] }

/-- The item is sampled, and misses the next poll. -/
def sampleGap : List Action :=
  polledOnce .float ++
    [.enqueueCurrentState 7 "mon-src_0", .claim 8 .currentState "mon-sync_10" "token-3",
      .complete 9 2 (.currentState (samplePoll "obs-1")),
      .enqueueCurrentState 10 "mon-src_0", .claim 11 .currentState "mon-sync_12" "token-4",
      .complete 12 3 (.currentState { SyncResult.ok _ with accepted_observations := [] }),
      .enqueueCurrentState 13 "mon-src_0", .claim 14 .currentState "mon-sync_13" "token-5"]

/-- The third poll returns the item with the sample it had, and its row stays `stale`. -/
theorem sampleGap_stays_stale :
    ¬EvidenceLaw Domain.tested .publicationBridge
      (sampleGap ++ [.complete 15 4 (.currentState (samplePoll "obs-2"))]) := by
  intro h
  have hlaw := h sampleGap (.complete 15 4 (.currentState (samplePoll "obs-2"))) [] rfl _ _ ⟨rfl, rfl⟩ _
    List.mem_cons_self ⟨rfl, rfl⟩
  have hcurrent := hlaw.2 ⟨⟨_, List.mem_cons_self, rfl⟩, ⟨_, List.mem_cons_self, rfl⟩⟩
  revert hcurrent
  decide

end Sync

end JLMirror.Monitoring
