import JLMirror.Monitoring.MetricDefinitions

/-!
# Metric current state: claim and completion

`PgMetricCurrentStateRepository` of `shared/monitoring_repo.py`. A poll inserts the acceptances of
its samples, which are unique for each clock of an item, advances the current state of a metric
to a newer sample, records the transition, and marks the targets without a sample as stale. Any
completion consumes the poll slot.

## The model

* The acceptance ledger is shared with the history (`acceptObservation`): a sample whose item and
  clock are there already is skipped, whoever accepted it.
* `persistObservation` is the body of the loop, in the order of the code.
-/

namespace JLMirror.Monitoring

open JLMirror.Foundations

/-- `CurrentMetricTarget`. -/
structure CurrentMetricTarget where
  metric_definition_id : String
  monitoring_resource_id : String
  provider_external_ref : String
  value_kind : MetricValueKind

/-- `MetricCurrentStateClaim`. -/
structure MetricCurrentStateClaim extends SyncClaim where
  current_state_poll_epoch : ℕ
  current_state_poll_generation : ℕ
  targets : List CurrentMetricTarget

/-- A sample of a collected poll. -/
structure AcceptedObservation where
  observation_id : String
  metric_definition_id : String
  monitoring_resource_id : String
  provider_external_ref : String
  observed_at_epoch_seconds : ℤ
  observed_at_nanoseconds : ℤ
  value_kind : MetricValueKind
  canonical_value : CanonicalValue

/-- `MetricCurrentStateResult`. -/
structure MetricCurrentStateResult extends SyncResult String where
  accepted_observations : List AcceptedObservation

/-! ### Claim -/

/-- The definitions that may be polled under current authority, with their bindings, in the order
of their items. -/
def MetricTables.pollable (t : MetricTables) (source_id generation : String) : List (MetricDefinition × ItemBinding) :=
  (t.definitions.flatMap fun d =>
      (t.bindings.filter fun b =>
        d.activeIn source_id generation ∧ d.definition_evidence_state = .current ∧ d.in_scope ∧
          b.metric_definition_id = d.metric_definition_id ∧ b.evidence_state = .current).map fun b => (d, b)).insertionSort
    fun x y => x.2.provider_external_ref ≤ y.2.provider_external_ref

/-- The slot of the operation is the next one of the source. -/
def currentStateSlot (o : OperationRow) (s : SourceRow) : Bool :=
  o.current_state_poll_epoch = some s.current_state_poll_epoch ∧
    o.current_state_poll_generation = some (s.current_state_poll_generation + 1)

/-- `claim_metric_current_state`. -/
def claim_metric_current_state (now : Timestamp) (op_id claim_token : String) (db : SyncDb) :
    Except String (MetricCurrentStateClaim × SyncDb) :=
  match db.core.claimable .current_state_poll currentStateSlot op_id with
  | none => .error "monitoring.current_state_not_claimable"
  | some (o, s, g) =>
    .ok ({ toSyncClaim := syncClaim claim_token op_id o s g
           current_state_poll_epoch := s.current_state_poll_epoch
           current_state_poll_generation := s.current_state_poll_generation + 1
           targets := (db.metrics.pollable o.monitoring_source_id o.source_instance_generation).map fun (d, b) =>
             ⟨d.metric_definition_id, d.monitoring_resource_id, b.provider_external_ref, d.value_kind⟩ },
      { db with core := db.core.markRunning now op_id claim_token })

/-! ### The acceptance ledger -/

/-- The unique key of a sample: the item, and the clock of the provider. -/
def ObservationAcceptance.sample (a : ObservationAcceptance) : String × String × String × ℤ × ℤ :=
  (a.monitoring_source_id, a.source_instance_generation, a.provider_external_ref, a.provider_clock, a.provider_ns)

/-- The `CHECK`s of an acceptance. -/
def ObservationAcceptance.check (a : ObservationAcceptance) : Bool :=
  0 < a.provider_clock ∧ 0 ≤ a.provider_ns ∧ a.provider_ns ≤ 999999999

/-- `INSERT … ON CONFLICT … DO NOTHING RETURNING`: the ledger with the acceptance, or nothing where
its sample is there already. -/
def acceptObservation (a : ObservationAcceptance) (rows : List ObservationAcceptance) :
    Except String (Option (List ObservationAcceptance)) := do
  require a.check checkViolation
  if rows.any fun r => r.sample = a.sample then .ok none
  else (insertUnless (fun r => r.observation_id = a.observation_id) uniqueViolation a rows).map some

/-- A sample is skipped where the ledger has it, and appended under an id that is new otherwise. -/
theorem acceptObservation_ok {a : ObservationAcceptance} {rows : List ObservationAcceptance}
    {accepted : Option (List ObservationAcceptance)} (h : acceptObservation a rows = .ok accepted) :
    a.check = true ∧
      ((∃ r ∈ rows, r.sample = a.sample) ∧ accepted = none ∨
        (∀ r ∈ rows, r.sample ≠ a.sample) ∧ (∀ r ∈ rows, r.observation_id ≠ a.observation_id) ∧
          accepted = some (rows ++ [a])) := by
  obtain ⟨_, hcheck, h⟩ := bind_ok_iff.1 h
  refine ⟨require_ok_iff.1 hcheck, ?_⟩
  split_ifs at h with htaken
  · exact Or.inl ⟨by simpa using htaken, (Except.ok.inj h).symm⟩
  · obtain ⟨rows', hins, rfl⟩ := map_ok_iff.1 h
    obtain ⟨hnew, rfl⟩ := insertUnless_ok_iff.1 hins
    exact Or.inr ⟨by simpa using htaken, fun r hr => by simpa using hnew r hr, rfl⟩

/-- The acceptance of a sample of a poll. -/
def pollAcceptance (claim : MetricCurrentStateClaim) (obs : AcceptedObservation) : ObservationAcceptance where
  observation_id := obs.observation_id
  monitoring_sync_operation_id := claim.monitoring_sync_operation_id
  monitoring_source_id := claim.monitoring_source_id
  source_instance_generation := claim.source_instance_generation
  monitoring_resource_id := obs.monitoring_resource_id
  metric_definition_id := obs.metric_definition_id
  provider_external_ref := obs.provider_external_ref
  provider_clock := obs.observed_at_epoch_seconds
  provider_ns := obs.observed_at_nanoseconds
  value_kind := obs.value_kind
  canonical_value := obs.canonical_value
  configuration_revision := claim.configuration_revision
  scope_revision := claim.scope_revision
  current_state_poll_epoch := some claim.current_state_poll_epoch
  current_state_poll_generation := some claim.current_state_poll_generation
  history_projection_state := .pending

/-! ### The projection -/

/-- The current state of a definition, joined with the acceptance of its observation. -/
def ObservationTables.projected (t : ObservationTables) (definition_id : String) :
    Option (MetricCurrentState × ObservationAcceptance) := do
  let c ← t.currentStates.find? fun c => c.metric_definition_id = definition_id
  let a ← t.acceptances.find? fun a => a.observation_id = c.current_observation_id
  return (c, a)

/-- The first row of a definition. -/
def firstState (claim : MetricCurrentStateClaim) (obs : AcceptedObservation) : MetricCurrentState where
  metric_definition_id := obs.metric_definition_id
  monitoring_resource_id := obs.monitoring_resource_id
  monitoring_source_id := claim.monitoring_source_id
  source_instance_generation := claim.source_instance_generation
  current_observation_id := obs.observation_id
  value_kind := obs.value_kind
  canonical_value := obs.canonical_value
  evidence_state := .current
  projection_revision := 1
  current_state_poll_epoch := claim.current_state_poll_epoch
  current_state_poll_generation := claim.current_state_poll_generation

/-- What a newer sample writes to the row. -/
def advancedState (claim : MetricCurrentStateClaim) (obs : AcceptedObservation) (revision : ℕ)
    (c : MetricCurrentState) : MetricCurrentState :=
  { c with
    current_observation_id := obs.observation_id
    value_kind := obs.value_kind
    canonical_value := obs.canonical_value
    evidence_state := .current
    projection_revision := revision
    current_state_poll_epoch := claim.current_state_poll_epoch
    current_state_poll_generation := claim.current_state_poll_generation }

/-- Inserts the transition of a definition to an observation. -/
def insertTransition (claim : MetricCurrentStateClaim) (obs : AcceptedObservation) (prior : Option String)
    (revision : ℕ) (s : ObservationTables × ℕ) : Except String (ObservationTables × ℕ) := do
  let transitions ← insertUnless
    (fun t => t.metric_definition_id = obs.metric_definition_id ∧ t.to_observation_id = obs.observation_id)
    uniqueViolation
    { current_state_transition_id := s.2, metric_definition_id := obs.metric_definition_id
      monitoring_resource_id := obs.monitoring_resource_id, monitoring_source_id := claim.monitoring_source_id
      source_instance_generation := claim.source_instance_generation, from_observation_id := prior
      to_observation_id := obs.observation_id, projection_revision := revision } s.1.transitions
  .ok ({ s.1 with transitions := transitions }, s.2 + 1)

variable {claim : MetricCurrentStateClaim} {obs : AcceptedObservation} {s s' : ObservationTables × ℕ}

theorem insertTransition_ok {prior : Option String} {revision : ℕ}
    (h : insertTransition claim obs prior revision s = .ok s') :
    ∃ transition, (∀ t ∈ s.1.transitions,
        ¬(t.metric_definition_id = obs.metric_definition_id ∧ t.to_observation_id = obs.observation_id)) ∧
      transition = { current_state_transition_id := s.2, metric_definition_id := obs.metric_definition_id
                     monitoring_resource_id := obs.monitoring_resource_id
                     monitoring_source_id := claim.monitoring_source_id
                     source_instance_generation := claim.source_instance_generation
                     from_observation_id := prior, to_observation_id := obs.observation_id
                     projection_revision := revision } ∧
      s' = ({ s.1 with transitions := s.1.transitions ++ [transition] }, s.2 + 1) := by
  obtain ⟨transitions, hins, h⟩ := bind_ok_iff.1 h
  obtain ⟨hnew, rfl⟩ := insertUnless_ok_iff.1 hins
  exact ⟨_, fun t ht => by simpa using hnew t ht, rfl, (Except.ok.inj h).symm⟩

/-- `newer`: the sample is after the accepted one. -/
def AcceptedObservation.newer (obs : AcceptedObservation) (prior_clock prior_ns : ℤ) : Bool :=
  obs.observed_at_epoch_seconds > prior_clock ∨
    (obs.observed_at_epoch_seconds = prior_clock ∧ obs.observed_at_nanoseconds > prior_ns)

/-- What an accepted sample does to the current state of its definition. -/
def advanceCurrent (claim : MetricCurrentStateClaim) (obs : AcceptedObservation) (s : ObservationTables × ℕ) :
    Except String (ObservationTables × ℕ) :=
  match s.1.projected obs.metric_definition_id with
  | none =>
    -- `ON CONFLICT DO NOTHING`: a row whose acceptance is missing stays as it is.
    if s.1.currentStates.any fun c => c.metric_definition_id = obs.metric_definition_id then .ok s
    else insertTransition claim obs none 1
      ({ s.1 with currentStates := s.1.currentStates ++ [firstState claim obs] }, s.2)
  | some (c, a) =>
    if obs.newer a.provider_clock a.provider_ns then
      insertTransition claim obs (some c.current_observation_id) (c.projection_revision + 1)
        ({ s.1 with
            currentStates := updateWhere (fun c => c.metric_definition_id = obs.metric_definition_id)
              (advancedState claim obs (c.projection_revision + 1)) s.1.currentStates }, s.2)
    else .ok s

/-- An accepted sample makes the first row of its definition, advances the row, or leaves it. -/
theorem advanceCurrent_ok (h : advanceCurrent claim obs s = .ok s') :
    (s.1.projected obs.metric_definition_id = none ∧
      ((∃ c ∈ s.1.currentStates, c.metric_definition_id = obs.metric_definition_id) ∧ s' = s ∨
        (∀ c ∈ s.1.currentStates, c.metric_definition_id ≠ obs.metric_definition_id) ∧
          insertTransition claim obs none 1
            ({ s.1 with currentStates := s.1.currentStates ++ [firstState claim obs] }, s.2) = .ok s')) ∨
    ∃ c a, s.1.projected obs.metric_definition_id = some (c, a) ∧
      (obs.newer a.provider_clock a.provider_ns = true ∧
          insertTransition claim obs (some c.current_observation_id) (c.projection_revision + 1)
            ({ s.1 with
                currentStates := updateWhere (fun c => c.metric_definition_id = obs.metric_definition_id)
                  (advancedState claim obs (c.projection_revision + 1)) s.1.currentStates }, s.2) = .ok s' ∨
        obs.newer a.provider_clock a.provider_ns = false ∧ s' = s) := by
  unfold advanceCurrent at h
  split at h
  · rename_i hnone
    split_ifs at h with hrow
    · exact Or.inl ⟨hnone, Or.inl ⟨by simpa using hrow, (Except.ok.inj h).symm⟩⟩
    · exact Or.inl ⟨hnone, Or.inr ⟨by simpa using hrow, h⟩⟩
  · rename_i c a hsome
    split_ifs at h with hnewer
    · exact Or.inr ⟨c, a, hsome, Or.inl ⟨hnewer, h⟩⟩
    · exact Or.inr ⟨c, a, hsome, Or.inr ⟨by simpa using hnewer, (Except.ok.inj h).symm⟩⟩

/-- A round of the loop over the samples. -/
def persistObservation (claim : MetricCurrentStateClaim) (s : ObservationTables × ℕ) (obs : AcceptedObservation) :
    Except String (ObservationTables × ℕ) := do
  match ← acceptObservation (pollAcceptance claim obs) s.1.acceptances with
  | none => .ok s
  | some acceptances => advanceCurrent claim obs ({ s.1 with acceptances := acceptances }, s.2)

/-- A round skips a sample that the ledger has, or accepts it and goes on to the projection. -/
theorem persistObservation_ok (h : persistObservation claim s obs = .ok s') :
    (∃ r ∈ s.1.acceptances, r.sample = (pollAcceptance claim obs).sample) ∧ s' = s ∨
      (∀ r ∈ s.1.acceptances, r.sample ≠ (pollAcceptance claim obs).sample) ∧
        (∀ r ∈ s.1.acceptances, r.observation_id ≠ obs.observation_id) ∧
        advanceCurrent claim obs
          ({ s.1 with acceptances := s.1.acceptances ++ [pollAcceptance claim obs] }, s.2) = .ok s' := by
  obtain ⟨accepted, haccept, h⟩ := bind_ok_iff.1 h
  rcases (acceptObservation_ok haccept).2 with ⟨htaken, rfl⟩ | ⟨hfresh, hid, rfl⟩
  · exact Or.inl ⟨htaken, (Except.ok.inj h).symm⟩
  · exact Or.inr ⟨hfresh, hid, h⟩

/-- The claimed targets without a returned sample become stale. -/
def staleUnreturned (claim : MetricCurrentStateClaim) (returned_defs : List String) (t : ObservationTables) :
    ObservationTables :=
  { t with
    currentStates := updateWhere
      (fun c => claim.targets.any fun target =>
        target.metric_definition_id = c.metric_definition_id ∧ !returned_defs.contains target.metric_definition_id)
      (fun c => { c with evidence_state := .stale }) t.currentStates }

/-- `_persist_observations`. -/
def _persist_observations (claim : MetricCurrentStateClaim) (result : MetricCurrentStateResult)
    (s : ObservationTables × ℕ) : Except String (ObservationTables × ℕ) := do
  let (t, nextId) ← result.accepted_observations.foldlM (persistObservation claim) s
  .ok (staleUnreturned claim (result.accepted_observations.map AcceptedObservation.metric_definition_id) t, nextId)

/-- What a completion does to the observations: nothing where the poll failed. -/
def applyObservations (claim : MetricCurrentStateClaim) (result : MetricCurrentStateResult)
    (s : ObservationTables × ℕ) : Except String (ObservationTables × ℕ) :=
  if result.succeeded then _persist_observations claim result s else .ok s

/-! ### Completion -/

/-- The fence of the slot: the source still sits at the predecessor. -/
def MetricCurrentStateClaim.slot (claim : MetricCurrentStateClaim) (s : SourceRow) : Bool :=
  s.current_state_poll_epoch = claim.current_state_poll_epoch ∧
    s.current_state_poll_generation + 1 = claim.current_state_poll_generation

/-- `complete_metric_current_state`. -/
def complete_metric_current_state (now : Timestamp) (claim : MetricCurrentStateClaim)
    (result : MetricCurrentStateResult) (db : SyncDb) : Except String SyncDb := do
  require (db.core.fence claim.toSyncClaim claim.slot) "monitoring.current_state_claim_lost"
  let (observations, nextId) ← applyObservations claim result (db.observations, db.nextId)
  .ok { db with
    core := db.core.finish now claim.toSyncClaim result.toSyncResult result.failure_class "metric_current_state"
      (fun s => { s with current_state_poll_generation := claim.current_state_poll_generation }) id
    observations := observations
    nextId := nextId }

theorem complete_metric_current_state_ok {now : Timestamp} {result : MetricCurrentStateResult} {db db' : SyncDb}
    (h : complete_metric_current_state now claim result db = .ok db') :
    db.core.fence claim.toSyncClaim claim.slot = true ∧
      ∃ s, applyObservations claim result (db.observations, db.nextId) = .ok s ∧
        db' = { db with
          core := db.core.finish now claim.toSyncClaim result.toSyncResult result.failure_class
            "metric_current_state"
            (fun s => { s with current_state_poll_generation := claim.current_state_poll_generation }) (fun o => o)
          observations := s.1
          nextId := s.2 } := by
  obtain ⟨_, hfence, h⟩ := bind_ok_iff.1 h
  obtain ⟨s, happly, h⟩ := bind_ok_iff.1 h
  exact ⟨require_ok_iff.1 hfence, s, happly, (Except.ok.inj h).symm⟩

end JLMirror.Monitoring
