import JLMirror.Foundations.Table
import JLMirror.Alerting.Alert
import Mathlib.Data.List.MinMax
import Mathlib.Data.List.Infix

/-!
# Notification delivery: intent, dispatch, evidence, projection

The tables of the notification schema and the helpers of `shared/notification.py` that the
dispatch worker and the provider callbacks share.

## The model

* Ids made from `secrets.token_urlsafe` are natural numbers drawn from one counter: a new id
  differs from all ids drawn before. A logical dispatch id is the tree of its own text,
  `dispatch:{intent}:1` with a `:retry:{n}` for each retry.
* `now` is the start of the transaction; the tables are lists in insertion order, and
  `ORDER BY … LIMIT 1` is the first row that is extremal.
* The unique constraints and foreign keys are checked where a row is inserted, and raise.

## Honest scope

Columns that none of these functions reads (the intent's reason, hash and authority
snapshot, the attempt's evidence envelope) are left out.
-/

namespace JLMirror.Notification

open JLMirror.Foundations JLMirror.Alerting

/-- The attempts of one intent at most. -/
def MAX_ATTEMPTS : ℕ := 3

/-- `dispatch:{intent}:1`, and `{logical}:retry:{attempt}` for the retries. -/
inductive LogicalDispatchId where
  /-- The first dispatch of an intent. -/
  | dispatch (intent : ℕ)
  /-- The retry number `attempt` after the dispatch `of`. -/
  | retry (of : LogicalDispatchId) (attempt : ℕ)
  deriving DecidableEq

/-- The intent that a logical dispatch id names. -/
def LogicalDispatchId.intent : LogicalDispatchId → ℕ
  | .dispatch i => i
  | .retry of _ => of.intent

theorem LogicalDispatchId.retry_ne (l : LogicalDispatchId) (k : ℕ) : l ≠ .retry l k := by
  induction l generalizing k with
  | dispatch i => simp
  | retry of n ih =>
    intro h
    obtain ⟨hof, -⟩ := LogicalDispatchId.retry.inj h
    exact ih n hof

/-- States of an attempt, of evidence and of the projection. -/
inductive DeliveryState where
  | dispatching
  | sent
  | provider_accepted
  | delivered
  | external_read_observed
  | failed
  | unknown
  deriving DecidableEq

/-- `_STATE_RANK`. -/
def DeliveryState.rank : DeliveryState → ℕ
  | .dispatching | .unknown | .failed => 0
  | .sent => 1
  | .provider_accepted => 2
  | .delivered => 3
  | .external_read_observed => 4

/-- The states of `notification_dispatch_outbox`. -/
inductive OutboxState where
  | pending
  | claimed
  | done
  | dead
  deriving DecidableEq

/-- `notification.notification_intent`. -/
structure NotificationIntent where
  tenant_id : String
  notification_intent_id : ℕ
  alert_id : String
  destination_ref : String
  channel_class : ChannelClass
  payload_ref : String
  deriving DecidableEq

/-- `notification.notification_dispatch_outbox`. -/
structure DispatchRow where
  tenant_id : String
  dispatch_id : ℕ
  notification_intent_id : ℕ
  logical_dispatch_id : LogicalDispatchId
  attempt_number : ℕ
  state : OutboxState
  claim_token : Option ℕ
  next_attempt_at : ℕ
  created_at : ℕ
  deriving DecidableEq

/-- `notification.notification_attempt`. -/
structure NotificationAttempt where
  tenant_id : String
  notification_attempt_id : ℕ
  notification_intent_id : ℕ
  attempt_number : ℕ
  outcome : DeliveryState
  provider_message_ref : Option String
  failure_class : Option String
  dispatch_identity : LogicalDispatchId
  completed_at : ℕ
  deriving DecidableEq

/-- `notification.notification_provider_evidence`. -/
structure ProviderEvidence where
  tenant_id : String
  notification_evidence_id : ℕ
  notification_intent_id : ℕ
  normalized_state : DeliveryState
  provider_callback_id : Option String
  provider_message_ref : Option String
  observed_at : ℕ
  deriving DecidableEq

/-- `notification.notification_projection`. -/
structure NotificationProjection where
  tenant_id : String
  notification_intent_id : ℕ
  current_state : DeliveryState
  last_attempt_id : Option ℕ
  last_evidence_id : Option ℕ
  attempt_count : ℕ
  delivered_at : Option ℕ
  external_read_observed_at : Option ℕ
  retry_required : Bool
  fallback_action_required : Bool
  projection_revision : ℕ
  deriving DecidableEq

/-- `notification.provider_ref_binding`. -/
structure ProviderRefBinding where
  provider_message_ref : String
  tenant_id : String
  notification_intent_id : ℕ
  deriving DecidableEq

/-- What the dispatch reads of `alerting.alert`. -/
structure AlertRef where
  tenant_id : String
  alert_id : String
  monitoring_source_id : String
  deriving DecidableEq

/-- `monitoring.maintenance_window`; `source_ids` is `none` for all sources of the tenant. -/
structure MaintenanceWindow where
  tenant_id : String
  source_ids : Option (List String)
  starts_at : ℕ
  ends_at : ℕ
  cancelled_at : Option ℕ
  deriving DecidableEq

/-- The tables the worker reads and writes. -/
structure Store where
  intents : List NotificationIntent
  outbox : List DispatchRow
  attempts : List NotificationAttempt
  evidence : List ProviderEvidence
  projections : List NotificationProjection
  refBindings : List ProviderRefBinding
  alerts : List AlertRef
  windows : List MaintenanceWindow
  snoozes : List AlertSnooze
  /-- The next number of `secrets.token_urlsafe`. -/
  nextToken : ℕ
  deriving DecidableEq

/-- The empty database. -/
def Store.empty : Store := ⟨[], [], [], [], [], [], [], [], [], 0⟩

/-! ### Suppression -/

/-- `monitoring.g20_is_in_maintenance`. -/
def g20_is_in_maintenance (now : ℕ) (tenant_id source_id : String) (s : Store) : Bool :=
  s.windows.any fun w =>
    w.tenant_id = tenant_id ∧ w.cancelled_at = none ∧ w.starts_at ≤ now ∧ now ≤ w.ends_at ∧
      (w.source_ids = none ∨ ∃ ids ∈ w.source_ids, source_id ∈ ids)

/-! ### The dispatch outbox -/

/-- A pending row whose time has come. -/
def DispatchRow.due (now : ℕ) (r : DispatchRow) : Bool := r.state = .pending ∧ r.next_attempt_at ≤ now

/-- The primary key of the outbox. -/
def DispatchRow.key (r : DispatchRow) : String × ℕ := (r.tenant_id, r.dispatch_id)

/-- A claimed row after its attempt. -/
def DispatchRow.finished (token : ℕ) (r : DispatchRow) : DispatchRow :=
  { r with state := .done, claim_token := some token }

/-- The row that `claim_dispatch` picks: `ORDER BY created_at LIMIT 1` of the due rows. -/
def oldestDue (now : ℕ) (s : Store) : Option DispatchRow :=
  (s.outbox.filter (·.due now)).argmin (·.created_at)

/-- What `claim_dispatch` does to the row it picked. -/
def claim_dispatch (row : DispatchRow) (s : Store) : Store :=
  { s with
    outbox := updateWhere (fun r => r.key = row.key)
      (fun r => { r with state := .claimed, claim_token := some s.nextToken }) s.outbox
    nextToken := s.nextToken + 1 }

/-- `max(states, key=_STATE_RANK, default=None)`: the first of the highest rank. -/
def bestEvidence (states : List DeliveryState) : Option DeliveryState := states.argmax DeliveryState.rank

/-- The projection row that `_recompute_projection` writes when none exists. -/
def projectionOf (tenant_id : String) (intent_id : ℕ) (s : Store) : NotificationProjection :=
  let attempts := s.attempts.filter fun a => a.tenant_id = tenant_id ∧ a.notification_intent_id = intent_id
  let evidence := s.evidence.filter fun e => e.tenant_id = tenant_id ∧ e.notification_intent_id = intent_id
  let last_attempt := attempts.argmax (·.attempt_number)
  let last_ev := evidence.argmax (·.observed_at)
  let attempt_state := (last_attempt.map (·.outcome)).getD .dispatching
  let current :=
    match bestEvidence (evidence.map (·.normalized_state)) with
    | none => attempt_state
    | some best => if attempt_state.rank < best.rank then best else attempt_state
  let terminal := current = .delivered ∨ current = .external_read_observed
  let exhausted := MAX_ATTEMPTS ≤ attempts.length
  let failed_last := attempt_state = .failed ∨ attempt_state = .unknown
  { tenant_id, notification_intent_id := intent_id, current_state := current
    last_attempt_id := last_attempt.map (·.notification_attempt_id)
    last_evidence_id := last_ev.map (·.notification_evidence_id)
    attempt_count := attempts.length
    delivered_at := ((evidence.filter (·.normalized_state = .delivered)).map (·.observed_at)).min?
    external_read_observed_at :=
      ((evidence.filter (·.normalized_state = .external_read_observed)).map (·.observed_at)).max?
    retry_required := ¬terminal ∧ failed_last ∧ ¬exhausted
    fallback_action_required := ¬terminal ∧ exhausted ∧ failed_last
    projection_revision := 1 }

/-- `_recompute_projection`: insert the row, or update it and keep the first timestamps. -/
def _recompute_projection (tenant_id : String) (intent_id : ℕ) (s : Store) : Store :=
  let new := projectionOf tenant_id intent_id s
  let isRow := fun (p : NotificationProjection) =>
    decide (p.tenant_id = tenant_id ∧ p.notification_intent_id = intent_id)
  if s.projections.any isRow then
    let update := fun (old : NotificationProjection) =>
      { new with
        delivered_at := old.delivered_at.or new.delivered_at
        external_read_observed_at := old.external_read_observed_at.or new.external_read_observed_at
        projection_revision := old.projection_revision + 1 }
    { s with projections := updateWhere isRow update s.projections }
  else { s with projections := s.projections ++ [new] }

/-- The global routing entry of `complete_dispatch`, `ON CONFLICT DO NOTHING`. -/
def bindProviderRef (tenant_id : String) (intent_id : ℕ) (ref : String) (s : Store) : Store :=
  let binding : ProviderRefBinding := ⟨ref, tenant_id, intent_id⟩
  if ref = "" ∨ s.refBindings.any fun b => b.provider_message_ref = ref then s
  else { s with refBindings := s.refBindings ++ [binding] }

/-- The end of the claimed row. -/
def finishRow (tenant_id : String) (dispatch_id claim_token : ℕ) (s : Store) : Store :=
  let claimed := fun (r : DispatchRow) => decide (r.key = (tenant_id, dispatch_id) ∧ r.claim_token = some claim_token)
  { s with outbox := updateWhere claimed (fun r => { r with state := .done }) s.outbox }

/-- The insert of the immutable attempt. -/
def insertAttempt (now : ℕ) (tenant_id : String) (intent_id attempt_number : ℕ)
    (logical_dispatch_id : LogicalDispatchId) (outcome : DeliveryState)
    (provider_message_ref failure_class : Option String) (s : Store) : Except String Store :=
  let attempt : NotificationAttempt :=
    { tenant_id, notification_attempt_id := s.nextToken, notification_intent_id := intent_id
      attempt_number, outcome, provider_message_ref, failure_class
      dispatch_identity := logical_dispatch_id, completed_at := now }
  if s.attempts.any fun a => a.tenant_id = tenant_id ∧ a.dispatch_identity = logical_dispatch_id then
    .error "notification_attempt_tenant_id_dispatch_identity_key"
  else if ¬s.intents.any fun i => i.tenant_id = tenant_id ∧ i.notification_intent_id = intent_id then
    .error "notification_attempt_tenant_id_notification_intent_id_fkey"
  else .ok { s with attempts := s.attempts ++ [attempt], nextToken := s.nextToken + 1 }

/-- The row of the next attempt. -/
def retryRow (now : ℕ) (tenant_id : String) (token intent_id attempt_number : ℕ)
    (logical_dispatch_id : LogicalDispatchId) : DispatchRow :=
  { tenant_id, dispatch_id := token, notification_intent_id := intent_id
    logical_dispatch_id := .retry logical_dispatch_id (attempt_number + 1)
    attempt_number := attempt_number + 1, state := .pending, claim_token := none
    next_attempt_at := now + 30 * attempt_number, created_at := now }

/-- The bounded retry, with its deterministic backoff in seconds. -/
def insertRetry (now : ℕ) (tenant_id : String) (intent_id attempt_number : ℕ)
    (logical_dispatch_id : LogicalDispatchId) (outcome : DeliveryState) (s : Store) : Except String Store :=
  if (outcome = .failed ∨ outcome = .unknown) ∧ attempt_number < MAX_ATTEMPTS then
    let retry := retryRow now tenant_id s.nextToken intent_id attempt_number logical_dispatch_id
    if s.outbox.any fun r => r.tenant_id = tenant_id ∧ r.logical_dispatch_id = retry.logical_dispatch_id then
      .error "notification_dispatch_outbox_tenant_id_logical_dispatch_id_key"
    else .ok { s with outbox := s.outbox ++ [retry], nextToken := s.nextToken + 1 }
  else .ok s

/-- `complete_dispatch`: the immutable attempt, the routing entry, the end of the claimed row, the
projection, and the bounded retry. -/
def complete_dispatch (now : ℕ) (tenant_id : String) (dispatch_id claim_token intent_id attempt_number : ℕ)
    (logical_dispatch_id : LogicalDispatchId) (outcome : DeliveryState)
    (provider_message_ref failure_class : Option String) (s : Store) : Except String Store := do
  let s ← insertAttempt now tenant_id intent_id attempt_number logical_dispatch_id outcome
    provider_message_ref failure_class s
  let s := bindProviderRef tenant_id intent_id (provider_message_ref.getD "") s
  let s := _recompute_projection tenant_id intent_id (finishRow tenant_id dispatch_id claim_token s)
  insertRetry now tenant_id intent_id attempt_number logical_dispatch_id outcome s

/-- `record_evidence`: append, deduplicated by callback id, and recompute the projection. -/
def record_evidence (now : ℕ) (tenant_id : String) (intent_id : ℕ) (normalized_state : DeliveryState)
    (provider_callback_id provider_message_ref : Option String) (s : Store) : Store :=
  if provider_callback_id ≠ none ∧
      s.evidence.any fun e => e.tenant_id = tenant_id ∧ e.provider_callback_id = provider_callback_id then s
  else
    let new : ProviderEvidence :=
      ⟨tenant_id, s.nextToken, intent_id, normalized_state, provider_callback_id, provider_message_ref, now⟩
    _recompute_projection tenant_id intent_id
      { s with evidence := s.evidence ++ [new], nextToken := s.nextToken + 1 }

/-- The creation of an intent with its first dispatch. -/
def create_intent (now : ℕ) (tenant_id alert_id destination_ref : String) (channel_class : ChannelClass)
    (payload_ref : String) (s : Store) : Store :=
  let intent : NotificationIntent :=
    ⟨tenant_id, s.nextToken, alert_id, destination_ref, channel_class, payload_ref⟩
  let dispatch : DispatchRow :=
    { tenant_id, dispatch_id := s.nextToken + 1, notification_intent_id := s.nextToken
      logical_dispatch_id := .dispatch s.nextToken, attempt_number := 1, state := .pending
      claim_token := none, next_attempt_at := now, created_at := now }
  { s with
    intents := s.intents ++ [intent], outbox := s.outbox ++ [dispatch], nextToken := s.nextToken + 2 }

/-! ### What the helpers leave alone -/

section Frame

variable (tenant_id : String) (intent_id : ℕ) (s : Store)

theorem recompute_projection_eq :
    ∃ rows, _recompute_projection tenant_id intent_id s = { s with projections := rows } := by
  simp only [_recompute_projection]
  split_ifs
  · exact ⟨_, rfl⟩
  · exact ⟨_, rfl⟩

theorem bindProviderRef_eq (ref : String) :
    ∃ rows, bindProviderRef tenant_id intent_id ref s = { s with refBindings := rows } := by
  simp only [bindProviderRef]
  split_ifs
  · exact ⟨s.refBindings, rfl⟩
  · exact ⟨_, rfl⟩

/-- Between the attempt and the retry, only the row of the dispatch changes. -/
theorem settle_eq (dispatch_id token : ℕ) (ref : String) :
    ∃ refs projections, _recompute_projection tenant_id intent_id
        (finishRow tenant_id dispatch_id token (bindProviderRef tenant_id intent_id ref s)) =
      { s with
        outbox := (finishRow tenant_id dispatch_id token s).outbox
        refBindings := refs, projections := projections } := by
  obtain ⟨refs, hrefs⟩ := bindProviderRef_eq tenant_id intent_id s ref
  rw [hrefs]
  obtain ⟨projections, hprojections⟩ := recompute_projection_eq tenant_id intent_id
    (finishRow tenant_id dispatch_id token { s with refBindings := refs })
  exact ⟨refs, projections, hprojections⟩

/-- Evidence changes neither the outbox nor the attempts. -/
theorem record_evidence_eq (now : ℕ) (state : DeliveryState) (callback ref : Option String) :
    ∃ evidence projections token, s.nextToken ≤ token ∧
      record_evidence now tenant_id intent_id state callback ref s =
        { s with evidence := evidence, projections := projections, nextToken := token } := by
  simp only [record_evidence]
  split_ifs
  · exact ⟨s.evidence, s.projections, s.nextToken, le_rfl, rfl⟩
  · obtain ⟨rows, hrows⟩ := recompute_projection_eq tenant_id intent_id
      { s with
        evidence := s.evidence ++ [⟨tenant_id, s.nextToken, intent_id, state, callback, ref, now⟩]
        nextToken := s.nextToken + 1 }
    exact ⟨_, rows, s.nextToken + 1, Nat.le_succ _, hrows⟩

end Frame

variable {logical : LogicalDispatchId}

/-- The attempt is inserted when its dispatch has none. -/
theorem insertAttempt_ok {tenant_id : String} {intent_id : ℕ} {s : Store}
    (hfirst : ∀ a ∈ s.attempts, a.tenant_id = tenant_id → a.dispatch_identity ≠ logical)
    (hintent : s.intents.any fun i => i.tenant_id = tenant_id ∧ i.notification_intent_id = intent_id) (now n : ℕ)
    (outcome : DeliveryState) (ref failure : Option String) :
    ∃ s', insertAttempt now tenant_id intent_id n logical outcome ref failure s = .ok s' := by
  simp only [insertAttempt]
  split_ifs with hany
  · obtain ⟨a, ha, hp⟩ := List.any_eq_true.1 hany
    obtain ⟨htenant, hid⟩ := of_decide_eq_true hp
    exact absurd hid (hfirst a ha htenant)
  · exact ⟨_, rfl⟩

variable {outcome : DeliveryState} {s' : Store}

theorem insertAttempt_eq {now : ℕ} {tenant_id : String} {intent_id n : ℕ} {ref failure : Option String} {s : Store}
    (h : insertAttempt now tenant_id intent_id n logical outcome ref failure s = .ok s') :
    ∃ a : NotificationAttempt, a.tenant_id = tenant_id ∧ a.dispatch_identity = logical ∧ a.outcome = outcome ∧
      s' = { s with attempts := s.attempts ++ [a], nextToken := s.nextToken + 1 } := by
  simp only [insertAttempt] at h
  split_ifs at h
  exact ⟨_, rfl, rfl, rfl, (Except.ok.inj h).symm⟩

theorem insertRetry_eq {now : ℕ} {tenant_id : String} {intent_id n : ℕ} {s : Store}
    (h : insertRetry now tenant_id intent_id n logical outcome s = .ok s') :
    s' = s ∨ s' = { s with
      outbox := s.outbox ++ [retryRow now tenant_id s.nextToken intent_id n logical]
      nextToken := s.nextToken + 1 } := by
  simp only [insertRetry] at h
  split_ifs at h
  · exact .inr (Except.ok.inj h).symm
  · exact .inl (Except.ok.inj h).symm

/-- The retry is inserted when its logical id is free. -/
theorem insertRetry_ok {tenant_id : String} {s : Store}
    (h : ∀ r ∈ s.outbox, r.tenant_id = tenant_id → ∀ k, r.logical_dispatch_id ≠ .retry logical k)
    (now intent_id n : ℕ) (outcome : DeliveryState) :
    ∃ s', insertRetry now tenant_id intent_id n logical outcome s = .ok s' := by
  simp only [insertRetry]
  split_ifs with _ hany
  · obtain ⟨r, hr, hp⟩ := List.any_eq_true.1 hany
    obtain ⟨htenant, hid⟩ := of_decide_eq_true hp
    exact absurd hid (h r hr htenant _)
  · exact ⟨_, rfl⟩
  · exact ⟨s, rfl⟩

/-! ### The constraints of the outbox -/

/-- What the keys and constraints of the tables, with the order of their inserts, maintain. -/
structure Consistent (s : Store) : Prop where
  /-- The primary key of the outbox. -/
  keys : (s.outbox.map (·.key)).Nodup
  /-- `UNIQUE (tenant_id, logical_dispatch_id)`. -/
  logical : (s.outbox.map fun r => (r.tenant_id, r.logical_dispatch_id)).Nodup
  /-- Tokens already drawn. -/
  drawn : ∀ r ∈ s.outbox, r.dispatch_id < s.nextToken ∧ r.logical_dispatch_id.intent < s.nextToken
  /-- `CHECK (attempt_number > 0)`. -/
  numbered : ∀ r ∈ s.outbox, 0 < r.attempt_number
  /-- An attempt is recorded together with the end of its row. -/
  attempted : ∀ a ∈ s.attempts, ∀ r ∈ s.outbox, r.tenant_id = a.tenant_id →
    r.logical_dispatch_id = a.dispatch_identity → r.state = .done
  /-- Every attempt is of a row. -/
  ofRow : ∀ a ∈ s.attempts, ∃ r ∈ s.outbox, r.tenant_id = a.tenant_id ∧ r.logical_dispatch_id = a.dispatch_identity
  /-- A retry follows the attempt of the dispatch it retries. -/
  retried : ∀ r ∈ s.outbox, ∀ l k, r.logical_dispatch_id = .retry l k →
    ∃ a ∈ s.attempts, a.tenant_id = r.tenant_id ∧ a.dispatch_identity = l

theorem Consistent.empty : Consistent Store.empty := by
  constructor <;> simp [Store.empty]

theorem Consistent.no_attempt {s : Store} (h : Consistent s) {r : DispatchRow} (hr : r ∈ s.outbox)
    (hstate : r.state ≠ .done) {a : NotificationAttempt} (ha : a ∈ s.attempts)
    (htenant : a.tenant_id = r.tenant_id) : a.dispatch_identity ≠ r.logical_dispatch_id :=
  fun hid => hstate (h.attempted a ha r hr htenant.symm hid.symm)

theorem Consistent.no_retry {s : Store} (h : Consistent s) {r : DispatchRow} (hr : r ∈ s.outbox)
    (hstate : r.state ≠ .done) {q : DispatchRow} (hq : q ∈ s.outbox) (htenant : q.tenant_id = r.tenant_id)
    (k : ℕ) : q.logical_dispatch_id ≠ .retry r.logical_dispatch_id k := by
  intro hretry
  obtain ⟨a, ha, hat, hid⟩ := h.retried q hq _ k hretry
  exact h.no_attempt hr hstate ha (hat.trans htenant) hid

/-- The tables the outbox does not depend on are free. -/
theorem Consistent.of_outbox {s : Store} (h : Consistent s) (houtbox : s'.outbox = s.outbox)
    (hattempts : s'.attempts = s.attempts) (htoken : s.nextToken ≤ s'.nextToken) : Consistent s' := by
  obtain ⟨keys, logical, drawn, numbered, attempted, ofRow, retried⟩ := h
  constructor
  · rwa [houtbox]
  · rwa [houtbox]
  · intro r hr
    rw [houtbox] at hr
    obtain ⟨h₁, h₂⟩ := drawn r hr
    exact ⟨h₁.trans_le htoken, h₂.trans_le htoken⟩
  · rwa [houtbox]
  · rwa [houtbox, hattempts]
  · rwa [houtbox, hattempts]
  · rwa [houtbox, hattempts]

/-- The creation of an intent keeps the tables consistent. -/
theorem Consistent.create_intent {s : Store} (h : Consistent s) (now : ℕ)
    (tenant_id alert_id destination_ref : String) (channel_class : ChannelClass) (payload_ref : String) :
    Consistent (create_intent now tenant_id alert_id destination_ref channel_class payload_ref s) := by
  obtain ⟨keys, logical, drawn, numbered, attempted, ofRow, retried⟩ := h
  have hnew : ∀ r ∈ s.outbox, r.logical_dispatch_id ≠ .dispatch s.nextToken := by
    intro r hr heq
    have hlt := (drawn r hr).2
    rw [heq] at hlt
    exact absurd hlt (lt_irrefl _)
  constructor
  · simp only [Notification.create_intent, List.map_append, List.map_cons, List.map_nil]
    refine List.Nodup.append keys (List.nodup_singleton _) ?_
    intro k hk hk'
    obtain ⟨r, hr, rfl⟩ := List.mem_map.1 hk
    have heq : r.dispatch_id = s.nextToken + 1 := congrArg Prod.snd (List.mem_singleton.1 hk')
    have hlt := (drawn r hr).1
    omega
  · simp only [Notification.create_intent, List.map_append, List.map_cons, List.map_nil]
    refine List.Nodup.append logical (List.nodup_singleton _) ?_
    intro k hk hk'
    obtain ⟨r, hr, rfl⟩ := List.mem_map.1 hk
    exact hnew r hr (congrArg Prod.snd (List.mem_singleton.1 hk'))
  · intro r hr
    simp only [Notification.create_intent, List.mem_append, List.mem_singleton] at hr ⊢
    rcases hr with hr | rfl
    · obtain ⟨h₁, h₂⟩ := drawn r hr
      exact ⟨by omega, by omega⟩
    · exact ⟨by simp, by simp [LogicalDispatchId.intent]⟩
  · intro r hr
    simp only [Notification.create_intent, List.mem_append, List.mem_singleton] at hr
    rcases hr with hr | rfl
    · exact numbered r hr
    · exact Nat.one_pos
  · intro a ha r hr htenant hid
    simp only [Notification.create_intent, List.mem_append, List.mem_singleton] at ha hr
    rcases hr with hr | rfl
    · exact attempted a ha r hr htenant hid
    · obtain ⟨q, hq, -, hqid⟩ := ofRow a ha
      exact absurd (hqid.trans hid.symm) (hnew q hq)
  · intro a ha
    obtain ⟨r, hr, hra⟩ := ofRow a ha
    exact ⟨r, List.mem_append_left _ hr, hra⟩
  · intro r hr l k hretry
    simp only [Notification.create_intent, List.mem_append, List.mem_singleton] at hr
    rcases hr with hr | rfl
    · exact retried r hr l k hretry
    · cases hretry

end JLMirror.Notification
