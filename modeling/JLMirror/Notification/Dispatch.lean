import JLMirror.Foundations.Session
import JLMirror.Notification.Delivery

/-!
# The dispatch pass

`_process_pending` of the notification worker: "claims the durable outbox, runs the adapter
attempt, records immutable attempt + normalized evidence, recomputes the delivery projection".

## The model

* Each round of `while True` starts on an idle connection, claims the oldest due row in a
  new transaction, and commits or rolls back. A rollback takes the claim back.
* A pass has one instant, so that the windows, the snoozes and the due rows are those of
  that instant. The adapters answer the `n`-th message of a dispatch as they like.
* The loop has fuel. It ends when no row is due; running out of fuel is no result.

## What is proved

`dispatchOnce_some`: a round either changes nothing, because the row is withheld or its
message raises, or commits one attempt of the row (`Completed`), which keeps the tables
consistent and takes exactly this row off the due rows.
-/

namespace JLMirror.Notification

open JLMirror.Foundations JLMirror.Alerting

/-- The adapter that the channel class of an intent selects. -/
inductive Adapter where
  | email
  | slack
  | whatsapp
  deriving DecidableEq

/-- The choice of the adapter. -/
def adapterOf : ChannelClass → Adapter
  | .email_smtp => .email
  | .slack => .slack
  | .whatsapp_business => .whatsapp

/-- The arguments of `send_message`. -/
structure SendRequest where
  adapter : Adapter
  destination_ref : String
  template_name : String
  correlation_id : LogicalDispatchId
  deriving DecidableEq

/-- What `send_message` does. -/
inductive SendResult where
  /-- It returns a reply, with `raw.provider_status` or without. -/
  | reply (provider_message_ref : Option String) (provider_status : Option String)
  /-- It raises the adapter's own error. -/
  | adapterError (message : String)
  /-- It raises anything else. -/
  | raised
  deriving DecidableEq

/-- An attempt as `complete_dispatch` records it. -/
structure Attempt where
  outcome : DeliveryState
  provider_ref : Option String
  failure : Option String
  deriving DecidableEq

/-- The attempt of a result; `none` when an exception leaves the inner `try`, as the lookup of
`raw` does in a reply without it. -/
def SendResult.attempt : SendResult → Option Attempt
  | .reply ref (some _) => some ⟨.provider_accepted, ref, none⟩
  | .reply _ none => none
  | .adapterError message =>
    some ⟨if "transport".toList <:+: message.toList then .unknown else .failed, none,
      some (String.ofList (message.toList.take 128))⟩
  | .raised => none

/-- How the visit of a claimed row ends. -/
inductive VisitResult where
  /-- No intent with an alert: rolled back. -/
  | notFound
  /-- Its source is in maintenance: rolled back. -/
  | inMaintenance
  /-- Its alert is snoozed: rolled back. -/
  | snoozed
  /-- It was sent, and an exception came out: rolled back. -/
  | raised
  /-- It was sent and its attempt committed. -/
  | attempted (outcome : DeliveryState)
  deriving DecidableEq

/-- One round of the loop: the row it claimed and what became of it. -/
structure Visit where
  key : String × ℕ
  result : VisitResult
  deriving DecidableEq

/-- The message of the row was handed to an adapter. -/
def Visit.sent (v : Visit) : Bool :=
  match v.result with
  | .raised | .attempted _ => true
  | _ => false

/-- What a pass does not decide: its instant, and what the adapters do with the `n`-th message
of a dispatch. -/
structure Pass where
  now : ℕ
  send : SendRequest → ℕ → SendResult

/-- The join of `notification_intent` and `alerting.alert`. -/
def intentAlert (row : DispatchRow) (s : Store) : Option (NotificationIntent × AlertRef) := do
  let intent ← s.intents.find? fun i =>
    i.tenant_id = row.tenant_id ∧ i.notification_intent_id = row.notification_intent_id
  let alert ← s.alerts.find? fun a => a.tenant_id = intent.tenant_id ∧ a.alert_id = intent.alert_id
  return (intent, alert)

/-- The message of a row. -/
def requestOf (row : DispatchRow) (intent : NotificationIntent) : SendRequest :=
  ⟨adapterOf intent.channel_class, intent.destination_ref, intent.payload_ref, row.logical_dispatch_id⟩

/-- The messages that a pass has sent for a row. -/
def sentBefore (trace : List Visit) (row : DispatchRow) : ℕ :=
  trace.countP fun v => v.key = row.key ∧ v.sent

/-- `complete_dispatch` and the evidence of an accepted message. -/
def recordAttempt (now : ℕ) (row : DispatchRow) (token : ℕ) (a : Attempt) (s : Store) : Except String Store := do
  let s ← complete_dispatch now row.tenant_id row.dispatch_id token row.notification_intent_id
    row.attempt_number row.logical_dispatch_id a.outcome a.provider_ref a.failure s
  match a.provider_ref with
  | none | some "" => return s
  | some ref =>
    return record_evidence now row.tenant_id row.notification_intent_id .provider_accepted none (some ref) s

/-- The body of the loop for a claimed row, in the transaction that claimed it. -/
def dispatchClaimed (p : Pass) (trace : List Visit) (row : DispatchRow) (token : ℕ) (s : Session Store) :
    Session Store × VisitResult :=
  match intentAlert row s.view with
  | none => (s.rollback, .notFound)
  | some (intent, alert) =>
    if g20_is_in_maintenance p.now row.tenant_id alert.monitoring_source_id s.view then
      (s.rollback, .inMaintenance)
    else if g21_is_snoozed p.now row.tenant_id intent.alert_id s.view.snoozes then (s.rollback, .snoozed)
    else
      match (p.send (requestOf row intent) (sentBefore trace row)).attempt with
      | none => (s.rollback, .raised)
      | some a =>
        match recordAttempt p.now row token a s.view with
        | .error _ => (s.rollback, .raised)
        | .ok recorded => ((s.exec p.now fun _ => recorded).commit, .attempted a.outcome)

/-- One round: `none` when no row is due. -/
def dispatchOnce (p : Pass) (trace : List Visit) (s : Session Store) : Session Store × Option Visit :=
  match oldestDue p.now s.view with
  | none => (s.rollback, none)
  | some row =>
    let (s', result) := dispatchClaimed p trace row s.view.nextToken (s.exec p.now (claim_dispatch row))
    (s', some ⟨row.key, result⟩)

/-- `while True`, for `fuel` rounds at most: `none` when the fuel does not suffice. -/
def process_pending (p : Pass) : ℕ → List Visit → Session Store → Option (Session Store × List Visit)
  | 0, _, _ => none
  | fuel + 1, trace, s =>
    match dispatchOnce p trace s with
    | (s', none) => some (s', trace)
    | (s', some v) => process_pending p fuel (trace ++ [v]) s'

/-! ### What a recorded attempt does to the tables -/

/-- What the tables are once the attempt of the pending row `r` is recorded. -/
structure Completed (now : ℕ) (r : DispatchRow) (outcome : DeliveryState) (s s' : Store) : Prop where
  /-- The row is done, and at most one retry is added, due after the pass. -/
  outbox : ∃ token retries,
    s'.outbox = updateWhere (fun q => q.key = r.key)
        (DispatchRow.finished token) s.outbox ++ retries ∧
      retries.length ≤ 1 ∧ ∀ q ∈ retries, q.tenant_id = r.tenant_id ∧ q.state = .pending ∧
        q.logical_dispatch_id = .retry r.logical_dispatch_id (r.attempt_number + 1) ∧
        s.nextToken ≤ q.dispatch_id ∧ q.dispatch_id < s'.nextToken ∧ 0 < q.attempt_number ∧ now < q.next_attempt_at
  /-- One attempt is added. -/
  attempts : ∃ a, s'.attempts = s.attempts ++ [a] ∧ a.tenant_id = r.tenant_id ∧
    a.dispatch_identity = r.logical_dispatch_id ∧ a.outcome = outcome
  token : s.nextToken ≤ s'.nextToken
  intents : s'.intents = s.intents
  alerts : s'.alerts = s.alerts
  windows : s'.windows = s.windows
  snoozes : s'.snoozes = s.snoozes

variable {now : ℕ} {r : DispatchRow} {outcome : DeliveryState} {s s' : Store}

/-- Evidence after the attempt changes none of these tables. -/
theorem Completed.record_evidence (h : Completed now r outcome s s') (tenant_id : String) (intent_id : ℕ)
    (state : DeliveryState) (callback ref : Option String) :
    Completed now r outcome s (record_evidence now tenant_id intent_id state callback ref s') := by
  obtain ⟨evidence, projections, token, htoken, heq⟩ :=
    record_evidence_eq tenant_id intent_id s' now state callback ref
  obtain ⟨⟨t, retries, houtbox, hlength, hretries⟩, hattempts, htok, hi, ha, hw, hz⟩ := h
  rw [heq]
  refine ⟨⟨t, retries, houtbox, hlength, fun q hq => ?_⟩, hattempts, htok.trans htoken, hi, ha, hw, hz⟩
  obtain ⟨h₁, h₂, h₃, h₄, h₅, h₆, h₇⟩ := hretries q hq
  exact ⟨h₁, h₂, h₃, h₄, h₅.trans_le htoken, h₆, h₇⟩

/-- The claim and the end of the row in one update. -/
theorem finishRow_claim_dispatch (r : DispatchRow) (s₁ : Store) (h : s₁.outbox = (claim_dispatch r s).outbox) :
    (finishRow r.tenant_id r.dispatch_id s.nextToken s₁).outbox =
      updateWhere (fun q => q.key = r.key)
        (DispatchRow.finished s.nextToken) s.outbox := by
  simp only [finishRow, h, claim_dispatch]
  refine updateWhere_updateWhere (fun q _ hq => ?_) fun q _ hq => ?_
  · have hkey : q.key = r.key := of_decide_eq_true hq
    exact ⟨decide_eq_true ⟨hkey, rfl⟩, rfl⟩
  · have hkey : q.key ≠ r.key := of_decide_eq_false hq
    exact decide_eq_false fun h => hkey h.1

/-- The attempt of a claimed pending row is recorded. -/
theorem complete_dispatch_claimed (h : Consistent s) (hr : r ∈ s.outbox) (hstate : r.state = .pending)
    (hintent : s.intents.any fun i => i.tenant_id = r.tenant_id ∧ i.notification_intent_id = r.notification_intent_id)
    (now : ℕ) (outcome : DeliveryState) (ref failure : Option String) :
    ∃ s', complete_dispatch now r.tenant_id r.dispatch_id s.nextToken r.notification_intent_id r.attempt_number
        r.logical_dispatch_id outcome ref failure (claim_dispatch r s) = .ok s' ∧ Completed now r outcome s s' := by
  have hpending : r.state ≠ .done := by simp [hstate]
  obtain ⟨s₁, h₁⟩ := insertAttempt_ok (s := claim_dispatch r s) (fun a ha => h.no_attempt hr hpending ha) hintent
    now r.attempt_number outcome ref failure
  obtain ⟨a, ha₁, ha₂, ha₃, hs₁⟩ := insertAttempt_eq h₁
  obtain ⟨refs, projections, hsettle⟩ :=
    settle_eq r.tenant_id r.notification_intent_id s₁ r.dispatch_id s.nextToken (ref.getD "")
  have houtbox := finishRow_claim_dispatch r (s := s) s₁ (by rw [hs₁])
  rw [houtbox] at hsettle
  -- the retry's logical id is free: the row is not done
  have hfree : ∀ q ∈ updateWhere (fun q => q.key = r.key)
      (DispatchRow.finished s.nextToken) s.outbox,
      q.tenant_id = r.tenant_id → ∀ k, q.logical_dispatch_id ≠ .retry r.logical_dispatch_id k := by
    intro q hq htenant k
    obtain ⟨q', hq', rfl⟩ := mem_updateWhere.1 hq
    have hno := h.no_retry hr hpending hq'
    split_ifs at htenant ⊢
    · exact hno htenant k
    · exact hno htenant k
  obtain ⟨s', hs'⟩ := insertRetry_ok (s := { s₁ with
      outbox := updateWhere (fun q => q.key = r.key)
        (DispatchRow.finished s.nextToken) s.outbox
      refBindings := refs, projections := projections }) hfree now r.notification_intent_id r.attempt_number outcome
  refine ⟨s', ?_, ?_⟩
  · simp only [complete_dispatch, h₁]
    change insertRetry _ _ _ _ _ _ (_recompute_projection _ _ _) = _
    rw [hsettle, hs']
  · subst hs₁
    rcases insertRetry_eq hs' with rfl | rfl
    · exact ⟨⟨s.nextToken, [], by simp, by simp, by simp⟩, ⟨a, rfl, ha₁, ha₂, ha₃⟩,
        by simp only [claim_dispatch]; omega, rfl, rfl, rfl, rfl⟩
    · refine ⟨⟨s.nextToken, _, rfl, by simp, ?_⟩, ⟨a, rfl, ha₁, ha₂, ha₃⟩,
        by simp only [claim_dispatch]; omega, rfl, rfl, rfl, rfl⟩
      have hn := h.numbered r hr
      intro q hq
      obtain rfl := List.mem_singleton.1 hq
      simp only [retryRow, claim_dispatch]
      exact ⟨trivial, trivial, trivial, by omega, by omega, by omega, by omega⟩

/-- The claimed row is recorded, with the evidence of an accepted message. -/
theorem recordAttempt_claimed (h : Consistent s) (hr : r ∈ s.outbox) (hstate : r.state = .pending)
    (hintent : s.intents.any fun i => i.tenant_id = r.tenant_id ∧ i.notification_intent_id = r.notification_intent_id)
    (now : ℕ) (a : Attempt) :
    ∃ s', recordAttempt now r s.nextToken a (claim_dispatch r s) = .ok s' ∧ Completed now r a.outcome s s' := by
  obtain ⟨s₁, h₁, hcompleted⟩ :=
    complete_dispatch_claimed h hr hstate hintent now a.outcome a.provider_ref a.failure
  simp only [recordAttempt, h₁]
  change ∃ s', (match a.provider_ref with
    | none | some "" => .ok s₁
    | some ref => _) = Except.ok s' ∧ _
  split
  · exact ⟨s₁, rfl, hcompleted⟩
  · exact ⟨s₁, rfl, hcompleted⟩
  · exact ⟨_, rfl, hcompleted.record_evidence _ _ _ _ _⟩

/-- A row after the end of `r`: the same row, or done. -/
theorem mem_finished {q' : DispatchRow} {token : ℕ} {rows : List DispatchRow}
    (h : q' ∈ updateWhere (fun q => decide (q.key = r.key))
      (DispatchRow.finished token) rows) :
    ∃ q ∈ rows, q'.key = q.key ∧ q'.tenant_id = q.tenant_id ∧ q'.dispatch_id = q.dispatch_id ∧
      q'.logical_dispatch_id = q.logical_dispatch_id ∧ q'.attempt_number = q.attempt_number ∧
      (q.key = r.key → q'.state = .done) ∧ (q.key ≠ r.key → q' = q) := by
  obtain ⟨q, hq, rfl⟩ := mem_updateWhere.1 h
  refine ⟨q, hq, ?_⟩
  by_cases hkey : q.key = r.key
  · rw [if_pos (decide_eq_true hkey)]
    exact ⟨rfl, rfl, rfl, rfl, rfl, fun _ => rfl, fun hne => absurd hkey hne⟩
  · rw [if_neg (by simpa using hkey)]
    exact ⟨rfl, rfl, rfl, rfl, rfl, fun heq => absurd heq hkey, fun _ => rfl⟩

/-- Every row is still there after the end of `r`, up to its state. -/
theorem finished_of_mem {q : DispatchRow} (token : ℕ) {rows : List DispatchRow} (hq : q ∈ rows) :
    ∃ q' ∈ updateWhere (fun q => decide (q.key = r.key))
      (DispatchRow.finished token) rows,
      q'.tenant_id = q.tenant_id ∧ q'.logical_dispatch_id = q.logical_dispatch_id := by
  refine ⟨_, mem_updateWhere.2 ⟨q, hq, rfl⟩, ?_⟩
  split_ifs <;> exact ⟨rfl, rfl⟩

/-- A recorded attempt keeps the tables consistent. -/
theorem Completed.consistent (hc : Completed now r outcome s s') (h : Consistent s) (hr : r ∈ s.outbox)
    (hstate : r.state ≠ .done) : Consistent s' := by
  obtain ⟨token, retries, houtbox, hlength, hretries⟩ := hc.outbox
  obtain ⟨a₀, hattempts, hat, haid, -⟩ := hc.attempts
  have htoken := hc.token
  constructor
  · rw [houtbox, List.map_append, map_updateWhere (k := DispatchRow.key) (f := DispatchRow.finished token) fun _ => rfl]
    refine List.Nodup.append h.keys (nodup_map_of_length_le_one _ hlength) ?_
    intro k hk hk'
    obtain ⟨q, hq, rfl⟩ := List.mem_map.1 hk
    obtain ⟨q', hq', hkey⟩ := List.mem_map.1 hk'
    have hid : q'.dispatch_id = q.dispatch_id := congrArg Prod.snd hkey
    have hold := (h.drawn q hq).1
    have hnew := (hretries q' hq').2.2.2.1
    omega
  · rw [houtbox, List.map_append, map_updateWhere (k := fun r => (r.tenant_id, r.logical_dispatch_id))
      (f := DispatchRow.finished token) fun _ => rfl]
    refine List.Nodup.append h.logical (nodup_map_of_length_le_one _ hlength) ?_
    intro k hk hk'
    obtain ⟨q, hq, rfl⟩ := List.mem_map.1 hk
    obtain ⟨q', hq', hkey⟩ := List.mem_map.1 hk'
    obtain ⟨htenant, -, hid, -⟩ := hretries q' hq'
    have h₁ : q'.tenant_id = q.tenant_id := congrArg Prod.fst hkey
    have h₂ : q'.logical_dispatch_id = q.logical_dispatch_id := congrArg Prod.snd hkey
    exact h.no_retry hr hstate hq (h₁.symm.trans htenant) _ (h₂.symm.trans hid)
  · intro q' hq'
    rw [houtbox, List.mem_append] at hq'
    rcases hq' with hq' | hq'
    · obtain ⟨q, hq, -, -, hid, hlogical, -⟩ := mem_finished hq'
      rw [hid, hlogical]
      obtain ⟨h₁, h₂⟩ := h.drawn q hq
      exact ⟨by omega, by omega⟩
    · obtain ⟨-, -, hlogical, -, hid, -⟩ := hretries q' hq'
      rw [hlogical]
      exact ⟨hid, (h.drawn r hr).2.trans_le htoken⟩
  · intro q' hq'
    rw [houtbox, List.mem_append] at hq'
    rcases hq' with hq' | hq'
    · obtain ⟨q, hq, -, -, -, -, hn, -⟩ := mem_finished hq'
      exact hn ▸ h.numbered q hq
    · exact (hretries q' hq').2.2.2.2.2.1
  · intro a ha q' hq' htenant hid
    rw [hattempts, List.mem_append, List.mem_singleton] at ha
    rw [houtbox, List.mem_append] at hq'
    rcases hq' with hq' | hq'
    · obtain ⟨q, hq, -, hqt, -, hlogical, -, hdone, hsame⟩ := mem_finished hq'
      by_cases hkey : q.key = r.key
      · exact hdone hkey
      · rcases ha with ha | rfl
        · rw [hsame hkey] at htenant hid ⊢
          exact h.attempted a ha q hq htenant hid
        · have hqr : q = r := eq_of_key (k := fun r => (r.tenant_id, r.logical_dispatch_id)) h.logical hq hr
            (Prod.ext (hqt.symm.trans (htenant.trans hat)) (hlogical.symm.trans (hid.trans haid)))
          exact absurd (congrArg DispatchRow.key hqr) hkey
    · obtain ⟨hqt, -, hlogical, -⟩ := hretries q' hq'
      rcases ha with ha | rfl
      · obtain ⟨q, hq, hqa, hqid⟩ := h.ofRow a ha
        exact absurd (hqid.trans (hid.symm.trans hlogical))
          (h.no_retry hr hstate hq (hqa.trans (htenant.symm.trans hqt)) _)
      · exact absurd (haid.symm.trans (hid.symm.trans hlogical)) (LogicalDispatchId.retry_ne _ _)
  · intro a ha
    rw [hattempts, List.mem_append, List.mem_singleton] at ha
    rw [houtbox]
    rcases ha with ha | rfl
    · obtain ⟨q, hq, hqt, hqid⟩ := h.ofRow a ha
      obtain ⟨q', hq', h₁, h₂⟩ := finished_of_mem (r := r) token hq
      exact ⟨q', List.mem_append_left _ hq', h₁.trans hqt, h₂.trans hqid⟩
    · obtain ⟨q', hq', h₁, h₂⟩ := finished_of_mem (r := r) token hr
      exact ⟨q', List.mem_append_left _ hq', h₁.trans hat.symm, h₂.trans haid.symm⟩
  · intro q' hq' l k hl
    rw [houtbox, List.mem_append] at hq'
    rw [hattempts]
    rcases hq' with hq' | hq'
    · obtain ⟨q, hq, -, hqt, -, hlogical, -⟩ := mem_finished hq'
      obtain ⟨a, ha, hta, hida⟩ := h.retried q hq l k (hlogical.symm.trans hl)
      exact ⟨a, List.mem_append_left _ ha, hta.trans hqt.symm, hida⟩
    · obtain ⟨hqt, -, hlogical, -⟩ := hretries q' hq'
      obtain ⟨rfl, -⟩ := LogicalDispatchId.retry.inj (hl.symm.trans hlogical)
      exact ⟨a₀, by simp, hat.trans hqt.symm, haid⟩

/-- The rows still due are the other due rows: a retry is due later. -/
theorem Completed.due (hc : Completed now r outcome s s') :
    s'.outbox.filter (·.due now) = (s.outbox.filter (·.due now)).filter fun q => q.key ≠ r.key := by
  obtain ⟨token, retries, houtbox, -, hretries⟩ := hc.outbox
  have hlater : retries.filter (·.due now) = [] := by
    rw [List.filter_eq_nil_iff]
    intro q hq hdue
    obtain ⟨-, hle⟩ := of_decide_eq_true hdue
    exact absurd (hretries q hq).2.2.2.2.2.2 (by omega)
  rw [houtbox, List.filter_append, hlater, List.append_nil, List.filter_filter]
  induction s.outbox with
  | nil => rfl
  | cons q rows ih =>
    rw [updateWhere_cons]
    by_cases hkey : q.key = r.key
    · have hnot : (q.finished token).due now = false := rfl
      simp [hkey, hnot, ih]
    · simp [hkey, List.filter_cons, ih]

/-! ### One round -/

/-- The row is not sent: its join is empty, its source is in maintenance or its alert is snoozed. -/
def Withheld (now : ℕ) (s : Store) (r : DispatchRow) : Prop :=
  match intentAlert r s with
  | none => True
  | some (i, a) =>
    g20_is_in_maintenance now r.tenant_id a.monitoring_source_id s = true ∨
      g21_is_snoozed now r.tenant_id i.alert_id s.snoozes = true

/-- The alert of the row is suppressed. -/
def Suppressed (now : ℕ) (s : Store) (r : DispatchRow) : Prop :=
  (intentAlert r s).isSome ∧ Withheld now s r

/-- The `n`-th message of the row makes its adapter raise something else than its own error, or
return a reply without `raw`. -/
def Raises (p : Pass) (n : ℕ) (s : Store) (r : DispatchRow) : Prop :=
  ∃ x ∈ intentAlert r s, (p.send (requestOf r x.1) n).attempt = none

/-- The round that claims the row rolls back, so that the row is still due after it. -/
def Blocked (p : Pass) (s : Store) (r : DispatchRow) : Prop := Withheld p.now s r ∨ Raises p 0 s r

instance (now : ℕ) (s : Store) (r : DispatchRow) : Decidable (Withheld now s r) := by
  unfold Withheld
  split <;> infer_instance

instance (p : Pass) (n : ℕ) (s : Store) (r : DispatchRow) : Decidable (Raises p n s r) := by
  unfold Raises
  infer_instance

instance (p : Pass) (s : Store) (r : DispatchRow) : Decidable (Blocked p s r) := by
  unfold Blocked
  infer_instance

/-- The columns that decide whether a row is withheld are not those a dispatch writes. -/
theorem Completed.withheld (hc : Completed now r outcome s s') (at₀ : ℕ) (q : DispatchRow) :
    Withheld at₀ s' q ↔ Withheld at₀ s q := by
  simp only [Withheld, intentAlert, g20_is_in_maintenance, g21_is_snoozed, hc.intents, hc.alerts, hc.windows,
    hc.snoozes]

theorem Completed.raises (hc : Completed now r outcome s s') (p : Pass) (n : ℕ) (q : DispatchRow) :
    Raises p n s' q ↔ Raises p n s q := by
  simp only [Raises, intentAlert, hc.intents, hc.alerts]

theorem intentAlert_intent {x : NotificationIntent × AlertRef} (h : intentAlert r s = some x) :
    s.intents.any fun i => i.tenant_id = r.tenant_id ∧ i.notification_intent_id = r.notification_intent_id := by
  obtain ⟨i, hi, -⟩ := Option.bind_eq_some_iff.1 h
  have hfound := List.find?_some hi
  exact List.any_eq_true.2 ⟨i, List.mem_of_find?_eq_some hi, hfound⟩

theorem oldestDue_mem (h : oldestDue now s = some r) : r ∈ s.outbox ∧ r.due now = true :=
  List.mem_filter.1 (List.argmin_mem h)

theorem oldestDue_eq_none : oldestDue now s = none ↔ s.outbox.filter (·.due now) = [] :=
  List.argmin_eq_none

theorem due_pending (h : r.due now = true) : r.state = .pending :=
  (of_decide_eq_true h).1

theorem dispatchOnce_none {p : Pass} (h : oldestDue p.now s = none) (trace : List Visit) :
    dispatchOnce p trace (.idle s) = (.idle s, none) := by
  simp only [dispatchOnce]
  rw [show (Session.idle s).view = s from rfl, h]
  rfl

/-- A round that claims a row: it rolls back when the row is withheld or its message raises, and
otherwise commits one attempt. -/
theorem dispatchOnce_some {p : Pass} (h : Consistent s) (hr : oldestDue p.now s = some r) (trace : List Visit) :
    (∃ result, dispatchOnce p trace (.idle s) = (.idle s, some ⟨r.key, result⟩) ∧ (∀ o, result ≠ .attempted o) ∧
        (Withheld p.now s r ∨ Raises p (sentBefore trace r) s r)) ∨
      (∃ s' outcome, dispatchOnce p trace (.idle s) = (.idle s', some ⟨r.key, .attempted outcome⟩) ∧
        Completed p.now r outcome s s' ∧ ¬Withheld p.now s r ∧ ¬Raises p (sentBefore trace r) s r) := by
  obtain ⟨hmem, hdue⟩ := oldestDue_mem hr
  have hview : ((Session.idle s).exec p.now (claim_dispatch r)).view = claim_dispatch r s := Session.exec_view _ _ _
  have hback : ((Session.idle s).exec p.now (claim_dispatch r)).rollback = .idle s := rfl
  have hjoin : intentAlert r (claim_dispatch r s) = intentAlert r s := rfl
  have hround : dispatchOnce p trace (.idle s) =
      ((dispatchClaimed p trace r s.nextToken ((Session.idle s).exec p.now (claim_dispatch r))).1,
        some ⟨r.key, (dispatchClaimed p trace r s.nextToken ((Session.idle s).exec p.now (claim_dispatch r))).2⟩) := by
    simp only [dispatchOnce]
    rw [show (Session.idle s).view = s from rfl, hr]
  rw [hround]
  simp only [dispatchClaimed, hview, hjoin, hback]
  cases hia : intentAlert r s with
  | none => exact .inl ⟨.notFound, rfl, by simp, .inl (by simp [Withheld, hia])⟩
  | some x =>
    obtain ⟨intent, alert⟩ := x
    have hg20 : g20_is_in_maintenance p.now r.tenant_id alert.monitoring_source_id (claim_dispatch r s) =
        g20_is_in_maintenance p.now r.tenant_id alert.monitoring_source_id s := rfl
    have hg21 : g21_is_snoozed p.now r.tenant_id intent.alert_id (claim_dispatch r s).snoozes =
        g21_is_snoozed p.now r.tenant_id intent.alert_id s.snoozes := rfl
    simp only [hg20, hg21]
    by_cases hmaintenance : g20_is_in_maintenance p.now r.tenant_id alert.monitoring_source_id s = true
    · exact .inl ⟨.inMaintenance, by rw [if_pos hmaintenance], by simp, .inl (by simp [Withheld, hia, hmaintenance])⟩
    by_cases hsnoozed : g21_is_snoozed p.now r.tenant_id intent.alert_id s.snoozes = true
    · exact .inl ⟨.snoozed, by rw [if_neg hmaintenance, if_pos hsnoozed], by simp,
        .inl (by simp [Withheld, hia, hsnoozed])⟩
    rw [if_neg hmaintenance, if_neg hsnoozed]
    have hfree : ¬Withheld p.now s r := by simp [Withheld, hia, hmaintenance, hsnoozed]
    cases hsend : (p.send (requestOf r intent) (sentBefore trace r)).attempt with
    | none => exact .inl ⟨.raised, rfl, by simp, .inr ⟨_, hia, hsend⟩⟩
    | some a =>
      obtain ⟨s', hrecorded, hcompleted⟩ :=
        recordAttempt_claimed h hmem (due_pending hdue) (intentAlert_intent hia) p.now a
      refine .inr ⟨s', a.outcome, by simp only [hrecorded]; rfl, hcompleted, hfree, ?_⟩
      rintro ⟨x, hx, hraise⟩
      obtain rfl : x = (intent, alert) := Option.mem_unique hx hia
      simp [hsend] at hraise

end JLMirror.Notification
