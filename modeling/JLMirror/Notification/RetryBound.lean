import JLMirror.Notification.Callbacks
import JLMirror.Notification.DeliveryRank
import JLMirror.Notification.Dispatch

/-!
# The retries of an intent are bounded

The worker completes the dispatches it has claimed with what the adapters answer, and the providers call back with
references that an accepted attempt has bound. So there is evidence of an intent only if its last attempt was accepted, and
then no dispatch of it waits.

## The model

* A completion has the result of an adapter (`SendResult`); it may be late, or be tried twice.
* A callback is any body with any signature at any time.

## What is proved

* `Chain.waiting_rows`: the dispatches that wait are those behind the attempts.
* **Key result** (`retries_bounded`): after every run the retries of every intent are bounded, and a failing attempt below
  the limit leaves its retry pending.
-/

namespace JLMirror.Notification

open JLMirror.Foundations JLMirror.Alerting

/-! ### The system -/

/-- The store with the claims, and the inbox of the callbacks. -/
structure Notifier extends Deliveries where
  inbox : List CallbackInboxRow

/-- A transaction of the API, of a worker, or of a provider's callback. -/
inductive NotifierAction where
  | create (now : ℕ) (tenant_id alert_id destination_ref : String) (channel_class : ChannelClass) (payload_ref : String)
  | claim (now : ℕ)
  /-- The `n`-th claim. -/
  | complete (now n : ℕ) (result : SendResult)
  | callback (now : ℕ) (clock : ℚ) (raw sig : String)

/-- What the worker commits of a claim: an exception, and a violated constraint, roll the transaction back. -/
def Deliveries.record (s : Deliveries) (now n : ℕ) (result : SendResult) : Store :=
  match s.claims[n]?, result.attempt with
  | some (r, token), some a =>
    match recordAttempt now r token a s.store with
    | .ok store => store
    | .error _ => s.store
  | _, _ => s.store

/-- A step. -/
def Notifier.step (E : Endpoint) (s : Notifier) : NotifierAction → Notifier
  | .create now tenant_id alert_id destination_ref channel_class payload_ref =>
    { s with toDeliveries := s.toDeliveries.step (.create now tenant_id alert_id destination_ref channel_class payload_ref) }
  | .claim now => { s with toDeliveries := s.toDeliveries.step (.claim now) }
  | .complete now n result => { s with store := s.record now n result }
  | .callback now clock raw sig =>
    let (_, store, inbox) := provider_callback E now clock raw sig s.store s.inbox
    { s with store := store, inbox := inbox }

/-- The system after a run. -/
def Notifier.exec (E : Endpoint) (run : List NotifierAction) : Notifier := run.foldl (Notifier.step E) ⟨⟨.empty, []⟩, []⟩

/-! ### The law -/

instance (r : DispatchRow) : Decidable r.waiting := inferInstanceAs (Decidable (_ ∨ _))

/-- The dispatches of an intent that wait. -/
def Store.waitingOf (s : Store) (tenant_id : String) (intent_id : ℕ) : List DispatchRow :=
  (s.rowsOf tenant_id intent_id).filter (·.waiting)

/-- A delivery or a read is on record. -/
def ProviderEvidence.terminal (e : ProviderEvidence) : Prop :=
  e.normalized_state = .delivered ∨ e.normalized_state = .external_read_observed

/-- The attempts of an intent are bounded, and its dispatches follow them. -/
structure RetryLaw (s : Store) (tenant_id : String) (intent_id : ℕ) : Prop where
  numbered : (s.attemptsOf tenant_id intent_id).map (·.attempt_number) =
    List.range' 1 (s.attemptsOf tenant_id intent_id).length
  bounded : (s.attemptsOf tenant_id intent_id).length ≤ MAX_ATTEMPTS
  /-- One dispatch at most is pending or claimed. -/
  waiting : (s.waitingOf tenant_id intent_id).length ≤ 1
  /-- A failing last attempt below the limit has its retry. -/
  retry : ∀ a ∈ s.attemptsOf tenant_id intent_id, a.attempt_number = (s.attemptsOf tenant_id intent_id).length →
    a.failing → a.attempt_number < MAX_ATTEMPTS →
      ∃ r, s.waitingOf tenant_id intent_id = [r] ∧ r.attempt_number = a.attempt_number + 1
  /-- A failing attempt at the limit has none, and asks for the fallback. -/
  exhausted : ∀ a ∈ s.attemptsOf tenant_id intent_id, a.attempt_number = MAX_ATTEMPTS → a.failing →
    s.waitingOf tenant_id intent_id = [] ∧
      ∃ p, s.stored tenant_id intent_id = some p ∧ p.fallback_action_required = true
  /-- Nothing waits after a delivery. -/
  delivered : ∀ e ∈ s.evidenceOf tenant_id intent_id, e.terminal → s.waitingOf tenant_id intent_id = []

/-- A failing attempt below the limit that the step has appended leaves its retry pending. -/
def RetryPending (s s' : Store) (tenant_id : String) (intent_id : ℕ) : Prop :=
  ∀ a, s'.attemptsOf tenant_id intent_id = s.attemptsOf tenant_id intent_id ++ [a] → a.failing →
    a.attempt_number < MAX_ATTEMPTS →
      ∃ r, s'.waitingOf tenant_id intent_id = [r] ∧ r.state = .pending ∧ r.attempt_number = a.attempt_number + 1

/-! ### The dispatches that wait -/

section Waiting

variable {intent_id : ℕ} {rows : List DispatchRow} {attempts : List NotificationAttempt}

/-- The dispatches that wait are those behind the attempts. -/
theorem Chain.waiting_rows (h : Chain intent_id rows attempts) :
    rows.filter (·.waiting) = rows.drop attempts.length := by
  have hnumber : ∀ i (hi : i < rows.length), rows[i].attempt_number = i + 1 := by
    intro i hi
    have hget : (rows.map (·.attempt_number))[i]? = (List.range' 1 rows.length)[i]? := by rw [h.rowNumbers]
    rw [List.getElem?_map, List.getElem?_eq_getElem hi, List.getElem?_range' hi, Option.map_some, Option.some_inj] at hget
    omega
  have hattempted : (rows.take attempts.length).filter (·.waiting) = [] := by
    refine List.filter_eq_nil_iff.2 fun r hr => ?_
    obtain ⟨i, hi, rfl⟩ := List.mem_take_iff_getElem.1 hr
    have hdone := h.attempted rows[i] (List.getElem_mem _) (by rw [hnumber]; omega)
    simp [DispatchRow.waiting, hdone]
  have hwaits : (rows.drop attempts.length).filter (·.waiting) = rows.drop attempts.length := by
    refine List.filter_eq_self.2 fun r hr => ?_
    obtain ⟨i, hi, rfl⟩ := List.mem_drop_iff_getElem.1 hr
    exact decide_eq_true (h.waiting _ (List.getElem_mem _) (by rw [hnumber]; omega))
  calc rows.filter (·.waiting)
      = (rows.take attempts.length ++ rows.drop attempts.length).filter (·.waiting) := by rw [List.take_append_drop]
    _ = rows.drop attempts.length := by rw [List.filter_append, hattempted, hwaits, List.nil_append]

theorem Chain.none_waiting (h : Chain intent_id rows attempts) (hlength : rows.length ≤ attempts.length) :
    rows.filter (·.waiting) = [] := by
  rw [h.waiting_rows, List.drop_eq_nil_of_le hlength]

/-- The retry of a failing last attempt below the limit. -/
theorem Chain.retry_waiting (h : Chain intent_id rows attempts) {a : NotificationAttempt} (ha : a ∈ attempts)
    (hlast : a.attempt_number = attempts.length) (hfailing : a.failing) (hlt : a.attempt_number < MAX_ATTEMPTS) :
    ∃ r, rows.filter (·.waiting) = [r] ∧ r.attempt_number = a.attempt_number + 1 := by
  have hnext := (h.retried a ha).2 ⟨hfailing, hlt⟩
  have hlengths := h.lengths.2
  have hone : (rows.filter (·.waiting)).length = 1 := by
    rw [h.waiting_rows, List.length_drop]
    omega
  obtain ⟨r, hr⟩ := List.length_eq_one_iff.1 hone
  refine ⟨r, hr, ?_⟩
  have hmem : r ∈ rows.filter (·.waiting) := hr ▸ List.mem_singleton_self r
  obtain ⟨hrow, hwaiting⟩ := List.mem_filter.1 hmem
  have hbehind : attempts.length < r.attempt_number := by
    by_contra hle
    have hdone := h.attempted r hrow (not_lt.1 hle)
    simp [DispatchRow.waiting, hdone] at hwaiting
  have hle := (h.row_number hrow).2
  omega

/-- Nothing waits behind an attempt that is not failing, or is the last one of all. -/
theorem Chain.none_waiting_of_last (h : Chain intent_id rows attempts) {a : NotificationAttempt} (ha : a ∈ attempts)
    (hlast : ¬(a.failing ∧ a.attempt_number < MAX_ATTEMPTS)) : rows.filter (·.waiting) = [] := by
  have hnot : ¬a.attempt_number < rows.length := fun hlt => hlast ((h.retried a ha).1 hlt)
  have hle := (h.attempt_number ha).2
  exact h.none_waiting (by omega)

end Waiting

/-! ### Evidence comes behind an accepted attempt -/

/-- An attempt of the intent was accepted. -/
def Store.AcceptedOf (s : Store) (tenant_id : String) (intent_id : ℕ) : Prop :=
  ∃ a ∈ s.attemptsOf tenant_id intent_id, a.outcome = .provider_accepted

/-- What the references and the evidence rest on. -/
structure Accepted (s : Store) : Prop where
  outcomes : ∀ a ∈ s.attempts, a.outcome = .provider_accepted ∨ a.failing
  bound : ∀ b ∈ s.refBindings, s.AcceptedOf b.tenant_id b.notification_intent_id
  shown : ∀ e ∈ s.evidence, s.AcceptedOf e.tenant_id e.notification_intent_id

section Accepted

variable {s s' : Store} {tenant_id : String} {intent_id : ℕ}

theorem Store.AcceptedOf.mono (h : s.AcceptedOf tenant_id intent_id) (hattempts : s.attempts ⊆ s'.attempts) :
    s'.AcceptedOf tenant_id intent_id := by
  obtain ⟨a, ha, houtcome⟩ := h
  rw [mem_attemptsOf] at ha
  exact ⟨a, mem_attemptsOf.2 ⟨hattempts ha.1, ha.2⟩, houtcome⟩

theorem mem_evidenceOf {e : ProviderEvidence} : e ∈ s.evidenceOf tenant_id intent_id ↔
    e ∈ s.evidence ∧ e.tenant_id = tenant_id ∧ e.notification_intent_id = intent_id := by
  simp [Store.evidenceOf]

theorem Accepted.empty : Accepted .empty := by
  constructor <;> intro x hx <;> cases hx

theorem Accepted.of_eq (h : Accepted s) (hattempts : s'.attempts = s.attempts) (hrefs : s'.refBindings = s.refBindings)
    (hevidence : s'.evidence = s.evidence) : Accepted s' := by
  have hmono : s.attempts ⊆ s'.attempts := hattempts ▸ List.Subset.refl _
  refine ⟨hattempts ▸ h.outcomes, fun b hb => ?_, fun e he => ?_⟩
  · exact (h.bound b (hrefs ▸ hb)).mono hmono
  · exact (h.shown e (hevidence ▸ he)).mono hmono

/-- The evidence that there is after a record. -/
theorem mem_record_evidence {now : ℕ} {state : DeliveryState} {callback ref : Option String} {e : ProviderEvidence}
    (he : e ∈ (record_evidence now tenant_id intent_id state callback ref s).evidence) :
    e ∈ s.evidence ∨ e = ⟨tenant_id, s.nextToken, intent_id, state, callback, ref, now⟩ := by
  unfold record_evidence at he
  dsimp only at he
  split_ifs at he
  · exact Or.inl he
  · obtain ⟨rows, hrows⟩ := recompute_projection_eq tenant_id intent_id { s with
      evidence := s.evidence ++ [⟨tenant_id, s.nextToken, intent_id, state, callback, ref, now⟩]
      nextToken := s.nextToken + 1 }
    rw [hrows] at he
    rcases List.mem_append.1 he with he | he
    · exact Or.inl he
    · exact Or.inr (List.mem_singleton.1 he)

/-- Evidence of an intent with an accepted attempt. -/
theorem Accepted.record_evidence (h : Accepted s) (haccepted : s.AcceptedOf tenant_id intent_id) (now : ℕ)
    (state : DeliveryState) (callback ref : Option String) :
    Accepted (record_evidence now tenant_id intent_id state callback ref s) := by
  obtain ⟨evidence, projections, token, -, heq⟩ := record_evidence_eq tenant_id intent_id s now state callback ref
  have hattempts : (Notification.record_evidence now tenant_id intent_id state callback ref s).attempts = s.attempts := by
    rw [heq]
  have hrefs : (Notification.record_evidence now tenant_id intent_id state callback ref s).refBindings = s.refBindings := by
    rw [heq]
  have hmono : s.attempts ⊆ (Notification.record_evidence now tenant_id intent_id state callback ref s).attempts :=
    hattempts ▸ List.Subset.refl _
  refine ⟨hattempts ▸ h.outcomes, fun b hb => ?_, fun e he => ?_⟩
  · exact (h.bound b (hrefs ▸ hb)).mono hmono
  · rcases mem_record_evidence he with he | rfl
    · exact (h.shown e he).mono hmono
    · exact haccepted.mono hmono

/-- The outcome of a result: only an accepted message has a reference. -/
theorem SendResult.attempt_outcome {result : SendResult} {a : Attempt} (h : result.attempt = some a) :
    a.outcome = .provider_accepted ∨ (a.outcome = .failed ∨ a.outcome = .unknown) ∧ a.provider_ref = none := by
  cases result with
  | reply ref status =>
    cases status with
    | none => cases h
    | some status =>
      obtain rfl := Option.some.inj h
      exact Or.inl rfl
  | adapterError message =>
    obtain rfl := Option.some.inj h
    refine Or.inr ⟨?_, rfl⟩
    dsimp only
    split_ifs
    · exact Or.inr rfl
    · exact Or.inl rfl
  | raised => cases h

/-- A recorded attempt: its completion, and the evidence of the message that it was accepted. -/
theorem recordAttempt_ok {now token : ℕ} {r : DispatchRow} {a : Attempt} (h : recordAttempt now r token a s = .ok s') :
    ∃ s₁, complete_dispatch now r.tenant_id r.dispatch_id token r.notification_intent_id r.attempt_number
        r.logical_dispatch_id a.outcome a.provider_ref a.failure s = .ok s₁ ∧
      (s' = s₁ ∨ a.provider_ref ≠ none ∧ s' = record_evidence now r.tenant_id r.notification_intent_id .provider_accepted none
        a.provider_ref s₁) := by
  obtain ⟨s₁, hcomplete, hevidence⟩ := bind_ok_iff.1 h
  refine ⟨s₁, hcomplete, ?_⟩
  split at hevidence
  · exact Or.inl (Except.ok.inj hevidence).symm
  · exact Or.inl (Except.ok.inj hevidence).symm
  · rename_i ref _ href
    rw [href]
    exact Or.inr ⟨Option.some_ne_none _, (Except.ok.inj hevidence).symm⟩

/-- The bindings that there are after a completion. -/
theorem mem_bindProviderRef {ref : String} {b : ProviderRefBinding}
    (hb : b ∈ (bindProviderRef tenant_id intent_id ref s).refBindings) :
    b ∈ s.refBindings ∨ ref ≠ "" ∧ b = ⟨ref, tenant_id, intent_id⟩ := by
  unfold bindProviderRef at hb
  dsimp only at hb
  split_ifs at hb with hkept
  · exact Or.inl hb
  · rcases List.mem_append.1 hb with hb | hb
    · exact Or.inl hb
    · exact Or.inr ⟨fun hempty => hkept (Or.inl hempty), List.mem_singleton.1 hb⟩

/-- A completion binds the reference of its accepted message. -/
theorem Accepted.complete_dispatch (h : Accepted s) {now token : ℕ} {r : DispatchRow} {a : Attempt} {result : SendResult}
    (ha : result.attempt = some a) (hs : complete_dispatch now r.tenant_id r.dispatch_id token r.notification_intent_id
      r.attempt_number r.logical_dispatch_id a.outcome a.provider_ref a.failure s = .ok s') :
    Accepted s' ∧ (a.provider_ref ≠ none → s'.AcceptedOf r.tenant_id r.notification_intent_id) := by
  obtain ⟨-, hattempts, hevidence, -, hrefs, -⟩ := complete_dispatch_ok hs
  have hmono : s.attempts ⊆ s'.attempts := hattempts ▸ List.subset_append_left _ _
  have haccepted : a.provider_ref ≠ none → s'.AcceptedOf r.tenant_id r.notification_intent_id := by
    intro href
    have houtcome := (SendResult.attempt_outcome ha).resolve_right fun hfailing => href hfailing.2
    refine ⟨_, mem_attemptsOf.2 ⟨hattempts ▸ List.mem_append_right _ (List.mem_singleton_self _), rfl, rfl⟩, houtcome⟩
  refine ⟨⟨fun x hx => ?_, fun b hb => ?_, fun e he => ?_⟩, haccepted⟩
  · rw [hattempts] at hx
    rcases List.mem_append.1 hx with hx | hx
    · exact h.outcomes x hx
    · obtain rfl := List.mem_singleton.1 hx
      exact (SendResult.attempt_outcome ha).imp id And.left
  · rw [hrefs] at hb
    rcases mem_bindProviderRef hb with hb | ⟨hne, rfl⟩
    · exact (h.bound b hb).mono hmono
    · refine haccepted fun hnone => hne ?_
      rw [hnone]
      rfl
  · rw [hevidence] at he
    exact (h.shown e he).mono hmono

end Accepted

/-! ### The steps -/

/-- The invariant. -/
structure Notifier.Sound (s : Notifier) : Prop where
  chained : s.toDeliveries.Chained
  replayed : Replayed s.store
  accepted : Accepted s.store

/-- What the worker commits: nothing, or an attempt of a claim and the evidence of its message. -/
theorem Deliveries.record_cases (s : Deliveries) (now n : ℕ) (result : SendResult) :
    s.record now n result = s.store ∨
    ∃ r token a s₁, (r, token) ∈ s.claims ∧ result.attempt = some a ∧
      complete_dispatch now r.tenant_id r.dispatch_id token r.notification_intent_id r.attempt_number r.logical_dispatch_id
        a.outcome a.provider_ref a.failure s.store = .ok s₁ ∧
      (s.record now n result = s₁ ∨ a.provider_ref ≠ none ∧ s.record now n result =
        record_evidence now r.tenant_id r.notification_intent_id .provider_accepted none a.provider_ref s₁) := by
  unfold Deliveries.record
  split
  · rename_i r token a hclaim ha
    split
    · rename_i s' hs'
      obtain ⟨s₁, hcomplete, hevidence⟩ := recordAttempt_ok hs'
      exact Or.inr ⟨r, token, a, s₁, List.mem_of_getElem? hclaim, ha, hcomplete, hevidence⟩
    · exact Or.inl rfl
  · exact Or.inl rfl

theorem Notifier.Sound.record_evidence {s : Notifier} (h : s.Sound) {tenant_id : String} {intent_id : ℕ}
    (haccepted : s.store.AcceptedOf tenant_id intent_id) (now : ℕ) (state : DeliveryState) (callback ref : Option String)
    (inbox : List CallbackInboxRow) :
    Notifier.Sound ⟨⟨record_evidence now tenant_id intent_id state callback ref s.store, s.claims⟩, inbox⟩ :=
  ⟨h.chained.step (.evidence now tenant_id intent_id state callback ref), h.replayed.record_evidence now state callback ref,
    h.accepted.record_evidence haccepted now state callback ref⟩

theorem Notifier.Sound.complete {s : Notifier} (h : s.Sound) {now token : ℕ} {r : DispatchRow} {a : Attempt}
    {result : SendResult} {s₁ : Store} (hclaim : (r, token) ∈ s.claims) (ha : result.attempt = some a)
    (hs : complete_dispatch now r.tenant_id r.dispatch_id token r.notification_intent_id r.attempt_number
      r.logical_dispatch_id a.outcome a.provider_ref a.failure s.store = .ok s₁) :
    Notifier.Sound ⟨⟨s₁, s.claims⟩, s.inbox⟩ := by
  obtain ⟨hchained, hheld⟩ := h.chained.toChained.complete (h.chained.held _ hclaim) hs
  exact ⟨⟨hchained, fun x hx => hheld x (h.chained.held x hx)⟩, h.replayed.complete_dispatch hs,
    (h.accepted.complete_dispatch ha hs).1⟩

/-- A step keeps the invariant. -/
theorem Notifier.Sound.step {s : Notifier} (h : s.Sound) (E : Endpoint) (action : NotifierAction) :
    (s.step E action).Sound := by
  cases action with
  | create now tenant_id alert_id destination_ref channel_class payload_ref =>
    exact ⟨h.chained.step (.create now tenant_id alert_id destination_ref channel_class payload_ref),
      h.replayed.of_eq rfl rfl rfl, h.accepted.of_eq rfl rfl rfl⟩
  | claim now =>
    refine ⟨h.chained.step (.claim now), ?_, ?_⟩
    · dsimp only [Notifier.step, Deliveries.step]
      split
      · exact h.replayed
      · exact h.replayed.of_eq rfl rfl rfl
    · dsimp only [Notifier.step, Deliveries.step]
      split
      · exact h.accepted
      · exact h.accepted.of_eq rfl rfl rfl
  | complete now n result =>
    dsimp only [Notifier.step]
    rcases s.toDeliveries.record_cases now n result with heq | ⟨r, token, a, s₁, hclaim, ha, hs₁, heq | ⟨href, heq⟩⟩
    · rw [heq]
      exact h
    · rw [heq]
      exact h.complete hclaim ha hs₁
    · rw [heq]
      exact (h.complete hclaim ha hs₁).record_evidence ((h.accepted.complete_dispatch ha hs₁).2 href) ..
  | callback now clock raw sig =>
    dsimp only [Notifier.step]
    rcases provider_callback_cases E now clock raw sig s.store s.inbox with ⟨token, htoken, heq⟩ | ⟨p, b, hb, -, -, heq⟩
    · rw [heq]
      exact ⟨⟨h.chained.toChained.of_eq rfl rfl htoken, h.chained.held⟩, h.replayed.of_eq rfl rfl rfl,
        h.accepted.of_eq rfl rfl rfl⟩
    · rw [heq]
      have hdrawn : Notifier.Sound ⟨⟨{ s.store with nextToken := s.store.nextToken + 1 }, s.claims⟩, s.inbox⟩ :=
        ⟨⟨h.chained.toChained.of_eq rfl rfl (Nat.le_succ _), h.chained.held⟩, h.replayed.of_eq rfl rfl rfl,
          h.accepted.of_eq rfl rfl rfl⟩
      exact hdrawn.record_evidence (h.accepted.bound b hb) ..

theorem sound_exec (E : Endpoint) (run : List NotifierAction) : (Notifier.exec E run).Sound := by
  induction run using List.reverseRecOn with
  | nil => exact ⟨⟨Chained.empty, fun x hx => absurd hx List.not_mem_nil⟩, Replayed.empty, Accepted.empty⟩
  | append_singleton run a ih =>
    rw [Notifier.exec, List.foldl_append]
    exact ih.step E a

/-! ### The retries -/

/-- The fallback is asked for behind a failing attempt at the limit, when there is no evidence. -/
theorem fallback_of_exhausted {s : Store} {tenant_id : String} {intent_id : ℕ}
    (h : Chain intent_id (s.rowsOf tenant_id intent_id) (s.attemptsOf tenant_id intent_id))
    {a : NotificationAttempt} (ha : a ∈ s.attemptsOf tenant_id intent_id) (hlast : a.attempt_number = MAX_ATTEMPTS)
    (hfailing : a.failing) (hevidence : s.evidenceOf tenant_id intent_id = []) :
    (projectionOf tenant_id intent_id s).fallback_action_required = true := by
  have hcount : (s.attemptsOf tenant_id intent_id).length = MAX_ATTEMPTS := by
    have hle := (h.attempt_number ha).2
    have hlengths := h.lengths.1
    have hlimit := h.limit
    omega
  have hargmax : (s.attemptsOf tenant_id intent_id).argmax (·.attempt_number) = some a := by
    obtain ⟨b, hb⟩ : ∃ b, (s.attemptsOf tenant_id intent_id).argmax (·.attempt_number) = some b := by
      refine Option.ne_none_iff_exists'.1 fun hnone => ?_
      exact List.ne_nil_of_mem ha (List.argmax_eq_none.1 hnone)
    have hle : a.attempt_number ≤ b.attempt_number := List.le_of_mem_argmax ha hb
    have hle' := (h.attempt_number (List.argmax_mem hb)).2
    rw [hb, eq_of_key h.attempts_nodup ha (List.argmax_mem hb) (by omega)]
  unfold Store.attemptsOf at hcount hargmax
  unfold Store.evidenceOf at hevidence
  unfold projectionOf
  simp only [hargmax, hevidence, hcount, List.map_nil, bestEvidence, List.argmax_nil, Option.map_some, Option.getD_some]
  rcases hfailing with hfailing | hfailing <;> simp [hfailing]

/-- The retries of an intent are bounded. -/
theorem Notifier.Sound.law {s : Notifier} (h : s.Sound) (tenant_id : String) (intent_id : ℕ) :
    RetryLaw s.store tenant_id intent_id := by
  have hchain := h.chained.chain tenant_id intent_id
  have hlengths := hchain.lengths
  have hlimit := hchain.limit
  refine ⟨hchain.attemptNumbers, by omega, ?_, fun a ha hlast hfailing hlt => ?_, fun a ha hlast hfailing => ⟨?_, ?_⟩,
    fun e he hterminal => ?_⟩
  · rw [Store.waitingOf, hchain.waiting_rows, List.length_drop]
    omega
  · exact hchain.retry_waiting ha hlast hfailing hlt
  · exact hchain.none_waiting_of_last ha fun hlt => by omega
  · have hnone : s.store.evidenceOf tenant_id intent_id = [] := by
      refine List.eq_nil_iff_forall_not_mem.2 fun e he => ?_
      obtain ⟨hmem, rfl, rfl⟩ := mem_evidenceOf.1 he
      -- The accepted attempt would be the last one.
      obtain ⟨b, hb, haccepted⟩ := h.accepted.shown e hmem
      have hnot : ¬b.failing := by simp [NotificationAttempt.failing, haccepted]
      have hbehind : ¬b.attempt_number < (s.store.rowsOf e.tenant_id e.notification_intent_id).length :=
        fun hlt => hnot ((hchain.retried b hb).1 hlt).1
      have hble := (hchain.attempt_number hb).2
      have hale := (hchain.attempt_number ha).2
      have hab : a = b := eq_of_key hchain.attempts_nodup ha hb (by omega)
      exact hnot (hab ▸ hfailing)
    refine ⟨_, h.replayed.logged _ _ (Or.inl (List.ne_nil_of_mem ha)), ?_⟩
    exact fallback_of_exhausted hchain ha hlast hfailing hnone
  · obtain ⟨hmem, rfl, rfl⟩ := mem_evidenceOf.1 he
    obtain ⟨b, hb, haccepted⟩ := h.accepted.shown e hmem
    refine hchain.none_waiting_of_last hb fun hlt => ?_
    simp [NotificationAttempt.failing, haccepted] at hlt

theorem Chain.last_number {intent_id : ℕ} {rows : List DispatchRow} {attempts : List NotificationAttempt}
    {a : NotificationAttempt} (h : Chain intent_id rows (attempts ++ [a])) : a.attempt_number = attempts.length + 1 := by
  have hnumbers := h.attemptNumbers
  rw [List.map_append, List.map_singleton, List.length_append, List.length_singleton, List.range'_1_concat] at hnumbers
  obtain ⟨-, hlast⟩ := List.append_inj' hnumbers rfl
  rw [List.singleton_inj.1 hlast, Nat.add_comm]

theorem RetryPending.of_eq {s s' : Store} {tenant_id : String} {intent_id : ℕ}
    (hattempts : s'.attemptsOf tenant_id intent_id = s.attemptsOf tenant_id intent_id) :
    RetryPending s s' tenant_id intent_id := by
  intro a ha
  have hlength := congrArg List.length (hattempts.symm.trans ha)
  rw [List.length_append, List.length_singleton] at hlength
  omega

/-- A completion leaves the retry of its failing attempt pending. -/
theorem retryPending_complete {s s' : Store} {now token : ℕ} {r : DispatchRow} {a : Attempt}
    (hs : complete_dispatch now r.tenant_id r.dispatch_id token r.notification_intent_id r.attempt_number
      r.logical_dispatch_id a.outcome a.provider_ref a.failure s = .ok s') (hchained : Notification.Chained s')
    (tenant_id : String) (intent_id : ℕ) : RetryPending s s' tenant_id intent_id := by
  obtain ⟨-, hattempts, -, -, -, next, houtbox, hnext⟩ := complete_dispatch_ok hs
  by_cases hintent : r.tenant_id = tenant_id ∧ r.notification_intent_id = intent_id
  · obtain ⟨rfl, rfl⟩ := hintent
    intro x hx hfailing hlt
    have hchain := hchained.chain r.tenant_id r.notification_intent_id
    rw [hx] at hchain
    obtain ⟨q, hq, hnumber⟩ := hchain.retry_waiting (List.mem_append_right _ (List.mem_singleton_self x))
      (by rw [hchain.last_number, List.length_append, List.length_singleton]) hfailing hlt
    -- The attempt is the one that the completion has recorded.
    have hnew : x = ⟨r.tenant_id, s.nextToken, r.notification_intent_id, r.attempt_number, a.outcome, a.provider_ref,
        a.failure, r.logical_dispatch_id, now⟩ := by
      rw [Store.attemptsOf, hattempts, List.filter_append, List.filter_cons_of_pos (by simp), List.filter_nil] at hx
      exact (List.cons.inj (List.append_inj' hx rfl).2).1.symm
    subst hnew
    rcases hnext with ⟨-, hnot⟩ | ⟨-, rfl, -⟩
    · exact absurd ⟨hfailing, hlt⟩ hnot
    · have hmem : retryRow now r.tenant_id (s.nextToken + 1) r.notification_intent_id r.attempt_number r.logical_dispatch_id ∈
          s'.waitingOf r.tenant_id r.notification_intent_id := by
        refine List.mem_filter.2 ⟨mem_rowsOf.2 ⟨?_, rfl, rfl⟩, decide_eq_true (Or.inl rfl)⟩
        exact houtbox ▸ List.mem_append_right _ (List.mem_singleton_self _)
      rw [Store.waitingOf, hq] at hmem
      refine ⟨q, hq, ?_, hnumber⟩
      rw [← List.mem_singleton.1 hmem]
      rfl
  · refine RetryPending.of_eq ?_
    rw [Store.attemptsOf, hattempts]
    exact filter_append_of_not (decide_eq_false hintent)

/-- A failing attempt below the limit leaves its retry pending. -/
theorem retryPending_step {s : Notifier} (h : s.Sound) (E : Endpoint) (action : NotifierAction) (tenant_id : String)
    (intent_id : ℕ) : RetryPending s.store (s.step E action).store tenant_id intent_id := by
  cases action with
  | create now tenant alert_id destination_ref channel_class payload_ref => exact RetryPending.of_eq rfl
  | claim now =>
    dsimp only [Notifier.step, Deliveries.step]
    split <;> exact RetryPending.of_eq rfl
  | complete now n result =>
    dsimp only [Notifier.step]
    rcases s.toDeliveries.record_cases now n result with heq | ⟨r, token, a, s₁, hclaim, ha, hs₁, heq | ⟨href, heq⟩⟩
    · rw [heq]
      exact RetryPending.of_eq rfl
    · rw [heq]
      exact retryPending_complete hs₁ (h.complete hclaim ha hs₁).chained.toChained tenant_id intent_id
    · obtain ⟨evidence, projections, drawn, -, hevidence⟩ := record_evidence_eq r.tenant_id r.notification_intent_id s₁ now
        .provider_accepted none a.provider_ref
      rw [heq, hevidence]
      exact retryPending_complete hs₁ (h.complete hclaim ha hs₁).chained.toChained tenant_id intent_id
  | callback now clock raw sig =>
    dsimp only [Notifier.step]
    rcases provider_callback_cases E now clock raw sig s.store s.inbox with ⟨token, -, heq⟩ | ⟨p, b, -, -, -, heq⟩
    · rw [heq]
      exact RetryPending.of_eq rfl
    · obtain ⟨evidence, projections, drawn, -, hevidence⟩ := record_evidence_eq b.tenant_id b.notification_intent_id
        { s.store with nextToken := s.store.nextToken + 1 } now (normalizedStatus p.status) p.callback_id
        p.provider_message_ref
      rw [heq, hevidence]
      exact RetryPending.of_eq rfl

/-- **Key result**: after every run the retries of an intent are bounded, and the next step leaves the retry of its failing
attempt pending. -/
theorem retries_bounded (E : Endpoint) (run : List NotifierAction) (tenant_id : String) (intent_id : ℕ) :
    RetryLaw (Notifier.exec E run).store tenant_id intent_id ∧
    ∀ action, RetryPending (Notifier.exec E run).store (Notifier.exec E (run ++ [action])).store tenant_id intent_id := by
  refine ⟨(sound_exec E run).law tenant_id intent_id, fun action => ?_⟩
  rw [Notifier.exec, Notifier.exec, List.foldl_append]
  exact retryPending_step (sound_exec E run) E action tenant_id intent_id

end JLMirror.Notification
