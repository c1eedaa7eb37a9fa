import JLMirror.Notification.ProjectionReplay

/-!
# The dispatches of an intent and its attempts

Each intent has one dispatch to begin with, and a failed attempt below the limit appends the next one. A worker completes
what it has claimed, perhaps late and perhaps twice; an attempt of a dispatch that has one violates
`UNIQUE (tenant_id, dispatch_identity)`, and its transaction is rolled back.

## The model

* A `Deliveries` state is the store with the claims that `claim_dispatch` has returned, the oldest one first. A completion
  is of one of them (`DispatchAction.complete`), with any outcome that the table admits.
* Evidence is recorded of any intent at any time.
* `Chain` says that the dispatches and the attempts of an intent are in step.

## What is proved

`chained_exec`: after every run the dispatches and the attempts of every intent are in step.

## Honest scope

A transaction is one step. An intent that the escalation makes without a dispatch is left out, since nothing is ever
attempted of it.
-/

namespace JLMirror.Notification

open JLMirror.Foundations JLMirror.Alerting

/-! ### The system -/

/-- The store, and the claims that the workers hold. -/
structure Deliveries where
  store : Store
  /-- The row that a claim returned, and its token. -/
  claims : List (DispatchRow × ℕ)

/-- A transaction of the API, of a worker, or of a callback. -/
inductive DispatchAction where
  | create (now : ℕ) (tenant_id alert_id destination_ref : String) (channel_class : ChannelClass) (payload_ref : String)
  | claim (now : ℕ)
  /-- The `n`-th claim. -/
  | complete (now n : ℕ) (outcome : DeliveryState) (provider_message_ref failure_class : Option String)
  | evidence (now : ℕ) (tenant_id : String) (intent_id : ℕ) (normalized_state : DeliveryState)
      (provider_callback_id provider_message_ref : Option String)

/-- `complete_dispatch` of a claim; a violated constraint rolls the transaction back. -/
def Deliveries.complete (s : Deliveries) (now n : ℕ) (outcome : DeliveryState) (ref failure : Option String) : Deliveries :=
  match s.claims[n]? with
  | none => s
  | some (r, token) =>
    -- `CHECK (outcome IN …)`
    if outcome = .external_read_observed then s
    else
      match complete_dispatch now r.tenant_id r.dispatch_id token r.notification_intent_id r.attempt_number
        r.logical_dispatch_id outcome ref failure s.store with
      | .ok store => { s with store := store }
      | .error _ => s

/-- A step. -/
def Deliveries.step (s : Deliveries) : DispatchAction → Deliveries
  | .create now tenant_id alert_id destination_ref channel_class payload_ref =>
    { s with store := create_intent now tenant_id alert_id destination_ref channel_class payload_ref s.store }
  | .claim now =>
    match oldestDue now s.store with
    | none => s
    | some r => ⟨claim_dispatch r s.store, s.claims ++ [(r, s.store.nextToken)]⟩
  | .complete now n outcome ref failure => s.complete now n outcome ref failure
  | .evidence now tenant_id intent_id state callback ref =>
    { s with store := record_evidence now tenant_id intent_id state callback ref s.store }

/-- The system after a run. -/
def Deliveries.exec (run : List DispatchAction) : Deliveries := run.foldl Deliveries.step ⟨.empty, []⟩

/-- The dispatches of an intent. -/
def Store.rowsOf (s : Store) (tenant_id : String) (intent_id : ℕ) : List DispatchRow :=
  s.outbox.filter fun r => r.tenant_id = tenant_id ∧ r.notification_intent_id = intent_id

/-! ### The chain of an intent -/

/-- The logical id of the attempt with a number. -/
def logicalOf (intent_id : ℕ) : ℕ → LogicalDispatchId
  | 0 | 1 => .dispatch intent_id
  | n + 2 => .retry (logicalOf intent_id (n + 1)) (n + 2)

/-- A failed attempt, or one whose outcome is unknown. -/
def NotificationAttempt.failing (a : NotificationAttempt) : Prop := a.outcome = .failed ∨ a.outcome = .unknown

/-- The row waits for its attempt. -/
def DispatchRow.waiting (r : DispatchRow) : Prop := r.state = .pending ∨ r.state = .claimed

/-- The dispatches and the attempts of an intent, in step. -/
structure Chain (intent_id : ℕ) (rows : List DispatchRow) (attempts : List NotificationAttempt) : Prop where
  rowNumbers : rows.map (·.attempt_number) = List.range' 1 rows.length
  attemptNumbers : attempts.map (·.attempt_number) = List.range' 1 attempts.length
  rowIds : ∀ r ∈ rows, r.logical_dispatch_id = logicalOf intent_id r.attempt_number
  attemptIds : ∀ a ∈ attempts, a.dispatch_identity = logicalOf intent_id a.attempt_number
  /-- The dispatches are attempted in their order. -/
  attempted : ∀ r ∈ rows, r.attempt_number ≤ attempts.length → r.state = .done
  waiting : ∀ r ∈ rows, attempts.length < r.attempt_number → r.waiting
  /-- One of them at most is not. -/
  lengths : attempts.length ≤ rows.length ∧ rows.length ≤ attempts.length + 1
  limit : rows.length ≤ MAX_ATTEMPTS
  /-- An attempt is followed by a dispatch exactly if it is failing and not the last one. -/
  retried : ∀ a ∈ attempts, a.attempt_number < rows.length ↔ a.failing ∧ a.attempt_number < MAX_ATTEMPTS

namespace Chain

variable {intent_id : ℕ} {rows : List DispatchRow} {attempts : List NotificationAttempt}

theorem nil : Chain intent_id [] [] := by
  constructor <;> simp [MAX_ATTEMPTS]

variable {r : DispatchRow}

theorem row_number (h : Chain intent_id rows attempts) (hr : r ∈ rows) :
    1 ≤ r.attempt_number ∧ r.attempt_number ≤ rows.length := by
  have hmem : r.attempt_number ∈ List.range' 1 rows.length := h.rowNumbers ▸ List.mem_map_of_mem hr
  rw [List.mem_range'_1] at hmem
  omega

variable {a : NotificationAttempt}

theorem attempt_number (h : Chain intent_id rows attempts) (ha : a ∈ attempts) :
    1 ≤ a.attempt_number ∧ a.attempt_number ≤ attempts.length := by
  have hmem : a.attempt_number ∈ List.range' 1 attempts.length := h.attemptNumbers ▸ List.mem_map_of_mem ha
  rw [List.mem_range'_1] at hmem
  omega

theorem exists_attempt (h : Chain intent_id rows attempts) {n : ℕ} (hpos : 1 ≤ n) (hn : n ≤ attempts.length) :
    ∃ a ∈ attempts, a.attempt_number = n := by
  have hmem : n ∈ attempts.map (·.attempt_number) := by
    rw [h.attemptNumbers, List.mem_range'_1]
    omega
  obtain ⟨a, ha, heq⟩ := List.mem_map.1 hmem
  exact ⟨a, ha, heq⟩

theorem rows_nodup (h : Chain intent_id rows attempts) : (rows.map (·.attempt_number)).Nodup :=
  h.rowNumbers ▸ List.nodup_range'

theorem attempts_nodup (h : Chain intent_id rows attempts) : (attempts.map (·.attempt_number)).Nodup :=
  h.attemptNumbers ▸ List.nodup_range'

/-- A row without an attempt is the last one. -/
theorem number_of_unattempted (h : Chain intent_id rows attempts) (hr : r ∈ rows)
    (hnone : ∀ a ∈ attempts, a.dispatch_identity ≠ r.logical_dispatch_id) :
    r.attempt_number = attempts.length + 1 ∧ rows.length = attempts.length + 1 := by
  obtain ⟨hpos, hle⟩ := h.row_number hr
  have hlengths := h.lengths
  have hlt : attempts.length < r.attempt_number := by
    by_contra hattempted
    obtain ⟨a, ha, hnumber⟩ := h.exists_attempt hpos (not_lt.1 hattempted)
    exact hnone a ha (by rw [h.attemptIds a ha, h.rowIds r hr, hnumber])
  omega

variable {p : DispatchRow → Bool} {f : DispatchRow → DispatchRow}

/-- An update of the rows that keeps their numbers and whether they wait. -/
theorem update (h : Chain intent_id rows attempts) (hnumber : ∀ r, (f r).attempt_number = r.attempt_number)
    (hid : ∀ r, (f r).logical_dispatch_id = r.logical_dispatch_id)
    (hwaiting : ∀ r ∈ rows, p r = true → r.waiting ∧ (f r).waiting) :
    Chain intent_id (updateWhere p f rows) attempts := by
  have hlength : (updateWhere p f rows).length = rows.length := List.length_map _
  have hmem : ∀ r' ∈ updateWhere p f rows, ∃ r ∈ rows, r'.attempt_number = r.attempt_number ∧
      r'.logical_dispatch_id = r.logical_dispatch_id ∧ (r' = r ∨ r.waiting ∧ r'.waiting) := by
    intro r' hr'
    obtain ⟨r, hr, rfl⟩ := mem_updateWhere.1 hr'
    refine ⟨r, hr, ?_⟩
    split_ifs with hp
    · exact ⟨hnumber r, hid r, Or.inr (hwaiting r hr hp)⟩
    · exact ⟨rfl, rfl, Or.inl rfl⟩
  constructor
  · rw [map_updateWhere hnumber, hlength]
    exact h.rowNumbers
  · exact h.attemptNumbers
  · intro r' hr'
    obtain ⟨r, hr, hn, hi, -⟩ := hmem r' hr'
    rw [hn, hi]
    exact h.rowIds r hr
  · exact h.attemptIds
  · intro r' hr' hle
    obtain ⟨r, hr, hn, -, rfl | ⟨hw, -⟩⟩ := hmem r' hr'
    · exact h.attempted r' hr hle
    · have hdone := h.attempted r hr (hn ▸ hle)
      rcases hw with hw | hw <;> rw [hdone] at hw <;> cases hw
  · intro r' hr' hlt
    obtain ⟨r, hr, hn, -, rfl | ⟨-, hw⟩⟩ := hmem r' hr'
    · exact h.waiting r' hr hlt
    · exact hw
  · rw [hlength]
    exact h.lengths
  · rw [hlength]
    exact h.limit
  · rw [hlength]
    exact h.retried

/-- The attempt of the last row, and the row behind it. -/
theorem attempt (h : Chain intent_id rows attempts) (hr : r ∈ rows) (hnumber : r.attempt_number = attempts.length + 1)
    (hlength : rows.length = attempts.length + 1) (hp : ∀ q ∈ rows, p q = true ↔ q = r)
    (hkept : ∀ q, (f q).attempt_number = q.attempt_number ∧ (f q).logical_dispatch_id = q.logical_dispatch_id)
    (hdone : ∀ q, (f q).state = .done) (ha : a.attempt_number = r.attempt_number)
    (haid : a.dispatch_identity = r.logical_dispatch_id) {next : List DispatchRow}
    (hnext : (next = [] ∧ ¬(a.failing ∧ a.attempt_number < MAX_ATTEMPTS)) ∨
      (a.failing ∧ a.attempt_number < MAX_ATTEMPTS) ∧ ∃ q, next = [q] ∧ q.attempt_number = r.attempt_number + 1 ∧
        q.logical_dispatch_id = .retry r.logical_dispatch_id (r.attempt_number + 1) ∧ q.waiting) :
    Chain intent_id (updateWhere p f rows ++ next) (attempts ++ [a]) := by
  have hupdated : (updateWhere p f rows).length = attempts.length + 1 := (List.length_map _).trans hlength
  have hmem : ∀ q' ∈ updateWhere p f rows, ∃ q ∈ rows, q'.attempt_number = q.attempt_number ∧
      q'.logical_dispatch_id = q.logical_dispatch_id ∧ q'.state = .done := by
    intro q' hq'
    obtain ⟨q, hq, rfl⟩ := mem_updateWhere.1 hq'
    refine ⟨q, hq, ?_⟩
    split_ifs with hpq
    · exact ⟨(hkept q).1, (hkept q).2, hdone q⟩
    · refine ⟨rfl, rfl, h.attempted q hq ?_⟩
      -- Only the last row is not done, and that is the one that is updated.
      by_contra hlt
      have hqlast : q.attempt_number = r.attempt_number := by
        have := (h.row_number hq).2
        omega
      exact hpq ((hp q hq).2 (eq_of_key h.rows_nodup hq hr hqlast))
  have hlast : ∀ q ∈ next, q.attempt_number = attempts.length + 2 ∧
      q.logical_dispatch_id = logicalOf intent_id q.attempt_number ∧ q.waiting := by
    intro q hq
    rcases hnext with ⟨rfl, -⟩ | ⟨-, q', rfl, hq'number, hq'id, hwaiting⟩
    · cases hq
    · obtain rfl := List.mem_singleton.1 hq
      refine ⟨by omega, ?_, hwaiting⟩
      rw [hq'id, h.rowIds r hr, hq'number, hnumber]
      rfl
  have hnumbers : next.map (·.attempt_number) = List.range' (1 + (attempts.length + 1)) next.length := by
    rcases hnext with ⟨rfl, -⟩ | ⟨-, q', rfl, hq'number, -⟩
    · rfl
    · simp only [List.map_cons, List.map_nil, List.length_singleton, List.range'_one]
      rw [hq'number, hnumber, Nat.add_comm]
  constructor
  · rw [List.map_append, map_updateWhere fun q => (hkept q).1, h.rowNumbers, hlength, hnumbers, List.length_append, hupdated,
      List.range'_append_1]
  · rw [List.map_append, h.attemptNumbers, List.length_append, List.map_singleton, ha, hnumber, List.length_singleton,
      List.range'_1_concat, Nat.add_comm 1 attempts.length]
  · intro q' hq'
    rcases List.mem_append.1 hq' with hq' | hq'
    · obtain ⟨q, hq, hn, hi, -⟩ := hmem q' hq'
      rw [hn, hi]
      exact h.rowIds q hq
    · exact (hlast q' hq').2.1
  · intro b hb
    rcases List.mem_append.1 hb with hb | hb
    · exact h.attemptIds b hb
    · obtain rfl := List.mem_singleton.1 hb
      rw [haid, ha]
      exact h.rowIds r hr
  · intro q' hq' hle
    rw [List.length_append, List.length_singleton] at hle
    rcases List.mem_append.1 hq' with hq' | hq'
    · obtain ⟨-, -, -, -, hstate⟩ := hmem q' hq'
      exact hstate
    · have := (hlast q' hq').1
      omega
  · intro q' hq' hlt
    rw [List.length_append, List.length_singleton] at hlt
    rcases List.mem_append.1 hq' with hq' | hq'
    · obtain ⟨q, hq, hn, -⟩ := hmem q' hq'
      have := (h.row_number hq).2
      omega
    · exact (hlast q' hq').2.2
  · rw [List.length_append, List.length_append, hupdated, List.length_singleton]
    rcases hnext with ⟨rfl, -⟩ | ⟨-, q', rfl, -⟩ <;> simp
  · have hlimit := h.limit
    rw [List.length_append, hupdated]
    rcases hnext with ⟨rfl, -⟩ | ⟨⟨-, hlt⟩, q', rfl, -⟩
    · rw [List.length_nil]
      omega
    · rw [List.length_singleton]
      omega
  · intro b hb
    rw [List.length_append, hupdated]
    rcases List.mem_append.1 hb with hb | hb
    · have hretried := h.retried b hb
      have hle := (h.attempt_number hb).2
      rw [hlength] at hretried
      constructor
      · exact fun _ => hretried.1 (Nat.lt_succ_of_le hle)
      · exact fun _ => by omega
    · obtain rfl := List.mem_singleton.1 hb
      rcases hnext with ⟨rfl, hnot⟩ | ⟨hfailing, q', rfl, -⟩
      · rw [List.length_nil]
        exact ⟨fun hlt => by omega, fun hfailing => absurd hfailing hnot⟩
      · rw [List.length_singleton]
        exact ⟨fun _ => hfailing, fun _ => by omega⟩

end Chain

/-! ### The steps -/

/-- What holds of a store. -/
structure Chained (s : Store) : Prop where
  keys : (s.outbox.map (·.key)).Nodup
  drawn : ∀ r ∈ s.outbox, r.dispatch_id < s.nextToken ∧ r.notification_intent_id < s.nextToken
  chain : ∀ tenant_id intent_id, Chain intent_id (s.rowsOf tenant_id intent_id) (s.attemptsOf tenant_id intent_id)

/-- A claim is of a row that still has its token, or is done. -/
def Held (s : Store) (x : DispatchRow × ℕ) : Prop :=
  ∃ r ∈ s.outbox, r.key = x.1.key ∧ r.notification_intent_id = x.1.notification_intent_id ∧
    r.attempt_number = x.1.attempt_number ∧ r.logical_dispatch_id = x.1.logical_dispatch_id ∧
    (r.state = .done ∨ r.state = .claimed ∧ r.claim_token = some x.2)

/-- The invariant. -/
structure Deliveries.Chained (s : Deliveries) : Prop extends Notification.Chained s.store where
  held : ∀ x ∈ s.claims, Held s.store x

section Steps

variable {s s' : Store} {tenant_id : String} {intent_id : ℕ}

variable {r : DispatchRow}

theorem mem_rowsOf :
    r ∈ s.rowsOf tenant_id intent_id ↔ r ∈ s.outbox ∧ r.tenant_id = tenant_id ∧ r.notification_intent_id = intent_id := by
  simp [Store.rowsOf]

theorem mem_attemptsOf {a : NotificationAttempt} : a ∈ s.attemptsOf tenant_id intent_id ↔
    a ∈ s.attempts ∧ a.tenant_id = tenant_id ∧ a.notification_intent_id = intent_id := by
  simp [Store.attemptsOf]

theorem rowsOf_update {p : DispatchRow → Bool} {f : DispatchRow → DispatchRow}
    (hf : ∀ r, (f r).tenant_id = r.tenant_id ∧ (f r).notification_intent_id = r.notification_intent_id) :
    (updateWhere p f s.outbox).filter (fun r => r.tenant_id = tenant_id ∧ r.notification_intent_id = intent_id) =
      updateWhere p f (s.rowsOf tenant_id intent_id) := by
  refine updateWhere_filter fun r => ?_
  rw [(hf r).1, (hf r).2]

theorem Chained.empty : Chained .empty := by
  refine ⟨List.nodup_nil, fun r hr => absurd hr List.not_mem_nil, fun tenant_id intent_id => ?_⟩
  exact Chain.nil

theorem Chained.of_eq (h : Chained s) (houtbox : s'.outbox = s.outbox) (hattempts : s'.attempts = s.attempts)
    (htoken : s.nextToken ≤ s'.nextToken) : Chained s' := by
  refine ⟨houtbox ▸ h.keys, fun r hr => ?_, fun tenant_id intent_id => ?_⟩
  · have hdrawn := h.drawn r (houtbox ▸ hr)
    exact ⟨hdrawn.1.trans_le htoken, hdrawn.2.trans_le htoken⟩
  · rw [Store.rowsOf, Store.attemptsOf, houtbox, hattempts]
    exact h.chain tenant_id intent_id

/-- A new intent, with its first dispatch. -/
theorem Chained.create_intent (h : Chained s) (now : ℕ) (tenant_id alert_id destination_ref : String)
    (channel_class : ChannelClass) (payload_ref : String) :
    Chained (create_intent now tenant_id alert_id destination_ref channel_class payload_ref s) := by
  have hfresh : ∀ t, s.rowsOf t s.nextToken = [] := by
    intro t
    refine List.eq_nil_iff_forall_not_mem.2 fun r hr => ?_
    obtain ⟨hr, -, hid⟩ := mem_rowsOf.1 hr
    exact absurd (h.drawn r hr).2 (hid ▸ lt_irrefl _)
  refine ⟨?_, fun r hr => ?_, fun t i => ?_⟩
  · refine nodup_map_append_new h.keys fun r hr heq => ?_
    have hlt := (h.drawn r hr).1
    have hid : r.dispatch_id = s.nextToken + 1 := congrArg Prod.snd heq
    omega
  · rcases List.mem_append.1 hr with hr | hr
    · have hdrawn := h.drawn r hr
      exact ⟨hdrawn.1.trans_le (Nat.le_add_right _ 2), hdrawn.2.trans_le (Nat.le_add_right _ 2)⟩
    · obtain rfl := List.mem_singleton.1 hr
      exact ⟨Nat.lt_succ_self _, Nat.lt_add_of_pos_right Nat.two_pos⟩
  · have hattempts : (Notification.create_intent now tenant_id alert_id destination_ref channel_class payload_ref
        s).attemptsOf t i = s.attemptsOf t i := rfl
    rw [hattempts, Store.rowsOf, Notification.create_intent, List.filter_append]
    by_cases hnew : tenant_id = t ∧ s.nextToken = i
    · obtain ⟨rfl, rfl⟩ := hnew
      have hchain := h.chain tenant_id s.nextToken
      rw [hfresh] at hchain
      have hnone : s.attemptsOf tenant_id s.nextToken = [] := by
        have hle := hchain.lengths.1
        exact List.length_eq_zero_iff.1 (Nat.le_zero.1 hle)
      have hrows := hfresh tenant_id
      rw [Store.rowsOf] at hrows
      rw [hrows, hnone, List.filter_cons_of_pos (by simp)]
      constructor <;> simp [MAX_ATTEMPTS, logicalOf, DispatchRow.waiting]
    · rw [List.filter_cons_of_neg (by simpa using hnew), List.filter_nil, List.append_nil]
      exact h.chain t i

theorem Chained.key_iff (h : Chained s) {q : DispatchRow} (hq : q ∈ s.outbox) (hr : r ∈ s.outbox) :
    q.key = r.key ↔ q = r :=
  ⟨fun heq => eq_of_key h.keys hq hr heq, fun heq => congrArg DispatchRow.key heq⟩

theorem claim_outbox (r : DispatchRow) (s : Store) : (claim_dispatch r s).outbox = updateWhere (fun q => q.key = r.key)
    (fun q => { q with state := .claimed, claim_token := some s.nextToken }) s.outbox := rfl

/-- A claim of a pending row. -/
theorem Chained.claim (h : Chained s) (hr : r ∈ s.outbox) (hpending : r.state = .pending) :
    Chained (claim_dispatch r s) := by
  refine ⟨?_, fun q' hq' => ?_, fun t i => ?_⟩
  · rw [claim_outbox, map_updateWhere]
    · exact h.keys
    · exact fun _ => rfl
  · obtain ⟨q, hq, rfl⟩ := mem_updateWhere.1 hq'
    have hdrawn := h.drawn q hq
    split_ifs
    · exact ⟨Nat.lt_succ_of_lt hdrawn.1, Nat.lt_succ_of_lt hdrawn.2⟩
    · exact ⟨Nat.lt_succ_of_lt hdrawn.1, Nat.lt_succ_of_lt hdrawn.2⟩
  · have hattempts : (claim_dispatch r s).attemptsOf t i = s.attemptsOf t i := rfl
    rw [hattempts, Store.rowsOf, claim_outbox, rowsOf_update fun _ => by exact ⟨rfl, rfl⟩]
    refine (h.chain t i).update (fun _ => rfl) (fun _ => rfl) fun q hq hkey => ?_
    obtain rfl := (h.key_iff (mem_rowsOf.1 hq).1 hr).1 (of_decide_eq_true hkey)
    exact ⟨Or.inl hpending, Or.inr rfl⟩

theorem Held.claim (hkeys : (s.outbox.map (·.key)).Nodup) (hr : r ∈ s.outbox) (hpending : r.state = .pending) :
    (∀ x, Held s x → Held (claim_dispatch r s) x) ∧ Held (claim_dispatch r s) (r, s.nextToken) := by
  constructor
  · rintro x ⟨q, hq, hkey, hintent, hnumber, hid, hstate⟩
    refine ⟨q, mem_updateWhere_of_not hq (decide_eq_false fun heq => ?_), hkey, hintent, hnumber, hid, hstate⟩
    obtain rfl : q = r := eq_of_key hkeys hq hr heq
    rw [hpending] at hstate
    rcases hstate with hstate | ⟨hstate, -⟩ <;> cases hstate
  · refine ⟨_, mem_updateWhere.2 ⟨r, hr, if_pos (decide_eq_true rfl)⟩, rfl, rfl, rfl, rfl, Or.inr ⟨rfl, rfl⟩⟩

variable {token : ℕ} {outcome : DeliveryState} {failure : Option String}

/-- What a completion that commits has written. -/
theorem complete_dispatch_ok {now : ℕ} {ref : Option String}
    (hs : complete_dispatch now r.tenant_id r.dispatch_id token r.notification_intent_id r.attempt_number
      r.logical_dispatch_id outcome ref failure s = .ok s') :
    (∀ a ∈ s.attempts, a.tenant_id = r.tenant_id → a.dispatch_identity ≠ r.logical_dispatch_id) ∧
    s'.attempts = s.attempts ++ [⟨r.tenant_id, s.nextToken, r.notification_intent_id, r.attempt_number, outcome, ref, failure,
      r.logical_dispatch_id, now⟩] ∧
    s'.evidence = s.evidence ∧ s.nextToken < s'.nextToken ∧
    s'.refBindings = (bindProviderRef r.tenant_id r.notification_intent_id (ref.getD "") s).refBindings ∧
    ∃ next, s'.outbox = updateWhere (fun q => q.key = (r.tenant_id, r.dispatch_id) ∧ q.claim_token = some token)
        (fun q => { q with state := .done }) s.outbox ++ next ∧
      ((next = [] ∧ ¬((outcome = .failed ∨ outcome = .unknown) ∧ r.attempt_number < MAX_ATTEMPTS)) ∨
        ((outcome = .failed ∨ outcome = .unknown) ∧ r.attempt_number < MAX_ATTEMPTS) ∧
          next = [retryRow now r.tenant_id (s.nextToken + 1) r.notification_intent_id r.attempt_number
            r.logical_dispatch_id] ∧ s'.nextToken = s.nextToken + 2) := by
  obtain ⟨s₁, hinsert, hretry⟩ := bind_ok_iff.1 hs
  simp only [insertAttempt] at hinsert
  split_ifs at hinsert with hfresh
  obtain rfl := Except.ok.inj hinsert
  have hnone : ∀ a ∈ s.attempts, a.tenant_id = r.tenant_id → a.dispatch_identity ≠ r.logical_dispatch_id := by
    intro a ha htenant hid
    exact hfresh (List.any_eq_true.2 ⟨a, ha, decide_eq_true ⟨htenant, hid⟩⟩)
  obtain ⟨s₂, hs₂, hattempts, hevidence, htoken, hrefs, houtbox⟩ : ∃ s₂, insertRetry now r.tenant_id r.notification_intent_id
        r.attempt_number r.logical_dispatch_id outcome s₂ = .ok s' ∧
      s₂.attempts = s.attempts ++ [⟨r.tenant_id, s.nextToken, r.notification_intent_id, r.attempt_number, outcome, ref,
        failure, r.logical_dispatch_id, now⟩] ∧ s₂.evidence = s.evidence ∧ s₂.nextToken = s.nextToken + 1 ∧
      s₂.refBindings = (bindProviderRef r.tenant_id r.notification_intent_id (ref.getD "") s).refBindings ∧
      s₂.outbox = (finishRow r.tenant_id r.dispatch_id token s).outbox := by
    refine ⟨_, hretry, ?_⟩
    simp only [bindProviderRef]
    split_ifs
    · obtain ⟨rows, hrows⟩ := recompute_projection_eq r.tenant_id r.notification_intent_id (finishRow r.tenant_id r.dispatch_id
        token { s with
          attempts := s.attempts ++ [⟨r.tenant_id, s.nextToken, r.notification_intent_id, r.attempt_number, outcome, ref,
            failure, r.logical_dispatch_id, now⟩]
          nextToken := s.nextToken + 1 })
      rw [hrows]
      exact ⟨rfl, rfl, rfl, rfl, rfl⟩
    · obtain ⟨rows, hrows⟩ := recompute_projection_eq r.tenant_id r.notification_intent_id (finishRow r.tenant_id r.dispatch_id
        token { s with
          attempts := s.attempts ++ [⟨r.tenant_id, s.nextToken, r.notification_intent_id, r.attempt_number, outcome, ref,
            failure, r.logical_dispatch_id, now⟩]
          nextToken := s.nextToken + 1
          refBindings := s.refBindings ++ [⟨ref.getD "", r.tenant_id, r.notification_intent_id⟩] })
      rw [hrows]
      exact ⟨rfl, rfl, rfl, rfl, rfl⟩
  refine ⟨hnone, ?_⟩
  simp only [insertRetry] at hs₂
  split_ifs at hs₂ with hfailing
  · obtain rfl := Except.ok.inj hs₂
    rw [htoken]
    refine ⟨hattempts, hevidence, (Nat.lt_succ_self _).trans (Nat.lt_succ_self _), hrefs, _, ?_, Or.inr ⟨hfailing, rfl, rfl⟩⟩
    exact congrArg (· ++ _) houtbox
  · obtain rfl := Except.ok.inj hs₂
    refine ⟨hattempts, hevidence, by omega, hrefs, [], ?_, Or.inl ⟨rfl, hfailing⟩⟩
    rw [List.append_nil, houtbox]
    rfl

/-- The row of a completion that commits: the last one of its intent, with the token. -/
theorem Chained.completed_row (h : Chained s) (hheld : Held s (r, token))
    (hnone : ∀ a ∈ s.attempts, a.tenant_id = r.tenant_id → a.dispatch_identity ≠ r.logical_dispatch_id) :
    ∃ q ∈ s.rowsOf r.tenant_id r.notification_intent_id, q.attempt_number = r.attempt_number ∧
      q.logical_dispatch_id = r.logical_dispatch_id ∧
      q.attempt_number = (s.attemptsOf r.tenant_id r.notification_intent_id).length + 1 ∧
      (s.rowsOf r.tenant_id r.notification_intent_id).length =
        (s.attemptsOf r.tenant_id r.notification_intent_id).length + 1 ∧
      ∀ q' ∈ s.outbox, (q'.key = (r.tenant_id, r.dispatch_id) ∧ q'.claim_token = some token) ↔ q' = q := by
  obtain ⟨q, hq, hkey, hintent, hnumber, hid, hstate⟩ := hheld
  have hmem : q ∈ s.rowsOf r.tenant_id r.notification_intent_id :=
    mem_rowsOf.2 ⟨hq, congrArg Prod.fst hkey, hintent⟩
  have hchain := h.chain r.tenant_id r.notification_intent_id
  obtain ⟨hlast, hlength⟩ := hchain.number_of_unattempted hmem fun a ha => by
    obtain ⟨ha, htenant, -⟩ := mem_attemptsOf.1 ha
    exact hid ▸ hnone a ha htenant
  -- It waits, so it still has the token of its claim.
  have htoken : q.claim_token = some token := by
    rcases hstate with hdone | ⟨-, htoken⟩
    · have hwaiting := hchain.waiting q hmem (by omega)
      rcases hwaiting with hw | hw <;> rw [hdone] at hw <;> cases hw
    · exact htoken
  refine ⟨q, hmem, hnumber, hid, hlast, hlength, fun q' hq' => ⟨?_, ?_⟩⟩
  · rintro ⟨hkey', -⟩
    exact eq_of_key h.keys hq' hq (hkey'.trans hkey.symm)
  · rintro rfl
    exact ⟨hkey, htoken⟩

/-- A completion that commits. -/
theorem Chained.complete (h : Chained s) {now : ℕ} {ref : Option String} (hheld : Held s (r, token))
    (hs : complete_dispatch now r.tenant_id r.dispatch_id token r.notification_intent_id
      r.attempt_number r.logical_dispatch_id outcome ref failure s = .ok s') :
    Chained s' ∧ ∀ x, Held s x → Held s' x := by
  obtain ⟨hnone, hattempts, -, htoken, -, next, houtbox, hnext⟩ := complete_dispatch_ok hs
  obtain ⟨q, hq, hnumber, hid, hlast, hlength, hselects⟩ := h.completed_row hheld hnone
  have hnew : ∀ q' ∈ next, q' = retryRow now r.tenant_id (s.nextToken + 1) r.notification_intent_id r.attempt_number
      r.logical_dispatch_id ∧ s'.nextToken = s.nextToken + 2 := by
    intro q' hq'
    rcases hnext with ⟨rfl, -⟩ | ⟨-, rfl, htoken⟩
    · cases hq'
    · exact ⟨List.mem_singleton.1 hq', htoken⟩
  refine ⟨⟨?_, ?_, fun t i => ?_⟩, ?_⟩
  · have hkeys : (updateWhere (fun q => q.key = (r.tenant_id, r.dispatch_id) ∧ q.claim_token = some token)
        (fun q => { q with state := .done }) s.outbox).map (·.key) = s.outbox.map (·.key) := by
      rw [map_updateWhere]
      exact fun _ => rfl
    rw [houtbox, List.map_append, hkeys]
    refine List.nodup_append'.2 ⟨h.keys, nodup_map_of_length_le_one _ ?_, fun k hk hk' => ?_⟩
    · rcases hnext with ⟨rfl, -⟩ | ⟨-, rfl, -⟩ <;> simp
    · obtain ⟨q', hq', rfl⟩ := List.mem_map.1 hk
      obtain ⟨p, hp, heq⟩ := List.mem_map.1 hk'
      obtain ⟨rfl, -⟩ := hnew p hp
      have hlt := (h.drawn q' hq').1
      have hdispatch : s.nextToken + 1 = q'.dispatch_id := congrArg Prod.snd heq
      omega
  · intro q' hq'
    rw [houtbox] at hq'
    rcases List.mem_append.1 hq' with hq' | hq'
    · obtain ⟨p, hp, rfl⟩ := mem_updateWhere.1 hq'
      have hdrawn := h.drawn p hp
      split_ifs
      · exact ⟨hdrawn.1.trans htoken, hdrawn.2.trans htoken⟩
      · exact ⟨hdrawn.1.trans htoken, hdrawn.2.trans htoken⟩
    · obtain ⟨rfl, heq⟩ := hnew q' hq'
      obtain ⟨hqmem, -, hintent⟩ := mem_rowsOf.1 hq
      have hdrawn := (h.drawn q hqmem).2
      rw [heq]
      exact ⟨Nat.lt_succ_self _, by simpa only [retryRow, ← hintent] using hdrawn.trans (by omega)⟩
  · rw [Store.rowsOf, houtbox, List.filter_append, rowsOf_update fun _ => by exact ⟨rfl, rfl⟩, Store.attemptsOf, hattempts,
      List.filter_append]
    by_cases hintent : r.tenant_id = t ∧ r.notification_intent_id = i
    · obtain ⟨rfl, rfl⟩ := hintent
      rw [List.filter_cons_of_pos (by simp), List.filter_nil, List.filter_eq_self.2 fun q' hq' => by
        obtain ⟨rfl, -⟩ := hnew q' hq'
        exact decide_eq_true ⟨rfl, rfl⟩]
      refine (h.chain r.tenant_id r.notification_intent_id).attempt hq hlast hlength (fun q' hq' => ?_)
        (fun _ => by exact ⟨rfl, rfl⟩) (fun _ => rfl) hnumber.symm hid.symm ?_
      · rw [decide_eq_true_eq]
        exact hselects q' (mem_rowsOf.1 hq').1
      · rcases hnext with ⟨rfl, hnot⟩ | ⟨hfailing, rfl, -⟩
        · exact Or.inl ⟨rfl, hnot⟩
        · refine Or.inr ⟨hfailing, _, rfl, ?_, ?_, Or.inl rfl⟩
          · exact congrArg (· + 1) hnumber.symm
          · rw [hid, hnumber]
            rfl
    · have hother : next.filter (fun q => q.tenant_id = t ∧ q.notification_intent_id = i) = [] := by
        refine List.filter_eq_nil_iff.2 fun q' hq' => ?_
        obtain ⟨rfl, -⟩ := hnew q' hq'
        exact fun hsel => hintent (of_decide_eq_true hsel)
      rw [hother, List.append_nil, List.filter_cons_of_neg (by simpa using hintent), List.filter_nil, List.append_nil,
        updateWhere_of_none fun q' hq' => decide_eq_false fun hsel => ?_]
      · exact h.chain t i
      · obtain ⟨hq', ht, hi⟩ := mem_rowsOf.1 hq'
        obtain rfl := (hselects q' hq').1 hsel
        obtain ⟨-, ht', hi'⟩ := mem_rowsOf.1 hq
        exact hintent ⟨ht'.symm.trans ht, hi'.symm.trans hi⟩
  · rintro x ⟨q', hq', hkey', hintent', hnumber', hid', hstate'⟩
    rw [Held, houtbox]
    by_cases hsel : q'.key = (r.tenant_id, r.dispatch_id) ∧ q'.claim_token = some token
    · exact ⟨{ q' with state := .done }, List.mem_append_left _ (mem_updateWhere.2 ⟨q', hq', if_pos (decide_eq_true hsel)⟩),
        hkey', hintent', hnumber', hid', Or.inl rfl⟩
    · exact ⟨q', List.mem_append_left _ (mem_updateWhere_of_not hq' (decide_eq_false hsel)), hkey', hintent', hnumber', hid',
        hstate'⟩

end Steps

/-- A step keeps the invariant. -/
theorem Deliveries.Chained.step {s : Deliveries} (h : s.Chained) (a : DispatchAction) : (s.step a).Chained := by
  cases a with
  | create now tenant_id alert_id destination_ref channel_class payload_ref =>
    refine ⟨h.toChained.create_intent .., ?_⟩
    rintro x hx
    obtain ⟨r, hr, hrow⟩ := h.held x hx
    exact ⟨r, List.mem_append_left _ hr, hrow⟩
  | claim now =>
    dsimp only [Deliveries.step]
    split
    · exact h
    · rename_i r hr
      have hmem := List.mem_filter.1 (List.argmin_mem hr)
      have hpending : r.state = .pending := (of_decide_eq_true hmem.2).1
      obtain ⟨hold, hnew⟩ := Held.claim h.keys hmem.1 hpending
      refine ⟨h.toChained.claim hmem.1 hpending, fun x hx => ?_⟩
      rcases List.mem_append.1 hx with hx | hx
      · exact hold x (h.held x hx)
      · exact List.mem_singleton.1 hx ▸ hnew
  | complete now n outcome ref failure =>
    dsimp only [Deliveries.step, Deliveries.complete]
    split
    · exact h
    · rename_i r token hclaim
      split_ifs
      · exact h
      · split
        · rename_i store hs
          obtain ⟨hchained, hheld⟩ := h.toChained.complete (h.held _ (List.mem_of_getElem? hclaim)) hs
          exact ⟨hchained, fun x hx => hheld x (h.held x hx)⟩
        · exact h
  | evidence now tenant_id intent_id state callback ref =>
    obtain ⟨evidence, projections, token, htoken, heq⟩ :=
      record_evidence_eq tenant_id intent_id s.store now state callback ref
    dsimp only [Deliveries.step]
    rw [heq]
    exact ⟨h.toChained.of_eq rfl rfl htoken, h.held⟩

/-- After every run the dispatches and the attempts of every intent are in step. -/
theorem chained_exec (run : List DispatchAction) : (Deliveries.exec run).Chained := by
  induction run using List.reverseRecOn with
  | nil => exact ⟨Chained.empty, fun x hx => absurd hx List.not_mem_nil⟩
  | append_singleton run a ih =>
    rw [Deliveries.exec, List.foldl_append]
    exact ih.step a

end JLMirror.Notification
