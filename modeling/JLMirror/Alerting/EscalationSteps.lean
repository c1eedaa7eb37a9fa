import JLMirror.Alerting.EscalationArming

/-!
# Every step of an escalation policy

"Escalation stops when the alert resolves, is snoozed, or all steps fire." The next step of an
escalation is the number after the one that fired, whatever numbers the policy has, and the due
query joins the steps by that number: a hole in the numbers ends the escalation early, and a
number that is missing when the escalation waits for it is waited for as long as it is missing.

## The model

An infinite run of the engine with one worker, from the arming of an escalation on. Steps are
added and deleted at any time, the alert stays active, and every firing of the escalation
commits (`Steady`).

## What is proved

* `Awaited.step`: as long as nothing above a hole is skipped and no awaited step is deleted, the
  escalation waits for a step that exists.
* **Key result** (`escalation_fires_every_step`): then the steps fire in increasing order, none that
  exists is passed over, and passes at ever later times bring the escalation to its end.
* `holes_end_escalations`: a policy with steps 1 and 3, and one that starts with step 2.
-/

namespace JLMirror.Alerting

open JLMirror.Foundations

/-- The engine before the action number `n` of a run. -/
def Engine.before (s : Engine) (r : ℕ → EngineAction) (n : ℕ) : Engine := trace Engine.step s r n

theorem Engine.before_succ (s : Engine) (r : ℕ → EngineAction) (n : ℕ) :
    s.before r (n + 1) = (s.before r n).step (r n) := rfl

/-- A row of the alert. -/
def Listed.isFor (t a : String) (x : Listed) : Prop := x.tenant_id = t ∧ x.row.alert_id = a

/-- No worker holds two rows of an alert. -/
def RowsNodup (s : Engine) : Prop := ∀ w, ((s.due w).map fun x => (x.tenant_id, x.row.alert_id)).Nodup

/-- The escalation of the alert has just been armed, and no worker holds a row of it. -/
structure JustArmed (t a : String) (s : Engine) : Prop where
  sound : s.Sound
  armed : ∃ e, escalationOf t a s.db = some e ∧ e.completed_at = none ∧ e.current_step = 1
  unread : ∀ w, ∀ x ∈ s.due w, ¬x.isFor t a
  rows : RowsNodup s

/-- The worker `w` alone fires; the alert stays active and armed; the firings of its escalation
commit, so it is not snoozed either. -/
structure Steady (w : ℕ) (t a : String) (s : Engine) (r : ℕ → EngineAction) : Prop where
  reads : ∀ n w' t' clock, r n = .due w' t' clock → w' = w
  fires : ∀ n w' clock, r n = .fire w' clock → w' = w
  armed : ∀ n policy_id clock, r n ≠ .arm t a policy_id clock ∧ r n ≠ .disarm t a clock
  active : ∀ n, ∃ al ∈ (s.before r n).db.alerts, al.alert_id = a ∧ al.tenant_id = t ∧ al.lifecycle_state = .active
  commits : ∀ n clock x rest, r n = .fire w clock → (s.before r n).due w = x :: rest → x.isFor t a →
    (fireCommitted clock x.tenant_id x.row (s.before r n).tokens (s.before r n).db).2 = .fired

/-- The action `n` fires the step `k` of the alert. -/
def FiresAt (t a : String) (s : Engine) (r : ℕ → EngineAction) (n k : ℕ) : Prop :=
  ∃ w clock x rest, r n = .fire w clock ∧ (s.before r n).due w = x :: rest ∧ x.isFor t a ∧
    (fireCommitted clock x.tenant_id x.row (s.before r n).tokens (s.before r n).db).2 = .fired ∧
      x.row.current_step = k

/-- The steps of the policy of an escalation. -/
def stepsOf (db : EscalationDb) (e : AlertEscalation) : List EscalationStep :=
  db.steps.filter fun es => es.policy_id = e.policy_id ∧ es.tenant_id = e.tenant_id

/-- The worker reads the due rows of the tenant at ever later times, and fires all that it reads. -/
def PassesRecur (w : ℕ) (t : String) (s : Engine) (r : ℕ → EngineAction) : Prop :=
  ∀ n clock₀, ∃ m ≥ n, ∃ clock ≥ clock₀, r m = .due w t clock ∧
    ∃ d, (s.before r (m + 1 + d)).due w = [] ∧ ∀ i, m < i → i ≤ m + d → ∀ t' clock', r i ≠ .due w t' clock'

/-- Every step of the escalation fires. -/
structure EveryStepFires (w : ℕ) (t a : String) (s : Engine) (r : ℕ → EngineAction) : Prop where
  /-- In increasing order, each once. -/
  ascending : ∀ m n j k, m < n → FiresAt t a s r m j → FiresAt t a s r n k → j < k
  /-- A firing passes over no step that exists: the escalation goes on while there are steps. -/
  exhaustive : ∀ n k e, FiresAt t a s r n k → escalationOf t a (s.before r n).db = some e →
    ∀ es ∈ stepsOf (s.before r n).db e, k < es.step_number →
      ∃ e', escalationOf t a (s.before r (n + 1)).db = some e' ∧ e'.completed_at = none ∧ e'.current_step ≤ es.step_number
  /-- After the last step the escalation is complete. -/
  completes : ∀ n k e, FiresAt t a s r n k → escalationOf t a (s.before r n).db = some e →
    (∀ es ∈ stepsOf (s.before r n).db e, es.step_number ≤ k) →
      ∃ e', escalationOf t a (s.before r (n + 1)).db = some e' ∧ e'.completed_at ≠ none
  /-- An escalation that is not complete fires the step it waits for. -/
  live : PassesRecur w t s r → ∀ n e, escalationOf t a (s.before r n).db = some e → e.completed_at = none →
    ∃ m ≥ n, FiresAt t a s r m e.current_step
  /-- A step that stays in the policy fires. -/
  every : PassesRecur w t s r → ∀ k, (∀ n, ∃ e, escalationOf t a (s.before r n).db = some e ∧
    ∃ es ∈ stepsOf (s.before r n).db e, es.step_number = k) → ∃ n, FiresAt t a s r n k
  /-- If no steps are added to its policy any more, the escalation comes to its end. -/
  ends : PassesRecur w t s r → (∃ n, ∀ m ≥ n, ∀ e, escalationOf t a (s.before r m).db = some e →
    ∀ k delay channel dest payload, r m ≠ .add_step t e.policy_id k delay channel dest payload) →
      ∃ n e, escalationOf t a (s.before r n).db = some e ∧ e.completed_at ≠ none

/-- A firing has the number after it in the policy, or no number above it; a step is not deleted
while the escalation of the alert waits for it. -/
def InPlace (t a : String) (s : Engine) : EngineAction → Prop
  | .fire w _ => ∀ x ∈ (s.due w).head?, x.isFor t a → ∀ e, escalationOf t a s.db = some e →
      hasStep s.db.steps e (x.row.current_step + 1) = true ∨
        ∀ es ∈ stepsOf s.db e, es.step_number ≤ x.row.current_step
  | .delete_step t' policy_id k => ∀ e, escalationOf t a s.db = some e → e.completed_at = none →
      ¬(t' = t ∧ policy_id = e.policy_id ∧ k = e.current_step)
  | _ => True

/-! ### The rows of a worker -/

/-- The joins of the due query meet an alert at most once. -/
theorem dueRows_nodup {s : Engine} (hs : s.Sound) (clock : ℕ) (t : String) :
    ((dueRows clock t s.db).map DueRow.alert_id).Nodup := by
  rw [dueRows, List.map_flatMap, List.nodup_flatMap]
  constructor
  · intro e he
    split_ifs
    · rw [List.map_map]
      refine nodup_map_of_length_le_one _ ?_
      -- the steps of one policy under one number
      have hone : (s.db.steps.filter fun es =>
          (es.policy_id, es.tenant_id, es.step_number) = (e.policy_id, e.tenant_id, e.current_step)).length ≤ 1 := by
        rcases filter_key_cases hs.steps (e.policy_id, e.tenant_id, e.current_step) with h | ⟨es, -, -, h⟩
        · rw [h]
          exact Nat.zero_le 1
        · rw [h]
          exact le_rfl
      refine le_trans (List.Sublist.length_le (List.monotone_filter_right _ fun es hes => ?_)) hone
      have hes : es.policy_id = e.policy_id ∧ es.tenant_id = e.tenant_id ∧ es.step_number = e.current_step ∧ _ :=
        of_decide_eq_true hes
      exact decide_eq_true (by rw [hes.1, hes.2.1, hes.2.2.1])
    · exact List.nodup_nil
  · refine (List.pairwise_map.1 hs.escalations).imp fun {e e'} hne => ?_
    intro alert hmem hmem'
    obtain ⟨r, hr, rfl⟩ := List.mem_map.1 hmem
    obtain ⟨r', hr', halert⟩ := List.mem_map.1 hmem'
    split_ifs at hr hr' with hcond hcond'
    · obtain ⟨es, -, rfl⟩ := List.mem_map.1 hr
      obtain ⟨es', -, rfl⟩ := List.mem_map.1 hr'
      have halert : e'.alert_id = e.alert_id := halert
      exact hne (by rw [hcond.1, hcond'.1, halert])
    · cases hr'
    · cases hr
    · cases hr

theorem RowsNodup.step {s : Engine} (hs : s.Sound) (h : RowsNodup s) (act : EngineAction) : RowsNodup (s.step act) := by
  intro w'
  cases act with
  | due w t clock =>
    by_cases hw : w' = w
    · subst hw
      simp only [Engine.step, Function.update_self, List.map_map]
      have hkeys : (dueRows clock t s.db).map ((fun x : Listed => (x.tenant_id, x.row.alert_id)) ∘
          fun r => ⟨t, r, s.armings (t, r.alert_id)⟩) = ((dueRows clock t s.db).map DueRow.alert_id).map fun a => (t, a) := by
        rw [List.map_map]
        rfl
      rw [hkeys]
      exact (dueRows_nodup hs clock t).map fun a b hab => (Prod.mk.inj hab).2
    · simp only [Engine.step, Function.update_of_ne hw]
      exact h w'
  | fire w clock =>
    simp only [Engine.step]
    cases hdue : s.due w with
    | nil => exact h w'
    | cons x rest =>
      by_cases hw : w' = w
      · subst hw
        show ((Function.update s.due w' rest w').map _).Nodup
        rw [Function.update_self]
        have hall := h w'
        rw [hdue, List.map_cons] at hall
        exact (List.nodup_cons.1 hall).2
      · show ((Function.update s.due w rest w').map _).Nodup
        rw [Function.update_of_ne hw]
        exact h w'
  | arm t a policy_id clock =>
    simp only [Engine.step]
    cases g23_arm_alert s.policies clock t a policy_id s.db <;> exact h w'
  | _ => exact h w'

/-- The rows of a worker after a firing: one row less, which is the only one of its alert. -/
theorem RowsNodup.head {s : Engine} (h : RowsNodup s) {w : ℕ} {x : Listed} {rest : List Listed} (hdue : s.due w = x :: rest) :
    ∀ y ∈ rest, (y.tenant_id, y.row.alert_id) ≠ (x.tenant_id, x.row.alert_id) := by
  intro y hy heq
  have hall := h w
  rw [hdue, List.map_cons, List.nodup_cons] at hall
  exact hall.1 (List.mem_map.2 ⟨y, hy, heq⟩)

/-! ### What the escalation waits for -/

variable {steps : List EscalationStep} {e : AlertEscalation} {n : ℕ}

theorem hasStep_iff :
    hasStep steps e n = true ↔
      ∃ es ∈ steps, es.policy_id = e.policy_id ∧ es.tenant_id = e.tenant_id ∧ es.step_number = n := by
  simp [hasStep]

variable {act : EngineAction}

/-- A step of the policy `policy_id` is there until it is deleted. -/
theorem Engine.step_kept {s : Engine} {es : EscalationStep} (hes : es ∈ s.db.steps)
    (hact : act ≠ .delete_step es.tenant_id es.policy_id es.step_number) (hs : s.Sound) :
    es ∈ (s.step act).db.steps := by
  cases act with
  | due w t clock => exact hes
  | create_policy policy_id t name => exact hes
  | delete_policy t policy_id clock => exact hes
  | fire w clock =>
    simp only [Engine.step]
    cases hdue : s.due w with
    | nil => exact hes
    | cons x rest =>
      show es ∈ (fireCommitted clock x.tenant_id x.row s.tokens s.db).1.steps
      rcases fireCommitted_cases hs clock x with ⟨-, hdb, -⟩ | ⟨-, hdb⟩
      · rw [hdb, (firedTables_tables _ _ _ _ _).1]
        exact hes
      · rw [hdb]
        exact hes
  | add_step t policy_id n delay channel dest payload =>
    simp only [Engine.step]
    cases hcall : g23_add_step s.policies t policy_id n delay channel dest payload s.db with
    | error e => exact hes
    | ok db =>
      obtain ⟨es', -, -, -, -, rfl⟩ := g23_add_step_ok hcall
      exact List.mem_append_left _ hes
  | delete_step t policy_id n =>
    simp only [Engine.step]
    cases hcall : g23_delete_step t policy_id n s.db with
    | error e => exact hes
    | ok db =>
      obtain rfl := g23_delete_step_ok hcall
      refine List.mem_filter.2 ⟨hes, ?_⟩
      by_contra h
      have hstep : es.policy_id = policy_id ∧ es.tenant_id = t ∧ (es.step_number : ℤ) = n := by
        simpa [isStep] using h
      obtain ⟨rfl, rfl, rfl⟩ := hstep
      exact hact rfl
  | arm t a policy_id clock =>
    simp only [Engine.step]
    cases hcall : g23_arm_alert s.policies clock t a policy_id s.db with
    | error e => exact hes
    | ok db =>
      obtain ⟨-, rfl⟩ := g23_arm_alert_ok hcall
      exact hes
  | disarm t a clock =>
    simp only [Engine.step]
    cases hcall : g23_disarm_alert clock t a s.db with
    | error e => exact hes
    | ok db =>
      obtain rfl := g23_disarm_alert_ok hcall
      exact hes
  | others alerts snoozes intents =>
    show es ∈ (addIntents s.tokens intents { s.db with alerts, snoozes }).steps
    rw [(addIntents_tables _ _ _).2]
    exact hes

/-- What holds of the escalation of the alert, and of the rows of it that the worker `w` holds. -/
structure Awaited (w : ℕ) (t a : String) (s : Engine) : Prop where
  sound : s.Sound
  rows : RowsNodup s
  /-- An escalation that is not complete waits for a step that exists. -/
  awaited : ∃ e, escalationOf t a s.db = some e ∧ (e.completed_at = none → hasStep s.db.steps e e.current_step = true)
  /-- A row in the hands of the worker is that step. -/
  held : ∀ w', ∀ x ∈ s.due w', x.isFor t a → w' = w ∧ ∃ e, escalationOf t a s.db = some e ∧ e.completed_at = none ∧
    e.current_step = x.row.current_step

/-- A firing of the escalation takes the awaited step. -/
theorem Awaited.fires {w : ℕ} {t a : String} {s₀ : Engine} {r : ℕ → EngineAction} {k : ℕ}
    (h : Awaited w t a (s₀.before r n)) (hfire : FiresAt t a s₀ r n k) :
    ∃ clock e, escalationOf t a (s₀.before r n).db = some e ∧ e.completed_at = none ∧ e.current_step = k ∧
      escalationOf t a (s₀.before r (n + 1)).db = some (advanced clock k (s₀.before r n).db.steps e) := by
  obtain ⟨w', clock, x, rest, hact, hdue, hkey, hfired, rfl⟩ := hfire
  obtain ⟨-, e, he, hopen, hstep⟩ := h.held w' x (by rw [hdue]; exact List.mem_cons_self) hkey
  obtain ⟨rfl, rfl⟩ := hkey
  refine ⟨clock, e, he, hopen, hstep, ?_⟩
  rw [Engine.before_succ, hact]
  simp only [Engine.step, hdue]
  obtain ⟨-, e', he', -, hafter⟩ := (fireRow_cases h.sound w' clock x rest).resolve_right fun hn => hn.1 hfired
  obtain rfl := Option.some.inj (he'.symm.trans he)
  rw [hafter, if_pos rfl]

/-- An action that does not fire the escalation leaves it as it is. -/
theorem Steady.still {w : ℕ} {t a : String} {s : Engine} {r : ℕ → EngineAction} (hsteady : Steady w t a s r)
    (hs : (s.before r n).Sound) (hquiet : ∀ k, ¬FiresAt t a s r n k) :
    escalationOf t a (s.before r (n + 1)).db = escalationOf t a (s.before r n).db := by
  have hmoves := Engine.step_escalation hs t a (r n)
  rw [Engine.before_succ]
  generalize hact : r n = act at hmoves ⊢
  generalize escalationOf t a ((s.before r n).step act).db = after at hmoves ⊢
  generalize ((s.before r n).step act).armings (t, a) = k at hmoves
  cases hmoves with
  | still => rfl
  | armed => exact absurd hact (hsteady.armed n _ _).1
  | disarmed => exact absurd hact (hsteady.armed n "" _).2
  | fired hdue hkey hfired he hopen => exact absurd ⟨_, _, _, _, hact, hdue, hkey, hfired, rfl⟩ (hquiet _)

theorem advanced_next {clock : ℕ} (h : hasStep steps e (n + 1) = true) :
    advanced clock n steps e = { e with current_step := n + 1, last_fired_at := some clock } := by
  simp [advanced, setAdvanced, h]

theorem advanced_last {clock : ℕ} (h : hasStep steps e (n + 1) = false) :
    advanced clock n steps e = { e with last_fired_at := some clock, completed_at := some clock } := by
  simp [advanced, setAdvanced, h]

/-- A step that is no read and no firing leaves the rows of the workers alone. -/
theorem Engine.step_due {s : Engine} (hread : ∀ w t clock, act ≠ .due w t clock)
    (hfire : ∀ w clock, act ≠ .fire w clock) : (s.step act).due = s.due := by
  cases act with
  | due w t clock => exact absurd rfl (hread w t clock)
  | fire w clock => exact absurd rfl (hfire w clock)
  | arm t a policy_id clock =>
    simp only [Engine.step]
    cases g23_arm_alert s.policies clock t a policy_id s.db <;> rfl
  | _ => rfl

section Steady

variable {w : ℕ} {t a : String} {s : Engine} {r : ℕ → EngineAction}

variable {n : ℕ}

/-- The awaited step is there after an action that leaves it in place. -/
theorem Awaited.step_awaited (hsteady : Steady w t a s r) (h : Awaited w t a (s.before r n))
    (hplace : InPlace t a (s.before r n) (r n)) :
    ∃ e, escalationOf t a (s.before r (n + 1)).db = some e ∧
      (e.completed_at = none → hasStep (s.before r (n + 1)).db.steps e e.current_step = true) := by
  by_cases hfire : ∃ k, FiresAt t a s r n k
  · obtain ⟨k, hfire⟩ := hfire
    obtain ⟨clock, e, -, -, -, hafter⟩ := h.fires hfire
    obtain ⟨w', clock', x, rest, hact, -⟩ := hfire
    refine ⟨_, hafter, fun hopen => ?_⟩
    cases hnext : hasStep (s.before r n).db.steps e (k + 1) with
    | false =>
      rw [advanced_last hnext] at hopen
      cases hopen
    | true =>
      obtain ⟨es, hes, hstep⟩ := hasStep_iff.1 hnext
      rw [advanced_next hnext]
      exact hasStep_iff.2 ⟨es, Engine.step_kept hes (by rw [hact]; simp) h.sound, hstep⟩
  · obtain ⟨e, he, hwaits⟩ := h.awaited
    refine ⟨e, (hsteady.still h.sound fun k hk => hfire ⟨k, hk⟩).trans he, fun hopen => ?_⟩
    obtain ⟨es, hes, hpolicy, htenant, hnumber⟩ := hasStep_iff.1 (hwaits hopen)
    refine hasStep_iff.2 ⟨es, Engine.step_kept hes (fun hact => ?_) h.sound, hpolicy, htenant, hnumber⟩
    rw [hact] at hplace
    refine hplace e he hopen ⟨?_, hpolicy, by rw [hnumber]⟩
    rw [htenant, (escalationOf_some he).2.2]

/-- The rows of the alert in the hands of the worker after an action. -/
theorem Awaited.step_held (hsteady : Steady w t a s r) (h : Awaited w t a (s.before r n)) :
    ∀ w', ∀ x ∈ (s.before r (n + 1)).due w', x.isFor t a → w' = w ∧
      ∃ e, escalationOf t a (s.before r (n + 1)).db = some e ∧ e.completed_at = none ∧
        e.current_step = x.row.current_step := by
  intro w' x hx hkey
  have hold : x ∈ (s.before r n).due w' → (∀ k, ¬FiresAt t a s r n k) → w' = w ∧
      ∃ e, escalationOf t a (s.before r (n + 1)).db = some e ∧ e.completed_at = none ∧
        e.current_step = x.row.current_step := by
    intro hmem hquiet
    rw [hsteady.still h.sound hquiet]
    exact h.held w' x hmem hkey
  by_cases hread : ∃ w₁ t₁ clock, r n = .due w₁ t₁ clock
  · obtain ⟨w₁, t₁, clock, hact⟩ := hread
    obtain rfl := hsteady.reads n w₁ t₁ clock hact
    have hquiet : ∀ k, ¬FiresAt t a s r n k := by
      rintro k ⟨_, _, _, _, hfire, -⟩
      rw [hact] at hfire
      cases hfire
    rw [Engine.before_succ, hact] at hx
    by_cases hw : w' = w₁
    · subst hw
      simp only [Engine.step, Function.update_self] at hx
      obtain ⟨row, hrow, rfl⟩ := List.mem_map.1 hx
      obtain ⟨e, he, -, -, rfl, halert, hopen, -, hstep, -⟩ := mem_dueRows hrow
      obtain ⟨rfl, rfl⟩ := hkey
      refine ⟨rfl, e, ?_, hopen, hstep⟩
      rw [hsteady.still h.sound hquiet, ← halert]
      exact escalationOf_of_mem h.sound.escalations he
    · simp only [Engine.step, Function.update_of_ne hw] at hx
      exact hold hx hquiet
  · by_cases hfire : ∃ w₁ clock, r n = .fire w₁ clock
    · obtain ⟨w₁, clock, hact⟩ := hfire
      rw [Engine.before_succ, hact] at hx
      simp only [Engine.step] at hx
      cases hdue : (s.before r n).due w₁ with
      | nil =>
        rw [hdue] at hx
        refine hold hx ?_
        rintro k ⟨w₂, _, _, _, hact₂, hdue₂, -⟩
        obtain ⟨rfl, -⟩ : w₁ = w₂ ∧ _ := by simpa using hact.symm.trans hact₂
        rw [hdue] at hdue₂
        cases hdue₂
      | cons y rest =>
        rw [hdue] at hx
        by_cases hy : y.isFor t a
        · -- the row that fires is the only one of the alert
          obtain ⟨rfl, -⟩ := h.held w₁ y (by rw [hdue]; exact List.mem_cons_self) hy
          obtain ⟨rfl, -⟩ := h.held w' x (fireRow_due hdue hx) hkey
          have hx : x ∈ Function.update (s.before r n).due w' rest w' := hx
          rw [Function.update_self] at hx
          refine absurd ?_ (h.rows.head hdue x hx)
          rw [hkey.1, hkey.2, hy.1, hy.2]
        · refine hold (fireRow_due hdue hx) ?_
          rintro k ⟨w₂, _, _, _, hact₂, hdue₂, hkey₂, -⟩
          obtain ⟨rfl, -⟩ : w₁ = w₂ ∧ _ := by simpa using hact.symm.trans hact₂
          rw [hdue] at hdue₂
          obtain ⟨rfl, -⟩ := List.cons.inj hdue₂
          exact hy hkey₂
    · have hdue : (s.before r (n + 1)).due = (s.before r n).due :=
        Engine.step_due (fun w t c hact => hread ⟨w, t, c, hact⟩) fun w c hact => hfire ⟨w, c, hact⟩
      rw [hdue] at hx
      refine hold hx ?_
      rintro k ⟨w₂, clock, _, _, hact, -⟩
      exact hfire ⟨w₂, clock, hact⟩

/-- **A steady run that keeps the awaited steps in place always waits for one that exists.** -/
theorem Awaited.before (harmed : JustArmed t a s) (hfirst : ∀ e, escalationOf t a s.db = some e → hasStep s.db.steps e 1 = true)
    (hsteady : Steady w t a s r) (hplace : ∀ n, InPlace t a (s.before r n) (r n)) (n : ℕ) :
    Awaited w t a (s.before r n) := by
  induction n with
  | zero =>
    obtain ⟨e, he, hopen, hstep⟩ := harmed.armed
    refine ⟨harmed.sound, harmed.rows, ⟨e, he, fun _ => ?_⟩, fun w' x hx hkey => absurd hkey (harmed.unread w' x hx)⟩
    rw [hstep]
    exact hfirst e he
  | succ n ih => exact ⟨ih.sound.step _, ih.rows.step ih.sound _, ih.step_awaited hsteady (hplace n), ih.step_held hsteady⟩

/-! ### The firings of a steady run -/

variable {e : AlertEscalation}

/-- The escalation never goes back: its step does not fall, and what is complete stays so. -/
theorem Steady.later (hsteady : Steady w t a s r) (h : ∀ n, Awaited w t a (s.before r n)) {m : ℕ} (hmn : m ≤ n)
    (he : escalationOf t a (s.before r m).db = some e) :
    ∃ e', escalationOf t a (s.before r n).db = some e' ∧ e'.policy_id = e.policy_id ∧ e.current_step ≤ e'.current_step ∧
      (e.completed_at ≠ none → e'.completed_at ≠ none) := by
  induction n, hmn using Nat.le_induction with
  | base => exact ⟨e, he, rfl, le_rfl, id⟩
  | succ n hmn ih =>
    obtain ⟨e', he', hpolicy, hle, hdone⟩ := ih
    by_cases hfire : ∃ k, FiresAt t a s r n k
    · obtain ⟨k, hfire⟩ := hfire
      obtain ⟨clock, e₁, he₁, hopen, hstep, hafter⟩ := (h n).fires hfire
      obtain rfl := Option.some.inj (he'.symm.trans he₁)
      obtain ⟨hsame, -, hnext⟩ := advanced_cases clock k (s.before r n).db.steps e'
      exact ⟨_, hafter, hsame.trans hpolicy, by omega, fun hne => absurd hopen (hdone hne)⟩
    · exact ⟨e', (hsteady.still (h n).sound fun k hk => hfire ⟨k, hk⟩).trans he', hpolicy, hle, hdone⟩

theorem Steady.ascending (hsteady : Steady w t a s r) (h : ∀ n, Awaited w t a (s.before r n)) {m j k : ℕ}
    (hmn : m < n) (hm : FiresAt t a s r m j) (hn : FiresAt t a s r n k) : j < k := by
  obtain ⟨clock, e, he, hopen, hstep, hafter⟩ := (h m).fires hm
  obtain ⟨-, e', he', hopen', hstep', -⟩ := (h n).fires hn
  obtain ⟨e₁, he₁, -, hle, hdone⟩ := hsteady.later h (show m + 1 ≤ n from hmn) hafter
  obtain rfl := Option.some.inj (he₁.symm.trans he')
  obtain ⟨-, hnext, -⟩ := advanced_cases clock j (s.before r m).db.steps e
  have hstill : (advanced clock j (s.before r m).db.steps e).completed_at = none := by
    by_contra hne
    exact hdone hne hopen'
  have hgo := hnext hstill hopen
  omega

variable {es : EscalationStep}

theorem mem_stepsOf {db : EscalationDb} :
    es ∈ stepsOf db e ↔ es ∈ db.steps ∧ es.policy_id = e.policy_id ∧ es.tenant_id = e.tenant_id := by
  simp [stepsOf]

/-- A firing goes on to the number after it, or nothing above it exists. -/
theorem Awaited.next {k : ℕ} (h : Awaited w t a (s.before r n)) (hplace : InPlace t a (s.before r n) (r n))
    (hfire : FiresAt t a s r n k) (he : escalationOf t a (s.before r n).db = some e) :
    ∃ e', escalationOf t a (s.before r (n + 1)).db = some e' ∧
      ((e'.completed_at = none ∧ e'.current_step = k + 1 ∧ hasStep (s.before r n).db.steps e (k + 1) = true) ∨
        (e'.completed_at ≠ none ∧ ∀ es ∈ stepsOf (s.before r n).db e, es.step_number ≤ k)) := by
  obtain ⟨clock, e₁, he₁, hopen, -, hafter⟩ := h.fires hfire
  obtain rfl := Option.some.inj (he.symm.trans he₁)
  obtain ⟨w', clock', x, rest, hact, hdue, hkey, -, rfl⟩ := hfire
  rw [hact] at hplace
  refine ⟨_, hafter, ?_⟩
  cases hnext : hasStep (s.before r n).db.steps e (x.row.current_step + 1) with
  | true =>
    rw [advanced_next hnext]
    exact Or.inl ⟨hopen, rfl, rfl⟩
  | false =>
    rw [advanced_last hnext]
    refine Or.inr ⟨Option.some_ne_none clock, ?_⟩
    exact (hplace x (by rw [hdue]; rfl) hkey e he).resolve_left (by simp [hnext])

theorem Awaited.exhaustive {k : ℕ} (h : Awaited w t a (s.before r n)) (hplace : InPlace t a (s.before r n) (r n))
    (hfire : FiresAt t a s r n k) (he : escalationOf t a (s.before r n).db = some e)
    (hes : es ∈ stepsOf (s.before r n).db e) (hlt : k < es.step_number) :
    ∃ e', escalationOf t a (s.before r (n + 1)).db = some e' ∧ e'.completed_at = none ∧
      e'.current_step ≤ es.step_number := by
  obtain ⟨e', he', ⟨hopen, hstep, -⟩ | ⟨-, hnone⟩⟩ := h.next hplace hfire he
  · exact ⟨e', he', hopen, by omega⟩
  · have := hnone es hes
    omega

theorem Awaited.completes {k : ℕ} (h : Awaited w t a (s.before r n)) (hplace : InPlace t a (s.before r n) (r n))
    (hfire : FiresAt t a s r n k) (he : escalationOf t a (s.before r n).db = some e)
    (hlast : ∀ es ∈ stepsOf (s.before r n).db e, es.step_number ≤ k) :
    ∃ e', escalationOf t a (s.before r (n + 1)).db = some e' ∧ e'.completed_at ≠ none := by
  obtain ⟨e', he', ⟨-, -, hnext⟩ | ⟨hdone, -⟩⟩ := h.next hplace hfire he
  · obtain ⟨es, hes, hpolicy, htenant, hnumber⟩ := hasStep_iff.1 hnext
    have := hlast es (mem_stepsOf.2 ⟨hes, hpolicy, htenant⟩)
    omega
  · exact ⟨e', he', hdone⟩

/-! ### Passes at ever later times -/

/-- A row that a worker reads is fired before its rows are gone. -/
theorem exists_fire {x : Listed} {i d : ℕ} (hx : x ∈ (s.before r i).due w) (hgone : (s.before r (i + d)).due w = [])
    (hno : ∀ j, i ≤ j → j < i + d → ∀ t' clock, r j ≠ .due w t' clock) :
    ∃ j ≥ i, ∃ clock rest, r j = .fire w clock ∧ (s.before r j).due w = x :: rest := by
  induction d generalizing i with
  | zero =>
    rw [Nat.add_zero] at hgone
    rw [hgone] at hx
    cases hx
  | succ d ih =>
    have hnext : x ∈ (s.before r (i + 1)).due w →
        ∃ j ≥ i, ∃ clock rest, r j = .fire w clock ∧ (s.before r j).due w = x :: rest := by
      intro hx'
      obtain ⟨j, hj, hfire⟩ := ih hx' (by rwa [show i + 1 + d = i + (d + 1) by omega])
        fun j hj hlt => hno j (by omega) (by omega)
      exact ⟨j, by omega, hfire⟩
    by_cases hother : ∃ w' t' clock, r i = .due w' t' clock
    · obtain ⟨w', t', clock, hact⟩ := hother
      have hw : w ≠ w' := by
        rintro rfl
        exact hno i le_rfl (by omega) t' clock hact
      refine hnext ?_
      rw [Engine.before_succ, hact]
      simp only [Engine.step, Function.update_of_ne hw]
      exact hx
    · by_cases hfire : ∃ w' clock, r i = .fire w' clock
      · obtain ⟨w', clock, hact⟩ := hfire
        cases hdue : (s.before r i).due w' with
        | nil =>
          refine hnext ?_
          rw [Engine.before_succ, hact]
          simp only [Engine.step, hdue]
          exact hx
        | cons y rest =>
          by_cases hw : w = w'
          · subst hw
            rw [hdue] at hx
            rcases List.mem_cons.1 hx with rfl | hx
            · exact ⟨i, le_rfl, clock, rest, hact, hdue⟩
            · refine hnext ?_
              rw [Engine.before_succ, hact]
              simp only [Engine.step, hdue]
              show x ∈ Function.update (s.before r i).due w rest w
              rwa [Function.update_self]
          · refine hnext ?_
            rw [Engine.before_succ, hact]
            simp only [Engine.step, hdue]
            show x ∈ Function.update (s.before r i).due w' rest w
            rwa [Function.update_of_ne hw]
      · refine hnext ?_
        rw [Engine.before_succ, Engine.step_due (fun w' t' c hact => hother ⟨w', t', c, hact⟩) fun w' c hact => hfire ⟨w', c, hact⟩]
        exact hx

/-- The due query finds the awaited step of an open escalation, when its delay is over. -/
theorem mem_dueRows_of {db : EscalationDb} {clock : ℕ} (he : e ∈ db.escalations) (hopen : e.completed_at = none)
    (hactive : ∃ al ∈ db.alerts, al.alert_id = e.alert_id ∧ al.tenant_id = e.tenant_id ∧ al.lifecycle_state = .active)
    (hes : es ∈ db.steps)
    (hstep : es.policy_id = e.policy_id ∧ es.tenant_id = e.tenant_id ∧ es.step_number = e.current_step)
    (hclock : e.last_fired_at.getD e.armed_at + 60 * es.delay_minutes ≤ clock) :
    ⟨e.alert_id, e.policy_id, e.current_step, es.delay_minutes, es.channel_class, es.destination_ref, es.payload_ref⟩ ∈
      dueRows clock e.tenant_id db := by
  refine List.mem_flatMap.2 ⟨e, he, ?_⟩
  rw [if_pos ⟨rfl, hopen, hactive⟩]
  refine List.mem_map.2 ⟨es, List.mem_filter.2 ⟨hes, ?_⟩, rfl⟩
  exact decide_eq_true ⟨hstep.1, hstep.2.1, hstep.2.2, hclock⟩

/-- An open escalation fires the step it waits for. -/
theorem Steady.live (hsteady : Steady w t a s r) (h : ∀ n, Awaited w t a (s.before r n))
    (hplace : ∀ n, InPlace t a (s.before r n) (r n)) (hrecur : PassesRecur w t s r)
    (he : escalationOf t a (s.before r n).db = some e) (hopen : e.completed_at = none) :
    ∃ m ≥ n, FiresAt t a s r m e.current_step := by
  by_contra hnone
  have hquiet : ∀ m ≥ n, ¬FiresAt t a s r m e.current_step := fun m hm hfire => hnone ⟨m, hm, hfire⟩
  -- until then the escalation and its step stay as they are
  have hsame : ∀ m ≥ n, escalationOf t a (s.before r m).db = some e := by
    intro m hm
    induction m, hm using Nat.le_induction with
    | base => exact he
    | succ m hm ih =>
      rw [hsteady.still (h m).sound fun k hfire => ?_]
      · exact ih
      · obtain ⟨-, e₁, he₁, -, hstep, -⟩ := (h m).fires hfire
        obtain rfl := Option.some.inj (he₁.symm.trans ih)
        exact hquiet m hm (hstep ▸ hfire)
  obtain ⟨e₀, he₀, hwaits⟩ := (h n).awaited
  obtain rfl := Option.some.inj (he₀.symm.trans he)
  obtain ⟨es, hes, hstep⟩ := hasStep_iff.1 (hwaits hopen)
  obtain ⟨-, halert, htenant⟩ := escalationOf_some he₀
  have hkept : ∀ m ≥ n, es ∈ (s.before r m).db.steps := by
    intro m hm
    induction m, hm using Nat.le_induction with
    | base => exact hes
    | succ m hm ih =>
      refine Engine.step_kept ih (fun hact => ?_) (h m).sound
      have hin := hplace m
      rw [hact] at hin
      exact hin e₀ (hsame m hm) hopen ⟨hstep.2.1.trans htenant, hstep.1, by rw [hstep.2.2]⟩
  obtain ⟨m, hm, clock, hclock, hact, d, hgone, hno⟩ := hrecur n (e₀.last_fired_at.getD e₀.armed_at + 60 * es.delay_minutes)
  have hactive := hsteady.active m
  rw [← halert, ← htenant] at hactive
  have hrow := mem_dueRows_of (escalationOf_some (hsame m hm)).1 hopen hactive (hkept m hm) hstep hclock
  rw [htenant] at hrow
  obtain ⟨j, hj, clock', rest, hfire, hdue⟩ := exists_fire (s := s) (r := r) (w := w) (i := m + 1) (d := d)
    (x := ⟨t, _, (s.before r m).armings (t, e₀.alert_id)⟩)
    (by
      rw [Engine.before_succ, hact]
      simp only [Engine.step, Function.update_self]
      exact List.mem_map.2 ⟨_, hrow, rfl⟩)
    hgone fun j hj hlt => hno j (by omega) (by omega)
  refine hquiet j (by omega) ⟨w, clock', _, rest, hfire, hdue, ⟨rfl, halert⟩, ?_, rfl⟩
  exact hsteady.commits j clock' _ rest hfire hdue ⟨rfl, halert⟩

/-- A step that stays in the policy fires. -/
theorem Steady.every (hsteady : Steady w t a s r) (h : ∀ n, Awaited w t a (s.before r n))
    (hplace : ∀ n, InPlace t a (s.before r n) (r n)) (hrecur : PassesRecur w t s r) {k : ℕ}
    (hstays : ∀ n, ∃ e, escalationOf t a (s.before r n).db = some e ∧
      ∃ es ∈ stepsOf (s.before r n).db e, es.step_number = k) {n : ℕ} {e : AlertEscalation}
    (he : escalationOf t a (s.before r n).db = some e) (hopen : e.completed_at = none) (hle : e.current_step ≤ k) :
    ∃ m, FiresAt t a s r m k := by
  obtain ⟨m, -, hfire⟩ := hsteady.live h hplace hrecur he hopen
  rcases hle.lt_or_eq with hlt | heq
  · obtain ⟨e₁, he₁, es, hes, rfl⟩ := hstays m
    obtain ⟨e', he', ⟨hopen', hstep', -⟩ | ⟨-, hlast⟩⟩ := (h m).next (hplace m) hfire he₁
    · exact hsteady.every h hplace hrecur hstays he' hopen' (by omega)
    · have := hlast es hes
      omega
  · exact ⟨m, heq ▸ hfire⟩
termination_by k - e.current_step

end Steady

theorem stepsOf_congr {db : EscalationDb} {e' : AlertEscalation} (hpolicy : e'.policy_id = e.policy_id)
    (htenant : e'.tenant_id = e.tenant_id) : stepsOf db e' = stepsOf db e := by
  unfold stepsOf
  rw [hpolicy, htenant]

/-- A policy to which no step is added loses steps at most. -/
theorem stepsOf_sublist {s : Engine} (hs : s.Sound)
    (hact : ∀ k delay channel dest payload, act ≠ .add_step e.tenant_id e.policy_id k delay channel dest payload) :
    (stepsOf (s.step act).db e).Sublist (stepsOf s.db e) := by
  have hsame : (s.step act).db.steps = s.db.steps → (stepsOf (s.step act).db e).Sublist (stepsOf s.db e) := by
    intro h
    rw [stepsOf, h, ← stepsOf]
  cases act with
  | fire w clock =>
    apply hsame
    simp only [Engine.step]
    cases hdue : s.due w with
    | nil => rfl
    | cons x rest =>
      show (fireCommitted clock x.tenant_id x.row s.tokens s.db).1.steps = s.db.steps
      rcases fireCommitted_cases hs clock x with ⟨-, hdb, -⟩ | ⟨-, hdb⟩
      · rw [hdb, (firedTables_tables _ _ _ _ _).1]
      · rw [hdb]
  | add_step t policy_id k delay channel dest payload =>
    simp only [Engine.step] at hsame ⊢
    cases hcall : g23_add_step s.policies t policy_id k delay channel dest payload s.db with
    | error _ => exact List.Sublist.refl _
    | ok db =>
      obtain ⟨es, hpolicy, htenant, -, -, rfl⟩ := g23_add_step_ok hcall
      have hother : ¬(es.policy_id = e.policy_id ∧ es.tenant_id = e.tenant_id) := by
        rintro ⟨h₁, h₂⟩
        rw [hpolicy] at h₁
        rw [htenant] at h₂
        exact hact k delay channel dest payload (by rw [h₁, h₂])
      show (List.filter _ (s.db.steps ++ [es])).Sublist _
      rw [List.filter_append, List.filter_singleton, decide_eq_false hother, cond_false, List.append_nil]
      exact List.Sublist.refl _
  | delete_step t policy_id k =>
    simp only [Engine.step]
    cases hcall : g23_delete_step t policy_id k s.db with
    | error _ => exact List.Sublist.refl _
    | ok db =>
      obtain rfl := g23_delete_step_ok hcall
      exact List.filter_sublist.filter _
  | arm t a policy_id clock =>
    apply hsame
    simp only [Engine.step]
    cases hcall : g23_arm_alert s.policies clock t a policy_id s.db with
    | error _ => rfl
    | ok db =>
      obtain ⟨-, rfl⟩ := g23_arm_alert_ok hcall
      rfl
  | disarm t a clock =>
    apply hsame
    simp only [Engine.step]
    cases hcall : g23_disarm_alert clock t a s.db with
    | error _ => rfl
    | ok db =>
      obtain rfl := g23_disarm_alert_ok hcall
      rfl
  | others alerts snoozes intents => exact hsame (addIntents_tables _ _ _).2
  | due w t clock => exact hsame rfl
  | create_policy policy_id t name => exact hsame rfl
  | delete_policy t policy_id clock => exact hsame rfl

/-- The steps that an escalation still has to fire. -/
def stepsLeftTo (db : EscalationDb) (e : AlertEscalation) : List EscalationStep :=
  (stepsOf db e).filter fun es => e.current_step ≤ es.step_number

section Ends

variable {w : ℕ} {t a : String} {s : Engine} {r : ℕ → EngineAction}

/-- From the action `n₀` on no steps are added to the policy of the escalation. -/
def NoneAdded (t a : String) (s : Engine) (r : ℕ → EngineAction) (n₀ : ℕ) : Prop :=
  ∀ m ≥ n₀, ∀ e, escalationOf t a (s.before r m).db = some e →
    ∀ k delay channel dest payload, r m ≠ .add_step t e.policy_id k delay channel dest payload

theorem Steady.stepsOf_later (hsteady : Steady w t a s r) (h : ∀ n, Awaited w t a (s.before r n)) {n₀ : ℕ}
    (hadd : NoneAdded t a s r n₀) {m : ℕ} (hn : n₀ ≤ n) (hm : n ≤ m)
    (he : escalationOf t a (s.before r n).db = some e) :
    (stepsOf (s.before r m).db e).Sublist (stepsOf (s.before r n).db e) := by
  induction m, hm using Nat.le_induction with
  | base => exact List.Sublist.refl _
  | succ m hm ih =>
    obtain ⟨e', he', hpolicy, -⟩ := hsteady.later h hm he
    refine (stepsOf_sublist (h m).sound fun k delay channel dest payload hact => ?_).trans ih
    refine hadd m (hn.trans hm) e' he' k delay channel dest payload ?_
    rw [hact, hpolicy, (escalationOf_some he).2.2]

/-- One number less is left behind a firing of the lowest one. -/
theorem stepsLeftTo_lt {db db' : EscalationDb} {e' : AlertEscalation} (hsub : (stepsOf db' e').Sublist (stepsOf db e))
    (hnext : e'.current_step = e.current_step + 1) (hstep : hasStep db.steps e e.current_step = true) :
    (stepsLeftTo db' e').length < (stepsLeftTo db e).length := by
  obtain ⟨es, hes, hpolicy, htenant, hnumber⟩ := hasStep_iff.1 hstep
  have hfilter : (stepsOf db e).filter (fun es => e'.current_step ≤ es.step_number) =
      (stepsLeftTo db e).filter fun es => e'.current_step ≤ es.step_number := by
    rw [stepsLeftTo, List.filter_filter]
    refine List.filter_congr fun es _ => ?_
    rw [hnext]
    by_cases hle : e.current_step + 1 ≤ es.step_number
    · simp [hle, show e.current_step ≤ es.step_number by omega]
    · simp [hle]
  calc (stepsLeftTo db' e').length
      ≤ ((stepsOf db e).filter fun es => e'.current_step ≤ es.step_number).length := (hsub.filter _).length_le
    _ = ((stepsLeftTo db e).filter fun es => e'.current_step ≤ es.step_number).length := by rw [hfilter]
    _ < (stepsLeftTo db e).length := by
      refine List.length_filter_lt_length_iff_exists.2 ⟨es, ?_, ?_⟩
      · exact List.mem_filter.2 ⟨mem_stepsOf.2 ⟨hes, hpolicy, htenant⟩, decide_eq_true hnumber.ge⟩
      · simp only [decide_eq_true_eq]
        omega

/-- Without new steps the escalation comes to its end. -/
theorem Steady.ends (hsteady : Steady w t a s r) (h : ∀ n, Awaited w t a (s.before r n))
    (hplace : ∀ n, InPlace t a (s.before r n) (r n)) (hrecur : PassesRecur w t s r) {n₀ : ℕ}
    (hadd : NoneAdded t a s r n₀) (left : ℕ) :
    ∀ n ≥ n₀, ∀ e, escalationOf t a (s.before r n).db = some e → (stepsLeftTo (s.before r n).db e).length ≤ left →
      ∃ m e', escalationOf t a (s.before r m).db = some e' ∧ e'.completed_at ≠ none := by
  induction left with
  | zero =>
    intro n _ e he hleft
    by_cases hopen : e.completed_at = none
    · -- the awaited step is left
      obtain ⟨e₀, he₀, hwaits⟩ := (h n).awaited
      obtain rfl := Option.some.inj (he₀.symm.trans he)
      obtain ⟨es, hes, hpolicy, htenant, hnumber⟩ := hasStep_iff.1 (hwaits hopen)
      have hmem : es ∈ stepsLeftTo (s.before r n).db e₀ :=
        List.mem_filter.2 ⟨mem_stepsOf.2 ⟨hes, hpolicy, htenant⟩, decide_eq_true hnumber.ge⟩
      rw [List.length_eq_zero_iff.1 (Nat.le_zero.1 hleft)] at hmem
      cases hmem
    · exact ⟨n, e, he, hopen⟩
  | succ left ih =>
    intro n hn e he hleft
    by_cases hopen : e.completed_at = none
    · obtain ⟨m, hm, hfire⟩ := hsteady.live h hplace hrecur he hopen
      obtain ⟨-, e₁, he₁, hopen₁, hstep₁, -⟩ := (h m).fires hfire
      obtain ⟨e', he', hnext⟩ := (h m).next (hplace m) hfire he₁
      obtain ⟨e₂, he₂, hpolicy, -⟩ := hsteady.later h (show n ≤ m + 1 by omega) he
      obtain rfl := Option.some.inj (he₂.symm.trans he')
      have htenant : e₂.tenant_id = e.tenant_id := by rw [(escalationOf_some he₂).2.2, (escalationOf_some he).2.2]
      rcases hnext with ⟨hopen', hstep', -⟩ | ⟨hdone, -⟩
      · refine ih (m + 1) (by omega) e₂ he₂ ?_
        have hsub := hsteady.stepsOf_later h hadd hn (show n ≤ m + 1 by omega) he
        rw [← stepsOf_congr hpolicy htenant] at hsub
        obtain ⟨e₀, he₀, hwaits⟩ := (h n).awaited
        obtain rfl := Option.some.inj (he₀.symm.trans he)
        have hlt := stepsLeftTo_lt hsub hstep' (hwaits hopen)
        omega
      · exact ⟨m + 1, e₂, he₂, hdone⟩
    · exact ⟨n, e, he, hopen⟩

/-- **Key result** (`escalation_fires_every_step`): if the policy has a step 1 when the escalation is
armed, every firing has the next number in the policy or none above it, and no awaited step is
deleted, then every step fires. -/
theorem escalation_fires_every_step (harmed : JustArmed t a s) (hsteady : Steady w t a s r)
    (hfirst : ∀ e, escalationOf t a s.db = some e → hasStep s.db.steps e 1 = true)
    (hplace : ∀ n, InPlace t a (s.before r n) (r n)) : EveryStepFires w t a s r := by
  have h : ∀ n, Awaited w t a (s.before r n) := Awaited.before harmed hfirst hsteady hplace
  obtain ⟨e, he, hopen, hstep⟩ := harmed.armed
  refine ⟨fun m n j k hmn => hsteady.ascending h hmn, ?_, ?_, ?_, ?_, ?_⟩
  · intro n k e hfire he es hes hlt
    exact (h n).exhaustive (hplace n) hfire he hes hlt
  · intro n k e hfire he hlast
    exact (h n).completes (hplace n) hfire he hlast
  · intro hrecur n e he hopen
    exact hsteady.live h hplace hrecur he hopen
  · intro hrecur k hstays
    -- the numbers start at 1
    obtain ⟨e₁, -, es, hes, hk⟩ := hstays 0
    have hpos := harmed.sound.numbered es (mem_stepsOf.1 hes).1
    exact hsteady.every h hplace hrecur hstays (n := 0) he hopen (by omega)
  · rintro hrecur ⟨n₀, hadd⟩
    obtain ⟨e', he', -⟩ := hsteady.later h (Nat.zero_le n₀) he
    obtain ⟨m, e₁, he₁, hdone⟩ := hsteady.ends h hplace hrecur hadd _ n₀ le_rfl e' he' le_rfl
    exact ⟨m, e₁, he₁, hdone⟩

end Ends

/-! ### Two policies with a hole -/

/-- Two passes, and from then on reads only. -/
def twoPasses : ℕ → EngineAction
  | 1 => .fire 0 60
  | 3 => .fire 0 120
  | n => .due 0 "t" (60 * n + 60)

theorem twoPasses_cases (n : ℕ) :
    (n = 1 ∧ twoPasses n = .fire 0 60) ∨ (n = 3 ∧ twoPasses n = .fire 0 120) ∨
      twoPasses n = .due 0 "t" (60 * n + 60) := by
  unfold twoPasses
  split
  · exact Or.inl ⟨rfl, rfl⟩
  · exact Or.inr (Or.inl ⟨rfl, rfl⟩)
  · exact Or.inr (Or.inr rfl)

theorem twoPasses_alerts {s : Engine} (hs : s.Sound) (n : ℕ) :
    (s.before twoPasses n).Sound ∧ (s.before twoPasses n).db.alerts = s.db.alerts := by
  induction n with
  | zero => exact ⟨hs, rfl⟩
  | succ n ih =>
    refine ⟨ih.1.step _, ?_⟩
    have hfire : ∀ clock, ((s.before twoPasses n).step (.fire 0 clock)).db.alerts = s.db.alerts := by
      intro clock
      simp only [Engine.step]
      cases hdue : (s.before twoPasses n).due 0 with
      | nil => exact ih.2
      | cons x rest =>
        show (fireCommitted clock x.tenant_id x.row (s.before twoPasses n).tokens (s.before twoPasses n).db).1.alerts = _
        rcases fireCommitted_cases ih.1 clock x with ⟨-, hdb, -⟩ | ⟨-, hdb⟩
        · rw [hdb, (firedTables_tables _ _ _ _ _).2.1]
          exact ih.2
        · rw [hdb]
          exact ih.2
    rw [Engine.before_succ]
    rcases twoPasses_cases n with ⟨-, hact⟩ | ⟨-, hact⟩ | hact
    · rw [hact]
      exact hfire 60
    · rw [hact]
      exact hfire 120
    · rw [hact]
      exact ih.2

/-- The row that comes next fires. -/
def nextFires (s : Engine) (n clock : ℕ) : Bool :=
  ((s.before twoPasses n).due 0).head?.all fun x =>
    (fireCommitted clock x.tenant_id x.row (s.before twoPasses n).tokens (s.before twoPasses n).db).2 = .fired

theorem twoPasses_steady {s : Engine} (hs : s.Sound) (hactive : ⟨"t", "alert-1", .active⟩ ∈ s.db.alerts)
    (hfirst : nextFires s 1 60 = true) (hsecond : nextFires s 3 120 = true) : Steady 0 "t" "alert-1" s twoPasses := by
  refine ⟨?_, ?_, ?_, ?_, ?_⟩
  · intro n w t clock h
    rcases twoPasses_cases n with ⟨-, hact⟩ | ⟨-, hact⟩ | hact <;> rw [hact] at h <;> cases h
    rfl
  · intro n w clock h
    rcases twoPasses_cases n with ⟨-, hact⟩ | ⟨-, hact⟩ | hact <;> rw [hact] at h <;> cases h <;> rfl
  · intro n policy_id clock
    rcases twoPasses_cases n with ⟨-, hact⟩ | ⟨-, hact⟩ | hact <;> rw [hact] <;> simp
  · intro n
    rw [(twoPasses_alerts hs n).2]
    exact ⟨_, hactive, rfl, rfl, rfl⟩
  · intro n clock x rest h hdue hkey
    rcases twoPasses_cases n with ⟨rfl, hact⟩ | ⟨rfl, hact⟩ | hact <;> rw [hact] at h <;> cases h
    · simpa [nextFires, hdue] using hfirst
    · simpa [nextFires, hdue] using hsecond

theorem armedWith_justArmed {ns : List ℤ} (hdue : (Engine.exec (armedWith ns)).due = fun _ => [])
    (harmed : escalationOf "t" "alert-1" (Engine.exec (armedWith ns)).db = some (armedRow 0 "t" "alert-1" "pol")) :
    JustArmed "t" "alert-1" (Engine.exec (armedWith ns)) := by
  refine ⟨Engine.exec_sound _, ⟨_, harmed, rfl, rfl⟩, ?_, ?_⟩
  · intro w x hx
    rw [hdue] at hx
    cases hx
  · intro w
    rw [hdue]
    exact List.nodup_nil

/-- A policy with the steps 1 and 3 fires step 1 and is complete. -/
theorem holes_end_escalations :
    JustArmed "t" "alert-1" (Engine.exec (armedWith [1, 3])) ∧
      Steady 0 "t" "alert-1" (Engine.exec (armedWith [1, 3])) twoPasses ∧
        ¬EveryStepFires 0 "t" "alert-1" (Engine.exec (armedWith [1, 3])) twoPasses := by
  refine ⟨armedWith_justArmed rfl (by decide), twoPasses_steady (Engine.exec_sound _) (by decide) (by decide) (by decide), ?_⟩
  intro h
  have hrow : ((Engine.exec (armedWith [1, 3])).before twoPasses 1).due 0 =
      [⟨"t", ⟨"alert-1", "pol", 1, 1, .email_smtp, "oncall@t", "alert_notification"⟩, 1⟩] := by decide
  obtain ⟨e', he', hopen, -⟩ := h.exhaustive 1 1 (armedRow 0 "t" "alert-1" "pol")
    ⟨0, 60, _, [], rfl, hrow, ⟨rfl, rfl⟩, by decide, rfl⟩ (by decide)
    ⟨"pol", "t", 3, 1, .email_smtp, "oncall@t", "alert_notification"⟩ (by decide) (by decide)
  have hdone : escalationOf "t" "alert-1" ((Engine.exec (armedWith [1, 3])).before twoPasses 2).db =
      some { armedRow 0 "t" "alert-1" "pol" with last_fired_at := some 60, completed_at := some 60 } := by decide
  rw [hdone] at he'
  obtain rfl := Option.some.inj he'
  cases hopen

/-- A policy with the steps 1 and 2. -/
theorem two_steps_fire : EveryStepFires 0 "t" "alert-1" (Engine.exec (armedWith [1, 2])) twoPasses := by
  refine escalation_fires_every_step (armedWith_justArmed rfl (by decide))
    (twoPasses_steady (Engine.exec_sound _) (by decide) (by decide) (by decide)) ?_ ?_
  · intro e he
    have harmed : escalationOf "t" "alert-1" (Engine.exec (armedWith [1, 2])).db =
        some (armedRow 0 "t" "alert-1" "pol") := by decide
    obtain rfl := Option.some.inj (harmed.symm.trans he)
    decide
  · intro n
    rcases twoPasses_cases n with ⟨rfl, hact⟩ | ⟨rfl, hact⟩ | hact <;> rw [hact]
    · intro x hx _ e he
      have hrow : ((Engine.exec (armedWith [1, 2])).before twoPasses 1).due 0 =
          [⟨"t", ⟨"alert-1", "pol", 1, 1, .email_smtp, "oncall@t", "alert_notification"⟩, 1⟩] := by decide
      have hwaits : escalationOf "t" "alert-1" ((Engine.exec (armedWith [1, 2])).before twoPasses 1).db =
          some (armedRow 0 "t" "alert-1" "pol") := by decide
      rw [hrow] at hx
      obtain rfl := Option.some.inj hx
      obtain rfl := Option.some.inj (hwaits.symm.trans he)
      exact Or.inl (by decide)
    · intro x hx _ e he
      have hrow : ((Engine.exec (armedWith [1, 2])).before twoPasses 3).due 0 =
          [⟨"t", ⟨"alert-1", "pol", 2, 1, .email_smtp, "oncall@t", "alert_notification"⟩, 1⟩] := by decide
      have hwaits : escalationOf "t" "alert-1" ((Engine.exec (armedWith [1, 2])).before twoPasses 3).db =
          some { armedRow 0 "t" "alert-1" "pol" with current_step := 2, last_fired_at := some 60 } := by decide
      rw [hrow] at hx
      obtain rfl := Option.some.inj hx
      obtain rfl := Option.some.inj (hwaits.symm.trans he)
      exact Or.inr (by decide)
    · trivial

end JLMirror.Alerting
