import JLMirror.Alerting.EscalationEngine
import JLMirror.Foundations.Run

/-!
# What one arming of an escalation sends

Two workers that have read the same due row both fire it: the number that `g23_advance_step` is
given is that of the row, not that of the escalation, and the id of the intent keeps only the
outbox from a second entry. A row may also outlive the arming it was read under.

## What is proved

* `Engine.Ledger`: as long as every row is current when it is fired, or cannot do anything, no step
  of an arming is sent or enqueued twice, and the messages of an arming are those of the steps
  it has passed.
* **Key result** (`arming_orderly_iff`): a run keeps the order of every arming exactly if all its
  firings are of such rows.
* `reading_twice_regresses`: two workers and one e-mail step break all of it.
-/

namespace JLMirror.Alerting

open JLMirror.Foundations

/-- The engine after a run from the start. -/
def Engine.exec (run : List EngineAction) : Engine := run.foldl Engine.step .init

/-- Something left: a message, or a dispatch for the outbox. -/
def Firing.left (f : Firing) : Bool := f.sent || f.enqueued

/-- The step of an arming that a firing is about. -/
def Firing.step (f : Firing) : String × String × ℕ × ℕ := (f.tenant_id, f.row.alert_id, f.arming, f.row.current_step)

/-- The step of an arming that a row is about. -/
def Listed.step (x : Listed) : String × String × ℕ × ℕ := (x.tenant_id, x.row.alert_id, x.arming, x.row.current_step)

/-- The steps of armings that something left for. -/
def stepsLeft (log : List Firing) : List (String × String × ℕ × ℕ) := (log.filter Firing.left).map Firing.step

/-- What a step of the engine does to the order of an arming. -/
structure OrderlyStep (s : Engine) (act : EngineAction) : Prop where
  /-- The current step only falls when the alert is armed. -/
  forward : ∀ t a e e', escalationOf t a s.db = some e → escalationOf t a (s.step act).db = some e' →
    (s.step act).armings (t, a) = s.armings (t, a) → e.current_step ≤ e'.current_step
  /-- A firing advances the arming and the policy that its row was read under. -/
  own : ∀ w clock x rest, act = .fire w clock → s.due w = x :: rest →
    (fireCommitted clock x.tenant_id x.row s.tokens s.db).2 = .fired →
      x.arming = s.armings (x.tenant_id, x.row.alert_id) ∧
        ∃ e, escalationOf x.tenant_id x.row.alert_id s.db = some e ∧ e.policy_id = x.row.policy_id

/-- The run keeps the order of every arming. -/
structure Orderly (run : List EngineAction) : Prop where
  steps : ∀ pre act post, run = pre ++ act :: post → OrderlyStep (Engine.exec pre) act
  /-- No step of an arming is sent or enqueued twice. -/
  once : (stepsLeft (Engine.exec run).log).Nodup

/-- The row is that of the step which its escalation waits for, in the arming it was read under. -/
def Listed.current (s : Engine) (x : Listed) : Prop :=
  x.arming = s.armings (x.tenant_id, x.row.alert_id) ∧
    ∃ e, escalationOf x.tenant_id x.row.alert_id s.db = some e ∧ e.completed_at = none ∧
      e.current_step = x.row.current_step

/-- Firing the row sends nothing twice and advances nothing: the alert is snoozed, or its dispatch
is refused, or it only sends a message of a step that is not sent yet. -/
def Listed.idle (s : Engine) (clock : ℕ) (x : Listed) : Prop :=
  g21_is_snoozed clock x.tenant_id x.row.alert_id s.db.snoozes = true ∨
    (x.row.channel_class.direct = false ∧
      (intentTaken x.tenant_id x.row s.db = true ∨ openEscalation x.tenant_id x.row.alert_id s.db = none)) ∨
    (x.row.channel_class.direct = true ∧ openEscalation x.tenant_id x.row.alert_id s.db = none ∧
      x.step ∉ stepsLeft s.log)

/-- Every row is current when it is fired, or idle. -/
def FiresCurrent (s : Engine) : EngineAction → Prop
  | .fire w clock => ∀ x ∈ (s.due w).head?, x.current s ∨ x.idle s clock
  | _ => True

/-! ### Firings -/

variable {s : Engine}

/-- How a firing ends. -/
theorem fireCommitted_end (hs : s.Sound) (clock : ℕ) (x : Listed) :
    (fireCommitted clock x.tenant_id x.row s.tokens s.db).2 =
      if g21_is_snoozed clock x.tenant_id x.row.alert_id s.db.snoozes then .snoozed
      else if (x.row.channel_class.direct = true ∨ intentTaken x.tenant_id x.row s.db = false) ∧
        (openEscalation x.tenant_id x.row.alert_id s.db).isSome then .fired
      else .failed := by
  rw [(fireCommitted_eq clock hs.drawn).1]
  split_ifs with hsnoozed hcompletes hfires hfires
  · rfl
  · rfl
  · exact absurd (completes_clean.1 hcompletes) hfires
  · exact absurd (completes_clean.2 hfires) hcompletes
  · rfl

/-- The firing of row `x` in the log. -/
def Listed.firing (s : Engine) (clock : ℕ) (x : Listed) : Firing :=
  ⟨x.tenant_id, x.row, x.arming, s.armings (x.tenant_id, x.row.alert_id),
    (fireCommitted clock x.tenant_id x.row s.tokens s.db).2⟩

theorem Listed.firing_left (hs : s.Sound) (clock : ℕ) (x : Listed) :
    (x.firing s clock).left = true ↔
      g21_is_snoozed clock x.tenant_id x.row.alert_id s.db.snoozes = false ∧
        (x.row.channel_class.direct = true ∨
          intentTaken x.tenant_id x.row s.db = false ∧ (openEscalation x.tenant_id x.row.alert_id s.db).isSome) := by
  have hend := fireCommitted_end hs clock x
  cases hdirect : x.row.channel_class.direct <;>
    cases hsnoozed : g21_is_snoozed clock x.tenant_id x.row.alert_id s.db.snoozes <;>
      cases htaken : intentTaken x.tenant_id x.row s.db <;>
        cases hopen : openEscalation x.tenant_id x.row.alert_id s.db <;>
          simp [Firing.left, Firing.sent, Firing.enqueued, Listed.firing, hend, messageLeft, StepFaults.none, hdirect,
            hsnoozed, htaken, hopen]

variable {clock : ℕ} {x : Listed}

/-- A row that fires is not idle. -/
theorem not_idle_of_fired (hs : s.Sound) (h : (fireCommitted clock x.tenant_id x.row s.tokens s.db).2 = .fired) :
    ¬x.idle s clock := by
  rw [fireCommitted_end hs] at h
  split_ifs at h with hsnoozed hfires
  rintro (hidle | ⟨hdirect, htaken | hnone⟩ | ⟨-, hnone, -⟩)
  · exact hsnoozed hidle
  · rcases hfires.1 with hd | hfree
    · rw [hd] at hdirect
      cases hdirect
    · rw [hfree] at htaken
      cases htaken
  · rw [hnone] at hfires
    exact absurd hfires.2 (by simp)
  · rw [hnone] at hfires
    exact absurd hfires.2 (by simp)

theorem stepsLeft_append (log : List Firing) (f : Firing) :
    stepsLeft (log ++ [f]) = if f.left then stepsLeft log ++ [f.step] else stepsLeft log := by
  unfold stepsLeft
  rw [List.filter_append, List.map_append]
  cases h : f.left <;> simp [h]

theorem mem_stepsLeft {log : List Firing} {k : String × String × ℕ × ℕ} :
    k ∈ stepsLeft log ↔ ∃ f ∈ log, f.left = true ∧ f.step = k := by
  simp [stepsLeft, and_assoc]

/-! ### What has left in an arming -/

/-- The open escalation of an alert is past the step `n`. -/
def Past (s : Engine) (t a : String) (n : ℕ) : Prop :=
  ∀ e, escalationOf t a s.db = some e → e.completed_at = none → n < e.current_step

/-- The escalation of an alert is under the policy of a row, and at its step or past it. -/
def Reached (s : Engine) (x : Listed) : Prop :=
  ∃ e, escalationOf x.tenant_id x.row.alert_id s.db = some e ∧ e.policy_id = x.row.policy_id ∧
    x.row.current_step ≤ e.current_step ∧
      (e.completed_at = none → x.row.current_step < e.current_step → x.step ∈ stepsLeft s.log)

/-- What holds between the log, the rows in the hands of the workers and the escalations. -/
structure Engine.Ledger (s : Engine) : Prop where
  sound : s.Sound
  /-- Nothing left twice. -/
  once : (stepsLeft s.log).Nodup
  /-- The escalation is past the steps of its arming that something left for. -/
  passed : ∀ f ∈ s.log, f.left = true → f.arming ≤ s.armings (f.tenant_id, f.row.alert_id) ∧
    (f.arming = s.armings (f.tenant_id, f.row.alert_id) → Past s f.tenant_id f.row.alert_id f.row.current_step)
  /-- Something left for the steps between a row of the arming and the escalation. -/
  rows : ∀ w, ∀ x ∈ s.due w, x.arming ≤ s.armings (x.tenant_id, x.row.alert_id) ∧
    (x.arming = s.armings (x.tenant_id, x.row.alert_id) → Reached s x)

theorem Engine.Ledger.init : Engine.init.Ledger :=
  ⟨.init, List.nodup_nil, fun _ h => absurd h List.not_mem_nil, fun _ _ h => absurd h List.not_mem_nil⟩

/-- The escalation of an alert is armed anew, closed, or as it was. -/
def Calls (s s' : Engine) : Prop :=
  ∀ t a, s'.armings (t, a) = s.armings (t, a) + 1 ∨
    s'.armings (t, a) = s.armings (t, a) ∧
      (escalationOf t a s'.db = escalationOf t a s.db ∨
        ∃ e clock, escalationOf t a s.db = some e ∧ escalationOf t a s'.db = some { e with completed_at := some clock })

variable {act : EngineAction}

/-- A step that fires nothing. -/
theorem calls_of_not_fire (hs : s.Sound) (hact : ∀ w clock, act ≠ .fire w clock) : Calls s (s.step act) := by
  intro t a
  have hmoves := Engine.step_escalation hs t a act
  generalize escalationOf t a (s.step act).db = e' at hmoves ⊢
  generalize (s.step act).armings (t, a) = n at hmoves ⊢
  cases hmoves with
  | still => exact Or.inr ⟨rfl, Or.inl rfl⟩
  | armed => exact Or.inl rfl
  | disarmed he hopen => exact Or.inr ⟨rfl, Or.inr ⟨_, _, he, rfl⟩⟩
  | fired => exact absurd rfl (hact _ _)

theorem Calls.past {s' : Engine} (h : Calls s s') {t a : String} {k n : ℕ} (hk : k ≤ s.armings (t, a))
    (hpast : k = s.armings (t, a) → Past s t a n) :
    k ≤ s'.armings (t, a) ∧ (k = s'.armings (t, a) → Past s' t a n) := by
  rcases h t a with harmed | ⟨hsame, hcases⟩
  · exact ⟨by omega, fun heq => by omega⟩
  · refine ⟨by omega, fun heq e he hopen => ?_⟩
    rcases hcases with hstill | ⟨e₀, clock, -, hclosed⟩
    · exact hpast (heq.trans hsame) e (hstill ▸ he) hopen
    · rw [hclosed] at he
      obtain rfl := Option.some.inj he
      cases hopen

theorem Calls.reached {s' : Engine} (h : Calls s s') (hlog : s'.log = s.log)
    (hk : x.arming ≤ s.armings (x.tenant_id, x.row.alert_id))
    (hreached : x.arming = s.armings (x.tenant_id, x.row.alert_id) → Reached s x) :
    x.arming ≤ s'.armings (x.tenant_id, x.row.alert_id) ∧
      (x.arming = s'.armings (x.tenant_id, x.row.alert_id) → Reached s' x) := by
  rcases h x.tenant_id x.row.alert_id with harmed | ⟨hsame, hcases⟩
  · exact ⟨by omega, fun heq => by omega⟩
  · refine ⟨by omega, fun heq => ?_⟩
    obtain ⟨e, he, hpolicy, hle, hleft⟩ := hreached (heq.trans hsame)
    rcases hcases with hstill | ⟨e₀, clock, he₀, hclosed⟩
    · exact ⟨e, hstill.trans he, hpolicy, hle, hlog ▸ hleft⟩
    · obtain rfl := Option.some.inj (he₀.symm.trans he)
      exact ⟨_, hclosed, hpolicy, hle, fun hopen => by cases hopen⟩

/-- A due row is that of the open escalation of its alert. -/
theorem mem_dueRows {t : String} {db : EscalationDb} {r : DueRow} (h : r ∈ dueRows clock t db) :
    ∃ e ∈ db.escalations, ∃ es ∈ db.steps, e.tenant_id = t ∧ e.alert_id = r.alert_id ∧ e.completed_at = none ∧
      e.policy_id = r.policy_id ∧ e.current_step = r.current_step ∧
      es.policy_id = e.policy_id ∧ es.tenant_id = e.tenant_id ∧ es.step_number = e.current_step := by
  obtain ⟨e, he, hr⟩ := List.mem_flatMap.1 h
  split_ifs at hr with hcond
  · obtain ⟨es, hes, rfl⟩ := List.mem_map.1 hr
    obtain ⟨hes, hstep⟩ := List.mem_filter.1 hes
    have hstep : es.policy_id = e.policy_id ∧ es.tenant_id = e.tenant_id ∧ es.step_number = e.current_step ∧ _ :=
      of_decide_eq_true hstep
    exact ⟨e, he, es, hes, hcond.1, rfl, hcond.2.1, rfl, rfl, hstep.1, hstep.2.1, hstep.2.2.1⟩
  · cases hr

/-- A row is read under the current arming. -/
theorem Engine.Ledger.due (hs : s.Ledger) (w : ℕ) (t : String) (clock : ℕ) : (s.step (.due w t clock)).Ledger := by
  refine ⟨hs.sound.step _, hs.once, hs.passed, fun w' x hx => ?_⟩
  by_cases hw : w' = w
  · subst hw
    simp only [Engine.step, Function.update_self] at hx
    obtain ⟨r, hr, rfl⟩ := List.mem_map.1 hx
    obtain ⟨e, he, -, -, rfl, halert, -, hpolicy, hstep, -⟩ := mem_dueRows hr
    refine ⟨le_rfl, fun _ => ⟨e, ?_, hpolicy, hstep.ge, fun _ hlt => ?_⟩⟩
    · show escalationOf e.tenant_id r.alert_id s.db = some e
      rw [← halert]
      exact escalationOf_of_mem hs.sound.escalations he
    · exact absurd hstep.symm (Nat.ne_of_lt hlt)
  · simp only [Engine.step, Function.update_of_ne hw] at hx
    exact hs.rows w' x hx

theorem Engine.Ledger.call {s' : Engine} (hs : s.Ledger) (hsound : s'.Sound) (hcalls : Calls s s')
    (hdue : s'.due = s.due) (hlog : s'.log = s.log) : s'.Ledger := by
  refine ⟨hsound, by rw [hlog]; exact hs.once, fun f hf hleft => ?_, fun w x hx => ?_⟩
  · rw [hlog] at hf
    obtain ⟨hle, hpast⟩ := hs.passed f hf hleft
    exact hcalls.past hle hpast
  · rw [hdue] at hx
    obtain ⟨hle, hreached⟩ := hs.rows w x hx
    exact hcalls.reached hlog hle hreached

/-- After an advance the escalation is closed, or waits for the next number. -/
theorem advanced_cases (clock n : ℕ) (steps : List EscalationStep) (e : AlertEscalation) :
    (advanced clock n steps e).policy_id = e.policy_id ∧
      ((advanced clock n steps e).completed_at = none → e.completed_at = none → (advanced clock n steps e).current_step = n + 1) ∧
      ((advanced clock n steps e).current_step = n + 1 ∨ (advanced clock n steps e).current_step = e.current_step) := by
  unfold advanced
  cases hasStep steps e (n + 1) with
  | true => exact ⟨rfl, fun _ _ => rfl, Or.inl rfl⟩
  | false => exact ⟨rfl, fun h _ => absurd h (Option.some_ne_none clock), Or.inr rfl⟩

variable {rest : List Listed}

/-- The rows that are left in the hands of the workers after a firing. -/
theorem fireRow_due {w : ℕ} (hdue : s.due w = x :: rest) {w' : ℕ} {y : Listed}
    (hy : y ∈ (s.fireRow w clock x rest).due w') : y ∈ s.due w' := by
  by_cases hw : w' = w
  · subst hw
    have hy : y ∈ Function.update s.due w' rest w' := hy
    rw [Function.update_self] at hy
    rw [hdue]
    exact List.mem_cons_of_mem x hy
  · have hy : y ∈ Function.update s.due w rest w' := hy
    rwa [Function.update_of_ne hw] at hy

/-- A row that fires and is current: its step had not left, and now the escalation is past it. -/
theorem Engine.Ledger.fires (hs : s.Ledger) {w : ℕ} (hdue : s.due w = x :: rest) (hcurrent : x.current s)
    (hfired : (fireCommitted clock x.tenant_id x.row s.tokens s.db).2 = .fired) :
    (s.fireRow w clock x rest).Ledger := by
  obtain ⟨harming, e, he, hopen, hstep⟩ := hcurrent
  have hafter := (fireRow_cases hs.sound w clock x rest).resolve_right fun h => h.1 hfired
  obtain ⟨-, e', he', -, hafter⟩ := hafter
  obtain rfl := Option.some.inj (he'.symm.trans he)
  obtain ⟨hpolicy, hnext, hstay⟩ := advanced_cases clock x.row.current_step s.db.steps e'
  have hleft : (x.firing s clock).left = true := by
    rw [fireCommitted_end hs.sound] at hfired
    split_ifs at hfired with hsnoozed hfires
    rw [Listed.firing_left hs.sound]
    exact ⟨by simpa using hsnoozed, hfires.1.imp_right fun hfree => ⟨hfree, hfires.2⟩⟩
  have hnew : x.step ∉ stepsLeft s.log := by
    intro hmem
    obtain ⟨f, hf, hfleft, hfx⟩ := mem_stepsLeft.1 hmem
    simp only [Firing.step, Listed.step, Prod.mk.injEq] at hfx
    obtain ⟨htenant, halert, hfarming, hfstep⟩ := hfx
    have hpast := (hs.passed f hf hfleft).2 (by rw [hfarming, htenant, halert, harming])
    rw [htenant, halert] at hpast
    have hlt := hpast e' he hopen
    omega
  have hlog : stepsLeft (s.fireRow w clock x rest).log = stepsLeft s.log ++ [x.step] := by
    show stepsLeft (s.log ++ [x.firing s clock]) = _
    rw [stepsLeft_append, if_pos hleft]
    rfl
  have hpast : ∀ t a n, Past s t a n → Past (s.fireRow w clock x rest) t a n := by
    intro t a n h e₁ he₁ hopen₁
    rw [hafter] at he₁
    split_ifs at he₁ with hkey
    · obtain ⟨rfl, rfl⟩ := Prod.mk.inj hkey
      obtain rfl := Option.some.inj he₁
      have hlt := h e' he hopen
      have hcur := hnext hopen₁ hopen
      omega
    · exact h e₁ he₁ hopen₁
  refine ⟨hs.sound.fireRow w clock x rest, ?_, fun f hf hfleft => ?_, fun w' y hy => ?_⟩
  · rw [hlog, List.nodup_append]
    refine ⟨hs.once, List.nodup_singleton _, fun k hk k' hk' heq => hnew ?_⟩
    rw [← List.mem_singleton.1 hk', ← heq]
    exact hk
  · rcases List.mem_append.1 hf with hf | hf
    · obtain ⟨hle, hold⟩ := hs.passed f hf hfleft
      exact ⟨hle, fun heq => hpast _ _ _ (hold heq)⟩
    · obtain rfl := List.mem_singleton.1 hf
      refine ⟨harming.le, fun _ e₁ he₁ hopen₁ => ?_⟩
      have he₁ : escalationOf x.tenant_id x.row.alert_id (s.fireRow w clock x rest).db = some e₁ := he₁
      rw [hafter, if_pos rfl] at he₁
      obtain rfl := Option.some.inj he₁
      show x.row.current_step < _
      rw [hnext hopen₁ hopen]
      omega
  · obtain ⟨hle, hreached⟩ := hs.rows w' y (fireRow_due hdue hy)
    refine ⟨hle, fun heq => ?_⟩
    obtain ⟨e₁, he₁, hpol, hstepLe, hleftTill⟩ := hreached heq
    by_cases hkey : (x.tenant_id, x.row.alert_id) = (y.tenant_id, y.row.alert_id)
    · obtain ⟨htenant, halert⟩ := Prod.mk.inj hkey
      obtain rfl : e₁ = e' := by
        rw [← htenant, ← halert, he] at he₁
        exact (Option.some.inj he₁).symm
      refine ⟨_, by rw [hafter, if_pos hkey], hpolicy.trans hpol, by omega, fun hopen₁ hlt => ?_⟩
      rw [hnext hopen₁ hopen] at hlt
      rw [hlog, List.mem_append]
      by_cases hsame : y.row.current_step = x.row.current_step
      · refine Or.inr (List.mem_singleton.2 ?_)
        have hy : y.arming = s.armings (y.tenant_id, y.row.alert_id) := heq
        simp only [Listed.step, hsame, htenant, halert, hy, harming]
      · exact Or.inl (hleftTill hopen (by omega))
    · refine ⟨e₁, by rw [hafter, if_neg hkey]; exact he₁, hpol, hstepLe, fun hopen₁ hlt => ?_⟩
      rw [hlog]
      exact List.mem_append_left _ (hleftTill hopen₁ hlt)

/-- A row that does not fire leaves nothing, or the message of a step of a closed escalation. -/
theorem firing_of_not_fired (hs : s.Sound) (hnot : (fireCommitted clock x.tenant_id x.row s.tokens s.db).2 ≠ .fired) :
    (x.firing s clock).left = false ∨
      (x.firing s clock).left = true ∧ openEscalation x.tenant_id x.row.alert_id s.db = none ∧
        (x.current s ∨ x.idle s clock → x.step ∉ stepsLeft s.log) := by
  cases hleft : (x.firing s clock).left with
  | false => exact Or.inl rfl
  | true =>
    obtain ⟨hsnoozed, hout⟩ := (Listed.firing_left hs clock x).1 hleft
    rw [fireCommitted_end hs, if_neg (by simp [hsnoozed])] at hnot
    have hnone : openEscalation x.tenant_id x.row.alert_id s.db = none := by
      cases hopen : openEscalation x.tenant_id x.row.alert_id s.db with
      | none => rfl
      | some e =>
        refine absurd (if_pos ⟨hout.imp_right fun h => h.1, ?_⟩) hnot
        rw [hopen]
        rfl
    refine Or.inr ⟨rfl, hnone, ?_⟩
    rintro (⟨-, e, he, hopen, -⟩ | hidle | ⟨hdirect, -⟩ | ⟨-, -, hnew⟩)
    · rw [(openEscalation_eq_some hs.escalations).2 ⟨he, hopen⟩] at hnone
      cases hnone
    · rw [hsnoozed] at hidle
      cases hidle
    · rcases hout with hd | ⟨-, hsome⟩
      · rw [hdirect] at hd
        cases hd
      · rw [hnone] at hsome
        cases hsome
    · exact hnew

/-- A row that does not fire. -/
theorem Engine.Ledger.failed (hs : s.Ledger) {w : ℕ} (hdue : s.due w = x :: rest) (hok : x.current s ∨ x.idle s clock)
    (hnot : (fireCommitted clock x.tenant_id x.row s.tokens s.db).2 ≠ .fired) : (s.fireRow w clock x rest).Ledger := by
  have hdb : (s.fireRow w clock x rest).db = s.db :=
    ((fireRow_cases hs.sound w clock x rest).resolve_left fun h => hnot h.1).2
  have hlog : stepsLeft (s.fireRow w clock x rest).log =
      if (x.firing s clock).left then stepsLeft s.log ++ [x.step] else stepsLeft s.log := stepsLeft_append _ _
  have hsub : ∀ k ∈ stepsLeft s.log, k ∈ stepsLeft (s.fireRow w clock x rest).log := by
    intro k hk
    rw [hlog]
    split_ifs
    · exact List.mem_append_left _ hk
    · exact hk
  have hrows : ∀ w', ∀ y ∈ (s.fireRow w clock x rest).due w', y.arming ≤ s.armings (y.tenant_id, y.row.alert_id) ∧
      (y.arming = s.armings (y.tenant_id, y.row.alert_id) → Reached (s.fireRow w clock x rest) y) := by
    intro w' y hy
    obtain ⟨hle, hreached⟩ := hs.rows w' y (fireRow_due hdue hy)
    refine ⟨hle, fun heq => ?_⟩
    obtain ⟨e, he, hpolicy, hstep, hleft⟩ := hreached heq
    exact ⟨e, by rw [hdb]; exact he, hpolicy, hstep, fun hopen hlt => hsub _ (hleft hopen hlt)⟩
  have hpast : ∀ t a n, Past s t a n → Past (s.fireRow w clock x rest) t a n := by
    intro t a n h e he hopen
    rw [hdb] at he
    exact h e he hopen
  rcases firing_of_not_fired hs.sound hnot with hquiet | ⟨hleft, hnone, hnew⟩
  · refine ⟨hs.sound.fireRow w clock x rest, ?_, fun f hf hfleft => ?_, hrows⟩
    · rw [hlog, if_neg (by simp [hquiet])]
      exact hs.once
    · rcases List.mem_append.1 hf with hf | hf
      · obtain ⟨hle, hold⟩ := hs.passed f hf hfleft
        exact ⟨hle, fun heq => hpast _ _ _ (hold heq)⟩
      · rw [List.mem_singleton.1 hf] at hfleft
        exact absurd (hquiet.symm.trans hfleft) (by simp)
  · refine ⟨hs.sound.fireRow w clock x rest, ?_, fun f hf hfleft => ?_, hrows⟩
    · rw [hlog, if_pos hleft, List.nodup_append]
      refine ⟨hs.once, List.nodup_singleton _, fun k hk k' hk' heq => hnew hok ?_⟩
      rw [← List.mem_singleton.1 hk', ← heq]
      exact hk
    · rcases List.mem_append.1 hf with hf | hf
      · obtain ⟨hle, hold⟩ := hs.passed f hf hfleft
        exact ⟨hle, fun heq => hpast _ _ _ (hold heq)⟩
      · obtain rfl := List.mem_singleton.1 hf
        refine ⟨(hs.rows w x (by rw [hdue]; exact List.mem_cons_self)).1, fun _ e he hopen => ?_⟩
        rw [hdb] at he
        rw [(openEscalation_eq_some hs.sound.escalations).2 ⟨he, hopen⟩] at hnone
        cases hnone

/-- **Every step that fires a current or an idle row keeps the ledger.** -/
theorem Engine.Ledger.step {s : Engine} (hs : s.Ledger) {act : EngineAction} (hok : FiresCurrent s act) :
    (s.step act).Ledger := by
  have hsound := hs.sound.step act
  have hcall : (∀ w clock, act ≠ .fire w clock) → (s.step act).due = s.due → (s.step act).log = s.log →
      (s.step act).Ledger := fun h => hs.call hsound (calls_of_not_fire hs.sound h)
  cases act with
  | due w t clock => exact hs.due w t clock
  | fire w clock =>
    simp only [Engine.step]
    cases hdue : s.due w with
    | nil => exact hs
    | cons x rest =>
      have hx : x.current s ∨ x.idle s clock := hok x (by rw [hdue]; rfl)
      by_cases hfired : (fireCommitted clock x.tenant_id x.row s.tokens s.db).2 = .fired
      · exact hs.fires hdue (hx.resolve_right (not_idle_of_fired hs.sound hfired)) hfired
      · exact hs.failed hdue hx hfired
  | arm t a policy_id clock =>
    refine hcall (by simp) ?_ ?_ <;> simp only [Engine.step] <;> split <;> rfl
  | create_policy policy_id t name => exact hcall (by simp) rfl rfl
  | delete_policy t policy_id clock => exact hcall (by simp) rfl rfl
  | add_step t policy_id n delay channel dest payload => exact hcall (by simp) rfl rfl
  | delete_step t policy_id n => exact hcall (by simp) rfl rfl
  | disarm t a clock => exact hcall (by simp) rfl rfl
  | others alerts snoozes intents => exact hcall (by simp) rfl rfl

/-! ### The order of every arming -/

theorem Engine.Ledger.orderly (hs : s.Ledger) (hok : FiresCurrent s act) : OrderlyStep s act := by
  have hcurrent : ∀ w clock x rest, act = .fire w clock → s.due w = x :: rest →
      (fireCommitted clock x.tenant_id x.row s.tokens s.db).2 = .fired → x.current s := by
    rintro w clock x rest rfl hdue hfired
    exact (hok x (by rw [hdue]; rfl)).resolve_right (not_idle_of_fired hs.sound hfired)
  constructor
  · intro t a e e' he he' harmings
    have hmoves := Engine.step_escalation hs.sound t a act
    rw [he', harmings] at hmoves
    generalize hafter : some e' = after at hmoves
    generalize hn : s.armings (t, a) = n at hmoves
    cases hmoves with
    | still =>
      rw [he] at hafter
      rw [Option.some.inj hafter]
    | armed => omega
    | disarmed he₁ hopen =>
      obtain rfl := Option.some.inj (he.symm.trans he₁)
      rw [Option.some.inj hafter]
    | @fired w clock x rest e₁ hdue hkey hfired he₁ hopen =>
      obtain ⟨rfl, rfl⟩ := hkey
      obtain rfl := Option.some.inj (he.symm.trans he₁)
      obtain ⟨-, e₂, he₂, -, hstep⟩ := hcurrent w clock x rest rfl hdue hfired
      obtain rfl := Option.some.inj (he.symm.trans he₂)
      rw [Option.some.inj hafter]
      obtain ⟨-, -, hnext | hstay⟩ := advanced_cases clock x.row.current_step s.db.steps e
      · omega
      · exact hstay.ge
  · intro w clock x rest hact hdue hfired
    obtain ⟨harming, e, he, -⟩ := hcurrent w clock x rest hact hdue hfired
    obtain ⟨e', he', hpolicy, -⟩ := (hs.rows w x (by rw [hdue]; exact List.mem_cons_self)).2 harming
    exact ⟨harming, e', he', hpolicy⟩

/-- A row that is neither current nor idle breaks the order when it is fired. -/
theorem Engine.Ledger.fires_current (hs : s.Ledger) (hstep : OrderlyStep s act)
    (honce : (stepsLeft (s.step act).log).Nodup) : FiresCurrent s act := by
  cases act with
  | fire w clock =>
    intro x hx
    cases hdue : s.due w with
    | nil =>
      rw [hdue] at hx
      cases hx
    | cons y rest =>
      rw [hdue] at hx
      obtain rfl : y = x := Option.some.inj hx
      by_contra hbad
      obtain ⟨hnot, hbusy⟩ := not_or.1 hbad
      simp only [Engine.step, hdue] at honce
      have hlog : stepsLeft (s.fireRow w clock y rest).log =
          if (y.firing s clock).left then stepsLeft s.log ++ [y.step] else stepsLeft s.log := stepsLeft_append _ _
      -- what left for the step before leaves again
      have htwice : (y.firing s clock).left = true → y.step ∉ stepsLeft s.log := by
        intro hleft hmem
        rw [hlog, if_pos hleft, List.nodup_append] at honce
        exact honce.2.2 y.step hmem y.step (List.mem_singleton_self _) rfl
      have hsnoozed : g21_is_snoozed clock y.tenant_id y.row.alert_id s.db.snoozes = false := by
        by_contra h
        exact hbusy (Or.inl (by simpa using h))
      have hleft : (y.firing s clock).left = true := by
        rw [Listed.firing_left hs.sound]
        refine ⟨hsnoozed, ?_⟩
        by_contra h
        obtain ⟨hdirect, hrefused⟩ := not_or.1 h
        refine hbusy (Or.inr (Or.inl ⟨by simpa using hdirect, ?_⟩))
        by_cases htaken : intentTaken y.tenant_id y.row s.db = true
        · exact Or.inl htaken
        · refine Or.inr (Option.not_isSome_iff_eq_none.1 fun hsome => hrefused ⟨by simpa using htaken, hsome⟩)
      by_cases hfired : (fireCommitted clock y.tenant_id y.row s.tokens s.db).2 = .fired
      · obtain ⟨harming, -⟩ := hstep.own w clock y rest rfl hdue hfired
        have hmem : y ∈ s.due w := by rw [hdue]; exact List.mem_cons_self
        obtain ⟨e, he, -, hle, htill⟩ := (hs.rows w y hmem).2 harming
        rcases fireRow_cases hs.sound w clock y rest with ⟨-, e', he', hopen, -⟩ | ⟨hn, -⟩
        · obtain rfl := Option.some.inj (he.symm.trans he')
          rcases hle.lt_or_eq with hlt | heq
          · exact htwice hleft (htill hopen hlt)
          · exact hnot ⟨harming, e, he, hopen, heq.symm⟩
        · exact hn hfired
      · obtain hquiet | ⟨-, hnone, -⟩ := firing_of_not_fired hs.sound hfired
        · rw [hquiet] at hleft
          cases hleft
        · obtain ⟨-, hdirect | ⟨-, hsome⟩⟩ := (Listed.firing_left hs.sound clock y).1 hleft
          · exact hbusy (Or.inr (Or.inr ⟨hdirect, hnone, htwice hleft⟩))
          · rw [hnone] at hsome
            cases hsome
  | _ => trivial

/-- A step adds to the log. -/
theorem Engine.step_log (s : Engine) (act : EngineAction) : ∃ new, (s.step act).log = s.log ++ new := by
  have hsame : (s.step act).log = s.log → ∃ new, (s.step act).log = s.log ++ new := by
    intro h
    exact ⟨[], by rw [h, List.append_nil]⟩
  cases act with
  | fire w clock =>
    simp only [Engine.step] at hsame ⊢
    cases hdue : s.due w with
    | nil => exact ⟨[], (List.append_nil _).symm⟩
    | cons x rest => exact ⟨[x.firing s clock], rfl⟩
  | arm t a policy_id clock =>
    apply hsame
    simp only [Engine.step]
    split <;> rfl
  | _ => exact hsame rfl

theorem Engine.exec_append (run : List EngineAction) (act : EngineAction) :
    Engine.exec (run ++ [act]) = (Engine.exec run).step act := by
  rw [Engine.exec, List.foldl_append]
  rfl

theorem Engine.exec_sound (run : List EngineAction) : (Engine.exec run).Sound := by
  induction run using List.reverseRecOn with
  | nil => exact .init
  | append_singleton run act ih =>
    rw [Engine.exec_append]
    exact ih.step act

theorem ledger_of_guarded {run : List EngineAction} (h : Guarded Engine.step FiresCurrent .init run) :
    (Engine.exec run).Ledger :=
  h.invariant (fun _ _ hs hok => hs.step hok) .init

/-- **Key result** (`arming_orderly_iff`): the current step never falls between two armings, nothing
of an arming is sent or enqueued twice and no firing advances another arming than its own, exactly
if every row that is fired is current or idle. -/
theorem arming_orderly_iff (run : List EngineAction) :
    Orderly run ↔ Guarded Engine.step FiresCurrent .init run := by
  constructor
  · induction run using List.reverseRecOn with
    | nil => exact fun _ => trivial
    | append_singleton run act ih =>
      intro h
      have horderly : Orderly run := by
        refine ⟨fun pre b post heq => h.steps pre b (post ++ [act]) (by rw [heq]; simp), ?_⟩
        have honce := h.once
        obtain ⟨new, hnew⟩ := Engine.step_log (Engine.exec run) act
        rw [Engine.exec_append, hnew, stepsLeft, List.filter_append, List.map_append] at honce
        exact honce.sublist (List.sublist_append_left _ _)
      have hguarded := ih horderly
      refine guarded_append.2 ⟨hguarded, ?_, trivial⟩
      have honce := h.once
      rw [Engine.exec_append] at honce
      exact (ledger_of_guarded hguarded).fires_current (h.steps run act [] rfl) honce
  · intro h
    refine ⟨fun pre act post heq => ?_, (ledger_of_guarded h).once⟩
    subst heq
    obtain ⟨hpre, hact⟩ := guarded_append.1 h
    exact (ledger_of_guarded hpre).orderly hact.1

/-! ### Two workers with one row -/

/-- An e-mail step of the policy `pol`, a minute after the one before it. -/
def mailStep (n : ℤ) : EngineAction := .add_step "t" "pol" n 1 "email_smtp@1" "oncall@t" "alert_notification"

/-- An active alert, a policy with the steps `ns`, and an arming of the alert. -/
def armedWith (ns : List ℤ) : List EngineAction :=
  [.others [⟨"t", "alert-1", .active⟩] [] [], .create_policy "pol" "t" "on call"] ++ ns.map mailStep ++
    [.arm "t" "alert-1" "pol" 0]

/-- Two workers read the first of three steps; one fires it and the second, then the other fires
the first. What this one reads next it fires after the alert was armed again. -/
def staleRun : List EngineAction :=
  armedWith [1, 2, 3] ++
    [.due 0 "t" 60, .due 1 "t" 60, .fire 0 60, .due 0 "t" 120, .fire 0 120, .fire 1 121,
      .due 1 "t" 181, .disarm "t" "alert-1" 182, .arm "t" "alert-1" "pol" 183, .fire 1 184]

/-- The number that the escalation of the alert waits for after the first `n` actions. -/
def waitsFor (n : ℕ) : Option ℕ :=
  (escalationOf "t" "alert-1" (Engine.exec (staleRun.take n)).db).map AlertEscalation.current_step

/-- The stale row takes the escalation from step 3 back to step 2 and sends its message again, and
the row of the first arming takes the second arming past steps 1 and 2. -/
theorem reading_twice_regresses :
    ¬Orderly staleRun ∧ (waitsFor 11 = some 3 ∧ waitsFor 12 = some 2) ∧ (waitsFor 15 = some 1 ∧ waitsFor 16 = some 3) ∧
      (Engine.exec staleRun).log.map (fun f => (f.arming, f.current, f.row.current_step, f.sent)) =
        [(1, 1, 1, true), (1, 1, 2, true), (1, 1, 1, true), (1, 2, 2, true)] := by
  refine ⟨fun h => absurd h.once (by decide), by decide, by decide, by decide⟩

end JLMirror.Alerting
