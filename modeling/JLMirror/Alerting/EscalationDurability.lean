import JLMirror.Alerting.Escalation
import Mathlib.Order.Nat

/-!
# What survives of an escalation pass

The worker never commits. The check of the snooze opens the transaction, so the block around
the writes of a step is a savepoint of it, and `_process_pending`, its caller `tick` and the
next pass end that transaction by rollbacks only. The module proves it for every pass from
every state (`tick_handled`), and from it when a run of passes leaves a record of what it
did: exactly when there is nothing to record (`escalation_firings_durable_iff`).
-/

namespace JLMirror.Alerting

open JLMirror.Foundations

/-! ### No operation of the worker commits -/

theorem advance_committed (p : EscalationPass) (t : String) (r : DueRow) (s : Session EscalationDb) :
    (advance p t r s).1.committed = s.committed := by
  simp only [advance]
  split_ifs
  · exact Session.refuse_committed _ _
  · split
    · exact Session.refuse_committed _ _
    · exact Session.exec_committed _ _ _

theorem fireBlock_committed (p : EscalationPass) (t : String) (r : DueRow) (token : ℕ) (s : Session EscalationDb) :
    (fireBlock p t r token s).1.committed = s.committed := by
  simp only [fireBlock]
  split_ifs
  · exact Session.refuse_committed _ _
  · rw [advance_committed, Session.exec_committed]
  · exact Session.exec_committed _ _ _
  · rw [Session.refuse_committed, Session.exec_committed]
  · rw [advance_committed, Session.exec_committed, Session.exec_committed]

/-- Firing a step commits nothing: its block is a savepoint of the transaction that the snooze
check opened. -/
theorem fire_step_committed (p : EscalationPass) (t : String) (r : DueRow) (token : ℕ) (s : Session EscalationDb) :
    (_fire_step p t r token s).1.committed = s.committed := by
  have hblock : ((s.start p.clock).transaction p.clock (fireBlock p t r token)).1.committed = s.committed := by
    rw [Session.transaction_committed (Session.start_inTx _ _) (fireBlock_committed _ _ _ _ _),
      Session.start_committed]
  simp only [_fire_step]
  split_ifs
  · exact Session.refuse_committed _ _
  · exact Session.start_committed _ _
  · exact hblock
  · exact hblock

/-- What any part of a pass does to the worker: it logs the events `new`. -/
structure Handled (w w' : World) (new : List Event) : Prop where
  log : w'.log = w.log ++ new
  /-- Nothing is committed. -/
  committed : w'.session.committed = w.session.committed
  tokens : w.tokens ≤ w'.tokens
  /-- The intents of the events are under new ids. -/
  drawn : ∀ e ∈ new, ∀ id ∈ e.intent, w.tokens ≤ id

variable {s : Session EscalationDb}

theorem Handled.nil (w : World) (h : s.committed = w.session.committed) : Handled w { w with session := s } [] :=
  ⟨by simp, h, le_rfl, by simp⟩

theorem Handled.trans {w w₁ w₂ : World} {new new' : List Event} (h : Handled w w₁ new) (h' : Handled w₁ w₂ new') :
    Handled w w₂ (new ++ new') := by
  refine ⟨by rw [h'.log, h.log, List.append_assoc], h'.committed.trans h.committed, h.tokens.trans h'.tokens, ?_⟩
  intro e he id hid
  rcases List.mem_append.1 he with he | he
  · exact h.drawn e he id hid
  · exact h.tokens.trans (h'.drawn e he id hid)

/-- The snooze check of the row raises. -/
def snoozeRefused (p : EscalationPass) (t : String) (r : DueRow) : Bool := (p.faults t r.alert_id).snoozeRefused

theorem fire_step_raised (p : EscalationPass) (t : String) (r : DueRow) (token : ℕ) (s : Session EscalationDb) :
    (_fire_step p t r token s).2 = .raised ↔ snoozeRefused p t r = true := by
  simp only [_fire_step, snoozeRefused]
  split_ifs <;> simp_all

/-- One handled row. -/
theorem handled_row (p : EscalationPass) (t : String) (r : DueRow) (w : World) (fire : Fire) :
    Handled w
      { session := (_fire_step p t r w.tokens w.session).1, tokens := w.tokens + 2
        log := w.log ++ [eventOf p t r w.tokens fire] } [eventOf p t r w.tokens fire] := by
  refine ⟨rfl, fire_step_committed _ _ _ _ _, by simp, ?_⟩
  intro e he id hid
  obtain rfl := List.mem_singleton.1 he
  simp only [eventOf] at hid
  split_ifs at hid
  · simp at hid
  · exact (Option.mem_some_iff.1 hid).le

/-- The loop over the due rows of a tenant. -/
theorem processRows_handled (p : EscalationPass) (t : String) (rs : List DueRow) (w : World) :
    ∃ new, Handled w (processRows p t rs w).1 new ∧
      ((processRows p t rs w).2 = true ↔ ∃ r ∈ rs, snoozeRefused p t r = true) := by
  induction rs generalizing w with
  | nil => exact ⟨[], Handled.nil w rfl, by simp [processRows]⟩
  | cons r rs ih =>
    have hraised := fire_step_raised p t r w.tokens w.session
    by_cases hr : (_fire_step p t r w.tokens w.session).2 = .raised
    · simp only [processRows, if_pos hr]
      exact ⟨[], Handled.nil w (fire_step_committed _ _ _ _ _), by simp [hraised.1 hr]⟩
    · have hrow := handled_row p t r w (_fire_step p t r w.tokens w.session).2
      obtain ⟨new, hnew, hflag⟩ := ih
        { session := (_fire_step p t r w.tokens w.session).1, tokens := w.tokens + 2
          log := w.log ++ [eventOf p t r w.tokens (_fire_step p t r w.tokens w.session).2] }
      simp only [processRows, if_neg hr]
      refine ⟨_, hrow.trans hnew, hflag.trans ?_⟩
      rw [List.exists_mem_cons_iff, ← hraised]
      simp [hr]

/-- The loop over the tenants. -/
theorem processTenants_handled (p : EscalationPass) (ts : List String) (w : World) :
    ∃ new, Handled w (processTenants p ts w).1 new := by
  induction ts generalizing w with
  | nil => exact ⟨[], Handled.nil w rfl⟩
  | cons t ts ih =>
    have hidle : Handled w { w with session := (w.session.start p.clock).rollback } [] :=
      Handled.nil w (Session.start_committed _ _)
    simp only [processTenants]
    split_ifs
    · obtain ⟨new, hnew⟩ := ih { w with session := (w.session.start p.clock).rollback }
      exact ⟨_, hidle.trans hnew⟩
    · obtain ⟨new, hnew, -⟩ := processRows_handled p t
        (dueRows ((w.session.start p.clock).now p.clock) t (w.session.start p.clock).view)
        { w with session := (w.session.start p.clock).rollback }
      exact ⟨_, hidle.trans hnew⟩
    · obtain ⟨new, hnew, -⟩ := processRows_handled p t
        (dueRows ((w.session.start p.clock).now p.clock) t (w.session.start p.clock).view)
        { w with session := (w.session.start p.clock).rollback }
      obtain ⟨new', hnew'⟩ := ih (processRows p t
        (dueRows ((w.session.start p.clock).now p.clock) t (w.session.start p.clock).view)
        { w with session := (w.session.start p.clock).rollback }).1
      exact ⟨_, (hidle.trans hnew).trans hnew'⟩

/-- **Nothing of a pass is committed**, whatever it fires. -/
theorem tick_handled (p : EscalationPass) (w : World) : ∃ new, Handled w (tick p w) new := by
  have hpass : ∃ new, Handled w (_process_pending p w).1 new := by
    simp only [_process_pending]
    split_ifs
    · exact ⟨[], Handled.nil w rfl⟩
    · obtain ⟨new, hnew⟩ := processTenants_handled p (activeTenants (w.session.start p.clock).view)
        { w with session := w.session.start p.clock }
      exact ⟨_, (Handled.nil w (Session.start_committed _ _)).trans hnew⟩
  obtain ⟨new, hnew⟩ := hpass
  simp only [tick]
  split_ifs
  · exact ⟨new ++ [], hnew.trans (Handled.nil _ rfl)⟩
  · exact ⟨new, hnew⟩

/-! ### When a step fires -/

/-- Every statement of the block is accepted, and its message leaves without an exception. -/
def Completes (p : EscalationPass) (t : String) (db : EscalationDb) (r : DueRow) : Prop :=
  let f := p.faults t r.alert_id
  f.intentRefused = false ∧
    (if r.channel_class.direct then f.send = .delivered
      else f.outboxRefused = false ∧ intentTaken t r db = false) ∧
    f.roleRefused = false ∧ f.advanceRefused = false ∧ (openEscalation t r.alert_id db).isSome

/-- The step of the due row fires: the alert is not snoozed, and its message leaves or its block
completes. -/
def Fires (p : EscalationPass) (t : String) (db : EscalationDb) (r : DueRow) : Prop :=
  g21_is_snoozed p.clock t r.alert_id db.snoozes = false ∧
    (messageLeft (p.faults t r.alert_id) r = true ∨ Completes p t db r)

instance (p : EscalationPass) (t : String) (db : EscalationDb) (r : DueRow) : Decidable (Completes p t db r) := by
  unfold Completes
  infer_instance

theorem advance_completes (p : EscalationPass) (t : String) (r : DueRow) (s : Session EscalationDb) :
    ((advance p t r s).2 = false ↔ (p.faults t r.alert_id).roleRefused = false ∧
        (p.faults t r.alert_id).advanceRefused = false ∧ (openEscalation t r.alert_id s.view).isSome) ∧
      ((advance p t r s).2 = false → (advance p t r s).1.failed = s.failed) := by
  simp only [advance, g23_advance_step]
  cases hrole : (p.faults t r.alert_id).roleRefused
  · cases hadvance : (p.faults t r.alert_id).advanceRefused
    · cases openEscalation t r.alert_id s.view <;> simp
    · simp
  · simp

variable {t : String} {token : ℕ} {r : DueRow}

/-- The new intent is in the table exactly when the logical action was not. -/
theorem insertIntent_found {db : EscalationDb} (hfresh : ∀ i ∈ db.intents, i.notification_intent_id < token) :
    (insertIntent t token r db).intents.any (fun i => i.tenant_id = t ∧ i.notification_intent_id = token) =
      !intentTaken t r db := by
  have hold : db.intents.any (fun i => i.tenant_id = t ∧ i.notification_intent_id = token) = false := by
    rw [List.any_eq_false]
    intro i hi hit
    have hlt := hfresh i hi
    have heq := (of_decide_eq_true hit).2
    omega
  cases htaken : intentTaken t r db with
  | true => simpa [insertIntent, htaken] using hold
  | false => simp [insertIntent, htaken, stepIntent]

/-- The block raises unless it completes. -/
theorem fireBlock_completes {p : EscalationPass} (hfresh : ∀ i ∈ s.view.intents, i.notification_intent_id < token) :
    ((fireBlock p t r token s).2 = false ↔ Completes p t s.view r) ∧
      ((fireBlock p t r token s).2 = false → (fireBlock p t r token s).1.failed = s.failed) := by
  have hopen : ∀ db, openEscalation t r.alert_id (insertIntent t token r db) = openEscalation t r.alert_id db := by
    intro db
    simp only [insertIntent]
    split_ifs <;> rfl
  simp only [fireBlock, Completes, Session.exec_view, insertIntent_found hfresh]
  cases hintent : (p.faults t r.alert_id).intentRefused with
  | true => simp
  | false =>
    cases hdirect : r.channel_class.direct with
    | true =>
      obtain ⟨h₁, h₂⟩ := advance_completes p t r (s.exec p.clock (insertIntent t token r))
      rw [Session.exec_view, hopen] at h₁
      rw [Session.exec_failed] at h₂
      by_cases hsend : (p.faults t r.alert_id).send = .delivered
      · simpa [hsend] using ⟨h₁, h₂⟩
      · simp [hsend]
    | false =>
      obtain ⟨h₁, h₂⟩ := advance_completes p t r
        ((s.exec p.clock (insertIntent t token r)).exec p.clock (insertDispatch t (token + 1) token))
      have hdispatch : openEscalation t r.alert_id (insertDispatch t (token + 1) token (insertIntent t token r s.view)) =
          openEscalation t r.alert_id s.view := hopen s.view
      rw [Session.exec_view, Session.exec_view, hdispatch] at h₁
      rw [Session.exec_failed, Session.exec_failed] at h₂
      cases houtbox : (p.faults t r.alert_id).outboxRefused
      · cases htaken : intentTaken t r s.view
        · simpa using ⟨h₁, h₂⟩
        · simp
      · simp

/-- Firing a step on an idle connection: what happens, and that all of it is undone unless the
block completes. -/
theorem fire_step_idle {p : EscalationPass} {db : EscalationDb}
    (hfresh : ∀ i ∈ db.intents, i.notification_intent_id < token) (hcheck : snoozeRefused p t r = false) :
    (_fire_step p t r token (.idle db)).2 =
        (if g21_is_snoozed p.clock t r.alert_id db.snoozes then .snoozed
          else if Completes p t db r then .fired else .failed) ∧
      ((_fire_step p t r token (.idle db)).2 ≠ .fired → (_fire_step p t r token (.idle db)).1 = .idle db) := by
  have hview : ((Session.idle db).start p.clock).view = db := rfl
  have hnow : ((Session.idle db).start p.clock).now p.clock = p.clock := rfl
  obtain ⟨hraised, hfailed⟩ := fireBlock_completes (p := p) (t := t) (r := r) (s := (Session.idle db).start p.clock) hfresh
  have hcommitted := fireBlock_committed p t r token ((Session.idle db).start p.clock)
  rw [hview] at hraised
  have hblock : ((Session.idle db).start p.clock).transaction p.clock (fireBlock p t r token) =
      if (fireBlock p t r token ((Session.idle db).start p.clock)).2 then
        ((fireBlock p t r token ((Session.idle db).start p.clock)).1.restore ⟨[], false, p.clock⟩, true)
      else ((fireBlock p t r token ((Session.idle db).start p.clock)).1,
        (fireBlock p t r token ((Session.idle db).start p.clock)).1.failed) := rfl
  simp only [_fire_step, show (p.faults t r.alert_id).snoozeRefused = false from hcheck, hview, hnow]
  by_cases hsnoozed : g21_is_snoozed p.clock t r.alert_id db.snoozes = true
  · simp only [hsnoozed, if_true, Bool.false_eq_true, if_false]
    exact ⟨trivial, fun _ => rfl⟩
  · simp only [hsnoozed, Bool.false_eq_true, if_false, hblock]
    by_cases hcompletes : Completes p t db r
    · have hflag := hraised.2 hcompletes
      have hopen : (fireBlock p t r token ((Session.idle db).start p.clock)).1.failed = false := hfailed hflag
      simp [hflag, hopen, hcompletes]
    · have hflag : (fireBlock p t r token ((Session.idle db).start p.clock)).2 = true := by
        cases h : (fireBlock p t r token ((Session.idle db).start p.clock)).2
        · exact absurd (hraised.1 h) hcompletes
        · rfl
      simp only [hflag, if_true, hcompletes, if_false]
      exact ⟨trivial, fun _ => Session.ext hcommitted rfl⟩

/-! ### The due rows that a pass reaches -/

/-- A due row with `P` before the first one whose snooze check raises. -/
def ReachesRow (p : EscalationPass) (t : String) (P : DueRow → Prop) : List DueRow → Prop
  | [] => False
  | r :: rs => snoozeRefused p t r = false ∧ (P r ∨ ReachesRow p t P rs)

/-- Such a row of one of the tenants `ts`, when the connection is in the session `s`. The due query
of a tenant reads in the open transaction, its rows are handled after the rollback behind it. -/
def ReachesTenant (p : EscalationPass) (P : String → EscalationDb → DueRow → Prop) :
    List String → Session EscalationDb → Prop
  | [], _ => False
  | t :: ts, s =>
    if p.dueRefused t then ReachesTenant p P ts s.rollback
    else
      let due := dueRows (s.now p.clock) t s.view
      ReachesRow p t (P t s.committed) due ∨
        ((∀ r ∈ due, snoozeRefused p t r = false) ∧ ReachesTenant p P ts s.rollback)

/-- The pass `p` on the worker `w` reaches a due row with `P`. -/
def Reaches (p : EscalationPass) (P : String → EscalationDb → DueRow → Prop) (w : World) : Prop :=
  p.tenantsRefused = false ∧ ReachesTenant p P (activeTenants w.session.view) (w.session.start p.clock)

/-- `P` tells of a due row, before it is handled, whether its event is in `K`; and a row outside
`K` leaves the connection as it found it. -/
structure Detects (p : EscalationPass) (K : Event → Prop) (P : String → EscalationDb → DueRow → Prop) : Prop where
  event : ∀ {t r token db}, (∀ i ∈ db.intents, i.notification_intent_id < token) → snoozeRefused p t r = false →
    (K (eventOf p t r token (_fire_step p t r token (.idle db)).2) ↔ P t db r)
  quiet : ∀ {t r token db}, (∀ i ∈ db.intents, i.notification_intent_id < token) → snoozeRefused p t r = false →
    ¬P t db r → (_fire_step p t r token (.idle db)).1 = .idle db

theorem detects_counted (p : EscalationPass) : Detects p (fun _ => True) fun _ _ _ => True :=
  ⟨fun _ _ => Iff.rfl, fun _ _ h => absurd trivial h⟩

/-- The events of a message that left or of a step that the worker reports as fired. -/
def Event.firing (e : Event) : Prop := e.sent = true ∨ e.fired = true

/-- `Fires` tells which rows fire. -/
theorem detects_firing (p : EscalationPass) : Detects p Event.firing (Fires p) := by
  constructor
  · intro t r token db hfresh hcheck
    rw [(fire_step_idle hfresh hcheck).1]
    by_cases hsnoozed : g21_is_snoozed p.clock t r.alert_id db.snoozes = true
    · simp [Event.firing, eventOf, Fires, hsnoozed]
    · by_cases hcompletes : Completes p t db r <;>
        simp [Event.firing, eventOf, Fires, hsnoozed, hcompletes]
  · intro t r token db hfresh hcheck hquiet
    refine (fire_step_idle hfresh hcheck).2 fun hfired => hquiet ?_
    rw [(fire_step_idle hfresh hcheck).1] at hfired
    split_ifs at hfired with hsnoozed hcompletes
    exact ⟨by simpa using hsnoozed, Or.inr hcompletes⟩

section Reached

variable {p : EscalationPass} {K : Event → Prop} {P : String → EscalationDb → DueRow → Prop}

/-- The ids of the committed intents are drawn. -/
def Drawn (w : World) : Prop := ∀ i ∈ w.session.committed.intents, i.notification_intent_id < w.tokens

variable {w : World}

theorem Handled.drawn_of {w' : World} {new : List Event} (h : Handled w w' new) (hw : Drawn w) : Drawn w' := by
  intro i hi
  rw [h.committed] at hi
  exact (hw i hi).trans_le h.tokens

/-- The rows of a tenant on an idle connection log an event of `K` exactly when one is reached;
otherwise the connection is idle after them. -/
theorem processRows_reaches (hK : Detects p K P) (t : String) (rs : List DueRow) {db : EscalationDb}
    (hidle : w.session = .idle db) (hw : Drawn w) :
    ∃ new, Handled w (processRows p t rs w).1 new ∧ ((∃ e ∈ new, K e) ↔ ReachesRow p t (P t db) rs) ∧
      ((processRows p t rs w).2 = false → (∀ e ∈ new, ¬K e) → (processRows p t rs w).1.session = .idle db) := by
  induction rs generalizing w with
  | nil => exact ⟨[], Handled.nil w rfl, by simp [ReachesRow], fun _ _ => hidle⟩
  | cons r rs ih =>
    have hfresh : ∀ i ∈ db.intents, i.notification_intent_id < w.tokens := by
      intro i hi
      exact hw i (by rw [hidle]; exact hi)
    have hraised := fire_step_raised p t r w.tokens w.session
    cases hcheck : snoozeRefused p t r with
    | true =>
      simp only [processRows, if_pos (hraised.2 hcheck), ReachesRow, hcheck]
      exact ⟨[], Handled.nil w (fire_step_committed _ _ _ _ _), by simp, by simp⟩
    | false =>
      have hne : (_fire_step p t r w.tokens w.session).2 ≠ .raised := by
        rw [ne_eq, hraised, hcheck]
        simp
      have hrow := handled_row p t r w (_fire_step p t r w.tokens w.session).2
      simp only [processRows, if_neg hne, ReachesRow, hcheck, true_and]
      have hevent := hK.event hfresh hcheck
      rw [← hidle] at hevent
      by_cases hP : P t db r
      · -- the event of this row is in `K`, whatever the rows behind it do
        obtain ⟨new, hnew, -⟩ := processRows_handled p t rs
          { session := (_fire_step p t r w.tokens w.session).1, tokens := w.tokens + 2
            log := w.log ++ [eventOf p t r w.tokens (_fire_step p t r w.tokens w.session).2] }
        refine ⟨_, hrow.trans hnew, ?_, fun _ hnone => absurd (hevent.2 hP) (hnone _ (by simp))⟩
        exact ⟨fun _ => Or.inl hP, fun _ => ⟨_, by simp, hevent.2 hP⟩⟩
      · have hback := hK.quiet hfresh hcheck hP
        rw [← hidle] at hback
        obtain ⟨new, hnew, hiff, hsession⟩ := ih
          (w := { session := (_fire_step p t r w.tokens w.session).1, tokens := w.tokens + 2
                  log := w.log ++ [eventOf p t r w.tokens (_fire_step p t r w.tokens w.session).2] })
          (hback.trans hidle) (hrow.drawn_of hw)
        refine ⟨_, hrow.trans hnew, ?_, fun hflag hnone => hsession hflag fun e he => hnone e (by simp [he])⟩
        rw [← hiff, List.singleton_append, List.exists_mem_cons_iff, hevent]

/-- The rows of all tenants log an event of `K` exactly when one is reached. -/
theorem processTenants_reaches (hK : Detects p K P) (ts : List String) (hw : Drawn w) :
    ∃ new, Handled w (processTenants p ts w).1 new ∧ ((∃ e ∈ new, K e) ↔ ReachesTenant p P ts w.session) := by
  induction ts generalizing w with
  | nil => exact ⟨[], Handled.nil w rfl, by simp [ReachesTenant]⟩
  | cons t ts ih =>
    have hidle : Handled w { w with session := (w.session.start p.clock).rollback } [] :=
      Handled.nil w (Session.start_committed _ _)
    have hback : (w.session.start p.clock).rollback = .idle w.session.committed :=
      Session.ext (Session.start_committed _ _) rfl
    have hnow : (w.session.start p.clock).now p.clock = w.session.now p.clock := by
      cases htx : w.session.tx <;> simp [Session.start, Session.now, htx]
    simp only [processTenants, ReachesTenant, Session.start_view, hnow]
    cases hrefused : p.dueRefused t with
    | true =>
      obtain ⟨new, hnew, hiff⟩ := ih (hidle.drawn_of hw)
      simp only [if_true]
      refine ⟨_, hidle.trans hnew, ?_⟩
      rw [List.nil_append, hiff, hback]
      rfl
    | false =>
      obtain ⟨new, hnew, hiff, hsession⟩ := processRows_reaches hK t (dueRows (w.session.now p.clock) t w.session.view)
        hback (hidle.drawn_of hw)
      obtain ⟨_, -, hflag⟩ := processRows_handled p t (dueRows (w.session.now p.clock) t w.session.view)
        { w with session := (w.session.start p.clock).rollback }
      have hsame : w.session.rollback = .idle w.session.committed := rfl
      simp only [Bool.false_eq_true, if_false]
      generalize hrows : processRows p t (dueRows (w.session.now p.clock) t w.session.view)
        { w with session := (w.session.start p.clock).rollback } = result at hnew hsession hflag ⊢
      obtain ⟨w₁, raised⟩ := result
      cases raised with
      | true =>
        refine ⟨_, hidle.trans hnew, ?_⟩
        have hsome := hflag.1 rfl
        have hnot : ¬∀ r ∈ dueRows (w.session.now p.clock) t w.session.view, snoozeRefused p t r = false := by
          obtain ⟨r, hr, hrefuse⟩ := hsome
          exact fun hall => by simp [hall r hr] at hrefuse
        rw [List.nil_append, hiff]
        exact ⟨Or.inl, fun h => h.resolve_right fun hrest => hnot hrest.1⟩
      | false =>
        have hall : ∀ r ∈ dueRows (w.session.now p.clock) t w.session.view, snoozeRefused p t r = false := by
          intro r hr
          by_contra hrefuse
          exact absurd (hflag.2 ⟨r, hr, by simpa using hrefuse⟩) (by simp)
        obtain ⟨new', hnew', hiff'⟩ := ih ((hidle.trans hnew).drawn_of hw)
        refine ⟨_, (hidle.trans hnew).trans hnew', ?_⟩
        by_cases hK₁ : ∃ e ∈ new, K e
        · obtain ⟨e, he, hKe⟩ := hK₁
          exact ⟨fun _ => Or.inl (hiff.1 ⟨e, he, hKe⟩), fun _ => ⟨e, by simp [he], hKe⟩⟩
        · have hnone : ∀ e ∈ new, ¬K e := fun e he hKe => hK₁ ⟨e, he, hKe⟩
          have hw₁ : w₁.session = w.session.rollback := hsession rfl hnone
          rw [hw₁] at hiff'
          constructor
          · rintro ⟨e, he, hKe⟩
            rw [List.nil_append, List.mem_append] at he
            rcases he with he | he
            · exact absurd hKe (hnone e he)
            · exact Or.inr ⟨hall, hiff'.1 ⟨e, he, hKe⟩⟩
          · rintro (hrow | ⟨-, hrest⟩)
            · exact absurd (hiff.2 hrow) hK₁
            · obtain ⟨e, he, hKe⟩ := hiff'.2 hrest
              exact ⟨e, by simp [he], hKe⟩

/-- A pass logs an event of `K` exactly when it reaches a due row with `P`. -/
theorem tick_reaches (hK : Detects p K P) (hw : Drawn w) :
    ∃ new, Handled w (tick p w) new ∧ ((∃ e ∈ new, K e) ↔ Reaches p P w) := by
  have hpass : ∃ new, Handled w (_process_pending p w).1 new ∧ ((∃ e ∈ new, K e) ↔ Reaches p P w) := by
    simp only [_process_pending, Reaches]
    cases hrefused : p.tenantsRefused with
    | true => exact ⟨[], Handled.nil w rfl, by simp⟩
    | false =>
      have hopen : Handled w { w with session := w.session.start p.clock } [] :=
        Handled.nil w (Session.start_committed _ _)
      obtain ⟨new, hnew, hiff⟩ := processTenants_reaches hK (activeTenants w.session.view) (hopen.drawn_of hw)
      simp only [Bool.false_eq_true, if_false, Session.start_view, true_and]
      exact ⟨_, hopen.trans hnew, hiff⟩
  obtain ⟨new, hnew, hiff⟩ := hpass
  simp only [tick]
  split_ifs
  · exact ⟨new ++ [], hnew.trans (Handled.nil _ rfl), by rwa [List.append_nil]⟩
  · exact ⟨new, hnew, hiff⟩

end Reached

/-! ### Durability -/

/-- The committed tables hold the record of an event: its intent, the outbox row of that intent
where the channel uses one, and the escalation past the step. -/
def Recorded (db : EscalationDb) (e : Event) : Prop :=
  ∃ id ∈ e.intent, (∃ i ∈ db.intents, i.tenant_id = e.tenant_id ∧ i.notification_intent_id = id) ∧
    (e.row.channel_class.direct = false →
      ∃ o ∈ db.outbox, o.tenant_id = e.tenant_id ∧ o.notification_intent_id = id) ∧
    ∃ ae ∈ db.escalations, ae.alert_id = e.row.alert_id ∧ ae.tenant_id = e.tenant_id ∧
      (e.row.current_step < ae.current_step ∨ ae.completed_at ≠ none)

/-- After a pass from `w` to `w'` the events of `K` that it logged are recorded, and no record of
an earlier one is undone. -/
def DurablePass (K : Event → Prop) (w w' : World) : Prop :=
  (∀ e ∈ w'.log.drop w.log.length, K e → Recorded w'.session.committed e) ∧
    ∀ e ∈ w.log, K e → Recorded w.session.committed e → Recorded w'.session.committed e

/-- Every pass of the run is durable. -/
def DurableRun (K : Event → Prop) (run : List Action) : Prop :=
  ∀ before p, before ++ [.pass p] <+: run → DurablePass K (exec before) (exec (before ++ [.pass p]))

theorem addIntents_drawn (intents : List (ℕ → StepIntent)) (tokens : ℕ) (db : EscalationDb)
    (h : ∀ i ∈ db.intents, i.notification_intent_id < tokens) :
    ∀ i ∈ (addIntents tokens intents db).intents, i.notification_intent_id < tokens + 2 * intents.length := by
  induction intents generalizing tokens db with
  | nil => simpa [addIntents] using h
  | cons i is ih =>
    simp only [addIntents, List.length_cons]
    rw [show tokens + 2 * (is.length + 1) = tokens + 2 + 2 * is.length by omega]
    refine ih (tokens + 2) _ fun j hj => ?_
    rcases List.mem_append.1 hj with hj | hj
    · exact (h j hj).trans (by omega)
    · rw [List.mem_singleton.1 hj]
      exact Nat.lt_add_of_pos_right (by omega)

/-- The ids of the committed intents are drawn in every state of a run. -/
theorem exec_drawn (run : List Action) : Drawn (exec run) := by
  have hstep : ∀ (w : World) (a : Action), Drawn w → Drawn (w.step a) := by
    intro w a hw
    cases a with
    | pass p =>
      obtain ⟨new, hnew⟩ := tick_handled p w
      exact hnew.drawn_of hw
    | others o => exact addIntents_drawn o.intents w.tokens _ hw
  have hrun : ∀ (run : List Action) (w : World), Drawn w → Drawn (run.foldl World.step w) := by
    intro run
    induction run with
    | nil => exact fun _ h => h
    | cons a run ih => exact fun w h => ih _ (hstep w a h)
  exact hrun run _ (by simp [Drawn, World.init, EscalationDb.empty])

/-- No event that a pass logs is recorded after it: its intent is not committed. -/
theorem Handled.not_recorded {w w' : World} {new : List Event} (h : Handled w w' new) (hw : Drawn w)
    {e : Event} (he : e ∈ new) : ¬Recorded w'.session.committed e := by
  rintro ⟨id, hid, ⟨i, hi, -, hii⟩, -⟩
  rw [h.committed] at hi
  have hlt := hw i hi
  have hle := h.drawn e he id hid
  omega

/-- A pass is durable exactly when it logs no event of the kind. -/
theorem durablePass_iff {p : EscalationPass} {K : Event → Prop} {P : String → EscalationDb → DueRow → Prop}
    (hK : Detects p K P) {w : World} (hw : Drawn w) : DurablePass K w (tick p w) ↔ ¬Reaches p P w := by
  obtain ⟨new, hnew, hiff⟩ := tick_reaches hK hw
  rw [← hiff, DurablePass, hnew.log, List.drop_left]
  constructor
  · rintro ⟨hrecorded, -⟩ ⟨e, he, hKe⟩
    exact hnew.not_recorded hw he (hrecorded e he hKe)
  · intro hnone
    refine ⟨fun e he hKe => absurd ⟨e, he, hKe⟩ hnone, fun e _ _ hrecorded => ?_⟩
    rwa [hnew.committed]

/-- **Key result**: what the passes of a run count in `processed` is recorded exactly when no pass
reaches a due row, and the steps whose message left or that it reports as fired are exactly
when no pass reaches one that fires. -/
theorem escalation_firings_durable_iff (run : List Action) :
    (DurableRun (fun _ => True) run ↔
        ∀ before p, before ++ [.pass p] <+: run → ¬Reaches p (fun _ _ _ => True) (exec before)) ∧
      (DurableRun Event.firing run ↔
        ∀ before p, before ++ [.pass p] <+: run → ¬Reaches p (Fires p) (exec before)) := by
  have hexec : ∀ before p, exec (before ++ [.pass p]) = tick p (exec before) := by
    intro before p
    rw [exec, List.foldl_append]
    rfl
  constructor
  · refine forall_congr' fun before => forall_congr' fun p => imp_congr_right fun _ => ?_
    rw [hexec]
    exact durablePass_iff (detects_counted p) (exec_drawn before)
  · refine forall_congr' fun before => forall_congr' fun p => imp_congr_right fun _ => ?_
    rw [hexec]
    exact durablePass_iff (detects_firing p) (exec_drawn before)

/-! ### A run that sends one message twice -/

/-- An active alert of tenant `t`, armed at 0 with a policy of one e-mail step after a minute. -/
def armedAlert : Others where
  tenants := [("t", true)]
  steps := [⟨"pol", "t", 1, 1, .email_smtp, "oncall@t", "alert_notification"⟩]
  escalations := [⟨"alert-1", "t", "pol", 1, 0, none, none⟩]
  alerts := [⟨"t", "alert-1", .active⟩]
  snoozes := []
  intents := []

/-- A pass without failures. -/
def cleanPass (clock : ℕ) : EscalationPass := ⟨clock, false, fun _ => false, fun _ _ => .none⟩

/-- Three passes without failures: the first and the third send the message of the same step, and
nothing of it is ever committed. -/
theorem escalation_message_sent_twice :
    ¬DurableRun Event.firing [.others armedAlert, .pass (cleanPass 60), .pass (cleanPass 70), .pass (cleanPass 80)] ∧
      ((exec [.others armedAlert, .pass (cleanPass 60), .pass (cleanPass 70), .pass (cleanPass 80)]).log.map
        fun e => (e.tenant_id, e.row.alert_id, e.row.current_step, e.sent)) =
        [("t", "alert-1", 1, true), ("t", "alert-1", 1, true)] := by
  refine ⟨fun h => ?_, by decide⟩
  obtain ⟨hrecorded, -⟩ := h [.others armedAlert] (cleanPass 60) (by simp)
  have hsent : ∃ e ∈ (exec ([.others armedAlert] ++ [.pass (cleanPass 60)])).log.drop
      (exec [.others armedAlert]).log.length, e.sent = true := by decide
  have hintents : (exec ([.others armedAlert] ++ [.pass (cleanPass 60)])).session.committed.intents = [] := by decide
  obtain ⟨e, he, hesent⟩ := hsent
  obtain ⟨id, -, ⟨i, hi, -⟩, -⟩ := hrecorded e he (Or.inl hesent)
  rw [hintents] at hi
  cases hi

end JLMirror.Alerting
