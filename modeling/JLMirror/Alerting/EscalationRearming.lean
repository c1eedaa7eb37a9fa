import JLMirror.Alerting.EscalationArming

/-!
# Arming an escalation again

`g23_arm_alert` starts the escalation of an alert over from step 1, but the intent of a step keeps
its logical action `esc:{alert}:step{n}`, which no arming is part of. A step that fired in an
earlier arming therefore meets its own intent: the insert of the new one does nothing, and the
outbox row that names it is refused by its foreign key.

## What is proved

* **Key result** (`rearmed_steps_fire_iff`): in a run, the steps of the later armings write their
  intent and their outbox row and advance exactly if no logical action of theirs is taken.
* `rearmed_step_fails`: an outbox step of a second arming, refused on every pass.
-/

namespace JLMirror.Alerting

open JLMirror.Foundations

/-! ### The steps of a later arming -/

/-- Firing the row writes the intent of the step, for an outbox channel the dispatch of that
intent, and advances the escalation. -/
structure Refires (s : Engine) (w clock : ℕ) (x : Listed) : Prop where
  intent : (s.step (.fire w clock)).db.intents = s.db.intents ++ [stepIntent x.tenant_id s.tokens x.row]
  dispatch : x.row.channel_class.direct = false →
    (s.step (.fire w clock)).db.outbox = s.db.outbox ++ [⟨x.tenant_id, s.tokens + 1, s.tokens, 1⟩]
  advances : ∃ e, escalationOf x.tenant_id x.row.alert_id s.db = some e ∧
    escalationOf x.tenant_id x.row.alert_id (s.step (.fire w clock)).db =
      some (advanced clock x.row.current_step s.db.steps e)

theorem firedTables_outbox (clock : ℕ) (t : String) (r : DueRow) (token : ℕ) (db : EscalationDb) :
    (firedTables clock t r token db).outbox =
      if r.channel_class.direct then db.outbox else db.outbox ++ [⟨t, token + 1, token, 1⟩] := by
  have hadvance : ∀ db', ((g23_advance_step clock t r.alert_id r.current_step db').getD db').outbox = db'.outbox := by
    intro db'
    unfold g23_advance_step
    cases openEscalation t r.alert_id db' <;> rfl
  have hintent : (insertIntent t token r db).outbox = db.outbox := by
    unfold insertIntent
    split_ifs <;> rfl
  simp only [firedTables]
  rw [hadvance]
  split_ifs
  · exact hintent
  · rw [insertDispatch, hintent]

/-- A current row of an alert that is not snoozed fires anew exactly if its logical action is free. -/
theorem refires_iff {s : Engine} (hs : s.Sound) {w clock : ℕ} {x : Listed} {rest : List Listed}
    (hdue : s.due w = x :: rest) (hcurrent : x.current s)
    (hsnoozed : g21_is_snoozed clock x.tenant_id x.row.alert_id s.db.snoozes = false) :
    Refires s w clock x ↔ intentTaken x.tenant_id x.row s.db = false := by
  have hstep : s.step (.fire w clock) = s.fireRow w clock x rest := by
    simp only [Engine.step, hdue]
  constructor
  · intro h
    by_contra htaken
    have hsame : (s.fireRow w clock x rest).db.intents = s.db.intents := by
      rcases fireCommitted_cases hs clock x with ⟨-, hdb, -⟩ | ⟨-, hdb⟩
      · show (fireCommitted clock x.tenant_id x.row s.tokens s.db).1.intents = s.db.intents
        rw [hdb, firedTables_intents, insertIntent, if_pos (by simpa using htaken)]
      · show (fireCommitted clock x.tenant_id x.row s.tokens s.db).1.intents = s.db.intents
        rw [hdb]
    have hgrows := h.intent
    rw [hstep, hsame] at hgrows
    simp at hgrows
  · intro hfree
    obtain ⟨-, e, he, hopen, -⟩ := hcurrent
    have hsome : openEscalation x.tenant_id x.row.alert_id s.db = some e :=
      (openEscalation_eq_some hs.escalations).2 ⟨he, hopen⟩
    have hfired : (fireCommitted clock x.tenant_id x.row s.tokens s.db).2 = .fired := by
      rw [fireCommitted_end hs, if_neg (by simp [hsnoozed]), if_pos ⟨Or.inr hfree, by rw [hsome]; rfl⟩]
    have hdb : (s.fireRow w clock x rest).db = firedTables clock x.tenant_id x.row s.tokens s.db :=
      ((fireCommitted_cases hs clock x).resolve_right fun h => h.1 hfired).2.1
    refine ⟨?_, fun hdirect => ?_, e, he, ?_⟩
    · rw [hstep, hdb, firedTables_intents, insertIntent, if_neg (by simp [hfree])]
    · rw [hstep, hdb, firedTables_outbox, if_neg (by simp [hdirect])]
    · rw [hstep, hdb, firedTables_escalationOf hs.escalations hsome, if_pos rfl]

/-- `P` holds whenever a run fires a current row of an alert that was armed before and is not
snoozed. -/
def RearmedSteps (P : Engine → ℕ → ℕ → Listed → Prop) (run : List EngineAction) : Prop :=
  ∀ pre w clock post x rest, run = pre ++ .fire w clock :: post → (Engine.exec pre).due w = x :: rest →
    x.current (Engine.exec pre) → 2 ≤ (Engine.exec pre).armings (x.tenant_id, x.row.alert_id) →
      g21_is_snoozed clock x.tenant_id x.row.alert_id (Engine.exec pre).db.snoozes = false →
        P (Engine.exec pre) w clock x

/-- **Key result** (`rearmed_steps_fire_iff`): the steps of the later armings of a run fire anew
exactly if none of their logical actions is taken when they fire. -/
theorem rearmed_steps_fire_iff (run : List EngineAction) :
    RearmedSteps Refires run ↔ RearmedSteps (fun s _ _ x => intentTaken x.tenant_id x.row s.db = false) run := by
  constructor
  · intro h pre w clock post x rest hrun hdue hcurrent harmed hsnoozed
    exact (refires_iff (Engine.exec_sound pre) hdue hcurrent hsnoozed).1 (h pre w clock post x rest hrun hdue hcurrent harmed hsnoozed)
  · intro h pre w clock post x rest hrun hdue hcurrent harmed hsnoozed
    exact (refires_iff (Engine.exec_sound pre) hdue hcurrent hsnoozed).2 (h pre w clock post x rest hrun hdue hcurrent harmed hsnoozed)

/-! ### An outbox step of a second arming -/

/-- The escalation of an outbox step fires it and is complete; it is armed again, and two passes
find the step due. -/
def rearmedRun : List EngineAction :=
  [.others [⟨"t", "alert-1", .active⟩] [] [], .create_policy "pol" "t" "on call",
    .add_step "t" "pol" 1 1 "whatsapp_business@1" "oncall@t" "alert_notification", .arm "t" "alert-1" "pol" 0,
    .due 0 "t" 60, .fire 0 60, .arm "t" "alert-1" "pol" 100, .due 0 "t" 160, .fire 0 160, .due 0 "t" 220, .fire 0 220]

/-- The step of the second arming is refused on every pass, and the escalation still waits for it. -/
theorem rearmed_step_fails :
    ¬RearmedSteps Refires rearmedRun ∧
      (Engine.exec rearmedRun).log.map (fun f => (f.arming, f.row.current_step, f.fire)) =
        [(1, 1, .fired), (2, 1, .failed), (2, 1, .failed)] ∧
      (Engine.exec rearmedRun).db.outbox.length = 1 ∧
      escalationOf "t" "alert-1" (Engine.exec rearmedRun).db = some (armedRow 100 "t" "alert-1" "pol") := by
  refine ⟨fun h => ?_, by decide, by decide, by decide⟩
  have hrefires := h (rearmedRun.take 8) 0 160 (rearmedRun.drop 9)
    ⟨"t", ⟨"alert-1", "pol", 1, 1, .whatsapp_business, "oncall@t", "alert_notification"⟩, 2⟩ [] rfl (by decide)
    ⟨by decide, armedRow 100 "t" "alert-1" "pol", by decide, rfl, rfl⟩ (by decide) (by decide)
  have hlength := congrArg List.length hrefires.intent
  revert hlength
  decide

end JLMirror.Alerting
