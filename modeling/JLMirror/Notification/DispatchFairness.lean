import JLMirror.Notification.Dispatch

/-!
# Fairness of the dispatch pass

The module says of the loop what holds of it from every reachable database: a withheld row
is claimed, rolled back and claimed again, as it stays the oldest due row, so the pass does
not end and the rows behind it wait; when no due row is withheld and no message raises, the
pass ends and attempts every due row once (`dispatch_pass_fair_iff`).
-/

namespace JLMirror.Notification

open JLMirror.Foundations JLMirror.Alerting

/-! ### Reachable databases -/

/-- The databases that the creations of intents, the callbacks of the providers, the rounds of
the worker and any change of alerts, windows and snoozes lead to. -/
inductive Reachable : Store → Prop where
  | empty : Reachable Store.empty
  /-- An intent with its first dispatch. -/
  | create_intent {s : Store} (now : ℕ) (tenant_id alert_id destination_ref : String)
    (channel_class : ChannelClass) (payload_ref : String) :
    Reachable s → Reachable (create_intent now tenant_id alert_id destination_ref channel_class payload_ref s)
  /-- The evidence of a callback. -/
  | record_evidence {s : Store} (now : ℕ) (tenant_id : String) (intent_id : ℕ) (state : DeliveryState)
    (callback ref : Option String) :
    Reachable s → Reachable (record_evidence now tenant_id intent_id state callback ref s)
  /-- The tables of the other components. -/
  | surroundings {s : Store} (alerts : List AlertRef) (windows : List MaintenanceWindow)
    (snoozes : List AlertSnooze) :
    Reachable s → Reachable { s with alerts := alerts, windows := windows, snoozes := snoozes }
  /-- A round of the worker. -/
  | dispatch {s : Store} (p : Pass) (trace : List Visit) :
    Reachable s → Reachable (dispatchOnce p trace (.idle s)).1.committed

theorem Reachable.consistent {s : Store} (h : Reachable s) : Consistent s := by
  induction h with
  | empty => exact Consistent.empty
  | create_intent now tenant alert destination channel payload _ ih => exact ih.create_intent ..
  | record_evidence now tenant intent state callback ref _ ih =>
    obtain ⟨evidence, projections, token, htoken, heq⟩ :=
      record_evidence_eq tenant intent _ now state callback ref
    rw [heq]
    exact ih.of_outbox rfl rfl htoken
  | surroundings alerts windows snoozes _ ih => exact ih.of_outbox rfl rfl le_rfl
  | @dispatch s p trace _ ih =>
    cases hr : oldestDue p.now s with
    | none => rwa [dispatchOnce_none hr]
    | some r =>
      obtain ⟨hmem, hdue⟩ := oldestDue_mem hr
      rcases dispatchOnce_some ih hr trace with ⟨result, hround, -⟩ | ⟨s', outcome, hround, hc, -⟩
      · rwa [hround]
      · rw [hround]
        exact hc.consistent ih hmem (by simp [due_pending hdue])

/-! ### The loop -/

variable {p : Pass} {fuel : ℕ} {trace : List Visit}

/-- The loop only appends to its trace. -/
theorem process_pending_trace {trace' : List Visit} {s s' : Session Store}
    (h : process_pending p fuel trace s = some (s', trace')) : trace ⊆ trace' := by
  induction fuel generalizing trace s with
  | zero => simp [process_pending] at h
  | succ fuel ih =>
    simp only [process_pending] at h
    split at h
    · obtain ⟨-, rfl⟩ := Prod.mk.inj (Option.some.inj h)
      exact List.Subset.refl _
    · exact List.Subset.trans (List.subset_append_left _ _) (ih h)

variable {b : DispatchRow} {s : Store}

theorem Completed.due_of_ne {now : ℕ} {r : DispatchRow} {outcome : DeliveryState} {s' : Store}
    (hc : Completed now r outcome s s') (hb : b ∈ s.outbox) (hdue : b.due now = true) (hkey : b.key ≠ r.key) :
    b ∈ s'.outbox := by
  have hmem : b ∈ s'.outbox.filter (·.due now) := by
    rw [hc.due]
    exact List.mem_filter.2 ⟨List.mem_filter.2 ⟨hb, hdue⟩, by simpa using hkey⟩
  exact (List.mem_filter.1 hmem).1

/-- A withheld due row keeps the loop going for ever: no amount of rounds ends it. -/
theorem withheld_diverges (h : Consistent s) (hb : b ∈ s.outbox) (hdue : b.due p.now = true)
    (hwithheld : Withheld p.now s b) (fuel : ℕ) (trace : List Visit) :
    process_pending p fuel trace (.idle s) = none := by
  induction fuel generalizing s trace with
  | zero => rfl
  | succ fuel ih =>
    cases hr : oldestDue p.now s with
    | none =>
      have hnil := oldestDue_eq_none.1 hr
      exact absurd (hnil ▸ List.mem_filter.2 ⟨hb, hdue⟩) (List.not_mem_nil)
    | some r =>
      obtain ⟨hmem, hrdue⟩ := oldestDue_mem hr
      rcases dispatchOnce_some h hr trace with ⟨result, hround, -⟩ | ⟨s', outcome, hround, hc, hfree, -⟩
      · -- rolled back: the tables are the same
        simp only [process_pending, hround]
        exact ih h hb hwithheld _
      · simp only [process_pending, hround]
        have hkey : b.key ≠ r.key := fun hkey => hfree (eq_of_key h.keys hb hmem hkey ▸ hwithheld)
        exact ih (hc.consistent h hmem (by simp [due_pending hrdue])) (hc.due_of_ne hb hdue hkey)
          ((hc.withheld p.now b).2 hwithheld) _

/-- A due row whose first message raises is visited without an attempt before the loop ends. -/
theorem raising_visited (h : Consistent s) (hb : b ∈ s.outbox) (hdue : b.due p.now = true) (hraises : Raises p 0 s b)
    {trace' : List Visit} {s' : Session Store} (hunsent : sentBefore trace b = 0)
    (hrun : process_pending p fuel trace (.idle s) = some (s', trace')) :
    ∃ v ∈ trace', v.key = b.key ∧ ∀ o, v.result ≠ .attempted o := by
  induction fuel generalizing s trace with
  | zero => simp [process_pending] at hrun
  | succ fuel ih =>
    cases hr : oldestDue p.now s with
    | none =>
      have hnil := oldestDue_eq_none.1 hr
      exact absurd (hnil ▸ List.mem_filter.2 ⟨hb, hdue⟩) (List.not_mem_nil)
    | some r =>
      obtain ⟨hmem, hrdue⟩ := oldestDue_mem hr
      rcases dispatchOnce_some h hr trace with ⟨result, hround, hresult, -⟩ | ⟨s₁, outcome, hround, hc, -, hsent⟩
      · simp only [process_pending, hround] at hrun
        by_cases hkey : r.key = b.key
        · exact ⟨⟨r.key, result⟩, process_pending_trace hrun (by simp), hkey, hresult⟩
        · refine ih h hb hraises ?_ hrun
          simpa [sentBefore, hkey] using hunsent
      · simp only [process_pending, hround] at hrun
        have hkey : r.key ≠ b.key := by
          intro hkey
          obtain rfl := eq_of_key h.keys hmem hb hkey
          exact hsent (hunsent ▸ hraises)
        refine ih (hc.consistent h hmem (by simp [due_pending hrdue])) (hc.due_of_ne hb hdue hkey.symm)
          ((hc.raises p 0 b).2 hraises) ?_ hrun
        simpa [sentBefore, hkey] using hunsent

/-- When no due row is blocked, the loop attempts each of them once and ends. -/
theorem unblocked_attempted (h : Consistent s) (hfuel : (s.outbox.filter (·.due p.now)).length < fuel)
    (hfree : ∀ r ∈ s.outbox.filter (·.due p.now), ¬Blocked p s r ∧ ∀ v ∈ trace, v.key ≠ r.key) :
    ∃ s' new, process_pending p fuel trace (.idle s) = some (.idle s', trace ++ new) ∧
      (∀ v ∈ new, ∃ r ∈ s.outbox.filter (·.due p.now), v.key = r.key) ∧ s.attempts ⊆ s'.attempts ∧
      ∀ r ∈ s.outbox.filter (·.due p.now), ∃ o,
        new.filter (·.key = r.key) = [⟨r.key, .attempted o⟩] ∧
          ∃ a ∈ s'.attempts, a.tenant_id = r.tenant_id ∧ a.dispatch_identity = r.logical_dispatch_id ∧ a.outcome = o := by
  induction fuel generalizing s trace with
  | zero => exact absurd hfuel (Nat.not_lt_zero _)
  | succ fuel ih =>
    cases hr : oldestDue p.now s with
    | none =>
      have hnil := oldestDue_eq_none.1 hr
      refine ⟨s, [], ?_, by simp, List.Subset.refl _, by simp [hnil]⟩
      simp only [process_pending, dispatchOnce_none hr, List.append_nil]
    | some r =>
      obtain ⟨hmem, hrdue⟩ := oldestDue_mem hr
      have hrfree := hfree r (List.mem_filter.2 ⟨hmem, hrdue⟩)
      have hunsent : sentBefore trace r = 0 := by
        rw [sentBefore, List.countP_eq_zero]
        intro v hv hvr
        exact hrfree.2 v hv (of_decide_eq_true hvr).1
      rcases dispatchOnce_some h hr trace with ⟨result, -, -, hblocked⟩ | ⟨s₁, outcome, hround, hc, -, -⟩
      · rw [hunsent] at hblocked
        exact absurd hblocked hrfree.1
      · have hdue₁ := hc.due
        have hlt : (s₁.outbox.filter (·.due p.now)).length < (s.outbox.filter (·.due p.now)).length := by
          rw [hdue₁]
          exact List.length_filter_lt_length_iff_exists.2 ⟨r, List.mem_filter.2 ⟨hmem, hrdue⟩, by simp⟩
        have hrest : ∀ q ∈ s₁.outbox.filter (·.due p.now), ¬Blocked p s₁ q ∧
            ∀ v ∈ trace ++ [⟨r.key, .attempted outcome⟩], v.key ≠ q.key := by
          intro q hq
          rw [hdue₁, List.mem_filter] at hq
          obtain ⟨hq, hne⟩ := hq
          have hne : q.key ≠ r.key := by simpa using hne
          refine ⟨?_, ?_⟩
          · rw [Blocked, hc.withheld, hc.raises]
            exact (hfree q hq).1
          · intro v hv
            rw [List.mem_append, List.mem_singleton] at hv
            rcases hv with hv | rfl
            · exact (hfree q hq).2 v hv
            · exact hne.symm
        obtain ⟨s', new, hrun, hkeys, hattempts, hall⟩ :=
          ih (hc.consistent h hmem (by simp [due_pending hrdue])) (by omega) hrest
        obtain ⟨a, ha, hat, haid, hao⟩ := hc.attempts
        have hnew : ∀ v ∈ new, v.key ≠ r.key := by
          intro v hv heq
          obtain ⟨q, hq, hvq⟩ := hkeys v hv
          rw [hdue₁, List.mem_filter] at hq
          exact (of_decide_eq_true hq.2) (hvq.symm.trans heq)
        have hsubset : s.attempts ⊆ s'.attempts := by
          refine List.Subset.trans ?_ hattempts
          rw [ha]
          exact List.subset_append_left _ _
        refine ⟨s', ⟨r.key, .attempted outcome⟩ :: new, ?_, ?_, hsubset, ?_⟩
        · simp only [process_pending, hround, hrun, List.append_assoc, List.singleton_append]
        · intro v hv
          rcases List.mem_cons.1 hv with rfl | hv
          · exact ⟨r, List.mem_filter.2 ⟨hmem, hrdue⟩, rfl⟩
          · obtain ⟨q, hq, hvq⟩ := hkeys v hv
            rw [hdue₁, List.mem_filter] at hq
            exact ⟨q, hq.1, hvq⟩
        · intro q hq
          by_cases hkey : q.key = r.key
          · obtain rfl := eq_of_key h.keys (List.mem_filter.1 hq).1 hmem hkey
            refine ⟨outcome, ?_, a, hattempts (by simp [ha]), hat, haid, hao⟩
            rw [List.filter_cons_of_pos (by simp), List.filter_eq_nil_iff.2]
            exact fun v hv => by simpa using hnew v hv
          · obtain ⟨o, hfilter, hrecorded⟩ := hall q (by
              rw [hdue₁]
              exact List.mem_filter.2 ⟨hq, by simpa using hkey⟩)
            refine ⟨o, ?_, hrecorded⟩
            rw [List.filter_cons_of_neg (by simpa using Ne.symm hkey)]
            exact hfilter

/-- The pass ends, and it claims and attempts every due dispatch whose alert is not suppressed
exactly once. -/
def FairPass (p : Pass) (s : Store) : Prop :=
  ∃ fuel s' trace, process_pending p fuel [] (.idle s) = some (s', trace) ∧
    ∀ r ∈ s.outbox, r.due p.now = true → ¬Suppressed p.now s r → ∃ outcome,
      trace.filter (·.key = r.key) = [⟨r.key, .attempted outcome⟩] ∧
        ∃ a ∈ s'.committed.attempts,
          a.tenant_id = r.tenant_id ∧ a.dispatch_identity = r.logical_dispatch_id ∧ a.outcome = outcome

/-- **Key result**: a pass is fair exactly when no due row is blocked. -/
theorem dispatch_pass_fair_iff {s : Store} (h : Reachable s) (p : Pass) :
    FairPass p s ↔ ∀ r ∈ s.outbox, r.due p.now = true → ¬Blocked p s r := by
  constructor
  · rintro ⟨fuel, s', trace, hrun, hall⟩ r hr hdue hblocked
    by_cases hwithheld : Withheld p.now s r
    · simp [withheld_diverges h.consistent hr hdue hwithheld] at hrun
    · have hraises := hblocked.resolve_left hwithheld
      obtain ⟨v, hv, hkey, hresult⟩ := raising_visited h.consistent hr hdue hraises rfl hrun
      obtain ⟨o, hfilter, -⟩ := hall r hr hdue fun hsuppressed => hwithheld hsuppressed.2
      have hmem : v ∈ trace.filter (·.key = r.key) := List.mem_filter.2 ⟨hv, by simpa using hkey⟩
      rw [hfilter, List.mem_singleton] at hmem
      exact hresult o (congrArg Visit.result hmem)
  · intro hfree
    have hunvisited : ∀ r ∈ s.outbox.filter (·.due p.now), ¬Blocked p s r ∧ ∀ v ∈ ([] : List Visit), v.key ≠ r.key :=
      fun r hr => ⟨hfree r (List.mem_filter.1 hr).1 (List.mem_filter.1 hr).2, by simp⟩
    obtain ⟨s', new, hrun, -, -, hall⟩ := unblocked_attempted h.consistent (Nat.lt_succ_self _) hunvisited
    exact ⟨_, _, _, hrun, fun r hr hdue _ => hall r (List.mem_filter.2 ⟨hr, hdue⟩)⟩

/-! ### A snoozed alert in front -/

/-- Two intents of one tenant, the older one of a snoozed alert. -/
def snoozedFirst (snoozes : List AlertSnooze) : Store :=
  { create_intent 20 "t" "alert-2" "5511" .whatsapp_business "alert_notification"
      (create_intent 10 "t" "alert-1" "5511" .whatsapp_business "alert_notification" Store.empty) with
    alerts := [⟨"t", "alert-1", "src"⟩, ⟨"t", "alert-2", "src"⟩], windows := [], snoozes := snoozes }

/-- Adapters that accept every message. -/
def acceptingPass : Pass := ⟨30, fun _ _ => .reply (some "wamid") (some "200")⟩

theorem snoozedFirst_reachable (snoozes : List AlertSnooze) : Reachable (snoozedFirst snoozes) :=
  .surroundings _ _ _ (.create_intent _ _ _ _ _ _ (.create_intent _ _ _ _ _ _ .empty))

theorem dispatch_pass_fair_unsnoozed : FairPass acceptingPass (snoozedFirst []) :=
  (dispatch_pass_fair_iff (snoozedFirst_reachable []) acceptingPass).2 (by decide)

/-- The snoozed alert's dispatch is claimed for ever, and the one behind it is never attempted. -/
theorem dispatch_pass_not_fair_snoozed :
    Reachable (snoozedFirst [⟨"t", "alert-1", 90, none⟩]) ∧
      ¬FairPass acceptingPass (snoozedFirst [⟨"t", "alert-1", 90, none⟩]) := by
  refine ⟨snoozedFirst_reachable _, ?_⟩
  rintro ⟨fuel, s', trace, hrun, -⟩
  have hfirst : ∃ b ∈ (snoozedFirst [⟨"t", "alert-1", 90, none⟩]).outbox,
      b.due acceptingPass.now = true ∧
        Withheld acceptingPass.now (snoozedFirst [⟨"t", "alert-1", 90, none⟩]) b := by decide
  obtain ⟨b, hb, hdue, hwithheld⟩ := hfirst
  rw [withheld_diverges (snoozedFirst_reachable _).consistent hb hdue hwithheld] at hrun
  cases hrun

end JLMirror.Notification
