import JLMirror.Monitoring.ProblemReconciliation

/-!
# When a problem poll commits

The guards of `_persist_problems` and `_persist_recoveries` raise, and what raises is rolled
back: the next poll of the source meets the same rows, and the provider reports the same
evidence.

## The model

* `ProviderTimeline` is the provider's own history: when each event began, and when and by
  which event it recovered. A result is `Consistent` with it if it says nothing else.

## What is proved

* **Key result** (`problem_polling_commits_iff`): a claimed poll with a consistent result
  commits exactly if no event that it returns and no recovery that it reports meets a row
  that its guard refuses (`Admissible`).
* `problem_polling_wedged`: an event that was omitted by a complete snapshot and comes back,
  or is reported with recovery evidence, is refused in every later poll.
-/

namespace JLMirror.Monitoring

open JLMirror.Foundations

/-- The history of the events at the provider. -/
structure ProviderTimeline where
  /-- When an event began, in seconds. -/
  problemTime : EventId → Option ℤ
  /-- The event that recovered it, and when. -/
  recovery : EventId → Option (EventId × ℤ)

/-- The result, and the recoveries read with it, agree with the timeline. -/
structure Consistent (timeline : ProviderTimeline) (result : ProblemStateResult)
    (recoveries : List ZabbixRecoveryEvidence) : Prop where
  /-- An event is returned once. -/
  once : (result.problems.map ProblemObservation.provider_eventid).Nodup
  opened : ∀ o ∈ result.problems, timeline.problemTime o.provider_eventid = some o.opened_at_epoch_seconds
  recovered : ∀ ev ∈ recoveries, timeline.recovery ev.problem_eventid = some (ev.recovery_eventid, ev.clock)

/-- No guard refuses what the poll brings, given the rows before it. -/
structure Admissible (db : MonitoringDb) (claim : ProblemStateClaim) (result : ProblemStateResult)
    (raw_rows : List ZabbixProblemEvidence) (recoveries : List ZabbixRecoveryEvidence) : Prop where
  /-- The resource of a returned event is in scope, with current evidence. -/
  resources : ∀ o ∈ result.problems, ∀ t, trigger_by_event raw_rows o.provider_eventid = some t →
    db.resourceCurrent claim o.monitoring_resource_id = true
  /-- A returned event that is bound already is bound to the same resource and trigger, and its
  problem is not resolved. -/
  returned : ∀ o ∈ result.problems, ∀ t, trigger_by_event raw_rows o.provider_eventid = some t →
    ∀ b p, Bound db claim o.provider_eventid b p →
      b.monitoring_resource_id = o.monitoring_resource_id ∧ b.provider_trigger_ref = t ∧ p.status = .active
  /-- A resolved problem with recovery evidence was resolved at the clock of the evidence. -/
  recovered : ∀ ev ∈ recoveries, ∀ b p, Bound db claim ev.problem_eventid b p → ∀ r, p.status = .resolved r →
    r = fromtimestamp ev.clock

/-! ### When one event is refused -/

section Event

variable {current : String → Bool} {raw_rows : List ZabbixProblemEvidence}

/-- An observation passes its guards. -/
def Observable (current : String → Bool) (raw_rows : List ZabbixProblemEvidence) (c : Option Tracked)
    (o : ProblemObservation) : Prop :=
  ∀ t, trigger_by_event raw_rows o.provider_eventid = some t → current o.monitoring_resource_id = true ∧
    ∀ k, c = some k → k.monitoring_resource_id = o.monitoring_resource_id ∧ k.provider_trigger_ref = t ∧
      k.status = .active

/-- A recovery passes its guard. -/
def Recoverable (c : Option Tracked) (ev : ZabbixRecoveryEvidence) : Prop :=
  ∀ k, c = some k → ∀ r, k.status = .resolved r → r = fromtimestamp ev.clock

/-- An observation ends exactly if it passes, and then its event is as it was or was not resolved. -/
theorem observe_ends_iff (c : Option Tracked) (seen : Bool) (o : ProblemObservation) :
    (∃ c', observe current raw_rows (c, seen) o = .ok c') ↔ Observable current raw_rows c o := by
  unfold Observable observe
  cases ht : trigger_by_event raw_rows o.provider_eventid with
  | none => simp
  | some t =>
    cases hr : current o.monitoring_resource_id with
    | false => simp
    | true =>
      cases c with
      | none => simp
      | some k =>
        by_cases hcol : k.monitoring_resource_id ≠ o.monitoring_resource_id ∨ k.provider_trigger_ref ≠ t
        · simp only [reduceCtorEq, if_false, if_pos hcol, exists_const, false_iff]
          intro h
          obtain ⟨hrid, htr, -⟩ := (h t rfl).2 k rfl
          rcases hcol with hne | hne
          · exact hne hrid
          · exact hne htr
        · obtain ⟨hrid, htr⟩ := not_or.1 hcol
          simp only [reduceCtorEq, if_false, if_neg hcol]
          by_cases hact : k.status ≠ .active
          · simp only [if_pos hact, reduceCtorEq, exists_const, false_iff]
            exact fun h => hact ((h t rfl).2 k rfl).2.2
          · simp only [if_neg hact, Except.ok.injEq, exists_eq', true_iff]
            rintro t' ⟨⟩
            refine ⟨trivial, ?_⟩
            rintro k' ⟨⟩
            exact ⟨not_not.1 hrid, not_not.1 htr, not_not.1 hact⟩

/-- After an observation that passes, an event is resolved only if it was before, just so. -/
theorem observe_recoverable {c : Option Tracked} {seen : Bool} {o : ProblemObservation} {c' : Option Tracked × Bool}
    (h : observe current raw_rows (c, seen) o = .ok c') (ev : ZabbixRecoveryEvidence) :
    Recoverable c'.1 ev ↔ Recoverable c ev := by
  unfold observe at h
  split at h
  · rw [← Except.ok.inj h]
  · split_ifs at h
    split at h
    · rename_i hc
      rw [← Except.ok.inj h, show c = none from hc]
      simp [Recoverable]
    · rename_i k hc
      split_ifs at h with hcol hact
      rw [← Except.ok.inj h, show c = some k from hc]
      simp [Recoverable, not_not.1 hact]

/-- Recoveries of one clock end exactly if they pass. -/
theorem recover_ends_iff {l : List ZabbixRecoveryEvidence} {clock : ℤ} (hl : ∀ ev ∈ l, ev.clock = clock)
    (c : Option Tracked) : (∃ c', l.foldlM recover c = .ok c') ↔ ∀ ev ∈ l, Recoverable c ev := by
  induction l generalizing c with
  | nil => exact ⟨fun _ ev hev => absurd hev List.not_mem_nil, fun _ => ⟨c, foldlM_nil_ok.2 rfl⟩⟩
  | cons ev l ih =>
    have hev := hl ev List.mem_cons_self
    have ih := ih fun ev' h => hl ev' (List.mem_cons_of_mem ev h)
    have hall : ∀ c₁, recover c ev = .ok c₁ → ((∀ ev' ∈ l, Recoverable c₁ ev') ↔ ∀ ev' ∈ l, Recoverable c ev') := by
      intro c₁ h₁
      refine forall₂_congr fun ev' hev' => ?_
      have hclock : ev'.clock = ev.clock := (hl ev' (List.mem_cons_of_mem ev hev')).trans hev.symm
      unfold recover at h₁
      split at h₁
      · rw [← Except.ok.inj h₁]
      · rename_i k
        split at h₁
        · rename_i hst
          rw [← Except.ok.inj h₁]
          simp [Recoverable, hst, hclock]
        · rename_i r hst
          split_ifs at h₁
          rw [← Except.ok.inj h₁]
    have hone : (∃ c₁, recover c ev = .ok c₁) ↔ Recoverable c ev := by
      unfold recover Recoverable
      cases c with
      | none => simp
      | some k =>
        cases hst : k.status with
        | active => simp [hst]
        | resolved r =>
          by_cases hr : r = fromtimestamp ev.clock
          · simp [hst, hr]
          · simp [hst, hr]
    simp only [foldlM_cons_ok, List.forall_mem_cons]
    constructor
    · rintro ⟨c', c₁, h₁, hrest⟩
      exact ⟨hone.1 ⟨c₁, h₁⟩, (hall c₁ h₁).1 ((ih c₁).1 ⟨c', hrest⟩)⟩
    · rintro ⟨hc, hrest⟩
      obtain ⟨c₁, h₁⟩ := hone.2 hc
      obtain ⟨c', h'⟩ := (ih c₁).2 ((hall c₁ h₁).2 hrest)
      exact ⟨c', c₁, h₁, h'⟩

/-- An event gets through a consistent result exactly if its observation and its recoveries pass. -/
theorem reconcileEvent_ends_iff {now : Timestamp} {timeline : ProviderTimeline} {result : ProblemStateResult}
    {recoveries : List ZabbixRecoveryEvidence} (hcons : Consistent timeline result recoveries) (e : EventId)
    (c : Option Tracked) :
    (∃ c', reconcileEvent now current result raw_rows recoveries e c = .ok c') ↔
      (∀ o ∈ result.problems, o.provider_eventid = e → Observable current raw_rows c o) ∧
        ∀ ev ∈ recoveries, ev.problem_eventid = e → Recoverable c ev := by
  have hclock : ∃ clock, ∀ ev ∈ recoveries.filter (fun ev => ev.problem_eventid = e), ev.clock = clock := by
    cases ht : timeline.recovery e with
    | none =>
      refine ⟨0, fun ev hev => ?_⟩
      obtain ⟨hev, he⟩ := List.mem_filter.1 hev
      have := hcons.recovered ev hev
      rw [of_decide_eq_true he, ht] at this
      cases this
    | some r =>
      refine ⟨r.2, fun ev hev => ?_⟩
      obtain ⟨hev, he⟩ := List.mem_filter.1 hev
      have := hcons.recovered ev hev
      rw [of_decide_eq_true he, ht] at this
      rw [Option.some.inj this]
  obtain ⟨clock, hclock⟩ := hclock
  have hrec : ∀ c : Option Tracked, (∃ c', (recoveries.filter fun ev => ev.problem_eventid = e).foldlM recover c = .ok c') ↔
      ∀ ev ∈ recoveries, ev.problem_eventid = e → Recoverable c ev := by
    intro c
    rw [recover_ends_iff hclock]
    simp [List.mem_filter]
  have hends : (∃ c', reconcileEvent now current result raw_rows recoveries e c = .ok c') ↔
      ∃ c₁, (result.problems.filter fun o => o.provider_eventid = e).foldlM (observe current raw_rows) (c, false) = .ok c₁ ∧
        ∃ c₂, (recoveries.filter fun ev => ev.problem_eventid = e).foldlM recover c₁.1 = .ok c₂ := by
    constructor
    · rintro ⟨c', hok⟩
      obtain ⟨c₁, h₁, hok⟩ := bind_ok_iff.1 hok
      obtain ⟨c₂, h₂, -⟩ := bind_ok_iff.1 hok
      exact ⟨c₁, h₁, c₂, h₂⟩
    · rintro ⟨c₁, h₁, c₂, h₂⟩
      exact ⟨_, bind_ok_iff.2 ⟨c₁, h₁, bind_ok_iff.2 ⟨c₂, h₂, rfl⟩⟩⟩
  rw [hends]
  rcases filter_key_cases hcons.once e with hnil | ⟨o, ho, hoe, hone⟩
  · -- the event is not returned
    have hno : ∀ o ∈ result.problems, o.provider_eventid = e → Observable current raw_rows c o := fun o ho he =>
      absurd (decide_eq_true he) (List.filter_eq_nil_iff.1 hnil o ho)
    rw [hnil, ← hrec]
    constructor
    · rintro ⟨c₁, h₁, h₂⟩
      rw [foldlM_nil_ok.1 h₁] at h₂
      exact ⟨hno, h₂⟩
    · exact fun h => ⟨(c, false), foldlM_nil_ok.2 rfl, h.2⟩
  · have huniq : ∀ o' ∈ result.problems, o'.provider_eventid = e → o' = o := by
      intro o' ho' he
      have hmem : o' ∈ result.problems.filter fun o => o.provider_eventid = e :=
        List.mem_filter.2 ⟨ho', decide_eq_true he⟩
      rw [hone] at hmem
      exact List.mem_singleton.1 hmem
    have hobs : (∀ o' ∈ result.problems, o'.provider_eventid = e → Observable current raw_rows c o') ↔
        Observable current raw_rows c o :=
      ⟨fun h => h o ho hoe, fun h o' ho' he => huniq o' ho' he ▸ h⟩
    rw [hone, hobs, ← observe_ends_iff c false o]
    simp only [foldlM_cons_ok, foldlM_nil_ok]
    constructor
    · rintro ⟨c₁, ⟨c₀, h₀, rfl⟩, h₂⟩
      exact ⟨⟨_, h₀⟩, fun ev hev he => (observe_recoverable h₀ ev).1 ((hrec _).1 h₂ ev hev he)⟩
    · rintro ⟨⟨c₀, h₀⟩, h₂⟩
      exact ⟨c₀, ⟨c₀, h₀, rfl⟩, (hrec _).2 fun ev hev he => (observe_recoverable h₀ ev).2 (h₂ ev hev he)⟩

end Event

/-! ### When a poll is refused -/

/-- On sound tables, what is admissible can be checked event by event. -/
theorem admissible_iff {db : MonitoringDb} {claim : ProblemStateClaim} {result : ProblemStateResult}
    {raw_rows : List ZabbixProblemEvidence} {recoveries : List ZabbixRecoveryEvidence} (h : db.Sound) :
    Admissible db claim result raw_rows recoveries ↔
      ∀ e, (∀ o ∈ result.problems, o.provider_eventid = e →
          Observable (db.resourceCurrent claim) raw_rows (db.tracked claim e) o) ∧
        ∀ ev ∈ recoveries, ev.problem_eventid = e → Recoverable (db.tracked claim e) ev := by
  constructor
  · intro ha e
    refine ⟨?_, ?_⟩
    · rintro o ho rfl t ht
      refine ⟨ha.resources o ho t ht, fun k hk => ?_⟩
      rcases h.bound_or claim o.provider_eventid with ⟨b, p, hb⟩ | ⟨-, hnone, -⟩
      · rw [hb.tracked h] at hk
        rw [← Option.some.inj hk]
        exact ha.returned o ho t ht b p hb
      · rw [hnone] at hk
        cases hk
    · rintro ev hev rfl k hk r hr
      rcases h.bound_or claim ev.problem_eventid with ⟨b, p, hb⟩ | ⟨-, hnone, -⟩
      · rw [hb.tracked h] at hk
        rw [← Option.some.inj hk] at hr
        exact ha.recovered ev hev b p hb r hr
      · rw [hnone] at hk
        cases hk
  · intro hall
    refine ⟨fun o ho t ht => ?_, fun o ho t ht b p hb => ?_, fun ev hev b p hb r hr => ?_⟩
    · exact ((hall o.provider_eventid).1 o ho rfl t ht).1
    · exact ((hall o.provider_eventid).1 o ho rfl t ht).2 _ (hb.tracked h)
    · exact (hall ev.problem_eventid).2 ev hev rfl _ (hb.tracked h) r hr

/-- **Key result**: from the tables of any run, a completion whose fence holds, with a successful
result from a consistent timeline, commits exactly if the result is admissible. -/
theorem problem_polling_commits_iff (bridge : BridgeVersion) (run : List Action) (now : Timestamp)
    (claim : ProblemStateClaim) (timeline : ProviderTimeline) (result : ProblemStateResult)
    (raw_rows : List ZabbixProblemEvidence) (recoveries : List ZabbixRecoveryEvidence)
    (hfence : (MonitoringDb.exec bridge run).fence claim = true) (hsucc : result.succeeded = true)
    (hcons : Consistent timeline result recoveries) :
    (∃ db', complete_problem_state now claim result raw_rows recoveries (.exec bridge run) = .ok db') ↔
      Admissible (.exec bridge run) claim result raw_rows recoveries := by
  have h := exec_sound bridge run
  have hends : (∃ db', complete_problem_state now claim result raw_rows recoveries (.exec bridge run) = .ok db') ↔
      ∃ db', reconcile now claim result raw_rows recoveries (.exec bridge run) = .ok db' := by
    constructor
    · rintro ⟨db', hok⟩
      obtain ⟨db₁, hrec, -⟩ := (complete_tables hok).1 hsucc
      exact ⟨db₁, hrec⟩
    · rintro ⟨db₁, hrec⟩
      have happly : applyResult now claim result raw_rows recoveries (.exec bridge run) =
          .ok (recordSnapshot claim result recoveries db₁) := by
        rw [applyResult, if_pos hsucc]
        exact map_ok_iff.2 ⟨db₁, hrec, rfl⟩
      exact ⟨_, complete_ok.2 ⟨hfence, _, happly, rfl⟩⟩
  rw [hends, reconcile_ends_iff h, admissible_iff h]
  exact forall_congr' fun e => reconcileEvent_ends_iff hcons e _

theorem problem_polling_commits_first_poll :
    (∃ db', complete_problem_state 5 (pollClaim "op1" "t1" 1) (snapshotOf [diskFullProblem]) [⟨diskFull, "trigger"⟩] []
        (.exec .contractEnvelope [.surroundings (polledSource ["op1"]), .claim 5 "op1" "t1"]) = .ok db') ↔
      Admissible (.exec .contractEnvelope [.surroundings (polledSource ["op1"]), .claim 5 "op1" "t1"])
        (pollClaim "op1" "t1" 1) (snapshotOf [diskFullProblem]) [⟨diskFull, "trigger"⟩] [] := by
  have hcons : Consistent ⟨fun _ => some 1700000000, fun _ => none⟩ (snapshotOf [diskFullProblem]) [] := by
    constructor <;> simp [snapshotOf, diskFullProblem]
  exact problem_polling_commits_iff .contractEnvelope _ 5 _ _ _ _ _ (by decide) rfl hcons

/-! ### An event that leaves and comes back -/

/-- Three polls: the event is returned, then a complete snapshot omits it, then the third is claimed. -/
def omittedRun : List Action :=
  [.surroundings (polledSource ["op1", "op2", "op3", "op4"]), .claim 1700000100000000 "op1" "t1",
    .complete 1700000101000000 (pollClaim "op1" "t1" 1) (snapshotOf [diskFullProblem]) [⟨diskFull, "trigger"⟩] [],
    .claim 1700000200000000 "op2" "t2",
    .complete 1700000201000000 (pollClaim "op2" "t2" 2) (snapshotOf []) [] [],
    .claim 1700000300000000 "op3" "t3"]

/-- The recovery of the event at the provider. -/
def diskFullRecovery : ZabbixRecoveryEvidence := ⟨diskFull, ⟨"101", by decide⟩, 1700000150⟩

/-- The event began once and recovered once. -/
def diskFullTimeline : ProviderTimeline where
  problemTime _ := some 1700000000
  recovery _ := some (⟨"101", by decide⟩, 1700000150)

/-- Both the return of the event and its recovery evidence are refused in the third poll, and the
fourth poll is refused in the same way. -/
theorem problem_polling_wedged :
    (MonitoringDb.exec .contractEnvelope omittedRun).fence (pollClaim "op3" "t3" 3) = true ∧
    Consistent diskFullTimeline (snapshotOf [diskFullProblem]) [] ∧
    complete_problem_state 1700000301000000 (pollClaim "op3" "t3" 3) (snapshotOf [diskFullProblem])
        [⟨diskFull, "trigger"⟩] [] (.exec .contractEnvelope omittedRun) =
      .error "monitoring.problem_state_resolved_event_reappeared" ∧
    Consistent diskFullTimeline (snapshotOf []) [diskFullRecovery] ∧
    complete_problem_state 1700000301000000 (pollClaim "op3" "t3" 3) (snapshotOf []) [] [diskFullRecovery]
        (.exec .contractEnvelope omittedRun) =
      .error "monitoring.problem_state_conflicting_recovery_evidence" ∧
    complete_problem_state 1700000401000000 (pollClaim "op4" "t4" 4) (snapshotOf []) [] [diskFullRecovery]
        (.exec .contractEnvelope (omittedRun ++
          [.complete 1700000301000000 (pollClaim "op3" "t3" 3) (snapshotOf []) [] [diskFullRecovery],
            .claim 1700000400000000 "op4" "t4"])) =
      .error "monitoring.problem_state_conflicting_recovery_evidence" := by
  refine ⟨by decide, ?_, by decide, ?_, by decide, by decide⟩
  · constructor <;> simp [snapshotOf, diskFullProblem, diskFullTimeline]
  · constructor <;> simp [snapshotOf, diskFullRecovery, diskFullTimeline]

end JLMirror.Monitoring
