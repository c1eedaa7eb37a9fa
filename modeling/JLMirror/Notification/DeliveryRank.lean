import JLMirror.Notification.DispatchChain

/-!
# The rank of a delivery

"State rank is monotonic: stronger evidence may advance the projection but never rewrites attempts or invents strength."
The projection of an intent takes the outcome of the last attempt, or the strongest evidence where that is stronger.
Evidence comes in any order. An attempt comes after another one only if that one failed or its outcome is unknown, and
both have the lowest rank.

## The model

`Store.ranksOf` are the ranks of what is known of an intent, and `Store.projectedRank` is that of its stored row.

## What is proved

* `projection_rank`: the projection of the log has the highest of its ranks.
* **Key result** (`delivery_rank_monotone`): after every run the stored rank is the highest one of the log, and no step
  lowers it.
-/

namespace JLMirror.Notification

open JLMirror.Foundations JLMirror.Alerting

/-- The ranks of the attempts and of the evidence of an intent. -/
def Store.ranksOf (s : Store) (tenant_id : String) (intent_id : ℕ) : List ℕ :=
  (s.attemptsOf tenant_id intent_id).map (·.outcome.rank) ++
    (s.evidenceOf tenant_id intent_id).map (·.normalized_state.rank)

/-- The rank of the stored row, if there is one. -/
def Store.projectedRank (s : Store) (tenant_id : String) (intent_id : ℕ) : Option ℕ :=
  (s.stored tenant_id intent_id).map (·.current_state.rank)

section Rank

variable {s : Store} {tenant_id : String} {intent_id : ℕ}

variable {a : NotificationAttempt}

theorem rank_of_failing (h : a.failing) : a.outcome.rank = 0 := by
  rcases h with h | h <;> rw [h] <;> rfl

variable {rows : List DispatchRow} {attempts : List NotificationAttempt}

/-- The last attempt has the highest rank of the attempts. -/
theorem Chain.rank_le (h : Chain intent_id rows attempts) {last : NotificationAttempt}
    (hlast : last ∈ attempts.argmax (·.attempt_number)) (ha : a ∈ attempts) : a.outcome.rank ≤ last.outcome.rank := by
  have hle : a.attempt_number ≤ last.attempt_number := List.le_of_mem_argmax ha hlast
  rcases hle.lt_or_eq with hlt | heq
  · have hnext : a.attempt_number < rows.length := by
      have hnumber := (h.attempt_number (List.argmax_mem hlast)).2
      have hlengths := h.lengths.1
      omega
    rw [rank_of_failing ((h.retried a ha).1 hnext).1]
    exact Nat.zero_le _
  · obtain rfl := eq_of_key h.attempts_nodup ha (List.argmax_mem hlast) heq
    exact le_rfl

/-- The outcome that the projection reads. -/
def attemptState (attempts : List NotificationAttempt) : DeliveryState :=
  ((attempts.argmax (·.attempt_number)).map (·.outcome)).getD .dispatching

/-- The stronger one of the two. -/
def strongest (state : DeliveryState) : Option DeliveryState → DeliveryState
  | none => state
  | some best => if state.rank < best.rank then best else state

theorem current_state_eq : (projectionOf tenant_id intent_id s).current_state =
    strongest (attemptState (s.attemptsOf tenant_id intent_id))
      (bestEvidence ((s.evidenceOf tenant_id intent_id).map (·.normalized_state))) := by
  unfold projectionOf strongest
  rfl

theorem attemptState_rank (h : Chain intent_id rows attempts) (ha : a ∈ attempts) :
    a.outcome.rank ≤ (attemptState attempts).rank ∧ (attemptState attempts).rank ∈ attempts.map (·.outcome.rank) := by
  obtain ⟨last, hlast⟩ : ∃ last, attempts.argmax (·.attempt_number) = some last := by
    refine Option.ne_none_iff_exists'.1 fun hnone => ?_
    exact List.ne_nil_of_mem ha (List.argmax_eq_none.1 hnone)
  rw [attemptState, hlast]
  exact ⟨h.rank_le hlast ha, List.mem_map_of_mem (List.argmax_mem hlast)⟩

theorem strongest_rank (state best : DeliveryState) : (strongest state (some best)).rank = max state.rank best.rank := by
  dsimp only [strongest]
  split_ifs with h
  · exact (max_eq_right h.le).symm
  · exact (max_eq_left (not_lt.1 h)).symm

/-- The projection of the log has the highest rank. -/
theorem projection_rank (h : Chain intent_id (s.rowsOf tenant_id intent_id) (s.attemptsOf tenant_id intent_id))
    (hlogged : s.Logged tenant_id intent_id) :
    (s.ranksOf tenant_id intent_id).max? = some (projectionOf tenant_id intent_id s).current_state.rank := by
  rw [current_state_eq, List.max?_eq_some_iff, Store.ranksOf]
  cases hbest : bestEvidence ((s.evidenceOf tenant_id intent_id).map (·.normalized_state)) with
  | none =>
    have hnil : s.evidenceOf tenant_id intent_id = [] := List.map_eq_nil_iff.1 (List.argmax_eq_none.1 hbest)
    obtain ⟨a, ha⟩ := List.exists_mem_of_ne_nil _ (hlogged.resolve_right fun hne => hne hnil)
    rw [hnil, List.map_nil, List.append_nil]
    refine ⟨(attemptState_rank h ha).2, fun rank hrank => ?_⟩
    obtain ⟨b, hb, rfl⟩ := List.mem_map.1 hrank
    exact (attemptState_rank h hb).1
  | some best =>
    obtain ⟨e, he, rfl⟩ := List.mem_map.1 (List.argmax_mem hbest)
    have hevidence : ∀ e' ∈ s.evidenceOf tenant_id intent_id, e'.normalized_state.rank ≤ e.normalized_state.rank :=
      fun e' he' => List.le_of_mem_argmax (List.mem_map_of_mem he') hbest
    have hmem : e.normalized_state.rank ∈ (s.evidenceOf tenant_id intent_id).map (·.normalized_state.rank) :=
      List.mem_map_of_mem he
    rw [strongest_rank]
    constructor
    · by_cases hnone : s.attemptsOf tenant_id intent_id = []
      · rw [hnone]
        exact (max_eq_right (Nat.zero_le _)).symm ▸ hmem
      · obtain ⟨a, ha⟩ := List.exists_mem_of_ne_nil _ hnone
        rcases max_choice (attemptState (s.attemptsOf tenant_id intent_id)).rank e.normalized_state.rank with hmax | hmax
        · rw [hmax]
          exact List.mem_append_left _ (attemptState_rank h ha).2
        · rw [hmax]
          exact List.mem_append_right _ hmem
    · intro rank hrank
      rcases List.mem_append.1 hrank with hrank | hrank
      · obtain ⟨b, hb, rfl⟩ := List.mem_map.1 hrank
        exact (attemptState_rank h hb).1.trans (le_max_left _ _)
      · obtain ⟨e', he', rfl⟩ := List.mem_map.1 hrank
        exact (hevidence e' he').trans (le_max_right _ _)

end Rank

/-! ### The runs -/

/-- The rows of a run are those of the log. -/
theorem replayed_deliveries (run : List DispatchAction) : Replayed (Deliveries.exec run).store := by
  induction run using List.reverseRecOn with
  | nil => exact Replayed.empty
  | append_singleton run a ih =>
    rw [Deliveries.exec, List.foldl_append]
    change Replayed ((Deliveries.exec run).step a).store
    cases a with
    | create now tenant_id alert_id destination_ref channel_class payload_ref => exact ih.of_eq rfl rfl rfl
    | claim now =>
      dsimp only [Deliveries.step]
      split
      · exact ih
      · exact ih.of_eq rfl rfl rfl
    | complete now n outcome ref failure =>
      dsimp only [Deliveries.step, Deliveries.complete]
      split
      · exact ih
      · split_ifs
        · exact ih
        · split
          · rename_i hs
            exact ih.complete_dispatch hs
          · exact ih
    | evidence now tenant_id intent_id state callback ref => exact ih.record_evidence now state callback ref

/-- A step only appends to the log. -/
theorem log_step (s : Deliveries) (a : DispatchAction) :
    s.store.attempts <+: (s.step a).store.attempts ∧ s.store.evidence <+: (s.step a).store.evidence := by
  cases a with
  | create now tenant_id alert_id destination_ref channel_class payload_ref => exact ⟨List.prefix_rfl, List.prefix_rfl⟩
  | claim now =>
    dsimp only [Deliveries.step]
    split <;> exact ⟨List.prefix_rfl, List.prefix_rfl⟩
  | complete now n outcome ref failure =>
    dsimp only [Deliveries.step, Deliveries.complete]
    split
    · exact ⟨List.prefix_rfl, List.prefix_rfl⟩
    · split_ifs
      · exact ⟨List.prefix_rfl, List.prefix_rfl⟩
      · split
        · rename_i hs
          obtain ⟨-, hattempts, hevidence, -⟩ := complete_dispatch_ok hs
          exact ⟨⟨_, hattempts.symm⟩, ⟨[], by rw [hevidence, List.append_nil]⟩⟩
        · exact ⟨List.prefix_rfl, List.prefix_rfl⟩
  | evidence now tenant_id intent_id state callback ref =>
    dsimp only [Deliveries.step, record_evidence]
    split_ifs
    · exact ⟨List.prefix_rfl, List.prefix_rfl⟩
    · obtain ⟨rows, hrows⟩ := recompute_projection_eq tenant_id intent_id { s.store with
        evidence := s.store.evidence ++ [⟨tenant_id, s.store.nextToken, intent_id, state, callback, ref, now⟩]
        nextToken := s.store.nextToken + 1 }
      rw [hrows]
      exact ⟨List.prefix_rfl, List.prefix_append _ _⟩

theorem ranks_step (s : Deliveries) (a : DispatchAction) {tenant_id : String} {intent_id rank : ℕ}
    (h : rank ∈ s.store.ranksOf tenant_id intent_id) : rank ∈ (s.step a).store.ranksOf tenant_id intent_id := by
  obtain ⟨hattempts, hevidence⟩ := log_step s a
  rcases List.mem_append.1 h with h | h
  · exact List.mem_append_left _ (((hattempts.sublist.filter _).map _).subset h)
  · exact List.mem_append_right _ (((hevidence.sublist.filter _).map _).subset h)

/-- The stored rank is the highest one of the log. -/
theorem projectedRank_exec (run : List DispatchAction) (tenant_id : String) (intent_id : ℕ) :
    (Deliveries.exec run).store.projectedRank tenant_id intent_id =
      ((Deliveries.exec run).store.ranksOf tenant_id intent_id).max? := by
  have hreplayed := replayed_deliveries run
  rw [Store.projectedRank]
  by_cases hlogged : (Deliveries.exec run).store.Logged tenant_id intent_id
  · rw [hreplayed.logged _ _ hlogged, projection_rank ((chained_exec run).chain tenant_id intent_id) hlogged]
    rfl
  · rw [hreplayed.unlogged _ _ hlogged]
    have hnone : (Deliveries.exec run).store.ranksOf tenant_id intent_id = [] := by
      rw [Store.Logged, not_or, not_not, not_not] at hlogged
      rw [Store.ranksOf, hlogged.1, hlogged.2]
      rfl
    rw [hnone]
    rfl

/-- **Key result**: the stored rank of an intent is the highest one of its log, and no step lowers it. -/
theorem delivery_rank_monotone (run : List DispatchAction) (tenant_id : String) (intent_id : ℕ) :
    (Deliveries.exec run).store.projectedRank tenant_id intent_id =
      ((Deliveries.exec run).store.ranksOf tenant_id intent_id).max? ∧
    ∀ a, ∀ rank ∈ (Deliveries.exec run).store.projectedRank tenant_id intent_id,
      ∃ rank' ∈ (Deliveries.exec (run ++ [a])).store.projectedRank tenant_id intent_id, rank ≤ rank' := by
  refine ⟨projectedRank_exec run tenant_id intent_id, fun a rank hrank => ?_⟩
  rw [projectedRank_exec] at hrank ⊢
  have hmem : rank ∈ (Deliveries.exec (run ++ [a])).store.ranksOf tenant_id intent_id := by
    rw [Deliveries.exec, List.foldl_append]
    exact ranks_step _ a (List.max?_mem hrank)
  obtain ⟨rank', hrank'⟩ := Option.isSome_iff_exists.1 (List.isSome_max?_of_mem hmem)
  exact ⟨rank', hrank', (List.max?_eq_some_iff.1 hrank').2 rank hmem⟩

end JLMirror.Notification
