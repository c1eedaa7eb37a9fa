import JLMirror.Foundations.Fold
import JLMirror.Notification.Delivery

/-!
# Rebuilding the delivery projection

"Derived delivery projection — recomputable from intent+attempt+evidence" (`004_g9_notification.sql`). Each write to
the log of an intent recomputes its row. The times of delivery and of the read are the exception: what the row
has is kept, and the log is only asked while it has nothing.

## The model

* A run of `DeliveryAction`s: the intents, the claims, the dispatch completions and the evidence, of any intents and at
  any times.
* `rebuilt` is what `_recompute_projection` writes when the row of the intent is lost.

## What is proved

* `stored_exec`: what the stored row is. Its times are those of the evidence recorded first.
* **Key result** (`recomputable_iff`): the stored row is the rebuilt one, the revision aside, if and only if the
  delivery that was recorded first is the earliest one, and the read that was recorded first is the latest one.
* `secondRead_differs`: a second read is enough.

## Honest scope

The transactions are one after the other.
-/

namespace JLMirror.Notification

open JLMirror.Foundations JLMirror.Alerting

/-! ### The log and the row of an intent -/

/-- What is written about intents, each in a transaction of its own. -/
inductive DeliveryAction where
  | create (now : ℕ) (tenant_id alert_id destination_ref : String) (channel_class : ChannelClass) (payload_ref : String)
  | claim (row : DispatchRow)
  | complete (now : ℕ) (tenant_id : String) (dispatch_id claim_token intent_id attempt_number : ℕ)
      (logical_dispatch_id : LogicalDispatchId) (outcome : DeliveryState)
      (provider_message_ref failure_class : Option String)
  | evidence (now : ℕ) (tenant_id : String) (intent_id : ℕ) (normalized_state : DeliveryState)
      (provider_callback_id provider_message_ref : Option String)

/-- The tables after an action; one that raises is rolled back. -/
def Store.step (s : Store) : DeliveryAction → Store
  | .create now tenant_id alert_id destination_ref channel_class payload_ref =>
    create_intent now tenant_id alert_id destination_ref channel_class payload_ref s
  | .claim row => claim_dispatch row s
  | .complete now tenant_id dispatch_id claim_token intent_id attempt_number logical_dispatch_id outcome ref failure =>
    match complete_dispatch now tenant_id dispatch_id claim_token intent_id attempt_number logical_dispatch_id outcome
      ref failure s with
    | .ok s' => s'
    | .error _ => s
  | .evidence now tenant_id intent_id state callback ref => record_evidence now tenant_id intent_id state callback ref s

/-- The tables after a run. -/
def Store.exec (run : List DeliveryAction) : Store := run.foldl Store.step .empty

/-- The attempts of an intent. -/
def Store.attemptsOf (s : Store) (tenant_id : String) (intent_id : ℕ) : List NotificationAttempt :=
  s.attempts.filter fun a => a.tenant_id = tenant_id ∧ a.notification_intent_id = intent_id

/-- The evidence of an intent, in the order in which it was recorded. -/
def Store.evidenceOf (s : Store) (tenant_id : String) (intent_id : ℕ) : List ProviderEvidence :=
  s.evidence.filter fun e => e.tenant_id = tenant_id ∧ e.notification_intent_id = intent_id

/-- Something is known of the intent beside that it was made. -/
def Store.Logged (s : Store) (tenant_id : String) (intent_id : ℕ) : Prop :=
  s.attemptsOf tenant_id intent_id ≠ [] ∨ s.evidenceOf tenant_id intent_id ≠ []

/-- When a state was observed of the intent. -/
def Store.observedAt (s : Store) (tenant_id : String) (intent_id : ℕ) (state : DeliveryState) : List ℕ :=
  ((s.evidenceOf tenant_id intent_id).filter (·.normalized_state = state)).map (·.observed_at)

/-- The row of an intent. -/
def NotificationProjection.is (tenant_id : String) (intent_id : ℕ) (p : NotificationProjection) : Bool :=
  p.tenant_id = tenant_id ∧ p.notification_intent_id = intent_id

/-- A row without its revision. -/
def NotificationProjection.content (p : NotificationProjection) : NotificationProjection :=
  { p with projection_revision := 1 }

/-- What is stored of an intent, without the revision. -/
def Store.stored (s : Store) (tenant_id : String) (intent_id : ℕ) : Option NotificationProjection :=
  (s.projections.find? (·.is tenant_id intent_id)).map (·.content)

/-- The row of the intent is lost. -/
def Store.lose (s : Store) (tenant_id : String) (intent_id : ℕ) : Store :=
  { s with projections := s.projections.filter fun p => !p.is tenant_id intent_id }

/-- What is stored of the intent when its lost row is rebuilt. -/
def Store.rebuilt (s : Store) (tenant_id : String) (intent_id : ℕ) : Option NotificationProjection :=
  (_recompute_projection tenant_id intent_id (s.lose tenant_id intent_id)).stored tenant_id intent_id

/-- A row that is lost can be rebuilt from the log. -/
def Recomputable (s : Store) (tenant_id : String) (intent_id : ℕ) : Prop :=
  s.Logged tenant_id intent_id → s.stored tenant_id intent_id = s.rebuilt tenant_id intent_id

/-- The first delivery on record is the earliest, and the first read on record the latest. -/
structure FirstsExtremal (s : Store) (tenant_id : String) (intent_id : ℕ) : Prop where
  delivered : ∀ t ∈ (s.observedAt tenant_id intent_id .delivered).head?,
    ∀ t' ∈ s.observedAt tenant_id intent_id .delivered, t ≤ t'
  read : ∀ t ∈ (s.observedAt tenant_id intent_id .external_read_observed).head?,
    ∀ t' ∈ s.observedAt tenant_id intent_id .external_read_observed, t' ≤ t

/-! ### What a rebuild writes -/

section Rebuild

variable {s s' : Store} {tenant_id tenant_id' : String} {intent_id intent_id' : ℕ}

theorem projectionOf_congr (hattempts : s'.attemptsOf tenant_id intent_id = s.attemptsOf tenant_id intent_id)
    (hevidence : s'.evidenceOf tenant_id intent_id = s.evidenceOf tenant_id intent_id) :
    projectionOf tenant_id intent_id s' = projectionOf tenant_id intent_id s := by
  unfold Store.attemptsOf at hattempts
  unfold Store.evidenceOf at hevidence
  unfold projectionOf
  rw [hattempts, hevidence]

theorem projection_of_is {p : NotificationProjection} (h : p.is tenant_id intent_id = true) :
    p.tenant_id = tenant_id ∧ p.notification_intent_id = intent_id := of_decide_eq_true h

/-- The row that is written over a row. -/
def NotificationProjection.over (new old : NotificationProjection) : NotificationProjection :=
  { new with
    delivered_at := old.delivered_at.or new.delivered_at
    external_read_observed_at := old.external_read_observed_at.or new.external_read_observed_at
    projection_revision := old.projection_revision + 1 }

theorem recompute_projections (s : Store) (tenant_id : String) (intent_id : ℕ) :
    (_recompute_projection tenant_id intent_id s).projections =
      if s.projections.any (·.is tenant_id intent_id) then
        updateWhere (·.is tenant_id intent_id) (projectionOf tenant_id intent_id s).over s.projections
      else s.projections ++ [projectionOf tenant_id intent_id s] :=
  apply_ite Store.projections _ _ _

/-- What is stored after a rebuild: the times that were there, or those of the log. -/
theorem stored_recompute (s : Store) (tenant_id : String) (intent_id : ℕ) :
    (_recompute_projection tenant_id intent_id s).stored tenant_id intent_id =
      some { projectionOf tenant_id intent_id s with
        delivered_at := ((s.stored tenant_id intent_id).bind (·.delivered_at)).or
          (projectionOf tenant_id intent_id s).delivered_at
        external_read_observed_at := ((s.stored tenant_id intent_id).bind (·.external_read_observed_at)).or
          (projectionOf tenant_id intent_id s).external_read_observed_at } := by
  have hnew : (projectionOf tenant_id intent_id s).is tenant_id intent_id = true := decide_eq_true ⟨rfl, rfl⟩
  rw [Store.stored, Store.stored, recompute_projections]
  split_ifs with hany
  · obtain ⟨p, hp⟩ : ∃ p, s.projections.find? (·.is tenant_id intent_id) = some p :=
      Option.isSome_iff_exists.1 (List.find?_isSome.2 (List.any_eq_true.1 hany))
    have his : p.is tenant_id intent_id = true := List.find?_some hp
    have hover : ∀ old, ((projectionOf tenant_id intent_id s).over old).is tenant_id intent_id = true := fun _ => hnew
    rw [find?_updateWhere fun r hr => (hover r).trans hr.symm, hp, Option.map_some, if_pos his]
    rfl
  · have hnone : s.projections.find? (·.is tenant_id intent_id) = none :=
      List.find?_eq_none.2 fun p hp his => hany (List.any_eq_true.2 ⟨p, hp, his⟩)
    rw [List.find?_append, hnone, Option.none_or, List.find?_cons_of_pos hnew]
    rfl

/-- The rows of the other intents stay. -/
theorem stored_recompute_of_ne (hne : ¬(tenant_id' = tenant_id ∧ intent_id' = intent_id)) :
    (_recompute_projection tenant_id intent_id s).stored tenant_id' intent_id' = s.stored tenant_id' intent_id' := by
  have hnew : (projectionOf tenant_id intent_id s).is tenant_id' intent_id' = false :=
    decide_eq_false fun h => hne ⟨h.1.symm, h.2.symm⟩
  have hnot : ∀ p : NotificationProjection, p.is tenant_id intent_id = true → p.is tenant_id' intent_id' = false := by
    intro p his
    obtain ⟨rfl, rfl⟩ := projection_of_is his
    exact hnew
  rw [Store.stored, Store.stored, recompute_projections]
  split_ifs with hany
  · have hover : ∀ old, ((projectionOf tenant_id intent_id s).over old).is tenant_id' intent_id' = false := fun _ => hnew
    rw [find?_updateWhere fun r hr => (hover r).trans (hnot r hr).symm]
    cases hp : s.projections.find? (·.is tenant_id' intent_id') with
    | none => rfl
    | some p =>
      have his : p.is tenant_id' intent_id' = true := List.find?_some hp
      rw [Option.map_some, if_neg fun h => by simp [hnot p h] at his]
  · rw [List.find?_append, List.find?_cons_of_neg (by simp [hnew]), List.find?_nil, Option.or_none]

theorem rebuilt_eq (s : Store) (tenant_id : String) (intent_id : ℕ) :
    s.rebuilt tenant_id intent_id = some (projectionOf tenant_id intent_id s) := by
  have hnone : (s.lose tenant_id intent_id).stored tenant_id intent_id = none := by
    rw [Store.stored, Option.map_eq_none_iff, List.find?_eq_none]
    intro p hp
    simpa using (List.mem_filter.1 hp).2
  rw [Store.rebuilt, stored_recompute, hnone]
  rfl

end Rebuild

/-! ### First, earliest and latest -/

section Times

variable {l l' : List ℕ}

theorem head_or_min (h : l'.length ≤ 1) : l.head?.or (l ++ l').min? = (l ++ l').head? := by
  cases l with
  | cons t l => rfl
  | nil =>
    rcases l' with _ | ⟨t, _ | ⟨t', l'⟩⟩
    · rfl
    · rfl
    · simp at h

theorem head_or_max (h : l'.length ≤ 1) : l.head?.or (l ++ l').max? = (l ++ l').head? := by
  cases l with
  | cons t l => rfl
  | nil =>
    rcases l' with _ | ⟨t, _ | ⟨t', l'⟩⟩
    · rfl
    · rfl
    · simp at h

theorem head_eq_min_iff : l.head? = l.min? ↔ ∀ t ∈ l.head?, ∀ t' ∈ l, t ≤ t' := by
  cases l with
  | nil => simp
  | cons t l =>
    rw [List.head?_cons, eq_comm, List.min?_eq_some_iff]
    simp

theorem head_eq_max_iff : l.head? = l.max? ↔ ∀ t ∈ l.head?, ∀ t' ∈ l, t' ≤ t := by
  cases l with
  | nil => simp
  | cons t l =>
    rw [List.head?_cons, eq_comm, List.max?_eq_some_iff]
    simp

end Times

/-! ### What is stored -/

/-- The projection of the log, with the times that were recorded first. -/
def Store.firsts (s : Store) (tenant_id : String) (intent_id : ℕ) : NotificationProjection :=
  { projectionOf tenant_id intent_id s with
    delivered_at := (s.observedAt tenant_id intent_id .delivered).head?
    external_read_observed_at := (s.observedAt tenant_id intent_id .external_read_observed).head? }

/-- What is stored is the projection of the log, with the times that were recorded first. -/
structure Replayed (s : Store) : Prop where
  logged : ∀ tenant_id intent_id, s.Logged tenant_id intent_id →
    s.stored tenant_id intent_id = some (s.firsts tenant_id intent_id)
  unlogged : ∀ tenant_id intent_id, ¬s.Logged tenant_id intent_id → s.stored tenant_id intent_id = none

section Replay

variable {s s' : Store} {tenant_id : String} {intent_id : ℕ}

theorem firsts_congr (hattempts : s'.attemptsOf tenant_id intent_id = s.attemptsOf tenant_id intent_id)
    (hevidence : s'.evidenceOf tenant_id intent_id = s.evidenceOf tenant_id intent_id) :
    s'.firsts tenant_id intent_id = s.firsts tenant_id intent_id := by
  rw [Store.firsts, projectionOf_congr hattempts hevidence, Store.observedAt, Store.observedAt, hevidence]
  rfl

theorem Replayed.empty : Replayed .empty :=
  ⟨fun _ _ h => by simp [Store.Logged, Store.attemptsOf, Store.evidenceOf, Store.empty] at h, fun _ _ _ => rfl⟩

theorem Replayed.of_eq (h : Replayed s) (hattempts : s'.attempts = s.attempts) (hevidence : s'.evidence = s.evidence)
    (hprojections : s'.projections = s.projections) : Replayed s' := by
  obtain ⟨intents, outbox, attempts, evidence, projections, refBindings, alerts, windows, snoozes, nextToken⟩ := s'
  obtain rfl : attempts = s.attempts := hattempts
  obtain rfl : evidence = s.evidence := hevidence
  obtain rfl : projections = s.projections := hprojections
  exact ⟨h.logged, h.unlogged⟩

/-- The times that are stored. -/
theorem Replayed.times (h : Replayed s) (tenant_id : String) (intent_id : ℕ) :
    (s.stored tenant_id intent_id).bind (·.delivered_at) = (s.observedAt tenant_id intent_id .delivered).head? ∧
      (s.stored tenant_id intent_id).bind (·.external_read_observed_at) =
        (s.observedAt tenant_id intent_id .external_read_observed).head? := by
  by_cases hlogged : s.Logged tenant_id intent_id
  · rw [h.logged _ _ hlogged]
    exact ⟨rfl, rfl⟩
  · have hnil : s.evidenceOf tenant_id intent_id = [] := of_not_not fun hne => hlogged (Or.inr hne)
    rw [h.unlogged _ _ hlogged, Store.observedAt, Store.observedAt, hnil]
    exact ⟨rfl, rfl⟩

/-- A recompute after an entry in the log of its intent. -/
theorem Replayed.recompute (h : Replayed s) (hprojections : s'.projections = s.projections)
    (hothers : ∀ tenant_id' intent_id', ¬(tenant_id' = tenant_id ∧ intent_id' = intent_id) →
      s'.attemptsOf tenant_id' intent_id' = s.attemptsOf tenant_id' intent_id' ∧
        s'.evidenceOf tenant_id' intent_id' = s.evidenceOf tenant_id' intent_id')
    (hlogged : s'.Logged tenant_id intent_id)
    (hgrown : ∀ state, ∃ l : List ℕ, l.length ≤ 1 ∧
      s'.observedAt tenant_id intent_id state = s.observedAt tenant_id intent_id state ++ l) :
    Replayed (_recompute_projection tenant_id intent_id s') := by
  obtain ⟨rows, hrows⟩ := recompute_projection_eq tenant_id intent_id s'
  have hstored : ∀ tenant_id intent_id, s'.stored tenant_id intent_id = s.stored tenant_id intent_id := fun _ _ => by
    rw [Store.stored, hprojections, Store.stored]
  have hfirsts : (_recompute_projection tenant_id intent_id s').stored tenant_id intent_id =
      some (s'.firsts tenant_id intent_id) := by
    obtain ⟨hdelivered, hread⟩ := h.times tenant_id intent_id
    rw [stored_recompute, hstored, hdelivered, hread]
    obtain ⟨l, hl, hgrown₁⟩ := hgrown .delivered
    obtain ⟨l', hl', hgrown₂⟩ := hgrown .external_read_observed
    have hmin : (projectionOf tenant_id intent_id s').delivered_at =
      (s'.observedAt tenant_id intent_id .delivered).min? := rfl
    have hmax : (projectionOf tenant_id intent_id s').external_read_observed_at =
      (s'.observedAt tenant_id intent_id .external_read_observed).max? := rfl
    rw [hmin, hmax, hgrown₁, hgrown₂, head_or_min hl, head_or_max hl', ← hgrown₁, ← hgrown₂]
    rfl
  have hother : ∀ tenant_id' intent_id', ¬(tenant_id' = tenant_id ∧ intent_id' = intent_id) →
      (_recompute_projection tenant_id intent_id s').stored tenant_id' intent_id' = s.stored tenant_id' intent_id' :=
    fun _ _ hne => (stored_recompute_of_ne hne).trans (hstored _ _)
  constructor
  · intro tenant_id' intent_id' hlogged'
    by_cases heq : tenant_id' = tenant_id ∧ intent_id' = intent_id
    · obtain ⟨rfl, rfl⟩ := heq
      rw [hfirsts, hrows]
      rfl
    · obtain ⟨hattempts, hevidence⟩ := hothers _ _ heq
      rw [hrows] at hlogged'
      rw [hother _ _ heq, h.logged _ _ (by rwa [Store.Logged, ← hattempts, ← hevidence]), hrows]
      exact congrArg some (firsts_congr hattempts hevidence).symm
  · intro tenant_id' intent_id' hlogged'
    rw [hrows] at hlogged'
    by_cases heq : tenant_id' = tenant_id ∧ intent_id' = intent_id
    · obtain ⟨rfl, rfl⟩ := heq
      exact absurd hlogged hlogged'
    · obtain ⟨hattempts, hevidence⟩ := hothers _ _ heq
      rw [hother _ _ heq, h.unlogged _ _ (by rwa [Store.Logged, ← hattempts, ← hevidence])]

theorem filter_append_of_not {α : Type} {p : α → Bool} {l : List α} {a : α} (h : p a = false) :
    (l ++ [a]).filter p = l.filter p := by
  rw [List.filter_append, List.filter_cons_of_neg (by simp [h]), List.filter_nil, List.append_nil]

/-- An attempt, and the recompute behind it. -/
theorem Replayed.complete_dispatch (h : Replayed s) {now dispatch_id claim_token attempt_number : ℕ}
    {logical_dispatch_id : LogicalDispatchId} {outcome : DeliveryState} {ref failure : Option String}
    (hs : Notification.complete_dispatch now tenant_id dispatch_id claim_token intent_id attempt_number
      logical_dispatch_id outcome ref failure s = .ok s') : Replayed s' := by
  obtain ⟨s₁, hinsert, hretry⟩ := bind_ok_iff.1 hs
  simp only [insertAttempt] at hinsert
  split_ifs at hinsert
  obtain rfl := Except.ok.inj hinsert
  obtain ⟨refs, hrefs⟩ := bindProviderRef_eq tenant_id intent_id
    { s with
      attempts := s.attempts ++ [⟨tenant_id, s.nextToken, intent_id, attempt_number, outcome, ref, failure,
        logical_dispatch_id, now⟩]
      nextToken := s.nextToken + 1 } (ref.getD "")
  rw [hrefs] at hretry
  have hreplayed : Replayed (_recompute_projection tenant_id intent_id
      (finishRow tenant_id dispatch_id claim_token { s with
        attempts := s.attempts ++ [⟨tenant_id, s.nextToken, intent_id, attempt_number, outcome, ref, failure,
          logical_dispatch_id, now⟩]
        nextToken := s.nextToken + 1
        refBindings := refs })) := by
    refine h.recompute rfl (fun tenant_id' intent_id' hne => ⟨?_, rfl⟩) (Or.inl ?_) fun state => ⟨[], Nat.zero_le _, ?_⟩
    · exact filter_append_of_not (decide_eq_false fun h => hne ⟨h.1.symm, h.2.symm⟩)
    · exact List.ne_nil_of_mem (List.mem_filter.2 ⟨List.mem_append_right _ List.mem_cons_self, by simp⟩)
    · exact (List.append_nil _).symm
  rcases insertRetry_eq hretry with rfl | rfl
  · exact hreplayed
  · exact hreplayed.of_eq rfl rfl rfl

/-- Evidence, and the recompute behind it. -/
theorem Replayed.record_evidence (h : Replayed s) (now : ℕ) (state : DeliveryState) (callback ref : Option String) :
    Replayed (record_evidence now tenant_id intent_id state callback ref s) := by
  unfold Notification.record_evidence
  dsimp only
  split_ifs
  · exact h
  · refine h.recompute rfl (fun tenant_id' intent_id' hne => ⟨rfl, ?_⟩) (Or.inr ?_) fun state' => ?_
    · exact filter_append_of_not (decide_eq_false fun h => hne ⟨h.1.symm, h.2.symm⟩)
    · exact List.ne_nil_of_mem (List.mem_filter.2 ⟨List.mem_append_right _ List.mem_cons_self, by simp⟩)
    · refine ⟨([⟨tenant_id, s.nextToken, intent_id, state, callback, ref, now⟩].filter fun e : ProviderEvidence =>
        e.normalized_state = state').map (·.observed_at), ?_, ?_⟩
      · exact (List.length_map _).trans_le (List.length_filter_le _ _)
      · rw [Store.observedAt, Store.observedAt, ← List.map_append, ← List.filter_append]
        refine congrArg (fun l => (List.filter _ l).map _) ?_
        rw [Store.evidenceOf, List.filter_append, List.filter_cons_of_pos (by simp)]
        rfl

end Replay

/-- **Key lemma**: what is stored after a run. -/
theorem replayed_exec (run : List DeliveryAction) : Replayed (Store.exec run) := by
  induction run using List.reverseRecOn with
  | nil => exact Replayed.empty
  | append_singleton run a ih =>
    rw [Store.exec, List.foldl_append]
    change Replayed ((Store.exec run).step a)
    cases a with
    | create now tenant_id alert_id destination_ref channel_class payload_ref => exact ih.of_eq rfl rfl rfl
    | claim row => exact ih.of_eq rfl rfl rfl
    | complete now tenant_id dispatch_id claim_token intent_id attempt_number logical outcome ref failure =>
      rw [Store.step]
      split
      · rename_i hs
        exact ih.complete_dispatch hs
      · exact ih
    | evidence now tenant_id intent_id state callback ref => exact ih.record_evidence now state callback ref

/-- The recorded times are those of a rebuild if the first ones are the extremal ones. -/
theorem firsts_eq_iff {s : Store} {tenant_id : String} {intent_id : ℕ} :
    s.firsts tenant_id intent_id = projectionOf tenant_id intent_id s ↔ FirstsExtremal s tenant_id intent_id := by
  have hfields : s.firsts tenant_id intent_id = projectionOf tenant_id intent_id s ↔
      (s.observedAt tenant_id intent_id .delivered).head? = (s.observedAt tenant_id intent_id .delivered).min? ∧
        (s.observedAt tenant_id intent_id .external_read_observed).head? =
          (s.observedAt tenant_id intent_id .external_read_observed).max? := by
    constructor
    · intro h
      exact ⟨congrArg NotificationProjection.delivered_at h, congrArg NotificationProjection.external_read_observed_at h⟩
    · rintro ⟨hdelivered, hread⟩
      rw [Store.firsts, hdelivered, hread]
      rfl
  rw [hfields, head_eq_min_iff, head_eq_max_iff]
  exact ⟨fun h => ⟨h.1, h.2⟩, fun h => ⟨h.delivered, h.read⟩⟩

/-- **Key result**: after a run, the row of an intent is the one that is rebuilt from its log exactly if the delivery
recorded first is the earliest, and the read recorded first the latest. -/
theorem recomputable_iff (run : List DeliveryAction) (tenant_id : String) (intent_id : ℕ) :
    Recomputable (Store.exec run) tenant_id intent_id ↔ FirstsExtremal (Store.exec run) tenant_id intent_id := by
  have hrun := replayed_exec run
  rw [Recomputable, rebuilt_eq, ← firsts_eq_iff]
  constructor
  · intro h
    by_cases hlogged : (Store.exec run).Logged tenant_id intent_id
    · exact Option.some.inj ((hrun.logged _ _ hlogged).symm.trans (h hlogged))
    · have hnil : (Store.exec run).evidenceOf tenant_id intent_id = [] := of_not_not fun hne => hlogged (Or.inr hne)
      rw [firsts_eq_iff]
      constructor <;> simp [Store.observedAt, hnil]
  · intro h hlogged
    rw [hrun.logged _ _ hlogged, h]

/-! ### A second read -/

/-- The message of an intent is read twice. -/
def secondRead : List DeliveryAction :=
  [.create 0 "tenant-1" "alert-1" "+15550100" .whatsapp_business "template",
    .evidence 10 "tenant-1" 0 .external_read_observed (some "callback-1") (some "wamid-1"),
    .evidence 20 "tenant-1" 0 .external_read_observed (some "callback-2") (some "wamid-1")]

/-- What is stored has the first read, and what is rebuilt the second. -/
theorem secondRead_differs : ¬Recomputable (Store.exec secondRead) "tenant-1" 0 := by
  intro h
  have hstored := h (Or.inr (by decide))
  revert hstored
  decide

end JLMirror.Notification
