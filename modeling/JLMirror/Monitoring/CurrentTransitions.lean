import JLMirror.Monitoring.ObservationLedger
import Mathlib.Data.List.Chain

/-!
# The transitions of a current state

Each time the current state of a metric moves to a newer observation, the poll writes three things in
three statements: the row, its revision, and a transition from the observation it leaves to the one it
enters. The history writes none of them, but it fills the ledger from which the poll reads what is newer.

## The model

* `ObservationTables.transitionLog` are the transitions of a definition in the order of their revisions.
* `TransitionChain` is what a log says of the row it belongs to.

## What is proved

* `TransitionChain.append`: a log and its row advance together.
* `Chained` holds after every move of the ledger, hence after every run.
* **Key result** (`transitions_chain`): after every run the transitions of every definition lead from no
  observation to the one that its row points at, link by link, with the revisions `1`, `2`, … up to that
  of the row, and with later and later observations.
-/

namespace JLMirror.Monitoring

open JLMirror.Foundations

/-! ### Chains -/

/-- A log of transitions that leads to the observation `current` at a revision. `time` is the provider time
of an observation, and `⊥` where it is not accepted. -/
structure TransitionChain (time : String → WithBot ProviderTime) (log : List CurrentStateTransition)
    (current : Option String) (revision : ℕ) : Prop where
  starts : ∀ t ∈ log.head?, t.from_observation_id = none
  linked : log.IsChain fun t u => u.from_observation_id = some t.to_observation_id
  ends : log.getLast?.map CurrentStateTransition.to_observation_id = current
  revisions : log.map CurrentStateTransition.projection_revision = List.range' 1 revision
  accepted : ∀ t ∈ log, time t.to_observation_id ≠ ⊥
  increasing : log.IsChain fun t u => time t.to_observation_id < time u.to_observation_id

namespace TransitionChain

variable {time time' : String → WithBot ProviderTime} {log : List CurrentStateTransition} {current : Option String}
  {revision : ℕ}

theorem nil (time : String → WithBot ProviderTime) : TransitionChain time [] none 0 where
  starts := by simp
  linked := List.isChain_nil
  ends := rfl
  revisions := rfl
  accepted := by simp
  increasing := List.isChain_nil

/-- Only the times of accepted observations count. -/
theorem congr_time (h : TransitionChain time log current revision)
    (htime : ∀ id, time id ≠ ⊥ → time' id = time id) : TransitionChain time' log current revision where
  starts := h.starts
  linked := h.linked
  ends := h.ends
  revisions := h.revisions
  accepted t ht := by
    rw [htime _ (h.accepted t ht)]
    exact h.accepted t ht
  increasing := h.increasing.imp_of_mem_imp fun t u ht hu hlt => by
    rwa [htime _ (h.accepted t ht), htime _ (h.accepted u hu)]

/-- A log and its row advance together, to an observation that is later than the one before. -/
theorem append {t : CurrentStateTransition} (h : TransitionChain time log current revision)
    (hfrom : t.from_observation_id = current) (hrev : t.projection_revision = revision + 1)
    (hlater : ∀ id, current = some id → time id < time t.to_observation_id)
    (haccepted : time t.to_observation_id ≠ ⊥) :
    TransitionChain time (log ++ [t]) (some t.to_observation_id) (revision + 1) := by
  have hlast : ∀ u ∈ log.getLast?, current = some u.to_observation_id := fun u hu => by
    rw [← h.ends, Option.mem_def.1 hu, Option.map_some]
  refine ⟨fun u hu => ?_, ?_, ?_, ?_, fun u hu => ?_, ?_⟩
  · rw [Option.mem_def, List.head?_append] at hu
    cases hhead : log.head? with
    | some v =>
      rw [hhead, Option.some_or, Option.some.injEq] at hu
      exact h.starts u (by rw [Option.mem_def, hhead, hu])
    | none =>
      rw [hhead, Option.none_or, List.head?_cons, Option.some.injEq] at hu
      rw [← hu, hfrom, ← h.ends, List.head?_eq_none_iff.1 hhead]
      rfl
  · refine List.isChain_append.2 ⟨h.linked, List.isChain_singleton _, fun u hu v hv => ?_⟩
    rw [List.head?_cons, Option.mem_some_iff] at hv
    rw [← hv, hfrom, hlast u hu]
  · rw [List.getLast?_append]
    rfl
  · rw [List.map_append, h.revisions, List.range'_1_concat, List.map_singleton, hrev, Nat.add_comm]
  · rcases List.mem_append.1 hu with hu | hu
    · exact h.accepted u hu
    · rwa [List.mem_singleton.1 hu]
  · refine List.isChain_append.2 ⟨h.increasing, List.isChain_singleton _, fun u hu v hv => ?_⟩
    rw [List.head?_cons, Option.mem_some_iff] at hv
    rw [← hv]
    exact hlater _ (hlast u hu)

theorem sorted (h : TransitionChain time log current revision) :
    log.Pairwise fun t u => t.projection_revision ≤ u.projection_revision := by
  have hpair : (log.map CurrentStateTransition.projection_revision).Pairwise (· ≤ ·) := by
    rw [h.revisions]
    exact List.Pairwise.imp (fun hlt => hlt.le) (List.pairwise_lt_range' (s := 1))
  exact List.pairwise_map.1 hpair

end TransitionChain

/-! ### The logs of the tables -/

namespace ObservationTables

/-- The transitions of a definition, as they stand in the table. -/
def transitionRows (t : ObservationTables) (definition_id : String) : List CurrentStateTransition :=
  t.transitions.filter fun tr => tr.metric_definition_id = definition_id

/-- The transitions of a definition, in the order of their revisions. -/
def transitionLog (t : ObservationTables) (definition_id : String) : List CurrentStateTransition :=
  (t.transitionRows definition_id).insertionSort fun tr tr' => tr.projection_revision ≤ tr'.projection_revision

/-- The provider time of an accepted observation. -/
def timeOf (t : ObservationTables) (observation_id : String) : WithBot ProviderTime :=
  (t.acceptances.find? fun a => a.observation_id = observation_id).elim ⊥ fun a => (a.time : WithBot ProviderTime)

/-- The revision of the row of a definition, and `0` where there is none. -/
def revisionOf (t : ObservationTables) (definition_id : String) : ℕ :=
  (t.currentStates.find? fun c => c.metric_definition_id = definition_id).elim 0
    MetricCurrentState.projection_revision

/-- The row of a definition. -/
def row (t : ObservationTables) (definition_id : String) : Option MetricCurrentState :=
  t.currentStates.find? fun c => c.metric_definition_id = definition_id

variable {t t' : ObservationTables} {d : String}

variable {claim : MetricCurrentStateClaim} {obs : AcceptedObservation}

theorem row_opened (hnone : t.row obs.metric_definition_id = none) (d : String) :
    ((t.currentStates ++ [firstState claim obs]).find? fun c => c.metric_definition_id = d) =
      if d = obs.metric_definition_id then some (firstState claim obs) else t.row d := by
  by_cases hd : d = obs.metric_definition_id
  · rw [if_pos hd, hd, List.find?_append, show t.currentStates.find? _ = none from hnone, Option.none_or]
    simp [firstState]
  · have hd' : (firstState claim obs).metric_definition_id ≠ d := Ne.symm hd
    rw [if_neg hd, List.find?_append, List.find?_cons_of_neg (by simpa using hd'), List.find?_nil, Option.or_none]
    rfl

/-- A newer sample writes the row of its definition, and no other. -/
theorem row_advanced {c : MetricCurrentState} (hsome : t.row obs.metric_definition_id = some c) (revision : ℕ)
    (d : String) :
    ((updateWhere (fun c => c.metric_definition_id = obs.metric_definition_id) (advancedState claim obs revision)
        t.currentStates).find? fun c => c.metric_definition_id = d) =
      if d = obs.metric_definition_id then some (advancedState claim obs revision c) else t.row d := by
  rw [find?_updateWhere (f := advancedState claim obs revision) fun _ _ => rfl]
  split_ifs with hd
  · subst hd
    rw [show t.currentStates.find? _ = some c from hsome, Option.map_some, if_pos (by simpa using List.find?_some hsome)]
  · refine (Option.map_congr fun r hr => ?_).trans Option.map_id'
    have hrid : r.metric_definition_id = d := by simpa using List.find?_some hr
    simp [hrid, hd]

theorem timeOf_some {id : String} {a : ObservationAcceptance}
    (h : (t.acceptances.find? fun a => a.observation_id = id) = some a) : t.timeOf id = a.time := by
  simp [timeOf, h]

theorem timeOf_accept (t : ObservationTables) (a : ObservationAcceptance) {id : String} (h : t.timeOf id ≠ ⊥) :
    ({ t with acceptances := t.acceptances ++ [a] } : ObservationTables).timeOf id = t.timeOf id := by
  cases hfind : t.acceptances.find? fun a => a.observation_id = id with
  | none => exact absurd (by simp [timeOf, hfind]) h
  | some r => rw [timeOf_some hfind, timeOf_some (by rw [List.find?_append, hfind, Option.some_or])]

/-- The mark of the projection keeps all times. -/
theorem timeOf_mark (t : ObservationTables) (ids : List String) (observations : List MetricObservation) :
    ({ t with observations := observations, acceptances := markProjected ids t.acceptances } :
      ObservationTables).timeOf = t.timeOf := by
  funext id
  have hfind := find?_updateWhere (p := fun a : ObservationAcceptance => ids.contains a.observation_id)
    (q := fun a => a.observation_id = id) (f := fun a => { a with history_projection_state := .projected })
    (fun _ _ => rfl) t.acceptances
  rw [timeOf, timeOf, markProjected, hfind]
  cases t.acceptances.find? fun a => a.observation_id = id with
  | none => rfl
  | some r =>
    rw [Option.map_some, Option.elim_some, Option.elim_some]
    split_ifs <;> rfl

end ObservationTables

/-- What is to hold of rows and transitions. -/
structure Chained (t : ObservationTables) : Prop where
  held : t.Held
  /-- A definition has one row. -/
  rows : (t.currentStates.map MetricCurrentState.metric_definition_id).Nodup
  chain : ∀ d, TransitionChain t.timeOf (t.transitionRows d) (t.pointer d) (t.revisionOf d)

namespace Chained

variable {t u : ObservationTables}

/-- The row of a definition and its log advance together. -/
theorem point (h : Chained t) {tr : CurrentStateTransition} (hacc : u.acceptances = t.acceptances)
    (htr : u.transitions = t.transitions ++ [tr]) (hfrom : tr.from_observation_id = t.pointer tr.metric_definition_id)
    (hrev : tr.projection_revision = t.revisionOf tr.metric_definition_id + 1)
    (hlater : ∀ id, t.pointer tr.metric_definition_id = some id → t.timeOf id < t.timeOf tr.to_observation_id)
    (haccepted : t.timeOf tr.to_observation_id ≠ ⊥)
    (hpointer : u.pointer = Function.update t.pointer tr.metric_definition_id (some tr.to_observation_id))
    (hrevision : u.revisionOf = Function.update t.revisionOf tr.metric_definition_id tr.projection_revision) (d : String) :
    TransitionChain u.timeOf (u.transitionRows d) (u.pointer d) (u.revisionOf d) := by
  have htime : u.timeOf = t.timeOf := by
    funext id
    simp only [ObservationTables.timeOf, hacc]
  rw [htime, hpointer, hrevision, ObservationTables.transitionRows, htr, List.filter_append]
  by_cases hd : d = tr.metric_definition_id
  · subst hd
    rw [Function.update_self, Function.update_self, hrev, List.filter_cons_of_pos (by simp), List.filter_nil]
    exact (h.chain _).append hfrom hrev hlater haccepted
  · rw [Function.update_of_ne hd, Function.update_of_ne hd, List.filter_cons_of_neg (by simpa using Ne.symm hd),
      List.filter_nil, List.append_nil]
    exact h.chain d

variable {claim : MetricCurrentStateClaim} {obs : AcceptedObservation} {x : ObservationTables × ℕ}

/-- The first sample of a definition opens its log. -/
theorem opens (h : Chained t) {n : ℕ} (hacc : t.timeOf obs.observation_id = obs.time)
    (hno : ∀ c ∈ t.currentStates, c.metric_definition_id ≠ obs.metric_definition_id)
    (hins : insertTransition claim obs none 1
      ({ t with currentStates := t.currentStates ++ [firstState claim obs] }, n) = .ok x) (d : String) :
    TransitionChain x.1.timeOf (x.1.transitionRows d) (x.1.pointer d) (x.1.revisionOf d) := by
  obtain ⟨tr, -, htr, rfl⟩ := insertTransition_ok hins
  have hfind : (t.currentStates.find? fun c => c.metric_definition_id = obs.metric_definition_id) = none := by
    simpa using hno
  have hpointer : t.pointer obs.metric_definition_id = none := by rw [ObservationTables.pointer, hfind, Option.map_none]
  have hrevision : t.revisionOf obs.metric_definition_id = 0 := by
    rw [ObservationTables.revisionOf, hfind, Option.elim_none]
  refine h.point (u := { t with transitions := t.transitions ++ [tr], currentStates := _ }) rfl rfl ?_ ?_ ?_ ?_ ?_ ?_ d
  · rw [htr, hpointer]
  · rw [htr, hrevision]
  · rw [htr, hpointer]
    simp
  · rw [htr, hacc]
    exact WithBot.coe_ne_bot
  · funext d
    rw [ObservationTables.pointer, ObservationTables.row_opened hfind, Function.update_apply, htr]
    split_ifs <;> rfl
  · funext d
    rw [ObservationTables.revisionOf, ObservationTables.row_opened hfind, Function.update_apply, htr]
    split_ifs <;> rfl

/-- A newer sample appends to it. -/
theorem advances (h : Chained t) {n : ℕ} {c : MetricCurrentState} {a : ObservationAcceptance}
    (hacc : t.timeOf obs.observation_id = obs.time) (hsome : t.projected obs.metric_definition_id = some (c, a))
    (hnewer : obs.newer a.provider_clock a.provider_ns = true)
    (hins : insertTransition claim obs (some c.current_observation_id) (c.projection_revision + 1)
      ({ t with
          currentStates := updateWhere (fun c => c.metric_definition_id = obs.metric_definition_id)
            (advancedState claim obs (c.projection_revision + 1)) t.currentStates }, n) = .ok x) (d : String) :
    TransitionChain x.1.timeOf (x.1.transitionRows d) (x.1.pointer d) (x.1.revisionOf d) := by
  obtain ⟨tr, -, htr, rfl⟩ := insertTransition_ok hins
  obtain ⟨hc, ha⟩ := ObservationTables.projected_some.1 hsome
  have hpointer : t.pointer obs.metric_definition_id = some c.current_observation_id := by
    rw [ObservationTables.pointer, hc, Option.map_some]
  have hrevision : t.revisionOf obs.metric_definition_id = c.projection_revision := by
    rw [ObservationTables.revisionOf, hc, Option.elim_some]
  refine h.point (u := { t with transitions := t.transitions ++ [tr], currentStates := _ }) rfl rfl ?_ ?_ ?_ ?_ ?_ ?_ d
  · rw [htr, hpointer]
  · rw [htr, hrevision]
  · intro id hid
    rw [htr, hacc]
    rw [htr, hpointer, Option.some.injEq] at hid
    rw [← hid, ObservationTables.timeOf_some ha]
    exact WithBot.coe_lt_coe.2 (newer_iff.1 hnewer)
  · rw [htr, hacc]
    exact WithBot.coe_ne_bot
  · funext d
    rw [ObservationTables.pointer, ObservationTables.row_advanced hc, Function.update_apply, htr]
    split_ifs <;> rfl
  · funext d
    rw [ObservationTables.revisionOf, ObservationTables.row_advanced hc, Function.update_apply, htr]
    split_ifs <;> rfl

end Chained

/-- The rows after an accepted sample are those of the same definitions, or one of a new definition more. -/
theorem advanceCurrent_rows {claim : MetricCurrentStateClaim} {obs : AcceptedObservation} {s s' : ObservationTables × ℕ}
    (hnd : (s.1.currentStates.map MetricCurrentState.metric_definition_id).Nodup)
    (h : advanceCurrent claim obs s = .ok s') :
    (s'.1.currentStates.map MetricCurrentState.metric_definition_id).Nodup := by
  rcases advanceCurrent_ok h with ⟨-, ⟨-, rfl⟩ | ⟨hno, hins⟩⟩ | ⟨c, a, -, ⟨-, hins⟩ | ⟨-, rfl⟩⟩
  · exact hnd
  · rw [(insertTransition_newest hins).1]
    exact nodup_map_append_new hnd hno
  · rw [(insertTransition_newest hins).1]
    exact (map_updateWhere (k := MetricCurrentState.metric_definition_id) (f := advancedState claim obs _)
      (fun _ => rfl) s.1.currentStates).symm ▸ hnd
  · exact hnd

theorem LedgerMove.chained {t t' : ObservationTables} (m : LedgerMove t t') (h : Chained t) : Chained t' := by
  cases m with
  | accepted a hpending hsample hid =>
    exact ⟨h.held.accept a, h.rows, fun d => (h.chain d).congr_time fun id => t.timeOf_accept a⟩
  | projected rows observations hrows hpending hinsert =>
    refine ⟨?_, h.rows, fun d => (h.chain d).congr_time fun id _ => by rw [ObservationTables.timeOf_mark]⟩
    exact (h.held.mark _ : ObservationTables.Held { t with acceptances := markProjected _ t.acceptances })
  | polled claim obs n n' hacc hadvance =>
    obtain ⟨hheld, -, -⟩ := advanceCurrent_newest h.held hacc hadvance
    refine ⟨hheld, advanceCurrent_rows h.rows hadvance, ?_⟩
    have htime : t.timeOf obs.observation_id = obs.time := ObservationTables.timeOf_some hacc
    rcases advanceCurrent_ok hadvance with ⟨-, ⟨-, heq⟩ | ⟨hno, hins⟩⟩ | ⟨c, a, hsome, ⟨hnewer, hins⟩ | ⟨-, heq⟩⟩
    · obtain rfl := (Prod.mk.inj heq).1
      exact h.chain
    · exact h.opens htime hno hins
    · exact h.advances htime hsome hnewer hins
    · obtain rfl := (Prod.mk.inj heq).1
      exact h.chain
  | staled p =>
    have hfind : ∀ d, ((updateWhere p (fun c => { c with evidence_state := .stale }) t.currentStates).find? fun c =>
        c.metric_definition_id = d) =
        (t.currentStates.find? fun c => c.metric_definition_id = d).map fun c =>
          if p c then { c with evidence_state := .stale } else c := fun d =>
      find?_updateWhere (f := fun c : MetricCurrentState => { c with evidence_state := .stale }) (fun _ _ => rfl) _
    refine ⟨fun c' hc' => ?_, ?_, fun d => ?_⟩
    · obtain ⟨c, hc, rfl⟩ := mem_updateWhere.1 hc'
      obtain ⟨a, ha, hid⟩ := h.held c hc
      exact ⟨a, ha, by split_ifs <;> exact hid⟩
    · exact (map_updateWhere (k := MetricCurrentState.metric_definition_id)
        (f := fun c => { c with evidence_state := .stale }) (fun _ => rfl) t.currentStates).symm ▸ h.rows
    · have hchain := h.chain d
      rw [ObservationTables.pointer, ObservationTables.revisionOf] at hchain ⊢
      rw [hfind]
      cases hc : t.currentStates.find? fun c => c.metric_definition_id = d with
      | none =>
        rw [hc] at hchain
        exact hchain
      | some c =>
        rw [hc] at hchain
        rw [Option.map_some, Option.map_some, Option.elim_some]
        split_ifs <;> exact hchain
  | aside streams gaps => exact ⟨h.held, h.rows, h.chain⟩

namespace Sync

theorem chained_exec (domain : Domain) (bridge : BridgeVersion) (run : List Action) :
    Chained (System.exec domain bridge run).db.observations :=
  exec_keeps (fun _ _ => LedgerMove.chained) ⟨by simp [ObservationTables.Held], List.nodup_nil, fun d => .nil _⟩
    bridge run

/-- **Key result**: after every run of polls, history syncs and projections, in whatever order, each
definition has one row at most, and its transitions in the order of their revisions are a chain to the
observation and the revision of that row. -/
theorem transitions_chain (domain : Domain) (bridge : BridgeVersion) (run : List Action) :
    let t := (System.exec domain bridge run).db.observations
    (t.currentStates.map MetricCurrentState.metric_definition_id).Nodup ∧
      ∀ d, TransitionChain t.timeOf (t.transitionLog d) (t.pointer d) (t.revisionOf d) := by
  intro t
  have h : Chained t := chained_exec domain bridge run
  refine ⟨h.rows, fun d => ?_⟩
  rw [ObservationTables.transitionLog, List.Pairwise.insertionSort_eq (h.chain d).sorted]
  exact h.chain d

end Sync

end JLMirror.Monitoring
