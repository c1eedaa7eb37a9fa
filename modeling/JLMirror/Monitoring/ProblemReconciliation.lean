import JLMirror.Monitoring.ProblemMoves

/-!
# Problem reconciliation, event by event

What a completion is for: each event of the provider is tracked on its own, observed when a
result returns it, resolved by recovery evidence or by its omission. The tables join all
events and three passes; here they are taken apart again.

## The model

* `Tracked` is what reconciliation knows of a bound event. `observe`, `recover` and `settle`
  are the three passes on one event, and `reconcileEvent` is their sequence. This is the
  statement of the purpose, not translated code.
* `MonitoringDb.tracked` reads the state of an event off the tables.

## What is proved

* `observe_local`, `recover_local`: a round of a loop over the tables acts on one event.
* `reconcile_refines`, `reconcile_ends_iff`: the passes over the tables are `reconcileEvent` on
  every event, and they raise exactly if it does on some event.
* **Key result** (`reconciliation_exact`): what is active, resolved and unconfirmed after a
  completion.
-/

namespace JLMirror.Monitoring

open JLMirror.Foundations

/-! ### One event -/

/-- What is known of an event that is bound. -/
structure Tracked where
  monitoring_resource_id : String
  provider_trigger_ref : String
  status : ProblemStatus
  evidence_state : EvidenceState

/-- The event is returned by the result, with its raw row: `seen` from then on. -/
def observe (current : String → Bool) (raw_rows : List ZabbixProblemEvidence) (c : Option Tracked × Bool)
    (prob : ProblemObservation) : Except String (Option Tracked × Bool) :=
  match trigger_by_event raw_rows prob.provider_eventid with
  | none => .ok c
  | some trigger_ref =>
    if current prob.monitoring_resource_id = false then
      .error "monitoring.problem_state_resource_association_not_current"
    else match c.1 with
      | none => .ok (some ⟨prob.monitoring_resource_id, trigger_ref, .active, .current⟩, true)
      | some k =>
        if k.monitoring_resource_id ≠ prob.monitoring_resource_id ∨ k.provider_trigger_ref ≠ trigger_ref then
          .error "monitoring.problem_state_provider_identity_collision"
        else if k.status ≠ .active then .error "monitoring.problem_state_resolved_event_reappeared"
        else .ok (some { k with evidence_state := .current }, true)

/-- The event has recovery evidence. -/
def recover (c : Option Tracked) (ev : ZabbixRecoveryEvidence) : Except String (Option Tracked) :=
  match c with
  | none => .ok none
  | some k =>
    match k.status with
    | .active => .ok (some { k with status := .resolved (fromtimestamp ev.clock), evidence_state := .current })
    | .resolved r =>
      if r ≠ fromtimestamp ev.clock then .error "monitoring.problem_state_conflicting_recovery_evidence"
      else .ok (some k)

/-- The end of the poll: an active event that was not seen is resolved by a complete snapshot, and
left unconfirmed by an incomplete one. -/
def settle (now : Timestamp) (complete_snapshot seen : Bool) (c : Option Tracked) : Option Tracked :=
  c.map fun k =>
    if k.status = .active ∧ seen = false then
      if complete_snapshot then { k with status := .resolved now, evidence_state := .current }
      else { k with evidence_state := .reconciliation_required }
    else k

/-- Only an incomplete snapshot leaves an unseen event active, and then unconfirmed. -/
theorem settle_active {now : Timestamp} {complete_snapshot : Bool} {c : Option Tracked} {k : Tracked}
    (h : some k = settle now complete_snapshot false c) (hact : k.status = .active) :
    complete_snapshot = false ∧ k.evidence_state = .reconciliation_required := by
  obtain ⟨k₀, -, hk⟩ := Option.map_eq_some_iff.1 h.symm
  subst hk
  cases complete_snapshot with
  | true =>
    simp only [and_true, if_true] at hact
    split_ifs at hact with hk₀
    exact absurd hact hk₀
  | false =>
    simp only [and_true, Bool.false_eq_true, if_false] at hact ⊢
    split_ifs at hact ⊢ with hk₀
    · exact ⟨trivial, rfl⟩
    · exact absurd hact hk₀

theorem settle_incomplete {now : Timestamp} {seen : Bool} {k₀ k : Tracked}
    (h : some k = settle now false seen (some k₀)) : k.status = k₀.status := by
  simp only [settle, Option.map_some, Bool.false_eq_true, if_false, Option.some.injEq] at h
  rw [h]
  split_ifs <;> rfl

/-- A successful result, as far as one event goes. -/
def reconcileEvent (now : Timestamp) (current : String → Bool) (result : ProblemStateResult)
    (raw_rows : List ZabbixProblemEvidence) (recoveries : List ZabbixRecoveryEvidence) (e : EventId)
    (c : Option Tracked) : Except String (Option Tracked) := do
  let c ← (result.problems.filter fun o => o.provider_eventid = e).foldlM (observe current raw_rows) (c, false)
  let c' ← (recoveries.filter fun ev => ev.problem_eventid = e).foldlM recover c.1
  return settle now result.complete_snapshot c.2 c'

/-! ### Reading an event off the tables -/

/-- The state of an event. -/
def MonitoringDb.tracked (db : MonitoringDb) (claim : ProblemStateClaim) (e : EventId) : Option Tracked :=
  (db.bindingOf claim e).bind fun b =>
    (db.problem b.problem_id).map fun p =>
      ⟨b.monitoring_resource_id, b.provider_trigger_ref, p.status, p.evidence_state⟩

/-- The binding and the row of an event in the generation of a claim. -/
structure Bound (db : MonitoringDb) (claim : ProblemStateClaim) (e : EventId) (b : ProblemProviderBinding)
    (p : MonitoringProblem) : Prop where
  binding : b ∈ db.bindings
  source : b.monitoring_source_id = claim.monitoring_source_id
  generation : b.source_instance_generation = claim.source_instance_generation
  event : b.provider_external_ref = e
  row : p ∈ db.problems
  problem_id : p.problem_id = b.problem_id

section Reading

variable {db : MonitoringDb} {claim : ProblemStateClaim} {e : EventId} {b : ProblemProviderBinding}
  {p : MonitoringProblem}

theorem Bound.bindingOf (hb : Bound db claim e b p) (h : db.Sound) : db.bindingOf claim e = some b := by
  rw [← hb.event]
  exact h.bindingOf_eq hb.binding hb.source hb.generation

theorem Bound.problem (hb : Bound db claim e b p) (h : db.Sound) : db.problem b.problem_id = some p := by
  rw [← hb.problem_id]
  exact h.problem_eq hb.row

theorem Bound.tracked (hb : Bound db claim e b p) (h : db.Sound) :
    db.tracked claim e = some ⟨b.monitoring_resource_id, b.provider_trigger_ref, p.status, p.evidence_state⟩ := by
  simp [MonitoringDb.tracked, hb.bindingOf h, hb.problem h]

theorem Bound.boundProblem (hb : Bound db claim e b p) (h : db.Sound) : db.boundProblem claim e = some p := by
  simp [MonitoringDb.boundProblem, hb.bindingOf h, hb.problem h]

/-- An event is bound, or nothing is known of it. -/
theorem MonitoringDb.Sound.bound_or (h : db.Sound) (claim : ProblemStateClaim) (e : EventId) :
    (∃ b p, Bound db claim e b p) ∨
      (db.bindingOf claim e = none ∧ db.tracked claim e = none ∧ db.boundProblem claim e = none) := by
  cases hf : db.bindingOf claim e with
  | none => simp [MonitoringDb.tracked, MonitoringDb.boundProblem, hf]
  | some b =>
    obtain ⟨p, hp, hid, -⟩ := h.exists_row claim hf
    have hkey := List.find?_some hf
    simp only [decide_eq_true_eq] at hkey
    exact Or.inl ⟨b, p, List.mem_of_find?_eq_some hf, hkey.1, hkey.2.1, hkey.2.2, hp, hid⟩

theorem MonitoringDb.Sound.exists_bound (h : db.Sound) (hp : p ∈ db.problems)
    (hs : p.monitoring_source_id = claim.monitoring_source_id)
    (hg : p.source_instance_generation = claim.source_instance_generation) : ∃ e b, Bound db claim e b p := by
  obtain ⟨b, hb, hid⟩ := h.exists_binding hp
  simp only [ProblemProviderBinding.identity, MonitoringProblem.identity, Prod.mk.injEq] at hid
  exact ⟨b.provider_external_ref, b, hb, hid.2.1.trans hs, hid.2.2.1.trans hg, rfl, hp, hid.1.symm⟩

theorem Bound.row_generation (hb : Bound db claim e b p) (h : db.Sound) :
    p.monitoring_source_id = claim.monitoring_source_id ∧
      p.source_instance_generation = claim.source_instance_generation := by
  obtain ⟨b', hb', hid⟩ := h.exists_binding hb.row
  simp only [ProblemProviderBinding.identity, MonitoringProblem.identity, Prod.mk.injEq] at hid
  rw [eq_of_key h.ids hb' hb.binding (hid.1.trans hb.problem_id)] at hid
  exact ⟨hid.2.1.symm.trans hb.source, hid.2.2.1.symm.trans hb.generation⟩

theorem Bound.event_unique {e' : EventId} {b' : ProblemProviderBinding} (hb : Bound db claim e b p)
    (hb' : Bound db claim e' b' p) (h : db.Sound) : e = e' := by
  have := eq_of_key h.ids hb.binding hb'.binding (hb.problem_id.symm.trans hb'.problem_id)
  rw [← hb.event, ← hb'.event, this]

variable {f : MonitoringProblem → MonitoringProblem}

theorem Bound.update {db' : MonitoringDb} (hb : Bound db claim e b p) (hbind : db'.bindings = db.bindings)
    {q : MonitoringProblem → Bool} (hid : ∀ r, (f r).identity = r.identity)
    (hprob : db'.problems = updateWhere q f db.problems) : Bound db' claim e b (if q p then f p else p) := by
  refine ⟨hbind ▸ hb.binding, hb.source, hb.generation, hb.event, ?_, ?_⟩
  · rw [hprob]
    exact mem_updateWhere.2 ⟨p, hb.row, rfl⟩
  · split_ifs
    · exact (congrArg Prod.fst (hid p)).trans hb.problem_id
    · exact hb.problem_id

/-- Of an event that is not bound, an update that keeps the bindings makes nothing. -/
theorem tracked_none_of_bindings {db' : MonitoringDb} (hf : db.bindingOf claim e = none)
    (hbind : db'.bindings = db.bindings) : db'.tracked claim e = none := by
  have hf' : db'.bindingOf claim e = none := by
    rw [MonitoringDb.bindingOf, hbind]
    exact hf
  simp [MonitoringDb.tracked, hf']

/-- Setting the row of one event changes nothing for the others. -/
theorem Bound.frame {db' : MonitoringDb} (hb : Bound db claim e b p) (h : db.Sound) (h' : db'.Sound)
    (hid : ∀ r, (f r).identity = r.identity) (hbind : db'.bindings = db.bindings)
    (hprob : db'.problems = updateWhere (fun r => r.problem_id = p.problem_id) f db.problems) {e' : EventId}
    (hne : e' ≠ e) : db'.tracked claim e' = db.tracked claim e' := by
  rcases h.bound_or claim e' with ⟨b', p', hb'⟩ | ⟨hf, ht, -⟩
  · have hpp : ¬p'.problem_id = p.problem_id := by
      intro hpp
      rw [eq_of_key h.problem_ids hb'.row hb.row hpp] at hb'
      exact hne (hb'.event_unique hb h)
    rw [(hb'.update hbind hid hprob).tracked h', hb'.tracked h]
    simp [hpp]
  · rw [tracked_none_of_bindings hf hbind, ht]

theorem Bound.tracked_set {db' : MonitoringDb} (hb : Bound db claim e b p) (h' : db'.Sound)
    (hid : ∀ r, (f r).identity = r.identity) (hbind : db'.bindings = db.bindings)
    (hprob : db'.problems = updateWhere (fun r => r.problem_id = p.problem_id) f db.problems) :
    db'.tracked claim e =
      some ⟨b.monitoring_resource_id, b.provider_trigger_ref, (f p).status, (f p).evidence_state⟩ := by
  rw [(hb.update hbind hid hprob).tracked h']
  simp

/-- The rows of other generations. -/
def MonitoringDb.outside (db : MonitoringDb) (claim : ProblemStateClaim) : List MonitoringProblem :=
  db.problems.filter fun p => ¬(p.monitoring_source_id = claim.monitoring_source_id ∧
    p.source_instance_generation = claim.source_instance_generation)

theorem outside_update {db' : MonitoringDb} {q : MonitoringProblem → Bool} (hid : ∀ r, (f r).identity = r.identity)
    (hprob : db'.problems = updateWhere q f db.problems)
    (hq : ∀ r ∈ db.problems, q r = true → r.monitoring_source_id = claim.monitoring_source_id ∧
      r.source_instance_generation = claim.source_instance_generation) : db'.outside claim = db.outside claim := by
  rw [MonitoringDb.outside, hprob]
  refine filter_updateWhere fun r hr hqr => ?_
  have hfid := hid r
  simp only [MonitoringProblem.identity, Prod.mk.injEq] at hfid
  simp [hfid, hq r hr hqr]

theorem Bound.outside_set {db' : MonitoringDb} (hb : Bound db claim e b p) (h : db.Sound)
    (hid : ∀ r, (f r).identity = r.identity)
    (hprob : db'.problems = updateWhere (fun r => r.problem_id = p.problem_id) f db.problems) :
    db'.outside claim = db.outside claim := by
  refine outside_update hid hprob fun r hr hq => ?_
  rw [eq_of_key h.problem_ids hr hb.row (of_decide_eq_true hq)]
  exact hb.row_generation h

end Reading

/-! ### Each round of the loops acts on one event -/

section Rounds

variable (now : Timestamp) (claim : ProblemStateClaim)

/-- The state of an event while problems are persisted, and whether it was seen. -/
def trackedSeen (s : MonitoringDb × List EventId) (e : EventId) : Option Tracked × Bool :=
  (s.1.tracked claim e, decide (e ∈ s.2))

theorem trackedSeen_append {s : MonitoringDb × List EventId} {db' : MonitoringDb} {e e' : EventId}
    (h : db'.tracked claim e' = s.1.tracked claim e') (hne : e' ≠ e) :
    trackedSeen claim (db', s.2 ++ [e]) e' = trackedSeen claim s e' := by
  simp [trackedSeen, h, hne]

theorem openProblem_tracked {db : MonitoringDb} (h : db.Sound) (prob : ProblemObservation) (trigger_ref : String)
    (hf : db.bindingOf claim prob.provider_eventid = none) (e : EventId) :
    (db.openProblem now claim prob trigger_ref).tracked claim e =
      if e = prob.provider_eventid then some ⟨prob.monitoring_resource_id, trigger_ref, .active, .current⟩
      else db.tracked claim e := by
  have h' := (openProblem_moves now claim prob trigger_ref hf).sound h
  split_ifs with he
  · have hb : Bound (db.openProblem now claim prob trigger_ref) claim e
        (bindingRow claim prob trigger_ref db.nextId) (openedRow claim prob db.nextId) :=
      ⟨by simp [MonitoringDb.openProblem, MonitoringDb.logged, MonitoringDb.bound], rfl, rfl, he.symm,
        by simp [MonitoringDb.openProblem, MonitoringDb.logged, MonitoringDb.bound], rfl⟩
    exact hb.tracked h'
  · rcases h.bound_or claim e with ⟨b, p, hb⟩ | ⟨hnone, ht, -⟩
    · have hb' : Bound (db.openProblem now claim prob trigger_ref) claim e b p :=
        ⟨List.mem_append_left _ hb.binding, hb.source, hb.generation, hb.event, List.mem_append_left _ hb.row,
          hb.problem_id⟩
      rw [hb'.tracked h', hb.tracked h]
    · have hnone' : (db.openProblem now claim prob trigger_ref).bindingOf claim e = none := by
        show (db.bindings ++ [bindingRow claim prob trigger_ref db.nextId]).find? _ = none
        rw [List.find?_append, show db.bindings.find? _ = none from hnone]
        simp [bindingRow, Ne.symm he]
      simp [MonitoringDb.tracked, hnone', hnone]

theorem openProblem_outside (db : MonitoringDb) (prob : ProblemObservation) (trigger_ref : String) :
    (db.openProblem now claim prob trigger_ref).outside claim = db.outside claim := by
  simp [MonitoringDb.outside, MonitoringDb.openProblem, MonitoringDb.logged, MonitoringDb.bound, List.filter_append,
    openedRow]

/-- What an observation does to the row of an active problem: it confirms it. -/
theorem observeProblem_spec (db : MonitoringDb) (prob : ProblemObservation) (p : MonitoringProblem) :
    ∃ f : MonitoringProblem → MonitoringProblem, (∀ r, (f r).identity = r.identity) ∧ (f p).status = p.status ∧
      (f p).evidence_state = .current ∧ (db.observeProblem now claim prob p).bindings = db.bindings ∧
      (db.observeProblem now claim prob p).problems =
        updateWhere (fun r => r.problem_id = p.problem_id) f db.problems ∧
      (db.observeProblem now claim prob p).resources = db.resources := by
  unfold MonitoringDb.observeProblem
  split_ifs
  · exact ⟨changedRow claim prob (p.projection_revision + 1), fun _ => rfl, rfl, rfl, rfl, rfl, rfl⟩
  · exact ⟨changedRow claim prob (p.projection_revision + 1), fun _ => rfl, rfl, rfl, rfl, rfl, rfl⟩
  · exact ⟨confirmedRow claim prob, fun _ => rfl, rfl, rfl, rfl, rfl, rfl⟩

theorem MonitoringDb.resourceCurrent_congr {db db' : MonitoringDb} (h : db'.resources = db.resources) :
    db'.resourceCurrent claim = db.resourceCurrent claim := by
  funext rid
  simp [MonitoringDb.resourceCurrent, h]

/-- A round of `_persist_problems` observes one event. -/
theorem observe_local (current : String → Bool) (raw_rows : List ZabbixProblemEvidence)
    (out : List MonitoringProblem) :
    LocalStep (fun s => s.1.Sound ∧ s.1.resourceCurrent claim = current ∧ s.1.outside claim = out) (trackedSeen claim)
      ProblemObservation.provider_eventid (observe current raw_rows) (persistProblem now claim raw_rows) := by
  refine .of_cases fun s prob hs => ?_
  obtain ⟨h, hcur, hout⟩ := hs
  have hkeep : ∀ {s'}, persistProblem now claim raw_rows s prob = .ok s' → s'.1.Sound := fun hok =>
    (persistProblem_moves now claim h hok).sound h
  cases ht : trigger_by_event raw_rows prob.provider_eventid with
  | none =>
    refine Or.inr ⟨s, persistProblem_skip ht, ⟨h, hcur, hout⟩, ?_, fun _ _ => rfl⟩
    simp only [observe, ht]
  | some trigger_ref =>
    cases hr : s.1.resourceCurrent claim prob.monitoring_resource_id with
    | false =>
      refine Or.inl ⟨_, persistProblem_stale ht hr, ?_⟩
      rw [hcur] at hr
      simp only [observe, ht, hr, if_true]
    | true =>
      have hr' : current prob.monitoring_resource_id = true := by rw [← hcur, hr]
      rcases h.bound_or claim prob.provider_eventid with ⟨b, p, hb⟩ | ⟨hf, htr, -⟩
      · have heq : persistProblem now claim raw_rows s prob = _ :=
          persistProblem_bound h ht hr (hb.bindingOf h) hb.row hb.problem_id
        have hview := hb.tracked h
        by_cases hcol : b.monitoring_resource_id ≠ prob.monitoring_resource_id ∨ b.provider_trigger_ref ≠ trigger_ref
        · rw [if_pos hcol] at heq
          refine Or.inl ⟨_, heq, ?_⟩
          simp only [observe, ht, hr', reduceCtorEq, if_false, trackedSeen, hview]
          rw [if_pos hcol]
        · rw [if_neg hcol] at heq
          by_cases hact : p.status ≠ .active
          · rw [if_pos hact] at heq
            refine Or.inl ⟨_, heq, ?_⟩
            simp only [observe, ht, hr', reduceCtorEq, if_false, trackedSeen, hview]
            rw [if_neg hcol, if_pos hact]
          · rw [if_neg hact] at heq
            have h' := hkeep heq
            obtain ⟨f, hid, hst, hev, hbind, hprob, hres⟩ := observeProblem_spec now claim s.1 prob p
            have hP := And.intro ((MonitoringDb.resourceCurrent_congr claim hres).trans hcur)
              ((hb.outside_set h hid hprob).trans hout)
            refine Or.inr ⟨_, heq, ⟨h', hP⟩, ?_, fun e' hne =>
              trackedSeen_append claim (hb.frame h h' hid hbind hprob hne) hne⟩
            simp only [observe, ht, hr', reduceCtorEq, if_false, trackedSeen, hview]
            rw [if_neg hcol, if_neg hact, hb.tracked_set h' hid hbind hprob, hst, hev]
            simp
      · have heq : persistProblem now claim raw_rows s prob = _ := persistProblem_open h ht hr hf
        have htrk := openProblem_tracked now claim h prob trigger_ref hf
        refine Or.inr ⟨_, heq, ⟨hkeep heq, hcur, (openProblem_outside now claim s.1 prob trigger_ref).trans hout⟩, ?_,
          fun e' hne => ?_⟩
        · simp only [observe, ht, hr', reduceCtorEq, if_false, trackedSeen, htr, htrk, if_true]
          simp
        · exact trackedSeen_append claim (by rw [htrk, if_neg hne]) hne

/-- A round of `_persist_recoveries` recovers one event. -/
theorem recover_local (out : List MonitoringProblem) :
    LocalStep (fun db => db.Sound ∧ db.outside claim = out) (fun db => db.tracked claim) ZabbixRecoveryEvidence.problem_eventid recover
      (persistRecovery now claim) := by
  refine .of_cases fun db ev hs => ?_
  obtain ⟨h, hout⟩ := hs
  rcases h.bound_or claim ev.problem_eventid with ⟨b, p, hb⟩ | ⟨-, ht, hnone⟩
  · have hview := hb.tracked h
    have hp := hb.boundProblem h
    cases hst : p.status with
    | active =>
      have heq := persistRecovery_active now claim h hp hst
      have h' := (persistRecovery_moves now claim h heq).sound h
      let f := resolvedRow claim (fromtimestamp ev.clock) (p.projection_revision + 1)
      refine Or.inr ⟨_, heq, ⟨h', ?_⟩, ?_, fun e' hne => hb.frame (f := f) h h' (fun _ => rfl) rfl rfl hne⟩
      · exact (hb.outside_set (f := f) h (fun _ => rfl) rfl).trans hout
      · rw [hview, hb.tracked_set (f := f) h' (fun _ => rfl) rfl rfl]
        simp only [recover, hst]
        rfl
    | resolved r =>
      have heq := persistRecovery_resolved now claim hp hst
      by_cases hr : r ≠ fromtimestamp ev.clock
      · rw [if_pos hr] at heq
        refine Or.inl ⟨_, heq, ?_⟩
        simp only [hview, recover, hst]
        rw [if_pos hr]
      · rw [if_neg hr] at heq
        refine Or.inr ⟨db, heq, ⟨h, hout⟩, ?_, fun _ _ => rfl⟩
        simp only [hview, recover, hst]
        rw [if_neg hr]
  · refine Or.inr ⟨db, persistRecovery_none now claim hnone, ⟨h, hout⟩, ?_, fun _ _ => rfl⟩
    simp only [ht, recover]

/-! ### The end of the poll -/

theorem EventId.text_inj {e e' : EventId} : e.text = e'.text ↔ e = e' :=
  ⟨fun h => by cases e; cases e'; simpa using h, fun h => h ▸ rfl⟩

variable {seen : List EventId}

/-- The sentinel of an empty list is no event: the omission queries ask for the events seen. -/
theorem mem_seenRefs {e : EventId} : e.text ∈ seenRefs seen ↔ e ∈ seen := by
  unfold seenRefs
  cases seen with
  | nil => simpa using e.ne_sentinel
  | cons e' seen => simp [EventId.text_inj]

variable {db db' : MonitoringDb} {e : EventId} {b : ProblemProviderBinding} {p : MonitoringProblem}

theorem Bound.any_binding (hb : Bound db claim e b p) (h : db.Sound) (q : ProblemProviderBinding → Bool) :
    (db.bindings.any fun b' => b'.problem_id = p.problem_id ∧ q b' = true) = true ↔ q b = true := by
  simp only [List.any_eq_true, decide_eq_true_eq]
  constructor
  · rintro ⟨b', hb', hid, hq⟩
    rwa [eq_of_key h.ids hb' hb.binding (hid.trans hb.problem_id)] at hq
  · exact fun hq => ⟨b, hb.binding, hb.problem_id.symm, hq⟩

theorem Bound.activeIn (hb : Bound db claim e b p) (h : db.Sound) : p.activeIn claim = true ↔ p.status = .active := by
  rw [MonitoringProblem.activeIn_iff]
  obtain ⟨hs, hg⟩ := hb.row_generation h
  simp [hs, hg]

theorem Bound.mem_omitted (hb : Bound db claim e b p) (h : db.Sound) (seen : List EventId) :
    p ∈ db.omitted claim seen ↔ p.status = .active ∧ e ∉ seen := by
  have hany := hb.any_binding claim h fun b' => decide (b'.provider_external_ref.text ∉ seenRefs seen)
  simp only [decide_eq_true_eq] at hany
  rw [MonitoringDb.omitted, List.mem_filter, decide_eq_true_eq, hb.activeIn claim h, hany, hb.event, mem_seenRefs]
  simp [hb.row]

theorem Bound.unreturned (hb : Bound db claim e b p) (h : db.Sound) (seen : List EventId) :
    db.unreturned claim seen p = true ↔ p.status = .active ∧ e ∉ seen := by
  have hany := hb.any_binding claim h fun b' => decide (b'.provider_external_ref.text ∈ seenRefs seen)
  simp only [decide_eq_true_eq] at hany
  rw [MonitoringDb.unreturned, decide_eq_true_eq, hb.activeIn claim h, Bool.not_eq_true', Bool.eq_false_iff, Ne, hany,
    hb.event, mem_seenRefs]

variable {complete_snapshot : Bool}

/-- An update of the active rows whose event was not seen settles every event. -/
theorem tracked_settled (h : db.Sound) (h' : db'.Sound) {q : MonitoringProblem → Bool}
    {f : MonitoringProblem → MonitoringProblem} (hid : ∀ r, (f r).identity = r.identity)
    (hbind : db'.bindings = db.bindings) (hprob : db'.problems = updateWhere q f db.problems)
    (hq : ∀ {e b p}, Bound db claim e b p → (q p = true ↔ p.status = .active ∧ e ∉ seen))
    (hf : ∀ p rid tr, p.status = .active → settle now complete_snapshot false (some ⟨rid, tr, p.status, p.evidence_state⟩) =
      some ⟨rid, tr, (f p).status, (f p).evidence_state⟩) (e : EventId) :
    db'.tracked claim e = settle now complete_snapshot (decide (e ∈ seen)) (db.tracked claim e) := by
  rcases h.bound_or claim e with ⟨b, p, hb⟩ | ⟨hnone, ht, -⟩
  · rw [(hb.update hbind hid hprob).tracked h', hb.tracked h]
    by_cases hom : p.status = .active ∧ e ∉ seen
    · rw [if_pos ((hq hb).2 hom), decide_eq_false hom.2]
      exact (hf p _ _ hom.1).symm
    · have hdec : ¬(p.status = .active ∧ decide (e ∈ seen) = false) := by simpa using hom
      rw [if_neg fun hqp => hom ((hq hb).1 hqp)]
      simp only [settle, Option.map_some, hdec, if_false]
  · rw [tracked_none_of_bindings hnone hbind, ht]
    rfl

theorem apply_omission_tracked (h : db.Sound) (hok : _apply_omission now claim complete_snapshot seen db = .ok db')
    (e : EventId) : db'.tracked claim e = settle now complete_snapshot (decide (e ∈ seen)) (db.tracked claim e) := by
  have h' := (apply_omission_moves now claim h hok).sound h
  cases complete_snapshot with
  | true =>
    obtain ⟨db₁, hok₁, -, hbind, hprob⟩ := apply_omission_complete now claim h seen
    rw [Except.ok.inj (hok₁.symm.trans hok)] at hbind hprob
    refine tracked_settled (f := omittedRow now claim) now claim h h' (fun _ => rfl) hbind hprob (fun hb => ?_) (fun p rid tr hact => ?_) e
    · rw [decide_eq_true_eq]
      exact hb.mem_omitted claim h seen
    · simp [settle, hact, omittedRow, resolvedRow]
  | false =>
    have hdb' := Except.ok.inj hok
    subst hdb'
    refine tracked_settled (f := unconfirmedRow) now claim h h' (fun _ => rfl) rfl rfl (fun hb => hb.unreturned claim h seen)
      (fun p rid tr hact => ?_) e
    simp [settle, hact, unconfirmedRow]

theorem apply_omission_outside (h : db.Sound) (hok : _apply_omission now claim complete_snapshot seen db = .ok db') :
    db'.outside claim = db.outside claim := by
  cases complete_snapshot with
  | true =>
    obtain ⟨db₁, hok₁, -, -, hprob⟩ := apply_omission_complete now claim h seen
    rw [Except.ok.inj (hok₁.symm.trans hok)] at hprob
    refine outside_update (f := omittedRow now claim) (fun _ => rfl) hprob fun r _ hq => ?_
    have hr := List.of_mem_filter (of_decide_eq_true hq)
    simp only [decide_eq_true_eq, MonitoringProblem.activeIn_iff] at hr
    exact ⟨hr.1.1, hr.1.2.1⟩
  | false =>
    have hdb' := Except.ok.inj hok
    subst hdb'
    refine outside_update (f := unconfirmedRow) (fun _ => rfl) rfl fun r _ hq => ?_
    simp only [MonitoringDb.unreturned, decide_eq_true_eq, MonitoringProblem.activeIn_iff] at hq
    exact ⟨hq.1.1, hq.1.2.1⟩

theorem apply_omission_ends (h : db.Sound) (complete_snapshot : Bool) (seen : List EventId) :
    ∃ db', _apply_omission now claim complete_snapshot seen db = .ok db' := by
  cases complete_snapshot with
  | true =>
    obtain ⟨db', hok, -⟩ := apply_omission_complete now claim h seen
    exact ⟨db', hok⟩
  | false => exact ⟨_, rfl⟩

end Rounds

/-! ### The passes, event by event -/

section Refinement

variable {now : Timestamp} {claim : ProblemStateClaim} {result : ProblemStateResult}
  {raw_rows : List ZabbixProblemEvidence} {recoveries : List ZabbixRecoveryEvidence} {db db' : MonitoringDb}

/-- The passes over the tables are the reconciliation of every event, and nothing else. -/
theorem reconcile_refines (h : db.Sound) (hok : reconcile now claim result raw_rows recoveries db = .ok db') :
    (∀ e, reconcileEvent now (db.resourceCurrent claim) result raw_rows recoveries e (db.tracked claim e) =
      .ok (db'.tracked claim e)) ∧ db'.outside claim = db.outside claim := by
  obtain ⟨⟨db₁, seen⟩, hok₁, hok⟩ := bind_ok_iff.1 hok
  obtain ⟨db₂, hok₂, hok⟩ := bind_ok_iff.1 hok
  have hobs := observe_local now claim (db.resourceCurrent claim) raw_rows (db.outside claim)
  have hrec := recover_local now claim (db.outside claim)
  have h₁ : db₁.Sound ∧ _ ∧ _ := foldlM_invariant (fun _ _ _ hs => hobs.keeps hs) ⟨h, rfl, rfl⟩ hok₁
  have h₂ : db₂.Sound ∧ _ := foldlM_invariant (fun _ _ _ hs => hrec.keeps hs) ⟨h₁.1, h₁.2.2⟩ hok₂
  refine ⟨fun e => ?_, (apply_omission_outside now claim h₂.1 hok).trans h₂.2⟩
  have he₁ := hobs.fold_ok ⟨h, rfl, rfl⟩ hok₁ e
  have he₂ := hrec.fold_ok ⟨h₁.1, h₁.2.2⟩ hok₂ e
  simp only [trackedSeen, List.not_mem_nil, decide_false] at he₁
  refine bind_ok_iff.2 ⟨_, he₁, bind_ok_iff.2 ⟨_, he₂, ?_⟩⟩
  rw [apply_omission_tracked now claim h₂.1 hok e]
  rfl

/-- They end exactly if the reconciliation of every event does. -/
theorem reconcile_ends_iff (h : db.Sound) :
    (∃ db', reconcile now claim result raw_rows recoveries db = .ok db') ↔
      ∀ e, ∃ c, reconcileEvent now (db.resourceCurrent claim) result raw_rows recoveries e (db.tracked claim e) =
        .ok c := by
  constructor
  · rintro ⟨db', hok⟩ e
    exact ⟨_, (reconcile_refines h hok).1 e⟩
  · intro hev
    have hobs := observe_local now claim (db.resourceCurrent claim) raw_rows (db.outside claim)
    have hrec := recover_local now claim (db.outside claim)
    have hfold := (hobs.fold_ends_iff (l := result.problems) (s := (db, [])) ⟨h, rfl, rfl⟩).2 fun e => by
      obtain ⟨c, hc⟩ := hev e
      obtain ⟨c₁, hc₁, -⟩ := bind_ok_iff.1 hc
      exact ⟨c₁, by simpa [trackedSeen] using hc₁⟩
    obtain ⟨⟨db₁, seen⟩, hok₁⟩ := hfold
    have h₁ : db₁.Sound ∧ _ ∧ _ := foldlM_invariant (fun _ _ _ hs => hobs.keeps hs) ⟨h, rfl, rfl⟩ hok₁
    have hfold₂ := (hrec.fold_ends_iff (l := recoveries) ⟨h₁.1, h₁.2.2⟩).2 fun e => by
      obtain ⟨c, hc⟩ := hev e
      obtain ⟨c₁, hc₁, hc⟩ := bind_ok_iff.1 hc
      obtain ⟨c₂, hc₂, -⟩ := bind_ok_iff.1 hc
      have he₁ := hobs.fold_ok ⟨h, rfl, rfl⟩ hok₁ e
      simp only [trackedSeen, List.not_mem_nil, decide_false] at he₁
      rw [← Except.ok.inj (he₁.symm.trans hc₁)] at hc₂
      exact ⟨c₂, hc₂⟩
    obtain ⟨db₂, hok₂⟩ := hfold₂
    have h₂ : db₂.Sound ∧ _ := foldlM_invariant (fun _ _ _ hs => hrec.keeps hs) ⟨h₁.1, h₁.2.2⟩ hok₂
    obtain ⟨db', hok⟩ := apply_omission_ends now claim h₂.1 result.complete_snapshot seen
    exact ⟨db', bind_ok_iff.2 ⟨_, hok₁, bind_ok_iff.2 ⟨_, hok₂, hok⟩⟩⟩

end Refinement

/-! ### What becomes of one event -/

section Outcome

variable {now : Timestamp} {current : String → Bool} {raw_rows : List ZabbixProblemEvidence}

/-- After the observations of an event, it is active and seen, and it was not resolved before. -/
theorem observe_all {l : List ProblemObservation} (hraw : ∀ o ∈ l, trigger_by_event raw_rows o.provider_eventid ≠ none)
    {c c' : Option Tracked × Bool} (hok : l.foldlM (observe current raw_rows) c = .ok c') :
    (l = [] ∧ c' = c) ∨ (l ≠ [] ∧ c'.2 = true ∧ ∃ k, c'.1 = some k ∧ k.status = .active ∧
      ∀ k₀, c.1 = some k₀ → k₀.status = .active) := by
  induction l generalizing c with
  | nil => exact Or.inl ⟨rfl, foldlM_nil_ok.1 hok⟩
  | cons o l ih =>
    obtain ⟨c₁, hstep, hok⟩ := foldlM_cons_ok.1 hok
    have hc₁ : c₁.2 = true ∧ (∃ k, c₁.1 = some k ∧ k.status = .active) ∧ ∀ k₀, c.1 = some k₀ → k₀.status = .active := by
      unfold observe at hstep
      split at hstep
      · rename_i hnone
        exact absurd hnone (hraw o List.mem_cons_self)
      · split_ifs at hstep
        split at hstep
        · rename_i hc
          rw [← Except.ok.inj hstep, hc]
          exact ⟨rfl, ⟨_, rfl, rfl⟩, by simp⟩
        · rename_i k hc
          split_ifs at hstep with hcol hact
          rw [← Except.ok.inj hstep, hc]
          exact ⟨rfl, ⟨_, rfl, not_not.1 hact⟩, fun k₀ hk₀ => Option.some.inj hk₀ ▸ not_not.1 hact⟩
    refine Or.inr ⟨List.cons_ne_nil _ _, ?_⟩
    rcases ih (fun o' ho' => hraw o' (List.mem_cons_of_mem o ho')) hok with ⟨-, rfl⟩ | ⟨-, hseen, k, hk, hact, -⟩
    · obtain ⟨k, hk, hact⟩ := hc₁.2.1
      exact ⟨hc₁.1, k, hk, hact, hc₁.2.2⟩
    · exact ⟨hseen, k, hk, hact, hc₁.2.2⟩

/-- After recovery evidence, an event is resolved; one that was resolved stays as it was. -/
theorem recover_all {l : List ZabbixRecoveryEvidence} {c c' : Option Tracked} (hok : l.foldlM recover c = .ok c') :
    (l = [] ∧ c' = c) ∨ (l ≠ [] ∧ ((c = none ∧ c' = none) ∨
      ∃ k k', c = some k ∧ c' = some k' ∧ k'.status ≠ .active ∧ (k.status ≠ .active → k' = k))) := by
  induction l generalizing c with
  | nil => exact Or.inl ⟨rfl, foldlM_nil_ok.1 hok⟩
  | cons ev l ih =>
    obtain ⟨c₁, hstep, hrest⟩ := foldlM_cons_ok.1 hok
    refine Or.inr ⟨List.cons_ne_nil _ _, ?_⟩
    cases c with
    | none =>
      rw [← Except.ok.inj hstep] at hrest
      rcases ih hrest with ⟨-, rfl⟩ | ⟨-, ⟨-, rfl⟩ | ⟨k, k', hk, -⟩⟩
      · exact Or.inl ⟨rfl, rfl⟩
      · exact Or.inl ⟨rfl, rfl⟩
      · cases hk
    | some k =>
      -- the first evidence resolves the event, or finds it resolved at that clock
      obtain ⟨k₁, rfl, hres, hsame⟩ : ∃ k₁, c₁ = some k₁ ∧ k₁.status ≠ .active ∧ (k.status ≠ .active → k₁ = k) := by
        unfold recover at hstep
        split at hstep
        · rename_i heq
          cases heq
        · rename_i k₀ heq
          cases heq
          split at hstep
          · rename_i hst
            refine ⟨_, (Except.ok.inj hstep).symm, by simp, fun hne => absurd hst hne⟩
          · rename_i r hst
            split_ifs at hstep
            exact ⟨k, (Except.ok.inj hstep).symm, by simp [hst], fun _ => rfl⟩
      rcases ih hrest with ⟨-, rfl⟩ | ⟨-, ⟨hk, -⟩ | ⟨k₂, k', hk, rfl, hres', hsame'⟩⟩
      · exact Or.inr ⟨k, k₁, rfl, rfl, hres, hsame⟩
      · cases hk
      · cases hk
        refine Or.inr ⟨k, k', rfl, rfl, hres', fun hne => ?_⟩
        rw [hsame' hres, hsame hne]

/-- What a result returns. -/
def Returned (result : ProblemStateResult) (e : EventId) : Prop := ∃ o ∈ result.problems, o.provider_eventid = e

/-- What has recovery evidence. -/
def Recovered (recoveries : List ZabbixRecoveryEvidence) (e : EventId) : Prop :=
  ∃ ev ∈ recoveries, ev.problem_eventid = e

theorem filter_eq_nil_iff_not_returned (result : ProblemStateResult) (e : EventId) :
    (result.problems.filter fun o => o.provider_eventid = e) = [] ↔ ¬Returned result e := by
  simp [Returned, List.filter_eq_nil_iff]

theorem filter_eq_nil_iff_not_recovered (recoveries : List ZabbixRecoveryEvidence) (e : EventId) :
    (recoveries.filter fun ev => ev.problem_eventid = e) = [] ↔ ¬Recovered recoveries e := by
  simp [Recovered, List.filter_eq_nil_iff]

/-- The four courses of an event through a result. -/
theorem reconcileEvent_cases {result : ProblemStateResult} {recoveries : List ZabbixRecoveryEvidence} {e : EventId}
    {c c' : Option Tracked} (hraw : ∀ o ∈ result.problems, trigger_by_event raw_rows o.provider_eventid ≠ none)
    (hok : reconcileEvent now current result raw_rows recoveries e c = .ok c') :
    (Returned result e ∧ ¬Recovered recoveries e ∧ ∃ k', c' = some k' ∧ k'.status = .active) ∨
    (Returned result e ∧ Recovered recoveries e ∧ ∃ k', c' = some k' ∧ k'.status ≠ .active) ∨
    (¬Returned result e ∧ ¬Recovered recoveries e ∧ c' = settle now result.complete_snapshot false c) ∨
    (¬Returned result e ∧ Recovered recoveries e ∧ ((c = none ∧ c' = none) ∨
      ∃ k k', c = some k ∧ c' = some k' ∧ k'.status ≠ .active ∧ (k.status ≠ .active → k' = k))) := by
  obtain ⟨⟨c₁, seen⟩, hobs, hok⟩ := bind_ok_iff.1 hok
  obtain ⟨c₂, hrec, hok⟩ := bind_ok_iff.1 hok
  rw [← Except.ok.inj hok]
  have hret := filter_eq_nil_iff_not_returned result e
  have hrcv := filter_eq_nil_iff_not_recovered recoveries e
  have hactive : ∀ k : Tracked, k.status ≠ .active →
      settle now result.complete_snapshot seen (some k) = some k := fun k hk => by simp [settle, hk]
  rcases observe_all (fun o ho => hraw o (List.mem_of_mem_filter ho)) hobs with ⟨hnil, hc₁⟩ | ⟨hne, hseen, k, hk, hact, -⟩
  · obtain ⟨rfl, rfl⟩ := Prod.mk.inj hc₁
    rcases recover_all hrec with ⟨hnil', rfl⟩ | ⟨hne', hc₂⟩
    · exact Or.inr (Or.inr (Or.inl ⟨hret.1 hnil, hrcv.1 hnil', rfl⟩))
    · refine Or.inr (Or.inr (Or.inr ⟨hret.1 hnil, not_not.1 fun h => hne' (hrcv.2 h), ?_⟩))
      rcases hc₂ with ⟨hc, rfl⟩ | ⟨k, k', hk, rfl, hres, hsame⟩
      · exact Or.inl ⟨hc, rfl⟩
      · exact Or.inr ⟨k, k', hk, hactive k' hres, hres, hsame⟩
  · have hreturned : Returned result e := not_not.1 fun h => hne (hret.2 h)
    simp only at hseen hk
    subst hseen hk
    rcases recover_all hrec with ⟨hnil', rfl⟩ | ⟨hne', hc₂⟩
    · exact Or.inl ⟨hreturned, hrcv.1 hnil', k, by simp [settle], hact⟩
    · refine Or.inr (Or.inl ⟨hreturned, not_not.1 fun h => hne' (hrcv.2 h), ?_⟩)
      rcases hc₂ with ⟨hc, -⟩ | ⟨k₀, k', -, rfl, hres, -⟩
      · cases hc
      · exact ⟨k', hactive k' hres, hres⟩

end Outcome

/-! ### What a completion leaves behind -/

section Exactness

variable {now : Timestamp} {claim : ProblemStateClaim} {result : ProblemStateResult}
  {raw_rows : List ZabbixProblemEvidence} {recoveries : List ZabbixRecoveryEvidence} {db db' : MonitoringDb}

/-- The events that a result leaves active: returned, and without recovery evidence. -/
def Live (result : ProblemStateResult) (recoveries : List ZabbixRecoveryEvidence) (e : EventId) : Prop :=
  Returned result e ∧ ¬Recovered recoveries e

/-- The generation after a complete snapshot. -/
structure ExactlyLive (claim : ProblemStateClaim) (result : ProblemStateResult)
    (recoveries : List ZabbixRecoveryEvidence) (db db' : MonitoringDb) : Prop where
  /-- The active problems of the generation are those of live events. -/
  active_iff : ∀ p ∈ db'.problems, p.activeIn claim = true ↔ ∃ e b, Bound db' claim e b p ∧ Live result recoveries e
  /-- Every live event has its problem. -/
  live_bound : ∀ e, Live result recoveries e → ∃ b p, Bound db' claim e b p
  /-- A problem that was active, and whose event is not live, is resolved. -/
  resolved : ∀ e b p, Bound db claim e b p → p.status = .active → ¬Live result recoveries e →
    ∃ p', Bound db' claim e b p' ∧ p'.status ≠ .active

/-- The tables after an incomplete snapshot. -/
structure OnlyRecovered (claim : ProblemStateClaim) (result : ProblemStateResult)
    (recoveries : List ZabbixRecoveryEvidence) (db db' : MonitoringDb) : Prop where
  /-- A problem that is resolved was so before, or its event has recovery evidence. -/
  resolved_only : ∀ p ∈ db'.problems, p.status ≠ .active →
    p ∈ db.problems ∨ ∃ e b, Bound db' claim e b p ∧ Recovered recoveries e
  /-- An active problem with recovery evidence is resolved. -/
  recovered : ∀ e b p, Bound db claim e b p → p.status = .active → Recovered recoveries e →
    ∃ p', Bound db' claim e b p' ∧ p'.status ≠ .active
  /-- An active problem that is not returned, and has no recovery evidence, stays active. -/
  unreturned : ∀ e b p, Bound db claim e b p → p.status = .active → ¬Returned result e → ¬Recovered recoveries e →
    ∃ p', Bound db' claim e b p' ∧ p'.status = .active
  /-- Whatever is active and was not returned is left unconfirmed. -/
  unconfirmed : ∀ e b p, Bound db' claim e b p → p.status = .active → ¬Returned result e →
    p.evidence_state = .reconciliation_required

theorem Bound.congr {e : EventId} {b : ProblemProviderBinding} {p : MonitoringProblem} (hb : Bound db claim e b p)
    (hbind : db'.bindings = db.bindings) (hprob : db'.problems = db.problems) : Bound db' claim e b p :=
  ⟨hbind ▸ hb.binding, hb.source, hb.generation, hb.event, hprob ▸ hb.row, hb.problem_id⟩

theorem Bound.later {e : EventId} {b : ProblemProviderBinding} {p : MonitoringProblem} (hb : Bound db claim e b p)
    (hev : Evolves db db') (h' : db'.Sound) : ∃ p', Bound db' claim e b p' := by
  obtain ⟨p', hp', hid⟩ := h'.exists_problem (hev.bindings b hb.binding)
  exact ⟨p', hev.bindings b hb.binding, hb.source, hb.generation, hb.event, hp', congrArg Prod.fst hid⟩

/-- The course of an event that is bound in the end, read off its row. -/
theorem reconcile_row_cases (h : db.Sound) (h' : db'.Sound)
    (hraw : ∀ o ∈ result.problems, trigger_by_event raw_rows o.provider_eventid ≠ none)
    (hok : reconcile now claim result raw_rows recoveries db = .ok db') {e : EventId} {b : ProblemProviderBinding}
    {p : MonitoringProblem} (hb : Bound db' claim e b p) :
    (Returned result e ∧ ¬Recovered recoveries e ∧ p.status = .active) ∨
    (Recovered recoveries e ∧ p.status ≠ .active) ∨
    (¬Returned result e ∧ ¬Recovered recoveries e ∧
      some ⟨b.monitoring_resource_id, b.provider_trigger_ref, p.status, p.evidence_state⟩ =
        settle now result.complete_snapshot false (db.tracked claim e)) := by
  have hcase := reconcileEvent_cases hraw ((reconcile_refines h hok).1 e)
  rw [hb.tracked h'] at hcase
  rcases hcase with ⟨hret, hrec, k', hk', hact⟩ | ⟨-, hrec, k', hk', hres⟩ | ⟨hret, hrec, hk'⟩ |
    ⟨-, hrec, ⟨-, hk'⟩ | ⟨-, k', -, hk', hres, -⟩⟩
  · cases hk'
    exact Or.inl ⟨hret, hrec, hact⟩
  · cases hk'
    exact Or.inr (Or.inl ⟨hrec, hres⟩)
  · exact Or.inr (Or.inr ⟨hret, hrec, hk'⟩)
  · cases hk'
  · cases hk'
    exact Or.inr (Or.inl ⟨hrec, hres⟩)

theorem reconcile_complete (h : db.Sound)
    (hraw : ∀ o ∈ result.problems, trigger_by_event raw_rows o.provider_eventid ≠ none)
    (hok : reconcile now claim result raw_rows recoveries db = .ok db') (hc : result.complete_snapshot = true) :
    ExactlyLive claim result recoveries db db' := by
  have hm := reconcile_moves now claim h hok
  have h' := hm.sound h
  have hactive : ∀ {e b p}, Bound db' claim e b p → (p.status = .active ↔ Live result recoveries e) := by
    intro e b p hb
    rcases reconcile_row_cases h h' hraw hok hb with ⟨hret, hrec, hact⟩ | ⟨hrec, hres⟩ | ⟨hret, -, hset⟩
    · exact ⟨fun _ => ⟨hret, hrec⟩, fun _ => hact⟩
    · exact ⟨fun hact => absurd hact hres, fun hlive => absurd hrec hlive.2⟩
    · refine ⟨fun hact => ?_, fun hlive => absurd hlive.1 hret⟩
      exact absurd ((settle_active hset hact).1.symm.trans hc) (by decide)
  refine ⟨fun p hp => ⟨fun hact => ?_, ?_⟩, fun e hlive => ?_, fun e b p hb hact hnot => ?_⟩
  · obtain ⟨hs, hg, hst⟩ := (MonitoringProblem.activeIn_iff claim).1 hact
    obtain ⟨e, b, hb⟩ := h'.exists_bound hp hs hg
    exact ⟨e, b, hb, (hactive hb).1 hst⟩
  · rintro ⟨e, b, hb, hlive⟩
    exact (hb.activeIn claim h').2 ((hactive hb).2 hlive)
  · rcases h'.bound_or claim e with hbound | ⟨-, hnone, -⟩
    · exact hbound
    · have hcase := reconcileEvent_cases hraw ((reconcile_refines h hok).1 e)
      rw [hnone] at hcase
      rcases hcase with ⟨-, -, k', hk', -⟩ | ⟨-, hrec, -⟩ | ⟨hret, -⟩ | ⟨hret, -⟩
      · cases hk'
      · exact absurd hrec hlive.2
      · exact absurd hlive.1 hret
      · exact absurd hlive.1 hret
  · obtain ⟨p', hb'⟩ := hb.later (hm.evolves h) h'
    exact ⟨p', hb', fun hact' => hnot ((hactive hb').1 hact')⟩

theorem reconcile_incomplete (h : db.Sound)
    (hraw : ∀ o ∈ result.problems, trigger_by_event raw_rows o.provider_eventid ≠ none)
    (hok : reconcile now claim result raw_rows recoveries db = .ok db') (hc : result.complete_snapshot = false) :
    OnlyRecovered claim result recoveries db db' := by
  have hm := reconcile_moves now claim h hok
  have h' := hm.sound h
  have hev := hm.evolves h
  refine ⟨fun p hp hres => ?_, fun e b p hb hact hrec => ?_, fun e b p hb hact hret hrec => ?_,
    fun e b p hb hact hret => ?_⟩
  · by_cases hgen : p.monitoring_source_id = claim.monitoring_source_id ∧
      p.source_instance_generation = claim.source_instance_generation
    · obtain ⟨e, b, hb⟩ := h'.exists_bound hp hgen.1 hgen.2
      rcases reconcile_row_cases h h' hraw hok hb with ⟨-, -, hact⟩ | ⟨hrec, -⟩ | ⟨-, -, hset⟩
      · exact absurd hact hres
      · exact Or.inr ⟨e, b, hb, hrec⟩
      · -- the event was resolved before, and a resolved row is never touched
        rcases h.bound_or claim e with ⟨b₀, p₀, hb₀⟩ | ⟨-, hnone, -⟩
        · rw [hb₀.tracked h] at hset
          rw [hc] at hset
          have hres₀ : p₀.status ≠ .active := fun hact₀ => hres ((settle_incomplete hset).trans hact₀)
          have hb₁ : Bound db' claim e b₀ p₀ := ⟨hev.bindings b₀ hb₀.binding, hb₀.source, hb₀.generation, hb₀.event,
            hev.frozen p₀ hb₀.row hres₀, hb₀.problem_id⟩
          have hbb : b₀ = b := Option.some.inj ((hb₁.bindingOf h').symm.trans (hb.bindingOf h'))
          subst hbb
          rw [Option.some.inj ((hb.problem h').symm.trans (hb₁.problem h'))]
          exact Or.inl hb₀.row
        · rw [hnone] at hset
          cases hset
    · have hout : p ∈ db'.outside claim := List.mem_filter.2 ⟨hp, decide_eq_true hgen⟩
      rw [(reconcile_refines h hok).2] at hout
      exact Or.inl (List.mem_of_mem_filter hout)
  · obtain ⟨p', hb'⟩ := hb.later hev h'
    refine ⟨p', hb', ?_⟩
    rcases reconcile_row_cases h h' hraw hok hb' with ⟨-, hrec', -⟩ | ⟨-, hres⟩ | ⟨-, hrec', -⟩
    · exact absurd hrec hrec'
    · exact hres
    · exact absurd hrec hrec'
  · obtain ⟨p', hb'⟩ := hb.later hev h'
    refine ⟨p', hb', ?_⟩
    rcases reconcile_row_cases h h' hraw hok hb' with ⟨hret', -⟩ | ⟨hrec', -⟩ | ⟨-, -, hset⟩
    · exact absurd hret' hret
    · exact absurd hrec' hrec
    · rw [hb.tracked h, hc] at hset
      exact (settle_incomplete hset).trans hact
  · rcases reconcile_row_cases h h' hraw hok hb with ⟨hret', -⟩ | ⟨-, hres⟩ | ⟨-, -, hset⟩
    · exact absurd hret' hret
    · exact absurd hact hres
    · exact (settle_active hset hact).2

/-- The rest of a completion does not touch bindings and problems. -/
theorem complete_tables (hok : complete_problem_state now claim result raw_rows recoveries db = .ok db') :
    (result.succeeded = true → ∃ db₁, reconcile now claim result raw_rows recoveries db = .ok db₁ ∧
      db'.bindings = db₁.bindings ∧ db'.problems = db₁.problems) ∧
    (result.succeeded = false → db'.problems = db.problems) := by
  obtain ⟨-, db₂, hok₂, rfl⟩ := complete_ok.1 hok
  have hclose : ∀ db₂ : MonitoringDb,
      (enqueueInventory claim result (closeOperation now claim result db₂)).bindings = db₂.bindings ∧
        (enqueueInventory claim result (closeOperation now claim result db₂)).problems = db₂.problems := by
    intro db₂
    unfold enqueueInventory
    split_ifs <;> exact ⟨rfl, rfl⟩
  have hsnap : ∀ db₁ : MonitoringDb, (recordSnapshot claim result recoveries db₁).bindings = db₁.bindings ∧
      (recordSnapshot claim result recoveries db₁).problems = db₁.problems := by
    intro db₁
    unfold recordSnapshot
    split_ifs <;> exact ⟨rfl, rfl⟩
  unfold applyResult at hok₂
  refine ⟨fun hs => ?_, fun hs => ?_⟩
  · rw [if_pos hs] at hok₂
    obtain ⟨db₁, hrec, rfl⟩ := map_ok_iff.1 hok₂
    exact ⟨db₁, hrec, (hclose _).1.trans (hsnap db₁).1, (hclose _).2.trans (hsnap db₁).2⟩
  · rw [if_neg (by simp [hs])] at hok₂
    rw [← Except.ok.inj hok₂]
    exact (hclose db).2

theorem ExactlyLive.congr {db'' : MonitoringDb} (h : ExactlyLive claim result recoveries db db')
    (hbind : db''.bindings = db'.bindings) (hprob : db''.problems = db'.problems) :
    ExactlyLive claim result recoveries db db'' where
  active_iff p hp := by
    rw [h.active_iff p (hprob ▸ hp)]
    exact exists₂_congr fun e b => and_congr_left fun _ =>
      ⟨fun hb => hb.congr hbind hprob, fun hb => hb.congr hbind.symm hprob.symm⟩
  live_bound e he := by
    obtain ⟨b, p, hb⟩ := h.live_bound e he
    exact ⟨b, p, hb.congr hbind hprob⟩
  resolved e b p hb hact hnot := by
    obtain ⟨p', hb', hres⟩ := h.resolved e b p hb hact hnot
    exact ⟨p', hb'.congr hbind hprob, hres⟩

theorem OnlyRecovered.congr {db'' : MonitoringDb} (h : OnlyRecovered claim result recoveries db db')
    (hbind : db''.bindings = db'.bindings) (hprob : db''.problems = db'.problems) :
    OnlyRecovered claim result recoveries db db'' where
  resolved_only p hp hres := by
    rcases h.resolved_only p (hprob ▸ hp) hres with hold | ⟨e, b, hb, hrec⟩
    · exact Or.inl hold
    · exact Or.inr ⟨e, b, hb.congr hbind hprob, hrec⟩
  recovered e b p hb hact hrec := by
    obtain ⟨p', hb', hres⟩ := h.recovered e b p hb hact hrec
    exact ⟨p', hb'.congr hbind hprob, hres⟩
  unreturned e b p hb hact hret hrec := by
    obtain ⟨p', hb', hact'⟩ := h.unreturned e b p hb hact hret hrec
    exact ⟨p', hb'.congr hbind hprob, hact'⟩
  unconfirmed e b p hb := h.unconfirmed e b p (hb.congr hbind.symm hprob.symm)

end Exactness

/-- The raw rows contain the event of every problem of a result. -/
def RawComplete (result : ProblemStateResult) (raw_rows : List ZabbixProblemEvidence) : Prop :=
  ∀ o ∈ result.problems, ∃ r ∈ raw_rows, r.eventid = o.provider_eventid

theorem RawComplete.trigger {result : ProblemStateResult} {raw_rows : List ZabbixProblemEvidence}
    (h : RawComplete result raw_rows) : ∀ o ∈ result.problems, trigger_by_event raw_rows o.provider_eventid ≠ none := by
  intro o ho hnone
  obtain ⟨r, hr, he⟩ := h o ho
  simp only [trigger_by_event, Option.map_eq_none_iff, List.find?_eq_none, List.mem_reverse] at hnone
  exact hnone r hr (by simpa using he)

/-- **Key result**: a completion that commits, from the tables of any run, leaves exactly the live
events active after a complete snapshot, resolves after an incomplete one only what has recovery
evidence and marks what is not confirmed, and touches no problem after a failed poll. -/
theorem reconciliation_exact (bridge : BridgeVersion) (run : List Action) (now : Timestamp)
    (claim : ProblemStateClaim) (result : ProblemStateResult) (raw_rows : List ZabbixProblemEvidence)
    (recoveries : List ZabbixRecoveryEvidence) (db' : MonitoringDb) (hraw : RawComplete result raw_rows)
    (hok : complete_problem_state now claim result raw_rows recoveries (.exec bridge run) = .ok db') :
    (result.succeeded = true → result.complete_snapshot = true →
      ExactlyLive claim result recoveries (.exec bridge run) db') ∧
    (result.succeeded = true → result.complete_snapshot = false →
      OnlyRecovered claim result recoveries (.exec bridge run) db') ∧
    (result.succeeded = false → db'.problems = (MonitoringDb.exec bridge run).problems) := by
  have h := exec_sound bridge run
  obtain ⟨hsucc, hfail⟩ := complete_tables hok
  refine ⟨fun hs hc => ?_, fun hs hc => ?_, hfail⟩
  · obtain ⟨db₁, hrec, hbind, hprob⟩ := hsucc hs
    exact (reconcile_complete h hraw.trigger hrec hc).congr hbind hprob
  · obtain ⟨db₁, hrec, hbind, hprob⟩ := hsucc hs
    exact (reconcile_incomplete h hraw.trigger hrec hc).congr hbind hprob

/-! ### A source with one host and one event -/

/-- A pending poll of the source. -/
def pendingPoll (op_id : String) : SyncOperation :=
  ⟨op_id, "src", "gen", 1, 1, .problem_state_sync, .pending, none, none, none, none, none, none, none, none⟩

/-- The source with pending polls. -/
def polledSource (polls : List String) : Surroundings where
  sources := [⟨"src", "gen", 1, 1, "cred", .current, none, none, 1, 0, 1, 0⟩]
  generations := [⟨"src", "gen", "zabbix", "https://zabbix.example"⟩]
  operations := polls.map pendingPoll
  admissions := [⟨"src", 1⟩]
  resources := [⟨"host", "src", "gen", true, .current⟩]
  triggerBindings := [⟨"src", "gen", "trigger", "host"⟩]
  bridge := .contractEnvelope

/-- The claim of its `n`-th poll. -/
def pollClaim (op_id token : String) (n : ℕ) : ProblemStateClaim :=
  ⟨token, op_id, "src", "gen", 1, 1, 1, n, "zabbix", "https://zabbix.example", "cred", [("trigger", "host")]⟩

/-- The event. -/
def diskFull : EventId := ⟨"100", by decide⟩

/-- The event, as a poll returns it. -/
def diskFullProblem : ProblemObservation := ⟨diskFull, "host", .warning, "disk full", 1700000000, false, []⟩

/-- A successful complete result. -/
def snapshotOf (problems : List ProblemObservation) : ProblemStateResult :=
  ⟨true, true, .succeeded, .current, none, problems⟩

theorem reconciliation_exact_first_poll :
    ∃ db', complete_problem_state 5 (pollClaim "op1" "t1" 1) (snapshotOf [diskFullProblem]) [⟨diskFull, "trigger"⟩] []
        (.exec .contractEnvelope [.surroundings (polledSource ["op1"]), .claim 5 "op1" "t1"]) = .ok db' ∧
      ExactlyLive (pollClaim "op1" "t1" 1) (snapshotOf [diskFullProblem]) []
        (.exec .contractEnvelope [.surroundings (polledSource ["op1"]), .claim 5 "op1" "t1"]) db' := by
  have hraw : RawComplete (snapshotOf [diskFullProblem]) [⟨diskFull, "trigger"⟩] := by
    simp [RawComplete, snapshotOf, diskFullProblem]
  exact ⟨_, rfl, (reconciliation_exact _ _ _ _ _ _ _ _ hraw rfl).1 rfl rfl⟩

end JLMirror.Monitoring
