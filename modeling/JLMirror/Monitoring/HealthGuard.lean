import JLMirror.Monitoring.PollOrder

/-!
# The guard of the health projection

A pass of `project_source_health` decides the rows of all resources of a source in one transaction, and a
trigger checks every row that it writes. The flags of the writer and the conditions of the trigger are two
statements of one rule; where they differ, a row is rejected, and the whole pass with it.

## The model

* `projectCell` is what a round of the pass does to the row of its resource: the rounds do not disturb each other
  (`projectResource_local`).
* `Domain.DerivesHealth` is what the repository relies on in `derive_health`.
* `Accounted` holds of every state: ids of resources are unique, every projection is of a resource of its source,
  and every transition is at a revision that its projection has had.

## What is proved

* `guard_decidedRow_iff`: a decided row passes the guard if its presence is confirmed where the writer takes its
  evidence for current. The writer does not look at `presence_evidence_state`, which a failed inventory degrades.
* `pass_ok_iff`: a pass commits if each of its rows passes the guard. No other check rejects a row.
* **Key result** (`health_pass_aborts_iff`): in every state that a run reaches, a pass aborts exactly where a row is
  to change on evidence that is current to the writer, of a resource whose presence is not confirmed.
-/

namespace JLMirror.Monitoring

open JLMirror.Foundations Sync

/-! ### The rows of a pass -/

/-- Every transition is of a projection that is there, at a revision that it has had. -/
def HealthTables.Numbered (t : HealthTables) : Prop :=
  ∀ x ∈ t.transitions, ∃ p, t.projection x.monitoring_resource_id x.source_instance_generation = some p ∧
    x.projection_revision ≤ p.projection_revision

theorem projection_key {t : HealthTables} {resource_id generation : String} {p : HealthProjection}
    (h : t.projection resource_id generation = some p) :
    p.monitoring_resource_id = resource_id ∧ p.source_instance_generation = generation := by
  simpa using List.find?_some h

/-- After a write, the row is that of its key, and the others are as before. -/
theorem projection_write {t : HealthTables} {old : Option HealthProjection} {new : HealthProjection}
    (h : t.projection new.monitoring_resource_id new.source_instance_generation = old) (resource_id generation : String) :
    (t.write old new).projection resource_id generation =
      if new.monitoring_resource_id = resource_id ∧ new.source_instance_generation = generation then some new
      else t.projection resource_id generation := by
  cases old with
  | none =>
    rw [HealthTables.projection, HealthTables.write, List.find?_append, List.find?_singleton]
    by_cases hkey : new.monitoring_resource_id = resource_id ∧ new.source_instance_generation = generation
    · obtain ⟨rfl, rfl⟩ := hkey
      rw [HealthTables.projection] at h
      rw [h, Option.none_or, if_pos (decide_eq_true ⟨rfl, rfl⟩)]
      exact (if_pos ⟨rfl, rfl⟩).symm
    · rw [if_neg hkey, if_neg (by simpa using hkey), Option.or_none, HealthTables.projection]
  | some o =>
    rw [HealthTables.projection, HealthTables.write, find?_updateWhere (by intro r hr; simp_all)]
    by_cases hkey : new.monitoring_resource_id = resource_id ∧ new.source_instance_generation = generation
    · obtain ⟨rfl, rfl⟩ := hkey
      have ho := projection_key h
      rw [HealthTables.projection] at h
      rw [h, Option.map_some, if_pos (decide_eq_true ho)]
      exact (if_pos ⟨rfl, rfl⟩).symm
    · rw [if_neg hkey, HealthTables.projection]
      cases hfind : t.projections.find? fun p =>
        p.monitoring_resource_id = resource_id ∧ p.source_instance_generation = generation with
      | none => rfl
      | some p =>
        have hp : p.monitoring_resource_id = resource_id ∧ p.source_instance_generation = generation :=
          projection_key hfind
        rw [Option.map_some, if_neg]
        simp only [decide_eq_true_eq, hp.1, hp.2]
        exact fun h => hkey ⟨h.1.symm, h.2.symm⟩

/-- The transition of a written row. -/
def healthTransition (old : Option HealthProjection) (new : HealthProjection) (id : ℕ) : HealthTransition where
  health_transition_id := id
  monitoring_resource_id := new.monitoring_resource_id
  monitoring_source_id := new.monitoring_source_id
  source_instance_generation := new.source_instance_generation
  from_health_class := old.map HealthProjection.health_class
  to_health_class := new.health_class
  from_evidence_state := old.map HealthProjection.evidence_state
  to_evidence_state := new.evidence_state
  projection_revision := new.projection_revision
  problem_snapshot_evidence_id := new.problem_snapshot_evidence_id
  reason_refs := new.reason_refs

/-- A pass that has written a row. -/
def HealthPass.wrote (old : Option HealthProjection) (new : HealthProjection) (p : HealthPass) : HealthPass where
  tables := { p.tables.write old new with
    transitions := p.tables.transitions ++ [healthTransition old new p.nextId] }
  nextId := p.nextId + 1
  written := p.written + 1

/-- A transition at the key and revision of a row. -/
def HealthTransition.of (new : HealthProjection) (x : HealthTransition) : Bool :=
  x.monitoring_resource_id = new.monitoring_resource_id ∧
    x.source_instance_generation = new.source_instance_generation ∧ x.projection_revision = new.projection_revision

variable {domain : Domain} {p : HealthPass}

/-- A round writes the row that it decides where that differs from the one there, the guard passes it, and its
revision is new. -/
theorem projectResource_ok_iff {db : SyncDb} {s : SourceRow} {p' : HealthPass} {r : ResourceRow}
    {decision : HealthDecision} {old : Option HealthProjection} {new : HealthProjection}
    (hdecision : domain.derive_health (healthInput db s r) = decision)
    (hold : p.tables.projection r.monitoring_resource_id s.active_source_instance_generation = old)
    (hnew : decidedRow db s r decision old = new) :
    projectResource domain db s p r = .ok p' ↔
      (decisionChanges decision old = false ∧ p' = p) ∨
      (decisionChanges decision old = true ∧ guard_health_projection_mutation db old new = .ok () ∧
        (∀ x ∈ p.tables.transitions, x.of new = false) ∧ p' = p.wrote old new) := by
  simp only [projectResource, hdecision, hold, hnew]
  split_ifs with hchange
  · simp only [hchange, false_and, true_and, false_or, Bool.true_eq_false]
    constructor
    · intro h
      obtain ⟨_, hguard, h⟩ := bind_ok_iff.1 h
      obtain ⟨transitions, hins, h⟩ := bind_ok_iff.1 h
      obtain ⟨hfresh, rfl⟩ := insertUnless_ok_iff.1 hins
      exact ⟨hguard, hfresh, (Except.ok.inj h).symm⟩
    · rintro ⟨hguard, hfresh, rfl⟩
      exact bind_ok_iff.2 ⟨(), hguard, bind_ok_iff.2 ⟨_, insertUnless_of_new hfresh, rfl⟩⟩
  · simp only [hchange, true_and, false_and, or_false, Bool.false_eq_true]
    exact ⟨fun h => (Except.ok.inj h).symm, fun h => congrArg Except.ok h.symm⟩

section Decided

variable (db : SyncDb) (s : SourceRow) (r : ResourceRow) (decision : HealthDecision) {t : HealthTables}
  {old : Option HealthProjection}

theorem decidedRow_key (h : t.projection r.monitoring_resource_id s.active_source_instance_generation = old) :
    (decidedRow db s r decision old).monitoring_resource_id = r.monitoring_resource_id ∧
      (decidedRow db s r decision old).source_instance_generation = s.active_source_instance_generation := by
  cases old with
  | none => exact ⟨rfl, rfl⟩
  | some o =>
    obtain ⟨hid, hgen⟩ := projection_key h
    exact ⟨hid, hgen⟩

theorem decidedRow_revision : ∀ o ∈ old, o.projection_revision < (decidedRow db s r decision old).projection_revision := by
  rintro o rfl
  exact Nat.lt_succ_self _

/-- So its transition is new. -/
theorem decidedRow_new (ht : t.Numbered)
    (h : t.projection r.monitoring_resource_id s.active_source_instance_generation = old) :
    ∀ x ∈ t.transitions, x.of (decidedRow db s r decision old) = false := by
  intro x hx
  refine decide_eq_false ?_
  rintro ⟨hid, hgen, hrev⟩
  obtain ⟨hid', hgen'⟩ := decidedRow_key db s r decision h
  obtain ⟨p, hp, hle⟩ := ht x hx
  rw [hid, hid', hgen, hgen', h] at hp
  have := decidedRow_revision db s r decision p hp
  omega

theorem projection_wrote (h : p.tables.projection r.monitoring_resource_id s.active_source_instance_generation = old)
    (resource_id generation : String) :
    (p.wrote old (decidedRow db s r decision old)).tables.projection resource_id generation =
      if r.monitoring_resource_id = resource_id ∧ s.active_source_instance_generation = generation then
        some (decidedRow db s r decision old)
      else p.tables.projection resource_id generation := by
  obtain ⟨hid, hgen⟩ := decidedRow_key db s r decision h
  refine (projection_write (t := p.tables) (by rw [hid, hgen, h]) resource_id generation).trans ?_
  rw [hid, hgen]

/-- With it the transitions are still of projections that are there. -/
theorem numbered_wrote (ht : p.tables.Numbered)
    (h : p.tables.projection r.monitoring_resource_id s.active_source_instance_generation = old) :
    (p.wrote old (decidedRow db s r decision old)).tables.Numbered := by
  obtain ⟨hid, hgen⟩ := decidedRow_key db s r decision h
  intro x hx
  rw [projection_wrote db s r decision h]
  rcases List.mem_append.1 hx with hx | hx
  · obtain ⟨o, ho, hle⟩ := ht x hx
    split_ifs with hkey
    · refine ⟨_, rfl, ?_⟩
      rw [← hkey.1, ← hkey.2, h] at ho
      exact hle.trans (decidedRow_revision db s r decision o ho).le
    · exact ⟨o, ho, hle⟩
  · obtain rfl := List.mem_singleton.1 hx
    rw [if_pos ⟨hid.symm, hgen.symm⟩]
    exact ⟨_, rfl, le_rfl⟩

end Decided

/-- What a round does to the row of its resource. -/
def projectCell (domain : Domain) (db : SyncDb) (s : SourceRow) (old : Option HealthProjection) (r : ResourceRow) :
    Except String (Option HealthProjection) := do
  let decision := domain.derive_health (healthInput db s r)
  if decisionChanges decision old then
    let new := decidedRow db s r decision old
    guard_health_projection_mutation db old new
    .ok (some new)
  else .ok old

/-- The rounds of a pass do not disturb each other. -/
theorem projectResource_local (domain : Domain) (db : SyncDb) (s : SourceRow) :
    LocalStep (fun p : HealthPass => p.tables.Numbered)
      (fun p resource_id => p.tables.projection resource_id s.active_source_instance_generation)
      (fun r : ResourceRow => r.monitoring_resource_id) (projectCell domain db s) (projectResource domain db s) := by
  refine LocalStep.of_cases fun p r hp => ?_
  obtain ⟨decision, hdecision⟩ : ∃ d, domain.derive_health (healthInput db s r) = d := ⟨_, rfl⟩
  obtain ⟨old, hold⟩ :
    ∃ o, p.tables.projection r.monitoring_resource_id s.active_source_instance_generation = o := ⟨_, rfl⟩
  have hround (p' : HealthPass) : projectResource domain db s p r = .ok p' ↔ _ :=
    projectResource_ok_iff hdecision hold rfl
  by_cases hchange : decisionChanges decision old
  · cases hguard : guard_health_projection_mutation db old (decidedRow db s r decision old) with
    | error e =>
      refine Or.inl ⟨e, ?_, ?_⟩
      · simp only [projectResource, hdecision, hold]
        rw [if_pos hchange, hguard]
        rfl
      · simp only [projectCell, hdecision, hold]
        rw [if_pos hchange, hguard]
        rfl
    | ok u =>
      refine Or.inr ⟨_, (hround _).2 (Or.inr ⟨hchange, hguard, decidedRow_new db s r decision hp hold, rfl⟩),
        numbered_wrote db s r decision hp hold, ?_, fun k hk => ?_⟩
      · rw [projection_wrote db s r decision hold, if_pos ⟨rfl, rfl⟩]
        simp only [projectCell, hdecision, hold]
        rw [if_pos hchange, hguard]
        rfl
      · rw [projection_wrote db s r decision hold, if_neg fun h => hk h.1.symm]
  · refine Or.inr ⟨p, (hround _).2 (Or.inl ⟨by simpa using hchange, rfl⟩), hp, ?_, fun _ _ => rfl⟩
    simp only [projectCell, hdecision, hold]
    rw [if_neg hchange]

/-! ### The guard on a decided row -/

/-- What the repository relies on in `derive_health`. -/
structure Domain.DerivesHealth (domain : Domain) : Prop where
  /-- Evidence is current exactly when every flag is set and the evidence given is current. -/
  current_iff : ∀ i, (domain.derive_health i).evidence_state = .current ↔ i.flags = true ∧ i.evidence_state = .current
  /-- Healthy requires current evidence. -/
  healthy_current : ∀ i, (domain.derive_health i).health_class = .healthy →
    (domain.derive_health i).evidence_state = .current
  /-- Healthy requires that no active problem affects health. -/
  healthy_clear : ∀ i, (domain.derive_health i).health_class = .healthy →
    ∀ severity ∈ i.active_problem_severities, severity.affectsHealth = false

theorem guard_ok_iff {db : SyncDb} {old : Option HealthProjection} {new : HealthProjection} :
    guard_health_projection_mutation db old new = .ok () ↔
      (∀ o ∈ old, new.monitoring_resource_id = o.monitoring_resource_id ∧
        new.monitoring_source_id = o.monitoring_source_id ∧
        new.source_instance_generation = o.source_instance_generation) ∧
      (∀ o ∈ old, new.projection_revision = o.projection_revision + 1) ∧
      (new.evidence_state = .current → db.supportsCurrent new = true) ∧
      (new.health_class = .healthy → new.evidence_state = .current) ∧
      (new.health_class = .healthy → ∀ p ∈ db.problems.problems,
        p.activeOn new.monitoring_source_id new.source_instance_generation new.monitoring_resource_id = true →
        p.severity_class.affectsHealth = false) := by
  simp only [guard_health_projection_mutation, bind_ok_iff, require_ok_iff, exists_const, Option.all_eq_true,
    decide_eq_true_eq, Bool.not_eq_true', List.any_eq_false, ne_eq, ← imp_iff_not_or, not_and, Bool.not_eq_true,
    Option.mem_def]

section Decision

variable {db : SyncDb} {s : SourceRow} {r : ResourceRow} {new : HealthProjection}

theorem mem_activeResources :
    r ∈ db.activeResources s ↔ r ∈ db.inventory.resources ∧ r.monitoring_source_id = s.monitoring_source_id ∧
      r.source_instance_generation = s.active_source_instance_generation := by
  simp [SyncDb.activeResources]

/-- The snapshot that a pass selects is complete, and under the authority of the source. -/
theorem latestSnapshot_some {id : ℕ} (h : db.latestSnapshot s = some id) :
    ∃ e ∈ db.problems.snapshots, e.snapshot_evidence_id = id ∧ e.monitoring_source_id = s.monitoring_source_id ∧
      e.source_instance_generation = s.active_source_instance_generation ∧ e.snapshot_complete = true ∧
      e.operation_state = .succeeded ∧ e.operational_evidence_state = .current ∧
      e.configuration_revision = s.configuration_revision ∧ e.scope_revision = s.scope_revision := by
  obtain ⟨e, he, rfl⟩ := Option.map_eq_some_iff.1 h
  exact ⟨e, List.mem_reverse.1 (List.mem_of_find?_eq_some he), rfl, by simpa using List.find?_some he⟩

/-- Where the flags are set, what the guard requires beside them is that the presence is confirmed. -/
theorem supportsCurrent_iff (hs : s ∈ db.core.sources) (hr : r ∈ db.activeResources s)
    (hkeyed : (db.inventory.resources.map (·.monitoring_resource_id)).Nodup)
    (hflags : (healthInput db s r).flags = true) (hid : new.monitoring_resource_id = r.monitoring_resource_id)
    (hsource : new.monitoring_source_id = s.monitoring_source_id)
    (hgen : new.source_instance_generation = s.active_source_instance_generation)
    (hsnap : new.problem_snapshot_evidence_id = db.latestSnapshot s) :
    db.supportsCurrent new = true ↔ r.presence_evidence_state = .current := by
  obtain ⟨hrow, hrsource, hrgen⟩ := mem_activeResources.1 hr
  simp only [HealthInput.flags, healthInput, Bool.and_eq_true, decide_eq_true_eq] at hflags
  obtain ⟨⟨⟨hcurrent, hpresent⟩, hscope, hscopeEvidence, hscopeRevision⟩, hcomplete⟩ := hflags
  constructor
  · intro h
    simp only [SyncDb.supportsCurrent, List.any_eq_true, decide_eq_true_eq] at h
    obtain ⟨e, -, -, -, -, -, -, -, -, r', hr', hid', -, -, -, hpresence, -⟩ := h
    rwa [eq_of_key hkeyed hrow hr' (by rw [hid', hid])]
  · intro hpresence
    obtain ⟨id, hlatest⟩ := Option.isSome_iff_exists.1 hcomplete
    obtain ⟨e, he, rfl, hesource, hegen, hecomplete, hestate, heevidence, heconfig, hescope⟩ :=
      latestSnapshot_some hlatest
    simp only [SyncDb.supportsCurrent, List.any_eq_true, decide_eq_true_eq]
    refine ⟨e, he, ?_, ?_, ?_, hecomplete, hestate, heevidence, ⟨s, hs, ?_, ?_, ?_, ?_, hcurrent⟩,
      ⟨r, hrow, ?_, ?_, ?_, hpresent, hpresence, hscope, hscopeEvidence, ?_⟩⟩
    all_goals simp_all

theorem severities_clear_iff : (∀ severity ∈ (healthInput db s r).active_problem_severities,
      severity.affectsHealth = false) ↔
    ∀ p ∈ db.problems.problems,
      p.activeOn s.monitoring_source_id s.active_source_instance_generation r.monitoring_resource_id = true →
      p.severity_class.affectsHealth = false := by
  simp only [healthInput, SyncDb.activeProblems, List.forall_mem_map, List.mem_filter, and_imp]

/-- The row of a decision passes the guard, unless the writer takes for current what is not confirmed. -/
theorem guard_decidedRow_iff {old : Option HealthProjection} (hd : domain.DerivesHealth) (hs : s ∈ db.core.sources)
    (hr : r ∈ db.activeResources s) (hkeyed : (db.inventory.resources.map (·.monitoring_resource_id)).Nodup)
    (hold : ∀ o ∈ old, o.monitoring_resource_id = r.monitoring_resource_id ∧
      o.monitoring_source_id = s.monitoring_source_id ∧
      o.source_instance_generation = s.active_source_instance_generation) :
    guard_health_projection_mutation db old (decidedRow db s r (domain.derive_health (healthInput db s r)) old) =
        .ok () ↔
      ((healthInput db s r).flags = true → (healthInput db s r).evidence_state = .current →
        r.presence_evidence_state = .current) := by
  obtain ⟨decision, hdecision⟩ : ∃ d, domain.derive_health (healthInput db s r) = d := ⟨_, rfl⟩
  have hcurrent := hd.current_iff (healthInput db s r)
  have hhealthy := hd.healthy_current (healthInput db s r)
  have hclear := hd.healthy_clear (healthInput db s r)
  rw [hdecision] at hcurrent hhealthy hclear ⊢
  obtain ⟨new, hnew⟩ : ∃ n, decidedRow db s r decision old = n := ⟨_, rfl⟩
  have hkey : new.monitoring_resource_id = r.monitoring_resource_id ∧
      new.monitoring_source_id = s.monitoring_source_id ∧
      new.source_instance_generation = s.active_source_instance_generation := by
    subst hnew
    cases old with
    | none => exact ⟨rfl, rfl, rfl⟩
    | some o => exact hold o rfl
  have hdecided : new.health_class = decision.health_class ∧ new.evidence_state = decision.evidence_state ∧
      new.problem_snapshot_evidence_id = db.latestSnapshot s := by
    subst hnew
    cases old with
    | none => exact ⟨rfl, rfl, rfl⟩
    | some o => exact ⟨rfl, rfl, rfl⟩
  have hrevision : ∀ o ∈ old, new.projection_revision = o.projection_revision + 1 := by
    rintro o rfl
    rw [← hnew]
    rfl
  obtain ⟨hid, hsource, hgen⟩ := hkey
  obtain ⟨hclass, hevidence, hsnap⟩ := hdecided
  rw [hnew, guard_ok_iff, hclass, hevidence, hid, hsource, hgen, ← severities_clear_iff, hcurrent]
  constructor
  · rintro ⟨-, -, hsupports, -⟩ hflags hworst
    exact (supportsCurrent_iff hs hr hkeyed hflags hid hsource hgen hsnap).1 (hsupports ⟨hflags, hworst⟩)
  · intro hpresence
    refine ⟨fun o ho => ?_, hrevision, ?_, ?_, hclear⟩
    · obtain ⟨h₁, h₂, h₃⟩ := hold o ho
      exact ⟨h₁.symm, h₂.symm, h₃.symm⟩
    · rintro ⟨hflags, hworst⟩
      exact (supportsCurrent_iff hs hr hkeyed hflags hid hsource hgen hsnap).2 (hpresence hflags hworst)
    · intro h
      exact hcurrent.1 (hhealthy h)

end Decision

/-! ### A pass -/

/-- A round of a pass commits if its row passes the guard. -/
theorem projectCell_ok_iff {db : SyncDb} {s : SourceRow} {r : ResourceRow} {old : Option HealthProjection} :
    (∃ new, projectCell domain db s old r = .ok new) ↔
      (decisionChanges (domain.derive_health (healthInput db s r)) old = true →
        guard_health_projection_mutation db old
          (decidedRow db s r (domain.derive_health (healthInput db s r)) old) = .ok ()) := by
  simp only [projectCell]
  split_ifs with hchange
  · constructor
    · rintro ⟨new, h⟩ -
      obtain ⟨_, hguard, -⟩ := bind_ok_iff.1 h
      exact hguard
    · intro h
      exact ⟨_, bind_ok_iff.2 ⟨(), h hchange, rfl⟩⟩
  · exact ⟨fun _ h => absurd h hchange, fun _ => ⟨_, rfl⟩⟩

variable {resources : List ResourceRow}

/-- A pass over resources with different ids commits if every row that it writes passes the guard. -/
theorem pass_ok_iff {db : SyncDb} {s : SourceRow} (hnodup : (resources.map (·.monitoring_resource_id)).Nodup)
    (hp : p.tables.Numbered) :
    (∃ p', resources.foldlM (projectResource domain db s) p = .ok p') ↔
      ∀ r ∈ resources, ∀ old, p.tables.projection r.monitoring_resource_id s.active_source_instance_generation = old →
        decisionChanges (domain.derive_health (healthInput db s r)) old = true →
        guard_health_projection_mutation db old
          (decidedRow db s r (domain.derive_health (healthInput db s r)) old) = .ok () := by
  rw [(projectResource_local domain db s).fold_ends_iff_of_nodup hp hnodup]
  simp only [projectCell_ok_iff, forall_eq']

/-! ### Resources and projections -/

/-- Every resource is still there, of the same source, and the ids are still unique. -/
structure ResourcesKept (rows rows' : List ResourceRow) : Prop where
  keyed : (rows.map (·.monitoring_resource_id)).Nodup → (rows'.map (·.monitoring_resource_id)).Nodup
  owner : ∀ r ∈ rows, ∃ r' ∈ rows', r'.monitoring_resource_id = r.monitoring_resource_id ∧
    r'.monitoring_source_id = r.monitoring_source_id

theorem ResourcesKept.refl (rows : List ResourceRow) : ResourcesKept rows rows := ⟨id, fun r hr => ⟨r, hr, rfl, rfl⟩⟩

theorem ResourcesKept.trans {l l' l'' : List ResourceRow} (h : ResourcesKept l l') (h' : ResourcesKept l' l'') :
    ResourcesKept l l'' := by
  refine ⟨h'.keyed ∘ h.keyed, fun r hr => ?_⟩
  obtain ⟨r', hr', hid, hsource⟩ := h.owner r hr
  obtain ⟨r'', hr'', hid', hsource'⟩ := h'.owner r' hr'
  exact ⟨r'', hr'', hid'.trans hid, hsource'.trans hsource⟩

theorem ResourcesKept.updateWhere {p : ResourceRow → Bool} {f : ResourceRow → ResourceRow} (rows : List ResourceRow)
    (hf : ∀ r, (f r).monitoring_resource_id = r.monitoring_resource_id ∧
      (f r).monitoring_source_id = r.monitoring_source_id) : ResourcesKept rows (updateWhere p f rows) := by
  refine ⟨fun h => ?_, fun r hr => ⟨_, mem_updateWhere.2 ⟨r, hr, rfl⟩, ?_⟩⟩
  · rwa [map_updateWhere fun r => (hf r).1]
  · split_ifs
    · exact hf r
    · exact ⟨rfl, rfl⟩

variable {claim : HostInventoryClaim}

theorem upsertResource_kept {host : ZabbixHost} {nextId : ℕ} {x : String × List ResourceRow}
    (h : upsertResource claim host resources nextId = .ok x) : ResourcesKept resources x.2 := by
  unfold upsertResource at h
  split at h
  · rw [← Except.ok.inj h]
    exact .updateWhere resources fun _ => ⟨rfl, rfl⟩
  · obtain ⟨rows, hins, h⟩ := bind_ok_iff.1 h
    obtain ⟨hnew, rfl⟩ := insertUnless_ok_iff.1 hins
    rw [← Except.ok.inj h]
    refine ⟨fun hnodup => ?_, fun r hr => ⟨r, List.mem_append_left _ hr, rfl, rfl⟩⟩
    rw [List.map_append]
    refine List.nodup_append.2 ⟨hnodup, List.nodup_singleton _, ?_⟩
    rintro _ hid _ hid' rfl
    obtain ⟨r, hr, hrid⟩ := List.mem_map.1 hid
    exact absurd (hrid.trans (List.mem_singleton.1 hid')) (by simpa using hnew r hr)

theorem applyInventory_kept {result : HostInventoryResult} {id : String} {s s' : InventoryTables × ℕ}
    (h : applyInventory claim result id s = .ok s') : ResourcesKept s.1.resources s'.1.resources := by
  unfold applyInventory at h
  split_ifs at h
  · obtain ⟨x, hfold, h⟩ := bind_ok_iff.1 h
    have hhosts : ResourcesKept s.1.resources x.1.resources :=
      foldlM_invariant (P := fun y : InventoryTables × ℕ => ResourcesKept s.1.resources y.1.resources)
        (fun y host y' hy hround => by
          obtain ⟨z, hupsert, hround⟩ := bind_ok_iff.1 hround
          obtain ⟨evidence, -, hround⟩ := bind_ok_iff.1 hround
          rw [← Except.ok.inj hround]
          exact hy.trans (upsertResource_kept hupsert)) (.refl _) hfold
    rw [← Except.ok.inj h]
    exact hhosts.trans (.updateWhere _ fun _ => ⟨rfl, rfl⟩)
  · rw [← Except.ok.inj h]
    exact .updateWhere _ fun _ => ⟨rfl, rfl⟩

/-- What holds of the rows that a pass reads and writes. -/
structure Accounted (db : SyncDb) : Prop where
  keyed : (db.inventory.resources.map (·.monitoring_resource_id)).Nodup
  owned : ∀ p ∈ db.health.projections, ∃ r ∈ db.inventory.resources,
    r.monitoring_resource_id = p.monitoring_resource_id ∧ r.monitoring_source_id = p.monitoring_source_id
  numbered : db.health.Numbered

/-- The rows of a pass belong to resources of the source. -/
theorem projectResource_owned {db : SyncDb} {s : SourceRow} {p' : HealthPass} {r : ResourceRow}
    (hr : r ∈ db.activeResources s) (hp : ∀ q ∈ p.tables.projections, ∃ r ∈ db.inventory.resources,
      r.monitoring_resource_id = q.monitoring_resource_id ∧ r.monitoring_source_id = q.monitoring_source_id)
    (h : projectResource domain db s p r = .ok p') :
    ∀ q ∈ p'.tables.projections, ∃ r ∈ db.inventory.resources,
      r.monitoring_resource_id = q.monitoring_resource_id ∧ r.monitoring_source_id = q.monitoring_source_id := by
  obtain ⟨hrow, hsource, -⟩ := mem_activeResources.1 hr
  obtain ⟨old, hold⟩ :
    ∃ o, p.tables.projection r.monitoring_resource_id s.active_source_instance_generation = o := ⟨_, rfl⟩
  rcases (projectResource_ok_iff rfl hold rfl).1 h with ⟨-, rfl⟩ | ⟨-, -, -, rfl⟩
  · exact hp
  · intro q hq
    cases old with
    | none =>
      rcases List.mem_append.1 hq with hq | hq
      · exact hp q hq
      · rw [List.mem_singleton.1 hq]
        exact ⟨r, hrow, rfl, hsource⟩
    | some o =>
      obtain ⟨q', hq', rfl⟩ := mem_updateWhere.1 hq
      split_ifs
      · exact hp o (List.mem_of_find?_eq_some hold)
      · exact hp q' hq'

theorem Accounted.project {source_id : String} {n : ℕ} {db db' : SyncDb} (hdb : Accounted db)
    (h : project_source_health domain source_id db = .ok (n, db')) : Accounted db' := by
  unfold project_source_health at h
  split at h
  · rw [← (Prod.mk.inj (Except.ok.inj h)).2]
    exact hdb
  · rename_i s _
    obtain ⟨p, hfold, h⟩ := bind_ok_iff.1 h
    rw [← (Prod.mk.inj (Except.ok.inj h)).2]
    refine ⟨hdb.keyed, ?_, ?_⟩
    · exact foldlM_invariant_of_mem (fun p r hr p' hp hround => projectResource_owned hr hp hround) hdb.owned hfold
    · exact foldlM_invariant (fun p r p' hp hround => (projectResource_local domain db s).keeps hp hround) hdb.numbered
        hfold

namespace Sync

theorem accounted_exec (domain : Domain) (bridge : BridgeVersion) (run : List Action) :
    Accounted (System.exec domain bridge run).db := by
  refine List.foldlRecOn (motive := fun s : System => Accounted s.db) run _ ?_ fun s hs a _ => ?_
  · exact ⟨List.nodup_nil, by simp [System.empty, SyncDb.empty], by simp [System.empty, SyncDb.empty, HealthTables.Numbered]⟩
  · rcases step_health domain s a with hhealth | ⟨source_id, n, -, h⟩
    · rcases step_inventory domain s a with hinventory | ⟨now, n, c, result, id, -, -, h⟩
      · exact ⟨hinventory ▸ hs.keyed, hinventory ▸ hhealth ▸ hs.owned, hhealth ▸ hs.numbered⟩
      · obtain ⟨-, -, -, x, happly, hdb⟩ := complete_host_inventory_ok h
        have hkept : ResourcesKept s.db.inventory.resources (s.step domain a).db.inventory.resources := by
          rw [hdb]
          exact applyInventory_kept happly
        refine ⟨hkept.keyed hs.keyed, ?_, hhealth ▸ hs.numbered⟩
        intro p hp
        rw [hhealth] at hp
        obtain ⟨r, hr, hid, hsource⟩ := hs.owned p hp
        obtain ⟨r', hr', hid', hsource'⟩ := hkept.owner r hr
        exact ⟨r', hr', hid'.trans hid, hsource'.trans hsource⟩
    · exact hs.project h

/-! ### Passes and the guard -/

/-- A pass of a source does not abort: every row that it writes passes the guard, and it commits. -/
structure GuardNeverAborts (domain : Domain) (source_id : String) (db : SyncDb) : Prop where
  passes : ∀ s ∈ db.core.sources.find? fun s => s.monitoring_source_id = source_id, ∀ r ∈ db.activeResources s,
    ∀ old, db.health.projection r.monitoring_resource_id s.active_source_instance_generation = old →
    decisionChanges (domain.derive_health (healthInput db s r)) old = true →
    guard_health_projection_mutation db old
      (decidedRow db s r (domain.derive_health (healthInput db s r)) old) = .ok ()
  commits : ∃ n db', project_source_health domain source_id db = .ok (n, db')

/-- The resource is confirmed to be present wherever its row is to change on evidence that is current to the
writer. -/
def PresenceConfirmed (domain : Domain) (source_id : String) (db : SyncDb) : Prop :=
  ∀ s ∈ db.core.sources.find? fun s => s.monitoring_source_id = source_id, ∀ r ∈ db.activeResources s,
    decisionChanges (domain.derive_health (healthInput db s r))
      (db.health.projection r.monitoring_resource_id s.active_source_instance_generation) = true →
    (healthInput db s r).flags = true → (healthInput db s r).evidence_state = .current →
    r.presence_evidence_state = .current

instance (domain : Domain) (source_id : String) (db : SyncDb) : Decidable (PresenceConfirmed domain source_id db) := by
  unfold PresenceConfirmed
  infer_instance

theorem activeResources_nodup {db : SyncDb} (h : (db.inventory.resources.map (·.monitoring_resource_id)).Nodup)
    (s : SourceRow) : ((db.activeResources s).map (·.monitoring_resource_id)).Nodup := by
  have hperm := (List.perm_insertionSort (fun a b : ResourceRow => a.monitoring_resource_id ≤ b.monitoring_resource_id)
    (db.inventory.resources.filter fun r => r.monitoring_source_id = s.monitoring_source_id ∧
      r.source_instance_generation = s.active_source_instance_generation)).map (·.monitoring_resource_id)
  exact hperm.nodup_iff.2 ((List.filter_sublist.map _).nodup h)

/-- **Key result**: in every state that a run reaches, a pass of a source goes through if and only if the presence
of each resource is confirmed where its row is to change on current evidence. -/
theorem health_pass_aborts_iff {domain : Domain} (hd : domain.DerivesHealth) (bridge : BridgeVersion)
    (run : List Action) (source_id : String) :
    GuardNeverAborts domain source_id (System.exec domain bridge run).db ↔
      PresenceConfirmed domain source_id (System.exec domain bridge run).db := by
  have hdb := accounted_exec domain bridge run
  generalize (System.exec domain bridge run).db = db at hdb ⊢
  have hguard : ∀ s ∈ db.core.sources.find? fun s => s.monitoring_source_id = source_id,
      ∀ r ∈ db.activeResources s, ∀ old,
        db.health.projection r.monitoring_resource_id s.active_source_instance_generation = old →
        (guard_health_projection_mutation db old
            (decidedRow db s r (domain.derive_health (healthInput db s r)) old) = .ok () ↔
          ((healthInput db s r).flags = true → (healthInput db s r).evidence_state = .current →
            r.presence_evidence_state = .current)) := by
    intro s hs r hr old hold
    refine guard_decidedRow_iff hd (List.mem_of_find?_eq_some hs) hr hdb.keyed ?_
    rintro o rfl
    obtain ⟨hid, hgen⟩ := projection_key hold
    obtain ⟨hrow, hsource, -⟩ := mem_activeResources.1 hr
    obtain ⟨r', hr', hid', hsource'⟩ := hdb.owned o (List.mem_of_find?_eq_some hold)
    obtain rfl := eq_of_key hdb.keyed hr' hrow (hid'.trans hid)
    exact ⟨hid, hsource'.symm.trans hsource, hgen⟩
  constructor
  · intro h s hs r hr hchange
    exact (hguard s hs r hr _ rfl).1 (h.passes s hs r hr _ rfl hchange)
  · intro h
    have hpasses : ∀ s ∈ db.core.sources.find? fun s => s.monitoring_source_id = source_id,
        ∀ r ∈ db.activeResources s, ∀ old,
          db.health.projection r.monitoring_resource_id s.active_source_instance_generation = old →
          decisionChanges (domain.derive_health (healthInput db s r)) old = true →
          guard_health_projection_mutation db old
            (decidedRow db s r (domain.derive_health (healthInput db s r)) old) = .ok () := by
      rintro s hs r hr old rfl hchange
      exact (hguard s hs r hr _ rfl).2 (h s hs r hr hchange)
    refine ⟨hpasses, ?_⟩
    unfold project_source_health
    split
    · exact ⟨_, _, rfl⟩
    · rename_i s hs
      obtain ⟨p, hp⟩ := (pass_ok_iff (p := ⟨db.health, db.nextId, 0⟩) (activeResources_nodup hdb.keyed s)
        hdb.numbered).2 (hpasses s hs)
      exact ⟨_, _, bind_ok_iff.2 ⟨p, hp, rfl⟩⟩

/-! ### The vendor package of the tests, and two runs -/

theorem tested_derivesHealth : Domain.tested.DerivesHealth := by
  constructor
  · intro i
    simp only [Domain.tested]
    split_ifs <;> simp_all
  · intro i
    simp only [Domain.tested]
    split_ifs <;> simp_all
  · intro i h severity hmem
    simp only [Domain.tested] at h
    generalize (if i.flags = true then i.evidence_state else _) = evidence at h
    split_ifs at h
    cases severity <;> simp_all [SeverityClass.affectsHealth]

/-- A complete poll that shows no problem. -/
def clearPoll : ProblemStateResult := ⟨true, true, .succeeded, .current, none, []⟩

/-- A source with one host, whose problems are polled. -/
def problemsPolled : List Action :=
  [.createSource 0 "zabbix" "https://zabbix" "cred", .enqueue 1 .host_inventory_sync "mon-src_0",
    .claim 2 .inventory "mon-sync_4" "token-1",
    .complete 3 0 (.inventory { SyncResult.ok _ with snapshot_complete := true, hosts := [⟨"10101"⟩] } "inventory-1"),
    .reestablish "mon-src_0" "mon-gen_1", .enqueueProblemState 4 "mon-src_0",
    .claim 5 .problemState "mon-op_7" "token-2", .complete 6 1 (.problemState clearPoll [] [])]

/-- The next poll of the definitions, as the `n`-th claim, with an empty result. -/
def definitionsPolled (n : ℕ) (op_id : String) : List Action :=
  [.enqueueDefinitions 10 "mon-src_0", .claim 11 .definitions op_id "token-4",
    .complete 12 n (.definitions { SyncResult.ok _ with snapshot_complete := true, items := [] } "definitions-1")]

/-- What the inventory reports where the provider cannot be reached. -/
def unreachable : HostInventoryResult :=
  ⟨⟨false, .reconciliation_required, .unavailable, some "monitoring.provider_unavailable"⟩, false, []⟩

/-- The inventory fails, and then the definitions are polled. -/
def inventoryFailed : List Action :=
  problemsPolled ++
    [.enqueue 7 .host_inventory_sync "mon-src_0", .claim 8 .inventory "mon-sync_9" "token-3",
      .complete 9 2 (.inventory unreachable "inventory-2")] ++ definitionsPolled 3 "mon-sync_10"

theorem problemsPolled_commits :
    GuardNeverAborts Domain.tested "mon-src_0" (System.exec Domain.tested .publicationBridge problemsPolled).db :=
  (health_pass_aborts_iff tested_derivesHealth .publicationBridge problemsPolled "mon-src_0").2 (by decide)

theorem inventoryFailed_aborts : Domain.tested.DerivesHealth ∧
    ¬GuardNeverAborts Domain.tested "mon-src_0"
      (System.exec Domain.tested .publicationBridge inventoryFailed).db := by
  refine ⟨tested_derivesHealth, fun h => ?_⟩
  obtain ⟨n, db', h⟩ := h.commits
  have hnone : (project_source_health Domain.tested "mon-src_0"
      (System.exec Domain.tested .publicationBridge inventoryFailed).db).toOption.isNone = true := by decide
  rw [h] at hnone
  cases hnone

end Sync

end JLMirror.Monitoring
