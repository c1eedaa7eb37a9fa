import JLMirror.Foundations.Run
import JLMirror.Monitoring.HealthGuard
import JLMirror.Monitoring.RequeuedRun

/-!
# The evidence of healthy resources

A row of the health projection is written as healthy on the evidence of the latest complete problem snapshot under
the authority of its source, while the source is current. A poll that fails afterwards makes the source other than
current, and withdraws the evidence with that; the next operation of the source that reports current evidence, of
whatever kind, restores it, and so does a requeue.

## The model

* `CoreTables.evidenceOf` is the evidence state of a source.
* `System.polls` are the problem polls that were completed under the authority that a source has.
* `System.Writes` is a row that a step leaves and that was not there before it.

## What is proved

* `step_restores`: what makes a source current.
* `snapshot_of_poll`: every snapshot is that of a poll that was completed.
* `project_guarded`: every row that a pass writes has passed the guard.
* **Key result** (`healthy_substantiated`): in every run, a healthy row with current evidence is written only where
  some poll under the present authority was a successful complete snapshot, and every poll that reported otherwise
  was followed by a step that restored the source.
* The last poll need not have been the complete one (`pollFailed_healthy`).
-/

namespace JLMirror.Monitoring

open JLMirror.Foundations Sync

/-! ### The evidence of a source -/

/-- The evidence state of a source. -/
def CoreTables.evidenceOf (c : CoreTables) (source_id : String) : Option EvidenceState :=
  (c.source source_id).map fun s => s.operational_evidence_state

/-- Sources that are current were so before. -/
def NotRestored (c c' : CoreTables) : Prop :=
  ∀ source_id, c'.evidenceOf source_id = some .current → c.evidenceOf source_id = some .current

variable {c c' : CoreTables}

theorem NotRestored.of_eq (h : c'.sources = c.sources) : NotRestored c c' := by
  intro source_id hcurrent
  rwa [CoreTables.evidenceOf, CoreTables.source, h] at hcurrent

variable {q : SourceRow → Bool} {g : SourceRow → SourceRow}

theorem evidenceOf_updateWhere (hsrc : c'.sources = updateWhere q g c.sources)
    (hg : ∀ s, (g s).monitoring_source_id = s.monitoring_source_id) (source_id : String) :
    c'.evidenceOf source_id =
      (c.source source_id).map fun s => (if q s then g s else s).operational_evidence_state := by
  rw [CoreTables.evidenceOf, CoreTables.source, hsrc, find?_updateWhere fun s _ => by rw [hg], Option.map_map]
  rfl

theorem NotRestored.of_update (hsrc : c'.sources = updateWhere q g c.sources)
    (hg : ∀ s, (g s).monitoring_source_id = s.monitoring_source_id ∧
      (g s).operational_evidence_state = s.operational_evidence_state) : NotRestored c c' := by
  intro source_id hcurrent
  rw [evidenceOf_updateWhere hsrc fun s => (hg s).1] at hcurrent
  rw [← hcurrent, CoreTables.evidenceOf]
  congr 1
  funext s
  split_ifs
  · exact (hg s).2.symm
  · rfl

/-- An update that sets the evidence of one source restores no other, and that one only to what it sets. -/
theorem restored_of_update {id : String} {evidence : EvidenceState} (hsrc : c'.sources = updateWhere q g c.sources)
    (hq : ∀ s, q s = true → s.monitoring_source_id = id)
    (hg : ∀ s, (g s).monitoring_source_id = s.monitoring_source_id ∧ (g s).operational_evidence_state = evidence)
    {source_id : String} (hcurrent : c'.evidenceOf source_id = some .current) :
    c.evidenceOf source_id = some .current ∨ id = source_id ∧ evidence = .current := by
  rw [evidenceOf_updateWhere hsrc fun s => (hg s).1] at hcurrent
  obtain ⟨s, hs, hevidence⟩ := Option.map_eq_some_iff.1 hcurrent
  have hid : s.monitoring_source_id = source_id := by simpa using List.find?_some hs
  split_ifs at hevidence with hsel
  · exact Or.inr ⟨(hq s hsel).symm.trans hid, (hg s).2.symm.trans hevidence⟩
  · exact Or.inl (by rw [CoreTables.evidenceOf, hs, Option.map_some, hevidence])

section Transactions

variable {now : Timestamp} {db db' : SyncDb}

theorem insertOperation_notRestored {kind : String} {row : String → OperationRow}
    (h : db.insertOperation kind row = .ok db') : NotRestored db.core db'.core := by
  obtain ⟨-, rfl⟩ := insertOperation_ok h
  exact .of_eq rfl

theorem enqueue_notRestored {kind : ResponsibilityKind} {set : SourceRow → OperationRow → OperationRow}
    {source_id : String} (h : db.enqueue now kind set source_id = .ok db') : NotRestored db.core db'.core := by
  obtain ⟨s, -, h⟩ := enqueue_ok h
  exact insertOperation_notRestored h

/-- A new source is not current yet. -/
theorem insertZabbixSource_notRestored {ref url credential : String}
    (h : insertZabbixSource now ref url credential db = .ok db') : NotRestored db.core db'.core := by
  obtain ⟨generations, -, h⟩ := bind_ok_iff.1 h
  obtain ⟨operations, -, h⟩ := bind_ok_iff.1 h
  obtain ⟨sources, hsrc, h⟩ := bind_ok_iff.1 h
  obtain ⟨-, rfl⟩ := insertUnless_ok_iff.1 hsrc
  obtain rfl := Except.ok.inj h
  intro source_id hcurrent
  rw [CoreTables.evidenceOf, CoreTables.source, List.find?_append] at hcurrent
  cases hs : db.core.sources.find? fun s => s.monitoring_source_id = source_id with
  | some s =>
    rw [hs, Option.some_or] at hcurrent
    rwa [CoreTables.evidenceOf, CoreTables.source, hs]
  | none =>
    rw [hs, Option.none_or, List.find?_singleton] at hcurrent
    split_ifs at hcurrent <;> cases hcurrent

/-- A requeue restores its own source at most. -/
theorem requeue_restores {source_id op_id : String} {id : String}
    (hcurrent : (requeue_sync_operation source_id op_id c).2.evidenceOf id = some .current) :
    c.evidenceOf id = some .current ∨ source_id = id := by
  unfold requeue_sync_operation at hcurrent
  dsimp only at hcurrent
  split_ifs at hcurrent
  · have hrestored := restored_of_update (c := c) rfl (fun s hs => (of_decide_eq_true hs).1)
      (by exact fun _ => ⟨rfl, rfl⟩) hcurrent
    exact hrestored.imp_right And.left
  · exact Or.inl hcurrent

/-- A completion that goes through `finish` restores its own source at most, where it reports it current. -/
theorem finish_restores {φ : Type} {claim : SyncClaim} {result : SyncResult φ} {error : Option String} {kind : String}
    {slot : SourceRow → SourceRow} {record : OperationRow → OperationRow} {id : String}
    (hslot : ∀ s, (slot s).monitoring_source_id = s.monitoring_source_id ∧
      (slot s).operational_evidence_state = s.operational_evidence_state)
    (hcurrent : (c.finish now claim result error kind slot record).evidenceOf id = some .current) :
    c.evidenceOf id = some .current ∨
      claim.monitoring_source_id = id ∧ result.operational_evidence_state = .current := by
  refine restored_of_update (finish_sources ..) ?_ ?_ hcurrent
  · intro s hs
    exact of_decide_eq_true hs
  · intro s
    exact ⟨(hslot _).1, (hslot _).2⟩

theorem chainHistory_notRestored {domain : Domain} {claim : MetricHistoryClaim} {result : MetricHistoryResult}
    (h : chainHistory domain now claim result db = .ok db') : NotRestored db.core db'.core := by
  rcases chainHistory_ok h with rfl | ⟨o, -, -, -, rfl⟩
  · exact .of_eq rfl
  · exact .of_eq rfl

end Transactions

/-- A successful complete snapshot. -/
def ProblemStateResult.completeSuccess (r : ProblemStateResult) : Bool :=
  r.succeeded ∧ r.complete_snapshot ∧ r.operation_state = .succeeded ∧ r.operational_evidence_state = .current

namespace Sync

variable {domain : Domain}

/-- The source of a claim. -/
def Claim.monitoring_source_id : Claim → String
  | .validation c => c.monitoring_source_id
  | .inventory c => c.monitoring_source_id
  | .definitions c => c.monitoring_source_id
  | .currentState c => c.monitoring_source_id
  | .history c => c.monitoring_source_id
  | .problemState c => c.monitoring_source_id

/-- What a report says of the evidence of the source. -/
def Report.operational_evidence_state : Report → EvidenceState
  | .validation result _ => result.operational_evidence_state
  | .inventory result _ => result.operational_evidence_state
  | .definitions result _ => result.operational_evidence_state
  | .currentState result => result.operational_evidence_state
  | .history result _ => result.operational_evidence_state
  | .problemState result _ _ => result.operational_evidence_state

variable {source_id : String}

variable {a : Action}

/-- A transaction restores no source, unless it requeues operations. -/
theorem transact_restores {db db' : SyncDb} (h : transact domain db a = .ok db')
    (hcurrent : db'.core.evidenceOf source_id = some .current) :
    db.core.evidenceOf source_id = some .current ∨ (∃ op_id, a = .requeue source_id op_id) ∨
      ∃ cfg now slots, a = .recover cfg now slots := by
  cases a with
  | createSource now ref url credential => exact Or.inl (insertZabbixSource_notRestored h source_id hcurrent)
  | enqueue now kind source_id' =>
    simp only [transact, enqueue_sync_operation] at h
    exact Or.inl (enqueue_notRestored h source_id hcurrent)
  | enqueueDefinitions now source_id' =>
    simp only [transact, enqueue_metric_definition_poll] at h
    exact Or.inl (enqueue_notRestored h source_id hcurrent)
  | enqueueCurrentState now source_id' =>
    simp only [transact, enqueue_current_state_poll] at h
    exact Or.inl (enqueue_notRestored h source_id hcurrent)
  | enqueueHistory now time_from time_till source_id' =>
    simp only [transact, enqueue_history_sync] at h
    exact Or.inl (enqueue_notRestored h source_id hcurrent)
  | enqueueProblemState now source_id' =>
    simp only [transact, enqueue_problem_state_sync] at h
    split at h
    · exact Or.inl (Except.ok.inj h ▸ hcurrent)
    · exact Or.inl (insertOperation_notRestored h source_id hcurrent)
  | requeue source_id' op_id =>
    obtain rfl := Except.ok.inj h
    rcases requeue_restores hcurrent with hcurrent | rfl
    · exact Or.inl hcurrent
    · exact Or.inr (Or.inl ⟨op_id, rfl⟩)
  | recover cfg now slots => exact Or.inr (Or.inr ⟨cfg, now, slots, rfl⟩)
  | moveAuthority source_id' authority generation =>
    obtain rfl := Except.ok.inj h
    exact Or.inl (NotRestored.of_update (c := db.core) rfl (by exact fun _ => ⟨rfl, rfl⟩) source_id hcurrent)
  | advanceEpoch source_id' kind epoch generation =>
    obtain rfl := Except.ok.inj h
    refine Or.inl (NotRestored.of_update (c := db.core) rfl (fun s => ?_) source_id hcurrent)
    cases kind <;> exact ⟨rfl, rfl⟩
  | projectHistory | projectHealth | reestablish | refreshBindings | claim | complete =>
    rw [transact_core h rfl] at hcurrent
    exact Or.inl hcurrent

theorem claim_notRestored {now : Timestamp} {w : Worker} {op_id token : String} {db db' : SyncDb} {c : Option Claim}
    (h : claim domain now w op_id token db = .ok (c, db')) : NotRestored db.core db'.core := by
  rcases claim_cases h with ⟨_, rfl | rfl, rfl⟩ | ⟨c', -, -, h⟩
  · exact .of_eq rfl
  · exact .of_eq rfl
  · obtain ⟨-, -, -, -, -, hsources, -⟩ := claim_problem_sync_core h
    exact .of_update hsources fun _ => ⟨rfl, rfl⟩

/-- A completion restores its own source at most, where it reports it current. -/
theorem complete_restores {now : Timestamp} {c : Claim} {report : Report} {db db' : SyncDb}
    (h : complete domain now c report db = .ok db') (hcurrent : db'.core.evidenceOf source_id = some .current) :
    db.core.evidenceOf source_id = some .current ∨
      c.monitoring_source_id = source_id ∧ report.operational_evidence_state = .current := by
  rcases complete_cases h with ⟨c', result, id, rfl, rfl, h⟩ | ⟨c', result, id, rfl, rfl, h⟩ |
    ⟨c', result, id, rfl, rfl, h⟩ | ⟨c', result, rfl, rfl, h⟩ | ⟨c', result, raw_rows, rfl, rfl, h⟩ |
    ⟨c', result, raw_rows, recoveries, rfl, rfl, h⟩
  · obtain ⟨-, -, e, -, -, rfl⟩ := complete_initial_validation_ok h
    exact finish_restores (c := { db.core with validations := db.core.validations ++ [e] }) (fun _ => ⟨rfl, rfl⟩) hcurrent
  · obtain ⟨-, -, -, s, -, rfl⟩ := complete_host_inventory_ok h
    exact finish_restores (fun _ => ⟨rfl, rfl⟩) hcurrent
  · obtain ⟨-, -, -, s, -, rfl⟩ := complete_metric_definitions_ok h
    refine (finish_restores (by exact fun _ => ⟨rfl, rfl⟩) hcurrent).imp_right fun ⟨hid, heffective⟩ => ⟨hid, ?_⟩
    -- where a host is missing, the result that counts is incomplete
    unfold effective at heffective
    split_ifs at heffective
    · cases heffective
    · exact heffective
  · obtain ⟨-, s, -, rfl⟩ := complete_metric_current_state_ok h
    exact finish_restores (by exact fun _ => ⟨rfl, rfl⟩) hcurrent
  · obtain ⟨-, s, -, hchain⟩ := complete_metric_history_ok h
    have hcurrent := chainHistory_notRestored hchain source_id hcurrent
    exact finish_restores (by exact fun _ => ⟨rfl, rfl⟩) hcurrent
  · obtain ⟨-, hsources, -⟩ := complete_problem_sync_core h
    exact restored_of_update hsources (fun s hs => of_decide_eq_true hs) (fun _ => ⟨rfl, rfl⟩) hcurrent

/-- A step that a source is current after, and was not before, requeues an operation, or completes one of the
source and reports it current. -/
structure System.Restores (domain : Domain) (s : System) (a : Action) (source_id : String) : Prop where
  before : s.db.core.evidenceOf source_id ≠ some .current
  after : (s.step domain a).db.core.evidenceOf source_id = some .current
  by_what : (∃ op_id, a = .requeue source_id op_id) ∨ (∃ cfg now slots, a = .recover cfg now slots) ∨
    ∃ c report, s.Commits domain a c report ∧ c.monitoring_source_id = source_id ∧
      report.operational_evidence_state = .current

theorem step_restores (domain : Domain) {s : System} (hbefore : s.db.core.evidenceOf source_id ≠ some .current)
    (hafter : (s.step domain a).db.core.evidenceOf source_id = some .current) : s.Restores domain a source_id := by
  refine ⟨hbefore, hafter, ?_⟩
  rcases step_cases domain s a with h | ⟨db, ht, h⟩ | ⟨now, w, op_id, token, c, db, -, hc, h⟩ |
    ⟨now, n, report, c, db, rfl, hn, hc, h⟩
  · rw [h] at hafter
    exact absurd hafter hbefore
  · rw [h] at hafter
    rcases transact_restores ht hafter with hcurrent | hrequeue | hrecover
    · exact absurd hcurrent hbefore
    · exact Or.inl hrequeue
    · exact Or.inr (Or.inl hrecover)
  · rw [h] at hafter
    exact absurd (claim_notRestored hc source_id hafter) hbefore
  · have hcommits : s.Commits domain (.complete now n report) c report := by rw [System.Commits, h]
    rw [h] at hafter
    rcases complete_restores hc hafter with hcurrent | ⟨hid, hevidence⟩
    · exact absurd hcurrent hbefore
    · exact Or.inr (Or.inr ⟨c, report, hcommits, hid, hevidence⟩)

/-! ### The snapshots -/

variable {result : ProblemStateResult} {raw_rows : List ZabbixProblemEvidence}
  {recoveries : List ZabbixRecoveryEvidence}

/-- A completion leaves the problem snapshots alone, or records its own. -/
theorem complete_problem_sync_snapshots {now : Timestamp} {c : ProblemStateClaim} {db db' : SyncDb}
    (h : complete_problem_sync now c result raw_rows recoveries db = .ok db') :
    db'.problems.snapshots = db.problems.snapshots ∨ result.succeeded = true ∧ ∃ id,
      db'.problems.snapshots = db.problems.snapshots ++ [problemEvidence c result recoveries id] := by
  obtain ⟨p, hp, -, rfl⟩ := complete_problem_sync_ok h
  obtain ⟨-, db₁, happly, -, -, -, -, rfl⟩ := complete_problem_state_ok hp
  have hqueue : (enqueueInventory c result (closeOperation now c result db₁)).snapshots = db₁.snapshots := by
    unfold enqueueInventory
    split_ifs <;> rfl
  have hview : ∀ db₂ : SyncDb, (db₂.withProblemView now
      (enqueueInventory c result (closeOperation now c result db₁))).problems.snapshots = db₁.snapshots :=
    fun _ => hqueue
  rw [hview]
  unfold applyResult at happly
  split_ifs at happly with hsucc
  · obtain ⟨db₂, hrec, rfl⟩ := map_ok_iff.1 happly
    have hsnap : db₂.snapshots = db.problems.snapshots := (reconcile_only hrec).snapshots
    unfold recordSnapshot
    split_ifs
    · exact Or.inl hsnap
    · exact Or.inr ⟨hsucc, db₂.nextId, by rw [hsnap]; rfl⟩
  · obtain rfl := Except.ok.inj happly
    exact Or.inl rfl

/-- Snapshots are recorded by the completions of problem polls. -/
theorem step_snapshots (domain : Domain) (s : System) (a : Action) :
    (s.step domain a).db.problems.snapshots = s.db.problems.snapshots ∨
      ∃ c result raw_rows recoveries id,
        s.Commits domain a (.problemState c) (.problemState result raw_rows recoveries) ∧ result.succeeded = true ∧
        (s.step domain a).db.problems.snapshots =
          s.db.problems.snapshots ++ [problemEvidence c result recoveries id] := by
  rcases step_cases domain s a with h | ⟨db, ht, h⟩ | ⟨now, w, op_id, token, c, db, -, hc, h⟩ |
    ⟨now, n, report, c, db, rfl, hn, hc, h⟩
  · exact Or.inl (by rw [h])
  · rw [h]
    rcases transact_cases ht with ⟨_, _, rfl⟩ | ⟨source_id, -, ht⟩ | ⟨source_id, n, -, ht⟩ | ⟨_, _, rfl⟩
    · exact Or.inl rfl
    · obtain ⟨_, rfl⟩ := projectHistory_frame ht
      exact Or.inl rfl
    · obtain ⟨_, _, rfl⟩ := projectHealth_frame ht
      exact Or.inl rfl
    · exact Or.inl rfl
  · rw [h]
    rcases claim_cases hc with ⟨core, -, rfl⟩ | ⟨c', -, -, hc⟩
    · exact Or.inl rfl
    · exact Or.inl (congrArg ProblemTables.snapshots (claim_problem_sync_core hc).2.2.1)
  · have hcommits : s.Commits domain (.complete now n report) c report := by rw [System.Commits, h]
    rw [h]
    rcases complete_cases hc with ⟨c', result, id, -, -, hc⟩ | ⟨c', result, id, -, -, hc⟩ |
      ⟨c', result, id, -, -, hc⟩ | ⟨c', result, -, -, hc⟩ | ⟨c', result, raw_rows, -, -, hc⟩ |
      ⟨c', result, raw_rows, recoveries, rfl, rfl, hc⟩
    · obtain ⟨_, rfl⟩ := validation_frame hc
      exact Or.inl rfl
    · obtain ⟨_, _, _, rfl⟩ := inventory_frame hc
      exact Or.inl rfl
    · obtain ⟨_, _, _, rfl⟩ := definitions_frame hc
      exact Or.inl rfl
    · obtain ⟨_, _, _, rfl⟩ := currentState_frame hc
      exact Or.inl rfl
    · obtain ⟨_, _, _, rfl⟩ := history_frame hc
      exact Or.inl rfl
    · rcases complete_problem_sync_snapshots hc with hsnap | ⟨hsucc, id, hsnap⟩
      · exact Or.inl hsnap
      · exact Or.inr ⟨c', result, raw_rows, recoveries, id, hcommits, hsucc, hsnap⟩

/-- Every snapshot is that of a poll that was completed. -/
theorem snapshot_of_poll (domain : Domain) (bridge : BridgeVersion) (run : List Action) :
    ∀ e ∈ (System.exec domain bridge run).db.problems.snapshots, ∃ c result raw_rows recoveries id,
      (Claim.problemState c, Report.problemState result raw_rows recoveries) ∈
        (System.exec domain bridge run).committed ∧ result.succeeded = true ∧
      e = problemEvidence c result recoveries id := by
  refine List.foldlRecOn (motive := fun s : System => ∀ e ∈ s.db.problems.snapshots,
    ∃ c result raw_rows recoveries id, (Claim.problemState c, Report.problemState result raw_rows recoveries) ∈
      s.committed ∧ result.succeeded = true ∧ e = problemEvidence c result recoveries id) run _ ?_ fun s hs a _ => ?_
  · simp [System.empty, SyncDb.empty]
  · have hkept : ∀ x ∈ s.committed, x ∈ (s.step domain a).committed := by
      intro x hx
      rcases step_committed domain s a with h | ⟨c, report, h⟩
      · rwa [h]
      · rw [h]
        exact List.mem_append_left _ hx
    intro e he
    rcases step_snapshots domain s a with h | ⟨c, result, raw_rows, recoveries, id, hcommits, hsucc, h⟩
    · rw [h] at he
      obtain ⟨c, result, raw_rows, recoveries, id, hmem, hrest⟩ := hs e he
      exact ⟨c, result, raw_rows, recoveries, id, hkept _ hmem, hrest⟩
    · rw [h] at he
      rcases List.mem_append.1 he with he | he
      · obtain ⟨c, result, raw_rows, recoveries, id, hmem, hrest⟩ := hs e he
        exact ⟨c, result, raw_rows, recoveries, id, hkept _ hmem, hrest⟩
      · refine ⟨c, result, raw_rows, recoveries, id, ?_, hsucc, List.mem_singleton.1 he⟩
        rw [hcommits]
        exact List.mem_append_right _ List.mem_cons_self

/-! ### The rows that a pass writes -/

/-- A row that a pass leaves was there before, or has passed the guard. -/
theorem project_guarded {n : ℕ} {db db' : SyncDb} (h : project_source_health domain source_id db = .ok (n, db'))
    {q : HealthProjection} (hq : q ∈ db'.health.projections) :
    q ∈ db.health.projections ∨ ∃ old, guard_health_projection_mutation db old q = .ok () := by
  unfold project_source_health at h
  split at h
  · obtain ⟨-, rfl⟩ := Prod.mk.inj (Except.ok.inj h)
    exact Or.inl hq
  · obtain ⟨p, hfold, h⟩ := bind_ok_iff.1 h
    obtain ⟨-, rfl⟩ := Prod.mk.inj (Except.ok.inj h)
    refine foldlM_invariant (P := fun p : HealthPass => ∀ q ∈ p.tables.projections,
      q ∈ db.health.projections ∨ ∃ old, guard_health_projection_mutation db old q = .ok ())
      (fun p r p' hp hround => ?_) (fun q hq => Or.inl hq) hfold q hq
    rcases (projectResource_ok_iff rfl rfl rfl).1 hround with ⟨-, rfl⟩ | ⟨-, hguard, -, rfl⟩
    · exact hp
    · intro q hq
      unfold HealthPass.wrote HealthTables.write at hq
      dsimp only at hq
      split at hq
      · rcases List.mem_append.1 hq with hq | hq
        · exact hp q hq
        · rw [List.mem_singleton.1 hq]
          exact Or.inr ⟨_, hguard⟩
      · obtain ⟨q', hq', rfl⟩ := mem_updateWhere.1 hq
        split_ifs
        · exact Or.inr ⟨_, hguard⟩
        · exact hp q' hq'

/-! ### Healthy rows -/

/-- The step writes the row. -/
def System.Writes (domain : Domain) (s : System) (a : Action) (p : HealthProjection) : Prop :=
  p ∈ (s.step domain a).db.health.projections ∧ p ∉ s.db.health.projections

/-- What a completed problem poll reported, if it was under the authority of the source. -/
def pollOf (s : SourceRow) : Claim × Report → Option ProblemStateResult
  | (.problemState c, .problemState result _ _) =>
    if c.monitoring_source_id = s.monitoring_source_id ∧
        c.source_instance_generation = s.active_source_instance_generation ∧
        c.configuration_revision = s.configuration_revision ∧ c.scope_revision = s.scope_revision then some result
    else none
  | _ => none

/-- The completed problem polls under the authority of a source, in order. -/
def System.polls (sys : System) (s : SourceRow) : List ProblemStateResult := sys.committed.filterMap (pollOf s)

/-- A row is written as healthy, with current evidence, only where the last poll of its source was a successful
complete snapshot. -/
def HealthyOnLatestPoll (domain : Domain) (bridge : BridgeVersion) (run : List Action) : Prop :=
  ∀ pre a post, run = pre ++ a :: post → ∀ p, (System.exec domain bridge pre).Writes domain a p →
    p.health_class = .healthy → p.evidence_state = .current →
    ∀ s ∈ (System.exec domain bridge pre).db.core.sources, s.monitoring_source_id = p.monitoring_source_id →
      p.source_instance_generation = s.active_source_instance_generation ∧
      ∃ r, ((System.exec domain bridge pre).polls s).getLast? = some r ∧ r.completeSuccess = true

/-- What stands behind a healthy row after the steps `pre`: some poll of the authority that its source still has
was a successful complete snapshot, and the source is current. A poll of it that reported otherwise was followed by
a step that restored it. -/
structure Substantiated (domain : Domain) (bridge : BridgeVersion) (pre : List Action) (p : HealthProjection)
    (s : SourceRow) : Prop where
  generation : p.source_instance_generation = s.active_source_instance_generation
  evidence : s.operational_evidence_state = .current
  snapshot : ∃ r ∈ (System.exec domain bridge pre).polls s, r.completeSuccess = true
  restored : ∀ pre₁ a pre₂ c result raw_rows recoveries, pre = pre₁ ++ a :: pre₂ →
    (System.exec domain bridge pre₁).Commits domain a (.problemState c) (.problemState result raw_rows recoveries) →
    c.monitoring_source_id = s.monitoring_source_id → result.operational_evidence_state ≠ .current →
    ∃ x b y, pre₂ = x ++ b :: y ∧
      (System.exec domain bridge (pre₁ ++ a :: x)).Restores domain b s.monitoring_source_id

/-- Every row that is written as healthy, with current evidence, is substantiated. -/
def HealthySubstantiated (domain : Domain) (bridge : BridgeVersion) (run : List Action) : Prop :=
  ∀ pre a post, run = pre ++ a :: post → ∀ p, (System.exec domain bridge pre).Writes domain a p →
    p.health_class = .healthy → p.evidence_state = .current →
    ∀ s ∈ (System.exec domain bridge pre).db.core.sources, s.monitoring_source_id = p.monitoring_source_id →
      Substantiated domain bridge pre p s

/-- A poll that reports other than current evidence leaves its source so. -/
theorem commits_withdraws {s : System} {c : ProblemStateClaim}
    (h : s.Commits domain a (.problemState c) (.problemState result raw_rows recoveries))
    (hevidence : result.operational_evidence_state ≠ .current) :
    (s.step domain a).db.core.evidenceOf c.monitoring_source_id ≠ some .current := by
  obtain ⟨now, n, -, -, hc⟩ := commits_iff.1 h
  have hc : complete_problem_sync now c result raw_rows recoveries s.db = .ok (s.step domain a).db := hc
  obtain ⟨-, hsources, -⟩ := complete_problem_sync_core hc
  rw [evidenceOf_updateWhere hsources fun _ => rfl]
  intro hcurrent
  obtain ⟨r, hr, hcurrent⟩ := Option.map_eq_some_iff.1 hcurrent
  rw [if_pos (by simpa using List.find?_some hr)] at hcurrent
  exact hevidence hcurrent

/-- **Key result**: in every run, a row is written as healthy, with current evidence, only where a complete snapshot
under the current authority of its source stands behind it. -/
theorem healthy_substantiated (domain : Domain) (bridge : BridgeVersion) (run : List Action) :
    HealthySubstantiated domain bridge run := by
  rintro pre a post - p ⟨hafter, hbefore⟩ - hcurrent s hs hid
  have hkeyed : (System.exec domain bridge pre).db.core.Keyed := (inStep_exec bridge pre).keyed
  obtain ⟨old, hguard⟩ : ∃ old, guard_health_projection_mutation (System.exec domain bridge pre).db old p = .ok () := by
    rcases step_health domain (System.exec domain bridge pre) a with h | ⟨source_id, n, -, h⟩
    · exact absurd (h ▸ hafter) hbefore
    · exact (project_guarded h hafter).resolve_left hbefore
  have hsupports := (guard_ok_iff.1 hguard).2.2.1 hcurrent
  simp only [SyncDb.supportsCurrent, List.any_eq_true, decide_eq_true_eq] at hsupports
  obtain ⟨e, he, -, hesource, hegen, hecomplete, hestate, heevidence, ⟨s', hs', hs'id, hgen, hconfig, hscope, hcur⟩, -⟩ :=
    hsupports
  obtain rfl : s' = s := eq_of_key hkeyed.sources hs' hs (by rw [hs'id, hesource, hid])
  have hcurrentNow : (System.exec domain bridge pre).db.core.evidenceOf s'.monitoring_source_id = some .current := by
    rw [CoreTables.evidenceOf, source_of_mem hkeyed hs rfl, Option.map_some, hcur]
  refine ⟨hgen.symm, hcur, ?_, ?_⟩
  · obtain ⟨c, result, raw_rows, recoveries, id, hmem, hsucc, rfl⟩ := snapshot_of_poll domain bridge pre e he
    refine ⟨result, List.mem_filterMap.2 ⟨_, hmem, ?_⟩, ?_⟩
    · exact if_pos ⟨hesource.trans hid.symm, hegen.trans hgen.symm, hconfig.symm, hscope.symm⟩
    · exact decide_eq_true ⟨hsucc, hecomplete, hestate, heevidence⟩
  · rintro pre₁ b pre₂ c result raw_rows recoveries rfl hcommits hcsource hevidence
    have hwithdrawn := commits_withdraws hcommits hevidence
    rw [hcsource] at hwithdrawn
    rw [System.exec, List.foldl_append, List.foldl_cons] at hcurrentNow
    obtain ⟨x, r, y, rfl, hx, hr⟩ := exists_entering
      (P := fun sys : System => sys.db.core.evidenceOf s'.monitoring_source_id = some .current) hwithdrawn hcurrentNow
    refine ⟨x, r, y, rfl, ?_⟩
    rw [System.exec, List.foldl_append, List.foldl_cons]
    exact step_restores domain hx hr

/-! ### A poll that fails, and the row that comes back -/

/-- What a poll reports where the provider cannot be reached. -/
def failedPoll : ProblemStateResult :=
  ⟨false, false, .reconciliation_required, .unavailable, some (.other "provider_unavailable"), []⟩

/-- After a complete poll, one fails, and then the definitions are polled. -/
def pollFailed : List Action :=
  problemsPolled ++
    [.enqueueProblemState 7 "mon-src_0", .claim 8 .problemState "mon-op_9" "token-3",
      .complete 9 2 (.problemState failedPoll [] [])] ++ definitionsPolled 3 "mon-sync_10"

theorem pollFailed_healthy : Domain.tested.DerivesHealth ∧
    ¬HealthyOnLatestPoll Domain.tested .publicationBridge (pollFailed ++ [.projectHealth "mon-src_0"]) := by
  refine ⟨tested_derivesHealth, fun h => ?_⟩
  have hempty : (System.exec Domain.tested .publicationBridge pollFailed).db.health.projections.length = 0 := by decide
  obtain ⟨p, hp, hsource, hclass, hevidence⟩ : ∃ p ∈ ((System.exec Domain.tested .publicationBridge pollFailed).step
      Domain.tested (.projectHealth "mon-src_0")).db.health.projections, p.monitoring_source_id = "mon-src_0" ∧
        p.health_class = .healthy ∧ p.evidence_state = .current := by decide
  obtain ⟨s, hs, hid, hlast⟩ : ∃ s ∈ (System.exec Domain.tested .publicationBridge pollFailed).db.core.sources,
      s.monitoring_source_id = "mon-src_0" ∧ ((System.exec Domain.tested .publicationBridge pollFailed).polls
        s).getLast?.all (fun r => !r.completeSuccess) = true := by decide
  have hnew : p ∉ (System.exec Domain.tested .publicationBridge pollFailed).db.health.projections := by
    rw [List.length_eq_zero_iff.1 hempty]
    exact List.not_mem_nil
  obtain ⟨-, r, hr, hsuccess⟩ := h pollFailed (.projectHealth "mon-src_0") [] rfl p ⟨hp, hnew⟩ hclass hevidence s hs
    (hid.trans hsource.symm)
  rw [hr, Option.all_some, hsuccess] at hlast
  cases hlast

end Sync

end JLMirror.Monitoring
