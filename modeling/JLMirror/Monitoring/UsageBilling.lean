import JLMirror.Foundations.Run
import JLMirror.Monitoring.HealthGuard

/-!
# Sync operations are billed for their success

A completion meters its operation where the result says that it succeeded, and then writes a state. The usage row
does not name the operation: what keeps an operation from being billed twice is that the completions that meter it
are those that close it.

## The model

* `billed` are the usage rows of an operation.
* `leaves` is the state that a committed completion leaves its operation in, and `leftBy` lists them along a run.
* `meters` and `closes` are the two decisions of a completion, as it takes them; `HonestReport` is the condition on
  the result under which they agree.

## What is proved

* `Steady`: outside of completions nothing is metered, and an operation that succeeded stays so.
* `complete_billing`: what a completion does to the usage and to the states.
* **Key result** (`billed_once_iff`): in every state that a run goes through, an operation whose last completion left
  it `succeeded` has one usage row, and one that none left so has none, if and only if every completion that is
  committed is honest.
* An incomplete problem snapshot is not: it is metered, and left for reconciliation (`incomplete_billed_twice`).
-/

namespace JLMirror.Monitoring

open JLMirror.Foundations Sync

/-! ### Usage and states -/

/-- The usage rows of an operation. -/
def CoreTables.billed (c : CoreTables) (op_id : String) : ℕ :=
  c.usage.countP fun u => u.sync_operation_id = op_id

/-- The state of an operation. -/
def CoreTables.stateOf (c : CoreTables) (op_id : String) : Option SyncOperationState :=
  (c.operations.find? fun o => o.monitoring_sync_operation_id = op_id).map fun o => o.state

/-- Nothing is metered, and what succeeded stays so. -/
structure Steady (c c' : CoreTables) : Prop where
  usage : c'.usage = c.usage
  succeeded : ∀ op_id, c.stateOf op_id = some .succeeded → c'.stateOf op_id = some .succeeded

theorem Steady.refl (c : CoreTables) : Steady c c := ⟨rfl, fun _ => id⟩

theorem Steady.trans {c d e : CoreTables} (h : Steady c d) (h' : Steady d e) : Steady c e :=
  ⟨h'.usage.trans h.usage, fun op_id => h'.succeeded op_id ∘ h.succeeded op_id⟩

variable {c c' : CoreTables} {f : OperationRow → OperationRow} {l : List OperationRow} {o : OperationRow}

variable {p : OperationRow → Bool} {op_id : String}

theorem stateOf_of_updates (hops : c'.operations = updateWhere p f c.operations ++ l)
    (hf : ∀ o, (f o).monitoring_sync_operation_id = o.monitoring_sync_operation_id)
    (ho : (c.operations.find? fun o => o.monitoring_sync_operation_id = op_id) = some o) :
    c'.stateOf op_id = some (if p o then f o else o).state := by
  rw [CoreTables.stateOf, hops, List.find?_append, find?_updateWhere fun o _ => by rw [hf], ho]
  rfl

theorem Steady.of_updates (husage : c'.usage = c.usage) (hops : c'.operations = updateWhere p f c.operations ++ l)
    (hf : ∀ o, (f o).monitoring_sync_operation_id = o.monitoring_sync_operation_id)
    (hp : ∀ o, o.state = .succeeded → p o = false) : Steady c c' := by
  refine ⟨husage, fun op_id h => ?_⟩
  obtain ⟨o, ho, hstate⟩ := Option.map_eq_some_iff.1 h
  rw [stateOf_of_updates hops hf ho, hp o hstate, if_neg Bool.false_ne_true, hstate]

theorem Steady.of_insert (husage : c'.usage = c.usage) (hops : c'.operations = c.operations ++ l) : Steady c c' :=
  .of_updates (p := fun _ => false) (f := id) husage (by rw [hops, updateWhere_of_none fun _ _ => rfl]) (fun _ => rfl)
    fun _ _ => rfl

theorem Steady.of_eq (husage : c'.usage = c.usage) (hops : c'.operations = c.operations) : Steady c c' :=
  .of_insert husage (hops.trans (List.append_nil _).symm)

/-! ### Outside of completions -/

section Transactions

variable {now : Timestamp}

variable {db db' : SyncDb}

theorem insertOperation_steady {kind : String} {row : String → OperationRow}
    (h : db.insertOperation kind row = .ok db') : Steady db.core db'.core := by
  obtain ⟨-, rfl⟩ := insertOperation_ok h
  exact .of_insert rfl rfl

theorem enqueue_steady {kind : ResponsibilityKind} {set : SourceRow → OperationRow → OperationRow}
    {source_id : String} (h : db.enqueue now kind set source_id = .ok db') : Steady db.core db'.core := by
  obtain ⟨s, -, h⟩ := enqueue_ok h
  exact insertOperation_steady h

theorem insertZabbixSource_steady {ref url credential : String}
    (h : insertZabbixSource now ref url credential db = .ok db') : Steady db.core db'.core := by
  obtain ⟨generations, -, h⟩ := bind_ok_iff.1 h
  obtain ⟨operations, hops, h⟩ := bind_ok_iff.1 h
  obtain ⟨sources, -, h⟩ := bind_ok_iff.1 h
  obtain ⟨-, rfl⟩ := insertUnless_ok_iff.1 hops
  obtain rfl := Except.ok.inj h
  exact .of_insert rfl rfl

theorem markRunning_steady (op_id claim_token : String) (c : CoreTables) :
    Steady c (c.markRunning now op_id claim_token) :=
  .of_updates rfl (List.append_nil _).symm (fun _ => rfl) fun o ho => by simp [ho]

theorem succeedEmpty_steady (op_id claim_token : String) (c : CoreTables) :
    Steady c (c.succeedEmpty now op_id claim_token) :=
  .of_updates rfl (List.append_nil _).symm (fun _ => rfl) fun o ho => by simp [ho]

theorem requeue_steady (source_id op_id : String) (c : CoreTables) :
    Steady c (requeue_sync_operation source_id op_id c).2 := by
  have hrequeues : ∀ o : OperationRow, o.state = .succeeded → o.requeues source_id op_id = false := fun o ho => by
    simp [OperationRow.requeues, ho, SyncOperationState.requeueable]
  unfold requeue_sync_operation
  dsimp only
  split_ifs
  · exact .of_updates rfl (List.append_nil _).symm (fun _ => rfl) hrequeues
  · exact .of_updates rfl (List.append_nil _).symm (fun _ => rfl) hrequeues

theorem recoveryPass_steady (cfg : RecoveryConfig) (slots : ℕ) (c : CoreTables) :
    Steady c (recoveryPass cfg now slots c) := by
  refine recoveryPass_rel cfg now slots c .refl .trans requeue_steady fun p f c hp hf => ?_
  refine .of_updates rfl (List.append_nil _).symm (fun o => by rw [(hf o).2]) fun o ho => ?_
  exact Bool.eq_false_iff.2 fun h => hp o h ho

theorem claim_problem_sync_steady {token : String} {claim : ProblemStateClaim}
    (h : claim_problem_sync now op_id token db = .ok (claim, db')) : Steady db.core db'.core := by
  have husage : db'.core.usage = db.core.usage := by
    obtain ⟨x, -, hx⟩ := map_ok_iff.1 h
    rw [← (Prod.mk.inj hx).2]
    rfl
  obtain ⟨-, -, -, -, -, -, hops⟩ := claim_problem_sync_core h
  exact .of_updates husage (hops.trans (List.append_nil _).symm) (fun _ => rfl) fun o ho => by simp [ho]

end Transactions

/-! ### What a result says -/

/-- A result that succeeded exactly where its operation did. -/
def SyncResult.honest {φ : Type} (result : SyncResult φ) : Bool :=
  result.succeeded == decide (result.operation_state = .succeeded)

/-- A problem result whose success is that of a complete snapshot. -/
def ProblemStateResult.honest (result : ProblemStateResult) : Bool :=
  result.succeeded == (result.complete_snapshot && decide (result.operation_state = .succeeded))

theorem SyncResult.honest_iff {φ : Type} {result : SyncResult φ} :
    result.honest = true ↔ (result.succeeded = true ↔ result.operation_state = .succeeded) := by
  rw [SyncResult.honest, beq_iff_eq, Bool.eq_iff_iff, decide_eq_true_iff]

variable {result : ProblemStateResult}

theorem ProblemStateResult.honest_iff :
    result.honest = true ↔ (result.succeeded = true ↔ result.final = .succeeded) := by
  rw [ProblemStateResult.honest, beq_iff_eq, Bool.eq_iff_iff, Bool.and_eq_true, decide_eq_true_iff,
    ProblemStateResult.final]
  cases result.complete_snapshot <;> simp

theorem effective_honest {claim : MetricDefinitionClaim} {result : MetricDefinitionResult} {t : InventoryTables} :
    (effective claim result t).honest = (result.honest || result.succeeded && !t.hostsPresent claim result.items) := by
  unfold effective
  split_ifs with h
  · simp [MetricDefinitionResult.rejected, SyncResult.honest, h]
  · have hcounts : (result.succeeded && !t.hostsPresent claim result.items) = false := by simpa using h
    rw [hcounts, Bool.or_false]

/-! ### What a completion does -/

/-- A running operation is completed: it may be metered, and it is left in a state. -/
structure Completed (c c' : CoreTables) (op_id : String) (metered : Bool) (state : SyncOperationState) : Prop where
  running : c.stateOf op_id = some .running
  left : c'.stateOf op_id = some state
  billed : ∀ id, c'.billed id = c.billed id + if id = op_id ∧ metered = true then 1 else 0
  /-- The others stay. -/
  others : ∀ id, id ≠ op_id → c.stateOf id = some .succeeded → c'.stateOf id = some .succeeded

theorem stateOf_of_mem (hk : c.Keyed) (ho : o ∈ c.operations) :
    (c.operations.find? fun r => r.monitoring_sync_operation_id = o.monitoring_sync_operation_id) = some o := by
  rw [find?_of_key hk.operations ho fun r hr => of_decide_eq_true hr, if_pos (decide_eq_true rfl)]

/-- The usage after a completion that meters. -/
theorem metered_billed (hk : c.Keyed) (ho : o ∈ c.operations) (now : Timestamp) (kind : String) (metered : Bool)
    (id : String) :
    (if metered then record_sync_usage now o.monitoring_sync_operation_id kind c else c).billed id =
      c.billed id + if id = o.monitoring_sync_operation_id ∧ metered = true then 1 else 0 := by
  cases metered with
  | false => simp
  | true =>
    rw [if_pos rfl, record_sync_usage, stateOf_of_mem hk ho]
    simp only [CoreTables.billed, List.countP_append, List.countP_singleton, decide_eq_true_eq, and_true]
    congr 2
    exact propext eq_comm

variable {state : SyncOperationState}

variable {metered : Bool}

/-- The state that is written, and the rows that are inserted beside it. -/
theorem Completed.of_updates (hk : c.Keyed) (ho : o ∈ c.operations) (hrunning : o.state = .running)
    (hops : c'.operations = updateWhere
      (fun r => r.monitoring_sync_operation_id = o.monitoring_sync_operation_id) f c.operations ++ l)
    (hf : ∀ r, (f r).monitoring_sync_operation_id = r.monitoring_sync_operation_id ∧ (f r).state = state)
    (husage : ∀ id, c'.billed id = c.billed id + if id = o.monitoring_sync_operation_id ∧ metered = true then 1 else 0) :
    Completed c c' o.monitoring_sync_operation_id metered state := by
  refine ⟨?_, ?_, husage, fun id hid h => ?_⟩
  · rw [CoreTables.stateOf, stateOf_of_mem hk ho, Option.map_some, hrunning]
  · rw [stateOf_of_updates hops (fun r => (hf r).1) (stateOf_of_mem hk ho), if_pos (decide_eq_true rfl), (hf o).2]
  · obtain ⟨r, hr, hstate⟩ := Option.map_eq_some_iff.1 h
    have hrid : r.monitoring_sync_operation_id = id := by simpa using List.find?_some hr
    rw [stateOf_of_updates hops (fun r => (hf r).1) hr, if_neg (by simpa [hrid] using hid), hstate]

theorem Completed.of_eq {d : CoreTables} (hops : d.operations = c.operations) (husage : d.usage = c.usage)
    (h : Completed d c' op_id metered state) : Completed c c' op_id metered state := by
  have hstate : ∀ id, d.stateOf id = c.stateOf id := fun id => by rw [CoreTables.stateOf, hops, CoreTables.stateOf]
  have hbilled : ∀ id, d.billed id = c.billed id := fun id => by rw [CoreTables.billed, husage, CoreTables.billed]
  exact ⟨hstate op_id ▸ h.running, h.left, fun id => hbilled id ▸ h.billed id, fun id hid hs =>
    h.others id hid ((hstate id).trans hs)⟩

/-- Nothing more is metered after a completion, and its operation stays where it was left. -/
theorem Completed.insert {d : CoreTables} (h : Completed c d op_id metered state)
    (hops : c'.operations = d.operations ++ l) (husage : c'.usage = d.usage) : Completed c c' op_id metered state := by
  have hstate : ∀ id s, d.stateOf id = some s → c'.stateOf id = some s := fun id s hs => by
    obtain ⟨o, ho, rfl⟩ := Option.map_eq_some_iff.1 hs
    rw [CoreTables.stateOf, hops, List.find?_append, ho]
    rfl
  exact ⟨h.running, hstate _ _ h.left, fun id => by rw [CoreTables.billed, husage]; exact h.billed id,
    fun id hid hs => hstate _ _ (h.others id hid hs)⟩

/-- The end of a completion that is fenced. -/
theorem finish_completed {φ : Type} {now : Timestamp} {claim : SyncClaim} {slot : SourceRow → Bool} (hk : c.Keyed)
    (hfence : c.fence claim slot = true) (result : SyncResult φ) (error : Option String) (kind : String)
    {set : SourceRow → SourceRow} {record : OperationRow → OperationRow}
    (hrecord : ∀ o, (record o).monitoring_sync_operation_id = o.monitoring_sync_operation_id ∧
      (record o).state = o.state) :
    Completed c (c.finish now claim result error kind set record) claim.monitoring_sync_operation_id result.succeeded
      result.operation_state := by
  obtain ⟨o, ho, ⟨hid, hrunning, -⟩, -⟩ := fence_iff.1 hfence
  have hops := finish_operations now claim result error kind set record c
  have hmetered := metered_billed hk ho now kind result.succeeded
  rw [hid] at hmetered
  rw [← hid] at hops ⊢
  refine .of_updates (l := []) hk ho hrunning (hops.trans (List.append_nil _).symm) (fun r => hrecord _) fun id => ?_
  rw [hid]
  exact hmetered id

/-- The completion of a problem poll. -/
theorem complete_problem_sync_completed {now : Timestamp} {claim : ProblemStateClaim}
    {raw_rows : List ZabbixProblemEvidence} {recoveries : List ZabbixRecoveryEvidence} {db db' : SyncDb}
    (hk : db.core.Keyed) (h : complete_problem_sync now claim result raw_rows recoveries db = .ok db') :
    Completed db.core db'.core claim.monitoring_sync_operation_id result.succeeded result.final := by
  obtain ⟨hfence, -, -, new, -, -, -, hops⟩ := complete_problem_sync_core h
  obtain ⟨p, -, -, hdb⟩ := complete_problem_sync_ok h
  obtain ⟨o, ho, hid, hrunning⟩ : ∃ o ∈ db.core.operations,
      o.monitoring_sync_operation_id = claim.monitoring_sync_operation_id ∧ o.state = .running := by
    obtain ⟨v, hv, hfenced⟩ := List.any_eq_true.1 hfence
    obtain ⟨o, ho, rfl⟩ := List.mem_map.1 hv
    obtain ⟨hid, hrunning, -⟩ := of_decide_eq_true hfenced
    exact ⟨o, ho, hid, hrunning⟩
  have hmetered := metered_billed hk ho now "problem_state" result.succeeded
  rw [hid] at hmetered
  rw [← hid] at hops ⊢
  refine .of_updates (f := OperationRow.problemsPolled now result) hk ho hrunning hops (fun _ => ⟨rfl, rfl⟩) fun id => ?_
  rw [hid, hdb]
  exact hmetered id

namespace Sync

variable {domain : Domain}

variable {a : Action}

/-- The actions that are one transaction on the schema meter nothing. -/
theorem transact_steady {db db' : SyncDb} (h : transact domain db a = .ok db') : Steady db.core db'.core := by
  cases a with
  | createSource now ref url credential => exact insertZabbixSource_steady h
  | enqueue | enqueueDefinitions | enqueueCurrentState | enqueueHistory =>
    simp only [transact, enqueue_sync_operation, enqueue_metric_definition_poll, enqueue_current_state_poll,
      enqueue_history_sync] at h
    exact enqueue_steady h
  | enqueueProblemState now source_id =>
    simp only [transact, enqueue_problem_state_sync] at h
    split at h
    · exact Except.ok.inj h ▸ .refl _
    · exact insertOperation_steady h
  | projectHistory | projectHealth | reestablish | refreshBindings | claim | complete =>
    rw [transact_core h rfl]
    exact .refl _
  | requeue source_id op_id => exact Except.ok.inj h ▸ requeue_steady source_id op_id db.core
  | recover cfg now slots => exact Except.ok.inj h ▸ recoveryPass_steady cfg slots db.core
  | moveAuthority source_id a g => exact Except.ok.inj h ▸ .of_eq rfl rfl
  | advanceEpoch source_id kind epoch generation => exact Except.ok.inj h ▸ .of_eq rfl rfl

theorem claim_steady {now : Timestamp} {w : Worker} {token : String} {db db' : SyncDb} {c : Option Claim}
    (h : claim domain now w op_id token db = .ok (c, db')) : Steady db.core db'.core := by
  rcases claim_cases h with ⟨_, rfl | rfl, rfl⟩ | ⟨c', -, -, h⟩
  · exact markRunning_steady op_id token db.core
  · exact (markRunning_steady op_id token db.core).trans (succeedEmpty_steady op_id token _)
  · exact claim_problem_sync_steady h

/-! ### Completions -/

/-- The operation of a claim. -/
def Claim.monitoring_sync_operation_id : Claim → String
  | .validation c => c.monitoring_sync_operation_id
  | .inventory c => c.monitoring_sync_operation_id
  | .definitions c => c.monitoring_sync_operation_id
  | .currentState c => c.monitoring_sync_operation_id
  | .history c => c.monitoring_sync_operation_id
  | .problemState c => c.monitoring_sync_operation_id

/-- Whether a completion meters its operation. That of a definition poll asks the result that counts. -/
def meters : Claim → Report → InventoryTables → Bool
  | .validation _, .validation result _, _ => result.succeeded
  | .inventory _, .inventory result _, _ => result.succeeded
  | .definitions c, .definitions result _, t => (effective c result t).succeeded
  | .currentState _, .currentState result, _ => result.succeeded
  | .history _, .history result _, _ => result.succeeded
  | .problemState _, .problemState result _ _, _ => result.succeeded
  | _, _, _ => false

/-- The state that a completion writes. That of a problem poll asks for a complete snapshot. -/
def closes : Claim → Report → InventoryTables → SyncOperationState
  | .validation _, .validation result _, _ => result.operation_state
  | .inventory _, .inventory result _, _ => result.operation_state
  | .definitions c, .definitions result _, t => (effective c result t).operation_state
  | .currentState _, .currentState result, _ => result.operation_state
  | .history _, .history result _, _ => result.operation_state
  | .problemState _, .problemState result _ _, _ => result.final
  | _, _, _ => .pending

/-- The result succeeded exactly where it leaves the operation `succeeded`: a problem poll, with a complete snapshot;
a definition poll, unless its hosts are unknown and it is rejected. -/
def HonestReport : Claim → Report → InventoryTables → Bool
  | .validation _, .validation result _, _ => result.honest
  | .inventory _, .inventory result _, _ => result.honest
  | .definitions c, .definitions result _, t =>
    result.honest || result.succeeded && !t.hostsPresent c result.items
  | .currentState _, .currentState result, _ => result.honest
  | .history _, .history result _, _ => result.honest
  | .problemState _, .problemState result _ _, _ => result.honest
  | _, _, _ => true

theorem honestReport_iff {c : Claim} {report : Report} {t : InventoryTables} :
    HonestReport c report t = true ↔ (meters c report t = true ↔ closes c report t = .succeeded) := by
  cases c <;> cases report <;> simp only [HonestReport, meters, closes, reduceCtorEq]
  case definitions.definitions => exact effective_honest ▸ SyncResult.honest_iff
  case problemState.problemState => exact ProblemStateResult.honest_iff
  all_goals exact SyncResult.honest_iff

/-- A completion that is committed was of a running operation, meters it, and closes it. -/
theorem complete_billing {now : Timestamp} {c : Claim} {report : Report} {db db' : SyncDb} (hk : db.core.Keyed)
    (h : complete domain now c report db = .ok db') :
    Completed db.core db'.core c.monitoring_sync_operation_id (meters c report db.inventory)
      (closes c report db.inventory) := by
  rcases complete_cases h with ⟨c', result, id, rfl, rfl, h⟩ | ⟨c', result, id, rfl, rfl, h⟩ |
    ⟨c', result, id, rfl, rfl, h⟩ | ⟨c', result, rfl, rfl, h⟩ | ⟨c', result, raw_rows, rfl, rfl, h⟩ |
    ⟨c', result, raw_rows, recoveries, rfl, rfl, h⟩
  · obtain ⟨hfence, -, e, -, -, rfl⟩ := complete_initial_validation_ok h
    dsimp only [meters, closes, Claim.monitoring_sync_operation_id]
    let d : CoreTables := { db.core with validations := db.core.validations ++ [e] }
    have hkeyed : d.Keyed := ⟨hk.operations, hk.sources⟩
    exact .of_eq (d := d) rfl rfl (finish_completed hkeyed (c := d) hfence result _ _ fun _ => ⟨rfl, rfl⟩)
  · obtain ⟨hfence, -, -, x, -, rfl⟩ := complete_host_inventory_ok h
    dsimp only [meters, closes, Claim.monitoring_sync_operation_id]
    exact finish_completed hk hfence result.toSyncResult _ _ fun _ => ⟨rfl, rfl⟩
  · obtain ⟨hfence, -, -, x, -, rfl⟩ := complete_metric_definitions_ok h
    dsimp only [meters, closes, Claim.monitoring_sync_operation_id]
    exact finish_completed hk hfence (effective c' result db.inventory).toSyncResult _ _ fun _ => ⟨rfl, rfl⟩
  · obtain ⟨hfence, x, -, rfl⟩ := complete_metric_current_state_ok h
    dsimp only [meters, closes, Claim.monitoring_sync_operation_id]
    exact finish_completed hk hfence result.toSyncResult _ _ fun _ => ⟨rfl, rfl⟩
  · obtain ⟨hfence, x, -, hchain⟩ := complete_metric_history_ok h
    have hfinish : Completed db.core (db.core.finish now c'.toSyncClaim result.toSyncResult
        (result.failure_class.map MetricHistoryFailureClass.value) "metric_history" (fun s => s) (fun o => o))
        c'.monitoring_sync_operation_id result.succeeded result.operation_state :=
      finish_completed hk hfence result.toSyncResult _ _ fun _ => ⟨rfl, rfl⟩
    -- The next page of the window is a new operation.
    rcases chainHistory_ok hchain with rfl | ⟨o, -, -, -, rfl⟩
    · exact hfinish
    · exact hfinish.insert rfl rfl
  · exact complete_problem_sync_completed hk h

/-! ### Runs -/

/-- The state that the step leaves the operation in, where it commits a completion of it. -/
def System.leaves (domain : Domain) (s : System) (a : Action) (op_id : String) : Option SyncOperationState :=
  ((s.step domain a).committed.drop s.committed.length).head?.bind fun x =>
    if x.1.monitoring_sync_operation_id = op_id then (s.step domain a).db.core.stateOf op_id else none

/-- The states that the completions of an operation left it in, in order. -/
def leftBy (domain : Domain) (op_id : String) : System → List Action → List SyncOperationState
  | _, [] => []
  | s, a :: run => (s.leaves domain a op_id).toList ++ leftBy domain op_id (s.step domain a) run

/-- One usage row where the last completion left the operation `succeeded`, and none where no completion did. -/
def BilledAsLeft (left : List SyncOperationState) (billed : ℕ) : Prop :=
  (left.getLast? = some .succeeded → billed = 1) ∧ (.succeeded ∉ left → billed = 0)

/-- Every operation is billed so, in every state that the run goes through. -/
def BilledOnce (domain : Domain) (bridge : BridgeVersion) (run : List Action) : Prop :=
  ∀ pre, pre <+: run → ∀ op_id,
    BilledAsLeft (leftBy domain op_id (.empty bridge) pre) ((System.exec domain bridge pre).db.core.billed op_id)

/-- What the step commits, if it is a completion, is honest. -/
def Honest (domain : Domain) (s : System) (a : Action) : Prop :=
  ∀ c report, s.Commits domain a c report → HonestReport c report s.db.inventory = true

theorem leftBy_append (domain : Domain) (op_id : String) (s : System) (run : List Action) (a : Action) :
    leftBy domain op_id s (run ++ [a]) =
      leftBy domain op_id s run ++ ((run.foldl (System.step domain) s).leaves domain a op_id).toList := by
  induction run generalizing s with
  | nil => simp [leftBy]
  | cons b run ih => simp [leftBy, ih]

variable {s : System}

/-- A step commits a completion of a running operation, or bills nothing. -/
theorem step_billing (hk : s.db.core.Keyed) (a : Action) :
    (∃ c report, s.Commits domain a c report ∧
      Completed s.db.core (s.step domain a).db.core c.monitoring_sync_operation_id (meters c report s.db.inventory)
        (closes c report s.db.inventory) ∧
      ∀ op_id, s.leaves domain a op_id =
        if op_id = c.monitoring_sync_operation_id then some (closes c report s.db.inventory) else none) ∨
    Steady s.db.core (s.step domain a).db.core ∧ (s.step domain a).committed = s.committed := by
  rcases step_cases domain s a with h | ⟨db, ht, h⟩ | ⟨now, w, op_id, token, c, db, -, hc, h⟩ |
    ⟨now, n, report, c, db, -, -, hc, h⟩
  · exact Or.inr (by rw [h]; exact ⟨.refl _, rfl⟩)
  · exact Or.inr (by rw [h]; exact ⟨transact_steady ht, rfl⟩)
  · exact Or.inr (by rw [h]; exact ⟨claim_steady hc, rfl⟩)
  · have hdone := complete_billing hk hc
    refine Or.inl ⟨c, report, by rw [System.Commits, h], by rw [h]; exact hdone, fun op_id => ?_⟩
    rw [System.leaves, h, List.drop_left, List.head?_cons, Option.bind_some]
    by_cases hid : op_id = c.monitoring_sync_operation_id
    · rw [if_pos hid.symm, if_pos hid, hid, hdone.left]
    · rw [if_neg (Ne.symm hid), if_neg hid]

theorem leaves_of_committed (h : (s.step domain a).committed = s.committed) (op_id : String) :
    s.leaves domain a op_id = none := by
  rw [System.leaves, h, List.drop_length, List.head?_nil, Option.bind_none]

/-- What has been billed, against the states that operations were left in. -/
structure Billing (s : System) (left : String → List SyncOperationState) : Prop where
  once : ∀ op_id, .succeeded ∈ left op_id → s.db.core.billed op_id = 1 ∧ s.db.core.stateOf op_id = some .succeeded
  never : ∀ op_id, .succeeded ∉ left op_id → s.db.core.billed op_id = 0

variable {left : String → List SyncOperationState}

theorem Billing.asLeft (h : Billing s left) (op_id : String) : BilledAsLeft (left op_id) (s.db.core.billed op_id) :=
  ⟨fun hlast => (h.once op_id (List.mem_of_getLast? hlast)).1, h.never op_id⟩

/-- An operation that runs has succeeded in no completion, and has not been billed. -/
theorem Billing.unbilled (h : Billing s left) (hrunning : s.db.core.stateOf op_id = some .running) :
    .succeeded ∉ left op_id ∧ s.db.core.billed op_id = 0 := by
  have hnever : .succeeded ∉ left op_id := fun hmem => by
    rw [(h.once op_id hmem).2] at hrunning
    cases hrunning
  exact ⟨hnever, h.never op_id hnever⟩

/-- A step that is honest keeps it. -/
theorem Billing.step {s : System} {left : String → List SyncOperationState} (h : Billing s left)
    (hk : s.db.core.Keyed) {a : Action} (hhonest : Honest domain s a) :
    Billing (s.step domain a) fun op_id => left op_id ++ (s.leaves domain a op_id).toList := by
  rcases step_billing hk a with ⟨c, report, hcommit, hdone, hleaves⟩ | ⟨hsteady, hsame⟩
  · obtain ⟨hnever, hzero⟩ := h.unbilled hdone.running
    have hagree := honestReport_iff.1 (hhonest c report hcommit)
    refine ⟨fun op_id hmem => ?_, fun op_id hmem => ?_⟩
    · by_cases hid : op_id = c.monitoring_sync_operation_id
      · subst hid
        -- It is this completion that succeeded, and so it meters.
        have hclosed : closes c report s.db.inventory = .succeeded := by
          simpa [hleaves, hnever, eq_comm] using hmem
        rw [hdone.billed, hzero, hdone.left, hclosed, if_pos ⟨rfl, hagree.2 hclosed⟩]
        exact ⟨rfl, rfl⟩
      · have hbefore : .succeeded ∈ left op_id := by simpa [hleaves, hid] using hmem
        obtain ⟨hone, hstate⟩ := h.once op_id hbefore
        rw [hdone.billed, hone, if_neg fun hx => hid hx.1]
        exact ⟨rfl, hdone.others op_id hid hstate⟩
    · have hbefore : .succeeded ∉ left op_id := fun hx => hmem (List.mem_append_left _ hx)
      rw [hdone.billed, h.never op_id hbefore, if_neg]
      rintro ⟨rfl, hmetered⟩
      exact hmem (by simp [hleaves, hagree.1 hmetered])
  · have hleft : ∀ op_id, left op_id ++ (s.leaves domain a op_id).toList = left op_id := fun op_id => by
      rw [leaves_of_committed hsame, Option.toList_none, List.append_nil]
    have hbilled : ∀ op_id, (s.step domain a).db.core.billed op_id = s.db.core.billed op_id := fun op_id => by
      rw [CoreTables.billed, hsteady.usage, CoreTables.billed]
    refine ⟨fun op_id hmem => ?_, fun op_id hmem => ?_⟩ <;> rw [hleft] at hmem <;> rw [hbilled]
    · exact ⟨(h.once op_id hmem).1, hsteady.succeeded op_id (h.once op_id hmem).2⟩
    · exact h.never op_id hmem

/-- A step after which everything is billed as it was left is honest. -/
theorem Billing.honest (h : Billing s left) (hk : s.db.core.Keyed)
    (hlaw : ∀ op_id, BilledAsLeft (left op_id ++ (s.leaves domain a op_id).toList)
      ((s.step domain a).db.core.billed op_id)) : Honest domain s a := by
  intro c report hc
  rcases step_billing hk a with ⟨c', report', hcommit, hdone, hleaves⟩ | ⟨-, hsame⟩
  · obtain ⟨rfl, rfl⟩ : c' = c ∧ report' = report := by simpa using hcommit.symm.trans hc
    obtain ⟨hnever, hzero⟩ := h.unbilled hdone.running
    obtain ⟨hone, hnone⟩ := hlaw c'.monitoring_sync_operation_id
    simp only [hleaves, if_true, Option.toList_some, List.getLast?_concat, Option.some.injEq, List.mem_append, hnever,
      List.mem_singleton, false_or, hdone.billed, hzero, true_and, Nat.zero_add] at hone hnone
    refine honestReport_iff.2 ⟨fun hmetered => ?_, fun hclosed => ?_⟩
    · by_contra hclosed
      exact absurd (hnone (Ne.symm hclosed)) (by simp [hmetered])
    · by_contra hmetered
      exact absurd (hone hclosed) (by simp [hmetered])
  · simp [System.Commits, hsame] at hc

/-- Where every completion is honest, everything is billed as it was left. -/
theorem billing_exec {domain : Domain} {bridge : BridgeVersion} {run : List Action}
    (hrun : Guarded (System.step domain) (Honest domain) (.empty bridge) run) :
    Billing (System.exec domain bridge run) fun op_id => leftBy domain op_id (.empty bridge) run := by
  induction run using List.reverseRecOn with
  | nil => exact ⟨fun op_id h => absurd h List.not_mem_nil, fun op_id _ => rfl⟩
  | append_singleton run a ih =>
    obtain ⟨hbefore, hlast, -⟩ := guarded_append.1 hrun
    have hstep := (ih hbefore).step (inStep_exec bridge run).keyed (a := a) hlast
    simp only [leftBy_append]
    rw [System.exec, List.foldl_append]
    exact hstep

/-- **Key result**: in every state that a run goes through, an operation whose last completion left it `succeeded` has
one usage row, and one that no completion left so has none, if and only if every completion that is committed is
honest. -/
theorem billed_once_iff (domain : Domain) (bridge : BridgeVersion) (run : List Action) :
    BilledOnce domain bridge run ↔ Guarded (System.step domain) (Honest domain) (.empty bridge) run := by
  constructor
  · intro hlaw
    induction run using List.reverseRecOn with
    | nil => trivial
    | append_singleton run a ih =>
      have hbefore := ih fun pre hpre => hlaw pre (hpre.trans (List.prefix_append _ _))
      refine guarded_append.2 ⟨hbefore, ?_, trivial⟩
      refine (billing_exec hbefore).honest (inStep_exec bridge run).keyed fun op_id => ?_
      have hlast := hlaw _ (List.prefix_refl _) op_id
      rwa [leftBy_append, System.exec, List.foldl_append] at hlast
  · rintro hrun pre ⟨rest, rfl⟩ op_id
    exact (billing_exec (guarded_append.1 hrun).1).asLeft op_id

/-- A poll that reads the problems, but not all of them. -/
def incompletePoll : ProblemStateResult := ⟨true, false, .succeeded, .reconciliation_required, none, []⟩

/-- The problems of a source are polled, and the snapshot is incomplete; the operation is requeued, and completes. -/
def incompleteThenClear : List Action :=
  [.createSource 0 "zabbix" "https://zabbix" "cred", .enqueue 1 .host_inventory_sync "mon-src_0",
    .claim 2 .inventory "mon-sync_4" "token-1",
    .complete 3 0 (.inventory { SyncResult.ok _ with snapshot_complete := true, hosts := [⟨"10101"⟩] } "inventory-1"),
    .reestablish "mon-src_0" "mon-gen_1", .enqueueProblemState 4 "mon-src_0",
    .claim 5 .problemState "mon-op_7" "token-2", .complete 6 1 (.problemState incompletePoll [] []),
    .requeue "mon-src_0" "mon-op_7",
    .claim 7 .problemState "mon-op_7" "token-3", .complete 8 2 (.problemState clearPoll [] [])]

/-- It is left `succeeded`, with two usage rows. -/
theorem incomplete_billed_twice : ¬BilledOnce Domain.tested .publicationBridge incompleteThenClear := by
  intro h
  have hone := (h _ (List.prefix_refl _) "mon-op_7").1 (by decide)
  revert hone
  decide

end Sync

end JLMirror.Monitoring
