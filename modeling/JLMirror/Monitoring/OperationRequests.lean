import JLMirror.Monitoring.PollOrder

/-!
# What an operation was queued for

Claims, completions, the reaper and operators change how far an operation is. What it was queued for stays:
its source, its kind, its window and cursor, and when it was created. How often it was recovered is only counted up.

## What is proved

**Key result** (`requests_step`): a step appends to the requests of the table, and changes none of them.
-/

namespace JLMirror.Monitoring

open JLMirror.Foundations

/-- What an operation was queued for. -/
structure OperationRequest where
  monitoring_sync_operation_id : String
  monitoring_source_id : String
  source_instance_generation : String
  responsibility_kind : ResponsibilityKind
  created_at : Timestamp
  history_time_from : Option ℤ
  history_time_till : Option ℤ
  history_item_cursor : String
  deriving DecidableEq

/-- The request of an operation. -/
def OperationRow.request (o : OperationRow) : OperationRequest where
  monitoring_sync_operation_id := o.monitoring_sync_operation_id
  monitoring_source_id := o.monitoring_source_id
  source_instance_generation := o.source_instance_generation
  responsibility_kind := o.responsibility_kind
  created_at := o.created_at
  history_time_from := o.history_time_from
  history_time_till := o.history_time_till
  history_item_cursor := o.history_item_cursor

/-- The requests of the table. -/
def CoreTables.requests (c : CoreTables) : List OperationRequest := c.operations.map OperationRow.request

/-- The window of a history sync. -/
def OperationRequest.window (r : OperationRequest) : Option (ℤ × ℤ) :=
  if r.responsibility_kind = .metric_history_sync then
    r.history_time_from.bind fun time_from => r.history_time_till.map fun time_till => (time_from, time_till)
  else none

theorem OperationRequest.window_of_none {r : OperationRequest} (h : r.history_time_from = none) : r.window = none := by
  rw [OperationRequest.window, h, Option.bind_none, ite_self]

theorem requests_of_update {c c' : CoreTables} {p : OperationRow → Bool} {f : OperationRow → OperationRow}
    (hops : c'.operations = updateWhere p f c.operations) (hf : ∀ o, (f o).request = o.request) :
    c'.requests = c.requests := by
  rw [CoreTables.requests, hops, map_updateWhere hf]
  rfl

theorem insertOperation_requests {kind : String} {row : String → OperationRow} {db db' : SyncDb}
    (h : db.insertOperation kind row = .ok db') :
    db'.core.requests = db.core.requests ++ [(row (opaqueId kind db.nextId)).request] := by
  obtain ⟨-, rfl⟩ := insertOperation_ok h
  exact List.map_append

/-! ### What a transaction does to the operations -/

/-- The operation later on: it keeps its request, and no recovery is taken back. -/
structure OperationRow.FollowedBy (o o' : OperationRow) : Prop where
  request : o'.request = o.request
  recovery_count : o.recovery_count ≤ o'.recovery_count

theorem OperationRow.FollowedBy.refl (o : OperationRow) : o.FollowedBy o := ⟨rfl, le_rfl⟩

theorem OperationRow.FollowedBy.trans {o p q : OperationRow} (h : o.FollowedBy p) (h' : p.FollowedBy q) : o.FollowedBy q :=
  ⟨h'.request.trans h.request, h.recovery_count.trans h'.recovery_count⟩

theorem OperationRow.FollowedBy.id_eq {o o' : OperationRow} (h : o.FollowedBy o') :
    o'.monitoring_sync_operation_id = o.monitoring_sync_operation_id :=
  congrArg OperationRequest.monitoring_sync_operation_id h.request

/-- The operations go on, and others are appended. -/
def Grows (new : OperationRequest → Prop) (c c' : CoreTables) : Prop :=
  ∃ f l, c'.operations = c.operations.map f ++ l ∧ (∀ o : OperationRow, o.FollowedBy (f o)) ∧ ∀ o ∈ l, new o.request

/-- Nothing is appended. -/
abbrev Follows (c c' : CoreTables) : Prop := Grows (fun _ => False) c c'

section Grows

variable {new : OperationRequest → Prop} {c d e : CoreTables}

variable {p : OperationRow → Bool} {f : OperationRow → OperationRow} {l : List OperationRow}

theorem Grows.of_updates (hops : d.operations = updateWhere p f c.operations ++ l)
    (hf : ∀ o : OperationRow, o.FollowedBy (f o)) (hnew : ∀ o ∈ l, new o.request) : Grows new c d := by
  refine ⟨_, l, hops, fun o => ?_, hnew⟩
  split_ifs
  · exact hf o
  · exact .refl o

theorem Grows.of_update (hops : d.operations = updateWhere p f c.operations)
    (hf : ∀ o : OperationRow, o.FollowedBy (f o)) : Grows new c d :=
  .of_updates (hops.trans (List.append_nil _).symm) hf (by simp)

theorem Grows.of_append (hops : d.operations = c.operations ++ l) (hnew : ∀ o ∈ l, new o.request) : Grows new c d :=
  ⟨id, l, by rw [hops, List.map_id], .refl, hnew⟩

theorem Grows.of_eq (hops : d.operations = c.operations) : Grows new c d :=
  .of_append (hops.trans (List.append_nil _).symm) (by simp)

theorem Grows.mono {new' : OperationRequest → Prop} (h : Grows new c d) (hnew : ∀ r, new r → new' r) : Grows new' c d := by
  obtain ⟨f, l, hops, hf, hl⟩ := h
  exact ⟨f, l, hops, hf, fun o ho => hnew _ (hl o ho)⟩

theorem Follows.grows (h : Follows c d) : Grows new c d := h.mono fun _ => False.elim

theorem Follows.trans (h : Follows c d) (h' : Grows new d e) : Grows new c e := by
  obtain ⟨f, l, hops, hf, hl⟩ := h
  obtain ⟨g, l', hops', hg, hl'⟩ := h'
  obtain rfl : l = [] := List.eq_nil_iff_forall_not_mem.2 hl
  refine ⟨g ∘ f, l', ?_, fun o => (hf o).trans (hg _), hl'⟩
  rw [hops', hops, List.append_nil, List.map_map]

theorem Grows.requests (h : Grows new c d) : ∃ l, d.requests = c.requests ++ l ∧ ∀ r ∈ l, new r := by
  obtain ⟨f, l, hops, hf, hl⟩ := h
  refine ⟨l.map OperationRow.request, ?_, by simpa using hl⟩
  rw [CoreTables.requests, CoreTables.requests, hops, List.map_append, List.map_map]
  exact congrArg (· ++ _) (List.map_congr_left fun o _ => (hf o).request)

/-- An operation was there, or is new, with an id of its own. -/
theorem Grows.mem_or (h : Grows new c d) (hkeyed : d.Keyed) {o' : OperationRow} (ho' : o' ∈ d.operations) :
    (∃ o ∈ c.operations, o.FollowedBy o') ∨ new o'.request ∧
      ∀ o ∈ c.operations, o.monitoring_sync_operation_id ≠ o'.monitoring_sync_operation_id := by
  obtain ⟨f, l, hops, hf, hl⟩ := h
  rw [hops] at ho'
  rcases List.mem_append.1 ho' with hmem | hmem
  · obtain ⟨o, ho, rfl⟩ := List.mem_map.1 hmem
    exact Or.inl ⟨o, ho, hf o⟩
  · refine Or.inr ⟨hl o' hmem, fun o ho hid => ?_⟩
    have hnodup := hkeyed.operations
    rw [hops, List.map_append] at hnodup
    exact (List.nodup_append.1 hnodup).2.2 _ (List.mem_map_of_mem (List.mem_map_of_mem ho)) _ (List.mem_map_of_mem hmem)
      ((hf o).id_eq.trans hid)

end Grows

/-! ### The transactions -/

section Transactions

variable {domain : Domain} {now : Timestamp} {new : OperationRequest → Prop}

variable {db db' : SyncDb}

theorem insertOperation_grows {kind : String} {row : String → OperationRow}
    (h : db.insertOperation kind row = .ok db') (hnew : new (row (opaqueId kind db.nextId)).request) :
    Grows new db.core db'.core := by
  obtain ⟨-, rfl⟩ := insertOperation_ok h
  exact .of_append rfl (by simpa using hnew)

theorem enqueue_grows {kind : ResponsibilityKind} {set : SourceRow → OperationRow → OperationRow} {source_id : String}
    (h : db.enqueue now kind set source_id = .ok db')
    (hnew : ∀ s op_id, s.monitoring_source_id = source_id → new (set s (pendingOperation now op_id kind s)).request) :
    Grows new db.core db'.core := by
  obtain ⟨s, hs, h⟩ := enqueue_ok h
  exact insertOperation_grows h (hnew s _ (by simpa using List.find?_some hs))

theorem insertZabbixSource_grows {ref url credential : String}
    (h : insertZabbixSource now ref url credential db = .ok db') :
    Grows (fun r => r.window = none) db.core db'.core := by
  obtain ⟨generations, -, h⟩ := bind_ok_iff.1 h
  obtain ⟨operations, hops, h⟩ := bind_ok_iff.1 h
  obtain ⟨sources, -, h⟩ := bind_ok_iff.1 h
  obtain ⟨-, rfl⟩ := insertUnless_ok_iff.1 hops
  obtain rfl := Except.ok.inj h
  exact .of_append rfl (List.forall_mem_singleton.2 rfl)

theorem markRunning_follows (op_id claim_token : String) (c : CoreTables) : Follows c (c.markRunning now op_id claim_token) :=
  .of_update rfl fun _ => ⟨rfl, le_rfl⟩

theorem succeedEmpty_follows (op_id claim_token : String) (c : CoreTables) :
    Follows c (c.succeedEmpty now op_id claim_token) := .of_update rfl fun _ => ⟨rfl, le_rfl⟩

theorem requeue_follows (source_id op_id : String) (c : CoreTables) :
    Follows c (requeue_sync_operation source_id op_id c).2 := by
  unfold requeue_sync_operation
  dsimp only
  split_ifs <;> exact .of_update rfl fun _ => ⟨rfl, Nat.le_succ _⟩

theorem recoveryPass_follows (cfg : RecoveryConfig) (slots : ℕ) (c : CoreTables) :
    Follows c (recoveryPass cfg now slots c) := by
  refine recoveryPass_rel cfg now slots c (fun _ => .of_eq rfl) .trans requeue_follows fun p f c _ hf => ?_
  exact .of_update rfl fun o => ⟨by rw [(hf o).2]; rfl, (hf o).1⟩

theorem finish_follows {φ : Type} (claim : SyncClaim) (result : SyncResult φ) (error : Option String) (kind : String)
    (slot : SourceRow → SourceRow) {record : OperationRow → OperationRow} (c : CoreTables)
    (hrecord : ∀ o : OperationRow, o.FollowedBy (record o)) : Follows c (c.finish now claim result error kind slot record) := by
  refine .of_update (finish_operations ..) fun o => ?_
  have hclosed := hrecord { o with
    state := result.operation_state, completed_at := some now, last_error_class := error }
  exact ⟨hclosed.request, hclosed.recovery_count⟩

theorem chainHistory_grows {claim : MetricHistoryClaim} {result : MetricHistoryResult}
    (h : chainHistory domain now claim result db = .ok db') :
    Grows (fun r => r.monitoring_source_id = claim.monitoring_source_id ∧
      r.window = some (claim.window.time_from, claim.window.time_till)) db.core db'.core := by
  unfold chainHistory at h
  split_ifs at h
  · exact insertOperation_grows h ⟨rfl, rfl⟩
  · exact .of_eq (congrArg (·.core.operations) (Except.ok.inj h).symm)

end Transactions

/-! ### The steps of the system -/

namespace Sync

/-- What an action may queue. -/
inductive Queues (s : System) (a : Action) (r : OperationRequest) : Prop where
  /-- An operation without a window. -/
  | plain (window : r.window = none)
  /-- The window that an operator asks for. -/
  | asked {now : Timestamp} {time_from time_till : ℤ} (h : a = .enqueueHistory now time_from time_till r.monitoring_source_id)
      (window : r.window = some (time_from, time_till))
  /-- The next page of the window of a claim. -/
  | chained {now : Timestamp} {n : ℕ} {report : Report} {claim : MetricHistoryClaim} (h : a = .complete now n report)
      (issued : s.issued[n]? = some (.history claim)) (source : r.monitoring_source_id = claim.monitoring_source_id)
      (window : r.window = some (claim.window.time_from, claim.window.time_till))

variable {domain : Domain}

variable {db' : SyncDb}

theorem transact_grows {s : System} {a : Action} (h : transact domain s.db a = .ok db') :
    Grows (Queues s a) s.db.core db'.core := by
  cases a with
  | createSource now ref url credential => exact (insertZabbixSource_grows h).mono fun _ => .plain
  | enqueue now kind source_id =>
    simp only [transact, enqueue_sync_operation] at h
    exact enqueue_grows h fun _ _ _ => .plain (OperationRequest.window_of_none rfl)
  | enqueueDefinitions now source_id =>
    simp only [transact, enqueue_metric_definition_poll] at h
    exact enqueue_grows h fun _ _ _ => .plain rfl
  | enqueueCurrentState now source_id =>
    simp only [transact, enqueue_current_state_poll] at h
    exact enqueue_grows h fun _ _ _ => .plain rfl
  | enqueueHistory now time_from time_till source_id =>
    simp only [transact, enqueue_history_sync] at h
    exact enqueue_grows h fun _ _ hid => .asked (by rw [← hid]; rfl) rfl
  | enqueueProblemState now source_id =>
    simp only [transact, enqueue_problem_state_sync] at h
    split at h
    · exact Except.ok.inj h ▸ .of_eq rfl
    · exact insertOperation_grows h (.plain rfl)
  | projectHistory | projectHealth | reestablish | refreshBindings | claim | complete =>
    rw [transact_core h rfl]
    exact .of_eq rfl
  | requeue source_id op_id =>
    rw [← Except.ok.inj h]
    exact (requeue_follows source_id op_id s.db.core).grows
  | recover cfg now slots =>
    rw [← Except.ok.inj h]
    exact (recoveryPass_follows cfg slots s.db.core).grows
  | moveAuthority source_id a g => exact Except.ok.inj h ▸ .of_eq rfl
  | advanceEpoch source_id kind epoch generation => exact Except.ok.inj h ▸ .of_eq rfl

theorem claim_follows {now : Timestamp} {w : Worker} {op_id token : String} {db : SyncDb} {c : Option Claim}
    (h : claim domain now w op_id token db = .ok (c, db')) : Follows db.core db'.core := by
  rcases claim_cases h with ⟨_, rfl | rfl, rfl⟩ | ⟨c', -, -, h⟩
  · exact markRunning_follows op_id token db.core
  · exact (markRunning_follows op_id token db.core).trans (succeedEmpty_follows op_id token _)
  · obtain ⟨-, -, -, -, -, -, hops⟩ := claim_problem_sync_core h
    exact .of_update hops fun _ => ⟨rfl, le_rfl⟩

theorem complete_grows {s : System} {now : Timestamp} {n : ℕ} {c : Claim} {report : Report}
    (hn : s.issued[n]? = some c) (h : complete domain now c report s.db = .ok db') :
    Grows (Queues s (.complete now n report)) s.db.core db'.core := by
  rcases complete_cases h with ⟨c', result, id, rfl, rfl, h⟩ | ⟨c', result, id, rfl, rfl, h⟩ |
    ⟨c', result, id, rfl, rfl, h⟩ | ⟨c', result, rfl, rfl, h⟩ | ⟨c', result, raw_rows, rfl, rfl, h⟩ |
    ⟨c', result, raw_rows, recoveries, rfl, rfl, h⟩
  · obtain ⟨-, -, e, -, -, rfl⟩ := complete_initial_validation_ok h
    exact (finish_follows _ _ _ _ _ { s.db.core with validations := s.db.core.validations ++ [e] } .refl).grows
  · obtain ⟨-, -, -, x, -, rfl⟩ := complete_host_inventory_ok h
    exact Follows.grows (finish_follows _ _ _ _ _ s.db.core fun _ => ⟨rfl, le_rfl⟩)
  · obtain ⟨-, -, -, x, -, rfl⟩ := complete_metric_definitions_ok h
    exact Follows.grows (finish_follows _ _ _ _ _ s.db.core fun _ => ⟨rfl, le_rfl⟩)
  · obtain ⟨-, x, -, rfl⟩ := complete_metric_current_state_ok h
    exact Follows.grows (finish_follows _ _ _ _ _ s.db.core .refl)
  · obtain ⟨-, _, -, hchain⟩ := complete_metric_history_ok h
    have hfinish : Follows s.db.core (s.db.core.finish now c'.toSyncClaim result.toSyncResult
        (result.failure_class.map MetricHistoryFailureClass.value) "metric_history" (fun s => s) fun o => o) :=
      finish_follows _ _ _ _ _ _ .refl
    exact hfinish.trans ((chainHistory_grows hchain).mono fun r hr => .chained rfl hn hr.1 hr.2)
  · obtain ⟨-, -, -, new, -, hnew, -, hops⟩ := complete_problem_sync_core h
    refine .of_updates hops (fun _ => ⟨rfl, le_rfl⟩) fun o ho => .plain ?_
    have hkind : o.request.responsibility_kind = .host_inventory_sync := (hnew o ho).1
    rw [OperationRequest.window, hkind]
    rfl

/-- **Key result**: a step lets the operations grow. -/
theorem operations_step (domain : Domain) (s : System) (a : Action) :
    Grows (Queues s a) s.db.core (s.step domain a).db.core := by
  rcases step_cases domain s a with h | ⟨db, ht, h⟩ | ⟨now, w, op_id, token, c, db, -, hc, h⟩ |
    ⟨now, n, report, c, db, rfl, hn, hc, h⟩ <;> rw [h]
  · exact .of_eq rfl
  · exact transact_grows ht
  · exact (claim_follows hc).grows
  · exact complete_grows hn hc

theorem requests_step (domain : Domain) (s : System) (a : Action) :
    s.db.core.requests <+: (s.step domain a).db.core.requests := by
  obtain ⟨l, hl, -⟩ := (operations_step domain s a).requests
  exact ⟨l, hl.symm⟩

theorem requests_foldl (domain : Domain) (s : System) (run : List Action) :
    s.db.core.requests <+: (run.foldl (System.step domain) s).db.core.requests := by
  induction run generalizing s with
  | nil => exact List.prefix_rfl
  | cons a run ih => exact (requests_step domain s a).trans (ih _)

end Sync

end JLMirror.Monitoring
