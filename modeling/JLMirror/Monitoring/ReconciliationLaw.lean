import JLMirror.Foundations.Run
import JLMirror.Monitoring.ReconciliationPass

/-!
# What a pass requeues

"A live pending/running op of the same kind means the scheduler already regenerated the work; do not double." The pass
asks for this in the query that selects its rows. Nothing asks again when the rows are requeued, so two rows of one
source and kind are both requeued, and so is a row whose source has been given another operation in the meantime.

## The model

* `Reconciled` is the law of a state: an operation that a pass requeues next is alone of its kind, as far as the pass
  sees, and no operation has been recovered more often than the limit.
* `Orderly` is the condition on a step: the selected rows are of different sources or kinds, and a transaction that
  commits spares the rows that a pass has still to requeue (`Spares`): it brings no other operation of such a source and
  kind to life, and does not take the last recovery of such a row.

## What is proved

* `Seen`: the invariant on what a session sees, with the rows that it has still to requeue. `Seen.write` is a write of
  the session, `Seen.transfer` a commit of another one.
* **Key result** (`reconciled_of_orderly`): in a run whose steps all meet the condition, every state has the law.
* `guarded_pass`: while one pass is alone, the condition is on the rows that it selects.
* `twoFailed`: a pass that requeues two operations of one source and kind.
-/

namespace JLMirror.Monitoring.Reconciliation

open JLMirror.Foundations Sync

/-! ### The law and the condition -/

/-- The operation that a session requeues next. -/
def Passes.requeues (s : Passes) (w : ℕ) : Option OperationRow :=
  match s.pc w with
  | .requeue (r :: _) => (s.seen w).core.operations.find?
      (OperationRow.requeues r.monitoring_source_id r.monitoring_sync_operation_id)
  | _ => none

/-- The law of a state. -/
structure Reconciled (cfg : RecoveryConfig) (s : Passes) : Prop where
  /-- Nothing of the source and kind is pending or running. -/
  alone : ∀ w o, s.requeues w = some o → ∀ n ∈ (s.seen w).core.operations,
    n.isOf o.monitoring_source_id o.responsibility_kind = true → n.state.live = false
  bounded : ∀ op_id, s.tx.db.recovered.count op_id ≤ cfg.recovery_max

/-- The operations that are pending or running, and were not before. -/
def woken (c c' : CoreTables) : List OperationRow :=
  c'.operations.filter fun n => n.state.live && c.operations.all fun m =>
    m.monitoring_sync_operation_id ≠ n.monitoring_sync_operation_id ∨ m.state.live = false

/-- What is committed next spares the rows that a pass has still to requeue. -/
def Spares (cfg : RecoveryConfig) (s : Passes) (b : Books) : Prop :=
  ∀ w, ∀ r ∈ (s.pc w).rows,
    (∀ n ∈ woken s.tx.db.core b.core, n.isOf r.monitoring_source_id r.responsibility_kind = true →
      n.monitoring_sync_operation_id = r.monitoring_sync_operation_id) ∧
    (b.recovered.count r.monitoring_sync_operation_id ≤ s.tx.db.recovered.count r.monitoring_sync_operation_id ∨
      b.recovered.count r.monitoring_sync_operation_id < cfg.recovery_max)

/-- The rows that a step selects. -/
def Passes.selects (cfg : RecoveryConfig) (s : Passes) : Act → List OperationRow
  | .go w =>
    match s.pc w with
    | .update .sweep now slots _ [] => (s.seen w).core.selected cfg now slots
    | _ => []
  | _ => []

/-- Rows of different sources or kinds. -/
def Different (r r' : OperationRow) : Prop := r'.isOf r.monitoring_source_id r.responsibility_kind = false

/-- The condition on a step. -/
def Orderly (domain : Domain) (cfg : RecoveryConfig) (s : Passes) (a : Act) : Prop :=
  (s.selects cfg a).Pairwise Different ∧ Spares cfg s (s.step domain cfg a).tx.db

instance : DecidableRel Different := fun r r' =>
  inferInstanceAs (Decidable (r'.isOf r.monitoring_source_id r.responsibility_kind = false))

theorem Different.symm {r r' : OperationRow} (h : Different r r') : Different r' r :=
  decide_eq_false fun hof => of_decide_eq_false h ⟨hof.1.symm, hof.2.symm⟩

theorem not_live_of_requeueable {state : SyncOperationState} (h : state.requeueable = true) : state.live = false := by
  cases state <;> first | rfl | cases h

/-- What is live and was not brought to life was live before. -/
theorem live_of_not_woken {c c' : CoreTables} {n : OperationRow} (hn : n ∈ c'.operations) (hlive : n.state.live = true)
    (hwoken : n ∉ woken c c') : ∃ m ∈ c.operations,
      m.monitoring_sync_operation_id = n.monitoring_sync_operation_id ∧ m.state.live = true := by
  by_contra hnone
  simp only [not_exists, not_and] at hnone
  refine hwoken (List.mem_filter.2 ⟨hn, Bool.and_eq_true_iff.2 ⟨hlive, List.all_eq_true.2 fun m hm => ?_⟩⟩)
  refine decide_eq_true ?_
  by_cases hid : m.monitoring_sync_operation_id = n.monitoring_sync_operation_id
  · exact Or.inr (by simpa using hnone m hm hid)
  · exact Or.inl hid

theorem isOf_congr {o o' : OperationRow} (h : o'.request = o.request) (source_id : String) (kind : ResponsibilityKind) :
    o'.isOf source_id kind = o.isOf source_id kind :=
  congrArg (fun r : OperationRequest => decide (r.monitoring_source_id = source_id ∧ r.responsibility_kind = kind)) h

/-! ### The writes -/

theorem request_set (x : Write) (o : OperationRow) : (onOperations.set x o).request = o.request := by
  rcases x with ⟨_ | _ | _, _, _⟩ | _ | _ <;> rfl

theorem target_of_recovered {x : Write} {op_id : String} (h : x.recovered = some op_id) :
    onOperations.target x = some op_id := by
  rcases x with ⟨_ | _ | _, _, _⟩ | _ | _
  all_goals first | exact h | cases h

/-- A write counts the recovery that it is. -/
theorem recovery_count_on (x : Write) (o : OperationRow) : (onOperations.on x o).recovery_count =
    o.recovery_count + x.recovered.toList.count o.monitoring_sync_operation_id := by
  unfold RowWrites.on
  split_ifs with h
  · have heq : onOperations.target x = some o.monitoring_sync_operation_id := h
    rcases x with ⟨_ | _ | _, _, _⟩ | _ | _
    all_goals first | cases heq
    all_goals simp [Write.recovered, onOperations, Statement.set, OperationRow.requeued]
  · rw [List.count_eq_zero_of_not_mem, Nat.add_zero]
    intro hmem
    exact h (target_of_recovered (Option.mem_toList.1 hmem))

theorem core_apply (x : Write) (b : Books) : (x.apply b).core.operations = b.core.operations.map (onOperations.on x) := rfl

theorem requests_apply (x : Write) (b : Books) : (x.apply b).core.requests = b.core.requests := by
  rw [CoreTables.requests, core_apply, List.map_map]
  exact List.map_congr_left fun o _ => RowWrites.on_kept request_set x o

section Fold

variable (ws : List Write) (b : Books)

theorem operations_foldl :
    (ws.foldl (fun b x => x.apply b) b).core.operations = b.core.operations.map (onOperations.image ws) := by
  rw [← RowWrites.foldl_map_on]
  induction ws generalizing b with
  | nil => rfl
  | cons x ws ih => exact ih (x.apply b)

theorem sources_foldl :
    (ws.foldl (fun b x => x.apply b) b).core.sources = b.core.sources.map (onSources.image ws) := by
  rw [← RowWrites.foldl_map_on]
  induction ws generalizing b with
  | nil => rfl
  | cons x ws ih => exact ih (x.apply b)

theorem keyed_foldl (h : b.core.Keyed) : (ws.foldl (fun b x => x.apply b) b).core.Keyed := by
  refine ⟨?_, ?_⟩
  · rw [operations_foldl]
    exact (congrArg List.Nodup (onOperations.keys_image ws b.core.operations)).mpr h.operations
  · rw [sources_foldl]
    exact (congrArg List.Nodup (onSources.keys_image ws b.core.sources)).mpr h.sources

theorem requests_foldl_apply : (ws.foldl (fun b x => x.apply b) b).core.requests = b.core.requests := by
  rw [CoreTables.requests, operations_foldl, List.map_map]
  exact List.map_congr_left fun o _ => RowWrites.image_kept request_set ws o

theorem recovered_foldl :
    (ws.foldl (fun b x => x.apply b) b).recovered = b.recovered ++ ws.filterMap Write.recovered := by
  induction ws generalizing b with
  | nil => exact (List.append_nil _).symm
  | cons x ws ih =>
    rw [List.foldl_cons, ih]
    cases hx : x.recovered <;> simp [Write.apply, hx]

theorem count_recovered (op_id : String) : (ws.foldl (fun b x => x.apply b) b).recovered.count op_id =
    b.recovered.count op_id + (ws.filterMap Write.recovered).count op_id := by
  rw [recovered_foldl, List.count_append]

theorem count_recovered_of_not {op_id : String} (h : ¬onOperations.Written ws op_id) :
    (ws.foldl (fun b x => x.apply b) b).recovered.count op_id = b.recovered.count op_id := by
  have hnot : op_id ∉ ws.filterMap Write.recovered := by
    intro hmem
    obtain ⟨x, hx, hid⟩ := List.mem_filterMap.1 hmem
    exact h ⟨x, hx, target_of_recovered hid⟩
  rw [count_recovered, List.count_eq_zero_of_not_mem hnot, Nat.add_zero]

end Fold

/-! ### What a session sees -/

/-- What holds of what a session sees, with the rows that it has still to requeue. -/
structure Seen (cfg : RecoveryConfig) (b : Books) (rows : List OperationRow) : Prop where
  keyed : b.core.Keyed
  known : ∀ op_id ∈ b.recovered, ∃ r ∈ b.core.requests, r.monitoring_sync_operation_id = op_id
  counted : ∀ o ∈ b.core.operations, b.recovered.count o.monitoring_sync_operation_id ≤ o.recovery_count
  bounded : ∀ op_id, b.recovered.count op_id ≤ cfg.recovery_max
  requests : ∀ r ∈ rows, r.request ∈ b.core.requests
  left : ∀ r ∈ rows, b.recovered.count r.monitoring_sync_operation_id < cfg.recovery_max
  alone : ∀ r ∈ rows, ∀ n ∈ b.core.operations, n.isOf r.monitoring_source_id r.responsibility_kind = true →
    n.state.live = true → n.monitoring_sync_operation_id = r.monitoring_sync_operation_id
  different : rows.Pairwise Different

namespace Seen

variable {cfg : RecoveryConfig} {b : Books} {rows rows' : List OperationRow}

theorem sublist (h : Seen cfg b rows) (hrows : rows'.Sublist rows) : Seen cfg b rows' where
  keyed := h.keyed
  known := h.known
  counted := h.counted
  bounded := h.bounded
  requests r hr := h.requests r (hrows.subset hr)
  left r hr := h.left r (hrows.subset hr)
  alone r hr := h.alone r (hrows.subset hr)
  different := h.different.sublist hrows

theorem none (h : Seen cfg b rows) : Seen cfg b [] := h.sublist (List.nil_sublist rows)

theorem tail {r : OperationRow} (h : Seen cfg b (r :: rows)) : Seen cfg b rows := h.sublist (List.sublist_cons_self r rows)

theorem request_eq (h : Seen cfg b rows) {r o : OperationRow} (hr : r ∈ rows) (ho : o ∈ b.core.operations)
    (hid : o.monitoring_sync_operation_id = r.monitoring_sync_operation_id) : o.request = r.request := by
  obtain ⟨o', ho', hrequest⟩ := List.mem_map.1 (h.requests r hr)
  obtain rfl : o' = o := eq_of_key h.keyed.operations ho' ho
    ((congrArg OperationRequest.monitoring_sync_operation_id hrequest).trans hid.symm)
  exact hrequest

/-- A write of the session: it is on no row of the source and kind of one that is left. -/
theorem write (h : Seen cfg b rows) {x : Write} (hrows : rows'.Sublist rows)
    (hleft : ∀ op_id, x.recovered = some op_id → b.recovered.count op_id < cfg.recovery_max ∧
      ∃ r ∈ b.core.requests, r.monitoring_sync_operation_id = op_id)
    (hspared : ∀ r ∈ rows', ∀ n ∈ b.core.operations, onOperations.target x = some n.monitoring_sync_operation_id →
      n.isOf r.monitoring_source_id r.responsibility_kind = false) : Seen cfg (x.apply b) rows' := by
  have hcount : ∀ op_id, (x.apply b).recovered.count op_id = b.recovered.count op_id + x.recovered.toList.count op_id :=
    fun op_id => List.count_append
  have hid : ∀ o, (onOperations.on x o).monitoring_sync_operation_id = o.monitoring_sync_operation_id :=
    fun o => RowWrites.on_kept onOperations.key_set x o
  constructor
  · exact keyed_foldl [x] b h.keyed
  · intro op_id hmem
    rw [requests_apply]
    rcases List.mem_append.1 hmem with hold | hnew
    · exact h.known op_id hold
    · exact (hleft op_id (Option.mem_toList.1 hnew)).2
  · intro o' ho'
    obtain ⟨o, ho, rfl⟩ := List.mem_map.1 ho'
    rw [hcount, hid, recovery_count_on]
    exact Nat.add_le_add_right (h.counted o ho) _
  · intro op_id
    rw [hcount]
    by_cases hx : x.recovered = some op_id
    · have := (hleft op_id hx).1
      rw [hx, Option.toList_some, List.count_singleton_self]
      omega
    · rw [List.count_eq_zero_of_not_mem fun hmem => hx (Option.mem_toList.1 hmem)]
      exact h.bounded op_id
  · intro r hr
    rw [requests_apply]
    exact h.requests r (hrows.subset hr)
  · intro r hr
    have hr' := hrows.subset hr
    have hnot : r.monitoring_sync_operation_id ∉ x.recovered.toList := by
      intro hmem
      -- The row itself would be written.
      obtain ⟨o, ho, hrequest⟩ := List.mem_map.1 (h.requests r hr')
      have htarget := target_of_recovered (Option.mem_toList.1 hmem)
      have hid : o.monitoring_sync_operation_id = r.monitoring_sync_operation_id :=
        congrArg OperationRequest.monitoring_sync_operation_id hrequest
      have hof := (isOf_congr hrequest _ _).symm.trans (hspared r hr o ho (hid ▸ htarget))
      exact of_decide_eq_false hof ⟨rfl, rfl⟩
    rw [hcount, List.count_eq_zero_of_not_mem hnot]
    exact h.left r hr'
  · intro r hr n' hn'
    obtain ⟨n, hn, rfl⟩ := List.mem_map.1 hn'
    by_cases htarget : onOperations.target x = some n.monitoring_sync_operation_id
    · rw [isOf_congr (RowWrites.on_kept request_set x n), hspared r hr n hn htarget]
      exact fun hof => absurd hof Bool.false_ne_true
    · rw [RowWrites.on_of_ne htarget]
      exact h.alone r (hrows.subset hr) n hn
  · exact h.different.sublist hrows

/-- The rows that a pass selects. -/
theorem select (h : Seen cfg b rows) {now : Timestamp} {slots : ℕ}
    (hdifferent : (b.core.selected cfg now slots).Pairwise Different) : Seen cfg b (b.core.selected cfg now slots) := by
  have hmem : ∀ r ∈ b.core.selected cfg now slots, r ∈ b.core.operations ∧ b.core.reconcilable cfg now r = true :=
    fun r hr => List.mem_filter.1 ((List.mem_insertionSort _).1 (List.mem_of_mem_take hr))
  refine ⟨h.keyed, h.known, h.counted, h.bounded, fun r hr => List.mem_map_of_mem (hmem r hr).1, fun r hr => ?_,
    fun r hr n hn hof hlive => ?_, hdifferent⟩
  · exact (h.counted r (hmem r hr).1).trans_lt (of_decide_eq_true (hmem r hr).2).2.1
  · have hnone := (of_decide_eq_true (hmem r hr).2).2.2.2
    obtain ⟨hsource, hkind⟩ := of_decide_eq_true hof
    simp only [Bool.not_eq_true', List.any_eq_false, decide_eq_true_eq, not_and] at hnone
    refine absurd ?_ (hnone n hn hsource hkind)
    cases hstate : n.state with
    | pending => exact Or.inl rfl
    | running => exact Or.inr rfl
    | _ => rw [hstate] at hlive; cases hlive

/-- What an `UPDATE` recovers was recovered less often than the limit. -/
theorem update_left (h : Seen cfg b rows) {st : Statement} {now now' : Timestamp} {sources : List SourceRow} {op_id : String}
    (hfound : (b.core.operations.any fun o => o.monitoring_sync_operation_id = op_id ∧ st.applies cfg now sources o) = true) :
    ∀ k, (Write.update st now' op_id).recovered = some k → b.recovered.count k < cfg.recovery_max ∧
      ∃ r ∈ b.core.requests, r.monitoring_sync_operation_id = k := by
  intro k hk
  obtain ⟨o, ho, hfound⟩ := List.any_eq_true.1 hfound
  obtain ⟨rfl, happlies⟩ := of_decide_eq_true hfound
  cases st with
  | reap =>
    obtain rfl := Option.some.inj hk
    exact ⟨(h.counted o ho).trans_lt (of_decide_eq_true happlies).2, o.request, List.mem_map_of_mem ho, rfl⟩
  | exhaust => cases hk
  | sweep => cases hk

theorem requeue {r : OperationRow} (h : Seen cfg b (r :: rows)) :
    Seen cfg ((Write.requeue r.monitoring_sync_operation_id).apply b) rows := by
  refine h.write (List.sublist_cons_self r rows) ?_ ?_
  · rintro _ hk
    obtain rfl := Option.some.inj hk
    exact ⟨h.left r List.mem_cons_self, r.request, h.requests r List.mem_cons_self, rfl⟩
  · intro r' hr' n hn htarget
    rw [isOf_congr (h.request_eq List.mem_cons_self hn (Option.some.inj htarget).symm)]
    exact ((List.pairwise_cons.1 h.different).1 r' hr').symm

/-- What is committed elsewhere: rows that the session has written are the same, and those that it has still to requeue
are spared. -/
theorem transfer {ws : List Write} {b' : Books} {l : List String} (h : Seen cfg (ws.foldl (fun b x => x.apply b) b) rows)
    (hcommitted : Seen cfg b' []) (hrequests : ∀ r ∈ b.core.requests, r ∈ b'.core.requests)
    (hsame : ∀ o ∈ b'.core.operations, onOperations.Written ws o.monitoring_sync_operation_id → o ∈ b.core.operations)
    (hrecovered : b'.recovered = b.recovered ++ l) (hfree : ∀ op_id, onOperations.Written ws op_id → op_id ∉ l)
    (hspares : ∀ r ∈ rows,
      (∀ n ∈ woken b.core b'.core, n.isOf r.monitoring_source_id r.responsibility_kind = true →
        n.monitoring_sync_operation_id = r.monitoring_sync_operation_id) ∧
      (b'.recovered.count r.monitoring_sync_operation_id ≤ b.recovered.count r.monitoring_sync_operation_id ∨
        b'.recovered.count r.monitoring_sync_operation_id < cfg.recovery_max)) :
    Seen cfg (ws.foldl (fun b x => x.apply b) b') rows := by
  -- The recoveries of a row that the session has written are what they were.
  have hwritten : ∀ op_id, onOperations.Written ws op_id → (ws.foldl (fun b x => x.apply b) b').recovered.count op_id =
      (ws.foldl (fun b x => x.apply b) b).recovered.count op_id := by
    intro op_id hop
    rw [count_recovered, count_recovered, hrecovered, List.count_append, List.count_eq_zero_of_not_mem (hfree op_id hop),
      Nat.add_zero]
  have hmem : ∀ n ∈ (ws.foldl (fun b x => x.apply b) b').core.operations,
      (n ∈ (ws.foldl (fun b x => x.apply b) b).core.operations ∧
        onOperations.Written ws n.monitoring_sync_operation_id) ∨
      n ∈ b'.core.operations ∧ ¬onOperations.Written ws n.monitoring_sync_operation_id := by
    intro n hn
    rw [operations_foldl] at hn ⊢
    exact RowWrites.mem_image hsame hn
  constructor
  · exact keyed_foldl ws b' hcommitted.keyed
  · intro op_id hop
    rw [recovered_foldl] at hop
    rw [requests_foldl_apply]
    rcases List.mem_append.1 hop with hop | hop
    · exact hcommitted.known op_id hop
    · obtain ⟨r, hr, hid⟩ := h.known op_id (recovered_foldl ws b ▸ List.mem_append_right _ hop)
      exact ⟨r, hrequests r (requests_foldl_apply ws b ▸ hr), hid⟩
  · intro o ho
    rcases hmem o ho with ⟨ho, hop⟩ | ⟨ho, hop⟩
    · rw [hwritten _ hop]
      exact h.counted o ho
    · rw [count_recovered_of_not ws b' hop]
      exact hcommitted.counted o ho
  · intro op_id
    by_cases hop : onOperations.Written ws op_id
    · rw [hwritten _ hop]
      exact h.bounded op_id
    · rw [count_recovered_of_not ws b' hop]
      exact hcommitted.bounded op_id
  · intro r hr
    rw [requests_foldl_apply]
    exact hrequests _ (requests_foldl_apply ws b ▸ h.requests r hr)
  · intro r hr
    by_cases hop : onOperations.Written ws r.monitoring_sync_operation_id
    · rw [hwritten _ hop]
      exact h.left r hr
    · rw [count_recovered_of_not ws b' hop]
      rcases (hspares r hr).2 with hle | hlt
      · have hleft := h.left r hr
        rw [count_recovered_of_not ws b hop] at hleft
        exact hle.trans_lt hleft
      · exact hlt
  · intro r hr n hn hof hlive
    rcases hmem n hn with ⟨hn, -⟩ | ⟨hn, hop⟩
    · exact h.alone r hr n hn hof hlive
    · by_cases hwoken : n ∈ woken b.core b'.core
      · exact (hspares r hr).1 n hwoken hof
      -- It was there and live before, and the session sees it.
      obtain ⟨m, hm, hid, hmlive⟩ := live_of_not_woken hn hlive hwoken
      have hunwritten : ¬onOperations.Written ws m.monitoring_sync_operation_id := hid ▸ hop
      have hseen : m ∈ (ws.foldl (fun b x => x.apply b) b).core.operations := by
        rw [operations_foldl]
        exact List.mem_map.2 ⟨m, hm, RowWrites.image_of_not hunwritten⟩
      obtain ⟨o, ho, hrequest⟩ := List.mem_map.1 (hrequests _ (List.mem_map_of_mem hm))
      obtain rfl : o = n := eq_of_key hcommitted.keyed.operations ho hn
        ((congrArg OperationRequest.monitoring_sync_operation_id hrequest).trans hid)
      rw [← hid]
      exact h.alone r hr m hseen ((isOf_congr hrequest _ _).symm.trans hof) hmlive
  · exact h.different

end Seen

/-! ### The steps -/

/-- The invariant of the sessions. -/
structure PassInv (cfg : RecoveryConfig) (s : Passes) : Prop where
  sessions : Sessions.Inv (fun b => Seen cfg b [])
    (fun b ws p => Seen cfg (ws.foldl (fun b x => x.apply b) b) p.rows) s
  exclusive : s.tx.Exclusive Write.row

theorem row_of_target {x : Write} {op_id : String} (h : onOperations.target x = some op_id) :
    x.row = .operation op_id := by
  rcases x with _ | _ | _
  all_goals first | exact congrArg Row.operation (Option.some.inj h) | cases h

/-- What an action of another program does to the passes. -/
theorem step_act (domain : Domain) (cfg : RecoveryConfig) (s : Passes) (a : Sync.Action) :
    s.step domain cfg (.act a) = s ∨ s.waits (s.tx.db.sys.step domain a).db.core = false ∧
      s.step domain cfg (.act a) = s.outside ⟨s.tx.db.sys.step domain a, s.tx.db.recovered⟩ := by
  cases a with
  | recover cfg now slots => exact Or.inl rfl
  | _ =>
    dsimp only [Passes.step]
    split_ifs with hwaits
    · exact Or.inl rfl
    · exact Or.inr ⟨by simpa using hwaits, rfl⟩

namespace PassInv

variable {domain : Domain} {cfg : RecoveryConfig} {s : Passes} {w : ℕ} {x : Write} {p : Point}

theorem seen (h : PassInv cfg s) (w : ℕ) : Seen cfg (s.seen w) (s.pc w).rows := by
  rw [Passes.seen, Sessions.view_eq]
  exact h.sessions.sessions w

theorem goto (h : PassInv cfg s) (hp : Seen cfg (s.seen w) p.rows) : PassInv cfg (s.goto w p) := by
  refine ⟨Sessions.inv_goto h.sessions ?_, h.exclusive⟩
  rwa [Passes.seen, Sessions.view_eq] at hp

theorem write (h : PassInv cfg s) (hp : Seen cfg (x.apply (s.seen w)) p.rows) :
    PassInv cfg (s.write Write.row w x p) := by
  refine ⟨Sessions.inv_write h.sessions ?_, ?_⟩
  · rw [List.foldl_append]
    rwa [Passes.seen, Sessions.view_eq] at hp
  · unfold Sessions.write
    split_ifs with hlocked
    · exact h.exclusive
    · exact h.exclusive.write (by simpa using hlocked)

theorem rollback (h : PassInv cfg s) : PassInv cfg (s.rollback .idle w) :=
  ⟨Sessions.inv_rollback h.sessions h.sessions.committed, h.exclusive.rollback⟩

theorem not_both (h : PassInv cfg s) {v : ℕ} (hv : v ≠ w) {op_id : String}
    (hop : onOperations.Written (s.tx.writes v) op_id) : ¬onOperations.Written (s.tx.writes w) op_id := by
  rintro ⟨y, hy, hyop⟩
  obtain ⟨x, hx, hxop⟩ := hop
  exact hv (h.exclusive _ (WriteLog.mem_writes.1 hx) _ (WriteLog.mem_writes.1 hy)
    ((row_of_target hxop).trans (row_of_target hyop).symm))

/-- A commit that spares the rows of the others. -/
theorem commit (h : PassInv cfg s) (hspares : Spares cfg s (s.seen w)) : PassInv cfg (s.commit Write.apply .idle w) := by
  have hseen := h.seen w
  rw [Passes.seen, Sessions.view_eq] at hseen hspares
  have hdb : (s.commit Write.apply .idle w).tx.db = (s.tx.writes w).foldl (fun b x => x.apply b) s.tx.db :=
    Sessions.view_eq s w
  have hwrites : (s.commit Write.apply .idle w).tx.writes w = [] := WriteLog.writes_commit
  refine ⟨Sessions.inv_step (w := w) (p := .idle) rfl ?_ ?_ fun v hv => ?_, h.exclusive.commit⟩
  · rw [hdb]
    exact hseen.none
  · rw [hwrites, hdb]
    exact hseen.none
  · have hothers : (s.commit Write.apply .idle w).tx.writes v = s.tx.writes v := WriteLog.writes_commit_of_ne hv
    rw [hothers, hdb]
    refine (h.sessions.sessions v).transfer hseen.none ?_ ?_ (recovered_foldl ..) ?_ (hspares v)
    · rw [requests_foldl_apply]
      exact fun r hr => hr
    · intro o ho hop
      rw [operations_foldl] at ho
      obtain ⟨a, ha, rfl⟩ := List.mem_map.1 ho
      have hid : (onOperations.image (s.tx.writes w) a).monitoring_sync_operation_id = a.monitoring_sync_operation_id :=
        RowWrites.key_image (R := onOperations) _ a
      rw [hid] at hop
      rwa [RowWrites.image_of_not (h.not_both hv hop)]
    · intro op_id hop hmem
      obtain ⟨y, hy, hid⟩ := List.mem_filterMap.1 hmem
      exact h.not_both hv hop ⟨y, hy, target_of_recovered hid⟩

/-- A transaction elsewhere that spares the rows of the passes, and writes none that they have written. -/
theorem act (h : PassInv cfg s) {a : Sync.Action} (hwaits : s.waits (s.tx.db.sys.step domain a).db.core = false)
    (hspares : Spares cfg s ⟨s.tx.db.sys.step domain a, s.tx.db.recovered⟩) :
    PassInv cfg (s.outside ⟨s.tx.db.sys.step domain a, s.tx.db.recovered⟩) := by
  have hold := h.sessions.committed
  have hkeyed := (step_kept domain s.tx.db.sys a).keyed hold.keyed
  obtain ⟨l, hl, -⟩ := (operations_step domain s.tx.db.sys a).requests
  have hrequests : ∀ r ∈ s.tx.db.core.requests, r ∈ (s.tx.db.sys.step domain a).db.core.requests := by
    intro r hr
    rw [hl]
    exact List.mem_append_left l hr
  have hcommitted : Seen cfg ⟨s.tx.db.sys.step domain a, s.tx.db.recovered⟩ [] := by
    refine ⟨hkeyed, ?_, ?_, hold.bounded, by simp, by simp, by simp, .nil⟩
    · intro op_id hop
      obtain ⟨r, hr, hid⟩ := hold.known op_id hop
      exact ⟨r, hrequests r hr, hid⟩
    · intro o' ho'
      rcases (operations_step domain s.tx.db.sys a).mem_or hkeyed ho' with ⟨o, ho, hfollowed⟩ | ⟨-, hnew⟩
      · rw [hfollowed.id_eq]
        exact (hold.counted o ho).trans hfollowed.recovery_count
      · -- A new operation has not been recovered.
        have hnot : o'.monitoring_sync_operation_id ∉ s.tx.db.recovered := by
          intro hop
          obtain ⟨r, hr, hid⟩ := hold.known _ hop
          obtain ⟨o, ho, rfl⟩ := List.mem_map.1 hr
          exact hnew o ho hid
        rw [List.count_eq_zero_of_not_mem hnot]
        exact Nat.zero_le _
  refine ⟨Sessions.inv_outside h.sessions hcommitted fun w hw => ?_, h.exclusive⟩
  refine hw.transfer hcommitted hrequests ?_ (List.append_nil _).symm (fun _ _ => List.not_mem_nil) (hspares w)
  rintro o ho ⟨x, hx, hop⟩
  have hrow := List.any_eq_false.1 hwaits _ (WriteLog.mem_writes.1 hx)
  rw [row_of_target hop] at hrow
  have hfilter : (s.tx.db.sys.step domain a).db.core.operations.filter
        (·.monitoring_sync_operation_id = o.monitoring_sync_operation_id) =
      s.tx.db.core.operations.filter (·.monitoring_sync_operation_id = o.monitoring_sync_operation_id) := by
    simpa using hrow
  exact (List.mem_filter.1 (hfilter ▸ List.mem_filter.2 ⟨ho, decide_eq_true rfl⟩)).1

/-- What a pass does with its rows. -/
theorem go (h : PassInv cfg s) (hdifferent : (s.selects cfg (.go w)).Pairwise Different)
    (hspares : Spares cfg s (s.go cfg w).tx.db) : PassInv cfg (s.go cfg w) := by
  have hseen := h.seen w
  unfold Passes.go
  dsimp only
  split
  · exact h
  · rename_i st now slots sources hpc
    refine h.goto ?_
    cases st with
    | reap => exact hseen.none
    | exhaust => exact hseen.none
    | sweep =>
      refine hseen.select ?_
      simpa only [Passes.selects, hpc] using hdifferent
  · rename_i st now slots sources op_id ids hpc
    split_ifs with hfound
    · exact h.write (hseen.write (List.nil_sublist _) (hseen.update_left hfound) fun _ hr => absurd hr List.not_mem_nil)
    · exact h.goto hseen.none
  · rename_i hpc
    refine h.commit ?_
    have hgo : s.go cfg w = s.commit Write.apply .idle w := by simp only [Passes.go, hpc]
    rwa [hgo] at hspares
  · rename_i r rows hpc
    rw [hpc] at hseen
    split_ifs with hfound
    · exact h.write hseen.requeue
    · exact h.goto hseen.tail
  · rename_i source_id rows hpc
    rw [hpc] at hseen
    split_ifs with hfound
    · exact h.write (hseen.write (List.Sublist.refl _) (by rintro _ ⟨⟩) fun _ _ _ _ htarget => by cases htarget)
    · exact h.goto hseen

/-- A step that meets the condition keeps the invariant. -/
theorem step (h : PassInv cfg s) {a : Act} (horderly : Orderly domain cfg s a) : PassInv cfg (s.step domain cfg a) := by
  obtain ⟨hdifferent, hspares⟩ := horderly
  cases a with
  | act a =>
    rcases step_act domain cfg s a with hstep | ⟨hwaits, hstep⟩
    · rwa [hstep]
    · rw [hstep] at hspares ⊢
      exact h.act hwaits hspares
  | pass w now slots =>
    unfold Passes.step
    dsimp only
    split
    · exact h.goto (h.seen w).none
    · exact h
  | go w => exact h.go hdifferent hspares
  | fail w => exact h.rollback

/-- The law of a state. -/
theorem reconciled (h : PassInv cfg s) : Reconciled cfg s := by
  refine ⟨fun w o ho n hn hof => ?_, h.sessions.committed.bounded⟩
  have hseen := h.seen w
  unfold Passes.requeues at ho
  split at ho
  · rename_i r rows hpc
    rw [hpc] at hseen
    have hmem := List.mem_of_find?_eq_some ho
    have hrequeues : o.requeues r.monitoring_source_id r.monitoring_sync_operation_id = true := List.find?_some ho
    obtain ⟨-, hid, hrequeueable⟩ := of_decide_eq_true hrequeues
    have hrequest := hseen.request_eq List.mem_cons_self hmem hid
    by_contra hlive
    have hlive : n.state.live = true := by simpa using hlive
    have hsource : o.monitoring_source_id = r.monitoring_source_id :=
      congrArg OperationRequest.monitoring_source_id hrequest
    have hkind : o.responsibility_kind = r.responsibility_kind :=
      congrArg OperationRequest.responsibility_kind hrequest
    rw [hsource, hkind] at hof
    -- The live operation would be the one that is requeued.
    obtain rfl : n = o := eq_of_key hseen.keyed.operations hn hmem
      ((hseen.alone r List.mem_cons_self n hn hof hlive).trans hid.symm)
    exact Bool.false_ne_true ((not_live_of_requeueable hrequeueable).symm.trans hlive)
  · cases ho

end PassInv

/-! ### The runs -/

section Run

variable (domain : Domain) (cfg : RecoveryConfig) (bridge : BridgeVersion)

theorem passInv_empty : PassInv cfg (.empty bridge) := by
  have hseen : Seen cfg ⟨.empty bridge, []⟩ [] :=
    ⟨⟨.nil, .nil⟩, fun _ h => absurd h List.not_mem_nil, fun _ h => absurd h List.not_mem_nil, fun _ => Nat.zero_le _,
      fun _ h => absurd h List.not_mem_nil, fun _ h => absurd h List.not_mem_nil, fun _ h => absurd h List.not_mem_nil, .nil⟩
  exact ⟨Sessions.inv_init hseen hseen, fun _ h => absurd h List.not_mem_nil⟩

/-- **Key result**: where each step meets the condition, each state has the law. -/
theorem reconciled_of_orderly (run : List Act)
    (h : Guarded (Passes.step domain cfg) (Orderly domain cfg) (.empty bridge) run) (pre post : List Act)
    (hpre : run = pre ++ post) : Reconciled cfg (Passes.exec domain cfg bridge pre) := by
  subst hpre
  refine PassInv.reconciled ?_
  exact (guarded_append.1 h).1.invariant (fun _ _ hinv => hinv.step) (passInv_empty cfg bridge)

end Run

/-! ### A pass over one failed operation -/

section Frame

variable {domain : Domain} {cfg : RecoveryConfig} {s : Passes}

/-- The session that takes a step. -/
def Act.session : Act → Option ℕ
  | .act _ => none
  | .pass w _ _ | .go w | .fail w => some w

/-- The others stay where they are. -/
theorem pc_step_of_ne {a : Act} {v : ℕ} (h : a.session ≠ some v) : (s.step domain cfg a).pc v = s.pc v := by
  have hwrite : ∀ (w : ℕ) (x : Write) (p : Point), v ≠ w → (s.write Write.row w x p).pc v = s.pc v := by
    intro w x p hv
    unfold Sessions.write
    split_ifs
    · rfl
    · exact Function.update_of_ne hv ..
  cases a with
  | act a =>
    rcases step_act domain cfg s a with hstep | ⟨-, hstep⟩
    · rw [hstep]
    · rw [hstep]
      rfl
  | pass w now slots =>
    have hv : v ≠ w := fun heq => h (congrArg some heq.symm)
    dsimp only [Passes.step]
    split
    · exact Function.update_of_ne hv ..
    · rfl
  | go w =>
    have hv : v ≠ w := fun heq => h (congrArg some heq.symm)
    dsimp only [Passes.step, Passes.go]
    split
    · rfl
    · exact Function.update_of_ne hv ..
    all_goals first | exact Function.update_of_ne hv .. | split_ifs
    all_goals first | exact hwrite _ _ _ hv | exact Function.update_of_ne hv ..
  | fail w => exact Function.update_of_ne (fun heq => h (congrArg some heq.symm)) ..

theorem spares_of_none {b : Books} (h : ∀ w, (s.pc w).rows = []) : Spares cfg s b :=
  fun w _ hr => absurd (h w ▸ hr) List.not_mem_nil

theorem spares_self : Spares cfg s s.tx.db := by
  refine fun w r _ => ⟨fun n hn => ?_, Or.inl le_rfl⟩
  obtain ⟨hn, hwoken⟩ := List.mem_filter.1 hn
  obtain ⟨hlive, hnone⟩ := Bool.and_eq_true_iff.1 hwoken
  rcases of_decide_eq_true (List.all_eq_true.1 hnone n hn) with hne | hdead
  · exact absurd rfl hne
  · exact absurd (hdead.symm.trans hlive) Bool.false_ne_true

/-- A statement of a pass commits nothing, or is its commit. -/
theorem go_db (cfg : RecoveryConfig) (s : Passes) (w : ℕ) :
    (s.go cfg w).tx.db = s.tx.db ∨ s.pc w = .requeue [] := by
  have hwrite : ∀ (x : Write) (p : Point), (s.write Write.row w x p).tx.db = s.tx.db := by
    intro x p
    unfold Sessions.write
    split_ifs <;> rfl
  unfold Passes.go
  dsimp only
  split
  · exact Or.inl rfl
  · exact Or.inl rfl
  · split_ifs
    · exact Or.inl (hwrite ..)
    · exact Or.inl rfl
  · rename_i hpc
    exact Or.inr hpc
  · split_ifs
    · exact Or.inl (hwrite ..)
    · exact Or.inl rfl
  · split_ifs
    · exact Or.inl (hwrite ..)
    · exact Or.inl rfl

/-- A pass that is alone spares its own rows. -/
theorem spares_alone {w : ℕ} (h : ∀ v, v ≠ w → (s.pc v).rows = []) {a : Act} (ha : a.session = some w) :
    Spares cfg s (s.step domain cfg a).tx.db := by
  cases a with
  | act a => cases ha
  | pass w now slots =>
    dsimp only [Passes.step]
    split <;> exact spares_self
  | go w' =>
    obtain rfl : w' = w := Option.some.inj ha
    dsimp only [Passes.step]
    rcases go_db cfg s w' with hdb | hpc
    · rw [hdb]
      exact spares_self
    · refine spares_of_none fun v => ?_
      by_cases hv : v = w'
      · rw [hv, hpc]
        rfl
      · exact h v hv
  | fail w => exact spares_self

/-- While a pass is alone, its condition is on what it selects. -/
theorem guarded_pass {w : ℕ} {run : List Act} (h : ∀ v, v ≠ w → (s.pc v).rows = []) (hrun : ∀ a ∈ run, a.session = some w)
    (hselects : Guarded (Passes.step domain cfg) (fun s a => (s.selects cfg a).Pairwise Different) s run) :
    Guarded (Passes.step domain cfg) (Orderly domain cfg) s run := by
  induction run generalizing s with
  | nil => trivial
  | cons a run ih =>
    have ha := hrun a List.mem_cons_self
    refine ⟨⟨hselects.1, spares_alone h ha⟩, ih (fun v hv => ?_) (fun b hb => hrun b (List.mem_cons_of_mem a hb)) hselects.2⟩
    rw [pc_step_of_ne fun heq => hv (Option.some.inj (heq.symm.trans ha))]
    exact h v hv

theorem rows_acts {run : List Act} (h : ∀ v, (s.pc v).rows = []) (hrun : ∀ a ∈ run, a.session = none) (v : ℕ) :
    ((run.foldl (Passes.step domain cfg) s).pc v).rows = [] := by
  induction run generalizing s with
  | nil => exact h v
  | cons a run ih =>
    refine ih (fun v => ?_) fun b hb => hrun b (List.mem_cons_of_mem a hb)
    rw [pc_step_of_ne (by rw [hrun a List.mem_cons_self]; rintro ⟨⟩)]
    exact h v

theorem guarded_acts {run : List Act} (h : ∀ v, (s.pc v).rows = []) (hrun : ∀ a ∈ run, a.session = none) :
    Guarded (Passes.step domain cfg) (Orderly domain cfg) s run := by
  refine guarded_iff.2 fun pre a post heq => ?_
  subst heq
  have ha := hrun a (List.mem_append_right _ List.mem_cons_self)
  have hrows : ∀ v, ((pre.foldl (Passes.step domain cfg) s).pc v).rows = [] :=
    rows_acts h fun b hb => hrun b (List.mem_append_left _ hb)
  refine ⟨?_, spares_of_none hrows⟩
  cases a with
  | act a => exact .nil
  | _ => cases ha

end Frame

/-- The report of an inventory sync whose source was unavailable. -/
def unavailable (evidence_id : String) : Report :=
  .inventory ⟨⟨false, .reconciliation_required, .unavailable, some "provider_unavailable"⟩, false, []⟩ evidence_id

/-- An inventory sync fails. -/
def oneFailed : List Act :=
  [.act (.createSource 0 "zabbix" "https://zabbix" "cred"), .act (.enqueue 1 .host_inventory_sync "mon-src_0"),
    .act (.claim 2 .inventory "mon-sync_4" "token-1"), .act (.complete 3 0 (unavailable "inventory-1"))]

/-- The statements of a pass that requeues one operation, up to its commit. -/
def onePass : List Act := [.pass 0 (fromtimestamp 1000) 32, .go 0, .go 0, .go 0, .go 0, .go 0]

/-- In a pass over one operation each state has the law. -/
theorem oneFailed_reconciled : Reconciled .default
    (Passes.exec Domain.tested .default .publicationBridge (oneFailed ++ (onePass ++ [.go 0]))) := by
  refine reconciled_of_orderly Domain.tested .default .publicationBridge (oneFailed ++ (onePass ++ [.go 0])) ?_ _ []
    (List.append_nil _).symm
  have hacts : ∀ a ∈ oneFailed, a.session = none := by
    intro a ha
    simp only [oneFailed, List.mem_cons, List.not_mem_nil, or_false] at ha
    rcases ha with rfl | rfl | rfl | rfl <;> rfl
  refine guarded_append.2 ⟨guarded_acts (fun _ => rfl) hacts, ?_⟩
  refine guarded_pass (w := 0) (fun v _ => ?_) ?_ (by decide +kernel)
  · exact rows_acts (fun _ => rfl) hacts v
  · intro a ha
    simp only [onePass, List.cons_append, List.nil_append, List.mem_cons, List.not_mem_nil, or_false] at ha
    rcases ha with rfl | rfl | rfl | rfl | rfl | rfl | rfl <;> rfl

/-! ### A pass over two failed operations -/

/-- Two inventory syncs of a source fail. -/
def twoFailed : List Act :=
  [.act (.createSource 0 "zabbix" "https://zabbix" "cred"), .act (.enqueue 1 .host_inventory_sync "mon-src_0"),
    .act (.enqueue 1 .host_inventory_sync "mon-src_0"),
    .act (.claim 2 .inventory "mon-sync_4" "token-1"), .act (.complete 3 0 (unavailable "inventory-1")),
    .act (.claim 4 .inventory "mon-sync_5" "token-2"), .act (.complete 5 1 (unavailable "inventory-2"))]

/-- The pass is about to requeue the second one. -/
theorem twoFailed_doubles : ¬Reconciled .default
    (Passes.exec Domain.tested .default .publicationBridge (twoFailed ++ onePass)) := by
  intro h
  have hlive := h.alone 0 _ rfl
  revert hlive
  decide +kernel

end JLMirror.Monitoring.Reconciliation
