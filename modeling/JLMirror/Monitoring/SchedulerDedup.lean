import JLMirror.Monitoring.Scheduler

/-!
# What the scheduler does not enqueue twice

"Two schedulers must not double-enqueue the same due slot". A source is due for a kind where no operation of the kind is
pending or running, those from before a window apart ("fenced/orphaned pendings must not stall the cadence forever"),
and the last one that has ended did so before the cadence. The due query asks for this, and the lock keeps the inserts of
two passes apart; the lock is taken after the query.

## The model

* `Deduplicated` is the law of an insert: what the due query of the pass may have found, that what breaks the window came
  after it, and that no open transaction has inserted for the same source and kind.
* `NoneLive` and `NoneRecent` are what one might expect instead: nothing pending or running, nothing created within the
  window.

## What is proved

* `step_inv`: each open insert is under its lock, the rows that a pass still has to do are rows of its query, and the
  tables have grown since then.
* **Key result** (`deduplicated`): in every state of a run, the law holds of what a session is about to insert.
* `lateBesideZombie`: a run whose pass inserts although an operation is pending and one was created within the window.
-/

namespace JLMirror.Monitoring.Scheduler

open JLMirror.Foundations Sync

/-! ### The law -/

/-- What an insert of a pass is to the other operations of its kind for its source. -/
structure Deduplicated (s : Scheduling) (q : Query) (o : OperationRow) : Prop where
  /-- Of those that the due query read, the pending and running ones were created before the window. -/
  live : ∀ n ∈ q.tables.operations, n.isOf o.monitoring_source_id o.responsibility_kind = true → n.state.live = true →
    n.created_at ≤ o.created_at - dedupWindow
  /-- And the others ended before the cadence. -/
  ended : ∀ n ∈ q.tables.operations, n.isOf o.monitoring_source_id o.responsibility_kind = true → n.state.live = false →
    ∀ t, n.completed_at = some t → t < o.created_at - fromtimestamp q.cadence
  /-- What is pending or running now, from within the window, was not so when the query read it. -/
  since : ∀ n ∈ s.tx.db.db.core.operations, n.isOf o.monitoring_source_id o.responsibility_kind = true →
    n.state.live = true → o.created_at - dedupWindow < n.created_at → ∀ m ∈ q.tables.operations,
      m.monitoring_sync_operation_id = n.monitoring_sync_operation_id → m.state.live = false
  /-- No open transaction has inserted one. -/
  alone : ∀ x ∈ s.tx.log, ∀ n, x.2 = .insert n → n.isOf o.monitoring_source_id o.responsibility_kind = false

section Law

variable (domain : Domain) (cfg : SchedulerConfig) (hashtext : String → ℤ) (tenant_id : String) (bridge : BridgeVersion)

/-- After the run, the law holds of what any session is about to insert. -/
def DedupLaw (run : List Act) : Prop :=
  ∀ w q o, (Scheduling.exec domain cfg hashtext tenant_id bridge run).inserts cfg w = some (q, o) →
    Deduplicated (Scheduling.exec domain cfg hashtext tenant_id bridge run) q o

/-- After the run, no session is about to insert beside an operation of the kind that is pending or running. -/
def NoneLive (run : List Act) : Prop :=
  ∀ w q o, (Scheduling.exec domain cfg hashtext tenant_id bridge run).inserts cfg w = some (q, o) →
    ∀ n ∈ (Scheduling.exec domain cfg hashtext tenant_id bridge run).tx.db.db.core.operations,
      n.isOf o.monitoring_source_id o.responsibility_kind = true → n.state.live = false

/-- Nor within the window after one was created. -/
def NoneRecent (run : List Act) : Prop :=
  ∀ w q o, (Scheduling.exec domain cfg hashtext tenant_id bridge run).inserts cfg w = some (q, o) →
    ∀ n ∈ (Scheduling.exec domain cfg hashtext tenant_id bridge run).tx.db.db.core.operations,
      n.isOf o.monitoring_source_id o.responsibility_kind = true →
        ¬(o.created_at - dedupWindow < n.created_at ∧ n.created_at ≤ o.created_at)

end Law

/-! ### The invariant of a session -/

/-- The ids of the operations. -/
def opIds (s : System) : List String := s.db.core.operations.map (·.monitoring_sync_operation_id)

/-- The id that a write inserts. -/
def Write.key (x : Write) : Option String := x.inserted.map (·.monitoring_sync_operation_id)

theorem opIds_apply (x : Write) (s : System) : opIds (x.apply s) = opIds s ++ x.key.toList := by
  cases x with
  | lock number => exact (List.append_nil _).symm
  | insert o => exact List.map_append

theorem row_of_key (x y : Write) (k : String) (hx : x.key = some k) (hy : y.key = some k) : x.row = y.row := by
  cases x with
  | lock number => cases hx
  | insert o =>
    cases y with
    | lock number => cases hy
    | insert o' =>
      obtain rfl := Option.some.inj hx
      exact congrArg Row.operation (Option.some.inj hy).symm

theorem requests_apply (x : Write) (s : System) :
    (x.apply s).db.core.requests = s.db.core.requests ++ (x.inserted.map OperationRow.request).toList := by
  cases x with
  | lock number => exact (List.append_nil _).symm
  | insert o => exact List.map_append

theorem sources_apply (x : Write) (s : System) : (x.apply s).db.core.sources = s.db.core.sources := by
  cases x <;> rfl

/-- What a session sees of requests and sources: its own inserts are appended. -/
theorem requests_foldl_apply (ws : List Write) (s : System) :
    (ws.foldl (fun db x => x.apply db) s).db.core.requests =
      s.db.core.requests ++ ws.filterMap fun x => x.inserted.map OperationRow.request := by
  induction ws generalizing s with
  | nil => exact (List.append_nil _).symm
  | cons x ws ih =>
    rw [List.foldl_cons, ih, requests_apply, List.append_assoc]
    cases hx : x.inserted <;> simp [hx]

theorem sources_foldl_apply (ws : List Write) (s : System) :
    (ws.foldl (fun db x => x.apply db) s).db.core.sources = s.db.core.sources := by
  induction ws generalizing s with
  | nil => rfl
  | cons x ws ih => exact (ih _).trans (sources_apply x s)

/-- The rows that a pass still has to do are rows of its query, of sources that it has not inserted for; and what the
query read is still there. -/
structure Answering (db : System) (ws : List Write) (q : Query) (rows : List SourceRow) : Prop where
  due : ∀ r ∈ rows, r ∈ q.rows
  distinct : (rows.map (·.monitoring_source_id)).Nodup
  fresh : ∀ o, Write.insert o ∈ ws → ∀ r ∈ rows, o.isOf r.monitoring_source_id q.kind = false
  grown : q.tables.requests <+: db.db.core.requests

/-- What the point of a session says of its writes. -/
def PointInv (number : String → ResponsibilityKind → ℤ) (db : System) (ws : List Write) : Point → Prop
  | .idle | .due _ => ws = []
  | .lock q rows _ => Answering db ws q rows
  | .insert q row rows _ =>
    Answering db ws q (row :: rows) ∧ Write.lock (number row.monitoring_source_id q.kind) ∈ ws

/-- A session inserts under its locks, and once for a source and a kind. -/
structure SessionInv (number : String → ResponsibilityKind → ℤ) (db : System) (ws : List Write) (p : Point) : Prop where
  locked : ∀ o, Write.insert o ∈ ws → Write.lock (number o.monitoring_source_id o.responsibility_kind) ∈ ws
  once : (ws.filterMap Write.inserted).Pairwise fun o o' =>
    o'.isOf o.monitoring_source_id o.responsibility_kind = false
  point : PointInv number db ws p

section Session

variable {number : String → ResponsibilityKind → ℤ} {db db' : System} {ws : List Write} {p : Point} {q : Query}
  {row : SourceRow} {rows : List SourceRow} {kinds : List (ResponsibilityKind × ℕ)}

theorem Answering.mono (h : Answering db ws q rows) (hgrown : db.db.core.requests <+: db'.db.core.requests) :
    Answering db' ws q rows :=
  ⟨h.due, h.distinct, h.fresh, h.grown.trans hgrown⟩

theorem SessionInv.mono (h : SessionInv number db ws p) (hgrown : db.db.core.requests <+: db'.db.core.requests) :
    SessionInv number db' ws p := by
  refine ⟨h.locked, h.once, ?_⟩
  have hpoint := h.point
  cases p with
  | idle => exact hpoint
  | due kinds => exact hpoint
  | lock q rows kinds => exact Answering.mono hpoint hgrown
  | insert q row rows kinds => exact ⟨hpoint.1.mono hgrown, hpoint.2⟩

theorem sessionInv_next (kinds : List (ResponsibilityKind × ℕ)) : SessionInv number db [] (.next kinds) := by
  refine ⟨by simp, .nil, ?_⟩
  cases kinds <;> rfl

theorem sessionInv_idle : SessionInv number db [] .idle := sessionInv_next []

theorem Answering.tail (h : Answering db ws q (row :: rows)) : Answering db ws q rows where
  due r hr := h.due r (List.mem_cons_of_mem row hr)
  distinct := (List.nodup_cons.1 h.distinct).2
  fresh o ho r hr := h.fresh o ho r (List.mem_cons_of_mem row hr)
  grown := h.grown

theorem SessionInv.take (h : SessionInv number db ws (.lock q (row :: rows) kinds)) :
    SessionInv number db (ws ++ [.lock (number row.monitoring_source_id q.kind)]) (.insert q row rows kinds) := by
  have hanswer : Answering db ws q (row :: rows) := h.point
  refine ⟨fun o ho => ?_, ?_, ⟨hanswer.due, hanswer.distinct, fun o ho => ?_, hanswer.grown⟩, by simp⟩
  · exact List.mem_append_left _ (h.locked o (by simpa using ho))
  · rw [List.filterMap_append]
    exact (List.append_nil _).symm ▸ h.once
  · exact hanswer.fresh o (by simpa using ho)

/-- Its operation is inserted. -/
theorem SessionInv.insert (h : SessionInv number db ws (.insert q row rows kinds)) {o : OperationRow}
    (ho : o.isOf row.monitoring_source_id q.kind = true) : SessionInv number db (ws ++ [.insert o]) (.lock q rows kinds) := by
  obtain ⟨hanswer, hlock⟩ := h.point
  obtain ⟨hsource, hkind⟩ := of_decide_eq_true ho
  have hmem : ∀ n, Write.insert n ∈ ws ++ [.insert o] → Write.insert n ∈ ws ∨ n = o := by simp
  refine ⟨fun n hn => ?_, ?_, hanswer.tail.due, hanswer.tail.distinct, fun n hn r hr => ?_, hanswer.grown⟩
  · rcases hmem n hn with hn | rfl
    · exact List.mem_append_left _ (h.locked n hn)
    · rw [hsource, hkind]
      exact List.mem_append_left _ hlock
  · rw [List.filterMap_append]
    refine List.pairwise_append.2 ⟨h.once, List.pairwise_singleton _ _, fun n hn n' hn' => ?_⟩
    obtain rfl : n' = o := by simpa [Write.inserted] using hn'
    obtain ⟨x, hx, hxn⟩ := List.mem_filterMap.1 hn
    obtain rfl : x = .insert n := by
      cases x with
      | lock number => cases hxn
      | insert n' => exact congrArg _ (Option.some.inj hxn)
    exact decide_eq_false fun heq => of_decide_eq_false (hanswer.fresh n hx row List.mem_cons_self)
      ⟨heq.1.symm.trans hsource, heq.2.symm.trans hkind⟩
  · rcases hmem n hn with hn | rfl
    · exact hanswer.tail.fresh n hn r hr
    · have hne : row.monitoring_source_id ≠ r.monitoring_source_id := fun heq =>
        (List.nodup_cons.1 hanswer.distinct).1 (List.mem_map.2 ⟨r, hr, heq.symm⟩)
      exact decide_eq_false fun heq => hne (hsource.symm.trans heq.1)

end Session

/-! ### The invariant of the system -/

/-- Sessions as above, exclusive locks, unique keys. -/
structure SchedulingInv (number : String → ResponsibilityKind → ℤ) (s : Sessions System Write Point) : Prop where
  sessions : Sessions.Inv (fun db => (db.db.core.sources.map (·.monitoring_source_id)).Nodup) (SessionInv number) s
  exclusive : s.tx.Exclusive Write.row
  unique : s.tx.Unique opIds Write.key

namespace SchedulingInv

variable {number : String → ResponsibilityKind → ℤ} {s : Sessions System Write Point} {w : ℕ} {x : Write} {p : Point}

theorem keyed (h : SchedulingInv number s) : s.tx.db.db.core.Keyed := ⟨h.unique.committed, h.sessions.committed⟩

theorem goto (h : SchedulingInv number s) (hp : SessionInv number s.tx.db (s.tx.writes w) p) :
    SchedulingInv number (s.goto w p) :=
  ⟨Sessions.inv_goto h.sessions hp, h.exclusive, h.unique⟩

theorem write (h : SchedulingInv number s) (hp : SessionInv number s.tx.db (s.tx.writes w ++ [x]) p)
    (hnew : ∀ k, x.key = some k → k ∉ opIds (s.view Write.apply w)) :
    SchedulingInv number (s.write Write.row w x p) := by
  refine ⟨Sessions.inv_write h.sessions hp, ?_, Sessions.unique_write opIds_apply row_of_key h.unique hnew⟩
  unfold Sessions.write
  split_ifs with hlocked
  · exact h.exclusive
  · exact h.exclusive.write (by simpa using hlocked)

theorem rollback (h : SchedulingInv number s) (hp : SessionInv number s.tx.db [] p) :
    SchedulingInv number (s.rollback p w) :=
  ⟨Sessions.inv_rollback h.sessions hp, h.exclusive.rollback, h.unique.rollback⟩

theorem requests_view (s : Sessions System Write Point) (w : ℕ) : (s.view Write.apply w).db.core.requests =
    s.tx.db.db.core.requests ++ (s.tx.writes w).filterMap fun x => x.inserted.map OperationRow.request := by
  rw [Sessions.view_eq, requests_foldl_apply]

theorem commit (h : SchedulingInv number s) (hp : ∀ db, SessionInv number db [] p) :
    SchedulingInv number (s.commit Write.apply p w) := by
  have hgrown : s.tx.db.db.core.requests <+: (s.view Write.apply w).db.core.requests := by
    rw [requests_view]
    exact List.prefix_append _ _
  refine ⟨Sessions.inv_commit h.sessions ?_ (hp _) fun ws p hp => hp.mono hgrown, h.exclusive.commit,
    h.unique.commit opIds_apply⟩
  rw [Sessions.view_eq, sources_foldl_apply]
  exact h.sessions.committed

theorem outside (h : SchedulingInv number s) {db : System} (hkeyed : db.db.core.Keyed)
    (hgrown : s.tx.db.db.core.requests <+: db.db.core.requests)
    (hfree : ∀ y ∈ s.tx.log, ∀ k, y.2.key = some k → k ∉ opIds db) : SchedulingInv number (s.outside db) :=
  ⟨Sessions.inv_outside h.sessions hkeyed.sources fun _ hp => hp.mono hgrown, h.exclusive,
    h.unique.outside hkeyed.operations hfree⟩

end SchedulingInv

section Run

variable {domain : Domain} {cfg : SchedulerConfig} {hashtext : String → ℤ} {tenant_id : String} {s : Scheduling}

theorem drawn_inv {number : String → ResponsibilityKind → ℤ} (h : SchedulingInv number s.toSessions) :
    SchedulingInv number s.drawn.toSessions := by
  refine h.outside ⟨h.keyed.operations, h.keyed.sources⟩ List.prefix_rfl fun y hy k hk => ?_
  exact h.unique.not_mem (w := y.1) (x := y.2) hy hk

theorem of_collides {c : CoreTables} (h : s.collides c = false) {y : ℕ × Write} (hy : y ∈ s.tx.log) {k : String} (hk : y.2.key = some k) :
    k ∉ c.operations.map (·.monitoring_sync_operation_id) := by
  intro hmem
  obtain ⟨o, ho, rfl⟩ := Option.map_eq_some_iff.1 hk
  obtain ⟨r, hr, hid⟩ := List.mem_map.1 hmem
  refine Bool.false_ne_true (h.symm.trans (List.any_eq_true.2 ⟨y, hy, ?_⟩))
  rw [ho]
  exact List.any_eq_true.2 ⟨r, hr, decide_eq_true hid⟩

/-- A session between two statements of different transactions sees what is committed. -/
theorem view_of_due {number : String → ResponsibilityKind → ℤ} (h : SchedulingInv number s.toSessions) {w : ℕ}
    {kinds : List (ResponsibilityKind × ℕ)} (hpc : s.pc w = .due kinds) :
    s.tx.writes w = [] ∧ s.view w = s.tx.db.db.core := by
  have hpoint := (h.sessions.sessions w).point
  rw [hpc] at hpoint
  refine ⟨hpoint, ?_⟩
  rw [Scheduling.view, Sessions.view_eq, show s.tx.writes w = [] from hpoint]
  rfl

/-- A step keeps the invariant. -/
theorem step_inv (h : SchedulingInv (lockNumber hashtext tenant_id) s.toSessions) (a : Act) :
    SchedulingInv (lockNumber hashtext tenant_id) (s.step domain cfg hashtext tenant_id a).toSessions := by
  cases a with
  | act a =>
    dsimp only [Scheduling.step]
    split_ifs with hcollides
    · exact h
    · refine h.outside ((step_kept domain s.tx.db a).keyed h.keyed) (requests_step domain s.tx.db a) fun y hy k hk => ?_
      exact of_collides (by simpa using hcollides) hy hk
  | pass w =>
    dsimp only [Scheduling.step]
    split
    · rename_i hpc
      refine h.goto ?_
      have hidle := (h.sessions.sessions w).point
      rw [hpc] at hidle
      rw [show s.tx.writes w = [] from hidle]
      exact sessionInv_next _
    · exact h
  | due w now clock others =>
    dsimp only [Scheduling.step]
    split
    · rename_i kind cadence kinds hpc
      obtain ⟨hwrites, hview⟩ := view_of_due h hpc
      refine h.goto ?_
      split_ifs
      · rw [hwrites]
        exact sessionInv_next _
      · rw [hwrites]
        refine ⟨by simp, .nil, fun r hr => hr, ?_, by simp, hview ▸ List.prefix_rfl⟩
        refine List.Nodup.sublist (List.filter_sublist.map _) ?_
        rw [hview]
        exact h.sessions.committed
    · exact h
  | lock w others =>
    dsimp only [Scheduling.step]
    split
    · rename_i q row rows kinds hpc
      have hsession := h.sessions.sessions w
      rw [hpc] at hsession
      split_ifs
      · exact h.goto ⟨hsession.locked, hsession.once, Answering.tail hsession.point⟩
      · exact h.write hsession.take fun k hk => by cases hk
    · exact h
  | insert w =>
    dsimp only [Scheduling.step]
    split
    · rename_i q row rows kinds hpc
      have hdrawn := drawn_inv h
      split_ifs with htaken
      · exact hdrawn.rollback (sessionInv_next _)
      · have hsession := hdrawn.sessions.sessions w
        rw [show s.drawn.pc w = _ from hpc] at hsession
        refine hdrawn.write (hsession.insert (operation_isOf cfg q row _)) fun k hk hmem => htaken ?_
        obtain rfl := Option.some.inj hk
        obtain ⟨r, hr, hid⟩ := List.mem_map.1 hmem
        exact List.any_eq_true.2 ⟨r, hr, decide_eq_true hid⟩
    · exact h
  | commit w =>
    dsimp only [Scheduling.step]
    split
    · exact h.commit fun _ => sessionInv_next _
    · exact h
  | fail w =>
    dsimp only [Scheduling.step]
    split
    · exact h
    · exact h.rollback (sessionInv_next _)
  | lose w => exact h.rollback sessionInv_idle

theorem inv_exec (domain : Domain) (cfg : SchedulerConfig) (hashtext : String → ℤ) (tenant_id : String)
    (bridge : BridgeVersion) (run : List Act) : SchedulingInv (lockNumber hashtext tenant_id)
      (Scheduling.exec domain cfg hashtext tenant_id bridge run).toSessions := by
  induction run using List.reverseRecOn with
  | nil =>
    exact ⟨Sessions.inv_init List.nodup_nil sessionInv_idle, fun x hx => absurd hx List.not_mem_nil, List.nodup_nil⟩
  | append_singleton run a ih =>
    rw [Scheduling.exec, List.foldl_append]
    exact step_inv ih a

end Run

/-! ### What a pass inserts -/

theorem operation_created_at (cfg : SchedulerConfig) (q : Query) (s : SourceRow) (op_id : String) :
    (q.operation cfg s op_id).created_at = q.now := by
  unfold Query.operation
  split <;> rfl

theorem inserts_some {cfg : SchedulerConfig} {s : Scheduling} {w : ℕ} {q : Query} {o : OperationRow}
    (h : s.inserts cfg w = some (q, o)) : ∃ row rows kinds, s.pc w = .insert q row rows kinds ∧
      o.monitoring_source_id = row.monitoring_source_id ∧ o.responsibility_kind = q.kind ∧ o.created_at = q.now := by
  unfold Scheduling.inserts at h
  split at h
  · rename_i q' row rows kinds hpc
    obtain ⟨rfl, rfl⟩ := Prod.mk.inj (Option.some.inj h)
    have hof := of_decide_eq_true (operation_isOf cfg q' row (opaqueId "mon-op" s.tx.db.db.nextId))
    exact ⟨row, rows, kinds, hpc, hof.1, hof.2, operation_created_at ..⟩
  · cases h

/-- Under the invariant, what a session is about to insert has the law. -/
theorem SchedulingInv.insert_law {number : String → ResponsibilityKind → ℤ} {cfg : SchedulerConfig} {s : Scheduling}
    (h : SchedulingInv number s.toSessions) {w : ℕ} {q : Query} {o : OperationRow} (ho : s.inserts cfg w = some (q, o)) :
    Deduplicated s q o := by
  obtain ⟨row, rows, kinds, hpc, hsource, hkind, hcreated⟩ := inserts_some ho
  have hpoint := (h.sessions.sessions w).point
  rw [hpc] at hpoint
  obtain ⟨hanswer, hlock⟩ := hpoint
  have hdue : q.tables.due q.kind q.cadence q.now row = true := (List.mem_filter.1 (hanswer.due row List.mem_cons_self)).2
  refine ⟨?_, ?_, ?_, ?_⟩ <;> rw [hsource, hkind]
  · rw [hcreated]
    exact fun n hn hof hlive => due_live hdue hn hof hlive
  · rw [hcreated]
    exact fun n hn hof hended t ht => due_ended hdue hn hof hended ht
  · rw [hcreated]
    intro n hn hof _ hrecent m hm hid
    by_contra hlive
    -- The request of `m` is still in the table, and it is that of `n`.
    obtain ⟨m', hm', hrequest⟩ := List.mem_map.1 (hanswer.grown.subset (List.mem_map_of_mem hm))
    obtain rfl : m' = n := eq_of_key h.keyed.operations hm' hn
      ((congrArg OperationRequest.monitoring_sync_operation_id hrequest).trans hid)
    have hmof : m.isOf row.monitoring_source_id q.kind = true := by
      rw [← hof]
      exact congrArg (fun r : OperationRequest =>
        decide (r.monitoring_source_id = row.monitoring_source_id ∧ r.responsibility_kind = q.kind)) hrequest.symm
    have hcreated' : m'.created_at = m.created_at := congrArg OperationRequest.created_at hrequest
    exact absurd (due_live hdue hm hmof (by simpa using hlive)) (not_le.2 (hcreated' ▸ hrecent))
  · rintro ⟨v, x⟩ hx n rfl
    by_cases hv : v = w
    · subst hv
      exact hanswer.fresh n (WriteLog.mem_writes.2 hx) row List.mem_cons_self
    · by_contra hof
      have hof : n.isOf row.monitoring_source_id q.kind = true := by simpa using hof
      obtain ⟨hn, hnk⟩ := of_decide_eq_true hof
      have hlocked := (h.sessions.sessions v).locked n (WriteLog.mem_writes.2 hx)
      rw [hn, hnk] at hlocked
      exact hv (h.exclusive _ (WriteLog.mem_writes.1 hlocked) _ (WriteLog.mem_writes.1 hlock) rfl)

/-- **Key result**: the law holds of each insert of each run. -/
theorem deduplicated (domain : Domain) (cfg : SchedulerConfig) (hashtext : String → ℤ) (tenant_id : String)
    (bridge : BridgeVersion) (run : List Act) : DedupLaw domain cfg hashtext tenant_id bridge run :=
  fun _ _ _ ho => (inv_exec domain cfg hashtext tenant_id bridge run).insert_law ho

/-! ### A run -/

/-- Two polls of current state: one is left behind, the other one ends ten minutes later. -/
def zombiePoll : List Sync.Action :=
  polledOnce .float ++
    [.enqueueCurrentState 7 "mon-src_0", .enqueueCurrentState (fromtimestamp 600) "mon-src_0",
      .claim (fromtimestamp 601) .currentState "mon-sync_11" "token-3",
      .complete (fromtimestamp 602) 2 (.currentState { SyncResult.ok _ with accepted_observations := [] })]

/-- Six minutes later a scheduler passes. -/
def lateBesideZombie : List Act :=
  zombiePoll.map .act ++
  [.pass 0, .due 0 (fromtimestamp 960) (fromtimestamp 960) false, .lock 0 false, .insert 0, .commit 0,
    .due 0 (fromtimestamp 960) (fromtimestamp 960) false, .lock 0 false]

/-- The pass inserts a poll beside the one that is left behind, six minutes after the other one. -/
theorem lateBesideZombie_inserts :
    ¬NoneLive Domain.tested .default (fun text => text.length) "t" .publicationBridge lateBesideZombie ∧
      ¬NoneRecent Domain.tested .default (fun text => text.length) "t" .publicationBridge lateBesideZombie := by
  constructor
  · intro h
    have hlive := h 0 _ _ rfl
    revert hlive
    decide
  · intro h
    have hrecent := h 0 _ _ rfl
    revert hrecent
    decide

end JLMirror.Monitoring.Scheduler
