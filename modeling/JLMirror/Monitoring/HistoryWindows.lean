import JLMirror.Foundations.Gapless
import JLMirror.Foundations.Run
import JLMirror.Monitoring.SchedulerDedup

/-!
# The windows of the history syncs

A scheduled history sync has a window that ends when the scheduler's clock was read, and has a fixed length. When the
next one is due is counted from the completion of the last one, in the time of the database. The length is that of the
cadence, so the seconds between a pass and the completion of its operation are in no window, and neither is what passes
until a scheduler looks again.

## The model

* `CoreTables.windows` are the windows of the history syncs of a source. A window that ends before it begins is none.
* `NoGap` is the law of a state: what lies between the first second of a window and the last second of one is in a window.
* `Scheduling.queues` are the operations that a step queues for a window of its own: those that a pass commits, and that
  of an operator. A page has the window of the page before it.
* `joins` is the condition on a step: each window that it queues touches those that are there.

## What is proved

* `windows_step`: the windows after a step are those before it and those that it queues.
* **Key result** (`windows_gapless_iff`): a run leaves no gap in any state exactly if all its steps meet the condition.
* `onCadence`: a run on the default cadence, whose history operations all succeed, with seconds that are in no window.
-/

namespace JLMirror.Monitoring

open JLMirror.Foundations

/-- The window that a request has for a source. -/
def OperationRequest.windowOf (source_id : String) (r : OperationRequest) : Option (ℤ × ℤ) :=
  if r.monitoring_source_id = source_id then r.window.filter fun x => x.1 ≤ x.2 else none

/-- The windows of the history syncs of a source. -/
def CoreTables.windows (c : CoreTables) (source_id : String) : List (ℤ × ℤ) :=
  c.requests.filterMap (OperationRequest.windowOf source_id)

/-- No second between the first window and the last one is in no window. -/
def NoGap (c : CoreTables) : Prop :=
  ∀ source_id t, (∃ u ∈ c.windows source_id, u.1 ≤ t) → (∃ v ∈ c.windows source_id, t ≤ v.2) →
    ∃ o ∈ c.windows source_id, o.1 ≤ t ∧ t ≤ o.2

theorem windowOf_some {source_id : String} {r : OperationRequest} {x : ℤ × ℤ} :
    r.windowOf source_id = some x ↔ r.monitoring_source_id = source_id ∧ r.window = some x ∧ x.1 ≤ x.2 := by
  rw [OperationRequest.windowOf, Option.ite_none_right_eq_some, Option.filter_eq_some_iff]
  simp

theorem mem_windows {c : CoreTables} {source_id : String} {x : ℤ × ℤ} :
    x ∈ c.windows source_id ↔ ∃ r ∈ c.requests, r.monitoring_source_id = source_id ∧ r.window = some x ∧ x.1 ≤ x.2 := by
  rw [CoreTables.windows, List.mem_filterMap]
  simp only [windowOf_some]

theorem windows_append {c c' : CoreTables} {l : List OperationRequest} (h : c'.requests = c.requests ++ l)
    (source_id : String) : c'.windows source_id = c.windows source_id ++ l.filterMap (OperationRequest.windowOf source_id) := by
  rw [CoreTables.windows, h, List.filterMap_append]
  rfl

theorem noGap_iff (c : CoreTables) : NoGap c ↔ ∀ source_id, Gapless {x | x ∈ c.windows source_id} := by
  refine forall_congr' fun source_id => (gapless_iff fun x hx => ?_).symm
  obtain ⟨r, -, -, -, hle⟩ := mem_windows.1 hx
  exact hle

/-! ### The windows of the claims -/

namespace Sync

variable {domain : Domain}

/-- The window of a history claim is that of an operation. -/
def Windowed (s : System) : Prop :=
  ∀ c, Claim.history c ∈ s.issued → ∃ r ∈ s.db.core.requests, r.monitoring_source_id = c.monitoring_source_id ∧
    r.window = some (c.window.time_from, c.window.time_till)

/-- A claim takes the window of its operation. -/
theorem claim_window {now : Timestamp} {w : Worker} {op_id token : String} {db db' : SyncDb} {c : MetricHistoryClaim}
    (h : claim domain now w op_id token db = .ok (some (.history c), db')) :
    ∃ r ∈ db.core.requests, r.monitoring_source_id = c.monitoring_source_id ∧
      r.window = some (c.window.time_from, c.window.time_till) := by
  cases w with
  | history =>
    obtain ⟨x, hx, h⟩ := map_ok_iff.1 h
    obtain ⟨hc, rfl⟩ := Prod.mk.inj h
    obtain ⟨c', hc', heq⟩ := Option.map_eq_some_iff.1 hc
    obtain rfl := Claim.history.inj heq
    unfold claim_metric_history at hx
    split at hx
    · cases hx
    · rename_i o s g hclaimable
      obtain ⟨⟨ho, -, -, -, hkind⟩, -⟩ := claimable_some hclaimable
      dsimp only at hx
      split_ifs at hx
      · obtain rfl := Except.ok.inj hx
        cases hc'
      · split at hx
        · rename_i time_from time_till hfrom htill
          obtain rfl := Except.ok.inj hx
          obtain rfl := Option.some.inj hc'
          refine ⟨o.request, List.mem_map_of_mem ho, rfl, ?_⟩
          rw [OperationRequest.window, if_pos (show o.request.responsibility_kind = _ from hkind)]
          rw [show o.request.history_time_from = _ from hfrom, show o.request.history_time_till = _ from htill]
          rfl
        · obtain rfl := Except.ok.inj hx
          cases hc'
  | validation =>
    obtain ⟨x, -, h⟩ := map_ok_iff.1 h
    cases Option.some.inj (Prod.mk.inj h).1
  | inventory =>
    obtain ⟨x, -, h⟩ := map_ok_iff.1 h
    cases Option.some.inj (Prod.mk.inj h).1
  | definitions =>
    obtain ⟨x, -, h⟩ := map_ok_iff.1 h
    cases Option.some.inj (Prod.mk.inj h).1
  | currentState =>
    obtain ⟨x, -, h⟩ := map_ok_iff.1 h
    cases Option.some.inj (Prod.mk.inj h).1
  | problemState =>
    obtain ⟨x, -, h⟩ := map_ok_iff.1 h
    cases Option.some.inj (Prod.mk.inj h).1

theorem Windowed.mono {s t : System} (h : Windowed s) (hissued : t.issued = s.issued)
    (hgrown : s.db.core.requests <+: t.db.core.requests) : Windowed t := by
  intro c hc
  obtain ⟨r, hr, hwindow⟩ := h c (hissued ▸ hc)
  exact ⟨r, hgrown.subset hr, hwindow⟩

theorem windowed_step {s : System} (h : Windowed s) (a : Action) : Windowed (s.step domain a) := by
  have hgrown := requests_step domain s a
  rcases step_cases domain s a with hs | ⟨db, -, hs⟩ | ⟨now, w, op_id, token, c, db, rfl, hc, hs⟩ |
    ⟨now, n, report, c, db, -, -, -, hs⟩
  · exact h.mono (by rw [hs]) hgrown
  · exact h.mono (by rw [hs]) hgrown
  · rw [hs] at hgrown ⊢
    intro claim hclaim
    rcases List.mem_append.1 hclaim with hold | hnew
    · obtain ⟨r, hr, hwindow⟩ := h claim hold
      exact ⟨r, hgrown.subset hr, hwindow⟩
    · obtain rfl := Option.mem_toList.1 hnew
      obtain ⟨r, hr, hwindow⟩ := claim_window hc
      exact ⟨r, hgrown.subset hr, hwindow⟩
  · exact h.mono (by rw [hs]) hgrown

/-- A window that an action adds is one that an operator asks for, or is there. -/
theorem windows_act {s : System} (h : Windowed s) (a : Action) {l : List OperationRequest} (hl : ∀ r ∈ l, Queues s a r)
    {source_id : String} {x : ℤ × ℤ} (hx : x ∈ l.filterMap (OperationRequest.windowOf source_id)) :
    (∃ now, a = .enqueueHistory now x.1 x.2 source_id) ∨
      (∃ now n report, a = .complete now n report) ∧ x ∈ s.db.core.windows source_id := by
  obtain ⟨r, hr, hx⟩ := List.mem_filterMap.1 hx
  obtain ⟨rfl, hwindow, hle⟩ := windowOf_some.1 hx
  cases hl r hr with
  | plain hnone => cases hnone.symm.trans hwindow
  | asked ha hasked =>
    obtain rfl := Option.some.inj (hasked.symm.trans hwindow)
    exact Or.inl ⟨_, ha⟩
  | chained ha hissued hsource hchained =>
    obtain ⟨r', hr', hsource', hwindow'⟩ := h _ (List.mem_of_getElem? hissued)
    refine Or.inr ⟨⟨_, _, _, ha⟩, mem_windows.2 ⟨r', hr', hsource'.trans hsource.symm, ?_, hle⟩⟩
    exact hwindow'.trans (hchained.symm.trans hwindow)

end Sync

/-! ### The steps of the system -/

namespace Scheduler

open Sync

section Windows

variable (domain : Domain) (cfg : SchedulerConfig) (hashtext : String → ℤ) (tenant_id : String)

/-- The operations that a step queues for windows of their own. -/
def Scheduling.queues (s : Scheduling) (a : Act) : List OperationRequest :=
  match a with
  | .act (.enqueueHistory ..) =>
    (s.step domain cfg hashtext tenant_id a).tx.db.db.core.requests.drop s.tx.db.db.core.requests.length
  | .commit w =>
    match s.pc w with
    | .lock _ [] _ => (s.tx.writes w).filterMap fun x => x.inserted.map OperationRow.request
    | _ => []
  | _ => []

/-- The condition on a step: each window that it queues touches those of its source. -/
def joins (s : Scheduling) (a : Act) : Prop :=
  ∀ r ∈ s.queues domain cfg hashtext tenant_id a, ∀ x, r.windowOf r.monitoring_source_id = some x →
    Joins {y | y ∈ s.tx.db.db.core.windows r.monitoring_source_id} x

theorem issued_foldl_apply (xs : List Write) (s : System) : (xs.foldl (fun s x => x.apply s) s).issued = s.issued := by
  induction xs generalizing s with
  | nil => rfl
  | cons x xs ih =>
    rw [List.foldl_cons, ih]
    cases x <;> rfl

theorem write_db (t : Sessions System Write Point) (w : ℕ) (x : Write) (p : Point) :
    (t.write Write.row w x p).tx.db = t.tx.db := by
  unfold Sessions.write
  split_ifs <;> rfl

/-- What a step of a session does to the operations, and to the claims: nothing, unless it commits. -/
theorem step_core (s : Scheduling) (a : Act) : (∃ b, a = .act b) ∨ (∃ w q kinds, a = .commit w ∧ s.pc w = .lock q [] kinds) ∨
    (s.step domain cfg hashtext tenant_id a).tx.db.db.core = s.tx.db.db.core ∧
      (s.step domain cfg hashtext tenant_id a).tx.db.issued = s.tx.db.issued ∧
      s.queues domain cfg hashtext tenant_id a = [] := by
  cases a with
  | act b => exact Or.inl ⟨b, rfl⟩
  | commit w =>
    cases hpc : s.pc w with
    | lock q rows kinds =>
      cases rows with
      | nil => exact Or.inr (Or.inl ⟨w, q, kinds, rfl, hpc⟩)
      | cons row rows => exact Or.inr (Or.inr (by simp only [Scheduling.step, Scheduling.queues, hpc, and_self]))
    | idle => exact Or.inr (Or.inr (by simp only [Scheduling.step, Scheduling.queues, hpc, and_self]))
    | due kinds => exact Or.inr (Or.inr (by simp only [Scheduling.step, Scheduling.queues, hpc, and_self]))
    | insert q row rows kinds => exact Or.inr (Or.inr (by simp only [Scheduling.step, Scheduling.queues, hpc, and_self]))
  | pass w =>
    refine Or.inr (Or.inr ?_)
    dsimp only [Scheduling.step]
    split <;> exact ⟨rfl, rfl, rfl⟩
  | due w now clock others =>
    refine Or.inr (Or.inr ?_)
    dsimp only [Scheduling.step]
    split <;> exact ⟨rfl, rfl, rfl⟩
  | lock w others =>
    refine Or.inr (Or.inr ?_)
    dsimp only [Scheduling.step]
    split
    · split_ifs
      · exact ⟨rfl, rfl, rfl⟩
      · rw [write_db]
        exact ⟨rfl, rfl, rfl⟩
    · exact ⟨rfl, rfl, rfl⟩
  | insert w =>
    refine Or.inr (Or.inr ?_)
    dsimp only [Scheduling.step]
    split
    · split_ifs
      · exact ⟨rfl, rfl, rfl⟩
      · rw [write_db]
        exact ⟨rfl, rfl, rfl⟩
    · exact ⟨rfl, rfl, rfl⟩
  | fail w =>
    refine Or.inr (Or.inr ?_)
    dsimp only [Scheduling.step]
    split <;> exact ⟨rfl, rfl, rfl⟩
  | lose w => exact Or.inr (Or.inr ⟨rfl, rfl, rfl⟩)

theorem queues_act (s : Scheduling) (b : Sync.Action) :
    ((∃ now time_from time_till source_id, b = .enqueueHistory now time_from time_till source_id) ∧
      s.queues domain cfg hashtext tenant_id (.act b) = (s.step domain cfg hashtext tenant_id (.act b)).tx.db.db.core.requests.drop
        s.tx.db.db.core.requests.length) ∨
    (∀ now time_from time_till source_id, b ≠ .enqueueHistory now time_from time_till source_id) ∧
      s.queues domain cfg hashtext tenant_id (.act b) = [] := by
  cases b with
  | enqueueHistory now time_from time_till source_id => exact Or.inl ⟨⟨_, _, _, _, rfl⟩, rfl⟩
  | _ => exact Or.inr ⟨by rintro _ _ _ _ ⟨⟩, rfl⟩

variable {domain cfg hashtext tenant_id} {s : Scheduling}

/-- The operations that one transaction inserts have one window for a source at most. -/
theorem once_subsingleton {ws : List Write} (h : (ws.filterMap Write.inserted).Pairwise fun o o' =>
    o'.isOf o.monitoring_source_id o.responsibility_kind = false) (source_id : String) :
    {x | x ∈ (ws.filterMap fun x => x.inserted.map OperationRow.request).filterMap
      (OperationRequest.windowOf source_id)}.Subsingleton := by
  have hof : ∀ x, x ∈ (ws.filterMap fun x => x.inserted.map OperationRow.request).filterMap
      (OperationRequest.windowOf source_id) → ∃ o ∈ ws.filterMap Write.inserted,
        o.isOf source_id .metric_history_sync = true ∧ o.request.windowOf source_id = some x := by
    intro x hx
    obtain ⟨r, hr, hx⟩ := List.mem_filterMap.1 hx
    obtain ⟨y, hy, hr⟩ := List.mem_filterMap.1 hr
    obtain ⟨o, ho, rfl⟩ := Option.map_eq_some_iff.1 hr
    obtain ⟨hsource, hwindow, -⟩ := windowOf_some.1 hx
    have hkind : o.responsibility_kind = .metric_history_sync := by
      by_contra hkind
      rw [OperationRequest.window, if_neg (show ¬o.request.responsibility_kind = _ from hkind)] at hwindow
      cases hwindow
    exact ⟨o, List.mem_filterMap.2 ⟨y, hy, ho⟩, decide_eq_true ⟨hsource, hkind⟩, hx⟩
  intro x hx y hy
  obtain ⟨o, ho, hoof, hox⟩ := hof x hx
  obtain ⟨o', ho', hoof', hoy⟩ := hof y hy
  by_cases heq : o = o'
  · subst heq
    exact Option.some.inj (hox.symm.trans hoy)
  · obtain ⟨hs, hk⟩ := of_decide_eq_true hoof
    obtain ⟨hs', hk'⟩ := of_decide_eq_true hoof'
    have : Std.Symm fun o o' : OperationRow => o'.isOf o.monitoring_source_id o.responsibility_kind = false :=
      ⟨fun p p' hp => decide_eq_false fun hq => of_decide_eq_false hp ⟨hq.1.symm, hq.2.symm⟩⟩
    have hne := h.forall ho ho' heq
    exact absurd ⟨hs'.trans hs.symm, hk'.trans hk.symm⟩ (of_decide_eq_false hne)

/-- The windows after an action: a page adds none. -/
theorem windows_step_act (hw : Windowed s.tx.db) (b : Sync.Action) {l : List OperationRequest}
    (hstep : (s.step domain cfg hashtext tenant_id (.act b)).tx.db.db.core.requests = s.tx.db.db.core.requests ++ l)
    (hnew : ∀ r ∈ l, Queues s.tx.db b r) (source_id : String) :
    {x | x ∈ (s.step domain cfg hashtext tenant_id (.act b)).tx.db.db.core.windows source_id} =
      {x | x ∈ s.tx.db.db.core.windows source_id} ∪
        {x | x ∈ (s.queues domain cfg hashtext tenant_id (.act b)).filterMap (OperationRequest.windowOf source_id)} ∧
    {x | x ∈ (s.queues domain cfg hashtext tenant_id (.act b)).filterMap
      (OperationRequest.windowOf source_id)}.Subsingleton := by
  have hone : ∀ x, x ∈ l.filterMap (OperationRequest.windowOf source_id) → _ := fun x hx => windows_act hw b hnew hx
  rw [windows_append hstep]
  rcases queues_act domain cfg hashtext tenant_id s b with
    ⟨⟨now, time_from, time_till, source, rfl⟩, hqueues⟩ | ⟨hother, hqueues⟩
  · rw [hqueues, hstep, List.drop_left]
    have hasked : ∀ x, x ∈ l.filterMap (OperationRequest.windowOf source_id) → x = (time_from, time_till) := by
      intro x hx
      rcases hone x hx with ⟨_, heq⟩ | ⟨⟨_, _, _, heq⟩, -⟩
      · cases heq
        rfl
      · cases heq
    exact ⟨Set.ext fun _ => List.mem_append, fun x hx y hy => (hasked x hx).trans (hasked y hy).symm⟩
  · rw [hqueues]
    refine ⟨Set.ext fun x => ⟨fun hx => Or.inl ?_, fun hx => List.mem_append_left _ ?_⟩, by simp⟩
    · rcases List.mem_append.1 hx with hold | hnew
      · exact hold
      · rcases hone x hnew with ⟨now, heq⟩ | ⟨-, hold⟩
        · exact absurd heq (hother _ _ _ _)
        · exact hold
    · simpa using hx

/-- **The windows after a step**: those before it, and those that it queues. -/
theorem windows_step (hinv : SchedulingInv (lockNumber hashtext tenant_id) s.toSessions) (hw : Windowed s.tx.db) (a : Act)
    (source_id : String) :
    {x | x ∈ (s.step domain cfg hashtext tenant_id a).tx.db.db.core.windows source_id} =
      {x | x ∈ s.tx.db.db.core.windows source_id} ∪
        {x | x ∈ (s.queues domain cfg hashtext tenant_id a).filterMap (OperationRequest.windowOf source_id)} ∧
    {x | x ∈ (s.queues domain cfg hashtext tenant_id a).filterMap (OperationRequest.windowOf source_id)}.Subsingleton := by
  rcases step_core domain cfg hashtext tenant_id s a with
    ⟨b, rfl⟩ | ⟨w, q, kinds, rfl, hpc⟩ | ⟨hcore, -, hqueues⟩
  · by_cases hcollides : s.collides (s.tx.db.step domain b).db.core = true
    · refine windows_step_act (l := []) hw b ?_ (by simp) source_id
      simp only [Scheduling.step, hcollides, if_true, List.append_nil]
    · obtain ⟨l, hl, hnew⟩ := (operations_step domain s.tx.db b).requests
      refine windows_step_act hw b ?_ hnew source_id
      simp only [Scheduling.step, hcollides, Bool.false_eq_true, if_false]
      exact hl
  · have hqueues : s.queues domain cfg hashtext tenant_id (.commit w) =
        (s.tx.writes w).filterMap fun x => x.inserted.map OperationRow.request := by
      simp only [Scheduling.queues, hpc]
    have hrequests : (s.step domain cfg hashtext tenant_id (.commit w)).tx.db.db.core.requests =
        s.tx.db.db.core.requests ++ (s.tx.writes w).filterMap fun x => x.inserted.map OperationRow.request := by
      simp only [Scheduling.step, hpc]
      exact SchedulingInv.requests_view s.toSessions w
    rw [hqueues, windows_append hrequests]
    exact ⟨Set.ext fun _ => List.mem_append, once_subsingleton (hinv.sessions.sessions w).once source_id⟩
  · rw [hcore, hqueues]
    exact ⟨by simp, by simp⟩

theorem step_windowed (hw : Windowed s.tx.db) (a : Act) : Windowed (s.step domain cfg hashtext tenant_id a).tx.db := by
  rcases step_core domain cfg hashtext tenant_id s a with ⟨b, rfl⟩ | ⟨w, q, kinds, rfl, hpc⟩ | ⟨hcore, hissued, -⟩
  · dsimp only [Scheduling.step]
    split_ifs
    · exact hw
    · exact windowed_step hw b
  · simp only [Scheduling.step, hpc]
    refine hw.mono ?_ ⟨_, (SchedulingInv.requests_view s.toSessions w).symm⟩
    exact (congrArg System.issued (Sessions.view_eq ..)).trans (issued_foldl_apply ..)
  · exact hw.mono hissued ⟨[], by rw [hcore, List.append_nil]⟩

/-- A step leaves no gap exactly if it meets the condition. -/
theorem noGap_step (hinv : SchedulingInv (lockNumber hashtext tenant_id) s.toSessions) (hw : Windowed s.tx.db)
    (h : NoGap s.tx.db.db.core) (a : Act) :
    NoGap (s.step domain cfg hashtext tenant_id a).tx.db.db.core ↔ joins domain cfg hashtext tenant_id s a := by
  have hle : ∀ (c : CoreTables) (source_id : String), ∀ x ∈ {x | x ∈ c.windows source_id}, x.1 ≤ x.2 := by
    intro c source_id x hx
    obtain ⟨r, -, -, -, hle⟩ := mem_windows.1 hx
    exact hle
  have hstep : NoGap (s.step domain cfg hashtext tenant_id a).tx.db.db.core ↔ ∀ source_id,
      ∀ x ∈ (s.queues domain cfg hashtext tenant_id a).filterMap (OperationRequest.windowOf source_id),
        Joins {y | y ∈ s.tx.db.db.core.windows source_id} x := by
    rw [noGap_iff]
    refine forall_congr' fun source_id => ?_
    rw [(windows_step hinv hw a source_id).1]
    refine gapless_union (hle _ _) (fun x hx => ?_) (windows_step hinv hw a source_id).2 ((noGap_iff _).1 h source_id)
    obtain ⟨r, -, hr⟩ := List.mem_filterMap.1 hx
    exact (windowOf_some.1 hr).2.2
  rw [hstep]
  constructor
  · intro h r hr x hx
    exact h _ x (List.mem_filterMap.2 ⟨r, hr, hx⟩)
  · intro h source_id x hx
    obtain ⟨r, hr, hx⟩ := List.mem_filterMap.1 hx
    obtain rfl := (windowOf_some.1 hx).1
    exact h r hr x hx

end Windows

section Run

variable (domain : Domain) (cfg : SchedulerConfig) (hashtext : String → ℤ) (tenant_id : String) (bridge : BridgeVersion)

theorem windowed_exec (run : List Act) : Windowed (Scheduling.exec domain cfg hashtext tenant_id bridge run).tx.db := by
  induction run using List.reverseRecOn with
  | nil => exact fun c hc => absurd hc List.not_mem_nil
  | append_singleton run a ih =>
    rw [Scheduling.exec, List.foldl_append]
    exact step_windowed ih a

/-- **Key result**: a run leaves no gap in any of its states exactly if each window that it queues touches those that
are there. -/
theorem windows_gapless_iff (run : List Act) :
    (∀ pre post, run = pre ++ post → NoGap (Scheduling.exec domain cfg hashtext tenant_id bridge pre).tx.db.db.core) ↔
      Guarded (Scheduling.step domain cfg hashtext tenant_id) (joins domain cfg hashtext tenant_id) (.empty bridge) run := by
  rw [guarded_iff]
  constructor
  · rintro h pre a post rfl
    refine (noGap_step (inv_exec ..) (windowed_exec _ _ _ _ _ _) (h pre (a :: post) rfl) a).1 ?_
    have hnext := h (pre ++ [a]) post (by simp)
    rwa [Scheduling.exec, List.foldl_append] at hnext
  · rintro h pre
    induction pre using List.reverseRecOn with
    | nil =>
      rintro post - source_id t ⟨u, hu, -⟩
      exact absurd hu List.not_mem_nil
    | append_singleton pre a ih =>
      rintro post rfl
      rw [Scheduling.exec, List.foldl_append]
      refine (noGap_step (inv_exec ..) (windowed_exec _ _ _ _ _ _) (ih (a :: post) (by simp)) a).2 ?_
      exact h pre a post (by simp)

end Run

/-! ### A run -/

/-- A pass of a scheduler that finds the source due for each kind. -/
def duePass (now : Timestamp) : List Act :=
  .pass 0 :: (List.replicate 5 [.due 0 now now false, .lock 0 false, .insert 0, .commit 0]).flatten

/-- A history operation that is claimed after five seconds, and ends a second later. -/
def syncedHistory (now : Timestamp) (n : ℕ) (op_id token : String) : List Act :=
  [.act (.claim (now + fromtimestamp 5) .history op_id token),
    .act (.complete (now + fromtimestamp 6) n
      (.history { SyncResult.ok _ with coverage_state := .finalized } []))]

/-- Two passes, of which the second one is the first that finds the history due again. -/
def onCadence : List Act :=
  (polledOnce .float).map .act ++
    duePass (fromtimestamp 10000) ++ syncedHistory (fromtimestamp 10000) 2 "mon-op_14" "token-3" ++
    duePass (fromtimestamp 13630) ++ syncedHistory (fromtimestamp 13630) 3 "mon-op_19" "token-4"

/-- Every history operation has succeeded, and twenty-nine seconds are in no window. -/
theorem onCadence_gap :
    (∀ o ∈ (Scheduling.exec Domain.tested .default (fun text => text.length) "t" .publicationBridge
      onCadence).tx.db.db.core.operations, o.responsibility_kind = .metric_history_sync → o.state = .succeeded) ∧
    ¬NoGap (Scheduling.exec Domain.tested .default (fun text => text.length) "t" .publicationBridge
      onCadence).tx.db.db.core := by
  constructor
  · decide +kernel
  · intro h
    have hwindows : (Scheduling.exec Domain.tested .default (fun text => text.length) "t" .publicationBridge
        onCadence).tx.db.db.core.windows "mon-src_0" = [(6400, 10000), (10030, 13630)] := by decide +kernel
    have hcovered := h "mon-src_0" 10015
    rw [hwindows] at hcovered
    obtain ⟨o, ho, hinside⟩ := hcovered ⟨(6400, 10000), by simp, by omega⟩ ⟨(10030, 13630), by simp, by omega⟩
    rcases List.mem_pair.1 ho with rfl | rfl <;> omega

end Scheduler

end JLMirror.Monitoring
