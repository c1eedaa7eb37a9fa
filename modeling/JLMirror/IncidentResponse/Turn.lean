import JLMirror.IncidentResponse.Pass

/-!
# The turn of a tenant

What `_process_tenant` does to the session: when it raises, which records it makes and that they
stand, and that the rows of the other tenants stay as they are.

## What is proved

* `Record.stands_congr`, `next_congr` — whether a record stands, and which action is next, is a matter
  of the tenant's own rows.
* `dispatch_spec` — a dispatch adds runs of the tenant at most, and ends with a final state.
* `Completes.not_stands` — the record of a completion does not stand where the action is pending.

**Key result** (`turn_spec`): what a turn does, by the failures of the tenant and its pending actions.
-/

namespace JLMirror.IncidentResponse

open JLMirror.Foundations

/-! ### The rows of a tenant -/

/-- The rows of a tenant in the tables that the pass writes. -/
structure TenantRows where
  actions : List ActionRequest
  events : List ErrorEvent
  runs : List AutomationRun

/-- What the tables hold of a tenant. -/
def IrDb.rowsOf (u : String) (db : IrDb) : TenantRows :=
  ⟨db.actions.filter (·.tenant_id = u), db.events.filter (·.tenant_id = u), db.runs.filter (·.tenant_id = u)⟩

/-- Whose row the record is about. -/
def Record.tenant_id : Record → String
  | .completed t _ _ => t
  | .enqueued t _ => t

variable {u : String}

theorem exists_of_filter_eq {α : Type} {k : α → String} {l l' : List α}
    (h : (l'.filter fun r => k r = u) = l.filter fun r => k r = u) {q : α → Prop} :
    (∃ r ∈ l', k r = u ∧ q r) ↔ ∃ r ∈ l, k r = u ∧ q r := by
  have hfilter : ∀ l : List α, (∃ r ∈ l, k r = u ∧ q r) ↔ ∃ r ∈ l.filter fun r => k r = u, q r := by
    simp only [List.mem_filter, decide_eq_true_eq, and_assoc, implies_true]
  rw [hfilter, hfilter, h]

variable {db db' : IrDb}

variable {r : Record}

theorem Record.stands_congr (h : db'.rowsOf r.tenant_id = db.rowsOf r.tenant_id) : r.stands db' ↔ r.stands db := by
  obtain ⟨hactions, -, hruns⟩ := TenantRows.mk.inj h
  cases r with
  | completed t rid st => exact exists_of_filter_eq hactions
  | enqueued t run => exact exists_of_filter_eq hruns

/-- The next action of a tenant is a matter of its rows. -/
theorem next_congr (h : db'.rowsOf u = db.rowsOf u) :
    g11_next_pending_action u db' = g11_next_pending_action u db := by
  have hnext : ∀ db : IrDb, db.actions.filter (isNext u db) = (db.rowsOf u).actions.filter fun a =>
      a.status = .pending ∧ ∃ e ∈ (db.rowsOf u).events, e.event_id = a.event_id := by
    intro db
    rw [IrDb.rowsOf, List.filter_filter]
    refine List.filter_congr fun a _ => ?_
    rw [isNext, ← Bool.decide_and]
    refine decide_eq_decide.2 ?_
    simp only [List.mem_filter, decide_eq_true_eq]
    constructor
    · rintro ⟨rfl, hpending, e, he, ht, hid⟩
      exact ⟨⟨hpending, e, ⟨he, ht⟩, hid⟩, rfl⟩
    · rintro ⟨⟨hpending, e, ⟨he, ht⟩, hid⟩, rfl⟩
      exact ⟨rfl, hpending, e, he, ht, hid⟩
  rw [g11_next_pending_action, g11_next_pending_action, hnext, hnext, h]

variable {t : String}

theorem filter_tenant_updateWhere {α : Type} (k : α → String) {p : α → Bool} {f : α → α}
    (hp : ∀ r, p r = true → k r = t) (hf : ∀ r, k (f r) = k r) (h : u ≠ t) (rows : List α) :
    (updateWhere p f rows).filter (fun r => k r = u) = rows.filter fun r => k r = u := by
  refine filter_updateWhere fun r _ hr => ?_
  have hne : k r ≠ u := fun heq => h (heq.symm.trans (hp r hr))
  exact ⟨decide_eq_false hne, decide_eq_false ((hf r).trans_ne hne)⟩

theorem updateActions_rows {p : ActionRequest → Bool} {f : ActionRequest → ActionRequest}
    (hp : ∀ a, p a = true → a.tenant_id = t) (hf : ∀ a, (f a).tenant_id = a.tenant_id) (h : u ≠ t) (db : IrDb) :
    IrDb.rowsOf u { db with actions := updateWhere p f db.actions } = db.rowsOf u :=
  congrArg (TenantRows.mk · _ _) (filter_tenant_updateWhere ActionRequest.tenant_id hp hf h db.actions)

variable {rid executor : String}

theorem claim_rows {now n : ℕ} (h : u ≠ t) (db : IrDb) :
    (g11_claim_action now t rid executor n db).2.rowsOf u = db.rowsOf u :=
  updateActions_rows (p := isClaimable t rid) (f := ActionRequest.claimBy executor (now + n))
    (fun _ ha => (of_decide_eq_true ha).1) (fun _ => rfl) h db

theorem settle_rows {r : ActionResult} (h : u ≠ t) (db : IrDb) :
    (settleAction t rid executor r db).rowsOf u = db.rowsOf u :=
  updateActions_rows (p := isOwned t rid executor) (f := ActionRequest.settle r)
    (fun _ ha => (of_decide_eq_true ha).1) (fun _ => rfl) h db

theorem processEvent_rows (h : u ≠ t) (db : IrDb) : (processEvent t rid db).rowsOf u = db.rowsOf u := by
  have hp : ∀ e, isEventOf t (eventIdOf rid db) e = true → e.tenant_id = t := fun e he => (of_decide_eq_true he).1
  have hf : ∀ e : ErrorEvent, ({ e with status := .processed } : ErrorEvent).tenant_id = e.tenant_id := fun _ => rfl
  unfold processEvent
  split_ifs
  · rfl
  · exact congrArg (TenantRows.mk _ · _) (filter_tenant_updateWhere ErrorEvent.tenant_id hp hf h db.events)

theorem complete_rows {r : ActionResult} (h : u ≠ t) (db : IrDb) :
    (g11_complete_action t rid executor r db).2.rowsOf u = db.rowsOf u := by
  unfold g11_complete_action
  split_ifs
  · exact (processEvent_rows h _).trans (settle_rows h db)
  · rfl

/-! ### The dispatch -/

/-- The tables with further runs of the tenant. -/
def MoreRuns (t : String) (db db' : IrDb) : Prop :=
  ∃ runs : List AutomationRun, (∀ r ∈ runs, r.tenant_id = t) ∧ db' = { db with runs := db.runs ++ runs }

theorem MoreRuns.refl (t : String) (db : IrDb) : MoreRuns t db db :=
  ⟨[], fun _ h => absurd h List.not_mem_nil, by rw [List.append_nil]⟩

theorem MoreRuns.trans {db'' : IrDb} (h : MoreRuns t db db') (h' : MoreRuns t db' db'') : MoreRuns t db db'' := by
  obtain ⟨runs, hruns, rfl⟩ := h
  obtain ⟨runs', hruns', rfl⟩ := h'
  refine ⟨runs ++ runs', fun r hr => ?_, by rw [List.append_assoc]⟩
  exact (List.mem_append.1 hr).elim (hruns r) (hruns' r)

theorem MoreRuns.actions {t : String} {db db' : IrDb} (h : MoreRuns t db db') : db'.actions = db.actions := by
  obtain ⟨runs, -, rfl⟩ := h
  rfl

theorem MoreRuns.rows (h : MoreRuns t db db') (hu : u ≠ t) : db'.rowsOf u = db.rowsOf u := by
  obtain ⟨runs, hruns, rfl⟩ := h
  have hnone : runs.filter (fun r => r.tenant_id = u) = [] :=
    List.filter_eq_nil_iff.2 fun r hr => by simpa [hruns r hr] using hu.symm
  simp only [IrDb.rowsOf, List.filter_append, hnone, List.append_nil]

theorem MoreRuns.stands {t : String} {db db' : IrDb} (h : MoreRuns t db db') {r : Record} (hr : r.stands db) :
    r.stands db' := by
  obtain ⟨runs, -, rfl⟩ := h
  cases r with
  | completed => exact hr
  | enqueued =>
    obtain ⟨x, hx, h⟩ := hr
    exact ⟨x, List.mem_append_left _ hx, h⟩

theorem enqueue_moreRuns {script run : String} {enqueued : Bool}
    (h : g11_enqueue_automation t script run db = some (enqueued, db')) :
    MoreRuns t db db' ∧ (enqueued = true → (Record.enqueued t run).stands db') := by
  unfold g11_enqueue_automation at h
  split_ifs at h
  · obtain ⟨rfl, rfl⟩ := Prod.mk.inj (Option.some.inj h)
    refine ⟨⟨_, fun r hr => ?_, rfl⟩, fun _ => ⟨_, List.mem_append_right _ List.mem_cons_self, rfl, rfl⟩⟩
    rw [List.mem_singleton.1 hr]
  · obtain ⟨rfl, rfl⟩ := Prod.mk.inj (Option.some.inj h)
    exact ⟨.refl t db, fun h => nomatch h⟩

/-- What a dispatch does to the session, and the standing of its records. -/
structure Dispatched (t : String) (s s' : Session IrDb) (records : List Record) : Prop where
  kept : s.Kept s'
  runs : MoreRuns t s.view s'.view
  enqueued : ∀ r ∈ records, ∃ run, r = .enqueued t run
  stand : ∀ r ∈ records, r.stands s'.view

variable {s s' : Session IrDb}

theorem Dispatched.none (hkept : s.Kept s') (hruns : MoreRuns t s.view s'.view) : Dispatched t s s' [] :=
  ⟨hkept, hruns, fun _ h => absurd h List.not_mem_nil, fun _ h => absurd h List.not_mem_nil⟩

theorem Dispatched.cons {s'' : Session IrDb} {first rest : List Record} (h : Dispatched t s s' first)
    (h' : Dispatched t s' s'' rest) : Dispatched t s s'' (first ++ rest) where
  kept := h.kept.trans h'.kept
  runs := h.runs.trans h'.runs
  enqueued r hr := (List.mem_append.1 hr).elim (h.enqueued r) (h'.enqueued r)
  stand r hr := (List.mem_append.1 hr).elim (fun hr => h'.runs.stands (h.stand r hr)) (h'.stand r)

variable {p : IrPass} {records : List Record}

variable {raised : Bool}

theorem enqueueTriggers_spec {trigs : List (Option String)} {n : ℕ} (hs : s.failed = false)
    (h : enqueueTriggers p t trigs n s = (s', records, raised)) : Dispatched t s s' records := by
  induction trigs generalizing n s s' records raised with
  | nil =>
    obtain ⟨rfl, rfl, -⟩ := by simpa [enqueueTriggers] using h
    exact .none (.refl hs) (.refl ..)
  | cons trig trigs ih =>
    cases trig with
    | none => exact ih hs h
    | some script =>
      simp only [enqueueTriggers] at h
      split_ifs at h with hscript
      · exact ih hs h
      · rcases hcall : _call p.clock ((p.faults t).enqueueRefused n) (g11_enqueue_automation t script (p.runId t n)) s
          with ⟨s₁, answer⟩
        obtain ⟨hkept, ⟨rfl, -, rfl⟩ | ⟨enqueued, db, rfl, -, hf, hview⟩⟩ := call_spec hs hcall
        · rw [hcall] at h
          obtain ⟨rfl, rfl, -⟩ := by simpa using h
          exact .none hkept (.refl ..)
        · rcases hrest : enqueueTriggers p t trigs (n + 1) s₁ with ⟨s₂, rest, raised₂⟩
          simp only [hcall, hrest, Prod.mk.injEq] at h
          obtain ⟨rfl, rfl, -⟩ := h
          obtain ⟨hruns, hstands⟩ := enqueue_moreRuns hf
          refine Dispatched.cons ?_ (ih hkept.failed hrest)
          refine ⟨hkept, hview ▸ hruns, fun r hr => ?_, fun r hr => ?_⟩
          all_goals split_ifs at hr with henqueued
          · exact ⟨_, List.mem_singleton.1 hr⟩
          · cases hr
          · rw [List.mem_singleton.1 hr, hview]
            exact hstands henqueued
          · cases hr

variable {result : ActionResult}

/-- A dispatch ends with a result that is final, whatever fails. -/
theorem dispatch_spec {kind : ActionKind} (hs : s.failed = false) (h : dispatch p t kind s = (s', records, result)) :
    Dispatched t s s' records ∧ result.state.unsettled = false := by
  cases kind with
  | open_ticket =>
    simp only [dispatch] at h
    split at h
    all_goals
      obtain ⟨rfl, rfl, rfl⟩ := by simpa using h
      exact ⟨.none (.refl hs) (.refl ..), rfl⟩
  | notify =>
    rcases hcall : _call p.clock (p.faults t).destinationsRefused (fun db => some (g11_get_notify_destinations t db, db)) s
      with ⟨s₁, answer⟩
    obtain ⟨hkept, hread⟩ := call_some hs hcall
    have hnone : Dispatched t s s₁ [] := .none hkept (hread.elim (·.2.2) (·.2.2) ▸ .refl ..)
    simp only [dispatch, hcall] at h
    cases answer with
    | none =>
      obtain ⟨rfl, rfl, rfl⟩ := by simpa using h
      exact ⟨hnone, rfl⟩
    | some destinations =>
      dsimp only at h
      split_ifs at h
      all_goals
        obtain ⟨rfl, rfl, rfl⟩ := by simpa using h
        exact ⟨hnone, rfl⟩
  | automation =>
    rcases hcall : _call p.clock (p.faults t).policyRefused (fun db => some (g11_get_policy t db, db)) s
      with ⟨s₁, answer⟩
    obtain ⟨hkept, hread⟩ := call_some hs hcall
    have hnone : Dispatched t s s₁ [] := .none hkept (hread.elim (·.2.2) (·.2.2) ▸ .refl ..)
    simp only [dispatch, hcall] at h
    cases answer with
    | none =>
      obtain ⟨rfl, rfl, rfl⟩ := by simpa using h
      exact ⟨hnone, rfl⟩
    | some triggers =>
      rcases htrigs : enqueueTriggers p t triggers 0 s₁ with ⟨s₂, records₂, raised⟩
      have hspec : Dispatched t s s₂ records₂ := hnone.cons (enqueueTriggers_spec hkept.failed htrigs)
      simp only [htrigs] at h
      split_ifs at h
      all_goals
        obtain ⟨rfl, rfl, rfl⟩ := by simpa using h
        exact ⟨hspec, rfl⟩

/-! ### The turn -/

/-- A pending action of the tenant is next. -/
def hasPending (t : String) (db : IrDb) : Prop := (g11_next_pending_action t db).isSome = true

instance (t : String) (db : IrDb) : Decidable (hasPending t db) := inferInstanceAs (Decidable (_ = true))

/-- The turn of the tenant raises. -/
def fails (p : IrPass) (db : IrDb) (t : String) : Prop :=
  (p.faults t).nextRefused = true ∨ hasPending t db ∧
    ((p.faults t).candidateRaises = true ∨ (p.faults t).claimRefused = true ∨ (p.faults t).completeRefused = true)

instance (p : IrPass) (db : IrDb) (t : String) : Decidable (fails p db t) := by
  unfold fails
  infer_instance

variable {a : ActionRequest}

theorem next_mem (h : g11_next_pending_action t db = some a) :
    a ∈ db.actions ∧ a.tenant_id = t ∧ a.status = .pending := by
  obtain ⟨ha, hnext⟩ := List.mem_filter.1 (oldest_mem h)
  obtain ⟨ht, hpending, -⟩ := of_decide_eq_true hnext
  exact ⟨ha, ht, hpending⟩

theorem claim_next (now n : ℕ) (executor : String) (h : g11_next_pending_action t db = some a) :
    (g11_claim_action now t a.request_id executor n db).1 = true ∧
      ∃ b ∈ (g11_claim_action now t a.request_id executor n db).2.actions, isOwned t a.request_id executor b = true := by
  obtain ⟨hmem, ht, hpending⟩ := next_mem h
  have hclaimable : isClaimable t a.request_id a = true := by simp [isClaimable, ht, hpending]
  refine ⟨List.any_eq_true.2 ⟨a, hmem, hclaimable⟩, a.claimBy executor (now + n), ?_, ?_⟩
  · exact mem_updateWhere.2 ⟨a, hmem, if_pos hclaimable⟩
  · simp [isOwned, ActionRequest.claimBy, ht]

theorem processEvent_actions (t rid : String) (db : IrDb) : (processEvent t rid db).actions = db.actions := by
  unfold processEvent
  split_ifs <;> rfl

theorem complete_runs (t rid executor : String) (r : ActionResult) (db : IrDb) :
    (g11_complete_action t rid executor r db).2.runs = db.runs := by
  unfold g11_complete_action processEvent
  split_ifs <;> rfl

/-- The owner's completion is recorded. -/
theorem complete_owned {r : ActionResult} {b : ActionRequest} (hb : b ∈ db.actions)
    (howned : isOwned t rid executor b = true) :
    (g11_complete_action t rid executor r db).1 = true ∧
      (Record.completed t rid r.state).stands (g11_complete_action t rid executor r db).2 := by
  have hany : db.actions.any (isOwned t rid executor) = true := List.any_eq_true.2 ⟨b, hb, howned⟩
  obtain ⟨ht, hrid, -⟩ := of_decide_eq_true howned
  rw [g11_complete_action, if_pos hany]
  refine ⟨rfl, b.settle r, ?_, ht, hrid, rfl⟩
  rw [processEvent_actions]
  exact mem_updateWhere.2 ⟨b, hb, if_pos howned⟩

/-- The record says that an action is over which the tables have as pending. -/
def Completes (db : IrDb) (t : String) (r : Record) : Prop :=
  ∃ a ∈ db.actions, a.tenant_id = t ∧ a.status = .pending ∧
    ∃ state : ActionStatus, state.unsettled = false ∧ r = .completed t a.request_id state

theorem Completes.not_stands (hkeys : (db.actions.map ActionRequest.request_id).Nodup) (h : Completes db t r) :
    ¬r.stands db := by
  obtain ⟨a, ha, -, hpending, state, hstate, rfl⟩ := h
  rintro ⟨b, hb, -, hid, rfl⟩
  obtain rfl : b = a := eq_of_key hkeys hb ha hid
  rw [hpending] at hstate
  cases hstate

theorem Completes.tenant (h : Completes db t r) : r.tenant_id = t := by
  obtain ⟨a, -, -, -, state, -, rfl⟩ := h
  rfl

theorem Completes.congr (h : db'.rowsOf t = db.rowsOf t) (hr : Completes db' t r) : Completes db t r := by
  obtain ⟨a, ha, ht, hpending, state, hstate, rfl⟩ := hr
  have hmem : a ∈ (db'.rowsOf t).actions := List.mem_filter.2 ⟨ha, decide_eq_true ht⟩
  rw [h] at hmem
  exact ⟨a, (List.mem_filter.1 hmem).1, ht, hpending, state, hstate, rfl⟩

/-- What the turn of a tenant does to the session. -/
structure TurnSpec (p : IrPass) (t : String) (s s' : Session IrDb) (records : List Record) (raised : Bool) : Prop where
  kept : s.Kept s'
  raises : raised = true ↔ fails p s.view t
  own : ∀ r ∈ records, r.tenant_id = t
  stand : ∀ r ∈ records, r.stands s'.view
  quiet : ¬hasPending t s.view → records = []
  /-- A turn that does not raise records that its action is over. -/
  completes : raised = false → hasPending t s.view → ∃ r ∈ records, Completes s.view t r
  others : ∀ u, u ≠ t → s'.view.rowsOf u = s.view.rowsOf u

theorem TurnSpec.of_raised (hkept : s.Kept s') (hothers : ∀ u, u ≠ t → s'.view.rowsOf u = s.view.rowsOf u)
    (hown : ∀ r ∈ records, r.tenant_id = t) (hstand : ∀ r ∈ records, r.stands s'.view) (hfails : fails p s.view t)
    (hquiet : ¬hasPending t s.view → records = []) : TurnSpec p t s s' records true :=
  ⟨hkept, iff_of_true rfl hfails, hown, hstand, hquiet, (nomatch ·), hothers⟩

theorem TurnSpec.of_quiet (hkept : s.Kept s') (hview : s'.view = s.view) (hfails : raised = true ↔ fails p s.view t)
    (hpending : raised = false → ¬hasPending t s.view) : TurnSpec p t s s' [] raised :=
  ⟨hkept, hfails, fun _ h => absurd h List.not_mem_nil, fun _ h => absurd h List.not_mem_nil, fun _ => rfl,
    fun h h' => absurd h' (hpending h), fun u _ => by rw [hview]⟩

/-- The dispatch of a claimed action and its completion. -/
theorem dispatch_complete_spec {b : ActionRequest} {s₁ s₂ : Session IrDb} {answer : Option Bool}
    (hs : s.failed = false) (hb : b ∈ s.view.actions) (howned : isOwned t a.request_id p.executor b = true)
    (hdispatch : dispatch p t a.action_kind s = (s₁, records, result))
    (hcomplete : _call p.clock (p.faults t).completeRefused
      (fun db => some (g11_complete_action t a.request_id p.executor result db)) s₁ = (s₂, answer)) :
    s.Kept s₂ ∧ (∀ u, u ≠ t → s₂.view.rowsOf u = s.view.rowsOf u) ∧ (∀ r ∈ records, r.tenant_id = t) ∧
      (∀ r ∈ records, r.stands s₂.view) ∧ result.state.unsettled = false ∧
      ((answer = none ∧ (p.faults t).completeRefused = true) ∨ (answer = some true ∧
        (p.faults t).completeRefused = false ∧ (Record.completed t a.request_id result.state).stands s₂.view)) := by
  obtain ⟨hd, hresult⟩ := dispatch_spec hs hdispatch
  have hown : ∀ r ∈ records, r.tenant_id = t := by
    intro r hr
    obtain ⟨run, rfl⟩ := hd.enqueued r hr
    rfl
  obtain ⟨hkept, ⟨rfl, hrefused, hview⟩ | ⟨rfl, hrefused, hview⟩⟩ := call_some hd.kept.failed hcomplete
  · refine ⟨hd.kept.trans hkept, fun u hu => ?_, hown, fun r hr => ?_, hresult, Or.inl ⟨rfl, hrefused⟩⟩
    · rw [hview, hd.runs.rows hu]
    · exact hview ▸ hd.stand r hr
  · have hb₁ : b ∈ s₁.view.actions := hd.runs.actions ▸ hb
    obtain ⟨hanswer, hstands⟩ := complete_owned (r := result) hb₁ howned
    refine ⟨hd.kept.trans hkept, fun u hu => ?_, hown, fun r hr => ?_, hresult,
      Or.inr ⟨by rw [hanswer], hrefused, hview ▸ hstands⟩⟩
    · rw [hview, complete_rows hu, hd.runs.rows hu]
    · obtain ⟨run, rfl⟩ := hd.enqueued r hr
      rw [hview, Record.stands, complete_runs]
      exact hd.stand _ hr

theorem turn_spec (hs : s.failed = false) (h : _process_tenant p t s = (s', records, raised)) :
    TurnSpec p t s s' records raised := by
  rcases hnext : _call p.clock (p.faults t).nextRefused (fun db => some (g11_next_pending_action t db, db)) s
    with ⟨s₁, answer⟩
  obtain ⟨hkept, ⟨rfl, hrefused, hview⟩ | ⟨rfl, hrefused, hview⟩⟩ := call_some hs hnext
  · simp only [_process_tenant, hnext, Prod.mk.injEq] at h
    obtain ⟨rfl, rfl, rfl⟩ := h
    exact .of_quiet hkept hview (iff_of_true rfl (Or.inl hrefused)) (fun h => nomatch h)
  · cases ha : g11_next_pending_action t s.view with
    | none =>
      have hnone : ¬hasPending t s.view := by simp [hasPending, ha]
      simp only [_process_tenant, hnext, ha, Prod.mk.injEq] at h
      obtain ⟨rfl, rfl, rfl⟩ := h
      refine .of_quiet hkept hview (iff_of_false Bool.false_ne_true ?_) (fun _ => hnone)
      simp [fails, hrefused, hnone]
    | some a =>
      have hpending : hasPending t s.view := by simp [hasPending, ha]
      by_cases hcandidate : (p.faults t).candidateRaises = true
      · simp only [_process_tenant, hnext, ha, hcandidate, if_true, Prod.mk.injEq] at h
        obtain ⟨rfl, rfl, rfl⟩ := h
        exact .of_quiet hkept hview (iff_of_true rfl (Or.inr ⟨hpending, Or.inl hcandidate⟩)) (fun h => nomatch h)
      · rcases hclaim : _call p.clock (p.faults t).claimRefused
            (fun db => some (g11_claim_action p.clock t a.request_id p.executor claimSeconds db)) s₁ with ⟨s₂, answer⟩
        have ha₁ : g11_next_pending_action t s₁.view = some a := by rw [hview, ha]
        obtain ⟨htaken, b, hb, howned⟩ := claim_next p.clock claimSeconds p.executor ha₁
        obtain ⟨hkept₂, ⟨rfl, hrefused₂, hview₂⟩ | ⟨rfl, hrefused₂, hview₂⟩⟩ := call_some hkept.failed hclaim
        · simp only [_process_tenant, hnext, ha, hcandidate, hclaim, Bool.false_eq_true, if_false, Prod.mk.injEq] at h
          obtain ⟨rfl, rfl, rfl⟩ := h
          exact .of_quiet (hkept.trans hkept₂) (hview₂.trans hview)
            (iff_of_true rfl (Or.inr ⟨hpending, Or.inr (Or.inl hrefused₂)⟩)) (fun h => nomatch h)
        · rcases hdispatch : dispatch p t a.action_kind s₂ with ⟨s₃, records₃, result⟩
          rcases hcomplete : _call p.clock (p.faults t).completeRefused
              (fun db => some (g11_complete_action t a.request_id p.executor result db)) s₃ with ⟨s₄, answer⟩
          obtain ⟨hkept₄, hothers, hown, hstand, hresult, hanswer⟩ :=
            dispatch_complete_spec hkept₂.failed (hview₂ ▸ hb) howned hdispatch hcomplete
          have hkept₄ : s.Kept s₄ := (hkept.trans hkept₂).trans hkept₄
          have hothers : ∀ u, u ≠ t → s₄.view.rowsOf u = s.view.rowsOf u := by
            intro u hu
            rw [hothers u hu, hview₂, claim_rows hu, hview]
          rw [htaken] at hclaim
          obtain ⟨rfl, hrefused₄⟩ | ⟨rfl, hrefused₄, hcompleted⟩ := hanswer
          · simp only [_process_tenant, hnext, ha, hcandidate, hclaim, hdispatch, hcomplete, Bool.false_eq_true, if_false,
              Prod.mk.injEq] at h
            obtain ⟨rfl, rfl, rfl⟩ := h
            exact .of_raised hkept₄ hothers hown hstand (Or.inr ⟨hpending, Or.inr (Or.inr hrefused₄)⟩)
              (fun h => absurd hpending h)
          · simp only [_process_tenant, hnext, ha, hcandidate, hclaim, hdispatch, hcomplete, Bool.false_eq_true, if_false,
              if_true, Prod.mk.injEq] at h
            obtain ⟨rfl, rfl, rfl⟩ := h
            obtain ⟨hmem, ht, hstatus⟩ := next_mem ha
            have heither : ∀ r ∈ records₃ ++ [Record.completed t a.request_id result.state],
                r ∈ records₃ ∨ r = .completed t a.request_id result.state := by
              simp
            refine ⟨hkept₄, iff_of_false Bool.false_ne_true ?_, fun r hr => ?_, fun r hr => ?_,
              fun h => absurd hpending h, fun _ _ => ⟨_, ?_, a, hmem, ht, hstatus, _, hresult, rfl⟩, hothers⟩
            · simp [fails, hrefused, hcandidate, hrefused₂, hrefused₄]
            · exact (heither r hr).elim (hown r) fun heq => heq ▸ rfl
            · exact (heither r hr).elim (hstand r) fun heq => heq ▸ hcompleted
            · exact List.mem_append_right _ List.mem_cons_self

end JLMirror.IncidentResponse
