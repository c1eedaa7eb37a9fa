import JLMirror.Foundations.Session
import JLMirror.IncidentResponse.Actions

/-!
# A pass of the incident response worker

`workers/incident_response.py`: one connection, one query for the tenants, then for each tenant the
next action, its claim, its dispatch and its completion, each in a block `with conn.transaction()`.
The query opens a transaction that nobody ends before the loop, so the blocks are savepoints of it
until the first rollback; from then on the connection is idle and every block commits by itself.

## The model

`_call` is a call of a function in its block, over `Foundations.Session`. What fails is a parameter:
by tenant, the statements that are refused, an exception outside of the `try`, the answers of the
providers, and whether the failure takes the connection with it. A turn keeps what it recorded: the
completions that returned and the runs that were enqueued, less what its own rollback undid.

## What is proved

* `call_spec` — a call has its effect on what the session sees, and commits it if the connection was
  idle.
* `call_some` — so does a call of a function that cannot raise.

`JLMirror.IncidentResponse.Turn` says what the turn of a tenant does, `JLMirror.IncidentResponse.Isolation`
whose results a pass keeps.

## Honest scope

Other sessions do not change the rows of the pass while it runs.
-/

namespace JLMirror.IncidentResponse

open JLMirror.Foundations

/-! ### The worker -/

/-- What the adapter of the tickets does. -/
inductive TicketAnswer where
  | opened (ref : String)
  /-- `ITSM_WEBHOOK_URL` is not set. -/
  | notConfigured
  /-- It raises, whether or not the ticket was opened. -/
  | raised
  deriving DecidableEq

/-- What fails during the turn of a tenant, and what the providers answer. -/
structure TenantFaults where
  nextRefused : Bool
  /-- An exception outside of the `try`, with the candidate in hand. -/
  candidateRaises : Bool
  claimRefused : Bool
  ticket : TicketAnswer
  destinationsRefused : Bool
  /-- By destination: the message left. -/
  sent : ℕ → Bool
  policyRefused : Bool
  /-- By trigger. -/
  enqueueRefused : ℕ → Bool
  completeRefused : Bool
  /-- The failure of the turn takes the connection with it. -/
  lost : Bool
  /-- The texts of the exceptions. -/
  errorName : String
  lastError : String

/-- What a pass does not decide. -/
structure IrPass where
  clock : ℕ
  executor : String
  tenantsRefused : Bool
  faults : String → TenantFaults
  /-- `arun:{token}`, by tenant and trigger. -/
  runId : String → ℕ → String

/-- `_CLAIM_SECONDS`. -/
def claimSeconds : ℕ := 60

/-- `_call`: a function in its block; `none` is an exception. -/
def _call {α : Type} (clock : ℕ) (refused : Bool) (f : IrDb → Option (α × IrDb)) (s : Session IrDb) :
    Session IrDb × Option α :=
  let (s', raised) := s.transaction clock fun s =>
    if refused ∨ f s.view = none then (s.refuse clock, true)
    else (s.exec clock fun db => ((f db).map Prod.snd).getD db, false)
  (s', if raised then none else (f s.view).map Prod.fst)

/-- What the worker has recorded. -/
inductive Record where
  /-- `g11_complete_action` returned. -/
  | completed (tenant_id request_id : String) (state : ActionStatus)
  /-- An automation run is enqueued. -/
  | enqueued (tenant_id run_id : String)
  deriving DecidableEq

/-- The record stands in the tables. -/
def Record.stands (db : IrDb) : Record → Prop
  | .completed t rid state => ∃ a ∈ db.actions, a.tenant_id = t ∧ a.request_id = rid ∧ a.status = state
  | .enqueued t run => ∃ r ∈ db.runs, r.tenant_id = t ∧ r.run_id = run

instance (db : IrDb) (r : Record) : Decidable (r.stands db) := by
  cases r <;> unfold Record.stands <;> infer_instance

/-- `for trig in triggers`; the flag says that an exception left the loop. -/
def enqueueTriggers (p : IrPass) (t : String) : List (Option String) → ℕ → Session IrDb →
    Session IrDb × List Record × Bool
  | [], _, s => (s, [], false)
  | none :: trigs, n, s => enqueueTriggers p t trigs (n + 1) s
  | some script :: trigs, n, s =>
    if script = "" then enqueueTriggers p t trigs (n + 1) s
    else
      match _call p.clock ((p.faults t).enqueueRefused n) (g11_enqueue_automation t script (p.runId t n)) s with
      | (s, none) => (s, [], true)
      | (s, some enqueued) =>
        let (s, records, raised) := enqueueTriggers p t trigs (n + 1) s
        (s, (if enqueued then [.enqueued t (p.runId t n)] else []) ++ records, raised)

/-- The result of a dispatch that raised. -/
def dispatchError (p : IrPass) (t : String) : ActionResult :=
  ⟨.unknown, none, some ("dispatch_error:" ++ (p.faults t).errorName)⟩

/-- The `try` of `_process_tenant`. -/
def dispatch (p : IrPass) (t : String) (kind : ActionKind) (s : Session IrDb) : Session IrDb × List Record × ActionResult :=
  let f := p.faults t
  match kind with
  | .open_ticket =>
    match f.ticket with
    | .opened ref => (s, [], ⟨.linked, some ref, none⟩)
    | .notConfigured => (s, [], ⟨.skipped, none, some "itsm_not_configured"⟩)
    | .raised => (s, [], dispatchError p t)
  | .notify =>
    match _call p.clock f.destinationsRefused (fun db => some (g11_get_notify_destinations t db, db)) s with
    | (s, none) => (s, [], dispatchError p t)
    | (s, some destinations) =>
      let sent := (List.range destinations.length).countP f.sent
      if destinations = [] then (s, [], ⟨.skipped, none, some "notify_no_channels_configured"⟩)
      else if 0 < sent then
        (s, [], ⟨.linked, some ("sent:" ++ toString sent ++ "/" ++ toString destinations.length), none⟩)
      else (s, [], ⟨.failed, none, some ("notify_all_failed:" ++ f.lastError)⟩)
  | .automation =>
    match _call p.clock f.policyRefused (fun db => some (g11_get_policy t db, db)) s with
    | (s, none) => (s, [], dispatchError p t)
    | (s, some triggers) =>
      let (s, records, raised) := enqueueTriggers p t triggers 0 s
      if raised then (s, records, dispatchError p t)
      else if records ≠ [] then (s, records, ⟨.linked, some ("runs:" ++ toString records.length), none⟩)
      else (s, records, ⟨.skipped, none, some "automation_no_scripts_queued"⟩)

/-- `_process_tenant`: what it recorded, and whether it raised. -/
def _process_tenant (p : IrPass) (t : String) (s : Session IrDb) : Session IrDb × List Record × Bool :=
  let f := p.faults t
  match _call p.clock f.nextRefused (fun db => some (g11_next_pending_action t db, db)) s with
  | (s, none) => (s, [], true)
  | (s, some none) => (s, [], false)
  | (s, some (some a)) =>
    if f.candidateRaises then (s, [], true)
    else
      match _call p.clock f.claimRefused
          (fun db => some (g11_claim_action p.clock t a.request_id p.executor claimSeconds db)) s with
      | (s, none) => (s, [], true)
      | (s, some false) => (s, [], false)
      | (s, some true) =>
        let (s, records, result) := dispatch p t a.action_kind s
        match _call p.clock f.completeRefused
            (fun db => some (g11_complete_action t a.request_id p.executor result db)) s with
        | (s, none) => (s, records, true)
        | (s, some owned) =>
          (s, records ++ if owned then [.completed t a.request_id result.state] else [], false)

/-- The turn of a tenant. -/
structure Turn where
  tenant_id : String
  /-- What it recorded. -/
  records : List Record
  raised : Bool
  deriving DecidableEq

/-- `for tenant_id in tenant_ids`, and the commit after it. -/
def processTenants (p : IrPass) : List String → Session IrDb → Session IrDb × List Turn
  | [], s => (s.commit, [])
  | t :: ts, s =>
    let (s, records, raised) := _process_tenant p t s
    if raised then
      let s := s.rollback
      let turn : Turn := ⟨t, records.filter (·.stands s.view), true⟩
      if (p.faults t).lost then (s, [turn])
      else
        let (s, turns) := processTenants p ts s
        (s, turn :: turns)
    else
      let (s, turns) := processTenants p ts s
      (s, ⟨t, records, false⟩ :: turns)

/-- `_tenants`. -/
def activeTenants (db : IrDb) : List String := (db.tenants.filter (·.2)).map (·.1)

/-- `_process_pending`. -/
def _process_pending (p : IrPass) (s : Session IrDb) : Session IrDb × List Turn :=
  if p.tenantsRefused then ((s.refuse p.clock).rollback, [])
  else
    let s := s.start p.clock
    processTenants p (activeTenants s.view) s

/-! ### A call -/

/-- A call raises and leaves the session as it was, or it has its effect on what the session sees. -/
theorem call_spec {α : Type} {clock : ℕ} {refused : Bool} {f : IrDb → Option (α × IrDb)} {s s' : Session IrDb}
    {answer : Option α} (hs : s.failed = false) (h : _call clock refused f s = (s', answer)) :
    s.Kept s' ∧ ((answer = none ∧ (refused = true ∨ f s.view = none) ∧ s' = s) ∨
      ∃ a db, answer = some a ∧ refused = false ∧ f s.view = some (a, db) ∧ s'.view = db) := by
  by_cases hraise : refused = true ∨ f s.view = none
  · have hblock : (_call clock refused f s) = (s, none) := by
      rw [_call, Session.transaction_raise hs]
      · rfl
      · simp only [Session.start_view, if_pos hraise]
      · simp only [Session.start_view, if_pos hraise, Session.refuse_committed, Session.start_committed]
    obtain ⟨rfl, rfl⟩ := Prod.mk.inj (hblock.symm.trans h)
    exact ⟨.refl hs, Or.inl ⟨rfl, hraise, rfl⟩⟩
  · obtain ⟨hrefused, hsome⟩ := not_or.1 hraise
    obtain ⟨⟨a, db⟩, hf⟩ := Option.ne_none_iff_exists'.1 hsome
    obtain ⟨s₁, hblock, hkept, hview⟩ := Session.transaction_exec (c := clock)
      (w := fun db => ((f db).map Prod.snd).getD db) hs
      (b := fun s => if refused = true ∨ f s.view = none then (s.refuse clock, true)
        else (s.exec clock fun db => ((f db).map Prod.snd).getD db, false))
      (by simp only [Session.start_view, if_neg hraise, Session.exec_start])
    have hcall : _call clock refused f s = (s₁, some a) := by
      rw [_call, hblock]
      simp [hf]
    obtain ⟨rfl, rfl⟩ := Prod.mk.inj (hcall.symm.trans h)
    exact ⟨hkept, Or.inr ⟨a, db, rfl, by simpa using hrefused, hf, by simpa [hf] using hview⟩⟩

theorem call_some {α : Type} {clock : ℕ} {refused : Bool} {f : IrDb → α × IrDb} {s s' : Session IrDb}
    {answer : Option α} (hs : s.failed = false) (h : _call clock refused (fun db => some (f db)) s = (s', answer)) :
    s.Kept s' ∧ ((answer = none ∧ refused = true ∧ s'.view = s.view) ∨
      (answer = some (f s.view).1 ∧ refused = false ∧ s'.view = (f s.view).2)) := by
  obtain ⟨hkept, ⟨rfl, hraise, rfl⟩ | ⟨a, db, rfl, hrefused, hf, hview⟩⟩ := call_spec hs h
  · exact ⟨hkept, Or.inl ⟨rfl, hraise.resolve_right (by simp), rfl⟩⟩
  · have hf : f s.view = (a, db) := Option.some.inj hf
    exact ⟨hkept, Or.inr ⟨by rw [hf], hrefused, by rw [hview, hf]⟩⟩

end JLMirror.IncidentResponse
