import JLMirror.Itsm.Incidents
import Mathlib.Algebra.Group.Nat.Defs

/-!
# The synchronisation outbox of incidents

The functions of `sql/z_integration/005_g10_itsm.sql` that a worker calls to bring an incident to
the provider: the next candidate, the claim of a dispatch under a lease, its completion, the
bounded retry, and the reconciliation of a dispatch whose lease ran out.

## The model

As for the other functions a call is one transaction, with the lock of the dispatch (or of the
incident, for the retry) in its hands. `g10_next_sync_candidate` breaks ties in the order of the
table, which the source leaves open.
-/

namespace JLMirror.Itsm

open JLMirror.Foundations JLMirror.Alerting

/-- A dispatch that is done: no function changes it any more. -/
def SyncState.terminal : SyncState → Bool
  | .linked | .failed | .unknown => true
  | .pending | .dispatching | .reconciliation_required => false

/-- The row is the dispatch with the id. -/
def isDispatch (tenant_id outbox_id : String) (o : SyncOutbox) : Bool :=
  o.tenant_id = tenant_id ∧ o.sync_outbox_id = outbox_id

/-- The row is a dispatch of the incident. -/
def SyncOutbox.isFor (tenant_id incident_id : String) (o : SyncOutbox) : Bool :=
  o.tenant_id = tenant_id ∧ o.incident_id = incident_id

/-- The row is the link of the incident. -/
def ProviderLink.isFor (tenant_id incident_id : String) (l : ProviderLink) : Bool :=
  l.tenant_id = tenant_id ∧ l.incident_id = incident_id

/-! ### `g10_next_sync_candidate` -/

/-- The lease of a dispatch ran out. -/
def SyncOutbox.expired (now : ℕ) (o : SyncOutbox) : Bool :=
  match o.claim_expires_at with
  | none => false
  | some until_ => until_ ≤ now

/-- The `WHERE` of the candidate. -/
def SyncOutbox.eligible (now : ℕ) (o : SyncOutbox) : Bool :=
  (o.sync_state = .pending ∧ o.available_at ≤ now) ∨ (o.sync_state = .dispatching ∧ o.expired now)

/-- The `ORDER BY` of the candidate: `o` comes before `o'`. -/
def SyncOutbox.before (o o' : SyncOutbox) : Bool :=
  let rank := fun (x : SyncOutbox) => if x.sync_state = .dispatching then 0 else 1
  rank o < rank o' ∨ (rank o = rank o' ∧ (o.available_at < o'.available_at ∨
    (o.available_at = o'.available_at ∧ o.created_at < o'.created_at)))

/-- The first of some dispatches. -/
def firstOf : List SyncOutbox → Option SyncOutbox
  | [] => none
  | o :: os =>
    match firstOf os with
    | none => some o
    | some o' => if o'.before o then some o' else some o

/-- The dispatches that the candidate is chosen from: the `JOIN` and the `WHERE` of the query. -/
def syncCandidates (now : ℕ) (tenant_id : String) (db : ItsmDb) : List SyncOutbox :=
  db.outbox.filter fun o => decide (o.tenant_id = tenant_id) && o.eligible now &&
    db.incidents.any (isIncident tenant_id o.incident_id)

/-- `itsm.g10_next_sync_candidate`. -/
def g10_next_sync_candidate (now : ℕ) (tenant_id : String) (db : ItsmDb) : Option SyncOutbox :=
  firstOf (syncCandidates now tenant_id db)

variable {rows : List SyncOutbox}

theorem firstOf_none (h : firstOf rows = none) : rows = [] := by
  cases rows with
  | nil => rfl
  | cons o os =>
    simp only [firstOf] at h
    split at h
    · cases h
    · split_ifs at h

variable {o : SyncOutbox}

/-- The first of some dispatches is one of them. -/
theorem firstOf_mem (h : firstOf rows = some o) : o ∈ rows := by
  induction rows generalizing o with
  | nil => cases h
  | cons x xs ih =>
    simp only [firstOf] at h
    split at h
    · obtain rfl := Option.some.inj h
      exact List.mem_cons_self
    · rename_i y hy
      split_ifs at h
      · exact List.mem_cons_of_mem _ (Option.some.inj h ▸ ih hy)
      · exact Option.some.inj h ▸ List.mem_cons_self

/-- An `UPDATE` of the dispatch with the id. -/
def ItsmDb.setDispatch (tenant_id outbox_id : String) (f : SyncOutbox → SyncOutbox) (db : ItsmDb) : ItsmDb :=
  { db with outbox := updateWhere (isDispatch tenant_id outbox_id) f db.outbox }

variable {t oid : String} {db : ItsmDb}

theorem find_dispatch (h : db.outbox.find? (isDispatch t oid) = some o) : o ∈ db.outbox ∧ isDispatch t oid o = true :=
  ⟨List.mem_of_find?_eq_some h, List.find?_some h⟩

/-! ### `g10_claim_sync` -/

/-- What a claim or a completion returns. -/
structure SyncReply where
  state : SyncState
  duplicate : Bool
  deriving DecidableEq

/-- The lease ran out: nobody knows what became of the dispatch. -/
def SyncOutbox.putAside (o : SyncOutbox) : SyncOutbox :=
  { o with sync_state := .reconciliation_required, executor_id := none, claim_expires_at := none }

/-- The dispatch under a lease. -/
def SyncOutbox.claimBy (executor_id : String) (expires_at : ℕ) (o : SyncOutbox) : SyncOutbox :=
  { o with sync_state := .dispatching, executor_id := some executor_id, claim_expires_at := some expires_at }

/-- `itsm.g10_claim_sync`: a pending dispatch is taken, one whose lease ran out is put aside. -/
def g10_claim_sync (now : ℕ) (tenant_id outbox_id executor_id : String) (claim_seconds : ℤ) (db : ItsmDb) :
    Except G10Error (SyncReply × ItsmDb) := do
  require (decide (executor_id ≠ "" ∧ 1 ≤ claim_seconds ∧ claim_seconds ≤ 300)) .sync_claim_input_invalid
  match db.outbox.find? (isDispatch tenant_id outbox_id) with
  | none => .error .sync_outbox_missing
  | some o =>
    if o.sync_state = .dispatching ∧ o.expired now then
      return (⟨.reconciliation_required, false⟩, db.setDispatch tenant_id outbox_id SyncOutbox.putAside)
    else if o.sync_state ≠ .pending then return (⟨o.sync_state, true⟩, db)
    else
      return (⟨.dispatching, false⟩,
        db.setDispatch tenant_id outbox_id (SyncOutbox.claimBy executor_id (now + claim_seconds.toNat)))

variable {now : ℕ} {db' : ItsmDb}

theorem g10_claim_sync_ok {executor : String} {seconds : ℤ} {r : SyncReply}
    (h : g10_claim_sync now t oid executor seconds db = .ok (r, db')) :
    ∃ o, db.outbox.find? (isDispatch t oid) = some o ∧
      ((o.sync_state = .dispatching ∧ r = ⟨.reconciliation_required, false⟩ ∧
          db' = db.setDispatch t oid SyncOutbox.putAside) ∨
        (r = ⟨o.sync_state, true⟩ ∧ db' = db) ∨
        (o.sync_state = .pending ∧ r = ⟨.dispatching, false⟩ ∧
          db' = db.setDispatch t oid (SyncOutbox.claimBy executor (now + seconds.toNat)))) := by
  obtain ⟨_, -, h⟩ := bind_ok_iff.1 h
  cases hfind : db.outbox.find? (isDispatch t oid) with
  | none => simp [hfind] at h
  | some o =>
    simp only [hfind] at h
    refine ⟨o, rfl, ?_⟩
    split_ifs at h with hexpired hpending
    · obtain ⟨rfl, rfl⟩ := Prod.mk.inj (Except.ok.inj h)
      exact Or.inl ⟨hexpired.1, rfl, rfl⟩
    · obtain ⟨rfl, rfl⟩ := Prod.mk.inj (Except.ok.inj h)
      exact Or.inr (Or.inl ⟨rfl, rfl⟩)
    · obtain ⟨rfl, rfl⟩ := Prod.mk.inj (Except.ok.inj h)
      exact Or.inr (Or.inr ⟨not_not.1 hpending, rfl, rfl⟩)

/-! ### `g10_complete_sync` -/

/-- A link breaks a unique key. -/
def ProviderLink.clashes (row l : ProviderLink) : Bool :=
  l.tenant_id = row.tenant_id ∧ (l.provider_link_id = row.provider_link_id ∨ l.incident_id = row.incident_id ∨
    (l.adapter_instance_ref = row.adapter_instance_ref ∧ l.provider_ticket_ref = row.provider_ticket_ref))

/-- The links after a completion as `linked`: that of the incident is kept if it is the same. -/
def linkIncident (md5 : String → String) (tenant_id : String) (o : SyncOutbox) (ticket : String)
    (links : List ProviderLink) : Except G10Error (List ProviderLink) :=
  if links.any (ProviderLink.isFor tenant_id o.incident_id) then
    if links.any fun l => l.isFor tenant_id o.incident_id ∧ l.adapter_instance_ref = o.adapter_instance_ref ∧
        l.provider_ticket_ref = ticket then .ok links
    else .error .provider_link_equivalence_conflict
  else
    let row : ProviderLink :=
      ⟨tenant_id, "g10-provider-link:" ++ md5 (tenant_id ++ unitSeparator ++ o.incident_id), o.incident_id,
        o.adapter_instance_ref, ticket⟩
    insertUnless row.clashes .unique_violation row links

variable {md5 : String → String}

theorem linkIncident_ok {ticket : String} {links links' : List ProviderLink}
    (h : linkIncident md5 t o ticket links = .ok links') :
    (links' = links ∧ ∃ l ∈ links, l.isFor t o.incident_id = true) ∨
      ((∀ l ∈ links, l.isFor t o.incident_id = false) ∧
        ∃ row : ProviderLink, row.isFor t o.incident_id = true ∧ links' = links ++ [row]) := by
  unfold linkIncident at h
  split_ifs at h with hany hsame
  · obtain rfl := Except.ok.inj h
    exact Or.inl ⟨rfl, List.any_eq_true.1 hany⟩
  · obtain ⟨-, rfl⟩ := insertUnless_ok_iff.1 h
    refine Or.inr ⟨fun l hl => ?_, _, ?_, rfl⟩
    · by_contra hne
      exact hany (List.any_eq_true.2 ⟨l, hl, by simpa using hne⟩)
    · exact decide_eq_true ⟨rfl, rfl⟩

/-- The end of a dispatch. -/
def SyncOutbox.completeAs (result_state : SyncState) (failure_class : Option String) (o : SyncOutbox) : SyncOutbox :=
  { o with sync_state := result_state, executor_id := none, claim_expires_at := none, last_failure_class := failure_class }

/-- `itsm.g10_complete_sync`. -/
def g10_complete_sync (md5 : String → String) (now : ℕ) (tenant_id outbox_id executor_id : String)
    (result_state : SyncState) (provider_ticket_ref failure_class : Option String) (db : ItsmDb) :
    Except G10Error (SyncReply × ItsmDb) := do
  require result_state.terminal .sync_result_invalid
  match db.outbox.find? (isDispatch tenant_id outbox_id) with
  | none => .error .sync_outbox_missing
  | some o =>
    if o.sync_state.terminal then
      require (decide (o.sync_state = result_state ∧ o.last_failure_class = failure_class))
        .sync_completion_equivalence_conflict
      require (decide (result_state ≠ .linked) || db.links.any fun l =>
        l.isFor tenant_id o.incident_id ∧ some l.provider_ticket_ref = provider_ticket_ref)
        .sync_completion_equivalence_conflict
      return (⟨o.sync_state, true⟩, db)
    else
      require (decide (o.sync_state = .dispatching ∧ o.executor_id = some executor_id ∧ o.expired now = false))
        .sync_claim_lost
      let links ← if result_state = .linked then do
          require (decide (provider_ticket_ref.getD "" ≠ "")) .provider_ticket_ref_required
          linkIncident md5 tenant_id o (provider_ticket_ref.getD "") db.links
        else .ok db.links
      return (⟨result_state, false⟩,
        { db.setDispatch tenant_id outbox_id (SyncOutbox.completeAs result_state failure_class) with links })

theorem g10_complete_sync_ok {executor : String} {result : SyncState} {ticket failure : Option String} {r : SyncReply}
    (h : g10_complete_sync md5 now t oid executor result ticket failure db = .ok (r, db')) :
    result.terminal = true ∧ ∃ o, db.outbox.find? (isDispatch t oid) = some o ∧
      ((o.sync_state = result ∧ r = ⟨result, true⟩ ∧ db' = db) ∨
        (o.sync_state = .dispatching ∧ r = ⟨result, false⟩ ∧ ∃ links,
          db' = { db.setDispatch t oid (SyncOutbox.completeAs result failure) with links } ∧
            ((result ≠ .linked ∧ links = db.links) ∨
              (result = .linked ∧ linkIncident md5 t o (ticket.getD "") db.links = .ok links)))) := by
  obtain ⟨_, hresult, h⟩ := bind_ok_iff.1 h
  refine ⟨require_ok_iff.1 hresult, ?_⟩
  cases hfind : db.outbox.find? (isDispatch t oid) with
  | none => simp [hfind] at h
  | some o =>
    simp only [hfind] at h
    refine ⟨o, rfl, ?_⟩
    split_ifs at h with hdone hlinked
    · obtain ⟨_, hsame, h⟩ := bind_ok_iff.1 h
      obtain ⟨_, -, h⟩ := bind_ok_iff.1 h
      obtain ⟨rfl, rfl⟩ := Prod.mk.inj (Except.ok.inj h)
      obtain ⟨rfl, -⟩ := of_decide_eq_true (require_ok_iff.1 hsame)
      exact Or.inl ⟨rfl, rfl, rfl⟩
    · obtain ⟨_, hclaim, h⟩ := bind_ok_iff.1 h
      obtain ⟨_, -, h⟩ := bind_ok_iff.1 h
      obtain ⟨links, hlinks, h⟩ := bind_ok_iff.1 h
      obtain ⟨rfl, rfl⟩ := Prod.mk.inj (Except.ok.inj h)
      exact Or.inr ⟨(of_decide_eq_true (require_ok_iff.1 hclaim)).1, rfl, links, rfl, Or.inr ⟨hlinked, hlinks⟩⟩
    · obtain ⟨_, hclaim, h⟩ := bind_ok_iff.1 h
      obtain ⟨links, hlinks, h⟩ := bind_ok_iff.1 h
      obtain rfl := Except.ok.inj hlinks
      obtain ⟨rfl, rfl⟩ := Prod.mk.inj (Except.ok.inj h)
      exact Or.inr ⟨(of_decide_eq_true (require_ok_iff.1 hclaim)).1, rfl, _, rfl, Or.inl ⟨hlinked, rfl⟩⟩

/-! ### `g10_schedule_sync_retry` and `g10_reconcile_sync` -/

/-- The dispatch with the highest attempt number. -/
def lastAttempt : List SyncOutbox → Option SyncOutbox
  | [] => none
  | o :: os =>
    match lastAttempt os with
    | none => some o
    | some o' => if o.attempt_number < o'.attempt_number then some o' else some o

/-- Why no retry is scheduled, or that one is. -/
inductive RetryReply where
  | provider_already_linked
  | retry_not_required
  | retry_budget_exhausted
  | scheduled (sync_outbox_id : String) (attempt_number : ℕ)
  deriving DecidableEq

/-- The dispatch of the next attempt. -/
def nextDispatch (md5 : String → String) (now : ℕ) (tenant_id incident_id : String) (last : SyncOutbox) : SyncOutbox where
  tenant_id := tenant_id
  sync_outbox_id := syncId md5 tenant_id incident_id (last.attempt_number + 1)
  incident_id := incident_id
  sync_state := .pending
  attempt_number := last.attempt_number + 1
  adapter_instance_ref := last.adapter_instance_ref
  sync_identity := last.sync_identity
  executor_id := none
  claim_expires_at := none
  available_at := now + min 300 (5 * 2 ^ last.attempt_number)
  last_failure_class := none
  created_at := now

/-- The dispatches of an incident. -/
def attemptsOf (tenant_id incident_id : String) (db : ItsmDb) : List SyncOutbox :=
  db.outbox.filter (SyncOutbox.isFor tenant_id incident_id)

/-- `itsm.g10_schedule_sync_retry`. -/
def g10_schedule_sync_retry (md5 : String → String) (now : ℕ) (tenant_id incident_id : String) (db : ItsmDb) :
    Except G10Error (RetryReply × ItsmDb) :=
  match lastAttempt (attemptsOf tenant_id incident_id db) with
  | none => .error .sync_outbox_missing
  | some last =>
    if db.links.any (ProviderLink.isFor tenant_id incident_id) then .ok (.provider_already_linked, db)
    else if last.sync_state ≠ .failed ∧ last.sync_state ≠ .unknown then .ok (.retry_not_required, db)
    else if 3 ≤ last.attempt_number then .ok (.retry_budget_exhausted, db)
    else
      let row := nextDispatch md5 now tenant_id incident_id last
      let reply := RetryReply.scheduled row.sync_outbox_id row.attempt_number
      -- `ON CONFLICT (tenant_id,incident_id,attempt_number) DO NOTHING`
      if (attemptsOf tenant_id incident_id db).any fun o => o.attempt_number = row.attempt_number then .ok (reply, db)
      else do
        let outbox ← insertUnless row.clashes .unique_violation row db.outbox
        return (reply, { db with outbox })

/-- A retry that succeeds leaves the tables as they are, or adds the next attempt. -/
theorem g10_schedule_sync_retry_ok {inc : String} {r : RetryReply}
    (h : g10_schedule_sync_retry md5 now t inc db = .ok (r, db')) :
    db' = db ∨ ∃ last, lastAttempt (attemptsOf t inc db) = some last ∧
      (∀ l ∈ db.links, l.isFor t inc = false) ∧ (last.sync_state = .failed ∨ last.sync_state = .unknown) ∧
      last.attempt_number < 3 ∧ (∀ o ∈ db.outbox, (nextDispatch md5 now t inc last).clashes o = false) ∧
      db' = { db with outbox := db.outbox ++ [nextDispatch md5 now t inc last] } := by
  unfold g10_schedule_sync_retry at h
  cases hlast : lastAttempt (attemptsOf t inc db) with
  | none => simp [hlast] at h
  | some last =>
    simp only [hlast] at h
    split_ifs at h with hlinked hstate hbudget hconflict
    · exact Or.inl (Prod.mk.inj (Except.ok.inj h)).2.symm
    · exact Or.inl (Prod.mk.inj (Except.ok.inj h)).2.symm
    · exact Or.inl (Prod.mk.inj (Except.ok.inj h)).2.symm
    · exact Or.inl (Prod.mk.inj (Except.ok.inj h)).2.symm
    · obtain ⟨outbox, houtbox, h⟩ := bind_ok_iff.1 h
      obtain ⟨hclash, rfl⟩ := insertUnless_ok_iff.1 houtbox
      refine Or.inr ⟨last, rfl, fun l hl => ?_, ?_, by omega, hclash, (Prod.mk.inj (Except.ok.inj h)).2.symm⟩
      · by_contra hne
        exact hlinked (List.any_eq_true.2 ⟨l, hl, by simpa using hne⟩)
      · by_contra hne
        exact hstate (not_or.1 hne)

/-- Nobody knows what became of the dispatch. -/
def SyncOutbox.reconcile (o : SyncOutbox) : SyncOutbox :=
  { o with sync_state := .unknown, last_failure_class := some "lease_expired_outcome_unknown" }

/-- `itsm.g10_reconcile_sync`: whether it changed the dispatch, and its state. -/
def g10_reconcile_sync (tenant_id outbox_id : String) (db : ItsmDb) : Except G10Error ((Bool × SyncState) × ItsmDb) :=
  match db.outbox.find? (isDispatch tenant_id outbox_id) with
  | none => .error .sync_outbox_missing
  | some o =>
    if o.sync_state ≠ .reconciliation_required then .ok ((false, o.sync_state), db)
    else .ok ((true, .unknown), db.setDispatch tenant_id outbox_id SyncOutbox.reconcile)

theorem g10_reconcile_sync_ok {r : Bool × SyncState} (h : g10_reconcile_sync t oid db = .ok (r, db')) :
    ∃ o, db.outbox.find? (isDispatch t oid) = some o ∧
      ((o.sync_state ≠ .reconciliation_required ∧ db' = db) ∨
        (o.sync_state = .reconciliation_required ∧ db' = db.setDispatch t oid SyncOutbox.reconcile)) := by
  unfold g10_reconcile_sync at h
  cases hfind : db.outbox.find? (isDispatch t oid) with
  | none => simp [hfind] at h
  | some o =>
    simp only [hfind] at h
    refine ⟨o, rfl, ?_⟩
    split_ifs at h with hstate
    · exact Or.inl ⟨hstate, (Prod.mk.inj (Except.ok.inj h)).2.symm⟩
    · exact Or.inr ⟨not_not.1 hstate, (Prod.mk.inj (Except.ok.inj h)).2.symm⟩

/-! ### The system -/

/-- A call of a function, or what other programs do to the alerts. -/
inductive ItsmAction where
  | create (now : ℕ) (tenant_id : String) (c : IncidentContent) (logical_action_id : String) (snapshot : AuthoritySnapshot)
  | transition (tenant_id incident_id target_state actor_principal_id logical_action_id : String)
      (snapshot : AuthoritySnapshot)
  | assign (now : ℕ) (tenant_id incident_id assignee_principal_id actor_principal_id logical_action_id : String)
      (snapshot : AuthoritySnapshot)
  | claim (now : ℕ) (tenant_id outbox_id executor_id : String) (claim_seconds : ℤ)
  | complete (now : ℕ) (tenant_id outbox_id executor_id : String) (result_state : SyncState)
      (provider_ticket_ref failure_class : Option String)
  | retry (now : ℕ) (tenant_id incident_id : String)
  | reconcile (tenant_id outbox_id : String)
  | alerts (alerts : List AlertLifecycle)

/-- The tables after a call: as they were if it raised. -/
def ItsmDb.after {α : Type} (db : ItsmDb) : Except G10Error (α × ItsmDb) → ItsmDb
  | .error _ => db
  | .ok (_, db') => db'

/-- The effect of an action. -/
def ItsmDb.step (md5 : String → String) (db : ItsmDb) : ItsmAction → ItsmDb
  | .create now t c la snapshot => db.after (g10_create_incident md5 now t c la snapshot db)
  | .transition t i target actor la snapshot => db.after (g10_transition_incident md5 t i target actor la snapshot db)
  | .assign now t i assignee actor la snapshot => db.after (g10_assign_incident md5 now t i assignee actor la snapshot db)
  | .claim now t o executor seconds => db.after (g10_claim_sync now t o executor seconds db)
  | .complete now t o executor result ticket failure =>
    db.after (g10_complete_sync md5 now t o executor result ticket failure db)
  | .retry now t i => db.after (g10_schedule_sync_retry md5 now t i db)
  | .reconcile t o => db.after (g10_reconcile_sync t o db)
  | .alerts alerts => { db with alerts }

/-- The tables after a run from the start. -/
def ItsmDb.exec (md5 : String → String) (run : List ItsmAction) : ItsmDb := run.foldl (ItsmDb.step md5) .empty

end JLMirror.Itsm
