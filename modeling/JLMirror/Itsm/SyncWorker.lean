import JLMirror.Itsm.Attempts
import Mathlib.Logic.Function.Iterate

/-!
# The synchronisation worker

`workers/itsm_sync.py`: for each tenant a worker looks for a candidate, claims it, asks the provider
and completes the dispatch, or reconciles one whose lease ran out, and schedules the retry. Every call
is a transaction of its own, and a worker can be gone before any of them.

## The model

A worker is the point of `_sync_tenant` it has come to (`SyncPc`). A step is one transaction of one
worker at some time, a crash, or a call of the API; any number of workers run. An exception ends
`_sync_tenant`, as a crash does. The answer of the provider is a parameter of the completion.

## What is proved

* `pass_offers` — a dispatch that the candidate query selects is returned by it once the worker's
  passes have come to it.

`JLMirror.Itsm.SyncProgress` says when every incident keeps a way forward.
-/

namespace JLMirror.Itsm

open JLMirror.Foundations JLMirror.Alerting

/-! ### The worker -/

/-- `_CLAIM_SECONDS`. -/
def claimSeconds : ℤ := 60

/-- `itsm-worker-{token}`. -/
def executorName (token : String) : String := "itsm-worker-" ++ token

theorem executorName_ne (token : String) : executorName token ≠ "" := by
  intro h
  have := congrArg String.length h
  simp [executorName] at this

/-- How far a worker has come with a dispatch of a tenant. -/
inductive SyncPc where
  | idle
  /-- It has the candidate. -/
  | claiming (tenant_id outbox_id incident_id executor_id : String)
  /-- It asks the provider. -/
  | calling (tenant_id outbox_id incident_id executor_id : String)
  /-- The claim said that the lease ran out. -/
  | reconciling (tenant_id outbox_id incident_id : String)
  /-- The attempt is over, the retry is next. -/
  | retrying (tenant_id incident_id : String)
  deriving DecidableEq

/-- The tables and the workers. -/
structure SyncWorld where
  db : ItsmDb
  pc : ℕ → SyncPc

/-- No incident, and no worker at work. -/
def SyncWorld.init : SyncWorld := ⟨.empty, fun _ => .idle⟩

/-- A worker comes to a point, and leaves the tables so. -/
def SyncWorld.goto (s : SyncWorld) (w : ℕ) (pc : SyncPc) (db : ItsmDb) : SyncWorld :=
  ⟨db, Function.update s.pc w pc⟩

@[simp] theorem SyncWorld.goto_db (s : SyncWorld) (w : ℕ) (pc : SyncPc) (db : ItsmDb) : (s.goto w pc db).db = db := rfl

@[simp] theorem SyncWorld.goto_self (s : SyncWorld) (w : ℕ) (pc : SyncPc) (db : ItsmDb) : (s.goto w pc db).pc w = pc :=
  Function.update_self ..

theorem SyncWorld.goto_other (s : SyncWorld) {w w' : ℕ} (h : w' ≠ w) (pc : SyncPc) (db : ItsmDb) :
    (s.goto w pc db).pc w' = s.pc w' := Function.update_of_ne h ..

/-- A step of the system. -/
inductive SyncAct where
  /-- A call of the API, or what becomes of the alerts. -/
  | api (a : ItsmAction)
  /-- A worker without work looks for a candidate. -/
  | next (w now : ℕ) (tenant_id token : String)
  | claim (w now : ℕ)
  /-- The provider has answered. -/
  | complete (w now : ℕ) (result_state : SyncState) (provider_ticket_ref failure_class : Option String)
  | reconcile (w : ℕ)
  | retry (w now : ℕ)
  | crash (w : ℕ)

/-- The functions that the API may call. -/
def ItsmAction.ofApi : ItsmAction → Bool
  | .create .. | .transition .. | .assign .. | .alerts .. => true
  | .claim .. | .complete .. | .retry .. | .reconcile .. => false

/-- The state that the worker reports, when the provider's is none of the three. -/
def reported (result_state : SyncState) : SyncState := if result_state.terminal then result_state else .unknown

/-- Where the answer of the claim leads. -/
def afterClaim (t oid inc executor : String) : SyncState → SyncPc
  | .reconciliation_required => .reconciling t oid inc
  | .dispatching => .calling t oid inc executor
  | .pending | .linked | .failed | .unknown => .idle

/-- Where a completion leads. -/
def afterComplete (t inc : String) : SyncState → SyncPc
  | .failed | .unknown => .retrying t inc
  | .pending | .dispatching | .linked | .reconciliation_required => .idle

/-- A step: nothing happens if the worker is at another point. -/
def SyncWorld.step (md5 : String → String) (s : SyncWorld) : SyncAct → SyncWorld
  | .api a => if a.ofApi then { s with db := s.db.step md5 a } else s
  | .next w now t token =>
    match s.pc w, g10_next_sync_candidate now t s.db with
    | .idle, some o => s.goto w (.claiming t o.sync_outbox_id o.incident_id (executorName token)) s.db
    | _, _ => s
  | .claim w now =>
    match s.pc w with
    | .claiming t oid inc executor =>
      match g10_claim_sync now t oid executor claimSeconds s.db with
      | .ok (r, db) => s.goto w (afterClaim t oid inc executor r.state) db
      | .error _ => s.goto w .idle s.db
    | _ => s
  | .complete w now result ticket failure =>
    match s.pc w with
    | .calling t oid inc executor =>
      match g10_complete_sync md5 now t oid executor (reported result) ticket failure s.db with
      | .ok (_, db) => s.goto w (afterComplete t inc (reported result)) db
      | .error _ => s.goto w .idle s.db
    | _ => s
  | .reconcile w =>
    match s.pc w with
    | .reconciling t oid inc =>
      match g10_reconcile_sync t oid s.db with
      | .ok (_, db) => s.goto w (.retrying t inc) db
      | .error _ => s.goto w .idle s.db
    | _ => s
  | .retry w now =>
    match s.pc w with
    | .retrying t inc => s.goto w .idle (s.db.after (g10_schedule_sync_retry md5 now t inc s.db))
    | _ => s
  | .crash w => s.goto w .idle s.db

/-- The world after a run from the start. -/
def SyncWorld.exec (md5 : String → String) (run : List SyncAct) : SyncWorld := run.foldl (SyncWorld.step md5) .init

/-- The step is a transaction of the worker. -/
def SyncAct.isOf (w : ℕ) : SyncAct → Prop
  | .next w' .. | .claim w' _ | .complete w' .. | .reconcile w' | .retry w' _ => w' = w
  | .api _ | .crash _ => False

/-! ### The passes come to every candidate -/

/-- A worker takes the candidate of a tenant. -/
def pass (now : ℕ) (tenant_id executor_id : String) (db : ItsmDb) : ItsmDb :=
  match g10_next_sync_candidate now tenant_id db with
  | none => db
  | some o => db.after (g10_claim_sync now tenant_id o.sync_outbox_id executor_id claimSeconds db)

/-- What an update takes out of a selection. -/
theorem filter_updateWhere_drop {α : Type} {p q : α → Bool} {f : α → α} {rows : List α}
    (h : ∀ r ∈ rows, p r = true → q (f r) = false) :
    (updateWhere p f rows).filter q = (rows.filter q).filter fun r => !p r := by
  induction rows with
  | nil => rfl
  | cons r rows ih =>
    have ih := ih fun r' hr' => h r' (List.mem_cons_of_mem r hr')
    rw [updateWhere_cons]
    cases hp : p r with
    | true => cases hq : q r <;> simp [hp, hq, ih, h r List.mem_cons_self hp]
    | false => cases hq : q r <;> simp [hp, hq, ih]

variable {now : ℕ} {t : String} {db : ItsmDb} {o : SyncOutbox}

theorem mem_syncCandidates :
    o ∈ syncCandidates now t db ↔ o ∈ db.outbox ∧ o.tenant_id = t ∧ o.eligible now = true ∧
      ∃ i ∈ db.incidents, i.key = o.owner := by
  simp only [syncCandidates, List.mem_filter, Bool.and_eq_true, decide_eq_true_eq, List.any_eq_true, isIncident_iff]
  constructor
  · rintro ⟨ho, ⟨rfl, hel⟩, i, hi, ht, hinc⟩
    exact ⟨ho, rfl, hel, i, hi, Prod.ext ht hinc⟩
  · rintro ⟨ho, rfl, hel, i, hi, hkey⟩
    obtain ⟨ht, hinc⟩ := Prod.mk.inj hkey
    exact ⟨ho, ⟨rfl, hel⟩, i, hi, ht, hinc⟩

variable {executor : String}

/-- A candidate that is claimed is an update after which it is none. -/
theorem claim_candidate (hexecutor : executor ≠ "") (hids : (db.outbox.map SyncOutbox.key).Nodup)
    (ho : o ∈ syncCandidates now t db) :
    ∃ (f : SyncOutbox → SyncOutbox) (r : SyncReply), (∀ x, (f x).identity = x.identity) ∧ (f o).eligible now = false ∧
      g10_claim_sync now t o.sync_outbox_id executor claimSeconds db =
        .ok (r, db.setDispatch t o.sync_outbox_id f) := by
  obtain ⟨hmem, ht, heligible, -⟩ := mem_syncCandidates.1 ho
  have hfind : db.outbox.find? (isDispatch t o.sync_outbox_id) = some o := by
    have hkey : o.key = (t, o.sync_outbox_id) := Prod.ext ht rfl
    rw [find?_of_key (p := isDispatch t o.sync_outbox_id) hids hmem fun x hx => (isDispatch_iff.1 hx).trans hkey.symm,
      if_pos (isDispatch_iff.2 hkey)]
  have hinput : decide (executor ≠ "" ∧ 1 ≤ claimSeconds ∧ claimSeconds ≤ 300) = true :=
    decide_eq_true ⟨hexecutor, by decide, by decide⟩
  unfold g10_claim_sync
  simp only [hinput, hfind]
  have heligible : (o.sync_state = .pending ∧ o.available_at ≤ now) ∨ (o.sync_state = .dispatching ∧ o.expired now) := by
    simpa [SyncOutbox.eligible] using heligible
  by_cases hexpired : o.sync_state = .dispatching ∧ o.expired now = true
  · refine ⟨SyncOutbox.putAside, ⟨.reconciliation_required, false⟩, fun _ => rfl, ?_, ?_⟩
    · simp [SyncOutbox.putAside, SyncOutbox.eligible]
    · rw [if_pos hexpired]
      rfl
  · have hpending : o.sync_state = .pending := (heligible.resolve_right hexpired).1
    refine ⟨SyncOutbox.claimBy executor (now + claimSeconds.toNat), ⟨.dispatching, false⟩, fun _ => rfl, ?_, ?_⟩
    · simp [SyncOutbox.claimBy, SyncOutbox.eligible, SyncOutbox.expired, claimSeconds]
    · rw [if_neg hexpired, if_neg (not_not.2 hpending)]
      rfl

/-- A pass takes its candidate out of the selection, and nothing else. -/
theorem pass_candidates (hexecutor : executor ≠ "") {c : SyncOutbox} (hids : (db.outbox.map SyncOutbox.key).Nodup)
    (hc : g10_next_sync_candidate now t db = some c) :
    ((pass now t executor db).outbox.map SyncOutbox.key).Nodup ∧
      syncCandidates now t (pass now t executor db) =
        (syncCandidates now t db).filter fun o => !isDispatch t c.sync_outbox_id o := by
  have hmem := firstOf_mem hc
  obtain ⟨f, r, hf, heligible, hclaim⟩ := claim_candidate hexecutor hids hmem
  have hpass : pass now t executor db = db.setDispatch t c.sync_outbox_id f := by
    rw [pass, hc]
    simp only [hclaim, ItsmDb.after]
  rw [hpass]
  constructor
  · have hkeys : (updateWhere (isDispatch t c.sync_outbox_id) f db.outbox).map SyncOutbox.key =
        db.outbox.map SyncOutbox.key :=
      map_updateWhere (k := SyncOutbox.key) (fun x => congrArg (fun k => k.1) (hf x)) db.outbox
    exact hkeys ▸ hids
  · refine filter_updateWhere_drop fun x hx his => ?_
    obtain ⟨hcmem, hct, -⟩ := mem_syncCandidates.1 hmem
    obtain rfl : x = c := eq_of_key hids hx hcmem ((isDispatch_iff.1 his).trans (Prod.ext hct.symm rfl))
    rw [heligible, Bool.and_false, Bool.false_and]

/-- What the query selects is returned by it, once the passes have come to it. -/
theorem pass_offers (hexecutor : executor ≠ "") (hids : (db.outbox.map SyncOutbox.key).Nodup)
    (ho : o ∈ syncCandidates now t db) :
    ∃ k, g10_next_sync_candidate now t ((pass now t executor)^[k] db) = some o := by
  induction hn : (syncCandidates now t db).length using Nat.strongRecOn generalizing db with
  | ind n ih =>
    cases hc : g10_next_sync_candidate now t db with
    | none =>
      rw [firstOf_none hc] at ho
      cases ho
    | some c =>
      by_cases hsame : c = o
      · exact ⟨0, hsame ▸ hc⟩
      · obtain ⟨hids', hrest⟩ := pass_candidates hexecutor hids hc
        obtain ⟨hcmem, hct, -⟩ := mem_syncCandidates.1 (firstOf_mem hc)
        have hother : isDispatch t c.sync_outbox_id o = false := by
          refine Bool.eq_false_iff.2 fun his => hsame ?_
          exact (eq_of_key hids (mem_syncCandidates.1 ho).1 hcmem ((isDispatch_iff.1 his).trans (Prod.ext hct.symm rfl))).symm
        have hmem : o ∈ syncCandidates now t (pass now t executor db) := by
          rw [hrest]
          exact List.mem_filter.2 ⟨ho, by simp [hother]⟩
        have hshorter : (syncCandidates now t (pass now t executor db)).length < n := by
          rw [hrest, ← hn]
          refine List.length_filter_lt_length_iff_exists.2 ⟨c, firstOf_mem hc, ?_⟩
          simp [isDispatch, hct]
        obtain ⟨k, hk⟩ := ih _ hshorter hids' hmem rfl
        exact ⟨k + 1, hk⟩

end JLMirror.Itsm
