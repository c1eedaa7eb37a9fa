import JLMirror.Automation.Runner
import JLMirror.Foundations.Run

/-!
# The hourly metering

`workers/finops.py`: once an hour a pass lists the tenants, and for each computes five meters, and inserts a row of
`g1.usage_meters` and submits the usage to the billing adapter for each of them, in one transaction for the tenant.

## The model

* One worker, somewhere in a pass. A step is one statement, one submission or the `COMMIT`; the answers of the queries
  come with it, and so does that of the adapter, which may be a `BillingError`.
* `fail` is any other exception. It rolls the transaction of a tenant back, and the pass goes on with the next one; `lost`
  is the end of the connection, and `restart` that of the process, with what it had in memory.
* `now()` is the start of the transaction, which the first statement opens. The clock of the process and that of the
  database are two.
* `submitted`, `logged` and `ended` are ghosts: what the adapter has taken, what it has refused with a `BillingError`, and
  the passes that came to their end, each with the tenants that there were.

## What is proved

* `committed_attempted`: a committed row was submitted, or its error logged, with its tenant, meter, quantity and
  contract.
* `quiet_step`, `quiet_foldl`: which steps meter something, and that a run without one leaves no usage.
* **Key result** (`ledger_agrees_iff`): the ledger and the provider agree after no other run. A row has the hour before
  its transaction as its window, and the submission the part of the hour of the clock that is over.
* `half_past`: a pass of one tenant, at half past ten.

## Honest scope

Quantities are whole numbers, as the queries count. A `COMMIT` that fails has not committed.
-/

namespace JLMirror.Billing

open JLMirror.Foundations JLMirror.Automation

/-! ### The tables and the passes -/

/-- A usage, as the ledger and the provider have it. -/
structure Usage where
  tenant_id : String
  meter : String
  quantity : ℕ
  window_start : ℤ
  window_end : ℤ
  deriving DecidableEq

/-- `g1.usage_meters`, with the number of its pass. -/
structure UsageMeter extends Usage where
  usage_id : String
  contract_id : Option String
  pass : ℕ
  deriving DecidableEq

/-- What is handed to the adapter. -/
structure Submission extends Usage where
  contract_id : Option String
  deriving DecidableEq

/-- The meters, in the order of `_compute_meters`. -/
def METERS : List String :=
  ["monitoring_sources_active", "monitoring_resources_observed", "alerting_alerts_active", "alert_transitions_24h",
    "aiops_findings_active"]

/-- An hour, in microseconds. -/
def hour : ℤ := 3600000000

/-- What `_meter_tenant` has in its hands. -/
structure Metering where
  tenant_id : String
  contract_id : Option String
  /-- `now_ts` -/
  now_ts : ℤ
  deriving DecidableEq

/-- `window_start` is the full hour of `now_ts`, `window_end` is `now_ts`. -/
def Metering.submission (m : Metering) (x : String × ℕ) : Submission :=
  ⟨⟨m.tenant_id, x.1, x.2, m.now_ts / hour * hour, m.now_ts⟩, m.contract_id⟩

/-- The next statement of the worker; `rest` are the tenants to come. -/
inductive MeterPoint where
  | idle
  | list
  | tenants (rest : List String)
  | count (tenant_id : String) (contract_id : Option String) (todo : List String) (done : List (String × ℕ))
    (rest : List String)
  | insert (m : Metering) (todo : List (String × ℕ)) (rest : List String)
  | submit (m : Metering) (x : String × ℕ) (todo : List (String × ℕ)) (rest : List String)

structure FinOps where
  /-- `g1.tenants` -/
  tenants : List String
  committed : List UsageMeter
  /-- The rows of the open transaction, its `now()`, and whether a statement of it has failed. -/
  pending : List UsageMeter
  started : Option ℤ
  aborted : Bool
  /-- `time.time()`, and the clock of the database -/
  clock : ℤ
  db_clock : ℤ
  /-- `_last_run` -/
  last_run : ℤ
  pc : MeterPoint
  /-- The number of the pass, and the tenants that there were when it listed them. -/
  pass : ℕ
  listed : List String
  submitted : List Submission
  logged : List Submission
  ended : List (ℕ × List String)

inductive MeterAct where
  /-- `_process_pending` is called. -/
  | tick
  /-- `SELECT tenant_id FROM g1.tenants LIMIT 20` -/
  | list (found : List String)
  /-- `_resolve_contract` of the next tenant; without one the pass ends. -/
  | contract (contract_id : Option String)
  /-- The next `count_query`. -/
  | count (n : ℕ)
  /-- The query of `aiops.finding` fails, which is caught, but has aborted the transaction. -/
  | aiops_fails
  /-- The `INSERT`; without a meter to come it is the `COMMIT`. -/
  | insert (usage_id : String)
  | submit (accepted : Bool)
  | fail
  | lost
  | restart
  | advance (clock db_clock : ℤ)
  | add_tenant (tenant_id : String)

namespace FinOps

variable (s : FinOps)

/-- `now()`: a statement without a transaction opens one. -/
def now : ℤ := s.started.getD s.db_clock

/-- `conn.rollback()` -/
def rollback (p : MeterPoint) : FinOps := { s with pending := [], started := none, aborted := false, pc := p }

/-- An exception in the transaction of a tenant, or in that of the list. -/
def fail : FinOps :=
  match s.pc with
  | .idle => s
  | .list => s.rollback .idle
  | .tenants [] => s
  | .tenants (_ :: rest) | .count _ _ _ _ rest | .insert _ _ rest | .submit _ _ _ rest => s.rollback (.tenants rest)

/-- The row of a meter. -/
def row (m : Metering) (x : String × ℕ) (usage_id : String) : UsageMeter :=
  ⟨⟨m.tenant_id, x.1, x.2, s.now - hour, s.now⟩, usage_id, m.contract_id, s.pass⟩

/-- A meter is computed; after the last one `now_ts` is read. -/
def counted (tenant_id : String) (contract_id : Option String) (todo : List String) (done : List (String × ℕ))
    (rest : List String) : MeterPoint :=
  if todo = [] then .insert ⟨tenant_id, contract_id, s.clock⟩ done rest else .count tenant_id contract_id todo done rest

def step (s : FinOps) : MeterAct → FinOps
  | .tick =>
    match s.pc with
    | .idle => if s.clock - s.last_run < hour then s else { s with pc := .list, pass := s.pass + 1 }
    | _ => s
  | .list found =>
    match s.pc with
    | .list =>
      if IsAnswer 20 s.tenants found then
        { s with started := some s.now, pc := .tenants found, listed := s.tenants }
      else s
    | _ => s
  | .contract contract_id =>
    match s.pc with
    | .tenants [] => { s with last_run := s.clock, pc := .idle, ended := s.ended ++ [(s.pass, s.listed)] }
    | .tenants (t :: rest) => { s with started := some s.now, pc := .count t contract_id METERS [] rest }
    | _ => s
  | .count n =>
    match s.pc with
    | .count t contract_id (name :: todo) done rest =>
      { s with pc := s.counted t contract_id todo (done ++ [(name, n)]) rest }
    | _ => s
  | .aiops_fails =>
    match s.pc with
    | .count t contract_id [name] done rest =>
      { s with aborted := true, pc := s.counted t contract_id [] (done ++ [(name, 0)]) rest }
    | _ => s
  | .insert usage_id =>
    match s.pc with
    | .insert _ [] rest =>
      if s.aborted then s.fail
      else { s with committed := s.committed ++ s.pending, pending := [], started := none, pc := .tenants rest }
    | .insert m (x :: todo) rest =>
      -- in an aborted transaction, or where the key is there, the statement raises
      if s.aborted ∨ ((s.committed ++ s.pending).any fun r => r.usage_id = usage_id) = true then s.fail
      else { s with pending := s.pending ++ [s.row m x usage_id], pc := .submit m x todo rest }
    | _ => s
  | .submit accepted =>
    match s.pc with
    | .submit m x todo rest =>
      if accepted then { s with submitted := s.submitted ++ [m.submission x], pc := .insert m todo rest }
      else { s with logged := s.logged ++ [m.submission x], pc := .insert m todo rest }
    | _ => s
  | .fail => s.fail
  | .lost => s.rollback .idle
  | .restart => { s.rollback .idle with last_run := 0 }
  | .advance clock db_clock => { s with clock := clock, db_clock := db_clock }
  | .add_tenant t => if t ∈ s.tenants then s else { s with tenants := s.tenants ++ [t] }

/-- Nothing has happened yet. -/
def init : FinOps := ⟨[], [], [], none, false, 0, 0, 0, .idle, 0, [], [], [], []⟩

/-- The state after a run. -/
def exec (run : List MeterAct) : FinOps := run.foldl step init

/-! ### The claim -/

/-- The usage of the row was handed to the adapter, which took it or refused it with a `BillingError`. -/
def Attempted (r : UsageMeter) : Prop :=
  ∃ u ∈ s.submitted ++ s.logged, u.tenant_id = r.tenant_id ∧ u.meter = r.meter ∧ u.quantity = r.quantity ∧
    u.contract_id = r.contract_id

/-- The ledger and the provider agree. -/
structure LedgerAgrees : Prop where
  submitted : ∀ u ∈ s.submitted, ∃ r ∈ s.committed, r.toUsage = u.toUsage
  committed : ∀ r ∈ s.committed, ∃ u ∈ s.submitted ++ s.logged, u.toUsage = r.toUsage
  /-- Every tenant is metered in every pass. -/
  every : ∀ p ∈ s.ended, ∀ t ∈ p.2, ∀ meter ∈ METERS, ∃ r ∈ s.committed, r.pass = p.1 ∧ r.tenant_id = t ∧ r.meter = meter
  disjoint : s.committed.Pairwise fun r r' => r.tenant_id = r'.tenant_id → r.meter = r'.meter →
    r.window_end ≤ r'.window_start ∨ r'.window_end ≤ r.window_start

/-- The step is a submission that the adapter takes, a `COMMIT` of rows, or the end of a pass that there were tenants for. -/
def Meters : MeterAct → Prop
  | .submit accepted => accepted = true ∧ ∃ m x todo rest, s.pc = .submit m x todo rest
  | .insert _ => s.aborted = false ∧ s.pending ≠ [] ∧ ∃ m rest, s.pc = .insert m [] rest
  | .contract _ => s.listed ≠ [] ∧ s.pc = .tenants []
  | _ => False

/-! ### The invariant -/

def Usage.length (u : Usage) : ℤ := u.window_end - u.window_start

/-- A row that is not committed was attempted, or is the one that is to be submitted now. -/
def Waits (r : UsageMeter) : Prop :=
  match s.pc with
  | .submit m x _ _ => s.Attempted r ∨
    m.tenant_id = r.tenant_id ∧ x.1 = r.meter ∧ x.2 = r.quantity ∧ m.contract_id = r.contract_id
  | _ => s.Attempted r

structure Inv : Prop where
  attempts : ∀ u ∈ s.submitted ++ s.logged, Usage.length u.toUsage < hour
  rows : ∀ r ∈ s.committed ++ s.pending, Usage.length r.toUsage = hour
  committed : ∀ r ∈ s.committed, s.Attempted r
  pending : ∀ r ∈ s.pending, s.Waits r

variable {s}

theorem inv_init : init.Inv := by
  constructor <;> simp [init]

theorem length_submission (m : Metering) (x : String × ℕ) : Usage.length (m.submission x).toUsage < hour := by
  simp only [Usage.length, Metering.submission, hour]
  omega

theorem length_row (m : Metering) (x : String × ℕ) (usage_id : String) :
    Usage.length (s.row m x usage_id).toUsage = hour := by
  simp only [Usage.length, row]
  omega

theorem Inv.rollback (h : s.Inv) (p : MeterPoint) : (s.rollback p).Inv where
  attempts := h.attempts
  rows := fun r hr => h.rows r (List.mem_append_left _ (by simpa [FinOps.rollback] using hr))
  committed := h.committed
  pending := fun r hr => absurd hr List.not_mem_nil

theorem Inv.fail (h : s.Inv) : s.fail.Inv := by
  rw [FinOps.fail]
  cases s.pc with
  | idle => exact h
  | tenants rest =>
    cases rest with
    | nil => exact h
    | cons t rest => exact h.rollback _
  | _ => exact h.rollback _

/-- Where nothing is about to be submitted, a row waits if it was attempted. -/
theorem waits_iff (hpc : ∀ m x todo rest, s.pc ≠ .submit m x todo rest) {r : UsageMeter} : s.Waits r ↔ s.Attempted r := by
  unfold Waits
  split
  · next hsubmit => exact absurd hsubmit (hpc _ _ _ _)
  · rfl

variable {s' : FinOps}

/-- A step that leaves the rows and the attempts alone, between points at which nothing is about to be submitted. -/
theorem Inv.quiet (h : s.Inv)
    (hsame : s'.submitted = s.submitted ∧ s'.logged = s.logged ∧ s'.committed = s.committed ∧ s'.pending = s.pending)
    (hpc : ∀ m x todo rest, s.pc ≠ .submit m x todo rest) (hpc' : ∀ m x todo rest, s'.pc ≠ .submit m x todo rest) :
    s'.Inv := by
  obtain ⟨hsubmitted, hlogged, hcommitted, hpending⟩ := hsame
  have hattempted : ∀ r, s'.Attempted r ↔ s.Attempted r := by
    intro r
    rw [Attempted, Attempted, hsubmitted, hlogged]
  constructor
  · rw [hsubmitted, hlogged]
    exact h.attempts
  · rw [hcommitted, hpending]
    exact h.rows
  · rw [hcommitted]
    exact fun r hr => (hattempted r).2 (h.committed r hr)
  · rw [hpending]
    exact fun r hr => (waits_iff hpc').2 ((hattempted r).2 ((waits_iff hpc).1 (h.pending r hr)))

variable {m : Metering} {rest : List String}

theorem Inv.commit (h : s.Inv) (hpc : s.pc = .insert m [] rest) :
    ({ s with committed := s.committed ++ s.pending, pending := [], started := none, pc := .tenants rest } :
      FinOps).Inv where
  attempts := h.attempts
  rows := fun r hr => h.rows r (by simpa using hr)
  committed := by
    intro r hr
    rcases List.mem_append.1 hr with hr | hr
    · exact h.committed r hr
    · have hattempted : s.Attempted r := (waits_iff (by simp [hpc])).1 (h.pending r hr)
      exact hattempted
  pending := fun r hr => absurd hr List.not_mem_nil

variable {todo : List (String × ℕ)}

theorem Inv.insert (h : s.Inv) {x : String × ℕ} (usage_id : String) (hpc : s.pc = .insert m (x :: todo) rest) :
    ({ s with pending := s.pending ++ [s.row m x usage_id], pc := .submit m x todo rest } : FinOps).Inv where
  attempts := h.attempts
  rows := by
    intro r hr
    simp only [← List.append_assoc, List.mem_append, List.mem_singleton] at hr
    rcases hr with (hr | hr) | rfl
    · exact h.rows r (List.mem_append_left _ hr)
    · exact h.rows r (List.mem_append_right _ hr)
    · exact length_row m x usage_id
  committed := h.committed
  pending := by
    intro r hr
    rcases List.mem_append.1 hr with hr | hr
    · have hattempted : s.Attempted r := (waits_iff (by simp [hpc])).1 (h.pending r hr)
      exact .inl hattempted
    · rw [List.mem_singleton.1 hr]
      exact .inr ⟨rfl, rfl, rfl, rfl⟩

/-- The adapter has taken the usage, or refused it. -/
theorem Inv.submit (h : s.Inv) {x : String × ℕ} (hpc : s.pc = .submit m x todo rest)
    (hpc' : s'.pc = .insert m todo rest) (hrows : s'.committed = s.committed ∧ s'.pending = s.pending)
    (hattempts : ∀ u, u ∈ s'.submitted ++ s'.logged ↔ u = m.submission x ∨ u ∈ s.submitted ++ s.logged) : s'.Inv := by
  have hmono : ∀ r, s.Attempted r → s'.Attempted r :=
    fun r hr => hr.imp fun u hu => ⟨(hattempts u).2 (.inr hu.1), hu.2⟩
  constructor
  · intro u hu
    rcases (hattempts u).1 hu with rfl | hu
    · exact length_submission m x
    · exact h.attempts u hu
  · rw [hrows.1, hrows.2]
    exact h.rows
  · rw [hrows.1]
    exact fun r hr => hmono r (h.committed r hr)
  · rw [hrows.2]
    intro r hr
    rw [waits_iff (by simp [hpc'])]
    have hwaits := h.pending r hr
    simp only [Waits, hpc] at hwaits
    rcases hwaits with hr | hnow
    · exact hmono r hr
    · exact ⟨m.submission x, (hattempts _).2 (.inl rfl), hnow⟩

theorem counted_ne_submit (t : String) (contract_id : Option String) (todo : List String) (done : List (String × ℕ))
    (rest : List String) : ∀ m x todo' rest', s.counted t contract_id todo done rest ≠ .submit m x todo' rest' := by
  intro m x todo' rest'
  rw [counted]
  split_ifs <;> simp

theorem inv_step (h : s.Inv) (a : MeterAct) : (s.step a).Inv := by
  cases a with
  | tick =>
    rw [FinOps.step]
    cases hpc : s.pc with
    | idle =>
      dsimp only
      split_ifs
      · exact h
      · exact h.quiet ⟨rfl, rfl, rfl, rfl⟩ (by simp [hpc]) (by simp)
    | _ => exact h
  | list found =>
    rw [FinOps.step]
    cases hpc : s.pc with
    | list =>
      dsimp only
      split_ifs
      · exact h.quiet ⟨rfl, rfl, rfl, rfl⟩ (by simp [hpc]) (by simp)
      · exact h
    | _ => exact h
  | contract contract_id =>
    rw [FinOps.step]
    cases hpc : s.pc with
    | tenants rest => cases rest <;> exact h.quiet ⟨rfl, rfl, rfl, rfl⟩ (by simp [hpc]) (by simp)
    | _ => exact h
  | count n =>
    rw [FinOps.step]
    cases hpc : s.pc with
    | count t contract_id todo done rest =>
      cases todo with
      | nil => exact h
      | cons name todo => exact h.quiet ⟨rfl, rfl, rfl, rfl⟩ (by simp [hpc]) (counted_ne_submit _ _ _ _ _)
    | _ => exact h
  | aiops_fails =>
    rw [FinOps.step]
    cases hpc : s.pc with
    | count t contract_id todo done rest =>
      rcases todo with _ | ⟨name, _ | ⟨name', todo⟩⟩
      · exact h
      · exact h.quiet ⟨rfl, rfl, rfl, rfl⟩ (by simp [hpc]) (by simp [counted])
      · exact h
    | _ => exact h
  | insert usage_id =>
    rw [FinOps.step]
    cases hpc : s.pc with
    | insert m todo rest =>
      cases todo with
      | nil =>
        dsimp only
        split_ifs
        · exact h.fail
        · exact h.commit hpc
      | cons x todo =>
        dsimp only
        split_ifs
        · exact h.fail
        · exact h.insert usage_id hpc
    | _ => exact h
  | submit accepted =>
    rw [FinOps.step]
    cases hpc : s.pc with
    | submit m x todo rest =>
      dsimp only
      split_ifs
      · exact h.submit hpc rfl ⟨rfl, rfl⟩ (by simp; tauto)
      · exact h.submit hpc rfl ⟨rfl, rfl⟩ (by simp; tauto)
    | _ => exact h
  | fail => exact h.fail
  | lost => exact h.rollback .idle
  | restart =>
    have hrollback := h.rollback .idle
    exact ⟨hrollback.attempts, hrollback.rows, hrollback.committed, hrollback.pending⟩
  | advance clock db_clock => exact ⟨h.attempts, h.rows, h.committed, h.pending⟩
  | add_tenant t =>
    rw [FinOps.step]
    split_ifs
    · exact h
    · exact ⟨h.attempts, h.rows, h.committed, h.pending⟩

theorem inv_exec (run : List MeterAct) : (exec run).Inv :=
  List.foldlRecOn run _ inv_init fun _ h a _ => inv_step h a

/-- Every committed row was submitted, or its error logged, but for the window. -/
theorem committed_attempted (run : List MeterAct) : ∀ r ∈ (exec run).committed, (exec run).Attempted r :=
  (inv_exec run).committed

theorem Inv.usage_ne (h : s.Inv) {r : UsageMeter} {u : Submission} (hr : r ∈ s.committed)
    (hu : u ∈ s.submitted ++ s.logged) : r.toUsage ≠ u.toUsage := by
  intro heq
  have hrow := h.rows r (List.mem_append_left _ hr)
  have hattempt := h.attempts u hu
  rw [← heq, hrow] at hattempt
  omega

/-- Nothing has been submitted or committed, and no pass has ended that there were tenants for. -/
structure Quiet (s : FinOps) : Prop where
  submitted : s.submitted = []
  committed : s.committed = []
  ended : ∀ p ∈ s.ended, p.2 = []

theorem quiet_congr (hsame : s'.submitted = s.submitted ∧ s'.committed = s.committed ∧ s'.ended = s.ended) :
    s'.Quiet ↔ s.Quiet := by
  obtain ⟨hsubmitted, hcommitted, hended⟩ := hsame
  constructor <;> intro h
  · exact ⟨hsubmitted ▸ h.submitted, hcommitted ▸ h.committed, hended ▸ h.ended⟩
  · exact ⟨hsubmitted ▸ h.submitted, hcommitted ▸ h.committed, hended ▸ h.ended⟩

theorem quiet_fail (s : FinOps) : s.fail.Quiet ↔ s.Quiet := by
  rw [FinOps.fail]
  cases s.pc with
  | tenants rest => cases rest <;> exact quiet_congr ⟨rfl, rfl, rfl⟩
  | _ => exact quiet_congr ⟨rfl, rfl, rfl⟩

/-- A step keeps the quiet if it is none of the three, and only then. -/
theorem quiet_step (s : FinOps) (a : MeterAct) : (s.step a).Quiet ↔ s.Quiet ∧ ¬s.Meters a := by
  have hother : ∀ {s' : FinOps}, (s'.Quiet ↔ s.Quiet) → ¬s.Meters a → (s'.Quiet ↔ s.Quiet ∧ ¬s.Meters a) :=
    fun hquiet hnot => hquiet.trans (iff_self_and.2 fun _ => hnot)
  cases a with
  | contract contract_id =>
    rw [FinOps.step]
    cases hpc : s.pc with
    | tenants rest =>
      cases rest with
      | nil =>
        constructor
        · intro h
          have hlast : s.listed = [] := h.ended (s.pass, s.listed) (List.mem_append_right _ List.mem_cons_self)
          exact ⟨⟨h.submitted, h.committed, fun p hp => h.ended p (List.mem_append_left _ hp)⟩,
            fun hmeters => hmeters.1 hlast⟩
        · rintro ⟨h, hnot⟩
          refine ⟨h.submitted, h.committed, fun p hp => ?_⟩
          rcases List.mem_append.1 hp with hp | hp
          · exact h.ended p hp
          · rw [List.mem_singleton.1 hp]
            by_contra hlisted
            exact hnot ⟨hlisted, hpc⟩
      | cons t rest => exact hother (quiet_congr ⟨rfl, rfl, rfl⟩) (by simp [Meters, hpc])
    | _ => exact hother Iff.rfl (by simp [Meters, hpc])
  | insert usage_id =>
    rw [FinOps.step]
    cases hpc : s.pc with
    | insert m todo rest =>
      cases todo with
      | nil =>
        dsimp only
        split_ifs with haborted
        · exact hother (quiet_fail s) (by simp [Meters, haborted])
        · constructor
          · intro h
            obtain ⟨hcommitted, hpending⟩ := List.append_eq_nil_iff.1 h.committed
            exact ⟨⟨h.submitted, hcommitted, h.ended⟩, fun hmeters => hmeters.2.1 hpending⟩
          · rintro ⟨h, hnot⟩
            have hpending : s.pending = [] := by
              by_contra hpending
              exact hnot ⟨by simpa using haborted, hpending, m, rest, hpc⟩
            exact ⟨h.submitted, List.append_eq_nil_iff.2 ⟨h.committed, hpending⟩, h.ended⟩
      | cons x todo =>
        dsimp only
        split_ifs
        · exact hother (quiet_fail s) (by simp [Meters, hpc])
        · exact hother (quiet_congr ⟨rfl, rfl, rfl⟩) (by simp [Meters, hpc])
    | _ => exact hother Iff.rfl (by simp [Meters, hpc])
  | submit accepted =>
    rw [FinOps.step]
    cases hpc : s.pc with
    | submit m x todo rest =>
      dsimp only
      split_ifs with haccepted
      · constructor
        · intro h
          exact absurd (List.append_eq_nil_iff.1 h.submitted).2 (List.cons_ne_nil _ _)
        · rintro ⟨-, hnot⟩
          exact absurd ⟨haccepted, m, x, todo, rest, hpc⟩ hnot
      · exact hother (quiet_congr ⟨rfl, rfl, rfl⟩) (by simp [Meters, haccepted])
    | _ => exact hother Iff.rfl (by simp [Meters, hpc])
  | fail => exact hother (quiet_fail s) id
  | lost => exact hother (quiet_congr ⟨rfl, rfl, rfl⟩) id
  | restart => exact hother (quiet_congr ⟨rfl, rfl, rfl⟩) id
  | advance clock db_clock => exact hother (quiet_congr ⟨rfl, rfl, rfl⟩) id
  | _ =>
    rw [FinOps.step]
    refine hother ?_ id
    split <;> (try split_ifs) <;> exact quiet_congr ⟨rfl, rfl, rfl⟩

theorem quiet_foldl (s : FinOps) (run : List MeterAct) :
    (run.foldl step s).Quiet ↔ s.Quiet ∧ Guarded step (fun s a => ¬s.Meters a) s run := by
  induction run generalizing s with
  | nil => simp
  | cons a run ih => rw [List.foldl_cons, ih, quiet_step, guarded_cons, and_assoc]

/-- The ledger and the provider agree where there is no usage, and nowhere else. -/
theorem Inv.agrees_iff_quiet (h : s.Inv) : s.LedgerAgrees ↔ s.Quiet := by
  constructor
  · intro hagrees
    have hcommitted : s.committed = [] := by
      rw [List.eq_nil_iff_forall_not_mem]
      intro r hr
      obtain ⟨u, hu, heq⟩ := hagrees.committed r hr
      exact h.usage_ne hr hu heq.symm
    refine ⟨?_, hcommitted, fun p hp => ?_⟩
    · rw [List.eq_nil_iff_forall_not_mem]
      intro u hu
      obtain ⟨r, hr, heq⟩ := hagrees.submitted u hu
      exact h.usage_ne hr (List.mem_append_left _ hu) heq
    · rw [List.eq_nil_iff_forall_not_mem]
      intro t ht
      obtain ⟨r, hr, -⟩ := hagrees.every p hp t ht "monitoring_sources_active" (by simp [METERS])
      rw [hcommitted] at hr
      exact List.not_mem_nil hr
  · rintro ⟨hsubmitted, hcommitted, hended⟩
    refine ⟨by simp [hsubmitted], by simp [hcommitted], fun p hp t ht => ?_, by simp [hcommitted]⟩
    rw [hended p hp] at ht
    exact absurd ht List.not_mem_nil

/-- The ledger and the provider agree after a run in which the adapter takes nothing, no row is committed and no pass ends
that there were tenants for, and after no other. -/
theorem ledger_agrees_iff (run : List MeterAct) :
    (exec run).LedgerAgrees ↔ Guarded step (fun s a => ¬s.Meters a) init run := by
  rw [(inv_exec run).agrees_iff_quiet, exec, quiet_foldl]
  exact and_iff_right ⟨rfl, rfl, fun _ hp => absurd hp List.not_mem_nil⟩

/-- A pass of one tenant at half past ten, in which nothing fails. -/
def halfPast : List MeterAct :=
  [.add_tenant "A", .advance 37800000000 37800000000, .tick, .list ["A"], .contract none, .count 3, .count 40, .count 1,
    .count 7, .count 0, .insert "1", .submit true, .insert "2", .submit true, .insert "3", .submit true, .insert "4",
    .submit true, .insert "5", .submit true, .insert "", .contract none]

/-- The rows say half past nine to half past ten, the submissions ten to half past ten. -/
theorem half_past : ¬(exec halfPast).LedgerAgrees := by
  intro h
  have hsubmitted := h.submitted
  revert hsubmitted
  decide

/-- Its first row was handed to the adapter. -/
theorem half_past_attempted :
    (exec halfPast).Attempted
      ⟨⟨"A", "monitoring_sources_active", 3, 34200000000, 37800000000⟩, "1", none, 1⟩ :=
  committed_attempted halfPast _ (by decide)

end FinOps

end JLMirror.Billing
