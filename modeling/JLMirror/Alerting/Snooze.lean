import JLMirror.Alerting.Alert
import JLMirror.Foundations.Sessions
import JLMirror.Foundations.Table

/-!
# Snoozes of an alert

`g21_snooze_alert` and `g21_unsnooze_alert` of `sql/alerting/003_g21_alert_snooze.sql`. "Cancels any
existing active snooze first (only one active snooze per alert)": there is no unique index behind it.

## The model

* The functions go statement by statement, as sessions (`SnoozeSystem`). The `UPDATE` takes the rows that are active when
  it starts, one by one, in any order; it waits for a row that another session has written, and looks at it again once it
  has it.
* `UPDATE … RETURNING … INTO` raises when it has updated more than one row.
* `now()` stays what it was when the transaction began, and the clock goes on. It counts seconds.

## What is proved

* `cancels_eq`, `mem_cancels`: what the `UPDATE` leaves of the rows.
-/

namespace JLMirror.Alerting

open JLMirror.Foundations

/-! ### The functions -/

/-- A row of `alerting.alert_snooze`, with the columns that `g21_is_snoozed` does not read. -/
structure SnoozeRow extends AlertSnooze where
  snooze_id : String
  snoozed_by : String
  reason : Option String
  created_at : ℕ
  deriving DecidableEq

/-- The snooze is active: not cancelled, and not expired. -/
def SnoozeRow.active (tenant_id alert_id : String) (now : ℕ) (r : SnoozeRow) : Bool :=
  r.alert_id = alert_id ∧ r.tenant_id = tenant_id ∧ r.cancelled_at = none ∧ now < r.expires_at

/-- `SET cancelled_at = now()` -/
def SnoozeRow.cancelled (now : ℕ) (r : SnoozeRow) : SnoozeRow := { r with cancelled_at := some now }

/-- What the functions raise. -/
inductive SnoozeError where
  /-- `g21.invalid_duration: duration_minutes must be > 0` -/
  | invalid_duration
  /-- `g21.duration_too_long: max 10080 minutes (7 days)` -/
  | duration_too_long
  /-- `g21.snooze_not_found: no active snooze for alert %` -/
  | snooze_not_found (alert_id : String)
  /-- `query returned more than one row` -/
  | too_many_rows
  /-- `alert_snooze_pk` -/
  | alert_snooze_pk
  deriving DecidableEq

/-- The checks of the duration. -/
def checkDuration : Option Int → Except SnoozeError ℕ
  | none => .error .invalid_duration
  | some minutes =>
    if minutes ≤ 0 then .error .invalid_duration
    else if 10080 < minutes then .error .duration_too_long
    else .ok minutes.toNat

/-- The row that `g21_snooze_alert` inserts. -/
def snoozeRow (now : ℕ) (drawn_id tenant_id alert_id : String) (minutes : ℕ) (snoozed_by : String)
    (reason : Option String) : SnoozeRow :=
  { snooze_id := drawn_id, alert_id, tenant_id, expires_at := now + 60 * minutes, snoozed_by, reason
    created_at := now, cancelled_at := none }

/-- `g21_is_snoozed`, of whole rows. -/
def isSnoozed (now : ℕ) (tenant_id alert_id : String) (rows : List SnoozeRow) : Bool :=
  g21_is_snoozed now tenant_id alert_id (rows.map (·.toAlertSnooze))

theorem isSnoozed_eq (now : ℕ) (tenant_id alert_id : String) (rows : List SnoozeRow) :
    isSnoozed now tenant_id alert_id rows = rows.any (·.active tenant_id alert_id now) := List.any_map

/-! ### The sessions -/

/-- What a call asks for. -/
inductive SnoozeRequest where
  /-- `g21_snooze_alert`, whose duration has been looked at. -/
  | snooze (drawn_id : String) (minutes : ℕ) (snoozed_by : String) (reason : Option String)
  | unsnooze

/-- A call in its transaction. -/
structure SnoozeCall where
  /-- `now()` -/
  now : ℕ
  tenant_id : String
  alert_id : String
  request : SnoozeRequest

/-- The row that the call inserts, if it is a snooze. -/
def SnoozeCall.row (c : SnoozeCall) : Option SnoozeRow :=
  match c.request with
  | .snooze drawn_id minutes snoozed_by reason =>
    some (snoozeRow c.now drawn_id c.tenant_id c.alert_id minutes snoozed_by reason)
  | .unsnooze => none

/-- A snooze that is active for the call. -/
def SnoozeCall.selects (c : SnoozeCall) (r : SnoozeRow) : Bool := r.active c.tenant_id c.alert_id c.now

/-- An `UPDATE` under way. -/
structure Cancelling where
  c : SnoozeCall
  /-- What `g21_is_snoozed` says when the function starts. -/
  snoozed : Bool
  /-- The rows that the `UPDATE` has yet to look at. -/
  targets : List String
  /-- Those that it has updated. -/
  found : List String

/-- A write of a call. -/
inductive SnoozeWrite where
  | cancel (c : SnoozeCall) (snooze_id : String)
  | insert (r : SnoozeRow)

/-- The row that the others wait for. -/
def SnoozeWrite.row : SnoozeWrite → String
  | .cancel _ snooze_id => snooze_id
  | .insert r => r.snooze_id

def SnoozeWrite.apply (x : SnoozeWrite) (rows : List SnoozeRow) : List SnoozeRow :=
  match x with
  | .cancel c snooze_id => updateWhere (fun r => r.snooze_id = snooze_id ∧ c.selects r) (·.cancelled c.now) rows
  | .insert r => rows ++ [r]

/-- The next statement of a session. -/
inductive SnoozePoint where
  | idle
  /-- The transaction has begun. -/
  | called (c : SnoozeCall)
  | update (u : Cancelling)
  | insert (u : Cancelling) (row : SnoozeRow)
  | commit (u : Cancelling)

/-- The calls in their sessions. -/
abbrev SnoozeSystem := Sessions (List SnoozeRow) SnoozeWrite SnoozePoint

namespace SnoozeSystem

variable (s : SnoozeSystem) (w : ℕ)

/-- What a session sees. -/
def view : List SnoozeRow := Sessions.view SnoozeWrite.apply s w

/-- What the next statement raises. -/
def raised : Option SnoozeError :=
  match s.pc w with
  | .update ⟨c, _, [], found⟩ =>
    match c.row, found with
    | none, [] => some (.snooze_not_found c.alert_id)
    | none, _ :: _ :: _ => some .too_many_rows
    | _, _ => none
  | .insert _ row =>
    if s.tx.locked SnoozeWrite.row w row.snooze_id then none
    else if (s.view w).any fun r => r.snooze_id = row.snooze_id then some .alert_snooze_pk
    else none
  | _ => none

/-- The next statement of a session. -/
def next : SnoozeSystem :=
  match s.raised w, s.pc w with
  | some _, _ => s.rollback .idle w
  | none, .idle => s
  | none, .called c =>
    s.goto w (.update ⟨c, isSnoozed c.now c.tenant_id c.alert_id (s.view w),
      ((s.view w).filter c.selects).map (·.snooze_id), []⟩)
  | none, .update u =>
    if u.targets = [] then s.goto w (match u.c.row with | some row => .insert u row | none => .commit u) else s
  | none, .insert u row => s.write SnoozeWrite.row w (.insert row) (.commit u)
  | none, .commit _ => s.commit SnoozeWrite.apply .idle w

/-- The `UPDATE` has a row. -/
def row (snooze_id : String) : SnoozeSystem :=
  match s.pc w with
  | .update u =>
    if snooze_id ∉ u.targets then s
    else if (s.view w).any fun r => r.snooze_id = snooze_id ∧ u.c.selects r then
      s.write SnoozeWrite.row w (.cancel u.c snooze_id)
        (.update { u with targets := u.targets.erase snooze_id, found := u.found ++ [snooze_id] })
    else s.goto w (.update { u with targets := u.targets.erase snooze_id })
  | _ => s

end SnoozeSystem

/-- The sessions, and what time it is. -/
structure SnoozeWorld where
  sys : SnoozeSystem
  clock : ℕ

/-- A step of the system. -/
inductive SnoozeAct where
  | snooze (w : ℕ) (drawn_id tenant_id alert_id : String) (duration_minutes : Option Int) (snoozed_by : String)
      (reason : Option String)
  | unsnooze (w : ℕ) (tenant_id alert_id : String)
  | next (w : ℕ)
  | row (w : ℕ) (snooze_id : String)
  /-- A statement fails, or the connection is lost. -/
  | fail (w : ℕ)
  | tick (microseconds : ℕ)

namespace SnoozeWorld

variable (s : SnoozeWorld)

/-- A transaction begins, in a session that is free. -/
def begin (w : ℕ) (tenant_id alert_id : String) (request : SnoozeRequest) : SnoozeWorld :=
  match s.sys.pc w with
  | .idle => { s with sys := s.sys.goto w (.called ⟨s.clock, tenant_id, alert_id, request⟩) }
  | _ => s

/-- A step. -/
def step : SnoozeAct → SnoozeWorld
  | .snooze w drawn_id tenant_id alert_id duration_minutes snoozed_by reason =>
    match checkDuration duration_minutes with
    | .ok minutes => s.begin w tenant_id alert_id (.snooze drawn_id minutes snoozed_by reason)
    | .error _ => s
  | .unsnooze w tenant_id alert_id => s.begin w tenant_id alert_id .unsnooze
  | .next w => { s with sys := s.sys.next w }
  | .row w snooze_id => { s with sys := s.sys.row w snooze_id }
  | .fail w => { s with sys := s.sys.rollback .idle w }
  | .tick microseconds => { s with clock := s.clock + microseconds }

/-- No call has come in yet. -/
def init (clock : ℕ) : SnoozeWorld := ⟨Sessions.init .idle [], clock⟩

/-- The system after a run. -/
def exec (clock : ℕ) (run : List SnoozeAct) : SnoozeWorld := run.foldl step (init clock)

end SnoozeWorld

/-! ### What an `UPDATE` does -/

@[simp] theorem active_cancelled (tenant_id alert_id : String) (now now' : ℕ) (r : SnoozeRow) :
    (r.cancelled now').active tenant_id alert_id now = false := by
  simp [SnoozeRow.active, SnoozeRow.cancelled]

/-- What an `UPDATE` has written. -/
def Cancelling.cancels (u : Cancelling) : List SnoozeWrite := u.found.map (.cancel u.c)

/-- The rows under an `UPDATE`: those that it has found are cancelled. -/
theorem cancels_eq (u : Cancelling) (rows : List SnoozeRow) : u.cancels.foldl (fun rows x => x.apply rows) rows =
    updateWhere (fun r => r.snooze_id ∈ u.found ∧ u.c.selects r) (·.cancelled u.c.now) rows := by
  obtain ⟨c, snoozed, targets, found⟩ := u
  dsimp only [Cancelling.cancels]
  induction found generalizing rows with
  | nil => exact (updateWhere_of_none fun r _ => by simp).symm
  | cons id found ih =>
    rw [List.map_cons, List.foldl_cons, ih]
    dsimp only [SnoozeWrite.apply, updateWhere]
    rw [List.map_map]
    refine List.map_congr_left fun r _ => ?_
    have hno : c.selects (r.cancelled c.now) = false := active_cancelled ..
    by_cases hsel : c.selects r = true <;> by_cases hid : r.snooze_id = id <;> simp [hsel, hid, hno]

/-- A row that the `UPDATE` has not found is as it was. -/
theorem mem_cancels {u : Cancelling} {rows : List SnoozeRow} {r : SnoozeRow} (hr : r ∈ rows)
    (hnot : r.snooze_id ∉ u.found ∨ u.c.selects r = false) : r ∈ u.cancels.foldl (fun rows x => x.apply rows) rows := by
  rw [cancels_eq]
  refine mem_updateWhere_of_not hr (decide_eq_false fun h => ?_)
  rcases hnot with hnot | hnot
  · exact hnot h.1
  · exact absurd h.2 (by rw [hnot]; exact Bool.false_ne_true)

end JLMirror.Alerting
