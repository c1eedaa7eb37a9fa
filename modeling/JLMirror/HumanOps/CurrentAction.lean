import JLMirror.Foundations.Sessions
import JLMirror.HumanOps.Replay

/-!
# The current action of an alert

"Exactly one current owner per alert": an assignment closes the one that is open, inserts its own, and writes the projection.
Two requests for one alert race: the second `UPDATE` may have looked before the first one commits, and then closes nothing.
Its insert meets the unique index of the open assignments, and raises.

## The model

* Every assignment is a session, and goes statement by statement. An `UPDATE` takes the rows that are open when it starts,
  waits for a row that another session has changed, and then looks whether the row is still open.
* An insert enters the indexes one after another: it waits for a key that another open transaction has, and raises for one
  that is there.
* The other requests and programs take whole transactions in between.

## What is proved

* **Key result** (`current_action_follows`): after every run an alert has no assignment and no projection, or one open
  assignment, and the projection is of it, with the number of the alert's assignments as its revision.
-/

namespace JLMirror.HumanOps

open JLMirror.Foundations JLMirror.Alerting

/-! ### The sessions -/

/-- A request for an assignment, whose `action_kind` has been looked at. -/
structure Assigning where
  c : Call
  alert_id : String
  body : AssignAction

/-- The row that it inserts. -/
def Assigning.row (d : Assigning) : ActionAssignment := assignmentRow d.c d.alert_id d.body

/-- A key of an assignment. -/
inductive AssignmentKey where
  | id (tenant_id action_assignment_id : String)
  | logical (tenant_id logical_action_id : String)
  /-- `human_ops_one_current_action_owner` -/
  | current (tenant_id alert_id : String)
  deriving DecidableEq

/-- The row has the key. -/
def AssignmentKey.of (r : ActionAssignment) : AssignmentKey → Bool
  | .id tenant_id assignment_id => r.tenant_id = tenant_id ∧ r.action_assignment_id = assignment_id
  | .logical tenant_id logical_id => r.tenant_id = tenant_id ∧ r.logical_action_id = logical_id
  | .current tenant_id alert_id => r.openOf tenant_id alert_id

/-- A write of an assignment. -/
inductive AssignmentWrite where
  /-- The close of the open assignments that the `UPDATE` has found. -/
  | close (now : ℕ) (tenant_id alert_id actor : String) (ids : List String)
  | enter (key : AssignmentKey)
  | insert (r : ActionAssignment)
  | project (r : ActionAssignment)

/-- What the others wait for. -/
inductive AssignmentLock where
  | key (key : AssignmentKey)
  | projection (tenant_id alert_id : String)
  deriving DecidableEq

def AssignmentWrite.lock : AssignmentWrite → AssignmentLock
  | .close _ tenant_id alert_id _ _ => .key (.current tenant_id alert_id)
  | .enter key => .key key
  | .insert r => .key (.current r.tenant_id r.alert_id)
  | .project r => .projection r.tenant_id r.alert_id

/-- An assignment that the `UPDATE` closes. -/
def ActionAssignment.closes (tenant_id alert_id : String) (ids : List String) (r : ActionAssignment) : Bool :=
  r.openOf tenant_id alert_id ∧ r.action_assignment_id ∈ ids

def AssignmentWrite.apply (x : AssignmentWrite) (db : HumanDb) : HumanDb :=
  match x with
  | .close now tenant_id alert_id actor ids =>
    { db with assignments := updateWhere (·.closes tenant_id alert_id ids) (·.reassigned now actor) db.assignments }
  | .enter _ => db
  | .insert r => { db with assignments := db.assignments ++ [r] }
  | .project r => { db with currentActions := HumanOps.project r db.currentActions }

/-- The next statement of a session. -/
inductive AssignmentPoint where
  | idle
  | checkAlert (d : Assigning)
  | lookup (d : Assigning)
  | update (d : Assigning)
  /-- The `UPDATE` with the rows it has found. -/
  | close (d : Assigning) (ids : List String)
  | enterId (d : Assigning) (closed : List String)
  | enterLogical (d : Assigning) (closed : List String)
  | enterCurrent (d : Assigning) (closed : List String)
  | insert (d : Assigning) (closed : List String)
  | project (d : Assigning) (closed : List String)
  | commit (d : Assigning) (closed : List String)

/-- The assignments in their sessions. -/
abbrev AssignmentSystem := Sessions HumanDb AssignmentWrite AssignmentPoint

namespace AssignmentSystem

variable (s : AssignmentSystem) (w : ℕ)

/-- What a session sees. -/
def view : HumanDb := Sessions.view AssignmentWrite.apply s w

/-- A row enters an index. -/
def enter (key : AssignmentKey) (p : AssignmentPoint) : AssignmentSystem :=
  if s.tx.locked AssignmentWrite.lock w (.key key) then s
  else if (s.view w).assignments.any fun r => key.of r then s.rollback .idle w
  else s.write AssignmentWrite.lock w (.enter key) p

/-- The next statement of a session. -/
def next : AssignmentSystem :=
  match s.pc w with
  | .idle => s
  | .checkAlert d =>
    match _alert_or_404 d.c.tenant_id d.alert_id (s.view w) with
    | .ok _ => s.goto w (.lookup d)
    | .error _ => s.rollback .idle w
  | .lookup d =>
    if (HumanTable.alert_action_assignment.effects (s.view w)).any fun x => x.key = d.c.key then s.rollback .idle w
    else s.goto w (.update d)
  | .update d =>
    s.goto w (.close d (((s.view w).assignments.filter (·.openOf d.c.tenant_id d.alert_id)).map (·.action_assignment_id)))
  | .close d ids =>
    if (s.view w).assignments.any (·.closes d.c.tenant_id d.alert_id ids) then
      s.write AssignmentWrite.lock w (.close d.c.now d.c.tenant_id d.alert_id d.c.actor ids) (.enterId d ids)
    else s.goto w (.enterId d [])
  | .enterId d closed => s.enter w (.id d.c.tenant_id d.c.drawn_id) (.enterLogical d closed)
  | .enterLogical d closed => s.enter w (.logical d.c.tenant_id d.c.logical_id) (.enterCurrent d closed)
  | .enterCurrent d closed => s.enter w (.current d.c.tenant_id d.alert_id) (.insert d closed)
  | .insert d closed => s.write AssignmentWrite.lock w (.insert d.row) (.project d closed)
  | .project d closed => s.write AssignmentWrite.lock w (.project d.row) (.commit d closed)
  | .commit _ _ => s.commit AssignmentWrite.apply .idle w

end AssignmentSystem

/-- A step of the system. -/
inductive AssignmentAct where
  /-- A request comes in, in a session that is free. -/
  | assign (w : ℕ) (c : Call) (alert_id : String) (body : AssignAction)
  | next (w : ℕ)
  /-- A statement fails, or the connection is lost. -/
  | fail (w : ℕ)
  /-- Another request, or another program. -/
  | other (a : HumanAction)

/-- A step. -/
def AssignmentSystem.step (s : AssignmentSystem) : AssignmentAct → AssignmentSystem
  | .assign w c alert_id body =>
    match s.pc w with
    | .idle => if body.action_kind ∈ _ACTION_KINDS then s.goto w (.checkAlert ⟨c, alert_id, body⟩) else s
    | _ => s
  | .next w => s.next w
  | .fail w => s.rollback .idle w
  | .other (.request (.assign ..)) => s
  | .other a => s.outside (s.tx.db.step a)

/-- The system after a run. -/
def AssignmentSystem.exec (run : List AssignmentAct) : AssignmentSystem :=
  run.foldl AssignmentSystem.step (Sessions.init .idle .empty)

/-! ### The law -/

/-- The assignments of an alert. -/
def HumanDb.assignmentsOf (db : HumanDb) (tenant_id alert_id : String) : List ActionAssignment :=
  db.assignments.filter fun r => r.tenant_id = tenant_id ∧ r.alert_id = alert_id

/-- The projection of an alert. -/
def HumanDb.currentOf (db : HumanDb) (tenant_id alert_id : String) : List CurrentAction :=
  db.currentActions.filter (·.is tenant_id alert_id)

/-- The projection that names an assignment. -/
def ActionAssignment.current (r : ActionAssignment) (revision : ℕ) : CurrentAction :=
  ⟨r.tenant_id, r.alert_id, r.action_assignment_id, r.owner_principal_id, r.action_kind, revision⟩

/-- The projection of an alert follows its assignments. -/
def Follows (assignments : List ActionAssignment) (current : List CurrentAction) : Prop :=
  (assignments = [] ∧ current = []) ∨
    ∃ r, assignments.filter (·.effective_until = none) = [r] ∧ current = [r.current assignments.length]

/-- The law of the tables. -/
def AllFollow (db : HumanDb) : Prop := ∀ t a, Follows (db.assignmentsOf t a) (db.currentOf t a)

/-! ### Writes of other alerts -/

section Writes

variable {db : HumanDb} {x : AssignmentWrite} {t a : String}

variable {r : ActionAssignment}

theorem mem_assignmentsOf : r ∈ db.assignmentsOf t a ↔ r ∈ db.assignments ∧ r.tenant_id = t ∧ r.alert_id = a := by
  simp [HumanDb.assignmentsOf]

theorem closes_iff {ids : List String} : r.closes t a ids = true ↔
    r.tenant_id = t ∧ r.alert_id = a ∧ r.effective_until = none ∧ r.action_assignment_id ∈ ids := by
  simp [ActionAssignment.closes, ActionAssignment.openOf, and_assoc]

theorem assignmentsOf_close (now : ℕ) (actor : String) (ids : List String) :
    ((AssignmentWrite.close now t a actor ids).apply db).assignmentsOf t a =
      updateWhere (·.closes t a ids) (·.reassigned now actor) (db.assignmentsOf t a) :=
  updateWhere_filter fun _ => rfl

/-- A write that does not have the alert's key leaves its assignments. -/
theorem assignmentsOf_apply (hlock : x.lock ≠ .key (.current t a)) : (x.apply db).assignmentsOf t a = db.assignmentsOf t a := by
  cases x with
  | close now t' a' actor ids =>
    refine filter_updateWhere fun r _ hr => ?_
    obtain ⟨ht, ha, -⟩ := closes_iff.1 hr
    have hnot : decide (r.tenant_id = t ∧ r.alert_id = a) = false :=
      decide_eq_false fun h => hlock (by rw [AssignmentWrite.lock, ← ht, ← ha, h.1, h.2])
    exact ⟨hnot, hnot⟩
  | enter key => rfl
  | insert r =>
    have hnot : ¬(r.tenant_id = t ∧ r.alert_id = a) := fun h => hlock (by rw [AssignmentWrite.lock, h.1, h.2])
    have hnone : HumanDb.assignmentsOf { db with assignments := [r] } t a = [] :=
      List.filter_cons_of_neg fun h => hnot (of_decide_eq_true h)
    exact (List.filter_append ..).trans ((congrArg (db.assignmentsOf t a ++ ·) hnone).trans (List.append_nil _))
  | project r => rfl

theorem current_of_is {p : CurrentAction} (h : p.is t a = true) : p.tenant_id = t ∧ p.alert_id = a := of_decide_eq_true h

/-- A write that does not have the alert's projection leaves it. -/
theorem currentOf_apply (hlock : x.lock ≠ .projection t a) : (x.apply db).currentOf t a = db.currentOf t a := by
  cases x with
  | project r =>
    have hnot : ¬(r.tenant_id = t ∧ r.alert_id = a) := fun h => hlock (by rw [AssignmentWrite.lock, h.1, h.2])
    dsimp only [AssignmentWrite.apply, HumanDb.currentOf, HumanOps.project]
    split_ifs
    · refine filter_updateWhere fun p _ hp => ?_
      obtain ⟨ht, ha⟩ := current_of_is hp
      exact ⟨decide_eq_false fun h => hnot ⟨ht.symm.trans h.1, ha.symm.trans h.2⟩, decide_eq_false hnot⟩
    · rw [List.filter_append, List.filter_cons_of_neg (by simpa [CurrentAction.is] using hnot), List.filter_nil,
        List.append_nil]
  | _ => rfl

variable {rows : List CurrentAction}

theorem project_of_nil (h : rows.filter (·.is r.tenant_id r.alert_id) = []) :
    (HumanOps.project r rows).filter (·.is r.tenant_id r.alert_id) = [r.current 1] := by
  have hnone : rows.any (·.is r.tenant_id r.alert_id) = false := by
    rw [List.any_eq_false]
    exact fun p hp => List.filter_eq_nil_iff.1 h p hp
  rw [HumanOps.project, hnone, if_neg Bool.false_ne_true, List.filter_append, h, List.nil_append]
  exact List.filter_cons_of_pos (decide_eq_true ⟨rfl, rfl⟩)

/-- The projection of an alert that had one. -/
theorem project_of_single {p : CurrentAction} (h : rows.filter (·.is r.tenant_id r.alert_id) = [p]) :
    (HumanOps.project r rows).filter (·.is r.tenant_id r.alert_id) = [r.current (p.projection_revision + 1)] := by
  have hmem : p ∈ rows.filter (·.is r.tenant_id r.alert_id) := h ▸ List.mem_singleton_self p
  obtain ⟨hp, his⟩ := List.mem_filter.1 hmem
  rw [HumanOps.project, if_pos (List.any_eq_true.2 ⟨p, hp, his⟩)]
  have his' : ∀ n, (r.current n).is r.tenant_id r.alert_id = true := fun _ => decide_eq_true ⟨rfl, rfl⟩
  have hkept : ∀ rows : List CurrentAction, (updateWhere (·.is r.tenant_id r.alert_id)
      (fun old => r.current (old.projection_revision + 1)) rows).filter (·.is r.tenant_id r.alert_id) =
      (rows.filter (·.is r.tenant_id r.alert_id)).map fun old => r.current (old.projection_revision + 1) := by
    intro rows
    induction rows with
    | nil => rfl
    | cons q rows ih =>
      rw [updateWhere_cons]
      by_cases hq : q.is r.tenant_id r.alert_id = true
      · rw [if_pos hq, List.filter_cons_of_pos (his' _), List.filter_cons_of_pos hq, ih]
        rfl
      · rw [if_neg hq, List.filter_cons_of_neg hq, List.filter_cons_of_neg hq, ih]
  exact (hkept rows).trans (by rw [h]; rfl)

variable {ws : List AssignmentWrite}

theorem assignmentsOf_foldl (hlock : ∀ x ∈ ws, x.lock ≠ .key (.current t a)) :
    (ws.foldl (fun db x => x.apply db) db).assignmentsOf t a = db.assignmentsOf t a := by
  induction ws generalizing db with
  | nil => rfl
  | cons x ws ih =>
    rw [List.foldl_cons, ih fun y hy => hlock y (List.mem_cons_of_mem x hy), assignmentsOf_apply (hlock x List.mem_cons_self)]

theorem currentOf_foldl (hlock : ∀ x ∈ ws, x.lock ≠ .projection t a) :
    (ws.foldl (fun db x => x.apply db) db).currentOf t a = db.currentOf t a := by
  induction ws generalizing db with
  | nil => rfl
  | cons x ws ih =>
    rw [List.foldl_cons, ih fun y hy => hlock y (List.mem_cons_of_mem x hy), currentOf_apply (hlock x List.mem_cons_self)]

end Writes

/-! ### The invariant -/

/-- The close of what the `UPDATE` has found. -/
def Assigning.closes (d : Assigning) (closed : List String) : List AssignmentWrite :=
  if closed = [] then [] else [.close d.c.now d.c.tenant_id d.alert_id d.c.actor closed]

/-- The request that has entered the index of the open assignments, and the rows it has closed. -/
def AssignmentPoint.entered : AssignmentPoint → Option (Assigning × List String)
  | .insert d closed | .project d closed | .commit d closed => some (d, closed)
  | _ => none

/-- The keys of the row. -/
def Assigning.enters (d : Assigning) : List AssignmentWrite :=
  [.enter (.id d.c.tenant_id d.c.drawn_id), .enter (.logical d.c.tenant_id d.c.logical_id),
    .enter (.current d.c.tenant_id d.alert_id)]

/-- What a session has written when it is at a point. -/
def AssignmentPoint.written : AssignmentPoint → List AssignmentWrite
  | .idle | .checkAlert _ | .lookup _ | .update _ | .close _ _ => []
  | .enterId d closed => d.closes closed
  | .enterLogical d closed => d.closes closed ++ d.enters.take 1
  | .enterCurrent d closed => d.closes closed ++ d.enters.take 2
  | .insert d closed => d.closes closed ++ d.enters
  | .project d closed => d.closes closed ++ d.enters ++ [.insert d.row]
  | .commit d closed => d.closes closed ++ d.enters ++ [.insert d.row] ++ [.project d.row]

/-- What holds of a session. -/
structure AssignmentPointInv (db : HumanDb) (ws : List AssignmentWrite) (p : AssignmentPoint) : Prop where
  written : ws = p.written
  /-- The open assignments of the alert are those that it closes. -/
  vacant : ∀ x ∈ p.entered, ∀ r ∈ db.assignmentsOf x.1.c.tenant_id x.1.alert_id, r.effective_until = none →
    r.action_assignment_id ∈ x.2

/-- The invariant. -/
structure AssignmentInv (s : AssignmentSystem) : Prop where
  sessions : Sessions.Inv AllFollow AssignmentPointInv s
  exclusive : s.tx.Exclusive AssignmentWrite.lock

section Steps

variable {s : AssignmentSystem} {w : ℕ} {p : AssignmentPoint} {d : Assigning} {closed : List String}

theorem assignmentPointInv_idle (db : HumanDb) : AssignmentPointInv db [] .idle := ⟨rfl, fun _ hx => nomatch hx⟩

/-- A session that is in the index of the alert's open assignment has the key. -/
theorem current_mem_written (h : (d, closed) ∈ p.entered) :
    .enter (.current d.c.tenant_id d.alert_id) ∈ p.written := by
  cases p with
  | insert d' closed' | project d' closed' | commit d' closed' =>
    obtain ⟨rfl, rfl⟩ := Prod.mk.inj (Option.some.inj h)
    simp [AssignmentPoint.written, Assigning.enters]
  | _ => exact nomatch h

/-- The assignments of the alert that a session sees after it has closed what the `UPDATE` has found. -/
theorem assignmentsOf_closes (db : HumanDb) (d : Assigning) (closed : List String) :
    ((d.closes closed).foldl (fun db x => x.apply db) db).assignmentsOf d.c.tenant_id d.alert_id =
      updateWhere (·.closes d.c.tenant_id d.alert_id closed) (·.reassigned d.c.now d.c.actor)
        (db.assignmentsOf d.c.tenant_id d.alert_id) := by
  unfold Assigning.closes
  split_ifs with hnil
  · subst hnil
    exact (updateWhere_of_none fun r _ => by simp [ActionAssignment.closes]).symm
  · exact assignmentsOf_close d.c.now d.c.actor closed

theorem assignmentsOf_committed (db : HumanDb) (d : Assigning) (closed : List String) :
    (((AssignmentPoint.commit d closed).written).foldl (fun db x => x.apply db) db).assignmentsOf d.c.tenant_id d.alert_id =
      updateWhere (·.closes d.c.tenant_id d.alert_id closed) (·.reassigned d.c.now d.c.actor)
        (db.assignmentsOf d.c.tenant_id d.alert_id) ++ [d.row] := by
  have hrow : HumanDb.assignmentsOf { db with assignments := [d.row] } d.c.tenant_id d.alert_id = [d.row] :=
    List.filter_cons_of_pos (decide_eq_true ⟨rfl, rfl⟩)
  rw [← assignmentsOf_closes, ← hrow]
  simp only [AssignmentPoint.written, Assigning.enters, List.foldl_append, List.foldl_cons, List.foldl_nil]
  exact List.filter_append ..

theorem currentOf_committed (db : HumanDb) (d : Assigning) (closed : List String) :
    (((AssignmentPoint.commit d closed).written).foldl (fun db x => x.apply db) db).currentOf d.c.tenant_id d.alert_id =
      (HumanOps.project d.row db.currentActions).filter (·.is d.c.tenant_id d.alert_id) := by
  have hclosed : ((d.closes closed).foldl (fun db x => x.apply db) db).currentActions = db.currentActions := by
    unfold Assigning.closes
    split_ifs <;> rfl
  rw [← hclosed]
  simp only [AssignmentPoint.written, Assigning.enters, List.foldl_append, List.foldl_cons, List.foldl_nil]
  rfl

/-- The alert whose assignment is replaced. -/
theorem follows_committed {db : HumanDb} (h : AllFollow db)
    (hvacant : ∀ r ∈ db.assignmentsOf d.c.tenant_id d.alert_id, r.effective_until = none →
      r.action_assignment_id ∈ closed) :
    Follows ((((AssignmentPoint.commit d closed).written).foldl (fun db x => x.apply db) db).assignmentsOf d.c.tenant_id
        d.alert_id)
      ((((AssignmentPoint.commit d closed).written).foldl (fun db x => x.apply db) db).currentOf d.c.tenant_id
        d.alert_id) := by
  rw [assignmentsOf_committed, currentOf_committed]
  have hprior := h d.c.tenant_id d.alert_id
  refine Or.inr ⟨d.row, ?_, ?_⟩
  · have hnone : (updateWhere (·.closes d.c.tenant_id d.alert_id closed) (·.reassigned d.c.now d.c.actor)
        (db.assignmentsOf d.c.tenant_id d.alert_id)).filter (·.effective_until = none) = [] := by
      rw [List.filter_eq_nil_iff]
      intro x hx hopen
      obtain ⟨r, hr, rfl⟩ := mem_updateWhere.1 hx
      split_ifs at hopen with hcloses
      · exact absurd hopen (by simp [ActionAssignment.reassigned])
      · obtain ⟨-, ht, ha⟩ := mem_assignmentsOf.1 hr
        have hnull := of_decide_eq_true hopen
        exact hcloses (closes_iff.2 ⟨ht, ha, hnull, hvacant r hr hnull⟩)
    rw [List.filter_append, hnone, List.nil_append]
    exact List.filter_cons_of_pos rfl
  · rw [List.length_append, updateWhere, List.length_map, List.length_singleton]
    rcases hprior with ⟨hnil, hcurrent⟩ | ⟨r, -, hcurrent⟩
    · rw [hnil]
      exact project_of_nil (r := d.row) hcurrent
    · exact project_of_single (r := d.row) hcurrent

/-- The other alerts. -/
theorem follows_others {db : HumanDb} (h : AllFollow db) {t a : String} (hne : ¬(t = d.c.tenant_id ∧ a = d.alert_id)) :
    Follows ((((AssignmentPoint.commit d closed).written).foldl (fun db x => x.apply db) db).assignmentsOf t a)
      ((((AssignmentPoint.commit d closed).written).foldl (fun db x => x.apply db) db).currentOf t a) := by
  have hlocks : ∀ x ∈ (AssignmentPoint.commit d closed).written,
      x.lock ≠ .key (.current t a) ∧ x.lock ≠ .projection t a := by
    have hkey : AssignmentKey.current d.c.tenant_id d.alert_id ≠ .current t a := fun heq => by
      obtain ⟨ht, ha⟩ := AssignmentKey.current.inj heq
      exact hne ⟨ht.symm, ha.symm⟩
    have hprojection : AssignmentLock.projection d.c.tenant_id d.alert_id ≠ .projection t a := fun heq => by
      obtain ⟨ht, ha⟩ := AssignmentLock.projection.inj heq
      exact hne ⟨ht.symm, ha.symm⟩
    intro x hx
    rcases List.mem_append.1 hx with hx | hx
    · rcases List.mem_append.1 hx with hx | hx
      · rcases List.mem_append.1 hx with hx | hx
        · unfold Assigning.closes at hx
          split_ifs at hx
          · exact absurd hx List.not_mem_nil
          · obtain rfl := List.mem_singleton.1 hx
            exact ⟨fun heq => hkey (AssignmentLock.key.inj heq), nofun⟩
        · simp only [Assigning.enters, List.mem_cons, List.not_mem_nil, or_false] at hx
          obtain rfl | rfl | rfl := hx
          · exact ⟨nofun, nofun⟩
          · exact ⟨nofun, nofun⟩
          · exact ⟨fun heq => hkey (AssignmentLock.key.inj heq), nofun⟩
      · obtain rfl := List.mem_singleton.1 hx
        exact ⟨fun heq => hkey (AssignmentLock.key.inj heq), nofun⟩
    · obtain rfl := List.mem_singleton.1 hx
      exact ⟨nofun, hprojection⟩
  rw [assignmentsOf_foldl fun x hx => (hlocks x hx).1, currentOf_foldl fun x hx => (hlocks x hx).2]
  exact h t a

namespace AssignmentInv

theorem goto (h : AssignmentInv s) (hp : AssignmentPointInv s.tx.db (s.tx.writes w) p) : AssignmentInv (s.goto w p) :=
  ⟨Sessions.inv_goto h.sessions hp, h.exclusive⟩

theorem write (h : AssignmentInv s) {x : AssignmentWrite}
    (hp : AssignmentPointInv s.tx.db (s.tx.writes w ++ [x]) p) :
    AssignmentInv (s.write AssignmentWrite.lock w x p) := by
  refine ⟨Sessions.inv_write h.sessions hp, ?_⟩
  unfold Sessions.write
  split_ifs with hlocked
  · exact h.exclusive
  · exact h.exclusive.write (by simpa using hlocked)

theorem rollback (h : AssignmentInv s) : AssignmentInv (s.rollback .idle w) :=
  ⟨Sessions.inv_rollback h.sessions (assignmentPointInv_idle _), h.exclusive.rollback⟩

theorem view_eq (h : AssignmentInv s) (w : ℕ) :
    s.view w = ((s.pc w).written).foldl (fun db x => x.apply db) s.tx.db := by
  rw [← (h.sessions.sessions w).written]
  exact Sessions.view_eq s w

/-- A session that has entered an alert's index has the alert's assignments to itself. -/
theorem assignmentsOf_view (h : AssignmentInv s) {v : ℕ} (hv : v ≠ w) (hentered : (d, closed) ∈ (s.pc v).entered) :
    (s.view w).assignmentsOf d.c.tenant_id d.alert_id = s.tx.db.assignmentsOf d.c.tenant_id d.alert_id := by
  have hmine : (v, .enter (.current d.c.tenant_id d.alert_id)) ∈ s.tx.log := by
    rw [← WriteLog.mem_writes, (h.sessions.sessions v).written]
    exact current_mem_written hentered
  have hview : s.view w = (s.tx.writes w).foldl (fun db x => x.apply db) s.tx.db := Sessions.view_eq s w
  rw [hview]
  refine assignmentsOf_foldl fun x hx hlock => hv ?_
  exact h.exclusive _ hmine _ (WriteLog.mem_writes.1 hx) hlock.symm

/-- A commit. -/
theorem commit (h : AssignmentInv s) (hpc : s.pc w = .commit d closed) :
    AssignmentInv (s.commit AssignmentWrite.apply .idle w) := by
  have hview := h.view_eq w
  rw [hpc] at hview
  have hsession := h.sessions.sessions w
  rw [hpc] at hsession
  refine ⟨Sessions.inv_step (w := w) (p := .idle) rfl ?_ ?_ fun v hv => ?_, h.exclusive.commit⟩
  · intro t a
    change Follows ((s.view w).assignmentsOf t a) ((s.view w).currentOf t a)
    rw [hview]
    by_cases hme : t = d.c.tenant_id ∧ a = d.alert_id
    · rw [hme.1, hme.2]
      exact follows_committed h.sessions.committed (hsession.vacant _ rfl)
    · exact follows_others h.sessions.committed hme
  · rw [Sessions.commit, WriteLog.writes_commit]
    exact assignmentPointInv_idle _
  · rw [Sessions.commit, WriteLog.writes_commit_of_ne hv]
    obtain ⟨hwritten, hvacant⟩ := h.sessions.sessions v
    refine ⟨hwritten, fun x hx r hr => hvacant x hx r ?_⟩
    rw [← h.assignmentsOf_view hv hx]
    exact hr

theorem outside (h : AssignmentInv s) {db : HumanDb} (hassignments : db.assignments = s.tx.db.assignments)
    (hcurrent : db.currentActions = s.tx.db.currentActions) : AssignmentInv (s.outside db) := by
  have hof : ∀ t a, db.assignmentsOf t a = s.tx.db.assignmentsOf t a := fun t a => by
    rw [HumanDb.assignmentsOf, hassignments, HumanDb.assignmentsOf]
  refine ⟨Sessions.inv_outside h.sessions (fun t a => ?_) fun w hw => ⟨hw.written, fun x hx r hr => ?_⟩, h.exclusive⟩
  · rw [hof, HumanDb.currentOf, hcurrent]
    exact h.sessions.committed t a
  · rw [hof] at hr
    exact hw.vacant x hx r hr

end AssignmentInv

theorem AssignmentInv.enter (h : AssignmentInv s) {key : AssignmentKey}
    (hp : s.tx.locked AssignmentWrite.lock w (.key key) = false → (∀ r ∈ (s.view w).assignments, key.of r = false) →
      AssignmentPointInv s.tx.db (s.tx.writes w ++ [.enter key]) p) : AssignmentInv (s.enter w key p) := by
  unfold AssignmentSystem.enter
  split_ifs with hlocked hany
  · exact h
  · exact h.rollback
  · have hfree : ∀ r ∈ (s.view w).assignments, key.of r = false := by simpa using hany
    exact h.write (hp (by simpa using hlocked) hfree)

/-- The next statement of a session keeps the invariant. -/
theorem next_assignmentInv (h : AssignmentInv s) (w : ℕ) : AssignmentInv (s.next w) := by
  have hview := h.view_eq w
  obtain ⟨hwritten, hvacant⟩ := h.sessions.sessions w
  unfold AssignmentSystem.next
  split
  · exact h
  · rename_i d hpc
    rw [hpc] at hwritten
    split
    · exact h.goto ⟨hwritten, fun _ hx => nomatch hx⟩
    · exact h.rollback
  · rename_i d hpc
    rw [hpc] at hwritten
    split_ifs
    · exact h.rollback
    · exact h.goto ⟨hwritten, fun _ hx => nomatch hx⟩
  · rename_i d hpc
    rw [hpc] at hwritten
    exact h.goto ⟨hwritten, fun _ hx => nomatch hx⟩
  · rename_i d ids hpc
    rw [hpc] at hwritten
    split_ifs with hany
    · refine h.write ⟨?_, fun _ hx => nomatch hx⟩
      have hids : ids ≠ [] := by
        rintro rfl
        simp [ActionAssignment.closes] at hany
      rw [hwritten]
      exact (if_neg hids).symm
    · exact h.goto ⟨hwritten, fun _ hx => nomatch hx⟩
  · rename_i d closed hpc
    rw [hpc] at hwritten
    exact h.enter fun _ _ => ⟨by rw [hwritten]; rfl, fun _ hx => nomatch hx⟩
  · rename_i d closed hpc
    rw [hpc] at hwritten
    refine h.enter fun _ _ => ⟨?_, fun _ hx => nomatch hx⟩
    rw [hwritten, AssignmentPoint.written, List.append_assoc]
    rfl
  · rename_i d closed hpc
    rw [hpc] at hwritten hview
    refine h.enter fun _ hfree => ⟨?_, fun x hx r hr hopen => ?_⟩
    · rw [hwritten, AssignmentPoint.written, List.append_assoc]
      rfl
    · -- No open assignment is in the index, so those that are committed are the ones that the session has closed.
      obtain rfl := Option.some.inj hx
      by_contra hnot
      have hkept : r ∈ (s.view w).assignmentsOf d.c.tenant_id d.alert_id := by
        rw [hview, AssignmentPoint.written, List.foldl_append]
        change r ∈ ((d.closes closed).foldl (fun db x => x.apply db) s.tx.db).assignmentsOf d.c.tenant_id d.alert_id
        rw [assignmentsOf_closes]
        exact mem_updateWhere_of_not hr (decide_eq_false fun hcloses => hnot hcloses.2)
      obtain ⟨hkept, ht, ha⟩ := mem_assignmentsOf.1 hkept
      have hopened : (AssignmentKey.current d.c.tenant_id d.alert_id).of r = true := decide_eq_true ⟨ht, ha, hopen⟩
      exact absurd (hfree r hkept) (by rw [hopened]; decide)
  · rename_i d closed hpc
    rw [hpc] at hwritten hvacant
    exact h.write ⟨by rw [hwritten]; rfl, hvacant⟩
  · rename_i d closed hpc
    rw [hpc] at hwritten hvacant
    exact h.write ⟨by rw [hwritten]; rfl, hvacant⟩
  · rename_i d closed hpc
    exact h.commit hpc

/-- A request that is not for an assignment. -/
theorem insert_others {r : HumanRequest} {db db' : HumanDb} (h : r.insert db = .ok db')
    (hr : ∀ c alert_id body, r ≠ .assign c alert_id body) :
    db'.assignments = db.assignments ∧ db'.currentActions = db.currentActions := by
  cases r with
  | assign c alert_id body => exact absurd rfl (hr c alert_id body)
  | acknowledge c alert_id note =>
    simp only [HumanRequest.insert, insertAcknowledgement] at h
    split_ifs at h
    obtain ⟨rows, -, heq⟩ := bind_ok_iff.1 h
    obtain rfl := Except.ok.inj heq
    exact ⟨rfl, rfl⟩
  | responsibility c body =>
    simp only [HumanRequest.insert, insertResponsibility] at h
    split_ifs at h
    obtain ⟨rows, -, heq⟩ := bind_ok_iff.1 h
    obtain rfl := Except.ok.inj heq
    exact ⟨rfl, rfl⟩
  | requirement c alert_id body =>
    obtain ⟨rows, -, heq⟩ := bind_ok_iff.1 h
    obtain rfl := Except.ok.inj heq
    exact ⟨rfl, rfl⟩

/-- The other requests and programs leave the two tables. -/
theorem other_step (db : HumanDb) {a : HumanAction} (ha : ∀ c alert_id body, a ≠ .request (.assign c alert_id body)) :
    (db.step a).assignments = db.assignments ∧ (db.step a).currentActions = db.currentActions := by
  cases a with
  | request r =>
    have hr : ∀ c alert_id body, r ≠ .assign c alert_id body := fun c alert_id body heq =>
      ha c alert_id body (congrArg HumanAction.request heq)
    dsimp only [HumanDb.step]
    split
    · rename_i reply db' hrun
      rcases (run_ok hrun).2 with ⟨-, -, -, -, rfl⟩ | ⟨-, hinsert⟩
      · exact ⟨rfl, rfl⟩
      · exact insert_others hinsert hr
    · exact ⟨rfl, rfl⟩
  | alert tenant_id alert_id state =>
    dsimp only [HumanDb.step]
    split_ifs <;> exact ⟨rfl, rfl⟩
  | resource tenant_id resource_id => exact ⟨rfl, rfl⟩
  | end_responsibility now tenant_id actor assignment_id end_reason => exact ⟨rfl, rfl⟩

/-- A step keeps the invariant. -/
theorem step_assignmentInv (h : AssignmentInv s) (a : AssignmentAct) : AssignmentInv (s.step a) := by
  cases a with
  | assign w c alert_id body =>
    dsimp only [AssignmentSystem.step]
    split
    · rename_i hpc
      have hwritten := (h.sessions.sessions w).written
      rw [hpc] at hwritten
      split_ifs
      · exact h.goto ⟨hwritten, fun _ hx => nomatch hx⟩
      · exact h
    · exact h
  | next w => exact next_assignmentInv h w
  | fail w => exact h.rollback
  | other a =>
    cases a with
    | request r =>
      cases r with
      | assign c alert_id body => exact h
      | acknowledge c alert_id note =>
        obtain ⟨hassignments, hcurrent⟩ := other_step s.tx.db (a := .request (.acknowledge c alert_id note)) nofun
        exact h.outside hassignments hcurrent
      | responsibility c body =>
        obtain ⟨hassignments, hcurrent⟩ := other_step s.tx.db (a := .request (.responsibility c body)) nofun
        exact h.outside hassignments hcurrent
      | requirement c alert_id body =>
        obtain ⟨hassignments, hcurrent⟩ := other_step s.tx.db (a := .request (.requirement c alert_id body)) nofun
        exact h.outside hassignments hcurrent
    | alert tenant_id alert_id state =>
      obtain ⟨hassignments, hcurrent⟩ := other_step s.tx.db (a := .alert tenant_id alert_id state) nofun
      exact h.outside hassignments hcurrent
    | resource tenant_id resource_id => exact h.outside rfl rfl
    | end_responsibility now tenant_id actor assignment_id end_reason => exact h.outside rfl rfl

theorem assignmentInv_exec (run : List AssignmentAct) : AssignmentInv (.exec run) := by
  induction run using List.reverseRecOn with
  | nil =>
    exact ⟨Sessions.inv_init (fun _ _ => Or.inl ⟨rfl, rfl⟩) (assignmentPointInv_idle _), fun x hx => absurd hx List.not_mem_nil⟩
  | append_singleton run a ih =>
    rw [AssignmentSystem.exec, List.foldl_append]
    exact step_assignmentInv ih a

end Steps

/-- **Key result**: after every run an alert has no assignment and no projection, or one open assignment; then the
projection names that one, and its revision is the number of the alert's assignments. -/
theorem current_action_follows (run : List AssignmentAct) (tenant_id alert_id : String) :
    Follows ((AssignmentSystem.exec run).tx.db.assignmentsOf tenant_id alert_id)
      ((AssignmentSystem.exec run).tx.db.currentOf tenant_id alert_id) :=
  (assignmentInv_exec run).sessions.committed tenant_id alert_id

end JLMirror.HumanOps
