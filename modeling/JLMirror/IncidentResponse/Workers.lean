import JLMirror.Foundations.WriteLog
import JLMirror.IncidentResponse.Actions

/-!
# Workers that complete actions

Any number of workers over the tables of `JLMirror.IncidentResponse.Actions`, at READ COMMITTED, with
the calls of the API beside them.

## The model

The workers share a `Foundations.WriteLog`. A transaction claims and completes actions, in any number,
and ends with a commit or a rollback; the two statements of `g11_complete_action` are two steps. A row
that a transaction has written is not written by another one until it ends. The API stores events,
enqueues actions and marks events as processed, each time in a transaction of its own.

## What is proved

* `Write.apply_eq` — a write, row by row.
* `seen_actions`, `seen_events` — what a set of workers sees of the actions and of the events.
* `after_congr`, `unsettled_after` — only the writes on its row make something of an action, and only a
  completion ends it.

`JLMirror.IncidentResponse.Settling` says when the events settle.

## Honest scope

Writes of one event by two transactions are not serialised: they write the same value.
-/

namespace JLMirror.IncidentResponse

open JLMirror.Foundations

/-! ### Keys -/

/-- The event that an action is part of. -/
def ActionRequest.event (a : ActionRequest) : String × String := (a.tenant_id, a.event_id)

/-- `PRIMARY KEY (tenant_id, event_id)` -/
def ErrorEvent.key (e : ErrorEvent) : String × String := (e.tenant_id, e.event_id)

/-! ### The functions of the API -/

/-- `g11_store_event`; `none` if it raises. -/
def g11_store_event (tenant_id event_id : String) (db : IrDb) : Option IrDb :=
  if db.events.any (isEventOf tenant_id (some event_id)) then none
  else
    let event : ErrorEvent := ⟨tenant_id, event_id, .received⟩
    some { db with events := db.events ++ [event] }

/-- `g11_enqueue_action`; `none` if it raises. -/
def g11_enqueue_action (now : ℕ) (tenant_id event_id : String) (kind : ActionKind) (request_id : String) (db : IrDb) :
    Option IrDb :=
  if db.events.any (isEventOf tenant_id (some event_id)) ∧ ¬db.actions.any (·.request_id = request_id) then
    let action : ActionRequest := ⟨request_id, tenant_id, event_id, kind, .pending, 0, none, none, none, none, none, now⟩
    some { db with actions := db.actions ++ [action] }
  else none

/-- An event that is done. -/
def ErrorEvent.toProcessed (e : ErrorEvent) : ErrorEvent := { e with status := .processed }

/-- `g11_mark_event_processed`; `none` if it raises. -/
def g11_mark_event_processed (tenant_id event_id : String) (db : IrDb) : Option IrDb :=
  match db.events.find? (isEventOf tenant_id (some event_id)) with
  | none => none
  | some e =>
    if e.status = .processed then some db
    else some { db with events := updateWhere (isEventOf tenant_id (some event_id)) ErrorEvent.toProcessed db.events }

/-! ### The workers -/

/-- What a transaction writes. -/
inductive Write where
  | claimed (tenant_id request_id executor : String) (expires_at : ℕ)
  | settled (tenant_id request_id : String) (r : ActionResult)
  | processed (tenant_id event_id : String)
  deriving DecidableEq

/-- The row of an action. -/
def ActionRequest.row (a : ActionRequest) : String × String := (a.tenant_id, a.request_id)

/-- The action has the row. -/
def isAction (row : String × String) (a : ActionRequest) : Bool := a.row = row

/-- The row of an action that is written, and locked. -/
def Write.row : Write → Option (String × String)
  | .claimed t rid _ _ | .settled t rid _ => some (t, rid)
  | .processed _ _ => none

/-- What becomes of the action. -/
def Write.onAction : Write → ActionRequest → ActionRequest
  | .claimed _ _ executor expires_at => ActionRequest.claimBy executor expires_at
  | .settled _ _ r => ActionRequest.settle r
  | .processed _ _ => id

/-- A write on the tables. -/
def Write.apply (x : Write) (db : IrDb) : IrDb :=
  match x with
  | .claimed t rid _ _ | .settled t rid _ => { db with actions := updateWhere (isAction (t, rid)) x.onAction db.actions }
  | .processed t eid => { db with events := updateWhere (isEventOf t (some eid)) ErrorEvent.toProcessed db.events }

/-- The write is the first statement of a completion. -/
def Write.settles (row : String × String) : Write → Bool
  | .settled t rid _ => (t, rid) = row
  | .claimed .. | .processed .. => false

/-- The tables, the open transactions, and the workers between the two statements of a completion. -/
structure IrWorld where
  tx : WriteLog IrDb Write
  /-- The tenant and the request of the completion. -/
  pc : ℕ → Option (String × String)

/-- What a worker sees. -/
def IrWorld.view (s : IrWorld) (w : ℕ) : IrDb := s.tx.view Write.apply w

/-- Another transaction has written the row. -/
def IrWorld.locked (s : IrWorld) (w : ℕ) (row : String × String) : Bool :=
  s.tx.log.any fun x => x.1 ≠ w ∧ x.2.row = some row

/-- The worker has completed an action of the event, and will look at the event next. -/
def IrWorld.on (s : IrWorld) (w : ℕ) (event : String × String) : Bool :=
  match s.pc w with
  | none => false
  | some row => s.tx.db.actions.any fun a => isAction row a ∧ a.event = event

/-- A step of the system. -/
inductive IrAct where
  | store (tenant_id event_id : String)
  | enqueue (now : ℕ) (tenant_id event_id : String) (kind : ActionKind) (request_id : String)
  | mark (tenant_id event_id : String)
  | claim (w now : ℕ) (tenant_id request_id executor : String) (claim_seconds : ℕ)
  /-- The first statement of `g11_complete_action`. -/
  | settle (w : ℕ) (tenant_id request_id executor : String) (r : ActionResult)
  /-- The second. -/
  | process (w : ℕ)
  | commit (w : ℕ)
  /-- Also what a crash comes to. -/
  | rollback (w : ℕ)

/-- Another session has committed; if it raised, nothing happens. -/
def IrWorld.publish (s : IrWorld) (db : Option IrDb) : IrWorld := { s with tx := { s.tx with db := db.getD s.tx.db } }

/-- The second statement of `g11_complete_action`. -/
def IrWorld.processEvent (s : IrWorld) (w : ℕ) (row : String × String) : WriteLog IrDb Write :=
  match eventIdOf row.2 (s.view w) with
  | none => s.tx
  | some eid => if someUnsettled row.1 (some eid) (s.view w) then s.tx else s.tx.write w (.processed row.1 eid)

/-- A step: nothing happens where the worker is at another point or would wait. -/
def IrWorld.step (s : IrWorld) : IrAct → IrWorld
  | .store t eid => s.publish (g11_store_event t eid s.tx.db)
  | .enqueue now t eid kind rid => s.publish (g11_enqueue_action now t eid kind rid s.tx.db)
  | .mark t eid => s.publish (g11_mark_event_processed t eid s.tx.db)
  | .claim w now t rid executor claim_seconds =>
    if s.pc w = none ∧ ¬s.locked w (t, rid) ∧ (s.view w).actions.any (isClaimable t rid) then
      { s with tx := s.tx.write w (.claimed t rid executor (now + claim_seconds)) }
    else s
  | .settle w t rid executor r =>
    if s.pc w = none ∧ ¬s.locked w (t, rid) ∧ (s.view w).actions.any (isOwned t rid executor) then
      ⟨s.tx.write w (.settled t rid r), Function.update s.pc w (some (t, rid))⟩
    else s
  | .process w =>
    match s.pc w with
    | none => s
    | some row => ⟨s.processEvent w row, Function.update s.pc w none⟩
  | .commit w => if s.pc w = none then { s with tx := s.tx.commit Write.apply w } else s
  | .rollback w => ⟨s.tx.rollback w, Function.update s.pc w none⟩

/-- No event, and no transaction. -/
def IrWorld.init : IrWorld := ⟨⟨⟨[], [], [], [], [], [], []⟩, []⟩, fun _ => none⟩

/-! ### What a set of workers sees -/

/-- A write on an action: it is for its row, or leaves the action alone. -/
def Write.on (x : Write) (a : ActionRequest) : ActionRequest := if x.row = some a.row then x.onAction a else a

/-- What the workers have made of an action. -/
def IrWorld.after (s : IrWorld) (S : ℕ → Bool) (a : ActionRequest) : ActionRequest :=
  (s.tx.log.filter fun x => S x.1).foldl (fun a x => x.2.on a) a

/-- The write marks the event. -/
def Write.marks (event : String × String) (x : Write) : Bool := x = .processed event.1 event.2

/-- One of the workers has marked the event. -/
def IrWorld.marked (s : IrWorld) (S : ℕ → Bool) (event : String × String) : Bool :=
  (s.tx.log.filter fun x => S x.1).any fun x => x.2.marks event

variable {s : IrWorld} {S : ℕ → Bool}

theorem marked_iff {event : String × String} :
    s.marked S event = true ↔ ∃ x ∈ s.tx.log, S x.1 = true ∧ x.2.marks event = true := by
  simp [IrWorld.marked]

/-- A write, row by row. -/
theorem Write.apply_eq (x : Write) (db : IrDb) : x.apply db =
    { db with
      actions := db.actions.map x.on
      events := db.events.map fun e => if x.marks e.key then e.toProcessed else e } := by
  have hrow : ∀ row : String × String, x.row = some row →
      updateWhere (isAction row) x.onAction db.actions = db.actions.map x.on := by
    intro row hrow
    refine List.map_congr_left fun a _ => ?_
    simp only [Write.on, isAction, hrow, Option.some.injEq, decide_eq_true_eq, eq_comm (a := row)]
  cases x with
  | claimed t rid executor n => simp [apply, ← hrow _ rfl, marks]
  | settled t rid r => simp [apply, ← hrow _ rfl, marks]
  | processed t eid =>
    have hon : db.actions.map (Write.processed t eid).on = db.actions := List.map_id' _
    have hmarks : ∀ e, (Write.processed t eid).marks e.key = isEventOf t (some eid) e := by
      intro e
      simp [isEventOf, Write.marks, ErrorEvent.key, eq_comm]
    simp [apply, hon, hmarks, updateWhere]

theorem Write.apply_actions (x : Write) (db : IrDb) : (x.apply db).actions = db.actions.map x.on := by
  rw [apply_eq]

theorem Write.apply_events (x : Write) (db : IrDb) :
    (x.apply db).events = db.events.map fun e => if x.marks e.key then e.toProcessed else e := by
  rw [apply_eq]

/-- What a set of workers sees of the actions. -/
theorem seen_actions (s : IrWorld) (S : ℕ → Bool) :
    (s.tx.seenBy Write.apply S).actions = s.tx.db.actions.map (s.after S) := by
  have hfold : ∀ (xs : List (ℕ × Write)) (db : IrDb), (xs.foldl (fun db x => x.2.apply db) db).actions =
      db.actions.map fun a => xs.foldl (fun a x => x.2.on a) a := by
    intro xs
    induction xs with
    | nil => exact fun db => (List.map_id' _).symm
    | cons x xs ih =>
      intro db
      rw [List.foldl_cons, ih, Write.apply_actions, List.map_map]
      rfl
  exact hfold ..

/-- What a set of workers sees of the events. -/
theorem seen_events (s : IrWorld) (S : ℕ → Bool) : (s.tx.seenBy Write.apply S).events =
    s.tx.db.events.map fun e => if s.marked S e.key then e.toProcessed else e := by
  have hfold : ∀ (xs : List (ℕ × Write)) (db : IrDb), (xs.foldl (fun db x => x.2.apply db) db).events =
      db.events.map fun e => if xs.any fun x => x.2.marks e.key then e.toProcessed else e := by
    intro xs
    induction xs with
    | nil => exact fun db => (List.map_id' _).symm
    | cons x xs ih =>
      intro db
      rw [List.foldl_cons, ih, Write.apply_events, List.map_map]
      refine List.map_congr_left fun e _ => ?_
      have hkey : e.toProcessed.key = e.key := rfl
      by_cases hx : x.2.marks e.key = true
      · simp only [Function.comp_apply, hx, if_true, hkey, List.any_cons, Bool.true_or]
        exact ite_self _
      · simp only [Function.comp_apply, hx, Bool.false_eq_true, if_false, List.any_cons, Bool.false_or]
  exact hfold ..

theorem Write.on_row (x : Write) (a : ActionRequest) : (x.on a).row = a.row := by
  unfold Write.on
  split_ifs
  · cases x <;> rfl
  · rfl

theorem Write.on_event (x : Write) (a : ActionRequest) : (x.on a).event = a.event := by
  unfold Write.on
  split_ifs
  · cases x <;> rfl
  · rfl

theorem after_keeps {κ : Type} {k : ActionRequest → κ} (hk : ∀ (x : Write) a, k (x.on a) = k a) (s : IrWorld)
    (S : ℕ → Bool) (a : ActionRequest) : k (s.after S a) = k a := by
  unfold IrWorld.after
  generalize s.tx.log.filter _ = xs
  induction xs generalizing a with
  | nil => rfl
  | cons x xs ih => exact (ih _).trans (hk x.2 a)

@[simp] theorem after_row (s : IrWorld) (S : ℕ → Bool) (a : ActionRequest) : (s.after S a).row = a.row :=
  after_keeps Write.on_row s S a

@[simp] theorem after_event (s : IrWorld) (S : ℕ → Bool) (a : ActionRequest) : (s.after S a).event = a.event :=
  after_keeps Write.on_event s S a

theorem after_request_id (s : IrWorld) (S : ℕ → Bool) (a : ActionRequest) : (s.after S a).request_id = a.request_id :=
  congrArg Prod.snd (after_row s S a)

variable {a : ActionRequest}

/-- Only the writes on its row make something of an action. -/
theorem after_congr {T : ℕ → Bool} (h : ∀ x ∈ s.tx.log, x.2.row = some a.row → S x.1 = T x.1) :
    s.after S a = s.after T a := by
  unfold IrWorld.after
  generalize s.tx.log = xs at h
  induction xs generalizing a with
  | nil => rfl
  | cons x xs ih =>
    have hrest := ih (a := x.2.on a) fun y hy hrow => h y (List.mem_cons_of_mem x hy) (hrow.trans (by rw [x.2.on_row]))
    have hrest' := ih fun y hy hrow => h y (List.mem_cons_of_mem x hy) hrow
    by_cases hrow : x.2.row = some a.row
    · have hx := h x List.mem_cons_self hrow
      cases hS : S x.1 <;> simp [hS, hx ▸ hS, hrest, hrest']
    · have hon : x.2.on a = a := if_neg hrow
      cases hS : S x.1 <;> cases hT : T x.1 <;> simp [hS, hT, hon, hrest']

theorem after_none (h : ∀ x ∈ s.tx.log, x.2.row = some a.row → S x.1 = false) : s.after S a = a := by
  rw [after_congr (T := fun _ => false) h]
  simp [IrWorld.after]

/-- An action that is open stays so under writes that do not complete it. -/
theorem unsettled_after (ha : a.status.unsettled = true)
    (h : ∀ x ∈ s.tx.log, S x.1 = true → x.2.settles a.row = false) : (s.after S a).status.unsettled = true := by
  unfold IrWorld.after
  generalize s.tx.log = xs at h
  induction xs generalizing a with
  | nil => exact ha
  | cons x xs ih =>
    have hxs : ∀ y ∈ xs, S y.1 = true → y.2.settles a.row = false := fun y hy => h y (List.mem_cons_of_mem x hy)
    cases hS : S x.1 with
    | false => simpa [hS] using ih ha hxs
    | true =>
      have hon : (x.2.on a).status.unsettled = true := by
        have hx := h x List.mem_cons_self hS
        unfold Write.on
        split_ifs with hrow
        · cases hwrite : x.2 with
          | claimed => rfl
          | settled t rid r =>
            rw [hwrite] at hrow hx
            exact absurd (Option.some.inj hrow) (by simpa [Write.settles] using hx)
          | processed => exact ha
        · exact ha
      simpa [hS] using ih hon (by simpa only [Write.on_row] using hxs)

theorem mem_view {w : ℕ} {b : ActionRequest} :
    b ∈ (s.view w).actions ↔ ∃ a ∈ s.tx.db.actions, s.after (· = w) a = b := by
  rw [IrWorld.view, WriteLog.view, seen_actions, List.mem_map]

end JLMirror.IncidentResponse
