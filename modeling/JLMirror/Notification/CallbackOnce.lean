import JLMirror.Foundations.Sessions
import JLMirror.Notification.RetryBound

/-!
# A callback counts once

"Durable dedup + poison path before effects": a provider may redeliver a callback as often as it likes. The inbox takes a
body once for each tenant, and the evidence takes a callback id once for each tenant. The reference of a callback is bound
to one intent for ever, so the tenant does not change between redeliveries.

## The model

* Every delivery is a session (`Sessions`), and goes statement by statement; the transactions of the worker and of the API
  come in between. `_recompute_projection` is one statement.
* The binding is read before the inbox is written, so it may be missing at one delivery and there at the next.
* `CallbackTables.recorded` is the evidence that the callbacks have recorded, each with its delivery. No statement reads it.

## What is proved

* **Key result** (`callbacks_counted_once`): after every run a body has one row of evidence at most, and so has a callback
  id with its reference; the row is of the intent that the reference is bound to; and a delivery changes the rows of that
  intent only.
-/

namespace JLMirror.Notification

open JLMirror.Foundations JLMirror.Alerting

/-! ### The sessions -/

/-- A signed body that has come in. -/
structure Delivery where
  /-- The numbers of its inbox row and of its evidence are this one and the next. -/
  number : ℕ
  now : ℕ
  clock : ℚ
  raw : String
  payload : CallbackPayload
  deriving DecidableEq

/-- The tables of the notifications, and what was recorded of which delivery. -/
structure CallbackTables where
  store : Store
  inbox : List CallbackInboxRow
  recorded : List (Delivery × ProviderEvidence)

/-- A write of a delivery. -/
inductive CallbackWrite where
  | inbox (row : CallbackInboxRow)
  | evidence (d : Delivery) (row : ProviderEvidence)
  | project (row : NotificationProjection)

/-- The row that the others wait for. -/
inductive CallbackLock where
  | inbox (key : String × String)
  | callback (key : String × String)
  | evidence (number : ℕ)
  | projection (tenant_id : String) (intent_id : ℕ)
  deriving DecidableEq

/-- The key of the evidence in its index, which is partial. -/
def ProviderEvidence.callbackKey (e : ProviderEvidence) : Option (String × String) :=
  e.provider_callback_id.map fun id => (e.tenant_id, id)

def CallbackWrite.row : CallbackWrite → CallbackLock
  | .inbox row => .inbox row.key
  | .evidence _ row =>
    match row.callbackKey with
    | none => .evidence row.notification_evidence_id
    | some key => .callback key
  | .project row => .projection row.tenant_id row.notification_intent_id

/-- The upsert of a projection. -/
def upsertProjection (new : NotificationProjection) (rows : List NotificationProjection) : List NotificationProjection :=
  if rows.any (·.is new.tenant_id new.notification_intent_id) then
    updateWhere (·.is new.tenant_id new.notification_intent_id) new.over rows
  else rows ++ [new]

def CallbackWrite.apply (x : CallbackWrite) (db : CallbackTables) : CallbackTables :=
  match x with
  | .inbox row => { db with inbox := db.inbox ++ [row] }
  | .evidence d row =>
    { db with store := { db.store with evidence := db.store.evidence ++ [row] }, recorded := db.recorded ++ [(d, row)] }
  | .project row => { db with store := { db.store with projections := upsertProjection row db.store.projections } }

/-- The keys of the inbox. -/
def CallbackTables.bodies (db : CallbackTables) : List (String × String) := db.inbox.map CallbackInboxRow.key

/-- The callback ids that are on record, each with its tenant. -/
def CallbackTables.callbacks (db : CallbackTables) : List (String × String) :=
  db.store.evidence.filterMap ProviderEvidence.callbackKey

/-- The inbox has the body. -/
def CallbackTables.hasBody (db : CallbackTables) (key : String × String) : Bool := db.inbox.any fun r => r.key = key

/-- The callback id is on record, if there is one. -/
def CallbackTables.hasCallback (db : CallbackTables) : Option (String × String) → Bool
  | none => false
  | some key => db.store.evidence.any fun e => e.callbackKey = some key

theorem hasBody_iff {db : CallbackTables} {key : String × String} : db.hasBody key = true ↔ key ∈ db.bodies := by
  simp [CallbackTables.hasBody, CallbackTables.bodies]

theorem hasCallback_iff {db : CallbackTables} {key : String × String} :
    db.hasCallback (some key) = true ↔ key ∈ db.callbacks := by
  simp [CallbackTables.hasCallback, CallbackTables.callbacks]

def CallbackWrite.body : CallbackWrite → Option (String × String)
  | .inbox row => some row.key
  | _ => none

def CallbackWrite.callback : CallbackWrite → Option (String × String)
  | .evidence _ row => row.callbackKey
  | _ => none

/-- The evidence of a delivery. -/
def Delivery.evidence (d : Delivery) (b : ProviderRefBinding) : ProviderEvidence where
  tenant_id := b.tenant_id
  notification_evidence_id := d.number + 1
  notification_intent_id := b.notification_intent_id
  normalized_state := normalizedStatus d.payload.status
  provider_callback_id := d.payload.callback_id
  provider_message_ref := d.payload.provider_message_ref
  observed_at := d.now

/-- The inbox row of a delivery. -/
def Delivery.row (E : Endpoint) (d : Delivery) (binding : Option ProviderRefBinding) : CallbackInboxRow :=
  inboxRow E d.now d.clock d.raw d.payload binding d.number

/-- The next statement of a session. -/
inductive CallbackPoint where
  | idle
  | readBinding (d : Delivery)
  | insertInbox (d : Delivery) (binding : Option ProviderRefBinding)
  | insertEvidence (d : Delivery) (b : ProviderRefBinding)
  | project (d : Delivery) (b : ProviderRefBinding)
  /-- The projection that was written, if there was new evidence. -/
  | commit (d : Delivery) (binding : Option ProviderRefBinding) (projected : Option NotificationProjection)

/-- The statement after the inbox row: evidence, if there is an intent and the timestamp is not expired. -/
def Delivery.afterInbox (E : Endpoint) (d : Delivery) : Option ProviderRefBinding → CallbackPoint
  | none => .commit d none none
  | some b => if d.payload.expired d.clock E.window then .commit d (some b) none else .insertEvidence d b

/-- The deliveries in their sessions. -/
abbrev CallbackSystem := Sessions CallbackTables CallbackWrite CallbackPoint

namespace CallbackSystem

variable (E : Endpoint) (s : CallbackSystem) (w : ℕ)

/-- What a session sees. -/
def view : CallbackTables := Sessions.view CallbackWrite.apply s w

/-- The next statement of a session. -/
def next : CallbackSystem :=
  match s.pc w with
  | .idle => s
  | .readBinding d =>
    s.goto w (.insertInbox d (bindingOf d.payload.provider_message_ref (s.view w).store.refBindings))
  | .insertInbox d binding =>
    -- A replayed callback.
    if (s.view w).hasBody (d.row E binding).key then s.commit CallbackWrite.apply .idle w
    else s.write CallbackWrite.row w (.inbox (d.row E binding)) (d.afterInbox E binding)
  | .insertEvidence d b =>
    if (s.view w).hasCallback (d.evidence b).callbackKey then s.goto w (.commit d (some b) none)
    else s.write CallbackWrite.row w (.evidence d (d.evidence b)) (.project d b)
  | .project d b =>
    let row := projectionOf b.tenant_id b.notification_intent_id (s.view w).store
    s.write CallbackWrite.row w (.project row) (.commit d (some b) (some row))
  | .commit _ _ _ => s.commit CallbackWrite.apply .idle w

end CallbackSystem

/-- A step of the system. -/
inductive CallbackAct where
  /-- A body comes in, in a session that is free. -/
  | deliver (w now : ℕ) (clock : ℚ) (raw sig : String)
  | next (w : ℕ)
  /-- A statement fails, or the connection is lost. -/
  | fail (w : ℕ)
  | create (now : ℕ) (tenant_id alert_id destination_ref : String) (channel_class : ChannelClass) (payload_ref : String)
  | claim (now : ℕ)
  /-- The attempt of any dispatch with any token. -/
  | attempt (now : ℕ) (r : DispatchRow) (token : ℕ) (result : SendResult)

/-- A transaction of the worker or of the API. -/
def Store.other (s : Store) : CallbackAct → Store
  | .create now tenant_id alert_id destination_ref channel_class payload_ref =>
    create_intent now tenant_id alert_id destination_ref channel_class payload_ref s
  | .claim now => ((oldestDue now s).map fun r => claim_dispatch r s).getD s
  | .attempt now r token result =>
    match result.attempt with
    | none => s
    | some a =>
      match recordAttempt now r token a s with
      | .ok s' => s'
      | .error _ => s
  | _ => s

/-- A step. -/
def CallbackSystem.step (E : Endpoint) (s : CallbackSystem) : CallbackAct → CallbackSystem
  | .deliver w now clock raw sig =>
    match s.pc w, E.payload raw with
    | .idle, some p =>
      if sig ≠ E.signature raw then s
      else
        let store := s.tx.db.store
        (s.outside { s.tx.db with store := { store with nextToken := store.nextToken + 2 } }).goto w
          (.readBinding ⟨store.nextToken, now, clock, raw, p⟩)
    | _, _ => s
  | .next w => s.next E w
  | .fail w => s.rollback .idle w
  | a => s.outside { s.tx.db with store := s.tx.db.store.other a }

/-- The system after a run. -/
def CallbackSystem.exec (E : Endpoint) (run : List CallbackAct) : CallbackSystem :=
  run.foldl (CallbackSystem.step E) (Sessions.init .idle ⟨.empty, [], []⟩)

/-! ### The law -/

/-- The binding that a delivery went by. -/
def Delivery.BoundBy (d : Delivery) (bindings : List ProviderRefBinding) (b : ProviderRefBinding) : Prop :=
  b ∈ bindings ∧ some b.provider_message_ref = d.payload.provider_message_ref

/-- What the callbacks have recorded counts once. -/
structure CountedOnce (db : CallbackTables) : Prop where
  body : ∀ raw, (db.recorded.filter fun x => x.1.raw = raw).length ≤ 1
  callback : ∀ id ref, (db.recorded.filter fun x =>
    x.1.payload.callback_id = some id ∧ x.1.payload.provider_message_ref = ref).length ≤ 1
  /-- Whatever the reference, a callback id has one row of a tenant. -/
  tenant : ∀ key, (db.store.evidence.filter fun e => e.callbackKey = some key).length ≤ 1
  /-- It is of the intent that the reference is bound to. -/
  bound : ∀ x ∈ db.recorded, ∃ b, x.1.BoundBy db.store.refBindings b ∧ x.2 = x.1.evidence b
  stored : (db.recorded.map Prod.snd).Sublist db.store.evidence

/-- Only rows of one tenant and one intent are new or changed. -/
structure OnlyOf (tenant_id : String) (intent_id : Option ℕ) (db db' : CallbackTables) : Prop where
  others : { db'.store with evidence := db.store.evidence, projections := db.store.projections } = db.store
  evidence : ∀ t i, ¬(t = tenant_id ∧ some i = intent_id) → db'.store.evidenceOf t i = db.store.evidenceOf t i
  projections : ∀ t i, ¬(t = tenant_id ∧ some i = intent_id) →
    db'.store.projections.filter (·.is t i) = db.store.projections.filter (·.is t i)
  inbox : ∃ rows, db'.inbox = db.inbox ++ rows ∧ ∀ r ∈ rows, r.tenant_id = tenant_id ∧ r.notification_intent_id = intent_id

/-! ### What a transaction elsewhere leaves alone -/

/-- A transaction of the worker or of the API binds what is free, and its evidence has no callback id. -/
structure Other (s s' : Store) : Prop where
  refs : (s.refBindings.map (·.provider_message_ref)).Nodup → (s'.refBindings.map (·.provider_message_ref)).Nodup
  bound : s.refBindings ⊆ s'.refBindings
  evidence : ∃ rows, s'.evidence = s.evidence ++ rows ∧ ∀ e ∈ rows, e.callbackKey = none

section Other

variable {s s' : Store}

theorem Other.of_eq (hrefs : s'.refBindings = s.refBindings) (hevidence : s'.evidence = s.evidence) : Other s s' := by
  refine ⟨fun h => hrefs ▸ h, hrefs ▸ List.Subset.refl _, [], ?_, fun e he => absurd he List.not_mem_nil⟩
  rw [hevidence, List.append_nil]

theorem Other.trans {s'' : Store} (h : Other s s') (h' : Other s' s'') : Other s s'' := by
  obtain ⟨rows, hrows, hnone⟩ := h.evidence
  obtain ⟨rows', hrows', hnone'⟩ := h'.evidence
  refine ⟨fun hrefs => h'.refs (h.refs hrefs), fun b hb => h'.bound (h.bound hb), rows ++ rows', ?_, fun e he => ?_⟩
  · rw [hrows', hrows, List.append_assoc]
  · exact (List.mem_append.1 he).elim (hnone e) (hnone' e)

/-- Evidence without a callback id. -/
theorem other_record_evidence (s : Store) (now : ℕ) (tenant_id : String) (intent_id : ℕ) (state : DeliveryState)
    (ref : Option String) : Other s (record_evidence now tenant_id intent_id state none ref s) := by
  obtain ⟨rows, hrows⟩ := recompute_projection_eq tenant_id intent_id { s with
    evidence := s.evidence ++ [⟨tenant_id, s.nextToken, intent_id, state, none, ref, now⟩]
    nextToken := s.nextToken + 1 }
  have heq : record_evidence now tenant_id intent_id state none ref s = { s with
      evidence := s.evidence ++ [⟨tenant_id, s.nextToken, intent_id, state, none, ref, now⟩]
      nextToken := s.nextToken + 1
      projections := rows } := by
    simp only [record_evidence, ne_eq, not_true_eq_false, false_and, if_false]
    exact hrows
  rw [heq]
  refine ⟨id, List.Subset.refl _, _, rfl, fun e he => ?_⟩
  obtain rfl := List.mem_singleton.1 he
  rfl

theorem other_bindProviderRef (s : Store) (tenant_id : String) (intent_id : ℕ) (ref : String) :
    Other s (bindProviderRef tenant_id intent_id ref s) := by
  unfold bindProviderRef
  dsimp only
  split_ifs with hkept
  · exact Other.of_eq rfl rfl
  · refine ⟨fun h => nodup_map_append_new h fun b hb heq => ?_, List.subset_append_left _ _, [], (List.append_nil _).symm,
      fun e he => absurd he List.not_mem_nil⟩
    exact hkept (Or.inr (List.any_eq_true.2 ⟨b, hb, decide_eq_true heq⟩))

theorem other_complete_dispatch {now token : ℕ} {r : DispatchRow} {outcome : DeliveryState} {ref failure : Option String}
    (hs : complete_dispatch now r.tenant_id r.dispatch_id token r.notification_intent_id r.attempt_number
      r.logical_dispatch_id outcome ref failure s = .ok s') : Other s s' := by
  obtain ⟨-, -, hevidence, -, hrefs, -⟩ := complete_dispatch_ok hs
  have hbind := other_bindProviderRef s r.tenant_id r.notification_intent_id (ref.getD "")
  refine ⟨fun h => hrefs ▸ hbind.refs h, hrefs ▸ hbind.bound, [], ?_, fun e he => absurd he List.not_mem_nil⟩
  rw [hevidence, List.append_nil]

/-- The transactions of the worker and of the API. -/
theorem other_step (s : Store) (a : CallbackAct) : Other s (s.other a) := by
  cases a with
  | claim now =>
    dsimp only [Store.other]
    cases oldestDue now s with
    | none => exact Other.of_eq rfl rfl
    | some r => exact Other.of_eq rfl rfl
  | attempt now r token result =>
    dsimp only [Store.other]
    split
    · exact Other.of_eq rfl rfl
    · split
      · rename_i hs'
        obtain ⟨s₁, hcomplete, rfl | ⟨-, rfl⟩⟩ := recordAttempt_ok hs'
        · exact other_complete_dispatch hcomplete
        · exact (other_complete_dispatch hcomplete).trans (other_record_evidence s₁ ..)
      · exact Other.of_eq rfl rfl
  | _ => exact Other.of_eq rfl rfl

end Other

/-! ### The invariant -/

section Keys

variable (x : CallbackWrite) (db : CallbackTables)

theorem bodies_apply : (x.apply db).bodies = db.bodies ++ x.body.toList := by
  cases x with
  | inbox row => exact List.map_append
  | _ => exact (List.append_nil _).symm

theorem callbacks_apply : (x.apply db).callbacks = db.callbacks ++ x.callback.toList := by
  cases x with
  | evidence d row =>
    refine List.filterMap_append.trans (congrArg (db.callbacks ++ ·) ?_)
    cases hkey : row.callbackKey <;> simp [CallbackWrite.callback, hkey]
  | _ => exact (List.append_nil _).symm

theorem refBindings_apply : (x.apply db).store.refBindings = db.store.refBindings := by
  cases x <;> rfl

theorem row_of_body (x y : CallbackWrite) (k : String × String) (hx : x.body = some k) (hy : y.body = some k) :
    x.row = y.row := by
  cases x <;> cases y <;> simp_all [CallbackWrite.body, CallbackWrite.row]

theorem row_of_callback (x y : CallbackWrite) (k : String × String) (hx : x.callback = some k) (hy : y.callback = some k) :
    x.row = y.row := by
  cases x <;> cases y <;> simp_all [CallbackWrite.callback, CallbackWrite.row]

end Keys

def CallbackPoint.delivery : CallbackPoint → Option Delivery
  | .idle => none
  | .readBinding d | .insertInbox d _ | .insertEvidence d _ | .project d _ | .commit d _ _ => some d

def CallbackPoint.binding : CallbackPoint → Option ProviderRefBinding
  | .idle | .readBinding _ => none
  | .insertInbox _ binding | .commit _ binding _ => binding
  | .insertEvidence _ b | .project _ b => some b

def CallbackPoint.projected : CallbackPoint → Option NotificationProjection
  | .commit _ _ projected => projected
  | _ => none

/-- What a session has written when it is at a point. -/
def CallbackPoint.written (E : Endpoint) : CallbackPoint → List CallbackWrite
  | .idle | .readBinding _ | .insertInbox _ _ => []
  | .insertEvidence d b => [.inbox (d.row E (some b))]
  | .project d b => [.inbox (d.row E (some b)), .evidence d (d.evidence b)]
  | .commit d (some b) (some row) => [.inbox (d.row E (some b)), .evidence d (d.evidence b), .project row]
  | .commit d binding _ => [.inbox (d.row E binding)]

/-- What a delivery commits: its inbox row, or that with its evidence and the projection. -/
theorem written_commit (E : Endpoint) (d : Delivery) (binding : Option ProviderRefBinding)
    (projected : Option NotificationProjection) :
    (CallbackPoint.commit d binding projected).written E = [.inbox (d.row E binding)] ∨
    ∃ b row, binding = some b ∧ projected = some row ∧ (CallbackPoint.commit d binding projected).written E =
      [.inbox (d.row E (some b)), .evidence d (d.evidence b), .project row] := by
  cases binding with
  | none => exact Or.inl rfl
  | some b =>
    cases projected with
    | none => exact Or.inl rfl
    | some row => exact Or.inr ⟨b, row, rfl, rfl, rfl⟩

/-- The key of a body in the inbox. -/
def bodyKey (E : Endpoint) (x : Delivery × ProviderEvidence) : String × String := (x.2.tenant_id, E.digest x.1.raw)

/-- What holds of the committed tables. -/
structure Recorded (E : Endpoint) (db : CallbackTables) : Prop where
  refs : (db.store.refBindings.map (·.provider_message_ref)).Nodup
  bodies : (db.recorded.map (bodyKey E)).Nodup
  /-- The inbox has the body of every record. -/
  taken : ∀ x ∈ db.recorded, bodyKey E x ∈ db.bodies
  payload : ∀ x ∈ db.recorded, E.payload x.1.raw = some x.1.payload
  bound : ∀ x ∈ db.recorded, ∃ b, x.1.BoundBy db.store.refBindings b ∧ x.2 = x.1.evidence b
  stored : (db.recorded.map Prod.snd).Sublist db.store.evidence

/-- What holds of a session. -/
structure CallbackPointInv (E : Endpoint) (db : CallbackTables) (ws : List CallbackWrite) (p : CallbackPoint) : Prop where
  payload : ∀ d ∈ p.delivery, E.payload d.raw = some d.payload
  bound : ∀ d ∈ p.delivery, ∀ b ∈ p.binding, d.BoundBy db.store.refBindings b
  projected : ∀ row ∈ p.projected, ∃ b ∈ p.binding,
    row.tenant_id = b.tenant_id ∧ row.notification_intent_id = b.notification_intent_id
  written : ws = p.written E

/-- The invariant. -/
structure CallbackInv (E : Endpoint) (s : CallbackSystem) : Prop where
  sessions : Sessions.Inv (Recorded E) (CallbackPointInv E) s
  bodies : s.tx.Unique CallbackTables.bodies CallbackWrite.body
  callbacks : s.tx.Unique CallbackTables.callbacks CallbackWrite.callback

section Steps

variable {E : Endpoint} {s : CallbackSystem} {w : ℕ} {p : CallbackPoint}

theorem callbackPointInv_idle (E : Endpoint) (db : CallbackTables) : CallbackPointInv E db [] .idle := by
  refine ⟨?_, ?_, ?_, rfl⟩ <;> intro x hx <;> cases hx

theorem CallbackPointInv.mono {db db' : CallbackTables} {ws : List CallbackWrite} (h : CallbackPointInv E db ws p)
    (hrefs : db.store.refBindings ⊆ db'.store.refBindings) : CallbackPointInv E db' ws p :=
  ⟨h.payload, fun d hd b hb => (h.bound d hd b hb).imp_left fun hmem => hrefs hmem, h.projected, h.written⟩

theorem view_refBindings (s : CallbackSystem) (w : ℕ) : (s.view w).store.refBindings = s.tx.db.store.refBindings :=
  WriteLog.view_induction (P := fun db => db.store.refBindings = s.tx.db.store.refBindings) rfl
    fun x _ db hdb => (refBindings_apply x db).trans hdb

namespace CallbackInv

theorem goto (h : CallbackInv E s) (hp : CallbackPointInv E s.tx.db (s.tx.writes w) p) : CallbackInv E (s.goto w p) :=
  ⟨Sessions.inv_goto h.sessions hp, h.bodies, h.callbacks⟩

theorem write (h : CallbackInv E s) {x : CallbackWrite} (hp : CallbackPointInv E s.tx.db (s.tx.writes w ++ [x]) p)
    (hbody : ∀ k, x.body = some k → k ∉ (s.view w).bodies)
    (hcallback : ∀ k, x.callback = some k → k ∉ (s.view w).callbacks) :
    CallbackInv E (s.write CallbackWrite.row w x p) :=
  ⟨Sessions.inv_write h.sessions hp, Sessions.unique_write bodies_apply row_of_body h.bodies hbody,
    Sessions.unique_write callbacks_apply row_of_callback h.callbacks hcallback⟩

theorem rollback (h : CallbackInv E s) : CallbackInv E (s.rollback .idle w) :=
  ⟨Sessions.inv_rollback h.sessions (callbackPointInv_idle _ _), h.bodies.rollback, h.callbacks.rollback⟩

theorem commit (h : CallbackInv E s) (hdb : Recorded E (s.view w)) : CallbackInv E (s.commit CallbackWrite.apply .idle w) :=
  ⟨Sessions.inv_commit h.sessions hdb (callbackPointInv_idle _ _)
      fun _ _ hp => hp.mono fun _ hb => (view_refBindings s w).symm ▸ hb,
    h.bodies.commit bodies_apply, h.callbacks.commit callbacks_apply⟩

/-- A transaction elsewhere. -/
theorem outside (h : CallbackInv E s) {store : Store} (hother : Other s.tx.db.store store) :
    CallbackInv E (s.outside { s.tx.db with store := store }) := by
  obtain ⟨rows, hrows, hnone⟩ := hother.evidence
  have hcallbacks : CallbackTables.callbacks { s.tx.db with store := store } = s.tx.db.callbacks := by
    rw [CallbackTables.callbacks, hrows, List.filterMap_append, List.filterMap_eq_nil_iff.2 hnone, List.append_nil]
    rfl
  have hdb := h.sessions.committed
  refine ⟨Sessions.inv_outside h.sessions ⟨hother.refs hdb.refs, hdb.bodies, hdb.taken, hdb.payload, fun x hx => ?_, ?_⟩
    fun w hw => hw.mono hother.bound, h.bodies, ?_⟩
  · obtain ⟨b, hb, hx⟩ := hdb.bound x hx
    exact ⟨b, hb.imp_left fun hmem => hother.bound hmem, hx⟩
  · exact hrows ▸ hdb.stored.trans (List.sublist_append_left _ _)
  · refine h.callbacks.outside (hcallbacks ▸ h.callbacks.committed) fun x hx k hk => ?_
    rw [hcallbacks]
    exact h.callbacks.not_mem (w := x.1) (x := x.2) hx hk

theorem view_eq (h : CallbackInv E s) (w : ℕ) :
    s.view w = ((s.pc w).written E).foldl (fun db x => x.apply db) s.tx.db := by
  rw [← (h.sessions.sessions w).written]
  exact Sessions.view_eq s w

theorem body_not_mem (h : CallbackInv E s) {row : CallbackInboxRow} (hwritten : .inbox row ∈ (s.pc w).written E) :
    row.key ∉ s.tx.db.bodies := by
  rw [← (h.sessions.sessions w).written] at hwritten
  exact h.bodies.not_mem (WriteLog.mem_writes.1 hwritten) rfl

end CallbackInv

theorem Recorded.inbox {db : CallbackTables} (h : Recorded E db) (row : CallbackInboxRow) :
    Recorded E (CallbackWrite.apply (.inbox row) db) := by
  refine ⟨h.refs, h.bodies, fun x hx => ?_, h.payload, h.bound, h.stored⟩
  rw [bodies_apply]
  exact List.mem_append_left _ (h.taken x hx)

/-- A commit of the inbox row with its evidence. -/
theorem Recorded.evidence {db : CallbackTables} (h : Recorded E db) {d : Delivery} {b : ProviderRefBinding}
    (hpayload : E.payload d.raw = some d.payload) (hb : d.BoundBy db.store.refBindings b)
    (hnew : (d.row E (some b)).key ∉ db.bodies) (row : NotificationProjection) :
    Recorded E (CallbackWrite.apply (.project row) (CallbackWrite.apply (.evidence d (d.evidence b))
      (CallbackWrite.apply (.inbox (d.row E (some b))) db))) := by
  refine ⟨h.refs, nodup_map_append_new h.bodies fun x hx heq => ?_, fun x hx => ?_, fun x hx => ?_, fun x hx => ?_, ?_⟩
  · have htaken := h.taken x hx
    rw [heq] at htaken
    exact hnew htaken
  · have hbodies : (db.inbox ++ [d.row E (some b)]).map CallbackInboxRow.key = db.bodies ++ [(d.row E (some b)).key] :=
      List.map_append
    change bodyKey E x ∈ (db.inbox ++ [d.row E (some b)]).map CallbackInboxRow.key
    rw [hbodies]
    rcases List.mem_append.1 hx with hx | hx
    · exact List.mem_append_left _ (h.taken x hx)
    · obtain rfl := List.mem_singleton.1 hx
      exact List.mem_append_right _ (List.mem_singleton_self _)
  · rcases List.mem_append.1 hx with hx | hx
    · exact h.payload x hx
    · obtain rfl := List.mem_singleton.1 hx
      exact hpayload
  · rcases List.mem_append.1 hx with hx | hx
    · exact h.bound x hx
    · obtain rfl := List.mem_singleton.1 hx
      exact ⟨b, hb, rfl⟩
  · have hrecorded : (db.recorded ++ [(d, d.evidence b)]).map Prod.snd = db.recorded.map Prod.snd ++ [d.evidence b] :=
      List.map_append
    change ((db.recorded ++ [(d, d.evidence b)]).map Prod.snd).Sublist (db.store.evidence ++ [d.evidence b])
    rw [hrecorded]
    exact h.stored.append (List.Sublist.refl _)

/-- The reference of a binding that was found. -/
theorem boundBy_of_bindingOf {d : Delivery} {bindings : List ProviderRefBinding} {b : ProviderRefBinding}
    (h : bindingOf d.payload.provider_message_ref bindings = some b) : d.BoundBy bindings b := by
  unfold bindingOf at h
  split at h
  · cases h
  · cases h
  · rename_i ref _ href
    have hfound := List.find?_some h
    refine ⟨List.mem_of_find?_eq_some h, ?_⟩
    rw [href]
    exact congrArg some (of_decide_eq_true hfound)

/-- Where a session is after its inbox row. -/
theorem callbackPointInv_afterInbox {db : CallbackTables} {ws : List CallbackWrite} {d : Delivery}
    {binding : Option ProviderRefBinding} (hpayload : E.payload d.raw = some d.payload)
    (hbound : ∀ b ∈ binding, d.BoundBy db.store.refBindings b) (hwritten : ws = []) :
    CallbackPointInv E db (ws ++ [.inbox (d.row E binding)]) (d.afterInbox E binding) := by
  have hat : (d.afterInbox E binding).delivery = some d ∧ (d.afterInbox E binding).binding = binding ∧
      (d.afterInbox E binding).projected = none ∧ (d.afterInbox E binding).written E = [.inbox (d.row E binding)] := by
    cases binding with
    | none => exact ⟨rfl, rfl, rfl, rfl⟩
    | some b =>
      dsimp only [Delivery.afterInbox]
      split_ifs <;> exact ⟨rfl, rfl, rfl, rfl⟩
  obtain ⟨hdelivery, hbinding, hprojected, hat⟩ := hat
  refine ⟨fun d' hd' => ?_, fun d' hd' b hb => ?_, fun row hrow => ?_, ?_⟩
  · rw [hdelivery] at hd'
    exact Option.some.inj hd' ▸ hpayload
  · rw [hdelivery] at hd'
    rw [hbinding] at hb
    exact Option.some.inj hd' ▸ hbound b hb
  · rw [hprojected] at hrow
    cases hrow
  · rw [hwritten, hat]
    rfl

/-- The next statement of a session keeps the invariant. -/
theorem next_callbackInv (h : CallbackInv E s) (w : ℕ) : CallbackInv E (s.next E w) := by
  have hview := h.view_eq w
  obtain ⟨hpayload, hbound, hprojected, hwritten⟩ := h.sessions.sessions w
  unfold CallbackSystem.next
  split
  · exact h
  · rename_i d hpc
    rw [hpc] at hpayload hwritten
    refine h.goto ⟨hpayload, fun d' hd' b hb => ?_, fun row hrow => (by cases hrow), hwritten⟩
    obtain rfl := Option.some.inj hd'
    rw [view_refBindings] at hb
    exact boundBy_of_bindingOf hb
  · rename_i d binding hpc
    rw [hpc] at hpayload hbound hwritten hview
    split_ifs with hkey
    · exact h.commit (hview ▸ h.sessions.committed)
    · refine h.write (callbackPointInv_afterInbox ?_ ?_ hwritten) (fun k hk => ?_) fun k hk => (by cases hk)
      · exact hpayload d rfl
      · exact hbound d rfl
      · rwa [← Option.some.inj hk, ← hasBody_iff]
  · rename_i d b hpc
    rw [hpc] at hpayload hbound hwritten
    split_ifs with hkey
    · exact h.goto ⟨hpayload, hbound, fun row hrow => (by cases hrow), hwritten⟩
    · refine h.write ⟨hpayload, hbound, fun row hrow => (by cases hrow), by rw [hwritten]; rfl⟩ (fun k hk => (by cases hk))
        fun k hk hmem => hkey (by rw [show (d.evidence b).callbackKey = some k from hk]; exact hasCallback_iff.2 hmem)
  · rename_i d b hpc
    rw [hpc] at hpayload hbound hwritten
    refine h.write ⟨hpayload, hbound, fun row hrow => ?_, by rw [hwritten]; rfl⟩ (fun k hk => (by cases hk))
      fun k hk => (by cases hk)
    obtain rfl := Option.some.inj hrow
    exact ⟨b, rfl, rfl, rfl⟩
  · rename_i d binding projected hpc
    refine h.commit ?_
    rw [hview, hpc]
    have hnew : ∀ row, .inbox row ∈ (s.pc w).written E → row.key ∉ s.tx.db.bodies := fun row => h.body_not_mem
    rw [hpc] at hpayload hbound hnew
    rcases written_commit E d binding projected with hcommit | ⟨b, row, rfl, rfl, hcommit⟩
    · rw [hcommit]
      exact h.sessions.committed.inbox _
    · rw [hcommit] at hnew ⊢
      exact h.sessions.committed.evidence (hpayload d rfl) (hbound d rfl b rfl) (hnew _ List.mem_cons_self) row

/-- A step keeps the invariant. -/
theorem step_callbackInv (h : CallbackInv E s) (a : CallbackAct) : CallbackInv E (s.step E a) := by
  cases a with
  | deliver w now clock raw sig =>
    dsimp only [CallbackSystem.step]
    split
    · rename_i p hpc hp
      split_ifs
      · exact h
      · have hdrawn : Other s.tx.db.store { s.tx.db.store with nextToken := s.tx.db.store.nextToken + 2 } :=
          Other.of_eq rfl rfl
        refine (h.outside hdrawn).goto ⟨?_, ?_, ?_, ?_⟩
        · rintro d hd
          obtain rfl := Option.some.inj hd
          exact hp
        · rintro d - b hb
          cases hb
        · rintro row hrow
          cases hrow
        · have hwritten := (h.sessions.sessions w).written
          rw [hpc] at hwritten
          exact hwritten
    · exact h
  | next w => exact next_callbackInv h w
  | fail w => exact h.rollback
  | create now tenant_id alert_id destination_ref channel_class payload_ref => exact h.outside (other_step _ _)
  | claim now => exact h.outside (other_step _ _)
  | attempt now r token result => exact h.outside (other_step _ _)

theorem callbackInv_exec (E : Endpoint) (run : List CallbackAct) : CallbackInv E (.exec E run) := by
  induction run using List.reverseRecOn with
  | nil =>
    refine ⟨Sessions.inv_init ⟨List.nodup_nil, List.nodup_nil, ?_, ?_, ?_, List.Sublist.refl _⟩
      (callbackPointInv_idle E _), List.nodup_nil, List.nodup_nil⟩ <;> intro x hx <;> cases hx
  | append_singleton run a ih =>
    rw [CallbackSystem.exec, List.foldl_append]
    exact step_callbackInv ih a

/-! ### What is recorded -/

/-- A selection of rows that have one key has one row at most; the keys are partial. -/
theorem length_filter_le_one_of_partial {α κ : Type} {k : α → Option κ} {rows : List α} (hk : (rows.filterMap k).Nodup)
    {p : α → Bool} (hp : ∀ r ∈ rows, ∀ r' ∈ rows, p r = true → p r' = true → ∃ key, k r = some key ∧ k r' = some key) :
    (rows.filter p).length ≤ 1 := by
  rcases List.eq_nil_or_concat (rows.filter p) with hnil | ⟨rows', r, hrows⟩
  · rw [hnil]
    exact Nat.zero_le 1
  · have hr : r ∈ rows.filter p := by simp [hrows]
    obtain ⟨hr, hpr⟩ := List.mem_filter.1 hr
    obtain ⟨key, hkey, -⟩ := hp r hr r hr hpr hpr
    have hall : (rows.filter p).filterMap k = List.replicate (rows.filter p).length key := by
      rw [← List.map_const', ← List.filterMap_eq_map]
      refine List.filterMap_congr fun r' hr' => ?_
      obtain ⟨hr', hpr'⟩ := List.mem_filter.1 hr'
      obtain ⟨key', hkey', hsame⟩ := hp r hr r' hr' hpr hpr'
      exact hsame.trans (hkey'.symm.trans hkey)
    have hnodup : ((rows.filter p).filterMap k).Nodup := hk.sublist (List.filter_sublist.filterMap k)
    rw [hall, List.nodup_replicate] at hnodup
    exact hnodup

theorem Recorded.tenant_eq {db : CallbackTables} (h : Recorded E db) {x y : Delivery × ProviderEvidence}
    (hx : x ∈ db.recorded) (hy : y ∈ db.recorded)
    (href : x.1.payload.provider_message_ref = y.1.payload.provider_message_ref) : x.2.tenant_id = y.2.tenant_id := by
  obtain ⟨b, ⟨hb, hbref⟩, hxb⟩ := h.bound x hx
  obtain ⟨b', ⟨hb', hbref'⟩, hyb⟩ := h.bound y hy
  have hsame : b = b' := eq_of_key h.refs hb hb' (Option.some.inj (hbref.trans (href.trans hbref'.symm)))
  rw [hxb, hyb, hsame]
  rfl

/-- What the callbacks have recorded counts once. -/
theorem CallbackInv.counted (h : CallbackInv E s) : CountedOnce s.tx.db := by
  have hdb := h.sessions.committed
  have hcallbacks : (s.tx.db.store.evidence.filterMap ProviderEvidence.callbackKey).Nodup := h.callbacks.committed
  have hrecorded : (s.tx.db.recorded.filterMap fun x => x.2.callbackKey).Nodup := by
    have hnodup := hcallbacks.sublist (hdb.stored.filterMap ProviderEvidence.callbackKey)
    rw [List.filterMap_map] at hnodup
    exact hnodup
  refine ⟨fun raw => ?_, fun id ref => ?_, fun key => ?_, hdb.bound, hdb.stored⟩
  · refine length_filter_le_one hdb.bodies fun x hx y hy hxraw hyraw => ?_
    have hraw : x.1.raw = y.1.raw := (of_decide_eq_true hxraw).trans (of_decide_eq_true hyraw).symm
    have hpayload : x.1.payload = y.1.payload := by
      have heq := (hdb.payload x hx).symm.trans ((congrArg E.payload hraw).trans (hdb.payload y hy))
      exact Option.some.inj heq
    exact Prod.ext (hdb.tenant_eq hx hy (by rw [hpayload])) (congrArg E.digest hraw)
  · refine length_filter_le_one_of_partial hrecorded fun x hx y hy hxp hyp => ?_
    obtain ⟨hxid, hxref⟩ := of_decide_eq_true hxp
    obtain ⟨hyid, hyref⟩ := of_decide_eq_true hyp
    have htenant := hdb.tenant_eq hx hy (hxref.trans hyref.symm)
    have hkey : ∀ z ∈ s.tx.db.recorded, z.1.payload.callback_id = some id →
        z.2.callbackKey = some (z.2.tenant_id, id) := by
      intro z hz hzid
      obtain ⟨b, -, hzb⟩ := hdb.bound z hz
      rw [hzb]
      exact congrArg (Option.map _) hzid
    exact ⟨_, hkey x hx hxid, htenant ▸ hkey y hy hyid⟩
  · exact length_filter_le_one_of_partial hcallbacks fun e _ e' _ he he' =>
      ⟨key, of_decide_eq_true he, of_decide_eq_true he'⟩

/-! ### What a delivery changes -/

theorem OnlyOf.refl (tenant_id : String) (intent_id : Option ℕ) (db : CallbackTables) : OnlyOf tenant_id intent_id db db :=
  ⟨rfl, fun _ _ _ => rfl, fun _ _ _ => rfl, [], (List.append_nil _).symm, fun _ hr => absurd hr List.not_mem_nil⟩

/-- An upsert leaves the rows of the other intents. -/
theorem filter_upsertProjection {new : NotificationProjection} {tenant_id : String} {intent_id : ℕ}
    (hne : ¬(tenant_id = new.tenant_id ∧ intent_id = new.notification_intent_id)) (rows : List NotificationProjection) :
    (upsertProjection new rows).filter (·.is tenant_id intent_id) = rows.filter (·.is tenant_id intent_id) := by
  have hnew : new.is tenant_id intent_id = false := decide_eq_false fun h => hne ⟨h.1.symm, h.2.symm⟩
  unfold upsertProjection
  split_ifs
  · refine filter_updateWhere fun _ _ hr => ⟨?_, hnew⟩
    obtain ⟨htenant, hintent⟩ := projection_of_is hr
    exact decide_eq_false fun h => hne ⟨h.1.symm.trans htenant, h.2.symm.trans hintent⟩
  · rw [List.filter_append, List.filter_cons_of_neg (by simp [hnew]), List.filter_nil, List.append_nil]

/-- A delivery changes the rows of its intent only. -/
theorem onlyOf_next (h : CallbackInv E s) {d : Delivery} (hd : d ∈ (s.pc w).delivery) :
    ∃ binding, (∀ b ∈ binding, d.BoundBy s.tx.db.store.refBindings b) ∧
      OnlyOf (callbackTenant binding) (binding.map (·.notification_intent_id)) s.tx.db (s.next E w).tx.db := by
  have hview := h.view_eq w
  obtain ⟨-, hbound, hprojected, -⟩ := h.sessions.sessions w
  refine ⟨(s.pc w).binding, hbound d hd, ?_⟩
  have hwaits : ∀ x p, (s.write CallbackWrite.row w x p).tx.db = s.tx.db := by
    intro x p
    unfold Sessions.write
    split_ifs <;> rfl
  unfold CallbackSystem.next
  split
  · exact OnlyOf.refl ..
  · exact OnlyOf.refl ..
  · rename_i d' binding hpc
    rw [hpc] at hview
    split_ifs
    · rw [show (s.commit CallbackWrite.apply .idle w).tx.db = s.view w from rfl, hview]
      exact OnlyOf.refl ..
    · rw [hwaits]
      exact OnlyOf.refl ..
  · split_ifs
    · exact OnlyOf.refl ..
    · rw [hwaits]
      exact OnlyOf.refl ..
  · rw [hwaits]
    exact OnlyOf.refl ..
  · rename_i d' binding projected hpc
    rw [show (s.commit CallbackWrite.apply .idle w).tx.db = s.view w from rfl, hview, hpc]
    rw [hpc] at hprojected
    rcases written_commit E d' binding projected with hcommit | ⟨b, row, rfl, rfl, hcommit⟩
    · rw [hcommit]
      refine ⟨rfl, fun _ _ _ => rfl, fun _ _ _ => rfl, [d'.row E binding], rfl, fun r hr => ?_⟩
      obtain rfl := List.mem_singleton.1 hr
      exact ⟨rfl, rfl⟩
    · obtain ⟨b', hb', htenant, hintent⟩ := hprojected row rfl
      obtain rfl := Option.some.inj hb'
      rw [hcommit]
      refine ⟨rfl, fun t i hne => ?_, fun t i hne => ?_, [d'.row E (some b)], rfl, fun r hr => ?_⟩
      · exact filter_append_of_not (decide_eq_false fun h => hne ⟨h.1.symm, congrArg some h.2.symm⟩)
      · exact filter_upsertProjection (fun h => hne ⟨h.1.trans htenant, congrArg some (h.2.trans hintent)⟩) _
      · obtain rfl := List.mem_singleton.1 hr
        exact ⟨rfl, rfl⟩

end Steps

/-- **Key result**: after every run a body has one row of evidence at most, and so has a callback id with its reference;
the row is of the intent that the reference is bound to; and the next statement of a delivery changes the rows of that
intent only. -/
theorem callbacks_counted_once (E : Endpoint) (run : List CallbackAct) :
    CountedOnce (CallbackSystem.exec E run).tx.db ∧
    ∀ w, ∀ d ∈ ((CallbackSystem.exec E run).pc w).delivery, ∃ binding,
      (∀ b ∈ binding, d.BoundBy (CallbackSystem.exec E run).tx.db.store.refBindings b) ∧
      OnlyOf (callbackTenant binding) (binding.map (·.notification_intent_id)) (CallbackSystem.exec E run).tx.db
        (CallbackSystem.exec E (run ++ [.next w])).tx.db := by
  have h := callbackInv_exec E run
  refine ⟨h.counted, fun w d hd => ?_⟩
  rw [CallbackSystem.exec, CallbackSystem.exec, List.foldl_append]
  exact onlyOf_next h hd

end JLMirror.Notification
