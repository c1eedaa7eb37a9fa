import JLMirror.Notification.Delivery
import Mathlib

/-!
# The callbacks of the providers

`POST /notifications/callback`: the signature is checked over the raw body, the tenant and the intent come from the binding
of the provider's reference, the inbox takes a body once for each tenant, and what is new becomes evidence.

## The model

* `json.loads` and the digests are parameters (`Endpoint`); the payload has what the handler reads of it.
* A timestamp that is no number counts as expired; one that is missing does not.
* The handler is one transaction here; `CallbackOnce` takes it statement by statement.

## Honest scope

A payload whose fields are of another JSON type than text raises before anything is written.
-/

namespace JLMirror.Notification

open JLMirror.Foundations

/-- What the handler reads of the body. -/
structure CallbackPayload where
  callback_id : Option String
  provider_message_ref : Option String
  status : Option String
  /-- `some none` is a timestamp that is no number. -/
  timestamp : Option (Option ℚ)
  deriving DecidableEq

/-- `status_map` -/
def normalizedStatus : Option String → DeliveryState
  | some "sent" => .provider_accepted
  | some "delivered" => .delivered
  | some "read" => .external_read_observed
  | some "failed" => .failed
  | _ => .unknown

/-- `callback_timestamp_expired` -/
def callback_timestamp_expired (clock : ℚ) (window : ℕ) : Option ℚ → Bool
  | none => true
  | some ts => window < max (clock - ts) (ts - clock)

/-- The states of `notification_callback_inbox`. -/
inductive InboxState where
  | received
  | processed
  | poisoned
  deriving DecidableEq

/-- `notification.notification_callback_inbox` -/
structure CallbackInboxRow where
  tenant_id : String
  callback_inbox_id : ℕ
  callback_digest : String
  notification_intent_id : Option ℕ
  provider_callback_id : Option String
  normalized_state : DeliveryState
  state : InboxState
  last_error_class : Option String
  processed_at : ℕ
  deriving DecidableEq

/-- What the handler does not define itself. -/
structure Endpoint where
  /-- `json.loads` and the fields. -/
  payload : String → Option CallbackPayload
  /-- `hmac.new(secret, raw, sha256).hexdigest()` -/
  signature : String → String
  /-- `sha256(raw).hexdigest()` -/
  digest : String → String
  /-- `_REPLAY_WINDOW_SECONDS` -/
  window : ℕ

/-- The answers. -/
inductive CallbackAnswer where
  | invalidSignature
  /-- The body is no JSON. -/
  | raised
  | duplicate
  | expired
  | done (state : InboxState)
  deriving DecidableEq

/-- The binding of a reference: an empty one has none. -/
def bindingOf (ref : Option String) (bindings : List ProviderRefBinding) : Option ProviderRefBinding :=
  match ref with
  | none | some "" => none
  | some ref => bindings.find? fun b => b.provider_message_ref = ref

/-- `tenant`: that of the binding, or `"platform"`. -/
def callbackTenant (binding : Option ProviderRefBinding) : String := (binding.map (·.tenant_id)).getD "platform"

/-- `expired` -/
def CallbackPayload.expired (clock : ℚ) (window : ℕ) (p : CallbackPayload) : Bool :=
  p.timestamp.any (callback_timestamp_expired clock window)

/-- The row of a callback in the inbox. -/
def inboxRow (E : Endpoint) (now : ℕ) (clock : ℚ) (raw : String) (p : CallbackPayload) (binding : Option ProviderRefBinding)
    (inbox_id : ℕ) : CallbackInboxRow where
  tenant_id := callbackTenant binding
  callback_inbox_id := inbox_id
  callback_digest := E.digest raw
  notification_intent_id := binding.map (·.notification_intent_id)
  provider_callback_id := p.callback_id
  normalized_state := normalizedStatus p.status
  state := if p.expired clock E.window ∨ binding = none then .poisoned else .processed
  last_error_class :=
    if p.expired clock E.window then some "replay_window_expired"
    else if binding = none then some "unbindable_callback" else none
  processed_at := now

/-- The conflict target of the inbox. -/
def CallbackInboxRow.key (r : CallbackInboxRow) : String × String := (r.tenant_id, r.callback_digest)

/-- `_ingest`: the answer, and what it leaves in the store and in the inbox. -/
def ingest (E : Endpoint) (now : ℕ) (clock : ℚ) (raw : String) (p : CallbackPayload) (s : Store)
    (inbox : List CallbackInboxRow) : CallbackAnswer × Store × List CallbackInboxRow :=
  let binding := bindingOf p.provider_message_ref s.refBindings
  let row := inboxRow E now clock raw p binding s.nextToken
  if inbox.any fun r => r.key = row.key then (.duplicate, s, inbox)
  else
    let s := { s with nextToken := s.nextToken + 1 }
    if p.expired clock E.window then (.expired, s, inbox ++ [row])
    else
      match binding with
      | none => (.done row.state, s, inbox ++ [row])
      | some b =>
        (.done row.state, record_evidence now b.tenant_id b.notification_intent_id (normalizedStatus p.status) p.callback_id
          p.provider_message_ref s, inbox ++ [row])

/-- `provider_callback` -/
def provider_callback (E : Endpoint) (now : ℕ) (clock : ℚ) (raw sig : String) (s : Store) (inbox : List CallbackInboxRow) :
    CallbackAnswer × Store × List CallbackInboxRow :=
  if sig ≠ E.signature raw then (.invalidSignature, s, inbox)
  else
    match E.payload raw with
    | none => (.raised, s, inbox)
    | some p => ingest E now clock raw p s inbox

/-- What a callback does to the store: nothing that matters, or evidence of the intent that the reference is bound to. -/
theorem provider_callback_cases (E : Endpoint) (now : ℕ) (clock : ℚ) (raw sig : String) (s : Store)
    (inbox : List CallbackInboxRow) :
    (∃ token, s.nextToken ≤ token ∧ (provider_callback E now clock raw sig s inbox).2.1 = { s with nextToken := token }) ∨
    ∃ p b, b ∈ s.refBindings ∧ some b.provider_message_ref = p.provider_message_ref ∧ E.payload raw = some p ∧
      (provider_callback E now clock raw sig s inbox).2.1 = record_evidence now b.tenant_id b.notification_intent_id
        (normalizedStatus p.status) p.callback_id p.provider_message_ref { s with nextToken := s.nextToken + 1 } := by
  unfold provider_callback
  split_ifs
  · exact Or.inl ⟨s.nextToken, le_rfl, rfl⟩
  split
  · exact Or.inl ⟨s.nextToken, le_rfl, rfl⟩
  · rename_i p hp
    dsimp only [ingest]
    split_ifs
    · exact Or.inl ⟨s.nextToken, le_rfl, rfl⟩
    · exact Or.inl ⟨s.nextToken + 1, Nat.le_succ _, rfl⟩
    · split
      · exact Or.inl ⟨s.nextToken + 1, Nat.le_succ _, rfl⟩
      · rename_i b hb
        unfold bindingOf at hb
        split at hb
        · cases hb
        · cases hb
        · rename_i ref _ href
          have hmem := List.mem_of_find?_eq_some hb
          have hfound := List.find?_some hb
          refine Or.inr ⟨p, b, hmem, ?_, hp, rfl⟩
          rw [href]
          exact congrArg some (of_decide_eq_true hfound)

end JLMirror.Notification
