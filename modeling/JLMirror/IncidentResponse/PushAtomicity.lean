import JLMirror.IncidentResponse.ErrorEventPush

/-!
# Deduplication and acceptance

A push takes its minute bucket in a transaction of its own, before the event is stored, and its actions are enqueued one
by one afterwards. So whatever comes between the two leaves a bucket that is taken and has no event: the pushes after it
are answered `deduplicated`, and the error is lost.

## What is proved

* `Inv.of_step`: what a step on the rows of one request leaves of the invariant `System.Inv`.
* **Key result** (`atomic_run`): over every interleaving of any number of pushes with failures at any point, the answers
  and the tables agree (`System.Atomic`) as long as each step is `Whole`.
* `lost_event`: a push that is cut off after its claim loses the next one.

## Honest scope

A policy can be changed while an event is handled. An event counts as served where every action that matches one of the
policies that were in force for it is enqueued.
-/

namespace JLMirror.IncidentResponse.Push

open JLMirror.Foundations

/-! ### The claim -/

/-- An event of the bucket. -/
def InBucket (key : DedupeKey) (e : StoredEvent) : Prop :=
  e.tenant_id = key.tenant_id ∧ e.application_id = key.application_id ∧ e.error_code = key.error_code ∧
    key.bucket_ts ≤ e.occurred_at ∧ e.occurred_at < key.bucket_ts + minute

/-- Every action that a policy matches for the event is enqueued. -/
def System.Served (s : System) (e : StoredEvent) : Prop :=
  ∃ policy kinds, (e.event_id, policy) ∈ s.met ∧ _evaluate_policy e.severity_hint policy = .ok kinds ∧
    ∀ kind ∈ kinds, ∃ a ∈ s.db.actions, a.tenant_id = e.tenant_id ∧ a.event_id = e.event_id ∧ a.action_kind = kind

/-- No row of the id. -/
structure PushDb.Nothing (db : PushDb) (event_id : ℕ) : Prop where
  dedupe : ∀ d ∈ db.dedupe, d.event_id ≠ event_id
  events : ∀ e ∈ db.events, e.event_id ≠ event_id
  actions : ∀ a ∈ db.actions, a.event_id ≠ event_id

/-- The event is stored, and its actions are not all enqueued. -/
def Point.handles : Point → Option Request
  | .policy r | .enqueue r _ _ => some r
  | .idle | .claim _ | .store _ => none

/-- Deduplication is atomic with acceptance. -/
structure System.Atomic (s : System) : Prop where
  deduplicated : ∀ r bucket, (r, .deduplicated bucket) ∈ s.answered → ∃ e ∈ s.db.events, InBucket r.key e
  served : ∀ e ∈ s.db.events, s.Served e ∨ ∃ w r, (s.pc w).handles = some r ∧ r.event_id = e.event_id
  allOrNothing : ∀ r reply, (r, reply) ∈ s.answered →
    s.db.Nothing r.event_id ∨ ∃ e ∈ s.db.events, e.event_id = r.event_id ∧ s.Served e

/-- A policy that was in force for the request matches no other kinds. -/
def System.Enough (s : System) (r : Request) (enqueued : List ActionKind) : Prop :=
  ∃ policy kinds, (r.event_id, policy) ∈ s.met ∧ _evaluate_policy r.severity_hint policy = .ok kinds ∧ kinds ⊆ enqueued

/-- No request is answered while a bucket is taken whose event is not stored, nor while an action is missing. -/
def Whole (s : System) : Act → Prop
  | .push .. | .upsert .. => True
  | .go w now =>
    match s.pc w with
    | .idle | .enqueue .. => True
    | .claim r =>
      (∀ v q, s.pc v = .store q → q.key = r.key → ∀ d ∈ s.db.dedupe, d.event_id = q.event_id → d.expires_at < now) ∨
        ∃ e ∈ s.db.events, InBucket r.key e
    | .store r => taken r s.db = false ∨ ∀ d ∈ s.db.dedupe, d.event_id ≠ r.event_id
    | .policy r =>
      (∃ kinds, _evaluate_policy r.severity_hint (g11_get_policy r.key.tenant_id s.db) = .ok kinds) ∨ s.Enough r []
  | .fail w =>
    match s.pc w with
    | .idle | .claim _ => True
    | .store r => ∀ d ∈ s.db.dedupe, d.event_id ≠ r.event_id
    | .policy r => s.Enough r []
    | .enqueue r enqueued _ => s.Enough r enqueued

/-! ### Policies and rows -/

/-- A kind is matched once. -/
theorem evaluate_nodup {severity_hint : Option Severity} {policy : Policy} {kinds : List ActionKind}
    (h : _evaluate_policy severity_hint policy = .ok kinds) : kinds.Nodup := by
  rw [_evaluate_policy] at h
  by_cases hmanual : policy.manual_override_only = true
  · rw [if_pos hmanual] at h
    exact Except.ok.inj h ▸ List.nodup_nil
  rw [if_neg hmanual] at h
  by_cases hmeets : policy.severity_threshold.order ≤ (severity_hint.map Severity.order).getD (-1)
  · rw [if_pos hmeets] at h
    cases hnotify : notifies severity_hint policy.notify_channels with
    | error e =>
      rw [hnotify] at h
      cases h
    | ok notify =>
      rw [hnotify] at h
      rw [← Except.ok.inj h]
      cases policy.auto_open_ticket <;> cases notify <;>
        cases policy.automation_triggers.contains (some "ERROR_EVENT") <;> decide
  · rw [if_neg hmeets] at h
    exact Except.ok.inj h ▸ List.nodup_nil

theorem received_event_id {fromisoformat : String → Option Datetime} {tenant actor token : String}
    {body : ErrorEventPush} {event_id : ℕ} {r : Request}
    (h : received fromisoformat tenant actor token body event_id = some r) : r.event_id = event_id := by
  obtain ⟨t, -, rfl⟩ := Option.map_eq_some_iff.1 h
  rfl

theorem inBucket_row (now : ℤ) (r : Request) : InBucket r.key (r.row now) :=
  ⟨rfl, rfl, rfl, r.inBucket⟩

/-! ### The invariant -/

/-- The event of the request is stored, and is the only one of its id. -/
structure System.HasRow (s : System) (r : Request) : Prop where
  stored : ∃ now, r.row now ∈ s.db.events
  only : ∀ e ∈ s.db.events, e.event_id = r.event_id → ∃ now, e = r.row now

/-- What is there of a request. -/
def System.PointSound (s : System) : Point → Prop
  | .idle => True
  | .claim r => s.db.Nothing r.event_id
  | .store r => (∀ e ∈ s.db.events, e.event_id ≠ r.event_id) ∧ ∀ a ∈ s.db.actions, a.event_id ≠ r.event_id
  | .policy r => s.HasRow r ∧ ∀ a ∈ s.db.actions, a.event_id ≠ r.event_id
  | .enqueue r enqueued rest => s.HasRow r ∧
    (∃ policy, (r.event_id, policy) ∈ s.met ∧ _evaluate_policy r.severity_hint policy = .ok (enqueued ++ rest)) ∧
    (∀ kind ∈ enqueued,
      ∃ a ∈ s.db.actions, a.tenant_id = r.key.tenant_id ∧ a.event_id = r.event_id ∧ a.action_kind = kind) ∧
    ∀ a ∈ s.db.actions, a.event_id = r.event_id → a.action_kind ∈ enqueued

/-- The invariant. -/
structure System.Inv (s : System) : Prop where
  fresh : ∀ w r, (s.pc w).request = some r → r.event_id < s.nextId
  apart : ∀ v w q r, (s.pc v).request = some q → (s.pc w).request = some r → q.event_id = r.event_id → v = w
  past : ∀ r reply, (r, reply) ∈ s.answered →
    r.event_id < s.nextId ∧ ∀ w q, (s.pc w).request = some q → q.event_id ≠ r.event_id
  drawn : ∀ event_id, s.nextId ≤ event_id → s.db.Nothing event_id
  point : ∀ w, s.PointSound (s.pc w)
  taken : ∀ d ∈ s.db.dedupe,
    (∃ e ∈ s.db.events, InBucket d.key e) ∨ ∃ w r, s.pc w = .store r ∧ r.key = d.key ∧ r.event_id = d.event_id
  atomic : s.Atomic

/-- Rows of one event are added, and entries are deleted. -/
structure Writes (i : ℕ) (s t : System) : Prop where
  dedupe : ∀ d ∈ t.db.dedupe, d ∈ s.db.dedupe ∨ d.event_id = i
  stored : s.db.events ⊆ t.db.events
  events : ∀ e ∈ t.db.events, e ∈ s.db.events ∨ e.event_id = i
  enqueued : s.db.actions ⊆ t.db.actions
  actions : ∀ a ∈ t.db.actions, a ∈ s.db.actions ∨ a.event_id = i
  met : s.met ⊆ t.met

section Frames

variable {s t : System} {i j : ℕ} {r : Request} {e : StoredEvent}

theorem Writes.of_still (i : ℕ) (hdedupe : t.db.dedupe ⊆ s.db.dedupe) (hevents : t.db.events = s.db.events)
    (hactions : t.db.actions = s.db.actions) (hmet : s.met ⊆ t.met) : Writes i s t :=
  ⟨fun _ hd => Or.inl (hdedupe hd), fun _ he => hevents ▸ he, fun _ he => Or.inl (hevents ▸ he), fun _ ha => hactions ▸ ha,
    fun _ ha => Or.inl (hactions ▸ ha), hmet⟩

theorem System.Served.mono (h : Writes i s t) (hserved : s.Served e) : t.Served e := by
  obtain ⟨policy, kinds, hmet, heval, hall⟩ := hserved
  refine ⟨policy, kinds, h.met hmet, heval, fun kind hkind => ?_⟩
  obtain ⟨a, ha, hrow⟩ := hall kind hkind
  exact ⟨a, h.enqueued ha, hrow⟩

theorem PushDb.Nothing.frame (h : Writes i s t) (hne : j ≠ i) (hnone : s.db.Nothing j) : t.db.Nothing j where
  dedupe := fun d hd heq => (h.dedupe d hd).elim (hnone.dedupe d · heq) fun hi => hne (heq.symm.trans hi)
  events := fun e he heq => (h.events e he).elim (hnone.events e · heq) fun hi => hne (heq.symm.trans hi)
  actions := fun a ha heq => (h.actions a ha).elim (hnone.actions a · heq) fun hi => hne (heq.symm.trans hi)

theorem System.HasRow.frame (h : Writes i s t) (hne : r.event_id ≠ i) (hrow : s.HasRow r) : t.HasRow r where
  stored := hrow.stored.imp fun _ hmem => h.stored hmem
  only := fun e he heq => (h.events e he).elim (hrow.only e · heq) fun hi => absurd (heq.symm.trans hi) hne

/-- The rows of a request are left alone by the others. -/
theorem System.PointSound.frame {p : Point} (h : Writes i s t) (hne : ∀ r, p.request = some r → r.event_id ≠ i)
    (hp : s.PointSound p) : t.PointSound p := by
  cases p with
  | idle => trivial
  | claim r => exact PushDb.Nothing.frame h (hne r rfl) hp
  | store r =>
    exact ⟨fun e he heq => (h.events e he).elim (hp.1 e · heq) fun hi => hne r rfl (heq.symm.trans hi),
      fun a ha heq => (h.actions a ha).elim (hp.2 a · heq) fun hi => hne r rfl (heq.symm.trans hi)⟩
  | policy r =>
    exact ⟨hp.1.frame h (hne r rfl),
      fun a ha heq => (h.actions a ha).elim (hp.2 a · heq) fun hi => hne r rfl (heq.symm.trans hi)⟩
  | enqueue r enqueued rest =>
    obtain ⟨hrow, ⟨policy, hmet, heval⟩, hdone, honly⟩ := hp
    refine ⟨hrow.frame h (hne r rfl), ⟨policy, h.met hmet, heval⟩, fun kind hkind => ?_, fun a ha heq => ?_⟩
    · obtain ⟨a, ha, hkey⟩ := hdone kind hkind
      exact ⟨a, h.enqueued ha, hkey⟩
    · exact (h.actions a ha).elim (honly a · heq) fun hi => absurd (heq.symm.trans hi) (hne r rfl)

end Frames

/-! ### Steps -/

section Steps

variable {s t : System} {w : ℕ} {r : Request} {p : Point}

@[simp] theorem goto_pc (s : System) (w : ℕ) (p : Point) : (s.goto w p).pc = Function.update s.pc w p := rfl

/-- A step on the rows of a request, which goes on or is answered. -/
structure Turn (s t : System) (w : ℕ) (r : Request) (p : Point) : Prop where
  at_work : (s.pc w).request = some r
  pc : t.pc = Function.update s.pc w p
  same : p.request = none ∨ p.request = some r
  nextId : t.nextId = s.nextId
  writes : Writes r.event_id s t

theorem Turn.request (h : Turn s t w r p) {v : ℕ} {q : Request} (hq : (t.pc v).request = some q) :
    (s.pc v).request = some q := by
  rw [h.pc] at hq
  by_cases hv : v = w
  · subst hv
    rw [Function.update_self] at hq
    rcases h.same with hnone | hsome
    · cases hnone.symm.trans hq
    · exact h.at_work.trans (hsome.symm.trans hq)
  · rwa [Function.update_of_ne hv] at hq

/-- What the step has to see to, and the invariant takes care of the rest. -/
theorem System.Inv.of_step (h : s.Inv) (hturn : Turn s t w r p) (hpoint : t.PointSound p)
    (htaken : ∀ d ∈ t.db.dedupe, d.event_id = r.event_id →
      (∃ e ∈ t.db.events, InBucket d.key e) ∨ p = .store r ∧ r.key = d.key)
    (hserved : ∀ e ∈ t.db.events, e.event_id = r.event_id → t.Served e ∨ p.handles = some r)
    (hanswered : ∀ q reply, (q, reply) ∈ t.answered → (q, reply) ∈ s.answered ∨ q = r ∧ p = .idle ∧
      ((∃ bucket, reply = .deduplicated bucket) → ∃ e ∈ t.db.events, InBucket r.key e) ∧
      (t.db.Nothing r.event_id ∨ ∃ e ∈ t.db.events, e.event_id = r.event_id)) : t.Inv := by
  have hself : t.pc w = p := by rw [hturn.pc, Function.update_self]
  have hother : ∀ v, v ≠ w → t.pc v = s.pc v := fun v hv => by rw [hturn.pc, Function.update_of_ne hv]
  -- another request is of another event
  have hne : ∀ v q, v ≠ w → (s.pc v).request = some q → q.event_id ≠ r.event_id := fun v q hv hq heq =>
    hv (h.apart v w q r hq hturn.at_work heq)
  have hwork : ∀ e ∈ t.db.events, t.Served e ∨ ∃ v q, (t.pc v).handles = some q ∧ q.event_id = e.event_id := by
    intro e he
    by_cases hid : e.event_id = r.event_id
    · exact (hserved e he hid).imp id fun hp => ⟨w, r, by rw [hself, hp], hid.symm⟩
    · have hold : e ∈ s.db.events := (hturn.writes.events e he).resolve_right hid
      rcases h.atomic.served e hold with hdone | ⟨v, q, hq, heq⟩
      · exact Or.inl (hdone.mono hturn.writes)
      · have hreq : (s.pc v).request = some q := by
          cases hpv : s.pc v <;> rw [hpv] at hq <;> first | exact hq | cases hq
        have hv : v ≠ w := by
          rintro rfl
          exact hid (heq ▸ congrArg Request.event_id (Option.some.inj (hreq.symm.trans hturn.at_work)))
        exact Or.inr ⟨v, q, by rw [hother v hv, hq], heq⟩
  constructor
  · exact fun v q hq => hturn.nextId ▸ h.fresh v q (hturn.request hq)
  · exact fun v v' q q' hq hq' => h.apart v v' q q' (hturn.request hq) (hturn.request hq')
  · intro q reply hq
    rw [hturn.nextId]
    rcases hanswered q reply hq with hold | ⟨rfl, rfl, -, -⟩
    · exact (h.past q reply hold).imp id fun hpast v q' hq' => hpast v q' (hturn.request hq')
    · refine ⟨h.fresh w q hturn.at_work, fun v q' hq' => hne v q' ?_ (hturn.request hq')⟩
      rintro rfl
      rw [hself] at hq'
      cases hq'
  · intro i hi
    rw [hturn.nextId] at hi
    exact (h.drawn i hi).frame hturn.writes (by have := h.fresh w r hturn.at_work; omega)
  · intro v
    by_cases hv : v = w
    · subst hv
      rwa [hself]
    · rw [hother v hv]
      exact (h.point v).frame hturn.writes fun q hq => hne v q hv hq
  · intro d hd
    by_cases hid : d.event_id = r.event_id
    · exact (htaken d hd hid).imp id fun hp => ⟨w, r, by rw [hself, hp.1], hp.2, hid.symm⟩
    · have hold : d ∈ s.db.dedupe := (hturn.writes.dedupe d hd).resolve_right hid
      rcases h.taken d hold with ⟨e, he, hbucket⟩ | ⟨v, q, hq, hkey, heq⟩
      · exact Or.inl ⟨e, hturn.writes.stored he, hbucket⟩
      · have hv : v ≠ w := by
          rintro rfl
          have hreq : (s.pc v).request = some q := by rw [hq]; rfl
          exact hid (heq ▸ congrArg Request.event_id (Option.some.inj (hreq.symm.trans hturn.at_work)))
        exact Or.inr ⟨v, q, (hother v hv).trans hq, hkey, heq⟩
  · refine ⟨fun q bucket hq => ?_, hwork, fun q reply hq => ?_⟩
    · rcases hanswered q _ hq with hold | ⟨rfl, -, hdedup, -⟩
      · obtain ⟨e, he, hbucket⟩ := h.atomic.deduplicated q bucket hold
        exact ⟨e, hturn.writes.stored he, hbucket⟩
      · exact hdedup ⟨bucket, rfl⟩
    · rcases hanswered q reply hq with hold | ⟨rfl, rfl, -, hleft⟩
      · have hpast := (h.past q reply hold).2 w r hturn.at_work
        rcases h.atomic.allOrNothing q reply hold with hnone | ⟨e, he, hid, hdone⟩
        · exact Or.inl (hnone.frame hturn.writes (Ne.symm hpast))
        · exact Or.inr ⟨e, hturn.writes.stored he, hid, hdone.mono hturn.writes⟩
      · refine hleft.imp id ?_
        rintro ⟨e, he, hid⟩
        exact ⟨e, he, hid, (hserved e he hid).resolve_right (by rintro ⟨⟩)⟩

/-- The request is answered. -/
theorem System.Inv.answer {reply : Reply} (h : s.Inv) (hw : (s.pc w).request = some r)
    (hpc : t.pc = Function.update s.pc w .idle) (hnext : t.nextId = s.nextId)
    (hanswered : t.answered = s.answered ++ [(r, reply)]) (hwrites : Writes r.event_id s t)
    (htaken : ∀ d ∈ t.db.dedupe, d.event_id = r.event_id → ∃ e ∈ t.db.events, InBucket d.key e)
    (hserved : ∀ e ∈ t.db.events, e.event_id = r.event_id → t.Served e)
    (hdedup : (∃ bucket, reply = .deduplicated bucket) → ∃ e ∈ t.db.events, InBucket r.key e)
    (hleft : t.db.Nothing r.event_id ∨ ∃ e ∈ t.db.events, e.event_id = r.event_id) : t.Inv := by
  refine h.of_step ⟨hw, hpc, Or.inl rfl, hnext, hwrites⟩ trivial (fun d hd hid => Or.inl (htaken d hd hid))
    (fun e he hid => Or.inl (hserved e he hid)) fun q reply' hq => ?_
  rcases List.mem_append.1 (hanswered ▸ hq) with hold | hnew
  · exact Or.inl hold
  · cases List.mem_singleton.1 hnew
    exact Or.inr ⟨rfl, rfl, hdedup, hleft⟩

theorem System.Inv.goto (h : s.Inv) (hw : (s.pc w).request = some r) (hpc : t.pc = Function.update s.pc w p)
    (hnext : t.nextId = s.nextId) (hanswered : t.answered = s.answered) (hwrites : Writes r.event_id s t)
    (hp : p.request = some r) (hpoint : t.PointSound p)
    (htaken : ∀ d ∈ t.db.dedupe, d.event_id = r.event_id →
      (∃ e ∈ t.db.events, InBucket d.key e) ∨ p = .store r ∧ r.key = d.key)
    (hserved : ∀ e ∈ t.db.events, e.event_id = r.event_id → p.handles = some r) : t.Inv :=
  h.of_step ⟨hw, hpc, Or.inr hp, hnext, hwrites⟩ hpoint htaken (fun e he hid => Or.inr (hserved e he hid))
    fun _ _ hq => Or.inl (hanswered ▸ hq)

theorem inv_claim {now : ℤ} (h : s.Inv) (hw : s.pc w = .claim r) (hok : Whole s (.go w now)) : (s.go w now).Inv := by
  have hreq : (s.pc w).request = some r := by rw [hw]; rfl
  have hnone : s.db.Nothing r.event_id := by simpa only [System.PointSound, hw] using h.point w
  simp only [Whole, hw] at hok
  simp only [System.go, hw]
  have hlive : ∀ d ∈ s.db.live now, d ∈ s.db.dedupe ∧ ¬d.expires_at < now := by
    intro d hd
    simpa using List.mem_filter.1 hd
  by_cases hany : ((s.db.live now).any fun d => d.key = r.key) = true
  · rw [g11_claim_dedupe, if_pos hany]
    refine h.answer hreq rfl rfl rfl (.of_still _ (fun d hd => (hlive d hd).1) rfl rfl fun _ h => h)
      (fun d hd hid => absurd hid (hnone.dedupe d (hlive d hd).1))
      (fun e he hid => absurd hid (hnone.events e he)) (fun _ => ?_)
      (Or.inl ⟨fun d hd => hnone.dedupe d (hlive d hd).1, hnone.events, hnone.actions⟩)
    -- the entry of the bucket is that of an event
    obtain ⟨d, hd, hkey⟩ := List.any_eq_true.1 hany
    have hkey : d.key = r.key := of_decide_eq_true hkey
    rcases h.taken d (hlive d hd).1 with ⟨e, he, hbucket⟩ | ⟨v, q, hv, hqkey, hqid⟩
    · exact ⟨e, he, hkey ▸ hbucket⟩
    · rcases hok with hpassed | hstored
      · exact absurd (hpassed v q hv (hqkey.trans hkey) d (hlive d hd).1 hqid.symm) (hlive d hd).2
      · exact hstored
  · rw [g11_claim_dedupe, if_neg hany]
    refine h.goto hreq rfl rfl rfl ⟨fun d hd => ?_, fun _ h => h, fun _ => Or.inl, fun _ h => h, fun _ => Or.inl,
      fun _ h => h⟩ rfl ⟨hnone.events, hnone.actions⟩ (fun d hd hid => ?_) fun e he hid => absurd hid (hnone.events e he)
    · rcases List.mem_append.1 hd with hold | hnew
      · exact Or.inl (hlive d hold).1
      · exact Or.inr (by rw [List.mem_singleton.1 hnew])
    · rcases List.mem_append.1 hd with hold | hnew
      · exact absurd hid (hnone.dedupe d (hlive d hold).1)
      · exact Or.inr ⟨rfl, by rw [List.mem_singleton.1 hnew]⟩

/-- An entry of a request is of its bucket, whose event is stored unless the request is about to. -/
theorem System.Inv.entries (h : s.Inv) (hw : (s.pc w).request = some r) {d : DedupeEntry} (hd : d ∈ s.db.dedupe)
    (hid : d.event_id = r.event_id) :
    (∃ e ∈ s.db.events, InBucket d.key e) ∨ s.pc w = .store r ∧ r.key = d.key := by
  rcases h.taken d hd with hstored | ⟨v, q, hv, hkey, hq⟩
  · exact Or.inl hstored
  · have hreq : (s.pc v).request = some q := by rw [hv]; rfl
    obtain rfl := h.apart v w q r hreq hw (hq.trans hid)
    obtain rfl := Option.some.inj (hreq.symm.trans hw)
    exact Or.inr ⟨hv, hkey⟩

theorem System.Inv.refuse (h : s.Inv) (hw : (s.pc w).request = some r) (hnone : s.db.Nothing r.event_id) :
    (s.answer w r .failed).Inv :=
  h.answer hw rfl rfl rfl (.of_still _ (fun _ h => h) rfl rfl fun _ h => h)
    (fun d hd hid => absurd hid (hnone.dedupe d hd)) (fun e he hid => absurd hid (hnone.events e he))
    (by rintro ⟨bucket, ⟨⟩⟩) (Or.inl hnone)

/-- A request whose event is stored is over when enough of its actions are enqueued. -/
theorem System.Inv.finish {reply : Reply} {enqueued : List ActionKind} {met : List (ℕ × Policy)} (h : s.Inv)
    (hw : (s.pc w).request = some r) (hnot : s.pc w ≠ .store r) (hmet : s.met ⊆ met) (hrow : s.HasRow r)
    (hdone : ∀ kind ∈ enqueued,
      ∃ a ∈ s.db.actions, a.tenant_id = r.key.tenant_id ∧ a.event_id = r.event_id ∧ a.action_kind = kind)
    (henough : s.Enough r enqueued) (hreply : ∀ bucket, reply ≠ .deduplicated bucket) :
    ({ s with met := met }.answer w r reply).Inv := by
  refine h.answer hw rfl rfl rfl (.of_still _ (fun _ h => h) rfl rfl hmet)
    (fun d hd hid => (h.entries hw hd hid).resolve_right fun hstore => hnot hstore.1) (fun e he hid => ?_)
    (by rintro ⟨bucket, hbucket⟩; exact absurd hbucket (hreply bucket)) ?_
  · obtain ⟨now, rfl⟩ := hrow.only e he hid
    obtain ⟨policy, kinds, hpolicy, heval, hsub⟩ := henough
    exact ⟨policy, kinds, hmet hpolicy, heval, fun kind hkind => hdone kind (hsub hkind)⟩
  · obtain ⟨now, hmem⟩ := hrow.stored
    exact Or.inr ⟨_, hmem, rfl⟩

theorem inv_store {now : ℤ} (h : s.Inv) (hw : s.pc w = .store r) (hok : Whole s (.go w now)) : (s.go w now).Inv := by
  have hreq : (s.pc w).request = some r := by rw [hw]; rfl
  obtain ⟨hevents, hactions⟩ :
      (∀ e ∈ s.db.events, e.event_id ≠ r.event_id) ∧ ∀ a ∈ s.db.actions, a.event_id ≠ r.event_id := by
    simpa only [System.PointSound, hw] using h.point w
  have hnew : (s.db.events.any fun e => e.tenant_id = r.key.tenant_id ∧ e.event_id = r.event_id) = false :=
    List.any_eq_false.2 fun e he heq => hevents e he (of_decide_eq_true heq).2
  simp only [Whole, hw] at hok
  simp only [System.go, hw, g11_store_event, hnew, Bool.false_or]
  by_cases htaken : taken r s.db = true
  · rw [if_pos htaken]
    exact h.refuse hreq ⟨hok.resolve_left (by rw [htaken]; exact Bool.noConfusion), hevents, hactions⟩
  · rw [if_neg htaken]
    have hrow : ∀ e ∈ s.db.events ++ [r.row now], e ∈ s.db.events ∨ e = r.row now := fun e he =>
      (List.mem_append.1 he).imp id List.mem_singleton.1
    have hstored : r.row now ∈ s.db.events ++ [r.row now] := List.mem_append_right _ (List.mem_singleton.2 rfl)
    refine h.goto hreq rfl rfl rfl ⟨fun _ => Or.inl, List.subset_append_left .., fun e he => ?_, fun _ h => h,
      fun _ => Or.inl, List.subset_append_left ..⟩ rfl ⟨⟨⟨now, hstored⟩, fun e he hid => ?_⟩, hactions⟩
      (fun d hd hid => Or.inl ?_) fun _ _ _ => rfl
    · rcases hrow e he with hold | rfl
      · exact Or.inl hold
      · exact Or.inr rfl
    · exact ⟨now, (hrow e he).resolve_left fun hold => hevents e hold hid⟩
    · rcases h.entries hreq hd hid with ⟨e, he, hbucket⟩ | ⟨-, hkey⟩
      · exact ⟨e, List.mem_append_left _ he, hbucket⟩
      · exact ⟨_, hstored, hkey ▸ inBucket_row now r⟩

theorem inv_policy {now : ℤ} (h : s.Inv) (hw : s.pc w = .policy r) (hok : Whole s (.go w now)) : (s.go w now).Inv := by
  have hreq : (s.pc w).request = some r := by rw [hw]; rfl
  have hnot : s.pc w ≠ .store r := by rw [hw]; exact Point.noConfusion
  obtain ⟨hrow, hactions⟩ : s.HasRow r ∧ ∀ a ∈ s.db.actions, a.event_id ≠ r.event_id := by
    simpa only [System.PointSound, hw] using h.point w
  simp only [Whole, hw] at hok
  simp only [System.go, hw]
  cases heval : _evaluate_policy r.severity_hint (g11_get_policy r.key.tenant_id s.db) with
  | error e =>
    have henough : s.Enough r [] := hok.resolve_left (by rintro ⟨kinds, hkinds⟩; cases heval.symm.trans hkinds)
    exact h.finish hreq hnot (List.subset_append_left ..) hrow (fun _ hkind => absurd hkind List.not_mem_nil) henough
      fun _ => Reply.noConfusion
  | ok kinds =>
    refine h.goto hreq rfl rfl rfl (.of_still _ (fun _ h => h) rfl rfl (List.subset_append_left ..)) rfl
      ⟨⟨hrow.stored, hrow.only⟩, ⟨_, List.mem_append_right _ (List.mem_singleton.2 rfl), heval⟩,
        fun _ hkind => absurd hkind List.not_mem_nil, fun a ha hid => absurd hid (hactions a ha)⟩
      (fun d hd hid => Or.inl ((h.entries hreq hd hid).resolve_right fun hstore => hnot hstore.1)) fun _ _ _ => rfl

theorem inv_enqueue {now : ℤ} {enqueued rest : List ActionKind} (h : s.Inv) (hw : s.pc w = .enqueue r enqueued rest) :
    (s.go w now).Inv := by
  have hreq : (s.pc w).request = some r := by rw [hw]; rfl
  have hnot : s.pc w ≠ .store r := by rw [hw]; exact Point.noConfusion
  have hpoint := h.point w
  rw [hw] at hpoint
  obtain ⟨hrow, ⟨policy, hmet, heval⟩, hdone, honly⟩ := hpoint
  cases rest with
  | nil =>
    simp only [System.go, hw]
    rw [List.append_nil] at heval
    exact h.finish hreq hnot (fun _ h => h) hrow hdone ⟨policy, enqueued, hmet, heval, fun _ h => h⟩
      fun _ => Reply.noConfusion
  | cons kind rest =>
    simp only [System.go, hw]
    obtain ⟨now', hmem⟩ := hrow.stored
    -- the event is there, and the action is not
    have hparent : (s.db.events.any fun e => e.tenant_id = r.key.tenant_id ∧ e.event_id = r.event_id) = true :=
      List.any_eq_true.2 ⟨_, hmem, decide_eq_true ⟨rfl, rfl⟩⟩
    have hkind : kind ∉ enqueued := fun hkind =>
      (List.nodup_append.1 (evaluate_nodup heval)).2.2 kind hkind kind List.mem_cons_self rfl
    have hunique : (s.db.actions.any fun a =>
        a.tenant_id = r.key.tenant_id ∧ a.event_id = r.event_id ∧ a.action_kind = kind) = false :=
      List.any_eq_false.2 fun a ha heq => hkind ((of_decide_eq_true heq).2.2 ▸ honly a ha (of_decide_eq_true heq).2.1)
    rw [g11_enqueue_action, hparent, hunique, Bool.not_false, Bool.and_self, if_pos rfl]
    have hold : ∀ a ∈ s.db.actions ++ [⟨r.key.tenant_id, r.event_id, kind, .pending, now⟩],
        a ∈ s.db.actions ∨ a = ⟨r.key.tenant_id, r.event_id, kind, .pending, now⟩ := fun a ha =>
      (List.mem_append.1 ha).imp id List.mem_singleton.1
    refine h.goto hreq rfl rfl rfl ⟨fun _ => Or.inl, fun _ h => h, fun _ => Or.inl, List.subset_append_left ..,
      fun a ha => ?_, fun _ h => h⟩ rfl
      ⟨⟨hrow.stored, hrow.only⟩, ⟨policy, hmet, ?_⟩, fun k hk => ?_, fun a ha hid => ?_⟩
      (fun d hd hid => Or.inl ((h.entries hreq hd hid).resolve_right fun hstore => hnot hstore.1)) fun _ _ _ => rfl
    · rcases hold a ha with ha | rfl
      · exact Or.inl ha
      · exact Or.inr rfl
    · rw [heval, List.append_assoc, List.singleton_append]
    · rcases List.mem_append.1 hk with hk | hk
      · obtain ⟨a, ha, hkey⟩ := hdone k hk
        exact ⟨a, List.mem_append_left _ ha, hkey⟩
      · exact ⟨_, List.mem_append_right _ (List.mem_singleton.2 rfl), rfl, rfl, (List.mem_singleton.1 hk).symm⟩
    · rcases hold a ha with ha | rfl
      · exact List.mem_append_left _ (honly a ha hid)
      · exact List.mem_append_right _ (List.mem_singleton.2 rfl)

theorem inv_fail {fromisoformat : String → Option Datetime} (h : s.Inv) (hok : Whole s (.fail w)) :
    (s.step fromisoformat (.fail w)).Inv := by
  have hpoint := h.point w
  simp only [System.step]
  cases hw : s.pc w with
  | idle => exact h
  | claim r =>
    rw [hw] at hpoint
    exact h.refuse (by rw [hw]; rfl) hpoint
  | store r =>
    rw [hw] at hpoint
    simp only [Whole, hw] at hok
    exact h.refuse (by rw [hw]; rfl) ⟨hok, hpoint.1, hpoint.2⟩
  | policy r =>
    rw [hw] at hpoint
    simp only [Whole, hw] at hok
    exact h.finish (by rw [hw]; rfl) (by rw [hw]; exact Point.noConfusion) (fun _ h => h) hpoint.1
      (fun _ hkind => absurd hkind List.not_mem_nil) hok fun _ => Reply.noConfusion
  | enqueue r enqueued rest =>
    rw [hw] at hpoint
    simp only [Whole, hw] at hok
    exact h.finish (by rw [hw]; rfl) (by rw [hw]; exact Point.noConfusion) (fun _ h => h) hpoint.1 hpoint.2.2.1 hok
      fun _ => Reply.noConfusion

/-- A new request has an id of its own. -/
theorem inv_push (h : s.Inv) (hw : s.pc w = .idle) (hid : r.event_id = s.nextId) :
    ({ s with nextId := s.nextId + 1 }.goto w (.claim r)).Inv := by
  have hpc : ∀ v, v ≠ w → Function.update s.pc w (.claim r) v = s.pc v := fun v hv => Function.update_of_ne hv ..
  have hself : Function.update s.pc w (.claim r) w = .claim r := Function.update_self ..
  -- a request is the new one, or was there
  have hrequest : ∀ v q, (Function.update s.pc w (.claim r) v).request = some q →
      v = w ∧ q = r ∨ v ≠ w ∧ (s.pc v).request = some q := by
    intro v q hq
    by_cases hv : v = w
    · subst hv
      rw [hself] at hq
      exact Or.inl ⟨rfl, (Option.some.inj hq).symm⟩
    · exact Or.inr ⟨hv, by rwa [hpc v hv] at hq⟩
  constructor
  · intro v q hq
    rcases hrequest v q hq with ⟨-, rfl⟩ | ⟨-, hold⟩
    · exact hid ▸ Nat.lt_succ_self _
    · exact Nat.lt_succ_of_lt (h.fresh v q hold)
  · intro v v' q q' hq hq' heq
    rcases hrequest v q hq with ⟨rfl, rfl⟩ | ⟨-, hold⟩ <;> rcases hrequest v' q' hq' with ⟨rfl, rfl⟩ | ⟨-, hold'⟩
    · rfl
    · exact absurd (heq.symm.trans hid) (h.fresh v' q' hold').ne
    · exact absurd (heq.trans hid) (h.fresh v q hold).ne
    · exact h.apart v v' q q' hold hold' heq
  · intro q reply hq
    obtain ⟨hlt, hpast⟩ := h.past q reply hq
    refine ⟨Nat.lt_succ_of_lt hlt, fun v q' hq' => ?_⟩
    rcases hrequest v q' hq' with ⟨-, rfl⟩ | ⟨-, hold⟩
    · exact hid ▸ hlt.ne'
    · exact hpast v q' hold
  · exact fun i hi => h.drawn i (Nat.le_of_succ_le hi)
  · intro v
    by_cases hv : v = w
    · subst hv
      rw [goto_pc, hself]
      have hnone := h.drawn r.event_id hid.ge
      exact ⟨hnone.dedupe, hnone.events, hnone.actions⟩
    · have hstill : Writes s.nextId s ({ s with nextId := s.nextId + 1 }.goto w (.claim r)) :=
        .of_still _ (fun _ h => h) rfl rfl fun _ h => h
      rw [goto_pc, hpc v hv]
      exact (h.point v).frame hstill fun q hq => (h.fresh v q hq).ne
  · intro d hd
    rcases h.taken d hd with hstored | ⟨v, q, hv, hkey⟩
    · exact Or.inl hstored
    · exact Or.inr ⟨v, q, (hpc v (by rintro rfl; cases hw.symm.trans hv)).trans hv, hkey⟩
  · refine ⟨h.atomic.deduplicated, fun e he => ?_, h.atomic.allOrNothing⟩
    rcases h.atomic.served e he with hserved | ⟨v, q, hv, heq⟩
    · exact Or.inl hserved
    · have hne : v ≠ w := by
        rintro rfl
        rw [hw] at hv
        cases hv
      exact Or.inr ⟨v, q, (congrArg Point.handles (hpc v hne)).trans hv, heq⟩

end Steps

/-! ### Runs -/

variable {fromisoformat : String → Option Datetime}

theorem inv_init : System.init.Inv where
  fresh := fun _ _ h => by cases h
  apart := fun _ _ _ _ h => by cases h
  past := fun _ _ h => absurd h List.not_mem_nil
  drawn := fun _ _ => ⟨fun _ h => absurd h List.not_mem_nil, fun _ h => absurd h List.not_mem_nil,
    fun _ h => absurd h List.not_mem_nil⟩
  point := fun _ => trivial
  taken := fun _ h => absurd h List.not_mem_nil
  atomic := ⟨fun _ _ h => absurd h List.not_mem_nil, fun _ h => absurd h List.not_mem_nil,
    fun _ _ h => absurd h List.not_mem_nil⟩

theorem inv_step (s : System) (a : Act) (h : s.Inv) (hok : Whole s a) : (s.step fromisoformat a).Inv := by
  cases a with
  | push w tenant actor token body =>
    simp only [System.step]
    cases hw : s.pc w with
    | idle =>
      cases hr : received fromisoformat tenant actor token body s.nextId with
      | none => exact h
      | some r => exact inv_push h hw (received_event_id hr)
    | claim r => exact h
    | store r => exact h
    | policy r => exact h
    | enqueue r enqueued rest => exact h
  | go w now =>
    cases hw : s.pc w with
    | idle =>
      simp only [System.step, System.go, hw]
      exact h
    | claim r => exact inv_claim h hw hok
    | store r => exact inv_store h hw hok
    | policy r => exact inv_policy h hw hok
    | enqueue r enqueued rest => exact inv_enqueue h hw
  | fail w => exact inv_fail h hok
  | upsert tenant policy =>
    have hstill : Writes s.nextId s (s.step fromisoformat (.upsert tenant policy)) :=
      .of_still _ (fun _ h => h) rfl rfl fun _ h => h
    refine ⟨h.fresh, h.apart, h.past, fun i hi => ?_, fun v => ?_, h.taken, ?_⟩
    · exact ⟨(h.drawn i hi).dedupe, (h.drawn i hi).events, (h.drawn i hi).actions⟩
    · exact (h.point v).frame hstill fun q hq => (h.fresh v q hq).ne
    · refine ⟨h.atomic.deduplicated, h.atomic.served, fun q reply hq => ?_⟩
      exact (h.atomic.allOrNothing q reply hq).imp (fun hnone => ⟨hnone.dedupe, hnone.events, hnone.actions⟩) id

/-- **Key result**: deduplication is atomic with acceptance, in every run of whole steps. -/
theorem atomic_run (fromisoformat : String → Option Datetime) (run : List Act)
    (hrun : Guarded (System.step fromisoformat) Whole .init run) :
    (run.foldl (System.step fromisoformat) .init).Atomic :=
  (hrun.invariant inv_step inv_init).atomic

/-- An error of an application, at half past two minutes after the epoch. -/
def refused : ErrorEventPush where
  application_id := "billing"
  error_code := "E42"
  error_message := "refused"
  occurred_at := "1970-01-01T00:02:30+00:00"
  source_principal_id := none
  principal_id := none
  operation := none
  session_context := none
  severity_hint := some .HIGH
  raw_payload := none
  logical_action_id := none

/-- When it occurred. -/
def refusedAt : String → Option Datetime := fun _ => some ⟨150000000, 0⟩

/-- A policy that opens tickets. -/
def ticketPolicy : Policy := ⟨.LOW, true, false, [], []⟩

/-- An event that is stored and served, and the same error again. -/
def pushedTwice : List Act :=
  [.upsert "acme" ticketPolicy, .push 0 "acme" "agent" "a" refused, .go 0 0, .go 0 0, .go 0 0, .go 0 0, .go 0 0,
    .push 1 "acme" "agent" "b" refused, .go 1 1]

theorem pushedTwice_atomic : (pushedTwice.foldl (System.step refusedAt) .init).Atomic := by
  refine atomic_run refusedAt pushedTwice ⟨trivial, trivial, Or.inl ?_, Or.inl rfl, Or.inl ⟨_, rfl⟩, trivial, trivial,
    trivial, Or.inr ⟨_, List.mem_cons_self, ?_⟩, trivial⟩
  · exact fun v q hv hkey d hd => absurd hd List.not_mem_nil
  · exact ⟨rfl, rfl, rfl, by decide, by decide⟩

/-- **A lost event**: the first push is cut off after its claim, and the next one is answered `deduplicated`. -/
theorem lost_event : ¬([.push 0 "acme" "agent" "a" refused, .go 0 0, .fail 0, .push 1 "acme" "agent" "b" refused,
    .go 1 1].foldl (System.step refusedAt) .init).Atomic := by
  intro h
  obtain ⟨e, he, -⟩ := h.deduplicated _ _ (List.mem_cons_of_mem _ List.mem_cons_self)
  exact absurd he List.not_mem_nil

end JLMirror.IncidentResponse.Push
