import JLMirror.Alerting.Inbox

/-!
# The inbox law

What any number of consumers keep of the receipts, for every order and duplication of the deliveries,
and wherever statements fail and sessions crash.

## What is proved

* `step_inv` — what holds of a session, by its next statement.
* `receipt_move` — what a step can make of a receipt: it is inserted, quarantined by a delivery of
  another payload, completed, or handed to a reconciliation by the handler of an error.
* `completed_conflict` — a completed receipt is quarantined by a delivery of another payload, and a
  delivery that fails leaves no receipt.

**Key result** (`inbox_law`): the law of the inbox. What it says of the states is about the runs in
which the handler of an error meets no receipt that is completed or quarantined.
-/

namespace JLMirror.Alerting.Inbox

open JLMirror.Foundations
open JLMirror.Monitoring.OutboxDispatcher (OutboxRow)
open JLMirror.Monitoring.PublicationBridge (ReceiptState CONTRACTS envelopeValid)

variable {wire : Wire} {strict : Prop} {s s' : InboxWorld} {w v : ℕ} {k : MessageKey} {msg : OutboxRow}

/-! ### What the sessions hold -/

/-- The state is final. -/
def isFinal : ReceiptState → Bool
  | .completed | .quarantined => true
  | .received | .processing | .reconciliation_required => false

variable {state : ReceiptState}

theorem final_eq_false : isFinal state = false ↔ ¬(state = .completed ∨ state = .quarantined) := by
  cases state <;> simp [isFinal]

/-- There is a receipt of the message, for the same payload. -/
def Observed (wire : Wire) (s : InboxWorld) (msg : OutboxRow) : Prop :=
  ∃ r, receiptOf (keyOf msg) s.tx.db = some r ∧ r.payload_hash = wire.digest msg.encoded_payload

/-- There is a receipt of the message, for another payload. -/
def Conflicts (wire : Wire) (s : InboxWorld) (msg : OutboxRow) : Prop :=
  ∃ r, receiptOf (keyOf msg) s.tx.db = some r ∧ r.payload_hash ≠ wire.digest msg.encoded_payload

/-- The session has claimed the receipt of the message, which is not in a final state or is its own insert. -/
def Holding (wire : Wire) (s : InboxWorld) (w : ℕ) (msg : OutboxRow) (claim : List InboxWrite) : Prop :=
  (s.tx.writes w = claim ∧ ∃ r, receiptOf (keyOf msg) s.tx.db = some r ∧
    r.payload_hash = wire.digest msg.encoded_payload ∧ isFinal r.state = false) ∨
  (s.tx.writes w = .insert (InboxWorld.received wire msg) :: claim ∧ envelopeValid msg = true ∧
    receiptOf (keyOf msg) s.tx.db = none)

/-- The condition: the handler of an error that has the receipt does not find it in a final state. -/
def RecoversOpen (s : InboxWorld) : InboxAct → Prop
  | .next w _ _ => ∀ msg ∈ (s.pc w).failing, s.locked w (keyOf msg) = false →
      ∀ r ∈ receiptOf (keyOf msg) s.tx.db, isFinal r.state = false
  | _ => True

instance (s : InboxWorld) (a : InboxAct) : Decidable (RecoversOpen s a) := by
  cases a with
  | next w => exact inferInstanceAs (Decidable (∀ msg ∈ (s.pc w).failing, _ → ∀ r ∈ _, _))
  | _ => exact .isTrue trivial

/-- What holds of a session, by its next statement. If `strict`, the handler of an error has met no receipt in a final
state. -/
def PointInv (wire : Wire) (strict : Prop) (s : InboxWorld) (w : ℕ) : InboxPoint → Prop
  | .idle | .insert _ | .observe _ | .recover _ => s.tx.writes w = []
  | .conflict msg => s.tx.writes w = [] ∧ Conflicts wire s msg
  | .claim msg state =>
    (s.tx.writes w = [] ∧ Observed wire s msg ∧ isFinal state = false) ∨
    (s.tx.writes w = [.insert (InboxWorld.received wire msg)] ∧ envelopeValid msg = true ∧
      receiptOf (keyOf msg) s.tx.db = none ∧ state = .received)
  | .reread msg token | .complete msg token _ => Holding wire s w msg [.claimed (keyOf msg) token]
  | .commit msg =>
    (s.tx.writes w = [] ∧ (receiptOf (keyOf msg) s.tx.db).isSome = true) ∨
    (s.tx.writes w = [.insert (InboxWorld.received wire msg)] ∧ envelopeValid msg = false ∧
      receiptOf (keyOf msg) s.tx.db = none) ∨
    (s.tx.writes w = [.conflict (keyOf msg)] ∧ Conflicts wire s msg) ∨
    ∃ token result, Holding wire s w msg
      [.claimed (keyOf msg) token, .completed (keyOf msg) token msg.encoded_payload result]
  | .recovered msg =>
    s.tx.writes w = [] ∨ (s.tx.writes w = [.failed (keyOf msg)] ∧
      ∃ r, receiptOf (keyOf msg) s.tx.db = some r ∧ (strict → isFinal r.state = false))

/-- What holds of every state. -/
structure InboxInv (wire : Wire) (strict : Prop) (s : InboxWorld) : Prop where
  locks : s.tx.Exclusive InboxWrite.key
  keys : s.tx.Unique InboxDb.keys InboxWrite.inserted
  points : ∀ w, PointInv wire strict s w (s.pc w)
  applied : ∀ x ∈ s.tx.db.applied, ∃ r, receiptOf x.1 s.tx.db = some r ∧ r.payload_hash = wire.digest x.2

theorem init_inv : InboxInv wire strict .init where
  locks _ h := absurd h List.not_mem_nil
  keys := List.nodup_nil
  points _ := rfl
  applied _ h := absurd h List.not_mem_nil

/-! ### What a step leaves alone -/

variable {p : InboxPoint}

/-- What holds of a session holds of it after a step of another one. -/
theorem pointInv_mono (hwrites : s'.tx.writes v = s.tx.writes v) (hhash : ∀ k r, receiptOf k s.tx.db = some r →
      ∃ r', receiptOf k s'.tx.db = some r' ∧ r'.payload_hash = r.payload_hash)
    (hheld : ∀ x ∈ s.tx.writes v, receiptOf x.key s'.tx.db = receiptOf x.key s.tx.db) (h : PointInv wire strict s v p) :
    PointInv wire strict s' v p := by
  have hconflicts : ∀ msg, Conflicts wire s msg → Conflicts wire s' msg := by
    rintro msg ⟨r, hr, hne⟩
    obtain ⟨r', hr', heq⟩ := hhash _ r hr
    exact ⟨r', hr', heq ▸ hne⟩
  have hobserved : ∀ msg, Observed wire s msg → Observed wire s' msg := by
    rintro msg ⟨r, hr, hsame⟩
    obtain ⟨r', hr', heq⟩ := hhash _ r hr
    exact ⟨r', hr', heq.trans hsame⟩
  have hsome : ∀ k, (receiptOf k s.tx.db).isSome = true → (receiptOf k s'.tx.db).isSome = true := by
    intro k hk
    obtain ⟨r, hr⟩ := Option.isSome_iff_exists.1 hk
    obtain ⟨r', hr', -⟩ := hhash k r hr
    exact Option.isSome_iff_exists.2 ⟨r', hr'⟩
  have hholding : ∀ msg token more, Holding wire s v msg (.claimed (keyOf msg) token :: more) →
      Holding wire s' v msg (.claimed (keyOf msg) token :: more) := by
    rintro msg token more (⟨hw, hopen⟩ | ⟨hw, hvalid, hnone⟩)
    · have heq := hheld (.claimed (keyOf msg) token) (by rw [hw]; exact List.mem_cons_self)
      exact Or.inl ⟨hwrites.trans hw, heq.symm ▸ hopen⟩
    · have heq := hheld (.claimed (keyOf msg) token) (by rw [hw]; simp)
      exact Or.inr ⟨hwrites.trans hw, hvalid, heq.trans hnone⟩
  have hinsert : ∀ msg more, s.tx.writes v = .insert (InboxWorld.received wire msg) :: more →
      receiptOf (keyOf msg) s.tx.db = none → receiptOf (keyOf msg) s'.tx.db = none := by
    intro msg more hw hnone
    exact (hheld (.insert (InboxWorld.received wire msg)) (by rw [hw]; exact List.mem_cons_self)).trans hnone
  cases p with
  | idle | insert | observe | recover => exact hwrites.trans h
  | conflict msg => exact ⟨hwrites.trans h.1, hconflicts msg h.2⟩
  | claim msg state =>
    refine h.imp (fun ⟨hw, hobs, hst⟩ => ⟨hwrites.trans hw, hobserved msg hobs, hst⟩) ?_
    exact fun ⟨hw, hvalid, hnone, hst⟩ => ⟨hwrites.trans hw, hvalid, hinsert msg _ hw hnone, hst⟩
  | reread msg token | complete msg token _ => exact hholding msg token [] h
  | commit msg =>
    rcases h with ⟨hw, hk⟩ | ⟨hw, hvalid, hnone⟩ | ⟨hw, hconf⟩ | ⟨token, result, hold⟩
    · exact Or.inl ⟨hwrites.trans hw, hsome _ hk⟩
    · exact Or.inr (Or.inl ⟨hwrites.trans hw, hvalid, hinsert msg _ hw hnone⟩)
    · exact Or.inr (Or.inr (Or.inl ⟨hwrites.trans hw, hconflicts msg hconf⟩))
    · exact Or.inr (Or.inr (Or.inr ⟨token, result, hholding msg token _ hold⟩))
  | recovered msg =>
    refine h.imp hwrites.trans fun ⟨hw, hopen⟩ => ⟨hwrites.trans hw, ?_⟩
    have heq : receiptOf (keyOf msg) s'.tx.db = receiptOf (keyOf msg) s.tx.db :=
      hheld (.failed (keyOf msg)) (by simp [hw])
    rwa [heq]

/-! ### The kinds of steps -/

theorem goto_inv (h : InboxInv wire strict s) (hp : PointInv wire strict s w p) :
    InboxInv wire strict (s.goto w p) := by
  have hmono : ∀ v q, PointInv wire strict s v q → PointInv wire strict (s.goto w p) v q := by
    intro v q hq
    have hwrites : (s.goto w p).tx.writes v = s.tx.writes v := rfl
    exact pointInv_mono hwrites (fun _ r hr => ⟨r, hr, rfl⟩) (fun _ _ => rfl) hq
  refine ⟨h.locks, h.keys, fun v => ?_, h.applied⟩
  by_cases hv : v = w
  · subst hv
    rw [show (s.goto v p).pc v = p from Function.update_self ..]
    exact hmono v p hp
  · rw [show (s.goto w p).pc v = s.pc v from Function.update_of_ne hv ..]
    exact hmono v _ (h.points v)

theorem rollback_inv (h : InboxInv wire strict s) (w : ℕ)
    (hp : (s.rollback w p).tx.writes w = [] → PointInv wire strict (s.rollback w p) w p) :
    InboxInv wire strict (s.rollback w p) := by
  refine ⟨h.locks.rollback, h.keys.rollback, fun v => ?_, h.applied⟩
  by_cases hv : v = w
  · subst hv
    rw [show (s.rollback v p).pc v = p from Function.update_self ..]
    exact hp WriteLog.writes_rollback
  · rw [show (s.rollback w p).pc v = s.pc v from Function.update_of_ne hv ..]
    have hwrites : (s.rollback w p).tx.writes v = s.tx.writes v := WriteLog.writes_rollback_of_ne hv
    exact pointInv_mono hwrites (fun _ r hr => ⟨r, hr, rfl⟩) (fun _ _ => rfl) (h.points v)

/-- A write of a session that has the receipt. -/
theorem write_inv (h : InboxInv wire strict s) {x : InboxWrite}
    (hnew : ∀ k, x.inserted = some k → receiptOf k (s.view w) = none)
    (hp : ∀ s' : InboxWorld, s'.tx.db = s.tx.db → s'.tx.writes w = s.tx.writes w ++ [x] → PointInv wire strict s' w p) :
    InboxInv wire strict (s.write w x p) := by
  unfold InboxWorld.write
  split_ifs with hlocked
  · exact h
  have hfree : s.tx.locked InboxWrite.key w x.key = false := by simpa [InboxWorld.locked] using hlocked
  generalize hs' : (⟨s.tx.write w x, Function.update s.pc w p⟩ : InboxWorld) = s'
  have htx : s'.tx = s.tx.write w x := by rw [← hs']
  have hdb : s'.tx.db = s.tx.db := by rw [htx, WriteLog.write]
  have hpc : s'.pc = Function.update s.pc w p := by rw [← hs']
  refine ⟨htx ▸ h.locks.write hfree, ?_, fun v => ?_, hdb ▸ h.applied⟩
  · rw [htx]
    refine h.keys.write keys_apply fun k hk => ⟨fun hmem => ?_, fun y hy hyk => ?_⟩
    · have hsome := mem_keys.1 hmem
      rw [show receiptOf k (s.tx.view InboxWrite.apply w) = none from hnew k hk] at hsome
      cases hsome
    · exact WriteLog.locked_eq_false.1 hfree y hy ((key_of_inserted hyk).trans (key_of_inserted hk).symm)
  · by_cases hv : v = w
    · subst hv
      rw [hpc, Function.update_self]
      exact hp s' hdb (by rw [htx, WriteLog.writes_write])
    · rw [hpc, Function.update_of_ne hv]
      exact pointInv_mono (htx ▸ WriteLog.writes_write_of_ne hv) (fun _ r hr => ⟨r, hdb ▸ hr, rfl⟩)
        (fun _ _ => by rw [hdb]) (h.points v)

/-- A session that commits leaves the receipts of the others alone. -/
theorem commit_points (h : InboxInv wire strict s) (w v : ℕ) :
    PointInv wire strict (s.commit w) v ((s.commit w).pc v) := by
  by_cases hv : v = w
  · subst hv
    rw [show (s.commit v).pc v = .idle from Function.update_self ..]
    exact WriteLog.writes_commit
  · rw [show (s.commit w).pc v = s.pc v from Function.update_of_ne hv ..]
    have hwrites : (s.commit w).tx.writes v = s.tx.writes v := WriteLog.writes_commit_of_ne hv
    refine pointInv_mono hwrites (fun k r hr => receiptOf_view_hash hr) (fun x hx => ?_) (h.points v)
    refine receiptOf_view_of_ne fun y hy hkey => hv ?_
    exact h.locks (v, x) (WriteLog.mem_writes.1 hx) (w, y) (WriteLog.mem_writes.1 hy) hkey.symm

/-! ### What a commit makes of a receipt -/

/-- What a step can make of the receipt of a key. -/
inductive ReceiptMove (wire : Wire) (strict : Prop) (s : InboxWorld) (k : MessageKey) :
    Option InboxReceipt → Option InboxReceipt → Prop where
  | same (r : Option InboxReceipt) : ReceiptMove wire strict s k r r
  /-- A message is accepted. -/
  | first (w : ℕ) (msg : OutboxRow) (r : InboxReceipt) (hpc : s.pc w = .commit msg) (hkey : keyOf msg = k)
    (hhash : r.payload_hash = wire.digest msg.encoded_payload) : ReceiptMove wire strict s k none (some r)
  /-- A message with another payload. -/
  | conflict (w : ℕ) (msg : OutboxRow) (r r' : InboxReceipt) (hpc : s.pc w = .commit msg) (hkey : keyOf msg = k)
    (hne : r.payload_hash ≠ wire.digest msg.encoded_payload) (hstate : r'.state = .quarantined)
    (hhash : r'.payload_hash = r.payload_hash) : ReceiptMove wire strict s k (some r) (some r')
  /-- A message with the same payload. -/
  | completed (w : ℕ) (msg : OutboxRow) (r r' : InboxReceipt) (hpc : s.pc w = .commit msg) (hkey : keyOf msg = k)
    (hopen : isFinal r.state = false) (hstate : r'.state = .completed) (hhash : r'.payload_hash = r.payload_hash) :
    ReceiptMove wire strict s k (some r) (some r')
  /-- The handler of an error. -/
  | failed (w : ℕ) (msg : OutboxRow) (r r' : InboxReceipt) (hpc : s.pc w = .recovered msg) (hkey : keyOf msg = k)
    (hopen : strict → isFinal r.state = false) (hstate : r'.state = .reconciliation_required)
    (hhash : r'.payload_hash = r.payload_hash) : ReceiptMove wire strict s k (some r) (some r')

variable {token : String}

/-- A session that holds the receipt completes it, and the payload hash is that of its message. -/
theorem holding_completes {result : ResyncClass × Option ℕ}
    (h : Holding wire s w msg [.claimed (keyOf msg) token, .completed (keyOf msg) token msg.encoded_payload result]) :
    ∃ r', receiptOf (keyOf msg) (s.view w) = some r' ∧ r'.state = .completed ∧
      r'.payload_hash = wire.digest msg.encoded_payload ∧
      ∀ r, receiptOf (keyOf msg) s.tx.db = some r → r.payload_hash = r'.payload_hash ∧ isFinal r.state = false := by
  have hdone : ∀ r : InboxReceipt, ∃ r', (InboxWrite.completed (keyOf msg) token msg.encoded_payload result).update
      ((InboxWrite.claimed (keyOf msg) token).update r) = r' ∧ r'.state = .completed ∧
        r'.payload_hash = r.payload_hash :=
    fun r => ⟨_, rfl, by simp [InboxWrite.update], by simp [InboxWrite.update]⟩
  rcases h with ⟨hw, r, hr, hhash, hopen⟩ | ⟨hw, hvalid, hnone⟩
  · obtain ⟨r', hr', hstate, hhash'⟩ := hdone r
    refine ⟨r', ?_, hstate, hhash'.trans hhash, fun r₀ hr₀ => ?_⟩
    · rw [receiptOf_view, hw, hr, ← hr']
      simp [InboxWrite.key, InboxWrite.on]
    · obtain rfl := Option.some.inj (hr.symm.trans hr₀)
      exact ⟨hhash'.symm, hopen⟩
  · obtain ⟨r', hr', hstate, hhash'⟩ := hdone (InboxWorld.received wire msg)
    refine ⟨r', ?_, hstate, hhash', fun r₀ hr₀ => ?_⟩
    · rw [receiptOf_view, hw, hnone, ← hr']
      simp [InboxWrite.key, InboxWrite.on]
    · cases hnone.symm.trans hr₀

theorem commit_writes (h : PointInv wire strict s w p) (hp : p = .commit msg ∨ p = .recovered msg) :
    ∀ x ∈ s.tx.writes w, x.key = keyOf msg := by
  rcases hp with rfl | rfl
  · rcases h with ⟨hw, -⟩ | ⟨hw, -⟩ | ⟨hw, -⟩ | ⟨token, result, ⟨hw, -⟩ | ⟨hw, -⟩⟩ <;>
      simp [hw, InboxWrite.key]
  · rcases h with hw | ⟨hw, -⟩ <;> simp [hw, InboxWrite.key]

/-- What a commit of `_process_message` makes of the receipt of its message. -/
theorem commit_move (h : InboxInv wire strict s) (hpc : s.pc w = .commit msg) :
    ReceiptMove wire strict s (keyOf msg) (receiptOf (keyOf msg) s.tx.db) (receiptOf (keyOf msg) (s.view w)) := by
  have hw := h.points w
  rw [hpc] at hw
  rcases hw with ⟨hw, -⟩ | ⟨hw, hvalid, hnone⟩ | ⟨hw, r, hr, hne⟩ | ⟨token, result, hold⟩
  · rw [view_of_nil hw]
    exact .same _
  · have hview : receiptOf (keyOf msg) (s.view w) = some (InboxWorld.received wire msg) := by
      rw [receiptOf_view, hw, hnone]
      simp [InboxWrite.key, InboxWrite.on]
    rw [hnone, hview]
    exact .first w msg _ hpc rfl rfl
  · have hview : receiptOf (keyOf msg) (s.view w) = some ((InboxWrite.conflict (keyOf msg)).update r) := by
      rw [receiptOf_view, hw, hr]
      simp [InboxWrite.key, InboxWrite.on]
    rw [hr, hview]
    exact .conflict w msg _ _ hpc rfl hne rfl rfl
  · obtain ⟨r', hr', hstate, hhash, hall⟩ := holding_completes hold
    rw [hr']
    cases hr : receiptOf (keyOf msg) s.tx.db with
    | none => exact .first w msg _ hpc rfl hhash
    | some r => exact .completed w msg _ _ hpc rfl (hall r hr).2 hstate (hall r hr).1.symm

/-- What the handler of an error makes of it. -/
theorem recovered_move (h : InboxInv wire strict s) (hpc : s.pc w = .recovered msg) :
    ReceiptMove wire strict s (keyOf msg) (receiptOf (keyOf msg) s.tx.db) (receiptOf (keyOf msg) (s.view w)) := by
  have hw := h.points w
  rw [hpc] at hw
  rcases hw with hw | ⟨hw, r, hr, hopen⟩
  · rw [view_of_nil hw]
    exact .same _
  · have hview : receiptOf (keyOf msg) (s.view w) = some ((InboxWrite.failed (keyOf msg)).update r) := by
      rw [receiptOf_view, hw, hr]
      simp [InboxWrite.key, InboxWrite.on]
    rw [hr, hview]
    exact .failed w msg _ _ hpc rfl hopen rfl rfl

/-- A commit applies a payload with the hash of the receipt. -/
theorem commit_applied (h : InboxInv wire strict s) (hpc : s.pc w = .commit msg ∨ s.pc w = .recovered msg) :
    ∀ y ∈ (s.view w).applied, ∃ r, receiptOf y.1 (s.view w) = some r ∧ r.payload_hash = wire.digest y.2 := by
  intro y hy
  rcases applied_view hy with hy | ⟨token, result, hmem⟩
  · obtain ⟨r, hr, hhash⟩ := h.applied y hy
    obtain ⟨r', hr', heq⟩ := receiptOf_view_hash (w := w) hr
    exact ⟨r', hr', heq.trans hhash⟩
  · have hw := h.points w
    rcases hpc with hpc | hpc
    · rw [hpc] at hw
      rcases hw with ⟨hw, -⟩ | ⟨hw, -⟩ | ⟨hw, -⟩ | ⟨token', result', hold⟩
      · simp [hw] at hmem
      · simp [hw] at hmem
      · simp [hw] at hmem
      · obtain ⟨r', hr', -, hhash, -⟩ := holding_completes hold
        have heq : y = (keyOf msg, msg.encoded_payload) := by
          rcases hold with ⟨hw, -⟩ | ⟨hw, -⟩
          · simp [hw] at hmem
            exact Prod.ext hmem.1 hmem.2.2.1
          · simp [hw] at hmem
            exact Prod.ext hmem.1 hmem.2.2.1
        rw [heq]
        exact ⟨r', hr', hhash⟩
    · rw [hpc] at hw
      rcases hw with hw | ⟨hw, -⟩ <;> simp [hw] at hmem

theorem commit_inv (h : InboxInv wire strict s) (hpc : s.pc w = .commit msg ∨ s.pc w = .recovered msg) :
    InboxInv wire strict (s.commit w) where
  locks := h.locks.commit
  keys := h.keys.commit keys_apply
  points := commit_points h w
  applied := commit_applied h hpc

/-! ### The statements -/

theorem fail_inv (h : InboxInv wire strict s) (w : ℕ) : InboxInv wire strict (s.fail w) := by
  unfold InboxWorld.fail
  split
  · exact rollback_inv h w id
  · exact rollback_inv h w id

theorem insert_inv (h : InboxInv wire strict s) (hw : s.tx.writes w = []) (msg : OutboxRow) :
    InboxInv wire strict (s.insert wire w msg) := by
  unfold InboxWorld.insert
  by_cases hcontract : msg.contract_name ∉ CONTRACTS ∨ msg.causation_id = none
  · rw [if_pos hcontract]
    exact fail_inv h w
  rw [if_neg hcontract, view_of_nil hw]
  by_cases hsome : (receiptOf (keyOf msg) s.tx.db).isSome = true
  · rw [if_pos hsome]
    refine goto_inv h ?_
    split_ifs with hvalid
    · exact hw
    · exact Or.inl ⟨hw, hsome⟩
  · rw [if_neg hsome]
    have hnone : receiptOf (keyOf msg) s.tx.db = none := by simpa using hsome
    refine write_inv h (fun k hk => ?_) fun s' hdb hw' => ?_
    · rw [view_of_nil hw, ← Option.some.inj hk]
      exact hnone
    · rw [hw, List.nil_append] at hw'
      split_ifs with hvalid
      · exact Or.inr ⟨hw', hvalid, by rw [hdb, hnone], rfl⟩
      · exact Or.inr (Or.inl ⟨hw', by simpa using hvalid, by rw [hdb, hnone]⟩)

theorem claim_inv (h : InboxInv wire strict s) (hw : PointInv wire strict s w (.claim msg state)) (token : String) :
    InboxInv wire strict (s.claim w msg state token) := by
  unfold InboxWorld.claim
  split_ifs with hlocked hstate
  · exact h
  · refine write_inv h (fun _ hk => nomatch hk) fun s' hdb hw' => ?_
    rcases hw with ⟨hw, ⟨r, hr, hhash⟩, hopen⟩ | ⟨hw, hvalid, hnone, -⟩
    · rw [view_of_nil hw, hr] at hstate
      have hstate : r.state = state := by simpa using hstate
      exact Or.inl ⟨by rw [hw', hw]; rfl, r, hdb ▸ hr, hhash, hstate ▸ hopen⟩
    · exact Or.inr ⟨by rw [hw', hw]; rfl, hvalid, hdb ▸ hnone⟩
  · exact rollback_inv h w id

theorem complete_inv (h : InboxInv wire strict s) (result : ResyncClass × Option ℕ)
    (hw : Holding wire s w msg [.claimed (keyOf msg) token]) :
    InboxInv wire strict (s.write w (.completed (keyOf msg) token msg.encoded_payload result) (.commit msg)) := by
  refine write_inv h (fun _ hk => nomatch hk) fun s' hdb hw' => ?_
  refine Or.inr (Or.inr (Or.inr ⟨token, result, ?_⟩))
  rcases hw with ⟨hw, hopen⟩ | ⟨hw, hvalid, hnone⟩
  · exact Or.inl ⟨by rw [hw', hw]; rfl, hdb ▸ hopen⟩
  · exact Or.inr ⟨by rw [hw', hw]; rfl, hvalid, hdb ▸ hnone⟩

theorem observe_inv (h : InboxInv wire strict s) (hw : s.tx.writes w = []) (msg : OutboxRow) :
    InboxInv wire strict (s.observe wire w msg) := by
  unfold InboxWorld.observe
  rw [view_of_nil hw]
  cases hr : receiptOf (keyOf msg) s.tx.db with
  | none => exact fail_inv h w
  | some r =>
    dsimp only
    split_ifs with hhash hfinal
    · exact goto_inv h ⟨hw, r, hr, hhash⟩
    · exact goto_inv h (Or.inl ⟨hw, by rw [hr]; rfl⟩)
    · refine goto_inv h (Or.inl ⟨hw, ⟨r, hr, not_not.1 hhash⟩, ?_⟩)
      exact final_eq_false.2 hfinal

theorem next_inv (h : InboxInv wire strict s) {owner : OwnerTables}
    (hok : strict → RecoversOpen s (.next w token owner)) : InboxInv wire strict (s.next wire w token owner) := by
  have hw := h.points w
  unfold InboxWorld.next
  cases hpc : s.pc w with
  | idle => exact h
  | insert msg => exact insert_inv h (by rw [hpc] at hw; exact hw) msg
  | observe msg => exact observe_inv h (by rw [hpc] at hw; exact hw) msg
  | conflict msg =>
    rw [hpc] at hw
    obtain ⟨hw, hconflicts⟩ := hw
    refine write_inv h (fun _ hk => nomatch hk) fun s' hdb hw' => Or.inr (Or.inr (Or.inl ⟨by rw [hw', hw]; rfl, ?_⟩))
    obtain ⟨r, hr, hne⟩ := hconflicts
    exact ⟨r, hdb ▸ hr, hne⟩
  | claim msg state => exact claim_inv h (by rw [hpc] at hw; exact hw) token
  | reread msg token' => exact goto_inv h (by rw [hpc] at hw; exact hw)
  | complete msg token' result => exact complete_inv h result (by rw [hpc] at hw; exact hw)
  | recover msg =>
    rw [hpc] at hw
    have hw : s.tx.writes w = [] := hw
    dsimp only
    rw [view_of_nil hw]
    cases hr : receiptOf (keyOf msg) s.tx.db with
    | none => exact goto_inv h (Or.inl hw)
    | some r =>
      rw [Option.isSome_some, if_pos rfl]
      by_cases hlocked : s.locked w (keyOf msg) = true
      · rw [InboxWorld.write]
        exact (if_pos hlocked).symm ▸ h
      · have hopen : strict → isFinal r.state = false := fun hs =>
          hok hs msg (by rw [hpc]; rfl) (by simpa using hlocked) r hr
        exact write_inv h (fun _ hk => nomatch hk) fun s' hdb hw' =>
          Or.inr ⟨by rw [hw', hw]; rfl, r, hdb ▸ hr, hopen⟩
  | commit msg => exact commit_inv h (Or.inl hpc)
  | recovered msg => exact commit_inv h (Or.inr hpc)

/-- Every step keeps the invariant, and those that meet the condition the strict one. -/
theorem step_inv (h : InboxInv wire strict s) (a : InboxAct) (hok : strict → RecoversOpen s a) :
    InboxInv wire strict (s.step wire a) := by
  cases a with
  | deliver w msg =>
    have hw := h.points w
    simp only [InboxWorld.step]
    cases hpc : s.pc w with
    | idle => exact goto_inv h (by rw [hpc] at hw; exact hw)
    | _ => exact h
  | next w token owner => exact next_inv h hok
  | fail w => exact fail_inv h w
  | crash w => exact rollback_inv h w id

/-! ### What a step makes of a receipt -/

@[simp] theorem goto_db (p : InboxPoint) : (s.goto w p).tx.db = s.tx.db := rfl

@[simp] theorem rollback_db (p : InboxPoint) : (s.rollback w p).tx.db = s.tx.db := rfl

@[simp] theorem write_db (x : InboxWrite) (p : InboxPoint) : (s.write w x p).tx.db = s.tx.db := by
  unfold InboxWorld.write
  split_ifs <;> rfl

@[simp] theorem fail_db : (s.fail w).tx.db = s.tx.db := by
  unfold InboxWorld.fail
  split <;> rfl

@[simp] theorem insert_db : (s.insert wire w msg).tx.db = s.tx.db := by
  unfold InboxWorld.insert
  split_ifs <;> simp

@[simp] theorem claim_db (state : ReceiptState) (token : String) : (s.claim w msg state token).tx.db = s.tx.db := by
  unfold InboxWorld.claim
  split_ifs <;> simp

@[simp] theorem observe_db : (s.observe wire w msg).tx.db = s.tx.db := by
  unfold InboxWorld.observe
  split
  · exact fail_db
  · split_ifs <;> rfl

/-- Only a commit changes the tables. -/
theorem step_db (wire : Wire) (s : InboxWorld) (a : InboxAct) : (s.step wire a).tx.db = s.tx.db ∨
    ∃ w msg, (s.pc w = .commit msg ∨ s.pc w = .recovered msg) ∧ (s.step wire a).tx.db = s.view w := by
  cases a with
  | deliver w msg =>
    left
    simp only [InboxWorld.step]
    split <;> rfl
  | next w token owner =>
    simp only [InboxWorld.step, InboxWorld.next]
    cases hpc : s.pc w with
    | commit msg => exact Or.inr ⟨w, msg, Or.inl hpc, rfl⟩
    | recovered msg => exact Or.inr ⟨w, msg, Or.inr hpc, rfl⟩
    | recover msg => left; dsimp only; split_ifs <;> simp
    | idle | insert | observe | conflict | claim | reread | complete => left; simp
  | fail w => exact Or.inl fail_db
  | crash w => exact Or.inl rfl

/-- What a step makes of a receipt. -/
theorem receipt_move (h : InboxInv wire strict s) (a : InboxAct) (k : MessageKey) :
    ReceiptMove wire strict s k (receiptOf k s.tx.db) (receiptOf k (s.step wire a).tx.db) := by
  rcases step_db wire s a with heq | ⟨w, msg, hpc, heq⟩
  · rw [heq]
    exact .same _
  · rw [heq]
    by_cases hkey : keyOf msg = k
    · subst hkey
      rcases hpc with hpc | hpc
      · exact commit_move h hpc
      · exact recovered_move h hpc
    · have hw := h.points w
      rw [receiptOf_view_of_ne fun x hx hk => hkey ?_]
      · exact .same _
      · refine (commit_writes (p := s.pc w) hw ?_ x hx).symm.trans hk
        exact hpc

/-! ### A message that is processed without an exception -/

/-- The session of a step. -/
def InboxAct.session : InboxAct → ℕ
  | .deliver w _ | .next w _ _ | .fail w | .crash w => w

/-- A session that commits a message leaves a receipt of it. -/
theorem commit_isSome (h : InboxInv wire strict s) (hpc : s.pc w = .commit msg) :
    (receiptOf (keyOf msg) (s.view w)).isSome = true := by
  have hw := h.points w
  rw [hpc] at hw
  rcases hw with ⟨hw, hsome⟩ | ⟨hw, -, hnone⟩ | ⟨hw, r, hr, -⟩ | ⟨token, result, hold⟩
  · rwa [view_of_nil hw]
  · rw [receiptOf_view, hw, hnone]
    simp [InboxWrite.key, InboxWrite.on]
  · obtain ⟨r', hr', -⟩ := receiptOf_view_hash (w := w) hr
    exact Option.isSome_iff_exists.2 ⟨r', hr'⟩
  · obtain ⟨r', hr', -⟩ := holding_completes hold
    exact Option.isSome_iff_exists.2 ⟨r', hr'⟩

theorem claim_isSome (hw : PointInv wire strict s w (.claim msg state))
    (h : ¬((receiptOf (keyOf msg) (s.view w)).any fun r => r.state = state) = true) :
    (receiptOf (keyOf msg) s.tx.db).isSome = true := by
  rcases hw with ⟨-, ⟨r, hr, -⟩, -⟩ | ⟨hw, hvalid, hnone, rfl⟩
  · exact Option.isSome_iff_exists.2 ⟨r, hr⟩
  · -- the session has inserted the receipt itself, in the state that it compares with
    refine absurd ?_ h
    rw [receiptOf_view, hw, hnone]
    simp [InboxWrite.key, InboxWrite.on, hvalid]

theorem write_pc (x : InboxWrite) (hp : p ≠ .idle) (hw : s.pc w ≠ .idle) : (s.write w x p).pc w ≠ .idle := by
  unfold InboxWorld.write
  split_ifs
  · exact hw
  · rwa [show (⟨s.tx.write w x, Function.update s.pc w p⟩ : InboxWorld).pc w = p from Function.update_self ..]

theorem goto_pc : (s.goto w p).pc w = p := Function.update_self ..

theorem fail_pc (h : (s.pc w).message = some msg) : (s.fail w).pc w = .recover msg := by
  unfold InboxWorld.fail
  rw [h]
  exact Function.update_self ..

/-- What `_process_message` returns from has a receipt. -/
theorem next_isSome (h : InboxInv wire strict s) {owner : OwnerTables} (hmsg : (s.pc w).message = some msg)
    (hidle : (s.next wire w token owner).pc w = .idle) :
    (receiptOf (keyOf msg) (s.next wire w token owner).tx.db).isSome = true := by
  have hw := h.points w
  have hbusy : s.pc w ≠ .idle := fun heq => by
    rw [heq] at hmsg
    cases hmsg
  have hfail : (s.fail w).pc w ≠ .idle := by
    rw [fail_pc hmsg]
    exact (nomatch ·)
  cases hpc : s.pc w with
  | idle => exact absurd hpc hbusy
  | insert m =>
    simp only [InboxWorld.next, hpc, InboxWorld.insert] at hidle
    split_ifs at hidle
    · exact absurd hidle hfail
    · exact absurd (goto_pc.symm.trans hidle) (nomatch ·)
    · exact absurd (goto_pc.symm.trans hidle) (nomatch ·)
    · exact absurd hidle (write_pc _ (nomatch ·) hbusy)
    · exact absurd hidle (write_pc _ (nomatch ·) hbusy)
  | observe m =>
    simp only [InboxWorld.next, hpc, InboxWorld.observe] at hidle
    split at hidle
    · exact absurd hidle hfail
    · split_ifs at hidle
      · exact absurd (goto_pc.symm.trans hidle) (nomatch ·)
      · exact absurd (goto_pc.symm.trans hidle) (nomatch ·)
      · exact absurd (goto_pc.symm.trans hidle) (nomatch ·)
  | conflict m | complete m token' result =>
    simp only [InboxWorld.next, hpc] at hidle
    exact absurd hidle (write_pc _ (nomatch ·) hbusy)
  | claim m state =>
    rw [hpc] at hw hmsg
    obtain rfl := Option.some.inj hmsg
    simp only [InboxWorld.next, hpc, InboxWorld.claim] at hidle ⊢
    split_ifs at hidle ⊢ with hlocked hstate
    · exact absurd hidle hbusy
    · exact absurd hidle (write_pc _ (nomatch ·) hbusy)
    · exact claim_isSome (s := s) hw hstate
  | reread m token' =>
    simp only [InboxWorld.next, hpc] at hidle
    exact absurd (goto_pc.symm.trans hidle) (nomatch ·)
  | recover m | recovered m =>
    rw [hpc] at hmsg
    cases hmsg
  | commit m =>
    rw [hpc] at hmsg
    obtain rfl := Option.some.inj hmsg
    simp only [InboxWorld.next, hpc]
    exact commit_isSome h hpc

/-- A step of another session leaves a session where it is. -/
theorem step_pc (s : InboxWorld) {a : InboxAct} (hv : v ≠ a.session) : (s.step wire a).pc v = s.pc v := by
  have hpc : ∀ p, Function.update s.pc a.session p v = s.pc v := fun p => Function.update_of_ne hv p s.pc
  have hgoto : ∀ p, (s.goto a.session p).pc v = s.pc v := hpc
  have hrollback : ∀ p, (s.rollback a.session p).pc v = s.pc v := hpc
  have hwrite : ∀ x p, (s.write a.session x p).pc v = s.pc v := by
    intro x p
    unfold InboxWorld.write
    split_ifs
    · rfl
    · exact hpc p
  have hfail : (s.fail a.session).pc v = s.pc v := by
    unfold InboxWorld.fail
    split <;> exact hrollback _
  cases a with
  | deliver w msg =>
    simp only [InboxWorld.step]
    split
    · exact hgoto _
    · rfl
  | next w token owner =>
    simp only [InboxWorld.step, InboxWorld.next]
    split
    · rfl
    · unfold InboxWorld.insert
      split_ifs
      · exact hfail
      · exact hgoto _
      · exact hgoto _
      · exact hwrite _ _
      · exact hwrite _ _
    · unfold InboxWorld.observe
      split
      · exact hfail
      · split_ifs <;> exact hgoto _
    · exact hwrite _ _
    · unfold InboxWorld.claim
      split_ifs
      · rfl
      · exact hwrite _ _
      · exact hrollback _
    · exact hgoto _
    · exact hwrite _ _
    · split_ifs
      · exact hwrite _ _
      · exact hgoto _
    · exact hpc _
    · exact hpc _
  | fail w => exact hfail
  | crash w => exact hrollback _

/-- A message that a session is done with has a receipt, if the session has not crashed. -/
theorem step_isSome (h : InboxInv wire strict s) {a : InboxAct} (hcrash : ∀ v, a ≠ .crash v)
    (hmsg : (s.pc w).message = some msg) (hidle : (s.step wire a).pc w = .idle) :
    (receiptOf (keyOf msg) (s.step wire a).tx.db).isSome = true := by
  have hbusy : s.pc w ≠ .idle := fun heq => by
    rw [heq] at hmsg
    cases hmsg
  by_cases hw : w = a.session
  · cases a with
    | deliver v m =>
      obtain rfl : w = v := hw
      simp only [InboxWorld.step] at hidle
      exact absurd hidle hbusy
    | next v token owner =>
      obtain rfl : w = v := hw
      exact next_isSome h hmsg hidle
    | fail v =>
      obtain rfl : w = v := hw
      exact absurd ((fail_pc hmsg).symm.trans hidle) (nomatch ·)
    | crash v => exact absurd rfl (hcrash v)
  · exact absurd ((step_pc s hw).symm.trans hidle) hbusy

/-! ### The law -/

variable (wire)

/-- The state after a run. -/
def after (run : List InboxAct) : InboxWorld := run.foldl (InboxWorld.step wire) .init

/-- The receipt of the key is in the state. -/
def InState (k : MessageKey) (state : ReceiptState) (s : InboxWorld) : Prop :=
  ∃ r, receiptOf k s.tx.db = some r ∧ r.state = state

/-- The law of the inbox. -/
structure InboxLaw (run : List InboxAct) : Prop where
  /-- There is at most one receipt of a key. -/
  one : ∀ pre post, run = pre ++ post → (after wire pre).tx.db.keys.Nodup
  /-- There is one, once `_process_message` has returned from a message. -/
  returned : ∀ pre a post, run = pre ++ a :: post → ∀ w msg, ((after wire pre).pc w).message = some msg →
    (after wire (pre ++ [a])).pc w = .idle → (∀ v, a ≠ .crash v) →
    (receiptOf (keyOf msg) (after wire (pre ++ [a])).tx.db).isSome = true
  /-- It appears with the commit of a message, with the hash of its payload. -/
  first : ∀ pre a post, run = pre ++ a :: post → ∀ k r, receiptOf k (after wire pre).tx.db = none →
    receiptOf k (after wire (pre ++ [a])).tx.db = some r →
    ∃ w msg, (after wire pre).pc w = .commit msg ∧ keyOf msg = k ∧ r.payload_hash = wire.digest msg.encoded_payload
  /-- It is not lost, and the hash stays. -/
  kept : ∀ pre mid post, run = pre ++ mid ++ post → ∀ k r, receiptOf k (after wire pre).tx.db = some r →
    ∃ r', receiptOf k (after wire (pre ++ mid)).tx.db = some r' ∧ r'.payload_hash = r.payload_hash
  /-- Only a payload with the hash of the receipt is applied. -/
  applied : ∀ pre post, run = pre ++ post → ∀ x ∈ (after wire pre).tx.db.applied,
    ∃ r, receiptOf x.1 (after wire pre).tx.db = some r ∧ r.payload_hash = wire.digest x.2
  /-- A completed receipt stays so until it is quarantined, -/
  completed : Guarded (InboxWorld.step wire) RecoversOpen .init run → ∀ pre mid post, run = pre ++ mid ++ post → ∀ k,
    InState k .completed (after wire pre) →
    InState k .completed (after wire (pre ++ mid)) ∨ InState k .quarantined (after wire (pre ++ mid))
  /-- by a message with another payload. -/
  conflict : Guarded (InboxWorld.step wire) RecoversOpen .init run → ∀ pre a post, run = pre ++ a :: post → ∀ k,
    InState k .completed (after wire pre) → InState k .quarantined (after wire (pre ++ [a])) →
    ∃ w msg r, (after wire pre).pc w = .commit msg ∧ keyOf msg = k ∧ receiptOf k (after wire pre).tx.db = some r ∧
      r.payload_hash ≠ wire.digest msg.encoded_payload
  /-- A receipt becomes completed at most once. -/
  once : Guarded (InboxWorld.step wire) RecoversOpen .init run → ∀ pre a mid b post,
    run = pre ++ a :: (mid ++ b :: post) → ∀ k,
    ¬InState k .completed (after wire pre) → InState k .completed (after wire (pre ++ [a])) →
    ¬InState k .completed (after wire (pre ++ a :: mid)) → ¬InState k .completed (after wire (pre ++ a :: mid ++ [b]))
  /-- A quarantined receipt stays so. -/
  quarantined : Guarded (InboxWorld.step wire) RecoversOpen .init run → ∀ pre mid post, run = pre ++ mid ++ post → ∀ k,
    InState k .quarantined (after wire pre) → InState k .quarantined (after wire (pre ++ mid))

variable {wire}

theorem after_concat (run : List InboxAct) (a : InboxAct) :
    after wire (run ++ [a]) = (after wire run).step wire a := List.foldl_concat ..

theorem after_append (pre mid : List InboxAct) :
    after wire (pre ++ mid) = mid.foldl (InboxWorld.step wire) (after wire pre) := List.foldl_append ..

theorem after_inv (wire : Wire) (run : List InboxAct) : InboxInv wire False (after wire run) :=
  List.foldlRecOn (motive := InboxInv wire False) run _ init_inv fun _ hs a _ => step_inv hs a False.elim

theorem after_strict {run : List InboxAct} (h : Guarded (InboxWorld.step wire) RecoversOpen .init run) :
    InboxInv wire True (after wire run) :=
  h.invariant (I := InboxInv wire True) (fun _ a hs ha => step_inv hs a fun _ => ha) init_inv

theorem receipt_kept (run : List InboxAct) {r : InboxReceipt} (h : receiptOf k s.tx.db = some r) :
    ∃ r', receiptOf k (run.foldl (InboxWorld.step wire) s).tx.db = some r' ∧ r'.payload_hash = r.payload_hash := by
  refine List.foldlRecOn (motive := fun s : InboxWorld =>
    ∃ r', receiptOf k s.tx.db = some r' ∧ r'.payload_hash = r.payload_hash) run _ ⟨r, h, rfl⟩ ?_
  rintro s ⟨r', hr', hhash⟩ a -
  rcases step_db wire s a with heq | ⟨w, msg, -, heq⟩
  · exact ⟨r', by rw [heq, hr'], hhash⟩
  · obtain ⟨r'', hr'', hhash'⟩ := receiptOf_view_hash (w := w) hr'
    exact ⟨r'', by rw [heq, hr''], hhash'.trans hhash⟩

theorem InState.unique {state' : ReceiptState} (h : InState k state s) (h' : InState k state' s) :
    state = state' := by
  obtain ⟨r, hr, rfl⟩ := h
  obtain ⟨r', hr', rfl⟩ := h'
  rw [Option.some.inj (hr.symm.trans hr')]

/-- A final state is left for `quarantined` only. -/
theorem final_step (h : InboxInv wire True s) {r : InboxReceipt} (hr : receiptOf k s.tx.db = some r)
    (hfinal : isFinal r.state = true) (a : InboxAct) :
    receiptOf k (s.step wire a).tx.db = some r ∨
      InState k .quarantined (s.step wire a) ∧
        ∃ w msg, s.pc w = .commit msg ∧ keyOf msg = k ∧ r.payload_hash ≠ wire.digest msg.encoded_payload := by
  have hmove := receipt_move h a k
  rw [hr] at hmove
  generalize hr' : receiptOf k (s.step wire a).tx.db = r₂ at hmove
  cases hmove with
  | same => exact Or.inl rfl
  | conflict w msg _ r' hpc hkey hne hstate _ => exact Or.inr ⟨⟨r', hr', hstate⟩, w, msg, hpc, hkey, hne⟩
  | completed w msg _ r' hpc hkey hopen => cases hopen.symm.trans hfinal
  | failed w msg _ r' hpc hkey hopen => cases (hopen trivial).symm.trans hfinal

theorem quarantined_step (h : InboxInv wire True s) (hq : InState k .quarantined s) (a : InboxAct) :
    InState k .quarantined (s.step wire a) := by
  obtain ⟨r, hr, hstate⟩ := hq
  rcases final_step h hr (by rw [hstate]; rfl) a with hsame | ⟨hq, -⟩
  · exact ⟨r, hsame, hstate⟩
  · exact hq

theorem completed_step (h : InboxInv wire True s) (hc : InState k .completed s) (a : InboxAct) :
    InState k .completed (s.step wire a) ∨ InState k .quarantined (s.step wire a) := by
  obtain ⟨r, hr, hstate⟩ := hc
  rcases final_step h hr (by rw [hstate]; rfl) a with hsame | ⟨hq, -⟩
  · exact Or.inl ⟨r, hsame, hstate⟩
  · exact Or.inr hq

theorem strict_run {P : InboxWorld → Prop}
    (hstep : ∀ s a, InboxInv wire True s → P s → P (s.step wire a)) {pre mid post : List InboxAct}
    (hrun : Guarded (InboxWorld.step wire) RecoversOpen .init (pre ++ mid ++ post)) (h : P (after wire pre)) :
    P (after wire (pre ++ mid)) := by
  rw [guarded_append, guarded_append] at hrun
  rw [after_append]
  have hkeep := hrun.1.2.invariant (I := fun s => InboxInv wire True s ∧ P s)
    (fun s a hs ha => ⟨step_inv hs.1 a fun _ => ha, hstep s a hs.1 hs.2⟩) ⟨after_strict hrun.1.1, h⟩
  exact hkeep.2

theorem completed_run {pre mid post : List InboxAct}
    (hrun : Guarded (InboxWorld.step wire) RecoversOpen .init (pre ++ mid ++ post))
    (h : InState k .completed (after wire pre)) :
    InState k .completed (after wire (pre ++ mid)) ∨ InState k .quarantined (after wire (pre ++ mid)) := by
  refine strict_run (P := fun s => InState k .completed s ∨ InState k .quarantined s) (fun s a hs h => ?_) hrun
    (Or.inl h)
  rcases h with h | h
  · exact completed_step hs h a
  · exact Or.inr (quarantined_step hs h a)

/-- **The inbox law** holds of every run. -/
theorem inbox_law (wire : Wire) (run : List InboxAct) : InboxLaw wire run where
  one pre _ _ := (after_inv wire pre).keys.committed
  returned pre a post _ w msg hmsg hidle hcrash := by
    rw [after_concat] at hidle ⊢
    exact step_isSome (after_inv wire pre) hcrash hmsg hidle
  first pre a post _ k r hnone hsome := by
    have hmove := receipt_move (after_inv wire pre) a k
    rw [after_concat] at hsome
    rw [hnone, hsome] at hmove
    cases hmove with
    | first w msg _ hpc hkey hhash => exact ⟨w, msg, hpc, hkey, hhash⟩
  kept pre mid post _ k r hr := by
    rw [after_append]
    exact receipt_kept mid hr
  applied pre _ _ := (after_inv wire pre).applied
  completed hrun pre mid post heq k hk := completed_run (heq ▸ hrun) hk
  conflict hrun pre a post heq k hc hq := by
    rw [heq, guarded_append] at hrun
    obtain ⟨r, hr, hstate⟩ := hc
    rw [after_concat] at hq
    rcases final_step (after_strict hrun.1) hr (by rw [hstate]; rfl) a with hsame | ⟨-, w, msg, hpc, hkey, hne⟩
    · cases hstate.symm.trans (InState.unique ⟨r, hsame, rfl⟩ hq)
    · exact ⟨w, msg, r, hpc, hkey, hr, hne⟩
  once hrun pre a mid b post heq k _ hc hleft hagain := by
    have hsplit : pre ++ a :: mid = pre ++ [a] ++ mid := by simp
    have hrun' : run = pre ++ [a] ++ mid ++ [b] ++ post := by simp [heq]
    rw [hsplit] at hleft hagain
    have hq : InState k .quarantined (after wire (pre ++ [a] ++ mid)) := by
      have hrun₁ : run = pre ++ [a] ++ mid ++ ([b] ++ post) := by rw [hrun', List.append_assoc]
      exact (completed_run (hrun₁ ▸ hrun) hc).resolve_left hleft
    have hq' := strict_run (P := InState k .quarantined) (fun s a hs h => quarantined_step hs h a) (hrun' ▸ hrun) hq
    cases hagain.unique hq'
  quarantined hrun pre mid post heq k hk :=
    strict_run (P := InState k .quarantined) (fun s a hs h => quarantined_step hs h a) (heq ▸ hrun) hk

/-! ### A completed receipt that is quarantined, and a delivery without a receipt -/

/-- Bytes that are their own hash. -/
def plainWire : Wire := ⟨⟨id, id, fun _ => []⟩, fun _ => ⟨none, none, none, none, none⟩⟩

/-- A message with a payload. -/
def problemChanged (payload : List UInt8) : OutboxRow where
  tenant_id := "t"
  record_id := 1
  message_id := "m"
  producer_message_scope := "s"
  message_class := "integration_event"
  contract_name := "monitoring.problem-state.changed"
  contract_version := "1"
  producer := "monitoring"
  scope := "tenant"
  subject_type := none
  subject_id := none
  occurred_at := some 0
  correlation_id := "c"
  causation_id := some "transition"
  data_classification := "internal"
  serialization_profile_id := "json"
  encoded_payload := payload
  dispatch_state := .published
  claim_owner := none
  claim_expires_at := none
  attempt_count := 0
  last_error_class := none
  published_receipt_id := none
  published_at := none
  redrive_count := 0

/-- The tables of an owner that has nothing. -/
def noOwner : OwnerTables := ⟨[], [], []⟩

/-- A session processes a message. -/
def process (msg : OutboxRow) (n : ℕ) : List InboxAct :=
  .deliver 0 msg :: List.replicate n (.next 0 "token" noOwner)

/-- A delivery that fails before the receipt is there, and is made again. -/
example : Guarded (InboxWorld.step plainWire) RecoversOpen .init
    (.deliver 0 (problemChanged [1]) :: .fail 0 :: List.replicate 2 (.next 0 "" noOwner) ++
      process (problemChanged [1]) 5) := by decide

/-- A delivery of another payload quarantines the receipt that was completed; a delivery that fails leaves none. -/
theorem completed_conflict :
    InState (keyOf (problemChanged [1])) .completed (after plainWire (process (problemChanged [1]) 5)) ∧
    InState (keyOf (problemChanged [1])) .quarantined
      (after plainWire (process (problemChanged [1]) 5 ++ process (problemChanged [2]) 4)) ∧
    (after plainWire
      (.deliver 0 (problemChanged [1]) :: .fail 0 :: List.replicate 2 (.next 0 "" noOwner))).tx.db.receipts = [] :=
  ⟨⟨_, rfl, rfl⟩, ⟨_, rfl, rfl⟩, rfl⟩

end JLMirror.Alerting.Inbox
