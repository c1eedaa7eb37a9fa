import JLMirror.Foundations.Run
import JLMirror.Itsm.Changes

/-!
# The approval gate

An RFC goes on to be scheduled and implemented once it has been approved in review. `record_approval` sees to that: it
approves what is in review, and nothing else. `update_change` writes any state, and a rejection leaves the state alone.

## The model

* `Approved` is of the decisions in the order of their commits: one approved the RFC in review, and none has rejected it
  since.
* `RespectsGate` is the condition on a commit: an update sets a state past the gate only where the RFC is past it, and a
  rejection finds its RFC before it.

## What is proved

* **Key result** (`approval_gate`): in every state of a run whose commits all respect the gate, an RFC past the gate has
  been approved, however the requests are interleaved.
* `approved_by_update`, `rejected_after_approval`: without the condition an RFC is past the gate with no decision, or with
  a rejection.
-/

namespace JLMirror.Itsm

open JLMirror.Foundations JLMirror.Monitoring

/-! ### The claim -/

/-- The state is behind the approval. -/
def RfcState.pastGate (x : RfcState) : Bool := x ∈ [.approved, .scheduled, .implementing, .complete]

/-- The RFC was approved in review, and has not been rejected since. -/
def Approved (recorded : List RecordedDecision) (rfc_id : String) : Prop :=
  ∃ pre d post, recorded = pre ++ d :: post ∧ d.approval.rfc_id = rfc_id ∧ d.approval.decision = .approved ∧
    d.found = some .review ∧ ∀ e ∈ post, e.approval.rfc_id = rfc_id → e.approval.decision ≠ .rejected

/-- Every RFC past the gate has been approved. -/
def ChangeSystem.Gated (s : ChangeSystem) : Prop :=
  ∀ r ∈ s.db.requests, r.state.pastGate = true → Approved s.recorded r.rfc_id

/-- What the transaction is about to commit respects the gate. -/
def ChangeDone.respects (db : ChangeDb) : ChangeDone → Bool
  | .updated tenant_id rfc_id _ x =>
    !x.state.any RfcState.pastGate || db.requests.all fun r => !r.is tenant_id rfc_id || r.state.pastGate
  | .recorded a => a.decision ≠ .rejected || db.requests.all fun r => r.rfc_id ≠ a.rfc_id || !r.state.pastGate
  | _ => true

/-- What the step commits respects the gate. -/
def RespectsGate (s : ChangeSystem) : ChangeAct → Bool
  | .next w =>
    match s.core.pc w with
    | .commit d => d.respects s.db
    | _ => true
  | _ => true

/-! ### Decisions -/

section Decisions

variable {recorded : List RecordedDecision} {rfc_id : String} {d : RecordedDecision}

theorem Approved.append (h : Approved recorded rfc_id)
    (hd : d.approval.rfc_id = rfc_id → d.approval.decision ≠ .rejected) : Approved (recorded ++ [d]) rfc_id := by
  obtain ⟨pre, e, post, rfl, hid, happroved, hfound, hpost⟩ := h
  refine ⟨pre, e, post ++ [d], by simp, hid, happroved, hfound, fun x hx => ?_⟩
  rcases List.mem_append.1 hx with hx | hx
  · exact hpost x hx
  · rwa [List.mem_singleton.1 hx]

theorem approved_snoc (hid : d.approval.rfc_id = rfc_id) (happroved : d.approval.decision = .approved)
    (hfound : d.found = some .review) : Approved (recorded ++ [d]) rfc_id :=
  ⟨recorded, d, [], rfl, hid, happroved, hfound, fun _ hx => absurd hx List.not_mem_nil⟩

end Decisions

/-! ### The sessions -/

/-- The writes of a transaction that is done. -/
def ChangeDone.writes : ChangeDone → List ChangeWrite
  | .created r => [.create r]
  | .updated tenant_id rfc_id now x => [.update tenant_id rfc_id now x]
  | .recorded a => [.record a]
  | .approved a tenant_id now => [.record a, .approve tenant_id a.rfc_id now]

/-- The writes of a session at its point. -/
def ChangePoint.writes : ChangePoint → List ChangeWrite
  | .approve _ a => [.record a]
  | .commit d => d.writes
  | _ => []

/-- What a session relies on at its point: a row that it has locked stays in review. -/
def ChangePoint.Sound (db : ChangeDb) : ChangePoint → Prop
  | .approve _ a => a.decision = .approved
  | .commit (.created r) => r.state = .draft
  | .commit (.approved a tenant_id _) => a.decision = .approved ∧ ∃ r ∈ db.requests, r.reviewed tenant_id a.rfc_id = true
  | _ => True

/-- What holds of a session. -/
def ChangeLocal (db : ChangeDb) (ws : List ChangeWrite) (p : ChangePoint) : Prop := ws = p.writes ∧ p.Sound db

/-- The key that a write inserts. -/
def ChangeWrite.inserted : ChangeWrite → Option String
  | .create r => some r.rfc_id
  | _ => none

def ChangeDb.ids (db : ChangeDb) : List String := db.requests.map (·.rfc_id)

theorem ids_apply (x : ChangeWrite) (db : ChangeDb) : (x.apply db).ids = db.ids ++ x.inserted.toList := by
  cases x with
  | create r => simp [ChangeWrite.apply, ChangeDb.ids, ChangeWrite.inserted]
  | record a => simp [ChangeWrite.apply, ChangeDb.ids, ChangeWrite.inserted]
  | update tenant_id rfc_id now x => exact (map_updateWhere (fun _ => by rfl) _).trans (List.append_nil _).symm
  | approve tenant_id rfc_id now => exact (map_updateWhere (fun _ => by rfl) _).trans (List.append_nil _).symm

theorem lock_of_inserted (x y : ChangeWrite) (k : String) (hx : x.inserted = some k) (hy : y.inserted = some k) :
    x.lock = y.lock := by
  cases x <;> cases y <;> simp_all [ChangeWrite.inserted, ChangeWrite.lock]

theorem row_draft {timestamptz : String → Option Timestamp} {c : ChangeCall} {b : CreateRFC} {r : ChangeRequest}
    (h : b.row timestamptz c = some r) : r.state = .draft := by
  simp only [CreateRFC.row, Option.bind_eq_bind, Option.bind_eq_some_iff] at h
  obtain ⟨category, -, risk, -, planned_start, -, planned_end, -, h⟩ := h
  rw [← Option.some.inj h]

/-- What holds in every state of a run that respects the gate. -/
structure ChangeSystem.Inv (s : ChangeSystem) : Prop where
  sessions : Sessions.Inv (fun _ => True) ChangeLocal s.core
  exclusive : s.core.tx.Exclusive ChangeWrite.lock
  unique : s.core.tx.Unique ChangeDb.ids ChangeWrite.inserted
  gated : s.Gated

namespace ChangeSystem

variable {s : ChangeSystem} {w : ℕ} {p : ChangePoint} {x : ChangeWrite}

theorem inv_init : ChangeSystem.init.Inv where
  sessions := Sessions.inv_init trivial ⟨rfl, trivial⟩
  exclusive := fun _ hx => absurd hx List.not_mem_nil
  unique := List.nodup_nil
  gated := fun _ hr => absurd hr List.not_mem_nil

theorem Inv.goto (h : s.Inv) (hwrites : p.writes = (s.core.pc w).writes) (hsound : p.Sound s.db) : (s.goto w p).Inv where
  sessions := Sessions.inv_goto h.sessions ⟨((h.sessions.sessions w).1).trans hwrites.symm, hsound⟩
  exclusive := h.exclusive
  unique := h.unique
  gated := h.gated

theorem Inv.answer (h : s.Inv) (a : ChangeAnswer) : (s.answer w a).Inv where
  sessions := Sessions.inv_rollback h.sessions ⟨rfl, trivial⟩
  exclusive := h.exclusive.rollback
  unique := h.unique.rollback
  gated := h.gated

theorem db_write : (s.write w x p).db = s.db := by
  unfold ChangeSystem.write ChangeSystem.db Sessions.write
  split_ifs <;> rfl

/-- The session writes, or waits. -/
theorem Inv.write (h : s.Inv) (hwrites : p.writes = (s.core.pc w).writes ++ [x]) (hsound : p.Sound s.db)
    (hnew : ∀ k, x.inserted = some k → k ∉ (s.view w).ids) : (s.write w x p).Inv where
  sessions := Sessions.inv_write h.sessions ⟨by rw [(h.sessions.sessions w).1, hwrites], hsound⟩
  exclusive := by
    unfold ChangeSystem.write Sessions.write
    split_ifs with hlocked
    · exact h.exclusive
    · exact h.exclusive.write (Bool.eq_false_iff.2 hlocked)
  unique := Sessions.unique_write ids_apply lock_of_inserted h.unique hnew
  gated := by
    intro r hr
    rw [db_write] at hr
    exact h.gated r hr

theorem Inv.view_eq (h : s.Inv) (w : ℕ) : s.view w = (s.core.pc w).writes.foldl (fun db x => x.apply db) s.db := by
  rw [← (h.sessions.sessions w).1]
  exact Sessions.view_eq s.core w

/-- A row that another session has locked is not that of a write of this one. -/
theorem Inv.lock_ne (h : s.Inv) {v : ℕ} (hv : v ≠ w) {x y : ChangeWrite} (hx : x ∈ (s.core.pc v).writes)
    (hy : y ∈ (s.core.pc w).writes) : x.lock ≠ y.lock := by
  rw [← (h.sessions.sessions v).1] at hx
  rw [← (h.sessions.sessions w).1] at hy
  exact fun heq => hv (h.exclusive _ (WriteLog.mem_writes.1 hx) _ (WriteLog.mem_writes.1 hy) heq)

/-- A commit leaves the rows in review that another session is about to approve. -/
theorem Inv.sound_of_commit (h : s.Inv) {d : ChangeDone} (hpc : s.core.pc w = .commit d) {v : ℕ} (hv : v ≠ w) :
    (s.core.pc v).Sound (s.view w) := by
  have hsound := (h.sessions.sessions v).2
  have hlock : ∀ x ∈ (s.core.pc v).writes, ∀ y ∈ d.writes, x.lock ≠ y.lock := fun x hx y hy =>
    h.lock_ne hv hx (by rw [hpc]; exact hy)
  rw [h.view_eq, hpc]
  cases hq : s.core.pc v with
  | commit e =>
    rw [hq] at hsound hlock
    cases e with
    | approved a tenant_id now =>
      obtain ⟨happroved, r, hr, hreviewed⟩ := hsound
      refine ⟨happroved, r, ?_, hreviewed⟩
      have hid : r.rfc_id = a.rfc_id := by
        simp only [ChangeRequest.reviewed, ChangeRequest.is, Bool.and_eq_true, decide_eq_true_eq] at hreviewed
        exact hreviewed.1.2
      have hother : ∀ y ∈ d.writes, y.lock ≠ .request r.rfc_id := fun y hy heq =>
        hlock (.approve tenant_id a.rfc_id now) (by simp [ChangePoint.writes, ChangeDone.writes]) y hy
          (by rw [heq, hid]; rfl)
      cases d with
      | created r' => exact List.mem_append_left _ hr
      | recorded a' => exact hr
      | updated tenant_id' rfc_id' now' x =>
        refine mem_updateWhere_of_not hr (Bool.eq_false_iff.2 fun his => ?_)
        simp only [ChangeRequest.is, decide_eq_true_eq] at his
        exact hother (.update tenant_id' rfc_id' now' x) (by simp [ChangeDone.writes]) (by rw [his.2]; rfl)
      | approved a' tenant_id' now' =>
        refine mem_updateWhere_of_not hr (Bool.eq_false_iff.2 fun his => ?_)
        simp only [ChangeRequest.reviewed, ChangeRequest.is, Bool.and_eq_true, decide_eq_true_eq] at his
        exact hother (.approve tenant_id' a'.rfc_id now') (by simp [ChangeDone.writes]) (by rw [his.1.2]; rfl)
    | created r => exact hsound
    | updated tenant_id rfc_id now x => trivial
    | recorded a => trivial
  | approve c a =>
    rw [hq] at hsound
    exact hsound
  | _ => trivial

theorem Inv.stateOf_reviewed (h : s.Inv) {tenant_id rfc_id : String} {r : ChangeRequest} (hr : r ∈ s.db.requests)
    (hreviewed : r.reviewed tenant_id rfc_id = true) : s.db.stateOf rfc_id = some .review := by
  simp only [ChangeRequest.reviewed, ChangeRequest.is, Bool.and_eq_true, decide_eq_true_eq] at hreviewed
  obtain ⟨⟨-, rfl⟩, hstate⟩ := hreviewed
  have hfind : s.db.requests.find? (fun x => x.rfc_id = r.rfc_id) = some r :=
    (find?_of_key h.unique.committed hr fun x hx => of_decide_eq_true hx).trans (if_pos (decide_eq_true rfl))
  rw [ChangeDb.stateOf, hfind, Option.map_some, hstate]

/-- A commit that respects the gate. -/
theorem Inv.gated_of_commit (h : s.Inv) {d : ChangeDone} (hpc : s.core.pc w = .commit d)
    (hrespects : d.respects s.db = true) : (s.commit w d).Gated := by
  have hsound := (h.sessions.sessions w).2
  rw [hpc] at hsound
  intro r hr hpast
  replace hr : r ∈ (s.view w).requests := hr
  rw [h.view_eq, hpc] at hr
  cases d with
  | created r' =>
    have hrecorded : (s.commit w (.created r')).recorded = s.recorded := List.append_nil _
    rw [hrecorded]
    rcases List.mem_append.1 hr with hr | hr
    · exact h.gated r hr hpast
    · obtain rfl := List.mem_singleton.1 hr
      rw [show r.state = .draft from hsound] at hpast
      cases hpast
  | updated tenant_id rfc_id now x =>
    have hrecorded : (s.commit w (.updated tenant_id rfc_id now x)).recorded = s.recorded := List.append_nil _
    rw [hrecorded]
    obtain ⟨r', hr', rfl⟩ := mem_updateWhere.1 hr
    have hgated := h.gated r' hr'
    by_cases his : r'.is tenant_id rfc_id = true
    · rw [if_pos his] at hpast ⊢
      refine hgated ?_
      -- The state is the one that was there, or one that respects the gate.
      cases hstate : x.state with
      | none =>
        rw [ChangeSet.set, hstate] at hpast
        exact hpast
      | some state =>
        rw [ChangeSet.set, hstate] at hpast
        simp only [ChangeDone.respects, hstate, Option.any_some, Bool.or_eq_true, List.all_eq_true] at hrespects
        rcases hrespects with hnot | hall
        · exact absurd hnot (by simpa using hpast)
        · simpa [his] using hall r' hr'
    · rw [if_neg his] at hpast ⊢
      exact hgated hpast
  | recorded a =>
    have hgated := h.gated r hr hpast
    refine hgated.append fun hid hrejected => ?_
    have hrejected : a.decision = .rejected := hrejected
    simp only [ChangeDone.respects, hrejected, ne_eq, not_true_eq_false, decide_false, Bool.false_or, List.all_eq_true,
      Bool.or_eq_true, decide_eq_true_eq, Bool.not_eq_true'] at hrespects
    rcases hrespects r hr with hne | hbefore
    · exact hne hid.symm
    · exact Bool.false_ne_true (hbefore.symm.trans hpast)
  | approved a tenant_id now =>
    obtain ⟨happroved, r₀, hr₀, hreviewed⟩ := hsound
    obtain ⟨r', hr', rfl⟩ := mem_updateWhere.1 hr
    by_cases his : r'.reviewed tenant_id a.rfc_id = true
    · rw [if_pos his]
      have hid : r'.rfc_id = a.rfc_id := by
        simp only [ChangeRequest.reviewed, ChangeRequest.is, Bool.and_eq_true, decide_eq_true_eq] at his
        exact his.1.2
      exact approved_snoc hid.symm happroved (h.stateOf_reviewed hr₀ hreviewed)
    · rw [if_neg his] at hpast ⊢
      refine (h.gated r' hr' hpast).append fun _ hrejected => ?_
      cases happroved.symm.trans hrejected

theorem Inv.commit (h : s.Inv) {d : ChangeDone} (hpc : s.core.pc w = .commit d) (hrespects : d.respects s.db = true) :
    (s.commit w d).Inv where
  sessions := by
    refine Sessions.inv_step (w := w) (p := ChangePoint.idle) rfl trivial ⟨WriteLog.writes_commit, trivial⟩
      fun v hv => ⟨?_, ?_⟩
    · exact (WriteLog.writes_commit_of_ne hv).trans (h.sessions.sessions v).1
    · exact h.sound_of_commit hpc hv
  exclusive := h.exclusive.commit
  unique := h.unique.commit ids_apply
  gated := h.gated_of_commit hpc hrespects

/-- The next statement of a session, where what it commits respects the gate. -/
theorem Inv.next (h : s.Inv) (timestamptz : String → Option Timestamp)
    (hrespects : ∀ d, s.core.pc w = .commit d → d.respects s.db = true) : (s.next w timestamptz).Inv := by
  have hsound := (h.sessions.sessions w).2
  have hnone : ∀ x : ChangeWrite, x.inserted = none → ∀ k, x.inserted = some k → k ∉ (s.view w).ids := by
    intro x hx k hk
    cases hx.symm.trans hk
  unfold ChangeSystem.next
  cases hpc : s.core.pc w with
  | idle => exact h
  | create c b =>
    dsimp only
    cases hrow : b.row timestamptz c with
    | none => exact h.answer _
    | some r =>
      dsimp only
      split_ifs with hany
      · exact h.answer _
      · refine h.write (by rw [hpc]; rfl) (row_draft hrow) fun k hk => ?_
        obtain rfl := Option.some.inj hk
        simpa [ChangeDb.ids] using hany
  | lookupUpdate c rfc_id b =>
    dsimp only
    split_ifs
    · exact h.answer _
    · exact h.goto (by rw [hpc]; rfl) trivial
    · exact h.answer _
  | update c rfc_id b =>
    dsimp only
    cases b.columns timestamptz with
    | none => exact h.answer _
    | some x => exact h.write (by rw [hpc]; rfl) trivial (hnone _ rfl)
  | lookupApproval c rfc_id b =>
    dsimp only
    split_ifs
    · cases RfcDecision.ofText b.decision with
      | none => exact h.answer _
      | some decision => exact h.goto (by rw [hpc]; rfl) trivial
    · exact h.answer _
  | record c a =>
    dsimp only
    split_ifs with hany happroved
    · exact h.answer _
    · exact h.write (by rw [hpc]; rfl) happroved (hnone _ rfl)
    · exact h.write (by rw [hpc]; rfl) trivial (hnone _ rfl)
  | approve c a =>
    rw [hpc] at hsound
    dsimp only
    split_ifs with hany
    · rw [h.view_eq, hpc] at hany
      exact h.write (by rw [hpc]; rfl) ⟨hsound, List.any_eq_true.1 hany⟩ (hnone _ rfl)
    · exact h.goto (by rw [hpc]; rfl) trivial
  | commit d => exact h.commit hpc (hrespects d hpc)

theorem Inv.enter (h : s.Inv) (call : Except String ChangeCall) (invalid : Option String) {q : ChangeCall → ChangePoint}
    (hwrites : ∀ c, (q c).writes = []) (hsound : ∀ c, (q c).Sound s.db) : (s.enter w call invalid q).Inv := by
  unfold ChangeSystem.enter
  cases hpc : s.core.pc w with
  | idle =>
    cases call with
    | error detail => exact h.answer _
    | ok c =>
      cases invalid with
      | some detail => exact h.answer _
      | none => exact h.goto (by rw [hpc, hwrites]; rfl) (hsound c)
  | _ => exact h

/-- A step that respects the gate. -/
theorem Inv.step (h : s.Inv) {timestamptz : String → Option Timestamp} (a : ChangeAct)
    (hrespects : RespectsGate s a = true) : (s.step timestamptz a).Inv := by
  cases a with
  | create w ctx now drawn_id b => exact h.enter _ _ (fun _ => rfl) fun _ => trivial
  | update w ctx now drawn_id rfc_id b => exact h.enter _ _ (fun _ => rfl) fun _ => trivial
  | approve w ctx now drawn_id rfc_id b => exact h.enter _ _ (fun _ => rfl) fun _ => trivial
  | next w =>
    refine h.next timestamptz fun d hpc => ?_
    simpa only [RespectsGate, hpc] using hrespects
  | fail w =>
    dsimp only [ChangeSystem.step]
    split
    · exact h
    · exact h.answer _

end ChangeSystem

/-- Every state of the run keeps the gate. -/
def GatedRun (timestamptz : String → Option Timestamp) (run : List ChangeAct) : Prop :=
  ∀ pre, pre <+: run → (ChangeSystem.exec timestamptz pre).Gated

/-- **Key result**: in every state of a run whose commits respect the gate, an RFC past the gate was approved in review, and
has not been rejected since. -/
theorem approval_gate (timestamptz : String → Option Timestamp) (run : List ChangeAct)
    (hrun : Guarded (ChangeSystem.step timestamptz) (fun s a => RespectsGate s a = true) .init run) :
    GatedRun timestamptz run := by
  rintro pre ⟨post, rfl⟩
  have hpre := (guarded_append.1 hrun).1
  exact (hpre.invariant (fun s a hs ha => ChangeSystem.Inv.step hs a ha) ChangeSystem.inv_init).gated

/-! ### Runs -/

def operator : ChangeContext := ⟨some "acme", some "operator"⟩

/-- An RFC is created. -/
def createRun : List ChangeAct :=
  [.create 0 operator 0 "rfc:1" ⟨"Upgrade", "", "normal", "medium", none, none, none⟩, .next 0, .next 0]

/-- A `PUT` with a state only. -/
def putState (now : Timestamp) (state : String) : List ChangeAct :=
  [.update 0 operator now "" "rfc:1" ⟨none, none, none, none, some state, none, none⟩, .next 0, .next 0, .next 0]

/-- A decision. One that approves takes a statement more. -/
def decideRfc (now : Timestamp) (approval_id decision : String) : List ChangeAct :=
  [.approve 0 operator now approval_id "rfc:1" ⟨"board", decision, none⟩, .next 0, .next 0, .next 0, .next 0]

theorem implemented_gated :
    GatedRun (fun _ => none) (createRun ++ putState 1 "review" ++ decideRfc 2 "capproval:1" "approved" ++
      putState 3 "implementing") :=
  approval_gate _ _ (by decide)

/-- A draft is approved by its update, with no decision. -/
theorem approved_by_update : ¬GatedRun (fun _ => none) (createRun ++ putState 1 "approved") := by
  intro h
  obtain ⟨pre, d, post, heq, -⟩ := h _ (List.prefix_refl _) _ List.mem_cons_self rfl
  exact List.append_ne_nil_of_right_ne_nil pre (List.cons_ne_nil d post) heq.symm

/-- A rejection leaves an RFC approved. -/
theorem rejected_after_approval :
    ¬GatedRun (fun _ => none) (createRun ++ putState 1 "review" ++ decideRfc 2 "capproval:1" "approved" ++
      decideRfc 3 "capproval:2" "rejected") := by
  intro h
  obtain ⟨pre, d, post, heq, -, happroved, -, hpost⟩ := h _ (List.prefix_refl _) _ List.mem_cons_self rfl
  rcases pre with _ | ⟨x, _ | ⟨y, pre⟩⟩
  · obtain ⟨-, rfl⟩ := List.cons.inj heq
    exact hpost _ List.mem_cons_self rfl rfl
  · obtain ⟨rfl, -⟩ := List.cons.inj (List.cons.inj heq).2
    cases happroved
  · have hnil := (List.cons.inj (List.cons.inj heq).2).2
    exact List.append_ne_nil_of_right_ne_nil pre (List.cons_ne_nil d post) hnil.symm

end JLMirror.Itsm
