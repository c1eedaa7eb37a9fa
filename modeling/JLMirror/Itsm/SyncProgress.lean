import JLMirror.Itsm.SyncWorker
import JLMirror.Foundations.Run

/-!
# A way forward for every incident

An incident without a link and with attempts to spare goes on in one of two ways: the candidate query
comes to its open dispatch, or a worker makes a further attempt. A dispatch that is put aside, or
failed, is covered by no query: only the worker that did it goes on, and if that worker is gone the
incident is left behind.

## What is proved

* `DbInv`, `WorldInv` — the invariants of the tables and of the workers.
* `step_world` — every step keeps them, as long as the crash of a worker leaves another one for
  the incident.
* `wayForward_of_inv` — under the invariant every incident has its way forward.
* `crash_strands` — a crash between the completion and the retry.

**Key result** (`never_stranded`): in every run in which no crash takes the last worker that is about
to reconcile or retry an incident, every incident has a way forward in every state.

## Honest scope

The worker's tenants are active and its calls succeed or raise as the functions do. `md5` is
injective: a collision of two dispatch ids would make the retry raise.
-/

namespace JLMirror.Itsm

open JLMirror.Foundations JLMirror.Alerting

/-! ### The claim -/

/-- The incident has a dispatch that the candidate query returns from some time on, after some passes, or a
worker can make a further attempt. -/
def WayForward (md5 : String → String) (s : SyncWorld) (t inc : String) : Prop :=
  (∃ o ∈ attemptsOf t inc s.db, ∃ due, ∀ now, due ≤ now → ∀ token, ∃ k,
    g10_next_sync_candidate now t ((pass now t (executorName token))^[k] s.db) = some o) ∨
  ∃ (w : ℕ) (acts : List SyncAct), (∀ a ∈ acts, a.isOf w) ∧
    (attemptsOf t inc s.db).length < (attemptsOf t inc (acts.foldl (SyncWorld.step md5) s).db).length

/-- No incident without a link and with fewer than three attempts is left behind. -/
def NoneStranded (md5 : String → String) (s : SyncWorld) : Prop :=
  ∀ i ∈ s.db.incidents, (∀ l ∈ s.db.links, l.isFor i.tenant_id i.incident_id = false) →
    (attemptsOf i.tenant_id i.incident_id s.db).length < 3 → WayForward md5 s i.tenant_id i.incident_id

/-- `last` is the last attempt of an incident that has no link and attempts to spare. -/
structure Waits (db : ItsmDb) (t inc : String) (last : SyncOutbox) : Prop where
  last : (attemptsOf t inc db).getLast? = some last
  unlinked : ∀ l ∈ db.links, l.isFor t inc = false
  budget : (attemptsOf t inc db).length < 3

/-- The worker will see to the incident, whose last attempt is put aside or over. -/
def Helps (t inc : String) (last : SyncOutbox) : SyncPc → Prop
  | .claiming t' oid inc' _ =>
    t' = t ∧ inc' = inc ∧ oid = last.sync_outbox_id ∧ last.sync_state = .reconciliation_required
  | .reconciling t' oid inc' => t' = t ∧ inc' = inc ∧ (oid = last.sync_outbox_id ∨ last.sync_state.terminal = true)
  | .retrying t' inc' => t' = t ∧ inc' = inc ∧ last.sync_state.terminal = true
  | .idle | .calling .. => False

/-- The condition: a worker that crashes is not the last one that will see to an incident. -/
def NotLastHelper (s : SyncWorld) : SyncAct → Prop
  | .crash w => ∀ t inc last, Waits s.db t inc last → Helps t inc last (s.pc w) →
      ∃ w', w' ≠ w ∧ Helps t inc last (s.pc w')
  | _ => True

/-! ### The tables -/

/-- What holds of the tables. -/
structure DbInv (md5 : String → String) (db : ItsmDb) : Prop where
  sync : SyncInv db
  ids : ∀ o ∈ db.outbox, o.sync_outbox_id = syncId md5 o.tenant_id o.incident_id o.attempt_number
  /-- `CHECK`: a claimed dispatch has a lease. -/
  leased : ∀ o ∈ db.outbox, o.sync_state = .dispatching → o.claim_expires_at ≠ none
  /-- An incident is created with its first dispatch. -/
  made : ∀ i ∈ db.incidents, attemptsOf i.tenant_id i.incident_id db ≠ []

variable {md5 : String → String} {t inc : String}

/-- Two dispatches of a tenant with one id are one attempt of one incident. -/
theorem syncId_inj (hmd5 : Function.Injective md5) {inc' : String} {n n' : ℕ} (hn : 1 ≤ n ∧ n ≤ 3)
    (hn' : 1 ≤ n' ∧ n' ≤ 3) (h : syncId md5 t inc n = syncId md5 t inc' n') : inc = inc' ∧ n = n' := by
  have hjoined := hmd5 ((String.append_right_inj _).1 h)
  have hcases : ∀ m, 1 ≤ m ∧ m ≤ 3 → m = 1 ∨ m = 2 ∨ m = 3 := by omega
  -- the number is one digit, the last of the text
  have hdigit : ∀ m, 1 ≤ m ∧ m ≤ 3 → (toString m).toList.getLast? = some (Char.ofNat (48 + m)) := by
    intro m hm
    rcases hcases m hm with rfl | rfl | rfl <;> rfl
  have hlast := congrArg (fun s : String => s.toList.getLast?) hjoined
  simp only [String.toList_append, List.getLast?_append, hdigit n hn, hdigit n' hn', Option.some_or,
    Option.some.injEq] at hlast
  have hsame : n = n' := by
    rcases hcases n hn with rfl | rfl | rfl <;> rcases hcases n' hn' with rfl | rfl | rfl <;>
      first | rfl | exact absurd hlast (by decide)
  subst hsame
  refine ⟨?_, rfl⟩
  simpa using hjoined

variable {db : ItsmDb} {o : SyncOutbox}

theorem SyncInv.number_bounds (h : SyncInv db) (ho : o ∈ db.outbox) :
    1 ≤ o.attempt_number ∧ o.attempt_number ≤ 3 := by
  have hview := h.view o.tenant_id o.incident_id
  have hmem : o.attempt_number ∈ List.range' 1 (syncOf o.tenant_id o.incident_id db).attempts.length := by
    rw [← hview.numbers]
    exact List.mem_map_of_mem (mem_attemptsOf.2 ⟨ho, rfl⟩)
  have := List.mem_range'_1.1 hmem
  have := hview.budget
  omega

theorem AttemptMove.ne_nil {v v' : SyncView} (h : AttemptMove v v') (hne : v.attempts ≠ []) : v'.attempts ≠ [] := by
  cases h with
  | keeps hsame => exact hsame ▸ hne
  | opens row _ _ _ hattempts => simp [hattempts]
  | sets pre o o' _ _ _ _ hattempts => simp [hattempts]
  | links pre o o' row _ _ _ _ hattempts => simp [hattempts]
  | retries pre o row _ _ _ _ _ hattempts => simp [hattempts]

/-- A dispatch has its id, and a claimed one its lease. -/
def SyncOutbox.Sound (md5 : String → String) (o : SyncOutbox) : Prop :=
  o.sync_outbox_id = syncId md5 o.tenant_id o.incident_id o.attempt_number ∧
    (o.sync_state = .dispatching → o.claim_expires_at ≠ none)

theorem DbInv.sound (h : DbInv md5 db) : ∀ o ∈ db.outbox, o.Sound md5 :=
  fun o ho => ⟨h.ids o ho, h.leased o ho⟩

variable {oid : String} {f : SyncOutbox → SyncOutbox}

theorem sound_set (hdb : ∀ o ∈ db.outbox, o.Sound md5) (hf : ∀ x, (f x).identity = x.identity)
    (hlease : ∀ x, (f x).sync_state = .dispatching → (f x).claim_expires_at ≠ none) :
    ∀ o ∈ (db.setDispatch t oid f).outbox, o.Sound md5 := by
  intro o ho
  obtain ⟨x, hx, rfl⟩ := mem_updateWhere.1 ho
  split_ifs
  · refine ⟨?_, hlease x⟩
    obtain ⟨hkey, howner, hnumber⟩ : (f x).key = x.key ∧ (f x).owner = x.owner ∧ (f x).attempt_number = x.attempt_number :=
      ⟨congrArg (fun k => k.1) (hf x), congrArg (fun k => k.2.1) (hf x), congrArg (fun k => k.2.2) (hf x)⟩
    obtain ⟨ht, hid⟩ := Prod.mk.inj hkey
    obtain ⟨-, hinc⟩ := Prod.mk.inj howner
    rw [hid, ht, hinc, hnumber]
    exact (hdb x hx).1
  · exact hdb x hx

theorem sound_concat {row : SyncOutbox} (hdb : ∀ o ∈ db.outbox, o.Sound md5) (hrow : row.Sound md5) :
    ∀ o ∈ db.outbox ++ [row], o.Sound md5 := by
  intro o ho
  rcases List.mem_append.1 ho with ho | ho
  · exact hdb o ho
  · exact List.mem_singleton.1 ho ▸ hrow

theorem step_sound (md5 : String → String) (hdb : ∀ o ∈ db.outbox, o.Sound md5) (a : ItsmAction) :
    ∀ o ∈ (db.step md5 a).outbox, o.Sound md5 := by
  have hafter : ∀ {α : Type} {x : Except G10Error (α × ItsmDb)},
      (∀ r db', x = .ok (r, db') → ∀ o ∈ db'.outbox, o.Sound md5) → ∀ o ∈ (db.after x).outbox, o.Sound md5 := by
    intro α x h
    cases x with
    | error e => exact hdb
    | ok p => exact h p.1 p.2 rfl
  cases a with
  | create now t c la snapshot =>
    refine hafter fun r db' h => ?_
    obtain ⟨_, -, -, -, -, rfl⟩ | ⟨-, -, -, -, rfl⟩ := g10_create_incident_ok h
    · exact hdb
    · exact sound_concat hdb ⟨rfl, nofun⟩
  | transition =>
    refine hafter fun r db' h => ?_
    obtain ⟨_, -, -, -, -, rfl⟩ | ⟨_, -, _, -, -, -, -, -, -, -, -, rfl⟩ := g10_transition_incident_ok h <;> exact hdb
  | assign =>
    refine hafter fun r db' h => ?_
    obtain ⟨_, -, -, -, -, rfl⟩ | ⟨_, -, -, -, -, -, -, -, -, rfl⟩ := g10_assign_incident_ok h <;> exact hdb
  | claim =>
    refine hafter fun r db' h => ?_
    obtain ⟨_, -, ⟨-, -, rfl⟩ | ⟨-, rfl⟩ | ⟨-, -, rfl⟩⟩ := g10_claim_sync_ok h
    · exact sound_set hdb (fun _ => rfl) fun x => nofun
    · exact hdb
    · exact sound_set hdb (fun _ => rfl) fun x _ => nofun
  | complete =>
    refine hafter fun r db' h => ?_
    obtain ⟨hresult, _, -, ⟨-, -, rfl⟩ | ⟨-, -, _, rfl, -⟩⟩ := g10_complete_sync_ok h
    · exact hdb
    · refine sound_set hdb (fun _ => rfl) fun x hx => ?_
      obtain rfl : _ = SyncState.dispatching := hx
      cases hresult
  | retry =>
    refine hafter fun r db' h => ?_
    obtain rfl | ⟨last, -, -, -, -, -, rfl⟩ := g10_schedule_sync_retry_ok h
    · exact hdb
    · exact sound_concat hdb ⟨rfl, nofun⟩
  | reconcile =>
    refine hafter fun r db' h => ?_
    obtain ⟨_, -, ⟨-, rfl⟩ | ⟨-, rfl⟩⟩ := g10_reconcile_sync_ok h
    · exact hdb
    · exact sound_set hdb (fun _ => rfl) fun x => nofun
  | alerts => exact hdb

variable {db' : ItsmDb}

theorem made_of_keys (hdb : DbInv md5 db) (hview : ∀ t inc, AttemptMove (syncOf t inc db) (syncOf t inc db'))
    {i : Incident} (hold : ∃ j ∈ db.incidents, j.key = i.key) : attemptsOf i.tenant_id i.incident_id db' ≠ [] := by
  obtain ⟨j, hj, hkey⟩ := hold
  obtain ⟨ht, hinc⟩ := Prod.mk.inj hkey
  exact (hview i.tenant_id i.incident_id).ne_nil (ht ▸ hinc ▸ hdb.made j hj)

theorem step_db (md5 : String → String) (hdb : DbInv md5 db) (a : ItsmAction) : DbInv md5 (db.step md5 a) := by
  have hsound := step_sound md5 hdb.sound a
  have hview := (step_view md5 hdb.sync a).view
  refine ⟨step_sync_inv md5 hdb.sync a, fun o ho => (hsound o ho).1, fun o ho => (hsound o ho).2, fun i hi => ?_⟩
  cases step_lifecycle md5 db a with
  | keeps hrows => exact made_of_keys hdb hview ⟨i, hrows ▸ hi, rfl⟩
  | moves j x hj _ _ _ _ hrows =>
    rw [hrows] at hi
    obtain ⟨i', hi', rfl⟩ := mem_updateWhere.1 hi
    refine made_of_keys hdb hview ⟨i', hi', ?_⟩
    split_ifs <;> rfl
  | assigns x now _ hrows => exact made_of_keys hdb hview ⟨i, hrows ▸ hi, rfl⟩
  | opens row _ _ _ hdispatch hrows =>
    rcases List.mem_append.1 (hrows ▸ hi) with hi | hi
    · exact made_of_keys hdb hview ⟨i, hi, rfl⟩
    · obtain rfl := List.mem_singleton.1 hi
      obtain ⟨o, ho, howner⟩ := hdispatch
      exact List.ne_nil_of_mem (mem_attemptsOf.2 ⟨ho, howner⟩)

variable {last : SyncOutbox}

theorem Waits.split (h : Waits db t inc last) : ∃ pre, attemptsOf t inc db = pre ++ [last] := by
  obtain ⟨hne, hlast⟩ := List.getLast?_eq_some_iff.1 h.last
  exact ⟨hne, hlast⟩

/-- The attempts that a state of the incident hands on to a later one: nothing is undone. -/
def RowsKept (db db' : ItsmDb) : Prop :=
  ∀ o ∈ db.outbox, ∃ o' ∈ db'.outbox, o'.identity = o.identity ∧
    (o.sync_state = .reconciliation_required ∨ o.sync_state.terminal = true →
      o'.sync_state = .reconciliation_required ∨ o'.sync_state.terminal = true)

theorem RowsKept.of_outbox (h : db'.outbox = db.outbox) : RowsKept db db' :=
  fun o ho => ⟨o, h ▸ ho, rfl, id⟩

theorem RowsKept.of_concat {row : SyncOutbox} (h : db'.outbox = db.outbox ++ [row]) : RowsKept db db' :=
  fun o ho => ⟨o, h ▸ List.mem_append_left _ ho, rfl, id⟩

theorem RowsKept.of_set (h : db'.outbox = (db.setDispatch t oid f).outbox) (hf : ∀ x, (f x).identity = x.identity)
    (hstate : ∀ o ∈ db.outbox, isDispatch t oid o = true →
      o.sync_state = .reconciliation_required ∨ o.sync_state.terminal = true →
        (f o).sync_state = .reconciliation_required ∨ (f o).sync_state.terminal = true) : RowsKept db db' := by
  intro o ho
  have hmem : (if isDispatch t oid o then f o else o) ∈ db'.outbox := by
    rw [h]
    exact mem_updateWhere.2 ⟨o, ho, rfl⟩
  refine ⟨_, hmem, ?_⟩
  split_ifs with his
  · exact ⟨hf o, hstate o ho his⟩
  · exact ⟨rfl, id⟩

theorem step_rows (md5 : String → String) (hdb : SyncInv db) (a : ItsmAction) : RowsKept db (db.step md5 a) := by
  have hafter : ∀ {α : Type} {x : Except G10Error (α × ItsmDb)},
      (∀ r db', x = .ok (r, db') → RowsKept db db') → RowsKept db (db.after x) := by
    intro α x h
    cases x with
    | error e => exact .of_outbox rfl
    | ok p => exact h p.1 p.2 rfl
  cases a with
  | create =>
    refine hafter fun r db' h => ?_
    obtain ⟨_, -, -, -, -, rfl⟩ | ⟨-, -, -, -, rfl⟩ := g10_create_incident_ok h
    · exact .of_outbox rfl
    · exact .of_concat rfl
  | transition =>
    refine hafter fun r db' h => ?_
    obtain ⟨_, -, -, -, -, rfl⟩ | ⟨_, -, _, -, -, -, -, -, -, -, -, rfl⟩ := g10_transition_incident_ok h <;>
      exact .of_outbox rfl
  | assign =>
    refine hafter fun r db' h => ?_
    obtain ⟨_, -, -, -, -, rfl⟩ | ⟨_, -, -, -, -, -, -, -, -, rfl⟩ := g10_assign_incident_ok h <;> exact .of_outbox rfl
  | claim now t oid executor seconds =>
    refine hafter fun r db' h => ?_
    obtain ⟨o, hfind, ⟨-, -, rfl⟩ | ⟨-, rfl⟩ | ⟨hpending, -, rfl⟩⟩ := g10_claim_sync_ok h
    · exact .of_set rfl (fun _ => rfl) fun _ _ _ _ => Or.inl rfl
    · exact .of_outbox rfl
    · refine .of_set rfl (fun _ => rfl) fun x hx his hstate => ?_
      obtain ⟨hmem, hid⟩ := find_dispatch hfind
      obtain rfl : x = o := eq_of_key hdb.ids hx hmem ((isDispatch_iff.1 his).trans (isDispatch_iff.1 hid).symm)
      rw [hpending] at hstate
      rcases hstate with h | h <;> cases h
  | complete =>
    refine hafter fun r db' h => ?_
    obtain ⟨hresult, _, -, ⟨-, -, rfl⟩ | ⟨-, -, _, rfl, -⟩⟩ := g10_complete_sync_ok h
    · exact .of_outbox rfl
    · exact .of_set rfl (fun _ => rfl) fun _ _ _ _ => Or.inr hresult
  | retry =>
    refine hafter fun r db' h => ?_
    obtain rfl | ⟨last, -, -, -, -, -, rfl⟩ := g10_schedule_sync_retry_ok h
    · exact .of_outbox rfl
    · exact .of_concat rfl
  | reconcile =>
    refine hafter fun r db' h => ?_
    obtain ⟨_, -, ⟨-, rfl⟩ | ⟨-, rfl⟩⟩ := g10_reconcile_sync_ok h
    · exact .of_outbox rfl
    · exact .of_set rfl (fun _ => rfl) fun _ _ _ _ => Or.inr rfl
  | alerts => exact .of_outbox rfl

theorem Waits.number (hdb : SyncInv db) (h : Waits db t inc last) :
    last.attempt_number = (attemptsOf t inc db).length := by
  obtain ⟨pre, hpre⟩ := h.split
  rw [(hdb.view t inc).last_number hpre, hpre, List.length_append, List.length_singleton]

theorem Waits.mem (h : Waits db t inc last) : last ∈ db.outbox ∧ last.owner = (t, inc) := by
  obtain ⟨pre, hpre⟩ := h.split
  exact mem_attemptsOf.1 (hpre ▸ List.mem_append_right _ (List.mem_singleton_self last))

/-- An attempt that is over and has no link has failed, as far as anyone knows. -/
theorem Waits.failed (hdb : SyncInv db) (h : Waits db t inc last) (hover : last.sync_state.terminal = true) :
    last.sync_state = .failed ∨ last.sync_state = .unknown := by
  have hne : last.sync_state ≠ .linked := by
    intro hlinked
    have hsome := (hdb.view t inc).linked.2 ⟨last, mem_attemptsOf.2 h.mem, hlinked⟩
    obtain ⟨l, hl⟩ := List.exists_mem_of_ne_nil _ hsome
    obtain ⟨hl, hfor⟩ := List.mem_filter.1 hl
    rw [h.unlinked l hl] at hfor
    cases hfor
  cases hstate : last.sync_state <;> simp_all [SyncState.terminal]

/-- The retry of an incident whose last attempt is over makes the next one. -/
theorem retry_adds (hmd5 : Function.Injective md5) (now : ℕ) (hdb : DbInv md5 db) (h : Waits db t inc last)
    (hover : last.sync_state.terminal = true) :
    ∃ r, g10_schedule_sync_retry md5 now t inc db =
      .ok (r, { db with outbox := db.outbox ++ [nextDispatch md5 now t inc last] }) := by
  obtain ⟨pre, hpre⟩ := h.split
  obtain ⟨x, hx⟩ : ∃ x, lastAttempt (attemptsOf t inc db) = some x := by
    cases hnone : lastAttempt (attemptsOf t inc db) with
    | some x => exact ⟨x, rfl⟩
    | none => rw [lastAttempt_none hnone] at hpre; simp at hpre
  have hlast : lastAttempt (attemptsOf t inc db) = some last := by
    obtain ⟨pre', hpre'⟩ := (hdb.sync.view t inc).lastAttempt hx
    obtain ⟨-, hsame⟩ := List.append_inj' (hpre'.symm.trans hpre) rfl
    rw [hx, (List.singleton_inj.1 hsame)]
  have hfailed := h.failed hdb.sync hover
  have hnumber := h.number hdb.sync
  have hbudget := h.budget
  have hnew : ∀ o ∈ attemptsOf t inc db, o.attempt_number ≠ last.attempt_number + 1 := by
    intro o ho heq
    have := (lastAttempt_mem hlast).2 o ho
    omega
  have hclash : ∀ o ∈ db.outbox, (nextDispatch md5 now t inc last).clashes o = false := by
    intro o ho
    refine Bool.eq_false_iff.2 fun hclash => ?_
    obtain ⟨rfl, hid | ⟨rfl, hn⟩⟩ : o.tenant_id = t ∧ (o.sync_outbox_id = syncId md5 t inc (last.attempt_number + 1) ∨
        (o.incident_id = inc ∧ o.attempt_number = last.attempt_number + 1)) := of_decide_eq_true hclash
    · rw [hdb.ids o ho] at hid
      obtain ⟨rfl, hn⟩ := syncId_inj hmd5 (hdb.sync.number_bounds ho) (by omega) hid
      exact hnew o (mem_attemptsOf.2 ⟨ho, rfl⟩) hn
    · exact hnew o (mem_attemptsOf.2 ⟨ho, rfl⟩) hn
  have hlinked : db.links.any (ProviderLink.isFor t inc) = false := by
    rw [List.any_eq_false]
    exact fun l hl => Bool.eq_false_iff.1 (h.unlinked l hl)
  have hconflict : ((attemptsOf t inc db).any fun o =>
      o.attempt_number = (nextDispatch md5 now t inc last).attempt_number) = false := by
    rw [List.any_eq_false]
    exact fun o ho h => hnew o ho (of_decide_eq_true h)
  refine ⟨.scheduled (nextDispatch md5 now t inc last).sync_outbox_id (last.attempt_number + 1), ?_⟩
  unfold g10_schedule_sync_retry
  simp only [hlast]
  rw [if_neg (by simp [hlinked]), if_neg (by rcases hfailed with h | h <;> simp [h]), if_neg (by omega),
    if_neg (Bool.eq_false_iff.1 hconflict), insertUnless_of_new hclash]
  rfl

/-! ### The workers -/

/-- The dispatch of the worker is one of the incident. -/
def Holds (db : ItsmDb) (t oid inc : String) (o : SyncOutbox) : Prop :=
  o ∈ db.outbox ∧ o.key = (t, oid) ∧ o.owner = (t, inc)

/-- What a worker knows at its point. -/
def PcInv (db : ItsmDb) : SyncPc → Prop
  | .claiming t oid inc executor => executor ≠ "" ∧ ∃ o, Holds db t oid inc o
  | .calling t oid inc _ => ∃ o, Holds db t oid inc o
  | .reconciling t oid inc =>
    ∃ o, Holds db t oid inc o ∧ (o.sync_state = .reconciliation_required ∨ o.sync_state.terminal = true)
  | .idle | .retrying .. => True

/-- The last attempt of the incident is open to the candidate query, or a worker sees to it. -/
def Tended (s : SyncWorld) (t inc : String) : Prop :=
  ∀ last, Waits s.db t inc last →
    last.sync_state = .pending ∨ last.sync_state = .dispatching ∨ ∃ w, Helps t inc last (s.pc w)

/-- The invariant of the system. -/
structure WorldInv (md5 : String → String) (s : SyncWorld) : Prop where
  db : DbInv md5 s.db
  pcs : ∀ w, PcInv s.db (s.pc w)
  tended : ∀ t inc, Tended s t inc

theorem Holds.kept (h : RowsKept db db') (ho : Holds db t oid inc o) : ∃ o', Holds db' t oid inc o' ∧
      (o.sync_state = .reconciliation_required ∨ o.sync_state.terminal = true →
        o'.sync_state = .reconciliation_required ∨ o'.sync_state.terminal = true) := by
  obtain ⟨ho, hkey, howner⟩ := ho
  obtain ⟨o', ho', hid, hstate⟩ := h o ho
  exact ⟨o', ⟨ho', (congrArg (fun k => k.1) hid).trans hkey, (congrArg (fun k => k.2.1) hid).trans howner⟩, hstate⟩

theorem PcInv.kept {db db' : ItsmDb} (h : RowsKept db db') {pc : SyncPc} (hpc : PcInv db pc) : PcInv db' pc := by
  cases pc with
  | idle => trivial
  | retrying => trivial
  | claiming =>
    obtain ⟨hexecutor, o, ho⟩ := hpc
    obtain ⟨o', ho', -⟩ := ho.kept h
    exact ⟨hexecutor, o', ho'⟩
  | calling =>
    obtain ⟨o, ho⟩ := hpc
    obtain ⟨o', ho', -⟩ := ho.kept h
    exact ⟨o', ho'⟩
  | reconciling =>
    obtain ⟨o, ho, hstate⟩ := hpc
    obtain ⟨o', ho', hstate'⟩ := ho.kept h
    exact ⟨o', ho', hstate' hstate⟩

theorem Holds.find {db : ItsmDb} (hdb : SyncInv db) {t oid inc : String} {o : SyncOutbox} (ho : Holds db t oid inc o) :
    db.outbox.find? (isDispatch t oid) = some o := by
  obtain ⟨ho, hkey, -⟩ := ho
  rw [find?_of_key (p := isDispatch t oid) hdb.ids ho fun x hx => (isDispatch_iff.1 hx).trans hkey.symm,
    if_pos (isDispatch_iff.2 hkey)]

theorem Holds.eq_of_find (hdb : SyncInv db) {x : SyncOutbox} (ho : Holds db t oid inc o)
    (hx : db.outbox.find? (isDispatch t oid) = some x) : x = o :=
  Option.some.inj (hx.symm.trans (ho.find hdb))

theorem Holds.eq_last (hdb : SyncInv db) (ho : Holds db t oid inc o) (h : Waits db t inc last)
    (hid : oid = last.sync_outbox_id) : o = last := by
  obtain ⟨hmem, howner⟩ := h.mem
  obtain ⟨ht, -⟩ := Prod.mk.inj howner
  have hkey : last.key = (t, oid) := Prod.ext ht hid.symm
  exact eq_of_key hdb.ids ho.1 hmem (ho.2.1.trans hkey.symm)

/-- What an update of an open dispatch leaves of an incident that waits. -/
theorem waits_set (hdb : SyncInv db) (ho : Holds db t oid inc o) (hopen : o.sync_state.terminal = false)
    (hf : ∀ x, (f x).identity = x.identity) {links : List ProviderLink} (hlinks : ∀ l ∈ db.links, l ∈ links)
    {t' inc' : String} (h : Waits { db.setDispatch t oid f with links } t' inc' last) :
    (¬(t = t' ∧ inc = inc') ∧ Waits db t' inc' last) ∨ (t = t' ∧ inc = inc' ∧ last = f o) := by
  obtain ⟨hlast, hunlinked, hbudget⟩ := h
  rcases set_attempts hdb (ho.find hdb) hopen hf t' inc' with ⟨hne, hsame⟩ | ⟨howner, pre, -, hafter⟩
  · refine Or.inl ⟨fun ⟨ht, hinc⟩ => hne (ho.2.2.trans (Prod.ext ht hinc)), ?_, fun l hl => hunlinked l (hlinks l hl), ?_⟩
    · exact hsame ▸ hlast
    · exact hsame ▸ hbudget
  · obtain ⟨rfl, rfl⟩ := Prod.mk.inj (ho.2.2.symm.trans howner)
    have hlast : (pre ++ [f o]).getLast? = some last := hafter ▸ hlast
    rw [List.getLast?_concat] at hlast
    exact Or.inr ⟨rfl, rfl, (Option.some.inj hlast).symm⟩

/-- The incident a worker is at work on. -/
theorem Helps.of {pc : SyncPc} (h : Helps t inc last pc) :
    (∃ oid executor, pc = .claiming t oid inc executor) ∨ (∃ oid, pc = .reconciling t oid inc) ∨ pc = .retrying t inc := by
  cases pc with
  | idle => cases h
  | calling => cases h
  | claiming =>
    obtain ⟨rfl, rfl, -⟩ := h
    exact Or.inl ⟨_, _, rfl⟩
  | reconciling =>
    obtain ⟨rfl, rfl, -⟩ := h
    exact Or.inr (Or.inl ⟨_, rfl⟩)
  | retrying =>
    obtain ⟨rfl, rfl, -⟩ := h
    exact Or.inr (Or.inr rfl)

/-- A step of a worker keeps the invariant, if what waits after it waited before without the worker, or is open
to the query, or is seen to by the worker. -/
theorem WorldInv.goto {md5 : String → String} {s : SyncWorld} (h : WorldInv md5 s) {w : ℕ} {pc : SyncPc} {db : ItsmDb}
    (hdb : DbInv md5 db ∧ RowsKept s.db db) (hpc : PcInv db pc)
    (hwaits : ∀ t inc last, Waits db t inc last → (Waits s.db t inc last ∧ ¬Helps t inc last (s.pc w)) ∨
      last.sync_state = .pending ∨ last.sync_state = .dispatching ∨ Helps t inc last pc) :
    WorldInv md5 (s.goto w pc db) := by
  refine ⟨hdb.1, fun w' => ?_, fun t inc last hlast => ?_⟩
  · by_cases heq : w' = w
    · rw [heq, SyncWorld.goto_self]
      exact hpc
    · rw [SyncWorld.goto_other s heq]
      exact (h.pcs w').kept hdb.2
  · rcases hwaits t inc last hlast with ⟨hold, hnot⟩ | hpending | hdispatching | hhelps
    · rcases h.tended t inc last hold with hstate | hstate | ⟨w', hw'⟩
      · exact Or.inl hstate
      · exact Or.inr (Or.inl hstate)
      · have hne : w' ≠ w := fun heq => hnot (heq ▸ hw')
        exact Or.inr (Or.inr ⟨w', (s.goto_other hne pc db).symm ▸ hw'⟩)
    · exact Or.inl hpending
    · exact Or.inr (Or.inl hdispatching)
    · exact Or.inr (Or.inr ⟨w, (s.goto_self w pc db).symm ▸ hhelps⟩)

variable {s : SyncWorld} {w : ℕ}

/-- A step of a worker that updates its open dispatch. -/
theorem WorldInv.set (h : WorldInv md5 s) {pc : SyncPc} (ho : Holds s.db t oid inc o)
    (hopen : o.sync_state.terminal = false) (hf : ∀ x, (f x).identity = x.identity) {links : List ProviderLink}
    (hlinks : ∀ l ∈ s.db.links, l ∈ links)
    (hdb : DbInv md5 { s.db.setDispatch t oid f with links } ∧ RowsKept s.db { s.db.setDispatch t oid f with links })
    (hpc : PcInv { s.db.setDispatch t oid f with links } pc)
    (hw : ∀ t' inc' last, Helps t' inc' last (s.pc w) → t = t' ∧ inc = inc')
    (hown : Waits { s.db.setDispatch t oid f with links } t inc (f o) →
      (f o).sync_state = .pending ∨ (f o).sync_state = .dispatching ∨ Helps t inc (f o) pc) :
    WorldInv md5 (s.goto w pc { s.db.setDispatch t oid f with links }) := by
  refine h.goto hdb hpc fun t' inc' last hlast => ?_
  rcases waits_set h.db.sync ho hopen hf hlinks hlast with ⟨hother, hold⟩ | ⟨rfl, rfl, rfl⟩
  · exact Or.inl ⟨hold, fun hhelps => hother (hw t' inc' last hhelps)⟩
  · exact Or.inr (hown hlast)

/-! ### The steps -/

/-- The tables after a step are those after some call, or as they were. -/
theorem step_calls (md5 : String → String) (s : SyncWorld) (a : SyncAct) :
    (s.step md5 a).db = s.db ∨ ∃ b, (s.step md5 a).db = s.db.step md5 b := by
  cases a with
  | api b =>
    rw [SyncWorld.step]
    split_ifs
    · exact Or.inr ⟨b, rfl⟩
    · exact Or.inl rfl
  | next => rw [SyncWorld.step]; split <;> exact Or.inl rfl
  | claim w now =>
    rw [SyncWorld.step]
    split
    · rename_i t oid inc executor _
      split
      · rename_i r db hcall
        refine Or.inr ⟨.claim now t oid executor claimSeconds, ?_⟩
        rw [ItsmDb.step, hcall]
        rfl
      · exact Or.inl rfl
    · exact Or.inl rfl
  | complete w now result ticket failure =>
    rw [SyncWorld.step]
    split
    · rename_i t oid inc executor _
      split
      · rename_i r db hcall
        refine Or.inr ⟨.complete now t oid executor (reported result) ticket failure, ?_⟩
        rw [ItsmDb.step, hcall]
        rfl
      · exact Or.inl rfl
    · exact Or.inl rfl
  | reconcile w =>
    rw [SyncWorld.step]
    split
    · rename_i t oid inc _
      split
      · rename_i r db hcall
        refine Or.inr ⟨.reconcile t oid, ?_⟩
        rw [ItsmDb.step, hcall]
        rfl
      · exact Or.inl rfl
    · exact Or.inl rfl
  | retry w now =>
    rw [SyncWorld.step]
    split
    · exact Or.inr ⟨.retry now _ _, rfl⟩
    · exact Or.inl rfl
  | crash => exact Or.inl rfl

theorem step_dbInv (md5 : String → String) (h : DbInv md5 s.db) (a : SyncAct) :
    DbInv md5 (s.step md5 a).db ∧ RowsKept s.db (s.step md5 a).db := by
  obtain hsame | ⟨b, hstep⟩ := step_calls md5 s a
  · rw [hsame]
    exact ⟨h, .of_outbox rfl⟩
  · rw [hstep]
    exact ⟨step_db md5 h b, step_rows md5 h.sync b⟩

/-- A call of the API leaves an incident as it was, or gives it its first dispatch. -/
theorem api_waits {b : ItsmAction} (hapi : b.ofApi = true) (h : Waits (db.step md5 b) t inc last) :
    Waits db t inc last ∨ last.sync_state = .pending := by
  have hsame : ∀ db' : ItsmDb, db'.outbox = db.outbox → db'.links = db.links → Waits db' t inc last →
      Waits db t inc last := by
    intro db' houtbox hlinks ⟨hlast, hunlinked, hbudget⟩
    rw [attemptsOf, houtbox] at hlast hbudget
    exact ⟨hlast, hlinks ▸ hunlinked, hbudget⟩
  cases b with
  | create now t' c la snapshot =>
    rw [ItsmDb.step] at h
    cases hcall : g10_create_incident md5 now t' c la snapshot db with
    | error e =>
      rw [hcall] at h
      exact Or.inl h
    | ok p =>
      obtain ⟨_, db'⟩ := p
      rw [hcall] at h
      obtain ⟨_, -, -, -, -, heq⟩ | ⟨-, hfresh, -, -, heq⟩ := g10_create_incident_ok hcall
      · exact Or.inl (hsame db' (by rw [heq]) (by rw [heq]) h)
      · have h : Waits db' t inc last := h
        rw [heq] at h
        obtain ⟨hlast, hunlinked, hbudget⟩ := h
        rw [attemptsOf_concat] at hlast hbudget
        split_ifs at hlast hbudget with howner
        · rw [List.getLast?_concat] at hlast
          exact Or.inr (Option.some.inj hlast ▸ rfl)
        · exact Or.inl ⟨hlast, hunlinked, hbudget⟩
  | transition t' inc' target actor la snapshot =>
    rw [ItsmDb.step] at h
    cases hcall : g10_transition_incident md5 t' inc' target actor la snapshot db with
    | error e =>
      rw [hcall] at h
      exact Or.inl h
    | ok p =>
      obtain ⟨_, db'⟩ := p
      rw [hcall] at h
      obtain ⟨_, -, -, -, -, heq⟩ | ⟨_, -, _, -, -, -, -, -, -, -, -, heq⟩ :=
        g10_transition_incident_ok hcall <;>
        exact Or.inl (hsame db' (by rw [heq]) (by rw [heq]) h)
  | assign now t' inc' assignee actor la snapshot =>
    rw [ItsmDb.step] at h
    cases hcall : g10_assign_incident md5 now t' inc' assignee actor la snapshot db with
    | error e =>
      rw [hcall] at h
      exact Or.inl h
    | ok p =>
      obtain ⟨_, db'⟩ := p
      rw [hcall] at h
      obtain ⟨_, -, -, -, -, heq⟩ | ⟨_, -, -, -, -, -, -, -, -, heq⟩ :=
        g10_assign_incident_ok hcall <;>
        exact Or.inl (hsame db' (by rw [heq]) (by rw [heq]) h)
  | alerts rows => exact Or.inl (hsame (db.step md5 (.alerts rows)) rfl rfl h)
  | claim => cases hapi
  | complete => cases hapi
  | retry => cases hapi
  | reconcile => cases hapi

theorem Holds.updated (ho : Holds db t oid inc o) (hf : ∀ x, (f x).identity = x.identity) (links : List ProviderLink) :
    Holds { db.setDispatch t oid f with links } t oid inc (f o) := by
  obtain ⟨hmem, hkey, howner⟩ := ho
  refine ⟨mem_updateWhere.2 ⟨o, hmem, if_pos (isDispatch_iff.2 hkey)⟩, ?_, ?_⟩
  · exact (congrArg (fun k => k.1) (hf o)).trans hkey
  · exact (congrArg (fun k => k.2.1) (hf o)).trans howner

theorem Holds.id (ho : Holds db t oid inc o) :
    oid = o.sync_outbox_id := (congrArg Prod.snd ho.2.1).symm

theorem step_claim (h : WorldInv md5 s) (w now : ℕ) : WorldInv md5 (s.step md5 (.claim w now)) := by
  have hdb' := step_dbInv md5 h.db (.claim w now)
  rw [SyncWorld.step] at hdb' ⊢
  cases hpc : s.pc w with
  | claiming t oid inc executor =>
    simp only [hpc] at hdb' ⊢
    have hw := h.pcs w
    rw [hpc] at hw
    obtain ⟨hexecutor, o, ho⟩ := hw
    have hown : ∀ t' inc' last, Helps t' inc' last (s.pc w) → t = t' ∧ inc = inc' := by
      intro t' inc' last hhelps
      rw [hpc] at hhelps
      exact ⟨hhelps.1, hhelps.2.1⟩
    cases hcall : g10_claim_sync now t oid executor claimSeconds s.db with
    | error e =>
      -- the dispatch exists, and the input is what the worker gives
      have hinput : decide (executor ≠ "" ∧ 1 ≤ claimSeconds ∧ claimSeconds ≤ 300) = true :=
        decide_eq_true ⟨hexecutor, by decide, by decide⟩
      exfalso
      unfold g10_claim_sync at hcall
      simp only [hinput, ho.find h.db.sync] at hcall
      split_ifs at hcall <;> cases hcall
    | ok p =>
      obtain ⟨r, db⟩ := p
      simp only [hcall] at hdb' ⊢
      obtain ⟨x, hx, hcases⟩ := g10_claim_sync_ok hcall
      obtain rfl := ho.eq_of_find h.db.sync hx
      rcases hcases with ⟨hstate, rfl, rfl⟩ | ⟨rfl, rfl⟩ | ⟨hstate, rfl, rfl⟩
      · -- the lease ran out: the worker reconciles
        have hf : ∀ y, (SyncOutbox.putAside y).identity = y.identity := fun _ => rfl
        have ho' := ho.updated hf s.db.links
        refine h.set ho (by rw [hstate]; rfl) hf (fun _ hl => hl) hdb' ⟨_, ho', Or.inl rfl⟩ hown fun _ => ?_
        exact Or.inr (Or.inr ⟨rfl, rfl, Or.inl ho'.id⟩)
      · refine h.goto hdb' ?_ fun t' inc' last hlast => ?_
        · cases hstate : x.sync_state with
          | reconciliation_required => exact ⟨x, ho, Or.inl hstate⟩
          | dispatching => exact ⟨x, ho⟩
          | pending => trivial
          | linked => trivial
          | failed => trivial
          | unknown => trivial
        · by_cases hhelps : Helps t' inc' last (s.pc w)
          · rw [hpc] at hhelps
            obtain ⟨rfl, rfl, hid, hstate⟩ := hhelps
            obtain rfl := ho.eq_last h.db.sync hlast hid
            rw [hstate]
            exact Or.inr (Or.inr (Or.inr ⟨rfl, rfl, Or.inl hid⟩))
          · exact Or.inl ⟨hlast, hhelps⟩
      · have hf : ∀ y, (SyncOutbox.claimBy executor (now + claimSeconds.toNat) y).identity = y.identity := fun _ => rfl
        have ho' := ho.updated hf s.db.links
        exact h.set ho (by rw [hstate]; rfl) hf (fun _ hl => hl) hdb' ⟨_, ho'⟩ hown fun _ => Or.inr (Or.inl rfl)
  | idle => simpa only [hpc] using h
  | calling => simpa only [hpc] using h
  | reconciling => simpa only [hpc] using h
  | retrying => simpa only [hpc] using h

theorem WorldInv.giveUp (h : WorldInv md5 s) {pc : SyncPc} (hpc : PcInv s.db pc)
    (hw : ∀ t inc last, Waits s.db t inc last → ¬Helps t inc last (s.pc w)) : WorldInv md5 (s.goto w pc s.db) :=
  h.goto ⟨h.db, .of_outbox rfl⟩ hpc fun t inc last hlast => Or.inl ⟨hlast, hw t inc last hlast⟩

theorem pcInv_afterComplete (db : ItsmDb) (t inc : String) (state : SyncState) : PcInv db (afterComplete t inc state) := by
  cases state <;> trivial

theorem step_complete (h : WorldInv md5 s) (w now : ℕ) (result : SyncState) (ticket failure : Option String) :
    WorldInv md5 (s.step md5 (.complete w now result ticket failure)) := by
  have hdb' := step_dbInv md5 h.db (.complete w now result ticket failure)
  rw [SyncWorld.step] at hdb' ⊢
  cases hpc : s.pc w with
  | calling t oid inc executor =>
    simp only [hpc] at hdb' ⊢
    have hw := h.pcs w
    rw [hpc] at hw
    obtain ⟨o, ho⟩ := hw
    have hno : ∀ t' inc' last, ¬Helps t' inc' last (s.pc w) := fun t' inc' last hhelps => by
      rw [hpc] at hhelps
      exact hhelps
    cases hcall : g10_complete_sync md5 now t oid executor (reported result) ticket failure s.db with
    | error e => exact h.giveUp trivial fun t' inc' last _ => hno t' inc' last
    | ok p =>
      obtain ⟨r, db⟩ := p
      simp only [hcall] at hdb' ⊢
      have hafter : ∀ db, PcInv db (afterComplete t inc (reported result)) := fun db => pcInv_afterComplete db t inc _
      obtain ⟨hresult, x, hx, hcases⟩ := g10_complete_sync_ok hcall
      obtain rfl := ho.eq_of_find h.db.sync hx
      rcases hcases with ⟨-, -, rfl⟩ | ⟨hstate, -, links, rfl, hlinks⟩
      · exact h.giveUp (hafter _) fun t' inc' last _ => hno t' inc' last
      · have hf : ∀ y, (SyncOutbox.completeAs (reported result) failure y).identity = y.identity := fun _ => rfl
        have hkeeps : ∀ l ∈ s.db.links, l ∈ links := by
          rcases hlinks with ⟨-, rfl⟩ | ⟨-, hlink⟩
          · exact fun _ hl => hl
          · obtain ⟨rfl, -⟩ | ⟨-, row, -, rfl⟩ := linkIncident_ok hlink
            · exact fun _ hl => hl
            · exact fun _ hl => List.mem_append_left _ hl
        refine h.set ho (by rw [hstate]; rfl) hf hkeeps hdb' (hafter _)
          (fun t' inc' last hhelps => absurd hhelps (hno t' inc' last)) fun hwaits => Or.inr (Or.inr ?_)
        rcases hlinks with ⟨hne, -⟩ | ⟨-, hlink⟩
        · -- the worker goes on to the retry
          have hretry : afterComplete t inc (reported result) = .retrying t inc := by
            cases hstate : reported result <;> simp_all [afterComplete, SyncState.terminal]
          rw [hretry]
          exact ⟨rfl, rfl, hresult⟩
        · -- there is a link now
          have hinc : x.incident_id = inc := congrArg Prod.snd ho.2.2
          have hsome : ∃ l ∈ links, l.isFor t inc = true := by
            obtain ⟨rfl, l, hl, hfor⟩ | ⟨-, row, hfor, rfl⟩ := linkIncident_ok hlink
            · exact ⟨l, hl, hinc ▸ hfor⟩
            · exact ⟨row, List.mem_append_right _ (List.mem_singleton_self row), hinc ▸ hfor⟩
          obtain ⟨l, hl, hfor⟩ := hsome
          rw [hwaits.unlinked l hl] at hfor
          cases hfor
  | idle => simpa only [hpc] using h
  | claiming => simpa only [hpc] using h
  | reconciling => simpa only [hpc] using h
  | retrying => simpa only [hpc] using h

theorem step_reconcile (h : WorldInv md5 s) (w : ℕ) : WorldInv md5 (s.step md5 (.reconcile w)) := by
  have hdb' := step_dbInv md5 h.db (.reconcile w)
  rw [SyncWorld.step] at hdb' ⊢
  cases hpc : s.pc w with
  | reconciling t oid inc =>
    simp only [hpc] at hdb' ⊢
    have hw := h.pcs w
    rw [hpc] at hw
    obtain ⟨o, ho, hputAside⟩ := hw
    have hown : ∀ t' inc' last, Helps t' inc' last (s.pc w) → t = t' ∧ inc = inc' := by
      intro t' inc' last hhelps
      rw [hpc] at hhelps
      exact ⟨hhelps.1, hhelps.2.1⟩
    cases hcall : g10_reconcile_sync t oid s.db with
    | error e =>
      exfalso
      unfold g10_reconcile_sync at hcall
      simp only [ho.find h.db.sync] at hcall
      split_ifs at hcall
    | ok p =>
      obtain ⟨r, db⟩ := p
      simp only [hcall] at hdb' ⊢
      obtain ⟨x, hx, hcases⟩ := g10_reconcile_sync_ok hcall
      obtain rfl := ho.eq_of_find h.db.sync hx
      rcases hcases with ⟨hstate, rfl⟩ | ⟨hstate, rfl⟩
      · -- somebody reconciled it before
        have hover : x.sync_state.terminal = true := hputAside.resolve_left hstate
        refine h.goto hdb' trivial fun t' inc' last hlast => ?_
        by_cases hhelps : Helps t' inc' last (s.pc w)
        · rw [hpc] at hhelps
          obtain ⟨rfl, rfl, hlastover⟩ := hhelps
          refine Or.inr (Or.inr (Or.inr ⟨rfl, rfl, ?_⟩))
          rcases hlastover with hid | hlastover
          · exact ho.eq_last h.db.sync hlast hid ▸ hover
          · exact hlastover
        · exact Or.inl ⟨hlast, hhelps⟩
      · have hf : ∀ y, (SyncOutbox.reconcile y).identity = y.identity := fun _ => rfl
        exact h.set ho (by rw [hstate]; rfl) hf (fun _ hl => hl) hdb' trivial hown
          fun _ => Or.inr (Or.inr ⟨rfl, rfl, rfl⟩)
  | idle => simpa only [hpc] using h
  | claiming => simpa only [hpc] using h
  | calling => simpa only [hpc] using h
  | retrying => simpa only [hpc] using h

/-- After a retry the incident has an attempt that is pending, or its last attempt is not over. -/
theorem retry_waits (hmd5 : Function.Injective md5) {now : ℕ} (hdb : DbInv md5 db) {t' inc' : String}
    (h : Waits (db.after (g10_schedule_sync_retry md5 now t inc db)) t' inc' last) :
    last.sync_state = .pending ∨
      (Waits db t' inc' last ∧ ¬(t = t' ∧ inc = inc' ∧ last.sync_state.terminal = true)) := by
  cases hcall : g10_schedule_sync_retry md5 now t inc db with
  | error e =>
    rw [hcall] at h
    refine Or.inr ⟨h, fun ⟨ht, hinc, hover⟩ => ?_⟩
    subst ht hinc
    obtain ⟨r, hadds⟩ := retry_adds hmd5 now hdb h hover
    rw [hcall] at hadds
    cases hadds
  | ok p =>
    obtain ⟨r, db'⟩ := p
    rw [hcall] at h
    obtain rfl | ⟨x, -, -, -, -, -, rfl⟩ := g10_schedule_sync_retry_ok hcall
    · refine Or.inr ⟨h, fun ⟨ht, hinc, hover⟩ => ?_⟩
      subst ht hinc
      obtain ⟨r', hadds⟩ := retry_adds hmd5 now hdb h hover
      rw [hcall] at hadds
      have hrows := congrArg (fun db => db.outbox.length) (Prod.mk.inj (Except.ok.inj hadds)).2
      simp at hrows
    · obtain ⟨hlast, hunlinked, hbudget⟩ := h
      have hattempts : attemptsOf t' inc' { db with outbox := db.outbox ++ [nextDispatch md5 now t inc x] } = _ :=
        attemptsOf_concat
      rw [ItsmDb.after, hattempts] at hlast hbudget
      by_cases howner : (nextDispatch md5 now t inc x).owner = (t', inc')
      · rw [if_pos howner, List.getLast?_concat] at hlast
        exact Or.inl (Option.some.inj hlast ▸ rfl)
      · rw [if_neg howner] at hlast hbudget
        exact Or.inr ⟨⟨hlast, hunlinked, hbudget⟩, fun ⟨ht, hinc, _⟩ => howner (Prod.ext ht hinc)⟩

theorem step_retry (hmd5 : Function.Injective md5) (h : WorldInv md5 s) (w now : ℕ) :
    WorldInv md5 (s.step md5 (.retry w now)) := by
  have hdb' := step_dbInv md5 h.db (.retry w now)
  rw [SyncWorld.step] at hdb' ⊢
  cases hpc : s.pc w with
  | retrying t inc =>
    simp only [hpc] at hdb' ⊢
    refine h.goto hdb' trivial fun t' inc' last hlast => ?_
    rcases retry_waits hmd5 h.db hlast with hpending | ⟨hold, hnot⟩
    · exact Or.inr (Or.inl hpending)
    · refine Or.inl ⟨hold, fun hhelps => hnot ?_⟩
      rw [hpc] at hhelps
      exact hhelps
  | idle => simpa only [hpc] using h
  | claiming => simpa only [hpc] using h
  | calling => simpa only [hpc] using h
  | reconciling => simpa only [hpc] using h

theorem step_next (h : WorldInv md5 s) (w now : ℕ) (t token : String) :
    WorldInv md5 (s.step md5 (.next w now t token)) := by
  rw [SyncWorld.step]
  cases hpc : s.pc w with
  | idle =>
    cases hnext : g10_next_sync_candidate now t s.db with
    | none => exact h
    | some o =>
      obtain ⟨ho, ht, -⟩ := mem_syncCandidates.1 (firstOf_mem hnext)
      refine h.giveUp ⟨executorName_ne token, o, ho, Prod.ext ht rfl, Prod.ext ht rfl⟩ fun t' inc' last _ hhelps => ?_
      rw [hpc] at hhelps
      exact hhelps
  | claiming => exact h
  | calling => exact h
  | reconciling => exact h
  | retrying => exact h

/-- Every step keeps the invariant, as long as a crash leaves another worker for the incident. -/
theorem step_world (hmd5 : Function.Injective md5) (h : WorldInv md5 s) (a : SyncAct) (ha : NotLastHelper s a) :
    WorldInv md5 (s.step md5 a) := by
  cases a with
  | api b =>
    have hdb' := step_dbInv md5 h.db (.api b)
    rw [SyncWorld.step] at hdb' ⊢
    split_ifs at hdb' ⊢ with hapi
    · refine ⟨hdb'.1, fun w => (h.pcs w).kept hdb'.2, fun t inc last hlast => ?_⟩
      rcases api_waits hapi hlast with hold | hpending
      · exact h.tended t inc last hold
      · exact Or.inl hpending
    · exact h
  | next w now t token => exact step_next h w now t token
  | claim w now => exact step_claim h w now
  | complete w now result ticket failure => exact step_complete h w now result ticket failure
  | reconcile w => exact step_reconcile h w
  | retry w now => exact step_retry hmd5 h w now
  | crash w =>
    refine ⟨h.db, fun w' => ?_, fun t inc last hlast => ?_⟩
    · by_cases heq : w' = w
      · rw [heq, SyncWorld.step, SyncWorld.goto_self]
        trivial
      · rw [SyncWorld.step, SyncWorld.goto_other s heq]
        exact h.pcs w'
    · rcases h.tended t inc last hlast with hstate | hstate | ⟨w', hw'⟩
      · exact Or.inl hstate
      · exact Or.inr (Or.inl hstate)
      · -- if the helper is the one that crashes, the condition names another
        obtain ⟨w'', hne, hw''⟩ : ∃ w'', w'' ≠ w ∧ Helps t inc last (s.pc w'') := by
          by_cases heq : w' = w
          · exact ha t inc last hlast (heq ▸ hw')
          · exact ⟨w', heq, hw'⟩
        exact Or.inr (Or.inr ⟨w'', (s.goto_other hne .idle s.db).symm ▸ hw''⟩)

theorem init_world (md5 : String → String) : WorldInv md5 .init where
  db := ⟨empty_sync, fun _ h => absurd h List.not_mem_nil, fun _ h => absurd h List.not_mem_nil,
    fun _ h => absurd h List.not_mem_nil⟩
  pcs := fun _ => trivial
  tended := fun t inc last h => by
    have hmem := h.mem.1
    cases hmem

/-! ### The way forward -/

/-- The worker can make a further attempt. -/
def Makes (md5 : String → String) (s : SyncWorld) (w : ℕ) (t inc : String) : Prop :=
  ∃ acts : List SyncAct, (∀ a ∈ acts, a.isOf w) ∧
    (attemptsOf t inc s.db).length < (attemptsOf t inc (acts.foldl (SyncWorld.step md5) s).db).length

theorem Makes.cons {a : SyncAct} (ha : a.isOf w)
    (hlength : (attemptsOf t inc (s.step md5 a).db).length = (attemptsOf t inc s.db).length)
    (h : Makes md5 (s.step md5 a) w t inc) : Makes md5 s w t inc := by
  obtain ⟨acts, hacts, hmore⟩ := h
  refine ⟨a :: acts, fun b hb => ?_, hlength ▸ hmore⟩
  rcases List.mem_cons.1 hb with rfl | hb
  · exact ha
  · exact hacts b hb

theorem makes_of_retrying (hmd5 : Function.Injective md5) (h : WorldInv md5 s) (hpc : s.pc w = .retrying t inc)
    (hlast : Waits s.db t inc last) (hover : last.sync_state.terminal = true) : Makes md5 s w t inc := by
  obtain ⟨r, hadds⟩ := retry_adds hmd5 0 h.db hlast hover
  refine ⟨[.retry w 0], fun a ha => List.mem_singleton.1 ha ▸ rfl, ?_⟩
  have howner : (nextDispatch md5 0 t inc last).owner = (t, inc) := rfl
  have hstep : (s.step md5 (.retry w 0)).db = { s.db with outbox := s.db.outbox ++ [nextDispatch md5 0 t inc last] } := by
    rw [SyncWorld.step]
    simp only [hpc, hadds]
    rfl
  have hattempts : attemptsOf t inc { s.db with outbox := s.db.outbox ++ [nextDispatch md5 0 t inc last] } = _ :=
    attemptsOf_concat
  rw [List.foldl_cons, List.foldl_nil, hstep, hattempts, if_pos howner, List.length_append]
  exact Nat.lt_succ_self _

theorem makes_of_reconciling (hmd5 : Function.Injective md5) (h : WorldInv md5 s)
    (hpc : s.pc w = .reconciling t oid inc) (hlast : Waits s.db t inc last)
    (hhelps : oid = last.sync_outbox_id ∨ last.sync_state.terminal = true) : Makes md5 s w t inc := by
  have hinv := step_reconcile h w
  have hw := h.pcs w
  rw [hpc] at hw
  obtain ⟨o, ho, hputAside⟩ := hw
  by_cases hstate : o.sync_state = .reconciliation_required
  · have hopen : o.sync_state.terminal = false := by rw [hstate]; rfl
    have hstep : s.step md5 (.reconcile w) = s.goto w (.retrying t inc) (s.db.setDispatch t oid SyncOutbox.reconcile) := by
      rw [SyncWorld.step]
      simp only [hpc, g10_reconcile_sync, ho.find h.db.sync, hstate]
      rfl
    obtain ⟨hne, -⟩ | ⟨-, pre, hbefore, hafter⟩ := set_attempts h.db.sync (f := SyncOutbox.reconcile)
      (ho.find h.db.sync) hopen (fun _ => rfl) t inc
    · exact absurd ho.2.2 hne
    · have hlength : (attemptsOf t inc (s.db.setDispatch t oid SyncOutbox.reconcile)).length =
          (attemptsOf t inc s.db).length := by
        rw [hafter, hbefore, List.length_append, List.length_append]
        rfl
      have hwaits : Waits (s.db.setDispatch t oid SyncOutbox.reconcile) t inc (SyncOutbox.reconcile o) := by
        refine ⟨?_, hlast.unlinked, hlength ▸ hlast.budget⟩
        rw [hafter, List.getLast?_concat]
      rw [hstep] at hinv
      refine .cons (a := .reconcile w) rfl (by rw [hstep]; exact hlength) ?_
      rw [hstep]
      exact makes_of_retrying hmd5 hinv (s.goto_self ..) hwaits rfl
  · -- somebody reconciled it before
    have hstep : s.step md5 (.reconcile w) = s.goto w (.retrying t inc) s.db := by
      rw [SyncWorld.step]
      simp only [hpc, g10_reconcile_sync, ho.find h.db.sync]
      rw [if_pos hstate]
    have hover : last.sync_state.terminal = true := by
      rcases hhelps with hid | hover
      · exact ho.eq_last h.db.sync hlast hid ▸ hputAside.resolve_left hstate
      · exact hover
    rw [hstep] at hinv
    refine .cons (a := .reconcile w) rfl (by rw [hstep]; rfl) ?_
    rw [hstep]
    exact makes_of_retrying hmd5 hinv (s.goto_self ..) hlast hover

theorem makes_of_claiming (hmd5 : Function.Injective md5) (h : WorldInv md5 s) {executor : String}
    (hpc : s.pc w = .claiming t oid inc executor) (hlast : Waits s.db t inc last) (hid : oid = last.sync_outbox_id)
    (hstate : last.sync_state = .reconciliation_required) : Makes md5 s w t inc := by
  have hinv := step_claim h w 0
  have hw := h.pcs w
  rw [hpc] at hw
  obtain ⟨hexecutor, o, ho⟩ := hw
  obtain rfl := ho.eq_last h.db.sync hlast hid
  have hinput : decide (executor ≠ "" ∧ 1 ≤ claimSeconds ∧ claimSeconds ≤ 300) = true :=
    decide_eq_true ⟨hexecutor, by decide, by decide⟩
  have hclaim : g10_claim_sync 0 t oid executor claimSeconds s.db = .ok (⟨.reconciliation_required, true⟩, s.db) := by
    unfold g10_claim_sync
    simp only [hinput, ho.find h.db.sync, hstate]
    rfl
  have hstep : s.step md5 (.claim w 0) = s.goto w (.reconciling t oid inc) s.db := by
    rw [SyncWorld.step]
    simp only [hpc, hclaim]
    rfl
  rw [hstep] at hinv
  refine .cons (a := .claim w 0) rfl (by rw [hstep]; rfl) ?_
  rw [hstep]
  exact makes_of_reconciling hmd5 hinv (s.goto_self ..) hlast (Or.inl hid)

/-- A dispatch that is open is one that the query selects from some time on. -/
theorem due_of_open (hdb : DbInv md5 db) (ho : o ∈ db.outbox)
    (hstate : o.sync_state = .pending ∨ o.sync_state = .dispatching) :
    ∃ due, ∀ now, due ≤ now → o ∈ syncCandidates now o.tenant_id db := by
  have hincident := hdb.sync.owned o ho
  rcases hstate with hstate | hstate
  · refine ⟨o.available_at, fun now hdue => mem_syncCandidates.2 ⟨ho, rfl, ?_, hincident⟩⟩
    simp [SyncOutbox.eligible, hstate, hdue]
  · obtain ⟨expires, hexpires⟩ := Option.ne_none_iff_exists'.1 (hdb.leased o ho hstate)
    refine ⟨expires, fun now hdue => mem_syncCandidates.2 ⟨ho, rfl, ?_, hincident⟩⟩
    simp [SyncOutbox.eligible, SyncOutbox.expired, hstate, hexpires, hdue]

/-- Under the invariant every incident has its way forward. -/
theorem wayForward_of_inv (hmd5 : Function.Injective md5) (h : WorldInv md5 s) : NoneStranded md5 s := by
  intro i hi hunlinked hbudget
  obtain ⟨last, hlast⟩ : ∃ last, (attemptsOf i.tenant_id i.incident_id s.db).getLast? = some last :=
    ⟨_, List.getLast?_eq_some_getLast (h.db.made i hi)⟩
  have hwaits : Waits s.db i.tenant_id i.incident_id last := ⟨hlast, hunlinked, hbudget⟩
  obtain ⟨hmem, howner⟩ := hwaits.mem
  have hopen : last.sync_state = .pending ∨ last.sync_state = .dispatching →
      WayForward md5 s i.tenant_id i.incident_id := by
    intro hstate
    obtain ⟨due, hdue⟩ := due_of_open h.db hmem hstate
    obtain ⟨ht, -⟩ := Prod.mk.inj howner
    refine Or.inl ⟨last, mem_attemptsOf.2 hwaits.mem, due, fun now hnow token => ?_⟩
    exact pass_offers (executorName_ne token) h.db.sync.ids (ht ▸ hdue now hnow)
  rcases h.tended _ _ last hwaits with hstate | hstate | ⟨w, hw⟩
  · exact hopen (Or.inl hstate)
  · exact hopen (Or.inr hstate)
  · refine Or.inr ⟨w, ?_⟩
    obtain ⟨oid, executor, hpc⟩ | ⟨oid, hpc⟩ | hpc := hw.of <;> rw [hpc] at hw
    · exact makes_of_claiming hmd5 h hpc hwaits hw.2.2.1 hw.2.2.2
    · exact makes_of_reconciling hmd5 h hpc hwaits hw.2.2
    · exact makes_of_retrying hmd5 h hpc hwaits hw.2.2

/-- **Synchronisation is not stranded** in any state of a run in which no crash takes the last worker that
will see to an incident. -/
theorem never_stranded (md5 : String → String) (hmd5 : Function.Injective md5) {run : List SyncAct}
    (hrun : Guarded (SyncWorld.step md5) NotLastHelper .init run) {pre post : List SyncAct} (hpre : run = pre ++ post) :
    NoneStranded md5 (SyncWorld.exec md5 pre) := by
  rw [hpre, guarded_append] at hrun
  exact wayForward_of_inv hmd5 (hrun.1.invariant (fun s a h ha => step_world hmd5 h a ha) (init_world md5))

/-! ### The crash that strands an incident -/

/-- Where no worker is at work and no dispatch is open to the query, nobody goes on. -/
theorem not_wayForward (hpc : ∀ w, s.pc w = .idle) (hnone : ∀ now t, syncCandidates now t s.db = []) (t inc : String) :
    ¬WayForward md5 s t inc := by
  have hnext : ∀ now t, g10_next_sync_candidate now t s.db = none := fun now t => by
    rw [g10_next_sync_candidate, hnone]
    rfl
  rintro (⟨o, -, due, hdue⟩ | ⟨w, acts, hacts, hmore⟩)
  · obtain ⟨k, hk⟩ := hdue due (Nat.le_refl due) ""
    have hpass : pass due t (executorName "") s.db = s.db := by rw [pass, hnext]
    rw [Function.iterate_fixed hpass, hnext] at hk
    cases hk
  · have hstays : acts.foldl (SyncWorld.step md5) s = s := by
      clear hmore
      induction acts with
      | nil => rfl
      | cons a acts ih =>
        have hstep : s.step md5 a = s := by
          cases a with
          | api => exact (hacts _ List.mem_cons_self).elim
          | crash => exact (hacts _ List.mem_cons_self).elim
          | next => rw [SyncWorld.step, hpc, hnext]
          | claim => rw [SyncWorld.step, hpc]
          | complete => rw [SyncWorld.step, hpc]
          | reconcile => rw [SyncWorld.step, hpc]
          | retry => rw [SyncWorld.step, hpc]
        rw [List.foldl_cons, hstep]
        exact ih fun b hb => hacts b (List.mem_cons_of_mem a hb)
    rw [hstays] at hmore
    exact Nat.lt_irrefl _ hmore

/-- An incident whose first attempt fails at the provider. -/
def failedAttempt : List SyncAct :=
  [.api (.alerts [⟨"tenant", "alert", .active⟩]),
    .api (.create 0 "tenant" ⟨"alert", "Disk full", none, "operator"⟩ "la"
      ⟨true, some "tenant", some "operator", some "alerting:operate", some "g10.itsm-incident@1"⟩),
    .next 7 1 "tenant" "token", .claim 7 1, .complete 7 2 .failed none (some "provider_down")]

/-- With its retry the incident goes on. -/
theorem retried_not_stranded : NoneStranded id (SyncWorld.exec id (failedAttempt ++ [.retry 7 3])) :=
  never_stranded id Function.injective_id (by simp [failedAttempt, NotLastHelper]) (List.append_nil _).symm

/-- The worker crashes after `g10_complete_sync` and before `g10_schedule_sync_retry`. -/
theorem crash_strands : ¬NoneStranded id (SyncWorld.exec id (failedAttempt ++ [.crash 7])) := by
  intro h
  have hfailed : ∀ o ∈ (SyncWorld.exec id (failedAttempt ++ [.crash 7])).db.outbox, o.sync_state = .failed := by decide
  have hnone : ∀ now t, syncCandidates now t (SyncWorld.exec id (failedAttempt ++ [.crash 7])).db = [] := by
    refine fun now t => List.filter_eq_nil_iff.2 fun o ho => ?_
    simp [SyncOutbox.eligible, hfailed o ho]
  have hpc : ∀ w, (SyncWorld.exec id (failedAttempt ++ [.crash 7])).pc w = .idle := by
    obtain ⟨pc₁, pc₂, pc₃, hpcs⟩ : ∃ pc₁ pc₂ pc₃, (SyncWorld.exec id (failedAttempt ++ [.crash 7])).pc =
        Function.update (Function.update (Function.update (Function.update (fun _ => .idle) 7 pc₁) 7 pc₂) 7 pc₃) 7 .idle :=
      ⟨_, _, _, rfl⟩
    intro w
    rw [hpcs]
    by_cases hw : w = 7 <;> simp [hw]
  have hincident : ∃ i ∈ (SyncWorld.exec id (failedAttempt ++ [.crash 7])).db.incidents,
      (∀ l ∈ (SyncWorld.exec id (failedAttempt ++ [.crash 7])).db.links, l.isFor i.tenant_id i.incident_id = false) ∧
        (attemptsOf i.tenant_id i.incident_id (SyncWorld.exec id (failedAttempt ++ [.crash 7])).db).length < 3 := by
    decide
  obtain ⟨i, hi, hunlinked, hbudget⟩ := hincident
  exact not_wayForward hpc hnone _ _ (h i hi hunlinked hbudget)

end JLMirror.Itsm
