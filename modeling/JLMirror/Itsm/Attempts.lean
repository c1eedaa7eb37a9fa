import JLMirror.Itsm.Lifecycle

/-!
# The attempts of an incident

The synchronisation of one incident is a small machine: attempts numbered from 1 of which only the
last can still change, at most three of them, and a link once one has succeeded. The functions of
the outbox, called in any order, are moves of that machine for every incident at once.

## The model

`SyncView` is what the tables hold of one incident, `AttemptMove` the machine. The functions take the
row of the dispatch, or the lock of the incident, before they read, so a run is a list of calls.

## What is proved

* `AttemptMove.keeps_inv` — the moves keep the invariant of one incident, `AttemptsInv`.
* `AttemptMove.permanent` — they leave an attempt that is done, and a link, alone.
* `step_view` — every call is a move of every incident: the tables refine the machine.

**Key result** (`sync_outbox_invariant`): one open attempt at most and it is the last one, numbers
without gaps up to three, the link exactly with an attempt that linked, nothing done is changed.
-/

namespace JLMirror.Itsm

open JLMirror.Foundations JLMirror.Alerting

/-! ### The machine of one incident -/

/-- What the tables hold of the synchronisation of an incident. -/
structure SyncView where
  attempts : List SyncOutbox
  links : List ProviderLink

/-- The invariant of an incident. -/
structure AttemptsInv (v : SyncView) : Prop where
  numbers : v.attempts.map SyncOutbox.attempt_number = List.range' 1 v.attempts.length
  /-- `CHECK (attempt_number BETWEEN 1 AND 3)`. -/
  budget : v.attempts.length ≤ 3
  /-- All attempts but the last have failed, as far as anyone knows. -/
  settled : ∀ o ∈ v.attempts.dropLast, o.sync_state = .failed ∨ o.sync_state = .unknown
  linked : v.links ≠ [] ↔ ∃ o ∈ v.attempts, o.sync_state = .linked
  single : v.links.length ≤ 1

/-- The moves of the machine. -/
inductive AttemptMove (v v' : SyncView) : Prop where
  | keeps (same : v' = v)
  | opens (row : SyncOutbox) (none : v.attempts = []) (number : row.attempt_number = 1) (state : row.sync_state = .pending)
      (attempts : v'.attempts = [row]) (links : v'.links = v.links)
  /-- The last attempt changes, and is not linked by that. -/
  | sets (pre : List SyncOutbox) (o o' : SyncOutbox) (before : v.attempts = pre ++ [o])
      (open_ : o.sync_state.terminal = false) (number : o'.attempt_number = o.attempt_number)
      (state : o'.sync_state ≠ .linked) (attempts : v'.attempts = pre ++ [o']) (links : v'.links = v.links)
  /-- The last attempt succeeds. -/
  | links (pre : List SyncOutbox) (o o' : SyncOutbox) (row : ProviderLink) (before : v.attempts = pre ++ [o])
      (open_ : o.sync_state.terminal = false) (number : o'.attempt_number = o.attempt_number)
      (state : o'.sync_state = .linked) (attempts : v'.attempts = pre ++ [o']) (none : v.links = [])
      (links : v'.links = [row])
  | retries (pre : List SyncOutbox) (o row : SyncOutbox) (before : v.attempts = pre ++ [o])
      (failed : o.sync_state = .failed ∨ o.sync_state = .unknown) (budget : o.attempt_number < 3)
      (number : row.attempt_number = o.attempt_number + 1) (state : row.sync_state = .pending)
      (attempts : v'.attempts = v.attempts ++ [row]) (links : v'.links = v.links)

theorem SyncState.ne_linked_of_open {s : SyncState} (h : s.terminal = false) : s ≠ .linked := by
  rintro rfl
  cases h

variable {v : SyncView} {pre : List SyncOutbox} {o : SyncOutbox}

theorem AttemptsInv.last_number (h : AttemptsInv v) (hlast : v.attempts = pre ++ [o]) :
    o.attempt_number = pre.length + 1 := by
  have hnumbers := h.numbers
  rw [hlast, List.map_append, List.length_append, List.length_singleton, List.range'_concat] at hnumbers
  have := List.append_inj_right' hnumbers rfl
  simpa [Nat.add_comm] using this

theorem AttemptsInv.last_of_open (h : AttemptsInv v) (ho : o ∈ v.attempts) (hopen : o.sync_state.terminal = false) :
    ∃ pre, v.attempts = pre ++ [o] := by
  have hne : v.attempts ≠ [] := List.ne_nil_of_mem ho
  rw [← List.dropLast_append_getLast hne, List.mem_append, List.mem_singleton] at ho
  rcases ho with ho | rfl
  · rcases h.settled o ho with hstate | hstate <;> · rw [hstate] at hopen; cases hopen
  · exact ⟨v.attempts.dropLast, (List.dropLast_append_getLast hne).symm⟩

/-- While an attempt is open there is no link. -/
theorem AttemptsInv.no_link_of_open (h : AttemptsInv v) (hlast : v.attempts = pre ++ [o])
    (hopen : o.sync_state ≠ .linked) : v.links = [] := by
  by_contra hne
  obtain ⟨x, hx, hlinked⟩ := h.linked.1 hne
  rw [hlast, List.mem_append, List.mem_singleton] at hx
  rcases hx with hx | rfl
  · have hsettled := h.settled x (by rw [hlast, List.dropLast_concat]; exact hx)
    rw [hlinked] at hsettled
    rcases hsettled with h | h <;> cases h
  · exact hopen hlinked

theorem AttemptsInv.settled_ne_linked (h : AttemptsInv v) (hlast : v.attempts = pre ++ [o]) :
    ∀ x ∈ pre, x.sync_state ≠ .linked := by
  intro x hx hlinked
  have hsettled := h.settled x (by rw [hlast, List.dropLast_concat]; exact hx)
  rw [hlinked] at hsettled
  rcases hsettled with h | h <;> cases h

/-- The moves keep the invariant. -/
theorem AttemptMove.keeps_inv {v' : SyncView} (hmove : AttemptMove v v') (h : AttemptsInv v) : AttemptsInv v' := by
  cases hmove with
  | keeps hsame => exact hsame ▸ h
  | opens row hnone hnumber hstate hattempts hlinks =>
    have hno : v'.links = [] := by
      rw [hlinks]
      by_contra hne
      obtain ⟨x, hx, -⟩ := h.linked.1 hne
      rw [hnone] at hx
      cases hx
    refine ⟨?_, ?_, ?_, ?_, ?_⟩
    · rw [hattempts]
      simp [hnumber]
    · rw [hattempts]
      simp
    · rw [hattempts]
      simp
    · rw [hattempts, hno]
      simp [hstate]
    · simp [hno]
  | sets pre o o' hbefore hopen hnumber hstate hattempts hlinks =>
    have hno := h.no_link_of_open hbefore (SyncState.ne_linked_of_open hopen)
    have hpre := h.settled_ne_linked hbefore
    refine ⟨?_, ?_, ?_, ?_, hlinks ▸ h.single⟩
    · have hnumbers := h.numbers
      rw [hbefore] at hnumbers
      rw [hattempts]
      simpa [hnumber] using hnumbers
    · have hbudget := h.budget
      rw [hbefore] at hbudget
      rw [hattempts]
      simpa using hbudget
    · intro x hx
      rw [hattempts, List.dropLast_concat] at hx
      exact h.settled x (by rw [hbefore, List.dropLast_concat]; exact hx)
    · rw [hlinks, hno, hattempts]
      simpa [hstate] using hpre
  | links pre o o' row hbefore hopen hnumber hstate hattempts hnone hlinks =>
    refine ⟨?_, ?_, ?_, ?_, ?_⟩
    · have hnumbers := h.numbers
      rw [hbefore] at hnumbers
      rw [hattempts]
      simpa [hnumber] using hnumbers
    · have hbudget := h.budget
      rw [hbefore] at hbudget
      rw [hattempts]
      simpa using hbudget
    · intro x hx
      rw [hattempts, List.dropLast_concat] at hx
      exact h.settled x (by rw [hbefore, List.dropLast_concat]; exact hx)
    · rw [hlinks, hattempts]
      simp [hstate]
    · simp [hlinks]
  | retries pre o row hbefore hfailed hbudget hnumber hstate hattempts hlinks =>
    have hlast := h.last_number hbefore
    have hne : o.sync_state ≠ .linked := by rcases hfailed with h | h <;> simp [h]
    have hno := h.no_link_of_open hbefore hne
    refine ⟨?_, ?_, ?_, ?_, hlinks ▸ h.single⟩
    · have hlen : row.attempt_number = 1 + v.attempts.length := by
        rw [hnumber, hlast, hbefore, List.length_append, List.length_singleton]
        omega
      rw [hattempts, List.map_append, h.numbers, List.length_append, List.length_singleton, List.range'_concat,
        List.map_singleton, hlen, Nat.one_mul]
    · rw [hattempts, hbefore, List.length_append, List.length_append, List.length_singleton, List.length_singleton]
      omega
    · intro x hx
      rw [hattempts, List.dropLast_concat, hbefore, List.mem_append, List.mem_singleton] at hx
      rcases hx with hx | rfl
      · exact h.settled x (by rw [hbefore, List.dropLast_concat]; exact hx)
      · exact hfailed
    · have hpre := h.settled_ne_linked hbefore
      rw [hlinks, hno, hattempts, hbefore]
      refine ⟨fun h => absurd rfl h, fun ⟨x, hx, hlinked⟩ => ?_⟩
      simp only [List.mem_append, List.mem_singleton] at hx
      obtain (hx | rfl) | rfl := hx
      · exact absurd hlinked (hpre x hx)
      · exact absurd hlinked hne
      · rw [hstate] at hlinked
        cases hlinked

/-- The moves leave an attempt that is done, and a link, alone. -/
theorem AttemptMove.permanent {v' : SyncView} (hmove : AttemptMove v v') :
    (∀ o ∈ v.attempts, o.sync_state.terminal = true → o ∈ v'.attempts) ∧ ∀ l ∈ v.links, l ∈ v'.links := by
  cases hmove with
  | keeps hsame => exact hsame ▸ ⟨fun _ h _ => h, fun _ h => h⟩
  | opens row hnone _ _ _ hlinks =>
    refine ⟨fun o ho => ?_, fun l hl => hlinks ▸ hl⟩
    rw [hnone] at ho
    cases ho
  | sets pre o o' hbefore hopen _ _ hattempts hlinks =>
    refine ⟨fun x hx hdone => ?_, fun l hl => hlinks ▸ hl⟩
    rw [hbefore, List.mem_append, List.mem_singleton] at hx
    rcases hx with hx | rfl
    · exact hattempts ▸ List.mem_append_left _ hx
    · rw [hopen] at hdone
      cases hdone
  | links pre o o' row hbefore hopen _ _ hattempts hnone _ =>
    refine ⟨fun x hx hdone => ?_, fun l hl => ?_⟩
    · rw [hbefore, List.mem_append, List.mem_singleton] at hx
      rcases hx with hx | rfl
      · exact hattempts ▸ List.mem_append_left _ hx
      · rw [hopen] at hdone
        cases hdone
    · rw [hnone] at hl
      cases hl
  | retries pre o row _ _ _ _ _ hattempts hlinks =>
    exact ⟨fun x hx _ => hattempts ▸ List.mem_append_left _ hx, fun l hl => hlinks ▸ hl⟩

/-! ### The tables -/

/-- The incident of a dispatch. -/
def SyncOutbox.owner (o : SyncOutbox) : String × String := (o.tenant_id, o.incident_id)

/-- The primary key of a dispatch. -/
def SyncOutbox.key (o : SyncOutbox) : String × String := (o.tenant_id, o.sync_outbox_id)

/-- What no update sets. -/
def SyncOutbox.identity (o : SyncOutbox) : (String × String) × (String × String) × ℕ :=
  (o.key, o.owner, o.attempt_number)

/-- What the tables hold of an incident. -/
def syncOf (tenant_id incident_id : String) (db : ItsmDb) : SyncView where
  attempts := attemptsOf tenant_id incident_id db
  links := db.links.filter (ProviderLink.isFor tenant_id incident_id)

/-- The invariant of the tables. -/
structure SyncInv (db : ItsmDb) : Prop where
  lifecycle : LifecycleInv db
  ids : (db.outbox.map SyncOutbox.key).Nodup
  /-- The foreign key of the dispatches. -/
  owned : ∀ o ∈ db.outbox, ∃ i ∈ db.incidents, i.key = o.owner
  view : ∀ t inc, AttemptsInv (syncOf t inc db)

variable {t inc : String}

theorem isFor_iff : o.isFor t inc = true ↔ o.owner = (t, inc) := by
  simp [SyncOutbox.isFor, SyncOutbox.owner]

variable {oid : String}

theorem isDispatch_iff : isDispatch t oid o = true ↔ o.key = (t, oid) := by
  simp [isDispatch, SyncOutbox.key]

variable {db : ItsmDb}

theorem mem_attemptsOf : o ∈ attemptsOf t inc db ↔ o ∈ db.outbox ∧ o.owner = (t, inc) := by
  rw [attemptsOf, List.mem_filter, isFor_iff]

/-- A query of columns that an update does not set selects the same rows. -/
theorem filter_updateWhere_of_keeps {α : Type} {p q : α → Bool} {f : α → α} (h : ∀ r, q (f r) = q r) (rows : List α) :
    (updateWhere p f rows).filter q = updateWhere p f (rows.filter q) := by
  induction rows with
  | nil => rfl
  | cons r rows ih =>
    have hq : q (if p r then f r else r) = q r := by
      split_ifs
      · exact h r
      · rfl
    rw [updateWhere_cons, List.filter_cons, List.filter_cons, hq, ih]
    split_ifs <;> simp_all

variable {f : SyncOutbox → SyncOutbox}

/-- An update of an open dispatch changes the last attempt of its incident, and nothing of another one. -/
theorem set_attempts (hdb : SyncInv db) (hfind : db.outbox.find? (isDispatch t oid) = some o)
    (hopen : o.sync_state.terminal = false) (hf : ∀ x, (f x).identity = x.identity) (t' inc : String) :
    (o.owner ≠ (t', inc) ∧ attemptsOf t' inc (db.setDispatch t oid f) = attemptsOf t' inc db) ∨
      (o.owner = (t', inc) ∧ ∃ pre, attemptsOf t' inc db = pre ++ [o] ∧
        attemptsOf t' inc (db.setDispatch t oid f) = pre ++ [f o]) := by
  obtain ⟨hmem, hid⟩ := find_dispatch hfind
  have hset : attemptsOf t' inc (db.setDispatch t oid f) = updateWhere (isDispatch t oid) f (attemptsOf t' inc db) := by
    refine filter_updateWhere_of_keeps (fun x => ?_) db.outbox
    have howner : (f x).owner = x.owner := congrArg (fun k => k.2.1) (hf x)
    rw [Bool.eq_iff_iff, isFor_iff, isFor_iff, howner]
  -- a row with the id is the row
  have hsame : ∀ x ∈ db.outbox, isDispatch t oid x = true → x = o := fun x hx h =>
    eq_of_key hdb.ids hx hmem ((isDispatch_iff.1 h).trans (isDispatch_iff.1 hid).symm)
  by_cases howner : o.owner = (t', inc)
  · obtain ⟨pre, hpre⟩ := (hdb.view t' inc).last_of_open (mem_attemptsOf.2 ⟨hmem, howner⟩) hopen
    have hpre : attemptsOf t' inc db = pre ++ [o] := hpre
    refine Or.inr ⟨howner, pre, hpre, ?_⟩
    have hnone : updateWhere (isDispatch t oid) f pre = pre := by
      refine updateWhere_of_none fun x hx => Bool.eq_false_iff.2 fun h => ?_
      have hx' : x ∈ attemptsOf t' inc db := hpre ▸ List.mem_append_left _ hx
      obtain rfl := hsame x (mem_attemptsOf.1 hx').1 h
      have hsettled := (hdb.view t' inc).settled x (by rw [syncOf, hpre, List.dropLast_concat]; exact hx)
      rcases hsettled with h | h <;> · rw [h] at hopen; cases hopen
    rw [hset, hpre, updateWhere_append, hnone, updateWhere_cons, hid, if_pos rfl, updateWhere_nil]
  · refine Or.inl ⟨howner, hset.trans (updateWhere_of_none fun x hx => Bool.eq_false_iff.2 fun h => ?_)⟩
    obtain ⟨hx, hxowner⟩ := mem_attemptsOf.1 hx
    obtain rfl := hsame x hx h
    exact howner hxowner

theorem set_move (hdb : SyncInv db) (hfind : db.outbox.find? (isDispatch t oid) = some o)
    (hopen : o.sync_state.terminal = false) (hf : ∀ x, (f x).identity = x.identity)
    (hstate : (f o).sync_state ≠ .linked) (t' inc : String) :
    AttemptMove (syncOf t' inc db) (syncOf t' inc (db.setDispatch t oid f)) := by
  rcases set_attempts hdb hfind hopen hf t' inc with ⟨-, hsame⟩ | ⟨-, pre, hbefore, hafter⟩
  · refine .keeps ?_
    rw [syncOf, hsame]
    rfl
  · exact .sets pre o (f o) hbefore hopen (congrArg (fun k => k.2.2) (hf o)) hstate hafter rfl

/-! ### Every call is a move -/

/-- What a call does to the outbox, besides its moves. -/
structure SyncStep (db db' : ItsmDb) : Prop where
  view : ∀ t inc, AttemptMove (syncOf t inc db) (syncOf t inc db')
  ids : (db'.outbox.map SyncOutbox.key).Nodup
  owned : ∀ o ∈ db'.outbox, (∃ x ∈ db.outbox, x.owner = o.owner) ∨ ∃ i ∈ db'.incidents, i.key = o.owner

variable {db' : ItsmDb}

theorem SyncStep.of_same (hdb : SyncInv db) (houtbox : db'.outbox = db.outbox) (hlinks : db'.links = db.links) :
    SyncStep db db' where
  view := fun t inc => .keeps (by rw [syncOf, syncOf, attemptsOf, attemptsOf, houtbox, hlinks])
  ids := houtbox ▸ hdb.ids
  owned := fun o ho => Or.inl ⟨o, houtbox ▸ ho, rfl⟩

/-- An update of columns that are no key. -/
theorem SyncStep.of_set (hdb : SyncInv db) (hf : ∀ x, (f x).identity = x.identity) {links : List ProviderLink}
    (hview : ∀ t' inc, AttemptMove (syncOf t' inc db) (syncOf t' inc { db.setDispatch t oid f with links })) :
    SyncStep db { db.setDispatch t oid f with links } where
  view := hview
  ids := by
    have hkeys : (updateWhere (isDispatch t oid) f db.outbox).map SyncOutbox.key = db.outbox.map SyncOutbox.key :=
      map_updateWhere (k := SyncOutbox.key) (fun x => congrArg (fun k => k.1) (hf x)) db.outbox
    exact hkeys ▸ hdb.ids
  owned := fun o ho => by
    obtain ⟨x, hx, rfl⟩ := mem_updateWhere.1 ho
    refine Or.inl ⟨x, hx, ?_⟩
    split_ifs
    · exact (congrArg (fun k => k.2.1) (hf x)).symm
    · rfl

theorem key_ne_of_clashes {row : SyncOutbox} (h : row.clashes o = false) : o.key ≠ row.key := by
  intro hkey
  obtain ⟨ht, hid⟩ := Prod.mk.inj hkey
  simp [SyncOutbox.clashes, ht, hid] at h

theorem attemptsOf_concat {row : SyncOutbox} {incidents : List Incident} :
    attemptsOf t inc { db with outbox := db.outbox ++ [row], incidents } =
      if row.owner = (t, inc) then attemptsOf t inc db ++ [row] else attemptsOf t inc db := by
  rw [attemptsOf, List.filter_append, List.filter_singleton]
  split_ifs with h
  · rw [isFor_iff.2 h]
    rfl
  · rw [Bool.eq_false_iff.2 fun hrow => h (isFor_iff.1 hrow)]
    exact List.append_nil _

variable {md5 : String → String}

theorem create_sync {now : ℕ} {c : IncidentContent} {la : String} {snapshot : AuthoritySnapshot} {r : IncidentReply}
    (hdb : SyncInv db) (h : g10_create_incident md5 now t c la snapshot db = .ok (r, db')) : SyncStep db db' := by
  obtain ⟨_, -, -, -, -, rfl⟩ | ⟨-, hfresh, hclash, -, rfl⟩ := g10_create_incident_ok h
  · exact .of_same hdb rfl rfl
  · refine ⟨fun t' inc => ?_, ?_, fun o ho => ?_⟩
    · by_cases howner : (firstDispatch md5 now t (incidentId md5 t la)).owner = (t', inc)
      · -- the incident is new, so it has no attempt yet
        have hnone : attemptsOf t' inc db = [] := by
          refine List.eq_nil_iff_forall_not_mem.2 fun o ho => ?_
          obtain ⟨ho, hoowner⟩ := mem_attemptsOf.1 ho
          obtain ⟨i, hi, hkey⟩ := hdb.owned o ho
          obtain ⟨hit, hiid⟩ := Prod.mk.inj (hkey.trans (hoowner.trans howner.symm))
          exact hfresh i hi ⟨hit, hiid⟩
        refine .opens (firstDispatch md5 now t (incidentId md5 t la)) hnone rfl rfl ?_ rfl
        rw [syncOf, attemptsOf_concat, if_pos howner, hnone]
        rfl
      · refine .keeps ?_
        rw [syncOf, attemptsOf_concat, if_neg howner]
        rfl
    · exact nodup_map_concat hdb.ids fun o ho => key_ne_of_clashes (hclash o ho)
    · rcases List.mem_append.1 ho with ho | ho
      · exact Or.inl ⟨o, ho, rfl⟩
      · obtain rfl := List.mem_singleton.1 ho
        exact Or.inr ⟨_, List.mem_append_right _ (List.mem_singleton_self _), rfl⟩

theorem claim_sync {now : ℕ} {executor : String} {seconds : ℤ} {r : SyncReply} (hdb : SyncInv db)
    (h : g10_claim_sync now t oid executor seconds db = .ok (r, db')) : SyncStep db db' := by
  obtain ⟨o, hfind, ⟨hstate, -, rfl⟩ | ⟨-, rfl⟩ | ⟨hstate, -, rfl⟩⟩ := g10_claim_sync_ok h
  · have hf : ∀ x, (SyncOutbox.putAside x).identity = x.identity := fun _ => rfl
    exact .of_set hdb hf (set_move hdb hfind (by rw [hstate]; rfl) hf nofun)
  · exact .of_same hdb rfl rfl
  · have hf : ∀ x, (SyncOutbox.claimBy executor (now + seconds.toNat) x).identity = x.identity := fun _ => rfl
    exact .of_set hdb hf (set_move hdb hfind (by rw [hstate]; rfl) hf nofun)

theorem reconcile_sync {r : Bool × SyncState} (hdb : SyncInv db) (h : g10_reconcile_sync t oid db = .ok (r, db')) :
    SyncStep db db' := by
  obtain ⟨o, hfind, ⟨-, rfl⟩ | ⟨hstate, rfl⟩⟩ := g10_reconcile_sync_ok h
  · exact .of_same hdb rfl rfl
  · have hf : ∀ x, (SyncOutbox.reconcile x).identity = x.identity := fun _ => rfl
    exact .of_set hdb hf (set_move hdb hfind (by rw [hstate]; rfl) hf nofun)

theorem complete_sync {now : ℕ} {executor : String} {result : SyncState} {ticket failure : Option String}
    {r : SyncReply} (hdb : SyncInv db)
    (h : g10_complete_sync md5 now t oid executor result ticket failure db = .ok (r, db')) : SyncStep db db' := by
  obtain ⟨-, o, hfind, ⟨-, -, rfl⟩ | ⟨hstate, -, links, rfl, ⟨hresult, rfl⟩ | ⟨rfl, hlink⟩⟩⟩ := g10_complete_sync_ok h
  · exact .of_same hdb rfl rfl
  · have hf : ∀ x, (SyncOutbox.completeAs result failure x).identity = x.identity := fun _ => rfl
    exact .of_set hdb hf (set_move hdb hfind (by rw [hstate]; rfl) hf hresult)
  · have hopen : o.sync_state.terminal = false := by rw [hstate]; rfl
    have hf : ∀ x, (SyncOutbox.completeAs .linked failure x).identity = x.identity := fun _ => rfl
    have hmove := set_attempts hdb hfind hopen hf
    refine .of_set hdb hf fun t' inc => ?_
    have ht : o.tenant_id = t := congrArg Prod.fst (isDispatch_iff.1 (find_dispatch hfind).2)
    -- no link of the incident yet, so `linkIncident` made one
    have hno : ∀ l ∈ db.links, l.isFor t o.incident_id = false := by
      rcases hmove t o.incident_id with ⟨hne, -⟩ | ⟨-, pre, hbefore, -⟩
      · exact absurd (Prod.ext ht rfl : o.owner = (t, o.incident_id)) hne
      · have hnone := (hdb.view t o.incident_id).no_link_of_open hbefore (SyncState.ne_linked_of_open hopen)
        exact fun l hl => Bool.eq_false_iff.2 (List.filter_eq_nil_iff.1 hnone l hl)
    obtain ⟨-, l, hl, hfor⟩ | ⟨-, row, hrow, rfl⟩ := linkIncident_ok hlink
    · rw [hno l hl] at hfor
      cases hfor
    · rcases hmove t' inc with ⟨hne, hsame⟩ | ⟨howner, pre, hbefore, hafter⟩
      · refine .keeps ?_
        have hother : row.isFor t' inc = false := by
          refine Bool.eq_false_iff.2 fun h => hne ?_
          obtain ⟨h₁, h₂⟩ := of_decide_eq_true h
          obtain ⟨h₃, h₄⟩ := of_decide_eq_true hrow
          exact Prod.ext (ht.trans (h₃.symm.trans h₁)) (h₄.symm.trans h₂)
        have hattempts : attemptsOf t' inc { db.setDispatch t oid (SyncOutbox.completeAs .linked failure) with
            links := db.links ++ [row] } = attemptsOf t' inc db := hsame
        rw [syncOf, hattempts, List.filter_append, List.filter_singleton, hother]
        simp [syncOf]
      · obtain ⟨rfl, rfl⟩ := Prod.mk.inj howner
        rw [← ht] at hno hrow
        have hnone : db.links.filter (ProviderLink.isFor o.tenant_id o.incident_id) = [] :=
          List.filter_eq_nil_iff.2 fun l hl => Bool.eq_false_iff.1 (hno l hl)
        refine .links pre o (SyncOutbox.completeAs .linked failure o) row hbefore hopen rfl rfl hafter hnone ?_
        rw [syncOf, List.filter_append, hnone, List.filter_singleton, hrow]
        rfl

theorem lastAttempt_none {rows : List SyncOutbox} (h : lastAttempt rows = none) : rows = [] := by
  cases rows with
  | nil => rfl
  | cons o os =>
    simp only [lastAttempt] at h
    split at h
    · cases h
    · split_ifs at h

/-- The attempt that `lastAttempt` finds has the highest number. -/
theorem lastAttempt_mem {rows : List SyncOutbox} (h : lastAttempt rows = some o) :
    o ∈ rows ∧ ∀ x ∈ rows, x.attempt_number ≤ o.attempt_number := by
  induction rows generalizing o with
  | nil => cases h
  | cons x xs ih =>
    cases hlast : lastAttempt xs with
    | none =>
      obtain rfl := lastAttempt_none hlast
      obtain rfl : x = o := by simpa [lastAttempt] using h
      simp
    | some y =>
      obtain ⟨hy, hmax⟩ := ih hlast
      simp only [lastAttempt, hlast] at h
      split_ifs at h with hlt
      · obtain rfl := Option.some.inj h
        refine ⟨List.mem_cons_of_mem _ hy, fun z hz => ?_⟩
        rcases List.mem_cons.1 hz with rfl | hz
        · exact Nat.le_of_lt hlt
        · exact hmax z hz
      · obtain rfl := Option.some.inj h
        refine ⟨List.mem_cons_self, fun z hz => ?_⟩
        rcases List.mem_cons.1 hz with rfl | hz
        · exact Nat.le_refl _
        · exact Nat.le_trans (hmax z hz) (Nat.le_of_not_lt hlt)

/-- The attempt with the highest number is the one that was made last. -/
theorem AttemptsInv.lastAttempt (h : AttemptsInv v) (hlast : lastAttempt v.attempts = some o) :
    ∃ pre, v.attempts = pre ++ [o] := by
  obtain ⟨ho, hmax⟩ := lastAttempt_mem hlast
  have hne : v.attempts ≠ [] := List.ne_nil_of_mem ho
  have hsplit := List.dropLast_append_getLast hne
  have hnumber := h.last_number hsplit.symm
  have hnodup : (v.attempts.map SyncOutbox.attempt_number).Nodup := h.numbers ▸ List.nodup_range'
  have hle : o.attempt_number ≤ v.attempts.length := by
    have hmem : o.attempt_number ∈ List.range' 1 v.attempts.length := h.numbers ▸ List.mem_map_of_mem ho
    have := List.mem_range'_1.1 hmem
    omega
  have hge := hmax _ (List.getLast_mem hne)
  rw [List.length_dropLast] at hnumber
  have hpos : 0 < v.attempts.length := List.length_pos_of_ne_nil hne
  have hsame : o = v.attempts.getLast hne := eq_of_key hnodup ho (List.getLast_mem hne) (by omega)
  exact ⟨v.attempts.dropLast, hsame ▸ hsplit.symm⟩

theorem retry_sync {now : ℕ} {r : RetryReply} (hdb : SyncInv db)
    (h : g10_schedule_sync_retry md5 now t inc db = .ok (r, db')) : SyncStep db db' := by
  obtain rfl | ⟨last, hlast, -, hstate, hbudget, hclash, rfl⟩ := g10_schedule_sync_retry_ok h
  · exact .of_same hdb rfl rfl
  · obtain ⟨pre, hbefore⟩ := (hdb.view t inc).lastAttempt hlast
    have hmem : last ∈ attemptsOf t inc db := (lastAttempt_mem hlast).1
    obtain ⟨hmem, howner⟩ := mem_attemptsOf.1 hmem
    refine ⟨fun t' inc' => ?_, ?_, fun o ho => ?_⟩
    · by_cases hsame : (nextDispatch md5 now t inc last).owner = (t', inc')
      · obtain ⟨rfl, rfl⟩ := Prod.mk.inj hsame
        refine .retries pre last (nextDispatch md5 now t inc last) hbefore hstate hbudget rfl rfl ?_ rfl
        rw [syncOf, attemptsOf_concat, if_pos hsame]
        rfl
      · refine .keeps ?_
        rw [syncOf, attemptsOf_concat, if_neg hsame]
        rfl
    · exact nodup_map_concat hdb.ids fun o ho => key_ne_of_clashes (hclash o ho)
    · rcases List.mem_append.1 ho with ho | ho
      · exact Or.inl ⟨o, ho, rfl⟩
      · obtain rfl := List.mem_singleton.1 ho
        exact Or.inl ⟨last, hmem, howner⟩

theorem after_sync {α : Type} (hdb : SyncInv db) {x : Except G10Error (α × ItsmDb)}
    (h : ∀ r db', x = .ok (r, db') → SyncStep db db') : SyncStep db (db.after x) := by
  cases x with
  | error e => exact .of_same hdb rfl rfl
  | ok p => exact h p.1 p.2 rfl

/-- Every call is a move of every incident. -/
theorem step_view (md5 : String → String) (hdb : SyncInv db) (a : ItsmAction) : SyncStep db (db.step md5 a) := by
  cases a with
  | create => exact after_sync hdb fun _ _ h => create_sync hdb h
  | transition =>
    refine after_sync hdb fun _ db' h => ?_
    obtain ⟨_, -, -, -, -, rfl⟩ | ⟨_, -, _, -, -, -, -, -, -, -, -, rfl⟩ := g10_transition_incident_ok h <;>
      exact .of_same hdb rfl rfl
  | assign =>
    refine after_sync hdb fun _ db' h => ?_
    obtain ⟨_, -, -, -, -, rfl⟩ | ⟨_, -, -, -, -, -, -, -, -, rfl⟩ := g10_assign_incident_ok h <;>
      exact .of_same hdb rfl rfl
  | claim => exact after_sync hdb fun _ _ h => claim_sync hdb h
  | complete => exact after_sync hdb fun _ _ h => complete_sync hdb h
  | retry => exact after_sync hdb fun _ _ h => retry_sync hdb h
  | reconcile => exact after_sync hdb fun _ _ h => reconcile_sync hdb h
  | alerts => exact .of_same hdb rfl rfl

theorem step_sync_inv (md5 : String → String) (hdb : SyncInv db) (a : ItsmAction) : SyncInv (db.step md5 a) := by
  have hmove := step_lifecycle md5 db a
  have hstep := step_view md5 hdb a
  refine ⟨hmove.keeps_inv hdb.lifecycle, hstep.ids, fun o ho => ?_, fun t inc => (hstep.view t inc).keeps_inv (hdb.view t inc)⟩
  rcases hstep.owned o ho with ⟨x, hx, howner⟩ | h
  · obtain ⟨i, hi, hkey⟩ := hdb.owned x hx
    obtain ⟨i', hi', hkey'⟩ := (hmove.grows hdb.lifecycle).incidents i hi
    exact ⟨i', hi', hkey'.trans (hkey.trans howner)⟩
  · exact h

theorem empty_sync : SyncInv .empty where
  lifecycle := empty_lifecycle
  ids := List.nodup_nil
  owned := fun _ h => absurd h List.not_mem_nil
  view := fun _ _ =>
    { numbers := rfl
      budget := Nat.zero_le 3
      settled := fun _ h => absurd h List.not_mem_nil
      linked := ⟨fun h => absurd rfl h, fun ⟨_, h, _⟩ => absurd h List.not_mem_nil⟩
      single := Nat.zero_le 1 }

/-- What is done stays, over a run. -/
theorem foldl_permanent (md5 : String → String) (hdb : SyncInv db) (run : List ItsmAction) :
    SyncInv (run.foldl (ItsmDb.step md5) db) ∧
      (∀ o ∈ db.outbox, o.sync_state.terminal = true → o ∈ (run.foldl (ItsmDb.step md5) db).outbox) ∧
      ∀ l ∈ db.links, l ∈ (run.foldl (ItsmDb.step md5) db).links := by
  induction run generalizing db with
  | nil => exact ⟨hdb, fun _ h _ => h, fun _ h => h⟩
  | cons a run ih =>
    have hstep := step_view md5 hdb a
    obtain ⟨hinv, hrows, hlinks⟩ := ih (step_sync_inv md5 hdb a)
    refine ⟨hinv, fun o ho hdone => hrows o ?_ hdone, fun l hl => hlinks l ?_⟩
    · have hview : o ∈ (syncOf o.tenant_id o.incident_id db).attempts := mem_attemptsOf.2 ⟨ho, rfl⟩
      exact (mem_attemptsOf.1 ((hstep.view _ _).permanent.1 o hview hdone)).1
    · have hview : l ∈ (syncOf l.tenant_id l.incident_id db).links :=
        List.mem_filter.2 ⟨hl, decide_eq_true ⟨rfl, rfl⟩⟩
      exact List.mem_of_mem_filter ((hstep.view _ _).permanent.2 l hview)

theorem exec_sync (md5 : String → String) (run : List ItsmAction) : SyncInv (ItsmDb.exec md5 run) :=
  (foldl_permanent md5 empty_sync run).1

/-- What holds of the outbox after a run. -/
structure SyncOutboxLaw (md5 : String → String) (run : List ItsmAction) : Prop where
  /-- An attempt that is not done is the only one, and the last of its incident. -/
  open_is_last : ∀ t inc, ∀ o ∈ attemptsOf t inc (ItsmDb.exec md5 run), o.sync_state.terminal = false →
    ∃ pre, attemptsOf t inc (ItsmDb.exec md5 run) = pre ++ [o] ∧
      ∀ x ∈ pre, x.sync_state.terminal = true ∧ x.attempt_number < o.attempt_number
  /-- The attempts are numbered from 1 without a gap, and there are three at most. -/
  numbers : ∀ t inc, ∃ n ≤ 3, (attemptsOf t inc (ItsmDb.exec md5 run)).map SyncOutbox.attempt_number = List.range' 1 n
  /-- There is a link exactly if an attempt ended as linked. -/
  linked : ∀ t inc, (∃ l ∈ (ItsmDb.exec md5 run).links, l.isFor t inc = true) ↔
    ∃ o ∈ attemptsOf t inc (ItsmDb.exec md5 run), o.sync_state = .linked
  single : ∀ t inc, ((ItsmDb.exec md5 run).links.filter (ProviderLink.isFor t inc)).length ≤ 1
  /-- A link never changes. -/
  link_permanent : ∀ pre post, run = pre ++ post → ∀ l ∈ (ItsmDb.exec md5 pre).links, l ∈ (ItsmDb.exec md5 run).links
  /-- An attempt that is done is never modified. -/
  done_permanent : ∀ pre post, run = pre ++ post → ∀ o ∈ (ItsmDb.exec md5 pre).outbox, o.sync_state.terminal = true →
    o ∈ (ItsmDb.exec md5 run).outbox

/-- **The outbox invariant.** It holds after every run of the functions. -/
theorem sync_outbox_invariant (md5 : String → String) (run : List ItsmAction) : SyncOutboxLaw md5 run where
  open_is_last := fun t inc o ho hopen => by
    have hview := (exec_sync md5 run).view t inc
    obtain ⟨pre, hpre⟩ := hview.last_of_open ho hopen
    refine ⟨pre, hpre, fun x hx => ⟨?_, ?_⟩⟩
    · rcases hview.settled x (by rw [hpre, List.dropLast_concat]; exact hx) with h | h <;> rw [h] <;> rfl
    · have hnumber := hview.last_number hpre
      have hnumbers := hview.numbers
      rw [hpre, List.map_append, List.length_append, List.length_singleton, List.range'_concat] at hnumbers
      have hmem : x.attempt_number ∈ List.range' 1 pre.length := by
        rw [← List.append_inj_left' hnumbers rfl]
        exact List.mem_map_of_mem hx
      have := List.mem_range'_1.1 hmem
      omega
  numbers := fun t inc => ⟨_, ((exec_sync md5 run).view t inc).budget, ((exec_sync md5 run).view t inc).numbers⟩
  linked := fun t inc => by
    refine Iff.trans ?_ ((exec_sync md5 run).view t inc).linked
    constructor
    · rintro ⟨l, hl, hfor⟩
      exact List.ne_nil_of_mem (List.mem_filter.2 ⟨hl, hfor⟩)
    · intro hne
      obtain ⟨l, hl⟩ := List.exists_mem_of_ne_nil _ hne
      exact ⟨l, List.mem_filter.1 hl⟩
  single := fun t inc => ((exec_sync md5 run).view t inc).single
  link_permanent := by
    rintro pre post rfl
    rw [exec_append]
    exact (foldl_permanent md5 (exec_sync md5 pre) post).2.2
  done_permanent := by
    rintro pre post rfl
    rw [exec_append]
    exact (foldl_permanent md5 (exec_sync md5 pre) post).2.1

end JLMirror.Itsm
