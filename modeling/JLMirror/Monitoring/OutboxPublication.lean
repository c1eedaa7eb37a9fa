import JLMirror.Monitoring.OutboxDispatch

/-!
# Publication of the outbox

What becomes of a published row over the interleavings of any number of dispatcher passes. The
record phase updates a row by its key alone: it does not ask whether the row is still claimed, or by
whom.

## What is proved

* Each action updates the rows that it selects, by their keys (`rows_step`), and a row of the table
  after a step is one of these, one that was there, or one appended (`mem_step`).
* A row that a pass holds, and that nobody has claimed since, is claimed (`Owned.step`).
* **Key result** (`published_terminal`): in a run in which no outcome is recorded for a row that
  another worker has claimed since, a published row stays as it is, and a late worker writes over
  nothing. In `lateRun` a late failure takes a published row back to pending.
-/

namespace JLMirror.Monitoring.OutboxDispatcher

open JLMirror.Foundations

/-! ### What a step does to the rows -/

section Fetch

variable {now : Timestamp} {locked : List (String × ℕ)} {rows : List OutboxRow} {r : OutboxRow}

theorem mem_fetch (h : r ∈ fetch now locked rows) : r ∈ rows ∧ r.due now = true := by
  have hmem := List.mem_filter.1 ((List.mem_insertionSort _).1 (List.mem_of_mem_take h))
  simp only [decide_eq_true_eq] at hmem
  exact ⟨hmem.1, hmem.2.1⟩

theorem fetch_nodup (h : (rows.map OutboxRow.key).Nodup) : ((fetch now locked rows).map OutboxRow.key).Nodup := by
  have hfilter : ((rows.filter fun r => r.due now ∧ r.key ∉ locked).map OutboxRow.key).Nodup :=
    h.sublist ((List.filter_sublist).map _)
  have hsorted := ((List.perm_insertionSort (fun a b : OutboxRow => a.record_id ≤ b.record_id) _).map
    OutboxRow.key).nodup_iff.2 hfilter
  exact hsorted.sublist ((List.take_sublist _ _).map _)

end Fetch

@[simp] theorem claimedRow_key (now : Timestamp) (r : OutboxRow) : (claimedRow now r).key = r.key := rfl

@[simp] theorem redrivenRow_key (e : String) (r : OutboxRow) : (redrivenRow e r).key = r.key := rfl

@[simp] theorem recordedRow_key (now : Timestamp) (fetched : OutboxRow) (receipt_id : Option String)
    (r : OutboxRow) : (recordedRow now fetched receipt_id r).key = r.key := by
  cases receipt_id with
  | some id => rfl
  | none =>
    simp only [recordedRow]
    split_ifs <;> rfl

@[simp] theorem recordedRow_attempt_count (now : Timestamp) (fetched : OutboxRow) (receipt_id : Option String)
    (r : OutboxRow) : (recordedRow now fetched receipt_id r).attempt_count = r.attempt_count := by
  cases receipt_id with
  | some id => rfl
  | none =>
    simp only [recordedRow]
    split_ifs <;> rfl

/-- The updates of a claim are one update of the rows of the batch. -/
theorem claimRows_eq (now : Timestamp) {batch : List OutboxRow} (hnd : (batch.map OutboxRow.key).Nodup)
    (rows : List OutboxRow) :
    claimRows now batch rows = updateWhere (fun r => r.key ∈ batch.map OutboxRow.key) (claimedRow now) rows := by
  induction batch generalizing rows with
  | nil => simp [claimRows, updateWhere]
  | cons b batch ih =>
    obtain ⟨hnew, hnd⟩ := List.nodup_cons.1 hnd
    rw [claimRows, List.foldl_cons, ← claimRows, ih hnd, updateWhere, updateWhere, updateWhere, List.map_map]
    refine List.map_congr_left fun r _ => ?_
    by_cases hr : r.key = b.key
    · have hlater : (claimedRow now r).key ∉ batch.map OutboxRow.key := by rwa [claimedRow_key, hr]
      simp only [Function.comp_apply, hr, List.map_cons, List.mem_cons_self, decide_true, if_true]
      rw [if_neg (by simpa using hlater)]
    · simp [hr]

namespace System

variable {s : System} {w : ℕ} {a : Action}

/-- The outcome that a worker is about to record. -/
def nextResult (s : System) (w : ℕ) : Option (OutboxRow × Option String) :=
  match (s.workers w).todo, (s.workers w).results with
  | [], x :: _ => some x
  | _, _ => none

/-- The rows that an action updates. -/
def selects (s : System) : Action → OutboxRow → Bool
  | .claim w now locked, r => (s.workers w).batch = [] ∧ (fetch now locked s.rows).any fun x => x.key = r.key
  | .record w _ refused, r => refused = false ∧ ∃ x ∈ s.nextResult w, r.key = x.1.key
  | .redrive p_tenant_id p_record_id p_max_redrives, r => redriveSelects p_tenant_id p_record_id p_max_redrives r
  | .redriveAll, r => r.dispatch_state = .quarantined
  | _, _ => false

theorem selects_claim {now : Timestamp} {locked : List (String × ℕ)} {r : OutboxRow} :
    s.selects (.claim w now locked) r = true ↔
      (s.workers w).batch = [] ∧ r.key ∈ (fetch now locked s.rows).map OutboxRow.key := by
  simp [selects, List.mem_map]

variable {refused : Bool}

theorem selects_record {now : Timestamp} {r : OutboxRow} :
    s.selects (.record w now refused) r = true ↔ refused = false ∧ ∃ x ∈ s.nextResult w, r.key = x.1.key :=
  decide_eq_true_iff

/-- What it makes of them. -/
def effect (s : System) : Action → OutboxRow → OutboxRow
  | .claim _ now _, r => claimedRow now r
  | .record w now _, r => match s.nextResult w with
    | some x => recordedRow now x.1 x.2 r
    | none => r
  | .redrive .., r => redrivenRow "operator_redrive" r
  | .redriveAll, r => redrivenRow "operator_bulk_redrive" r
  | _, r => r

variable {x : OutboxRow × Option String}

theorem effect_record (h : s.nextResult w = some x) (now : Timestamp) (refused : Bool) (r : OutboxRow) :
    s.effect (.record w now refused) r = recordedRow now x.1 x.2 r := by
  simp only [effect, h]

/-- The row that it appends. -/
def appended (s : System) : Action → List OutboxRow
  | .append row =>
    if s.rows.any fun r =>
        r.tenant_id = row.tenant_id ∧ r.producer_message_scope = row.producer_message_scope ∧
          r.message_id = row.message_id then []
    else [appendedRow row s.nextRecordId]
  | _ => []

@[simp] theorem effect_key (a : Action) (r : OutboxRow) : (s.effect a r).key = r.key := by
  cases a with
  | record w now refused =>
    simp only [effect]
    split
    · exact recordedRow_key ..
    · rfl
  | _ => rfl

/-- The table after a step: the selected rows updated, and what is appended. -/
theorem rows_step (hkeys : (s.rows.map OutboxRow.key).Nodup) (a : Action) :
    (s.step a).rows = updateWhere (s.selects a) (s.effect a) s.rows ++ s.appended a := by
  cases a with
  | append row =>
    rw [show updateWhere (s.selects (.append row)) _ s.rows = s.rows from updateWhere_of_none fun _ _ => rfl]
    simp only [step, appended]
    split_ifs
    · exact (List.append_nil _).symm
    · rfl
  | claim w now locked =>
    simp only [step, appended, List.append_nil]
    split_ifs with hidle
    · rw [claimRows_eq now (fetch_nodup hkeys)]
      exact List.map_congr_left fun r _ => by simp [selects, hidle, effect, List.mem_map]
    · exact (updateWhere_of_none fun _ _ => by simp [selects, hidle]).symm
  | send w answer =>
    rw [show updateWhere (s.selects (.send w answer)) _ s.rows = s.rows from updateWhere_of_none fun _ _ => rfl]
    simp only [step, appended, List.append_nil]
    split <;> rfl
  | record w now refused =>
    simp only [step, appended, List.append_nil]
    rcases htodo : (s.workers w).todo with _ | ⟨t, todo⟩
    · rcases hresults : (s.workers w).results with _ | ⟨x, results⟩
      · exact (updateWhere_of_none fun _ _ => by simp [selects, nextResult, htodo, hresults]).symm
      · cases refused with
        | true => exact (updateWhere_of_none fun _ _ => by simp [selects]).symm
        | false => exact List.map_congr_left fun r _ => by simp [selects, effect, nextResult, htodo, hresults]
    · exact (updateWhere_of_none fun _ _ => by simp [selects, nextResult, htodo]).symm
  | crash w =>
    rw [show updateWhere (s.selects (.crash w)) _ s.rows = s.rows from updateWhere_of_none fun _ _ => rfl]
    exact (List.append_nil _).symm
  | redrive p_tenant_id p_record_id p_max_redrives => exact (List.append_nil _).symm
  | redriveAll => exact (List.append_nil _).symm

theorem mem_step (hkeys : (s.rows.map OutboxRow.key).Nodup) {r' : OutboxRow} (h : r' ∈ (s.step a).rows) :
    r' ∈ s.appended a ∨ (∃ r ∈ s.rows, s.selects a r = true ∧ r' = s.effect a r) ∨
      r' ∈ s.rows ∧ s.selects a r' = false := by
  rw [rows_step hkeys, List.mem_append, mem_updateWhere] at h
  rcases h with ⟨r, hr, rfl⟩ | h
  · cases hsel : s.selects a r with
    | true => exact Or.inr (Or.inl ⟨r, hr, hsel, if_pos rfl⟩)
    | false => exact Or.inr (Or.inr (by simp [hr, hsel]))
  · exact Or.inl h

theorem mem_step_of_not_selects (hkeys : (s.rows.map OutboxRow.key).Nodup) {r : OutboxRow} (hr : r ∈ s.rows)
    (hsel : s.selects a r = false) : r ∈ (s.step a).rows := by
  rw [rows_step hkeys]
  exact List.mem_append_left _ (mem_updateWhere_of_not hr hsel)

/-! ### What a step does to the passes -/

/-- A worker without a pass fetches one, or a pass goes on with fewer rows. -/
theorem batch_step (a : Action) (v : ℕ) :
    (∃ now locked, a = .claim v now locked ∧ (s.workers v).batch = [] ∧
        (s.step a).workers v = ⟨fetch now locked s.rows, []⟩) ∨
      ((s.step a).workers v).batch.Sublist (s.workers v).batch ∧
        ((s.step a).workers v).todo.Sublist (s.workers v).todo := by
  cases a with
  | append row =>
    simp only [step]
    split_ifs <;> exact Or.inr ⟨.refl _, .refl _⟩
  | claim w now locked =>
    simp only [step]
    split_ifs with hidle
    · by_cases hv : v = w
      · subst hv
        exact Or.inl ⟨now, locked, rfl, hidle, Function.update_self ..⟩
      · exact Or.inr (by simp [Function.update_of_ne hv])
    · exact Or.inr ⟨.refl _, .refl _⟩
  | send w answer =>
    refine Or.inr ?_
    simp only [step]
    rcases htodo : (s.workers w).todo with _ | ⟨row, todo⟩
    · exact ⟨.refl _, .refl _⟩
    · by_cases hv : v = w
      · subst hv
        simp [Pass.batch, htodo]
      · simp [Function.update_of_ne hv]
  | record w now refused =>
    refine Or.inr ?_
    simp only [step]
    rcases htodo : (s.workers w).todo with _ | ⟨row, todo⟩
    · rcases hresults : (s.workers w).results with _ | ⟨x, results⟩
      · exact ⟨.refl _, .refl _⟩
      · by_cases hv : v = w
        · subst hv
          simp [Pass.batch, htodo, hresults]
        · simp [Function.update_of_ne hv]
    · exact ⟨.refl _, .refl _⟩
  | crash w =>
    refine Or.inr ?_
    by_cases hv : v = w
    · subst hv
      simp [step, Pass.batch, Pass.idle]
    · simp [step, Function.update_of_ne hv]
  | redrive p_tenant_id p_record_id p_max_redrives => exact Or.inr ⟨.refl _, .refl _⟩
  | redriveAll => exact Or.inr ⟨.refl _, .refl _⟩

/-- The outcome that a record phase writes is of the first row of its pass, and the row leaves it. -/
theorem record_batch (h : s.nextResult w = some x) (now : Timestamp) (refused : Bool) :
    (s.workers w).batch = x.1 :: ((s.step (.record w now refused)).workers w).batch := by
  unfold nextResult at h
  split at h
  · next x' results htodo hresults =>
    cases h
    simp [step, Pass.batch, htodo, hresults]
  · cases h

/-- Only a claim names a new holder, and of the rows it takes. -/
theorem holder_step (a : Action) (k : String × ℕ) :
    (∃ w now locked, a = .claim w now locked ∧ (s.workers w).batch = [] ∧
        k ∈ (fetch now locked s.rows).map OutboxRow.key ∧ (s.step a).holder k = some w) ∨
      (s.step a).holder k = s.holder k ∧ ∀ w now locked, a = .claim w now locked → (s.workers w).batch = [] →
        k ∉ (fetch now locked s.rows).map OutboxRow.key := by
  cases a with
  | claim w now locked =>
    by_cases hidle : (s.workers w).batch = []
    · by_cases hk : k ∈ (fetch now locked s.rows).map OutboxRow.key
      · exact Or.inl ⟨w, now, locked, rfl, hidle, hk, by rw [step, if_pos hidle]; exact if_pos hk⟩
      · refine Or.inr ⟨by rw [step, if_pos hidle]; exact if_neg hk, ?_⟩
        rintro w' now' locked' heq -
        cases heq
        exact hk
    · refine Or.inr ⟨by rw [step, if_neg hidle], ?_⟩
      rintro w' now' locked' heq hidle'
      cases heq
      exact absurd hidle' hidle
  | append row =>
    refine Or.inr ⟨?_, fun _ _ _ h => nomatch h⟩
    simp only [step]
    split_ifs <;> rfl
  | send w answer =>
    refine Or.inr ⟨?_, fun _ _ _ h => nomatch h⟩
    simp only [step]
    split <;> rfl
  | record w now refused =>
    refine Or.inr ⟨?_, fun _ _ _ h => nomatch h⟩
    simp only [step]
    split <;> rfl
  | crash w => exact Or.inr ⟨rfl, fun _ _ _ h => nomatch h⟩
  | redrive p_tenant_id p_record_id p_max_redrives => exact Or.inr ⟨rfl, fun _ _ _ h => nomatch h⟩
  | redriveAll => exact Or.inr ⟨rfl, fun _ _ _ h => nomatch h⟩

/-! ### What holds in every run -/

/-- Keys are unique and drawn before, and a pass holds a row once. -/
structure Sound (s : System) : Prop where
  keys : (s.rows.map OutboxRow.key).Nodup
  fresh : ∀ r ∈ s.rows, r.record_id < s.nextRecordId
  batch : ∀ w, ((s.workers w).batch.map OutboxRow.key).Nodup
  batch_fresh : ∀ w, ∀ x ∈ (s.workers w).batch, x.record_id < s.nextRecordId

theorem Sound.empty : Sound .empty :=
  ⟨List.nodup_nil, fun _ h => (List.not_mem_nil h).elim, fun _ => List.nodup_nil, fun _ _ h => (List.not_mem_nil h).elim⟩

theorem appended_key {r : OutboxRow} (h : r ∈ s.appended a) :
    r.record_id = s.nextRecordId ∧ s.nextRecordId < (s.step a).nextRecordId ∧ s.appended a = [r] := by
  cases a with
  | append row =>
    simp only [appended] at h ⊢
    simp only [step]
    split_ifs at h ⊢ with hdup
    · cases h
    · obtain rfl := List.mem_singleton.1 h
      exact ⟨rfl, Nat.lt_succ_self _, rfl⟩
  | _ => cases h

theorem nextRecordId_step (a : Action) : s.nextRecordId ≤ (s.step a).nextRecordId := by
  cases a with
  | append row =>
    simp only [step]
    split_ifs <;> simp
  | claim w now locked =>
    simp only [step]
    split_ifs <;> simp
  | send w answer =>
    simp only [step]
    split <;> simp
  | record w now refused =>
    simp only [step]
    split <;> simp
  | _ => exact le_rfl

theorem Sound.batch_not_appended (h : Sound s) {v : ℕ} {x r : OutboxRow} (hx : x ∈ (s.workers v).batch)
    (hr : r ∈ s.appended a) : r.key ≠ x.key := by
  intro hkey
  have hid : r.record_id = x.record_id := congrArg Prod.snd hkey
  have hlt := h.batch_fresh v x hx
  have heq := (appended_key hr).1
  omega

theorem effect_record_id (a : Action) (r : OutboxRow) : (s.effect a r).record_id = r.record_id :=
  congrArg Prod.snd (effect_key a r)

theorem Sound.step (h : Sound s) (a : Action) : Sound (s.step a) := by
  have hmono := nextRecordId_step (s := s) a
  have hfetch : ∀ now locked, ∀ x ∈ fetch now locked s.rows, x.record_id < (s.step a).nextRecordId :=
    fun now locked x hx => (h.fresh x (mem_fetch hx).1).trans_le hmono
  refine ⟨?_, ?_, ?_, ?_⟩
  · rw [rows_step h.keys, List.map_append, map_updateWhere (effect_key a)]
    rcases happ : s.appended a with _ | ⟨r, l⟩
    · simpa using h.keys
    · obtain ⟨hid, -, hone⟩ := appended_key (r := r) (happ ▸ List.mem_cons_self)
      rw [happ] at hone
      rw [hone]
      refine h.keys.append (List.nodup_singleton _) (List.disjoint_singleton.2 fun hmem => ?_)
      obtain ⟨r₀, hr₀, hkey⟩ := List.mem_map.1 hmem
      have hlt := h.fresh r₀ hr₀
      have heq : r₀.record_id = r.record_id := congrArg Prod.snd hkey
      omega
  · intro r hr
    rcases mem_step h.keys hr with happ | ⟨r₀, hr₀, -, rfl⟩ | ⟨hr, -⟩
    · obtain ⟨hid, hlt, -⟩ := appended_key happ
      omega
    · exact effect_record_id a r₀ ▸ (h.fresh r₀ hr₀).trans_le hmono
    · exact (h.fresh r hr).trans_le hmono
  · intro v
    rcases batch_step (s := s) a v with ⟨now, locked, -, -, hpass⟩ | ⟨hsub, -⟩
    · rw [hpass]
      exact fetch_nodup h.keys
    · exact (h.batch v).sublist (hsub.map _)
  · intro v x hx
    rcases batch_step (s := s) a v with ⟨now, locked, -, -, hpass⟩ | ⟨hsub, -⟩
    · rw [hpass] at hx
      exact hfetch now locked x hx
    · exact (h.batch_fresh v x (hsub.subset hx)).trans_le hmono

/-! ### Published is terminal -/

/-- No other worker has claimed the row since, whose outcome is recorded. -/
def Untaken (s : System) : Action → Prop
  | .record w _ refused => refused = false → ∀ x ∈ s.nextResult w, s.holder x.1.key = some w
  | _ => True

/-- A row that a pass holds, and that nobody has claimed since, is claimed. -/
def Owned (s : System) : Prop :=
  ∀ w, ∀ x ∈ (s.workers w).batch, s.holder x.key = some w → ∀ r ∈ s.rows, r.key = x.key → r.dispatch_state = .claimed

theorem mem_batch_of_nextResult (h : s.nextResult w = some x) : x.1 ∈ (s.workers w).batch := by
  rw [record_batch h 0 false]
  exact List.mem_cons_self

/-- The row that a record phase writes is in no pass whose worker claimed it last. -/
theorem Sound.not_recorded (h : Sound s) {now : Timestamp} (hok : s.Untaken (.record w now refused)) {v : ℕ}
    {x r : OutboxRow} (hx : x ∈ ((s.step (.record w now refused)).workers v).batch) (hv : s.holder x.key = some v)
    (hkey : r.key = x.key) : s.selects (.record w now refused) r = false := by
  rw [← Bool.not_eq_true, selects_record]
  rintro ⟨hrefused, y, hy, hry⟩
  have hw := hok hrefused y hy
  rw [← hry, hkey, hv] at hw
  obtain rfl := Option.some.inj hw
  have hnd := h.batch v
  rw [record_batch hy now refused, List.map_cons, List.nodup_cons] at hnd
  exact hnd.1 (List.mem_map.2 ⟨x, hx, hkey.symm.trans hry⟩)

theorem Owned.step (hs : Sound s) (h : Owned s) (hok : s.Untaken a) : Owned (s.step a) := by
  intro v x hx hholder r' hr' hkey
  rcases batch_step (s := s) a v with ⟨now, locked, rfl, hidle, hpass⟩ | ⟨hsub, -⟩
  · -- the rows of a new pass have just been claimed
    rw [hpass] at hx
    rcases mem_step hs.keys hr' with happ | ⟨r, -, -, rfl⟩ | ⟨-, hsel⟩
    · cases happ
    · rfl
    · have hmem : r'.key ∈ (fetch now locked s.rows).map OutboxRow.key := hkey ▸ List.mem_map_of_mem hx
      rw [selects_claim.2 ⟨hidle, hmem⟩] at hsel
      cases hsel
  · have hx₀ := hsub.subset hx
    rcases holder_step (s := s) a x.key with ⟨w, now, locked, rfl, hidle, -, hnew⟩ | ⟨hsame, hclaim⟩
    · -- the new holder had no pass, so it is another worker
      obtain rfl := Option.some.inj (hnew.symm.trans hholder)
      rw [hidle] at hx₀
      cases hx₀
    · rw [hsame] at hholder
      rcases mem_step hs.keys hr' with happ | ⟨r, hr, hsel, rfl⟩ | ⟨hr, -⟩
      · exact absurd hkey (hs.batch_not_appended hx₀ happ)
      · rw [effect_key] at hkey
        have hclaimed := h v x hx₀ hholder r hr hkey
        cases a with
        | claim w now locked =>
          obtain ⟨hidle, hmem⟩ := selects_claim.1 hsel
          exact absurd (hkey ▸ hmem) (hclaim w now locked rfl hidle)
        | record w now refused =>
          rw [hs.not_recorded hok hx hholder hkey] at hsel
          cases hsel
        | redrive p_tenant_id p_record_id p_max_redrives =>
          simp [selects, redriveSelects, hclaimed] at hsel
        | redriveAll => simp [selects, hclaimed] at hsel
        | append row => cases hsel
        | send w answer => cases hsel
        | crash w => cases hsel
      · exact h v x hx₀ hholder r' hr hkey

theorem Owned.recorded_claimed (h : Owned s) {now : Timestamp} (hok : s.Untaken (.record w now refused))
    {r : OutboxRow} (hr : r ∈ s.rows) (hstate : r.dispatch_state ≠ .claimed) :
    s.selects (.record w now refused) r = false := by
  rw [← Bool.not_eq_true, selects_record]
  rintro ⟨hrefused, x, hx, hkey⟩
  exact hstate (h w x.1 (mem_batch_of_nextResult hx) (hok hrefused x hx) r hr hkey)

/-- A published row is not written. -/
theorem Owned.published_not_selected (hs : Sound s) (h : Owned s) (hok : s.Untaken a) {r : OutboxRow}
    (hr : r ∈ s.rows) (hpub : r.dispatch_state = .published) : s.selects a r = false := by
  cases a with
  | claim w now locked =>
    rw [← Bool.not_eq_true, selects_claim]
    rintro ⟨-, hmem⟩
    obtain ⟨r₀, hr₀, hkey⟩ := List.mem_map.1 hmem
    obtain ⟨hr₀, hdue⟩ := mem_fetch hr₀
    obtain rfl := eq_of_key hs.keys hr₀ hr hkey
    simp [OutboxRow.due, hpub] at hdue
  | record w now refused => exact h.recorded_claimed hok hr (by rw [hpub]; decide)
  | redrive p_tenant_id p_record_id p_max_redrives => simp [selects, redriveSelects, hpub]
  | redriveAll => simp [selects, hpub]
  | _ => rfl

theorem owned_of_guarded {run : List Action} (hrun : Guarded System.step Untaken .empty run) :
    Sound (exec run) ∧ Owned (exec run) :=
  hrun.invariant (I := fun s => Sound s ∧ Owned s) (fun _ a hs hok => ⟨hs.1.step a, hs.2.step hs.1 hok⟩)
    ⟨.empty, fun _ _ h => (List.not_mem_nil h).elim⟩

end System

/-- What the outbox promises of a run: a published row stays published, and a worker does not write
over an outcome, if another worker has claimed the row since. -/
structure PublicationLaw (run : List Action) : Prop where
  published : ∀ pre post, run = pre ++ post → ∀ r ∈ (System.exec pre).rows, r.dispatch_state = .published →
    ∃ r' ∈ (System.exec run).rows, r'.key = r.key ∧ r'.dispatch_state = .published
  overtaken : ∀ pre w now refused post, run = pre ++ .record w now refused :: post →
    ∀ r ∈ (System.exec pre).rows, (System.exec pre).holder r.key ≠ some w → r.dispatch_state ≠ .claimed →
      r ∈ (System.exec (pre ++ [.record w now refused])).rows

theorem exec_append (run run' : List Action) : System.exec (run ++ run') = run'.foldl System.step (System.exec run) :=
  List.foldl_append

/-- **Key result**: where no outcome is recorded of a row that another worker has claimed since, a
published row is terminal and no outcome is written over. -/
theorem published_terminal (run : List Action) (hrun : Guarded System.step System.Untaken .empty run) :
    PublicationLaw run := by
  constructor
  · rintro pre post rfl r hr hpub
    obtain ⟨hpre, hpost⟩ := guarded_append.1 hrun
    have hkept := hpost.invariant (I := fun s => (System.Sound s ∧ System.Owned s) ∧ r ∈ s.rows)
      (fun s a hs hok => ⟨⟨hs.1.1.step a, hs.1.2.step hs.1.1 hok⟩,
        System.mem_step_of_not_selects hs.1.1.keys hs.2 (hs.1.2.published_not_selected hs.1.1 hok hs.2 hpub)⟩)
      ⟨System.owned_of_guarded hpre, hr⟩
    rw [exec_append]
    exact ⟨r, hkept.2, rfl, hpub⟩
  · rintro pre w now refused post rfl r hr hholder hstate
    obtain ⟨hpre, hok, -⟩ := guarded_append.1 hrun
    obtain ⟨hs, hown⟩ := System.owned_of_guarded hpre
    rw [exec_append]
    exact System.mem_step_of_not_selects hs.keys hr (hown.recorded_claimed hok hr hstate)

/-! A late failure, and a run without one -/

instance (s : System) (a : Action) : Decidable (s.Untaken a) :=
  match a with
  | .record w _ refused =>
    inferInstanceAs (Decidable (refused = false → ∀ x ∈ s.nextResult w, s.holder x.1.key = some w))
  | .append _ | .claim .. | .send .. | .crash _ | .redrive .. | .redriveAll => .isTrue trivial

/-- A message of the bridge. -/
def bridgeMessage : OutboxRow where
  tenant_id := "acme"
  record_id := 0
  message_id := "msg_0"
  producer_message_scope := "monitoring.alerting-bridge"
  message_class := "integration_event"
  contract_name := "monitoring.problem-state.changed"
  contract_version := "1"
  producer := "Monitoring"
  scope := "tenant"
  subject_type := some "monitoring_problem"
  subject_id := some "problem_0"
  occurred_at := some 0
  correlation_id := "corr_0"
  causation_id := none
  data_classification := "confidential_tenant"
  serialization_profile_id := "jsonb-text-utf8@1"
  encoded_payload := []
  dispatch_state := .pending
  claim_owner := none
  claim_expires_at := none
  attempt_count := 0
  last_error_class := none
  published_receipt_id := none
  published_at := none
  redrive_count := 0

/-- Worker 0 waits for the receiver longer than its lease; worker 1 takes the row over and publishes it. -/
def takenOver : List Action :=
  [.append bridgeMessage, .claim 0 0 [], .claim 1 (fromtimestamp 61) [], .send 1 (.status 200),
    .record 1 (fromtimestamp 62) false]

/-- Then the request of worker 0 times out, and it records the failure. -/
def lateRun : List Action := takenOver ++ [.send 0 .raised, .record 0 (fromtimestamp 63) false]

theorem lateRun_unpublishes : ¬PublicationLaw lateRun := by
  intro h
  have hpublished : ∃ r ∈ (System.exec takenOver).rows, r.dispatch_state = .published := by decide
  have hlost : ∀ r ∈ (System.exec lateRun).rows, r.dispatch_state = .pending := by decide
  obtain ⟨r, hr, hpub⟩ := hpublished
  obtain ⟨r', hr', -, hpub'⟩ := h.published takenOver _ rfl r hr hpub
  rw [hlost r' hr'] at hpub'
  cases hpub'

theorem takenOver_published :
    Guarded System.step System.Untaken .empty takenOver ∧ PublicationLaw takenOver :=
  ⟨by decide, published_terminal takenOver (by decide)⟩

end JLMirror.Monitoring.OutboxDispatcher
