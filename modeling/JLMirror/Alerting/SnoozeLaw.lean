import JLMirror.Alerting.Snooze
import JLMirror.Foundations.Run

/-!
# One active snooze

"Only one active snooze per alert": two calls on one alert may both have looked before either commits. Two snoozes then
leave two active rows, and the `UPDATE` of an unsnooze finds both and raises, until they expire. An unsnooze that waits for
another call finds nothing, though the alert was snoozed when it was called.

## The model

* `Overtakes c u` says when the commit of the call `c` spoils the `UPDATE` of `u`: both are snoozes, or `u` is an unsnooze
  that has found the alert snoozed.
* `Outdates c c'` says when the commit of a snooze spoils an unsnooze that has yet to look: the alert's old snooze ran out
  after the unsnooze's `now()` and before the snooze's. The unsnooze would then find both.

## What is proved

* `step_snoozeInv`: a step that meets the condition keeps the invariant.
* **Key result** (`one_active_snooze`): in every run in which no commit overtakes or outdates another call on the alert, an
  alert has one active snooze at most, at every moment; an unsnooze that was called while the alert was snoozed does not
  raise, comes to its commit unless it is held up, and leaves the alert without an active snooze.
-/

namespace JLMirror.Alerting

open JLMirror.Foundations

/-! ### The claim -/

/-- What is claimed of a state. -/
structure SnoozeLaw (s : SnoozeWorld) : Prop where
  one : ∀ t a, (s.sys.tx.db.filter (·.active t a s.clock)).length ≤ 1
  /-- An unsnooze that was called while the alert was snoozed does not raise. -/
  lifts : ∀ w u, s.sys.pc w = .update u → u.c.row = none → u.snoozed = true → s.sys.raised w = none
  /-- It comes to its commit, unless another session has its row. -/
  ends : ∀ w u, s.sys.pc w = .update u → u.c.row = none → u.snoozed = true →
    (∀ id ∈ u.targets, s.sys.tx.locked SnoozeWrite.row w id = false) →
      ∃ u', ((u.targets.map (SnoozeAct.row w) ++ [SnoozeAct.next w]).foldl SnoozeWorld.step s).sys.pc w = .commit u' ∧ u'.c = u.c
  /-- The alert is not snoozed then. -/
  lifted : ∀ w u, s.sys.pc w = .commit u → u.c.row = none →
    isSnoozed s.clock u.c.tenant_id u.c.alert_id (s.step (.next w)).sys.tx.db = false

/-! ### The condition -/

/-- The two calls are on one alert. -/
def SnoozeCall.SameAlert (c c' : SnoozeCall) : Prop := c'.tenant_id = c.tenant_id ∧ c'.alert_id = c.alert_id

/-- The commit of a call spoils an `UPDATE`. -/
def Overtakes (c : SnoozeCall) (u : Cancelling) : Prop :=
  c.SameAlert u.c ∧ if u.c.row.isSome then c.row.isSome = true else u.snoozed = true

/-- The commit of a call spoils an unsnooze that has yet to look. -/
def Outdates (c c' : SnoozeCall) (rows : List SnoozeRow) : Prop :=
  c.SameAlert c' ∧ c.row.isSome = true ∧ c'.row = none ∧ ∃ r ∈ rows, c'.selects r = true ∧ r.expires_at ≤ c.now

/-- A session that is at its commit. -/
def SnoozePoint.committing : SnoozePoint → Option SnoozeCall
  | .commit u => some u.c
  | _ => none

/-- The other sessions stand the commit of a call. -/
def SnoozePoint.Stands (c : SnoozeCall) (rows : List SnoozeRow) : SnoozePoint → Prop
  | .idle => True
  | .called c' => ¬Outdates c c' rows
  | .update u | .insert u _ | .commit u => ¬Overtakes c u

/-- The condition: no commit spoils another call. -/
def NotSpoiling (s : SnoozeWorld) : SnoozeAct → Prop
  | .next w => ∀ c ∈ (s.sys.pc w).committing, ∀ v, v ≠ w → (s.sys.pc v).Stands c s.sys.tx.db
  | _ => True

/-! ### The invariant -/

/-- What holds of an `UPDATE` under way. -/
structure Cancelling.Inv (rows : List SnoozeRow) (u : Cancelling) : Prop where
  /-- It knows the active rows. -/
  covers : (u.c.row.isSome = true ∨ u.snoozed = true) → ∀ r ∈ rows, u.c.selects r = true →
    r.snooze_id ∈ u.targets ∨ r.snooze_id ∈ u.found
  /-- An unsnooze has one row, if there was one. -/
  few : u.c.row = none → u.targets.length + u.found.length = if u.snoozed then 1 else 0
  /-- It is still active. -/
  held : u.c.row = none → u.snoozed = true → ∀ id ∈ u.targets, ∃ r ∈ rows, r.snooze_id = id ∧ u.c.selects r = true

/-- What holds of a session. -/
def SnoozePoint.Holds (clock : ℕ) (rows : List SnoozeRow) (ws : List SnoozeWrite) : SnoozePoint → Prop
  | .idle => ws = []
  | .called c => ws = [] ∧ c.now ≤ clock ∧ (c.row = none → (rows.filter c.selects).length ≤ 1)
  | .update u => ws = u.cancels ∧ u.c.now ≤ clock ∧ u.Inv rows
  | .insert u row => ws = u.cancels ∧ u.c.now ≤ clock ∧ u.Inv rows ∧ u.targets = [] ∧ u.c.row = some row
  | .commit u => ws = u.cancels ++ u.c.row.toList.map .insert ∧ u.c.now ≤ clock ∧ u.Inv rows ∧ u.targets = [] ∧
      (u.c.row = none → u.snoozed = true)

/-- The alerts have one active snooze at most. -/
def OneActive (clock : ℕ) (rows : List SnoozeRow) : Prop := ∀ t a, (rows.filter (·.active t a clock)).length ≤ 1

/-- The invariant. -/
def SnoozeInv (s : SnoozeWorld) : Prop := Sessions.Inv (OneActive s.clock) (SnoozePoint.Holds s.clock) s.sys

section Steps

variable {s : SnoozeWorld} {w : ℕ} {rows rows' : List SnoozeRow} {ws : List SnoozeWrite} {p : SnoozePoint} {u : Cancelling}
  {c : SnoozeCall} {clock : ℕ}

/-! ### What a commit changes -/

variable {t a : String} {now : ℕ} {r : SnoozeRow}

theorem active_iff : r.active t a now = true ↔
    r.alert_id = a ∧ r.tenant_id = t ∧ r.cancelled_at = none ∧ now < r.expires_at := by
  simp [SnoozeRow.active]

theorem active_mono {now' : ℕ} (h : now ≤ now') (hr : r.active t a now' = true) : r.active t a now = true := by
  obtain ⟨ha, ht, hnone, hexpires⟩ := active_iff.1 hr
  exact active_iff.2 ⟨ha, ht, hnone, Nat.lt_of_le_of_lt h hexpires⟩

theorem not_selects {c' : SnoozeCall} (hne : ¬c.SameAlert c') (hr : c'.selects r = true) : c.selects r = false := by
  by_contra hsel
  obtain ⟨ha, ht, -⟩ := active_iff.1 hr
  obtain ⟨ha', ht', -⟩ := active_iff.1 (eq_true_of_ne_false hsel)
  exact hne ⟨ht.symm.trans ht', ha.symm.trans ha'⟩

/-- The rows after the commit of an `UPDATE` that has taken all of its rows. -/
def Cancelling.committed (u : Cancelling) (rows : List SnoozeRow) : List SnoozeRow :=
  updateWhere (fun r => r.snooze_id ∈ u.found ∧ u.c.selects r) (·.cancelled u.c.now) rows ++ u.c.row.toList

theorem committed_eq (u : Cancelling) (rows : List SnoozeRow) :
    (u.cancels ++ u.c.row.toList.map SnoozeWrite.insert).foldl (fun rows x => x.apply rows) rows = u.committed rows := by
  rw [List.foldl_append, cancels_eq, Cancelling.committed]
  cases u.c.row with
  | none => exact (List.append_nil _).symm
  | some row => rfl

/-- What is active after a commit was active before, or is the row that was inserted. -/
theorem active_of_committed (hr : r ∈ u.committed rows) (hactive : r.active t a now = true) :
    (r ∈ rows ∧ ¬(r.snooze_id ∈ u.found ∧ u.c.selects r = true)) ∨ r ∈ u.c.row := by
  rcases List.mem_append.1 hr with hr | hr
  · obtain ⟨q, hq, rfl⟩ := mem_updateWhere.1 hr
    by_cases hsel : decide (q.snooze_id ∈ u.found ∧ u.c.selects q = true) = true
    · rw [if_pos hsel, active_cancelled] at hactive
      exact absurd hactive Bool.false_ne_true
    · rw [if_neg hsel]
      exact Or.inl ⟨hq, fun h => hsel (decide_eq_true h)⟩
  · exact Or.inr (Option.mem_toList.1 hr)

theorem mem_committed (hr : r ∈ rows) (hsel : u.c.selects r = false) : r ∈ u.committed rows :=
  List.mem_append_left _ (mem_updateWhere_of_not hr (decide_eq_false fun h => absurd h.2 (by rw [hsel]; exact Bool.false_ne_true)))

theorem row_of (hr : r ∈ c.row) : r.tenant_id = c.tenant_id ∧ r.alert_id = c.alert_id := by
  unfold SnoozeCall.row at hr
  split at hr
  · obtain rfl := Option.some.inj hr
    exact ⟨rfl, rfl⟩
  · cases hr

/-- A commit leaves one active row at most, if a snooze has seen all that were. -/
theorem length_committed_le (hrows : (rows.filter (·.active t a now)).length ≤ 1)
    (hseen : u.c.row.isSome = true → t = u.c.tenant_id → a = u.c.alert_id → ∀ r ∈ rows, r.active t a now = true →
      u.c.selects r = true ∧ r.snooze_id ∈ u.found) : ((u.committed rows).filter (·.active t a now)).length ≤ 1 := by
  have hkept := length_filter_updateWhere_le (p := fun r => r.snooze_id ∈ u.found ∧ u.c.selects r)
    (q := (·.active t a now)) (f := (·.cancelled u.c.now)) (fun r hr => absurd hr (by simp)) rows
  rw [Cancelling.committed, List.filter_append, List.length_append]
  cases hrow : u.c.row with
  | none => exact hkept.trans hrows
  | some row =>
    have hof := row_of (c := u.c) hrow
    by_cases hme : row.active t a now = true
    · obtain ⟨ha, ht, -⟩ := active_iff.1 hme
      have hnone : (updateWhere (fun r => r.snooze_id ∈ u.found ∧ u.c.selects r) (·.cancelled u.c.now) rows).filter
          (·.active t a now) = [] := by
        rw [List.filter_eq_nil_iff]
        intro r hr hactive
        obtain ⟨q, hq, rfl⟩ := mem_updateWhere.1 hr
        by_cases hsel : decide (q.snooze_id ∈ u.found ∧ u.c.selects q = true) = true
        · rw [if_pos hsel, active_cancelled] at hactive
          exact absurd hactive Bool.false_ne_true
        · rw [if_neg hsel] at hactive
          have hq := hseen (by rw [hrow]; rfl) (ht.symm.trans hof.1) (ha.symm.trans hof.2) q hq hactive
          exact hsel (decide_eq_true hq.symm)
      rw [hnone]
      exact Nat.add_le_add (Nat.zero_le 0) (List.length_filter_le _ [row])
    · have hnil : ([row].filter (·.active t a now)).length = 0 := by
        rw [List.filter_cons_of_neg hme]
        rfl
      exact (Nat.add_le_add hkept hnil.le).trans hrows

/-- What another session goes by stays, if the commit does not overtake it. -/
theorem Cancelling.Inv.commit {u' : Cancelling} (h : u'.Inv rows) (hnot : ¬Overtakes u.c u') : u'.Inv (u.committed rows) := by
  refine ⟨fun hcounts r hr hsel => ?_, h.few, fun hnone hsnoozed id hid => ?_⟩
  · rcases active_of_committed hr hsel with ⟨hr, -⟩ | hr
    · exact h.covers hcounts r hr hsel
    · obtain ⟨ht, ha⟩ := row_of hr
      obtain ⟨ha', ht', -⟩ := active_iff.1 hsel
      refine absurd ⟨⟨ht'.symm.trans ht, ha'.symm.trans ha⟩, ?_⟩ hnot
      split_ifs with hsome
      · rw [Option.mem_def.1 hr]
        rfl
      · exact hcounts.resolve_left hsome
  · obtain ⟨r, hr, hid, hsel⟩ := h.held hnone hsnoozed id hid
    have hne : ¬u.c.SameAlert u'.c := fun hsame => hnot ⟨hsame, by simpa [hnone] using hsnoozed⟩
    exact ⟨r, mem_committed hr (not_selects hne hsel), hid, hsel⟩

/-- A session that stands a commit. -/
theorem SnoozePoint.Holds.commit (h : p.Holds clock rows ws) (hstands : p.Stands u.c rows) (hu : u.Inv rows)
    (htargets : u.targets = []) : p.Holds clock (u.committed rows) ws := by
  cases p with
  | idle => exact h
  | called c' =>
    obtain ⟨hws, hnow, hone⟩ := h
    refine ⟨hws, hnow, fun hnone => length_committed_le (hone hnone) fun hsome ht ha r hr hactive => ?_⟩
    have hsel : u.c.selects r = true := by
      obtain ⟨hra, hrt, hcancelled, -⟩ := active_iff.1 hactive
      refine active_iff.2 ⟨hra.trans ha, hrt.trans ht, hcancelled, ?_⟩
      by_contra hexpired
      exact hstands ⟨⟨ht, ha⟩, hsome, hnone, r, hr, hactive, Nat.not_lt.1 hexpired⟩
    have hcovered := hu.covers (Or.inl hsome) r hr hsel
    rw [htargets] at hcovered
    exact ⟨hsel, hcovered.resolve_left List.not_mem_nil⟩
  | update u' => exact ⟨h.1, h.2.1, h.2.2.commit hstands⟩
  | insert u' row => exact ⟨h.1, h.2.1, h.2.2.1.commit hstands, h.2.2.2⟩
  | commit u' => exact ⟨h.1, h.2.1, h.2.2.1.commit hstands, h.2.2.2⟩

theorem OneActive.commit (h : OneActive clock rows) (hu : u.Inv rows) (htargets : u.targets = []) (hnow : u.c.now ≤ clock) :
    OneActive clock (u.committed rows) := by
  intro t a
  refine length_committed_le (h t a) fun hsome ht ha r hr hactive => ?_
  subst ht ha
  have hsel : u.c.selects r = true := active_mono hnow hactive
  have hcovered := hu.covers (Or.inl hsome) r hr hsel
  rw [htargets] at hcovered
  exact ⟨hsel, hcovered.resolve_left List.not_mem_nil⟩

/-! ### What an `UPDATE` knows -/

/-- It starts with the active rows. -/
theorem Cancelling.Inv.start (hone : c.row = none → (rows.filter c.selects).length ≤ 1) :
    Cancelling.Inv rows ⟨c, isSnoozed c.now c.tenant_id c.alert_id rows, (rows.filter c.selects).map (·.snooze_id), []⟩ := by
  refine ⟨fun _ r hr hsel => Or.inl (List.mem_map_of_mem (List.mem_filter.2 ⟨hr, hsel⟩)), fun hnone => ?_,
    fun _ _ id hid => ?_⟩
  · have hone := hone hnone
    rw [List.length_map, List.length_nil, Nat.add_zero]
    rw [isSnoozed_eq]
    cases hsnoozed : rows.any (·.active c.tenant_id c.alert_id c.now) with
    | false =>
      have hnil : rows.filter c.selects = [] := List.filter_eq_nil_iff.2 fun r hr => List.any_eq_false.1 hsnoozed r hr
      rw [hnil]
      rfl
    | true =>
      obtain ⟨r, hr, hsel⟩ := List.any_eq_true.1 hsnoozed
      exact le_antisymm hone (List.length_pos_of_mem (List.mem_filter.2 ⟨hr, hsel⟩))
  · obtain ⟨r, hr, rfl⟩ := List.mem_map.1 hid
    obtain ⟨hr, hsel⟩ := List.mem_filter.1 hr
    exact ⟨r, hr, rfl, hsel⟩

variable {id : String}

/-- It updates a row. -/
theorem Cancelling.Inv.take (h : u.Inv rows) (hid : id ∈ u.targets) :
    Cancelling.Inv rows { u with targets := u.targets.erase id, found := u.found ++ [id] } := by
  refine ⟨fun hcounts r hr hsel => ?_, fun hnone => ?_, fun hnone hsnoozed id' hid' => ?_⟩
  · rcases h.covers hcounts r hr hsel with hr | hr
    · by_cases heq : r.snooze_id = id
      · exact Or.inr (List.mem_append_right _ (List.mem_singleton.2 heq))
      · exact Or.inl ((List.mem_erase_of_ne heq).2 hr)
    · exact Or.inr (List.mem_append_left _ hr)
  · rw [← h.few hnone, List.length_erase_of_mem hid, List.length_append, List.length_singleton]
    have hpos := List.length_pos_of_mem hid
    omega
  · exact h.held hnone hsnoozed id' (List.mem_of_mem_erase hid')

/-- It leaves out a row that is not active any more. -/
theorem Cancelling.Inv.drop (h : u.Inv rows) (hid : id ∈ u.targets)
    (hgone : ∀ r ∈ u.cancels.foldl (fun rows x => x.apply rows) rows, r.snooze_id = id → u.c.selects r = false) :
    Cancelling.Inv rows { u with targets := u.targets.erase id } := by
  have hfound : ∀ r ∈ rows, r.snooze_id = id → u.c.selects r = true → id ∈ u.found := by
    intro r hr hrid hsel
    by_contra hnot
    have hgone := hgone r (mem_cancels hr (Or.inl (hrid ▸ hnot))) hrid
    exact absurd hsel (by rw [hgone]; exact Bool.false_ne_true)
  refine ⟨fun hcounts r hr hsel => ?_, fun hnone => ?_, fun hnone hsnoozed id' hid' => ?_⟩
  · rcases h.covers hcounts r hr hsel with hmem | hmem
    · by_cases heq : r.snooze_id = id
      · exact Or.inr (heq ▸ hfound r hr heq hsel)
      · exact Or.inl ((List.mem_erase_of_ne heq).2 hmem)
    · exact Or.inr hmem
  · -- The only row of an unsnooze is still there.
    have hfew := h.few hnone
    have hpos := List.length_pos_of_mem hid
    split_ifs at hfew with hsnoozed
    · obtain ⟨r, hr, hrid, hsel⟩ := h.held hnone hsnoozed id hid
      have hlen := List.length_pos_of_mem (hfound r hr hrid hsel)
      omega
    · omega
  · exact h.held hnone hsnoozed id' (List.mem_of_mem_erase hid')

/-! ### The steps -/

theorem row_snoozeInv (h : SnoozeInv s) (w : ℕ) (id : String) : SnoozeInv (s.step (.row w id)) := by
  have hview : s.sys.view w = _ := Sessions.view_eq s.sys w
  have hw := h.sessions w
  change Sessions.Inv (OneActive s.clock) (SnoozePoint.Holds s.clock) (s.sys.row w id)
  unfold SnoozeSystem.row
  split
  · rename_i u hpc
    rw [hpc] at hw
    obtain ⟨hws, hnow, hu⟩ := hw
    by_cases hid : id ∈ u.targets
    · rw [if_neg (not_not.2 hid)]
      split_ifs with hany
      · refine Sessions.inv_write h ⟨?_, hnow, hu.take hid⟩
        rw [hws, Cancelling.cancels, Cancelling.cancels, List.map_append]
        rfl
      · refine Sessions.inv_goto h ⟨hws, hnow, hu.drop hid fun r hr hrid => ?_⟩
        rw [← hws] at hr
        by_contra hsel
        refine hany (List.any_eq_true.2 ⟨r, ?_, decide_eq_true ⟨hrid, eq_true_of_ne_false hsel⟩⟩)
        rw [hview]
        exact hr
    · rw [if_pos hid]
      exact h
  · exact h

/-- An unsnooze raises at the end of its `UPDATE`, unless it has found one row. -/
theorem raised_eq_none_iff (hpc : s.sys.pc w = .update u) (hrow : u.c.row = none) (htargets : u.targets = []) :
    s.sys.raised w = none ↔ u.found.length = 1 := by
  obtain ⟨c, snoozed, targets, found⟩ := u
  dsimp only at htargets hrow
  subst htargets
  simp only [SnoozeSystem.raised, hpc, hrow]
  rcases found with _ | ⟨id, _ | ⟨id', found⟩⟩ <;> simp

/-- The next statement of a session keeps the invariant. -/
theorem next_snoozeInv (h : SnoozeInv s) (hok : NotSpoiling s (.next w)) : SnoozeInv (s.step (.next w)) := by
  have hview : s.sys.view w = _ := Sessions.view_eq s.sys w
  have hw := h.sessions w
  change Sessions.Inv (OneActive s.clock) (SnoozePoint.Holds s.clock) (s.sys.next w)
  unfold SnoozeSystem.next
  split
  · exact Sessions.inv_rollback h rfl
  · exact h
  · rename_i c _ hpc
    rw [hpc] at hw
    obtain ⟨hws, hnow, hone⟩ := hw
    rw [hws] at hview
    refine Sessions.inv_goto h ⟨hws, hnow, ?_⟩
    rw [hview]
    exact Cancelling.Inv.start hone
  · rename_i u hraised hpc
    rw [hpc] at hw
    obtain ⟨hws, hnow, hu⟩ := hw
    split_ifs with htargets
    · cases hrow : u.c.row with
      | some row => exact Sessions.inv_goto h ⟨hws, hnow, hu, htargets, hrow⟩
      | none =>
        refine Sessions.inv_goto h ⟨?_, hnow, hu, htargets, fun _ => ?_⟩
        · rw [hws, hrow]
          exact (List.append_nil _).symm
        · have hfew := hu.few hrow
          rw [(raised_eq_none_iff hpc hrow htargets).1 hraised, htargets] at hfew
          by_contra hsnoozed
          rw [if_neg hsnoozed] at hfew
          cases hfew
    · exact h
  · rename_i u row _ hpc
    rw [hpc] at hw
    obtain ⟨hws, hnow, hu, htargets, hrow⟩ := hw
    refine Sessions.inv_write h ⟨?_, hnow, hu, htargets, fun hnone => ?_⟩
    · rw [hws, hrow]
      rfl
    · rw [hrow] at hnone
      cases hnone
  · rename_i u _ hpc
    rw [hpc] at hw
    obtain ⟨hws, hnow, hu, htargets, -⟩ := hw
    rw [hws] at hview
    have hcommitted : s.sys.view w = u.committed s.sys.tx.db := hview.trans (committed_eq u s.sys.tx.db)
    refine Sessions.inv_step (w := w) (p := .idle) rfl ?_ ?_ fun v hv => ?_
    · change OneActive s.clock (s.sys.view w)
      rw [hcommitted]
      exact OneActive.commit h.committed hu htargets hnow
    · rw [Sessions.commit, WriteLog.writes_commit]
      rfl
    · rw [Sessions.commit, WriteLog.writes_commit_of_ne hv]
      change (s.sys.pc v).Holds s.clock (s.sys.view w) (s.sys.tx.writes v)
      rw [hcommitted]
      exact (h.sessions v).commit (hok u.c (by rw [hpc]; rfl) v hv) hu htargets

theorem SnoozePoint.Holds.mono (h : p.Holds clock rows ws) {clock' : ℕ} (hle : clock ≤ clock') :
    p.Holds clock' rows ws := by
  cases p with
  | idle => exact h
  | _ => exact ⟨h.1, Nat.le_trans h.2.1 hle, h.2.2⟩

theorem OneActive.mono (h : OneActive clock rows) {clock' : ℕ} (hle : clock ≤ clock') : OneActive clock' rows :=
  fun t a => (List.monotone_filter_right rows fun _ hr => active_mono hle hr).length_le.trans (h t a)

theorem begin_snoozeInv (h : SnoozeInv s) (w : ℕ) (t a : String) (request : SnoozeRequest) :
    SnoozeInv (s.begin w t a request) := by
  unfold SnoozeWorld.begin
  split
  · rename_i hpc
    have hw := h.sessions w
    rw [hpc] at hw
    exact Sessions.inv_goto h ⟨hw, Nat.le_refl _, fun _ => h.committed t a⟩
  · exact h

/-- A step that meets the condition keeps the invariant. -/
theorem step_snoozeInv (h : SnoozeInv s) (a : SnoozeAct) (hok : NotSpoiling s a) : SnoozeInv (s.step a) := by
  cases a with
  | snooze w drawn_id t a duration_minutes snoozed_by reason =>
    dsimp only [SnoozeWorld.step]
    split
    · exact begin_snoozeInv h w t a _
    · exact h
  | unsnooze w t a => exact begin_snoozeInv h w t a .unsnooze
  | next w => exact next_snoozeInv h hok
  | row w id => exact row_snoozeInv h w id
  | fail w => exact Sessions.inv_rollback h rfl
  | tick microseconds =>
    have hle : s.clock ≤ s.clock + microseconds := Nat.le_add_right ..
    exact ⟨h.committed.mono hle, fun w => (h.sessions w).mono hle⟩

theorem init_snoozeInv (clock : ℕ) : SnoozeInv (.init clock) := Sessions.inv_init (fun _ _ => Nat.zero_le 1) rfl

/-! ### The law -/

/-- An unsnooze of an alert that was snoozed has a row to take, or has it. -/
theorem Cancelling.Inv.one_left (h : u.Inv rows) (hrow : u.c.row = none) (hsnoozed : u.snoozed = true) :
    (∃ id, u.targets = [id] ∧ u.found = []) ∨ u.targets = [] ∧ u.found.length = 1 := by
  have hfew := h.few hrow
  rw [if_pos hsnoozed] at hfew
  rcases htargets : u.targets with _ | ⟨id, rest⟩
  · rw [htargets, List.length_nil, Nat.zero_add] at hfew
    exact Or.inr ⟨rfl, hfew⟩
  · rw [htargets, List.length_cons] at hfew
    have hrest : rest.length = 0 := by omega
    have hfound : u.found.length = 0 := by omega
    exact Or.inl ⟨id, by rw [List.length_eq_zero_iff.1 hrest], List.length_eq_zero_iff.1 hfound⟩

theorem next_of_found (hpc : s.sys.pc w = .update u) (hrow : u.c.row = none) (htargets : u.targets = [])
    (hfound : u.found.length = 1) : s.sys.next w = s.sys.goto w (.commit u) := by
  simp only [SnoozeSystem.next, (raised_eq_none_iff hpc hrow htargets).2 hfound, hpc, hrow, htargets, if_true]

/-- It gets its row, if no other session has it. -/
theorem row_of_free (h : SnoozeInv s) (hpc : s.sys.pc w = .update u) (hrow : u.c.row = none)
    (hsnoozed : u.snoozed = true) (htargets : u.targets = [id]) (hfound : u.found = [])
    (hfree : s.sys.tx.locked SnoozeWrite.row w id = false) :
    (s.sys.row w id).pc w = .update { u with targets := [], found := [id] } := by
  have hw := h.sessions w
  rw [hpc] at hw
  obtain ⟨hws, -, hu⟩ := hw
  have hid : id ∈ u.targets := by rw [htargets]; exact List.mem_singleton_self id
  obtain ⟨r, hr, hrid, hsel⟩ := hu.held hrow hsnoozed id hid
  have hview : s.sys.view w = s.sys.tx.db := by
    have hview : s.sys.view w = _ := Sessions.view_eq s.sys w
    rw [hview, hws, Cancelling.cancels, hfound]
    rfl
  have hany : (s.sys.view w).any (fun r => r.snooze_id = id ∧ u.c.selects r) = true := by
    rw [hview]
    exact List.any_eq_true.2 ⟨r, hr, decide_eq_true ⟨hrid, hsel⟩⟩
  have hlocked : ¬s.sys.tx.locked SnoozeWrite.row w (SnoozeWrite.cancel u.c id).row = true := by
    rw [SnoozeWrite.row, hfree]
    exact Bool.false_ne_true
  unfold SnoozeSystem.row
  rw [hpc]
  dsimp only
  rw [if_neg (not_not.2 hid), if_pos hany, Sessions.write, if_neg hlocked, htargets, hfound, List.erase_cons_head]
  exact Function.update_self ..

theorem SnoozeInv.law (h : SnoozeInv s) : SnoozeLaw s := by
  refine ⟨h.committed, fun w u hpc hrow hsnoozed => ?_, fun w u hpc hrow hsnoozed hfree => ?_, fun w u hpc hrow => ?_⟩
  · have hw := h.sessions w
    rw [hpc] at hw
    rcases hw.2.2.one_left hrow hsnoozed with ⟨id, htargets, -⟩ | ⟨htargets, hfound⟩
    · obtain ⟨c, snoozed, targets, found⟩ := u
      dsimp only at htargets
      subst htargets
      simp only [SnoozeSystem.raised, hpc]
    · exact (raised_eq_none_iff hpc hrow htargets).2 hfound
  · have hw := h.sessions w
    rw [hpc] at hw
    rcases hw.2.2.one_left hrow hsnoozed with ⟨id, htargets, hfound⟩ | ⟨htargets, hfound⟩
    · have hpc' := row_of_free h hpc hrow hsnoozed htargets hfound (hfree id (by rw [htargets]; exact List.mem_singleton_self id))
      refine ⟨{ u with targets := [], found := [id] }, ?_, rfl⟩
      rw [htargets]
      change ((s.step (.row w id)).sys.next w).pc w = _
      rw [next_of_found (s := s.step (.row w id)) hpc' hrow rfl rfl]
      exact Function.update_self ..
    · refine ⟨u, ?_, rfl⟩
      rw [htargets]
      change (s.sys.next w).pc w = _
      rw [next_of_found hpc hrow htargets hfound]
      exact Function.update_self ..
  · have hw := h.sessions w
    rw [hpc] at hw
    obtain ⟨hws, hnow, hu, htargets, hsnoozed⟩ := hw
    have hview : s.sys.view w = _ := Sessions.view_eq s.sys w
    rw [hws] at hview
    have hdb : (s.step (.next w)).sys.tx.db = s.sys.view w := by
      simp only [SnoozeWorld.step, SnoozeSystem.next, SnoozeSystem.raised, hpc]
      rfl
    rw [hdb, hview.trans (committed_eq u s.sys.tx.db), isSnoozed_eq, List.any_eq_false]
    intro r hr hactive
    rcases active_of_committed hr hactive with ⟨hr, hnot⟩ | hr
    · have hsel : u.c.selects r = true := active_mono hnow hactive
      have hcovered := hu.covers (Or.inr (hsnoozed hrow)) r hr hsel
      rw [htargets] at hcovered
      exact hnot ⟨hcovered.resolve_left List.not_mem_nil, hsel⟩
    · rw [hrow] at hr
      cases hr

/-! ### One session -/

/-- The session whose step it is. -/
def SnoozeAct.session : SnoozeAct → Option ℕ
  | .snooze w .. | .unsnooze w .. | .next w | .row w _ | .fail w => some w
  | .tick _ => none

/-- A step leaves the other sessions where they are. -/
theorem step_pc_of_ne {v : ℕ} {a : SnoozeAct} (hv : a.session ≠ some v) : (s.step a).sys.pc v = s.sys.pc v := by
  have hbegin : ∀ w t a request, v ≠ w → (s.begin w t a request).sys.pc v = s.sys.pc v := by
    intro w t a request hne
    unfold SnoozeWorld.begin
    split
    · exact Function.update_of_ne hne ..
    · rfl
  have hwrite : ∀ w x p, v ≠ w → (s.sys.write SnoozeWrite.row w x p).pc v = s.sys.pc v := by
    intro w x p hne
    unfold Sessions.write
    split_ifs
    · rfl
    · exact Function.update_of_ne hne ..
  have hne : ∀ w, some w ≠ some v → v ≠ w := fun w h heq => h (congrArg some heq.symm)
  cases a with
  | snooze w =>
    dsimp only [SnoozeWorld.step]
    split
    · exact hbegin _ _ _ _ (hne w hv)
    · rfl
  | unsnooze w => exact hbegin _ _ _ _ (hne w hv)
  | next w =>
    dsimp only [SnoozeWorld.step, SnoozeSystem.next]
    split
    · exact Function.update_of_ne (hne w hv) ..
    · rfl
    · exact Function.update_of_ne (hne w hv) ..
    · split_ifs
      · exact Function.update_of_ne (hne w hv) ..
      · rfl
    · exact hwrite _ _ _ (hne w hv)
    · exact Function.update_of_ne (hne w hv) ..
  | row w id =>
    dsimp only [SnoozeWorld.step, SnoozeSystem.row]
    split
    · split_ifs
      · exact hwrite _ _ _ (hne w hv)
      · exact Function.update_of_ne (hne w hv) ..
      · rfl
    · rfl
  | fail w => exact Function.update_of_ne (hne w hv) ..
  | tick microseconds => rfl

/-- Calls of one session spoil none. -/
theorem guarded_of_one_session {run : List SnoozeAct} (hrun : ∀ a ∈ run, ∀ v, a.session = some v → v = w)
    (hidle : ∀ v, v ≠ w → s.sys.pc v = .idle) : Guarded SnoozeWorld.step NotSpoiling s run := by
  induction run generalizing s with
  | nil => trivial
  | cons a run ih =>
    refine ⟨?_, ih (fun b hb => hrun b (List.mem_cons_of_mem a hb)) fun v hv => ?_⟩
    · cases a with
      | next w' =>
        intro c _ v hv
        obtain rfl := hrun _ List.mem_cons_self w' rfl
        rw [hidle v hv]
        trivial
      | _ => trivial
    · rw [step_pc_of_ne fun hsession => hv (hrun a List.mem_cons_self v hsession)]
      exact hidle v hv

end Steps

/-- **Key result**: in every run in which no commit spoils another call on its alert, an alert has one active snooze at
most, at every moment, and an unsnooze that was called while the alert was snoozed lifts the snooze. -/
theorem one_active_snooze (clock : ℕ) (run : List SnoozeAct)
    (hrun : Guarded SnoozeWorld.step NotSpoiling (.init clock) run) : SnoozeLaw (.exec clock run) :=
  (hrun.invariant (fun _ a h hok => step_snoozeInv h a hok) (init_snoozeInv clock)).law

/-- A snooze, statement by statement, and an unsnooze up to its `COMMIT`. -/
def snoozeThenUnsnooze : List SnoozeAct :=
  [.snooze 0 "s" "t" "a" (some 30) "op" none, .next 0, .next 0, .next 0, .next 0, .unsnooze 0 "t" "a", .next 0, .row 0 "s",
    .next 0]

theorem snooze_is_lifted : SnoozeLaw (.exec 0 snoozeThenUnsnooze) :=
  one_active_snooze 0 snoozeThenUnsnooze (guarded_of_one_session (w := 0) (by
    simp [snoozeThenUnsnooze, SnoozeAct.session, eq_comm]) fun _ _ => rfl)

/-- Two snoozes that both look before either commits. -/
def twoSnoozes : List SnoozeAct :=
  [.snooze 0 "s" "t" "a" (some 30) "op" none, .snooze 1 "s'" "t" "a" (some 60) "op" none, .next 0, .next 1, .next 0, .next 0,
    .next 0, .next 1, .next 1, .next 1]

/-- An unsnooze that comes after them. -/
def unsnoozeBoth : List SnoozeAct := [.unsnooze 0 "t" "a", .next 0, .row 0 "s", .row 0 "s'"]

/-- Both stay active, and the unsnooze raises. -/
theorem two_snoozes_stay : ¬SnoozeLaw (.exec 0 twoSnoozes) ∧
    (SnoozeWorld.exec 0 (twoSnoozes ++ unsnoozeBoth)).sys.raised 0 = some .too_many_rows := by
  refine ⟨fun h => absurd (h.one "t" "a") (by decide +kernel), by decide +kernel⟩

end JLMirror.Alerting
