import JLMirror.Monitoring.OutboxPublication

/-!
# Attempts of the outbox

How often an outbox row is claimed and handed to the receiver between two redrives. The claim phase
raises `attempt_count` and takes a row with an expired lease whatever its count, and the limit is
looked at only where a failure is recorded.

## What is proved

* The holder of a row knows its count (`Counted.step`), and the attempts handed over or still to be
  sent are different attempts of their rows (`Numbered.step`).
* **Key result** (`attempts_bounded`): attempts and deliveries between two redrives are within the
  limit in a run that takes up no row whose attempts are used up, records no failure late, and
  redrives no row that a pass still is to send. In `crashRun` a row is claimed six times.
-/

namespace JLMirror.Monitoring.OutboxDispatcher

open JLMirror.Foundations

/-! ### Counts -/

namespace System

variable {s : System} {w : ℕ} {a : Action}

/-- A claim takes up no row whose attempts are used up; a failure is recorded by the worker that
claimed the row last; and a redriven row is in no pass that still is to send it. -/
def WithinBudget (s : System) : Action → Prop
  | .claim _ now locked => ∀ r ∈ fetch now locked s.rows, r.dispatch_state = .claimed → r.attempt_count < _MAX_ATTEMPTS
  | .record w _ refused =>
    refused = false → ∀ x ∈ s.nextResult w, x.2 = none → s.holder x.1.key = some w
  | .redrive p_tenant_id p_record_id p_max_redrives =>
    ∀ r ∈ s.rows, redriveSelects p_tenant_id p_record_id p_max_redrives r = true →
      ∀ v, ∀ x ∈ (s.workers v).todo, x.key ≠ r.key
  | .redriveAll => ∀ r ∈ s.rows, r.dispatch_state = .quarantined → ∀ v, ∀ x ∈ (s.workers v).todo, x.key ≠ r.key
  | _ => True

/-- The attempts of a row are within the limit and below it while it is pending, and its holder knows
their number. -/
structure Counted (s : System) : Prop where
  bounded : ∀ r ∈ s.rows, r.attempt_count ≤ _MAX_ATTEMPTS
  pending : ∀ r ∈ s.rows, r.dispatch_state = .pending → r.attempt_count < _MAX_ATTEMPTS
  known : ∀ w, ∀ x ∈ (s.workers w).batch, s.holder x.key = some w → ∀ r ∈ s.rows, r.key = x.key →
    r.attempt_count = x.attempt_count + 1 ∧ r.dispatch_state ≠ .quarantined

variable {r : OutboxRow}

theorem Counted.fetched_lt (h : Counted s) {now : Timestamp} {locked : List (String × ℕ)}
    (hok : s.WithinBudget (.claim w now locked)) (hr : r ∈ fetch now locked s.rows) :
    r.attempt_count < _MAX_ATTEMPTS := by
  obtain ⟨hmem, hdue⟩ := mem_fetch hr
  simp only [OutboxRow.due, decide_eq_true_eq] at hdue
  rcases hdue with hpending | ⟨hclaimed, -⟩
  · exact h.pending r hmem hpending
  · exact hok r hr hclaimed

/-- A selected row keeps its attempts, starts anew, or is claimed once more. -/
theorem Counted.selected (hs : Sound s) (h : Counted s) (hok : s.WithinBudget a) (hr : r ∈ s.rows)
    (hsel : s.selects a r = true) :
    (s.effect a r).attempt_count ≤ _MAX_ATTEMPTS ∧
      ((s.effect a r).dispatch_state = .pending → (s.effect a r).attempt_count < _MAX_ATTEMPTS) := by
  cases a with
  | claim w now locked =>
    obtain ⟨-, hmem⟩ := selects_claim.1 hsel
    obtain ⟨r₀, hr₀, hkey⟩ := List.mem_map.1 hmem
    obtain rfl := eq_of_key hs.keys (mem_fetch hr₀).1 hr hkey
    refine ⟨h.fetched_lt hok hr₀, fun hst => ?_⟩
    cases hst
  | record w now refused =>
    obtain ⟨hrefused, x, hx, hkey⟩ := selects_record.1 hsel
    rw [effect_record hx, recordedRow_attempt_count]
    refine ⟨h.bounded r hr, fun hst => ?_⟩
    rcases hreceipt : x.2 with _ | id
    · have hknown := (h.known w x.1 (mem_batch_of_nextResult hx) (hok hrefused x hx hreceipt) r hr hkey).1
      rw [hreceipt] at hst
      simp only [recordedRow] at hst
      split_ifs at hst with hlimit
      omega
    · rw [hreceipt] at hst
      cases hst
  | redrive p_tenant_id p_record_id p_max_redrives => exact ⟨Nat.zero_le _, fun _ => Nat.zero_lt_succ _⟩
  | redriveAll => exact ⟨Nat.zero_le _, fun _ => Nat.zero_lt_succ _⟩
  | _ => cases hsel

theorem appendedRow_pending (h : r ∈ s.appended a) : r.attempt_count = 0 ∧ r.dispatch_state = .pending := by
  cases a with
  | append row =>
    simp only [appended] at h
    split_ifs at h
    · cases h
    · obtain rfl := List.mem_singleton.1 h
      exact ⟨rfl, rfl⟩
  | _ => cases h

/-- What a holder knows of a row that another action writes. -/
theorem Counted.known_selected (hs : Sound s) (h : Counted s) (hok : s.WithinBudget a) {v : ℕ} {x : OutboxRow}
    (hx : x ∈ ((s.step a).workers v).batch) (hx₀ : x ∈ (s.workers v).batch) (hholder : s.holder x.key = some v)
    (hclaim : ∀ w now locked, a = .claim w now locked → (s.workers w).batch = [] →
      x.key ∉ (fetch now locked s.rows).map OutboxRow.key) (hr : r ∈ s.rows) (hsel : s.selects a r = true)
    (hkey : r.key = x.key) :
    (s.effect a r).attempt_count = x.attempt_count + 1 ∧ (s.effect a r).dispatch_state ≠ .quarantined := by
  obtain ⟨hcount, hstate⟩ := h.known v x hx₀ hholder r hr hkey
  cases a with
  | claim w now locked =>
    obtain ⟨hidle, hmem⟩ := selects_claim.1 hsel
    exact absurd (hkey ▸ hmem) (hclaim w now locked rfl hidle)
  | record w now refused =>
    obtain ⟨hrefused, y, hy, -⟩ := selects_record.1 hsel
    rw [effect_record hy, recordedRow_attempt_count]
    refine ⟨hcount, ?_⟩
    rcases hreceipt : y.2 with _ | id
    · -- a failure is recorded by the holder, which has the row no more
      have hok' : s.Untaken (.record w now refused) := fun _ z hz => by
        obtain rfl := Option.some.inj (hy.symm.trans hz)
        exact hok hrefused y hy hreceipt
      rw [hs.not_recorded hok' hx hholder hkey] at hsel
      cases hsel
    · exact fun hst => by cases hst
  | redrive p_tenant_id p_record_id p_max_redrives => simp [selects, redriveSelects, hstate] at hsel
  | redriveAll => simp [selects, hstate] at hsel
  | _ => cases hsel

theorem Counted.step (hs : Sound s) (h : Counted s) (hok : s.WithinBudget a) : Counted (s.step a) := by
  refine ⟨?_, ?_, ?_⟩
  · intro r' hr'
    rcases mem_step hs.keys hr' with happ | ⟨r, hr, hsel, rfl⟩ | ⟨hr, -⟩
    · exact (appendedRow_pending happ).1 ▸ Nat.zero_le _
    · exact (h.selected hs hok hr hsel).1
    · exact h.bounded r' hr
  · intro r' hr' hst
    rcases mem_step hs.keys hr' with happ | ⟨r, hr, hsel, rfl⟩ | ⟨hr, -⟩
    · exact (appendedRow_pending happ).1 ▸ Nat.zero_lt_succ _
    · exact (h.selected hs hok hr hsel).2 hst
    · exact h.pending r' hr hst
  · intro v x hx hholder r' hr' hkey
    rcases batch_step (s := s) a v with ⟨now, locked, rfl, hidle, hpass⟩ | ⟨hsub, -⟩
    · rw [hpass] at hx
      have hmem : x.key ∈ (fetch now locked s.rows).map OutboxRow.key := List.mem_map_of_mem hx
      rcases mem_step hs.keys hr' with happ | ⟨r, hr, -, rfl⟩ | ⟨-, hsel⟩
      · cases happ
      · obtain rfl := eq_of_key hs.keys hr (mem_fetch hx).1 ((effect_key _ _).symm.trans hkey)
        exact ⟨rfl, fun hst => by cases hst⟩
      · rw [selects_claim.2 ⟨hidle, hkey ▸ hmem⟩] at hsel
        cases hsel
    · have hx₀ := hsub.subset hx
      rcases holder_step (s := s) a x.key with ⟨w, now, locked, rfl, hidle, -, hnew⟩ | ⟨hsame, hclaim⟩
      · obtain rfl := Option.some.inj (hnew.symm.trans hholder)
        rw [hidle] at hx₀
        cases hx₀
      · rw [hsame] at hholder
        rcases mem_step hs.keys hr' with happ | ⟨r, hr, hsel, rfl⟩ | ⟨hr, -⟩
        · exact absurd hkey (hs.batch_not_appended hx₀ happ)
        · rw [effect_key] at hkey
          exact h.known_selected hs hok hx hx₀ hholder hclaim hr hsel hkey
        · exact h.known v x hx₀ hholder r' hr hkey

/-! ### What the receiver is handed -/

/-- The attempts that the receiver was handed, and those that the passes still are to send, are
attempts of their rows, each different from the others. -/
structure Numbered (s : System) : Prop where
  handed : ∀ e ∈ s.handed, ∀ r ∈ s.rows, r.key = e.key → e.attempt ≤ r.attempt_count
  handed_pos : ∀ e ∈ s.handed, 1 ≤ e.attempt ∧ e.key.2 < s.nextRecordId
  handed_nodup : (s.handed.map fun e => (e.key, e.attempt)).Nodup
  todo : ∀ v, ∀ x ∈ (s.workers v).todo, ∀ r ∈ s.rows, r.key = x.key → x.attempt_count + 1 ≤ r.attempt_count
  todo_new : ∀ v, ∀ x ∈ (s.workers v).todo, (x.key, x.attempt_count + 1) ∉ s.handed.map fun e => (e.key, e.attempt)
  todo_apart : ∀ v v', ∀ x ∈ (s.workers v).todo, ∀ x' ∈ (s.workers v').todo, x.key = x'.key →
    x.attempt_count = x'.attempt_count → v = v'

/-- A row is handed over once for each of its attempts at most. -/
theorem Numbered.handed_le (h : Numbered s) (hr : r ∈ s.rows) :
    (s.handed.filter fun e => e.key = r.key).length ≤ r.attempt_count := by
  have hnd : ((s.handed.filter fun e => e.key = r.key).map HandedOver.attempt).Nodup := by
    have hpairs := h.handed_nodup.sublist ((List.filter_sublist (p := fun e => e.key = r.key)).map
      fun e : HandedOver => (e.key, e.attempt))
    have heq : (s.handed.filter fun e => e.key = r.key).map (fun e => (e.key, e.attempt)) =
        ((s.handed.filter fun e => e.key = r.key).map HandedOver.attempt).map (Prod.mk r.key) := by
      rw [List.map_map]
      refine List.map_congr_left fun e he => ?_
      rw [Function.comp_apply, of_decide_eq_true (List.mem_filter.1 he).2]
    exact (heq ▸ hpairs).of_map _
  have hsub : (s.handed.filter fun e => e.key = r.key).map HandedOver.attempt ⊆ List.range' 1 r.attempt_count := by
    intro n hn
    obtain ⟨e, he, rfl⟩ := List.mem_map.1 hn
    obtain ⟨he, hkey⟩ := List.mem_filter.1 he
    have hle := h.handed e he r hr (of_decide_eq_true hkey).symm
    have hpos := (h.handed_pos e he).1
    exact List.mem_range'_1.2 ⟨hpos, by omega⟩
  simpa using (List.subperm_of_subset hnd hsub).length_le

/-- What a row of a pass is to the receiver. -/
def handover (x : OutboxRow) : HandedOver := ⟨x.key, x.attempt_count + 1, wire_envelope x⟩

/-- What the receiver was handed after a step: no more than before, or the next row of a pass, which
leaves the rows to be sent. -/
theorem handed_step (a : Action) :
    (s.step a).handed.Sublist s.handed ∨
      ∃ w answer x, a = .send w answer ∧ (s.workers w).todo = x :: ((s.step a).workers w).todo ∧
        (s.step a).handed = s.handed ++ [handover x] := by
  cases a with
  | send w answer =>
    rcases htodo : (s.workers w).todo with _ | ⟨x, todo⟩
    · simp [step, htodo]
    · cases answer with
      | unconfigured => simp [step, htodo]
      | status code => exact Or.inr ⟨w, _, x, rfl, by simp [step, htodo, Function.update_self], by simp [step, htodo, handover]⟩
      | raised => exact Or.inr ⟨w, _, x, rfl, by simp [step, htodo, Function.update_self], by simp [step, htodo, handover]⟩
  | append row =>
    simp only [step]
    split_ifs <;> exact Or.inl (.refl _)
  | claim w now locked =>
    simp only [step]
    split_ifs <;> exact Or.inl (.refl _)
  | record w now refused =>
    simp only [step]
    split <;> exact Or.inl (.refl _)
  | crash w => exact Or.inl (.refl _)
  | redrive p_tenant_id p_record_id p_max_redrives => exact Or.inl List.filter_sublist
  | redriveAll => exact Or.inl List.filter_sublist

/-- A row that an action writes has as many attempts as before, unless it is redriven: then nothing
handed over is counted for it any more, and no pass is to send it. -/
theorem attempt_effect (hok : s.WithinBudget a) (hr : r ∈ s.rows) (hsel : s.selects a r = true) :
    r.attempt_count ≤ (s.effect a r).attempt_count ∨
      (∀ e ∈ (s.step a).handed, e.key ≠ r.key) ∧ ∀ v, ∀ x ∈ (s.workers v).todo, x.key ≠ r.key := by
  cases a with
  | claim w now locked => exact Or.inl (Nat.le_succ _)
  | record w now refused =>
    obtain ⟨-, x, hx, -⟩ := selects_record.1 hsel
    rw [effect_record hx, recordedRow_attempt_count]
    exact Or.inl le_rfl
  | redrive p_tenant_id p_record_id p_max_redrives =>
    refine Or.inr ⟨fun e he hkey => ?_, hok r hr hsel⟩
    have hnone := (List.mem_filter.1 he).2
    simp only [Bool.not_eq_true', List.any_eq_false, decide_eq_true_eq, not_and] at hnone
    exact hnone r hr hsel hkey.symm
  | redriveAll =>
    refine Or.inr ⟨fun e he hkey => ?_, hok r hr (of_decide_eq_true hsel)⟩
    have hnone := (List.mem_filter.1 he).2
    simp only [Bool.not_eq_true', List.any_eq_false, decide_eq_true_eq, not_and] at hnone
    exact hnone r hr (of_decide_eq_true hsel) hkey.symm
  | _ => cases hsel

theorem todo_step (a : Action) (v : ℕ) :
    (∃ now locked, a = .claim v now locked ∧ (s.workers v).batch = [] ∧
        ((s.step a).workers v).todo = fetch now locked s.rows) ∨
      ((s.step a).workers v).todo.Sublist (s.workers v).todo := by
  rcases batch_step (s := s) a v with ⟨now, locked, ha, hidle, hpass⟩ | ⟨-, hsub⟩
  · exact Or.inl ⟨now, locked, ha, hidle, by rw [hpass]⟩
  · exact Or.inr hsub

theorem mem_batch_of_todo {v : ℕ} {x : OutboxRow} (hx : x ∈ (s.workers v).todo) : x ∈ (s.workers v).batch :=
  List.mem_append_right _ hx

/-- A number that the row has reached before the step it has reached after it. -/
theorem attempts_step (hs : Sound s) (hok : s.WithinBudget a) {n : ℕ} {k : String × ℕ}
    (hle : ∀ r ∈ s.rows, r.key = k → n ≤ r.attempt_count) (hold : k.2 < s.nextRecordId)
    (hkept : (∃ e ∈ (s.step a).handed, e.key = k) ∨ ∃ v, ∃ x ∈ (s.workers v).todo, x.key = k)
    {r' : OutboxRow} (hr' : r' ∈ (s.step a).rows) (hkey : r'.key = k) : n ≤ r'.attempt_count := by
  rcases mem_step hs.keys hr' with happ | ⟨r, hr, hsel, rfl⟩ | ⟨hr, -⟩
  · have hid := (appended_key happ).1
    have heq : r'.record_id = k.2 := congrArg Prod.snd hkey
    omega
  · rw [effect_key] at hkey
    rcases attempt_effect hok hr hsel with hmono | ⟨hhanded, htodo⟩
    · exact (hle r hr hkey).trans hmono
    · rcases hkept with ⟨e, he, hek⟩ | ⟨v, x, hx, hxk⟩
      · exact absurd (hek.trans hkey.symm) (hhanded e he)
      · exact absurd (hxk.trans hkey.symm) (htodo v x hx)
  · exact hle r' hr hkey

theorem Numbered.step (hs : Sound s) (h : Numbered s) (hok : s.WithinBudget a) : Numbered (s.step a) := by
  have hmono := nextRecordId_step (s := s) a
  have hfetched : ∀ {now locked x}, x ∈ fetch now locked s.rows → x ∈ s.rows := fun hx => (mem_fetch hx).1
  have hpos : ∀ e ∈ (s.step a).handed, 1 ≤ e.attempt ∧ e.key.2 < s.nextRecordId := by
    intro e he
    rcases handed_step (s := s) a with hsub | ⟨w, answer, x, rfl, htodo, heq⟩
    · exact h.handed_pos e (hsub.subset he)
    · rw [heq, List.mem_append, List.mem_singleton] at he
      rcases he with he | rfl
      · exact h.handed_pos e he
      · exact ⟨Nat.le_add_left 1 _, hs.batch_fresh w x (mem_batch_of_todo (htodo ▸ List.mem_cons_self))⟩
  refine ⟨?_, ?_, ?_, ?_, ?_, ?_⟩
  · intro e he r' hr' hkey
    refine attempts_step hs hok ?_ ?_ (Or.inl ⟨e, he, rfl⟩) hr' hkey
    · rcases handed_step (s := s) a with hsub | ⟨w, answer, x, rfl, htodo, heq⟩
      · exact h.handed e (hsub.subset he)
      · rw [heq, List.mem_append, List.mem_singleton] at he
        rcases he with he | rfl
        · exact h.handed e he
        · exact h.todo w x (htodo ▸ List.mem_cons_self)
    · exact (hpos e he).2
  · exact fun e he => ⟨(hpos e he).1, (hpos e he).2.trans_le hmono⟩
  · rcases handed_step (s := s) a with hsub | ⟨w, answer, x, rfl, htodo, heq⟩
    · exact h.handed_nodup.sublist (hsub.map _)
    · rw [heq, List.map_append, List.map_singleton]
      refine h.handed_nodup.append (List.nodup_singleton _) (List.disjoint_singleton.2 ?_)
      exact h.todo_new w x (htodo ▸ List.mem_cons_self)
  · intro v x hx r' hr' hkey
    rcases todo_step (s := s) a v with ⟨now, locked, rfl, hidle, hpass⟩ | hsub
    · rw [hpass] at hx
      have hmem : x.key ∈ (fetch now locked s.rows).map OutboxRow.key := List.mem_map_of_mem hx
      rcases mem_step hs.keys hr' with happ | ⟨r, hr, -, rfl⟩ | ⟨-, hsel⟩
      · cases happ
      · obtain rfl := eq_of_key hs.keys hr (hfetched hx) ((effect_key _ _).symm.trans hkey)
        exact le_rfl
      · rw [selects_claim.2 ⟨hidle, hkey ▸ hmem⟩] at hsel
        cases hsel
    · have hx₀ := hsub.subset hx
      exact attempts_step hs hok (h.todo v x hx₀) (hs.batch_fresh v x (mem_batch_of_todo hx₀))
        (Or.inr ⟨v, x, hx₀, rfl⟩) hr' hkey
  · intro v x hx hmem
    rcases todo_step (s := s) a v with ⟨now, locked, rfl, hidle, hpass⟩ | hsub
    · -- the number of a new attempt is above those handed over
      rw [hpass] at hx
      rcases handed_step (s := s) (.claim v now locked) with hsub | ⟨w, answer, y, heq, -⟩
      · obtain ⟨e, he, hpair⟩ := List.mem_map.1 (hsub.map _ |>.subset hmem)
        obtain ⟨hkey, hattempt⟩ := Prod.mk.inj hpair
        have hle := h.handed e he x (hfetched hx) hkey.symm
        omega
      · cases heq
    · rcases handed_step (s := s) a with hsub' | ⟨w, answer, y, rfl, htodo, heq⟩
      · exact h.todo_new v x (hsub.subset hx) (hsub'.map _ |>.subset hmem)
      · rw [heq, List.map_append, List.mem_append, List.map_singleton, List.mem_singleton] at hmem
        rcases hmem with hmem | hpair
        · exact h.todo_new v x (hsub.subset hx) hmem
        · -- the row that was sent is to be sent no more
          obtain ⟨hkey, hattempt⟩ := Prod.mk.inj hpair
          obtain rfl : v = w := h.todo_apart v w x (hsub.subset hx) y (htodo ▸ List.mem_cons_self) hkey
            (Nat.succ.inj hattempt)
          have hnd := (hs.batch v).sublist ((List.sublist_append_right _ _).map OutboxRow.key)
          rw [htodo, List.map_cons, List.nodup_cons] at hnd
          exact hnd.1 (List.mem_map.2 ⟨x, hx, hkey⟩)
  · intro v v' x hx x' hx' hkey hcount
    rcases todo_step (s := s) a v with ⟨now, locked, rfl, hidle, hpass⟩ | hsub
    · rcases todo_step (s := s) (.claim v now locked) v' with ⟨now', locked', heq, -, -⟩ | hsub'
      · injection heq
      · rw [hpass] at hx
        have hlt := h.todo v' x' (hsub'.subset hx') x (hfetched hx) hkey
        omega
    · rcases todo_step (s := s) a v' with ⟨now, locked, rfl, hidle, hpass⟩ | hsub'
      · rw [hpass] at hx'
        have hlt := h.todo v x (hsub.subset hx) x' (hfetched hx') hkey.symm
        omega
      · exact h.todo_apart v v' x (hsub.subset hx) x' (hsub'.subset hx') hkey hcount

theorem Counted.empty : Counted .empty where
  bounded _ h := (List.not_mem_nil h).elim
  pending _ h := (List.not_mem_nil h).elim
  known _ _ h := (List.not_mem_nil h).elim

theorem Numbered.empty : Numbered .empty where
  handed _ h := (List.not_mem_nil h).elim
  handed_pos _ h := (List.not_mem_nil h).elim
  handed_nodup := List.nodup_nil
  todo _ _ h := (List.not_mem_nil h).elim
  todo_new _ _ h := (List.not_mem_nil h).elim
  todo_apart _ _ _ h := (List.not_mem_nil h).elim

theorem budget_of_guarded {run : List Action} (hrun : Guarded System.step WithinBudget .empty run) :
    Sound (exec run) ∧ Counted (exec run) ∧ Numbered (exec run) :=
  hrun.invariant (I := fun s => Sound s ∧ Counted s ∧ Numbered s)
    (fun _ a hs hok => ⟨hs.1.step a, hs.2.1.step hs.1 hok, hs.2.2.step hs.1 hok⟩) ⟨.empty, .empty, .empty⟩

end System

/-- Every row is within the limit, has been handed over no more often since its last redrive, and is
not pending when its attempts are used up. -/
structure AttemptsBounded (s : System) : Prop where
  attempts : ∀ r ∈ s.rows, r.attempt_count ≤ _MAX_ATTEMPTS
  handed : ∀ r ∈ s.rows, (s.handed.filter fun e => e.key = r.key).length ≤ _MAX_ATTEMPTS
  exhausted : ∀ r ∈ s.rows, r.attempt_count = _MAX_ATTEMPTS → r.dispatch_state ≠ .pending

/-- What the outbox promises of the attempts in a run: they are bounded in every state, and the
failure of the last one quarantines the row. -/
structure AttemptLaw (run : List Action) : Prop where
  bounded : ∀ pre post, run = pre ++ post → AttemptsBounded (System.exec pre)
  quarantined : ∀ pre w now post, run = pre ++ .record w now false :: post →
    ∀ x ∈ (System.exec pre).nextResult w, x.2 = none →
      ∀ r ∈ (System.exec pre).rows, r.key = x.1.key → r.attempt_count = _MAX_ATTEMPTS →
        ∃ r' ∈ (System.exec (pre ++ [.record w now false])).rows, r'.key = r.key ∧ r'.dispatch_state = .quarantined

/-- **Key result**: attempts and deliveries are bounded in a run that takes up no row whose attempts
are used up, records no failure late, and redrives no row that a pass still is to send. -/
theorem attempts_bounded (run : List Action) (hrun : Guarded System.step System.WithinBudget .empty run) :
    AttemptLaw run := by
  constructor
  · rintro pre post rfl
    obtain ⟨-, hcounted, hnumbered⟩ := System.budget_of_guarded (guarded_append.1 hrun).1
    refine ⟨hcounted.bounded, fun r hr => (hnumbered.handed_le hr).trans (hcounted.bounded r hr), ?_⟩
    intro r hr hfull hpending
    exact (hcounted.pending r hr hpending).ne hfull
  · rintro pre w now post rfl x hx hfailed r hr hkey hfull
    obtain ⟨hpre, hok, -⟩ := guarded_append.1 hrun
    obtain ⟨hs, hcounted, -⟩ := System.budget_of_guarded hpre
    have hknown := (hcounted.known w x.1 (System.mem_batch_of_nextResult hx) (hok rfl x hx hfailed) r hr hkey).1
    have hsel : (System.exec pre).selects (.record w now false) r = true :=
      System.selects_record.2 ⟨rfl, x, hx, hkey⟩
    rw [exec_append, List.foldl_cons, List.foldl_nil, System.rows_step hs.keys]
    refine ⟨_, List.mem_append_left _ (mem_updateWhere.2 ⟨r, hr, if_pos hsel⟩), System.effect_key _ r, ?_⟩
    rw [System.effect_record hx, hfailed, recordedRow, if_pos (by omega)]

/-! Workers that die after the claim, and a row that is given up in time -/

/-- A worker claims the row, sends it and dies before it records the outcome. -/
def crashingPass (seconds : ℤ) : List Action := [.claim 0 (fromtimestamp seconds) [], .send 0 .raised, .crash 0]

/-- Six workers in a row die. -/
def crashRun : List Action :=
  .append bridgeMessage :: [0, 100, 200, 300, 400, 500].flatMap crashingPass

theorem crashRun_unbounded : ¬AttemptLaw crashRun := by
  intro h
  have hsix : ∃ r ∈ (System.exec crashRun).rows, r.attempt_count = 6 := by decide
  obtain ⟨r, hr, hcount⟩ := hsix
  have hle := (h.bounded crashRun [] (List.append_nil _).symm).attempts r hr
  rw [hcount] at hle
  exact absurd hle (by decide)

/-- Four workers die, and the fifth records its failure. -/
def givenUp : List Action :=
  .append bridgeMessage :: [0, 100, 200, 300].flatMap crashingPass ++
    [.claim 1 (fromtimestamp 400) [], .send 1 (.status 503), .record 1 (fromtimestamp 401) false]

instance (s : System) (w : ℕ) (now : Timestamp) (locked : List (String × ℕ)) :
    Decidable (s.WithinBudget (.claim w now locked)) :=
  inferInstanceAs (Decidable (∀ r ∈ fetch now locked s.rows, r.dispatch_state = .claimed → r.attempt_count < _MAX_ATTEMPTS))

instance (s : System) (w : ℕ) (now : Timestamp) (refused : Bool) :
    Decidable (s.WithinBudget (.record w now refused)) :=
  inferInstanceAs (Decidable (refused = false → ∀ x ∈ s.nextResult w, x.2 = none → s.holder x.1.key = some w))

theorem givenUp_bounded : Guarded System.step System.WithinBudget .empty givenUp ∧ AttemptLaw givenUp :=
  have h : Guarded System.step System.WithinBudget .empty givenUp := by
    simp only [givenUp, crashingPass, List.flatMap_cons, List.flatMap_nil, List.cons_append, List.nil_append,
      guarded_cons]
    exact ⟨trivial, by decide, trivial, trivial, by decide, trivial, trivial, by decide, trivial, trivial, by decide,
      trivial, trivial, by decide, trivial, by decide, trivial⟩
  ⟨h, attempts_bounded givenUp h⟩

end JLMirror.Monitoring.OutboxDispatcher
