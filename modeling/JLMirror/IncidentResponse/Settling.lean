import JLMirror.Foundations.Run
import JLMirror.IncidentResponse.Workers

/-!
# Events settle

`g11_complete_action` ends an action, and with a second statement the event, if no action of it is
open. At READ COMMITTED that statement does not see what other transactions have not committed: two
workers that complete the last two actions of an event at the same time each find the other's still
open, and neither of them ends the event.

## What is proved

* `step_inv` — for every set of workers, if they all committed, an event whose actions are over would
  be processed.
* `both_skip` — two completions that each leave the event to the other.

**Key result** (`events_settle`): the events settle in every run in which no second statement is held
up only by actions that other open transactions have completed, and will not look at again.
-/

namespace JLMirror.IncidentResponse

open JLMirror.Foundations

/-! ### The claim -/

/-- The event has an action, and all its actions are over. -/
def Over (event : String × String) (db : IrDb) : Prop :=
  (∃ a ∈ db.actions, a.event = event) ∧ ∀ a ∈ db.actions, a.event = event → a.status.unsettled = false

/-- An event whose actions are over is processed. -/
def EventsSettle (db : IrDb) : Prop := ∀ e ∈ db.events, Over e.key db → e.status = .processed

instance (event : String × String) (db : IrDb) : Decidable (Over event db) := by
  unfold Over
  infer_instance

instance (db : IrDb) : Decidable (EventsSettle db) := by
  unfold EventsSettle
  infer_instance

/-- An action holds the event up that no other open transaction has completed, unless it will look at the event
itself. -/
def HeldUp (s : IrWorld) (w : ℕ) (row : String × String) : Prop :=
  ∃ b ∈ (s.view w).actions, b.tenant_id = row.1 ∧ some b.event_id = eventIdOf row.2 (s.view w) ∧
    b.status.unsettled = true ∧
    ∀ x ∈ s.tx.log, x.1 ≠ w → x.2.settles b.row = true → s.on x.1 b.event = true

instance (s : IrWorld) (w : ℕ) (row : String × String) : Decidable (HeldUp s w row) := by
  unfold HeldUp
  infer_instance

/-- The condition: a second statement that leaves the event open is held up by such an action. -/
def NotHeldByOthers (s : IrWorld) : IrAct → Prop
  | .process w => ∀ row ∈ s.pc w,
      someUnsettled row.1 (eventIdOf row.2 (s.view w)) (s.view w) = true → HeldUp s w row
  | _ => True

instance (s : IrWorld) (a : IrAct) : Decidable (NotHeldByOthers s a) := by
  cases a with
  | process w => exact inferInstanceAs (Decidable (∀ row ∈ s.pc w, _ → _))
  | _ => exact .isTrue trivial

/-! ### The invariant -/

/-- The workers see an event as over. -/
def IrWorld.over (s : IrWorld) (S : ℕ → Bool) (event : String × String) : Prop :=
  (∃ a ∈ s.tx.db.actions, a.event = event) ∧
    ∀ a ∈ s.tx.db.actions, a.event = event → (s.after S a).status.unsettled = false

variable {s : IrWorld} {event : String × String}

variable {S : ℕ → Bool}

theorem over_seen : Over event (s.tx.seenBy Write.apply S) ↔ s.over S event := by
  simp only [Over, IrWorld.over, seen_actions, List.mem_map, exists_exists_and_eq_and, forall_exists_index, and_imp,
    forall_apply_eq_imp_iff₂, after_event]

/-- If the workers in `S` committed, an event whose actions are over would be processed, unless one of them is
about to look at it. -/
def IrWorld.settledFor (s : IrWorld) (S : ℕ → Bool) : Prop :=
  ∀ e ∈ s.tx.db.events, (∀ w, S w = true → s.on w e.key = false) → s.over S e.key →
    e.status = .processed ∨ s.marked S e.key = true

/-- What holds of every state. -/
structure IrInv (s : IrWorld) : Prop where
  ids : (s.tx.db.actions.map ActionRequest.request_id).Nodup
  /-- `FOREIGN KEY (tenant_id, event_id)` -/
  known : ∀ a ∈ s.tx.db.actions, ∃ e ∈ s.tx.db.events, e.key = a.event
  rows : ∀ x ∈ s.tx.log, ∀ row, x.2.row = some row → ∃ a ∈ s.tx.db.actions, a.row = row
  locks : ∀ x ∈ s.tx.log, ∀ y ∈ s.tx.log, ∀ row, x.2.row = some row → y.2.row = some row → x.1 = y.1
  pcs : ∀ w row, s.pc w = some row → ∃ a ∈ s.tx.db.actions, a.row = row
  settled : ∀ S, s.settledFor S

theorem init_inv : IrInv .init where
  ids := List.nodup_nil
  known _ h := absurd h List.not_mem_nil
  rows _ h := absurd h List.not_mem_nil
  locks _ h := absurd h List.not_mem_nil
  pcs _ _ h := nomatch h
  settled _ _ h := absurd h List.not_mem_nil

/-- Writes of different workers are on different rows. -/
theorem IrInv.independent (h : IrInv s) : s.tx.Independent Write.apply := by
  intro x hx y hy hne db
  have hactions : ∀ a, y.2.on (x.2.on a) = x.2.on (y.2.on a) := by
    intro a
    by_cases hrow : x.2.row = some a.row
    · have hy : ∀ b : ActionRequest, b.row = a.row → y.2.on b = b :=
        fun b hb => if_neg fun hrow' => hne (h.locks x hx y hy a.row hrow (hrow'.trans (by rw [hb])))
      rw [hy a rfl, hy (x.2.on a) (x.2.on_row a)]
    · have hx : ∀ b : ActionRequest, b.row = a.row → x.2.on b = b := fun b hb => if_neg (by rwa [hb])
      rw [hx a rfl, hx (y.2.on a) (y.2.on_row a)]
  simp only [Write.apply_eq, List.map_map]
  congr 1
  · refine List.map_congr_left fun e _ => ?_
    have hkey : e.toProcessed.key = e.key := rfl
    have htwice : e.toProcessed.toProcessed = e.toProcessed := rfl
    simp only [Function.comp_apply]
    split_ifs <;> simp_all
  · exact List.map_congr_left fun a _ => hactions a

variable {w : ℕ}

theorem on_iff : s.on w event = true ↔
    ∃ row, s.pc w = some row ∧ ∃ a ∈ s.tx.db.actions, a.row = row ∧ a.event = event := by
  unfold IrWorld.on
  cases s.pc w with
  | none => simp
  | some row => simp only [isAction, List.any_eq_true, decide_eq_true_eq, Option.some.injEq, exists_eq_left']

theorem on_none (h : s.pc w = none) (event : String × String) : s.on w event = false := by
  rw [IrWorld.on, h]

/-! ### The steps of the API -/

theorem store_inv (h : IrInv s) (t eid : String) : IrInv (s.publish (g11_store_event t eid s.tx.db)) := by
  unfold g11_store_event
  split_ifs with hnew
  · exact h
  · have hkeys : ∀ e ∈ s.tx.db.events, e.key ≠ (t, eid) := by
      intro e he hkey
      refine hnew (List.any_eq_true.2 ⟨e, he, ?_⟩)
      simpa [isEventOf, ErrorEvent.key] using hkey
    refine ⟨h.ids, fun a ha => ?_, h.rows, h.locks, h.pcs, fun S e he hon hover => ?_⟩
    · obtain ⟨e, he, hkey⟩ := h.known a ha
      exact ⟨e, List.mem_append_left _ he, hkey⟩
    · rcases List.mem_append.1 he with he | he
      · exact h.settled S e he hon hover
      · -- an event that is new has no action
        obtain ⟨⟨a, ha, hevent⟩, -⟩ := hover
        obtain ⟨e', he', hkey⟩ := h.known a ha
        rw [List.mem_singleton.1 he] at hevent
        exact absurd (hkey.trans hevent) (hkeys e' he')

theorem enqueue_inv (h : IrInv s) (now : ℕ) (t eid : String) (kind : ActionKind) (rid : String) :
    IrInv (s.publish (g11_enqueue_action now t eid kind rid s.tx.db)) := by
  unfold g11_enqueue_action
  split_ifs with hnew
  · obtain ⟨hevent, hrid⟩ := hnew
    have hrid : ∀ a ∈ s.tx.db.actions, a.request_id ≠ rid := by simpa using hrid
    have hold : ∀ {P : ActionRequest → Prop}, (∃ a ∈ s.tx.db.actions, P a) → ∀ b : ActionRequest,
        ∃ a ∈ s.tx.db.actions ++ [b], P a := fun ⟨a, ha, hP⟩ b => ⟨a, List.mem_append_left _ ha, hP⟩
    refine ⟨?_, fun a ha => ?_, fun x hx row hrow => hold (h.rows x hx row hrow) _, h.locks,
      fun w row hrow => hold (h.pcs w row hrow) _, fun S e he hon hover => ?_⟩
    · have hfresh : rid ∉ s.tx.db.actions.map ActionRequest.request_id := by simpa using hrid
      exact List.map_append ▸ h.ids.append (List.nodup_singleton rid) (by simpa using hfresh)
    · rcases List.mem_append.1 ha with ha | ha
      · exact h.known a ha
      · obtain ⟨e, he, hkey⟩ := List.any_eq_true.1 hevent
        obtain ⟨ht, hid⟩ := of_decide_eq_true hkey
        rw [List.mem_singleton.1 ha]
        exact ⟨e, he, Prod.ext ht (Option.some.inj hid)⟩
    · obtain ⟨⟨a, ha, haevent⟩, hall⟩ := hover
      -- the new action is open for everybody, so it is not one of this event
      have hother : (t, eid) ≠ e.key := by
        intro heq
        have hopen := hall _ (List.mem_append_right _ List.mem_cons_self) heq
        rw [after_none] at hopen
        · cases hopen
        · intro x hx hrow
          obtain ⟨b, hb, hbrow⟩ := h.rows x hx _ hrow
          exact absurd (Prod.mk.inj hbrow).2 (hrid b hb)
      have hmem : a ∈ s.tx.db.actions := by
        rcases List.mem_append.1 ha with ha | ha
        · exact ha
        · rw [List.mem_singleton.1 ha] at haevent
          exact absurd haevent hother
      refine h.settled S e he (fun w hw => ?_) ⟨⟨a, hmem, haevent⟩, fun b hb => hall b (List.mem_append_left _ hb)⟩
      refine Bool.eq_false_iff.2 fun hs => Bool.eq_false_iff.1 (hon w hw) ?_
      obtain ⟨row, hrow, hex⟩ := on_iff.1 hs
      exact on_iff.2 ⟨row, hrow, hold hex _⟩
  · exact h

theorem mark_inv (h : IrInv s) (t eid : String) : IrInv (s.publish (g11_mark_event_processed t eid s.tx.db)) := by
  unfold g11_mark_event_processed
  split
  · exact h
  · split_ifs
    · exact h
    · refine ⟨h.ids, fun a ha => ?_, h.rows, h.locks, h.pcs, fun S e he hon hover => ?_⟩
      · obtain ⟨e, he, hkey⟩ := h.known a ha
        refine ⟨_, mem_updateWhere.2 ⟨e, he, rfl⟩, hkey ▸ ?_⟩
        split_ifs <;> rfl
      · obtain ⟨old, hold, rfl⟩ := mem_updateWhere.1 he
        split_ifs at hon hover ⊢
        · exact Or.inl rfl
        · exact h.settled S old hold hon hover

/-! ### The steps of the workers -/

variable {s' : IrWorld}

variable {x : Write}

theorem after_write (h : s'.tx = s.tx.write w x) (S : ℕ → Bool) (a : ActionRequest) :
    s'.after S a = if S w then x.on (s.after S a) else s.after S a := by
  unfold IrWorld.after
  rw [h, WriteLog.write, List.filter_append]
  split_ifs with hS <;> simp [hS]

theorem marked_write (h : s'.tx = s.tx.write w x) (hmarked : s.marked S event = true) : s'.marked S event = true := by
  obtain ⟨y, hy, hS⟩ := marked_iff.1 hmarked
  exact marked_iff.2 ⟨y, h ▸ List.mem_append_left _ hy, hS⟩

theorem on_other {v : ℕ} (hdb : s'.tx.db.actions = s.tx.db.actions) (hpc : s'.pc v = s.pc v) (event : String × String) :
    s'.on v event = s.on v event := by
  rw [IrWorld.on, IrWorld.on, hdb, hpc]

variable {row : String × String}

/-- A worker between two completions writes a row that nobody else has written. The workers that see the write
see an action of its event as open, or it is the worker's turn to look at the event. -/
theorem write_inv (h : IrInv s) (htx : s'.tx = s.tx.write w x) (hothers : ∀ v, v ≠ w → s'.pc v = s.pc v)
    (hpc : s.pc w = none) (hpc' : s'.pc w = none ∨ s'.pc w = some row) (hx : x.row = some row)
    (hrow : ∃ a ∈ s.tx.db.actions, a.row = row) (hlocked : s.locked w row = false)
    (hopen : ∀ S : ℕ → Bool, S w = true → ∀ a ∈ s.tx.db.actions, a.row = row → s'.on w a.event = false →
      (s'.after S a).status.unsettled = true) : IrInv s' := by
  have hdb : s'.tx.db = s.tx.db := by rw [htx, WriteLog.write]
  have hlog : ∀ y ∈ s'.tx.log, y ∈ s.tx.log ∨ y = (w, x) := fun y hy => WriteLog.mem_write (htx ▸ hy)
  have hfree : ∀ y ∈ s.tx.log, y.2.row = some row → y.1 = w := by
    intro y hy hyrow
    by_contra hne
    simp only [IrWorld.locked, List.any_eq_false, decide_eq_true_eq, not_and] at hlocked
    exact hlocked y hy hne hyrow
  refine ⟨hdb ▸ h.ids, hdb ▸ h.known, fun y hy r hr => ?_, fun y hy z hz r hyr hzr => ?_, fun v r hr => ?_,
    fun S e he hon hover => ?_⟩
  · rw [hdb]
    rcases hlog y hy with hy | rfl
    · exact h.rows y hy r hr
    · exact Option.some.inj (hx.symm.trans hr) ▸ hrow
  · rcases hlog y hy with hy | rfl <;> rcases hlog z hz with hz | rfl
    · exact h.locks y hy z hz r hyr hzr
    · exact hfree y hy (hyr.trans (hzr.symm.trans hx))
    · exact (hfree z hz (hzr.trans (hyr.symm.trans hx))).symm
    · rfl
  · rw [hdb]
    by_cases hv : v = w
    · subst hv
      rcases hpc' with hpc' | hpc'
      · cases hr.symm.trans hpc'
      · exact Option.some.inj (hpc'.symm.trans hr) ▸ hrow
    · exact h.pcs v r ((hothers v hv).symm.trans hr)
  · rw [hdb] at he
    have hover' : s.over S e.key := by
      rw [IrWorld.over, hdb] at hover
      refine ⟨hover.1, fun a ha haevent => ?_⟩
      have hclosed := hover.2 a ha haevent
      cases hS : S w with
      | false => rwa [after_write htx, hS] at hclosed
      | true =>
        have hne : a.row ≠ row := by
          intro heq
          rw [hopen S hS a ha heq (haevent ▸ hon w hS)] at hclosed
          cases hclosed
        rw [after_write htx, if_pos hS, Write.on, if_neg] at hclosed
        · exact hclosed
        · rw [hx, after_row]
          exact fun heq => hne (Option.some.inj heq).symm
    refine (h.settled S e he (fun v hv => ?_) hover').imp_right (marked_write htx)
    by_cases hvw : v = w
    · exact hvw ▸ on_none hpc _
    · exact (on_other (congrArg IrDb.actions hdb) (hothers v hvw) _).symm.trans (hon v hv)

theorem claim_inv (h : IrInv s) (w now : ℕ) (t rid executor : String) (n : ℕ) :
    IrInv (s.step (.claim w now t rid executor n)) := by
  simp only [IrWorld.step]
  split_ifs with hstep
  · obtain ⟨hpc, hlocked, hany⟩ := hstep
    obtain ⟨b, hb, hclaimable⟩ := List.any_eq_true.1 hany
    obtain ⟨ht, hrid, -⟩ := of_decide_eq_true hclaimable
    obtain ⟨a, ha, rfl⟩ := mem_view.1 hb
    have hrow : a.row = (t, rid) := (after_row s _ a).symm.trans (Prod.ext ht hrid)
    refine write_inv h (x := .claimed t rid executor (now + n)) rfl (fun _ _ => rfl) hpc (Or.inl hpc) rfl ⟨a, ha, hrow⟩
      (by simpa using hlocked) fun S hS a' _ hrow' _ => ?_
    rw [after_write rfl, if_pos hS, Write.on, if_pos (by rw [after_row, hrow', Write.row])]
    rfl
  · exact h

theorem settle_inv (h : IrInv s) (w : ℕ) (t rid executor : String) (r : ActionResult) :
    IrInv (s.step (.settle w t rid executor r)) := by
  simp only [IrWorld.step]
  split_ifs with hstep
  · obtain ⟨hpc, hlocked, hany⟩ := hstep
    obtain ⟨b, hb, howned⟩ := List.any_eq_true.1 hany
    obtain ⟨ht, hrid, -⟩ := of_decide_eq_true howned
    obtain ⟨a, ha, rfl⟩ := mem_view.1 hb
    have hrow : a.row = (t, rid) := (after_row s _ a).symm.trans (Prod.ext ht hrid)
    refine write_inv h (x := .settled t rid r) rfl (fun v hv => Function.update_of_ne hv ..) hpc
      (Or.inr (Function.update_self ..)) rfl ⟨a, ha, hrow⟩ (by simpa using hlocked) fun S _ a' ha' hrow' hon => ?_
    -- the worker is about to look at the event
    refine (Bool.eq_false_iff.1 hon (on_iff.2 ?_)).elim
    exact ⟨(t, rid), Function.update_self .., a', ha', hrow', rfl⟩
  · exact h

theorem rollback_inv (h : IrInv s) (w : ℕ) : IrInv (s.step (.rollback w)) := by
  have hlog : ∀ x ∈ (s.tx.rollback w).log, x ∈ s.tx.log := fun x hx => (WriteLog.mem_rollback hx).1
  have hself : (s.step (.rollback w)).pc w = none := Function.update_self ..
  have hothers : ∀ v, v ≠ w → (s.step (.rollback w)).pc v = s.pc v := fun v hv => Function.update_of_ne hv ..
  refine ⟨h.ids, h.known, fun x hx => h.rows x (hlog x hx), fun x hx y hy => h.locks x (hlog x hx) y (hlog y hy),
    fun v r hr => ?_, fun S e he hon hover => ?_⟩
  · have hv : v ≠ w := by
      rintro rfl
      cases hself.symm.trans hr
    exact h.pcs v r ((hothers v hv).symm.trans hr)
  · -- without the worker's writes, the others see what they see without the worker
    have hfilter : (s.tx.rollback w).log.filter (fun x => S x.1) = s.tx.log.filter fun x => S x.1 && x.1 ≠ w := by
      rw [WriteLog.rollback, List.filter_filter]
    have hafter : ∀ a, (s.step (.rollback w)).after S a = s.after (fun v => S v && v ≠ w) a := by
      intro a
      rw [IrWorld.after, IrWorld.after, ← hfilter]
      rfl
    have hmarked : (s.step (.rollback w)).marked S e.key = s.marked (fun v => S v && v ≠ w) e.key := by
      rw [IrWorld.marked, IrWorld.marked, ← hfilter]
      rfl
    rw [hmarked]
    refine h.settled (fun v => S v && v ≠ w) e he (fun v hv => ?_) ⟨hover.1, fun a ha haevent => ?_⟩
    · obtain ⟨hv, hvw⟩ := by simpa using hv
      have hactions : (s.step (.rollback w)).tx.db.actions = s.tx.db.actions := rfl
      exact (on_other hactions (hothers v hvw) _).symm.trans (hon v hv)
    · rw [← hafter]
      exact hover.2 a ha haevent

theorem commit_inv (h : IrInv s) (w : ℕ) : IrInv (s.step (.commit w)) := by
  simp only [IrWorld.step]
  split_ifs with hpc
  · have hactions : (s.tx.commit Write.apply w).db.actions = s.tx.db.actions.map (s.after (· = w)) := seen_actions ..
    have hevents : (s.tx.commit Write.apply w).db.events =
        s.tx.db.events.map fun e => if s.marked (· = w) e.key then e.toProcessed else e := seen_events ..
    have hlog : ∀ x ∈ (s.tx.commit Write.apply w).log, x ∈ s.tx.log := fun x hx => (WriteLog.mem_commit hx).1
    have hmap : ∀ {row : String × String}, (∃ a ∈ s.tx.db.actions, a.row = row) →
        ∃ a ∈ (s.tx.commit Write.apply w).db.actions, a.row = row := by
      rintro row ⟨a, ha, hrow⟩
      exact ⟨_, hactions ▸ List.mem_map_of_mem ha, by rwa [after_row]⟩
    refine ⟨?_, fun a ha => ?_, fun x hx row hrow => hmap (h.rows x (hlog x hx) row hrow),
      fun x hx y hy => h.locks x (hlog x hx) y (hlog y hy), fun v row hrow => hmap (h.pcs v row hrow),
      fun S e he hon hover => ?_⟩
    · simpa only [hactions, List.map_map, Function.comp_def, after_request_id] using h.ids
    · rw [hactions] at ha
      obtain ⟨b, hb, rfl⟩ := List.mem_map.1 ha
      obtain ⟨e, he, hkey⟩ := h.known b hb
      refine ⟨_, hevents ▸ List.mem_map_of_mem he, ?_⟩
      rw [after_event, ← hkey]
      split_ifs <;> rfl
    · -- what others see now is what they saw before together with the worker
      have he : e ∈ (s.tx.commit Write.apply w).db.events := he
      rw [hevents] at he
      obtain ⟨old, hold, rfl⟩ := List.mem_map.1 he
      have hkey : (if s.marked (· = w) old.key = true then old.toProcessed else old).key = old.key := by
        split_ifs <;> rfl
      rw [hkey] at hon hover ⊢
      have hover' : s.over (fun v => (S v && v ≠ w) || v = w) old.key := by
        rw [← over_seen, ← WriteLog.seenBy_commit h.independent]
        exact over_seen.2 hover
      have hon' : ∀ v, ((S v && v ≠ w) || v = w) = true → s.on v old.key = false := by
        intro v hv
        by_cases hvw : v = w
        · exact hvw ▸ on_none hpc _
        · refine Bool.eq_false_iff.2 fun hs => Bool.eq_false_iff.1 (hon v (by simpa [hvw] using hv)) ?_
          obtain ⟨row, hrow, b, hb, hbrow, hbevent⟩ := on_iff.1 hs
          exact on_iff.2 ⟨row, hrow, _, hactions ▸ List.mem_map_of_mem hb, by rwa [after_row], by rwa [after_event]⟩
      rcases h.settled _ old hold hon' hover' with hprocessed | hmarked
      · refine Or.inl ?_
        split_ifs
        · rfl
        · exact hprocessed
      · obtain ⟨x, hx, hxS, hmarks⟩ := marked_iff.1 hmarked
        by_cases hxw : x.1 = w
        · refine Or.inl ?_
          rw [if_pos (marked_iff.2 ⟨x, hx, decide_eq_true hxw, hmarks⟩)]
          rfl
        · have hxlog : x ∈ (s.tx.commit Write.apply w).log := List.mem_filter.2 ⟨hx, decide_eq_true hxw⟩
          exact Or.inr (marked_iff.2 ⟨x, hxlog, by simpa [hxw] using hxS, hmarks⟩)
  · exact h

theorem view_ids (h : IrInv s) (w : ℕ) : ((s.view w).actions.map ActionRequest.request_id).Nodup := by
  rw [IrWorld.view, WriteLog.view, seen_actions]
  simpa only [List.map_map, Function.comp_def, after_request_id] using h.ids

variable {a : ActionRequest}

/-- What the second statement takes for the event is that of the completed action. -/
theorem eventIdOf_view (h : IrInv s) (ha : a ∈ s.tx.db.actions) (w : ℕ) :
    eventIdOf a.request_id (s.view w) = some a.event_id := by
  rw [eventIdOf, find?_of_key (view_ids h w) (mem_view.2 ⟨a, ha, rfl⟩) (by simp [after_request_id]),
    if_pos (by simp [after_request_id]), Option.map_some]
  exact congrArg some (congrArg Prod.snd (after_event s _ a))

/-- An action that holds the event up for the worker holds it up for every set of workers with it, of which none
is about to look at the event. -/
theorem heldUp_seen (h : IrInv s) (ha : a ∈ s.tx.db.actions) (hrow : a.row = row) (hheld : HeldUp s w row)
    (hS : S w = true) (hon : ∀ v, v ≠ w → S v = true → s.on v a.event = false) : ¬s.over S a.event := by
  subst hrow
  obtain ⟨c, hc, ht, heid, hopen, hothers⟩ := hheld
  obtain ⟨b, hb, rfl⟩ := mem_view.1 hc
  rw [ActionRequest.row, eventIdOf_view h ha, Option.some.injEq] at heid
  have hevent : b.event = a.event := (after_event s _ b).symm.trans (Prod.ext ht heid)
  rw [after_row, after_event] at hothers
  rintro ⟨-, hall⟩
  have hclosed := hall b hb hevent
  by_cases hwritten : ∃ x ∈ s.tx.log, x.1 = w ∧ x.2.row = some b.row
  · -- the row is the worker's, who leaves it open
    obtain ⟨x, hx, hxw, hxrow⟩ := hwritten
    have hsame : s.after S b = s.after (· = w) b := by
      refine after_congr fun y hy hyrow => ?_
      have hyw : y.1 = w := (h.locks y hy x hx b.row hyrow hxrow).trans hxw
      rw [hyw, hS]
      exact (decide_eq_true rfl).symm
    rw [hsame, hopen] at hclosed
    cases hclosed
  · have hcommitted : s.after (· = w) b = b := after_none fun x hx hxrow =>
      decide_eq_false fun hxw => hwritten ⟨x, hx, hxw, hxrow⟩
    rw [hcommitted] at hopen
    rw [unsettled_after hopen fun x hx hxS => ?_] at hclosed
    · cases hclosed
    · refine Bool.eq_false_iff.2 fun hsettles => ?_
      have hxrow : x.2.row = some b.row := by
        cases hwrite : x.2 <;> simp_all [Write.settles, Write.row]
      have hxw : x.1 ≠ w := fun hxw => hwritten ⟨x, hx, hxw, hxrow⟩
      refine Bool.eq_false_iff.1 (hon x.1 hxw hxS) ?_
      exact hevent ▸ hothers x hx hxw hsettles

theorem processEvent_tx {t rid eid : String} (h : eventIdOf rid (s.view w) = some eid) :
    s.processEvent w (t, rid) = if someUnsettled t (some eid) (s.view w) = true then s.tx
      else s.tx.write w (.processed t eid) := by
  rw [IrWorld.processEvent, h]

/-- A worker has looked at the event of `a`, and has written nothing, or that it is processed. -/
theorem look_inv (h : IrInv s) (ha : a ∈ s.tx.db.actions) (hpc : s.pc w = some a.row) (hself : s'.pc w = none)
    (hothers : ∀ v, v ≠ w → s'.pc v = s.pc v)
    (htx : s'.tx = s.tx ∧ HeldUp s w a.row ∨ s'.tx = s.tx.write w (.processed a.tenant_id a.event_id)) : IrInv s' := by
  have hdb : s'.tx.db = s.tx.db := by
    rcases htx with ⟨htx, -⟩ | htx
    · rw [htx]
    · rw [htx]
      rfl
  have hlog : ∀ x ∈ s'.tx.log, ∀ row, x.2.row = some row → x ∈ s.tx.log := by
    intro x hx row hrow
    rcases htx with ⟨htx, -⟩ | htx
    · exact htx ▸ hx
    · rcases WriteLog.mem_write (htx ▸ hx) with hx | rfl
      · exact hx
      · cases hrow
  have hafter : ∀ S b, s'.after S b = s.after S b := by
    intro S b
    rcases htx with ⟨htx, -⟩ | htx
    · rw [IrWorld.after, htx, IrWorld.after]
    · rw [after_write htx]
      exact ite_self _
  have hmarked : ∀ {S event}, s.marked S event = true → s'.marked S event = true := by
    intro S event hmarked
    rcases htx with ⟨htx, -⟩ | htx
    · rwa [IrWorld.marked, htx]
    · exact marked_write htx hmarked
  refine ⟨hdb ▸ h.ids, hdb ▸ h.known, fun x hx row hrow => hdb ▸ h.rows x (hlog x hx row hrow) row hrow,
    fun x hx y hy row hxrow hyrow => h.locks x (hlog x hx row hxrow) y (hlog y hy row hyrow) row hxrow hyrow,
    fun v row hrow => ?_, fun S e he hon hover => ?_⟩
  · have hv : v ≠ w := by
      rintro rfl
      cases hself.symm.trans hrow
    exact hdb ▸ h.pcs v row ((hothers v hv).symm.trans hrow)
  · rw [hdb] at he
    have hover : s.over S e.key := by simpa only [IrWorld.over, hdb, hafter] using hover
    have hsame : ∀ v, v ≠ w → S v = true → s.on v e.key = false := by
      intro v hv hS
      rw [← on_other (congrArg IrDb.actions hdb) (hothers v hv)]
      exact hon v hS
    by_cases hmine : S w = true ∧ s.on w e.key = true
    · -- the event that the worker has looked at
      obtain ⟨hS, hmine⟩ := hmine
      obtain ⟨row, hrow, b, hb, hbrow, hevent⟩ := on_iff.1 hmine
      obtain rfl : b = a := by
        refine eq_of_key h.ids hb ha ?_
        exact congrArg Prod.snd (hbrow.trans (Option.some.inj (hrow.symm.trans hpc)))
      rw [← hevent] at hover hsame ⊢
      rcases htx with ⟨-, hheld⟩ | htx
      · exact absurd hover (heldUp_seen h ha rfl hheld hS hsame)
      · refine Or.inr (marked_iff.2 ⟨(w, .processed b.tenant_id b.event_id), ?_, hS, ?_⟩)
        · rw [htx]
          exact List.mem_append_right _ List.mem_cons_self
        · exact decide_eq_true rfl
    · refine (h.settled S e he (fun v hv => ?_) hover).imp_right hmarked
      by_cases hvw : v = w
      · exact hvw ▸ Bool.eq_false_iff.2 fun hs => hmine ⟨hvw ▸ hv, hs⟩
      · exact hsame v hvw hv

theorem process_inv (h : IrInv s) (w : ℕ) (hcond : NotHeldByOthers s (.process w)) : IrInv (s.step (.process w)) := by
  simp only [IrWorld.step]
  cases hpc : s.pc w with
  | none => exact h
  | some row =>
    obtain ⟨a, ha, rfl⟩ := h.pcs w row hpc
    have hcond : someUnsettled a.tenant_id (some a.event_id) (s.view w) = true → HeldUp s w a.row := by
      simpa [ActionRequest.row, eventIdOf_view h ha] using hcond a.row hpc
    refine look_inv h ha hpc (Function.update_self ..) (fun v hv => Function.update_of_ne hv ..) ?_
    have htx := processEvent_tx (t := a.tenant_id) (eventIdOf_view h ha w)
    by_cases hopen : someUnsettled a.tenant_id (some a.event_id) (s.view w) = true
    · exact Or.inl ⟨htx.trans (if_pos hopen), hcond hopen⟩
    · exact Or.inr (htx.trans (if_neg hopen))

/-- Every step that meets the condition keeps the invariant. -/
theorem step_inv (h : IrInv s) (a : IrAct) (hcond : NotHeldByOthers s a) : IrInv (s.step a) := by
  cases a with
  | store t eid => exact store_inv h t eid
  | enqueue now t eid kind rid => exact enqueue_inv h now t eid kind rid
  | mark t eid => exact mark_inv h t eid
  | claim w now t rid executor n => exact claim_inv h w now t rid executor n
  | settle w t rid executor r => exact settle_inv h w t rid executor r
  | process w => exact process_inv h w hcond
  | commit w => exact commit_inv h w
  | rollback w => exact rollback_inv h w

theorem IrInv.eventsSettle (h : IrInv s) : EventsSettle s.tx.db := by
  intro e he hover
  have hseen : s.tx.seenBy Write.apply (fun _ => false) = s.tx.db := WriteLog.seenBy_none fun _ => rfl
  rcases h.settled (fun _ => false) e he (fun _ h => nomatch h) (over_seen.1 (hseen.symm ▸ hover)) with hdone | hmarked
  · exact hdone
  · obtain ⟨x, -, hS, -⟩ := marked_iff.1 hmarked
    cases hS

/-- **Events settle** in every state of a run in which no second statement of a completion is held up only by
actions that other open transactions have completed and will not look at again. -/
theorem events_settle {run : List IrAct} (hrun : Guarded IrWorld.step NotHeldByOthers .init run)
    {pre post : List IrAct} (hpre : run = pre ++ post) : EventsSettle (pre.foldl IrWorld.step .init).tx.db := by
  rw [hpre, guarded_append] at hrun
  exact (hrun.1.invariant (fun s a h ha => step_inv h a ha) init_inv).eventsSettle

/-! ### The two statements are one function -/

/-! ### Two workers and one event -/

/-- The ticket is open. -/
def linkedResult : ActionResult := ⟨.linked, some "T-1", none⟩

/-- An event with two actions, each of them claimed by a worker. -/
def twoClaims : List IrAct :=
  [.store "t" "e", .enqueue 0 "t" "e" .open_ticket "a1", .enqueue 0 "t" "e" .notify "a2",
    .claim 1 0 "t" "a1" "x1" 60, .commit 1, .claim 2 0 "t" "a2" "x2" 60, .commit 2]

/-- Both complete before either commits. -/
def together : List IrAct :=
  twoClaims ++ [.settle 1 "t" "a1" "x1" linkedResult, .settle 2 "t" "a2" "x2" linkedResult, .process 1, .process 2,
    .commit 1, .commit 2]

/-- Each finds the other's action open, and nothing is left to do for the event. -/
theorem both_skip : ¬EventsSettle (together.foldl IrWorld.step .init).tx.db ∧
    g11_next_pending_action "t" (together.foldl IrWorld.step .init).tx.db = none := by decide

/-- One commits before the other looks at the event. -/
def oneByOne : List IrAct :=
  twoClaims ++ [.settle 1 "t" "a1" "x1" linkedResult, .settle 2 "t" "a2" "x2" linkedResult, .process 1, .commit 1,
    .process 2, .commit 2]

theorem one_by_one : EventsSettle (oneByOne.foldl IrWorld.step .init).tx.db :=
  events_settle (by decide) (List.append_nil _).symm

end JLMirror.IncidentResponse
