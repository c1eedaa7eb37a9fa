import JLMirror.Foundations.Run
import JLMirror.Sla.Checker
import Mathlib.Data.Int.Order.Basic
import Mathlib.Data.List.Count

/-!
# Breaches are recorded once

"At-most-once per flag flip", `_process_pending` says of itself. The flag guards the `UPDATE`, and nothing guards the
`INSERT` before it: a pass that read the tracker while it was still open inserts its row whatever has come in between.

## What is proved

* `Inv.step`: what a step keeps of the invariant (`Inv`), where the lock of an `UPDATE` carries what it has seen to the
  `COMMIT`.
* **Key result** (`breaches_once`): over every interleaving of any number of passes, acknowledgements and failures, each
  breach is that of one flip and in time (`Once`), as long as an `UPDATE` runs on a tracker that is still open (`Fresh`).
* `overlapping_passes_breach_twice`: two passes that read the same tracker record two breaches of one flip.
-/

namespace JLMirror.Sla

open JLMirror.Foundations JLMirror.Monitoring

/-! ### The claim -/

/-- The breach is of the tracker. -/
def SlaBreach.isOf (t : SlaAlertTracker) (type : BreachType) (b : SlaBreach) : Bool :=
  b.tenant_id = t.tenant_id ∧ b.alert_id = t.alert_id ∧ b.breach_type = type

/-- The breach is recorded after the deadline of a tracker that is not settled. -/
def Recorded.Timely (x : Recorded) : Prop :=
  ∃ t, x.tracker = some t ∧ x.row.isOf t x.row.breach_type ∧ t.settled_at x.row.breach_type = none ∧
    t.deadline x.row.breach_type < x.moment

/-- Breaches are recorded once, and in time. -/
structure Once (s : CheckerSystem) : Prop where
  counted : ∀ t ∈ s.db.trackers, ∀ type,
    s.db.breaches.countP (·.isOf t type) = s.flips.count (t.tracker_id, type) ∧ s.flips.count (t.tracker_id, type) ≤ 1
  recorded : s.recorded.map (·.row) = s.db.breaches
  timely : ∀ x ∈ s.recorded, x.Timely

/-- The trackers of an id are not breached, nor settled. -/
def SlaDb.Open (db : SlaDb) (type : BreachType) (tracker_id : String) : Prop :=
  ∀ t ∈ db.trackers, t.tracker_id = tracker_id → t.breached type = false ∧ t.settled_at type = none

/-- An `UPDATE` that does not wait runs on a tracker that is still open. -/
def Fresh (s : CheckerSystem) : CheckerAct → Prop
  | .next w _ =>
    ∀ p c row rest, s.pc w = .update p c row rest → s.locked c.tracker_id = false → s.db.Open p.type c.tracker_id
  | _ => True

/-! ### The invariant -/

/-- The candidate is of a tracker whose deadline has passed. -/
def CheckerSystem.Known (s : CheckerSystem) (p : Place) (c : Candidate) : Prop :=
  c.deadline < s.clock ∧ ∃ t ∈ s.db.trackers, t.tracker_id = c.tracker_id ∧ t.tenant_id = p.tenant_id ∧
    t.alert_id = c.alert_id ∧ t.deadline p.type = c.deadline

/-- The row is that of the candidate. -/
structure RowOf (p : Place) (c : Candidate) (row : SlaBreach) : Prop where
  tenant : row.tenant_id = p.tenant_id
  alert : row.alert_id = c.alert_id
  type : row.breach_type = p.type

/-- What a pass has in hand is of trackers, and what it is about to commit has their lock. -/
def CheckerSystem.Sound (s : CheckerSystem) (w : ℕ) : CheckerPoint → Prop
  | .idle | .select _ => True
  | .loop p rest => ∀ c ∈ rest, s.Known p c
  | .update p c row rest => (∀ c' ∈ c :: rest, s.Known p c') ∧ RowOf p c row
  | .commit p c row matched rest => (∀ c' ∈ c :: rest, s.Known p c') ∧ RowOf p c row ∧
    matched = true ∧ (c.tracker_id, w) ∈ s.locks ∧ s.db.Open p.type c.tracker_id

/-- The tables and the ghosts: the flags say how many breaches there are. -/
structure Consistent (s : CheckerSystem) : Prop where
  ids : (s.db.trackers.map (·.tracker_id)).Nodup
  alerts : ∀ t ∈ s.db.trackers, ∀ u ∈ s.db.trackers, t.tenant_id = u.tenant_id → t.alert_id = u.alert_id → t = u
  breaches : ∀ t ∈ s.db.trackers, ∀ type, s.db.breaches.countP (·.isOf t type) = (t.breached type).toNat
  flips : ∀ t ∈ s.db.trackers, ∀ type, s.flips.count (t.tracker_id, type) = (t.breached type).toNat
  ofTracker : ∀ b ∈ s.db.breaches, ∃ t ∈ s.db.trackers, b.tenant_id = t.tenant_id ∧ b.alert_id = t.alert_id
  ofId : ∀ f ∈ s.flips, ∃ t ∈ s.db.trackers, t.tracker_id = f.1
  recorded : s.recorded.map (·.row) = s.db.breaches
  timely : ∀ x ∈ s.recorded, x.Timely

/-- The invariant. -/
structure Inv (s : CheckerSystem) : Prop where
  consistent : Consistent s
  sound : ∀ w, s.Sound w (s.pc w)
  locks : (s.locks.map Prod.fst).Nodup
  started : ∀ w x, s.started w = some x → x ≤ s.clock

theorem Consistent.once {s : CheckerSystem} (h : Consistent s) : Once s where
  counted := fun t ht type => by
    rw [h.breaches t ht, h.flips t ht]
    exact ⟨rfl, Bool.toNat_le _⟩
  recorded := h.recorded
  timely := h.timely

/-! ### What the passes have in hand -/

section Steps

variable {s t : CheckerSystem} {w : ℕ} {p : Place} {c : Candidate}

/-- The trackers keep their ids, alerts and deadlines, and time does not run backwards. -/
structure Later (s t : CheckerSystem) : Prop where
  clock : s.clock ≤ t.clock
  trackers : ∀ x ∈ s.db.trackers, ∃ y ∈ t.db.trackers, y.tracker_id = x.tracker_id ∧ y.tenant_id = x.tenant_id ∧
    y.alert_id = x.alert_id ∧ ∀ type, y.deadline type = x.deadline type

theorem Later.of_eq (hclock : t.clock = s.clock) (hdb : t.db = s.db) : Later s t :=
  ⟨hclock.ge, fun x hx => ⟨x, hdb ▸ hx, rfl, rfl, rfl, fun _ => rfl⟩⟩

theorem CheckerSystem.Known.later (h : Later s t) (hc : s.Known p c) : t.Known p c := by
  obtain ⟨hpassed, x, hx, hid, htenant, halert, hdeadline⟩ := hc
  obtain ⟨y, hy, hid', htenant', halert', hdeadline'⟩ := h.trackers x hx
  exact ⟨hpassed.trans_le h.clock, y, hy, hid'.trans hid, htenant'.trans htenant, halert'.trans halert,
    (hdeadline' _).trans hdeadline⟩

/-- A worker keeps what it has, if it keeps its locks and what they guard. -/
theorem CheckerSystem.Sound.later {q : CheckerPoint} (h : Later s t)
    (hlocks : ∀ tracker_id, (tracker_id, w) ∈ s.locks → (tracker_id, w) ∈ t.locks ∧
      ∀ type, (∃ x ∈ s.db.trackers, x.tracker_id = tracker_id) → s.db.Open type tracker_id → t.db.Open type tracker_id)
    (hq : s.Sound w q) : t.Sound w q := by
  cases q with
  | idle => trivial
  | select p => trivial
  | loop p rest => exact fun c hc => (hq c hc).later h
  | update p c row rest => exact ⟨fun c' hc => (hq.1 c' hc).later h, hq.2⟩
  | commit p c row matched rest =>
    obtain ⟨hknown, hrow, hmatched, hlock, hopen⟩ := hq
    obtain ⟨-, x, hx, hid, -⟩ := hknown c List.mem_cons_self
    exact ⟨fun c' hc => (hknown c' hc).later h, hrow, hmatched, (hlocks _ hlock).1, (hlocks _ hlock).2 _ ⟨x, hx, hid⟩ hopen⟩

theorem Consistent.of_eq (h : Consistent s) (hdb : t.db = s.db) (hflips : t.flips = s.flips)
    (hrecorded : t.recorded = s.recorded) : Consistent t where
  ids := hdb ▸ h.ids
  alerts := hdb ▸ h.alerts
  breaches := hdb ▸ h.breaches
  flips := hdb ▸ hflips ▸ h.flips
  ofTracker := hdb ▸ h.ofTracker
  ofId := hdb ▸ hflips ▸ h.ofId
  recorded := hdb ▸ hrecorded ▸ h.recorded
  timely := hrecorded ▸ h.timely

/-- A worker goes on, and the tables stay as they are. -/
theorem Inv.goto {q : CheckerPoint} (h : Inv s) (hdb : t.db = s.db) (hflips : t.flips = s.flips)
    (hrecorded : t.recorded = s.recorded) (hclock : t.clock = s.clock) (hpc : t.pc = Function.update s.pc w q)
    (hq : t.Sound w q) (hothers : ∀ v, v ≠ w → ∀ tracker_id, (tracker_id, v) ∈ s.locks → (tracker_id, v) ∈ t.locks)
    (hlocks : (t.locks.map Prod.fst).Nodup) (hstarted : ∀ v x, t.started v = some x → x ≤ t.clock) : Inv t where
  consistent := h.consistent.of_eq hdb hflips hrecorded
  sound := fun v => by
    rw [hpc]
    by_cases hv : v = w
    · subst hv
      rwa [Function.update_self]
    · rw [Function.update_of_ne hv]
      exact (h.sound v).later (.of_eq hclock hdb) fun tracker_id hlock =>
        ⟨hothers v hv tracker_id hlock, fun type _ hopen => hdb ▸ hopen⟩
  locks := hlocks
  started := hstarted

/-- `now()` is not ahead of the clock. -/
theorem Inv.now_le (h : Inv s) (w : ℕ) : s.now w ≤ s.clock := by
  cases hw : s.started w with
  | none => rw [CheckerSystem.now, hw, Option.getD_none]
  | some x =>
    rw [CheckerSystem.now, hw, Option.getD_some]
    exact h.started w x hw

/-- A statement of a worker, after which its locks are the same. -/
theorem Inv.run {q : CheckerPoint} (h : Inv s) (hq : s.Sound w q) : Inv ((s.run w).goto w q) := by
  refine h.goto rfl rfl rfl rfl rfl ?_ (fun _ _ _ hlock => hlock) h.locks fun v x hx => ?_
  · exact hq.later (.of_eq rfl rfl) fun _ hlock => ⟨hlock, fun _ _ hopen => hopen⟩
  · change Function.update s.started w (some (s.now w)) v = some x at hx
    by_cases hv : v = w
    · subst hv
      rw [Function.update_self] at hx
      exact Option.some.inj hx ▸ h.now_le v
    · rw [Function.update_of_ne hv] at hx
      exact h.started v x hx

variable {tracker_id : String}

theorem mem_locks_ended {v : ℕ} (hv : v ≠ w) (h : (tracker_id, v) ∈ s.locks) : (tracker_id, v) ∈ (s.ended w).locks :=
  List.mem_filter.2 ⟨h, decide_eq_true hv⟩

theorem Inv.locks_ended (h : Inv s) (w : ℕ) : ((s.ended w).locks.map Prod.fst).Nodup :=
  h.locks.sublist (List.filter_sublist.map _)

theorem Inv.started_ended (h : Inv s) {v : ℕ} {x : Timestamp} (hx : (s.ended w).started v = some x) : x ≤ s.clock := by
  change Function.update s.started w none v = some x at hx
  by_cases hv : v = w
  · subst hv
    rw [Function.update_self] at hx
    cases hx
  · rw [Function.update_of_ne hv] at hx
    exact h.started v x hx

/-- A transaction that is rolled back leaves nothing, and the worker is between two breaches. -/
theorem Inv.rollback {q : CheckerPoint} (h : Inv s) (hq : ∀ u : CheckerSystem, Later s u → u.Sound w q) :
    Inv ((s.ended w).goto w q) :=
  h.goto rfl rfl rfl rfl rfl (hq _ (.of_eq rfl rfl)) (fun _ hv _ hlock => mem_locks_ended hv hlock) (h.locks_ended w)
    fun _ _ hx => h.started_ended hx

variable {rest : List Candidate}

theorem sound_loop (h : ∀ c ∈ rest, s.Known p c) : ∀ u : CheckerSystem, Later s u → u.Sound w (.loop p rest) :=
  fun _ hu c hc => (h c hc).later hu

/-! ### The commit of a breach -/

theorem breached_breach (x : SlaAlertTracker) (type type' : BreachType) :
    (x.breach type).breached type' = (x.breached type' || decide (type' = type)) := by
  cases type <;> cases type' <;> simp [SlaAlertTracker.breach, SlaAlertTracker.breached]

/-- A tracker after the breach, with the one that it was. -/
theorem mem_breach {db : SlaDb} {type : BreachType} (hopen : db.Open type tracker_id) {y : SlaAlertTracker}
    (hy : y ∈ (db.breach tracker_id type).trackers) :
    ∃ x ∈ db.trackers, y.tracker_id = x.tracker_id ∧ y.tenant_id = x.tenant_id ∧ y.alert_id = x.alert_id ∧
      (∀ type', y.breached type' = (x.breached type' || decide (x.tracker_id = tracker_id ∧ type' = type))) ∧
      (x.tracker_id ≠ tracker_id → y = x) := by
  obtain ⟨x, hx, rfl⟩ := mem_updateWhere.1 hy
  refine ⟨x, hx, ?_⟩
  by_cases hid : x.tracker_id = tracker_id
  · rw [if_pos (decide_eq_true ⟨hid, (hopen x hx hid).1⟩)]
    refine ⟨by cases type <;> rfl, by cases type <;> rfl, by cases type <;> rfl, fun type' => ?_, (absurd hid ·)⟩
    rw [breached_breach]
    simp [hid]
  · rw [if_neg (by simp [hid])]
    exact ⟨rfl, rfl, rfl, fun type' => by simp [hid], fun _ => rfl⟩

theorem later_breach (s : CheckerSystem) (tracker_id : String) (type : BreachType) (hclock : t.clock = s.clock)
    (htrackers : t.db.trackers = (s.db.breach tracker_id type).trackers) : Later s t := by
  refine ⟨hclock.ge, fun x hx => ?_⟩
  rw [htrackers]
  refine ⟨_, mem_updateWhere.2 ⟨x, hx, rfl⟩, ?_⟩
  split_ifs
  · cases type <;> exact ⟨rfl, rfl, rfl, fun type' => by cases type' <;> rfl⟩
  · exact ⟨rfl, rfl, rfl, fun _ => rfl⟩

variable {row : SlaBreach}

/-- A row is that of the tracker that its candidate is of. -/
theorem isOf_row (h : Consistent s) (hc : s.Known p c) (hrow : RowOf p c row) {x : SlaAlertTracker}
    (hx : x ∈ s.db.trackers) (type : BreachType) :
    row.isOf x type = decide (x.tracker_id = c.tracker_id ∧ type = p.type) := by
  obtain ⟨-, y, hy, hid, htenant, halert, -⟩ := hc
  refine decide_eq_decide.2 ⟨?_, ?_⟩
  · rintro ⟨htenant', halert', htype⟩
    obtain rfl := h.alerts y hy x hx (htenant.trans (hrow.tenant.symm.trans htenant'))
      (halert.trans (hrow.alert.symm.trans halert'))
    exact ⟨hid, htype.symm.trans hrow.type⟩
  · rintro ⟨hid', htype⟩
    obtain rfl : y = x := eq_of_key h.ids hy hx (hid.trans hid'.symm)
    exact ⟨hrow.tenant.trans htenant.symm, hrow.alert.trans halert.symm, hrow.type.trans htype.symm⟩

/-- The flag, the breach and the flip come together. -/
theorem Consistent.commit (h : Consistent s) (hc : s.Known p c) (hrow : RowOf p c row)
    (hopen : s.db.Open p.type c.tracker_id)
    (hdb : t.db = { s.db.breach c.tracker_id p.type with breaches := s.db.breaches ++ [row] })
    (hflips : t.flips = s.flips ++ [(c.tracker_id, p.type)])
    (hrecorded : t.recorded = s.recorded ++ [⟨row, s.db.tracker c.tracker_id, s.clock⟩]) : Consistent t := by
  have hmem : ∀ y ∈ t.db.trackers, y ∈ (s.db.breach c.tracker_id p.type).trackers := by
    rw [hdb]
    exact fun _ => id
  have hbreaches : t.db.breaches = s.db.breaches ++ [row] := by rw [hdb]
  have hkept : ∀ x ∈ s.db.trackers, ∃ y ∈ t.db.trackers, y.tracker_id = x.tracker_id ∧ y.tenant_id = x.tenant_id ∧
      y.alert_id = x.alert_id ∧ ∀ type, y.deadline type = x.deadline type := by
    rw [hdb]
    exact (later_breach (t := { s with db := s.db.breach c.tracker_id p.type }) s c.tracker_id p.type rfl rfl).trackers
  -- the flag was not set, as the tracker was open
  have hflag : ∀ x ∈ s.db.trackers, ∀ type, (x.tracker_id = c.tracker_id ∧ type = p.type) → x.breached type = false := by
    rintro x hx type ⟨hid, rfl⟩
    exact (hopen x hx hid).1
  obtain ⟨hpassed, x, hx, hid, htenant, halert, hdeadline⟩ := id hc
  have hone : ∀ x ∈ s.db.trackers, ∀ type,
      (x.breached type).toNat + (if x.tracker_id = c.tracker_id ∧ type = p.type then 1 else 0) =
        (x.breached type || decide (x.tracker_id = c.tracker_id ∧ type = p.type)).toNat := by
    intro x hx type
    split_ifs with hsel
    · rw [hflag x hx type hsel, decide_eq_true hsel]
      rfl
    · rw [decide_eq_false hsel, Bool.or_false, Nat.add_zero]
  have hids : (t.db.trackers.map (·.tracker_id)).Nodup := by
    have hmap : (s.db.breach c.tracker_id p.type).trackers.map (·.tracker_id) = s.db.trackers.map (·.tracker_id) :=
      map_updateWhere (fun x => by cases p.type <;> rfl) _
    rw [hdb]
    exact hmap ▸ h.ids
  constructor
  · exact hids
  · intro y hy z hz htenant' halert'
    obtain ⟨x, hx, hxid, hxt, hxa, -⟩ := mem_breach hopen (hmem y hy)
    obtain ⟨u, hu, huid, hut, hua, -⟩ := mem_breach hopen (hmem z hz)
    obtain rfl := h.alerts x hx u hu (hxt.symm.trans (htenant'.trans hut)) (hxa.symm.trans (halert'.trans hua))
    exact eq_of_key hids hy hz (hxid.trans huid.symm)
  · intro y hy type
    obtain ⟨x, hx, -, hxt, hxa, hxb, -⟩ := mem_breach hopen (hmem y hy)
    have hsame : ∀ b : SlaBreach, b.isOf y type = b.isOf x type := fun b => by
      rw [SlaBreach.isOf, SlaBreach.isOf, hxt, hxa]
    rw [hbreaches, List.countP_append, List.countP_congr fun b _ => iff_of_eq (congrArg (· = true) (hsame b)),
      h.breaches x hx, List.countP_singleton, hsame, isOf_row h hc hrow hx, hxb, ← hone x hx]
    simp only [decide_eq_true_eq]
  · intro y hy type
    obtain ⟨x, hx, hxid, -, -, hxb, -⟩ := mem_breach hopen (hmem y hy)
    rw [hflips, List.count_append, hxid, h.flips x hx, hxb, ← hone x hx, List.count_singleton]
    refine congrArg _ (if_congr ?_ rfl rfl)
    rw [beq_iff_eq, Prod.mk.injEq]
    exact and_congr eq_comm eq_comm
  · intro b hb
    rw [hbreaches] at hb
    rcases List.mem_append.1 hb with hold | hnew
    · obtain ⟨x, hx, hbt, hba⟩ := h.ofTracker b hold
      obtain ⟨y, hy, -, hyt, hya, -⟩ := hkept x hx
      exact ⟨y, hy, hbt.trans hyt.symm, hba.trans hya.symm⟩
    · obtain rfl := List.mem_singleton.1 hnew
      obtain ⟨y, hy, -, hyt, hya, -⟩ := hkept x hx
      exact ⟨y, hy, hrow.tenant.trans (htenant.symm.trans hyt.symm), hrow.alert.trans (halert.symm.trans hya.symm)⟩
  · intro f hf
    rw [hflips] at hf
    rcases List.mem_append.1 hf with hold | hnew
    · obtain ⟨x, hx, hxid⟩ := h.ofId f hold
      obtain ⟨y, hy, hyid, -⟩ := hkept x hx
      exact ⟨y, hy, hyid.trans hxid⟩
    · obtain rfl := List.mem_singleton.1 hnew
      obtain ⟨y, hy, hyid, -⟩ := hkept x hx
      exact ⟨y, hy, hyid.trans hid⟩
  · rw [hrecorded, hbreaches, List.map_append, h.recorded]
    rfl
  · intro r hr
    rw [hrecorded] at hr
    rcases List.mem_append.1 hr with hold | hnew
    · exact h.timely r hold
    · obtain rfl := List.mem_singleton.1 hnew
      have hfind : s.db.tracker c.tracker_id = some x := by
        rw [SlaDb.tracker, find?_of_key h.ids hx fun y hy => (of_decide_eq_true hy).trans hid.symm,
          if_pos (decide_eq_true hid)]
      refine ⟨x, hfind, ?_, ?_, ?_⟩
      · rw [isOf_row h hc hrow hx]
        exact decide_eq_true ⟨hid, hrow.type⟩
      · exact hrow.type ▸ (hopen x hx hid).2
      · exact hrow.type ▸ hdeadline ▸ hpassed

variable {breach_id : String}

theorem inv_commit {matched : Bool} (h : Inv s) (hw : s.pc w = .commit p c row matched rest) :
    Inv (s.next w breach_id) := by
  have hsound := h.sound w
  rw [hw] at hsound
  obtain ⟨hknown, hrow, rfl, hlock, hopen⟩ := hsound
  have hc := hknown c List.mem_cons_self
  simp only [CheckerSystem.next, hw, if_true]
  have hlater : Later s (s.next w breach_id) := by
    simp only [CheckerSystem.next, hw, if_true]
    exact later_breach s c.tracker_id p.type rfl rfl
  simp only [CheckerSystem.next, hw, if_true] at hlater
  refine ⟨h.consistent.commit hc hrow hopen rfl rfl rfl, fun v => ?_, h.locks_ended w, fun v x hx => h.started_ended hx⟩
  by_cases hv : v = w
  · subst hv
    simp only [CheckerSystem.goto, Function.update_self]
    exact fun c' hc' => (hknown c' (List.mem_cons_of_mem c hc')).later hlater
  · simp only [CheckerSystem.goto, Function.update_of_ne hv]
    refine (h.sound v).later hlater fun tracker_id hother => ⟨mem_locks_ended hv hother, fun type _ hopen' y hy hid => ?_⟩
    -- the rows that the others have locked are other rows
    obtain ⟨x, hx, hxid, -, -, -, hsame⟩ := mem_breach hopen hy
    have hne : x.tracker_id ≠ c.tracker_id := by
      intro heq
      have hpair : (tracker_id, v) = (c.tracker_id, w) :=
        eq_of_key h.locks hother hlock (hid.symm.trans (hxid.trans heq))
      exact hv (congrArg Prod.snd hpair)
    exact hopen' y (hsame hne ▸ hx) hid

theorem inv_update (h : Inv s) (hw : s.pc w = .update p c row rest) (hok : Fresh s (.next w breach_id)) :
    Inv (s.next w breach_id) := by
  have hsound := h.sound w
  rw [hw] at hsound
  obtain ⟨hknown, hrow⟩ := hsound
  simp only [CheckerSystem.next, hw]
  by_cases hlocked : s.locked c.tracker_id = true
  · rw [if_pos hlocked]
    exact h
  · have hopen := hok p c row rest hw (by simpa using hlocked)
    obtain ⟨-, x, hx, hid, -⟩ := hknown c List.mem_cons_self
    have hmatched : s.db.matched c.tracker_id p.type = true :=
      List.any_eq_true.2 ⟨x, hx, decide_eq_true ⟨hid, (hopen x hx hid).1⟩⟩
    rw [if_neg hlocked, if_pos hmatched]
    have hlock : (c.tracker_id, w) ∈ s.locks ++ [(c.tracker_id, w)] := List.mem_append_right _ (List.mem_singleton.2 rfl)
    refine h.goto rfl rfl rfl rfl rfl ⟨fun c' hc' => (hknown c' hc').later (.of_eq rfl rfl), hrow, rfl, hlock, hopen⟩
      (fun _ _ _ hother => List.mem_append_left _ hother) (nodup_map_append_new h.locks fun l hl heq => ?_) h.started
    exact hlocked (List.any_eq_true.2 ⟨l, hl, decide_eq_true heq⟩)

theorem inv_next (h : Inv s) (hok : Fresh s (.next w breach_id)) : Inv (s.next w breach_id) := by
  cases hw : s.pc w with
  | idle =>
    simp only [CheckerSystem.next, hw]
    exact h
  | select p =>
    simp only [CheckerSystem.next, hw]
    exact h
  | loop p rest =>
    have hsound := h.sound w
    rw [hw] at hsound
    cases rest with
    | nil =>
      simp only [CheckerSystem.next, hw]
      refine h.goto rfl rfl rfl rfl rfl ?_ (fun _ _ _ hlock => hlock) h.locks h.started
      unfold Place.next
      split <;> trivial
    | cons c rest =>
      have hrest : ∀ c' ∈ rest, s.Known p c' := fun c' hc' => hsound c' (List.mem_cons_of_mem c hc')
      simp only [CheckerSystem.next, hw]
      split_ifs
      · exact h.rollback (sound_loop hrest)
      · exact h.run ⟨hsound, rfl, rfl, rfl⟩
  | update p c row rest => exact inv_update h hw hok
  | commit p c row matched rest => exact inv_commit h hw

theorem inv_fail (h : Inv s) : Inv (s.fail w) := by
  have hsound := h.sound w
  unfold CheckerSystem.fail
  split
  · rename_i p c rest hw
    rw [hw] at hsound
    exact h.rollback (sound_loop fun c' hc' => hsound c' (List.mem_cons_of_mem c hc'))
  · rename_i p c row rest hw
    rw [hw] at hsound
    exact h.rollback (sound_loop fun c' hc' => hsound.1 c' (List.mem_cons_of_mem c hc'))
  · rename_i p c row matched rest hw
    rw [hw] at hsound
    exact h.rollback (sound_loop fun c' hc' => hsound.1 c' (List.mem_cons_of_mem c hc'))
  · exact h.rollback fun _ _ => trivial

theorem known_of_candidate {now : Timestamp} (hnow : now ≤ s.clock) (h : c ∈ s.db.candidates now p.tenant_id p.type) :
    s.Known p c := by
  obtain ⟨x, hx, rfl⟩ := List.mem_map.1 h
  obtain ⟨hx, hsel⟩ := List.mem_filter.1 hx
  obtain ⟨htenant, -, -, hpassed⟩ := of_decide_eq_true hsel
  exact ⟨hpassed.trans_le hnow, x, hx, rfl, htenant, rfl, rfl⟩

/-! ### What others do -/

theorem inv_track {x : SlaAlertTracker} (h : Inv s) : Inv (s.step (.track x)) := by
  simp only [CheckerSystem.step]
  split_ifs with hclash
  · exact h
  · obtain ⟨hresponse, hresolve, hnew⟩ : x.response_breached = false ∧ x.resolve_breached = false ∧
        ∀ u ∈ s.db.trackers, u.tracker_id ≠ x.tracker_id ∧ ¬(u.tenant_id = x.tenant_id ∧ u.alert_id = x.alert_id) := by
      simpa only [not_or, Bool.not_eq_true, List.any_eq_false, decide_eq_true_eq] using hclash
    have hflag : ∀ type, x.breached type = false := fun type => by cases type <;> assumption
    have hmem : ∀ y ∈ s.db.trackers ++ [x], y ∈ s.db.trackers ∨ y = x := fun y hy =>
      (List.mem_append.1 hy).imp id List.mem_singleton.1
    have hc := h.consistent
    refine ⟨⟨nodup_map_append_new hc.ids fun u hu => (hnew u hu).1, ?_, ?_, ?_, ?_, ?_, hc.recorded, hc.timely⟩,
      fun w => ?_, h.locks, h.started⟩
    · intro y hy z hz htenant halert
      rcases hmem y hy with hold | rfl <;> rcases hmem z hz with hold' | rfl
      · exact hc.alerts y hold z hold' htenant halert
      · exact absurd ⟨htenant, halert⟩ (hnew y hold).2
      · exact absurd ⟨htenant.symm, halert.symm⟩ (hnew z hold').2
      · rfl
    · intro y hy type
      rcases hmem y hy with hy | rfl
      · exact hc.breaches y hy type
      · refine (List.countP_eq_zero.2 fun b hb hof => ?_).trans (by rw [hflag]; rfl)
        obtain ⟨u, hu, hut, hua⟩ := hc.ofTracker b hb
        obtain ⟨ht, ha, -⟩ := of_decide_eq_true hof
        exact (hnew u hu).2 ⟨hut.symm.trans ht, hua.symm.trans ha⟩
    · intro y hy type
      rcases hmem y hy with hy | rfl
      · exact hc.flips y hy type
      · refine (List.count_eq_zero.2 fun hf => ?_).trans (by rw [hflag]; rfl)
        obtain ⟨u, hu, hid⟩ := hc.ofId _ hf
        exact (hnew u hu).1 hid
    · intro b hb
      obtain ⟨u, hu, hkey⟩ := hc.ofTracker b hb
      exact ⟨u, List.mem_append_left _ hu, hkey⟩
    · intro f hf
      obtain ⟨u, hu, hid⟩ := hc.ofId f hf
      exact ⟨u, List.mem_append_left _ hu, hid⟩
    · have hlater : Later s { s with db := { s.db with trackers := s.db.trackers ++ [x] } } :=
        ⟨le_rfl, fun u hu => ⟨u, List.mem_append_left _ hu, rfl, rfl, rfl, fun _ => rfl⟩⟩
      refine CheckerSystem.Sound.later hlater (fun tracker_id hlock => ⟨hlock, ?_⟩) (h.sound w)
      rintro type ⟨u, hu, huid⟩ hopen y hy hid
      rcases hmem y hy with hold | rfl
      · exact hopen y hold hid
      · exact absurd (huid.trans hid.symm) (hnew u hu).1

theorem inv_touch {acknowledged_at resolved_at : Option Timestamp} (h : Inv s) :
    Inv (s.step (.touch tracker_id acknowledged_at resolved_at)) := by
  simp only [CheckerSystem.step]
  split_ifs with hlocked
  · exact h
  · have hc := h.consistent
    -- a row keeps all but what is set
    have hmem : ∀ y ∈ (s.db.touch tracker_id acknowledged_at resolved_at).trackers, ∃ x ∈ s.db.trackers,
        y.tracker_id = x.tracker_id ∧ y.tenant_id = x.tenant_id ∧ y.alert_id = x.alert_id ∧
          (∀ type, y.breached type = x.breached type) ∧ (x.tracker_id ≠ tracker_id → y = x) := by
      intro y hy
      obtain ⟨x, hx, rfl⟩ := mem_updateWhere.1 hy
      refine ⟨x, hx, ?_⟩
      split_ifs with hid
      · exact ⟨rfl, rfl, rfl, fun type => by cases type <;> rfl, fun hne => absurd (of_decide_eq_true hid) hne⟩
      · exact ⟨rfl, rfl, rfl, fun _ => rfl, fun _ => rfl⟩
    have hids : ((s.db.touch tracker_id acknowledged_at resolved_at).trackers.map (·.tracker_id)).Nodup := by
      have hmap : (s.db.touch tracker_id acknowledged_at resolved_at).trackers.map (·.tracker_id) =
          s.db.trackers.map (·.tracker_id) := map_updateWhere (fun _ => by rfl) _
      exact hmap ▸ hc.ids
    have hlater : Later s (s.step (.touch tracker_id acknowledged_at resolved_at)) := by
      simp only [CheckerSystem.step, if_neg hlocked]
      refine ⟨le_rfl, fun x hx => ⟨_, mem_updateWhere.2 ⟨x, hx, rfl⟩, ?_⟩⟩
      split_ifs
      · exact ⟨rfl, rfl, rfl, fun type => by cases type <;> rfl⟩
      · exact ⟨rfl, rfl, rfl, fun _ => rfl⟩
    simp only [CheckerSystem.step, if_neg hlocked] at hlater
    refine ⟨⟨hids, ?_, ?_, ?_, ?_, ?_, hc.recorded, hc.timely⟩, fun w => ?_, h.locks, h.started⟩
    · intro y hy z hz htenant halert
      obtain ⟨x, hx, hxid, hxt, hxa, -⟩ := hmem y hy
      obtain ⟨u, hu, huid, hut, hua, -⟩ := hmem z hz
      obtain rfl := hc.alerts x hx u hu (hxt.symm.trans (htenant.trans hut)) (hxa.symm.trans (halert.trans hua))
      exact eq_of_key hids hy hz (hxid.trans huid.symm)
    · intro y hy type
      obtain ⟨x, hx, -, hxt, hxa, hxb, -⟩ := hmem y hy
      rw [hxb, ← hc.breaches x hx type]
      refine List.countP_congr fun b _ => ?_
      rw [SlaBreach.isOf, SlaBreach.isOf, hxt, hxa]
    · intro y hy type
      obtain ⟨x, hx, hxid, -, -, hxb, -⟩ := hmem y hy
      rw [hxb, hxid]
      exact hc.flips x hx type
    · intro b hb
      obtain ⟨x, hx, hbt, hba⟩ := hc.ofTracker b hb
      obtain ⟨y, hy, -, hyt, hya, -⟩ := hlater.trackers x hx
      exact ⟨y, hy, hbt.trans hyt.symm, hba.trans hya.symm⟩
    · intro f hf
      obtain ⟨x, hx, hid⟩ := hc.ofId f hf
      obtain ⟨y, hy, hyid, -⟩ := hlater.trackers x hx
      exact ⟨y, hy, hyid.trans hid⟩
    · refine (h.sound w).later hlater fun locked hlock => ⟨hlock, fun type _ hopen y hy hid => ?_⟩
      -- a row that is locked is another row
      obtain ⟨x, hx, hxid, -, -, -, hsame⟩ := hmem y hy
      have hne : x.tracker_id ≠ tracker_id := fun heq =>
        hlocked (List.any_eq_true.2 ⟨_, hlock, decide_eq_true (hid.symm.trans (hxid.trans heq))⟩)
      exact hopen y (hsame hne ▸ hx) hid

theorem inv_step (s : CheckerSystem) (a : CheckerAct) (h : Inv s) (hok : Fresh s a) : Inv (s.step a) := by
  cases a with
  | advance d =>
    have hle : s.clock ≤ s.clock + d := Int.le_add_of_nonneg_right (Int.natCast_nonneg d)
    have hlater : Later s { s with clock := s.clock + d } :=
      ⟨hle, fun x hx => ⟨x, hx, rfl, rfl, rfl, fun _ => rfl⟩⟩
    exact ⟨h.consistent.of_eq rfl rfl rfl,
      fun w => (h.sound w).later hlater fun _ hlock => ⟨hlock, fun _ _ hopen => hopen⟩, h.locks,
      fun w x hx => (h.started w x hx).trans hle⟩
  | track x => exact inv_track h
  | touch tracker_id acknowledged_at resolved_at => exact inv_touch h
  | begin w answer =>
    simp only [CheckerSystem.step]
    split
    · split_ifs
      · cases answer with
        | nil =>
          have hgo := h.run (w := w) (h.sound w)
          simpa only [CheckerSystem.goto, CheckerSystem.run, Function.update_eq_self] using hgo
        | cons tenant_id tenants => exact h.run trivial
      · exact h
    · exact h
  | select w answer =>
    simp only [CheckerSystem.step]
    split
    · split_ifs with hperm
      · exact h.run fun c hc => known_of_candidate (h.now_le w) (hperm.subset hc)
      · exact h
    · exact h
  | next w breach_id => exact inv_next h hok
  | fail w => exact inv_fail h
  | die w => exact h.rollback fun _ _ => trivial

end Steps

theorem inv_init : Inv .init where
  consistent := ⟨List.nodup_nil, fun _ h => absurd h List.not_mem_nil, fun _ h => absurd h List.not_mem_nil,
    fun _ h => absurd h List.not_mem_nil, fun _ h => absurd h List.not_mem_nil, fun _ h => absurd h List.not_mem_nil, rfl,
    fun _ h => absurd h List.not_mem_nil⟩
  sound := fun _ => trivial
  locks := List.nodup_nil
  started := fun _ _ h => by cases h

/-- **Key result**: breaches are recorded once, and in time, in every run whose updates are fresh. -/
theorem breaches_once (run : List CheckerAct) (hrun : Guarded CheckerSystem.step Fresh .init run) :
    Once (run.foldl CheckerSystem.step .init) :=
  (hrun.invariant inv_step inv_init).consistent.once

/-! ### Runs -/

/-- A tracker with ten seconds to acknowledge its alert, and twenty to resolve it. -/
def goldTracker : SlaAlertTracker :=
  ⟨"slat:1", "acme", "alert:1", "sla:gold", 10, 20, none, none, false, false⟩

/-- A pass that records the late response. -/
def latePass : List CheckerAct :=
  [.track goldTracker, .advance 15, .begin 0 ["acme"], .select 0 [⟨"slat:1", "alert:1", "sla:gold", 10⟩], .next 0 "slabr:1",
    .next 0 "", .next 0 ""]

theorem latePass_once : Once (latePass.foldl CheckerSystem.step .init) := by
  refine breaches_once latePass ⟨trivial, trivial, trivial, trivial, ?_, ?_, ?_, trivial⟩
  · rintro p c row rest ⟨⟩
  · rintro p c row rest ⟨⟩ - t ht -
    cases List.mem_singleton.1 ht
    exact ⟨rfl, rfl⟩
  · rintro p c row rest ⟨⟩

/-- **Two breaches of one flip**: two passes read the tracker before one of them commits. -/
theorem overlapping_passes_breach_twice :
    ¬Once ([.track goldTracker, .advance 15, .begin 0 ["acme"], .select 0 [⟨"slat:1", "alert:1", "sla:gold", 10⟩],
      .begin 1 ["acme"], .select 1 [⟨"slat:1", "alert:1", "sla:gold", 10⟩], .next 0 "slabr:1", .next 0 "", .next 0 "",
      .next 1 "slabr:2", .next 1 "", .next 1 ""].foldl CheckerSystem.step .init) := by
  intro h
  have hcount := (h.counted { goldTracker with response_breached := true } List.mem_cons_self .response).1
  exact absurd hcount (by decide)

end JLMirror.Sla
