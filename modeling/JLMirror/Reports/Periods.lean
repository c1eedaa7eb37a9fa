import JLMirror.Foundations.Table
import JLMirror.Reports.Sender
import Mathlib.Data.List.Chain

/-!
# The periods of the reports

The period of a delivery is the interval of its schedule that ends with the time of the pass, whatever came before. A pass
that is late leaves a gap as long as it is late, and a delivery that fails is not made up for; but no period reaches back
into an earlier one.

## What is proved

* `Sender.Inv`, kept by each step (`inv_step`): each delivery of a schedule was due one interval after the period of the
  one before.
* **Key result** (`reports_apart`): the periods of a schedule never overlap, the gap between two deliveries is how late
  the second one was, and a row is counted in one sent report of a schedule at most.
* `late_pass_leaves_gap`: five seconds late, and a breach in them is in no report.
-/

namespace JLMirror.Reports

open JLMirror.Foundations JLMirror.Automation

/-! ### The claims -/

/-- The periods of the reports that were sent meet, and each row in them is counted once. -/
def Tiles (s : Sender) : Prop :=
  ∀ k, let sent := (s.ofSchedule k).filter fun d => d.outcome = .sent
    sent.IsChain (fun d d' => d.period_end = d'.period_start) ∧
      ∀ first ∈ sent.head?, ∀ last ∈ sent.getLast?, ∀ row ∈ s.rows, row.kind = first.report_type →
        row.tenant_id = first.tenant_id → first.period_start ≤ row.moment → row.moment < last.period_end →
          (sent.countP fun d => row ∈ d.counted) = 1

/-- What holds of the periods. -/
structure Apart (s : Sender) : Prop where
  /-- A period is the interval of the schedule that ends with the pass, and the pass is not early. -/
  trailing : ∀ d ∈ s.deliveries, ∃ r ∈ s.schedules, r.report_schedule_id = d.report_schedule_id ∧
    d.period_start = d.period_end - seconds r.interval_secs ∧ d.due_at ≤ d.period_end
  /-- Periods do not overlap. -/
  apart : ∀ k, (s.ofSchedule k).Pairwise fun d d' => d.period_end ≤ d'.period_start
  /-- The gap between two deliveries is how late the second one was. -/
  gap : ∀ k pre d d' post, s.ofSchedule k = pre ++ d :: d' :: post →
    d'.period_start - d.period_end = d'.period_end - d'.due_at
  /-- Two periods meet if no delivery lies between them and the second one was not late, and only then. -/
  meet : ∀ k pre d mid d' post, s.ofSchedule k = pre ++ d :: (mid ++ d' :: post) →
    (d.period_end = d'.period_start ↔ mid = [] ∧ d'.period_end = d'.due_at)
  /-- A row is counted in one sent report at most. -/
  once : ∀ k row, ((s.ofSchedule k).countP fun d => d.outcome = .sent ∧ row ∈ d.counted) ≤ 1

/-! ### The slots of the deliveries -/

/-- What no later statement changes of a delivery. -/
structure Slot where
  report_schedule_id : String
  due_at : ℤ
  start : ℤ
  stop : ℤ

def ReportDelivery.slot (d : ReportDelivery) : Slot := ⟨d.report_schedule_id, d.due_at, d.period_start, d.period_end⟩

/-- The second slot was due one interval after the first one. -/
def Slot.Follows (e e' : Slot) : Prop := e'.due_at = e.stop + (e'.stop - e'.start)

/-- The worker has a schedule in its hands, as it is. -/
def DueReport.Current (schedules : List ReportSchedule) (now : ℤ) (x : DueReport) : Prop :=
  ∃ r ∈ schedules, r.report_schedule_id = x.report_schedule_id ∧ r.interval_secs = x.interval_secs ∧ r.next_send_at ≤ now

/-- The time of the pass, and the schedules it has yet to take. -/
def SenderPoint.due : SenderPoint → ℤ × List DueReport
  | .idle => (0, [])
  | .loop now due | .collect now due _ | .send now due _ _ | .sent now due _ _ | .failed now due _ => (now, due)

namespace Sender

/-- The slots of a schedule, in order. -/
def slots (s : Sender) (k : String) : List Slot := (s.deliveries.map (·.slot)).filter fun e => e.report_schedule_id = k

/-- The slots of a schedule agree with its row. -/
structure Slotted (slots : String → List Slot) (r : ReportSchedule) : Prop where
  long : 3600 ≤ r.interval_secs
  trailing : ∀ e ∈ slots r.report_schedule_id, e.start = e.stop - seconds r.interval_secs ∧ e.due_at ≤ e.stop
  next : ∀ e ∈ (slots r.report_schedule_id).getLast?, r.next_send_at = e.stop + seconds r.interval_secs

structure Inv (s : Sender) : Prop where
  keys : (s.schedules.map (·.report_schedule_id)).Nodup
  known : ∀ d ∈ s.deliveries, ∃ r ∈ s.schedules, r.report_schedule_id = d.report_schedule_id
  slotted : ∀ r ∈ s.schedules, Slotted s.slots r
  chain : ∀ k, (s.slots k).IsChain Slot.Follows
  distinct : (s.pc.due.2.map (·.report_schedule_id)).Nodup
  current : ∀ x ∈ s.pc.due.2, x.Current s.schedules s.pc.due.1

variable {s : Sender}

theorem slots_eq (s : Sender) (k : String) : s.slots k = (s.ofSchedule k).map (·.slot) := by
  rw [slots, ofSchedule, List.filter_map]
  rfl

theorem inv_init : init.Inv := by
  constructor <;> simp [init, slots, SenderPoint.due]

theorem Inv.goto (h : s.Inv) {p : SenderPoint} (hnow : p.due.1 = s.pc.due.1) (hdue : p.due.2.Sublist s.pc.due.2) :
    ({ s with pc := p } : Sender).Inv :=
  { h with
    distinct := h.distinct.sublist (hdue.map _)
    current := fun x hx => hnow ▸ h.current x (hdue.subset hx) }

theorem Inv.idle (h : s.Inv) : ({ s with pc := .idle } : Sender).Inv :=
  { h with distinct := List.nodup_nil, current := fun _ hx => absurd hx List.not_mem_nil }

/-- A delivery is updated. -/
theorem Inv.update_delivery (h : s.Inv) {id : String} {f : ReportDelivery → ReportDelivery}
    (hf : ∀ d, (f d).slot = d.slot) : ({ s with deliveries := s.updateDelivery id f } : Sender).Inv := by
  have hslots : ∀ k, ({ s with deliveries := s.updateDelivery id f } : Sender).slots k = s.slots k := by
    intro k
    rw [slots, slots]
    exact congrArg _ (map_updateWhere hf s.deliveries)
  refine { h with known := ?_, slotted := ?_, chain := fun k => (hslots k).symm ▸ h.chain k }
  · intro d hd
    obtain ⟨d', hd', rfl⟩ := mem_updateWhere.1 hd
    obtain ⟨r, hr, hid⟩ := h.known d' hd'
    refine ⟨r, hr, hid.trans ?_⟩
    split_ifs
    · exact (congrArg Slot.report_schedule_id (hf d')).symm
    · rfl
  · intro r hr
    rw [funext hslots]
    exact h.slotted r hr

/-- A schedule is updated, not its interval or its time. -/
theorem Inv.update_schedule (h : s.Inv) {id : String} {f : ReportSchedule → ReportSchedule}
    (hf : ∀ r, (f r).report_schedule_id = r.report_schedule_id ∧ (f r).interval_secs = r.interval_secs ∧
      (f r).next_send_at = r.next_send_at) : ({ s with schedules := s.updateSchedule id f } : Sender).Inv := by
  have hrow : ∀ r, (if decide (r.report_schedule_id = id) then f r else r).report_schedule_id = r.report_schedule_id ∧
      (if decide (r.report_schedule_id = id) then f r else r).interval_secs = r.interval_secs ∧
      (if decide (r.report_schedule_id = id) then f r else r).next_send_at = r.next_send_at := by
    intro r
    split_ifs
    · exact hf r
    · exact ⟨rfl, rfl, rfl⟩
  refine { h with keys := ?_, known := ?_, slotted := ?_, current := ?_ }
  · exact (map_updateWhere (fun r => (hf r).1) s.schedules) ▸ h.keys
  · intro d hd
    obtain ⟨r, hr, hid⟩ := h.known d hd
    exact ⟨_, mem_updateWhere.2 ⟨r, hr, rfl⟩, (hrow r).1.trans hid⟩
  · intro r hr
    obtain ⟨r', hr', rfl⟩ := mem_updateWhere.1 hr
    obtain ⟨hid, hinterval, hnext⟩ := hrow r'
    have hslotted := h.slotted r' hr'
    exact ⟨hinterval.symm ▸ hslotted.long, hid.symm ▸ hinterval.symm ▸ hslotted.trailing,
      hid.symm ▸ hinterval.symm ▸ hnext.symm ▸ hslotted.next⟩
  · intro x hx
    obtain ⟨r, hr, hid, hinterval, hnext⟩ := h.current x hx
    exact ⟨_, mem_updateWhere.2 ⟨r, hr, rfl⟩, (hrow r).1.trans hid, (hrow r).2.1.trans hinterval,
      Int.le_trans (Int.le_of_eq (hrow r).2.2) hnext⟩

/-- A schedule that is in hands is delivered: it was due one interval after its last slot. -/
theorem Inv.deliver (h : s.Inv) {now : ℤ} {x : DueReport} {rest : List DueReport} {id : String}
    (hdue : s.pc.due = (now, x :: rest)) : (s.deliver now x rest id).Inv := by
  have hdistinct := h.distinct
  have hcurrent := h.current
  rw [hdue] at hdistinct hcurrent
  simp only [List.map_cons, List.nodup_cons] at hdistinct
  obtain ⟨r, hr, hid, hinterval, hnext⟩ := hcurrent x List.mem_cons_self
  have hdueAt : s.dueAt x.report_schedule_id now = r.next_send_at := by
    rw [dueAt, find?_of_key h.keys hr fun r' hr' => (of_decide_eq_true hr').trans hid.symm, if_pos (decide_eq_true hid)]
    rfl
  -- the new slot comes to the slots of its own schedule
  let e : Slot := ⟨x.report_schedule_id, r.next_send_at, now - seconds x.interval_secs, now⟩
  have hslots : ∀ k, (s.deliver now x rest id).slots k = s.slots k ++ if x.report_schedule_id = k then [e] else [] := by
    intro k
    have hslot : (s.delivery now x id).slot = e := by simp [delivery, ReportDelivery.slot, hdueAt, e]
    simp only [slots, Sender.deliver, List.map_append, List.map_singleton, hslot, List.filter_append,
      List.filter_singleton, e]
    by_cases hk : x.report_schedule_id = k <;> simp [hk]
  have hfollows : ∀ e' ∈ (s.slots x.report_schedule_id).getLast?, e'.Follows e := by
    intro e' he'
    have hlast := (h.slotted r hr).next e' (hid ▸ he')
    simp only [Slot.Follows, e, hlast, hinterval]
    omega
  have hset : ∀ r' ∈ s.schedules, r'.report_schedule_id = x.report_schedule_id → r' = r :=
    fun r' hr' hid' => eq_of_key h.keys hr' hr (hid'.trans hid.symm)
  have hkeys : (s.deliver now x rest id).schedules.map (·.report_schedule_id) = s.schedules.map (·.report_schedule_id) :=
    map_updateWhere (fun _ => by rfl) s.schedules
  constructor
  · exact hkeys ▸ h.keys
  · intro d hd
    have hknown : ∃ r ∈ s.schedules, r.report_schedule_id = d.report_schedule_id := by
      rcases List.mem_append.1 hd with hd | hd
      · exact h.known d hd
      · exact ⟨r, hr, by rw [List.mem_singleton.1 hd]; exact hid⟩
    obtain ⟨r', hr', hid'⟩ := hknown
    refine ⟨_, mem_updateWhere.2 ⟨r', hr', rfl⟩, ?_⟩
    split_ifs <;> exact hid'
  · intro r' hr'
    obtain ⟨r₀, hr₀, rfl⟩ := mem_updateWhere.1 hr'
    have hslotted := h.slotted r₀ hr₀
    by_cases hown : r₀.report_schedule_id = x.report_schedule_id
    · obtain rfl := hset r₀ hr₀ hown
      rw [if_pos (decide_eq_true hown)]
      refine ⟨hslotted.long, fun e' he' => ?_, fun e' he' => ?_⟩
      · have he' : e' ∈ s.slots r₀.report_schedule_id ++ [e] := by
          simpa only [hslots, hown, if_true] using he'
        rcases List.mem_append.1 he' with he' | he'
        · exact hslotted.trailing e' he'
        · rw [List.mem_singleton.1 he']
          exact ⟨by simp only [e, hinterval], hnext⟩
      · have he' : e' ∈ (s.slots r₀.report_schedule_id ++ [e]).getLast? := by
          simpa only [hslots, hown, if_true] using he'
        rw [List.getLast?_concat, Option.mem_some_iff] at he'
        simp only [← he', e, hinterval]
    · rw [if_neg (by simpa using hown)]
      have hsame : (s.deliver now x rest id).slots r₀.report_schedule_id = s.slots r₀.report_schedule_id := by
        rw [hslots, if_neg (Ne.symm hown), List.append_nil]
      exact ⟨hslotted.long, hsame.symm ▸ hslotted.trailing, hsame.symm ▸ hslotted.next⟩
  · intro k
    rw [hslots]
    split_ifs with hk
    · subst hk
      exact (h.chain _).append (List.isChain_singleton e) fun e' he' _ he => by
        rw [List.head?_singleton, Option.mem_some_iff] at he
        exact he ▸ hfollows e' he'
    · exact (List.append_nil (s.slots k)).symm ▸ h.chain k
  · exact hdistinct.2
  · intro y hy
    obtain ⟨r', hr', hid', hinterval', hnext'⟩ := hcurrent y (List.mem_cons_of_mem x hy)
    have hother : ¬r'.report_schedule_id = x.report_schedule_id := by
      intro heq
      exact hdistinct.1 (List.mem_map.2 ⟨y, hy, hid'.symm.trans heq⟩)
    exact ⟨r', mem_updateWhere_of_not hr' (by simpa using hother), hid', hinterval', hnext'⟩

theorem Inv.next (h : s.Inv) (drawn_id : String) : (s.next drawn_id).Inv := by
  rw [Sender.next]
  cases hpc : s.pc with
  | idle => exact h
  | loop now due =>
    cases due with
    | nil => exact h.idle
    | cons x rest =>
      dsimp only
      have hdue : s.pc.due = (now, x :: rest) := by rw [hpc]; rfl
      split_ifs
      · exact h.idle
      · exact h.deliver hdue
      · have hgoto := h.goto (p := .loop now rest) (by rw [hdue]; rfl) (by rw [hdue]; exact List.sublist_cons_self x rest)
        exact hgoto.update_schedule fun _ => ⟨rfl, rfl, rfl⟩
  | collect now rest id => exact h.goto (by rw [hpc]; rfl) (by rw [hpc]; exact List.Sublist.refl _)
  | send now rest id seen => exact h.goto (by rw [hpc]; rfl) (by rw [hpc]; exact List.Sublist.refl _)
  | sent now rest id seen =>
    have hgoto := h.goto (p := .loop now rest) (by rw [hpc]; rfl) (by rw [hpc]; exact List.Sublist.refl _)
    exact hgoto.update_delivery fun _ => rfl
  | failed now rest id =>
    have hgoto := h.goto (p := .loop now rest) (by rw [hpc]; rfl) (by rw [hpc]; exact List.Sublist.refl _)
    exact hgoto.update_delivery fun _ => rfl

theorem Inv.fail (h : s.Inv) : s.fail.Inv := by
  rw [Sender.fail]
  cases hpc : s.pc with
  | idle => exact h.idle
  | loop now due => exact h.idle
  | _ => exact h.goto (by rw [hpc]; rfl) (by rw [hpc]; exact List.Sublist.refl _)

theorem Inv.create_schedule (h : s.Inv) {r : ReportSchedule} (hlong : 3600 ≤ r.interval_secs)
    (hnew : ∀ r' ∈ s.schedules, r'.report_schedule_id ≠ r.report_schedule_id) :
    ({ s with schedules := s.schedules ++ [r] } : Sender).Inv := by
  have hempty : s.slots r.report_schedule_id = [] := by
    rw [slots, List.filter_eq_nil_iff]
    rintro _ he hid
    obtain ⟨d, hd, rfl⟩ := List.mem_map.1 he
    obtain ⟨r', hr', hid'⟩ := h.known d hd
    exact hnew r' hr' (hid'.trans (of_decide_eq_true hid))
  refine { h with
    keys := nodup_map_append_new h.keys hnew, known := fun d hd => ?_, slotted := fun r' hr' => ?_
    current := fun x hx => ?_ }
  · exact (h.known d hd).imp fun _ hr' => ⟨List.mem_append_left _ hr'.1, hr'.2⟩
  · rcases List.mem_append.1 hr' with hr' | hr'
    · exact h.slotted r' hr'
    · rw [List.mem_singleton.1 hr']
      have hslots : ({ s with schedules := s.schedules ++ [r] } : Sender).slots r.report_schedule_id = [] := hempty
      exact ⟨hlong, by simp [hslots], by simp [hslots]⟩
  · exact (h.current x hx).imp fun _ hr' => ⟨List.mem_append_left _ hr'.1, hr'.2⟩

theorem mem_dueRows {now : ℤ} {x : DueReport} (hx : x ∈ s.dueRows now) : x.Current s.schedules now := by
  obtain ⟨r, hr, hjoin⟩ := List.mem_filterMap.1 hx
  obtain ⟨t, -, rfl⟩ := Option.map_eq_some_iff.1 hjoin
  obtain ⟨hr, hdue⟩ := List.mem_filter.1 hr
  exact ⟨r, hr, rfl, rfl, (of_decide_eq_true hdue).2⟩

theorem nodup_dueRows (h : s.Inv) (now : ℤ) : ((s.dueRows now).map (·.report_schedule_id)).Nodup := by
  have hkeys := h.keys.sublist ((List.filter_sublist (p := fun r => decide (r.enabled ∧ r.next_send_at ≤ now))).map _)
  refine hkeys.sublist ?_
  rw [dueRows]
  induction s.schedules.filter fun r => decide (r.enabled ∧ r.next_send_at ≤ now) with
  | nil => exact List.Sublist.refl _
  | cons r rest ih =>
    rw [List.filterMap_cons]
    cases hfind : s.templates.find? fun t => t.template_id = r.template_id with
    | none => exact List.Sublist.cons _ ih
    | some t => exact List.Sublist.cons_cons _ ih

theorem Inv.start (h : s.Inv) {now : ℤ} {due : List DueReport} (hanswer : IsAnswer 10 (s.dueRows now) due) :
    ({ s with pc := .loop now due } : Sender).Inv := by
  obtain ⟨found, hperm, hsub⟩ := hanswer.1
  refine { h with distinct := ?_, current := fun x hx => mem_dueRows (hsub.subset (hperm.mem_iff.2 hx)) }
  exact (hperm.map _).nodup_iff.1 ((nodup_dueRows h now).sublist (hsub.map _))

theorem inv_step (h : s.Inv) (a : ReportAct) : (s.step a).Inv := by
  cases a with
  | start now due =>
    rw [Sender.step]
    cases hpc : s.pc with
    | idle =>
      dsimp only
      split_ifs with hanswer
      · exact h.start hanswer
      · exact h
    | _ => exact h
  | next drawn_id => exact h.next drawn_id
  | fail => exact h.fail
  | die => exact h.idle
  | record row => exact { h with }
  | put_template t => exact { h with }
  | create_schedule id tenant_id template_id interval_secs now =>
    rw [Sender.step]
    split_ifs with hrefused htemplate
    · exact h
    · rw [not_or, Nat.not_lt, Bool.not_eq_true, List.any_eq_false] at hrefused
      exact h.create_schedule hrefused.1 fun r hr => by simpa using hrefused.2 r hr
    · exact h
  | delete_schedule id => exact h.update_schedule fun _ => ⟨rfl, rfl, rfl⟩

theorem inv_exec (run : List ReportAct) : (exec run).Inv :=
  List.foldlRecOn run _ inv_init fun _ h a _ => inv_step h a

/-- A slot is not empty, and its pass was not early. -/
theorem Inv.slot (h : s.Inv) {k : String} {e : Slot} (he : e ∈ s.slots k) : e.start < e.stop ∧ e.due_at ≤ e.stop := by
  obtain ⟨hmem, hk⟩ := List.mem_filter.1 he
  obtain ⟨d, hd, rfl⟩ := List.mem_map.1 hmem
  obtain ⟨r, hr, hid⟩ := h.known d hd
  have hk : r.report_schedule_id = k := hid.trans (of_decide_eq_true hk)
  obtain ⟨hstart, hdue⟩ := (h.slotted r hr).trailing d.slot (hk ▸ he)
  have hlong := (h.slotted r hr).long
  refine ⟨?_, hdue⟩
  rw [hstart, seconds]
  omega

/-- The slots of a schedule lie apart. -/
theorem Inv.slots_apart (h : s.Inv) (k : String) :
    (s.slots k).Pairwise fun e e' => e.stop ≤ e'.start ∧ e'.start < e'.stop := by
  have htrans : Trans (fun e e' : Slot => e.stop ≤ e'.start ∧ e'.start < e'.stop)
      (fun e e' : Slot => e.stop ≤ e'.start ∧ e'.start < e'.stop)
      (fun e e' : Slot => e.stop ≤ e'.start ∧ e'.start < e'.stop) := ⟨fun h h' => ⟨by omega, h'.2⟩⟩
  rw [← List.isChain_iff_pairwise]
  refine (h.chain k).imp_of_mem_imp fun e e' _ he' hfollows => ?_
  obtain ⟨hstop, hdue⟩ := h.slot he'
  rw [Slot.Follows] at hfollows
  exact ⟨by omega, hstop⟩

end Sender

/-- At most one, if no two are. -/
theorem countP_le_one {α : Type*} {p : α → Bool} {l : List α} (h : l.Pairwise fun a b => p a = true → p b = false) :
    l.countP p ≤ 1 := by
  induction l with
  | nil => simp
  | cons a l ih =>
    rw [List.pairwise_cons] at h
    by_cases ha : p a = true
    · have hnone : l.countP p = 0 := by
        rw [List.countP_eq_zero]
        intro b hb
        simp [h.1 b hb ha]
      rw [List.countP_cons_of_pos ha, hnone]
    · rw [List.countP_cons_of_neg ha]
      exact ih h.2

/-- The periods of a schedule trail its passes and lie apart, and a row is counted in one sent report at most. -/
theorem reports_apart (run : List ReportAct) : Apart (Sender.exec run) := by
  have h := Sender.inv_exec run
  generalize Sender.exec run = s at h
  have hapart : ∀ k, (s.ofSchedule k).Pairwise fun d d' =>
      d.period_end ≤ d'.period_start ∧ d'.period_start < d'.period_end := by
    intro k
    have hslots := h.slots_apart k
    rw [Sender.slots_eq, List.pairwise_map] at hslots
    exact hslots
  have hgap : ∀ k pre d d' post, s.ofSchedule k = pre ++ d :: d' :: post →
      d'.period_start - d.period_end = d'.period_end - d'.due_at := by
    intro k pre d d' post hsplit
    have hchain := h.chain k
    rw [Sender.slots_eq, List.isChain_map, hsplit, List.isChain_append_cons_cons] at hchain
    have hfollows : d'.due_at = d.period_end + (d'.period_end - d'.period_start) := hchain.2.1
    omega
  refine ⟨fun d hd => ?_, fun k => (hapart k).imp And.left, hgap, fun k pre d mid d' post hsplit => ?_, fun k row => ?_⟩
  · obtain ⟨r, hr, hid⟩ := h.known d hd
    have hslot : d.slot ∈ s.slots r.report_schedule_id := by
      rw [Sender.slots_eq]
      exact List.mem_map.2 ⟨d, List.mem_filter.2 ⟨hd, decide_eq_true hid.symm⟩, rfl⟩
    exact ⟨r, hr, hid, (h.slotted r hr).trailing d.slot hslot⟩
  · constructor
    · intro hmeet
      have hmid : mid = [] := by
        rw [List.eq_nil_iff_forall_not_mem]
        intro m hm
        have hpair := hapart k
        rw [hsplit] at hpair
        have htail := (List.pairwise_cons.1 (List.pairwise_append.1 hpair).2.1)
        have hfirst := htail.1 m (List.mem_append_left _ hm)
        have hlast := (List.pairwise_append.1 htail.2).2.2 m hm d' List.mem_cons_self
        omega
      subst hmid
      have hlate := hgap k pre d d' post hsplit
      exact ⟨rfl, by omega⟩
    · rintro ⟨rfl, hontime⟩
      have hlate := hgap k pre d d' post hsplit
      omega
  · refine countP_le_one ((hapart k).imp fun {d d'} hpair hd => ?_)
    simp only [decide_eq_true_eq, ReportDelivery.counted, List.mem_filter] at hd
    simp only [decide_eq_false_iff_not, ReportDelivery.counted, List.mem_filter, decide_eq_true_eq]
    rintro ⟨-, -, -, -, hfrom, -⟩
    have hto := hd.2.2.2.2.2
    omega

/-- A schedule of one hour; its second pass is five seconds late, and two seconds after the first one came a breach. -/
def lateRun : List ReportAct :=
  [.put_template ⟨"t", .sla_summary, "a@b.c", true⟩, .create_schedule "s" "A" "t" 3600 0,
    .start 0 [⟨"s", "A", "t", 3600, .sla_summary, "a@b.c", true⟩], .next "d1", .next "", .next "", .next "", .next "",
    .record ⟨.sla_summary, "A", "b", 2000000⟩,
    .start 3605000000 [⟨"s", "A", "t", 3600, .sla_summary, "a@b.c", true⟩], .next "d2", .next "", .next "", .next "",
    .next ""]

/-- Both reports are sent, and neither counts the breach. -/
theorem late_pass_leaves_gap : ¬Tiles (Sender.exec lateRun) := by
  intro h
  have hmeet := (h "s").1
  revert hmeet
  decide

end JLMirror.Reports
