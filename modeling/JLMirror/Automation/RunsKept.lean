import JLMirror.Automation.Runner
import JLMirror.Foundations.Run

/-!
# No automation run is lost

"At-least-once: if the process dies mid-run, the run row stays in 'pending' and is retried on the next cycle." The pickup
query asks for manual runs and those of the incident response. A run of a schedule is committed before it is executed: if
the worker dies in between, or its statement raises, no query returns the row again.

## The model

* `Left` says that a run is pending, and in no worker's hands.
* `Loses` says that a step takes a scheduled run out of its worker's hands before its outcome is committed.
* The query has a limit and no order, so ten others may go first each time (`HasRoom`).

## What is proved

* `step_does`: what a step can do to the runs and to a worker, said once.
* `left_stays`: a run that is left stays so until it is picked up.
* **Key result** (`runs_kept_iff`): in an infinite run, every run that is left is picked up by a later pass if and only if no
  step loses a scheduled run, and no other run finds each later query taken up by ten others.
-/

namespace JLMirror.Automation

open JLMirror.Foundations JLMirror.Monitoring

/-! ### The claim -/

def Rest.ids : Rest → List String
  | .manual jobs => jobs.map (·.run_id)
  | .schedules _ => []

/-- The runs that a worker has in hand. -/
def RunnerPoint.hands : RunnerPoint → List String
  | .idle | .pickup _ | .disable _ _ _ | .insert _ _ _ => []
  | .loop _ rest => rest.ids
  | .execute _ job rest | .record _ job _ rest => job.run_id :: rest.ids

/-- The run of a schedule that a worker has in hand. -/
def RunnerPoint.scheduled : RunnerPoint → Option String
  | .execute _ job (.schedules _) | .record _ job _ (.schedules _) => some job.run_id
  | _ => none

/-- The run is pending, and in nobody's hands. -/
structure Left (s : RunnerSystem) (x : AutomationRun) : Prop where
  mem : x ∈ s.db.runs
  pending : x.outcome = .pending
  free : ∀ w, x.run_id ∉ (s.pc w).hands

/-- The pickup query runs. -/
def Queries (s : RunnerSystem) : RunnerAct → Prop
  | .pick w answer => (∃ now, s.pc w = .pickup now) ∧ IsAnswer 10 (s.db.runs.filter (·.matched)) answer
  | _ => False

/-- The runs that a step picks up. -/
def Picks (s : RunnerSystem) (a : RunnerAct) (run_id : String) : Prop :=
  Queries s a ∧ ∃ w answer, a = .pick w answer ∧ ∃ x ∈ answer, x.run_id = run_id

/-- The system in an infinite run. -/
abbrev stateAt (r : ℕ → RunnerAct) (n : ℕ) : RunnerSystem := trace RunnerSystem.step .init r n

/-- Every run that is left is picked up by a later pass. -/
def RunsKept (r : ℕ → RunnerAct) : Prop :=
  ∀ n x, Left (stateAt r n) x → ∃ m, n ≤ m ∧ Picks (stateAt r m) (r m) x.run_id

/-- The worker whose hands a step empties. -/
def RunnerAct.interrupted : RunnerAct → Option ℕ
  | .fail w | .die w => some w
  | _ => none

/-- A scheduled run is interrupted. -/
def Loses (s : RunnerSystem) (a : RunnerAct) : Prop := ∃ w, a.interrupted = some w ∧ (s.pc w).scheduled ≠ none

/-- The pickup query runs, and it is not taken up by ten others. -/
def HasRoom (s : RunnerSystem) (a : RunnerAct) (x : AutomationRun) : Prop :=
  Queries s a ∧ ∀ w answer, a = .pick w answer → answer.length < 10 ∨ ∃ y ∈ answer, y.run_id = x.run_id

/-- No manual run, and none of the incident response, is passed over for ever. -/
def NonePassedOver (r : ℕ → RunnerAct) : Prop :=
  ∀ n x, Left (stateAt r n) x → x.trigger_type ≠ .schedule → ∃ m, n ≤ m ∧ HasRoom (stateAt r m) (r m) x

/-! ### What a step can do -/

/-- What a step does to the runs, and to the worker whose step it is. -/
inductive Does (s s' : RunnerSystem) (a : RunnerAct) : Prop where
  | stay (hruns : s'.db.runs = s.db.runs) (hpc : s'.pc = s.pc)
  /-- The worker goes on, with what it has in hand or less. -/
  | move (w : ℕ) (p : RunnerPoint) (hruns : s'.db.runs = s.db.runs) (hpc : s'.pc = Function.update s.pc w p)
      (hhands : p.hands ⊆ (s.pc w).hands)
      (hscheduled : p.scheduled = (s.pc w).scheduled ∨ p.hands = [] ∧ p.scheduled = none ∧ Loses s a)
      (hresult : ∀ now job result rest, p = .record now job result rest → result.outcome ≠ .pending)
  | pick (w : ℕ) (now : Timestamp) (answer : List AutomationRun) (hact : a = .pick w answer) (hw : s.pc w = .pickup now)
      (hanswer : IsAnswer 10 (s.db.runs.filter (·.matched)) answer) (hruns : s'.db.runs = s.db.runs)
      (hpc : s'.pc = Function.update s.pc w (.loop now (.manual (answer.map (·.job)))))
  /-- A run of a schedule. -/
  | insert (w : ℕ) (x : AutomationRun) (now : Timestamp) (job : Job) (due : List AutomationSchedule)
      (hw : (s.pc w).scheduled = none) (hjob : job.run_id = x.run_id) (hpending : x.outcome = .pending) (htrigger : x.trigger_type = .schedule)
      (hnew : ∀ y ∈ s.db.runs, y.run_id ≠ x.run_id) (hruns : s'.db.runs = s.db.runs ++ [x])
      (hpc : s'.pc = Function.update s.pc w (.execute now job (.schedules due)))
  /-- The outcome of a run is written. -/
  | finish (w : ℕ) (clock now : Timestamp) (job : Job) (result : RunResult) (rest : Rest)
      (hw : s.pc w = .record now job result rest)
      (hruns : s'.db.runs = updateWhere (fun r => r.run_id = job.run_id) (·.finish clock result) s.db.runs)
      (hpc : s'.pc = Function.update s.pc w (.loop now rest))
  /-- A run of somebody else. -/
  | add (x : AutomationRun) (hpending : x.outcome = .pending) (htrigger : x.trigger_type ≠ .schedule)
      (hnew : ∀ y ∈ s.db.runs, y.run_id ≠ x.run_id) (hruns : s'.db.runs = s.db.runs ++ [x]) (hpc : s'.pc = s.pc)

section Steps

variable {s : RunnerSystem} {a : RunnerAct} {w : ℕ} {x : AutomationRun}

/-- No execution comes to `pending`. -/
theorem scriptResult_outcome (script : Option AutomationScript) (answer : WebhookAnswer) :
    (scriptResult script answer).outcome ≠ .pending := by
  unfold scriptResult
  split
  · nofun
  · split
    · nofun
    · unfold _execute_webhook
      split_ifs
      · split
        · nofun
        · nofun
        · split_ifs <;> nofun
      · nofun
    · nofun

theorem insertRun_eq_some {db db' : AutomationDb} (h : db.insertRun x = some db') :
    (∀ y ∈ db.runs, y.run_id ≠ x.run_id) ∧ db' = { db with runs := db.runs ++ [x] } := by
  unfold AutomationDb.insertRun at h
  split_ifs at h with hany
  refine ⟨fun y hy heq => hany (List.any_eq_true.2 ⟨y, hy, decide_eq_true heq⟩), (Option.some.inj h).symm⟩

theorem does_insertRun {run_id tenant_id script_id : String} {trigger_type : TriggerType} {now : Timestamp}
    (htrigger : trigger_type ≠ .schedule) : Does s
      { s with db := (s.db.insertRun (pendingRun run_id tenant_id script_id trigger_type none now)).getD s.db } a := by
  cases hinsert : s.db.insertRun (pendingRun run_id tenant_id script_id trigger_type none now) with
  | none => exact .stay rfl rfl
  | some db =>
    obtain ⟨hnew, rfl⟩ := insertRun_eq_some hinsert
    exact .add _ rfl htrigger hnew rfl rfl

/-- A transaction of the API or of the incident response. -/
theorem does_other (s : RunnerSystem) (a : RunnerAct) : Does s { s with db := s.db.other a } a := by
  cases a with
  | trigger_script now tenant_id script_id run_id =>
    dsimp only [AutomationDb.other]
    split_ifs
    · exact does_insertRun nofun
    · exact .stay rfl rfl
  | g11_enqueue_automation now tenant_id script_id run_id =>
    dsimp only [AutomationDb.other]
    split_ifs
    · exact does_insertRun nofun
    · exact .stay rfl rfl
  | create_script script =>
    dsimp only [AutomationDb.other]
    split_ifs <;> exact .stay rfl rfl
  | create_schedule now schedule_id tenant_id script_id interval_secs =>
    dsimp only [AutomationDb.other]
    split_ifs <;> exact .stay rfl rfl
  | _ => exact .stay rfl rfl

/-- The next statement of a pass. -/
theorem does_next (s : RunnerSystem) (w : ℕ) (clock : Timestamp) (drawn_id : String) (answer : WebhookAnswer) :
    Does s (s.next w clock drawn_id answer) a := by
  have hidle : ∀ p : RunnerPoint, p.hands = [] → p.scheduled = none → (s.pc w).scheduled = none →
      (∀ now job result rest, p ≠ .record now job result rest) → Does s (s.goto w p) a := fun p hp hnone hw hrecord =>
    .move w p rfl rfl (by rw [hp]; exact List.nil_subset _) (Or.inl (hnone.trans hw.symm))
      fun now job result rest heq => absurd heq (hrecord now job result rest)
  unfold RunnerSystem.next
  split
  · exact .stay rfl rfl
  · exact .stay rfl rfl
  · exact .stay rfl rfl
  · rename_i now job jobs hpc
    refine .move w _ rfl rfl ?_ (Or.inl ?_) nofun
    · rw [hpc]
      exact List.Subset.refl _
    · rw [hpc]
      rfl
  · rename_i hpc
    exact hidle .idle rfl rfl (by rw [hpc]; rfl) nofun
  · rename_i now d due hpc
    have hw : (s.pc w).scheduled = none := by rw [hpc]; rfl
    split
    · exact hidle _ rfl rfl hw nofun
    · split_ifs
      · exact hidle _ rfl rfl hw nofun
      · exact hidle _ rfl rfl hw nofun
  · rename_i now d due hpc
    refine .move w _ rfl rfl (List.nil_subset _) (Or.inl ?_) nofun
    rw [hpc]
    rfl
  · rename_i now d due hpc
    unfold RunnerSystem.insert
    split
    · exact hidle _ rfl rfl (by rw [hpc]; rfl) nofun
    · rename_i db hinsert
      obtain ⟨hnew, rfl⟩ := insertRun_eq_some hinsert
      exact .insert w _ now ⟨drawn_id, d.tenant_id, d.script_id⟩ due (by rw [hpc]; rfl) rfl rfl rfl hnew rfl rfl
  · rename_i now job rest hpc
    refine .move w _ rfl rfl ?_ (Or.inl ?_) fun _ _ _ _ heq => ?_
    · rw [hpc]
      exact List.Subset.refl _
    · rw [hpc]
      cases rest <;> rfl
    · obtain ⟨-, -, rfl, -⟩ := RunnerPoint.record.inj heq
      exact scriptResult_outcome _ _
  · rename_i now job result rest hpc
    exact .finish w clock now job result rest hpc rfl rfl

variable {p : RunnerPoint}

theorem does_interrupted (ha : a.interrupted = some w) (hhands : p.hands ⊆ (s.pc w).hands)
    (hscheduled : (s.pc w).scheduled ≠ none → p.hands = []) (hp : p.scheduled = none)
    (hrecord : ∀ now job result rest, p ≠ .record now job result rest) : Does s (s.goto w p) a := by
  refine .move w p rfl rfl hhands ?_ fun now job result rest heq => absurd heq (hrecord now job result rest)
  by_cases hw : (s.pc w).scheduled = none
  · exact Or.inl (hp.trans hw.symm)
  · exact Or.inr ⟨hscheduled hw, hp, w, ha, hw⟩

/-- What a step can do. -/
theorem step_does (s : RunnerSystem) (a : RunnerAct) : Does s (s.step a) a := by
  cases a with
  | begin w now =>
    dsimp only [RunnerSystem.step]
    split
    · rename_i hpc
      refine .move w _ rfl rfl (List.nil_subset _) (Or.inl ?_) nofun
      rw [hpc]
      rfl
    · exact .stay rfl rfl
  | pick w answer =>
    dsimp only [RunnerSystem.step]
    split
    · rename_i now hpc
      split_ifs with hanswer
      · exact .pick w now answer rfl hpc hanswer rfl rfl
      · exact .stay rfl rfl
    · exact .stay rfl rfl
  | due w answer =>
    dsimp only [RunnerSystem.step]
    split
    · rename_i now hpc
      split_ifs
      · refine .move w _ rfl rfl (List.nil_subset _) (Or.inl ?_) nofun
        rw [hpc]
        rfl
      · exact .stay rfl rfl
    · exact .stay rfl rfl
  | next w clock drawn_id answer => exact does_next s w clock drawn_id answer
  | fail w =>
    dsimp only [RunnerSystem.step, RunnerSystem.fail]
    split
    · rename_i now job rest hpc
      exact does_interrupted rfl (by rw [hpc]; exact List.subset_cons_self ..) (by rw [hpc]; cases rest <;> simp [RunnerPoint.scheduled, RunnerPoint.hands, Rest.ids]) rfl nofun
    · rename_i now job result rest hpc
      exact does_interrupted rfl (by rw [hpc]; exact List.subset_cons_self ..) (by rw [hpc]; cases rest <;> simp [RunnerPoint.scheduled, RunnerPoint.hands, Rest.ids]) rfl nofun
    · exact does_interrupted rfl (List.nil_subset _) (fun _ => rfl) rfl nofun
  | die w => exact does_interrupted rfl (List.nil_subset _) (fun _ => rfl) rfl nofun
  | _ => exact does_other s _

/-! ### The invariant -/

/-- What holds of a worker. -/
structure WorkerInv (runs : List AutomationRun) (p : RunnerPoint) : Prop where
  /-- The run of a schedule is pending; the others are not of a schedule. -/
  hands : ∀ id ∈ p.hands, ∃ y ∈ runs, y.run_id = id ∧
    if p.scheduled = some id then y.outcome = .pending ∧ y.trigger_type = .schedule else y.trigger_type ≠ .schedule
  result : ∀ now job result rest, p = .record now job result rest → result.outcome ≠ .pending

/-- What holds of every state. -/
structure RunnerInv (s : RunnerSystem) : Prop where
  ids : (s.db.runs.map (·.run_id)).Nodup
  workers : ∀ w, WorkerInv s.db.runs (s.pc w)
  /-- The run of a schedule is in one worker's hands. -/
  single : ∀ w v id, (s.pc w).scheduled = some id → id ∈ (s.pc v).hands → v = w

theorem hands_of_scheduled {id : String} (h : p.scheduled = some id) : p.hands = [id] := by
  unfold RunnerPoint.scheduled at h
  split at h
  · rw [← Option.some.inj h]
    rfl
  · rw [← Option.some.inj h]
    rfl
  · cases h

variable {runs : List AutomationRun}

/-- More runs, and what happens to others, do not matter to a worker. -/
theorem WorkerInv.mono {runs' : List AutomationRun} (h : WorkerInv runs p)
    (hruns : ∀ y ∈ runs, y.run_id ∈ p.hands → ∃ y' ∈ runs', y'.run_id = y.run_id ∧ y'.trigger_type = y.trigger_type ∧
      (p.scheduled = some y.run_id → y'.outcome = y.outcome)) : WorkerInv runs' p := by
  refine ⟨fun id hid => ?_, h.result⟩
  obtain ⟨y, hy, rfl, hkind⟩ := h.hands id hid
  obtain ⟨y', hy', hid', htrigger, houtcome⟩ := hruns y hy hid
  refine ⟨y', hy', hid', ?_⟩
  split_ifs at hkind ⊢ with hscheduled
  · exact ⟨(houtcome hscheduled).trans hkind.1, htrigger.trans hkind.2⟩
  · exact fun heq => hkind (htrigger.symm.trans heq)

theorem pc_update {s' : RunnerSystem} (hpc : s'.pc = Function.update s.pc w p) (v : ℕ) :
    s'.pc v = if v = w then p else s.pc v := by
  rw [hpc]
  split_ifs with hv
  · rw [hv, Function.update_self]
  · rw [Function.update_of_ne hv]

theorem RunnerInv.known (h : RunnerInv s) {id : String} (hid : id ∈ (s.pc w).hands) : ∃ y ∈ s.db.runs, y.run_id = id := by
  obtain ⟨y, hy, heq, -⟩ := (h.workers w).hands id hid
  exact ⟨y, hy, heq⟩

theorem RunnerInv.trigger (h : RunnerInv s) (hw : (s.pc w).scheduled = some x.run_id) (hx : x ∈ s.db.runs) :
    x.outcome = .pending ∧ x.trigger_type = .schedule := by
  obtain ⟨y, hy, hid, hkind⟩ := (h.workers w).hands x.run_id (by rw [hands_of_scheduled hw]; exact List.mem_singleton_self _)
  rw [if_pos hw] at hkind
  rwa [eq_of_key h.ids hy hx hid] at hkind

theorem WorkerInv.append (h : WorkerInv runs p) (x : AutomationRun) : WorkerInv (runs ++ [x]) p :=
  h.mono fun y hy _ => ⟨y, List.mem_append_left _ hy, rfl, rfl, fun _ => rfl⟩

/-- A step keeps the invariant. -/
theorem Does.runnerInv {s' : RunnerSystem} (hdoes : Does s s' a) (h : RunnerInv s) : RunnerInv s' := by
  cases hdoes with
  | stay hruns hpc =>
    refine ⟨hruns ▸ h.ids, fun w => ?_, fun w v id hw hv => ?_⟩
    · rw [hruns, hpc]
      exact h.workers w
    · rw [hpc] at hw hv
      exact h.single w v id hw hv
  | move w p hruns hpc hhands hscheduled hresult =>
    have hpcv := pc_update hpc
    -- What it had in hand it still has, in the same way.
    have hsame : ∀ id ∈ p.hands, id ∈ (s.pc w).hands ∧ p.scheduled = (s.pc w).scheduled := by
      intro id hid
      rcases hscheduled with heq | ⟨hnil, -, -⟩
      · exact ⟨hhands hid, heq⟩
      · rw [hnil] at hid
        exact absurd hid List.not_mem_nil
    have hsched : ∀ id, p.scheduled = some id → (s.pc w).scheduled = some id := by
      intro id hid
      rcases hscheduled with heq | ⟨-, hnone, -⟩
      · exact heq ▸ hid
      · rw [hnone] at hid
        cases hid
    refine ⟨hruns ▸ h.ids, fun v => ?_, fun v u id hv hu => ?_⟩
    · rw [hruns, hpcv]
      split_ifs with hv
      · refine ⟨fun id hid => ?_, hresult⟩
        rw [(hsame id hid).2]
        exact (h.workers w).hands id (hsame id hid).1
      · exact h.workers v
    · have hv : (s.pc v).scheduled = some id := by
        rw [hpcv] at hv
        split_ifs at hv with hvw
        · exact hvw ▸ hsched id hv
        · exact hv
      have hu : id ∈ (s.pc u).hands := by
        rw [hpcv] at hu
        split_ifs at hu with huw
        · exact huw ▸ (hsame id hu).1
        · exact hu
      exact h.single v u id hv hu
  | pick w now answer hact hw hanswer hruns hpc =>
    have hpcv := pc_update hpc
    have hpicked : ∀ id ∈ (RunnerPoint.loop now (.manual (answer.map (·.job)))).hands,
        ∃ y ∈ s.db.runs, y.run_id = id ∧ y.trigger_type ≠ .schedule := by
      intro id hid
      obtain ⟨job, hjob, rfl⟩ := List.mem_map.1 hid
      obtain ⟨y, hy, rfl⟩ := List.mem_map.1 hjob
      obtain ⟨hy, hmatched⟩ := List.mem_filter.1 (hanswer.1.subset hy)
      exact ⟨y, hy, rfl, (of_decide_eq_true hmatched).2⟩
    refine ⟨hruns ▸ h.ids, fun v => ?_, fun v u id hv hu => ?_⟩
    · rw [hruns, hpcv]
      split_ifs with hv
      · exact ⟨hpicked, nofun⟩
      · exact h.workers v
    · rw [hpcv] at hv hu
      split_ifs at hv hu with hvw huw huw
      · cases hv
      · cases hv
      · obtain ⟨y, hy, rfl, hmanual⟩ := hpicked id hu
        exact absurd (h.trigger hv hy).2 hmanual
      · exact h.single v u id hv hu
  | insert w x now job due hw hjob hpending htrigger hnew hruns hpc =>
    have hpcv := pc_update hpc
    have hfresh : ∀ v, x.run_id ∉ (s.pc v).hands := fun v hid => by
      obtain ⟨y, hy, heq⟩ := h.known hid
      exact hnew y hy heq
    have hscheduled : (RunnerPoint.execute now job (.schedules due)).scheduled = some x.run_id := congrArg some hjob
    have hhands : (RunnerPoint.execute now job (.schedules due)).hands = [x.run_id] := congrArg (fun id => [id]) hjob
    refine ⟨?_, fun v => ?_, fun v u id hv hu => ?_⟩
    · rw [hruns]
      exact nodup_map_append_new h.ids hnew
    · rw [hruns, hpcv]
      split_ifs with hv
      · refine ⟨fun id hid => ?_, nofun⟩
        rw [hhands] at hid
        obtain rfl := List.mem_singleton.1 hid
        exact ⟨x, List.mem_append_right _ (List.mem_singleton_self x), rfl, by rw [if_pos hscheduled]; exact ⟨hpending, htrigger⟩⟩
      · exact (h.workers v).append x
    · rw [hpcv] at hv hu
      split_ifs at hv hu with hvw huw huw
      · exact huw.trans hvw.symm
      · rw [hscheduled] at hv
        obtain rfl := Option.some.inj hv
        exact absurd hu (hfresh u)
      · rw [hhands] at hu
        obtain rfl := List.mem_singleton.1 hu
        exact absurd (hands_of_scheduled hv ▸ List.mem_singleton_self _) (hfresh v)
      · exact h.single v u id hv hu
  | finish w clock now job result rest hw hruns hpc =>
    have hpcv := pc_update hpc
    have hjob : job.run_id ∈ (s.pc w).hands := by rw [hw]; exact List.mem_cons_self
    have hrest : ∀ id ∈ rest.ids, id ∈ (s.pc w).hands ∧ (s.pc w).scheduled = none := by
      intro id hid
      rw [hw]
      cases rest with
      | manual jobs => exact ⟨List.mem_cons_of_mem _ hid, rfl⟩
      | schedules due => exact absurd hid List.not_mem_nil
    have hkept : ∀ y ∈ s.db.runs, ∃ y' ∈ s'.db.runs, y'.run_id = y.run_id ∧ y'.trigger_type = y.trigger_type ∧
        (y.run_id ≠ job.run_id → y'.outcome = y.outcome) := by
      intro y hy
      rw [hruns]
      by_cases hid : y.run_id = job.run_id
      · exact ⟨_, mem_updateWhere.2 ⟨y, hy, if_pos (decide_eq_true hid)⟩, rfl, rfl, fun hne => absurd hid hne⟩
      · exact ⟨y, mem_updateWhere_of_not hy (decide_eq_false hid), rfl, rfl, fun _ => rfl⟩
    refine ⟨?_, fun v => ?_, fun v u id hv hu => ?_⟩
    · rw [hruns, map_updateWhere (k := AutomationRun.run_id) (f := (·.finish clock result)) (fun _ => rfl)]
      exact h.ids
    · rw [hpcv]
      split_ifs with hv
      · refine ⟨fun id hid => ?_, nofun⟩
        obtain ⟨hid, hnone⟩ := hrest id hid
        obtain ⟨y, hy, rfl, hkind⟩ := (h.workers w).hands id hid
        rw [hnone, if_neg nofun] at hkind
        obtain ⟨y', hy', hid', htrigger, -⟩ := hkept y hy
        exact ⟨y', hy', hid', by rw [if_neg nofun, htrigger]; exact hkind⟩
      · refine (h.workers v).mono fun y hy _ => ?_
        obtain ⟨y', hy', hid', htrigger, houtcome⟩ := hkept y hy
        refine ⟨y', hy', hid', htrigger, fun hscheduled => houtcome fun heq => ?_⟩
        exact hv (h.single v w y.run_id hscheduled (heq ▸ hjob)).symm
    · rw [hpcv] at hv hu
      split_ifs at hv hu with hvw huw huw
      · cases hv
      · cases hv
      · have hwv := h.single v w id hv (hrest id hu).1
        exact absurd hwv.symm hvw
      · exact h.single v u id hv hu
  | add x hpending htrigger hnew hruns hpc =>
    refine ⟨?_, fun v => ?_, fun v u id hv hu => ?_⟩
    · rw [hruns]
      exact nodup_map_append_new h.ids hnew
    · rw [hruns, hpc]
      exact (h.workers v).append x
    · rw [hpc] at hv hu
      exact h.single v u id hv hu

theorem init_runnerInv : RunnerInv .init := ⟨List.nodup_nil, fun _ => ⟨nofun, nofun⟩, nofun⟩

theorem runnerInv_stateAt (r : ℕ → RunnerAct) (n : ℕ) : RunnerInv (stateAt r n) :=
  trace_invariant init_runnerInv (fun _ h => (step_does _ _).runnerInv h) n

/-! ### What is left -/

/-- A run that is left stays so until it is picked up. -/
theorem left_stays (h : Left s x) (hnot : ¬Picks s a x.run_id) : Left (s.step a) x := by
  obtain ⟨hmem, hpending, hfree⟩ := h
  have hmoved : ∀ w p, (s.step a).pc = Function.update s.pc w p → x.run_id ∉ p.hands →
      ∀ v, x.run_id ∉ ((s.step a).pc v).hands := by
    intro w p hpc hp v
    rw [pc_update hpc]
    split_ifs
    · exact hp
    · exact hfree v
  cases step_does s a with
  | stay hruns hpc => exact ⟨hruns ▸ hmem, hpending, hpc ▸ hfree⟩
  | move w p hruns hpc hhands => exact ⟨hruns ▸ hmem, hpending, hmoved w p hpc fun hid => hfree w (hhands hid)⟩
  | pick w now answer hact hw hanswer hruns hpc =>
    refine ⟨hruns ▸ hmem, hpending, hmoved w _ hpc fun hid => hnot ?_⟩
    obtain ⟨job, hjob, heq⟩ := List.mem_map.1 hid
    obtain ⟨y, hy, rfl⟩ := List.mem_map.1 hjob
    rw [hact]
    exact ⟨⟨⟨now, hw⟩, hanswer⟩, w, answer, rfl, y, hy, heq⟩
  | insert w x' now job due hw hjob hpending' htrigger hnew hruns hpc =>
    refine ⟨hruns ▸ List.mem_append_left _ hmem, hpending, hmoved w _ hpc fun hid => ?_⟩
    rw [RunnerPoint.hands, hjob] at hid
    exact hnew x hmem (List.mem_singleton.1 hid)
  | finish w clock now job result rest hw hruns hpc =>
    have hw := hfree w
    rw [‹s.pc w = _›] at hw
    have hne : x.run_id ≠ job.run_id := fun heq => hw (heq ▸ List.mem_cons_self)
    refine ⟨?_, hpending, hmoved w _ hpc fun hid => hw (List.mem_cons_of_mem _ hid)⟩
    rw [hruns]
    exact mem_updateWhere_of_not hmem (decide_eq_false hne)
  | add x' hpending' htrigger hnew hruns hpc => exact ⟨hruns ▸ List.mem_append_left _ hmem, hpending, hpc ▸ hfree⟩

theorem not_picks_of_schedule (h : RunnerInv s) (hx : x ∈ s.db.runs) (htrigger : x.trigger_type = .schedule) :
    ¬Picks s a x.run_id := by
  rintro ⟨hqueries, w, answer, rfl, y, hy, hid⟩
  obtain ⟨hy, hmatched⟩ := List.mem_filter.1 (hqueries.2.1.subset hy)
  rw [eq_of_key h.ids hy hx hid] at hmatched
  exact (of_decide_eq_true hmatched).2 htrigger

/-- A step that loses a scheduled run leaves it. -/
theorem left_of_loses (h : RunnerInv s) (hloses : Loses s a) : ∃ x, Left (s.step a) x ∧ x.trigger_type = .schedule := by
  obtain ⟨w, ha, hw⟩ := hloses
  obtain ⟨id, hid⟩ := Option.ne_none_iff_exists'.1 hw
  have hstep : ∃ p, s.step a = s.goto w p ∧ p.hands = [] := by
    cases a with
    | fail w' =>
      obtain rfl := Option.some.inj ha
      dsimp only [RunnerSystem.step, RunnerSystem.fail]
      unfold RunnerPoint.scheduled at hw
      split at hw
      · rename_i hpc
        rw [hpc]
        exact ⟨_, rfl, rfl⟩
      · rename_i hpc
        rw [hpc]
        exact ⟨_, rfl, rfl⟩
      · exact absurd rfl hw
    | die w' =>
      obtain rfl := Option.some.inj ha
      exact ⟨.idle, rfl, rfl⟩
    | _ => cases ha
  obtain ⟨p, hstep, hp⟩ := hstep
  have hhands : id ∈ (s.pc w).hands := by rw [hands_of_scheduled hid]; exact List.mem_singleton_self id
  obtain ⟨x, hx, rfl⟩ := h.known hhands
  obtain ⟨hpending, htrigger⟩ := h.trigger hid hx
  refine ⟨x, ⟨hstep ▸ hx, hpending, fun v hv => ?_⟩, htrigger⟩
  rw [pc_update (p := p) (by rw [hstep]; rfl)] at hv
  split_ifs at hv with hvw
  · rw [hp] at hv
    exact List.not_mem_nil hv
  · exact hvw (h.single w v x.run_id hid hv)

/-- A scheduled run that is pending is in its worker's hands. -/
def ScheduledHeld (s : RunnerSystem) : Prop :=
  ∀ x ∈ s.db.runs, x.outcome = .pending → x.trigger_type = .schedule → ∃ w, (s.pc w).scheduled = some x.run_id

theorem step_scheduledHeld (h : RunnerInv s) (hheld : ScheduledHeld s) (hnot : ¬Loses s a) : ScheduledHeld (s.step a) := by
  intro x hx hpending htrigger
  -- A holder keeps the run, unless it is the worker whose step it is.
  have hkept : ∀ w p, (s.step a).pc = Function.update s.pc w p → ∀ v, v ≠ w → (s.pc v).scheduled = some x.run_id →
      ∃ v, ((s.step a).pc v).scheduled = some x.run_id := by
    intro w p hpc v hv hscheduled
    exact ⟨v, by rw [pc_update hpc, if_neg hv]; exact hscheduled⟩
  cases step_does s a with
  | stay hruns hpc =>
    obtain ⟨v, hv⟩ := hheld x (hruns ▸ hx) hpending htrigger
    exact ⟨v, by rw [hpc]; exact hv⟩
  | move w p hruns hpc hhands hscheduled hresult =>
    obtain ⟨v, hv⟩ := hheld x (hruns ▸ hx) hpending htrigger
    by_cases hvw : v = w
    · subst hvw
      rcases hscheduled with heq | ⟨-, -, hloses⟩
      · exact ⟨v, by rw [pc_update hpc, if_pos rfl, heq]; exact hv⟩
      · exact absurd hloses hnot
    · exact hkept w p hpc v hvw hv
  | pick w now answer hact hw hanswer hruns hpc =>
    obtain ⟨v, hv⟩ := hheld x (hruns ▸ hx) hpending htrigger
    refine hkept w _ hpc v (fun hvw => ?_) hv
    rw [hvw, hw] at hv
    cases hv
  | insert w x' now job due hw hjob hpending' htrigger' hnew hruns hpc =>
    rw [hruns] at hx
    rcases List.mem_append.1 hx with hx | hx
    · obtain ⟨v, hv⟩ := hheld x hx hpending htrigger
      refine hkept w _ hpc v (fun hvw => ?_) hv
      rw [hvw, hw] at hv
      cases hv
    · obtain rfl := List.mem_singleton.1 hx
      exact ⟨w, by rw [pc_update hpc, if_pos rfl]; exact congrArg some hjob⟩
  | finish w clock now job result rest hw hruns hpc =>
    rw [hruns] at hx
    obtain ⟨y, hy, rfl⟩ := mem_updateWhere.1 hx
    by_cases hid : y.run_id = job.run_id
    · rw [if_pos (decide_eq_true hid)] at hpending
      exact absurd hpending ((h.workers w).result now job result rest hw)
    · rw [if_neg (by simpa using hid)] at hpending htrigger ⊢ hkept
      obtain ⟨v, hv⟩ := hheld y hy hpending htrigger
      refine hkept w _ hpc v (fun hvw => ?_) hv
      rw [hvw, hw] at hv
      cases rest with
      | manual jobs => cases hv
      | schedules due => exact hid (Option.some.inj hv).symm
  | add x' hpending' htrigger' hnew hruns hpc =>
    rw [hruns] at hx
    rcases List.mem_append.1 hx with hx | hx
    · obtain ⟨v, hv⟩ := hheld x hx hpending htrigger
      exact ⟨v, by rw [hpc]; exact hv⟩
    · obtain rfl := List.mem_singleton.1 hx
      exact absurd htrigger htrigger'

end Steps

/-! ### Infinite runs -/

section Runs

variable {r : ℕ → RunnerAct} {n : ℕ} {x : AutomationRun}

/-- A run that is left is picked up, or still left. -/
theorem picked_or_left (h : Left (stateAt r n) x) (k : ℕ) :
    (∃ m, n ≤ m ∧ Picks (stateAt r m) (r m) x.run_id) ∨ Left (stateAt r (n + k)) x := by
  induction k with
  | zero => exact Or.inr h
  | succ k ih =>
    rcases ih with hpicked | hleft
    · exact Or.inl hpicked
    · by_cases hpicks : Picks (stateAt r (n + k)) (r (n + k)) x.run_id
      · exact Or.inl ⟨n + k, Nat.le_add_right n k, hpicks⟩
      · exact Or.inr (left_stays hleft hpicks)

/-- A scheduled run that is left is never picked up. -/
theorem not_kept_of_left (h : Left (stateAt r n) x) (htrigger : x.trigger_type = .schedule) : ¬RunsKept r := by
  have hnever : ∀ k, Left (stateAt r (n + k)) x := by
    intro k
    induction k with
    | zero => exact h
    | succ k ih => exact left_stays ih (not_picks_of_schedule (runnerInv_stateAt r (n + k)) ih.mem htrigger)
  intro hkept
  obtain ⟨m, hm, hpicks⟩ := hkept n x h
  obtain ⟨k, rfl⟩ := Nat.exists_eq_add_of_le hm
  exact not_picks_of_schedule (runnerInv_stateAt r (n + k)) (hnever k).mem htrigger hpicks

theorem not_kept_of_loses (h : Loses (stateAt r n) (r n)) : ¬RunsKept r := by
  obtain ⟨x, hleft, htrigger⟩ := left_of_loses (runnerInv_stateAt r n) h
  exact not_kept_of_left (n := n + 1) hleft htrigger

theorem trigger_of_left (hnone : ∀ n, ¬Loses (stateAt r n) (r n)) (h : Left (stateAt r n) x) : x.trigger_type ≠ .schedule := by
  have hheld : ScheduledHeld (stateAt r n) := by
    clear h
    induction n with
    | zero => exact fun x hx => absurd hx List.not_mem_nil
    | succ n ih => exact step_scheduledHeld (runnerInv_stateAt r n) ih (hnone n)
  intro htrigger
  obtain ⟨w, hw⟩ := hheld x h.mem h.pending htrigger
  exact h.free w (hands_of_scheduled hw ▸ List.mem_singleton_self _)

/-- A pickup query with room for a run that is left returns it. -/
theorem picks_of_hasRoom {s : RunnerSystem} {a : RunnerAct} (h : Left s x) (htrigger : x.trigger_type ≠ .schedule)
    (hroom : HasRoom s a x) : Picks s a x.run_id := by
  obtain ⟨hqueries, hroom⟩ := hroom
  cases a with
  | pick w answer =>
    refine ⟨hqueries, w, answer, rfl, ?_⟩
    rcases hroom w answer rfl with hlen | hmem
    · -- A short answer is all that the query matches.
      obtain ⟨hsub, hlength⟩ := hqueries.2
      have hle : (s.db.runs.filter (·.matched)).length ≤ answer.length := by omega
      have hperm := hsub.perm_of_length_le hle
      exact ⟨x, hperm.symm.subset (List.mem_filter.2 ⟨h.mem, decide_eq_true ⟨h.pending, htrigger⟩⟩), rfl⟩
    · exact hmem
  | _ => exact hqueries.elim

end Runs

/-- **Key result**: in an infinite run, every run that is left pending is picked up by a later pass if and only if no step
loses a scheduled run, and no other run is passed over for ever. -/
theorem runs_kept_iff (r : ℕ → RunnerAct) :
    RunsKept r ↔ (∀ n, ¬Loses (stateAt r n) (r n)) ∧ NonePassedOver r := by
  constructor
  · intro hkept
    refine ⟨fun n hloses => not_kept_of_loses hloses hkept, fun n x hleft _ => ?_⟩
    obtain ⟨m, hm, hqueries, w, answer, hact, hmem⟩ := hkept n x hleft
    refine ⟨m, hm, hqueries, fun w' answer' hact' => Or.inr ?_⟩
    obtain ⟨-, rfl⟩ := RunnerAct.pick.inj (hact.symm.trans hact')
    exact hmem
  · rintro ⟨hnone, hpassed⟩ n x hleft
    have htrigger := trigger_of_left hnone hleft
    obtain ⟨m, hm, hroom⟩ := hpassed n x hleft htrigger
    obtain ⟨k, rfl⟩ := Nat.exists_eq_add_of_le hm
    rcases picked_or_left hleft k with hpicked | hstill
    · exact hpicked
    · exact ⟨n + k, hm, picks_of_hasRoom hstill htrigger hroom⟩

/-- A schedule comes due; the process dies once its run is in, and the passes after that find nothing, for ever. -/
def brokenOff (n : ℕ) : RunnerAct :=
  match n with
  | 0 => .create_script ⟨"auto:a", "t", .noop, true⟩
  | 1 => .create_schedule 0 "asched:a" "t" "auto:a" 60
  | 2 => .begin 0 0
  | 3 => .pick 0 []
  | 4 => .due 0 [⟨"asched:a", "t", "auto:a", 60, none, 0, true⟩]
  | 5 => .next 0 0 "" (.response 200)
  | 6 => .next 0 0 "arun:a" (.response 200)
  | 7 => .die 0
  | n + 8 =>
    match n % 4 with
    | 0 => .begin 0 0
    | 1 => .pick 0 []
    | 2 => .due 0 []
    | _ => .next 0 0 "" (.response 200)

/-- The run of the schedule is never picked up again. -/
theorem broken_off_run_is_lost : ¬RunsKept brokenOff := by
  have hhands : ((stateAt brokenOff 7).pc 0).scheduled = some "arun:a" := by decide +kernel
  exact not_kept_of_loses (n := 7) ⟨0, rfl, by rw [hhands]; nofun⟩

end JLMirror.Automation
