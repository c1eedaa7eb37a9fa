import JLMirror.Automation.RunsKept

/-!
# Runs and due slots are executed once

`_process_pending` reads the pending runs and the due schedules without locking them. A run stays pending until its outcome is
committed, and a schedule stays due until its run is inserted: a second pass that asks in between gets them again.

## The model

* `todo` and `due` are what a worker has yet to execute, and to look at.
* `Unshared` says that no statement fails, and that a query returns no run and no slot that a worker has in hand.

## What is proved

* `step_moves`: what a step can do, said once for the runs and the schedules.
* `RunsInv`, `SlotsInv`: a run that is still to be executed has not been executed; a slot that has yielded is in the past.
* **Key result** (`runs_once`): while the passes share nothing, each run that they take up is executed once, and each slot
  that they find yields one run. It holds over any run of any number of workers.
* `unshared_of_one_worker`: one worker shares nothing.
* `overlapping_passes_run_twice`: two workers do.

## Honest scope

A slot whose script is not enabled yields nothing, by design: the pass switches the schedule off.
-/

namespace JLMirror.Automation

open JLMirror.Foundations JLMirror.Monitoring

/-! ### The claim -/

/-- The runs that a worker has yet to execute. -/
def RunnerPoint.todo : RunnerPoint → List String
  | .idle | .pickup _ | .disable _ _ _ | .insert _ _ _ => []
  | .loop _ rest | .record _ _ _ rest => rest.ids
  | .execute _ job rest => job.run_id :: rest.ids

/-- The run that a worker has executed, and whose outcome is not committed yet. -/
def RunnerPoint.ran : RunnerPoint → Option String
  | .record _ job _ _ => some job.run_id
  | _ => none

def Rest.due : Rest → List AutomationSchedule
  | .manual _ => []
  | .schedules due => due

/-- The schedules that a worker has yet to look at. -/
def RunnerPoint.due : RunnerPoint → List AutomationSchedule
  | .idle | .pickup _ => []
  | .loop _ rest | .execute _ _ rest | .record _ _ _ rest => rest.due
  | .disable _ d due | .insert _ d due => d :: due

/-- The `now` of a pass. -/
def RunnerPoint.now : RunnerPoint → Timestamp
  | .idle => 0
  | .pickup now | .loop now _ | .disable now _ _ | .insert now _ _ | .execute now _ _ | .record now _ _ _ => now

/-- Each run that is taken up is executed once, and each slot that is found yields one run. -/
structure Once (s : RunnerSystem) : Prop where
  executed : (s.executed.map Prod.snd).Nodup
  runs : ∀ w run_id, (w, run_id) ∈ s.picked → (w, run_id) ∈ s.executed ∨ run_id ∈ (s.pc w).todo
  yielded : s.yielded.Nodup
  slots : ∀ w slot, (w, slot) ∈ s.found →
    slot ∈ s.yielded ∨ (w, slot) ∈ s.off ∨ slot ∈ (s.pc w).due.map (·.slot)

/-- No statement fails, and no query returns what a worker has in hand. -/
def Unshared (s : RunnerSystem) : RunnerAct → Prop
  | .pick w answer => ∀ now, s.pc w = .pickup now → ∀ r ∈ answer, ∀ v, r.run_id ∉ (s.pc v).hands
  | .due w answer =>
    ∀ now, s.pc w = .loop now (.manual []) → ∀ d ∈ answer, ∀ v, d.slot ∉ (s.pc v).due.map (·.slot)
  | .next w _ drawn_id _ => ∀ now d due, s.pc w = .insert now d due → ∀ r ∈ s.db.runs, r.run_id ≠ drawn_id
  | .fail _ | .die _ => False
  | _ => True

/-! ### What a step can do -/

/-- A worker has the same in hand at two points, and has committed all that it has executed. -/
structure SameHands (p q : RunnerPoint) : Prop where
  todo : p.todo = q.todo
  left : p.ran = none
  right : q.ran = none
  due : p.due = q.due
  now : p.due = [] ∨ p.now = q.now

/-- At most one run is added, a new one. -/
def AddsAtMost (runs runs' : List AutomationRun) : Prop :=
  runs' = runs ∨ ∃ x : AutomationRun, (∀ y ∈ runs, y.run_id ≠ x.run_id) ∧ runs' = runs ++ [x]

/-- The schedules keep their slots and intervals, and at most one is added, a new one. -/
def KeepsSlots (schedules schedules' : List AutomationSchedule) : Prop :=
  (∃ p f, (∀ d : AutomationSchedule, (f d).schedule_id = d.schedule_id ∧ (f d).next_run_at = d.next_run_at ∧
    (f d).interval_secs = d.interval_secs) ∧ schedules' = updateWhere p f schedules) ∨
  ∃ d : AutomationSchedule, 60 ≤ d.interval_secs ∧ (∀ e ∈ schedules, e.schedule_id ≠ d.schedule_id) ∧
    schedules' = schedules ++ [d]

/-- What others do to the tables. -/
structure Outside (db db' : AutomationDb) : Prop where
  runs : AddsAtMost db.runs db'.runs
  schedules : KeepsSlots db.schedules db'.schedules

/-- What a step of passes that share nothing does. -/
inductive Moves (s : RunnerSystem) (a : RunnerAct) : RunnerSystem → Prop where
  | goto (w : ℕ) (p : RunnerPoint) (hsame : SameHands p (s.pc w)) : Moves s a (s.goto w p)
  | pick (w : ℕ) (now : Timestamp) (answer : List AutomationRun) (hw : s.pc w = .pickup now)
      (hanswer : IsAnswer 10 (s.db.runs.filter (·.matched)) answer) (hnew : ∀ r ∈ answer, ∀ v, r.run_id ∉ (s.pc v).hands) :
      Moves s a { s.goto w (.loop now (.manual (answer.map (·.job)))) with
        picked := s.picked ++ answer.map fun r => (w, r.run_id) }
  | due (w : ℕ) (now : Timestamp) (answer : List AutomationSchedule) (hw : s.pc w = .loop now (.manual []))
      (hanswer : IsAnswer 20 (s.db.schedules.filter (·.due now)) answer)
      (hnew : ∀ d ∈ answer, ∀ v, d.slot ∉ (s.pc v).due.map (·.slot)) :
      Moves s a { s.goto w (.loop now (.schedules answer)) with found := s.found ++ answer.map fun d => (w, d.slot) }
  | disable (w : ℕ) (now : Timestamp) (d : AutomationSchedule) (due : List AutomationSchedule)
      (hw : s.pc w = .disable now d due) :
      Moves s a { s.goto w (.loop now (.schedules due)) with
        db := s.db.disable d.schedule_id, off := s.off ++ [(w, d.slot)] }
  | insert (w : ℕ) (now : Timestamp) (d : AutomationSchedule) (due : List AutomationSchedule) (x : AutomationRun)
      (hw : s.pc w = .insert now d due) (hpending : x.outcome = .pending) (hnew : ∀ y ∈ s.db.runs, y.run_id ≠ x.run_id) :
      Moves s a { s.goto w (.execute now ⟨x.run_id, d.tenant_id, d.script_id⟩ (.schedules due)) with
        db := { s.db with runs := s.db.runs ++ [x] }.advance now d.schedule_id (now + fromtimestamp d.interval_secs)
        picked := s.picked ++ [(w, x.run_id)]
        yielded := s.yielded ++ [d.slot] }
  | execute (w : ℕ) (now : Timestamp) (job : Job) (result : RunResult) (rest : Rest) (hw : s.pc w = .execute now job rest) :
      Moves s a { s.goto w (.record now job result rest) with executed := s.executed ++ [(w, job.run_id)] }
  | record (w : ℕ) (clock now : Timestamp) (job : Job) (result : RunResult) (rest : Rest)
      (hw : s.pc w = .record now job result rest) :
      Moves s a { s.goto w (.loop now rest) with db := s.db.finish clock job.run_id result }
  | other (db : AutomationDb) (hdb : Outside s.db db) : Moves s a { s with db }

section Steps

variable {s : RunnerSystem} {a : RunnerAct} {w : ℕ}

theorem KeepsSlots.refl (schedules : List AutomationSchedule) : KeepsSlots schedules schedules :=
  Or.inl ⟨fun _ => false, id, fun _ => ⟨rfl, rfl, rfl⟩, (updateWhere_of_none fun _ _ => rfl).symm⟩

theorem Outside.refl (db : AutomationDb) : Outside db db := ⟨Or.inl rfl, .refl _⟩

theorem moves_stay : Moves s a s := .other s.db (.refl s.db)

theorem outside_insertRun (db : AutomationDb) (x : AutomationRun) : Outside db ((db.insertRun x).getD db) := by
  cases hinsert : db.insertRun x with
  | none => exact .refl db
  | some db' =>
    obtain ⟨hnew, rfl⟩ := insertRun_eq_some hinsert
    exact ⟨Or.inr ⟨x, hnew, rfl⟩, KeepsSlots.refl _⟩

/-- A transaction of the API or of the incident response. -/
theorem outside_other (db : AutomationDb) (a : RunnerAct) : Outside db (db.other a) := by
  cases a with
  | create_script script =>
    dsimp only [AutomationDb.other]
    split_ifs
    · exact .refl db
    · exact ⟨Or.inl rfl, KeepsSlots.refl _⟩
  | update_script tenant_id script_id script_type enabled => exact ⟨Or.inl rfl, KeepsSlots.refl _⟩
  | trigger_script now tenant_id script_id run_id =>
    dsimp only [AutomationDb.other]
    split_ifs
    · exact outside_insertRun db _
    · exact .refl db
  | g11_enqueue_automation now tenant_id script_id run_id =>
    dsimp only [AutomationDb.other]
    split_ifs
    · exact outside_insertRun db _
    · exact .refl db
  | create_schedule now schedule_id tenant_id script_id interval_secs =>
    dsimp only [AutomationDb.other]
    split_ifs with hrefused
    · exact .refl db
    · push Not at hrefused
      refine ⟨Or.inl rfl, Or.inr ⟨_, hrefused.1, fun e he heq => hrefused.2.2 (List.any_eq_true.2 ⟨e, he, ?_⟩), rfl⟩⟩
      exact decide_eq_true heq
  | delete_schedule tenant_id schedule_id =>
    exact ⟨Or.inl rfl, Or.inl ⟨_, fun d => { d with enabled := false }, fun _ => ⟨rfl, rfl, rfl⟩, rfl⟩⟩
  | _ => exact .refl db

/-- The next statement of a pass. -/
theorem moves_next {clock : Timestamp} {drawn_id : String} {answer : WebhookAnswer}
    (h : Unshared s (.next w clock drawn_id answer)) : Moves s a (s.next w clock drawn_id answer) := by
  have hgoto : ∀ p, SameHands p (s.pc w) → Moves s a (s.goto w p) := .goto w
  unfold RunnerSystem.next
  split
  · exact moves_stay
  · exact moves_stay
  · exact moves_stay
  · rename_i hpc
    exact hgoto _ (hpc ▸ ⟨rfl, rfl, rfl, rfl, Or.inl rfl⟩)
  · rename_i hpc
    exact hgoto _ (hpc ▸ ⟨rfl, rfl, rfl, rfl, Or.inl rfl⟩)
  · rename_i now d due hpc
    split
    · exact hgoto _ (hpc ▸ ⟨rfl, rfl, rfl, rfl, Or.inr rfl⟩)
    · split_ifs
      · exact hgoto _ (hpc ▸ ⟨rfl, rfl, rfl, rfl, Or.inr rfl⟩)
      · exact hgoto _ (hpc ▸ ⟨rfl, rfl, rfl, rfl, Or.inr rfl⟩)
  · rename_i now d due hpc
    exact .disable w now d due hpc
  · rename_i now d due hpc
    have hnew := h now d due hpc
    unfold RunnerSystem.insert
    split
    · rename_i hinsert
      unfold AutomationDb.insertRun at hinsert
      split_ifs at hinsert with hany
      obtain ⟨r, hr, hid⟩ := List.any_eq_true.1 hany
      exact absurd (of_decide_eq_true hid) (hnew r hr)
    · rename_i db hinsert
      obtain ⟨-, rfl⟩ := insertRun_eq_some hinsert
      exact .insert w now d due _ hpc rfl hnew
  · rename_i now job rest hpc
    exact .execute w now job _ rest hpc
  · rename_i now job result rest hpc
    exact .record w clock now job result rest hpc

/-- What a step can do. -/
theorem step_moves (h : Unshared s a) : Moves s a (s.step a) := by
  cases a with
  | begin w now =>
    dsimp only [RunnerSystem.step]
    split
    · rename_i hpc
      exact .goto w _ (hpc ▸ ⟨rfl, rfl, rfl, rfl, Or.inl rfl⟩)
    · exact moves_stay
  | pick w answer =>
    dsimp only [RunnerSystem.step]
    split
    · rename_i now hpc
      split_ifs with hanswer
      · exact .pick w now answer hpc hanswer (h now hpc)
      · exact moves_stay
    · exact moves_stay
  | due w answer =>
    dsimp only [RunnerSystem.step]
    split
    · rename_i now hpc
      split_ifs with hanswer
      · exact .due w now answer hpc hanswer (h now hpc)
      · exact moves_stay
    · exact moves_stay
  | next w clock drawn_id answer => exact moves_next h
  | fail w => exact h.elim
  | die w => exact h.elim
  | _ => exact .other _ (outside_other s.db _)

/-! ### The runs -/

/-- What holds of the runs in every state. -/
structure RunsInv (s : RunnerSystem) : Prop where
  base : RunnerInv s
  /-- A run is in one worker's hands, once. -/
  disjoint : ∀ v w id, id ∈ (s.pc v).hands → id ∈ (s.pc w).hands → v = w
  nodup : ∀ w, (s.pc w).hands.Nodup
  known : ∀ id ∈ s.executed.map Prod.snd, ∃ y ∈ s.db.runs, y.run_id = id
  /-- A run that has been executed is not pending, or its outcome is about to be written. -/
  ended : ∀ y ∈ s.db.runs, y.outcome = .pending → y.run_id ∈ s.executed.map Prod.snd → ∃ w, (s.pc w).ran = some y.run_id
  fresh : ∀ w, ∀ id ∈ (s.pc w).todo, id ∉ s.executed.map Prod.snd
  once : (s.executed.map Prod.snd).Nodup
  picked : ∀ w id, (w, id) ∈ s.picked → (w, id) ∈ s.executed ∨ id ∈ (s.pc w).todo

/-- What a worker has in hand is what it has executed, and what it has yet to execute. -/
theorem hands_eq (p : RunnerPoint) : p.hands = p.ran.toList ++ p.todo := by
  cases p <;> rfl

theorem AddsAtMost.subset {runs runs' : List AutomationRun} (h : AddsAtMost runs runs') : runs ⊆ runs' := by
  rcases h with rfl | ⟨x, -, rfl⟩
  · exact List.Subset.refl _
  · exact List.subset_append_left ..

theorem RunsInv.old (h : RunsInv s) {runs' : List AutomationRun} (hruns : AddsAtMost s.db.runs runs') {y : AutomationRun}
    (hy : y ∈ runs') (hid : y.run_id ∈ s.executed.map Prod.snd) : y ∈ s.db.runs := by
  rcases hruns with rfl | ⟨x, hnew, rfl⟩
  · exact hy
  · rcases List.mem_append.1 hy with hy | hy
    · exact hy
    · obtain rfl := List.mem_singleton.1 hy
      obtain ⟨z, hz, hzid⟩ := h.known y.run_id hid
      exact absurd hzid (hnew z hz)

variable {s' : RunnerSystem}

/-- A step that leaves the workers' runs as they are. -/
theorem RunsInv.quiet (h : RunsInv s) (hbase : RunnerInv s') (hruns : AddsAtMost s.db.runs s'.db.runs)
    (htodo : ∀ v, (s'.pc v).todo = (s.pc v).todo) (hran : ∀ v, (s'.pc v).ran = (s.pc v).ran)
    (hexecuted : s'.executed = s.executed) (hpicked : s'.picked = s.picked) : RunsInv s' := by
  have hhands : ∀ v, (s'.pc v).hands = (s.pc v).hands := fun v => by rw [hands_eq, hands_eq, htodo, hran]
  refine ⟨hbase, fun v w id hv hw => ?_, fun w => ?_, fun id hid => ?_, fun y hy hpending hid => ?_, fun w id hid => ?_, ?_,
    fun w id hid => ?_⟩
  · rw [hhands] at hv hw
    exact h.disjoint v w id hv hw
  · rw [hhands]
    exact h.nodup w
  · rw [hexecuted] at hid
    obtain ⟨y, hy, heq⟩ := h.known id hid
    exact ⟨y, hruns.subset hy, heq⟩
  · rw [hexecuted] at hid
    obtain ⟨w, hw⟩ := h.ended y (h.old hruns hy hid) hpending hid
    exact ⟨w, by rw [hran]; exact hw⟩
  · rw [htodo] at hid
    rw [hexecuted]
    exact h.fresh w id hid
  · rw [hexecuted]
    exact h.once
  · rw [hpicked] at hid
    rw [hexecuted, htodo]
    exact h.picked w id hid

variable {p : RunnerPoint}

/-- A worker that goes on with the same runs. -/
theorem RunsInv.same (h : RunsInv s) (hbase : RunnerInv s') (hruns : s'.db.runs = s.db.runs)
    (hpc : s'.pc = Function.update s.pc w p) (htodo : p.todo = (s.pc w).todo) (hran : p.ran = (s.pc w).ran)
    (hexecuted : s'.executed = s.executed) (hpicked : s'.picked = s.picked) : RunsInv s' := by
  refine h.quiet hbase (Or.inl hruns) (fun v => ?_) (fun v => ?_) hexecuted hpicked
  · rw [pc_update hpc]
    split_ifs with hv
    · rw [hv, htodo]
    · rfl
  · rw [pc_update hpc]
    split_ifs with hv
    · rw [hv, hran]
    · rfl

/-- A worker with empty hands takes up runs that nobody has in hand, and that have not been executed. -/
theorem RunsInv.take (h : RunsInv s) (hbase : RunnerInv s') (hruns : AddsAtMost s.db.runs s'.db.runs)
    (hpc : s'.pc = Function.update s.pc w p) (hw : (s.pc w).hands = []) (hran : p.ran = none) (hnodup : p.todo.Nodup)
    (hfree : ∀ id ∈ p.todo, ∀ v, id ∉ (s.pc v).hands) (hfresh : ∀ id ∈ p.todo, id ∉ s.executed.map Prod.snd)
    (hexecuted : s'.executed = s.executed) (hpicked : s'.picked = s.picked ++ p.todo.map fun id => (w, id)) :
    RunsInv s' := by
  have hhands : p.hands = p.todo := by rw [hands_eq, hran]; rfl
  have hempty : (s.pc w).ran.toList = [] ∧ (s.pc w).todo = [] := by
    rw [hands_eq] at hw
    exact List.append_eq_nil_iff.1 hw
  refine ⟨hbase, fun v u id hv hu => ?_, fun v => ?_, fun id hid => ?_, fun y hy hpending hid => ?_, fun v id hid => ?_, ?_,
    fun v id hid => ?_⟩
  · rw [pc_update hpc] at hv hu
    split_ifs at hv hu with hvw huw huw
    · rw [hvw, huw]
    · rw [hhands] at hv
      exact absurd hu (hfree id hv u)
    · rw [hhands] at hu
      exact absurd hv (hfree id hu v)
    · exact h.disjoint v u id hv hu
  · rw [pc_update hpc]
    split_ifs
    · rw [hhands]
      exact hnodup
    · exact h.nodup v
  · rw [hexecuted] at hid
    obtain ⟨y, hy, heq⟩ := h.known id hid
    exact ⟨y, hruns.subset hy, heq⟩
  · rw [hexecuted] at hid
    obtain ⟨v, hv⟩ := h.ended y (h.old hruns hy hid) hpending hid
    refine ⟨v, ?_⟩
    rw [pc_update hpc, if_neg fun hvw => ?_]
    · exact hv
    · rw [hvw] at hv
      rw [hv] at hempty
      cases hempty.1
  · rw [hexecuted]
    rw [pc_update hpc] at hid
    split_ifs at hid
    · exact hfresh id hid
    · exact h.fresh v id hid
  · rw [hexecuted]
    exact h.once
  · rw [hexecuted, pc_update hpc]
    rw [hpicked] at hid
    rcases List.mem_append.1 hid with hid | hid
    · rcases h.picked v id hid with hdone | htodo
      · exact Or.inl hdone
      · refine Or.inr ?_
        rw [if_neg fun hvw => ?_]
        · exact htodo
        · rw [hvw, hempty.2] at htodo
          exact List.not_mem_nil htodo
    · obtain ⟨id', hid', heq⟩ := List.mem_map.1 hid
      obtain ⟨rfl, rfl⟩ := Prod.mk.inj heq
      rw [if_pos rfl]
      exact Or.inr hid'

theorem IsAnswer.nodup_map {α κ : Type} {limit : ℕ} {rows answer : List α} (h : IsAnswer limit rows answer) {k : α → κ}
    (hk : (rows.map k).Nodup) : (answer.map k).Nodup := by
  obtain ⟨l, hperm, hsub⟩ := h.1
  exact (hperm.map k).nodup_iff.1 (hk.sublist (hsub.map k))

theorem nodup_map_filter {α κ : Type} {rows : List α} {k : α → κ} (hk : (rows.map k).Nodup) (p : α → Bool) :
    ((rows.filter p).map k).Nodup := hk.sublist (List.filter_sublist.map k)

/-- The execution of a run. -/
theorem RunsInv.execute {now : Timestamp} {job : Job} {result : RunResult} {rest : Rest} (h : RunsInv s)
    (hw : s.pc w = .execute now job rest)
    (hbase : RunnerInv { s.goto w (.record now job result rest) with executed := s.executed ++ [(w, job.run_id)] }) :
    RunsInv { s.goto w (.record now job result rest) with executed := s.executed ++ [(w, job.run_id)] } := by
  have hpc : ∀ v, (s.goto w (.record now job result rest)).pc v = if v = w then .record now job result rest else s.pc v :=
    pc_update rfl
  have hhands : ∀ v, ((s.goto w (.record now job result rest)).pc v).hands = (s.pc v).hands := by
    intro v
    rw [hpc]
    split_ifs with hvw
    · rw [hvw, hw]
      rfl
    · rfl
  have hjob : job.run_id ∈ (s.pc w).hands := by rw [hw]; exact List.mem_cons_self
  have hnodup := h.nodup w
  rw [hw] at hnodup
  have hlast : job.run_id ∉ s.executed.map Prod.snd := h.fresh w job.run_id (by rw [hw]; exact List.mem_cons_self)
  have hexecuted : (s.executed ++ [(w, job.run_id)]).map Prod.snd = s.executed.map Prod.snd ++ [job.run_id] :=
    List.map_append
  refine ⟨hbase, fun v u id hv hu => ?_, fun v => ?_, fun id hid => ?_, fun y hy hpending hid => ?_, fun v id hid hdone => ?_,
    ?_, fun v id hid => ?_⟩
  · exact h.disjoint v u id (hhands v ▸ hv) (hhands u ▸ hu)
  · exact hhands v ▸ h.nodup v
  · rw [hexecuted] at hid
    rcases List.mem_append.1 hid with hid | hid
    · exact h.known id hid
    · obtain rfl := List.mem_singleton.1 hid
      exact h.base.known hjob
  · rw [hexecuted] at hid
    rcases List.mem_append.1 hid with hid | hid
    · obtain ⟨v, hv⟩ := h.ended y hy hpending hid
      refine ⟨v, ?_⟩
      rw [hpc, if_neg fun hvw => ?_]
      · exact hv
      · rw [hvw, hw] at hv
        cases hv
    · refine ⟨w, ?_⟩
      rw [hpc, if_pos rfl]
      exact congrArg some (List.mem_singleton.1 hid).symm
  · rw [hexecuted] at hdone
    rw [hpc] at hid
    split_ifs at hid with hvw
    · rcases List.mem_append.1 hdone with hdone | hdone
      · exact h.fresh w id (by rw [hw]; exact List.mem_cons_of_mem _ hid) hdone
      · rw [List.mem_singleton.1 hdone] at hid
        exact (List.nodup_cons.1 hnodup).1 hid
    · rcases List.mem_append.1 hdone with hdone | hdone
      · exact h.fresh v id hid hdone
      · rw [List.mem_singleton.1 hdone] at hid
        refine hvw (h.disjoint v w job.run_id ?_ hjob)
        rw [hands_eq]
        exact List.mem_append_right _ hid
  · rw [hexecuted]
    exact h.once.append (List.nodup_singleton _) (List.disjoint_singleton.2 hlast)
  · rw [hpc]
    rcases h.picked v id hid with hdone | htodo
    · exact Or.inl (List.mem_append_left _ hdone)
    · split_ifs with hvw
      · rw [hvw, hw] at htodo
        rcases List.mem_cons.1 htodo with rfl | htodo
        · exact Or.inl (List.mem_append_right _ (hvw ▸ List.mem_singleton_self _))
        · exact Or.inr htodo
      · exact Or.inr htodo

/-- The outcome of a run is written. -/
theorem RunsInv.record {clock now : Timestamp} {job : Job} {result : RunResult} {rest : Rest} (h : RunsInv s)
    (hw : s.pc w = .record now job result rest)
    (hbase : RunnerInv { s.goto w (.loop now rest) with db := s.db.finish clock job.run_id result }) :
    RunsInv { s.goto w (.loop now rest) with db := s.db.finish clock job.run_id result } := by
  have hpc : ∀ v, (s.goto w (.loop now rest)).pc v = if v = w then .loop now rest else s.pc v := pc_update rfl
  have hsub : ∀ v, ((s.goto w (.loop now rest)).pc v).hands.Sublist (s.pc v).hands := by
    intro v
    rw [hpc]
    split_ifs with hvw
    · rw [hvw, hw]
      exact List.sublist_cons_self ..
    · exact List.Sublist.refl _
  have htodo : ∀ v, ((s.goto w (.loop now rest)).pc v).todo = (s.pc v).todo := by
    intro v
    rw [hpc]
    split_ifs with hvw
    · rw [hvw, hw]
      rfl
    · rfl
  refine ⟨hbase, fun v u id hv hu => ?_, fun v => ?_, fun id hid => ?_, fun y hy hpending hid => ?_, fun v id hid => ?_, h.once,
    fun v id hid => ?_⟩
  · exact h.disjoint v u id ((hsub v).subset hv) ((hsub u).subset hu)
  · exact (h.nodup v).sublist (hsub v)
  · obtain ⟨y, hy, rfl⟩ := h.known id hid
    refine ⟨_, mem_updateWhere.2 ⟨y, hy, rfl⟩, ?_⟩
    split_ifs <;> rfl
  · obtain ⟨z, hz, rfl⟩ := mem_updateWhere.1 hy
    by_cases hjob : z.run_id = job.run_id
    · rw [if_pos (decide_eq_true hjob)] at hpending
      exact absurd hpending ((h.base.workers w).result now job result rest hw)
    · rw [if_neg (by simpa using hjob)] at hpending hid ⊢
      obtain ⟨v, hv⟩ := h.ended z hz hpending hid
      refine ⟨v, ?_⟩
      rw [hpc, if_neg fun hvw => ?_]
      · exact hv
      · rw [hvw, hw] at hv
        exact hjob (Option.some.inj hv).symm
  · exact h.fresh v id (htodo v ▸ hid)
  · exact (h.picked v id hid).imp_right fun hmem => htodo v ▸ hmem

/-- A step of passes that share nothing keeps the invariant. -/
theorem Moves.runsInv (hmoves : Moves s a s') (h : RunsInv s) (hbase : RunnerInv s') : RunsInv s' := by
  cases hmoves with
  | goto w p hsame => exact h.same hbase rfl rfl hsame.todo (hsame.left.trans hsame.right.symm) rfl rfl
  | other db hdb => exact h.quiet hbase hdb.runs (fun _ => rfl) (fun _ => rfl) rfl rfl
  | due w now answer hw hanswer hnew => exact h.same hbase rfl rfl (by rw [hw]; rfl) (by rw [hw]; rfl) rfl rfl
  | disable w now d due hw => exact h.same hbase rfl rfl (by rw [hw]; rfl) (by rw [hw]; rfl) rfl rfl
  | pick w now answer hw hanswer hnew =>
    have htodo : RunnerPoint.todo (.loop now (.manual (answer.map (·.job)))) = answer.map (·.run_id) :=
      List.map_map
    refine h.take hbase (Or.inl rfl) (w := w) rfl (by rw [hw]; rfl) rfl ?_ (fun id hid => ?_) (fun id hid hdone => ?_) rfl ?_
    · rw [htodo]
      exact hanswer.nodup_map (nodup_map_filter h.base.ids _)
    · rw [htodo] at hid
      obtain ⟨y, hy, rfl⟩ := List.mem_map.1 hid
      exact hnew y hy
    · rw [htodo] at hid
      obtain ⟨y, hy, rfl⟩ := List.mem_map.1 hid
      obtain ⟨hmem, hmatched⟩ := List.mem_filter.1 (hanswer.1.subset hy)
      obtain ⟨v, hv⟩ := h.ended y hmem (of_decide_eq_true hmatched).1 hdone
      refine hnew y hy v ?_
      rw [hands_eq, hv]
      exact List.mem_cons_self
    · rw [htodo, List.map_map]
      rfl
  | insert w now d due x hw hpending hnew =>
    refine h.take hbase (Or.inr ⟨x, hnew, rfl⟩) (w := w) rfl (by rw [hw]; rfl) rfl (List.nodup_singleton _) (fun id hid v hv => ?_)
      (fun id hid hdone => ?_) rfl rfl
    · obtain rfl := List.mem_singleton.1 hid
      obtain ⟨y, hy, heq⟩ := h.base.known hv
      exact hnew y hy heq
    · obtain rfl := List.mem_singleton.1 hid
      obtain ⟨y, hy, heq⟩ := h.known _ hdone
      exact hnew y hy heq
  | execute w now job result rest hw => exact h.execute hw hbase
  | record w clock now job result rest hw => exact h.record hw hbase

/-! ### The schedules -/

/-- What holds of the schedules that the workers have yet to look at. -/
structure DueInv (schedules : List AutomationSchedule) (pc : ℕ → RunnerPoint) : Prop where
  /-- The row is as it was found. -/
  current : ∀ w, ∀ d ∈ (pc w).due, ∃ e ∈ schedules, e.schedule_id = d.schedule_id ∧ e.next_run_at = d.next_run_at
  past : ∀ w, ∀ d ∈ (pc w).due, d.next_run_at ≤ (pc w).now ∧ 0 < d.interval_secs
  /-- A schedule is in one worker's hands, once. -/
  disjoint : ∀ v w d e, d ∈ (pc v).due → e ∈ (pc w).due → d.schedule_id = e.schedule_id → v = w
  nodup : ∀ w, ((pc w).due.map (·.schedule_id)).Nodup

/-- What holds of the schedules in every state. -/
structure SlotsInv (s : RunnerSystem) : Prop where
  keys : (s.db.schedules.map (·.schedule_id)).Nodup
  interval : ∀ d ∈ s.db.schedules, 0 < d.interval_secs
  due : DueInv s.db.schedules s.pc
  /-- A slot that has yielded is before the schedule's next one. -/
  past : ∀ x ∈ s.yielded, ∃ e ∈ s.db.schedules, e.schedule_id = x.1 ∧ x.2 < e.next_run_at
  once : s.yielded.Nodup
  found : ∀ w x, (w, x) ∈ s.found → x ∈ s.yielded ∨ (w, x) ∈ s.off ∨ x ∈ (s.pc w).due.map (·.slot)

/-- The workers have less to look at, and their rows stay as they are. -/
theorem DueInv.mono {schedules schedules' : List AutomationSchedule} {pc pc' : ℕ → RunnerPoint} (h : DueInv schedules pc)
    (hdue : ∀ v, (pc' v).due.Sublist (pc v).due) (hnow : ∀ v, (pc' v).due = [] ∨ (pc' v).now = (pc v).now)
    (hkept : ∀ v, ∀ d ∈ (pc' v).due, ∀ e ∈ schedules, e.schedule_id = d.schedule_id →
      ∃ e' ∈ schedules', e'.schedule_id = e.schedule_id ∧ e'.next_run_at = e.next_run_at) : DueInv schedules' pc' := by
  refine ⟨fun w d hd => ?_, fun w d hd => ?_, fun v w d e hd he => ?_, fun w => ?_⟩
  · obtain ⟨e, he, hid, hnext⟩ := h.current w d ((hdue w).subset hd)
    obtain ⟨e', he', hid', hnext'⟩ := hkept w d hd e he hid
    exact ⟨e', he', hid'.trans hid, hnext'.trans hnext⟩
  · rcases hnow w with hnil | hnow
    · rw [hnil] at hd
      exact absurd hd List.not_mem_nil
    · rw [hnow]
      exact h.past w d ((hdue w).subset hd)
  · exact h.disjoint v w d e ((hdue v).subset hd) ((hdue w).subset he)
  · exact (h.nodup w).sublist ((hdue w).map _)

section Kept

variable {schedules schedules' : List AutomationSchedule}

theorem KeepsSlots.slot (h : KeepsSlots schedules schedules') {e : AutomationSchedule} (he : e ∈ schedules) :
    ∃ e' ∈ schedules', e'.schedule_id = e.schedule_id ∧ e'.next_run_at = e.next_run_at := by
  rcases h with ⟨p, f, hf, rfl⟩ | ⟨d, -, -, rfl⟩
  · refine ⟨_, mem_updateWhere.2 ⟨e, he, rfl⟩, ?_⟩
    split_ifs
    · exact ⟨(hf e).1, (hf e).2.1⟩
    · exact ⟨rfl, rfl⟩
  · exact ⟨e, List.mem_append_left _ he, rfl, rfl⟩

theorem KeepsSlots.keys (h : KeepsSlots schedules schedules') (hkeys : (schedules.map (·.schedule_id)).Nodup) :
    (schedules'.map (·.schedule_id)).Nodup := by
  rcases h with ⟨p, f, hf, rfl⟩ | ⟨d, -, hnew, rfl⟩
  · rw [map_updateWhere fun d => (hf d).1]
    exact hkeys
  · exact nodup_map_append_new hkeys hnew

theorem KeepsSlots.interval (h : KeepsSlots schedules schedules') (hpos : ∀ d ∈ schedules, 0 < d.interval_secs) :
    ∀ d ∈ schedules', 0 < d.interval_secs := by
  intro d hd
  rcases h with ⟨p, f, hf, rfl⟩ | ⟨e, he, -, rfl⟩
  · obtain ⟨e, he, rfl⟩ := mem_updateWhere.1 hd
    split_ifs
    · rw [(hf e).2.2]
      exact hpos e he
    · exact hpos e he
  · rcases List.mem_append.1 hd with hd | hd
    · exact hpos d hd
    · obtain rfl := List.mem_singleton.1 hd
      omega

end Kept

/-- A worker goes on, perhaps with one schedule less, which it has switched off. -/
theorem SlotsInv.quiet (h : SlotsInv s) (hdb : KeepsSlots s.db.schedules s'.db.schedules)
    (hpc : s'.pc = Function.update s.pc w p) (hdue : p.due.Sublist (s.pc w).due)
    (hnow : p.due = [] ∨ p.now = (s.pc w).now) (hyielded : s'.yielded = s.yielded) (hfound : s'.found = s.found)
    (hoff : s.off ⊆ s'.off) (hgone : ∀ x ∈ (s.pc w).due.map (·.slot), (w, x) ∈ s'.off ∨ x ∈ p.due.map (·.slot)) :
    SlotsInv s' := by
  refine ⟨hdb.keys h.keys, hdb.interval h.interval, h.due.mono (fun v => ?_) (fun v => ?_) fun _ _ _ e he _ => hdb.slot he,
    fun x hx => ?_, ?_, fun v x hx => ?_⟩
  · rw [pc_update hpc]
    split_ifs with hv
    · exact hv ▸ hdue
    · exact List.Sublist.refl _
  · rw [pc_update hpc]
    split_ifs with hv
    · exact hv ▸ hnow
    · exact Or.inr rfl
  · rw [hyielded] at hx
    obtain ⟨e, he, hid, hlt⟩ := h.past x hx
    obtain ⟨e', he', hid', hnext⟩ := hdb.slot he
    exact ⟨e', he', hid'.trans hid, by rw [hnext]; exact hlt⟩
  · rw [hyielded]
    exact h.once
  · rw [hyielded, pc_update hpc]
    rw [hfound] at hx
    rcases h.found v x hx with hdone | hswitched | hwaits
    · exact Or.inl hdone
    · exact Or.inr (Or.inl (hoff hswitched))
    · split_ifs with hv
      · rw [hv] at hwaits ⊢
        exact Or.inr (hgone x hwaits)
      · exact Or.inr (Or.inr hwaits)

theorem SlotsInv.same (h : SlotsInv s) (hdb : KeepsSlots s.db.schedules s'.db.schedules)
    (hpc : s'.pc = Function.update s.pc w p) (hdue : p.due = (s.pc w).due) (hnow : p.due = [] ∨ p.now = (s.pc w).now)
    (hyielded : s'.yielded = s.yielded) (hfound : s'.found = s.found) (hoff : s'.off = s.off) : SlotsInv s' :=
  h.quiet hdb hpc (hdue ▸ List.Sublist.refl _) hnow hyielded hfound (hoff ▸ List.Subset.refl _)
    fun _ hx => Or.inr (hdue ▸ hx)

/-- The slots of a query's answer. -/
theorem SlotsInv.find {now : Timestamp} {answer : List AutomationSchedule} (h : SlotsInv s)
    (hw : s.pc w = .loop now (.manual [])) (hanswer : IsAnswer 20 (s.db.schedules.filter (·.due now)) answer)
    (hnew : ∀ d ∈ answer, ∀ v, d.slot ∉ (s.pc v).due.map (·.slot)) (hdb : s'.db = s.db)
    (hpc : s'.pc = Function.update s.pc w (.loop now (.schedules answer))) (hyielded : s'.yielded = s.yielded)
    (hfound : s'.found = s.found ++ answer.map fun d => (w, d.slot)) (hoff : s'.off = s.off) : SlotsInv s' := by
  have hrow : ∀ d ∈ answer, d ∈ s.db.schedules ∧ d.next_run_at ≤ now := by
    intro d hd
    obtain ⟨hmem, hdue⟩ := List.mem_filter.1 (hanswer.1.subset hd)
    exact ⟨hmem, (of_decide_eq_true hdue).2⟩
  -- What another worker has yet to look at is a row with the same slot.
  have hother : ∀ d ∈ answer, ∀ v, ∀ e ∈ (s.pc v).due, d.schedule_id ≠ e.schedule_id := by
    intro d hd v e he hid
    obtain ⟨e', he', hid', hnext⟩ := h.due.current v e he
    obtain rfl := eq_of_key h.keys (hrow d hd).1 he' (hid.trans hid'.symm)
    exact hnew d hd v (List.mem_map.2 ⟨e, he, Prod.ext hid.symm hnext.symm⟩)
  refine ⟨hdb ▸ h.keys, hdb ▸ h.interval, ⟨fun v d hd => ?_, fun v d hd => ?_, fun v u d e hd he hid => ?_, fun v => ?_⟩,
    hyielded ▸ hdb ▸ h.past, hyielded ▸ h.once, fun v x hx => ?_⟩
  · rw [hdb]
    rw [pc_update hpc] at hd
    split_ifs at hd
    · exact ⟨d, (hrow d hd).1, rfl, rfl⟩
    · exact h.due.current v d hd
  · rw [pc_update hpc] at hd ⊢
    split_ifs at hd ⊢
    · exact ⟨(hrow d hd).2, h.interval d (hrow d hd).1⟩
    · exact h.due.past v d hd
  · rw [pc_update hpc] at hd he
    split_ifs at hd he with hvw huw huw
    · rw [hvw, huw]
    · exact absurd hid (hother d hd u e he)
    · exact absurd hid.symm (hother e he v d hd)
    · exact h.due.disjoint v u d e hd he hid
  · rw [pc_update hpc]
    split_ifs
    · exact hanswer.nodup_map (nodup_map_filter h.keys _)
    · exact h.due.nodup v
  · rw [hyielded, hoff, pc_update hpc]
    rw [hfound] at hx
    rcases List.mem_append.1 hx with hx | hx
    · rcases h.found v x hx with hdone | hswitched | hwaits
      · exact Or.inl hdone
      · exact Or.inr (Or.inl hswitched)
      · refine Or.inr (Or.inr ?_)
        rw [if_neg fun hv => ?_]
        · exact hwaits
        · rw [hv, hw] at hwaits
          exact List.not_mem_nil hwaits
    · obtain ⟨d, hd, heq⟩ := List.mem_map.1 hx
      obtain ⟨rfl, rfl⟩ := Prod.mk.inj heq
      rw [if_pos rfl]
      exact Or.inr (Or.inr (List.mem_map.2 ⟨d, hd, rfl⟩))

theorem keys_advance (db : AutomationDb) (now : Timestamp) (schedule_id : String) (next : Timestamp) :
    (db.advance now schedule_id next).schedules.map (·.schedule_id) = db.schedules.map (·.schedule_id) := by
  unfold AutomationDb.advance
  apply map_updateWhere
  intro d
  rfl

/-- The run of a schedule, and the schedule's next time. -/
theorem SlotsInv.insert {now : Timestamp} {d : AutomationSchedule} {due : List AutomationSchedule} (h : SlotsInv s)
    (hw : s.pc w = .insert now d due)
    (hdb : s'.db.schedules = (s.db.advance now d.schedule_id (now + fromtimestamp d.interval_secs)).schedules)
    (hpc : s'.pc = Function.update s.pc w p) (hdue : p.due = due) (hnow : p.now = now)
    (hyielded : s'.yielded = s.yielded ++ [d.slot]) (hfound : s'.found = s.found) (hoff : s'.off = s.off) :
    SlotsInv s' := by
  have hhead : d ∈ (s.pc w).due := by rw [hw]; exact List.mem_cons_self
  have hnodup := h.due.nodup w
  rw [hw] at hnodup
  obtain ⟨e₀, he₀, hid₀, hnext₀⟩ := h.due.current w d hhead
  have hlater : d.next_run_at < now + fromtimestamp d.interval_secs := by
    have hpast := h.due.past w d hhead
    rw [hw] at hpast
    have hpos : (0 : Int) < fromtimestamp d.interval_secs := by
      have := hpast.2
      unfold fromtimestamp
      omega
    exact Int.lt_of_le_of_lt hpast.1 (Int.lt_add_of_pos_right now hpos)
  have hrow : ∀ e ∈ s.db.schedules, e.schedule_id = d.schedule_id → e.next_run_at = d.next_run_at := by
    intro e he hid
    rw [eq_of_key h.keys he he₀ (hid.trans hid₀.symm), hnext₀]
  have hmem : ∀ e ∈ s.db.schedules, ∃ e' ∈ s'.db.schedules, e'.schedule_id = e.schedule_id ∧
      if e.schedule_id = d.schedule_id then e'.next_run_at = now + fromtimestamp d.interval_secs
      else e'.next_run_at = e.next_run_at := by
    intro e he
    rw [hdb]
    refine ⟨_, mem_updateWhere.2 ⟨e, he, rfl⟩, ?_⟩
    by_cases hid : e.schedule_id = d.schedule_id
    · rw [if_pos (decide_eq_true hid), if_pos hid]
      exact ⟨rfl, rfl⟩
    · rw [if_neg (by simpa using hid), if_neg hid]
      exact ⟨rfl, rfl⟩
  refine ⟨?_, fun e he => ?_, h.due.mono (fun v => ?_) (fun v => ?_) (fun v e he e' he' hid => ?_), fun x hx => ?_, ?_,
    fun v x hx => ?_⟩
  · rw [hdb, keys_advance]
    exact h.keys
  · rw [hdb] at he
    obtain ⟨e', he', rfl⟩ := mem_updateWhere.1 he
    split_ifs
    · exact h.interval e' he'
    · exact h.interval e' he'
  · rw [pc_update hpc]
    split_ifs with hv
    · rw [hv, hdue, hw]
      exact List.sublist_cons_self ..
    · exact List.Sublist.refl _
  · rw [pc_update hpc]
    split_ifs with hv
    · rw [hv, hnow, hw]
      exact Or.inr rfl
    · exact Or.inr rfl
  · -- The other schedules that are waiting have other rows.
    have hne : e'.schedule_id ≠ d.schedule_id := by
      intro heq
      rw [pc_update hpc] at he
      split_ifs at he with hv
      · rw [hdue] at he
        exact (List.nodup_cons.1 hnodup).1 (List.mem_map.2 ⟨e, he, hid.symm.trans heq⟩)
      · exact hv (h.due.disjoint v w e d he hhead (hid.symm.trans heq))
    obtain ⟨e'', he'', hid'', hnext⟩ := hmem e' he'
    rw [if_neg hne] at hnext
    exact ⟨e'', he'', hid'', hnext⟩
  · rw [hyielded] at hx
    rcases List.mem_append.1 hx with hx | hx
    · obtain ⟨e, he, hid, hlt⟩ := h.past x hx
      obtain ⟨e', he', hid', hnext⟩ := hmem e he
      refine ⟨e', he', hid'.trans hid, ?_⟩
      split_ifs at hnext with heq
      · rw [hrow e he heq] at hlt
        rw [hnext]
        exact Int.lt_trans hlt hlater
      · rw [hnext]
        exact hlt
    · obtain rfl := List.mem_singleton.1 hx
      obtain ⟨e', he', hid', hnext⟩ := hmem e₀ he₀
      rw [if_pos hid₀] at hnext
      exact ⟨e', he', hid'.trans hid₀, by rw [hnext]; exact hlater⟩
  · rw [hyielded]
    refine h.once.append (List.nodup_singleton _) (List.disjoint_singleton.2 fun hx => ?_)
    obtain ⟨e, he, hid, hlt⟩ := h.past _ hx
    rw [hrow e he hid] at hlt
    exact Int.lt_irrefl _ hlt
  · rw [hyielded, hoff, pc_update hpc]
    rw [hfound] at hx
    rcases h.found v x hx with hdone | hswitched | hwaits
    · exact Or.inl (List.mem_append_left _ hdone)
    · exact Or.inr (Or.inl hswitched)
    · split_ifs with hv
      · rw [hv, hw] at hwaits
        rw [hdue]
        rcases List.mem_cons.1 hwaits with rfl | hwaits
        · exact Or.inl (List.mem_append_right _ (List.mem_singleton_self _))
        · exact Or.inr (Or.inr hwaits)
      · exact Or.inr (Or.inr hwaits)

/-- A step of passes that share nothing keeps the invariant. -/
theorem Moves.slotsInv (hmoves : Moves s a s') (h : SlotsInv s) : SlotsInv s' := by
  cases hmoves with
  | goto w p hsame => exact h.same (.refl _) rfl hsame.due hsame.now rfl rfl rfl
  | other db hdb => exact h.same (w := 0) hdb.schedules (Function.update_eq_self 0 s.pc).symm rfl (Or.inr rfl) rfl rfl rfl
  | pick w now answer hw hanswer hnew => exact h.same (.refl _) rfl (by rw [hw]; rfl) (Or.inl rfl) rfl rfl rfl
  | due w now answer hw hanswer hnew => exact h.find hw hanswer hnew rfl rfl rfl rfl rfl
  | disable w now d due hw =>
    have hdb : KeepsSlots s.db.schedules (s.db.disable d.schedule_id).schedules :=
      Or.inl ⟨_, fun d => { d with enabled := false }, fun _ => ⟨rfl, rfl, rfl⟩, rfl⟩
    refine h.quiet hdb rfl ?_ (Or.inr (by rw [hw]; rfl)) rfl rfl (List.subset_append_left ..) fun x hx => ?_
    · rw [hw]
      exact List.sublist_cons_self ..
    · rw [hw] at hx
      rcases List.mem_cons.1 hx with rfl | hx
      · exact Or.inl (List.mem_append_right _ (List.mem_singleton_self _))
      · exact Or.inr hx
  | insert w now d due x hw hpending hnew => exact h.insert hw rfl rfl rfl rfl rfl rfl rfl
  | execute w now job result rest hw => exact h.same (.refl _) rfl (by rw [hw]; rfl) (Or.inr (by rw [hw]; rfl)) rfl rfl rfl
  | record w clock now job result rest hw =>
    exact h.same (.refl _) rfl (by rw [hw]; rfl) (Or.inr (by rw [hw]; rfl)) rfl rfl rfl

end Steps

/-! ### Runs -/

/-- Over a run in which the passes share nothing, the runs and the slots keep their invariants. -/
theorem unshared_run {acts : List RunnerAct} (h : Guarded RunnerSystem.step Unshared .init acts) :
    RunsInv (acts.foldl RunnerSystem.step .init) ∧ SlotsInv (acts.foldl RunnerSystem.step .init) := by
  have hinit : RunsInv .init ∧ SlotsInv .init := by
    refine ⟨⟨init_runnerInv, nofun, fun _ => List.nodup_nil, nofun, nofun, nofun, List.nodup_nil, nofun⟩, ?_⟩
    exact ⟨List.nodup_nil, nofun, ⟨nofun, nofun, nofun, fun _ => List.nodup_nil⟩, nofun, List.nodup_nil, nofun⟩
  refine h.invariant (I := fun s => RunsInv s ∧ SlotsInv s) (fun s a hs ha => ?_) hinit
  have hmoves := step_moves ha
  exact ⟨hmoves.runsInv hs.1 ((step_does s a).runnerInv hs.1.base), hmoves.slotsInv hs.2⟩

/-- The step of the one worker, or of the API or the incident response; no statement fails. -/
def Alone (w : ℕ) (s : RunnerSystem) : RunnerAct → Prop
  | .begin v _ | .pick v _ | .due v _ => v = w
  | .next v _ drawn_id _ => v = w ∧ ∀ r ∈ s.db.runs, r.run_id ≠ drawn_id
  | .fail _ | .die _ => False
  | _ => True

instance (w : ℕ) (s : RunnerSystem) (a : RunnerAct) : Decidable (Alone w s a) :=
  match a with
  | .begin v _ | .pick v _ | .due v _ => inferInstanceAs (Decidable (v = w))
  | .next v _ drawn_id _ => inferInstanceAs (Decidable (v = w ∧ ∀ r ∈ s.db.runs, r.run_id ≠ drawn_id))
  | .fail _ | .die _ => .isFalse id
  | .create_script _ | .update_script .. | .trigger_script .. | .g11_enqueue_automation .. | .create_schedule ..
  | .delete_schedule .. => .isTrue trivial

section Alone

variable {s : RunnerSystem} {a : RunnerAct} {v w : ℕ}

/-- The others stay where they are. -/
theorem step_pc_of_alone (h : Alone w s a) (hv : v ≠ w) : (s.step a).pc v = s.pc v := by
  have hgoto : ∀ p, (s.goto w p).pc v = s.pc v := fun p => Function.update_of_ne hv ..
  cases a with
  | begin u now =>
    obtain rfl : u = w := h
    dsimp only [RunnerSystem.step]
    split
    · exact hgoto _
    · rfl
  | pick u answer =>
    obtain rfl : u = w := h
    dsimp only [RunnerSystem.step]
    split
    · split_ifs
      · exact hgoto _
      · rfl
    · rfl
  | due u answer =>
    obtain rfl : u = w := h
    dsimp only [RunnerSystem.step]
    split
    · split_ifs
      · exact hgoto _
      · rfl
    · rfl
  | next u clock drawn_id answer =>
    obtain rfl : u = w := h.1
    dsimp only [RunnerSystem.step]
    unfold RunnerSystem.next
    split
    · rfl
    · rfl
    · rfl
    · exact hgoto _
    · exact hgoto _
    · split <;> exact hgoto _
    · exact hgoto _
    · unfold RunnerSystem.insert
      split <;> exact hgoto _
    · exact hgoto _
    · exact hgoto _
  | fail u => exact h.elim
  | die u => exact h.elim
  | _ => rfl

/-- One worker shares nothing. -/
theorem unshared_of_alone (hidle : ∀ v, v ≠ w → s.pc v = .idle) (h : Alone w s a) : Unshared s a := by
  cases a with
  | pick u answer =>
    obtain rfl : u = w := h
    intro now hpc r _ v
    by_cases hv : v = u
    · rw [hv, hpc]
      exact List.not_mem_nil
    · rw [hidle v hv]
      exact List.not_mem_nil
  | due u answer =>
    obtain rfl : u = w := h
    intro now hpc d _ v
    by_cases hv : v = u
    · rw [hv, hpc]
      exact List.not_mem_nil
    · rw [hidle v hv]
      exact List.not_mem_nil
  | next u clock drawn_id answer => exact fun _ _ _ _ => h.2
  | fail u => exact h.elim
  | die u => exact h.elim
  | _ => trivial

theorem unshared_of_one_worker {acts : List RunnerAct} (h : Guarded RunnerSystem.step (Alone w) .init acts) :
    Guarded RunnerSystem.step Unshared .init acts :=
  h.mono_of_invariant (I := fun s => ∀ v, v ≠ w → s.pc v = .idle)
    (fun _ _ hidle ha v hv => (step_pc_of_alone ha hv).trans (hidle v hv)) (fun _ _ => unshared_of_alone) fun _ _ => rfl

end Alone

/-- **Key result**: while the passes share nothing, each run that they take up is executed once, and each slot that they find
yields one run. -/
theorem runs_once (acts : List RunnerAct) (h : Guarded RunnerSystem.step Unshared .init acts) :
    Once (acts.foldl RunnerSystem.step .init) := by
  obtain ⟨hruns, hslots⟩ := unshared_run h
  exact ⟨hruns.once, hruns.picked, hslots.once, hslots.found⟩

/-- A script with a run and a schedule that are due. -/
def pendingAndDue : List RunnerAct :=
  [.create_script ⟨"auto:a", "t", .noop, true⟩, .trigger_script 0 "t" "auto:a" "arun:a",
    .create_schedule 0 "asched:a" "t" "auto:a" 60]

/-- The pass of a worker, whose statements all succeed. -/
def fullPass (w : ℕ) (drawn_id : String) : List RunnerAct :=
  [.begin w 1, .pick w [pendingRun "arun:a" "t" "auto:a" .manual none 0]] ++
    List.replicate 3 (.next w 1 drawn_id (.response 200)) ++
    [.due w [⟨"asched:a", "t", "auto:a", 60, none, 0, true⟩]] ++ List.replicate 2 (.next w 1 drawn_id (.response 200)) ++
    List.replicate 3 (.next w 1 "-" (.response 200))

theorem one_pass_runs_once : Once ((pendingAndDue ++ fullPass 0 "arun:b").foldl RunnerSystem.step .init) :=
  runs_once _ (unshared_of_one_worker (w := 0) (by decide +kernel))

/-- Two passes that both ask before either has executed what it got. -/
def overlappingPasses : List RunnerAct :=
  pendingAndDue ++ [.begin 0 1, .begin 1 1] ++
    ([0, 1].map fun w => .pick w [pendingRun "arun:a" "t" "auto:a" .manual none 0]) ++
    ([0, 1].flatMap fun w => List.replicate 3 (.next w 1 "" (.response 200))) ++
    ([0, 1].map fun w => .due w [⟨"asched:a", "t", "auto:a", 60, none, 0, true⟩]) ++
    ([(0, "arun:b"), (1, "arun:c")].flatMap fun x => List.replicate 2 (.next x.1 1 x.2 (.response 200)))

/-- Both execute the pending run, and both take the slot of the schedule. -/
theorem overlapping_passes_run_twice : (∀ a ∈ overlappingPasses, a.interrupted = none) ∧
    (overlappingPasses.foldl RunnerSystem.step .init).executed = [(0, "arun:a"), (1, "arun:a")] ∧
    (overlappingPasses.foldl RunnerSystem.step .init).yielded = [("asched:a", 0), ("asched:a", 0)] ∧
    ¬Once (overlappingPasses.foldl RunnerSystem.step .init) := by
  have hexecuted : (overlappingPasses.foldl RunnerSystem.step .init).executed = [(0, "arun:a"), (1, "arun:a")] := by
    decide +kernel
  have hyielded : (overlappingPasses.foldl RunnerSystem.step .init).yielded = [("asched:a", 0), ("asched:a", 0)] := by
    decide +kernel
  refine ⟨by decide, hexecuted, hyielded, fun h => ?_⟩
  have hnodup := h.executed
  rw [hexecuted] at hnodup
  exact absurd hnodup (by decide)

end JLMirror.Automation
