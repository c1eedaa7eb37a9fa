import JLMirror.Monitoring.HistoryCheckpoint
import Mathlib.Data.Set.Finite.Lattice

/-!
# Completeness of a metric's history

"Completeness reflects the stream checkpoint plus recorded gap evidence — never inferred positivity"
(`list_metric_history`). The reader answers with the coverage of the stream that was written last, whatever
the window: a page that was finalized once makes every window complete.

## The model

* `NeverInferred` is the law of a query: "complete" means that the window is covered by successful completions,
  meets no gap, and has no row that was dropped.
* `TruncatedIn` says of the run what a gap says in the tables.

## What is proved

* `gaps_exact`: the gaps are the targets of the truncated completions, with their windows.
* `complete_iff`: when the reader answers "complete".
* **Key result** (`never_inferred_iff`): after any run, the law of a window holds exactly if the stream written last
  is not finalized, or the completions of the run leave nothing open in the window; and the law of all windows
  holds exactly if the stream is not finalized. `firstPage` is a run that breaks it.

## Honest scope

The windows are those that the route lets through.
-/

namespace JLMirror.Monitoring

open JLMirror.Foundations

/-- The check of `metric_history_endpoint`. -/
def MetricHistoryWindow.valid (w : MetricHistoryWindow) : Bool :=
  0 < w.time_from ∧ w.time_from ≤ w.time_till ∧ w.time_till - w.time_from ≤ 86400 * 30

/-- Two windows share an instant. -/
def MetricHistoryWindow.Meets (w w' : MetricHistoryWindow) : Prop :=
  w.time_from ≤ w'.time_till ∧ w'.time_from ≤ w.time_till

/-- The window of a gap. -/
def HistoryGap.window (g : HistoryGap) : MetricHistoryWindow := ⟨g.gap_from_clock, g.gap_through_clock⟩

/-- The gap of a target of a claim. -/
def HistoryGap.Of (claim : MetricHistoryClaim) (target : HistoryMetricTarget) (g : HistoryGap) : Prop :=
  g.monitoring_source_id = claim.monitoring_source_id ∧ g.metric_definition_id = target.metric_definition_id ∧
    g.window = claim.window

theorem insertGap_fold {now : Timestamp} {claim : MetricHistoryClaim} {targets : List HistoryMetricTarget}
    {s s' : List HistoryGap × ℕ} (h : targets.foldlM (insertGap now claim) s = .ok s') :
    ∃ new, s'.1 = s.1 ++ new ∧ (∀ g ∈ new, ∃ target ∈ targets, g.Of claim target) ∧
      ∀ target ∈ targets, ∃ g ∈ new, g.Of claim target := by
  induction targets generalizing s with
  | nil =>
    obtain rfl := foldlM_nil_ok.1 h
    exact ⟨[], (List.append_nil _).symm, by simp, by simp⟩
  | cons target targets ih =>
    obtain ⟨s₁, hround, hrest⟩ := foldlM_cons_ok.1 h
    obtain ⟨_, -, hround⟩ := bind_ok_iff.1 hround
    obtain rfl := Except.ok.inj hround
    obtain ⟨new, heq, hof, hall⟩ := ih hrest
    refine ⟨_ :: new, by rw [heq, List.append_assoc]; rfl, ?_, ?_⟩
    · rw [List.forall_mem_cons]
      refine ⟨⟨target, List.mem_cons_self, rfl, rfl, rfl⟩, fun g hg => ?_⟩
      obtain ⟨target', htarget', hg⟩ := hof g hg
      exact ⟨target', List.mem_cons_of_mem _ htarget', hg⟩
    · rw [List.forall_mem_cons]
      refine ⟨⟨_, List.mem_cons_self, rfl, rfl, rfl⟩, fun target' htarget' => ?_⟩
      obtain ⟨g, hg, hof⟩ := hall target' htarget'
      exact ⟨g, List.mem_cons_of_mem _ hg, hof⟩

namespace Sync

variable {domain : Domain}

/-! ### The law -/

/-- The completion is about a page with the metric. -/
def HistoryCompletion.Includes (source_id definition_id : String) (h : HistoryCompletion) : Prop :=
  h.claim.monitoring_source_id = source_id ∧ ∃ target ∈ h.claim.targets, target.metric_definition_id = definition_id

/-- Every instant of the window is in the window of a successful completion with the metric. -/
def Covered (s : System) (source_id definition_id : String) (w : MetricHistoryWindow) : Prop :=
  ∀ clock, w.time_from ≤ clock → clock ≤ w.time_till →
    ∃ h ∈ s.histories, h.result.succeeded = true ∧ h.Includes source_id definition_id ∧
      h.claim.window.time_from ≤ clock ∧ clock ≤ h.claim.window.time_till

/-- A gap of the metric meets the window. -/
def GapIn (s : System) (source_id definition_id : String) (w : MetricHistoryWindow) : Prop :=
  ∃ g ∈ s.db.observations.gaps, g.monitoring_source_id = source_id ∧ g.metric_definition_id = definition_id ∧
    g.window.Meets w

/-- A successful completion returned a row of the metric in the window that is no value of its kind. -/
def DroppedIn (domain : Domain) (s : System) (source_id definition_id : String) (w : MetricHistoryWindow) : Prop :=
  ∃ h ∈ s.histories, h.result.succeeded = true ∧ h.claim.monitoring_source_id = source_id ∧
    ∃ row ∈ h.raw_rows, ∃ target, h.claim.byItemid row.itemid = some target ∧
      target.metric_definition_id = definition_id ∧ w.time_from ≤ row.clock ∧ row.clock ≤ w.time_till ∧
      domain.parse_canonical_value target.value_kind row.raw_value = none

/-- "Complete" is never inferred. -/
def NeverInferred (domain : Domain) (s : System) (source_id definition_id : String) (w : MetricHistoryWindow) : Prop :=
  ∀ view, list_metric_history source_id definition_id w s.db = some view → view.state = .complete →
    Covered s source_id definition_id w ∧ ¬GapIn s source_id definition_id w ∧
      ¬DroppedIn domain s source_id definition_id w

/-! ### What the reader answers -/

/-- The metric is there, and the stream that was written last is finalized. -/
def FinalizedLast (s : System) (source_id definition_id : String) : Prop :=
  ∃ d source stream, (s.db.metrics.definitions.find? fun d =>
      d.metric_definition_id = definition_id ∧ d.monitoring_source_id = source_id) = some d ∧
    s.db.core.source d.monitoring_source_id = some source ∧
    s.db.observations.newestStream source_id definition_id = some stream ∧ stream.coverage_state = .finalized

theorem completenessOf_complete {c : HistoryCoverageState} : completenessOf c = .complete ↔ c = .finalized := by
  cases c <;> decide

variable {s : System} {source_id definition_id : String} {w : MetricHistoryWindow}

/-- The answer is the same for every window. -/
theorem complete_iff :
    (∃ view, list_metric_history source_id definition_id w s.db = some view ∧ view.state = .complete) ↔
      FinalizedLast s source_id definition_id := by
  simp only [list_metric_history, Option.bind_eq_bind, Option.bind_eq_some_iff, Option.pure_def, Option.some.injEq]
  constructor
  · rintro ⟨_, ⟨d, hd, source, hsource, rfl⟩, hstate⟩
    dsimp only at hstate
    cases hstream : s.db.observations.newestStream source_id definition_id with
    | none => rw [hstream] at hstate; cases hstate
    | some stream =>
      rw [hstream, Option.elim_some, completenessOf_complete] at hstate
      exact ⟨d, source, stream, hd, hsource, hstream, hstate⟩
  · rintro ⟨d, source, stream, hd, hsource, hstream, hfinal⟩
    exact ⟨_, ⟨d, hd, source, hsource, rfl⟩, by simp only [hstream, Option.elim_some, hfinal, completenessOf]⟩

theorem neverInferred_iff :
    NeverInferred domain s source_id definition_id w ↔ (FinalizedLast s source_id definition_id →
      Covered s source_id definition_id w ∧ ¬GapIn s source_id definition_id w ∧
        ¬DroppedIn domain s source_id definition_id w) := by
  rw [← complete_iff (w := w)]
  exact ⟨fun h ⟨view, hview, hstate⟩ => h view hview hstate, fun h view hview hstate => h ⟨view, hview, hstate⟩⟩

/-! ### Gaps and truncated completions -/

/-- A completion with the metric was truncated, over a window that meets this one. -/
def TruncatedIn (s : System) (source_id definition_id : String) (w : MetricHistoryWindow) : Prop :=
  ∃ h ∈ s.histories, h.result.failure_class = some .page_truncated ∧ h.Includes source_id definition_id ∧
    h.claim.window.Meets w

/-- The gaps are those of the truncated completions. -/
structure GapsOf (s : System) (gaps : List HistoryGap) : Prop where
  sound : ∀ g ∈ gaps, ∃ h ∈ s.histories, h.result.failure_class = some .page_truncated ∧
    ∃ target ∈ h.claim.targets, g.Of h.claim target
  complete : ∀ h ∈ s.histories, h.result.failure_class = some .page_truncated →
    ∀ target ∈ h.claim.targets, ∃ g ∈ gaps, g.Of h.claim target

/-- A completion writes the gaps of its targets, if it was truncated. -/
theorem GapsOf.wrote {s' : System} {h : HistoryCompletion} (hs : GapsOf s s.db.observations.gaps)
    (hwrote : h.Wrote domain s.db.observations s'.db.observations) (hhist : s'.histories = s.histories ++ [h]) :
    GapsOf s' s'.db.observations.gaps := by
  obtain ⟨now, nextId, nextId', happly⟩ := hwrote
  obtain ⟨x, gaps, hrows, hgaps, heq⟩ := applyHistory_ok happly
  have hsame : x.1.gaps = s.db.observations.gaps := by
    split_ifs at hrows
    · obtain ⟨p, hfold, hrows⟩ := bind_ok_iff.1 hrows
      obtain rfl := Except.ok.inj hrows
      exact (persist_fold_raised hfold).gaps
    · obtain rfl := Except.ok.inj hrows
      rfl
  have hnew : ∃ new, gaps.1 = s.db.observations.gaps ++ new ∧
      (∀ g ∈ new, h.result.failure_class = some .page_truncated ∧ ∃ target ∈ h.claim.targets, g.Of h.claim target) ∧
      (h.result.failure_class = some .page_truncated →
        ∀ target ∈ h.claim.targets, ∃ g ∈ new, g.Of h.claim target) := by
    unfold recordGaps at hgaps
    split_ifs at hgaps with htrunc
    · obtain ⟨new, hnew, hof, hall⟩ := insertGap_fold hgaps
      exact ⟨new, by rw [hnew, hsame], fun g hg => ⟨htrunc, hof g hg⟩, fun _ => hall⟩
    · obtain rfl := Except.ok.inj hgaps
      exact ⟨[], by simp [hsame], by simp, fun ht => absurd ht htrunc⟩
  obtain ⟨new, hnew, hof, hall⟩ := hnew
  rw [(Prod.mk.inj heq).1]
  dsimp only
  rw [hnew]
  refine ⟨fun g hg => ?_, fun h' hh' htrunc target htarget => ?_⟩
  · rw [hhist]
    rcases List.mem_append.1 hg with hg | hg
    · obtain ⟨h', hh', hg⟩ := hs.sound g hg
      exact ⟨h', List.mem_append_left _ hh', hg⟩
    · exact ⟨h, List.mem_append_right _ (List.mem_singleton.2 rfl), hof g hg⟩
  · rw [hhist] at hh'
    rcases List.mem_append.1 hh' with hh' | hh'
    · obtain ⟨g, hg, hof⟩ := hs.complete h' hh' htrunc target htarget
      exact ⟨g, List.mem_append_left _ hg, hof⟩
    · obtain rfl := List.mem_singleton.1 hh'
      obtain ⟨g, hg, hof⟩ := hall htrunc target htarget
      exact ⟨g, List.mem_append_right _ hg, hof⟩

/-- After any run, the gaps are those of the truncated completions. -/
theorem gaps_exact (bridge : BridgeVersion) (run : List Action) :
    GapsOf (System.exec domain bridge run) (System.exec domain bridge run).db.observations.gaps := by
  induction run using List.reverseRecOn with
  | nil => exact ⟨by simp [System.exec, System.empty, SyncDb.empty], by simp [System.exec, System.empty, System.histories]⟩
  | append_singleton run a ih =>
    rw [System.exec, List.foldl_append, List.foldl_cons, List.foldl_nil]
    rcases step_histories domain (run.foldl (System.step domain) (.empty bridge)) a with
      ⟨h, -, hhist, hwrote⟩ | ⟨hhist, -, hgaps⟩
    · exact GapsOf.wrote ih hwrote hhist
    · rw [hgaps]
      exact ⟨by rw [hhist]; exact ih.sound, by rw [hhist]; exact ih.complete⟩

theorem gapIn_iff (hs : GapsOf s s.db.observations.gaps) :
    GapIn s source_id definition_id w ↔ TruncatedIn s source_id definition_id w := by
  constructor
  · rintro ⟨g, hg, rfl, rfl, hmeets⟩
    obtain ⟨h, hh, htrunc, target, htarget, hsource, hdef, hwindow⟩ := hs.sound g hg
    exact ⟨h, hh, htrunc, ⟨hsource.symm, target, htarget, hdef.symm⟩, hwindow ▸ hmeets⟩
  · rintro ⟨h, hh, htrunc, ⟨hsource, target, htarget, hdef⟩, hmeets⟩
    obtain ⟨g, hg, hgsource, hgdef, hwindow⟩ := hs.complete h hh htrunc target htarget
    exact ⟨g, hg, hgsource.trans hsource, hgdef.trans hdef, hwindow ▸ hmeets⟩

/-! ### When the law holds -/

/-- There is a window after all that was ever synced. -/
theorem exists_uncovered (s : System) (source_id definition_id : String) :
    ∃ w : MetricHistoryWindow, w.valid = true ∧ ¬Covered s source_id definition_id w := by
  obtain ⟨b, hb⟩ := (List.finite_toSet (s.histories.map fun h => h.claim.window.time_till)).bddAbove
  refine ⟨⟨max b 0 + 1, max b 0 + 1⟩, ?_, fun hcov => ?_⟩
  · simp only [MetricHistoryWindow.valid, decide_eq_true_eq]
    omega
  · obtain ⟨h, hh, -, -, -, htill⟩ := hcov _ le_rfl le_rfl
    have hle : h.claim.window.time_till ≤ b := hb (List.mem_map.2 ⟨h, hh, rfl⟩)
    dsimp only at htill
    omega

/-- **Key result**: when the law holds of a window after a run, and when of all windows. -/
theorem never_inferred_iff (domain : Domain) (bridge : BridgeVersion) (run : List Action)
    (source_id definition_id : String) :
    (∀ w, NeverInferred domain (System.exec domain bridge run) source_id definition_id w ↔
      (FinalizedLast (System.exec domain bridge run) source_id definition_id →
        Covered (System.exec domain bridge run) source_id definition_id w ∧
        ¬TruncatedIn (System.exec domain bridge run) source_id definition_id w ∧
        ¬DroppedIn domain (System.exec domain bridge run) source_id definition_id w)) ∧
    ((∀ w, w.valid = true → NeverInferred domain (System.exec domain bridge run) source_id definition_id w) ↔
      ¬FinalizedLast (System.exec domain bridge run) source_id definition_id) := by
  refine ⟨fun w => ?_, fun h hfinal => ?_, fun hfinal w _ => ?_⟩
  · rw [neverInferred_iff, gapIn_iff (gaps_exact bridge run)]
  · obtain ⟨w, hvalid, hcov⟩ := exists_uncovered (System.exec domain bridge run) source_id definition_id
    exact hcov (neverInferred_iff.1 (h w hvalid) hfinal).1
  · exact neverInferred_iff.2 fun hf => absurd hf hfinal

/-- After `firstPage`, a window that was never synced is complete. -/
theorem firstPage_inferred :
    ¬NeverInferred Domain.tested (System.exec Domain.tested .publicationBridge firstPage) "mon-src_0" "mon-def_8"
      ⟨1000, 1001⟩ := by
  intro h
  obtain ⟨hcov, -⟩ := h _ rfl rfl
  obtain ⟨h, hh, -, -, -, htill⟩ := hcov 1000 (by decide) (by decide)
  obtain rfl := List.mem_singleton.1 hh
  revert htill
  decide

end Sync

end JLMirror.Monitoring
