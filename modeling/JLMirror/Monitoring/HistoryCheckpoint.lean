import JLMirror.Foundations.Run
import JLMirror.Monitoring.SyncSystem
import Mathlib.Data.List.MinMax

/-!
# The checkpoint of a history stream

"Stream state is an independent per-(source, generation, item, value_type) checkpoint"
(`005_metric_history.sql`). A completion raises the checkpoints of its page, then inserts the streams that are
not there yet: the rows of a first page raise nothing. It raises them to the newest row that it *accepts*, and
the nanoseconds of the safe checkpoint only with its clock.

## The model

* `System.histories` are the completions of history syncs that were committed.
* `System.latest` is what a checkpoint is for: the greatest provider time over the parseable rows of a stream in
  the successful ones.
* `keepsCheckpoints` is the condition on a step: for each parseable row of a page, its stream is there, and the
  checkpoint is at the row already, or at an accepted row of the page whose clock is after the safe one.

## What is proved

* `raise_provisional`, `raise_safe`: the `UPDATE` is a join, the second one unless the clocks are equal.
* `persist_fold_high`: what the loop over the rows has in `stream_high`.
* `step_histories`: streams and gaps are written by the completions of history syncs.
* **Key result** (`checkpoints_exact`): in a run whose steps all meet the condition, both checkpoints of every
  stream are the greatest time in every state, and never go back. `firstPage` is a run that breaks it.
-/

namespace JLMirror.Monitoring

open JLMirror.Foundations

/-! ### Checkpoints -/

/-- A clock with its nanoseconds, `⊥` where the columns are `NULL`. -/
def checkpoint : Option ℤ → Option ℤ → WithBot ProviderTime
  | some clock, some ns => ((toLex (clock, ns) : ProviderTime) : WithBot ProviderTime)
  | _, _ => ⊥

namespace HistoryStream

/-- The provisional checkpoint. -/
def provisional (r : HistoryStream) : WithBot ProviderTime := checkpoint r.provisional_clock r.provisional_ns

/-- The safe checkpoint. -/
def safe (r : HistoryStream) : WithBot ProviderTime := checkpoint r.safe_clock r.safe_ns

/-- The key of a stream within its source generation. -/
def key (r : HistoryStream) : StreamKey := (r.provider_external_ref, r.history_value_type)

/-- The `CHECK`s of the row: a clock has nanoseconds. -/
structure Check (r : HistoryStream) : Prop where
  provisional : r.provisional_clock = none ↔ r.provisional_ns = none
  safe : r.safe_clock = none ↔ r.safe_ns = none

theorem is_iff {source_id generation : String} {k : StreamKey} {r : HistoryStream} :
    r.is source_id generation k = true ↔
      r.monitoring_source_id = source_id ∧ r.source_instance_generation = generation ∧ r.key = k := by
  simp [HistoryStream.is, key, Prod.ext_iff]

variable {r : HistoryStream} (now : Timestamp) (clock ns : ℤ)

/-- The later of two times, as the `UPDATE` writes it. -/
theorem sup_time (c n clock ns : ℤ) :
    (toLex (c, n) : ProviderTime) ⊔ toLex (clock, ns) =
      toLex (max c clock, if clock > c ∨ clock = c ∧ ns > n then ns else n) := by
  split_ifs with h
  · rw [sup_eq_right.2 (Prod.Lex.toLex_le_toLex.2 (by dsimp only; omega))]
    congr 2
    omega
  · rw [sup_eq_left.2 (Prod.Lex.toLex_le_toLex.2 (by dsimp only; omega))]
    congr 2
    omega

/-- The `UPDATE` raises the provisional checkpoint to the time, if it is later. -/
theorem raise_provisional (h : r.Check) :
    (r.raise now clock ns).provisional =
      r.provisional ⊔ ((toLex (clock, ns) : ProviderTime) : WithBot ProviderTime) := by
  have hcheck := h.provisional
  cases hc : r.provisional_clock <;> cases hn : r.provisional_ns <;> simp [hc, hn] at hcheck
  · simp [raise, provisional, greatest, checkpoint, hc, hn]
  · simp only [raise, provisional, greatest, checkpoint, hc, hn, ← WithBot.coe_sup, sup_time, Option.elim_some,
      reduceCtorEq, false_or, Option.any_some, decide_eq_true_eq, Option.some.injEq, eq_comm (b := clock)]
    split_ifs <;> rfl

/-- And the safe one, where the clock is later or the time is not. -/
theorem raise_safe (h : r.Check)
    (hclock : r.safe_clock = none ∨ (∃ c, r.safe_clock = some c ∧ c < clock) ∨
      ((toLex (clock, ns) : ProviderTime) : WithBot ProviderTime) ≤ r.safe) :
    (r.raise now clock ns).safe = r.safe ⊔ ((toLex (clock, ns) : ProviderTime) : WithBot ProviderTime) := by
  have hcheck := h.safe
  cases hc : r.safe_clock <;> cases hn : r.safe_ns <;> simp [hc, hn] at hcheck
  · simp [raise, safe, greatest, checkpoint, hc, hn]
  · rename_i c n
    simp only [hc, reduceCtorEq, Option.some.injEq, exists_eq_left', false_or, safe, checkpoint, hn,
      WithBot.coe_le_coe, Prod.Lex.toLex_le_toLex] at hclock
    have hns : (clock > c ∨ clock = c ∧ ns > n) ↔ clock > c := by omega
    simp only [raise, safe, greatest, checkpoint, hc, hn, ← WithBot.coe_sup, sup_time, Option.elim_some, reduceCtorEq,
      false_or, Option.any_some, decide_eq_true_eq, hns]
    split_ifs <;> rfl

theorem raise_check (h : r.Check) : (r.raise now clock ns).Check := by
  have hprov := h.provisional
  have hsafe := h.safe
  constructor
  · simp only [raise, reduceCtorEq, false_iff]
    split_ifs with hif
    · simp
    · rw [← hprov]
      exact fun hnone => hif (Or.inl hnone)
  · simp only [raise, reduceCtorEq, false_iff]
    split_ifs with hif
    · simp
    · rw [← hsafe]
      exact fun hnone => hif (Or.inl hnone)

end HistoryStream

/-! ### The loop over the rows -/

/-- The provider time of a row. -/
def ZabbixHistoryEvidence.time (row : ZabbixHistoryEvidence) : ProviderTime := toLex (row.clock, row.ns)

/-- The entry of a stream in `stream_high`. -/
def high (stream_high : List (StreamKey × ProviderTime)) (key : StreamKey) : WithBot ProviderTime :=
  (stream_high.find? fun e => e.1 = key).elim ⊥ fun e => (e.2 : WithBot ProviderTime)

/-- The stream of a row, unless it is passed over. -/
def MetricHistoryClaim.streamOf (domain : Domain) (claim : MetricHistoryClaim) (row : ZabbixHistoryEvidence) :
    Option StreamKey :=
  (claim.parse domain row).map fun x => (row.itemid, x.1.history_value_type)

/-- The times of the parseable rows of a stream in a page. -/
def MetricHistoryClaim.times (domain : Domain) (claim : MetricHistoryClaim) (key : StreamKey)
    (raw_rows : List ZabbixHistoryEvidence) : List ProviderTime :=
  (raw_rows.filter fun row => claim.streamOf domain row = some key).map ZabbixHistoryEvidence.time

/-- The key of a row in the ledger. -/
def MetricHistoryClaim.sample (claim : MetricHistoryClaim) (row : ZabbixHistoryEvidence) :
    String × String × String × ℤ × ℤ :=
  (claim.monitoring_source_id, claim.source_instance_generation, row.itemid, row.clock, row.ns)

variable {l : List (StreamKey × ProviderTime)}

theorem raiseHigh_high {key : StreamKey} {t : ProviderTime} :
    high (raiseHigh key t l) = Function.update (high l) key (high l key ⊔ (t : WithBot ProviderTime)) := by
  funext k
  cases hfind : l.find? fun e => e.1 = key with
  | none =>
    have hbot : high l key = ⊥ := by simp [high, hfind]
    rw [raiseHigh, hfind, hbot, bot_sup_eq]
    by_cases hk : k = key
    · subst hk
      rw [Function.update_self, high, List.find?_append, hfind, Option.none_or]
      simp
    · rw [Function.update_of_ne hk, high, List.find?_append, List.find?_cons_of_neg (by simpa using Ne.symm hk),
        List.find?_nil, Option.or_none]
      rfl
  | some e =>
    have hhigh : high l key = e.2 := by simp [high, hfind]
    simp only [raiseHigh, hfind]
    rw [hhigh, ← WithBot.coe_sup]
    split_ifs with hlt
    · rw [sup_eq_right.2 hlt.le, high, find?_updateWhere (f := fun e => (e.1, t)) fun _ _ => rfl]
      by_cases hk : k = key
      · subst hk
        simp [hfind, show e.1 = k by simpa using List.find?_some hfind]
      · rw [Function.update_of_ne hk, high]
        cases hfind' : l.find? fun e => e.1 = k with
        | none => rfl
        | some e' =>
          have he' : e'.1 = k := by simpa using List.find?_some hfind'
          simp [he', hk]
    · rw [sup_eq_left.2 (not_lt.1 hlt), ← hhigh, Function.update_eq_self]

/-- `stream_high` is a dictionary. -/
theorem raiseHigh_nodup {key : StreamKey} {t : ProviderTime} (h : (l.map Prod.fst).Nodup) :
    ((raiseHigh key t l).map Prod.fst).Nodup := by
  unfold raiseHigh
  split
  · rename_i hnone
    simp only [List.map_append, List.map_cons, List.map_nil]
    refine List.nodup_append.2 ⟨h, List.nodup_singleton _, ?_⟩
    rintro _ hx _ hy rfl
    obtain ⟨e, he, hek⟩ := List.mem_map.1 hx
    exact absurd (hek.trans (List.mem_singleton.1 hy)) (by simpa using List.find?_eq_none.1 hnone e he)
  · split_ifs
    · rwa [map_updateWhere (k := Prod.fst) (f := fun e => (e.1, t)) fun _ => rfl]
    · exact h

/-- What a loop over the rows has done: streams and gaps are untouched, and each parseable row was in the
ledger before, or its stream is raised to it. -/
structure Raised (domain : Domain) (claim : MetricHistoryClaim) (rows : List ZabbixHistoryEvidence) (p p' : HistoryPass) :
    Prop where
  streams : p'.tables.streams = p.tables.streams
  gaps : p'.tables.gaps = p.tables.gaps
  nodup : (p.stream_high.map Prod.fst).Nodup → (p'.stream_high.map Prod.fst).Nodup
  mono : high p.stream_high ≤ high p'.stream_high
  bound : ∀ key, high p'.stream_high key ≤ high p.stream_high key ⊔ (claim.times domain key rows).maximum
  taken : ∀ row ∈ rows, ∀ key, claim.streamOf domain row = some key →
    (∃ a ∈ p.tables.acceptances, a.sample = claim.sample row) ∨
      (row.time : WithBot ProviderTime) ≤ high p'.stream_high key

variable {claim : MetricHistoryClaim} {row : ZabbixHistoryEvidence}

variable {rows : List ZabbixHistoryEvidence}

theorem times_cons {domain : Domain} {key : StreamKey} :
    claim.times domain key (row :: rows) =
      if claim.streamOf domain row = some key then row.time :: claim.times domain key rows
      else claim.times domain key rows := by
  simp only [MetricHistoryClaim.times, List.filter_cons, decide_eq_true_eq]
  split_ifs <;> rfl

/-- Rows of one sample are rows of one stream, at one time. -/
theorem streamOf_of_sample {domain : Domain} {row' : ZabbixHistoryEvidence} {key key' : StreamKey}
    (hkey : claim.streamOf domain row = some key) (hkey' : claim.streamOf domain row' = some key')
    (h : claim.sample row' = claim.sample row) : key' = key ∧ row'.time = row.time := by
  simp only [MetricHistoryClaim.sample, Prod.mk.injEq, true_and] at h
  obtain ⟨hitem, hclock, hns⟩ := h
  obtain ⟨x, hx, rfl⟩ := Option.map_eq_some_iff.1 hkey
  obtain ⟨x', hx', rfl⟩ := Option.map_eq_some_iff.1 hkey'
  simp only [MetricHistoryClaim.parse, Option.bind_eq_bind, Option.bind_eq_some_iff, Option.pure_def,
    Option.some.injEq] at hx hx'
  obtain ⟨target, htarget, _, -, rfl⟩ := hx
  obtain ⟨target', htarget', _, -, rfl⟩ := hx'
  rw [hitem] at htarget'
  obtain rfl := Option.some.inj (htarget.symm.trans htarget')
  exact ⟨by rw [hitem], by rw [ZabbixHistoryEvidence.time, ZabbixHistoryEvidence.time, hclock, hns]⟩

/-- A round of the loop. -/
theorem persistHistoryRow_raised {domain : Domain} {p p' : HistoryPass}
    (h : persistHistoryRow domain claim p row = .ok p') :
    Raised domain claim [row] p p' ∧
      ∀ a ∈ p'.tables.acceptances, (∃ a₀ ∈ p.tables.acceptances, a₀.sample = a.sample) ∨
        a.sample = claim.sample row ∧ ∃ key, claim.streamOf domain row = some key ∧
          (row.time : WithBot ProviderTime) ≤ high p'.stream_high key := by
  rcases persistHistoryRow_ok h with ⟨hparse, rfl⟩ | ⟨target, canonical, a, hparse, rfl, -, ⟨htaken, rfl⟩ |
    ⟨-, -, observations, -, rfl⟩⟩
  · have hstream : claim.streamOf domain row = none := by simp [MetricHistoryClaim.streamOf, hparse]
    refine ⟨⟨rfl, rfl, id, le_rfl, fun key => le_sup_left, ?_⟩, fun a ha => Or.inl ⟨a, ha, rfl⟩⟩
    rintro _ hrow key hkey
    obtain rfl := List.mem_singleton.1 hrow
    cases hstream.symm.trans hkey
  · refine ⟨⟨rfl, rfl, id, le_rfl, fun key => le_sup_left, ?_⟩, fun a ha => Or.inl ⟨a, ha, rfl⟩⟩
    rintro _ hrow key hkey
    obtain rfl := List.mem_singleton.1 hrow
    exact Or.inl htaken
  · have hstream : claim.streamOf domain row = some (row.itemid, target.history_value_type) := by
      simp [MetricHistoryClaim.streamOf, hparse]
    have hreached : (row.time : WithBot ProviderTime) ≤
        high (raiseHigh (row.itemid, target.history_value_type) row.time p.stream_high)
          (row.itemid, target.history_value_type) := by
      rw [raiseHigh_high, Function.update_self]
      exact le_sup_right
    refine ⟨⟨rfl, rfl, raiseHigh_nodup, ?_, fun key => ?_, ?_⟩, fun a' ha' => ?_⟩
    · intro key
      change high p.stream_high key ≤ high (raiseHigh _ row.time p.stream_high) key
      rw [raiseHigh_high]
      by_cases hk : key = (row.itemid, target.history_value_type)
      · subst hk
        rw [Function.update_self]
        exact le_sup_left
      · rw [Function.update_of_ne hk]
    · change high (raiseHigh _ row.time p.stream_high) key ≤ _
      rw [raiseHigh_high, times_cons, hstream]
      by_cases hk : key = (row.itemid, target.history_value_type)
      · subst hk
        rw [Function.update_self, if_pos rfl]
        exact sup_le_sup_left (List.le_maximum_of_mem' List.mem_cons_self) _
      · rw [Function.update_of_ne hk]
        exact le_sup_left
    · rintro _ hrow key hkey
      obtain rfl := List.mem_singleton.1 hrow
      obtain rfl := Option.some.inj (hstream.symm.trans hkey)
      exact Or.inr hreached
    · obtain ⟨a, ha, rfl⟩ := mem_updateWhere.1 ha'
      have hsample : ∀ b : Bool, (if b then { a with history_projection_state := .projected } else a).sample = a.sample := by
        intro b
        cases b <;> rfl
      rw [hsample]
      rcases List.mem_append.1 ha with ha | ha
      · exact Or.inl ⟨a, ha, rfl⟩
      · obtain rfl := List.mem_singleton.1 ha
        exact Or.inr ⟨rfl, _, hstream, hreached⟩

/-- The loop. -/
theorem persist_fold_raised {domain : Domain} {p p' : HistoryPass}
    (h : rows.foldlM (persistHistoryRow domain claim) p = .ok p') : Raised domain claim rows p p' := by
  induction rows generalizing p with
  | nil =>
    obtain rfl := foldlM_nil_ok.1 h
    exact ⟨rfl, rfl, id, le_rfl, fun key => le_sup_left, fun row hrow => absurd hrow List.not_mem_nil⟩
  | cons row rows ih =>
    obtain ⟨p₁, hround, hrest⟩ := foldlM_cons_ok.1 h
    obtain ⟨hfirst, hledger⟩ := persistHistoryRow_raised hround
    have hrest := ih hrest
    refine ⟨hrest.streams.trans hfirst.streams, hrest.gaps.trans hfirst.gaps, hrest.nodup ∘ hfirst.nodup,
      hfirst.mono.trans hrest.mono, fun key => ?_, fun row' hrow' key hkey => ?_⟩
    · have htimes : (claim.times domain key [row]).maximum ⊔ (claim.times domain key rows).maximum =
          (claim.times domain key (row :: rows)).maximum := by
        rw [times_cons, times_cons]
        split_ifs <;> simp [MetricHistoryClaim.times, List.maximum_cons]
      rw [← htimes, ← sup_assoc]
      exact (hrest.bound key).trans (sup_le_sup_right (hfirst.bound key) _)
    · rcases List.mem_cons.1 hrow' with rfl | hrow'
      · exact (hfirst.taken row' List.mem_cons_self key hkey).imp_right fun hle => hle.trans (hrest.mono key)
      · rcases hrest.taken row' hrow' key hkey with ⟨a, ha, hsample⟩ | hle
        · rcases hledger a ha with ⟨a₀, ha₀, hsample₀⟩ | ⟨hsame, key', hkey', hle⟩
          · exact Or.inl ⟨a₀, ha₀, hsample₀.trans hsample⟩
          · -- A row of the same sample came before it.
            obtain ⟨rfl, htime⟩ := streamOf_of_sample hkey hkey' (hsame.symm.trans hsample)
            exact Or.inr (htime ▸ hle.trans (hrest.mono key'))
        · exact Or.inr hle

/-! ### The streams of a completion -/

/-- The same stream, with the same checkpoints. -/
structure HistoryStream.Same (r r' : HistoryStream) : Prop where
  source : r'.monitoring_source_id = r.monitoring_source_id
  generation : r'.source_instance_generation = r.source_instance_generation
  key : r'.key = r.key
  definition : r'.metric_definition_id = r.metric_definition_id
  provisional_clock : r'.provisional_clock = r.provisional_clock
  provisional_ns : r'.provisional_ns = r.provisional_ns
  safe_clock : r'.safe_clock = r.safe_clock
  safe_ns : r'.safe_ns = r.safe_ns

theorem HistoryStream.Same.refl (r : HistoryStream) : r.Same r := ⟨rfl, rfl, rfl, rfl, rfl, rfl, rfl, rfl⟩

theorem HistoryStream.Same.trans {r r' r'' : HistoryStream} (h : r.Same r') (h' : r'.Same r'') : r.Same r'' :=
  ⟨h'.source.trans h.source, h'.generation.trans h.generation, h'.key.trans h.key, h'.definition.trans h.definition,
    h'.provisional_clock.trans h.provisional_clock, h'.provisional_ns.trans h.provisional_ns,
    h'.safe_clock.trans h.safe_clock, h'.safe_ns.trans h.safe_ns⟩

/-- A new stream of a claim, without checkpoints. -/
structure HistoryStream.NewFor (claim : MetricHistoryClaim) (r : HistoryStream) : Prop where
  source : r.monitoring_source_id = claim.monitoring_source_id
  generation : r.source_instance_generation = claim.source_instance_generation
  provisional_clock : r.provisional_clock = none
  provisional_ns : r.provisional_ns = none
  safe_clock : r.safe_clock = none
  safe_ns : r.safe_ns = none

/-- The upserts of the targets keep the streams that are there, and append new ones. -/
theorem upsertStream_fold (now : Timestamp) (claim : MetricHistoryClaim) (coverage : HistoryCoverageState)
    (targets : List HistoryMetricTarget) (streams : List HistoryStream) :
    (∀ r ∈ streams, ∃ r' ∈ targets.foldl (upsertStream now claim coverage) streams, r.Same r') ∧
      ∀ r' ∈ targets.foldl (upsertStream now claim coverage) streams, (∃ r ∈ streams, r.Same r') ∨
        r'.NewFor claim ∧
          ∀ r ∈ streams, r.is claim.monitoring_source_id claim.source_instance_generation r'.key = false := by
  induction targets generalizing streams with
  | nil => exact ⟨fun r hr => ⟨r, hr, .refl r⟩, fun r hr => Or.inl ⟨r, hr, .refl r⟩⟩
  | cons target targets ih =>
    obtain ⟨ihkeep, ihnew⟩ := ih (upsertStream now claim coverage streams target)
    have hround : (∀ r ∈ streams, ∃ r' ∈ upsertStream now claim coverage streams target, r.Same r') ∧
        ∀ r' ∈ upsertStream now claim coverage streams target, (∃ r ∈ streams, r.Same r') ∨
          r'.NewFor claim ∧
            ∀ r ∈ streams, r.is claim.monitoring_source_id claim.source_instance_generation r'.key = false := by
      unfold upsertStream
      dsimp only
      split_ifs with hthere
      · refine ⟨fun r hr => ⟨_, mem_updateWhere.2 ⟨r, hr, rfl⟩, ?_⟩, fun r' hr' => Or.inl ?_⟩
        · split_ifs <;> exact ⟨rfl, rfl, rfl, rfl, rfl, rfl, rfl, rfl⟩
        · obtain ⟨r, hr, rfl⟩ := mem_updateWhere.1 hr'
          refine ⟨r, hr, ?_⟩
          split_ifs <;> exact ⟨rfl, rfl, rfl, rfl, rfl, rfl, rfl, rfl⟩
      · refine ⟨fun r hr => ⟨r, List.mem_append_left _ hr, .refl r⟩, fun r' hr' => ?_⟩
        rcases List.mem_append.1 hr' with hr' | hr'
        · exact Or.inl ⟨r', hr', .refl r'⟩
        · obtain rfl := List.mem_singleton.1 hr'
          exact Or.inr ⟨⟨rfl, rfl, rfl, rfl, rfl, rfl⟩, by simpa [HistoryStream.key] using hthere⟩
    refine ⟨fun r hr => ?_, fun r' hr' => ?_⟩
    · obtain ⟨r₁, hr₁, hsame⟩ := hround.1 r hr
      obtain ⟨r', hr', hsame'⟩ := ihkeep r₁ hr₁
      exact ⟨r', hr', hsame.trans hsame'⟩
    · rcases ihnew r' hr' with ⟨r₁, hr₁, hsame⟩ | ⟨hnew, hno⟩
      · rcases hround.2 r₁ hr₁ with ⟨r, hr, hsame'⟩ | ⟨hnew, hno⟩
        · exact Or.inl ⟨r, hr, hsame'.trans hsame⟩
        · rw [← hsame.key] at hno
          exact Or.inr ⟨⟨hsame.source.trans hnew.source, hsame.generation.trans hnew.generation,
            hsame.provisional_clock.trans hnew.provisional_clock, hsame.provisional_ns.trans hnew.provisional_ns,
            hsame.safe_clock.trans hnew.safe_clock, hsame.safe_ns.trans hnew.safe_ns⟩, hno⟩
      · refine Or.inr ⟨hnew, fun r hr => ?_⟩
        obtain ⟨r₁, hr₁, hsame⟩ := hround.1 r hr
        have hno := hno r₁ hr₁
        rw [Bool.eq_false_iff, ne_eq, HistoryStream.is_iff] at hno ⊢
        rwa [hsame.source, hsame.generation, hsame.key] at hno

/-- A stream after the `UPDATE`s of a completion. -/
def HistoryStream.raisedBy (now : Timestamp) (claim : MetricHistoryClaim) (stream_high : List (StreamKey × ProviderTime))
    (r : HistoryStream) : HistoryStream :=
  match stream_high.find? fun e => r.is claim.monitoring_source_id claim.source_instance_generation e.1 with
  | none => r
  | some e => r.raise now (ofLex e.2).1 (ofLex e.2).2

/-- The loop over `stream_high` raises each stream once at most. -/
theorem raiseStream_fold {now : Timestamp} (hnd : (l.map Prod.fst).Nodup) (streams : List HistoryStream) :
    l.foldl (raiseStream now claim) streams = streams.map (HistoryStream.raisedBy now claim l) := by
  induction l generalizing streams with
  | nil => exact (List.map_id streams).symm
  | cons e l ih =>
    obtain ⟨hnew, hnd⟩ := List.nodup_cons.1 hnd
    rw [List.foldl_cons, ih hnd, raiseStream, updateWhere, List.map_map]
    refine List.map_congr_left fun r _ => ?_
    rw [Function.comp_apply]
    cases his : r.is claim.monitoring_source_id claim.source_instance_generation e.1 with
    | false => simp [HistoryStream.raisedBy, his]
    | true =>
      -- No other entry has the key of `e`.
      have hnone : (l.find? fun e' =>
          (r.raise now (ofLex e.2).1 (ofLex e.2).2).is claim.monitoring_source_id claim.source_instance_generation
            e'.1) = none := by
        refine List.find?_eq_none.2 fun e' he' his' => hnew ?_
        have hkey : r.key = e.1 := (HistoryStream.is_iff.1 his).2.2
        have hkey' : r.key = e'.1 := (HistoryStream.is_iff.1 his').2.2
        exact hkey.symm.trans hkey' ▸ List.mem_map_of_mem he'
      simp [HistoryStream.raisedBy, his, hnone]

/-- A poll of current states writes no stream and no gap. -/
theorem applyObservations_streams {claim : MetricCurrentStateClaim} {result : MetricCurrentStateResult}
    {s s' : ObservationTables × ℕ} (h : applyObservations claim result s = .ok s') :
    s'.1.streams = s.1.streams ∧ s'.1.gaps = s.1.gaps := by
  unfold applyObservations at h
  split_ifs at h
  · obtain ⟨x, hfold, h⟩ := bind_ok_iff.1 h
    obtain rfl := Except.ok.inj h
    refine foldlM_invariant (P := fun x => x.1.streams = s.1.streams ∧ x.1.gaps = s.1.gaps) (fun x obs x' hx hround => ?_)
      ⟨rfl, rfl⟩ hfold
    rcases persistObservation_ok hround with ⟨-, rfl⟩ | ⟨-, -, hround⟩
    · exact hx
    · rcases advanceCurrent_ok hround with ⟨-, ⟨-, rfl⟩ | ⟨-, hins⟩⟩ | ⟨c, a, -, ⟨-, hins⟩ | ⟨-, rfl⟩⟩
      · exact hx
      · obtain ⟨_, -, -, rfl⟩ := insertTransition_ok hins
        exact hx
      · obtain ⟨_, -, -, rfl⟩ := insertTransition_ok hins
        exact hx
      · exact hx
  · obtain rfl := Except.ok.inj h
    exact ⟨rfl, rfl⟩

namespace Sync

variable {domain : Domain}

/-! ### The completions of a run -/

/-- A completion of a history sync. -/
structure HistoryCompletion where
  claim : MetricHistoryClaim
  result : MetricHistoryResult
  raw_rows : List ZabbixHistoryEvidence

/-- A completion, where it is one of a history sync. -/
def historyOf : Claim × Report → Option HistoryCompletion
  | (.history claim, .history result raw_rows) => some ⟨claim, result, raw_rows⟩
  | _ => none

/-- The completions of history syncs that were committed. -/
def System.histories (s : System) : List HistoryCompletion := s.committed.filterMap historyOf

/-- What a completion of a history sync wrote to the tables. -/
def HistoryCompletion.Wrote (domain : Domain) (h : HistoryCompletion) (t : ObservationTables) (t' : ObservationTables) :
    Prop :=
  ∃ now nextId nextId', applyHistory domain now h.claim h.result h.raw_rows (t, nextId) = .ok (t', nextId')

/-- Streams and gaps are written by the completions of history syncs. -/
theorem step_histories (domain : Domain) (s : System) (a : Action) :
    (∃ h : HistoryCompletion, s.Commits domain a (.history h.claim) (.history h.result h.raw_rows) ∧
      (s.step domain a).histories = s.histories ++ [h] ∧
      h.Wrote domain s.db.observations (s.step domain a).db.observations) ∨
    (s.step domain a).histories = s.histories ∧
      (s.step domain a).db.observations.streams = s.db.observations.streams ∧
      (s.step domain a).db.observations.gaps = s.db.observations.gaps := by
  by_cases hcommit : ∃ h : HistoryCompletion, s.Commits domain a (.history h.claim) (.history h.result h.raw_rows)
  · obtain ⟨h, hcommit⟩ := hcommit
    refine Or.inl ⟨h, hcommit, ?_, ?_⟩
    · rw [System.histories, show (s.step domain a).committed = _ from hcommit, List.filterMap_append]
      rfl
    · obtain ⟨now, n, rfl, -, hc⟩ := commits_iff.1 hcommit
      obtain ⟨-, x, happly, hchain⟩ := complete_metric_history_ok hc
      refine ⟨now, s.db.nextId, x.2, ?_⟩
      rcases chainHistory_ok hchain with heq | ⟨o, -, -, -, heq⟩ <;> rw [heq] <;> exact happly
  · refine Or.inr ⟨?_, ?_⟩
    · rcases step_committed domain s a with heq | ⟨c, report, heq⟩
      · rw [System.histories, heq]
        rfl
      · rw [System.histories, show (s.step domain a).committed = _ from heq, List.filterMap_append]
        cases hof : historyOf (c, report) with
        | none => rw [List.filterMap_cons_none hof, List.filterMap_nil, List.append_nil]; rfl
        | some h =>
          unfold historyOf at hof
          split at hof
          · exact absurd ⟨⟨_, _, _⟩, (Prod.mk.inj ‹_›).1 ▸ (Prod.mk.inj ‹_›).2 ▸ heq⟩ hcommit
          · cases hof
    · rcases step_observations domain s a with heq | ⟨source_id, rfl, h⟩ | ⟨now, n, c, result, rfl, hn, hc⟩ |
        ⟨now, n, c, result, raw_rows, rfl, hn, hc⟩
      · rw [heq]
        exact ⟨rfl, rfl⟩
      · obtain ⟨observations, -, h⟩ := bind_ok_iff.1 h
        rw [← Except.ok.inj h]
        exact ⟨rfl, rfl⟩
      · obtain ⟨-, x, happly, heq⟩ := complete_metric_current_state_ok hc
        rw [heq]
        exact applyObservations_streams happly
      · exact absurd ⟨⟨c, result, raw_rows⟩, commits_iff.2 ⟨now, n, rfl, hn, hc⟩⟩ hcommit

/-! ### What a checkpoint is for -/

/-- The times of the parseable rows of a stream in a completion, where it succeeded. -/
def HistoryCompletion.timesOf (domain : Domain) (source_id generation : String) (key : StreamKey)
    (h : HistoryCompletion) : List ProviderTime :=
  if h.result.succeeded ∧ h.claim.monitoring_source_id = source_id ∧ h.claim.source_instance_generation = generation then
    h.claim.times domain key h.raw_rows
  else []

/-- The greatest time of a stream, over the successful completions. -/
def System.latest (domain : Domain) (s : System) (source_id generation : String) (key : StreamKey) :
    WithBot ProviderTime :=
  (s.histories.flatMap (HistoryCompletion.timesOf domain source_id generation key)).maximum

/-- A successful completion finalized a window of the stream. -/
def System.Finalized (s : System) (r : HistoryStream) : Prop :=
  ∃ h ∈ s.histories, h.result.succeeded = true ∧ h.result.coverage_state = .finalized ∧
    h.claim.monitoring_source_id = r.monitoring_source_id ∧
    h.claim.source_instance_generation = r.source_instance_generation ∧
    ∃ target ∈ h.claim.targets, (target.provider_external_ref, target.history_value_type) = r.key

/-- The checkpoints of every stream are its greatest time, the safe one once a window is finalized. -/
def CheckpointsExact (domain : Domain) (s : System) : Prop :=
  ∀ r ∈ s.db.observations.streams,
    let latest := s.latest domain r.monitoring_source_id r.source_instance_generation r.key
    r.provisional = latest ∧ (s.Finalized r → r.safe = latest)

/-- No checkpoint goes back. -/
def CheckpointsGrow (s s' : System) : Prop :=
  ∀ r ∈ s.db.observations.streams, ∀ r' ∈ s'.db.observations.streams,
    r'.is r.monitoring_source_id r.source_instance_generation r.key = true →
      r.provisional ≤ r'.provisional ∧ r.safe ≤ r'.safe

/-- The stream of a row is there, and its checkpoint is at the row, or will be: at a row of the page that
the ledger does not have, whose clock is after the safe one. -/
def reachesRow (domain : Domain) (claim : MetricHistoryClaim) (raw_rows : List ZabbixHistoryEvidence)
    (t : ObservationTables) (row : ZabbixHistoryEvidence) : Bool :=
  (claim.streamOf domain row).all fun key =>
    let is := HistoryStream.is claim.monitoring_source_id claim.source_instance_generation key
    t.streams.any is && t.streams.all fun r =>
      !is r || decide ((row.time : WithBot ProviderTime) ≤ r.provisional) || raw_rows.any fun row' =>
        claim.streamOf domain row' = some key ∧ row.time ≤ row'.time ∧
          (!t.acceptances.any fun a => a.sample = claim.sample row') ∧
          r.safe_clock.all fun clock => clock < row'.clock

/-- The condition on a step. -/
def keepsCheckpoints (domain : Domain) (s : System) : Action → Bool
  | .complete now n (.history result raw_rows) =>
    match s.issued[n]? with
    | some (.history c) =>
      !(complete_metric_history domain now c result raw_rows s.db).isOk || !result.succeeded ||
        raw_rows.all (reachesRow domain c raw_rows s.db.observations)
    | _ => true
  | _ => true

/-! ### The invariant -/

/-- Both checkpoints of every stream are its greatest time, and what has no stream had no row. -/
structure Exact (domain : Domain) (s : System) (streams : List HistoryStream) : Prop where
  check : ∀ r ∈ streams, r.Check
  exact : ∀ r ∈ streams,
    r.provisional = s.latest domain r.monitoring_source_id r.source_instance_generation r.key ∧
      r.safe = s.latest domain r.monitoring_source_id r.source_instance_generation r.key
  unseen : ∀ source_id generation key, (∀ r ∈ streams, r.is source_id generation key = false) →
    s.latest domain source_id generation key = ⊥

theorem maximum_append {α : Type*} [LinearOrder α] (l l' : List α) : (l ++ l').maximum = l.maximum ⊔ l'.maximum := by
  induction l with
  | nil => simp
  | cons a l ih => rw [List.cons_append, List.maximum_cons, List.maximum_cons, ih, ← max_assoc]

variable {h : HistoryCompletion}

variable {s s' : System}

theorem latest_append (domain : Domain) (hs : s'.histories = s.histories ++ [h]) (source_id generation : String)
    (key : StreamKey) :
    s'.latest domain source_id generation key =
      s.latest domain source_id generation key ⊔ (h.timesOf domain source_id generation key).maximum := by
  rw [System.latest, System.latest, hs, List.flatMap_append, maximum_append, List.flatMap_singleton]

variable {claim : MetricHistoryClaim}

variable {raw_rows : List ZabbixHistoryEvidence} {t : ObservationTables}

theorem reachesRow_iff :
    reachesRow domain claim raw_rows t row = true ↔ ∀ key, claim.streamOf domain row = some key →
      (∃ r ∈ t.streams, r.is claim.monitoring_source_id claim.source_instance_generation key = true) ∧
        ∀ r ∈ t.streams, r.is claim.monitoring_source_id claim.source_instance_generation key = true →
          (row.time : WithBot ProviderTime) ≤ r.provisional ∨
            ∃ row' ∈ raw_rows, claim.streamOf domain row' = some key ∧ row.time ≤ row'.time ∧
              (∀ a ∈ t.acceptances, a.sample ≠ claim.sample row') ∧
              ∀ clock, r.safe_clock = some clock → clock < row'.clock := by
  simp only [reachesRow, Option.all_eq_true, Bool.and_eq_true, List.any_eq_true, List.all_eq_true, Bool.or_eq_true,
    Bool.not_eq_true', decide_eq_true_eq, List.any_eq_false]
  refine forall₂_congr fun key _ => and_congr_right fun _ => forall₂_congr fun r _ => ?_
  rw [or_assoc, ← Bool.not_eq_true, ← imp_iff_not_or]

theorem raisedBy_of_is {now : Timestamp} {r : HistoryStream}
    (hsource : r.monitoring_source_id = claim.monitoring_source_id)
    (hgen : r.source_instance_generation = claim.source_instance_generation) :
    r.raisedBy now claim l =
      match l.find? fun e => e.1 = r.key with
      | none => r
      | some e => r.raise now (ofLex e.2).1 (ofLex e.2).2 := by
  have hpred : (fun e : StreamKey × ProviderTime =>
      r.is claim.monitoring_source_id claim.source_instance_generation e.1) = fun e => decide (e.1 = r.key) := by
    funext e
    rw [Bool.eq_iff_iff, HistoryStream.is_iff, decide_eq_true_eq]
    exact ⟨fun h => h.2.2.symm, fun h => ⟨hsource, hgen, h.symm⟩⟩
  rw [HistoryStream.raisedBy, hpred]

theorem raisedBy_of_not {now : Timestamp} {r : HistoryStream}
    (h : ¬(r.monitoring_source_id = claim.monitoring_source_id ∧
      r.source_instance_generation = claim.source_instance_generation)) : r.raisedBy now claim l = r := by
  have hnone : (l.find? fun e =>
      r.is claim.monitoring_source_id claim.source_instance_generation e.1) = none :=
    List.find?_eq_none.2 fun e _ his => h ⟨(HistoryStream.is_iff.1 his).1, (HistoryStream.is_iff.1 his).2.1⟩
  rw [HistoryStream.raisedBy, hnone]

theorem raisedBy_key (now : Timestamp) (claim : MetricHistoryClaim) (l : List (StreamKey × ProviderTime))
    (r : HistoryStream) : (r.raisedBy now claim l).monitoring_source_id = r.monitoring_source_id ∧
      (r.raisedBy now claim l).source_instance_generation = r.source_instance_generation ∧
      (r.raisedBy now claim l).key = r.key := by
  unfold HistoryStream.raisedBy
  split <;> exact ⟨rfl, rfl, rfl⟩

/-- The `UPDATE`s bring a stream to the newest row of the page, where its rows are reached. -/
theorem raisedBy_exact (now : Timestamp) {p : HistoryPass} {r : HistoryStream} {nextId : ℕ}
    (hraised : Raised domain claim raw_rows ⟨t, nextId, []⟩ p)
    (hreach : ∀ row ∈ raw_rows, reachesRow domain claim raw_rows t row = true) (hr : r ∈ t.streams) (hcheck : r.Check)
    (hsync : r.safe = r.provisional) (hsource : r.monitoring_source_id = claim.monitoring_source_id)
    (hgen : r.source_instance_generation = claim.source_instance_generation) :
    (r.raisedBy now claim p.stream_high).Check ∧
      (r.raisedBy now claim p.stream_high).provisional =
        r.provisional ⊔ (claim.times domain r.key raw_rows).maximum ∧
      (r.raisedBy now claim p.stream_high).safe = (r.raisedBy now claim p.stream_high).provisional := by
  have hbound : high p.stream_high r.key ≤ (claim.times domain r.key raw_rows).maximum := by
    simpa [high] using hraised.bound r.key
  -- Each time of the page is at the checkpoint, or at a row that the loop accepted.
  have hrows : ∀ m : ProviderTime, (m : WithBot ProviderTime) ≤ (claim.times domain r.key raw_rows).maximum →
      (m : WithBot ProviderTime) ≤ r.provisional ∨ ∃ row' : ZabbixHistoryEvidence, m ≤ row'.time ∧
        (row'.time : WithBot ProviderTime) ≤ high p.stream_high r.key ∧
        ∀ clock, r.safe_clock = some clock → clock < row'.clock := by
    intro m hm
    obtain ⟨x, hx, hmx⟩ := List.coe_le_maximum_iff.1 hm
    obtain ⟨row, hrow, rfl⟩ := List.mem_map.1 hx
    obtain ⟨hrow, hkey⟩ := List.mem_filter.1 hrow
    obtain ⟨-, hall⟩ := reachesRow_iff.1 (hreach row hrow) r.key (by simpa using hkey)
    rcases hall r hr (HistoryStream.is_iff.2 ⟨hsource, hgen, rfl⟩) with hle | ⟨row', hrow', hkey', hle, hnew, hclock⟩
    · exact Or.inl ((WithBot.coe_le_coe.2 hmx).trans hle)
    · rcases hraised.taken row' hrow' r.key hkey' with ⟨a, ha, hsample⟩ | hhigh
      · exact absurd hsample (hnew a ha)
      · exact Or.inr ⟨row', hmx.trans hle, hhigh, hclock⟩
  have hjoin : r.provisional ⊔ high p.stream_high r.key =
      r.provisional ⊔ (claim.times domain r.key raw_rows).maximum := by
    refine le_antisymm (sup_le_sup_left hbound _) (sup_le le_sup_left ?_)
    induction hM : (claim.times domain r.key raw_rows).maximum using WithBot.recBotCoe with
    | bot => exact bot_le
    | coe m =>
      rcases hrows m hM.ge with hle | ⟨row', hle, hhigh, -⟩
      · exact le_sup_of_le_left hle
      · exact le_sup_of_le_right ((WithBot.coe_le_coe.2 hle).trans hhigh)
  rw [raisedBy_of_is hsource hgen, ← hjoin]
  cases hfind : p.stream_high.find? fun e => e.1 = r.key with
  | none =>
    have hhigh : high p.stream_high r.key = ⊥ := by simp [high, hfind]
    exact ⟨hcheck, by rw [hhigh, sup_bot_eq], hsync⟩
  | some e =>
    have hhigh : high p.stream_high r.key = e.2 := by simp [high, hfind]
    have hclock : r.safe_clock = none ∨ (∃ c, r.safe_clock = some c ∧ c < (ofLex e.2).1) ∨
        (e.2 : WithBot ProviderTime) ≤ r.safe := by
      rcases hrows e.2 (hhigh ▸ hbound) with hle | ⟨row', hle, hhigh', hclock⟩
      · exact Or.inr (Or.inr (hsync ▸ hle))
      · have htime : e.2 = row'.time := le_antisymm hle (WithBot.coe_le_coe.1 (hhigh ▸ hhigh'))
        rw [htime]
        cases hsafe : r.safe_clock with
        | none => exact Or.inl rfl
        | some c => exact Or.inr (Or.inl ⟨c, rfl, hclock c hsafe⟩)
    have hprov := HistoryStream.raise_provisional now (ofLex e.2).1 (ofLex e.2).2 hcheck
    have hsafe := HistoryStream.raise_safe now (ofLex e.2).1 (ofLex e.2).2 hcheck hclock
    exact ⟨HistoryStream.raise_check _ _ _ hcheck, by rw [hhigh]; exact hprov, by rw [hsafe, hprov, hsync]⟩

/-- The rows of a page keep the invariant, where they are reached. -/
theorem Exact.page {now : Timestamp} {nextId : ℕ} {x : ObservationTables × ℕ}
    (hs : Exact domain s s.db.observations.streams) (hhist : s'.histories = s.histories ++ [h])
    (hreach : h.result.succeeded = true →
      ∀ row ∈ h.raw_rows, reachesRow domain h.claim h.raw_rows s.db.observations row = true)
    (hrows : (if h.result.succeeded then _persist_history_rows domain now h.claim h.raw_rows (s.db.observations, nextId)
      else .ok (s.db.observations, nextId)) = .ok x) : Exact domain s' x.1.streams := by
  have hlatest := latest_append domain hhist
  cases hsucc : h.result.succeeded with
  | false =>
    have hnone : ∀ source_id generation key, h.timesOf domain source_id generation key = [] := by
      simp [HistoryCompletion.timesOf, hsucc]
    simp only [hsucc, Bool.false_eq_true, if_false, Except.ok.injEq] at hrows
    obtain rfl := hrows
    simp only [hnone, List.maximum_nil, sup_bot_eq] at hlatest
    exact ⟨hs.check, fun r hr => by rw [hlatest]; exact hs.exact r hr,
      fun source_id generation key hno => by rw [hlatest]; exact hs.unseen source_id generation key hno⟩
  | true =>
    have hreach := hreach hsucc
    rw [if_pos hsucc] at hrows
    obtain ⟨p, hfold, hrows⟩ := bind_ok_iff.1 hrows
    obtain rfl := Except.ok.inj hrows
    have hraised := persist_fold_raised hfold
    have hstreams : p.stream_high.foldl (raiseStream now h.claim) p.tables.streams =
        s.db.observations.streams.map (HistoryStream.raisedBy now h.claim p.stream_high) := by
      rw [raiseStream_fold (hraised.nodup List.nodup_nil), hraised.streams]
    simp only [hstreams]
    have hexact : ∀ r ∈ s.db.observations.streams, (r.raisedBy now h.claim p.stream_high).Check ∧
        (r.raisedBy now h.claim p.stream_high).provisional =
          s'.latest domain r.monitoring_source_id r.source_instance_generation r.key ∧
        (r.raisedBy now h.claim p.stream_high).safe =
          s'.latest domain r.monitoring_source_id r.source_instance_generation r.key := by
      intro r hr
      obtain ⟨hprov, hsafe⟩ := hs.exact r hr
      by_cases hclaim : r.monitoring_source_id = h.claim.monitoring_source_id ∧
          r.source_instance_generation = h.claim.source_instance_generation
      · obtain ⟨hcheck, hprov', hsafe'⟩ := raisedBy_exact now hraised hreach hr (hs.check r hr)
          (hsafe.trans hprov.symm) hclaim.1 hclaim.2
        have htimes : h.timesOf domain r.monitoring_source_id r.source_instance_generation r.key =
            h.claim.times domain r.key h.raw_rows := if_pos ⟨hsucc, hclaim.1.symm, hclaim.2.symm⟩
        rw [hsafe', hprov', hlatest, htimes, hprov]
        exact ⟨hcheck, rfl, rfl⟩
      · have htimes : h.timesOf domain r.monitoring_source_id r.source_instance_generation r.key = [] :=
          if_neg fun hm => hclaim ⟨hm.2.1.symm, hm.2.2.symm⟩
        rw [raisedBy_of_not hclaim, hlatest, htimes, List.maximum_nil, sup_bot_eq]
        exact ⟨hs.check r hr, hprov, hsafe⟩
    refine ⟨fun r' hr' => ?_, fun r' hr' => ?_, fun source_id generation key hno => ?_⟩
    · obtain ⟨r, hr, rfl⟩ := List.mem_map.1 hr'
      exact (hexact r hr).1
    · obtain ⟨r, hr, rfl⟩ := List.mem_map.1 hr'
      obtain ⟨hsource, hgen, hkey⟩ := raisedBy_key now h.claim p.stream_high r
      rw [hsource, hgen, hkey]
      exact (hexact r hr).2
    · have hno' : ∀ r ∈ s.db.observations.streams, r.is source_id generation key = false := by
        intro r hr
        have hno := hno _ (List.mem_map_of_mem hr)
        obtain ⟨hsource, hgen, hkey⟩ := raisedBy_key now h.claim p.stream_high r
        rw [Bool.eq_false_iff, ne_eq, HistoryStream.is_iff, hsource, hgen, hkey] at hno
        rwa [Bool.eq_false_iff, ne_eq, HistoryStream.is_iff]
      have htimes : h.timesOf domain source_id generation key = [] := by
        unfold HistoryCompletion.timesOf
        split_ifs with hclaim
        · -- A row of the stream would need its stream.
          obtain ⟨-, rfl, rfl⟩ := hclaim
          rw [MetricHistoryClaim.times, List.map_eq_nil_iff, List.filter_eq_nil_iff]
          intro row hrow hkey
          obtain ⟨⟨r, hr, his⟩, -⟩ := reachesRow_iff.1 (hreach row hrow) key (by simpa using hkey)
          exact absurd his (by simp [hno' r hr])
        · rfl
      rw [hlatest, hs.unseen _ _ _ hno', htimes, List.maximum_nil, sup_bot_eq]

/-- A completion keeps the invariant, where the rows of its page are reached. -/
theorem Exact.wrote (hs : Exact domain s s.db.observations.streams)
    (hwrote : h.Wrote domain s.db.observations s'.db.observations) (hhist : s'.histories = s.histories ++ [h])
    (hreach : h.result.succeeded = true →
      ∀ row ∈ h.raw_rows, reachesRow domain h.claim h.raw_rows s.db.observations row = true) :
    Exact domain s' s'.db.observations.streams := by
  obtain ⟨now, nextId, nextId', happly⟩ := hwrote
  obtain ⟨x, gaps, hrows, -, heq⟩ := applyHistory_ok happly
  have hpage := hs.page hhist hreach hrows
  obtain ⟨hkeep, hnew⟩ := upsertStream_fold now h.claim (historyCoverage h.result) h.claim.targets x.1.streams
  rw [(Prod.mk.inj heq).1]
  dsimp only
  refine ⟨fun r' hr' => ?_, fun r' hr' => ?_, fun source_id generation key hno => ?_⟩
  · rcases hnew r' hr' with ⟨r, hr, hsame⟩ | ⟨hnewfor, -⟩
    · have hcheck := hpage.check r hr
      exact ⟨by rw [hsame.provisional_clock, hsame.provisional_ns, hcheck.provisional],
        by rw [hsame.safe_clock, hsame.safe_ns, hcheck.safe]⟩
    · exact ⟨by rw [hnewfor.provisional_clock, hnewfor.provisional_ns], by rw [hnewfor.safe_clock, hnewfor.safe_ns]⟩
  · rcases hnew r' hr' with ⟨r, hr, hsame⟩ | ⟨hnewfor, hno⟩
    · rw [HistoryStream.provisional, HistoryStream.safe, hsame.source, hsame.generation, hsame.key,
        hsame.provisional_clock, hsame.provisional_ns, hsame.safe_clock, hsame.safe_ns]
      exact hpage.exact r hr
    · rw [HistoryStream.provisional, HistoryStream.safe, hnewfor.source, hnewfor.generation, hpage.unseen _ _ _ hno,
        hnewfor.provisional_clock, hnewfor.provisional_ns, hnewfor.safe_clock, hnewfor.safe_ns]
      exact ⟨rfl, rfl⟩
  · refine hpage.unseen source_id generation key fun r hr => ?_
    obtain ⟨r', hr', hsame⟩ := hkeep r hr
    have hno := hno r' hr'
    rw [Bool.eq_false_iff, ne_eq, HistoryStream.is_iff] at hno ⊢
    rwa [hsame.source, hsame.generation, hsame.key] at hno

/-- A step that meets the condition keeps the invariant. -/
theorem exact_step {a : Action} (hs : Exact domain s s.db.observations.streams)
    (hok : keepsCheckpoints domain s a = true) :
    Exact domain (s.step domain a) (s.step domain a).db.observations.streams := by
  rcases step_histories domain s a with ⟨h, hcommit, hhist, hwrote⟩ | ⟨hhist, hstreams, -⟩
  · refine hs.wrote hwrote hhist fun hsucc => ?_
    obtain ⟨now, n, rfl, hn, hc⟩ := commits_iff.1 hcommit
    have hc : complete_metric_history domain now h.claim h.result h.raw_rows s.db = .ok _ := hc
    simpa [keepsCheckpoints, hn, hc, hsucc, Except.isOk, Except.toBool] using hok
  · have hlatest : (s.step domain a).latest domain = s.latest domain := by
      funext source_id generation key
      rw [System.latest, System.latest, hhist]
    rw [hstreams]
    exact ⟨hs.check, fun r hr => by rw [hlatest]; exact hs.exact r hr,
      fun source_id generation key hno => by rw [hlatest]; exact hs.unseen source_id generation key hno⟩

/-- The greatest time of a stream never goes back. -/
theorem latest_mono (bridge : BridgeVersion) (run run' : List Action) (source_id generation : String)
    (key : StreamKey) : (System.exec domain bridge run).latest domain source_id generation key ≤
      (System.exec domain bridge (run ++ run')).latest domain source_id generation key := by
  induction run' using List.reverseRecOn with
  | nil => rw [List.append_nil]
  | append_singleton run' a ih =>
    refine ih.trans ?_
    rw [← List.append_assoc, System.exec, System.exec, List.foldl_append (l := run ++ run')]
    rcases step_histories domain ((run ++ run').foldl (System.step domain) (.empty bridge)) a with
      ⟨h, -, hhist, -⟩ | ⟨hhist, -⟩
    · rw [List.foldl_cons, List.foldl_nil, latest_append domain hhist]
      exact le_sup_left
    · rw [List.foldl_cons, List.foldl_nil, System.latest, System.latest, hhist]

/-- **Key result**: in a run whose steps all meet the condition, the checkpoints of every stream are its greatest
time in every state, and never go back. -/
theorem checkpoints_exact (domain : Domain) (bridge : BridgeVersion) (run : List Action)
    (hrun : Guarded (System.step domain) (fun s a => keepsCheckpoints domain s a = true) (.empty bridge) run) :
    ∀ pre post, run = pre ++ post → CheckpointsExact domain (System.exec domain bridge pre) ∧
      ∀ earlier later, pre = earlier ++ later →
        CheckpointsGrow (System.exec domain bridge earlier) (System.exec domain bridge pre) := by
  have hexact : ∀ pre post, run = pre ++ post →
      Exact domain (System.exec domain bridge pre) (System.exec domain bridge pre).db.observations.streams := by
    rintro pre post rfl
    refine (guarded_append.1 hrun).1.invariant (I := fun s => Exact domain s s.db.observations.streams)
      (fun s a => exact_step) ⟨?_, ?_, ?_⟩
    · simp [System.empty, SyncDb.empty]
    · simp [System.empty, SyncDb.empty]
    · intro source_id generation key _
      rfl
  rintro pre post rfl
  have hpre := hexact pre post rfl
  refine ⟨fun r hr => ⟨(hpre.exact r hr).1, fun _ => (hpre.exact r hr).2⟩, ?_⟩
  rintro earlier later rfl r hr r' hr' his
  have hearlier := hexact earlier (later ++ post) (List.append_assoc _ _ _)
  obtain ⟨hsource, hgen, hkey⟩ := HistoryStream.is_iff.1 his
  obtain ⟨hprov, hsafe⟩ := hearlier.exact r hr
  obtain ⟨hprov', hsafe'⟩ := hpre.exact r' hr'
  rw [hprov, hsafe, hprov', hsafe', hsource, hgen, hkey]
  exact ⟨latest_mono bridge earlier later _ _ _, latest_mono bridge earlier later _ _ _⟩

/-! ### Runs -/

/-- A history sync of the item of `polledOnce`, with the rows that the provider returns. -/
def historySync (now : Timestamp) (n : ℕ) (op_id : String) (raw_rows : List ZabbixHistoryEvidence) : List Action :=
  [.enqueueHistory now 100 200 "mon-src_0", .claim now .history op_id s!"token-{n}",
    .complete now n (.history { SyncResult.ok _ with coverage_state := .finalized } raw_rows)]

/-- A page without rows makes the stream, and the next two raise it. -/
def laterPages : List Action :=
  polledOnce .float ++ historySync 7 2 "mon-sync_10" [] ++
    historySync 8 3 "mon-sync_11" [⟨"42424", 150, 0, "1.5"⟩, ⟨"42424", 151, 7, "2.5"⟩] ++
    historySync 9 4 "mon-sync_14" [⟨"42424", 151, 7, "2.5"⟩, ⟨"42424", 152, 3, "x"⟩, ⟨"42424", 160, 0, "3.5"⟩]

theorem laterPages_exact :
    CheckpointsExact Domain.tested (System.exec Domain.tested .publicationBridge laterPages) :=
  (checkpoints_exact Domain.tested .publicationBridge laterPages (by decide) laterPages [] (by simp)).1

/-- The first page of a stream has a row. -/
def firstPage : List Action := polledOnce .float ++ historySync 7 2 "mon-sync_10" [⟨"42424", 150, 0, "1.5"⟩]

/-- The window is finalized, and the stream has no checkpoint. -/
theorem firstPage_not_exact :
    ¬CheckpointsExact Domain.tested (System.exec Domain.tested .publicationBridge firstPage) := by
  intro h
  have hlaw := (h _ List.mem_cons_self).1
  revert hlaw
  decide

end Sync

end JLMirror.Monitoring
