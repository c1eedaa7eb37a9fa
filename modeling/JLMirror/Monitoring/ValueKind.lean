import JLMirror.Foundations.Run
import JLMirror.Monitoring.SyncSystem

/-!
# Value-kind drift

"Value-kind drift: native type changed — fail closed, mark binding + definition evidence as
reconciliation" (`_persist_item_snapshot`). The kind of a definition is fixed when it is made, and a
snapshot that shows its item with another native type marks both rows. It also writes the new type
to the binding, so the next snapshot finds nothing changed, and makes both rows current again.

## The model

* `KindsAgree` is what drift detection is for: where definition and binding are both current, the kind is
  that of the native type, and so it is for every target of a poll.
* `keepsKinds` is the condition on a step: a snapshot that passes its fence shows no item whose stored
  native type is the one reported, while its definition has the kind of another.

## What is proved

**Key result** (`value_kinds_agree`): in a run whose steps all meet the condition, `KindsAgree` holds in
every state. `driftTwice` is a run that breaks it: one item, whose type changes once and stays.

## Honest scope

`canonical_value_kind` is any function.
-/

namespace JLMirror.Monitoring.Sync

open JLMirror.Foundations

/-- Where both evidences are current, the definition has the kind of the native type. -/
structure KindsAgree (domain : Domain) (t : MetricTables) : Prop where
  current : ∀ d ∈ t.definitions, ∀ b ∈ t.bindings, b.metric_definition_id = d.metric_definition_id →
    d.definition_evidence_state = .current → b.evidence_state = .current →
      d.value_kind = domain.canonical_value_kind b.native_value_type
  targets : ∀ source_id generation, ∀ x ∈ t.pollable source_id generation,
    x.1.value_kind = domain.canonical_value_kind x.2.native_value_type

/-- The snapshot does not show the item again with the native type that its binding has, while the
definition has another kind. -/
def settled (domain : Domain) (claim : MetricDefinitionClaim) (t : MetricTables) (item : MetricItem) : Bool :=
  (t.bindingOf claim.monitoring_source_id claim.source_instance_generation item.itemid).all fun b =>
    b.native_value_type ≠ item.native_value_type ∨
      t.definitions.all fun d =>
        d.metric_definition_id ≠ b.metric_definition_id ∨
          d.value_kind = domain.canonical_value_kind item.native_value_type

/-- The condition on a step. -/
def keepsKinds (domain : Domain) (s : System) : Action → Bool
  | .complete _ n (.definitions result _) =>
    match s.issued[n]? with
    | some (.definitions c) =>
      !s.db.core.fence c.toSyncClaim c.slot || !(effective c result s.db.inventory).succeeded ||
        result.items.all (settled domain c s.db.metrics)
    | _ => true
  | _ => true

/-! ### The invariant -/

/-- A current binding has the native type of its definition's kind, whatever the evidence of the
definition. -/
structure Bound (domain : Domain) (t : MetricTables) : Prop where
  ids : (t.bindings.map ItemBinding.metric_definition_id).Nodup
  kind : ∀ d ∈ t.definitions, ∀ b ∈ t.bindings, b.metric_definition_id = d.metric_definition_id →
    b.evidence_state = .current → d.value_kind = domain.canonical_value_kind b.native_value_type

variable {domain : Domain}

variable {t : MetricTables}

theorem Bound.agree (h : Bound domain t) : KindsAgree domain t where
  current d hd b hb hid _ hev := h.kind d hd b hb hid hev
  targets source_id generation x hx := by
    simp only [MetricTables.pollable, List.mem_insertionSort, List.mem_flatMap, List.mem_map, List.mem_filter,
      decide_eq_true_eq] at hx
    obtain ⟨d, hd, b, ⟨hb, -, -, -, hid, hev⟩, rfl⟩ := hx
    exact h.kind d hd b hb hid hev

variable {claim : MetricDefinitionClaim} {item : MetricItem}

theorem settled_iff :
    settled domain claim t item = true ↔
      ∀ b, t.bindingOf claim.monitoring_source_id claim.source_instance_generation item.itemid = some b →
        b.native_value_type = item.native_value_type → ∀ d ∈ t.definitions,
          d.metric_definition_id = b.metric_definition_id →
            d.value_kind = domain.canonical_value_kind item.native_value_type := by
  simp only [settled, Option.all_eq_true, decide_eq_true_eq, List.all_eq_true, ne_eq, or_iff_not_imp_left, not_not]

theorem bindingOf_some {source_id generation itemid : String} {b : ItemBinding}
    (h : t.bindingOf source_id generation itemid = some b) : b ∈ t.bindings ∧ b.provider_external_ref = itemid :=
  ⟨List.mem_of_find?_eq_some h, (by simpa using List.find?_some h : _ ∧ _ ∧ _).2.2⟩

theorem driftState_current_iff {prior native : NativeValueType} :
    driftState prior native = .current ↔ prior = native := by
  unfold driftState
  split_ifs with h
  · simp [h]
  · simp [not_not.1 h]

variable {definition_id : String}

/-- An upsert keeps the invariant, where its item is settled. -/
theorem Bound.upsert {resource_id : String} {t' : MetricTables} {nextId : ℕ} (h : Bound domain t)
    (hset : settled domain claim t item = true)
    (hup : upsertItem domain claim item resource_id t nextId = .ok (definition_id, t')) : Bound domain t' := by
  rcases upsertItem_ok hup with ⟨b, hb, -, rfl⟩ | ⟨-, hnewd, hnewb, rfl⟩
  · -- The rows of the definition: they are current only without drift, and then the item is settled.
    refine ⟨?_, fun d' hd' b' hb' hid hev => ?_⟩
    · have hkeep := map_updateWhere (p := fun b' => decide (b'.metric_definition_id = b.metric_definition_id))
        (k := ItemBinding.metric_definition_id)
        (f := confirmedBinding item (driftState b.native_value_type item.native_value_type)) (fun _ => rfl) t.bindings
      exact hkeep ▸ h.ids
    · obtain ⟨d, hd, rfl⟩ := mem_updateWhere.1 hd'
      obtain ⟨b₀, hb₀, rfl⟩ := mem_updateWhere.1 hb'
      by_cases hbid : b₀.metric_definition_id = b.metric_definition_id
      · obtain rfl : b₀ = b := eq_of_key h.ids hb₀ (bindingOf_some hb).1 hbid
        have hdid : d.metric_definition_id = b₀.metric_definition_id := by
          by_contra hne
          simp only [hne, decide_false, Bool.false_eq_true, if_false, decide_true, if_true, confirmedBinding] at hid
          exact hne hid.symm
        simp only [decide_true, if_true, confirmedBinding] at hev ⊢
        simp only [hdid, decide_true, if_true, confirmedDefinition]
        exact settled_iff.1 hset b₀ hb (driftState_current_iff.1 hev) d hd hdid
      · simp only [hbid, decide_false, Bool.false_eq_true, if_false] at hid hev ⊢
        have hdid : d.metric_definition_id ≠ b.metric_definition_id := by
          intro heq
          simp only [heq, decide_true, if_true, confirmedDefinition] at hid
          exact hbid hid
        simp only [hdid, decide_false, Bool.false_eq_true, if_false] at hid ⊢
        exact h.kind d hd b₀ hb₀ hid hev
  · refine ⟨?_, fun d hd b hb hid hev => ?_⟩
    · simp only [List.map_append, List.map_cons, List.map_nil]
      refine List.nodup_append.2 ⟨h.ids, List.nodup_singleton _, ?_⟩
      rintro _ hx _ hy rfl
      obtain ⟨b, hb, hbid⟩ := List.mem_map.1 hx
      exact hnewb b hb (hbid.trans (List.mem_singleton.1 hy))
    · rcases List.mem_append.1 hd with hd | hd <;> rcases List.mem_append.1 hb with hb | hb
      · exact h.kind d hd b hb hid hev
      · obtain rfl := List.mem_singleton.1 hb
        exact absurd hid.symm (hnewd d hd)
      · obtain rfl := List.mem_singleton.1 hd
        exact absurd hid (hnewb b hb)
      · obtain rfl := List.mem_singleton.1 hd
        obtain rfl := List.mem_singleton.1 hb
        rfl

/-- An upsert does not unsettle the other items. -/
theorem settled_upsert {item' : MetricItem} {resource_id : String} {t' : MetricTables} {nextId : ℕ}
    (h : Bound domain t) (hne : item'.itemid ≠ item.itemid) (hset : settled domain claim t item' = true)
    (hup : upsertItem domain claim item resource_id t nextId = .ok (definition_id, t')) :
    settled domain claim t' item' = true := by
  rw [settled_iff] at hset ⊢
  intro b' hb' hnative d' hd' hid
  rcases upsertItem_ok hup with ⟨b, hb, -, rfl⟩ | ⟨-, hnewd, hnewb, rfl⟩
  · have hfind : t.bindingOf claim.monitoring_source_id claim.source_instance_generation item'.itemid = some b' := by
      have hb' : (updateWhere (fun b' => decide (b'.metric_definition_id = b.metric_definition_id))
          (confirmedBinding item (driftState b.native_value_type item.native_value_type)) t.bindings).find? _ =
            some b' := hb'
      rw [find?_updateWhere (f := confirmedBinding item _) fun _ _ => rfl] at hb'
      obtain ⟨b₀, hb₀, rfl⟩ := Option.map_eq_some_iff.1 hb'
      have hother : b₀.metric_definition_id ≠ b.metric_definition_id := by
        intro heq
        obtain rfl := eq_of_key h.ids (bindingOf_some hb₀).1 (bindingOf_some hb).1 heq
        exact hne ((bindingOf_some hb₀).2.symm.trans (bindingOf_some hb).2)
      simp only [hother, decide_false, Bool.false_eq_true, if_false]
      exact hb₀
    have hother : b'.metric_definition_id ≠ b.metric_definition_id := by
      intro heq
      obtain rfl := eq_of_key h.ids (bindingOf_some hfind).1 (bindingOf_some hb).1 heq
      exact hne ((bindingOf_some hfind).2.symm.trans (bindingOf_some hb).2)
    obtain ⟨d, hd, rfl⟩ := mem_updateWhere.1 hd'
    have hdid : d.metric_definition_id ≠ b.metric_definition_id := by
      intro heq
      simp only [heq, decide_true, if_true, confirmedDefinition] at hid
      exact hother hid.symm
    simp only [hdid, decide_false, Bool.false_eq_true, if_false] at hid ⊢
    exact hset b' hfind hnative d hd hid
  · have hfind : t.bindingOf claim.monitoring_source_id claim.source_instance_generation item'.itemid = some b' := by
      rw [MetricTables.bindingOf, List.find?_append, List.find?_cons_of_neg, List.find?_nil, Option.or_none] at hb'
      · exact hb'
      · simpa [newBinding] using Ne.symm hne
    rcases List.mem_append.1 hd' with hd | hd
    · exact hset b' hfind hnative d' hd hid
    · obtain rfl := List.mem_singleton.1 hd
      exact absurd hid.symm (hnewb b' (bindingOf_some hfind).1)

variable {host_map : String → Option String} {s s' : MetricTables × ℕ}

/-- The loop over the items keeps the invariant. -/
theorem Bound.fold {id : String} {items : List MetricItem} (h : Bound domain s.1)
    (hset : ∀ item ∈ items, settled domain claim s.1 item = true)
    (hfold : items.foldlM (persistItem domain claim id host_map) s = .ok s') : Bound domain s'.1 := by
  induction items generalizing s with
  | nil => exact foldlM_nil_ok.1 hfold ▸ h
  | cons item items ih =>
    have hnd := (persistItem_fold_nodup hfold).1
    obtain ⟨s₁, hround, hrest⟩ := foldlM_cons_ok.1 hfold
    obtain ⟨_, _, t, -, hup, -, rfl⟩ := persistItem_ok hround
    have hbound : Bound domain t := h.upsert (hset item List.mem_cons_self) hup
    refine ih ⟨hbound.ids, hbound.kind⟩ (fun item' hitem' => ?_) hrest
    have hne : item'.itemid ≠ item.itemid := fun heq =>
      (List.nodup_cons.1 hnd).1 (heq ▸ List.mem_map_of_mem hitem')
    have hkeep : settled domain claim t item' = true :=
      settled_upsert h hne (hset item' (List.mem_cons_of_mem _ hitem')) hup
    exact hkeep

/-- Rows that keep their ids and kinds keep the invariant. -/
theorem Bound.definitions {t : MetricTables} (h : Bound domain t) {p : MetricDefinition → Bool}
    {f : MetricDefinition → MetricDefinition}
    (hf : ∀ d, (f d).metric_definition_id = d.metric_definition_id ∧ (f d).value_kind = d.value_kind) :
    Bound domain { t with definitions := updateWhere p f t.definitions } := by
  refine ⟨h.ids, fun d' hd' b hb hid hev => ?_⟩
  obtain ⟨d, hd, rfl⟩ := mem_updateWhere.1 hd'
  cases hp : p d with
  | false =>
    simp only [hp, Bool.false_eq_true, if_false] at hid ⊢
    exact h.kind d hd b hb hid hev
  | true =>
    simp only [hp, if_true] at hid ⊢
    rw [(hf d).2]
    exact h.kind d hd b hb (hid.trans (hf d).1) hev

/-- A completion keeps the invariant, where the items of its snapshot are settled. -/
theorem Bound.apply {result : MetricDefinitionResult} {id : String} (h : Bound domain s.1)
    (hset : result.succeeded = true → ∀ item ∈ result.items, settled domain claim s.1 item = true)
    (happly : applyDefinitions domain claim result id host_map s = .ok s') : Bound domain s'.1 := by
  unfold applyDefinitions at happly
  split_ifs at happly with hs
  · obtain ⟨x, hfold, happly⟩ := bind_ok_iff.1 happly
    have hbound := h.fold (hset hs) hfold
    rw [← Except.ok.inj happly]
    exact hbound.definitions fun _ => ⟨rfl, rfl⟩
  · rw [← Except.ok.inj happly]
    exact h.definitions fun _ => ⟨rfl, rfl⟩

theorem effective_items (claim : MetricDefinitionClaim) (result : MetricDefinitionResult) (t : InventoryTables) :
    (effective claim result t).items = result.items := by
  unfold effective
  split_ifs <;> rfl

/-- A step that meets the condition keeps the invariant. -/
theorem bound_step {s : System} {a : Action} (h : Bound domain s.db.metrics) (hok : keepsKinds domain s a = true) :
    Bound domain (s.step domain a).db.metrics := by
  rcases step_metrics domain s a with heq | ⟨now, n, c, result, id, rfl, hn, hc⟩
  · rw [heq]
    exact h
  · obtain ⟨hfence, -, -, x, happly, heq⟩ := complete_metric_definitions_ok hc
    simp only [keepsKinds, hn, hfence, Bool.not_true, Bool.false_or, Bool.or_eq_true, Bool.not_eq_true',
      List.all_eq_true] at hok
    rw [heq]
    refine Bound.apply ⟨h.ids, h.kind⟩ (fun hs item hitem => ?_) happly
    rw [effective_items] at hitem
    exact hok.resolve_left (by simp [hs]) item hitem

/-- **Key result**: in a run without a snapshot that confirms a drifted item, definitions and bindings
agree in every state. -/
theorem value_kinds_agree (domain : Domain) (bridge : BridgeVersion) (run : List Action)
    (hrun : Guarded (System.step domain) (fun s a => keepsKinds domain s a = true) (.empty bridge) run) :
    ∀ pre post, run = pre ++ post → KindsAgree domain (System.exec domain bridge pre).db.metrics := by
  rintro pre post rfl
  have hbound : Bound domain (System.exec domain bridge pre).db.metrics :=
    (guarded_append.1 hrun).1.invariant (I := fun s => Bound domain s.db.metrics) (fun s a => bound_step)
      ⟨by simp [System.empty, SyncDb.empty], by simp [System.empty, SyncDb.empty]⟩
  exact hbound.agree

/-! ### Runs -/

/-- The item changes its type. -/
def driftOnce : List Action :=
  polledOnce .float ++
    [.enqueueDefinitions 7 "mon-src_0", .claim 8 .definitions "mon-sync_10" "token-3",
      .complete 9 2 (.definitions (sampleSnapshot .unsigned) "definitions-2")]

/-- The drift itself is noticed. -/
theorem driftOnce_agrees : KindsAgree Domain.tested (System.exec Domain.tested .publicationBridge driftOnce).db.metrics :=
  value_kinds_agree Domain.tested .publicationBridge driftOnce (by decide) driftOnce [] (by simp)

/-- The next snapshot shows the item with its new type again. -/
def driftTwice : List Action :=
  driftOnce ++
    [.enqueueDefinitions 10 "mon-src_0", .claim 11 .definitions "mon-sync_13" "token-4",
      .complete 12 3 (.definitions (sampleSnapshot .unsigned) "definitions-3")]

/-- After `driftTwice`, definition and binding are current, of different kinds. -/
theorem driftTwice_disagrees :
    ¬KindsAgree Domain.tested (System.exec Domain.tested .publicationBridge driftTwice).db.metrics := by
  intro h
  have hkind := h.current _ List.mem_cons_self _ List.mem_cons_self rfl rfl rfl
  revert hkind
  decide

end JLMirror.Monitoring.Sync
