import JLMirror.Monitoring.HostResources

/-!
# A definition snapshot and the definitions after it

`complete_metric_definitions` takes a snapshot whole or not at all: every host of its items has to be a present resource of
the generation. Then the items are upserted one by one, and the definitions that the snapshot does not show retire.

## The model

* The completion is that of `MetricDefinitions`, in any run of the sync system. A state of a definition is `active`, or
  `retired` with the slot of its retirement.
* `DefinitionsExact` says what the tables should be after a snapshot that is taken.

## What is proved

* `itemActive_upsert`, `unshown_upsert`: an upsert makes its item active, and leaves the definitions of the others.
* **Key result** (`definitions_exact`): after any run, a snapshot that is taken leaves its items as the active definitions,
  and one that is rejected changes no binding, and no definition but for the evidence state of the active ones.
* `rejected_snapshot_degrades`: that evidence state does change.
-/

namespace JLMirror.Monitoring

open JLMirror.Foundations

variable {domain : Domain} {claim : MetricDefinitionClaim} {t t' : MetricTables}

/-- The unique key of an item in the generation of a claim. -/
def MetricDefinitionClaim.itemKey (claim : MetricDefinitionClaim) (itemid : String) : String × String × String :=
  (claim.monitoring_source_id, claim.source_instance_generation, itemid)

/-- The item has an active definition. -/
def ItemActive (claim : MetricDefinitionClaim) (t : MetricTables) (itemid : String) : Prop :=
  ∃ b ∈ t.bindings, b.key = claim.itemKey itemid ∧
    ∃ d ∈ t.definitions, d.metric_definition_id = b.metric_definition_id ∧ d.definition_state = .active

/-- The definition is bound to none of the items. -/
def Unshown (claim : MetricDefinitionClaim) (items : List MetricItem) (t : MetricTables) (definition_id : String) : Prop :=
  ∀ b ∈ t.bindings, b.metric_definition_id = definition_id → ∀ item ∈ items, b.key ≠ claim.itemKey item.itemid

/-- What becomes of the state of a definition that a snapshot does not show. -/
def retiredBy (claim : MetricDefinitionClaim) (d : MetricDefinition) : DefinitionState :=
  if d.activeIn claim.monitoring_source_id claim.source_instance_generation then
    .retired claim.item_definition_poll_epoch claim.item_definition_poll_generation
  else d.definition_state

/-- What a snapshot that is taken makes of the tables. -/
structure DefinitionsExact (claim : MetricDefinitionClaim) (items : List MetricItem) (t t' : MetricTables) : Prop where
  /-- The keys are unique, so an item has one definition. -/
  copied : Copied t'
  active : ∀ itemid, ItemActive claim t' itemid ↔ itemid ∈ items.map MetricItem.itemid
  /-- Every active definition of the generation is one of an item. -/
  bound : ∀ d ∈ t'.definitions, d.activeIn claim.monitoring_source_id claim.source_instance_generation = true →
    ∃ b ∈ t'.bindings, b.metric_definition_id = d.metric_definition_id ∧
      ∃ item ∈ items, b.key = claim.itemKey item.itemid
  /-- An item keeps its definition. -/
  kept : ∀ b ∈ t.bindings, ∃ b' ∈ t'.bindings, b'.key = b.key ∧ b'.metric_definition_id = b.metric_definition_id
  /-- What is not shown retires at the slot of the claim, or stays as it is. -/
  retired : ∀ d ∈ t.definitions, Unshown claim items t d.metric_definition_id → ∃ d' ∈ t'.definitions,
    d'.metric_definition_id = d.metric_definition_id ∧ d'.definition_state = retiredBy claim d
  /-- What is shown, retired or not, is active. -/
  returned : ∀ d ∈ t.definitions, ∀ b ∈ t.bindings, b.metric_definition_id = d.metric_definition_id →
    (∃ item ∈ items, b.key = claim.itemKey item.itemid) →
    ∃ d' ∈ t'.definitions, d'.metric_definition_id = d.metric_definition_id ∧ d'.definition_state = .active

/-! ### An upsert -/

section Upsert

variable {item : MetricItem} {resource_id definition_id : String} {nextId : ℕ}

theorem key_of_found {b : ItemBinding}
    (hfind : t.bindingOf claim.monitoring_source_id claim.source_instance_generation item.itemid = some b) :
    b.key = claim.itemKey item.itemid := by
  obtain ⟨-, hsource, hgeneration, href⟩ := bindingOf_mem hfind
  rw [ItemBinding.key, hsource, hgeneration, href]
  rfl

theorem upsertItem_kept (hup : upsertItem domain claim item resource_id t nextId = .ok (definition_id, t')) :
    ∀ b ∈ t.bindings, ∃ b' ∈ t'.bindings, b'.key = b.key ∧ b'.metric_definition_id = b.metric_definition_id := by
  intro b hb
  rcases upsertItem_ok hup with ⟨b₀, -, -, rfl⟩ | ⟨-, -, -, rfl⟩
  · refine ⟨_, mem_updateWhere.2 ⟨b, hb, rfl⟩, ?_⟩
    split_ifs <;> exact ⟨rfl, rfl⟩
  · exact ⟨b, List.mem_append_left _ hb, rfl, rfl⟩

/-- An upsert makes its item active, and leaves active what is. -/
theorem itemActive_upsert (h : Copied t)
    (hup : upsertItem domain claim item resource_id t nextId = .ok (definition_id, t')) :
    ItemActive claim t' item.itemid ∧ ∀ itemid, ItemActive claim t itemid → ItemActive claim t' itemid := by
  rcases upsertItem_ok hup with ⟨b, hfind, -, rfl⟩ | ⟨-, -, -, rfl⟩
  · obtain ⟨hb, -⟩ := bindingOf_mem hfind
    obtain ⟨d, hd, hid⟩ := h.defined b hb
    refine ⟨⟨_, mem_updateWhere.2 ⟨b, hb, rfl⟩, ?_, _, mem_updateWhere.2 ⟨d, hd, rfl⟩, ?_⟩, ?_⟩
    · rw [if_pos (decide_eq_true rfl)]
      show b.key = _
      exact key_of_found hfind
    · rw [if_pos (decide_eq_true hid), if_pos (decide_eq_true rfl)]
      exact ⟨hid, rfl⟩
    · rintro itemid ⟨b', hb', hkey, d', hd', hid', hactive⟩
      refine ⟨_, mem_updateWhere.2 ⟨b', hb', rfl⟩, ?_, _, mem_updateWhere.2 ⟨d', hd', rfl⟩, ?_⟩
      · split_ifs <;> exact hkey
      · split_ifs
        · exact ⟨hid', rfl⟩
        · exact ⟨hid', rfl⟩
        · exact ⟨hid', hactive⟩
        · exact ⟨hid', hactive⟩
  · refine ⟨⟨_, List.mem_append_right _ (List.mem_singleton_self _), rfl, _, List.mem_append_right _ (List.mem_singleton_self _),
      rfl, rfl⟩, ?_⟩
    rintro itemid ⟨b', hb', hkey, d', hd', hid', hactive⟩
    exact ⟨b', List.mem_append_left _ hb', hkey, d', List.mem_append_left _ hd', hid', hactive⟩

/-- An upsert leaves the definitions of the other items. -/
theorem unshown_upsert {items : List MetricItem} (hitem : item ∈ items)
    (hup : upsertItem domain claim item resource_id t nextId = .ok (definition_id, t')) {d : MetricDefinition}
    (hd : d ∈ t.definitions) (hnot : Unshown claim items t d.metric_definition_id) :
    d ∈ t'.definitions ∧ Unshown claim items t' d.metric_definition_id := by
  rcases upsertItem_ok hup with ⟨b, hfind, -, rfl⟩ | ⟨-, hnewd, -, rfl⟩
  · have hne : d.metric_definition_id ≠ b.metric_definition_id := fun heq =>
      hnot b (bindingOf_mem hfind).1 heq.symm item hitem (key_of_found hfind)
    refine ⟨mem_updateWhere_of_not hd (decide_eq_false hne), ?_⟩
    intro b' hb' hid
    obtain ⟨b₀, hb₀, rfl⟩ := mem_updateWhere.1 hb'
    split_ifs at hid ⊢ <;> exact hnot b₀ hb₀ hid
  · refine ⟨List.mem_append_left _ hd, fun b hb hid => ?_⟩
    rcases List.mem_append.1 hb with hb | hb
    · exact hnot b hb hid
    · obtain rfl := List.mem_singleton.1 hb
      exact absurd hid.symm (hnewd d hd)

end Upsert

/-! ### A snapshot that is taken -/

section Snapshot

variable {id : String} {items : List MetricItem} {s s' : MetricTables × ℕ} {host_map : String → Option String}

/-- What the loop over the items leaves. -/
theorem snapshot_fold (h : Copied s.1) (hfold : items.foldlM (persistItem domain claim id host_map) s = .ok s') :
    (∀ item ∈ items, ItemActive claim s'.1 item.itemid) ∧
      (∀ b ∈ s.1.bindings, ∃ b' ∈ s'.1.bindings, b'.key = b.key ∧ b'.metric_definition_id = b.metric_definition_id) ∧
      ∀ d ∈ s.1.definitions, Unshown claim items s.1 d.metric_definition_id →
        d ∈ s'.1.definitions ∧ Unshown claim items s'.1 d.metric_definition_id := by
  have hround : ∀ x : MetricTables × ℕ, ∀ item x', Copied x.1 → persistItem domain claim id host_map x item = .ok x' →
      Copied x'.1 ∧ ItemActive claim x'.1 item.itemid ∧ ∀ itemid, ItemActive claim x.1 itemid → ItemActive claim x'.1 itemid := by
    intro x item x' hx hround
    obtain ⟨resource_id, definition_id, t, -, hup, -, rfl⟩ := persistItem_ok hround
    have hnext := itemActive_upsert hx hup
    exact ⟨(hx.upsert hup).of_tables rfl rfl, hnext⟩
  refine ⟨(foldlM_settles (I := fun x : MetricTables × ℕ => Copied x.1) (P := fun _ _ => True)
    (Q := fun x item => ItemActive claim x.1 item.itemid) (R := fun _ _ => True) (fun _ _ _ => trivial)
    (fun x item x' hx _ hok => ⟨(hround x item x' hx hok).1, (hround x item x' hx hok).2.1⟩)
    (fun x item x' other hx _ hok _ => ⟨fun _ => trivial, (hround x item x' hx hok).2.2 other.itemid⟩)
    (List.pairwise_of_forall fun _ _ => trivial) h (fun _ _ => trivial) hfold).2, fun b hb => ?_, fun d hd hnot => ?_⟩
  · refine foldlM_invariant (P := fun x : MetricTables × ℕ => ∃ b' ∈ x.1.bindings, b'.key = b.key ∧
      b'.metric_definition_id = b.metric_definition_id) ?_ ⟨b, hb, rfl, rfl⟩ hfold
    rintro x item x' ⟨b', hb', hkey, hid⟩ hok
    obtain ⟨resource_id, definition_id, t, -, hup, -, rfl⟩ := persistItem_ok hok
    obtain ⟨b'', hb'', hkey', hid'⟩ := upsertItem_kept hup b' hb'
    exact ⟨b'', hb'', hkey'.trans hkey, hid'.trans hid⟩
  · refine foldlM_invariant_of_mem (P := fun x : MetricTables × ℕ => d ∈ x.1.definitions ∧
      Unshown claim items x.1 d.metric_definition_id) ?_ ⟨hd, hnot⟩ hfold
    rintro x item hitem x' ⟨hd', hnot'⟩ hok
    obtain ⟨resource_id, definition_id, t, -, hup, -, rfl⟩ := persistItem_ok hok
    exact unshown_upsert hitem hup hd' hnot'

/-- The sweep passes over a definition exactly if it is bound to an item. -/
theorem retirable_iff (t : MetricTables) (d : MetricDefinition) :
    (t.bindings.any fun b => b.metric_definition_id = d.metric_definition_id ∧
      b.monitoring_source_id = claim.monitoring_source_id ∧ b.source_instance_generation = claim.source_instance_generation ∧
        (items.map MetricItem.itemid).contains b.provider_external_ref) = true ↔
      ¬ Unshown claim items t d.metric_definition_id := by
  simp only [List.any_eq_true, decide_eq_true_eq, List.contains_eq_mem, List.mem_map, Unshown, not_forall,
    Classical.not_not, exists_prop, ItemBinding.key, MetricDefinitionClaim.itemKey, Prod.mk.injEq]
  constructor
  · rintro ⟨b, hb, hid, hsource, hgeneration, item, hitem, href⟩
    exact ⟨b, hb, hid, item, hitem, hsource, hgeneration, href.symm⟩
  · rintro ⟨b, hb, hid, item, hitem, hsource, hgeneration, href⟩
    exact ⟨b, hb, hid, hsource, hgeneration, item, hitem, href.symm⟩

/-- What the sweep makes of a definition. -/
theorem sweep_unshown {d : MetricDefinition} (hd : d ∈ t.definitions) (hnot : Unshown claim items t d.metric_definition_id) :
    ∃ d' ∈ (retireUnseen claim (items.map MetricItem.itemid) t).definitions,
      d'.metric_definition_id = d.metric_definition_id ∧ d'.definition_state = retiredBy claim d := by
  refine ⟨_, mem_updateWhere.2 ⟨d, hd, rfl⟩, ?_⟩
  rw [retiredBy]
  by_cases hactive : d.activeIn claim.monitoring_source_id claim.source_instance_generation = true
  · rw [if_pos hactive, if_pos]
    · exact ⟨rfl, rfl⟩
    · refine decide_eq_true ⟨hactive, ?_⟩
      rw [Bool.not_eq_true', ← Bool.not_eq_true, retirable_iff, Classical.not_not]
      exact hnot
  · rw [if_neg hactive, if_neg fun h => hactive (of_decide_eq_true h).1]
    exact ⟨rfl, rfl⟩

theorem sweep_shown {d : MetricDefinition} (hd : d ∈ t.definitions) (hshown : ¬ Unshown claim items t d.metric_definition_id) :
    d ∈ (retireUnseen claim (items.map MetricItem.itemid) t).definitions := by
  refine mem_updateWhere_of_not hd (decide_eq_false ?_)
  rintro ⟨-, hnot⟩
  rw [(retirable_iff t d).2 hshown] at hnot
  cases hnot

/-- A definition that is active after the sweep was so before, and is bound to an item if it is of the generation. -/
theorem sweep_active {d : MetricDefinition} (hd : d ∈ (retireUnseen claim (items.map MetricItem.itemid) t).definitions)
    (hactive : d.definition_state = .active) : d ∈ t.definitions ∧
      (d.activeIn claim.monitoring_source_id claim.source_instance_generation = true →
        ¬ Unshown claim items t d.metric_definition_id) := by
  obtain ⟨d₀, hd₀, rfl⟩ := mem_updateWhere.1 hd
  split_ifs at hactive ⊢ with hsweep
  refine ⟨hd₀, fun hin hnot => hsweep (decide_eq_true ⟨hin, ?_⟩)⟩
  rw [Bool.not_eq_true', ← Bool.not_eq_true, retirable_iff, Classical.not_not]
  exact hnot

/-- A snapshot that is taken is exact. -/
theorem applyDefinitions_exact {result : MetricDefinitionResult}
    (happly : applyDefinitions domain claim result id host_map s = .ok s') (h : Copied s.1) (hok : result.succeeded = true) :
    DefinitionsExact claim result.items s.1 s'.1 := by
  rw [applyDefinitions, if_pos hok] at happly
  obtain ⟨x, hfold, happly⟩ := bind_ok_iff.1 happly
  rw [← Except.ok.inj happly]
  obtain ⟨hactive, hkept, hunshown⟩ := snapshot_fold h hfold
  have hcopied : Copied x.1 := h.fold hfold
  -- a definition that is bound to an item is passed over
  have hshown : ∀ b ∈ x.1.bindings, ∀ item ∈ result.items, b.key = claim.itemKey item.itemid →
      ¬ Unshown claim result.items x.1 b.metric_definition_id := fun b hb item hitem hkey hnot => hnot b hb rfl item hitem hkey
  refine ⟨hcopied.definitions fun _ => ⟨rfl, rfl⟩, fun itemid => ⟨?_, fun hmem => ?_⟩, fun d hd hin => ?_, hkept,
    fun d hd hnot => ?_, fun d hd b hb hid hitem => ?_⟩
  · rintro ⟨b, hb, hkey, d, hd, hid, hst⟩
    obtain ⟨hd', hbound⟩ := sweep_active hd hst
    have hplace := hcopied.place d hd' b hb hid.symm
    simp only [MetricDefinition.place, ItemBinding.place, Prod.mk.injEq] at hplace
    simp only [ItemBinding.key, MetricDefinitionClaim.itemKey, Prod.mk.injEq] at hkey
    have hin : d.activeIn claim.monitoring_source_id claim.source_instance_generation = true :=
      decide_eq_true ⟨hplace.1.trans hkey.1, hplace.2.1.trans hkey.2.1, hst⟩
    have hsome := hbound hin
    simp only [Unshown, not_forall, Classical.not_not, exists_prop] at hsome
    obtain ⟨b', hb', hid', item, hitem, hkey'⟩ := hsome
    obtain rfl := eq_of_key hcopied.ids hb' hb (hid'.trans hid)
    simp only [ItemBinding.key, MetricDefinitionClaim.itemKey, Prod.mk.injEq] at hkey'
    exact List.mem_map.2 ⟨item, hitem, hkey'.2.2.symm.trans hkey.2.2⟩
  · obtain ⟨item, hitem, rfl⟩ := List.mem_map.1 hmem
    obtain ⟨b, hb, hkey, d, hd, hid, hst⟩ := hactive item hitem
    exact ⟨b, hb, hkey, d, sweep_shown hd (hid ▸ hshown b hb item hitem hkey), hid, hst⟩
  · obtain ⟨-, hbound⟩ := sweep_active hd (of_decide_eq_true hin).2.2
    have hsome := hbound hin
    simp only [Unshown, not_forall, Classical.not_not, exists_prop] at hsome
    exact hsome
  · obtain ⟨hd', hnot'⟩ := hunshown d hd hnot
    exact sweep_unshown hd' hnot'
  · obtain ⟨item, hitem, hkey⟩ := hitem
    obtain ⟨b₁, hb₁, hkey₁, d₁, hd₁, hid₁, hst⟩ := hactive item hitem
    obtain ⟨b', hb', hkey', hid'⟩ := hkept b hb
    obtain rfl := eq_of_key hcopied.keys hb' hb₁ ((hkey'.trans hkey).trans hkey₁.symm)
    exact ⟨d₁, sweep_shown hd₁ (hid₁ ▸ hshown b' hb' item hitem hkey₁), hid₁.trans (hid'.trans hid), hst⟩

end Snapshot

/-! ### Every run -/

namespace Sync

/-- What a snapshot that is rejected leaves: only the active definitions of the generation say that their evidence is
incomplete. -/
structure OnlyDegraded (claim : MetricDefinitionClaim) (t t' : MetricTables) : Prop where
  bindings : t'.bindings = t.bindings
  evidence : t'.evidence = t.evidence
  definitions : t'.definitions = t.definitions.map fun d =>
    if d.activeIn claim.monitoring_source_id claim.source_instance_generation then
      { d with definition_evidence_state := .incomplete }
    else d

/-- **Key result**: a snapshot with present hosts makes its items the active definitions; one with another host inserts,
retires and revives nothing, and degrades the evidence of the active definitions. -/
theorem definitions_exact (domain : Domain) (bridge : BridgeVersion) (run : List Action) {a : Action}
    {claim : MetricDefinitionClaim} {result : MetricDefinitionResult} {id : String}
    (h : (System.exec domain bridge run).Commits domain a (.definitions claim) (.definitions result id))
    (hok : result.succeeded = true) :
    let db := (System.exec domain bridge run).db
    let db' := ((System.exec domain bridge run).step domain a).db
    (db.inventory.hostsPresent claim result.items = true → DefinitionsExact claim result.items db.metrics db'.metrics) ∧
    (db.inventory.hostsPresent claim result.items = false → OnlyDegraded claim db.metrics db'.metrics) := by
  intro db db'
  obtain ⟨now, n, rfl, -, hc⟩ := commits_iff.1 h
  obtain ⟨-, -, -, x, happly, heq⟩ := complete_metric_definitions_ok hc
  have hmetrics : db'.metrics = x.1 := congrArg SyncDb.metrics heq
  rw [hmetrics]
  refine ⟨fun hpresent => ?_, fun habsent => ?_⟩
  · have heffective : effective claim result db.inventory = result := if_neg fun hno => by simp [hpresent] at hno
    rw [heffective] at happly
    have hexact := applyDefinitions_exact happly ((copied_exec domain bridge run).of_tables rfl rfl) hok
    exact ⟨hexact.copied, hexact.active, hexact.bound, hexact.kept, hexact.retired, hexact.returned⟩
  · have heffective : effective claim result db.inventory = result.rejected := if_pos (by simp [hok, habsent])
    rw [heffective, applyDefinitions, if_neg (by simp [MetricDefinitionResult.rejected])] at happly
    rw [← Except.ok.inj happly]
    exact ⟨rfl, rfl, rfl⟩

/-- The item of `polledOnce` is polled again. -/
def polledAgain : List Action :=
  polledOnce .float ++ [.enqueueDefinitions 7 "mon-src_0", .claim 8 .definitions "mon-sync_10" "token-3"]

/-- The second poll shows the item as before. -/
theorem polledAgain_exact : ∃ claim, DefinitionsExact claim (sampleSnapshot .float).items
    (System.exec Domain.tested .publicationBridge polledAgain).db.metrics
    ((System.exec Domain.tested .publicationBridge polledAgain).step Domain.tested
      (.complete 9 2 (.definitions (sampleSnapshot .float) "definitions-2"))).db.metrics := by
  have hcommits : ∃ claim, (System.exec Domain.tested .publicationBridge polledAgain).Commits Domain.tested
      (.complete 9 2 (.definitions (sampleSnapshot .float) "definitions-2")) (.definitions claim)
      (.definitions (sampleSnapshot .float) "definitions-2") ∧
      (System.exec Domain.tested .publicationBridge polledAgain).db.inventory.hostsPresent claim
        (sampleSnapshot .float).items = true := ⟨_, rfl, rfl⟩
  obtain ⟨claim, hcommits, hpresent⟩ := hcommits
  exact ⟨claim, (definitions_exact Domain.tested .publicationBridge polledAgain hcommits rfl).1 hpresent⟩

/-- The second poll shows an item of an unknown host: it is rejected, and the active definition is updated all the same. -/
theorem rejected_snapshot_degrades :
    let s := System.exec Domain.tested .publicationBridge polledAgain
    let result : MetricDefinitionResult :=
      { SyncResult.ok _ with snapshot_complete := true, items := [{ sampleItem .float with hostid := "20202" }] }
    let a : Action := .complete 9 2 (.definitions result "definitions-2")
    (∃ claim, s.Commits Domain.tested a (.definitions claim) (.definitions result "definitions-2") ∧
      s.db.inventory.hostsPresent claim result.items = false) ∧
    s.db.metrics.definitions.map (·.definition_evidence_state) = [.current] ∧
    (s.step Domain.tested a).db.metrics.definitions.map (·.definition_evidence_state) = [.incomplete] :=
  ⟨⟨_, rfl, rfl⟩, rfl, rfl⟩

end Sync

end JLMirror.Monitoring
