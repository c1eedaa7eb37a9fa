import JLMirror.Monitoring.ValueKind

/-!
# Items, definitions and the resources of their hosts

A definition snapshot maps the host of an item to its resource, and the resource is written to two rows: the
definition and the binding of the item. The host is written to the binding as well. A later snapshot may
show the item under another host. It then writes the new host, and leaves the resource in both rows.

## The model

* `InventoryTables.resourceOf` is the resource of a host in a source generation.
* `HostsAgree` is the law of a state: for every active definition, the host of its binding has the resource
  that binding and definition hold.
* `keepsHosts` is the condition on a step: a snapshot that is committed as a success shows no bound item
  under a host of another resource.

## What is proved

* `resourceOf_step`: a host keeps its resource.
* `Placed.upsert`: an upsert keeps the law, where its item stays at its resource.
* **Key result** (`hosts_agree_iff`): a run has the law in every state exactly if all its steps meet the
  condition. `movedItem` is a run that breaks it: one item, and then the same item under another host.
-/

namespace JLMirror.Monitoring

open JLMirror.Foundations

/-! ### The resource of a host -/

/-- What a resource is found by, and its id. -/
def ResourceRow.key (r : ResourceRow) : (String × String × String) × String :=
  ((r.monitoring_source_id, r.source_instance_generation, r.provider_external_ref), r.monitoring_resource_id)

/-- The resource of a host in a source generation. -/
def InventoryTables.resourceOf (t : InventoryTables) (source_id generation hostid : String) : Option String :=
  ((t.resources.map ResourceRow.key).find? fun k => k.1 = (source_id, generation, hostid)).map Prod.snd

theorem hostResource_eq (t : InventoryTables) (claim : MetricDefinitionClaim) (hostid : String) :
    t.hostResource claim hostid = t.resourceOf claim.monitoring_source_id claim.source_instance_generation hostid := by
  rw [InventoryTables.hostResource, InventoryTables.resourceOf, List.find?_map, Option.map_map]
  congr 2
  funext r
  simp [ResourceRow.key, ResourceRow.ofGeneration, and_assoc]

/-- Resources are appended, and keep what they are found by. -/
def InventoryTables.Extends (t t' : InventoryTables) : Prop :=
  t.resources.map ResourceRow.key <+: t'.resources.map ResourceRow.key

theorem InventoryTables.Extends.resourceOf {t t' : InventoryTables} (h : t.Extends t') {source_id generation hostid id : String}
    (hid : t.resourceOf source_id generation hostid = some id) : t'.resourceOf source_id generation hostid = some id := by
  obtain ⟨more, hmore⟩ := h
  obtain ⟨k, hk, rfl⟩ := Option.map_eq_some_iff.1 hid
  rw [InventoryTables.resourceOf, ← hmore, List.find?_append, hk, Option.some_or, Option.map_some]

theorem keys_updateWhere {p : ResourceRow → Bool} {f : ResourceRow → ResourceRow} (rows : List ResourceRow)
    (hf : ∀ r, (f r).key = r.key) : rows.map ResourceRow.key <+: (updateWhere p f rows).map ResourceRow.key := by
  rw [map_updateWhere hf]

/-- The resource of a host is found or appended. -/
theorem upsertResource_extends {claim : HostInventoryClaim} {host : ZabbixHost} {resources : List ResourceRow}
    {nextId : ℕ} {x : String × List ResourceRow} (h : upsertResource claim host resources nextId = .ok x) :
    resources.map ResourceRow.key <+: x.2.map ResourceRow.key := by
  unfold upsertResource at h
  split at h
  · rw [← Except.ok.inj h]
    exact keys_updateWhere resources fun _ => rfl
  · obtain ⟨rows, hins, h⟩ := bind_ok_iff.1 h
    obtain ⟨-, rfl⟩ := insertUnless_ok_iff.1 hins
    rw [← Except.ok.inj h, List.map_append]
    exact List.prefix_append _ _

theorem applyInventory_extends {claim : HostInventoryClaim} {result : HostInventoryResult} {id : String}
    {s s' : InventoryTables × ℕ} (h : applyInventory claim result id s = .ok s') : s.1.Extends s'.1 := by
  unfold applyInventory at h
  split_ifs at h
  · obtain ⟨x, hfold, h⟩ := bind_ok_iff.1 h
    have hhosts : s.1.Extends x.1 :=
      foldlM_invariant (P := fun y : InventoryTables × ℕ => s.1.Extends y.1)
        (fun y host y' hy hround => by
          obtain ⟨z, hupsert, hround⟩ := bind_ok_iff.1 hround
          obtain ⟨evidence, -, hround⟩ := bind_ok_iff.1 hround
          rw [← Except.ok.inj hround]
          exact hy.trans (upsertResource_extends hupsert)) (List.prefix_refl _) hfold
    rw [← Except.ok.inj h]
    exact List.IsPrefix.trans hhosts (keys_updateWhere _ fun _ => rfl)
  · rw [← Except.ok.inj h]
    exact keys_updateWhere _ fun _ => rfl

theorem Sync.resourceOf_step {domain : Domain} (s : Sync.System) (a : Sync.Action) :
    s.db.inventory.Extends (s.step domain a).db.inventory := by
  rcases Sync.step_inventory domain s a with heq | ⟨now, n, c, result, id, -, -, hc⟩
  · rw [heq]
    exact List.prefix_refl _
  · obtain ⟨-, -, -, x, happly, heq⟩ := complete_host_inventory_ok hc
    rw [heq]
    exact applyInventory_extends happly

/-! ### The law -/

/-- The host of every active definition's binding has the resource that both rows hold. -/
def HostsAgree (inventory : InventoryTables) (t : MetricTables) : Prop :=
  ∀ d ∈ t.definitions, d.definition_state = .active → ∀ b ∈ t.bindings, b.metric_definition_id = d.metric_definition_id →
    inventory.resourceOf b.monitoring_source_id b.source_instance_generation b.provider_host_ref =
      some b.monitoring_resource_id ∧ d.monitoring_resource_id = b.monitoring_resource_id

/-- The unique key of a binding beside its definition. -/
def ItemBinding.key (b : ItemBinding) : String × String × String :=
  (b.monitoring_source_id, b.source_instance_generation, b.provider_external_ref)

/-- The columns that a definition and its binding share. -/
def MetricDefinition.place (d : MetricDefinition) : String × String × String :=
  (d.monitoring_source_id, d.source_instance_generation, d.monitoring_resource_id)

def ItemBinding.place (b : ItemBinding) : String × String × String :=
  (b.monitoring_source_id, b.source_instance_generation, b.monitoring_resource_id)

/-- The keys are unique, and each binding has its definition, at the same place. -/
structure Copied (t : MetricTables) : Prop where
  definition_ids : (t.definitions.map MetricDefinition.metric_definition_id).Nodup
  ids : (t.bindings.map ItemBinding.metric_definition_id).Nodup
  keys : (t.bindings.map ItemBinding.key).Nodup
  defined : ∀ b ∈ t.bindings, ∃ d ∈ t.definitions, d.metric_definition_id = b.metric_definition_id
  place : ∀ d ∈ t.definitions, ∀ b ∈ t.bindings, b.metric_definition_id = d.metric_definition_id → d.place = b.place

theorem Copied.resource {t : MetricTables} (h : Copied t) {d : MetricDefinition} (hd : d ∈ t.definitions) {b : ItemBinding}
    (hb : b ∈ t.bindings) (hid : b.metric_definition_id = d.metric_definition_id) :
    d.monitoring_resource_id = b.monitoring_resource_id :=
  congrArg (fun x => x.2.2) (h.place d hd b hb hid)

/-- The host of a binding has the resource of the binding. -/
def Hosted (inventory : InventoryTables) (b : ItemBinding) : Prop :=
  inventory.resourceOf b.monitoring_source_id b.source_instance_generation b.provider_host_ref =
    some b.monitoring_resource_id

/-- The item has no binding, or is under a host of the resource of its binding. -/
def staysAt (inventory : InventoryTables) (claim : MetricDefinitionClaim) (t : MetricTables) (item : MetricItem) : Bool :=
  (t.bindingOf claim.monitoring_source_id claim.source_instance_generation item.itemid).all fun b =>
    inventory.hostResource claim item.hostid = some b.monitoring_resource_id

theorem Copied.agree {inventory : InventoryTables} {t : MetricTables} (h : Copied t)
    (hhosted : ∀ b ∈ t.bindings, Hosted inventory b) : HostsAgree inventory t :=
  fun _ hd _ b hb hid => ⟨hhosted b hb, h.resource hd hb hid⟩

/-! ### An upsert -/

variable {domain : Domain}

section Upsert

variable {claim : MetricDefinitionClaim} {item : MetricItem} {resource_id : String} {t t' : MetricTables} {nextId : ℕ}
  {definition_id : String}

theorem bindingOf_mem {source_id generation itemid : String} {b : ItemBinding}
    (h : t.bindingOf source_id generation itemid = some b) :
    b ∈ t.bindings ∧ b.monitoring_source_id = source_id ∧ b.source_instance_generation = generation ∧
      b.provider_external_ref = itemid :=
  ⟨List.mem_of_find?_eq_some h, by simpa using List.find?_some h⟩

theorem Copied.upsert (h : Copied t) (hup : upsertItem domain claim item resource_id t nextId = .ok (definition_id, t')) :
    Copied t' := by
  rcases upsertItem_ok hup with ⟨b, -, -, rfl⟩ | ⟨hnone, hnewd, hnewb, rfl⟩
  · refine ⟨?_, ?_, ?_, fun b' hb' => ?_, fun d' hd' b' hb' hid => ?_⟩
    · exact (map_updateWhere (k := MetricDefinition.metric_definition_id) (f := confirmedDefinition claim item _)
        (fun _ => rfl) t.definitions).symm ▸ h.definition_ids
    · exact (map_updateWhere (k := ItemBinding.metric_definition_id) (f := confirmedBinding item _) (fun _ => rfl)
        t.bindings).symm ▸ h.ids
    · exact (map_updateWhere (k := ItemBinding.key) (f := confirmedBinding item _) (fun _ => rfl) t.bindings).symm ▸ h.keys
    · obtain ⟨b₀, hb₀, rfl⟩ := mem_updateWhere.1 hb'
      obtain ⟨d, hd, hid⟩ := h.defined b₀ hb₀
      refine ⟨_, mem_updateWhere.2 ⟨d, hd, rfl⟩, ?_⟩
      split_ifs <;> exact hid
    · obtain ⟨d, hd, rfl⟩ := mem_updateWhere.1 hd'
      obtain ⟨b₀, hb₀, rfl⟩ := mem_updateWhere.1 hb'
      have hid : b₀.metric_definition_id = d.metric_definition_id := by
        split_ifs at hid <;> exact hid
      have hplace := h.place d hd b₀ hb₀ hid
      split_ifs <;> exact hplace
  · refine ⟨nodup_map_append_new h.definition_ids hnewd, nodup_map_append_new h.ids hnewb,
      nodup_map_append_new h.keys fun b hb hkey => ?_, fun b hb => ?_, fun d hd b hb hid => ?_⟩
    · have hother := List.find?_eq_none.1 hnone b hb
      simp only [ItemBinding.key, newBinding, Prod.mk.injEq] at hkey
      exact hother (decide_eq_true hkey)
    · rcases List.mem_append.1 hb with hb | hb
      · obtain ⟨d, hd, hid⟩ := h.defined b hb
        exact ⟨d, List.mem_append_left _ hd, hid⟩
      · obtain rfl := List.mem_singleton.1 hb
        exact ⟨_, List.mem_append_right _ (List.mem_singleton_self _), rfl⟩
    · rcases List.mem_append.1 hd with hd | hd <;> rcases List.mem_append.1 hb with hb | hb
      · exact h.place d hd b hb hid
      · obtain rfl := List.mem_singleton.1 hb
        exact absurd hid.symm (hnewd d hd)
      · obtain rfl := List.mem_singleton.1 hd
        exact absurd hid (hnewb b hb)
      · obtain rfl := List.mem_singleton.1 hd
        obtain rfl := List.mem_singleton.1 hb
        rfl

/-- The binding of another item stays. -/
theorem Copied.bindingOf_upsert (h : Copied t)
    (hup : upsertItem domain claim item resource_id t nextId = .ok (definition_id, t')) {itemid : String}
    (hne : itemid ≠ item.itemid) :
    t'.bindingOf claim.monitoring_source_id claim.source_instance_generation itemid =
      t.bindingOf claim.monitoring_source_id claim.source_instance_generation itemid := by
  rcases upsertItem_ok hup with ⟨b, hb, -, rfl⟩ | ⟨-, -, -, rfl⟩
  · rw [MetricTables.bindingOf, find?_updateWhere (f := confirmedBinding item _) fun _ _ => rfl]
    refine (Option.map_congr fun b₀ hb₀ => ?_).trans Option.map_id'
    have hother : b₀.metric_definition_id ≠ b.metric_definition_id := by
      intro heq
      obtain rfl := eq_of_key h.ids (bindingOf_mem hb₀).1 (bindingOf_mem hb).1 heq
      exact hne ((bindingOf_mem hb₀).2.2.2.symm.trans (bindingOf_mem hb).2.2.2)
    simp [hother]
  · rw [MetricTables.bindingOf, List.find?_append, List.find?_cons_of_neg, List.find?_nil, Option.or_none]
    · rfl
    · simpa [newBinding] using Ne.symm hne

/-- An upsert keeps the hosts of the bindings at their resources, where its item stays at its resource. -/
theorem hosted_upsert {inventory : InventoryTables} (h : ∀ b ∈ t.bindings, Hosted inventory b)
    (hids : (t.bindings.map ItemBinding.metric_definition_id).Nodup)
    (hhost : inventory.hostResource claim item.hostid = some resource_id) (hstays : staysAt inventory claim t item = true)
    (hup : upsertItem domain claim item resource_id t nextId = .ok (definition_id, t')) :
    ∀ b ∈ t'.bindings, Hosted inventory b := by
  rcases upsertItem_ok hup with ⟨b, hb, -, rfl⟩ | ⟨-, -, -, rfl⟩
  · intro b' hb'
    obtain ⟨b₀, hb₀, rfl⟩ := mem_updateWhere.1 hb'
    split_ifs with hid
    · obtain rfl := eq_of_key hids hb₀ (bindingOf_mem hb).1 (of_decide_eq_true hid)
      obtain ⟨-, hsource, hgeneration, -⟩ := bindingOf_mem hb
      have hresource : inventory.hostResource claim item.hostid = some b₀.monitoring_resource_id := by
        simpa [staysAt, hb] using hstays
      rw [hostResource_eq, ← hsource, ← hgeneration] at hresource
      exact hresource
    · exact h b₀ hb₀
  · intro b hb
    rcases List.mem_append.1 hb with hb | hb
    · exact h b hb
    · obtain rfl := List.mem_singleton.1 hb
      rw [hostResource_eq] at hhost
      exact hhost

/-- The item has a binding, under its host and at a resource, of an active definition. -/
def Shown (claim : MetricDefinitionClaim) (item : MetricItem) (resource_id : String) (t : MetricTables) : Prop :=
  ∃ b, t.bindingOf claim.monitoring_source_id claim.source_instance_generation item.itemid = some b ∧
    b.provider_host_ref = item.hostid ∧ b.monitoring_resource_id = resource_id ∧
    ∃ d ∈ t.definitions, d.metric_definition_id = b.metric_definition_id ∧ d.definition_state = .active

/-- An upsert shows a bound item under its host, at the resource of its binding. -/
theorem shown_upsert (h : Copied t) {b : ItemBinding}
    (hb : t.bindingOf claim.monitoring_source_id claim.source_instance_generation item.itemid = some b)
    (hup : upsertItem domain claim item resource_id t nextId = .ok (definition_id, t')) :
    Shown claim item b.monitoring_resource_id t' := by
  rcases upsertItem_ok hup with ⟨b', hb', -, rfl⟩ | ⟨hnone, -⟩
  · obtain rfl : b = b' := Option.some.inj (hb.symm.trans hb')
    obtain ⟨d, hd, hid⟩ := h.defined b (bindingOf_mem hb).1
    refine ⟨confirmedBinding item (driftState b.native_value_type item.native_value_type) b, ?_, rfl, rfl, _,
      mem_updateWhere.2 ⟨d, hd, rfl⟩, ?_⟩
    · rw [MetricTables.bindingOf, find?_updateWhere (f := confirmedBinding item _) fun _ _ => rfl]
      rw [show t.bindings.find? _ = some b from hb, Option.map_some, if_pos (by simp)]
    · rw [if_pos (by simpa using hid)]
      exact ⟨hid, rfl⟩
  · cases hb.symm.trans hnone

/-- The upsert of another item leaves it so. -/
theorem Shown.upsert {item' : MetricItem} {r : String} (hs : Shown claim item' r t) (h : Copied t)
    (hne : item'.itemid ≠ item.itemid)
    (hup : upsertItem domain claim item resource_id t nextId = .ok (definition_id, t')) : Shown claim item' r t' := by
  obtain ⟨b, hb, hhost, hresource, d, hd, hid, hactive⟩ := hs
  refine ⟨b, (h.bindingOf_upsert hup hne).trans hb, hhost, hresource, ?_⟩
  rcases upsertItem_ok hup with ⟨b', -, -, rfl⟩ | ⟨-, -, -, rfl⟩
  · refine ⟨_, mem_updateWhere.2 ⟨d, hd, rfl⟩, ?_⟩
    split_ifs
    · exact ⟨hid, rfl⟩
    · exact ⟨hid, hactive⟩
  · exact ⟨d, List.mem_append_left _ hd, hid, hactive⟩

end Upsert

/-! ### A snapshot -/

section Snapshot

variable {claim : MetricDefinitionClaim} {id : String} {inventory : InventoryTables} {items : List MetricItem}
  {s s' : MetricTables × ℕ}

variable {host_map : String → Option String}

theorem persistItem_upsert {item : MetricItem} (h : persistItem domain claim id host_map s item = .ok s') :
    ∃ resource_id definition_id t, host_map item.hostid = some resource_id ∧
      upsertItem domain claim item resource_id s.1 s.2 = .ok (definition_id, t) ∧
      s'.1.definitions = t.definitions ∧ s'.1.bindings = t.bindings := by
  obtain ⟨resource_id, definition_id, t, hhost, hup, -, rfl⟩ := persistItem_ok h
  exact ⟨resource_id, definition_id, t, hhost, hup, rfl, rfl⟩

/-- Definitions and bindings are all that the law reads. -/
theorem Copied.of_tables {t u : MetricTables} (h : Copied t) (hd : u.definitions = t.definitions)
    (hb : u.bindings = t.bindings) : Copied u := by
  constructor
  · exact hd ▸ h.definition_ids
  · exact hb ▸ h.ids
  · exact hb ▸ h.keys
  · rw [hd, hb]
    exact h.defined
  · rw [hd, hb]
    exact h.place

theorem Shown.of_tables {t u : MetricTables} {item : MetricItem} {r : String} (h : Shown claim item r t)
    (hd : u.definitions = t.definitions) (hb : u.bindings = t.bindings) : Shown claim item r u := by
  rw [Shown, MetricTables.bindingOf, hb, hd]
  exact h

theorem Copied.fold (h : Copied s.1) (hfold : items.foldlM (persistItem domain claim id host_map) s = .ok s') :
    Copied s'.1 :=
  foldlM_invariant (P := fun x => Copied x.1) (fun _ _ _ hx hround => by
    obtain ⟨_, _, t, -, hup, hd, hb⟩ := persistItem_upsert hround
    exact (hx.upsert hup).of_tables hd hb) h hfold

/-- The loop keeps the hosts at their resources, where its items stay at theirs. -/
theorem hosted_fold (h : Copied s.1) (hhosted : ∀ b ∈ s.1.bindings, Hosted inventory b)
    (hstays : ∀ item ∈ items, staysAt inventory claim s.1 item = true)
    (hfold : items.foldlM (persistItem domain claim id (inventory.hostResource claim)) s = .ok s') :
    ∀ b ∈ s'.1.bindings, Hosted inventory b := by
  induction items generalizing s with
  | nil => exact foldlM_nil_ok.1 hfold ▸ hhosted
  | cons item items ih =>
    have hnd := (persistItem_fold_nodup hfold).1
    obtain ⟨s₁, hround, hrest⟩ := foldlM_cons_ok.1 hfold
    obtain ⟨_, _, t, hhost, hup, hd, hb⟩ := persistItem_upsert hround
    refine ih ((h.upsert hup).of_tables hd hb) ?_ (fun item' hitem' => ?_) hrest
    · rw [hb]
      exact hosted_upsert hhosted h.ids hhost (hstays item List.mem_cons_self) hup
    · have hne : item'.itemid ≠ item.itemid := fun heq =>
        (List.nodup_cons.1 hnd).1 (heq ▸ List.mem_map_of_mem hitem')
      rw [staysAt, MetricTables.bindingOf, hb]
      exact (congrArg (Option.all _) (h.bindingOf_upsert hup hne)).trans (hstays item' (List.mem_cons_of_mem _ hitem'))

/-- The loop leaves what is shown and not in it. -/
theorem Shown.fold {item : MetricItem} {r : String} (hs : Shown claim item r s.1) (h : Copied s.1)
    (hnot : ∀ item' ∈ items, item'.itemid ≠ item.itemid)
    (hfold : items.foldlM (persistItem domain claim id host_map) s = .ok s') : Shown claim item r s'.1 := by
  induction items generalizing s with
  | nil => exact foldlM_nil_ok.1 hfold ▸ hs
  | cons item' items ih =>
    obtain ⟨s₁, hround, hrest⟩ := foldlM_cons_ok.1 hfold
    obtain ⟨_, _, t, -, hup, hd, hb⟩ := persistItem_upsert hround
    exact ih ((hs.upsert h (Ne.symm (hnot item' List.mem_cons_self)) hup).of_tables hd hb)
      ((h.upsert hup).of_tables hd hb) (fun i hi => hnot i (List.mem_cons_of_mem _ hi)) hrest

/-- Each bound item of the loop is shown after it. -/
theorem shown_fold (h : Copied s.1) (hfold : items.foldlM (persistItem domain claim id host_map) s = .ok s')
    {item : MetricItem} (hitem : item ∈ items) {b : ItemBinding}
    (hb : s.1.bindingOf claim.monitoring_source_id claim.source_instance_generation item.itemid = some b) :
    Shown claim item b.monitoring_resource_id s'.1 := by
  induction items generalizing s with
  | nil => exact absurd hitem List.not_mem_nil
  | cons item' items ih =>
    have hnd := List.nodup_cons.1 (persistItem_fold_nodup hfold).1
    obtain ⟨s₁, hround, hrest⟩ := foldlM_cons_ok.1 hfold
    obtain ⟨_, _, t, -, hup, hdefs, hbinds⟩ := persistItem_upsert hround
    have hcopied := (h.upsert hup).of_tables hdefs hbinds
    rcases List.mem_cons.1 hitem with rfl | hitem
    · have hnot : ∀ i ∈ items, i.itemid ≠ item.itemid := fun i hi heq => hnd.1 (heq ▸ List.mem_map_of_mem hi)
      exact ((shown_upsert h hb hup).of_tables hdefs hbinds).fold hcopied hnot hrest
    · have hne : item.itemid ≠ item'.itemid := fun heq => hnd.1 (heq ▸ List.mem_map_of_mem hitem)
      refine ih hcopied hrest hitem ?_
      rw [MetricTables.bindingOf, hbinds]
      exact (h.bindingOf_upsert hup hne).trans hb

/-- Definitions that keep their ids and places keep the copies. -/
theorem Copied.definitions {t : MetricTables} (h : Copied t) {p : MetricDefinition → Bool}
    {f : MetricDefinition → MetricDefinition}
    (hf : ∀ d, (f d).metric_definition_id = d.metric_definition_id ∧ (f d).place = d.place) :
    Copied { t with definitions := updateWhere p f t.definitions } := by
  have hkeep : ∀ d, (if p d = true then f d else d).metric_definition_id = d.metric_definition_id ∧
      (if p d = true then f d else d).place = d.place := by
    intro d
    split_ifs
    · exact hf d
    · exact ⟨rfl, rfl⟩
  refine ⟨?_, h.ids, h.keys, fun b hb => ?_, fun d' hd' b hb hid => ?_⟩
  · exact (map_updateWhere (k := MetricDefinition.metric_definition_id) (f := f) (fun d => (hf d).1) t.definitions).symm ▸
      h.definition_ids
  · obtain ⟨d, hd, hid⟩ := h.defined b hb
    exact ⟨_, mem_updateWhere.2 ⟨d, hd, rfl⟩, (hkeep d).1.trans hid⟩
  · obtain ⟨d, hd, rfl⟩ := mem_updateWhere.1 hd'
    rw [(hkeep d).2]
    exact h.place d hd b hb (hid.trans (hkeep d).1)

variable {result : MetricDefinitionResult}

/-- What a completion does to the definitions keeps the copies, and the hosts where its items stay. -/
theorem applyDefinitions_keeps (h : applyDefinitions domain claim result id (inventory.hostResource claim) s = .ok s')
    (hs : Copied s.1) :
    Copied s'.1 ∧ ((∀ b ∈ s.1.bindings, Hosted inventory b) →
      (result.succeeded = true → ∀ item ∈ result.items, staysAt inventory claim s.1 item = true) →
        ∀ b ∈ s'.1.bindings, Hosted inventory b) := by
  unfold applyDefinitions at h
  split_ifs at h with hok
  · obtain ⟨x, hfold, h⟩ := bind_ok_iff.1 h
    rw [← Except.ok.inj h]
    refine ⟨(hs.fold hfold).definitions fun _ => ⟨rfl, rfl⟩, fun hhosted hstays => ?_⟩
    have hafter : ∀ b ∈ x.1.bindings, Hosted inventory b := hosted_fold hs hhosted (hstays hok) hfold
    exact hafter
  · rw [← Except.ok.inj h]
    exact ⟨hs.definitions fun _ => ⟨rfl, rfl⟩, fun hhosted _ => hhosted⟩

/-- A successful completion shows its bound items. -/
theorem applyDefinitions_shown (h : applyDefinitions domain claim result id host_map s = .ok s') (hs : Copied s.1)
    (hok : result.succeeded = true) {item : MetricItem} (hitem : item ∈ result.items) {b : ItemBinding}
    (hb : s.1.bindingOf claim.monitoring_source_id claim.source_instance_generation item.itemid = some b) :
    Shown claim item b.monitoring_resource_id s'.1 := by
  rw [applyDefinitions, if_pos hok] at h
  obtain ⟨x, hfold, h⟩ := bind_ok_iff.1 h
  rw [← Except.ok.inj h]
  obtain ⟨b', hb', hhost, hresource, d, hd, hid, hactive⟩ := shown_fold hs hfold hitem hb
  obtain ⟨hmem, hsource, hgeneration, href⟩ := bindingOf_mem hb'
  refine ⟨b', hb', hhost, hresource, _, mem_updateWhere.2 ⟨d, hd, rfl⟩, ?_⟩
  -- The sweep passes over the definition: its binding is one of those that were seen.
  have hseen : x.1.bindings.any (fun b =>
      b.metric_definition_id = d.metric_definition_id ∧ b.monitoring_source_id = claim.monitoring_source_id ∧
        b.source_instance_generation = claim.source_instance_generation ∧
        (result.items.map MetricItem.itemid).contains b.provider_external_ref) = true := by
    refine List.any_eq_true.2 ⟨b', hmem, decide_eq_true ⟨hid.symm, hsource, hgeneration, ?_⟩⟩
    rw [href, List.contains_eq_mem]
    exact decide_eq_true (List.mem_map_of_mem hitem)
  rw [if_neg (by
    simp only [hseen, Bool.not_true, Bool.false_eq_true, and_false, decide_false, not_false_eq_true])]
  exact ⟨hid, hactive⟩

end Snapshot

/-! ### Every run -/

namespace Sync

/-- The action commits the success of a definition snapshot. -/
def SnapshotTaken (domain : Domain) (s : System) (a : Action) (claim : MetricDefinitionClaim)
    (result : MetricDefinitionResult) : Prop :=
  (∃ id, s.Commits domain a (.definitions claim) (.definitions result id)) ∧
    (effective claim result s.db.inventory).succeeded = true

/-- The condition on a step: no bound item is shown under a host of another resource. -/
def keepsHosts (domain : Domain) (s : System) (a : Action) : Prop :=
  ∀ claim result, SnapshotTaken domain s a claim result →
    ∀ item ∈ result.items, staysAt s.db.inventory claim s.db.metrics item = true

/-- What a step does to the copies, and to the hosts where it meets the condition. -/
theorem hosts_step {s : System} {a : Action} (h : Copied s.db.metrics) :
    Copied (s.step domain a).db.metrics ∧
      ((∀ b ∈ s.db.metrics.bindings, Hosted s.db.inventory b) → keepsHosts domain s a →
        ∀ b ∈ (s.step domain a).db.metrics.bindings, Hosted (s.step domain a).db.inventory b) := by
  have hext : s.db.inventory.Extends (s.step domain a).db.inventory := resourceOf_step s a
  rcases step_metrics domain s a with heq | ⟨now, n, c, result, id, rfl, hn, hc⟩
  · rw [heq]
    exact ⟨h, fun hhosted _ b hb => hext.resourceOf (hhosted b hb)⟩
  · obtain ⟨-, -, -, x, happly, heq⟩ := complete_metric_definitions_ok hc
    obtain ⟨hcopied, hkeep⟩ := applyDefinitions_keeps happly (h.of_tables rfl rfl)
    rw [heq]
    refine ⟨hcopied, fun hhosted hok => hkeep hhosted fun hs item hitem => ?_⟩
    rw [effective_items] at hitem
    exact hok c result ⟨⟨id, commits_iff.2 ⟨now, n, rfl, hn, hc⟩⟩, hs⟩ item hitem

/-- A step that breaks the condition breaks the law. -/
theorem keepsHosts_of_agree {s : System} {a : Action} (h : Copied s.db.metrics)
    (hagree : HostsAgree (s.step domain a).db.inventory (s.step domain a).db.metrics) : keepsHosts domain s a := by
  rintro claim result ⟨⟨id, hcommits⟩, hs⟩ item hitem
  obtain ⟨now, n, rfl, hn, hc⟩ := commits_iff.1 hcommits
  obtain ⟨-, -, -, x, happly, heq⟩ := complete_metric_definitions_ok hc
  rw [heq] at hagree
  rw [staysAt, Option.all_eq_true]
  intro b hb
  rw [← effective_items claim result s.db.inventory] at hitem
  obtain ⟨b', hb', hhost, hresource, d, hd, hid, hactive⟩ :=
    applyDefinitions_shown happly (h.of_tables rfl rfl) hs hitem hb
  obtain ⟨hmem, hsource, hgeneration, -⟩ := bindingOf_mem hb'
  have hresource' := (hagree d hd hactive b' hmem hid.symm).1
  rw [hsource, hgeneration, hhost, hresource] at hresource'
  rw [hostResource_eq]
  exact decide_eq_true hresource'

/-- Every state of the run has the law. -/
def HostsLaw (domain : Domain) (bridge : BridgeVersion) (run : List Action) : Prop :=
  ∀ pre post, run = pre ++ post →
    HostsAgree (System.exec domain bridge pre).db.inventory (System.exec domain bridge pre).db.metrics

theorem copied_exec (domain : Domain) (bridge : BridgeVersion) (run : List Action) :
    Copied (System.exec domain bridge run).db.metrics := by
  induction run using List.reverseRecOn with
  | nil =>
    exact ⟨List.nodup_nil, List.nodup_nil, List.nodup_nil, by simp [System.exec, System.empty, SyncDb.empty],
      by simp [System.exec, System.empty, SyncDb.empty]⟩
  | append_singleton run a ih =>
    rw [System.exec, List.foldl_append]
    exact (hosts_step ih).1

/-- **Key result**: a run has the law in every state exactly if its steps show no bound item under a host of
another resource. -/
theorem hosts_agree_iff (domain : Domain) (bridge : BridgeVersion) (run : List Action) :
    HostsLaw domain bridge run ↔ Guarded (System.step domain) (keepsHosts domain) (.empty bridge) run := by
  constructor
  · intro h
    rw [guarded_iff]
    rintro pre a post rfl
    have hagree := h (pre ++ [a]) post (by simp)
    rw [System.exec, List.foldl_append] at hagree
    exact keepsHosts_of_agree (copied_exec domain bridge pre) hagree
  · rintro hrun pre post rfl
    have hinv := (guarded_append.1 hrun).1.invariant
      (I := fun s => Copied s.db.metrics ∧ ∀ b ∈ s.db.metrics.bindings, Hosted s.db.inventory b)
      (fun s a hs hok => ⟨(hosts_step hs.1).1, (hosts_step hs.1).2 hs.2 hok⟩)
      ⟨copied_exec domain bridge [], by simp [System.empty, SyncDb.empty]⟩
    exact hinv.1.agree hinv.2

/-! ### Runs -/

/-- A complete snapshot that shows the item under a host. -/
def snapshotUnder (hostid : String) : MetricDefinitionResult :=
  { SyncResult.ok _ with snapshot_complete := true, items := [{ sampleItem .float with hostid := hostid }] }

/-- A source with two hosts, whose item is first under the one and then under the other. -/
def movedItem : List Action :=
  [.createSource 0 "zabbix" "https://zabbix" "cred", .enqueue 1 .host_inventory_sync "mon-src_0",
    .claim 2 .inventory "mon-sync_4" "token-1",
    .complete 3 0 (.inventory
      { SyncResult.ok _ with snapshot_complete := true, hosts := [⟨"10101"⟩, ⟨"10102"⟩] } "inventory-1"),
    .enqueueDefinitions 4 "mon-src_0", .claim 5 .definitions "mon-sync_9" "token-2",
    .complete 6 1 (.definitions (snapshotUnder "10101") "definitions-1"),
    .enqueueDefinitions 7 "mon-src_0", .claim 8 .definitions "mon-sync_12" "token-3",
    .complete 9 2 (.definitions (snapshotUnder "10102") "definitions-2")]

/-- After `movedItem` the binding names the second host, and the resource of the first. -/
theorem movedItem_disagrees : ¬HostsLaw Domain.tested .publicationBridge movedItem := by
  intro h
  have hresource := (h movedItem [] (by simp) _ List.mem_cons_self rfl _ List.mem_cons_self rfl).1
  revert hresource
  decide

end Sync

end JLMirror.Monitoring
